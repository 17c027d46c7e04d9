import Mathlib.Data.List.Chain
import CyberRT.Data.CacheBuffer

/-! # Fetching from a channel buffer

    A reader keeps the position it will read next, 0 before its first
    fetch. `Fetch` starts at the newest value, goes on one by one, and jumps
    to the newest value when its position was overwritten.

    `Delivered` says what a reader of a growing log may have got: it is
    stated over the log alone, without the ring. -/

namespace CyberRT.Data

/-! ## Section 1: Model -/

namespace CacheBuffer

variable {T : Type}

/-- `ChannelBuffer::Fetch`: the position read and the value there. -/
def fetch (b : CacheBuffer T) (index : Nat) : Option (Nat × T) :=
  if b.empty then none
  else if index = 0 then some (b.tail, b.get b.tail)
  else if index = b.tail + 1 then none
  else if index < b.first then some (b.tail, b.get b.tail)
  else some (index, b.get index)

/-- `ChannelBuffer::Latest`. -/
def latest (b : CacheBuffer T) : Option T := if b.empty then none else some b.back

/-- **Latest**: the last value filled, if there is one. -/
theorem Keeps.latest {size : Nat} {log : List T} {b : CacheBuffer T} (h : Keeps size log b)
    (hsize : 1 ≤ size) : b.latest = log.getLast? := by
  unfold CacheBuffer.latest
  by_cases hnil : log = []
  · rw [if_pos (h.empty_iff.mpr hnil), hnil]
    rfl
  · rw [if_neg (fun hempty => hnil (h.empty_iff.mp hempty)), h.back hsize hnil]

end CacheBuffer

/-! ## Section 2: Reading a log -/

/-- A successful fetch: the position and the value it gave out, and how
    many values had been filled by then. -/
structure Fetched (T : Type) where
  position : Nat
  message  : T
  newest   : Nat

variable {T : Type}

/-- Where a reader that has fetched before goes: to the next position, or
    to the newest one when more than `size` values are unfetched. -/
structure Follows (size : Nat) (f g : Fetched T) : Prop where
  increasing : f.position < g.position
  next       : g.newest ≤ f.position + size → g.position = f.position + 1
  overrun    : f.position + size < g.newest → g.position = g.newest

/-- What a reader of `log` that keeps `size` values behind has got. -/
structure Delivered (size : Nat) (log : List T) (fetched : List (Fetched T)) : Prop where
  message : ∀ f ∈ fetched, 1 ≤ f.position ∧ log[f.position - 1]? = some f.message
  first   : ∀ f ∈ fetched.head?, f.position = f.newest
  later   : fetched.IsChain (Follows size)

/-- The position fetched last, 0 before the first fetch. -/
def lastPosition (fetched : List (Fetched T)) : Nat :=
  (fetched.getLast?.map Fetched.position).getD 0

@[simp] theorem lastPosition_nil : lastPosition ([] : List (Fetched T)) = 0 := rfl

@[simp] theorem lastPosition_concat (fetched : List (Fetched T)) (f : Fetched T) :
    lastPosition (fetched ++ [f]) = f.position := by
  unfold lastPosition
  rw [List.getLast?_concat]
  rfl

/-- No position is fetched twice or out of order. -/
theorem Delivered.increasing {size : Nat} {log : List T} {fetched : List (Fetched T)}
    (h : Delivered size log fetched) : (fetched.map Fetched.position).Pairwise (· < ·) := by
  have hchain : (fetched.map Fetched.position).IsChain (· < ·) := by
    rw [List.isChain_map]
    exact h.later.imp fun _ _ hfollows => hfollows.increasing
  exact hchain.pairwise

theorem Delivered.append {size : Nat} {log : List T} {fetched : List (Fetched T)}
    (h : Delivered size log fetched) (value : T) : Delivered size (log ++ [value]) fetched := by
  refine ⟨?_, h.first, h.later⟩
  intro f hf
  obtain ⟨hpos, hmessage⟩ := h.message f hf
  have hlt : f.position - 1 < log.length := (List.getElem?_eq_some_iff.mp hmessage).1
  refine ⟨hpos, ?_⟩
  rw [List.getElem?_append_left hlt]
  exact hmessage

/-! ## Section 3: A reader of a cache buffer -/

/-- The reader at `index` has got `fetched`. -/
structure Reads (size : Nat) (log : List T) (index : Nat) (fetched : List (Fetched T)) :
    Prop where
  delivered : Delivered size log fetched
  index     : index = if fetched = [] then 0 else lastPosition fetched + 1

theorem reads_nil (size : Nat) (log : List T) : Reads size log 0 [] :=
  ⟨⟨nofun, nofun, .nil⟩, rfl⟩

section reads
variable {size : Nat} {log : List T} {b : CacheBuffer T} {index : Nat}
  {fetched : List (Fetched T)}

theorem Reads.append (h : Reads size log index fetched) (value : T) :
    Reads size (log ++ [value]) index fetched :=
  ⟨h.delivered.append value, h.index⟩

theorem Reads.last_le (h : Reads size log index fetched) : lastPosition fetched ≤ log.length := by
  rcases List.eq_nil_or_concat fetched with rfl | ⟨l, f, rfl⟩
  · exact Nat.zero_le _
  · obtain ⟨hpos, hmessage⟩ := h.delivered.message f (by simp)
    have hlt := (List.getElem?_eq_some_iff.mp hmessage).1
    rw [List.concat_eq_append, lastPosition_concat]
    omega

/-- Nothing is fetched exactly when nothing was filled after what was
    fetched last. -/
theorem Reads.fetch_none_iff (h : Reads size log index fetched)
    (hb : CacheBuffer.Keeps size log b) :
    b.fetch index = none ↔ log.length = lastPosition fetched := by
  have hle := h.last_le
  have hindex := h.index
  unfold CacheBuffer.fetch
  by_cases hnil : log = []
  · -- the empty buffer
    rw [if_pos (hb.empty_iff.mpr hnil)]
    rw [hnil] at hle ⊢
    exact iff_of_true rfl (Nat.le_antisymm (Nat.zero_le _) hle)
  · have hpos : 0 < log.length := List.length_pos_iff.mpr hnil
    rw [if_neg fun hempty => hnil (hb.empty_iff.mp hempty), hb.tail]
    by_cases hfirst : fetched = []
    · subst hfirst
      rw [if_pos rfl] at hindex
      rw [if_pos hindex, lastPosition_nil]
      exact iff_of_false nofun (by omega)
    · rw [if_neg hfirst] at hindex
      rw [if_neg (by omega)]
      split
      · next heq => exact iff_of_true rfl (by omega)
      · next hne =>
        split
        · exact iff_of_false nofun (by omega)
        · exact iff_of_false nofun (by omega)

/-- Which position a successful fetch reads. -/
theorem fetch_position (hb : CacheBuffer.Keeps size log b) {p : Nat} {m : T}
    (hfetch : b.fetch index = some (p, m)) :
    0 < log.length ∧ m = b.get p ∧
      (index = 0 ∧ p = log.length ∨
        index ≠ 0 ∧ index ≠ log.length + 1 ∧
          (index + size ≤ log.length ∧ p = log.length ∨
            log.length < index + size ∧ p = index)) := by
  unfold CacheBuffer.fetch CacheBuffer.first at hfetch
  rw [hb.tail, hb.head] at hfetch
  split at hfetch
  · cases hfetch
  next hempty =>
  have hpos : 0 < log.length :=
    List.length_pos_iff.mpr fun hnil => hempty (hb.empty_iff.mpr hnil)
  split at hfetch
  · next hzero =>
    cases hfetch
    exact ⟨hpos, rfl, Or.inl ⟨hzero, rfl⟩⟩
  split at hfetch
  · cases hfetch
  split at hfetch
  · cases hfetch
    exact ⟨hpos, rfl, Or.inr ⟨by omega, by omega, Or.inl ⟨by omega, rfl⟩⟩⟩
  · cases hfetch
    exact ⟨hpos, rfl, Or.inr ⟨by omega, by omega, Or.inr ⟨by omega, rfl⟩⟩⟩

/-- **Fetch**: a successful fetch goes on as `Delivered` says. -/
theorem Reads.fetch (h : Reads size log index fetched) (hb : CacheBuffer.Keeps size log b)
    (hsize : 1 ≤ size) {p : Nat} {m : T} (hfetch : b.fetch index = some (p, m)) :
    Reads size log (p + 1) (fetched ++ [⟨p, m, log.length⟩]) := by
  have hindex := h.index
  have hle := h.last_le
  obtain ⟨hpos, hm, hcases⟩ := fetch_position hb hfetch
  rcases List.eq_nil_or_concat fetched with hnil | ⟨l, f, hlast⟩
  · -- the first fetch
    rw [if_pos hnil] at hindex
    obtain rfl : p = log.length := by omega
    have hmessage := hb.get (p := log.length) (by unfold CacheBuffer.first; rw [hb.head]; omega)
      (by rw [hb.tail])
    rw [hnil, List.nil_append]
    refine ⟨⟨?_, ?_, .singleton _⟩, rfl⟩
    · intro f hf
      rw [List.mem_singleton.mp hf, hm]
      exact ⟨hpos, hmessage⟩
    · intro f hf
      cases hf
      rfl
  · rw [List.concat_eq_append] at hlast
    subst hlast
    rw [if_neg (by simp), lastPosition_concat] at hindex
    rw [lastPosition_concat] at hle
    have hmessage := hb.get (p := p) (by unfold CacheBuffer.first; rw [hb.head]; omega)
      (by rw [hb.tail]; omega)
    have hone : 1 ≤ p := by omega
    refine ⟨⟨?_, ?_, ?_⟩, ?_⟩
    · intro g hg
      rcases List.mem_append.mp hg with hg | hg
      · exact h.delivered.message g hg
      · rw [List.mem_singleton.mp hg, hm]
        exact ⟨hone, hmessage⟩
    · intro g hg
      rw [List.head?_append_of_ne_nil _ (by simp)] at hg
      exact h.delivered.first g hg
    · refine h.delivered.later.append (.singleton _) ?_
      intro g hg g' hg'
      rw [List.getLast?_concat] at hg
      cases hg
      cases hg'
      refine ⟨?_, ?_, ?_⟩
      · show f.position < p
        omega
      · show log.length ≤ f.position + size → p = f.position + 1
        omega
      · show f.position + size < log.length → p = log.length
        omega
    · rw [if_neg (by simp), lastPosition_concat]

end reads

end CyberRT.Data
