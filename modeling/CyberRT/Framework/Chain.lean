import Mathlib.Data.List.Nodup
import Mathlib.Logic.Function.Basic

/-! # Linked chains

    Nodes that are linked by a `next` function, and the list of the nodes
    that a walk from a given start passes. A chain to the end never visits a
    node twice, and no other chain has its start. -/

namespace CyberRT.Framework

universe u

variable {α : Type u}

/-- `Chain next start l stop`: the walk from `start` along `next` passes the
    nodes of `l` and arrives at `stop`. The end is `none`. -/
def Chain (next : α → Option α) : Option α → List α → Option α → Prop
  | start, [], stop => start = stop
  | start, a :: l, stop => start = some a ∧ Chain next (next a) l stop

namespace Chain

variable {next next' : α → Option α} {start mid stop : Option α} {a b : α} {l m : List α}

@[simp] theorem nil_iff : Chain next start [] stop ↔ start = stop := Iff.rfl

@[simp] theorem cons_iff :
    Chain next start (a :: l) stop ↔ start = some a ∧ Chain next (next a) l stop := Iff.rfl

/-- **Walks compose**. -/
theorem append_iff :
    Chain next start (l ++ m) stop ↔ ∃ mid, Chain next start l mid ∧ Chain next mid m stop := by
  induction l generalizing start with
  | nil => simp
  | cons a l ih => simp [ih, and_assoc]

theorem append (h : Chain next start l mid) (h' : Chain next mid m stop) :
    Chain next start (l ++ m) stop := append_iff.mpr ⟨mid, h, h'⟩

/-- **Frame**: links of other nodes do not matter. -/
theorem congr (h : Chain next start l stop) (heq : ∀ a ∈ l, next' a = next a) :
    Chain next' start l stop := by
  induction l generalizing start with
  | nil => exact h
  | cons a l ih =>
    refine ⟨h.1, ?_⟩
    rw [heq a List.mem_cons_self]
    exact ih h.2 fun b hb => heq b (List.mem_cons_of_mem a hb)

theorem update [DecidableEq α] (h : Chain next start l stop) (ha : a ∉ l) (v : Option α) :
    Chain (Function.update next a v) start l stop := by
  apply h.congr
  intro b hb
  apply Function.update_of_ne
  rintro rfl
  exact ha hb

/-- The walk to the end is determined by its start. -/
theorem unique (h : Chain next start l none) (h' : Chain next start m none) : l = m := by
  induction l generalizing start m with
  | nil =>
    cases m with
    | nil => rfl
    | cons b m =>
      rw [nil_iff.mp h] at h'
      cases h'.1
  | cons a l ih =>
    cases m with
    | nil =>
      rw [nil_iff.mp h'] at h
      cases h.1
    | cons b m =>
      obtain rfl : a = b := Option.some.inj (h.1.symm.trans h'.1)
      rw [ih h.2 h'.2]

/-- **No cycle**: a walk that comes to an end visits no node twice. -/
theorem nodup (h : Chain next start l none) : l.Nodup := by
  induction l generalizing start with
  | nil => exact List.nodup_nil
  | cons a l ih =>
    refine List.nodup_cons.mpr ⟨?_, ih h.2⟩
    intro hmem
    -- from its second visit on the walk would be the same again, but shorter
    obtain ⟨l₁, l₂, rfl⟩ := List.append_of_mem hmem
    obtain ⟨mid, -, hsecond⟩ := append_iff.mp h.2
    have hsame := unique h.2 hsecond.2
    have hlength := congrArg List.length hsame
    simp at hlength
    omega

/-- The walk ends in `none` or goes on. -/
theorem cons_of_some (h : Chain next (some a) l none) :
    ∃ rest, l = a :: rest ∧ Chain next (next a) rest none := by
  cases l with
  | nil => cases h
  | cons b l =>
    obtain ⟨hstart, hrest⟩ := h
    obtain rfl : a = b := Option.some.inj hstart
    exact ⟨l, rfl, hrest⟩

/-- **Insertion**: a node that is linked to what comes behind `a` is linked
    in behind `a`. -/
theorem insert [DecidableEq α] {e : α} (h : Chain next start (l ++ a :: m) none)
    (he : e ∉ l ++ a :: m) (hnext : next e = next a) :
    Chain (Function.update next a (some e)) start (l ++ a :: e :: m) none := by
  obtain ⟨mid, hfront, hmid, hback⟩ := append_iff.mp h
  have hnodup := h.nodup
  rw [List.nodup_append, List.nodup_cons] at hnodup
  have hfresh : a ∉ l := fun hmem => hnodup.2.2 a hmem a List.mem_cons_self rfl
  have hea : e ≠ a := by
    rintro rfl
    exact he (List.mem_append_right l List.mem_cons_self)
  apply (hfront.update hfresh _).append
  refine ⟨hmid, ?_⟩
  rw [Function.update_self]
  refine ⟨rfl, ?_⟩
  rw [Function.update_of_ne hea, hnext]
  exact hback.update hnodup.2.1.1 _

end Chain

end CyberRT.Framework
