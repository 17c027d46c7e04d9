import CyberRT.Base.UnboundedQueue
import CyberRT.Framework.Counted
import CyberRT.Framework.Tally

/-! # Node lifetime in the unbounded queue

    A node is held by the queue while `tail_` points at it and until `head_`
    has passed it, and by the two calls that have moved the pointers on and
    not released it yet. Its count is the number of these holders. Nobody
    holds it for a `Dequeue` that has loaded `head_` and is about to follow
    it, or that has moved `head_` on to it and is about to copy its data. -/

namespace CyberRT.Base.UnboundedQueue

open CyberRT.Framework

variable {Tid T : Type}

/-! ## Section 1: Safe reclamation -/

/-- The node that the next step dereferences. -/
def Pc.derefs : Pc → Option Nat
  | .linkNext _ n | .readNext n | .readData _ n _ | .releaseSub n _ | .releaseLoad n _
  | .deleteThis n _ => some n
  | _ => none

/-- What the calls have returned, in the order of the head advances, is a
    prefix of what was enqueued. Some may not have copied their element yet. -/
structure Fifo (enqueued : List T) (dequeued : List (Option T)) : Prop where
  length_le : dequeued.length ≤ enqueued.length
  eq        : ∀ {i : Nat} {x : T}, dequeued[i]? = some (some x) → enqueued[i]? = some x

/-- **Property**. -/
structure Reclaimed (s : State Tid T) : Prop where
  once : ∀ n, (s.nodes n).deletions ≤ 1
  live : ∀ t n, (s.loc t).pc.derefs = some n → (s.nodes n).deletions = 0
  fifo : Fifo s.enqueued s.dequeued

/-- A `Dequeue` is about to read `n` without holding it: the link of the node
    it has loaded, or the data of the node it has moved `head_` to. -/
def Pc.reads : Pc → Option Nat
  | .readNext n | .readData _ n _ => some n
  | _ => none

/-- Lowered the count of `n`, and not looked at it yet. -/
def Pc.looking : Pc → Option Nat
  | .releaseLoad n _ => some n
  | _ => none

/-- **Condition** on the steps: a node is not deleted while a `Dequeue` is
    about to read it, its count is not lowered while another thread that has
    lowered it is about to look, and `head_` is advanced from the very node
    that was loaded, not from another one at its address. -/
def ReclaimsInTime (s : State Tid T) : Label Tid T → Prop
  | .deleteThis _ n _   => ∀ t, (s.loc t).pc.reads ≠ some n
  | .releaseSub _ n _   => ∀ t, (s.loc t).pc.looking ≠ some n
  | .casHead _ oldHead _ => s.head = oldHead
  | _ => True

instance decidableReclaimsInTime [Fintype Tid] (s : State Tid T) :
    ∀ a, Decidable (ReclaimsInTime s a)
  | .deleteThis _ n _    => inferInstanceAs (Decidable (∀ t, (s.loc t).pc.reads ≠ some n))
  | .releaseSub _ n _    => inferInstanceAs (Decidable (∀ t, (s.loc t).pc.looking ≠ some n))
  | .casHead _ oldHead _ => inferInstanceAs (Decidable (s.head = oldHead))
  | .callEnqueue .. | .newNode .. | .loadTail .. | .casTail .. | .casTailFail .. | .linkNext ..
  | .addSize .. | .callDequeue .. | .loadHead .. | .readNext .. | .casHeadFail .. | .readData ..
  | .subSize .. | .releaseLoad .. | .size .. => .isTrue trivial

/-! ## Section 2: Holders -/

/-- What a thread is to a node in its care. -/
inductive Care where
  | own
  | hold
  | look
  | delete
  deriving DecidableEq

/-- The node in the care of a thread: its own one before it is in the queue,
    the one it has left behind with `tail_` or `head_`, and that one on the
    way through `release`. -/
def Pc.care : Pc → Option (Care × Nat)
  | .loadTail n | .casTail n _                   => some (.own, n)
  | .linkNext _ n | .readData n _ _ | .subSize n => some (.hold, n)
  | .releaseSub n _  => some (.hold, n)
  | .releaseLoad n _ => some (.look, n)
  | .deleteThis n _  => some (.delete, n)
  | _ => none

section counts
variable [Fintype Tid]

/-- How many threads have the node in their care. -/
def State.cares (s : State Tid T) (c : Care) (n : Nat) : Nat :=
  tally (fun l : Local T => l.pc.care = some (c, n)) s.loc

/-- The queue holds a node for `tail_` and until `head_` has passed it; a
    thread holds its own node for both. -/
def State.holders (s : State Tid T) (n : Nat) : Nat :=
  (if s.tail = n then 1 else 0) + (s.tails.drop s.dequeued.length).count n +
    s.cares .hold n + 2 * s.cares .own n

def State.Counted (s : State Tid T) (n : Nat) : Prop :=
  Framework.Counted (s.nodes n).refCount (s.holders n) (s.cares .look n) (s.cares .delete n)
    (s.nodes n).deletions

end counts

/-! ## Section 3: Invariant -/

/-- The nodes behind `tail_`, in the order of its advances. -/
structure Linked (s : State Tid T) : Prop where
  nodup    : s.tails.Nodup
  made     : ∀ n ∈ s.tails, n < s.made
  unmade   : ∀ n, s.made ≤ n → (s.nodes n).next = none ∧ (s.nodes n).deletions = 0
  length   : s.tails.length = s.enqueued.length + 1
  head     : s.tails[s.dequeued.length]? = some s.head
  tail     : s.tails[s.enqueued.length]? = some s.tail
  next     : ∀ {i n m : Nat}, s.tails[i]? = some n → (s.nodes n).next = some m →
    s.tails[i + 1]? = some m
  data     : ∀ {i n : Nat}, s.tails[i + 1]? = some n → s.enqueued[i]? = some (s.nodes n).data
  dequeued : ∀ {i : Nat} {x : T}, s.dequeued[i]? = some (some x) → s.enqueued[i]? = some x

/-- What a thread knows about its nodes. -/
def Knows (s : State Tid T) (l : Local T) : Prop :=
  match l.pc with
  | .loadTail n | .casTail n _ =>
    n ∉ s.tails ∧ (s.nodes n).next = none ∧ (s.nodes n).data = l.element
  | .linkNext n oldTail => ∃ i : Nat, s.tails[i]? = some oldTail ∧ s.tails[i + 1]? = some n
  | .readNext n => (s.nodes n).deletions = 0
  | .casHead oldHead headNext => (s.nodes oldHead).next = some headNext
  | .readData _ headNext k =>
    s.tails[k + 1]? = some headNext ∧ k < s.dequeued.length ∧ (s.nodes headNext).deletions = 0
  | _ => True

/-- **Invariant**. -/
structure Inv [Fintype Tid] (s : State Tid T) : Prop where
  linked  : Linked s
  counted : ∀ n, s.Counted n
  le_two  : ∀ n, (s.nodes n).refCount ≤ 2
  made    : ∀ t c n, (s.loc t).pc.care = some (c, n) → n < s.made
  knows   : ∀ t, Knows s (s.loc t)

/-! ## Section 4: Frame lemmas -/

section frame
variable {s s' : State Tid T}

theorem Linked.dequeued_le (h : Linked s) : s.dequeued.length ≤ s.enqueued.length := by
  have hlt := (List.getElem?_eq_some_iff.mp h.head).1
  have hlen := h.length
  omega

/-- The list and the histories stay. -/
theorem Linked.congr (s' : State Tid T) (h : Linked s) (htails : s'.tails = s.tails)
    (henq : s'.enqueued = s.enqueued) (hdeq : s'.dequeued = s.dequeued) (hhead : s'.head = s.head)
    (htail : s'.tail = s.tail) (hmade : s.made ≤ s'.made)
    (hnext : ∀ n, (s'.nodes n).next = (s.nodes n).next)
    (hdata : ∀ n ∈ s.tails, (s'.nodes n).data = (s.nodes n).data)
    (hdeletions : ∀ n, s'.made ≤ n → (s'.nodes n).deletions = (s.nodes n).deletions) :
    Linked s' := by
  constructor
  case nodup    => rw [htails]; exact h.nodup
  case made     =>
    intro n hn
    rw [htails] at hn
    exact Nat.lt_of_lt_of_le (h.made n hn) hmade
  case unmade   =>
    intro n hn
    obtain ⟨hnone, hzero⟩ := h.unmade n (Nat.le_trans hmade hn)
    exact ⟨(hnext n).trans hnone, (hdeletions n hn).trans hzero⟩
  case length   => rw [htails, henq]; exact h.length
  case head     => rw [htails, hdeq, hhead]; exact h.head
  case tail     => rw [htails, henq, htail]; exact h.tail
  case next     =>
    intro i n m hn hm
    rw [htails] at hn ⊢
    rw [hnext] at hm
    exact h.next hn hm
  case data     =>
    intro i n hn
    rw [htails] at hn
    rw [henq, hdata n (List.mem_of_getElem? hn)]
    exact h.data hn
  case dequeued =>
    intro i x hx
    rw [hdeq] at hx
    rw [henq]
    exact h.dequeued hx

/-- The list with the node of an `Enqueue` behind it. -/
theorem Linked.append {n : Nat} {x : T} (h : Linked s) (hn : n ∉ s.tails) (hmade : n < s.made)
    (hnext : (s.nodes n).next = none) (hdata : (s.nodes n).data = x) (htail : s'.tail = n)
    (htails : s'.tails = s.tails ++ [n]) (henq : s'.enqueued = s.enqueued ++ [x])
    (hdeq : s'.dequeued = s.dequeued) (hhead : s'.head = s.head) (hmade' : s'.made = s.made)
    (hnodes : s'.nodes = s.nodes) : Linked s' := by
  have hlen := h.length
  constructor
  case nodup =>
    rw [htails]
    exact List.nodup_append.mpr ⟨h.nodup, List.nodup_singleton n, by
      intro a ha b hb heq
      rw [List.mem_singleton.mp hb] at heq
      exact hn (heq ▸ ha)⟩
  case made =>
    intro m hm
    rw [htails, List.mem_append, List.mem_singleton] at hm
    rw [hmade']
    rcases hm with hold | rfl
    · exact h.made m hold
    · exact hmade
  case unmade =>
    rw [hmade', hnodes]
    exact h.unmade
  case length =>
    rw [htails, henq, List.length_append, List.length_append, hlen]
    rfl
  case head =>
    have hlt := (List.getElem?_eq_some_iff.mp h.head).1
    rw [htails, hdeq, hhead, List.getElem?_append_left hlt]
    exact h.head
  case tail =>
    rw [htails, henq, htail, List.length_append, List.length_singleton, ← hlen]
    simp
  case next =>
    intro i m k hm hk
    rw [htails] at hm ⊢
    rw [hnodes] at hk
    rcases Nat.lt_or_ge i s.tails.length with hlt | hge
    · rw [List.getElem?_append_left hlt] at hm
      have hold := h.next hm hk
      rw [List.getElem?_append_left (List.getElem?_eq_some_iff.mp hold).1]
      exact hold
    · -- nothing is behind the new node yet
      rw [List.getElem?_append_right hge] at hm
      have hmem := List.mem_of_getElem? hm
      rw [List.mem_singleton.mp hmem, hnext] at hk
      cases hk
  case data =>
    intro i m hm
    rw [htails] at hm
    rw [henq, hnodes]
    rcases Nat.lt_or_ge (i + 1) s.tails.length with hlt | hge
    · rw [List.getElem?_append_left hlt] at hm
      rw [List.getElem?_append_left (by omega)]
      exact h.data hm
    · rw [List.getElem?_append_right hge] at hm
      have hplace := (List.getElem?_eq_some_iff.mp hm).1
      rw [List.length_singleton] at hplace
      have hi : i = s.enqueued.length := by omega
      rw [List.mem_singleton.mp (List.mem_of_getElem? hm), hi, hdata]
      simp
  case dequeued =>
    intro i y hy
    rw [hdeq] at hy
    have hold := h.dequeued hy
    rw [henq, List.getElem?_append_left (List.getElem?_eq_some_iff.mp hold).1]
    exact hold

/-- The list and what was enqueued stay. -/
theorem Linked.dequeue (s' : State Tid T) (h : Linked s) (hnodes : s'.nodes = s.nodes)
    (hmade : s'.made = s.made) (htails : s'.tails = s.tails) (henq : s'.enqueued = s.enqueued)
    (htail : s'.tail = s.tail) (hhead : s.tails[s'.dequeued.length]? = some s'.head)
    (hdequeued : ∀ {i : Nat} {x : T}, s'.dequeued[i]? = some (some x) →
      s.enqueued[i]? = some x) : Linked s' := by
  constructor
  case nodup    => rw [htails]; exact h.nodup
  case made     => rw [htails, hmade]; exact h.made
  case unmade   => rw [hmade, hnodes]; exact h.unmade
  case length   => rw [htails, henq]; exact h.length
  case head     => rw [htails]; exact hhead
  case tail     => rw [htails, henq, htail]; exact h.tail
  case next     => rw [htails, hnodes]; exact h.next
  case data     => rw [htails, henq, hnodes]; exact h.data
  case dequeued => rw [henq]; exact hdequeued

/-- A thread keeps its knowledge when the list grows, as long as its own node
    stays out of it and the node it reads is not deleted. -/
theorem Knows.frame {l : Local T} (s' : State Tid T) (h : Knows s l) (htails : s.tails <+: s'.tails)
    (hdeq : s.dequeued.length ≤ s'.dequeued.length)
    (hnext : ∀ n m, (s.nodes n).next = some m → (s'.nodes n).next = some m)
    (hown : ∀ n, l.pc.care = some (.own, n) → (n ∉ s.tails → n ∉ s'.tails) ∧
      (s'.nodes n).next = (s.nodes n).next ∧ (s'.nodes n).data = (s.nodes n).data)
    (hreads : ∀ n, l.pc.reads = some n → (s'.nodes n).deletions = (s.nodes n).deletions) :
    Knows s' l := by
  have hplace : ∀ {i n : Nat}, s.tails[i]? = some n → s'.tails[i]? = some n := by
    intro i n hn
    obtain ⟨more, hmore⟩ := htails
    rw [← hmore, List.getElem?_append_left (List.getElem?_eq_some_iff.mp hn).1]
    exact hn
  unfold Knows at h ⊢
  cases hpc : l.pc with
  | loadTail n | casTail n _ =>
    simp only [hpc] at h ⊢
    obtain ⟨hout, hnone, helement⟩ := h
    obtain ⟨hout', hnext', hdata'⟩ := hown n (by rw [hpc]; rfl)
    exact ⟨hout' hout, hnext'.trans hnone, hdata'.trans helement⟩
  | linkNext n oldTail =>
    simp only [hpc] at h ⊢
    obtain ⟨i, hold, hn⟩ := h
    exact ⟨i, hplace hold, hplace hn⟩
  | readNext n =>
    simp only [hpc] at h ⊢
    rw [hreads n (by rw [hpc]; rfl)]
    exact h
  | casHead oldHead headNext =>
    simp only [hpc] at h ⊢
    exact hnext _ _ h
  | readData oldHead headNext k =>
    simp only [hpc] at h ⊢
    obtain ⟨hk, hlt, hlive⟩ := h
    rw [hreads headNext (by rw [hpc]; rfl)]
    exact ⟨hplace hk, by omega, hlive⟩
  | _ => trivial

@[simp] theorem care_after (call : Call) : call.after.care = none := by
  cases call <;> rfl

theorem knows_after (s : State Tid T) (l : Local T) (call : Call) (hpc : l.pc = call.after) :
    Knows s l := by
  unfold Knows
  rw [hpc]
  cases call <;> trivial

/-- The nodes and the histories stay, and so does the list. -/
structure Same (s s' : State Tid T) : Prop where
  nodes    : s'.nodes = s.nodes
  made     : s'.made = s.made
  head     : s'.head = s.head
  tail     : s'.tail = s.tail
  tails    : s'.tails = s.tails
  enqueued : s'.enqueued = s.enqueued
  dequeued : s'.dequeued = s.dequeued

theorem Same.linked (hsame : Same s s') (h : Linked s) : Linked s' := by
  apply h.congr s' hsame.tails hsame.enqueued hsame.dequeued hsame.head hsame.tail
  · rw [hsame.made]
  all_goals simp [hsame.nodes]

theorem Same.knows (hsame : Same s s') {l : Local T} (h : Knows s l) : Knows s' l := by
  apply h.frame
  · rw [hsame.tails]
  · rw [hsame.dequeued]
  · simp [hsame.nodes]
  · simp [hsame.nodes, hsame.tails]
  · simp [hsame.nodes]

/-- A member that a store into one node leaves alone. -/
theorem member_eq {β : Type} (f : Node T → β) {n : Nat} {node : Node T}
    (hnodes : s'.nodes = Function.update s.nodes n node) (hf : f node = f (s.nodes n)) (m : Nat) :
    f (s'.nodes m) = f (s.nodes m) := by
  rw [hnodes]
  by_cases hm : m = n
  · rw [hm, Function.update_self]
    exact hf
  · rw [Function.update_of_ne hm]

section cares
variable [Fintype Tid] [DecidableEq Tid] {t : Tid} {l : Local T}

/-- **One thread moves**. -/
theorem cares_move (hloc : s'.loc = Function.update s.loc t l) (c : Care) (n : Nat) :
    s'.cares c n + (if (s.loc t).pc.care = some (c, n) then 1 else 0) =
      s.cares c n + (if l.pc.care = some (c, n) then 1 else 0) := by
  unfold State.cares
  rw [hloc]
  exact tally_update (fun l : Local T => l.pc.care = some (c, n)) s.loc t l

/-- The same for each kind of care. -/
theorem cares_moves (hloc : s'.loc = Function.update s.loc t l) (n : Nat) :
    (s'.cares .own n + (if (s.loc t).pc.care = some (.own, n) then 1 else 0) =
      s.cares .own n + (if l.pc.care = some (.own, n) then 1 else 0)) ∧
    (s'.cares .hold n + (if (s.loc t).pc.care = some (.hold, n) then 1 else 0) =
      s.cares .hold n + (if l.pc.care = some (.hold, n) then 1 else 0)) ∧
    (s'.cares .look n + (if (s.loc t).pc.care = some (.look, n) then 1 else 0) =
      s.cares .look n + (if l.pc.care = some (.look, n) then 1 else 0)) ∧
    s'.cares .delete n + (if (s.loc t).pc.care = some (.delete, n) then 1 else 0) =
      s.cares .delete n + (if l.pc.care = some (.delete, n) then 1 else 0) :=
  ⟨cares_move hloc .own n, cares_move hloc .hold n, cares_move hloc .look n,
    cares_move hloc .delete n⟩

/-- A node that the thread neither had nor gets. -/
theorem cares_other (hloc : s'.loc = Function.update s.loc t l) {n : Nat}
    (hold : ∀ c, (s.loc t).pc.care ≠ some (c, n)) (hnew : ∀ c, l.pc.care ≠ some (c, n))
    (c : Care) : s'.cares c n = s.cares c n := by
  have hmove := cares_move hloc c n
  rw [if_neg (hold c), if_neg (hnew c)] at hmove
  exact hmove

theorem cares_same (hloc : s'.loc = Function.update s.loc t l)
    (hcare : l.pc.care = (s.loc t).pc.care) (c : Care) (n : Nat) : s'.cares c n = s.cares c n := by
  have hmove := cares_move hloc c n
  rw [hcare] at hmove
  omega

omit [DecidableEq Tid] in
theorem cares_pos {c : Care} {n : Nat} (h : (s.loc t).pc.care = some (c, n)) :
    0 < s.cares c n := tally_pos (P := fun l : Local T => l.pc.care = some (c, n)) h

omit [DecidableEq Tid] in
/-- A node whose numbers stay. -/
theorem State.Counted.congr {n : Nat} (s' : State Tid T) (h : s.Counted n)
    (hcount : (s'.nodes n).refCount = (s.nodes n).refCount)
    (hdeletions : (s'.nodes n).deletions = (s.nodes n).deletions)
    (hholders : s'.holders n = s.holders n) (hlook : s'.cares .look n = s.cares .look n)
    (hdelete : s'.cares .delete n = s.cares .delete n) : s'.Counted n := by
  unfold State.Counted at *
  rw [hcount, hdeletions, hholders, hlook, hdelete]
  exact h

omit [DecidableEq Tid] in
/-- The holders of a node that no pointer has left behind. -/
theorem holders_congr {n : Nat} (htail : s'.tail = s.tail) (htails : s'.tails = s.tails)
    (hdeq : s'.dequeued.length = s.dequeued.length) (hhold : s'.cares .hold n = s.cares .hold n)
    (hown : s'.cares .own n = s.cares .own n) : s'.holders n = s.holders n := by
  unfold State.holders
  rw [htail, htails, hdeq, hhold, hown]

omit [Fintype Tid] in
theorem forall_update {P : Local T → Prop} (hloc : s'.loc = Function.update s.loc t l)
    (hother : ∀ u, u ≠ t → P (s.loc u)) (hself : P l) (u : Tid) : P (s'.loc u) := by
  rw [hloc]
  by_cases hu : u = t
  · rw [hu, Function.update_self]
    exact hself
  · rw [Function.update_of_ne hu]
    exact hother u hu

/-- **Frame rule**: one thread moves, and the other ones keep what they know. -/
theorem Inv.frame (h : Inv s) (hloc : s'.loc = Function.update s.loc t l) (hmade : s'.made = s.made)
    (hlinked : Linked s') (hcounted : ∀ n, s'.Counted n) (hle : ∀ n, (s'.nodes n).refCount ≤ 2)
    (hcare : ∀ c n, l.pc.care = some (c, n) → n < s.made)
    (hother : ∀ u, u ≠ t → Knows s' (s.loc u)) (hself : Knows s' l) : Inv s' where
  linked  := hlinked
  counted := hcounted
  le_two  := hle
  made    := by
    intro u c n
    rw [hmade]
    exact forall_update (P := fun l => l.pc.care = some (c, n) → n < s.made) hloc
      (fun u _ => h.made u c n) (hcare c n) u
  knows   := forall_update hloc hother hself

/-- The queue stays. -/
theorem Inv.move (h : Inv s) (hsame : Same s s') (hloc : s'.loc = Function.update s.loc t l)
    (hcounted : ∀ n, s'.Counted n) (hcare : ∀ c n, l.pc.care = some (c, n) → n < s.made)
    (hknows : Knows s l) : Inv s' := by
  apply h.frame hloc hsame.made (hsame.linked h.linked) hcounted _ hcare
  · exact fun u _ => hsame.knows (h.knows u)
  · exact hsame.knows hknows
  · rw [hsame.nodes]
    exact h.le_two

/-- The same when the thread has the same node in its care. -/
theorem Inv.stay (h : Inv s) (hsame : Same s s') (hloc : s'.loc = Function.update s.loc t l)
    (hcare : l.pc.care = (s.loc t).pc.care) (hknows : Knows s l) : Inv s' := by
  apply h.move hsame hloc _ _ hknows
  · intro n
    apply (h.counted n).congr
    · rw [hsame.nodes]
    · rw [hsame.nodes]
    · exact holders_congr hsame.tail hsame.tails (by rw [hsame.dequeued])
        (cares_same hloc hcare .hold n) (cares_same hloc hcare .own n)
    · exact cares_same hloc hcare .look n
    · exact cares_same hloc hcare .delete n
  · intro c n hnew
    rw [hcare] at hnew
    exact h.made t c n hnew

end cares

end frame

/-! ## Section 5: The steps -/

section steps
variable [Fintype Tid] {s s' : State Tid T} {t u : Tid} {n : Nat}

/-- A node that is held, or on its way through `release`, is live. -/
theorem Inv.live (h : Inv s) {c : Care} (hc : c ≠ .own)
    (hcare : (s.loc t).pc.care = some (c, n)) : (s.nodes n).deletions = 0 := by
  have hpos := cares_pos hcare
  apply (h.counted n).live
  unfold State.holders
  cases c with
  | own    => exact absurd rfl hc
  | hold   => omega
  | look   => omega
  | delete => omega

/-- So is a node that `head_` has not passed. -/
theorem Inv.live_of_mem (h : Inv s) (hn : n ∈ s.tails.drop s.dequeued.length) :
    (s.nodes n).deletions = 0 := by
  have hpos := List.count_pos_iff.mpr hn
  apply (h.counted n).live
  unfold State.holders
  omega

theorem Inv.head_mem (h : Inv s) : s.head ∈ s.tails.drop s.dequeued.length := by
  apply List.mem_of_getElem? (i := 0)
  rw [List.getElem?_drop]
  exact h.linked.head

/-- The node of an `Enqueue` that is not in the queue yet is its alone. -/
theorem Inv.own_unique (h : Inv s) (ht : (s.loc t).pc.care = some (.own, n))
    (hu : (s.loc u).pc.care = some (.own, n)) : t = u := by
  have hcount := (h.counted n).count_eq
  have hle := h.le_two n
  unfold State.holders at hcount
  exact eq_of_tally_le_one (P := fun l : Local T => l.pc.care = some (.own, n))
    (show s.cares .own n ≤ 1 by omega) ht hu

omit [Fintype Tid] in
theorem Knows.own {l : Local T} (h : Knows s l) (hcare : l.pc.care = some (.own, n)) :
    n ∉ s.tails ∧ (s.nodes n).next = none ∧ (s.nodes n).data = l.element := by
  unfold Knows at h
  cases hpc : l.pc <;> simp only [hpc, Pc.care] at h hcare <;> try cases hcare
  · exact h
  · exact h

variable [DecidableEq Tid] [Inhabited T]

theorem inv_newNode {address : Nat} (h : Inv s) (hpc : (s.loc t).pc = .newNode) :
    Inv ((unboundedQueue.action (.newNode t address)).effect s) := by
  set s' := (unboundedQueue.action (.newNode t address)).effect s
  have hloc : s'.loc = Function.update s.loc t { s.loc t with pc := .loadTail s.made } := rfl
  have hnode : s'.nodes s.made = ⟨address, (s.loc t).element, 2, none, 0⟩ := Function.update_self ..
  have hother : ∀ n, n ≠ s.made → s'.nodes n = s.nodes n := fun n hn => Function.update_of_ne hn ..
  have hout : s.made ∉ s.tails := fun hmem => Nat.lt_irrefl _ (h.linked.made _ hmem)
  obtain ⟨hblank, hzero⟩ := h.linked.unmade s.made (Nat.le_refl _)
  have hnodes : s'.nodes = Function.update s.nodes s.made
      ⟨address, (s.loc t).element, 2, none, 0⟩ := rfl
  have hnext : ∀ n, (s'.nodes n).next = (s.nodes n).next := member_eq _ hnodes hblank.symm
  have hdeletions : ∀ n, (s'.nodes n).deletions = (s.nodes n).deletions :=
    member_eq _ hnodes hzero.symm
  constructor
  case linked =>
    apply Linked.congr s' h.linked rfl rfl rfl rfl rfl (Nat.le_succ _) hnext _
      fun n _ => hdeletions n
    intro n hn
    rw [hother n (Nat.ne_of_lt (h.linked.made n hn))]
  case counted =>
    intro n
    by_cases hn : n = s.made
    · -- nobody has known the new node
      subst hn
      have hnone : ∀ c, s.cares c s.made = 0 := by
        intro c
        apply tally_eq_zero_iff.mpr
        intro u hcare
        exact Nat.lt_irrefl _ (h.made u c s.made hcare)
      have hmove : ∀ c, s'.cares c s.made = if Care.own = c then 1 else 0 := by
        intro c
        have hc := cares_move hloc c s.made
        simpa [hpc, hnone, Pc.care] using hc
      have htail : s.tail ≠ s.made := fun heq => hout (heq ▸ List.mem_of_getElem? h.linked.tail)
      have hcount : (s.tails.drop s.dequeued.length).count s.made = 0 :=
        List.count_eq_zero.mpr fun hmem => hout (List.mem_of_mem_drop hmem)
      have hholders : s'.holders s.made = 2 := by
        show (if s.tail = s.made then 1 else 0) + (s.tails.drop s.dequeued.length).count s.made +
          s'.cares .hold s.made + 2 * s'.cares .own s.made = 2
        rw [if_neg htail, hcount, hmove, hmove]
        rfl
      unfold State.Counted
      rw [hnode, hholders, hmove, hmove]
      exact .make 2
    · have hcares := cares_other hloc (n := n) (by simp [hpc, Pc.care])
        (by simp [Pc.care, Ne.symm hn])
      apply (h.counted n).congr
      · rw [hother n hn]
      · exact hdeletions n
      · exact holders_congr rfl rfl rfl (hcares _) (hcares _)
      · exact hcares _
      · exact hcares _
  case le_two =>
    intro n
    by_cases hn : n = s.made
    · rw [hn, hnode]
    · rw [hother n hn]
      exact h.le_two n
  case made =>
    intro u c n
    apply forall_update (P := fun l => l.pc.care = some (c, n) → n < s.made + 1) hloc
    · intro u _ hcare
      exact Nat.lt_succ_of_lt (h.made u c n hcare)
    · intro hcare
      simp only [Pc.care, Option.some.injEq, Prod.mk.injEq] at hcare
      omega
  case knows =>
    apply forall_update (P := Knows s') hloc
    · intro u _
      apply Knows.frame s' (h.knows u) (List.prefix_refl _) (Nat.le_refl _)
      · intro n m hm
        rw [hnext]
        exact hm
      · intro n hcare
        have hne : n ≠ s.made := Nat.ne_of_lt (h.made u .own n hcare)
        exact ⟨id, hnext n, by rw [hother n hne]⟩
      · exact fun n _ => hdeletions n
    · exact ⟨hout, by rw [hnode], by rw [hnode]⟩

theorem inv_casTail {oldTail : Nat} (h : Inv s) (hpc : (s.loc t).pc = .casTail n oldTail) :
    Inv ((unboundedQueue.action (.casTail t n oldTail)).effect s) := by
  set s' := (unboundedQueue.action (.casTail t n oldTail)).effect s
  have hloc : s'.loc = Function.update s.loc t { s.loc t with pc := .linkNext n s.tail } := rfl
  have hcare : (s.loc t).pc.care = some (.own, n) := by rw [hpc]; rfl
  have hmade := h.made t .own n hcare
  obtain ⟨hout, hnext, hdata⟩ := (h.knows t).own hcare
  apply h.frame hloc rfl
  case hlinked => exact h.linked.append hout hmade hnext hdata rfl rfl rfl rfl rfl rfl rfl
  case hcounted =>
    intro m
    obtain ⟨hown, hhold, hlook, hdelete⟩ := cares_moves hloc m
    simp only [hpc, Pc.care, Option.some.injEq, Prod.mk.injEq, reduceCtorEq, false_and, true_and,
      if_false, Nat.add_zero] at hown hhold hlook hdelete
    apply State.Counted.congr s' (h.counted m) rfl rfl _ hlook hdelete
    -- the queue takes the new node for both pointers and leaves the old tail to the thread
    have hlt := (List.getElem?_eq_some_iff.mp h.linked.head).1
    show (if n = m then 1 else 0) + ((s.tails ++ [n]).drop s.dequeued.length).count m +
      s'.cares .hold m + 2 * s'.cares .own m = s.holders m
    rw [List.drop_append_of_le_length (by omega), List.count_append, List.count_singleton]
    unfold State.holders
    simp only [beq_iff_eq]
    omega
  case hle => exact h.le_two
  case hcare =>
    intro c m hnew
    simp only [Pc.care, Option.some.injEq, Prod.mk.injEq] at hnew
    rw [← hnew.2]
    exact h.linked.made _ (List.mem_of_getElem? h.linked.tail)
  case hother =>
    intro u hu
    -- no other thread has this node for its own
    apply Knows.frame s' (h.knows u) (List.prefix_append _ _) (Nat.le_refl _)
    · exact fun _ _ => id
    · intro m hcare'
      refine ⟨?_, rfl, rfl⟩
      intro hm hmem
      rcases List.mem_append.mp hmem with hold | hnew
      · exact hm hold
      · rw [List.mem_singleton.mp hnew] at hcare'
        exact hu (h.own_unique hcare' hcare)
    · exact fun _ _ => rfl
  case hself =>
    refine ⟨s.enqueued.length, ?_, ?_⟩
    · show (s.tails ++ [n])[s.enqueued.length]? = some s.tail
      rw [List.getElem?_append_left (List.getElem?_eq_some_iff.mp h.linked.tail).1]
      exact h.linked.tail
    · show (s.tails ++ [n])[s.enqueued.length + 1]? = some n
      rw [← h.linked.length]
      simp

theorem inv_linkNext {oldTail : Nat} (h : Inv s) (hpc : (s.loc t).pc = .linkNext n oldTail) :
    Inv ((unboundedQueue.action (.linkNext t n oldTail)).effect s) := by
  set s' := (unboundedQueue.action (.linkNext t n oldTail)).effect s
  have hloc : s'.loc =
      Function.update s.loc t { s.loc t with pc := .releaseSub oldTail .enqueue } := rfl
  have hself : s'.nodes oldTail = { s.nodes oldTail with next := some n } :=
    Function.update_self ..
  have hother : ∀ m, m ≠ oldTail → s'.nodes m = s.nodes m :=
    fun m hm => Function.update_of_ne hm ..
  have hcare : (Pc.releaseSub oldTail .enqueue).care = (s.loc t).pc.care := by rw [hpc]; rfl
  have hknows := h.knows t
  simp only [Knows, hpc] at hknows
  obtain ⟨i, hold, hn⟩ := hknows
  have hnodes : s'.nodes =
      Function.update s.nodes oldTail { s.nodes oldTail with next := some n } := rfl
  have hdata : ∀ m, (s'.nodes m).data = (s.nodes m).data := member_eq _ hnodes rfl
  have hcount : ∀ m, (s'.nodes m).refCount = (s.nodes m).refCount := member_eq _ hnodes rfl
  have hdeletions : ∀ m, (s'.nodes m).deletions = (s.nodes m).deletions := member_eq _ hnodes rfl
  -- a link that is there already is the one that is written
  have hnext : ∀ m k, (s.nodes m).next = some k → (s'.nodes m).next = some k := by
    intro m k hk
    by_cases hm : m = oldTail
    · subst hm
      rw [hself]
      exact hn.symm.trans (h.linked.next hold hk)
    · rw [hother m hm]
      exact hk
  apply h.frame hloc rfl
  case hlinked =>
    have hl := h.linked
    constructor
    case nodup    => exact hl.nodup
    case made     => exact hl.made
    case length   => exact hl.length
    case head     => exact hl.head
    case tail     => exact hl.tail
    case dequeued => exact hl.dequeued
    case unmade   =>
      intro m hm
      have hne : m ≠ oldTail := by
        rintro rfl
        exact Nat.lt_irrefl _ (Nat.lt_of_lt_of_le (hl.made m (List.mem_of_getElem? hold)) hm)
      rw [hother m hne]
      exact hl.unmade m hm
    case next =>
      intro j m k hm hk
      by_cases hme : m = oldTail
      · -- the old tail has one place only, in front of the node it now points to
        subst hme
        rw [hself] at hk
        have hlt := (List.getElem?_eq_some_iff.mp hm).1
        have hij : j = i := (List.getElem?_inj hlt hl.nodup).mp (hm.trans hold.symm)
        rw [hij, ← hk]
        exact hn
      · rw [hother m hme] at hk
        exact hl.next hm hk
    case data =>
      intro j m hm
      rw [hdata]
      exact hl.data hm
  case hcounted =>
    intro m
    have hsame : ∀ c, s'.cares c m = s.cares c m := fun c => cares_same hloc hcare c m
    exact State.Counted.congr s' (h.counted m) (hcount m) (hdeletions m)
      (holders_congr rfl rfl rfl (hsame _) (hsame _)) (hsame _) (hsame _)
  case hle =>
    intro m
    rw [hcount]
    exact h.le_two m
  case hcare =>
    intro c m hnew
    rw [hcare] at hnew
    exact h.made t c m hnew
  case hother =>
    intro u _
    apply Knows.frame s' (h.knows u) (List.prefix_refl _) (Nat.le_refl _) hnext
    · intro m hown
      -- a node that is not in the queue yet is not its old tail
      have hne : m ≠ oldTail := by
        rintro rfl
        exact ((h.knows u).own hown).1 (List.mem_of_getElem? hold)
      exact ⟨id, by rw [hother m hne], hdata m⟩
    · exact fun m _ => hdeletions m
  case hself =>
    trivial

theorem inv_casHead {oldHead headNext : Nat} (h : Inv s)
    (hpc : (s.loc t).pc = .casHead oldHead headNext) (hhead : s.head = oldHead) :
    Inv ((unboundedQueue.action (.casHead t oldHead headNext)).effect s) := by
  set s' := (unboundedQueue.action (.casHead t oldHead headNext)).effect s
  have hloc : s'.loc = Function.update s.loc t
      { s.loc t with pc := .readData s.head headNext s.dequeued.length } := rfl
  have hdeq : s'.dequeued.length = s.dequeued.length + 1 := List.length_append
  have hknows := h.knows t
  simp only [Knows, hpc] at hknows
  rw [← hhead] at hknows
  -- the thread's link is that of the head, so it leads to the next node of the list
  have hplace := h.linked.next h.linked.head hknows
  have hdrop : s.tails.drop s.dequeued.length = s.head :: s.tails.drop (s.dequeued.length + 1) := by
    obtain ⟨hlt, heq⟩ := List.getElem?_eq_some_iff.mp h.linked.head
    rw [List.drop_eq_getElem_cons hlt, heq]
  have hnextMem : headNext ∈ s.tails.drop s.dequeued.length := by
    apply List.mem_of_getElem? (i := 1)
    rw [List.getElem?_drop]
    exact hplace
  apply h.frame hloc rfl
  case hlinked =>
    apply h.linked.dequeue s' rfl rfl rfl rfl rfl
    · rw [hdeq]
      exact hplace
    · intro i x hx
      -- the element is copied later
      have hx' : (s.dequeued ++ [none])[i]? = some (some x) := hx
      rcases Nat.lt_or_ge i s.dequeued.length with hlt | hge
      · rw [List.getElem?_append_left hlt] at hx'
        exact h.linked.dequeued hx'
      · rw [List.getElem?_append_right hge] at hx'
        cases List.mem_singleton.mp (List.mem_of_getElem? hx')
  case hcounted =>
    intro m
    obtain ⟨hown, hhold, hlook, hdelete⟩ := cares_moves hloc m
    simp only [hpc, Pc.care, Option.some.injEq, Prod.mk.injEq, reduceCtorEq, false_and, true_and,
      if_false, Nat.add_zero] at hown hhold hlook hdelete
    apply State.Counted.congr s' (h.counted m) rfl rfl _ hlook hdelete
    -- the queue leaves the old head to the thread
    show (if s.tail = m then 1 else 0) + (s.tails.drop s'.dequeued.length).count m +
      s'.cares .hold m + 2 * s'.cares .own m = s.holders m
    unfold State.holders
    rw [hdeq, hdrop, List.count_cons]
    simp only [beq_iff_eq]
    omega
  case hle => exact h.le_two
  case hcare =>
    intro c m hnew
    simp only [Pc.care, Option.some.injEq, Prod.mk.injEq] at hnew
    rw [← hnew.2]
    exact h.linked.made _ (List.mem_of_getElem? h.linked.head)
  case hother =>
    intro u _
    apply Knows.frame s' (h.knows u) (List.prefix_refl _) (by omega)
    · exact fun _ _ => id
    · exact fun _ _ => ⟨id, rfl, rfl⟩
    · exact fun _ _ => rfl
  case hself =>
    exact ⟨hplace, by omega, h.live_of_mem hnextMem⟩

theorem inv_readData {oldHead headNext k : Nat} (h : Inv s)
    (hpc : (s.loc t).pc = .readData oldHead headNext k) :
    Inv ((unboundedQueue.action (.readData t oldHead headNext k)).effect s) := by
  set s' := (unboundedQueue.action (.readData t oldHead headNext k)).effect s
  have hloc : s'.loc = Function.update s.loc t
      { s.loc t with pc := .subSize oldHead, element := (s.nodes headNext).data } := rfl
  have hdeq : s'.dequeued.length = s.dequeued.length := List.length_set
  have hcare : (Pc.subSize oldHead).care = (s.loc t).pc.care := by rw [hpc]; rfl
  have hknows := h.knows t
  simp only [Knows, hpc] at hknows
  obtain ⟨hplace, hlt, _⟩ := hknows
  apply h.frame hloc rfl
  case hlinked =>
    apply h.linked.dequeue s' rfl rfl rfl rfl rfl
    · rw [hdeq]
      exact h.linked.head
    · intro i x hx
      have hx' : (s.dequeued.set k (some (s.nodes headNext).data))[i]? = some (some x) := hx
      by_cases hi : i = k
      · rw [hi, List.getElem?_set_self hlt] at hx'
        rw [← Option.some.inj (Option.some.inj hx'), hi]
        exact h.linked.data hplace
      · rw [List.getElem?_set_ne (Ne.symm hi)] at hx'
        exact h.linked.dequeued hx'
  case hcounted =>
    intro m
    have hsame : ∀ c, s'.cares c m = s.cares c m := fun c => cares_same hloc hcare c m
    exact State.Counted.congr s' (h.counted m) rfl rfl
      (holders_congr rfl rfl hdeq (hsame _) (hsame _)) (hsame _) (hsame _)
  case hle => exact h.le_two
  case hcare =>
    intro c m hnew
    rw [hcare] at hnew
    exact h.made t c m hnew
  case hother =>
    intro u _
    apply Knows.frame s' (h.knows u) (List.prefix_refl _) (by omega)
    · exact fun _ _ => id
    · exact fun _ _ => ⟨id, rfl, rfl⟩
    · exact fun _ _ => rfl
  case hself =>
    trivial

/-- `fetch_sub` of a count that is not zero. -/
theorem fetchSub32_eq {count : Nat} (hpos : 0 < count) (hle : count ≤ 2) :
    fetchSub32 count = count - 1 := by
  unfold fetchSub32
  omega

theorem inv_releaseSub {call : Call} (h : Inv s) (hpc : (s.loc t).pc = .releaseSub n call)
    (hlooking : ∀ u, (s.loc u).pc.looking ≠ some n) :
    Inv ((unboundedQueue.action (.releaseSub t n call)).effect s) := by
  set s' := (unboundedQueue.action (.releaseSub t n call)).effect s
  have hloc : s'.loc = Function.update s.loc t { s.loc t with pc := .releaseLoad n call } := rfl
  have hself : s'.nodes n = { s.nodes n with refCount := fetchSub32 (s.nodes n).refCount } :=
    Function.update_self ..
  have hother : ∀ m, m ≠ n → s'.nodes m = s.nodes m := fun m hm => Function.update_of_ne hm ..
  have hcare : (s.loc t).pc.care = some (.hold, n) := by rw [hpc]; rfl
  have hpos := cares_pos hcare
  have hcount := (h.counted n).count_eq
  have hheld : 0 < s.holders n := by
    unfold State.holders
    omega
  have hsub := fetchSub32_eq (by omega) (h.le_two n)
  have hnodes : s'.nodes = Function.update s.nodes n
      { s.nodes n with refCount := fetchSub32 (s.nodes n).refCount } := rfl
  have hnext : ∀ m, (s'.nodes m).next = (s.nodes m).next := member_eq _ hnodes rfl
  have hdata : ∀ m, (s'.nodes m).data = (s.nodes m).data := member_eq _ hnodes rfl
  have hdeletions : ∀ m, (s'.nodes m).deletions = (s.nodes m).deletions := member_eq _ hnodes rfl
  apply h.frame hloc rfl
  case hlinked =>
    exact Linked.congr s' h.linked rfl rfl rfl rfl rfl (Nat.le_refl _) hnext
      (fun m _ => hdata m) (fun m _ => hdeletions m)
  case hcounted =>
    intro m
    by_cases hm : m = n
    · subst hm
      obtain ⟨hown, hhold, hlook, hdelete⟩ := cares_moves hloc m
      simp only [hpc, Pc.care, Option.some.injEq, Prod.mk.injEq, reduceCtorEq, false_and,
        if_false, if_true, Nat.add_zero] at hown hhold hlook hdelete
      -- nobody is about to look at a count that somebody else lowers
      have hnone : s.cares .look m = 0 := by
        apply tally_eq_zero_iff.mpr
        intro u hu
        apply hlooking u
        cases hpc' : (s.loc u).pc <;> rw [hpc'] at hu <;> simp [Pc.care] at hu
        rw [hu]
        rfl
      have hholders : s.holders m = s'.holders m + 1 := by
        show _ = (if s.tail = m then 1 else 0) + (s.tails.drop s.dequeued.length).count m +
          s'.cares .hold m + 2 * s'.cares .own m + 1
        unfold State.holders
        omega
      have hcounted : Framework.Counted _ _ _ _ _ := h.counted m
      rw [hholders, hnone] at hcounted
      unfold State.Counted
      rw [hlook, hnone, hdelete, hself, hsub]
      exact hcounted.lower
    · have hcares := cares_other hloc (n := m) (by simp [hpc, Pc.care, Ne.symm hm])
        (by simp [Pc.care, Ne.symm hm])
      exact State.Counted.congr s' (h.counted m) (by rw [hother m hm]) (hdeletions m)
        (holders_congr rfl rfl rfl (hcares _) (hcares _)) (hcares _) (hcares _)
  case hle =>
    intro m
    have hle := h.le_two m
    by_cases hm : m = n
    · rw [hm, hself, hsub]
      rw [hm] at hle
      show (s.nodes n).refCount - 1 ≤ 2
      omega
    · rw [hother m hm]
      exact hle
  case hcare =>
    intro c m hnew
    simp only [Pc.care, Option.some.injEq, Prod.mk.injEq] at hnew
    rw [← hnew.2]
    exact h.made t .hold n hcare
  case hother =>
    intro u _
    apply Knows.frame s' (h.knows u) (List.prefix_refl _) (Nat.le_refl _)
    · intro m k hk
      rw [hnext]
      exact hk
    · exact fun m _ => ⟨id, hnext m, hdata m⟩
    · exact fun m _ => hdeletions m
  case hself =>
    trivial

theorem inv_releaseLoad {call : Call} (h : Inv s) (hpc : (s.loc t).pc = .releaseLoad n call) :
    Inv ((unboundedQueue.action (.releaseLoad t n call)).effect s) := by
  have hcare : (s.loc t).pc.care = some (.look, n) := by rw [hpc]; rfl
  have hcounted : Framework.Counted _ _ _ _ _ := h.counted n
  dsimp only [unboundedQueue]
  split
  · next hzero =>
    -- the last holder has gone, and this thread deletes
    set s' := s.setPc t (.deleteThis n call)
    have hloc : s'.loc = Function.update s.loc t { s.loc t with pc := .deleteThis n call } := rfl
    have hsame : Same s s' := ⟨rfl, rfl, rfl, rfl, rfl, rfl, rfl⟩
    apply h.move hsame hloc
    · intro m
      obtain ⟨hown, hhold, hlook, hdelete⟩ := cares_moves hloc m
      simp only [hpc, Pc.care, Option.some.injEq, Prod.mk.injEq, reduceCtorEq, false_and, true_and,
        if_false, Nat.add_zero] at hown hhold hlook hdelete
      have hholders : s'.holders m = s.holders m := holders_congr rfl rfl rfl hhold hown
      by_cases hm : n = m
      · subst hm
        rw [if_pos rfl] at hlook hdelete
        rw [hzero, ← hlook] at hcounted
        unfold State.Counted
        rw [hholders, hdelete, show (s'.nodes n).refCount = 0 from hzero]
        exact hcounted.decideDelete
      · rw [if_neg hm] at hlook hdelete
        exact State.Counted.congr s' (h.counted m) rfl rfl hholders hlook hdelete
    · intro c m hnew
      simp only [Pc.care, Option.some.injEq, Prod.mk.injEq] at hnew
      rw [← hnew.2]
      exact h.made t .look n hcare
    · trivial
  · -- somebody still holds the node
    set s' := s.setLoc t { s.loc t with pc := call.after, ret := call.ret }
    have hloc : s'.loc =
        Function.update s.loc t { s.loc t with pc := call.after, ret := call.ret } := rfl
    have hsame : Same s s' := ⟨rfl, rfl, rfl, rfl, rfl, rfl, rfl⟩
    apply h.move hsame hloc
    · intro m
      obtain ⟨hown, hhold, hlook, hdelete⟩ := cares_moves hloc m
      simp only [hcare, care_after, Option.some.injEq, Prod.mk.injEq, reduceCtorEq, false_and,
        true_and, if_false, Nat.add_zero] at hown hhold hlook hdelete
      have hholders : s'.holders m = s.holders m := holders_congr rfl rfl rfl hhold hown
      by_cases hm : n = m
      · subst hm
        rw [if_pos rfl] at hlook
        rw [← hlook] at hcounted
        unfold State.Counted
        rw [hholders, hdelete]
        exact hcounted.leave
      · rw [if_neg hm, Nat.add_zero] at hlook
        exact State.Counted.congr s' (h.counted m) rfl rfl hholders hlook hdelete
    · intro c m hnew
      rw [care_after] at hnew
      cases hnew
    · exact knows_after s _ call rfl

theorem inv_deleteThis {call : Call} (h : Inv s) (hpc : (s.loc t).pc = .deleteThis n call)
    (hreads : ∀ u, (s.loc u).pc.reads ≠ some n) :
    Inv ((unboundedQueue.action (.deleteThis t n call)).effect s) := by
  set s' := (unboundedQueue.action (.deleteThis t n call)).effect s
  have hloc : s'.loc =
      Function.update s.loc t { s.loc t with pc := call.after, ret := call.ret } := rfl
  have hself : s'.nodes n = { s.nodes n with deletions := (s.nodes n).deletions + 1 } :=
    Function.update_self ..
  have hother : ∀ m, m ≠ n → s'.nodes m = s.nodes m := fun m hm => Function.update_of_ne hm ..
  have hcare : (s.loc t).pc.care = some (.delete, n) := by rw [hpc]; rfl
  have hmade := h.made t .delete n hcare
  have hnodes : s'.nodes = Function.update s.nodes n
      { s.nodes n with deletions := (s.nodes n).deletions + 1 } := rfl
  have hnext : ∀ m, (s'.nodes m).next = (s.nodes m).next := member_eq _ hnodes rfl
  have hdata : ∀ m, (s'.nodes m).data = (s.nodes m).data := member_eq _ hnodes rfl
  have hcount : ∀ m, (s'.nodes m).refCount = (s.nodes m).refCount := member_eq _ hnodes rfl
  apply h.frame hloc rfl
  case hlinked =>
    apply Linked.congr s' h.linked rfl rfl rfl rfl rfl (Nat.le_refl _) hnext fun m _ => hdata m
    intro m hm
    rw [hother m (Nat.ne_of_gt (Nat.lt_of_lt_of_le hmade hm))]
  case hcounted =>
    intro m
    obtain ⟨hown, hhold, hlook, hdelete⟩ := cares_moves hloc m
    simp only [hcare, care_after, Option.some.injEq, Prod.mk.injEq, reduceCtorEq, false_and,
      true_and, if_false, Nat.add_zero] at hown hhold hlook hdelete
    have hholders : s'.holders m = s.holders m := holders_congr rfl rfl rfl hhold hown
    by_cases hm : m = n
    · subst hm
      have hcounted : Framework.Counted _ _ _ _ _ := h.counted m
      rw [if_pos rfl] at hdelete
      rw [← hdelete] at hcounted
      unfold State.Counted
      rw [hholders, hlook, hself]
      exact hcounted.delete
    · rw [if_neg (Ne.symm hm), Nat.add_zero] at hdelete
      exact State.Counted.congr s' (h.counted m) (hcount m) (by rw [hother m hm])
        hholders hlook hdelete
  case hle =>
    intro m
    rw [hcount]
    exact h.le_two m
  case hcare =>
    intro c m hnew
    rw [care_after] at hnew
    cases hnew
  case hother =>
    intro u _
    apply Knows.frame s' (h.knows u) (List.prefix_refl _) (Nat.le_refl _)
    · intro m k hk
      rw [hnext]
      exact hk
    · exact fun m _ => ⟨id, hnext m, hdata m⟩
    · intro m hm
      -- by the condition nobody is about to read the node
      have hne : m ≠ n := by
        rintro rfl
        exact hreads u hm
      rw [hother m hne]
  case hself =>
    exact knows_after s' _ call rfl

/-- **Step lemma**. -/
theorem inv_step (a : Label Tid T) (h : Inv s) (hg : (unboundedQueue.action a).gate s)
    (hok : ReclaimsInTime s a) : Inv ((unboundedQueue.action a).effect s) := by
  cases a with
  | newNode t address            => exact inv_newNode h hg.1
  | casTail t node oldTail       => exact inv_casTail h hg.1
  | linkNext t node oldTail      => exact inv_linkNext h hg
  | casHead t oldHead headNext   => exact inv_casHead h hg.1 hok
  | readData t oldHead headNext k => exact inv_readData h hg
  | releaseSub t node call       => exact inv_releaseSub h hg hok
  | releaseLoad t node call      => exact inv_releaseLoad h hg
  | deleteThis t node call       => exact inv_deleteThis h hg hok
  -- what is left moves one thread only
  | callEnqueue t x | addSize t | callDequeue t out =>
    exact h.stay (t := t) ⟨rfl, rfl, rfl, rfl, rfl, rfl, rfl⟩ rfl (by rw [hg]; rfl) trivial
  | size t =>
    exact h.stay (t := t) ⟨rfl, rfl, rfl, rfl, rfl, rfl, rfl⟩ rfl rfl
      (knows_after s _ .dequeue hg)
  | subSize t oldHead =>
    have hcare : (Pc.releaseSub oldHead .dequeue).care = (s.loc t).pc.care := by
      rw [show (s.loc t).pc = .subSize oldHead from hg]
      rfl
    have hsame : Same s { s.setPc t (.releaseSub oldHead .dequeue) with size := fetchSub s.size } :=
      ⟨rfl, rfl, rfl, rfl, rfl, rfl, rfl⟩
    exact h.stay (t := t) hsame rfl hcare trivial
  | loadTail t node =>
    have hknows := h.knows t
    rw [Knows, hg] at hknows
    exact h.stay (t := t) ⟨rfl, rfl, rfl, rfl, rfl, rfl, rfl⟩ rfl (by rw [hg]; rfl) hknows
  | casTailFail t node oldTail =>
    have hknows := h.knows t
    rw [Knows, hg.1] at hknows
    exact h.stay (t := t) ⟨rfl, rfl, rfl, rfl, rfl, rfl, rfl⟩ rfl (by rw [hg.1]; rfl) hknows
  | loadHead t =>
    exact h.stay (t := t) ⟨rfl, rfl, rfl, rfl, rfl, rfl, rfl⟩ rfl (by rw [hg]; rfl)
      (h.live_of_mem h.head_mem)
  | casHeadFail t oldHead headNext =>
    exact h.stay (t := t) ⟨rfl, rfl, rfl, rfl, rfl, rfl, rfl⟩ rfl (by rw [hg.1]; rfl)
      (h.live_of_mem h.head_mem)
  | readNext t oldHead =>
    dsimp only [unboundedQueue]
    split
    · exact h.stay (t := t) ⟨rfl, rfl, rfl, rfl, rfl, rfl, rfl⟩ rfl (by rw [hg]; rfl) trivial
    · next headNext hnext =>
      exact h.stay (t := t) ⟨rfl, rfl, rfl, rfl, rfl, rfl, rfl⟩ rfl (by rw [hg]; rfl) hnext

theorem inv_init (hi : unboundedQueue.init s) : Inv s := by
  obtain ⟨hdummy, hblank, hmade, hhead, htail, _, hidle, _, htails, henq, hdeq⟩ := hi
  have hcares : ∀ c n, s.cares c n = 0 := by
    intro c n
    apply tally_eq_zero_iff.mpr
    intro u
    simp [(hidle u).1, Pc.care]
  constructor
  case linked =>
    constructor
    case unmade =>
      intro n hn
      obtain ⟨hnext, hdeletions, _⟩ := hblank n (by omega)
      exact ⟨hnext, hdeletions⟩
    case next =>
      intro i n m hn hm
      rw [htails] at hn
      rw [List.mem_singleton.mp (List.mem_of_getElem? hn), hdummy] at hm
      cases hm
    all_goals simp [htails, henq, hdeq, hhead, htail, hmade]
  case counted =>
    intro n
    unfold State.Counted State.holders
    rw [hcares, hcares, hcares, hcares, htail, htails, hdeq]
    by_cases hn : n = 0
    · rw [hn, hdummy]
      exact .make 2
    · obtain ⟨_, hdeletions, hcount⟩ := hblank n (by omega)
      have hnone : ([0] : List Nat).count n = 0 := by simp [Ne.symm hn]
      rw [hdeletions, hcount, if_neg (Ne.symm hn), List.length_nil, List.drop_zero, hnone]
      exact .make 0
  case le_two =>
    intro n
    by_cases hn : n = 0
    · rw [hn, hdummy]
    · rw [(hblank n (by omega)).2.2]
      omega
  case made =>
    intro u c n hcare
    rw [(hidle u).1] at hcare
    cases hcare
  case knows =>
    intro u
    unfold Knows
    rw [(hidle u).1]
    trivial

/-- **Invariant** over the runs whose steps meet the condition. -/
theorem inv_reachable (h : (unboundedQueue.restrict ReclaimsInTime).Reachable s) : Inv s := by
  apply System.invariant _ _ h
  · intro s hi
    exact inv_init hi
  · intro s a hinv hg
    exact inv_step a hinv hg.1 hg.2

omit [DecidableEq Tid] [Inhabited T] in
theorem Inv.reclaimed (h : Inv s) : Reclaimed s where
  once := fun n => (h.counted n).deleted_le_one
  live := by
    intro t n hderefs
    cases hpc : (s.loc t).pc <;> rw [hpc] at hderefs <;> simp [Pc.derefs] at hderefs <;>
      subst hderefs
    -- what is read without being held
    case readNext => simpa [Knows, hpc] using h.knows t
    case readData =>
      have hknows := h.knows t
      rw [Knows, hpc] at hknows
      exact hknows.2.2
    -- what is in the care of the thread
    case linkNext    => exact h.live (c := .hold) (by decide) (by rw [hpc]; rfl)
    case releaseSub  => exact h.live (c := .hold) (by decide) (by rw [hpc]; rfl)
    case releaseLoad => exact h.live (c := .look) (by decide) (by rw [hpc]; rfl)
    case deleteThis  => exact h.live (c := .delete) (by decide) (by rw [hpc]; rfl)
  fifo := ⟨h.linked.dequeued_le, h.linked.dequeued⟩

end steps

/-! ## Section 6: Reclamation -/

section reclamation
variable [Fintype Tid] [DecidableEq Tid] [Inhabited T]

/-- **Reclamation** of nodes, in every run whose steps meet the condition. -/
theorem reclaimed_reachable (s : State Tid T)
    (h : (unboundedQueue.restrict ReclaimsInTime).Reachable s) : Reclaimed s :=
  (inv_reachable h).reclaimed

/-- An `Enqueue` of 7 by the first thread, up to `release`. -/
def enqueueFirst : List (Label Bool Nat) :=
  [.callEnqueue false 7, .newNode false 1, .loadTail false 1, .casTail false 1 0,
    .linkNext false 1 0]

/-- A `Dequeue` of it, from the load of `head_` up to `release`. -/
def dequeueFirst (t : Bool) : List (Label Bool Nat) :=
  [.readNext t 0, .casHead t 0 1, .readData t 0 1 0, .subSize t 0]

/-- The `release` of the first node, up to the look at its count. -/
def releaseFirst (t : Bool) (call : Call) : List (Label Bool Nat) :=
  [.releaseSub t 0 call, .releaseLoad t 0 call]

/-- One thread enqueues, the other one dequeues and deletes the first node. -/
def inTurn : List (Label Bool Nat) :=
  enqueueFirst ++ releaseFirst false .enqueue ++ [.addSize false, .callDequeue true 0,
    .loadHead true] ++ dequeueFirst true ++ releaseFirst true .dequeue ++
    [.deleteThis true 0 .dequeue]

theorem reclaimed_inTurn :
    Reclaimed ((unboundedQueue.restrict ReclaimsInTime).exec initial inTurn) ∧
      ((unboundedQueue.exec initial inTurn).nodes 0).deletions = 1 ∧
      (unboundedQueue.exec initial inTurn).dequeued = [some 7] := by
  have hreach : (unboundedQueue.restrict ReclaimsInTime).Reachable
      ((unboundedQueue.restrict ReclaimsInTime).exec initial inTurn) :=
    System.reachable_exec (unboundedQueue.restrict ReclaimsInTime) initial_init inTurn (by decide)
  exact ⟨reclaimed_reachable _ hreach, by decide, by decide⟩

/-- A `Dequeue` has loaded `head_` when the other thread deletes the node. -/
def staleHead : List (Label Bool Nat) :=
  [.callDequeue true 0, .loadHead true] ++ enqueueFirst ++ releaseFirst false .enqueue ++
    [.addSize false, .callDequeue false 0, .loadHead false] ++ dequeueFirst false ++
    releaseFirst false .dequeue ++ [.deleteThis false 0 .dequeue]

/-- Both threads lower the count of the first node before they look at it. -/
def bothLower : List (Label Bool Nat) :=
  enqueueFirst ++ [.releaseSub false 0 .enqueue, .callDequeue true 0, .loadHead true] ++
    dequeueFirst true ++ [.releaseSub true 0 .dequeue, .releaseLoad true 0 .dequeue,
    .releaseLoad false 0 .enqueue, .deleteThis true 0 .dequeue, .deleteThis false 0 .enqueue]

/-- A `Dequeue` is about to follow a node that was deleted, and a node is
    deleted twice. -/
theorem reclaimed_early :
    (∃ s, unboundedQueue.Reachable s ∧ s = unboundedQueue.exec initial staleHead ∧
      (s.loc true).pc.derefs = some 0 ∧ (s.nodes 0).deletions = 1 ∧ ¬ Reclaimed s) ∧
    ∃ s, unboundedQueue.Reachable s ∧ s = unboundedQueue.exec initial bothLower ∧
      (s.nodes 0).deletions = 2 ∧ ¬ Reclaimed s := by
  have hstale : (((unboundedQueue.exec initial staleHead).loc true).pc.derefs = some 0 ∧
      ((unboundedQueue.exec initial staleHead).nodes 0).deletions = 1) := by decide
  have htwice : ((unboundedQueue.exec initial bothLower).nodes 0).deletions = 2 := by decide
  constructor
  · refine ⟨_, System.reachable_exec _ initial_init staleHead (by decide), rfl, hstale.1, hstale.2,
      fun h => ?_⟩
    have hlive := h.live true 0 hstale.1
    omega
  · refine ⟨_, System.reachable_exec _ initial_init bothLower (by decide), rfl, htwice,
      fun h => ?_⟩
    have honce := h.once 0
    omega

end reclamation

end CyberRT.Base.UnboundedQueue
