import CyberRT.Base.BoundedQueueFifo

/-! # When the bounded queue answers false

    `Dequeue` finds the queue empty with a snapshot of `head_` that is older
    than the `commit_` it is compared with. Both only grow, so the answer is
    right. But an attempt that lost its compare-and-swap has written to
    `*element` before.

    `Enqueue` compares slots, not positions. A snapshot of `tail_` that
    `head_` has passed by whole laps looks like a full queue. -/

namespace CyberRT.Base.BoundedQueue

open CyberRT.Framework

variable {Tid T : Type}

/-! ## Section 1: Calls -/

/-- `size` elements are reserved and not dequeued. -/
def Full (size : Nat) (s : State Tid T) : Prop := s.tail = s.head + size + 1

/-- There is no committed element. -/
def Empty (s : State Tid T) : Prop := s.head + 1 = s.commit

instance (size : Nat) (s : State Tid T) : Decidable (Full size s) :=
  inferInstanceAs (Decidable (_ = _))

instance (s : State Tid T) : Decidable (Empty s) := inferInstanceAs (Decidable (_ = _))

/-- The label begins a call of the thread. -/
def Label.Calls (t : Tid) : Label Tid T → Prop
  | .callEnqueue u _ | .callDequeue u _ => u = t
  | _ => False

variable [DecidableEq Tid] [Inhabited T]

instance (t : Tid) : ∀ a : Label Tid T, Decidable (a.Calls t)
  | .callEnqueue u _ | .callDequeue u _ => inferInstanceAs (Decidable (u = t))
  | .enqLoadTail _ | .enqLoadHead _ | .enqCasTail _ | .enqCasTailFail _ | .enqWrite _
  | .enqCasCommit _ | .enqCasCommitFail _ | .enqNotify _ | .deqLoadHead _ | .deqLoadCommit _
  | .deqRead _ | .deqCasHead _ | .deqCasHeadFail _ => .isFalse not_false

/-- A call of `t` from a reachable state, and the steps of all threads up to
    a state in which it has returned false. -/
structure FailedCall (size : Nat) (t : Tid) (call : Label Tid T) (s : State Tid T)
    (as : List (Label Tid T)) : Prop where
  reachable : (boundedQueue size).Reachable s
  gate      : ((boundedQueue size).action call).gate s
  steps     : (boundedQueue size).Admits (((boundedQueue size).action call).effect s) as
  one       : ∀ a ∈ as, ¬ a.Calls t
  ret       : (((boundedQueue size).exec (((boundedQueue size).action call).effect s) as).loc
    t).ret = some false

/-- The condition on the steps of the call: the head that `Enqueue` compares
    with has not passed its new tail, and `Dequeue` loses no compare-and-swap. -/
def Unpassed (size : Nat) (t : Tid) (s : State Tid T) : Label Tid T → Prop
  | .enqLoadHead u => u = t →
    getIndex size ((s.loc t).oldTail + 1) = getIndex size s.head → s.head < (s.loc t).oldTail + 1
  | .deqCasHeadFail u => u ≠ t
  | _ => True

instance decidableUnpassed (size : Nat) (t : Tid) (s : State Tid T) :
    ∀ a : Label Tid T, Decidable (Unpassed size t s a)
  | .enqLoadHead u =>
    inferInstanceAs (Decidable (u = t → getIndex size ((s.loc t).oldTail + 1) =
      getIndex size s.head → s.head < (s.loc t).oldTail + 1))
  | .deqCasHeadFail u => inferInstanceAs (Decidable (u ≠ t))
  | .callEnqueue _ _ | .callDequeue _ _ | .enqLoadTail _ | .enqCasTail _ | .enqCasTailFail _
  | .enqWrite _ | .enqCasCommit _ | .enqCasCommitFail _ | .enqNotify _ | .deqLoadHead _
  | .deqLoadCommit _ | .deqRead _ | .deqCasHead _ => .isTrue trivial

/-! ## Section 2: The thread of the call -/

section steps
variable {size : Nat} {s : State Tid T} {t : Tid}

/-- The thread is inside `Enqueue`, or back from it with success. -/
def Enqueueing (l : Local T) : Prop :=
  match l.pc with
  | .enqLoadTail | .enqLoadHead | .enqCasTail | .enqWrite | .enqCasCommit | .enqNotify =>
    l.ret = none
  | .idle => l.ret = some true
  | _ => False

/-- The thread is inside `Dequeue`, or back from it with success. -/
def Dequeueing (l : Local T) : Prop :=
  match l.pc with
  | .deqLoadHead | .deqLoadCommit | .deqRead | .deqCasHead => l.ret = none
  | .idle => l.ret = some true
  | _ => False

/-- The thread has not written to `*element` yet, unless it is about to
    return true. -/
def Unwritten (out : T) (l : Local T) : Prop :=
  match l.pc with
  | .deqLoadHead | .deqLoadCommit | .deqRead => l.ret = none ∧ l.out = out
  | .deqCasHead => l.ret = none
  | .idle => l.ret ≠ some true → l.out = out
  | _ => False

omit [DecidableEq Tid] [Inhabited T] in
/-- The slot of the next tail is that of the head, which has not passed it:
    the queue is full. -/
theorem Inv.full (h : Inv size s) (hpc : (s.loc t).pc = .enqLoadHead)
    (hidx : getIndex size ((s.loc t).oldTail + 1) = getIndex size s.head)
    (hahead : s.head < (s.loc t).oldTail + 1) : Full size s := by
  have hsnapshot : (s.loc t).oldTail ≤ s.tail := by
    have ht := h.threads t
    rwa [ThreadInv, hpc] at ht
  have hroom := h.tail_le
  -- less than a lap ahead the slots would differ
  have hlap : ¬ (s.loc t).oldTail + 1 < s.head + poolSize size := by
    intro hlt
    rw [getIndex_eq_mod, getIndex_eq_mod] at hidx
    exact Ring.mod_ne_of_lt_lap hahead hlt hidx.symm
  simp only [poolSize] at hlap
  unfold Full
  omega

omit [DecidableEq Tid] [Inhabited T] in
/-- The snapshot of the head is still current when it is next to `commit_`. -/
theorem Inv.empty (h : Inv size s) (hpc : (s.loc t).pc = .deqLoadCommit)
    (hnext : (s.loc t).oldHead + 1 = s.commit) : Empty s := by
  have hsnapshot : (s.loc t).oldHead ≤ s.head := by
    have ht := h.threads t
    rwa [ThreadInv, hpc] at ht
  have hhead := h.head_lt_commit
  unfold Empty
  omega

theorem enqueueing_step (h : Inv size s) (hcall : Enqueueing (s.loc t)) (a : Label Tid T)
    (hone : ¬ a.Calls t) (hg : ((boundedQueue size).action a).gate s)
    (hok : Unpassed size t s a) :
    Full size s ∨ Enqueueing ((((boundedQueue size).action a).effect s).loc t) := by
  by_cases ht : a.thread = t
  swap
  · right
    rwa [loc_of_thread_ne ht]
  cases a with
  | callEnqueue u x | callDequeue u x => exact absurd ht hone
  | enqLoadHead u =>
    obtain rfl : u = t := ht
    have hpc : (s.loc u).pc = .enqLoadHead := hg
    dsimp only [boundedQueue]
    split
    · next hidx => exact .inl (h.full hpc hidx (hok rfl hidx))
    · right
      simpa [Enqueueing, hpc] using hcall
  | enqLoadTail u | enqCasTailFail u | enqWrite u =>
    obtain rfl : u = t := ht
    have hpc := hg
    dsimp only [boundedQueue] at hpc
    right
    simpa [boundedQueue, Enqueueing, hpc] using hcall
  | enqCasTail u | enqCasCommit u =>
    obtain rfl : u = t := ht
    have hpc := hg.1
    right
    simpa [boundedQueue, Enqueueing, hpc] using hcall
  | enqCasCommitFail u => exact .inr hcall
  | enqNotify u =>
    obtain rfl : u = t := ht
    right
    simp [boundedQueue, Enqueueing]
  | deqLoadHead u | deqLoadCommit u | deqRead u | deqCasHeadFail u =>
    -- no step of an `Enqueue`
    obtain rfl : u = t := ht
    have hpc := hg
    dsimp only [boundedQueue] at hpc
    simp [Enqueueing, hpc] at hcall
  | deqCasHead u =>
    obtain rfl : u = t := ht
    have hpc := hg.1
    simp [Enqueueing, hpc] at hcall

theorem dequeueing_step (h : Inv size s) (hcall : Dequeueing (s.loc t)) (a : Label Tid T)
    (hone : ¬ a.Calls t) (hg : ((boundedQueue size).action a).gate s) :
    Empty s ∨ Dequeueing ((((boundedQueue size).action a).effect s).loc t) := by
  by_cases ht : a.thread = t
  swap
  · right
    rwa [loc_of_thread_ne ht]
  cases a with
  | callEnqueue u x | callDequeue u x => exact absurd ht hone
  | deqLoadCommit u =>
    obtain rfl : u = t := ht
    have hpc : (s.loc u).pc = .deqLoadCommit := hg
    dsimp only [boundedQueue]
    split
    · next hnext => exact .inl (h.empty hpc hnext)
    · right
      simpa [Dequeueing, hpc] using hcall
  | deqLoadHead u | deqRead u | deqCasHeadFail u =>
    obtain rfl : u = t := ht
    have hpc := hg
    dsimp only [boundedQueue] at hpc
    right
    simpa [boundedQueue, Dequeueing, hpc] using hcall
  | deqCasHead u =>
    obtain rfl : u = t := ht
    right
    simp [boundedQueue, Dequeueing]
  | enqLoadTail u | enqLoadHead u | enqCasTailFail u | enqWrite u | enqCasCommitFail u
  | enqNotify u =>
    -- no step of a `Dequeue`
    obtain rfl : u = t := ht
    have hpc := hg
    dsimp only [boundedQueue] at hpc
    simp [Dequeueing, hpc] at hcall
  | enqCasTail u | enqCasCommit u =>
    obtain rfl : u = t := ht
    have hpc := hg.1
    simp [Dequeueing, hpc] at hcall

/-- Only a read of a slot writes to `*element`, and without a lost
    compare-and-swap it is followed by success. -/
theorem unwritten_step {out : T} (hcall : Unwritten out (s.loc t)) (a : Label Tid T)
    (hone : ¬ a.Calls t) (hg : ((boundedQueue size).action a).gate s)
    (hok : Unpassed size t s a) :
    Unwritten out ((((boundedQueue size).action a).effect s).loc t) := by
  by_cases ht : a.thread = t
  swap
  · rwa [loc_of_thread_ne ht]
  cases a with
  | callEnqueue u x | callDequeue u x => exact absurd ht hone
  | deqCasHeadFail u => exact absurd ht hok
  | deqLoadCommit u =>
    obtain rfl : u = t := ht
    have hpc : (s.loc u).pc = .deqLoadCommit := hg
    simp only [Unwritten, hpc] at hcall
    dsimp only [boundedQueue]
    split <;> simp [Unwritten, hcall]
  | deqLoadHead u =>
    obtain rfl : u = t := ht
    have hpc : (s.loc u).pc = .deqLoadHead := hg
    simpa [boundedQueue, Unwritten, hpc] using hcall
  | deqRead u =>
    obtain rfl : u = t := ht
    have hpc : (s.loc u).pc = .deqRead := hg
    simp only [Unwritten, hpc] at hcall
    simp [boundedQueue, Unwritten, hcall.1]
  | deqCasHead u =>
    obtain rfl : u = t := ht
    simp [boundedQueue, Unwritten]
  | enqLoadTail u | enqLoadHead u | enqCasTailFail u | enqWrite u | enqCasCommitFail u
  | enqNotify u =>
    obtain rfl : u = t := ht
    have hpc := hg
    dsimp only [boundedQueue] at hpc
    simp [Unwritten, hpc] at hcall
  | enqCasTail u | enqCasCommit u =>
    obtain rfl : u = t := ht
    have hpc := hg.1
    simp [Unwritten, hpc] at hcall

end steps

/-! ## Section 3: Failed calls -/

section calls
variable {size : Nat} {t : Tid} {s : State Tid T} {as : List (Label Tid T)}

/-- **Enqueue fails only when full**, unless a head has passed its tail. -/
theorem FailedCall.full {x : T} (h : FailedCall size t (.callEnqueue t x) s as)
    (hok : ((boundedQueue size).restrict (Unpassed size t)).Admits
      (((boundedQueue size).action (.callEnqueue t x)).effect s) as) :
    (boundedQueue size).Passes (Full size)
      (((boundedQueue size).action (.callEnqueue t x)).effect s) as := by
  rw [← System.passes_restrict _ (Unpassed size t)]
  refine System.Admits.passes (P := fun s => Inv size s ∧ Enqueueing (s.loc t)) ?_ hok h.one ?_ ?_
  · rintro s a hone ⟨hinv, hcall⟩ ⟨hg, hok⟩
    rcases enqueueing_step hinv hcall a hone hg hok with hfull | hcall'
    · exact .inl hfull
    · exact .inr ⟨hinv.step a hg, hcall'⟩
  · refine ⟨(inv_reachable h.reachable).step _ h.gate, ?_⟩
    simp [boundedQueue, Enqueueing]
  · rintro ⟨-, hcall⟩
    rw [System.exec_restrict] at hcall
    have hret := h.ret
    unfold Enqueueing at hcall
    split at hcall <;> simp_all

/-- **Dequeue fails only when empty**. -/
theorem FailedCall.empty {out : T} (h : FailedCall size t (.callDequeue t out) s as) :
    (boundedQueue size).Passes Empty
      (((boundedQueue size).action (.callDequeue t out)).effect s) as := by
  refine System.Admits.passes (P := fun s => Inv size s ∧ Dequeueing (s.loc t)) ?_ h.steps h.one
    ?_ ?_
  · rintro s a hone ⟨hinv, hcall⟩ hg
    rcases dequeueing_step hinv hcall a hone hg with hempty | hcall'
    · exact .inl hempty
    · exact .inr ⟨hinv.step a hg, hcall'⟩
  · refine ⟨(inv_reachable h.reachable).step _ h.gate, ?_⟩
    simp [boundedQueue, Dequeueing]
  · rintro ⟨-, hcall⟩
    have hret := h.ret
    unfold Dequeueing at hcall
    split at hcall <;> simp_all

/-- **A failed dequeue leaves `*element` unchanged** when it has lost no
    compare-and-swap. -/
theorem FailedCall.out {out : T} (h : FailedCall size t (.callDequeue t out) s as)
    (hok : ((boundedQueue size).restrict (Unpassed size t)).Admits
      (((boundedQueue size).action (.callDequeue t out)).effect s) as) :
    (((boundedQueue size).exec
      (((boundedQueue size).action (.callDequeue t out)).effect s) as).loc t).out = out := by
  have hrun := System.run_exec _ _ _ hok
  rw [System.exec_restrict] at hrun
  have hret := h.ret
  have hcall := hrun.invariant (P := fun s => Unwritten out (s.loc t)) ?_ h.one ?_
  · unfold Unwritten at hcall
    split at hcall <;> simp_all
  · intro s a hone hcall hg
    exact unwritten_step hcall a hone hg.1 hg.2
  · simp [boundedQueue, Unwritten]

end calls

/-- **Failed calls**: a `Dequeue` returns false only if the queue was empty
    at some moment of the call. If the steps of the call meet the condition,
    an `Enqueue` returns false only if the queue was full at some moment, and
    a failed `Dequeue` leaves `*element` unchanged. -/
theorem boundedQueue_failsWhenItMust (size : Nat) (t : Tid) (call : Label Tid T) (s : State Tid T)
    (as : List (Label Tid T)) (h : FailedCall size t call s as) :
    let s' := ((boundedQueue size).action call).effect s
    let unpassed := ((boundedQueue size).restrict (Unpassed size t)).Admits s' as
    (∀ x, call = .callEnqueue t x → unpassed → (boundedQueue size).Passes (Full size) s' as) ∧
    (∀ out, call = .callDequeue t out → (boundedQueue size).Passes Empty s' as ∧
      (unpassed → (((boundedQueue size).exec s' as).loc t).out = out)) := by
  intro s' unpassed
  constructor
  · rintro x rfl hok
    exact h.full hok
  · rintro out rfl
    exact ⟨h.empty, fun hok => h.out hok⟩

/-- One whole `Enqueue` of `x` by thread `true`. -/
def enqueueOne (x : Nat) : List (Label Bool Nat) :=
  [.callEnqueue true x, .enqLoadTail true, .enqLoadHead true, .enqCasTail true, .enqWrite true,
    .enqCasCommit true, .enqNotify true]

/-- One whole `Dequeue` by thread `true`. -/
def dequeueOne : List (Label Bool Nat) :=
  [.callDequeue true 0, .deqLoadHead true, .deqLoadCommit true, .deqRead true, .deqCasHead true]

theorem boundedQueue_failsWhenItMust_oneElement :
    ∃ s as, FailedCall 1 false (.callEnqueue false 8) s as ∧
      (boundedQueue 1).Passes (Full 1)
        (((boundedQueue 1).action (.callEnqueue false 8)).effect s) as := by
  let s : State Bool Nat := (boundedQueue 1).exec initial (enqueueOne 7)
  let as : List (Label Bool Nat) := [.enqLoadTail false, .enqLoadHead false]
  have hreach : (boundedQueue 1).Reachable s :=
    System.reachable_exec _ (initial_init 1) _ (by decide)
  have hfailed : FailedCall 1 false (.callEnqueue false 8) s as :=
    ⟨hreach, by decide, by decide, by decide, by decide⟩
  have hmust := boundedQueue_failsWhenItMust 1 false _ s as hfailed
  exact ⟨s, as, hfailed, hmust.1 8 rfl (by decide)⟩

/-- An `Enqueue` loads the tail before two elements go through the queue one
    at a time, and fails on a queue that is never full. A `Dequeue` reads the
    only element, loses it, and fails with it in `*element`. -/
theorem boundedQueue_failsSpuriously :
    (∃ s as, FailedCall 2 false (.callEnqueue false 9) s as ∧
      ¬ (boundedQueue 2).Passes (Full 2)
        (((boundedQueue 2).action (.callEnqueue false 9)).effect s) as) ∧
    (∃ s as, FailedCall 2 false (.callDequeue false 0) s as ∧
      (((boundedQueue 2).exec
        (((boundedQueue 2).action (.callDequeue false 0)).effect s) as).loc false).out ≠ 0) := by
  constructor
  · let as : List (Label Bool Nat) := .enqLoadTail false ::
      (enqueueOne 7 ++ dequeueOne ++ enqueueOne 8 ++ dequeueOne ++ [.enqLoadHead false])
    have hreach : (boundedQueue 2).Reachable (initial : State Bool Nat) := .init (initial_init 2)
    exact ⟨initial, as, ⟨hreach, by decide, by decide, by decide, by decide⟩, by decide⟩
  · let s : State Bool Nat := (boundedQueue 2).exec initial (enqueueOne 7)
    let as : List (Label Bool Nat) := [.deqLoadHead false, .deqLoadCommit false, .deqRead false] ++
      dequeueOne ++ [.deqCasHeadFail false, .deqLoadCommit false]
    have hreach : (boundedQueue 2).Reachable s :=
      System.reachable_exec _ (initial_init 2) _ (by decide)
    exact ⟨s, as, ⟨hreach, by decide, by decide, by decide, by decide⟩, by decide⟩

end CyberRT.Base.BoundedQueue
