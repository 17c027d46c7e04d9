import CyberRT.Base.AtomicRwLock

/-! # The atomic reader-writer lock with any number of guards

    Threads that nest guards use the lock with one of its threads for each
    guard, and there is no bound on how deep they nest. The counts of the
    lock's invariant are those of finitely many: a run is also one of the
    finitely many guards that take a step in it. -/

namespace CyberRT.Base.AtomicRwLock

open CyberRT.Framework

variable {Tid : Type}

/-! ## Section 1: Finitely many guards -/

/-- The same step, taken by another thread. -/
def Label.byThread {Tid' : Type} (a : Label Tid) (t : Tid') : Label Tid' :=
  match a with
  | .readLock _      => .readLock t
  | .readLoad _      => .readLoad t
  | .readCheck _     => .readCheck t
  | .readReload _    => .readReload t
  | .readCas _       => .readCas t
  | .readCasFail _   => .readCasFail t
  | .readUnlock _    => .readUnlock t
  | .writeLock _     => .writeLock t
  | .writeAnnounce _ => .writeAnnounce t
  | .writeCas _      => .writeCas t
  | .writeCasFail _  => .writeCasFail t
  | .writeWithdraw _ => .writeWithdraw t
  | .writeUnlock _   => .writeUnlock t

/-- The lock with only these threads. -/
def State.among (s : State Tid) (threads : Finset Tid) : State threads where
  lockNum          := s.lockNum
  writeLockWaitNum := s.writeLockWaitNum
  loc              := fun t => s.loc t

section among
variable [DecidableEq Tid] {writeFirst : Bool} {threads : Finset Tid}

theorem among_setLoc (s : State Tid) {t : Tid} (ht : t ∈ threads) (l : Local) :
    (s.setLoc t l).among threads = (s.among threads).setLoc ⟨t, ht⟩ l := by
  simp only [State.among, State.setLoc, State.mk.injEq, true_and]
  funext u
  by_cases hu : u.val = t
  · have heq : u = ⟨t, ht⟩ := Subtype.ext hu
    rw [heq, Function.update_self, Function.update_self]
  · have hne : u ≠ ⟨t, ht⟩ := fun heq => hu (congrArg Subtype.val heq)
    rw [Function.update_of_ne hu, Function.update_of_ne hne]

/-- A reader finds the lock shut. -/
theorem readCheck_shut {s : State Tid} {t : Tid} (h : (s.loc t).lockNum < rwLockFree ∨
      (writeFirst = true ∧ 0 < s.writeLockWaitNum)) :
    ((atomicRwLock writeFirst).action (.readCheck t)).effect s =
      s.setLoc t { s.loc t with pc := .readReload, retryTimes := retry (s.loc t).retryTimes } :=
  if_pos h

/-- A reader finds the lock open. -/
theorem readCheck_open {s : State Tid} {t : Tid} (h : ¬ ((s.loc t).lockNum < rwLockFree ∨
      (writeFirst = true ∧ 0 < s.writeLockWaitNum))) :
    ((atomicRwLock writeFirst).action (.readCheck t)).effect s =
      s.setLoc t { s.loc t with pc := .readCas } :=
  if_neg h

/-- A step of one of the threads is the same step among them. -/
theorem among_step (s : State Tid) (a : Label Tid) (ha : a.thread ∈ threads)
    (hg : ((atomicRwLock writeFirst).action a).gate s) :
    (atomicRwLock writeFirst).step (s.among threads) (a.byThread ⟨a.thread, ha⟩)
      ((((atomicRwLock writeFirst).action a).effect s).among threads) := by
  refine ⟨by cases a <;> exact hg, ?_⟩
  have hmove := fun l => among_setLoc s ha l
  -- `readCheck` branches; the other steps move their thread and the counters
  cases a with
  | readCheck t =>
    by_cases hshut : (s.loc t).lockNum < rwLockFree ∨ (writeFirst = true ∧ 0 < s.writeLockWaitNum)
    · rw [readCheck_shut hshut, among_setLoc s (t := t) ha]
      exact (if_pos hshut).symm
    · rw [readCheck_open hshut, among_setLoc s (t := t) ha]
      exact (if_neg hshut).symm
  | readCas t | readUnlock t | writeAnnounce t | writeCas t | writeWithdraw t | writeUnlock t =>
    have hloc := fun l => congrArg State.loc (hmove l)
    exact congrArg (State.mk _ _) (hloc _)
  | _ => exact hmove _

/-- **Support**: a reachable state is reachable with finitely many threads,
    and with any that are more. -/
theorem reachable_among {s : State Tid} (h : (atomicRwLock writeFirst).Reachable s) :
    ∃ seen : Finset Tid, ∀ threads, seen ⊆ threads →
      (atomicRwLock writeFirst).Reachable (s.among threads) := by
  induction h with
  | init hi =>
    refine ⟨∅, fun threads _ => .init ?_⟩
    exact ⟨hi.1, hi.2.1, fun t => hi.2.2 t⟩
  | @step s s' a _ hstep ih =>
    obtain ⟨seen, hseen⟩ := ih
    obtain ⟨hg, rfl⟩ := hstep
    -- the thread of the last step joins those seen
    refine ⟨insert a.thread seen, fun threads hsub => ?_⟩
    have ha : a.thread ∈ threads := hsub (Finset.mem_insert_self _ _)
    exact .step _ (hseen threads fun t ht => hsub (Finset.mem_insert_of_mem ht))
      (among_step s a ha hg)

/-! ## Section 2: One guard moves -/

/-- The other guards stay. -/
theorem effect_loc_of_ne (writeFirst : Bool) (s : State Tid) (a : Label Tid) {t : Tid}
    (ht : t ≠ a.thread) :
    (((atomicRwLock writeFirst).action a).effect s).loc t = s.loc t := by
  cases a with
  | readCheck u =>
    dsimp only [atomicRwLock]
    split <;> exact Function.update_of_ne ht _ _
  | _ => exact Function.update_of_ne ht _ _

/-- Only `writeWithdraw` takes from the number of announced writers. -/
theorem writeLockWaitNum_le (writeFirst : Bool) (s : State Tid) (a : Label Tid)
    (ha : a ≠ .writeWithdraw a.thread) :
    s.writeLockWaitNum ≤ (((atomicRwLock writeFirst).action a).effect s).writeLockWaitNum := by
  cases a with
  | readCheck u =>
    dsimp only [atomicRwLock]
    split <;> exact Nat.le_refl _
  | writeAnnounce u => exact Nat.le_succ _
  | writeWithdraw u => exact absurd rfl ha
  | _ => exact Nat.le_refl _

/-! ## Section 3: Readers -/

omit [DecidableEq Tid] in
theorem standing_pos [Fintype Tid] {kind : Pc → Bool} {s : State Tid} {t : Tid}
    (h : kind (s.loc t).pc = true) : 0 < s.standing kind :=
  tally_pos (P := fun l : Local => kind l.pc = true) h

/-- As long as one guard reads, the lock word is positive and none writes. -/
theorem reads_excludes {s : State Tid} (h : (atomicRwLock writeFirst).Reachable s) {t : Tid}
    (ht : (s.loc t).pc.reads = true) : 0 < s.lockNum ∧ ∀ u, (s.loc u).pc.writes = false := by
  obtain ⟨seen, hseen⟩ := reachable_among h
  have hreaders : ∀ threads : Finset Tid, t ∈ threads → 0 < (s.among threads).readers := by
    intro threads hmem
    have hthere : ((s.among threads).loc ⟨t, hmem⟩).pc.reads = true := ht
    exact standing_pos hthere
  constructor
  · have hsub : seen ⊆ insert t seen := Finset.subset_insert _ _
    have hlock := (inv_reachable (hseen _ hsub)).lock
    have hpos := hreaders _ (Finset.mem_insert_self t seen)
    obtain ⟨hword, _, hexclusive⟩ := hlock
    have hword' : s.lockNum = _ := hword
    omega
  · -- among threads with both of them a writer would be alone
    intro u
    have hsub : seen ⊆ insert u (insert t seen) :=
      (Finset.subset_insert _ _).trans (Finset.subset_insert _ _)
    have hlock := (inv_reachable (hseen _ hsub)).lock
    have hpos := hreaders (insert u (insert t seen)) (by simp)
    by_contra hwrites
    have hthere : ((s.among (insert u (insert t seen))).loc ⟨u, by simp⟩).pc.writes = true :=
      (Bool.not_eq_false _).mp hwrites
    have hwriters : 0 < (s.among (insert u (insert t seen))).writers := standing_pos hthere
    have hnone := hlock.exclusive hwriters
    omega

end among

end CyberRT.Base.AtomicRwLock
