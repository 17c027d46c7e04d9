import CyberRT.Task.TaskFutures

/-! # Whether a valid future has a task

    A call that has not found the queue full commits its element before it
    is back from the queue, and what is committed is in the queue or was
    taken. Only the task manager's future of a call that found `stop_` set
    is valid without that. -/

namespace CyberRT.Task.Futures

open CyberRT.Framework CyberRT.Base

variable {Tid F : Type} [DecidableEq Tid]

/-! ## Section 1: The condition -/

/-- The condition: a call of the task manager does not find `stop_` set, and
    the insertion does not find the head in the slot of its new tail. -/
def Accepted (owner : Owner) (size : Nat) (s : State Tid F) : Label Tid F → Prop
  | .checkStop _ => owner = .taskManager → s.stop = false
  | .queue (.queue (.enqLoadHead t)) =>
    BoundedQueue.getIndex size ((s.queue.queue.loc t).oldTail + 1) ≠
      BoundedQueue.getIndex size s.queue.queue.head
  | _ => True

instance decidableAccepted (owner : Owner) (size : Nat) (s : State Tid F) :
    ∀ a : Label Tid F, Decidable (Accepted owner size s a)
  | .checkStop _ => inferInstanceAs (Decidable (owner = .taskManager → s.stop = false))
  | .queue (.queue (.enqLoadHead t)) =>
    inferInstanceAs (Decidable (BoundedQueue.getIndex size ((s.queue.queue.loc t).oldTail + 1) ≠
      BoundedQueue.getIndex size s.queue.queue.head))
  | .queue (.queue (.callEnqueue _ _)) | .queue (.queue (.callDequeue _ _))
  | .queue (.queue (.enqLoadTail _)) | .queue (.queue (.enqCasTail _))
  | .queue (.queue (.enqCasTailFail _)) | .queue (.queue (.enqWrite _))
  | .queue (.queue (.enqCasCommit _)) | .queue (.queue (.enqCasCommitFail _))
  | .queue (.queue (.enqNotify _)) | .queue (.queue (.deqLoadHead _))
  | .queue (.queue (.deqLoadCommit _)) | .queue (.queue (.deqRead _))
  | .queue (.queue (.deqCasHead _)) | .queue (.queue (.deqCasHeadFail _))
  | .queue (.notifyOne _ _) | .queue (.waitEnqueue _ _) | .queue (.waitDequeue _ _)
  | .queue (.breakAllWait _) | .queue (.testFlag _) | .queue (.attempted _) | .queue (.lock _)
  | .queue (.wait _) | .queue (.relock _) | .queue (.unlock _) | .queue (.setFlag _)
  | .queue (.notifyAll _) | .enqueue _ _ | .insert _ | .inserted _ | .work _ | .loopTest _
  | .dequeue _ | .dequeued _ | .hangUp _ | .run _ | .shutdown _ | .exchange _
  | .breakAllWait _ | .broken _ | .join _ => .isTrue trivial

/-! ## Section 2: An insertion -/

section insertion
variable {size : Nat} {q : BoundedQueue.State Tid (Element Tid F)} {x : Element Tid F} {t : Tid}

/-- The thread inserts `x`, or is back and has committed it. -/
def Inserting (q : BoundedQueue.State Tid (Element Tid F)) (t : Tid) (x : Element Tid F) : Prop :=
  (q.loc t).element = x ∧
    match (q.loc t).pc with
    | .enqLoadTail | .enqLoadHead | .enqCasTail | .enqWrite | .enqCasCommit => True
    | .enqNotify | .idle => BoundedQueue.Committed q x
    | _ => False

/-- An insertion that finds room goes on. -/
theorem Inserting.step (h : Inserting q t x) (hinv : BoundedQueue.Inv size q)
    (a : BoundedQueue.Label Tid (Element Tid F))
    (hg : ((BoundedQueue.boundedQueue size).action a).gate q)
    (hcall : ∀ y, a ≠ .callEnqueue t y ∧ a ≠ .callDequeue t y)
    (hroom : a = .enqLoadHead t → BoundedQueue.getIndex size ((q.loc t).oldTail + 1) ≠
      BoundedQueue.getIndex size q.head) :
    Inserting (((BoundedQueue.boundedQueue size).action a).effect q) t x := by
  obtain ⟨helement, hat⟩ := h
  have hkept (hc : BoundedQueue.Committed q x) :
      BoundedQueue.Committed (((BoundedQueue.boundedQueue size).action a).effect q) x :=
    hc.step hinv a hg
  by_cases ht : a.thread = t
  swap
  · -- another thread's step commits at most more
    rw [Inserting, BoundedQueue.loc_of_thread_ne ht]
    refine ⟨helement, ?_⟩
    split at hat <;> simp_all
  cases a with
  | callEnqueue u y => exact absurd rfl (ht ▸ (hcall y).1)
  | callDequeue u y => exact absurd rfl (ht ▸ (hcall y).2)
  | enqLoadHead u =>
    obtain rfl : u = t := ht
    have heffect : ((BoundedQueue.boundedQueue size).action (.enqLoadHead u)).effect q =
        q.setLoc u { q.loc u with pc := .enqCasTail, newTail := (q.loc u).oldTail + 1 } :=
      if_neg (hroom rfl)
    rw [heffect]
    simp [Inserting, helement]
  | enqCasCommit u =>
    obtain rfl : u = t := ht
    obtain ⟨hpc, hcommit⟩ := hg
    have hres := (hinv.threads u).reserved (.inr hpc)
    have hnew := hres.newTail_eq
    have hcle := hinv.head_lt_commit
    refine ⟨by simpa [BoundedQueue.boundedQueue] using helement, ?_⟩
    have hcommitted : BoundedQueue.Committed
        (((BoundedQueue.boundedQueue size).action (.enqCasCommit u)).effect q) x := by
      refine ⟨(q.loc u).oldTail, by omega, ?_, ?_⟩
      · show (q.loc u).oldTail < (q.loc u).newTail
        omega
      · rw [← helement]
        exact hres.element_eq
    simpa [BoundedQueue.boundedQueue] using hcommitted
  | enqNotify u =>
    obtain rfl : u = t := ht
    have hpc : (q.loc u).pc = .enqNotify := hg
    simp only [hpc] at hat
    have hcommitted := hkept hat
    refine ⟨by simpa [BoundedQueue.boundedQueue] using helement, ?_⟩
    simpa [BoundedQueue.boundedQueue] using hcommitted
  | enqCasCommitFail u => exact ⟨helement, hat⟩
  | enqLoadTail u | enqCasTailFail u | enqWrite u =>
    obtain rfl : u = t := ht
    simp [BoundedQueue.boundedQueue, Inserting, helement]
  | enqCasTail u =>
    obtain rfl : u = t := ht
    simp [BoundedQueue.boundedQueue, Inserting, helement]
  | deqLoadHead u | deqLoadCommit u | deqRead u | deqCasHeadFail u =>
    -- no step of an insertion
    obtain rfl : u = t := ht
    have hpc := hg
    dsimp only [BoundedQueue.boundedQueue] at hpc
    simp [hpc] at hat
  | deqCasHead u =>
    obtain rfl : u = t := ht
    simp [hg.1] at hat

end insertion

/-! ## Section 3: Invariant -/

section invariant
variable {size : Nat} {owner : Owner} {s s' : State Tid F} {t : Tid} {l : Local Tid F}

/-- **Invariant** of the runs that meet the condition. -/
structure Inv (size : Nat) (s : State Tid F) : Prop where
  queue     : BoundedQueue.Inv size s.queue.queue
  inserting : ∀ t, (s.loc t).pc = .inserting →
    (s.queue.waiters t).pc = .outside ∧ Inserting s.queue.queue t (s.loc t).task
  future    : ∀ t task, (s.loc t).future = some (some task) →
    BoundedQueue.Committed s.queue.queue (some task)

theorem inv_init (h : (enqueuer owner size).init s) : Inv size s := by
  obtain ⟨-, hqueue, hidle⟩ := h
  constructor
  · exact BoundedQueue.inv_init hqueue.1
  · intro t hpc
    simp [(hidle t).1] at hpc
  · intro t task hfuture
    simp [(hidle t).2] at hfuture

/-- The label makes a call of the thread. -/
def CallsFor (t : Tid) : BlockingQueue.Label Tid (Element Tid F) → Prop
  | .queue (.callEnqueue u _) | .queue (.callDequeue u _) | .waitEnqueue u _
  | .waitDequeue u _ | .breakAllWait u => u = t
  | _ => False

/-- The queue takes a step: whoever inserts goes on with it. -/
theorem inserting_step {q : BlockingQueue.State Tid (Element Tid F)} {x : Element Tid F}
    (hinv : BoundedQueue.Inv size q.queue) (hout : (q.waiters t).pc = .outside)
    (h : Inserting q.queue t x) (b : BlockingQueue.Label Tid (Element Tid F))
    (hg : ((BlockingQueue.blockingQueue size).action b).gate q) (hcall : ¬ CallsFor t b)
    (hroom : b = .queue (.enqLoadHead t) →
      BoundedQueue.getIndex size ((q.queue.loc t).oldTail + 1) ≠
        BoundedQueue.getIndex size q.queue.head) :
    let q' := ((BlockingQueue.blockingQueue size).action b).effect q
    (q'.waiters t).pc = .outside ∧ Inserting q'.queue t x := by
  by_cases ht : b.thread = t
  swap
  · obtain ⟨hwaiter, hloc⟩ := BlockingQueue.outside_of_thread_ne hout b hg ht
    refine ⟨by rw [hwaiter, hout], ?_⟩
    obtain ⟨helement, hat⟩ := h
    have hkept (hc : BoundedQueue.Committed q.queue x) :=
      BlockingQueue.committed_step hinv hc b hg
    rw [Inserting, hloc]
    refine ⟨helement, ?_⟩
    split at hat <;> simp_all
  cases b with
  | queue a =>
    refine ⟨hout, h.step hinv a hg.1 ?_ ?_⟩
    · rintro y
      constructor <;> rintro rfl <;> exact hcall rfl
    · rintro rfl
      exact hroom rfl
  | notifyOne u woken =>
    obtain rfl : u = t := ht
    constructor
    · cases woken with
      | none => exact hout
      | some w =>
        have hw : u ≠ w := by
          rintro rfl
          simp [hg.2] at hout
        simpa [BlockingQueue.blockingQueue, hw] using hout
    · exact h.step hinv (.enqNotify u) hg.1 (by simp) (by simp)
  | waitEnqueue u y | waitDequeue u y | breakAllWait u => exact absurd ht hcall
  | attempted u | lock u | relock u =>
    -- the thread is in no waiting call
    obtain rfl : u = t := ht
    simp [hg.1] at hout
  | testFlag u | wait u | unlock u | setFlag u | notifyAll u =>
    obtain rfl : u = t := ht
    have hpc := hg
    simp only [BlockingQueue.blockingQueue] at hpc
    simp [hpc] at hout

/-- The queue takes a step that a call or the queue itself makes. -/
theorem Inv.queueStep (h : Inv size s) (b : BlockingQueue.Label Tid (Element Tid F))
    (hg : ((BlockingQueue.blockingQueue size).action b).gate s.queue)
    (hcall : ∀ u, (s.loc u).pc = .inserting → ¬ CallsFor u b)
    (hroom : ∀ u, b = .queue (.enqLoadHead u) →
      BoundedQueue.getIndex size ((s.queue.queue.loc u).oldTail + 1) ≠
        BoundedQueue.getIndex size s.queue.queue.head) :
    Inv size { s with queue := ((BlockingQueue.blockingQueue size).action b).effect s.queue } := by
  constructor
  · exact BlockingQueue.inv_step h.queue b hg
  · intro u hu
    obtain ⟨hout, hins⟩ := h.inserting u hu
    exact inserting_step h.queue hout hins b hg (hcall u hu) (hroom u)
  · intro u task hfuture
    exact BlockingQueue.committed_step h.queue (h.future u task hfuture) b hg

/-- A thread moves outside of the queue. -/
theorem Inv.setLoc (h : Inv size s) (hpc : l.pc = .inserting →
      (s.queue.waiters t).pc = .outside ∧ Inserting s.queue.queue t l.task)
    (hfuture : ∀ task, l.future = some (some task) →
      BoundedQueue.Committed s.queue.queue (some task)) : Inv size (s.setLoc t l) := by
  constructor
  · exact h.queue
  · intro u hu
    by_cases hut : u = t
    · subst hut
      simp only [setLoc_loc, Function.update_self] at hu ⊢
      exact hpc hu
    · simp only [setLoc_loc, Function.update_of_ne hut] at hu ⊢
      exact h.inserting u hu
  · intro u task hu
    by_cases hut : u = t
    · subst hut
      simp only [setLoc_loc, Function.update_self] at hu
      exact hfuture task hu
    · simp only [setLoc_loc, Function.update_of_ne hut] at hu
      exact h.future u task hu

/-- The thread keeps its future. -/
theorem Inv.setPc (h : Inv size s) {pc : Pc} (hpc : pc ≠ .inserting) :
    Inv size (s.setLoc t { s.loc t with pc := pc }) :=
  h.setLoc (fun hins => absurd hins hpc) (h.future t)

omit [DecidableEq Tid] in
/-- A call that thread `t` makes disturbs no insertion of another thread. -/
theorem not_callsFor {b : BlockingQueue.Label Tid (Element Tid F)} (hb : CallsFor t b)
    (hpc : (s.loc t).pc ≠ .inserting) (u : Tid) (hu : (s.loc u).pc = .inserting) :
    ¬ CallsFor u b := by
  intro hub
  have hut : u = t := by
    cases b with
    | queue a => cases a <;> simp_all [CallsFor]
    | _ => simp_all [CallsFor]
  exact hpc (hut ▸ hu)

omit [DecidableEq Tid] in
theorem inner_not_callsFor {b : BlockingQueue.Label Tid (Element Tid F)} (hb : Inner b)
    (u : Tid) : ¬ CallsFor u b := by
  cases b with
  | queue a => cases a <;> simp_all [CallsFor, Inner]
  | _ => simp_all [CallsFor, Inner]

/-- The thread begins its insertion. -/
theorem Inv.insert (h : Inv size s) (hpc : (s.loc t).pc = .insert)
    (hg : ((BlockingQueue.blockingQueue size).action
      (.queue (.callEnqueue t (s.loc t).task))).gate s.queue) :
    Inv size { s.setLoc t { s.loc t with pc := .inserting } with
      queue := ((BlockingQueue.blockingQueue size).action
        (.queue (.callEnqueue t (s.loc t).task))).effect s.queue } := by
  have hcalls : CallsFor t (.queue (.callEnqueue t (s.loc t).task)) := rfl
  have hnext := h.queueStep _ hg (not_callsFor hcalls (by simp [hpc])) (by simp)
  apply hnext.setLoc (l := { s.loc t with pc := .inserting })
  · intro _
    refine ⟨hg.2, ?_⟩
    simp [BlockingQueue.blockingQueue, BoundedQueue.boundedQueue, Inserting]
  · exact hnext.future t

/-- **Step lemma**. -/
theorem Inv.step (h : Inv size s) (a : Label Tid F) (hg : ((enqueuer owner size).action a).gate s)
    (hok : Accepted owner size s a) : Inv size (((enqueuer owner size).action a).effect s) := by
  cases a with
  | queue b =>
    apply h.queueStep b hg.1
    · exact fun u _ => inner_not_callsFor hg.2 u
    · rintro u rfl
      exact hok
  | enqueue t func =>
    apply h.setLoc
    · simp
    · simp
  | checkStop t =>
    dsimp only [enqueuer]
    by_cases hstop : s.stop = true
    · rw [if_pos hstop]
      cases owner with
      | taskManager => simp [hok rfl] at hstop
      | threadPool =>
        -- the future is invalid
        apply h.setLoc
        · simp
        · simp
    · rw [if_neg hstop]
      exact h.setPc (by simp)
  | insert t => exact h.insert hg.1 hg.2
  | inserted t =>
    -- the insertion was accepted, so the task was committed to the queue
    obtain ⟨hpc, hback⟩ := hg
    obtain ⟨-, -, hcommitted⟩ := h.inserting t hpc
    simp only [hback.2] at hcommitted
    apply h.setLoc
    · simp
    · intro task hfuture
      simp only [Option.some.injEq] at hfuture
      rwa [hfuture] at hcommitted
  | loopTest t =>
    dsimp only [enqueuer]
    split <;> exact h.setPc (by simp)
  | dequeue t =>
    obtain ⟨hpc, hgate⟩ := hg
    have hcalls : CallsFor t (owner.dequeue t : BlockingQueue.Label Tid (Element Tid F)) := by
      cases owner <;> rfl
    have hnext := h.queueStep _ hgate (not_callsFor hcalls (by simp [hpc]))
      (by cases owner <;> simp [Owner.dequeue])
    exact hnext.setPc (by simp)
  | dequeued t =>
    dsimp only [enqueuer]
    split
    · exact h.setPc (by simp)
    · cases owner <;> exact h.setPc (by simp)
  | exchange t =>
    dsimp only [enqueuer]
    have hnext : Inv size { s with stop := true } := ⟨h.queue, h.inserting, h.future⟩
    apply hnext.setPc
    split <;> simp
  | breakAllWait t =>
    obtain ⟨hpc, hgate⟩ := hg
    have hnext := h.queueStep _ hgate
      (not_callsFor (show CallsFor t (.breakAllWait t) from rfl) (by simp [hpc])) (by simp)
    exact hnext.setPc (by simp)
  | work t | hangUp t | run t | shutdown t | broken t | join t => exact h.setPc (by simp)

/-- **Run lemma**. -/
theorem inv_reachable (h : ((enqueuer owner size).restrict (Accepted owner size)).Reachable s) :
    Inv size s := by
  apply System.invariant _ _ h
  · intro s hi
    exact inv_init (show (enqueuer owner size).init s from hi)
  · intro s a hinv hg
    exact hinv.step a hg.1 hg.2

end invariant

/-! ## Section 4: No task is lost -/

/-- **No silent loss**: from the moment a call has returned the valid future
    of a task, the task is in the queue or was taken from it. -/
theorem enqueuer_losesNoTask (owner : Owner) (size : Nat) (s : State Tid F)
    (h : ((enqueuer owner size).restrict (Accepted owner size)).Reachable s) (t : Tid)
    (task : PackagedTask Tid F) (hfuture : (s.loc t).future = some (some task)) :
    BoundedQueue.QueuedOrTaken size s.queue.queue (some task) := by
  have hinv := inv_reachable h
  exact (hinv.future t task hfuture).queuedOrTaken hinv.queue

/-- Thread `t` enqueues the function; the queue takes the task. -/
def enqueueOne (t : Fin 2) (func : Nat) : List (Label (Fin 2) Nat) :=
  [.enqueue t func, .checkStop t, .insert t, .queue (.queue (.enqLoadTail t)),
    .queue (.queue (.enqLoadHead t)), .queue (.queue (.enqCasTail t)),
    .queue (.queue (.enqWrite t)), .queue (.queue (.enqCasCommit t)),
    .queue (.notifyOne t none), .inserted t]

/-- Thread 1 is a worker of a task manager and takes a task. -/
def takeOne : List (Label (Fin 2) Nat) :=
  [.work 1, .loopTest 1, .dequeue 1, .queue (.queue (.deqLoadHead 1)),
    .queue (.queue (.deqLoadCommit 1)), .queue (.queue (.deqRead 1)),
    .queue (.queue (.deqCasHead 1)), .dequeued 1, .run 1]

theorem enqueuer_losesNoTask_takenAndQueued :
    ∃ s : State (Fin 2) Nat,
      ((enqueuer .taskManager 2).restrict (Accepted .taskManager 2)).Reachable s ∧
      (s.loc 0).future = some (some ⟨0, 1, 6⟩) ∧
      BoundedQueue.QueuedOrTaken 2 s.queue.queue (some ⟨0, 1, 6⟩) := by
  have hreach : ((enqueuer .taskManager 2).restrict (Accepted .taskManager 2)).Reachable
      (((enqueuer .taskManager 2).restrict (Accepted .taskManager 2)).exec initial
        (enqueueOne 0 5 ++ takeOne ++ enqueueOne 0 6)) :=
    System.reachable_exec ((enqueuer .taskManager 2).restrict (Accepted .taskManager 2))
      (initial_init .taskManager 2) _ (by decide)
  exact ⟨_, hreach, by decide, enqueuer_losesNoTask .taskManager 2 _ hreach 0 _ (by decide)⟩

/-- A task manager is shut down before `Enqueue` tests `stop_`; the queue of
    a thread pool is full. Both calls return a valid future. -/
theorem enqueuer_losesTasks :
    (∃ s : State (Fin 2) Nat, (enqueuer .taskManager 1).Reachable s ∧
      (s.loc 0).future = some (some ⟨0, 0, 5⟩) ∧
      ¬ BoundedQueue.QueuedOrTaken 1 s.queue.queue (some ⟨0, 0, 5⟩)) ∧
    (∃ s : State (Fin 2) Nat, (enqueuer .threadPool 1).Reachable s ∧
      (s.loc 1).future = some (some ⟨1, 0, 6⟩) ∧
      ¬ BoundedQueue.QueuedOrTaken 1 s.queue.queue (some ⟨1, 0, 6⟩)) := by
  constructor
  · let as : List (Label (Fin 2) Nat) := [.shutdown 1, .exchange 1, .enqueue 0 5, .checkStop 0]
    have hreach : (enqueuer .taskManager 1).Reachable
        ((enqueuer .taskManager 1).exec initial as) :=
      System.reachable_exec _ (initial_init .taskManager 1) as (by decide)
    refine ⟨_, hreach, by decide, ?_⟩
    rintro (⟨p, hhead, hcommit, -⟩ | htaken)
    · -- nothing was committed
      have hpos : 0 < p := hhead
      have hone : p < 1 := hcommit
      omega
    · cases htaken
  · let as : List (Label (Fin 2) Nat) := enqueueOne 0 5 ++
      [.enqueue 1 6, .checkStop 1, .insert 1, .queue (.queue (.enqLoadTail 1)),
        .queue (.queue (.enqLoadHead 1)), .inserted 1]
    have hreach : (enqueuer .threadPool 1).Reachable ((enqueuer .threadPool 1).exec initial as) :=
      System.reachable_exec _ (initial_init .threadPool 1) as (by decide)
    refine ⟨_, hreach, by decide, ?_⟩
    rintro (⟨p, hhead, hcommit, hslot⟩ | htaken)
    · -- the only element is the first call's
      have hpos : 0 < p := hhead
      have htwo : p < 2 := hcommit
      obtain rfl : p = 1 := by omega
      revert hslot
      decide
    · cases htaken

end CyberRT.Task.Futures
