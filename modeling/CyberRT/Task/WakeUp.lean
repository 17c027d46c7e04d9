import CyberRT.Task.TaskManager
import Mathlib.Data.Fintype.Card

/-! # Wake-up of the task manager's workers

    A worker that found the queue empty is still `READY` until `HangUp`
    stores `DATA_WAIT`. A notifier that loads the state in between raises
    no flag, and the worker goes to sleep on a queue that is not empty.

    Outside that window no wake-up is lost. While the queue is not empty,
    either some worker has not gone to sleep unnotified, or some `Enqueue`
    call is still going to raise a worker's flag. -/

namespace CyberRT.Task

open CyberRT.Framework CyberRT.Croutine

variable {n : Nat} {Eid T : Type}

/-! ## Section 1: Lost wake-ups -/

/-- The call is between its queue insert and the end of its notification. -/
def Enqueuer.Notifying (x : Enqueuer T) : Prop :=
  x.pc = .checkDataWait ∨ x.pc = .checkIoWait ∨ x.pc = .setUpdateFlag ∨ x.pc = .notify

/-- The worker is suspended in `DATA_WAIT` with its update flag not raised. -/
def Worker.Asleep (x : Worker) : Prop :=
  x.pc = .suspended ∧ x.cr.state = .dataWait ∧ ¬ x.cr.Raised

/-- Tasks are queued, every worker sleeps and nobody is going to wake one. -/
def LostWakeUp (s : State n Eid T) : Prop :=
  s.taskQueue ≠ [] ∧ (∀ w, (s.workers w).Asleep) ∧ ∀ e, ¬ (s.enqueuers e).Notifying

/-- The worker found the queue empty, and its flag was not raised since. -/
def Worker.Unnotified (x : Worker) : Prop :=
  ¬ x.cr.Raised ∧
    (x.pc = .hangUp ∨ (x.pc = .swapOut ∨ x.pc = .suspended) ∧ x.cr.state = .dataWait)

/-- The call has yet to load the state of worker `w`, or has found it
    waiting and has yet to raise its flag. -/
def Enqueuer.Pending (x : Enqueuer T) (w : Fin n) : Prop :=
  (x.pc = .checkDataWait ∨ x.pc = .setUpdateFlag) ∧ x.next ≤ w.val ∨
  (x.pc = .checkIoWait ∨ x.pc = .notify) ∧ x.next < w.val

/-- `e` loads the state of `w` between `w`'s failed `Dequeue` and the
    `set_state` of its `HangUp`, with tasks queued, every worker unnotified
    and no other notification to come. -/
structure MissesLast (s : State n Eid T) (e : Eid) (w : Fin n) : Prop where
  queued     : s.taskQueue ≠ []
  hangingUp  : (s.workers w).pc = .hangUp
  unnotified : ∀ v, (s.workers v).Unnotified
  last       : ∀ e' v, (s.enqueuers e').Pending v → e' = e ∧ v = w

/-- The condition on the steps of a run under which no wake-up is lost. -/
def Timely (s : State n Eid T) : Label n Eid T → Prop
  | .checkDataWait e w => ¬ MissesLast s e w
  | _                  => True

/-! ## Section 2: Invariant -/

/-- Places where the worker is on a processor, or about to be. -/
def WorkerPc.awake : WorkerPc → Bool
  | .loop | .dequeue | .hangUp | .task | .resuming | .returned => true
  | .swapOut | .suspended | .updating => false

/-- Queued tasks will be noticed by some worker. -/
def Noticed (s : State n Eid T) : Prop :=
  s.taskQueue = [] ∨ (∃ w, ¬ (s.workers w).Unnotified) ∨
    ∃ e, ∃ w : Fin n, (s.enqueuers e).Pending w

structure Inv (s : State n Eid T) : Prop where
  awake   : ∀ w, (s.workers w).pc.awake = true → (s.workers w).cr.state ≠ .dataWait
  noticed : Noticed s

theorem noticed_of_worker {s : State n Eid T} (w : Fin n) (h : ¬ (s.workers w).Unnotified) :
    Noticed s :=
  Or.inr (Or.inl ⟨w, h⟩)

theorem noticed_of_pending {s : State n Eid T} (e : Eid) (w : Fin n)
    (h : (s.enqueuers e).Pending w) : Noticed s :=
  Or.inr (Or.inr ⟨e, w, h⟩)

/-- A sleeping worker is unnotified. -/
theorem Worker.Asleep.unnotified {x : Worker} (h : x.Asleep) : x.Unnotified :=
  ⟨h.2.2, Or.inr ⟨Or.inr h.1, h.2.1⟩⟩

/-- A pending call is notifying. -/
theorem Enqueuer.Pending.notifying {x : Enqueuer T} {w : Fin n} (h : x.Pending w) :
    x.Notifying := by
  rcases h with ⟨hpc | hpc, _⟩ | ⟨hpc | hpc, _⟩
  · exact Or.inl hpc
  · exact Or.inr (Or.inr (Or.inl hpc))
  · exact Or.inr (Or.inl hpc)
  · exact Or.inr (Or.inr (Or.inr hpc))

theorem Inv.not_lostWakeUp [NeZero n] {s : State n Eid T} (h : Inv s) : ¬ LostWakeUp s := by
  rintro ⟨hqueue, hasleep, hidle⟩
  rcases h.noticed with hempty | ⟨w, hw⟩ | ⟨e, w, hpending⟩
  · exact hqueue hempty
  · exact hw (hasleep w).unnotified
  · exact hidle e hpending.notifying

/-! ## Section 3: The steps -/

section steps
variable [DecidableEq Eid] {s : State n Eid T}

omit [DecidableEq Eid] in
/-- A worker's step: it does not become unnotified while tasks are queued. -/
theorem Inv.setWorker (h : Inv s) {w : Fin n} {x : Worker}
    (hawake : x.pc.awake = true → x.cr.state ≠ .dataWait)
    (hun : x.Unnotified → s.taskQueue = [] ∨ (s.workers w).Unnotified) :
    Inv (s.setWorker w x) := by
  constructor
  · intro v
    show ((Function.update s.workers w x v).pc.awake = true →
      (Function.update s.workers w x v).cr.state ≠ .dataWait)
    by_cases hv : v = w
    · rw [hv, Function.update_self]
      exact hawake
    · rw [Function.update_of_ne hv]
      exact h.awake v
  · rcases h.noticed with hempty | ⟨v, hv⟩ | hpending
    · exact Or.inl hempty
    · by_cases hvw : v = w
      · by_cases hx : x.Unnotified
        · rcases hun hx with hempty | hw
          · exact Or.inl hempty
          · rw [hvw] at hv
            exact absurd hw hv
        · apply Or.inr
          apply Or.inl
          apply Exists.intro w
          show ¬ (Function.update s.workers w x w).Unnotified
          rw [Function.update_self]
          exact hx
      · apply Or.inr
        apply Or.inl
        apply Exists.intro v
        show ¬ (Function.update s.workers w x v).Unnotified
        rw [Function.update_of_ne hvw]
        exact hv
    · exact Or.inr (Or.inr hpending)

omit [DecidableEq Eid] in
/-- A worker's step to a place where it does not wait for data. -/
theorem Inv.setWorkerOther (h : Inv s) {w : Fin n} {x : Worker} (hstate : x.cr.state ≠ .dataWait)
    (hne : x.pc ≠ .hangUp) : Inv (s.setWorker w x) := by
  apply h.setWorker
  · exact fun _ => hstate
  · intro hun
    rcases hun.2 with hhang | ⟨_, hwait⟩
    · exact absurd hhang hne
    · exact absurd hwait hstate

/-- A caller's step: if it was going to notify a worker, somebody still is,
    or nobody needs to be. -/
theorem Inv.setEnqueuer (h : Inv s) {e : Eid} {x : Enqueuer T}
    (hpend : ∀ w : Fin n, (s.enqueuers e).Pending w →
      (∃ v : Fin n, x.Pending v) ∨ s.taskQueue = [] ∨ (∃ v, ¬ (s.workers v).Unnotified) ∨
        ∃ e', ∃ v : Fin n, e' ≠ e ∧ (s.enqueuers e').Pending v) :
    Inv (s.setEnqueuer e x) := by
  have hnoticed : ∀ e' (v : Fin n), e' ≠ e → (s.enqueuers e').Pending v →
      Noticed (s.setEnqueuer e x) := by
    intro e' v he hv
    apply noticed_of_pending e' v
    show (Function.update s.enqueuers e x e').Pending v
    rw [Function.update_of_ne he]
    exact hv
  constructor
  · exact h.awake
  · rcases h.noticed with hempty | hawake | ⟨e', w, hw⟩
    · exact Or.inl hempty
    · exact Or.inr (Or.inl hawake)
    · by_cases he : e' = e
      · rw [he] at hw
        rcases hpend w hw with ⟨v, hx⟩ | hempty | hawake | ⟨e'', v, he', hv⟩
        · apply noticed_of_pending e v
          show (Function.update s.enqueuers e x e).Pending v
          rw [Function.update_self]
          exact hx
        · exact Or.inl hempty
        · exact Or.inr (Or.inl hawake)
        · exact hnoticed e'' v he' hv
      · exact hnoticed e' w he hw

/-- A caller's step after which its notifications are still to come. -/
theorem Inv.setEnqueuerOf (h : Inv s) {e : Eid} {x : Enqueuer T}
    (hpend : ∀ w : Fin n, (s.enqueuers e).Pending w → x.Pending w) :
    Inv (s.setEnqueuer e x) :=
  h.setEnqueuer fun w hw => Or.inl ⟨w, hpend w hw⟩

theorem not_pending {x : Enqueuer T} (hpc : ¬ x.Notifying) (w : Fin n) : ¬ x.Pending w :=
  fun h => hpc h.notifying

/-- Going on with the next worker: all workers from `next` on are pending. -/
theorem pending_notifyFrom (x : Enqueuer T) {next : Nat} {w : Fin n} (h : next ≤ w.val) :
    (x.notifyFrom n next).Pending w := by
  have hlt : next < n := Nat.lt_of_le_of_lt h w.isLt
  rw [Enqueuer.notifyFrom, if_pos hlt]
  exact Or.inl ⟨Or.inl rfl, h⟩

/-- The insert: every worker's notification is still to come. -/
theorem Inv.insert [NeZero n] (h : Inv s) (e : Eid) (queue : List T) :
    Inv { s.setEnqueuer e ((s.enqueuers e).notifyFrom n 0) with taskQueue := queue } := by
  constructor
  · exact h.awake
  · apply noticed_of_pending e ⟨0, Nat.pos_of_neZero n⟩
    show (Function.update s.enqueuers e _ e).Pending _
    rw [Function.update_self]
    exact pending_notifyFrom _ (Nat.le_refl _)

/-- The first load of a worker's state. If it misses a worker on its way
    into `DATA_WAIT`, another notification is still to come. -/
theorem Inv.checkDataWait (h : Inv s) {e : Eid} {w : Fin n}
    (hpc : (s.enqueuers e).pc = .checkDataWait) (hnext : (s.enqueuers e).next = w.val)
    (hne : (s.workers w).cr.state ≠ .dataWait) (htimely : ¬ MissesLast s e w) :
    Inv (s.setEnqueuer e { s.enqueuers e with pc := .checkIoWait }) := by
  apply h.setEnqueuer
  intro v hv
  -- every pending worker but `w` stays pending
  have hother : ∀ u, (s.enqueuers e).Pending u → u ≠ w →
      ({ s.enqueuers e with pc := .checkIoWait } : Enqueuer T).Pending u := by
    intro u hu hne
    have hle : w.val ≤ u.val := by
      rcases hu with ⟨_, hle⟩ | ⟨hpc' | hpc', _⟩
      · rw [hnext] at hle
        exact hle
      · rw [hpc] at hpc'
        cases hpc'
      · rw [hpc] at hpc'
        cases hpc'
    have hval : u.val ≠ w.val := fun heq => hne (Fin.ext heq)
    apply Or.inr
    constructor
    · exact Or.inl rfl
    · show (s.enqueuers e).next < u.val
      omega
  by_cases hqueue : s.taskQueue = []
  · exact Or.inr (Or.inl hqueue)
  by_cases hun : ∃ u, ¬ (s.workers u).Unnotified
  · exact Or.inr (Or.inr (Or.inl hun))
  by_cases hrest : ∃ u, u ≠ w ∧ (s.enqueuers e).Pending u
  · obtain ⟨u, huw, hu⟩ := hrest
    exact Or.inl ⟨u, hother u hu huw⟩
  by_cases hlast : ∃ e', ∃ u : Fin n, e' ≠ e ∧ (s.enqueuers e').Pending u
  · exact Or.inr (Or.inr (Or.inr hlast))
  -- all workers are unnotified and this load was the last hope
  exfalso
  have hall : ∀ u, (s.workers u).Unnotified :=
    fun u => Classical.byContradiction fun hu => hun ⟨u, hu⟩
  apply htimely
  constructor
  · exact hqueue
  · rcases (hall w).2 with hhang | ⟨_, hstate⟩
    · exact hhang
    · exact absurd hstate hne
  · exact hall
  · intro e' u hu
    have he : e' = e := Classical.byContradiction fun he => hlast ⟨e', u, he, hu⟩
    rw [he] at hu
    exact ⟨he, Classical.byContradiction fun huw => hrest ⟨u, huw, hu⟩⟩

/-- A worker that is found waiting is notified next. -/
theorem Inv.foundWaiting (h : Inv s) {e : Eid} (hpc : (s.enqueuers e).pc = .checkDataWait) :
    Inv (s.setEnqueuer e { s.enqueuers e with pc := .setUpdateFlag }) := by
  apply h.setEnqueuerOf
  intro v hv
  rcases hv with ⟨_, hle⟩ | ⟨hpc' | hpc', _⟩
  · exact Or.inl ⟨Or.inr rfl, hle⟩
  · rw [hpc] at hpc'
    cases hpc'
  · rw [hpc] at hpc'
    cases hpc'

omit [DecidableEq Eid] in
/-- Behind the first load only the workers behind this one are pending. -/
theorem pending_behind {e : Eid} {pc : EnqueuePc} (hpc : (s.enqueuers e).pc = pc)
    (hdata : pc ≠ .checkDataWait) (hflag : pc ≠ .setUpdateFlag) {v : Fin n}
    (hv : (s.enqueuers e).Pending v) : (s.enqueuers e).next < v.val := by
  rcases hv with ⟨hpc' | hpc', _⟩ | ⟨_, hlt⟩
  · exact absurd (hpc.symm.trans hpc') hdata
  · exact absurd (hpc.symm.trans hpc') hflag
  · exact hlt

/-- The second load of a worker's state. -/
theorem Inv.checkIoWait (h : Inv s) {taskQueueSize : Nat} {e : Eid} {w : Fin n}
    (hpc : (s.enqueuers e).pc = .checkIoWait) :
    Inv (((taskManager n taskQueueSize).action (.checkIoWait e w)).effect s) := by
  dsimp only [taskManager]
  split
  · apply h.setEnqueuerOf
    intro v hv
    have hlt := pending_behind hpc (by simp) (by simp) hv
    exact Or.inl ⟨Or.inr rfl, Nat.le_of_lt hlt⟩
  · apply h.setEnqueuerOf
    intro v hv
    exact Or.inr ⟨Or.inr rfl, pending_behind hpc (by simp) (by simp) hv⟩

/-- Raising the flag: the worker is notified. -/
theorem Inv.setUpdateFlag (h : Inv s) (e : Eid) (w : Fin n) (x : Enqueuer T) :
    Inv ((s.setEnqueuer e x).setWorker w
      { s.workers w with cr := (s.workers w).cr.setUpdateFlag }) := by
  constructor
  · intro v
    show ((Function.update s.workers w _ v).pc.awake = true →
      (Function.update s.workers w _ v).cr.state ≠ .dataWait)
    by_cases hv : v = w
    · rw [hv, Function.update_self]
      exact h.awake w
    · rw [Function.update_of_ne hv]
      exact h.awake v
  · apply noticed_of_worker w
    show ¬ (Function.update s.workers w _ w).Unnotified
    rw [Function.update_self]
    exact fun hun => hun.1 rfl

omit [DecidableEq Eid] in
/-- Taking a task: the worker runs it. -/
theorem Inv.dequeue (h : Inv s) {w : Fin n} (hpc : (s.workers w).pc = .dequeue)
    (queue : List T) :
    Inv { s.setWorker w { s.workers w with pc := .task } with taskQueue := queue } := by
  have hstep : Inv (s.setWorker w { s.workers w with pc := .task }) :=
    h.setWorkerOther (h.awake w (by rw [hpc]; rfl)) (by simp)
  constructor
  · exact hstep.awake
  · apply noticed_of_worker w
    show ¬ (Function.update s.workers w _ w).Unnotified
    rw [Function.update_self]
    rintro ⟨_, hhang | ⟨hsleep | hsleep, _⟩⟩
    · cases hhang
    · cases hsleep
    · cases hsleep

omit [DecidableEq Eid] in
/-- The end of `UpdateState`: a worker that is not resumed stays as notified
    as it was. -/
theorem Inv.released (h : Inv s) {w : Fin n} {x : Worker}
    (hun : ¬ x.cr.Raised → x.cr.state = .dataWait →
      s.taskQueue = [] ∨ (s.workers w).Unnotified) :
    Inv (s.setWorker w x.released) := by
  unfold Worker.released
  split
  · rename_i hready
    apply h.setWorkerOther
    · show x.cr.state ≠ .dataWait
      rw [hready]
      simp
    · simp
  · apply h.setWorker
    · intro hl
      cases hl
    · rintro ⟨hraised, hhang | ⟨_, hwait⟩⟩
      · cases hhang
      · exact hun hraised hwait

omit [DecidableEq Eid] in
/-- A `Dequeue` that finds the queue empty leaves nothing to be noticed. -/
theorem Inv.dequeueEmpty (h : Inv s) {w : Fin n} (hpc : (s.workers w).pc = .dequeue)
    (hempty : s.taskQueue = []) : Inv (s.setWorker w { s.workers w with pc := .hangUp }) := by
  apply h.setWorker
  · intro _
    apply h.awake w
    rw [hpc]
    rfl
  · exact fun _ => Or.inl hempty

/-- `HangUp` stores the state without a look at the flag: the worker is
    unnotified before and after. -/
theorem Inv.hangUp (h : Inv s) {taskQueueSize : Nat} {w : Fin n}
    (hpc : (s.workers w).pc = .hangUp) :
    Inv (((taskManager n taskQueueSize).action (.hangUp w)).effect s) := by
  apply h.setWorker
  · intro hl
    cases hl
  · intro hun
    exact Or.inr ⟨hun.1, Or.inl hpc⟩

theorem Inv.swapOut (h : Inv s) {taskQueueSize : Nat} {w : Fin n}
    (hpc : (s.workers w).pc = .swapOut) :
    Inv (((taskManager n taskQueueSize).action (.swapOut w)).effect s) := by
  apply h.setWorker
  · intro hl
    cases hl
  · intro hun
    rcases hun.2 with hhang | ⟨_, hwait⟩
    · cases hhang
    · exact Or.inr ⟨hun.1, Or.inr ⟨Or.inl hpc, hwait⟩⟩

theorem Inv.testAndSet (h : Inv s) {taskQueueSize : Nat} {w : Fin n}
    (hpc : (s.workers w).pc = .suspended) :
    Inv (((taskManager n taskQueueSize).action (.testAndSet w)).effect s) := by
  dsimp only [taskManager]
  split
  · apply h.setWorker
    · intro hl
      cases hl
    · intro hun
      rcases hun.2 with hhang | ⟨hsleep | hsleep, _⟩
      · cases hhang
      · cases hsleep
      · cases hsleep
  · apply h.released
    intro hraised hwait
    exact Or.inr ⟨hraised, Or.inr ⟨Or.inr hpc, hwait⟩⟩

/-- **Step lemma**: every timely step keeps the invariant. -/
theorem Inv.step [NeZero n] {taskQueueSize : Nat} (h : Inv s) (a : Label n Eid T)
    (hg : ((taskManager n taskQueueSize).action a).gate s) (htimely : Timely s a) :
    Inv (((taskManager n taskQueueSize).action a).effect s) := by
  -- a worker on a processor does not wait for data
  have hawake {w : Fin n} {pc : WorkerPc} (hpc : (s.workers w).pc = pc) (hl : pc.awake = true) :
      (s.workers w).cr.state ≠ .dataWait := by
    apply h.awake w
    rw [hpc]
    exact hl
  cases a with
  | shutdown =>
    constructor
    · exact h.awake
    · exact h.noticed
  | enqueue e task =>
    have hpc : (s.enqueuers e).pc = .idle := hg
    apply h.setEnqueuerOf
    intro w hw
    exact absurd hw (not_pending (by simp [Enqueuer.Notifying, hpc]) w)
  | checkStop e =>
    have hpc : (s.enqueuers e).pc = .checkStop := hg
    dsimp only [taskManager]
    split <;>
    · apply h.setEnqueuerOf
      intro w hw
      exact absurd hw (not_pending (by simp [Enqueuer.Notifying, hpc]) w)
  | insert e =>
    dsimp only [taskManager]
    split
    · exact h.insert e _
    · exact h.insert e s.taskQueue
  | checkDataWait e w =>
    obtain ⟨hpc, hnext⟩ := hg
    dsimp only [taskManager]
    split
    · exact h.foundWaiting hpc
    · rename_i hne
      exact h.checkDataWait hpc hnext hne htimely
  | checkIoWait e w => exact h.checkIoWait hg.1
  | setUpdateFlag e w => exact h.setUpdateFlag e w _
  | notify e =>
    apply h.setEnqueuerOf
    intro v hv
    -- the workers behind this one are still to be notified
    exact pending_notifyFrom _ (pending_behind hg (by simp) (by simp) hv)
  | loop w =>
    have hpc : (s.workers w).pc = .loop := hg
    have hstate := hawake hpc rfl
    dsimp only [taskManager]
    split
    · exact h.setWorkerOther (by simp) (by simp)
    · exact h.setWorkerOther hstate (by simp)
  | dequeue w =>
    dsimp only [taskManager]
    split
    · rename_i hempty
      exact h.dequeueEmpty hg hempty
    · exact h.dequeue hg _
  | hangUp w => exact h.hangUp hg
  | taskYield w =>
    have hpc : (s.workers w).pc = .task := hg
    exact h.setWorkerOther (hawake hpc rfl) (by simp)
  | taskSleep w => exact h.setWorkerOther (by simp) (by simp)
  | taskIoWait w => exact h.setWorkerOther (by simp) (by simp)
  | taskDone w =>
    have hpc : (s.workers w).pc = .task := hg
    exact h.setWorkerOther (hawake hpc rfl) (by simp)
  | swapOut w => exact h.swapOut hg
  -- a worker that runs again looks into the queue before it sleeps
  | wakeUp w => exact h.setWorkerOther (by simp) (by simp)
  | testAndSet w => exact h.testAndSet hg
  | becomeReady w =>
    apply h.released
    intro _ hwait
    exact absurd hwait (CRoutine.becomeReady_state_ne_dataWait _)
  | resume w =>
    have hpc : (s.workers w).pc = .resuming := hg
    have hstate := hawake hpc rfl
    dsimp only [taskManager]
    split
    · exact h.setWorkerOther hstate (by simp)
    · exact h.setWorkerOther hstate (by simp)

end steps

/-! ## Section 4: Runs -/

section runs
variable [DecidableEq Eid] [NeZero n] {taskQueueSize : Nat} {s : State n Eid T}

omit [NeZero n] in
theorem inv_init
    (h : (taskManager n taskQueueSize : System (State n Eid T) (Label n Eid T)).init s) :
    Inv s := by
  obtain ⟨_, hqueue, hworkers, _⟩ := h
  constructor
  · intro w hw
    rw [hworkers] at hw
    cases hw
  · exact Or.inl hqueue

/-- **Run lemma**: the invariant holds along every run of timely steps. -/
theorem inv_reachable
    (h : ((taskManager n taskQueueSize : System (State n Eid T) (Label n Eid T)).restrict
      Timely).Reachable s) : Inv s := by
  apply System.invariant _ _ h
  · intro s hi
    exact @inv_init _ _ _ _ taskQueueSize s hi
  · intro s a hinv hg
    exact hinv.step a hg.1 hg.2

/-- **No lost wake-up**: in a run in which no notifier misses the last
    worker on its way into `DATA_WAIT`, no wake-up is lost. -/
theorem taskManager_not_lostWakeUp (n taskQueueSize : Nat) [NeZero n] (s : State n Eid T)
    (h : ((taskManager n taskQueueSize : System (State n Eid T) (Label n Eid T)).restrict
      Timely).Reachable s) : ¬ LostWakeUp s :=
  (inv_reachable h).not_lostWakeUp

end runs

/-! ## Section 5: Two runs of one worker -/

section decidable
variable {s : State 1 Unit Nat}

instance (x : Worker) : Decidable x.Unnotified := inferInstanceAs (Decidable (_ ∧ _))

instance (x : Enqueuer T) (w : Fin n) : Decidable (x.Pending w) :=
  inferInstanceAs (Decidable (_ ∧ _ ∨ _ ∧ _))

instance (e : Unit) (w : Fin 1) : Decidable (MissesLast s e w) :=
  decidable_of_iff
    (s.taskQueue ≠ [] ∧ (s.workers w).pc = .hangUp ∧ (∀ v, (s.workers v).Unnotified) ∧
      ∀ e' v, (s.enqueuers e').Pending v → e' = e ∧ v = w)
    ⟨fun ⟨h₁, h₂, h₃, h₄⟩ => ⟨h₁, h₂, h₃, h₄⟩,
      fun h => ⟨h.queued, h.hangingUp, h.unnotified, h.last⟩⟩

instance decidableTimely (s : State 1 Unit Nat) (a : Label 1 Unit Nat) :
    Decidable (Timely s a) := by
  cases a <;> unfold Timely <;> infer_instance

instance decidableGate (taskQueueSize : Nat) (a : Label 1 Unit Nat) (s : State 1 Unit Nat) :
    Decidable (((taskManager 1 taskQueueSize).action a).gate s) :=
  match a with
  | .shutdown          => .isTrue trivial
  | .enqueue e _       => inferInstanceAs (Decidable ((s.enqueuers e).pc = .idle))
  | .checkStop e       => inferInstanceAs (Decidable ((s.enqueuers e).pc = .checkStop))
  | .insert e          => inferInstanceAs (Decidable ((s.enqueuers e).pc = .insert))
  | .checkDataWait e w => inferInstanceAs (Decidable
      ((s.enqueuers e).pc = .checkDataWait ∧ (s.enqueuers e).next = w.val))
  | .checkIoWait e w   => inferInstanceAs (Decidable
      ((s.enqueuers e).pc = .checkIoWait ∧ (s.enqueuers e).next = w.val))
  | .setUpdateFlag e w => inferInstanceAs (Decidable
      ((s.enqueuers e).pc = .setUpdateFlag ∧ (s.enqueuers e).next = w.val))
  | .notify e          => inferInstanceAs (Decidable ((s.enqueuers e).pc = .notify))
  | .loop w            => inferInstanceAs (Decidable ((s.workers w).pc = .loop))
  | .dequeue w         => inferInstanceAs (Decidable ((s.workers w).pc = .dequeue))
  | .hangUp w          => inferInstanceAs (Decidable ((s.workers w).pc = .hangUp))
  | .taskYield w       => inferInstanceAs (Decidable ((s.workers w).pc = .task))
  | .taskSleep w       => inferInstanceAs (Decidable ((s.workers w).pc = .task))
  | .taskIoWait w      => inferInstanceAs (Decidable ((s.workers w).pc = .task))
  | .taskDone w        => inferInstanceAs (Decidable ((s.workers w).pc = .task))
  | .swapOut w         => inferInstanceAs (Decidable ((s.workers w).pc = .swapOut))
  | .wakeUp w          => inferInstanceAs (Decidable
      ((s.workers w).pc = .suspended ∧ (s.workers w).cr.state = .sleep))
  | .testAndSet w      => inferInstanceAs (Decidable ((s.workers w).pc = .suspended))
  | .becomeReady w     => inferInstanceAs (Decidable ((s.workers w).pc = .updating))
  | .resume w          => inferInstanceAs (Decidable ((s.workers w).pc = .resuming))

/-- One worker, just created, and one caller. -/
def initial : State 1 Unit Nat where
  stop      := false
  taskQueue := []
  workers   := fun _ => ⟨.suspended, .new, false⟩
  enqueuers := fun _ => ⟨.idle, 0, 0⟩

theorem initial_init : (taskManager 1 1000).init initial :=
  ⟨rfl, rfl, fun _ => rfl, fun _ => rfl⟩

/-- The worker hangs up, and then a task is enqueued. -/
def notifiedAsleep : List (Label 1 Unit Nat) :=
  [.testAndSet 0, .resume 0, .loop 0, .dequeue 0, .hangUp 0, .swapOut 0,
    .enqueue () 7, .checkStop (), .insert (), .checkDataWait () 0, .setUpdateFlag () 0,
    .notify ()]

/-- The task is enqueued between the worker's failed `Dequeue` and its
    `HangUp`. -/
def missedHangUp : List (Label 1 Unit Nat) :=
  [.testAndSet 0, .resume 0, .loop 0, .dequeue 0,
    .enqueue () 7, .checkStop (), .insert (), .checkDataWait () 0, .checkIoWait () 0, .notify (),
    .hangUp 0, .swapOut 0]

theorem taskManager_notifiedAsleep :
    (((taskManager 1 1000).restrict Timely).exec initial notifiedAsleep).taskQueue = [7] ∧
      ¬ LostWakeUp (((taskManager 1 1000).restrict Timely).exec initial notifiedAsleep) :=
  ⟨rfl, taskManager_not_lostWakeUp 1 1000 _
    (System.reachable_exec ((taskManager 1 1000).restrict Timely) initial_init notifiedAsleep
      (by decide))⟩

/-- The worker sleeps on a queued task, and the call has returned. -/
theorem taskManager_missedHangUp :
    ¬ ∀ s : State 1 Unit Nat, (taskManager 1 1000).Reachable s → ¬ LostWakeUp s := by
  intro h
  apply h ((taskManager 1 1000).exec initial missedHangUp)
  · exact System.reachable_exec _ initial_init missedHangUp (by decide)
  · refine ⟨?_, ?_, ?_⟩
    · decide
    · intro w
      rw [Fin.fin_one_eq_zero w]
      exact ⟨rfl, rfl, by decide⟩
    · rintro ⟨⟩ (hpc | hpc | hpc | hpc) <;> cases hpc

end decidable

end CyberRT.Task
