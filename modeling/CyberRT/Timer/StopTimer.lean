import CyberRT.Timer.PeriodicTimer

/-! # Stopping a timer

    `Stop` drops the timer's task and returns. It does not wait for `Tick`
    or for a worker: what `Tick` has handed over is executed later. The
    callback of a periodic option looks whether its task is alive, before
    it calls the user's callback; that of a one-shot option is the user's
    callback. So a call may still begin

    * after a one-shot callback was handed over,
    * after a periodic callback has found its task alive,
    * while `Tick` or an earlier callback keeps the task alive.

    Where nothing of this is under way when `Stop` returns, nothing begins
    until the next `Start`. -/

namespace CyberRT.Timer.TimerRuns

open CyberRT.Framework

variable {Wid : Type}

/-! ## Section 1: The condition -/

/-- No call of the user's callback comes of what the worker does. -/
def WorkerQuiet (opt : TimerOption) (s : State Wid) : WorkerPc → Prop
  | .idle | .other => True
  | .check id => opt.oneshot = false ∧ ¬ (s.wheel.tasks id).isSome
  | .running _ => opt.oneshot = true
  | .call _ | .addTask _ | .pushTask _ _ => False
  -- its task is alive until the callback returns
  | .added id => Nowhere (left s id)

/-- No call of the user's callback is under way. -/
structure Quiet (opt : TimerOption) (s : State Wid) : Prop where
  tick    : ∀ id, s.tick ≠ .locked id
  queue   : ∀ id, Item.callback id ∈ s.queue → opt.oneshot = false ∧ ¬ (s.wheel.tasks id).isSome
  workers : ∀ w, WorkerQuiet opt s (s.workers w)

/-- **Condition**: when `Stop` returns, no call is under way. -/
def ReturnsQuiet (opt : TimerOption) (s : State Wid) (a : Label Wid) : Prop :=
  a = .stopReturn → Quiet opt s

/-! ## Section 2: The invariant -/

/-- **Invariant**: once `Stop` has returned, the timer has no task and no
    call is under way. -/
structure Silent (opt : TimerOption) (s : State Wid) : Prop where
  owned   : Owned opt s
  ticking : Ticking s
  caller  : s.caller = .stopReset ∨ s.caller = .stopReturn → s.started = false
  reset   : s.caller = .stopReturn → s.task = none
  stopped : s.stopped = true → s.caller = .idle ∨ s.caller = .stopExchange
  off     : s.stopped = true → s.started = false ∧ s.task = none
  quiet   : s.stopped = true → Quiet opt s
  late    : s.late = false

section invariant
variable {opt : TimerOption} {taskQueueSize : Nat} {s s' : State Wid}

theorem WorkerQuiet.mono {pc : WorkerPc} (h : WorkerQuiet opt s pc)
    (halive : ∀ id, (s'.wheel.tasks id).isSome → (s.wheel.tasks id).isSome)
    (hno : ∀ id, Nowhere (left s id) → Nowhere (left s' id)) : WorkerQuiet opt s' pc := by
  cases pc with
  | idle => trivial
  | other => trivial
  | check id => exact ⟨h.1, fun hid => h.2 (halive id hid)⟩
  | call id => exact h
  | running id => exact h
  | addTask id => exact h
  | pushTask id current => exact h
  | added id => exact hno id h

/-- Nothing comes under way: no callback is queued, no task comes alive, and
    what moved is quiet. -/
theorem Quiet.frame (h : Quiet opt s) (htick : ∀ id, s'.tick ≠ .locked id)
    (hqueue : ∀ id, Item.callback id ∈ s'.queue → Item.callback id ∈ s.queue)
    (halive : ∀ id, (s'.wheel.tasks id).isSome → (s.wheel.tasks id).isSome)
    (hno : ∀ id, Nowhere (left s id) → Nowhere (left s' id))
    (hworkers : ∀ w, s'.workers w = s.workers w ∨ WorkerQuiet opt s' (s'.workers w)) :
    Quiet opt s' := by
  refine ⟨htick, ?_, ?_⟩
  · intro id hid
    obtain ⟨hperiodic, hdead⟩ := h.queue id (hqueue id hid)
    exact ⟨hperiodic, fun hid' => hdead (halive id hid')⟩
  · intro w
    rcases hworkers w with heq | hquiet
    · rw [heq]
      exact (h.workers w).mono halive hno
    · exact hquiet

/-- A call of `Start` or `Stop` takes a step that is not the end of `Stop`. -/
theorem Quiet.same (h : Quiet opt s) (hwheel : s'.wheel = s.wheel) (htick : s'.tick = s.tick)
    (hqueue : s'.queue = s.queue) (hworkers : s'.workers = s.workers) : Quiet opt s' := by
  have hleft : left s' = left s := by
    refine left_frame ?_ ?_ hqueue ?_
    · rw [hwheel]
      exact ⟨rfl, rfl, rfl, rfl⟩
    · rw [htick]
    · intro w
      rw [hworkers]
  refine h.frame ?_ ?_ ?_ ?_ ?_
  · rw [htick]
    exact h.tick
  · rw [hqueue]
    exact fun _ hid => hid
  · rw [hwheel]
    exact fun _ hid => hid
  · rw [hleft]
    exact fun _ hno => hno
  · intro w
    rw [hworkers]
    exact Or.inl rfl

/-- Once `Stop` has returned quietly, no task is alive that has an entry
    when `Tick` begins its work on it. -/
theorem Silent.dead (h : Silent opt s) (hst : s.stopped = true) {id : TaskId}
    (htick : s.tick = .beforeTick)
    (hhead : (s.wheel.workWheel s.wheel.currentWorkWheelIndex).head? = some id) :
    ¬ (s.wheel.tasks id).isSome := by
  intro halive
  obtain ⟨o, ho⟩ := h.owned.exists_owner halive
  cases o with
  | timer =>
    have htask : s.task = some id := ho
    rw [(h.off hst).2] at htask
    cases htask
  | tick =>
    have hholds : s.tick.holds = some id := ho
    rw [htick] at hholds
    cases hholds
  | worker w =>
    have hquiet := (h.quiet hst).workers w
    have hholds : (if opt.oneshot = true then none else (s.workers w).owns) = some id := ho
    split at hholds
    · cases hholds
    · next hperiodic =>
      cases hpc : s.workers w with
      | idle => rw [hpc] at hholds; cases hholds
      | other => rw [hpc] at hholds; cases hholds
      | check i => rw [hpc] at hholds; cases hholds
      | call i => rw [hpc] at hquiet; exact hquiet
      | running i => rw [hpc] at hquiet; exact hperiodic hquiet
      | addTask i => rw [hpc] at hquiet; exact hquiet
      | pushTask i current => rw [hpc] at hquiet; exact hquiet
      | added i =>
        rw [hpc] at hholds hquiet
        cases hholds
        -- the callback that keeps the task alive has left no entry
        have hcount : (bucketLeft s s.wheel.currentWorkWheelIndex).count id = 0 :=
          hquiet (.work s.wheel.currentWorkWheelIndex)
        have hleft : bucketLeft s s.wheel.currentWorkWheelIndex =
            s.wheel.workWheel s.wheel.currentWorkWheelIndex := by
          unfold bucketLeft
          rw [htick]
          rfl
        rw [hleft] at hcount
        exact List.count_eq_zero.mp hcount (List.mem_of_mem_head? hhead)

/-- The wheel, the queue or a worker takes a step. -/
theorem Silent.background (h : Silent opt s) (howned : Owned opt s') (hticking : Ticking s')
    (hquiet : s.stopped = true → Quiet opt s') (hcaller : s'.caller = s.caller)
    (hstarted : s'.started = s.started) (htask : s'.task = s.task)
    (hstopped : s'.stopped = s.stopped) (hlate : s'.late = false) : Silent opt s' := by
  constructor
  · exact howned
  · exact hticking
  · rw [hcaller, hstarted]
    exact h.caller
  · rw [hcaller, htask]
    exact h.reset
  · rw [hstopped, hcaller]
    exact h.stopped
  · rw [hstopped, hstarted, htask]
    exact h.off
  · rw [hstopped]
    exact hquiet
  · exact hlate

/-- The call takes a step, and no `Stop` has returned since the last `Start`. -/
theorem Silent.calling (h : Silent opt s) (howned : Owned opt s') (hticking : Ticking s')
    (hns : ¬ s'.stopped = true)
    (hcaller : s'.caller = .stopReset ∨ s'.caller = .stopReturn → s'.started = false)
    (hreset : s'.caller = .stopReturn → s'.task = none) (hlate : s'.late = s.late) :
    Silent opt s' := by
  refine ⟨howned, hticking, hcaller, hreset, ?_, ?_, ?_, hlate.trans h.late⟩
  · exact fun hst => absurd hst hns
  · exact fun hst => absurd hst hns
  · exact fun hst => absurd hst hns

/-- `Start` or the rest of `Stop` is in progress. -/
theorem Silent.not_stopped (h : Silent opt s) {pc : CallerPc} (hpc : s.caller = pc)
    (hidle : pc ≠ .idle) (hstop : pc ≠ .stopExchange) : ¬ s.stopped = true := by
  intro hst
  rcases h.stopped hst with hc | hc
  · exact hidle (hpc.symm.trans hc)
  · exact hstop (hpc.symm.trans hc)

variable [DecidableEq Wid]

/-! ## Section 3: Steps -/

theorem disown_alive {o : Owner Wid} {id x : TaskId}
    (h : ((s.disown o id).wheel.tasks x).isSome) : (s.wheel.tasks x).isSome := by
  rw [disown_tasks] at h
  split at h
  · cases h
  · exact h

omit [DecidableEq Wid] in
theorem nowhere_of_eq (heq : left s' = left s) (x : TaskId) (hno : Nowhere (left s x)) :
    Nowhere (left s' x) := by
  rw [heq]
  exact hno

/-- One worker moves. -/
theorem workers_quiet {w : Wid} {pc : WorkerPc}
    (hworkers : s'.workers = Function.update s.workers w pc) (hpc : WorkerQuiet opt s' pc)
    (v : Wid) : s'.workers v = s.workers v ∨ WorkerQuiet opt s' (s'.workers v) := by
  rw [hworkers]
  by_cases hv : v = w
  · rw [hv, Function.update_self]
    exact Or.inr hpc
  · rw [Function.update_of_ne hv]
    exact Or.inl rfl

/-- A worker that has done its callback, or need not do it. -/
theorem Quiet.workerIdle (h : Quiet opt s) {w : Wid} {id : TaskId}
    (hcarries : (s.workers w).carries = some id) : Quiet opt (s.setWorker w .idle) := by
  refine h.frame h.tick (fun _ hid => hid) (fun _ hid => hid) ?_ (workers_quiet rfl trivial)
  intro x hno
  exact (setWorker_oneLess hcarries rfl).nowhere hno

theorem Silent.tickLock (h : Silent opt s) {id : TaskId}
    (hg : ((timer opt taskQueueSize).action (.tickLock id)).gate s) :
    Silent opt (((timer opt taskQueueSize).action (.tickLock id)).effect s) := by
  have howned := h.owned.step (.tickLock id) hg
  have hticking := h.ticking.step (.tickLock id) hg
  obtain ⟨_, htick, hhead⟩ := hg
  have hhanding : s.tick.handing = false := by
    rw [htick]
    rfl
  dsimp only [timer] at howned hticking ⊢
  by_cases halive : (s.wheel.tasks id).isSome
  · rw [if_pos halive] at howned hticking ⊢
    exact h.background howned hticking (fun hst => absurd halive (h.dead hst htick hhead))
      rfl rfl rfl rfl h.late
  · rw [if_neg halive] at howned hticking ⊢
    refine h.background howned hticking ?_ rfl rfl rfl rfl h.late
    intro hst
    have hquiet := h.quiet hst
    refine hquiet.frame hquiet.tick (fun _ hid => hid) (fun _ hid => hid) ?_ fun _ => Or.inl rfl
    intro x hno
    exact (popCurrent_oneLess hhanding hhead).nowhere hno

theorem Silent.check (h : Silent opt s) {w : Wid} {id : TaskId}
    (hg : ((timer opt taskQueueSize).action (.check w id)).gate s) :
    Silent opt (((timer opt taskQueueSize).action (.check w id)).effect s) := by
  have howned := h.owned.step (.check w id) hg
  have hticking := h.ticking.step (.check w id) hg
  have hworker : s.workers w = .check id := hg
  have hcarries : (s.workers w).carries = some id := by
    rw [hworker]
    rfl
  have hquiet (hst : s.stopped = true) : opt.oneshot = false ∧ ¬ (s.wheel.tasks id).isSome := by
    have hw := (h.quiet hst).workers w
    rw [hworker] at hw
    exact hw
  have hrunning : ¬ s.wheel.running = false := by
    rw [h.ticking.running]
    nofun
  simp only [timer, if_neg hrunning] at howned hticking ⊢
  by_cases hone : opt.oneshot = true
  · rw [if_pos hone] at howned hticking ⊢
    refine h.background howned hticking ?_ rfl rfl rfl rfl h.late
    intro hst
    rw [(hquiet hst).1] at hone
    cases hone
  · rw [if_neg hone] at howned hticking ⊢
    by_cases halive : (s.wheel.tasks id).isSome
    · rw [if_pos halive] at howned hticking ⊢
      exact h.background howned hticking (fun hst => absurd halive (hquiet hst).2)
        rfl rfl rfl rfl h.late
    · rw [if_neg halive] at howned hticking ⊢
      exact h.background howned hticking (fun hst => (h.quiet hst).workerIdle hcarries)
        rfl rfl rfl rfl h.late

theorem Silent.dequeue (h : Silent opt s) {w : Wid} {item : Item}
    (hg : ((timer opt taskQueueSize).action (.dequeue w item)).gate s) :
    Silent opt (((timer opt taskQueueSize).action (.dequeue w item)).effect s) := by
  have howned := h.owned.step (.dequeue w item) hg
  have hticking := h.ticking.step (.dequeue w item) hg
  obtain ⟨hidle, hhead⟩ := hg
  refine h.background howned hticking ?_ rfl rfl rfl rfl h.late
  intro hst
  have hquiet := h.quiet hst
  cases item with
  | callback id =>
    -- the task of what is queued is dead
    have hdead := hquiet.queue id (List.mem_of_mem_head? hhead)
    have hkeeps : Keeps (fun _ => True) (left s)
        (left { s.setWorker w (.check id) with queue := s.queue.tail }) :=
      dequeue_keeps hidle hhead
    exact hquiet.frame hquiet.tick (fun _ hid => List.mem_of_mem_tail hid) (fun _ hid => hid)
      hkeeps.nowhere (workers_quiet rfl hdead)
  | other =>
    exact hquiet.frame hquiet.tick (fun _ hid => List.mem_of_mem_tail hid) (fun _ hid => hid)
      (nowhere_of_eq (dequeueOther_left hidle hhead)) (workers_quiet rfl trivial)

theorem Silent.tickAsync (h : Silent opt s) {id : TaskId}
    (hg : ((timer opt taskQueueSize).action (.tickAsync id)).gate s) :
    Silent opt (((timer opt taskQueueSize).action (.tickAsync id)).effect s) := by
  have howned := h.owned.step (.tickAsync id) hg
  have hticking := h.ticking.step (.tickAsync id) hg
  have hns (hst : s.stopped = true) : False := (h.quiet hst).tick id hg
  dsimp only [timer] at howned hticking ⊢
  by_cases hroom : s.queue.length < taskQueueSize
  · rw [if_pos hroom] at howned hticking ⊢
    exact h.background howned hticking (fun hst => (hns hst).elim) rfl rfl rfl rfl h.late
  · rw [if_neg hroom] at howned hticking ⊢
    exact h.background howned hticking (fun hst => (hns hst).elim) rfl rfl rfl rfl h.late

theorem Silent.tickErase (h : Silent opt s) {id : TaskId}
    (hg : ((timer opt taskQueueSize).action (.tickErase id)).gate s) :
    Silent opt (((timer opt taskQueueSize).action (.tickErase id)).effect s) := by
  refine h.background (h.owned.step _ hg) (h.ticking.step _ hg) ?_ rfl rfl rfl rfl h.late
  intro hst
  refine (h.quiet hst).frame (by simp [timer, State.disown]) (fun _ hid => hid) ?_ ?_
    fun _ => Or.inl rfl
  · intro x hx
    exact disown_alive (s := { s with wheel := popCurrent s.wheel, tick := .beforeTick }) hx
  · exact nowhere_of_eq (tickErase_left hg)

theorem Silent.advance (h : Silent opt s)
    (hg : ((timer opt taskQueueSize).action .advance).gate s) :
    Silent opt (((timer opt taskQueueSize).action .advance).effect s) := by
  have hhanding : s.tick.handing = false := by
    rw [show s.tick = .asleep from hg]
    rfl
  refine h.background (h.owned.step _ hg) (h.ticking.step _ hg) ?_ rfl rfl rfl rfl h.late
  intro hst
  refine (h.quiet hst).frame (by simp [timer]) (fun _ hid => hid) ?_
    (advance_keeps hhanding).nowhere fun _ => Or.inl rfl
  intro x hx
  rw [← TimingWheel.advance_tasks]
  exact hx

theorem Silent.enqueueOther (h : Silent opt s)
    (hg : ((timer opt taskQueueSize).action .enqueueOther).gate s) :
    Silent opt (((timer opt taskQueueSize).action .enqueueOther).effect s) := by
  have howned := h.owned.step .enqueueOther hg
  have hticking := h.ticking.step .enqueueOther hg
  dsimp only [timer] at howned hticking ⊢
  by_cases hroom : s.queue.length < taskQueueSize
  · rw [if_pos hroom] at howned hticking ⊢
    refine h.background howned hticking ?_ rfl rfl rfl rfl h.late
    intro hst
    refine (h.quiet hst).frame (h.quiet hst).tick ?_ (fun _ hid => hid)
      (nowhere_of_eq (enqueueOther_left s)) fun _ => Or.inl rfl
    intro id hid
    rcases List.mem_append.mp hid with hold | hnew
    · exact hold
    · cases List.mem_singleton.mp hnew
  · rw [if_neg hroom]
    exact h

/-! ### `Start` and `Stop` -/

theorem Silent.startExchange (h : Silent opt s)
    (hg : ((timer opt taskQueueSize).action .startExchange).gate s) :
    Silent opt (((timer opt taskQueueSize).action .startExchange).effect s) := by
  have howned := h.owned.step .startExchange hg
  have hticking := h.ticking.step .startExchange hg
  have hc : s.caller = .startExchange := hg
  have hns := h.not_stopped hc (by simp) (by simp)
  dsimp only [timer] at howned hticking ⊢
  by_cases hst : s.started = true
  · rw [if_pos hst] at howned hticking ⊢
    exact h.calling howned hticking hns (by simp) (by simp) rfl
  · rw [if_neg hst] at howned hticking ⊢
    exact h.calling howned hticking hns (by simp) (by simp) rfl

theorem Silent.initTimerTask (h : Silent opt s)
    (hg : ((timer opt taskQueueSize).action .initTimerTask).gate s) :
    Silent opt (((timer opt taskQueueSize).action .initTimerTask).effect s) := by
  have howned := h.owned.step .initTimerTask hg
  have hticking := h.ticking.step .initTimerTask hg
  have hc : s.caller = .initTimerTask := hg
  have hns := h.not_stopped hc (by simp) (by simp)
  obtain ⟨_, _, hstopped, hlate⟩ := reset_rest s
  dsimp only [timer] at howned hticking ⊢
  by_cases hinvalid : opt.period = 0 ∨ timerMaxIntervalMs ≤ opt.period
  · rw [if_pos hinvalid] at howned hticking ⊢
    exact h.calling howned hticking hns (by simp) (by simp) rfl
  · rw [if_neg hinvalid] at howned hticking ⊢
    rw [← hstopped] at hns
    exact h.calling howned hticking hns (by simp) (by simp) hlate

/-- A `Stop` that finds the timer stopped returns at once. -/
theorem Silent.stopExchange (h : Silent opt s)
    (hg : ((timer opt taskQueueSize).action .stopExchange).gate s) :
    Silent opt (((timer opt taskQueueSize).action .stopExchange).effect s) := by
  have howned := h.owned.step .stopExchange hg
  have hticking := h.ticking.step .stopExchange hg
  dsimp only [timer] at howned hticking ⊢
  by_cases hstarted : s.started = true
  · have hns : ¬ s.stopped = true := by
      intro hst
      rw [(h.off hst).1] at hstarted
      cases hstarted
    rw [if_pos hstarted] at howned hticking ⊢
    exact h.calling howned hticking hns (fun _ => rfl) (by simp) rfl
  · rw [if_neg hstarted] at howned hticking ⊢
    exact ⟨howned, hticking, by simp, by simp, fun _ => Or.inl rfl, h.off,
      fun hst => (h.quiet hst).same rfl rfl rfl rfl, h.late⟩

theorem Silent.stopReset (h : Silent opt s)
    (hg : ((timer opt taskQueueSize).action .stopReset).gate s) :
    Silent opt (((timer opt taskQueueSize).action .stopReset).effect s) := by
  have hc : s.caller = .stopReset := hg
  have hns := h.not_stopped hc (by simp) (by simp)
  obtain ⟨_, hstarted, hstopped, hlate⟩ := reset_rest s
  rw [← hstopped] at hns
  refine h.calling (h.owned.step _ hg) (h.ticking.step _ hg) hns ?_ ?_ hlate
  · exact fun _ => hstarted.trans (h.caller (Or.inl hg))
  · exact fun _ => reset_frame.2.2.2

/-! ### Callbacks -/

omit [DecidableEq Wid] in
/-- No callback of a stopped timer is at a place where it would go on. -/
theorem Silent.not_quiet (h : Silent opt s) {w : Wid} {pc : WorkerPc} (hpc : s.workers w = pc)
    (hnot : ¬ WorkerQuiet opt s pc) : ¬ s.stopped = true := by
  intro hst
  have hw := (h.quiet hst).workers w
  rw [hpc] at hw
  exact hnot hw

theorem Silent.call (h : Silent opt s) {w : Wid} {id : TaskId}
    (hg : ((timer opt taskQueueSize).action (.call w id)).gate s) :
    Silent opt (((timer opt taskQueueSize).action (.call w id)).effect s) := by
  have hpc : s.workers w = .call id := hg
  have hns := h.not_quiet hpc fun hno => hno
  refine h.background (h.owned.step _ hg) (h.ticking.step _ hg) (fun hst => absurd hst hns)
    rfl rfl rfl rfl ?_
  show (s.late || s.stopped) = false
  rw [h.late, Bool.eq_false_of_not_eq_true hns]
  rfl

theorem Silent.callbackReturn (h : Silent opt s) {w : Wid} {id : TaskId} {duration : Nat}
    (hg : ((timer opt taskQueueSize).action (.callbackReturn w id duration)).gate s) :
    Silent opt (((timer opt taskQueueSize).action (.callbackReturn w id duration)).effect s) := by
  have howned := h.owned.step (.callbackReturn w id duration) hg
  have hticking := h.ticking.step (.callbackReturn w id duration) hg
  have hworker : s.workers w = .running id := hg
  have hcarries : (s.workers w).carries = some id := by
    rw [hworker]
    rfl
  dsimp only [timer] at howned hticking ⊢
  by_cases hone : opt.oneshot = true
  · rw [if_pos hone] at howned hticking ⊢
    exact h.background howned hticking (fun hst => (h.quiet hst).workerIdle hcarries)
      rfl rfl rfl rfl h.late
  · rw [if_neg hone] at howned hticking ⊢
    have hns := h.not_quiet hworker hone
    exact h.background howned hticking (fun hst => absurd hst hns) rfl rfl rfl rfl h.late

/-- **Step lemma**: a step that meets the condition keeps the invariant. -/
theorem Silent.step (h : Silent opt s) (a : Label Wid)
    (hg : ((timer opt taskQueueSize).action a).gate s) (hok : ReturnsQuiet opt s a) :
    Silent opt (((timer opt taskQueueSize).action a).effect s) := by
  have howned := h.owned.step a hg
  have hticking := h.ticking.step a hg
  cases a with
  | tickLock id => exact h.tickLock hg
  | tickAsync id => exact h.tickAsync hg
  | tickErase id => exact h.tickErase hg
  | tickDone =>
    refine h.background howned hticking ?_ rfl rfl rfl rfl h.late
    intro hst
    exact (h.quiet hst).frame (by simp [timer]) (fun _ hid => hid) (fun _ hid => hid)
      (nowhere_of_eq (tickDone_left hg.1)) fun _ => Or.inl rfl
  | advance => exact h.advance hg
  | start =>
    exact h.calling howned hticking (by simp [timer]) (by simp [timer]) (by simp [timer]) rfl
  | startExchange => exact h.startExchange hg
  | initTimerTask => exact h.initTimerTask hg
  | startIndex id =>
    have hpc : s.caller = .addTask id := hg
    have hns := h.not_stopped hpc (by simp) (by simp)
    exact h.calling howned hticking hns (by simp [timer]) (by simp [timer]) rfl
  | startPush id current =>
    have hpc : s.caller = .pushTask id current := hg
    have hns := h.not_stopped hpc (by simp) (by simp)
    exact h.calling howned hticking hns (by simp [timer]) (by simp [timer]) rfl
  | stop =>
    exact ⟨howned, hticking, by simp [timer], by simp [timer], fun _ => Or.inr rfl, h.off,
      fun hst => (h.quiet hst).same rfl rfl rfl rfl, h.late⟩
  | stopExchange => exact h.stopExchange hg
  | stopReset => exact h.stopReset hg
  | stopReturn =>
    have hoff : s.started = false ∧ s.task = none := ⟨h.caller (Or.inr hg), h.reset hg⟩
    exact ⟨howned, hticking, by simp [timer], by simp [timer], fun _ => Or.inl rfl, fun _ => hoff,
      fun _ => (hok rfl).same rfl rfl rfl rfl, h.late⟩
  | enqueueOther => exact h.enqueueOther hg
  | dequeue w item => exact h.dequeue hg
  | otherDone w =>
    have hcarries : WorkerPc.idle.carries = (s.workers w).carries := by
      rw [show s.workers w = .other from hg]
      rfl
    refine h.background howned hticking ?_ rfl rfl rfl rfl h.late
    intro hst
    exact (h.quiet hst).frame (h.quiet hst).tick (fun _ hid => hid) (fun _ hid => hid)
      (nowhere_of_eq (setWorker_left hcarries)) (workers_quiet rfl trivial)
  | check w id => exact h.check hg
  | call w id => exact h.call hg
  | callbackReturn w id duration => exact h.callbackReturn hg
  | workerIndex w id =>
    have hpc : s.workers w = .addTask id := hg
    have hns := h.not_quiet hpc fun hno => hno
    exact h.background howned hticking (fun hst => absurd hst hns) rfl rfl rfl rfl h.late
  | workerPush w id current =>
    have hpc : s.workers w = .pushTask id current := hg
    have hns := h.not_quiet hpc fun hno => hno
    exact h.background howned hticking (fun hst => absurd hst hns) rfl rfl rfl rfl h.late
  | callbackDone w id =>
    refine h.background howned hticking ?_ rfl rfl rfl rfl h.late
    intro hst
    refine (h.quiet hst).frame (h.quiet hst).tick (fun _ hid => hid) ?_
      (nowhere_of_eq (callbackDone_left hg)) (workers_quiet rfl trivial)
    intro x hx
    exact disown_alive (s := s.setWorker w .idle) hx

theorem silent_init (hi : (timer opt taskQueueSize).init s) : Silent opt s := by
  have howned := owned_init hi
  have hticking := ticking_init hi
  obtain ⟨_, _, _, _, _, _, _, _, hstarted, htask, hcaller, hstopped, hlate⟩ := hi
  have hns : ¬ s.stopped = true := by
    rw [hstopped]
    nofun
  exact ⟨howned, hticking, fun _ => hstarted, fun _ => htask, fun _ => Or.inl hcaller,
    fun _ => ⟨hstarted, htask⟩, fun hst => absurd hst hns, hlate⟩

/-- **Run lemma**. -/
theorem silent_reachable
    (h : ((timer opt taskQueueSize).restrict (ReturnsQuiet opt)).Reachable s) : Silent opt s := by
  apply System.invariant _ _ h
  · intro s hi
    have hi' : (timer opt taskQueueSize).init s := hi
    exact silent_init hi'
  · intro s a hs hg
    exact hs.step a hg.1 hg.2

/-- **Main result**: where `Stop` never returns while a call is under way,
    no call begins after it. -/
theorem timer_stopStops
    (h : ((timer opt taskQueueSize).restrict (ReturnsQuiet opt)).Reachable s) : s.late = false :=
  (silent_reachable h).late

end invariant

/-! ## Section 4: One worker -/

/-- `Stop`, up to its return. -/
def stopCall : List (Label Unit) :=
  [.stop, .stopExchange, .stopReset]

/-- `Stop` returns before the wheel comes to the task. -/
theorem timer_stopStops_beforeTick :
    ((timer ⟨1, true⟩ 1000).exec (initial 0) (startCall ++ stopCall ++ [.stopReturn])).stopped =
        true ∧
      ((timer ⟨1, true⟩ 1000).exec (initial 0) (startCall ++ stopCall ++ [.stopReturn])).late =
        false := by
  refine ⟨by decide +kernel, ?_⟩
  have hadmits : (timer ⟨1, true⟩ 1000).Admits (initial 0) (startCall ++ stopCall) := by
    decide +kernel
  have hok : ∀ a ∈ startCall ++ stopCall, ∀ s, ReturnsQuiet ⟨1, true⟩ s a := by
    intro a ha s heq
    subst heq
    simp [startCall, stopCall] at ha
  have hbefore := System.reachable_exec ((timer ⟨1, true⟩ 1000).restrict (ReturnsQuiet ⟨1, true⟩))
    (initial_init ⟨1, true⟩ 1000 0) (startCall ++ stopCall) (System.admits_restrict hadmits hok)
  -- the queue is empty and the worker is idle
  have hquiet : Quiet ⟨1, true⟩
      (((timer ⟨1, true⟩ 1000).restrict (ReturnsQuiet ⟨1, true⟩)).exec (initial 0)
        (startCall ++ stopCall)) :=
    ⟨nofun, nofun, fun _ => trivial⟩
  exact timer_stopStops (.step .stopReturn hbefore ⟨⟨rfl, fun _ => hquiet⟩, rfl⟩)

/-- `Stop` returns after `Tick` has handed the callback over: a one-shot
    callback that is queued, and a periodic one whose worker has found the
    task alive. -/
theorem timer_stopStops_handedOver :
    (¬ ∀ s : State Unit, (timer ⟨1, true⟩ 1000).Reachable s → s.late = false) ∧
      ¬ ∀ s : State Unit, (timer ⟨1, false⟩ 1000).Reachable s → s.late = false := by
  constructor
  · intro hall
    have hreach := System.reachable_exec (timer ⟨1, true⟩ 1000) (initial_init ⟨1, true⟩ 1000 0)
      (startCall ++ tickTask ++ stopCall ++
        [.stopReturn, .dequeue () (.callback 0), .check () 0, .call () 0]) (by decide +kernel)
    have hlate := hall _ hreach
    revert hlate
    decide +kernel
  · intro hall
    have hreach := System.reachable_exec (timer ⟨1, false⟩ 1000) (initial_init ⟨1, false⟩ 1000 0)
      (startCall ++ tickTask ++ [.dequeue () (.callback 0), .check () 0] ++ stopCall ++
        [.stopReturn, .call () 0]) (by decide +kernel)
    have hlate := hall _ hreach
    revert hlate
    decide +kernel

end CyberRT.Timer.TimerRuns
