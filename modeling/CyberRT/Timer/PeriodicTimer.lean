import CyberRT.Timer.Occurrences

/-! # A periodic timer keeps one occurrence

    A started periodic timer waits in one bucket, or is queued once for
    execution, or is being executed once. `Tick` does not look at what the
    task queue answers, though: where the queue is full, the entry is erased
    and the callback is not queued, so nobody adds the task again and the
    timer stays silent until it is stopped and started.

    The occurrence is followed from place to place: it is put by `Start`,
    each step of the wheel, the queue and the workers moves it, and only a
    full queue drops it. -/

namespace CyberRT.Timer.TimerRuns

open CyberRT.Framework

variable {Wid : Type} [DecidableEq Wid]

/-! ## Section 1: The property -/

/-- **Property**: a timer that is started, between two calls and outside of
    `Tick`'s work on an entry, has one occurrence of its task, which is alive. -/
def KeepsOne (s : State Wid) : Prop :=
  s.started = true → s.caller = .idle → s.tick.holds = none →
    ∃ id, s.task = some id ∧ (s.wheel.tasks id).isSome ∧ Single (occurrences s id)

/-- The task that a started timer waits for. A timer that is being stopped
    does not wait. -/
def State.waiting (s : State Wid) : Option TaskId :=
  if s.started = true ∧ (s.caller = .idle ∨ s.caller = .startExchange) then s.task else none

/-- **Condition**: there is room in the task queue when `Tick` hands over
    the task that the timer waits for. -/
def HandedOver (taskQueueSize : Nat) (s : State Wid) : Label Wid → Prop
  | .tickAsync id => s.waiting = some id → s.queue.length < taskQueueSize
  | _ => True

/-! ## Section 2: The invariant -/

/-- What the timer waits for, by the progress of the call: `Start` makes the
    task first and adds it then. -/
def Waits (s : State Wid) : Prop :=
  match s.caller with
  | .idle | .startExchange => s.started = true → ∃ id, s.task = some id ∧ Single (left s id)
  | .addTask id | .pushTask id _ => s.task = some id ∧ Nowhere (left s id)
  | .initTimerTask | .stopExchange => True
  | .stopReset | .stopReturn => s.started = false

/-- **Invariant**: a task that is not made yet is nowhere, and a started
    timer waits. -/
structure Pending (opt : TimerOption) (s : State Wid) : Prop where
  owned   : Owned opt s
  ticking : Ticking s
  fresh   : ∀ id, s.nextTask ≤ id → Nowhere (left s id)
  waits   : Waits s

section invariant
variable {opt : TimerOption} {taskQueueSize : Nat} {s s' : State Wid}

/-- A step that keeps the task of the timer keeps it waiting. -/
theorem Waits.keeps {kept : TaskId → Prop} (h : Waits s)
    (hkeeps : Keeps kept (left s) (left s')) (hkept : ∀ id, s.waiting = some id → kept id)
    (htask : s'.task = s.task) (hstarted : s'.started = s.started)
    (hcaller : s'.caller = s.caller) : Waits s' := by
  -- the task of a started timer is kept while it is waited for
  have hwaiting {id : TaskId} (hst : s.started = true) (hid : s.task = some id)
      (hc : s.caller = .idle ∨ s.caller = .startExchange) : kept id := by
    apply hkept
    unfold State.waiting
    rw [if_pos ⟨hst, hc⟩, hid]
  unfold Waits at h ⊢
  rw [hcaller, htask, hstarted]
  cases hc : s.caller with
  | idle =>
    rw [hc] at h
    intro hst
    obtain ⟨id, hid, hone⟩ := h hst
    exact ⟨id, hid, hkeeps.single id (hwaiting hst hid (Or.inl hc)) hone⟩
  | startExchange =>
    rw [hc] at h
    intro hst
    obtain ⟨id, hid, hone⟩ := h hst
    exact ⟨id, hid, hkeeps.single id (hwaiting hst hid (Or.inr hc)) hone⟩
  | initTimerTask => trivial
  | addTask id =>
    rw [hc] at h
    exact ⟨h.1, hkeeps.nowhere id h.2⟩
  | pushTask id current =>
    rw [hc] at h
    exact ⟨h.1, hkeeps.nowhere id h.2⟩
  | stopExchange => trivial
  | stopReset =>
    rw [hc] at h
    exact h
  | stopReturn =>
    rw [hc] at h
    exact h

/-- The wheel, the queue or a worker takes a step. -/
theorem Pending.keeps {kept : TaskId → Prop} (h : Pending opt s) (howned : Owned opt s')
    (hticking : Ticking s') (hkeeps : Keeps kept (left s) (left s'))
    (hkept : ∀ id, s.waiting = some id → kept id) (hnext : s'.nextTask = s.nextTask)
    (htask : s'.task = s.task) (hstarted : s'.started = s.started)
    (hcaller : s'.caller = s.caller) : Pending opt s' := by
  refine ⟨howned, hticking, ?_, h.waits.keeps hkeeps hkept htask hstarted hcaller⟩
  intro id hid
  rw [hnext] at hid
  exact hkeeps.nowhere id (h.fresh id hid)

/-- What the timer waits for is alive. -/
theorem Pending.alive (h : Pending opt s) (id : TaskId) (hid : s.waiting = some id) :
    (s.wheel.tasks id).isSome := by
  unfold State.waiting at hid
  split at hid
  · exact h.owned.alive (o := .timer) hid
  · cases hid

/-- The occurrences stay where they are. -/
theorem Pending.same (h : Pending opt s) (howned : Owned opt s') (hticking : Ticking s')
    (hleft : left s' = left s) (hnext : s'.nextTask = s.nextTask) (htask : s'.task = s.task)
    (hstarted : s'.started = s.started) (hcaller : s'.caller = s.caller) : Pending opt s' :=
  h.keeps howned hticking (Keeps.of_eq hleft) h.alive hnext htask hstarted hcaller

/-- The call of `Start` or `Stop` takes a step. -/
theorem Pending.call (h : Pending opt s) (howned : Owned opt s') (hticking : Ticking s')
    (hleft : left s' = left s) (hnext : s.nextTask ≤ s'.nextTask) (hwaits : Waits s') :
    Pending opt s' := by
  refine ⟨howned, hticking, ?_, hwaits⟩
  intro id hid
  rw [hleft]
  exact h.fresh id (hnext.trans hid)

/-- A worker goes on with the callback it has. -/
theorem Pending.workerMove (h : Pending opt s) {w : Wid} {pc : WorkerPc}
    (howned : Owned opt s') (hticking : Ticking s') (hcarries : pc.carries = (s.workers w).carries)
    (hworkers : s'.workers = Function.update s.workers w pc)
    (hwheel : SameBuckets s.wheel s'.wheel) (htick : s'.tick = s.tick)
    (hqueue : s'.queue = s.queue) (hnext : s'.nextTask = s.nextTask) (htask : s'.task = s.task)
    (hstarted : s'.started = s.started) (hcaller : s'.caller = s.caller) : Pending opt s' := by
  refine h.same howned hticking ?_ hnext htask hstarted hcaller
  rw [← setWorker_left hcarries]
  refine left_frame hwheel ?_ hqueue ?_
  · rw [htick]
    rfl
  · intro v
    rw [hworkers]
    rfl

/-! ## Section 3: Steps -/

/-- `Tick` looks at an entry. -/
theorem Pending.tickLock (h : Pending opt s) {id : TaskId}
    (hg : ((timer opt taskQueueSize).action (.tickLock id)).gate s) :
    Pending opt (((timer opt taskQueueSize).action (.tickLock id)).effect s) := by
  have howned := h.owned.step (.tickLock id) hg
  have hticking := h.ticking.step (.tickLock id) hg
  obtain ⟨_, htick, hhead⟩ := hg
  have hhanding : s.tick.handing = false := by
    rw [htick]
    rfl
  dsimp only [timer] at howned hticking ⊢
  by_cases halive : (s.wheel.tasks id).isSome
  · rw [if_pos halive] at howned hticking ⊢
    have hleft : left { s.own .tick id with tick := .locked id } = left s :=
      left_frame ⟨rfl, rfl, rfl, rfl⟩ hhanding.symm rfl fun _ => rfl
    exact h.same howned hticking hleft rfl rfl rfl rfl
  · -- an expired entry is erased at once
    rw [if_neg halive] at howned hticking ⊢
    exact h.keeps howned hticking (Keeps.drop (popCurrent_oneLess hhanding hhead) halive) h.alive
      rfl rfl rfl rfl

theorem Pending.tickAsync (h : Pending opt s) {id : TaskId}
    (hg : ((timer opt taskQueueSize).action (.tickAsync id)).gate s)
    (hok : HandedOver taskQueueSize s (.tickAsync id)) :
    Pending opt (((timer opt taskQueueSize).action (.tickAsync id)).effect s) := by
  have howned := h.owned.step (.tickAsync id) hg
  have hticking := h.ticking.step (.tickAsync id) hg
  have htick : s.tick = .locked id := hg
  have hhanding : s.tick.handing = false := by
    rw [htick]
    rfl
  have hhead : (s.wheel.workWheel s.wheel.currentWorkWheelIndex).head? = some id := by
    apply h.ticking.head id
    rw [htick]
    rfl
  -- the task leaves the bucket and enters the queue, if that has room
  have htake := handOver_oneLess id hhanding hhead
  dsimp only [timer] at howned hticking ⊢
  by_cases hroom : s.queue.length < taskQueueSize
  · rw [if_pos hroom] at howned hticking ⊢
    have hput := enqueue_oneMore (s := { s with tick := .handed id }) (i := id)
    exact h.keeps howned hticking (Keeps.move htake hput) h.alive rfl rfl rfl rfl
  · -- the callback is lost: by the condition it is not the one waited for
    rw [if_neg hroom] at howned hticking ⊢
    have hkept (x : TaskId) (hx : s.waiting = some x) : x ≠ id := by
      intro heq
      rw [heq] at hx
      exact hroom (hok hx)
    exact h.keeps howned hticking (Keeps.drop htake fun hne => hne rfl) hkept rfl rfl rfl rfl

/-- `Start` adds the task it has made. -/
theorem Pending.startPush (h : Pending opt s) {id : TaskId} {current : Fin workWheelSize}
    (hg : ((timer opt taskQueueSize).action (.startPush id current)).gate s) :
    Pending opt (((timer opt taskQueueSize).action (.startPush id current)).effect s) := by
  have howned := h.owned.step (.startPush id current) hg
  have hticking := h.ticking.step (.startPush id current) hg
  have hcaller : s.caller = .pushTask id current := hg
  have hwaits := h.waits
  unfold Waits at hwaits
  rw [hcaller] at hwaits
  obtain ⟨htask, hno⟩ := hwaits
  obtain ⟨place, hput⟩ := pushTask_oneMore current
    (h.owned.alive (o := .timer) htask) h.ticking.bucket_ne_nil
  have hleft : left { s with wheel := pushTask s.wheel id current, caller := .idle } =
      left { s with wheel := pushTask s.wheel id current } := rfl
  refine ⟨howned, hticking, ?_, ?_⟩
  · intro x hx
    have hx' : s.nextTask ≤ x := hx
    -- a task made later is another one
    have hne : x ≠ id := by
      intro heq
      rw [heq] at hx'
      exact Nat.not_le_of_lt (h.owned.made (o := .timer) htask) hx'
    have hother := hput.other hne
    show Nowhere (left { s with wheel := pushTask s.wheel id current, caller := .idle } x)
    rw [hleft, hother]
    exact h.fresh x hx'
  · intro _
    exact ⟨id, htask, hput.put hno⟩

/-- A callback adds its task again. -/
theorem Pending.workerPush (h : Pending opt s) (hperiodic : opt.oneshot = false) {w : Wid}
    {id : TaskId} {current : Fin workWheelSize}
    (hg : ((timer opt taskQueueSize).action (.workerPush w id current)).gate s) :
    Pending opt (((timer opt taskQueueSize).action (.workerPush w id current)).effect s) := by
  have howned := h.owned.step (.workerPush w id current) hg
  have hticking := h.ticking.step (.workerPush w id current) hg
  have hworker : s.workers w = .pushTask id current := hg
  have halive : (s.wheel.tasks id).isSome := by
    apply h.owned.alive (o := .worker w)
    show (if opt.oneshot = true then none else (s.workers w).owns) = some id
    rw [hperiodic, hworker]
    rfl
  have htake : OneMore (left (s.setWorker w (.added id))) (left s) id (.worker w) := by
    apply setWorker_oneLess
    · rw [hworker]
      rfl
    · rfl
  obtain ⟨place, hput⟩ := pushTask_oneMore (s := s.setWorker w (.added id)) current
    halive h.ticking.bucket_ne_nil
  exact h.keeps howned hticking (Keeps.move htake hput) h.alive rfl rfl rfl rfl

/-- **Step lemma**: a step that meets the condition keeps the invariant. -/
theorem Pending.step (h : Pending opt s) (hperiodic : opt.oneshot = false)
    (hperiod : 0 < opt.period) (hmax : opt.period < timerMaxIntervalMs) (a : Label Wid)
    (hg : ((timer opt taskQueueSize).action a).gate s) (hok : HandedOver taskQueueSize s a) :
    Pending opt (((timer opt taskQueueSize).action a).effect s) := by
  have howned := h.owned.step a hg
  have hticking := h.ticking.step a hg
  have hwaits := h.waits
  unfold Waits at hwaits
  cases a with
  | tickLock id => exact h.tickLock hg
  | tickAsync id => exact h.tickAsync hg hok
  | tickErase id =>
    exact h.same howned hticking (tickErase_left hg) rfl rfl rfl rfl
  | tickDone => exact h.same howned hticking (tickDone_left hg.1) rfl rfl rfl rfl
  | advance =>
    have hhanding : s.tick.handing = false := by
      rw [show s.tick = .asleep from hg]
      rfl
    exact h.keeps howned hticking (advance_keeps hhanding) h.alive rfl rfl rfl rfl
  | start =>
    rw [show s.caller = .idle from hg] at hwaits
    exact h.call howned hticking rfl le_rfl hwaits
  | startExchange =>
    rw [show s.caller = .startExchange from hg] at hwaits
    dsimp only [timer] at howned hticking ⊢
    by_cases hst : s.started = true
    · -- `Start` finds the timer started
      rw [if_pos hst] at howned hticking ⊢
      exact h.call howned hticking rfl le_rfl hwaits
    · rw [if_neg hst] at howned hticking ⊢
      exact h.call howned hticking rfl le_rfl trivial
  | initTimerTask =>
    -- the interval is valid, so `InitTimerTask` makes a task
    have hvalid : ¬ (opt.period = 0 ∨ timerMaxIntervalMs ≤ opt.period) := by
      intro hinvalid
      rcases hinvalid with hzero | hlarge
      · exact Nat.ne_of_gt hperiod hzero
      · exact Nat.not_le_of_lt hmax hlarge
    simp only [timer, if_neg hvalid] at howned hticking ⊢
    refine h.call howned hticking (resetNew_left s opt.period) (Nat.le_succ _) ⟨rfl, ?_⟩
    show Nowhere (left (s.resetNew opt.period) s.nextTask)
    rw [resetNew_left]
    exact h.fresh s.nextTask le_rfl
  | startIndex id =>
    rw [show s.caller = .addTask id from hg] at hwaits
    exact h.call howned hticking rfl le_rfl hwaits
  | startPush id current => exact h.startPush hg
  | stop => exact h.call howned hticking rfl le_rfl trivial
  | stopExchange =>
    dsimp only [timer] at howned hticking ⊢
    by_cases hst : s.started = true
    · rw [if_pos hst] at howned hticking ⊢
      exact h.call howned hticking rfl le_rfl rfl
    · rw [if_neg hst] at howned hticking ⊢
      exact h.call howned hticking rfl le_rfl fun hst' => absurd hst' hst
  | stopReset =>
    rw [show s.caller = .stopReset from hg] at hwaits
    refine h.call howned hticking (reset_left s) (le_of_eq ?_) ?_
    · exact reset_frame.2.2.1.symm
    · exact (reset_rest s).2.1.trans hwaits
  | stopReturn =>
    rw [show s.caller = .stopReturn from hg] at hwaits
    refine h.call howned hticking rfl le_rfl ?_
    intro hst
    rw [show s.started = true from hst] at hwaits
    cases hwaits
  | enqueueOther =>
    dsimp only [timer] at howned hticking ⊢
    by_cases hroom : s.queue.length < taskQueueSize
    · rw [if_pos hroom] at howned hticking ⊢
      exact h.same howned hticking (enqueueOther_left s) rfl rfl rfl rfl
    · rw [if_neg hroom]
      exact h
  | dequeue w item =>
    obtain ⟨hidle, hhead⟩ := hg
    cases item with
    | callback id =>
      exact h.keeps howned hticking (dequeue_keeps hidle hhead) h.alive rfl rfl rfl rfl
    | other =>
      exact h.same howned hticking (dequeueOther_left hidle hhead) rfl rfl rfl rfl
  | otherDone w =>
    have hcarries : WorkerPc.idle.carries = (s.workers w).carries := by
      rw [show s.workers w = .other from hg]
      rfl
    exact h.workerMove howned hticking hcarries rfl ⟨rfl, rfl, rfl, rfl⟩ rfl rfl rfl rfl rfl rfl
  -- the wheel runs and the timer is periodic, so only an expired task ends here
  | check w id =>
    have hworker : s.workers w = .check id := hg
    simp only [timer, h.ticking.running, hperiodic] at howned hticking ⊢
    by_cases halive : (s.wheel.tasks id).isSome
    · have hcarries : (WorkerPc.call id).carries = (s.workers w).carries := by
        rw [hworker]
        rfl
      simp only [if_pos halive] at howned hticking ⊢
      exact h.workerMove howned hticking hcarries rfl ⟨rfl, rfl, rfl, rfl⟩ rfl rfl rfl rfl rfl rfl
    · -- the callback of a dead task returns
      simp only [if_neg halive] at howned hticking ⊢
      have htake : OneMore (left (s.setWorker w .idle)) (left s) id (.worker w) := by
        apply setWorker_oneLess
        · rw [hworker]
          rfl
        · rfl
      exact h.keeps howned hticking (Keeps.drop htake halive) h.alive rfl rfl rfl rfl
  | call w id =>
    have hcarries : (WorkerPc.running id).carries = (s.workers w).carries := by
      rw [show s.workers w = .call id from hg]
      rfl
    exact h.workerMove howned hticking hcarries rfl ⟨rfl, rfl, rfl, rfl⟩ rfl rfl rfl rfl rfl rfl
  | callbackReturn w id duration =>
    have hcarries : (WorkerPc.addTask id).carries = (s.workers w).carries := by
      rw [show s.workers w = .running id from hg]
      rfl
    simp only [timer, hperiodic] at howned hticking ⊢
    exact h.workerMove howned hticking hcarries rfl ⟨rfl, rfl, rfl, rfl⟩ rfl rfl rfl rfl rfl rfl
  | workerIndex w id =>
    have hcarries : (WorkerPc.pushTask id s.wheel.currentWorkWheelIndex).carries =
        (s.workers w).carries := by
      rw [show s.workers w = .addTask id from hg]
      rfl
    exact h.workerMove howned hticking hcarries rfl ⟨rfl, rfl, rfl, rfl⟩ rfl rfl rfl rfl rfl rfl
  | workerPush w id current => exact h.workerPush hperiodic hg
  | callbackDone w id =>
    exact h.same howned hticking (callbackDone_left hg) rfl rfl rfl rfl

theorem pending_init (hi : (timer opt taskQueueSize).init s) : Pending opt s := by
  have howned := owned_init hi
  have hticking := ticking_init hi
  obtain ⟨_, hwork, hassistant, _, htick, _, hqueue, hworkers, hstarted, _, hcaller, _⟩ := hi
  refine ⟨howned, hticking, ?_, ?_⟩
  · intro id _ place
    cases place with
    | work k =>
      show (bucketLeft s k).count id = 0
      unfold bucketLeft
      rw [hwork, htick]
      rfl
    | assistant j =>
      show (s.wheel.assistantWheel j).count id = 0
      rw [hassistant]
      rfl
    | queue => exact List.count_eq_zero_of_not_mem (hqueue id)
    | worker w =>
      show (if (s.workers w).carries = some id then 1 else 0) = 0
      rcases hworkers w with hw | hw
      · rw [hw]
        rfl
      · rw [hw]
        rfl
  · unfold Waits
    rw [hcaller]
    intro hst
    rw [hstarted] at hst
    cases hst

/-- **Run lemma**. -/
theorem pending_reachable (hperiodic : opt.oneshot = false) (hperiod : 0 < opt.period)
    (hmax : opt.period < timerMaxIntervalMs)
    (h : ((timer opt taskQueueSize).restrict (HandedOver taskQueueSize)).Reachable s) :
    Pending opt s := by
  apply System.invariant _ _ h
  · intro s hi
    have hi' : (timer opt taskQueueSize).init s := hi
    exact pending_init hi'
  · intro s a hs hg
    exact hs.step hperiodic hperiod hmax a hg.1 hg.2

/-- **Main result**: where no callback the timer waits for is lost, a
    started periodic timer has one occurrence. -/
theorem timer_keepsOne (hperiodic : opt.oneshot = false) (hperiod : 0 < opt.period)
    (hmax : opt.period < timerMaxIntervalMs)
    (h : ((timer opt taskQueueSize).restrict (HandedOver taskQueueSize)).Reachable s) :
    KeepsOne s := by
  intro hst hcaller htick
  have hpending := pending_reachable hperiodic hperiod hmax h
  have hwaits := hpending.waits
  unfold Waits at hwaits
  rw [hcaller] at hwaits
  obtain ⟨id, htask, hone⟩ := hwaits hst
  rw [left_eq_occurrences (handing_of_holds htick)] at hone
  exact ⟨id, htask, hpending.owned.alive (o := .timer) htask, hone⟩

end invariant

/-! ## Section 4: One worker -/

section decidable
variable {opt : TimerOption} {taskQueueSize : Nat}

instance decidableGate (a : Label Unit) (s : State Unit) :
    Decidable (((timer opt taskQueueSize).action a).gate s) := by
  cases a <;> (dsimp only [timer]; infer_instance)

instance decidableHandedOver (s : State Unit) (a : Label Unit) :
    Decidable (HandedOver taskQueueSize s a) := by
  cases a <;> (dsimp only [HandedOver]; infer_instance)

end decidable

/-- The timer is not started; other tasks are in the queue. -/
def initial (others : Nat) : State Unit where
  wheel    :=
    { running                    := true
      workWheel                  := fun _ => []
      assistantWheel             := fun _ => []
      currentWorkWheelIndex      := 0
      currentAssistantWheelIndex := 0
      tasks                      := fun _ => none }
  tick     := .beforeTick
  owners   := fun _ => []
  nextTask := 0
  queue    := List.replicate others .other
  workers  := fun _ => .idle
  started  := false
  task     := none
  caller   := .idle
  stopped  := false
  late     := false

theorem initial_init (opt : TimerOption) (taskQueueSize others : Nat) :
    (timer opt taskQueueSize).init (initial others) := by
  refine ⟨rfl, fun _ => rfl, fun _ => rfl, fun _ => rfl, rfl, fun _ => rfl, ?_, fun _ => Or.inl rfl,
    rfl, rfl, rfl, rfl, rfl⟩
  intro id hid
  cases List.eq_of_mem_replicate hid

/-- `Start`, with a period of one tick. -/
def startCall : List (Label Unit) :=
  [.start, .startExchange, .initTimerTask, .startIndex 0, .startPush 0 0]

/-- The wheel comes to the task, and `Tick` hands it over. -/
def tickTask : List (Label Unit) :=
  [.tickDone, .advance, .tickLock 0, .tickAsync 0, .tickErase 0]

/-- The callback is executed and adds the task again. -/
def callback : List (Label Unit) :=
  [.dequeue () (.callback 0), .check () 0, .call () 0, .callbackReturn () 0 1, .workerIndex () 0,
    .workerPush () 0 1, .callbackDone () 0]

/-- A timer that has fired once waits for the second time. -/
theorem timer_keepsOne_again :
    ((timer ⟨1, false⟩ 1000).exec (initial 0) (startCall ++ tickTask ++ callback)).started = true ∧
      KeepsOne ((timer ⟨1, false⟩ 1000).exec (initial 0) (startCall ++ tickTask ++ callback)) := by
  refine ⟨by decide +kernel, ?_⟩
  have hreach := System.reachable_exec ((timer ⟨1, false⟩ 1000).restrict (HandedOver 1000))
    (initial_init ⟨1, false⟩ 1000 0) (startCall ++ tickTask ++ callback) (by decide +kernel)
  exact timer_keepsOne rfl (by decide) (by decide) hreach

/-- The task queue is full when the timer fires for the first time. -/
theorem timer_keepsOne_queueFull :
    ¬ ∀ s : State Unit, (timer ⟨1, false⟩ 1000).Reachable s → KeepsOne s := by
  intro hall
  have hreach := System.reachable_exec (timer ⟨1, false⟩ 1000) (initial_init ⟨1, false⟩ 1000 1000)
    (startCall ++ tickTask) (by decide +kernel)
  have htaskZero : ((timer ⟨1, false⟩ 1000).exec (initial 1000) (startCall ++ tickTask)).task =
      some 0 := by decide +kernel
  obtain ⟨id, htask, _, hone⟩ := hall _ hreach (by decide +kernel) (by decide +kernel)
    (by decide +kernel)
  rw [htaskZero] at htask
  cases htask
  apply hone.not_nowhere
  intro place
  cases place with
  | work k =>
    revert k
    decide +kernel
  | assistant j =>
    revert j
    decide +kernel
  | queue => decide +kernel
  | worker w =>
    cases w
    decide +kernel

end CyberRT.Timer.TimerRuns
