import CyberRT.Framework.Single
import CyberRT.Timer.TaskOwners

/-! # Occurrences of a timer's task

    A task waits in a bucket of the wheel, then as a callback in the task
    queue, then with the worker that executes the callback, until the
    worker adds it again. Each of the three is an occurrence of the task. -/

namespace CyberRT.Timer.TimerRuns

open CyberRT.Framework

variable {Wid : Type}

/-! ## Section 1: Places -/

/-- Where an occurrence can be. -/
inductive Place (Wid : Type) where
  | work (k : Fin workWheelSize)
  | assistant (j : Fin assistantWheelSize)
  | queue
  | worker (w : Wid)
  deriving DecidableEq

/-- The task of a callback that has not added it again. -/
def WorkerPc.carries : WorkerPc → Option TaskId
  | .check id | .call id | .running id | .addTask id | .pushTask id _ => some id
  | _ => none

/-- How often the task `id` is found at a place. -/
def occurrences (s : State Wid) (id : TaskId) : Place Wid → Nat
  | .work k      => (s.wheel.workWheel k).count id
  | .assistant j => (s.wheel.assistantWheel j).count id
  | .queue       => s.queue.count (.callback id)
  | .worker w    => if (s.workers w).carries = some id then 1 else 0

/-- `Tick` has handed over the first entry of the bucket. -/
def TickPc.handing : TickPc → Bool
  | .handed _ => true
  | _ => false

/-- The bucket without the entry that `Tick` has handed over. -/
def bucketLeft (s : State Wid) (k : Fin workWheelSize) : List TaskId :=
  if s.tick.handing = true ∧ k = s.wheel.currentWorkWheelIndex then (s.wheel.workWheel k).tail
  else s.wheel.workWheel k

/-- The occurrences without the entry that `Tick` has handed over. -/
def left (s : State Wid) (id : TaskId) : Place Wid → Nat
  | .work k => (bucketLeft s k).count id
  | place   => occurrences s id place

/-- Nothing is left out before `Tick` has handed an entry over. -/
theorem left_eq_occurrences {s : State Wid} (h : s.tick.handing = false) :
    left s = occurrences s := by
  funext id place
  cases place with
  | work k =>
    show (bucketLeft s k).count id = _
    unfold bucketLeft
    rw [if_neg]
    · rfl
    · intro hhanding
      rw [h] at hhanding
      cases hhanding.1
  | assistant j => rfl
  | queue => rfl
  | worker w => rfl

/-! ## Section 2: Operations -/

theorem count_eq_tail {α : Type} [DecidableEq α] {l : List α} {a : α} (h : l.head? = some a)
    (x : α) : l.count x = l.tail.count x + if x = a then 1 else 0 := by
  obtain ⟨rest, hrest⟩ := List.head?_eq_some_iff.mp h
  rw [hrest, List.tail_cons, List.count_cons]
  by_cases hx : x = a
  · simp [hx]
  · simp [hx, Ne.symm hx]

theorem count_concat {α : Type} [DecidableEq α] (l : List α) (a x : α) :
    (l ++ [a]).count x = l.count x + if x = a then 1 else 0 := by
  rw [List.count_append, List.count_singleton]
  by_cases hx : x = a
  · simp [hx]
  · simp [hx, Ne.symm hx]

/-- The wheels differ in their tasks only. -/
structure SameBuckets (w w' : TimingWheel) : Prop where
  running   : w'.running = w.running
  work      : w'.workWheel = w.workWheel
  assistant : w'.assistantWheel = w.assistantWheel
  current   : w'.currentWorkWheelIndex = w.currentWorkWheelIndex

section operations
variable {s s' : State Wid} {i : TaskId}

theorem left_frame (hwheel : SameBuckets s.wheel s'.wheel)
    (htick : s'.tick.handing = s.tick.handing) (hqueue : s'.queue = s.queue)
    (hworkers : ∀ w, (s'.workers w).carries = (s.workers w).carries) : left s' = left s := by
  funext id place
  cases place with
  | work k =>
    show (bucketLeft s' k).count id = (bucketLeft s k).count id
    unfold bucketLeft
    rw [hwheel.work, hwheel.current, htick]
  | assistant j =>
    show (s'.wheel.assistantWheel j).count id = (s.wheel.assistantWheel j).count id
    rw [hwheel.assistant]
  | queue =>
    show s'.queue.count (.callback id) = s.queue.count (.callback id)
    rw [hqueue]
  | worker w =>
    show (if (s'.workers w).carries = some id then 1 else 0) =
      if (s.workers w).carries = some id then 1 else 0
    rw [hworkers]

/-- An entry is added to a bucket that `Tick` has not emptied meanwhile. -/
theorem bucketLeft_append (s : State Wid) (k k' : Fin workWheelSize)
    (hhanding : s.tick.handing = true → s.wheel.workWheel s.wheel.currentWorkWheelIndex ≠ []) :
    bucketLeft { s with wheel := s.wheel.pushWork k i } k' =
      bucketLeft s k' ++ if k' = k then [i] else [] := by
  have hbucket : (s.wheel.pushWork k i).workWheel k' =
      s.wheel.workWheel k' ++ if k' = k then [i] else [] := by
    show Function.update s.wheel.workWheel k _ k' = _
    by_cases hk : k' = k
    · rw [hk, Function.update_self, if_pos rfl]
    · rw [Function.update_of_ne hk, if_neg hk, List.append_nil]
  show (if s.tick.handing = true ∧ k' = s.wheel.currentWorkWheelIndex then
    ((s.wheel.pushWork k i).workWheel k').tail else (s.wheel.pushWork k i).workWheel k') = _
  unfold bucketLeft
  rw [hbucket]
  by_cases hcurrent : s.tick.handing = true ∧ k' = s.wheel.currentWorkWheelIndex
  · rw [if_pos hcurrent, if_pos hcurrent]
    obtain ⟨hhand, hk'⟩ := hcurrent
    apply List.tail_append_of_ne_nil
    rw [hk']
    exact hhanding hhand
  · rw [if_neg hcurrent, if_neg hcurrent]

variable [DecidableEq Wid]

theorem pushWork_oneMore {s : State Wid} {k : Fin workWheelSize}
    (hhanding : s.tick.handing = true → s.wheel.workWheel s.wheel.currentWorkWheelIndex ≠ []) :
    OneMore (left s) (left { s with wheel := s.wheel.pushWork k i }) i (.work k) := by
  intro id place
  cases place with
  | work k' =>
    show (bucketLeft { s with wheel := s.wheel.pushWork k i } k').count id =
      (bucketLeft s k').count id + _
    rw [bucketLeft_append s k k' hhanding]
    by_cases hk : k' = k
    · rw [if_pos hk, count_concat]
      simp [hk]
    · simp [hk]
  | assistant j => simp [left, occurrences]
  | queue => simp [left, occurrences]
  | worker w => simp [left, occurrences]

theorem pushAssistant_oneMore {s : State Wid} {j : Fin assistantWheelSize} :
    OneMore (left s) (left { s with wheel := s.wheel.pushAssistant j i }) i (.assistant j) := by
  intro id place
  cases place with
  | work k =>
    show (bucketLeft s k).count id = (bucketLeft s k).count id + _
    simp
  | assistant j' =>
    show ((s.wheel.pushAssistant j i).assistantWheel j').count id = _
    rw [TimingWheel.pushAssistant_count]
    show (s.wheel.assistantWheel j').count id + _ = (s.wheel.assistantWheel j').count id + _
    simp only [Place.assistant.injEq, and_comm, eq_comm]
  | queue => simp [left, occurrences]
  | worker w => simp [left, occurrences]

/-- **`AddTask`** of a task that is alive adds one entry. -/
theorem pushTask_oneMore {s : State Wid} (current : Fin workWheelSize)
    (halive : (s.wheel.tasks i).isSome)
    (hhanding : s.tick.handing = true → s.wheel.workWheel s.wheel.currentWorkWheelIndex ≠ []) :
    ∃ place, OneMore (left s) (left { s with wheel := pushTask s.wheel i current }) i place := by
  obtain ⟨task, htask⟩ := Option.isSome_iff_exists.mp halive
  unfold pushTask
  rw [htask]
  unfold TimingWheel.addTaskAt
  dsimp only
  split
  · next hlt =>
    exact ⟨_, pushWork_oneMore (s := { s with wheel := { s.wheel with running := true } }) hhanding⟩
  · split
    · exact ⟨_, pushWork_oneMore
        (s := { s with wheel := { s.wheel with running := true, tasks := _ } }) hhanding⟩
    · exact ⟨_, pushAssistant_oneMore
        (s := { s with wheel := { s.wheel with running := true, tasks := _ } })⟩

/-- A worker that takes or drops a callback. -/
theorem setWorker_carries {s : State Wid} {w : Wid} {pc : WorkerPc} (id : TaskId)
    {place : Place Wid} (hplace : place ≠ .worker w) :
    left (s.setWorker w pc) id place = left s id place := by
  cases place with
  | work k => rfl
  | assistant j => rfl
  | queue => rfl
  | worker v =>
    have hv : v ≠ w := fun heq => hplace (congrArg Place.worker heq)
    show (if (Function.update s.workers w pc v).carries = some id then 1 else 0) = _
    rw [Function.update_of_ne hv]
    rfl

theorem setWorker_self {s : State Wid} {w : Wid} {pc : WorkerPc} (id : TaskId) :
    left (s.setWorker w pc) id (.worker w) = if pc.carries = some id then 1 else 0 := by
  show (if (Function.update s.workers w pc w).carries = some id then 1 else 0) = _
  rw [Function.update_self]

theorem setWorker_left {s : State Wid} {w : Wid} {pc : WorkerPc}
    (hcarries : pc.carries = (s.workers w).carries) : left (s.setWorker w pc) = left s := by
  refine left_frame ⟨rfl, rfl, rfl, rfl⟩ rfl rfl ?_
  intro v
  show (Function.update s.workers w pc v).carries = _
  by_cases hv : v = w
  · rw [hv, Function.update_self, hcarries]
  · rw [Function.update_of_ne hv]

/-- A worker takes a callback. -/
theorem setWorker_oneMore {s : State Wid} {w : Wid} {pc : WorkerPc}
    (hnone : (s.workers w).carries = none) (hsome : pc.carries = some i) :
    OneMore (left s) (left (s.setWorker w pc)) i (.worker w) := by
  intro id place
  by_cases hplace : place = .worker w
  · rw [hplace, setWorker_self, hsome]
    show _ = (if (s.workers w).carries = some id then 1 else 0) + _
    rw [hnone]
    simp [eq_comm]
  · rw [setWorker_carries id hplace, if_neg fun h => hplace h.2, Nat.add_zero]

/-- A worker is done with a callback. -/
theorem setWorker_oneLess {s : State Wid} {w : Wid} {pc : WorkerPc}
    (hsome : (s.workers w).carries = some i) (hnone : pc.carries = none) :
    OneMore (left (s.setWorker w pc)) (left s) i (.worker w) := by
  intro id place
  by_cases hplace : place = .worker w
  · rw [hplace, setWorker_self, hnone]
    show (if (s.workers w).carries = some id then 1 else 0) = _
    rw [hsome]
    simp [eq_comm]
  · rw [setWorker_carries id hplace, if_neg fun h => hplace h.2, Nat.add_zero]

/-- `Tick` erases an entry it has not handed over. -/
theorem popCurrent_oneLess {s : State Wid} (htick : s.tick.handing = false)
    (hhead : (s.wheel.workWheel s.wheel.currentWorkWheelIndex).head? = some i) :
    OneMore (left { s with wheel := popCurrent s.wheel }) (left s) i
      (.work s.wheel.currentWorkWheelIndex) := by
  rw [left_eq_occurrences htick,
    left_eq_occurrences (s := { s with wheel := popCurrent s.wheel }) htick]
  intro id place
  cases place with
  | work k =>
    show (s.wheel.workWheel k).count id = (Function.update s.wheel.workWheel _ _ k).count id + _
    by_cases hk : k = s.wheel.currentWorkWheelIndex
    · rw [hk, Function.update_self, count_eq_tail hhead]
      simp
    · rw [Function.update_of_ne hk]
      simp [hk]
  | assistant j => simp [occurrences, popCurrent]
  | queue => simp [occurrences]
  | worker w => simp [occurrences]

/-- `Tick` hands an entry over. -/
theorem handOver_oneLess {s : State Wid} (id : TaskId) (htick : s.tick.handing = false)
    (hhead : (s.wheel.workWheel s.wheel.currentWorkWheelIndex).head? = some i) :
    OneMore (left { s with tick := .handed id }) (left s) i
      (.work s.wheel.currentWorkWheelIndex) := by
  intro x place
  rw [left_eq_occurrences htick]
  cases place with
  | work k =>
    show (s.wheel.workWheel k).count x = (if true = true ∧ k = s.wheel.currentWorkWheelIndex then
      (s.wheel.workWheel k).tail else s.wheel.workWheel k).count x + _
    by_cases hk : k = s.wheel.currentWorkWheelIndex
    · rw [if_pos ⟨rfl, hk⟩, hk, count_eq_tail hhead]
      simp
    · rw [if_neg fun h => hk h.2]
      simp [hk]
  | assistant j => simp [left, occurrences]
  | queue => simp [left, occurrences]
  | worker w => simp [left, occurrences]

omit [DecidableEq Wid] in
/-- `Tick` erases the entry it has handed over. -/
theorem erase_left {s : State Wid} (htick : s.tick.handing = true) :
    left { s with wheel := popCurrent s.wheel, tick := .beforeTick } = left s := by
  rw [left_eq_occurrences rfl]
  funext id place
  cases place with
  | work k =>
    show (Function.update s.wheel.workWheel _ _ k).count id = (bucketLeft s k).count id
    unfold bucketLeft
    by_cases hk : k = s.wheel.currentWorkWheelIndex
    · rw [if_pos ⟨htick, hk⟩, hk, Function.update_self]
    · rw [if_neg fun h => hk h.2, Function.update_of_ne hk]
  | assistant j => rfl
  | queue => rfl
  | worker w => rfl

theorem enqueue_oneMore {s : State Wid} :
    OneMore (left s) (left { s with queue := s.queue ++ [.callback i] }) i .queue := by
  intro id place
  cases place with
  | work k =>
    show (bucketLeft s k).count id = (bucketLeft s k).count id + _
    simp
  | assistant j => simp [left, occurrences]
  | queue =>
    show (s.queue ++ [Item.callback i]).count (.callback id) = s.queue.count (.callback id) + _
    rw [count_concat]
    simp
  | worker w => simp [left, occurrences]

theorem dequeue_oneLess {s : State Wid} (hhead : s.queue.head? = some (.callback i)) :
    OneMore (left { s with queue := s.queue.tail }) (left s) i .queue := by
  intro id place
  cases place with
  | work k =>
    show (bucketLeft s k).count id = (bucketLeft s k).count id + _
    simp
  | assistant j => simp [left, occurrences]
  | queue =>
    show s.queue.count (.callback id) = s.queue.tail.count (.callback id) + _
    rw [count_eq_tail hhead]
    simp
  | worker w => simp [left, occurrences]

omit [DecidableEq Wid] in
/-- What else is in the queue does not count. -/
theorem queue_left {s : State Wid} {queue : List Item}
    (hqueue : ∀ id, queue.count (.callback id) = s.queue.count (.callback id)) :
    left { s with queue := queue } = left s := by
  funext id place
  cases place with
  | work k => rfl
  | assistant j => rfl
  | queue => exact hqueue id
  | worker w => rfl

/-- **`Cascade`**: the entries of a live task go from the assistant bucket
    to one bucket of the work wheel. -/
theorem cascade_keeps {w : TimingWheel} {j : Fin assistantWheelSize}
    (htick : s.tick.handing = false) (hwork : w.workWheel = s.wheel.workWheel)
    (hassistant : w.assistantWheel = s.wheel.assistantWheel) (htasks : w.tasks = s.wheel.tasks) :
    Keeps (fun id => (s.wheel.tasks id).isSome) (left s)
      (left { s with wheel := w.cascade j, tick := .beforeTick }) := by
  rw [left_eq_occurrences htick,
    left_eq_occurrences (s := { s with wheel := w.cascade j, tick := .beforeTick }) rfl]
  -- where `Cascade` leaves a task, counted bucket by bucket
  have hworkCount (id : TaskId) (k : Fin workWheelSize) :
      ((w.cascade j).workWheel k).count id = (s.wheel.workWheel k).count id +
        if (s.wheel.tasks id).map (·.remainderIntervalMs) = some k
          then (s.wheel.assistantWheel j).count id else 0 := by
    rw [TimingWheel.cascade_count, hwork, hassistant, htasks]
  have hassistantCount (id : TaskId) (j' : Fin assistantWheelSize) :
      ((w.cascade j).assistantWheel j').count id =
        if j' = j then 0 else (s.wheel.assistantWheel j').count id := by
    rw [TimingWheel.cascade_assistantWheel, hassistant]
    by_cases hj : j' = j
    · rw [hj, Function.update_self, if_pos rfl]
      rfl
    · rw [Function.update_of_ne hj, if_neg hj]
  constructor
  · intro id halive hone
    obtain ⟨place, hplace⟩ := hone
    obtain ⟨task, htask⟩ := Option.isSome_iff_exists.mp halive
    -- only the tasks of bucket `j` are moved
    by_cases hhere : place = .assistant j
    · refine ⟨.work task.remainderIntervalMs, fun q => ?_⟩
      have hcount : (s.wheel.assistantWheel j).count id = 1 :=
        (hplace (.assistant j)).trans (if_pos hhere.symm)
      have helsewhere {q : Place Wid} (hq : q ≠ .assistant j) : occurrences s id q = 0 := by
        rw [hplace q, if_neg]
        exact fun heq => hq (heq.trans hhere)
      cases q with
      | work k =>
        show ((w.cascade j).workWheel k).count id = _
        have hzero : (s.wheel.workWheel k).count id = 0 := helsewhere (q := .work k) nofun
        rw [hworkCount, hcount, hzero, htask]
        simp [eq_comm]
      | assistant j' =>
        show ((w.cascade j).assistantWheel j').count id = 0
        rw [hassistantCount]
        by_cases hj : j' = j
        · rw [if_pos hj]
        · rw [if_neg hj]
          exact helsewhere (q := .assistant j') fun heq => hj (Place.assistant.inj heq)
      | queue => exact helsewhere (q := .queue) nofun
      | worker v => exact helsewhere (q := .worker v) nofun
    · refine ⟨place, fun q => ?_⟩
      have hzero : (s.wheel.assistantWheel j).count id = 0 :=
        (hplace (.assistant j)).trans (if_neg (Ne.symm hhere))
      rw [← hplace q]
      cases q with
      | work k =>
        show ((w.cascade j).workWheel k).count id = (s.wheel.workWheel k).count id
        rw [hworkCount, hzero, ite_self, Nat.add_zero]
      | assistant j' =>
        show ((w.cascade j).assistantWheel j').count id = (s.wheel.assistantWheel j').count id
        rw [hassistantCount]
        by_cases hj : j' = j
        · rw [if_pos hj, hj, hzero]
        · rw [if_neg hj]
      | queue => rfl
      | worker v => rfl
  · -- a task that is nowhere is not put anywhere
    intro id hno q
    cases q with
    | work k =>
      show ((w.cascade j).workWheel k).count id = 0
      have hzero : (s.wheel.assistantWheel j).count id = 0 := hno (.assistant j)
      rw [hworkCount, hzero, ite_self]
      exact hno (.work k)
    | assistant j' =>
      show ((w.cascade j).assistantWheel j').count id = 0
      rw [hassistantCount]
      split
      · rfl
      · exact hno (.assistant j')
    | queue => exact hno .queue
    | worker v => exact hno (.worker v)

theorem advance_keeps {s : State Wid} (htick : s.tick.handing = false) :
    Keeps (fun id => (s.wheel.tasks id).isSome) (left s)
      (left { s with wheel := s.wheel.advance, tick := .beforeTick }) := by
  unfold TimingWheel.advance
  dsimp only
  split
  · exact cascade_keeps htick rfl rfl rfl
  · -- only the work index moves
    apply Keeps.of_eq
    rw [left_eq_occurrences htick, left_eq_occurrences rfl]
    funext id place
    cases place <;> rfl

theorem disown_wheel (s : State Wid) (o : Owner Wid) (id : TaskId) :
    SameBuckets s.wheel (s.disown o id).wheel := by
  unfold State.disown
  dsimp only
  split
  · exact ⟨rfl, rfl, rfl, rfl⟩
  · exact ⟨rfl, rfl, rfl, rfl⟩

theorem disown_left (s : State Wid) (o : Owner Wid) (id : TaskId) :
    left (s.disown o id) = left s :=
  left_frame (disown_wheel s o id) rfl rfl fun _ => rfl

theorem reset_wheel (s : State Wid) : SameBuckets s.wheel s.reset.wheel := by
  unfold State.reset
  split
  · next id _ => exact disown_wheel s .timer id
  · exact ⟨rfl, rfl, rfl, rfl⟩

theorem reset_rest (s : State Wid) : s.reset.queue = s.queue ∧ s.reset.started = s.started ∧
    s.reset.stopped = s.stopped ∧ s.reset.late = s.late := by
  unfold State.reset
  split
  · exact ⟨rfl, rfl, rfl, rfl⟩
  · exact ⟨rfl, rfl, rfl, rfl⟩

theorem reset_left (s : State Wid) : left s.reset = left s := by
  obtain ⟨htick, hworkers, _, _⟩ := reset_frame (s := s)
  refine left_frame (reset_wheel s) ?_ (reset_rest s).1 ?_
  · rw [htick]
  · intro w
    rw [hworkers]

theorem resetNew_left (s : State Wid) (period : Nat) : left (s.resetNew period) = left s := by
  rw [← reset_left s]
  exact left_frame ⟨rfl, rfl, rfl, rfl⟩ rfl rfl fun _ => rfl

/-! ## Section 3: Steps that move no occurrence of the timer -/

omit [DecidableEq Wid] in
theorem tickDone_left {s : State Wid} (htick : s.tick = .beforeTick) :
    left { s with tick := .asleep } = left s := by
  refine left_frame ⟨rfl, rfl, rfl, rfl⟩ ?_ rfl fun _ => rfl
  rw [htick]
  rfl

theorem tickErase_left {s : State Wid} (htick : s.tick = .handed i) :
    left (State.disown { s with wheel := popCurrent s.wheel, tick := .beforeTick } .tick i) =
      left s := by
  rw [disown_left, erase_left]
  rw [htick]
  rfl

omit [DecidableEq Wid] in
theorem enqueueOther_left (s : State Wid) :
    left { s with queue := s.queue ++ [.other] } = left s := by
  apply queue_left
  intro id
  rw [count_concat, if_neg nofun, Nat.add_zero]

theorem dequeueOther_left {s : State Wid} {w : Wid} (hidle : s.workers w = .idle)
    (hhead : s.queue.head? = some .other) :
    left { s.setWorker w .other with queue := s.queue.tail } = left s := by
  have hcarries : WorkerPc.other.carries = (s.workers w).carries := by
    rw [hidle]
    rfl
  rw [← setWorker_left hcarries]
  apply queue_left
  intro id
  show s.queue.tail.count (.callback id) = s.queue.count (.callback id)
  rw [count_eq_tail hhead, if_neg nofun, Nat.add_zero]

/-- A worker takes a callback out of the queue. -/
theorem dequeue_keeps {s : State Wid} {w : Wid} {kept : TaskId → Prop}
    (hidle : s.workers w = .idle) (hhead : s.queue.head? = some (.callback i)) :
    Keeps kept (left s) (left { s.setWorker w (.check i) with queue := s.queue.tail }) := by
  have hnone : (s.workers w).carries = none := by
    rw [hidle]
    rfl
  have hput : OneMore (left { s with queue := s.queue.tail })
      (left ({ s with queue := s.queue.tail }.setWorker w (.check i))) i (.worker w) :=
    setWorker_oneMore hnone rfl
  exact Keeps.move (dequeue_oneLess hhead) hput

theorem callbackDone_left {s : State Wid} {w : Wid} (hadded : s.workers w = .added i) :
    left ((s.setWorker w .idle).disown (.worker w) i) = left s := by
  rw [disown_left, setWorker_left]
  rw [hadded]
  rfl

/-! ## Section 4: The bucket `Tick` looks at -/

theorem head_append {l : List TaskId} {x : TaskId} {rest : List TaskId}
    (h : l.head? = some x) : (l ++ rest).head? = some x := by
  rw [List.head?_append, h]
  rfl

/-- What is added goes behind the entry that `Tick` has locked. -/
theorem pushTask_head {w : TimingWheel} {current : Fin workWheelSize} {x : TaskId}
    (h : (w.workWheel w.currentWorkWheelIndex).head? = some x) :
    ((pushTask w i current).workWheel (pushTask w i current).currentWorkWheelIndex).head? =
      some x := by
  -- a push is at the back of its bucket
  have hpush (w' : TimingWheel) (k : Fin workWheelSize)
      (h' : (w'.workWheel w'.currentWorkWheelIndex).head? = some x) :
      ((w'.pushWork k i).workWheel w'.currentWorkWheelIndex).head? = some x := by
    show (Function.update w'.workWheel k _ _).head? = _
    by_cases hk : w'.currentWorkWheelIndex = k
    · rw [hk, Function.update_self]
      rw [hk] at h'
      exact head_append h'
    · rw [Function.update_of_ne hk]
      exact h'
  unfold pushTask
  split
  · unfold TimingWheel.addTaskAt
    dsimp only
    split
    · exact hpush _ _ h
    · split
      · exact hpush _ _ h
      · exact h
  · exact h

theorem pushTask_running {w : TimingWheel} {current : Fin workWheelSize}
    (h : w.running = true) : (pushTask w i current).running = true := by
  unfold pushTask
  split
  · unfold TimingWheel.addTaskAt
    dsimp only
    split
    · rfl
    · split
      · rfl
      · rfl
  · exact h

end operations

/-! ## Section 5: The tick thread -/

/-- **Invariant**: the wheel runs, and `Tick` works on the first entry of
    its bucket. -/
structure Ticking (s : State Wid) : Prop where
  running : s.wheel.running = true
  head    : ∀ id, s.tick.holds = some id →
    (s.wheel.workWheel s.wheel.currentWorkWheelIndex).head? = some id

section steps
variable {opt : TimerOption} {taskQueueSize : Nat} {s s' : State Wid}

theorem holds_of_handing {pc : TickPc} (h : pc.handing = true) : ∃ id, pc.holds = some id := by
  cases pc with
  | handed id => exact ⟨id, rfl⟩
  | beforeTick => cases h
  | locked id => cases h
  | asleep => cases h

theorem handing_of_holds {pc : TickPc} (h : pc.holds = none) : pc.handing = false := by
  cases pc with
  | handed id => cases h
  | beforeTick => rfl
  | locked id => rfl
  | asleep => rfl

theorem Ticking.bucket_ne_nil (h : Ticking s) (hhanding : s.tick.handing = true) :
    s.wheel.workWheel s.wheel.currentWorkWheelIndex ≠ [] := by
  obtain ⟨id, hid⟩ := holds_of_handing hhanding
  intro hnil
  have hhead := h.head id hid
  rw [hnil] at hhead
  cases hhead

theorem Ticking.frame (h : Ticking s) (hwheel : SameBuckets s.wheel s'.wheel)
    (htick : ∀ id, s'.tick.holds = some id → s.tick.holds = some id) : Ticking s' := by
  constructor
  · rw [hwheel.running, h.running]
  · intro id hid
    rw [hwheel.work, hwheel.current]
    exact h.head id (htick id hid)

theorem Ticking.pushTask (h : Ticking s) {id : TaskId} {current : Fin workWheelSize}
    (hwheel : s'.wheel = TimerRuns.pushTask s.wheel id current) (htick : s'.tick = s.tick) :
    Ticking s' := by
  constructor
  · rw [hwheel]
    exact pushTask_running h.running
  · intro x hx
    rw [hwheel]
    rw [htick] at hx
    exact pushTask_head (h.head x hx)

variable [DecidableEq Wid]

/-- **Step lemma** for the tick thread. -/
theorem Ticking.step (a : Label Wid) (h : Ticking s)
    (hg : ((timer opt taskQueueSize).action a).gate s) :
    Ticking (((timer opt taskQueueSize).action a).effect s) := by
  have hsame : SameBuckets s.wheel s.wheel := ⟨rfl, rfl, rfl, rfl⟩
  cases a with
  | tickLock id =>
    obtain ⟨_, htick, hhead⟩ := hg
    dsimp only [timer]
    split
    · refine ⟨h.running, ?_⟩
      intro x hx
      cases hx
      exact hhead
    · -- an expired task is not handed on
      refine ⟨h.running, ?_⟩
      intro x hx
      rw [htick] at hx
      cases hx
  | tickAsync id =>
    have htick : s.tick.holds = some id := by
      rw [show s.tick = .locked id from hg]
      rfl
    dsimp only [timer]
    split
    · refine h.frame hsame ?_
      intro x hx
      cases hx
      exact htick
    · refine h.frame hsame ?_
      intro x hx
      cases hx
      exact htick
  -- the task is taken out before the next one is looked at
  | tickErase id =>
    have hwheel := disown_wheel { s with wheel := popCurrent s.wheel, tick := .beforeTick } .tick id
    exact ⟨hwheel.running.trans h.running, by simp [timer, State.disown, TickPc.holds]⟩
  | tickDone => exact ⟨h.running, by simp [timer, TickPc.holds]⟩
  | advance =>
    exact ⟨(TimingWheel.advance_running s.wheel).trans h.running, by simp [timer, TickPc.holds]⟩
  | start => exact h.frame hsame fun _ hid => hid
  | startExchange =>
    dsimp only [timer]
    split
    · exact h.frame hsame fun _ hid => hid
    · exact h.frame hsame fun _ hid => hid
  | initTimerTask =>
    dsimp only [timer]
    split
    · exact h.frame hsame fun _ hid => hid
    · have hwheel := reset_wheel s
      refine h.frame ⟨hwheel.running, hwheel.work, hwheel.assistant, hwheel.current⟩ ?_
      intro id hid
      rw [← reset_frame.1]
      exact hid
  | startIndex id => exact h.frame hsame fun _ hid => hid
  | startPush id current => exact h.pushTask rfl rfl
  | stop => exact h.frame hsame fun _ hid => hid
  | stopExchange =>
    dsimp only [timer]
    split
    · exact h.frame hsame fun _ hid => hid
    · exact h.frame hsame fun _ hid => hid
  | stopReset =>
    refine h.frame (reset_wheel s) ?_
    intro id hid
    rw [← reset_frame.1]
    exact hid
  | stopReturn => exact h.frame hsame fun _ hid => hid
  | enqueueOther =>
    dsimp only [timer]
    split
    · exact h.frame hsame fun _ hid => hid
    · exact h
  | dequeue w item => exact h.frame hsame fun _ hid => hid
  | otherDone w => exact h.frame hsame fun _ hid => hid
  | check w id =>
    dsimp only [timer]
    split
    · exact h.frame hsame fun _ hid => hid
    · split
      · exact h.frame hsame fun _ hid => hid
      · split
        · exact h.frame hsame fun _ hid => hid
        · exact h.frame hsame fun _ hid => hid
  | call w id => exact h.frame hsame fun _ hid => hid
  | callbackReturn w id duration =>
    dsimp only [timer]
    split
    · exact h.frame hsame fun _ hid => hid
    · exact h.frame ⟨rfl, rfl, rfl, rfl⟩ fun _ hid => hid
  | workerIndex w id => exact h.frame hsame fun _ hid => hid
  | workerPush w id current => exact h.pushTask rfl rfl
  | callbackDone w id =>
    exact h.frame (disown_wheel (s.setWorker w .idle) (.worker w) id) fun _ hid => hid

theorem ticking_init (hi : (timer opt taskQueueSize).init s) : Ticking s := by
  obtain ⟨hrunning, _, _, _, htick, _⟩ := hi
  refine ⟨hrunning, ?_⟩
  rw [htick]
  nofun

end steps

end CyberRT.Timer.TimerRuns
