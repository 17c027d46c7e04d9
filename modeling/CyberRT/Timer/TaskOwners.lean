import CyberRT.Timer.Timer

/-! # Owners of a timer's tasks

    A task is alive as long as somebody owns it: the timer it is the task
    of, a `Tick` that has locked it, and every periodic callback that was
    copied from it and has found it alive. -/

namespace CyberRT.Timer.TimerRuns

open CyberRT.Framework

variable {Wid : Type}

/-! ## Section 1: The invariant -/

/-- The task of the `shared_ptr` in `Tick`. -/
def TickPc.holds : TickPc → Option TaskId
  | .locked id | .handed id => some id
  | _ => none

/-- The task of the `shared_ptr` in a periodic callback. -/
def WorkerPc.owns : WorkerPc → Option TaskId
  | .call id | .running id | .addTask id | .pushTask id _ | .added id => some id
  | _ => none

/-- The weak pointers to a task expire with its last owner. -/
def Backed (owners : TaskId → List (Owner Wid)) (tasks : TaskId → Option TimerTask) : Prop :=
  ∀ id, (tasks id).isSome ↔ owners id ≠ []

/-- The task an owner has a `shared_ptr` to. A one-shot callback is the
    user's own and has none. -/
def Owner.holds (opt : TimerOption) (s : State Wid) : Owner Wid → Option TaskId
  | .timer    => s.task
  | .tick     => s.tick.holds
  | .worker w => if opt.oneshot = true then none else (s.workers w).owns

/-- **Invariant**: the owners of a task are the `shared_ptr`s to it, and
    nobody owns a task that is not made yet. -/
structure Owned (opt : TimerOption) (s : State Wid) : Prop where
  backed : Backed s.owners s.wheel.tasks
  nodup  : ∀ id, (s.owners id).Nodup
  owner  : ∀ o id, o ∈ s.owners id ↔ o.holds opt s = some id
  fresh  : ∀ id, s.nextTask ≤ id → s.owners id = []

/-! ## Section 2: Operations -/

section operations
variable {s s' : State Wid} {id : TaskId} {w : TimingWheel}

theorem isSome_update_some {tasks : TaskId → Option TimerTask} {task : TimerTask}
    (h : (tasks id).isSome) (x : TaskId) :
    (Function.update tasks id (some task) x).isSome = (tasks x).isSome := by
  by_cases hx : x = id
  · rw [hx, Function.update_self, h]
    rfl
  · rw [Function.update_of_ne hx]

theorem addTaskAt_isSome {task : TimerTask} {current : Fin workWheelSize}
    (h : (w.tasks id).isSome) (x : TaskId) :
    ((w.addTaskAt id task current).tasks x).isSome = (w.tasks x).isSome := by
  unfold TimingWheel.addTaskAt
  dsimp only
  split
  · rfl
  · split
    · exact isSome_update_some h x
    · exact isSome_update_some h x

theorem pushTask_isSome {current : Fin workWheelSize} (x : TaskId) :
    ((pushTask w id current).tasks x).isSome = (w.tasks x).isSome := by
  unfold pushTask
  split
  · next task htask => exact addTaskAt_isSome (by rw [htask]; rfl) x
  · rfl

theorem setDuration_isSome {duration : Nat} (x : TaskId) :
    ((setDuration w id duration).tasks x).isSome = (w.tasks x).isSome := by
  show (Function.update w.tasks id _ x).isSome = _
  by_cases hx : x = id
  · rw [hx, Function.update_self, Option.isSome_map]
  · rw [Function.update_of_ne hx]

variable [DecidableEq Wid]

omit [DecidableEq Wid] in
theorem own_owners (s : State Wid) (o : Owner Wid) (id x : TaskId) :
    (s.own o id).owners x = if x = id then o :: s.owners id else s.owners x := by
  show Function.update s.owners id _ x = _
  by_cases hx : x = id
  · rw [hx, Function.update_self, if_pos rfl]
  · rw [Function.update_of_ne hx, if_neg hx]

theorem disown_owners (s : State Wid) (o : Owner Wid) (id x : TaskId) :
    (s.disown o id).owners x = if x = id then (s.owners id).erase o else s.owners x := by
  show Function.update s.owners id _ x = _
  by_cases hx : x = id
  · rw [hx, Function.update_self, if_pos rfl]
  · rw [Function.update_of_ne hx, if_neg hx]

theorem disown_tasks (s : State Wid) (o : Owner Wid) (id x : TaskId) :
    (s.disown o id).wheel.tasks x =
      if x = id ∧ (s.owners id).erase o = [] then none else s.wheel.tasks x := by
  show (if (s.owners id).erase o = [] then
    { s.wheel with tasks := Function.update s.wheel.tasks id none } else s.wheel).tasks x = _
  by_cases hleft : (s.owners id).erase o = []
  · rw [if_pos hleft]
    show Function.update s.wheel.tasks id none x = _
    by_cases hx : x = id
    · rw [hx, Function.update_self, if_pos ⟨rfl, hleft⟩]
    · rw [Function.update_of_ne hx, if_neg fun h => hx h.1]
  · rw [if_neg hleft, if_neg fun h => hleft h.2]

end operations

/-! ## Section 3: Steps -/

section steps
variable {opt : TimerOption} {s s' : State Wid} {id : TaskId} {o : Owner Wid}

/-- The timer's task is alive. -/
theorem Owned.alive (h : Owned opt s) (ho : o.holds opt s = some id) :
    (s.wheel.tasks id).isSome := by
  rw [h.backed id]
  exact List.ne_nil_of_mem ((h.owner o id).mpr ho)

/-- What is alive has an owner. -/
theorem Owned.exists_owner (h : Owned opt s) (halive : (s.wheel.tasks id).isSome) :
    ∃ o : Owner Wid, o.holds opt s = some id := by
  obtain ⟨o, ho⟩ := List.exists_mem_of_ne_nil _ ((h.backed id).mp halive)
  exact ⟨o, (h.owner o id).mp ho⟩

/-- What somebody owns was made. -/
theorem Owned.made (h : Owned opt s) (ho : o.holds opt s = some id) : id < s.nextTask := by
  by_contra hlt
  have hmem := (h.owner o id).mpr ho
  rw [h.fresh id (Nat.le_of_not_lt hlt)] at hmem
  cases hmem

/-- Nobody makes or drops a `shared_ptr`. -/
theorem Owned.frame (h : Owned opt s) (howners : s'.owners = s.owners)
    (hisSome : ∀ id, (s'.wheel.tasks id).isSome = (s.wheel.tasks id).isSome)
    (hholds : ∀ o : Owner Wid, o.holds opt s' = o.holds opt s)
    (hnext : s'.nextTask = s.nextTask) : Owned opt s' := by
  constructor
  · intro id
    rw [hisSome, howners]
    exact h.backed id
  · rw [howners]
    exact h.nodup
  · intro o id
    rw [howners, hholds]
    exact h.owner o id
  · rw [hnext, howners]
    exact h.fresh

/-- A `shared_ptr` is made from a weak pointer. -/
theorem Owned.own (h : Owned opt s) (halive : (s.wheel.tasks id).isSome)
    (hnone : o.holds opt s = none) (hsome : o.holds opt s' = some id)
    (hothers : ∀ o' : Owner Wid, o' ≠ o → o'.holds opt s' = o'.holds opt s)
    (howners : ∀ x, s'.owners x = if x = id then o :: s.owners id else s.owners x)
    (htasks : s'.wheel.tasks = s.wheel.tasks) (hnext : s'.nextTask = s.nextTask) :
    Owned opt s' := by
  -- the owner held nothing, so it stands in no list
  have hnot (x : TaskId) : o ∉ s.owners x := by
    rw [h.owner o x, hnone]
    nofun
  constructor
  · intro x
    rw [htasks, howners]
    by_cases hx : x = id
    · rw [if_pos hx, hx]
      exact iff_of_true halive (List.cons_ne_nil _ _)
    · rw [if_neg hx]
      exact h.backed x
  · intro x
    rw [howners]
    by_cases hx : x = id
    · rw [if_pos hx]
      exact List.nodup_cons.mpr ⟨hnot id, h.nodup id⟩
    · rw [if_neg hx]
      exact h.nodup x
  · intro o' x
    rw [howners]
    by_cases ho : o' = o
    · subst ho
      rw [hsome]
      by_cases hx : x = id
      · rw [if_pos hx, hx]
        exact iff_of_true List.mem_cons_self rfl
      · rw [if_neg hx]
        exact iff_of_false (hnot x) fun heq => hx (Option.some.inj heq).symm
    · rw [hothers o' ho, ← h.owner o' x]
      by_cases hx : x = id
      · rw [if_pos hx, hx, List.mem_cons]
        exact or_iff_right ho
      · rw [if_neg hx]
  · intro x hx
    rw [hnext] at hx
    rw [howners, if_neg, h.fresh x hx]
    intro heq
    have hne := (h.backed id).mp halive
    rw [← heq, h.fresh x hx] at hne
    exact hne rfl

/-- The `shared_ptr`s of the code stay as they are. -/
theorem Owned.same (h : Owned opt s) (howners : s'.owners = s.owners)
    (hisSome : ∀ id, (s'.wheel.tasks id).isSome = (s.wheel.tasks id).isSome)
    (htask : s'.task = s.task) (htick : s'.tick.holds = s.tick.holds)
    (hworkers : s'.workers = s.workers) (hnext : s'.nextTask = s.nextTask) : Owned opt s' := by
  refine h.frame howners hisSome ?_ hnext
  intro o
  cases o with
  | timer => exact htask
  | tick => exact htick
  | worker w =>
    show (if opt.oneshot = true then none else (s'.workers w).owns) = if _ then _ else _
    rw [hworkers]

variable [DecidableEq Wid]

/-- A `shared_ptr` is dropped. -/
theorem Owned.disown (h : Owned opt s) (hsome : o.holds opt s = some id)
    (hnone : o.holds opt s' = none)
    (hothers : ∀ o' : Owner Wid, o' ≠ o → o'.holds opt s' = o'.holds opt s)
    (howners : ∀ x, s'.owners x = if x = id then (s.owners id).erase o else s.owners x)
    (htasks : ∀ x, s'.wheel.tasks x =
      if x = id ∧ (s.owners id).erase o = [] then none else s.wheel.tasks x)
    (hnext : s'.nextTask = s.nextTask) : Owned opt s' := by
  constructor
  · intro x
    rw [htasks, howners]
    by_cases hx : x = id
    · subst hx
      -- the last owner to go takes the task with it
      by_cases hleft : (s.owners x).erase o = []
      · rw [if_pos ⟨rfl, hleft⟩, if_pos rfl, hleft]
        exact iff_of_false nofun (not_not.mpr rfl)
      · rw [if_neg fun h => hleft h.2, if_pos rfl]
        exact iff_of_true (h.alive hsome) hleft
    · rw [if_neg fun h => hx h.1, if_neg hx]
      exact h.backed x
  · intro x
    rw [howners]
    by_cases hx : x = id
    · rw [if_pos hx]
      exact (h.nodup id).erase o
    · rw [if_neg hx]
      exact h.nodup x
  · intro o' x
    rw [howners]
    by_cases ho : o' = o
    · subst ho
      rw [hnone]
      refine iff_of_false ?_ nofun
      by_cases hx : x = id
      · rw [if_pos hx]
        exact (h.nodup id).not_mem_erase
      · rw [if_neg hx, h.owner o' x, hsome]
        exact fun heq => hx (Option.some.inj heq).symm
    · rw [hothers o' ho, ← h.owner o' x]
      by_cases hx : x = id
      · rw [if_pos hx, hx]
        exact List.mem_erase_of_ne ho
      · rw [if_neg hx]
  · intro x hx
    rw [hnext] at hx
    rw [howners, h.fresh x hx]
    split
    · next heq =>
      rw [← heq, h.fresh x hx]
      rfl
    · rfl

/-- A worker moves with what it owns. -/
theorem Owned.workerMove (h : Owned opt s) {w : Wid} {pc : WorkerPc}
    (howns : opt.oneshot = true ∨ pc.owns = (s.workers w).owns)
    (hworkers : s'.workers = Function.update s.workers w pc)
    (howners : s'.owners = s.owners)
    (hisSome : ∀ id, (s'.wheel.tasks id).isSome = (s.wheel.tasks id).isSome)
    (htask : s'.task = s.task) (htick : s'.tick = s.tick) (hnext : s'.nextTask = s.nextTask) :
    Owned opt s' := by
  refine h.frame howners hisSome ?_ hnext
  intro o
  cases o with
  | timer => exact htask
  | tick =>
    show s'.tick.holds = s.tick.holds
    rw [htick]
  | worker v =>
    show (if opt.oneshot = true then none else (s'.workers v).owns) = if _ then _ else _
    rw [hworkers]
    rcases howns with hone | howns
    · rw [if_pos hone, if_pos hone]
    · by_cases hv : v = w
      · rw [hv, Function.update_self, howns]
      · rw [Function.update_of_ne hv]

/-- `task_.reset()`. -/
theorem Owned.reset (h : Owned opt s) : Owned opt s.reset := by
  unfold State.reset
  split
  · next id htask =>
    refine h.disown (o := .timer) htask rfl ?_ (disown_owners s .timer id)
      (disown_tasks s .timer id) rfl
    intro o ho
    cases o with
    | timer => exact absurd rfl ho
    | tick => rfl
    | worker w => rfl
  · exact h

theorem reset_frame : s.reset.tick = s.tick ∧ s.reset.workers = s.workers ∧
    s.reset.nextTask = s.nextTask ∧ s.reset.task = none := by
  unfold State.reset
  split
  · exact ⟨rfl, rfl, rfl, rfl⟩
  · next htask => exact ⟨rfl, rfl, rfl, htask⟩

/-- `task_.reset(new TimerTask(timer_id_))`. -/
theorem Owned.resetNew (h : Owned opt s) (period : Nat) : Owned opt (s.resetNew period) := by
  have hr := h.reset
  obtain ⟨htick, hworkers, hnext, htask⟩ := reset_frame (s := s)
  have hfresh : s.reset.owners s.nextTask = [] := hr.fresh s.nextTask (by rw [hnext])
  -- the new task has one owner, the other owners have what they had
  have howners (x : TaskId) : (s.resetNew period).owners x =
      if x = s.nextTask then [.timer] else s.reset.owners x := by
    show Function.update s.reset.owners s.nextTask [.timer] x = _
    by_cases hx : x = s.nextTask
    · rw [hx, Function.update_self, if_pos rfl]
    · rw [Function.update_of_ne hx, if_neg hx]
  -- `reset` has dropped the timer's own pointer
  have hnotTimer (x : TaskId) : Owner.timer ∉ s.reset.owners x := by
    rw [hr.owner .timer x]
    show ¬ s.reset.task = some x
    rw [htask]
    nofun
  constructor
  · intro x
    rw [howners]
    show (Function.update s.reset.wheel.tasks s.nextTask _ x).isSome ↔ _
    by_cases hx : x = s.nextTask
    · rw [hx, Function.update_self, if_pos rfl]
      exact iff_of_true rfl (List.cons_ne_nil _ _)
    · rw [Function.update_of_ne hx, if_neg hx]
      exact hr.backed x
  · intro x
    rw [howners]
    split
    · exact List.pairwise_singleton _ _
    · exact hr.nodup x
  · intro o x
    rw [howners]
    cases o with
    | timer =>
      show _ ↔ some s.nextTask = some x
      by_cases hx : x = s.nextTask
      · rw [if_pos hx, hx]
        exact iff_of_true (List.mem_singleton_self _) rfl
      · rw [if_neg hx]
        exact iff_of_false (hnotTimer x) fun heq => hx (Option.some.inj heq).symm
    | tick =>
      show _ ↔ s.reset.tick.holds = some x
      have howner := hr.owner .tick x
      by_cases hx : x = s.nextTask
      · rw [hx, hfresh] at howner
        rw [if_pos hx, hx]
        exact iff_of_false nofun fun hh => nomatch howner.mpr hh
      · rw [if_neg hx]
        exact howner
    | worker w =>
      show _ ↔ Owner.holds opt s.reset (.worker w) = some x
      have howner := hr.owner (.worker w) x
      by_cases hx : x = s.nextTask
      · rw [hx, hfresh] at howner
        rw [if_pos hx, hx]
        exact iff_of_false nofun fun hh => nomatch howner.mpr hh
      · rw [if_neg hx]
        exact howner
  · intro x hx
    have hx' : s.nextTask + 1 ≤ x := hx
    rw [howners, if_neg (Nat.ne_of_gt hx')]
    apply hr.fresh x
    rw [hnext]
    exact Nat.le_of_succ_le hx'

/-! ### The tick thread -/

omit [DecidableEq Wid] in
/-- The other owners hold what they held. -/
theorem holds_setTick {t : State Wid} {pc : TickPc} {o : Owner Wid} (ho : o ≠ .tick)
    (htask : t.task = s.task) (hworkers : t.workers = s.workers) :
    o.holds opt { t with tick := pc } = o.holds opt s := by
  cases o with
  | timer => exact htask
  | tick => exact absurd rfl ho
  | worker w =>
    show (if opt.oneshot = true then none else (t.workers w).owns) = if _ then _ else _
    rw [hworkers]

/-- `lock()` makes a `shared_ptr` of the thread of its own. -/
theorem Owned.tickLock {taskQueueSize : Nat} (h : Owned opt s) (htick : s.tick = .beforeTick)
    (id : TaskId) :
    Owned opt (((TimerRuns.timer opt taskQueueSize).action (.tickLock id)).effect s) := by
  dsimp only [TimerRuns.timer]
  split
  · next halive =>
    refine h.own (o := .tick) halive ?_ rfl ?_ (own_owners s .tick id) rfl rfl
    · show s.tick.holds = none
      rw [htick]
      rfl
    · intro o ho
      exact holds_setTick (t := s.own .tick id) ho rfl rfl
  · exact h.same rfl (fun _ => rfl) rfl rfl rfl rfl

/-- The pointer is captured by the callback. -/
theorem Owned.tickAsync {taskQueueSize : Nat} (h : Owned opt s) (htick : s.tick = .locked id) :
    Owned opt (((TimerRuns.timer opt taskQueueSize).action (.tickAsync id)).effect s) := by
  have hholds : TickPc.holds (.handed id) = s.tick.holds := by
    rw [htick]
    rfl
  dsimp only [TimerRuns.timer]
  split
  · exact h.same rfl (fun _ => rfl) rfl hholds rfl rfl
  · exact h.same rfl (fun _ => rfl) rfl hholds rfl rfl

theorem Owned.tickErase {taskQueueSize : Nat} (h : Owned opt s) (htick : s.tick = .handed id) :
    Owned opt (((TimerRuns.timer opt taskQueueSize).action (.tickErase id)).effect s) := by
  have hsome : s.tick.holds = some id := by
    rw [htick]
    rfl
  let popped : State Wid := { s with wheel := popCurrent s.wheel, tick := .beforeTick }
  refine h.disown (o := .tick) hsome rfl ?_ (disown_owners s .tick id)
    (disown_tasks popped .tick id) rfl
  intro o ho
  exact holds_setTick (t := popped.disown .tick id) ho rfl rfl

/-! ### The workers -/

/-- The other owners hold what they held. -/
theorem holds_setWorker {w : Wid} {p : WorkerPc} {o : Owner Wid} (ho : o ≠ .worker w)
    (htask : s'.task = s.task) (htick : s'.tick = s.tick)
    (hworkers : s'.workers = Function.update s.workers w p) :
    o.holds opt s' = o.holds opt s := by
  cases o with
  | timer => exact htask
  | tick =>
    show s'.tick.holds = s.tick.holds
    rw [htick]
  | worker v =>
    have hv : v ≠ w := fun heq => ho (congrArg Owner.worker heq)
    show (if opt.oneshot = true then none else (s'.workers v).owns) = if _ then _ else _
    rw [hworkers, Function.update_of_ne hv]

/-- What a periodic callback holds after it has moved. -/
theorem holds_worker {w : Wid} {p : WorkerPc} (hperiodic : ¬ opt.oneshot = true)
    (hworkers : s'.workers = Function.update s.workers w p) :
    Owner.holds opt s' (.worker w) = p.owns := by
  show (if opt.oneshot = true then none else (s'.workers w).owns) = p.owns
  rw [if_neg hperiodic, hworkers, Function.update_self]

/-- A periodic callback finds its task alive and owns it from then on. -/
theorem Owned.check {taskQueueSize : Nat} (h : Owned opt s) {w : Wid}
    (hcheck : s.workers w = .check id) :
    Owned opt (((TimerRuns.timer opt taskQueueSize).action (.check w id)).effect s) := by
  have hidle : opt.oneshot = true ∨ WorkerPc.idle.owns = (s.workers w).owns := by
    rw [hcheck]
    exact Or.inr rfl
  dsimp only [TimerRuns.timer]
  split
  · exact h.workerMove hidle rfl rfl (fun _ => rfl) rfl rfl rfl
  · split
    · next hone => exact h.workerMove (Or.inl hone) rfl rfl (fun _ => rfl) rfl rfl rfl
    · next hperiodic =>
      split
      · next halive =>
        refine h.own (o := .worker w) halive ?_ ?_ ?_ (own_owners s (.worker w) id) rfl rfl
        · show (if opt.oneshot = true then none else (s.workers w).owns) = none
          rw [if_neg hperiodic, hcheck]
          rfl
        · exact holds_worker (p := .call id) hperiodic rfl
        · exact fun o ho => holds_setWorker (p := .call id) ho rfl rfl rfl
      · exact h.workerMove hidle rfl rfl (fun _ => rfl) rfl rfl rfl

theorem Owned.callbackReturn {taskQueueSize : Nat} (h : Owned opt s) {w : Wid}
    (hrunning : s.workers w = .running id) (duration : Nat) :
    Owned opt (((TimerRuns.timer opt taskQueueSize).action
      (.callbackReturn w id duration)).effect s) := by
  dsimp only [TimerRuns.timer]
  split
  · next hone => exact h.workerMove (Or.inl hone) rfl rfl (fun _ => rfl) rfl rfl rfl
  · refine h.workerMove (Or.inr ?_) rfl rfl setDuration_isSome rfl rfl rfl
    rw [hrunning]
    rfl

/-- Who owns nothing takes no task with him. -/
theorem Owned.disown_of_not_mem (h : Owned opt s) (hnot : o ∉ s.owners id) :
    (s.disown o id).owners = s.owners ∧
      ∀ x, ((s.disown o id).wheel.tasks x).isSome = (s.wheel.tasks x).isSome := by
  constructor
  · funext x
    rw [disown_owners, List.erase_of_not_mem hnot]
    by_cases hx : x = id
    · rw [if_pos hx, hx]
    · rw [if_neg hx]
  · intro x
    rw [disown_tasks, List.erase_of_not_mem hnot]
    split
    · next hleft =>
      obtain ⟨hx, hnil⟩ := hleft
      have hdead : ¬ (s.wheel.tasks x).isSome := by
        rw [h.backed x, hx, hnil]
        exact fun hne => hne rfl
      exact (Bool.eq_false_iff.mpr hdead).symm
    · rfl

/-- A one-shot callback has owned nothing, a periodic one its task. -/
theorem Owned.callbackDone {taskQueueSize : Nat} (h : Owned opt s) {w : Wid}
    (hadded : s.workers w = .added id) :
    Owned opt (((TimerRuns.timer opt taskQueueSize).action (.callbackDone w id)).effect s) := by
  by_cases hone : opt.oneshot = true
  · have hnot : Owner.worker w ∉ s.owners id := by
      rw [h.owner (.worker w) id]
      show ¬ (if opt.oneshot = true then none else (s.workers w).owns) = some id
      rw [if_pos hone]
      nofun
    obtain ⟨howners, hisSome⟩ := h.disown_of_not_mem hnot
    exact h.workerMove (Or.inl hone) rfl howners hisSome rfl rfl rfl
  · have hsome : Owner.holds opt s (.worker w) = some id := by
      show (if opt.oneshot = true then none else (s.workers w).owns) = some id
      rw [if_neg hone, hadded]
      rfl
    refine h.disown hsome (holds_worker (p := .idle) hone rfl) ?_
      (disown_owners (s.setWorker w .idle) (.worker w) id)
      (disown_tasks (s.setWorker w .idle) (.worker w) id) rfl
    exact fun o ho => holds_setWorker (p := .idle) ho rfl rfl rfl

/-- **Step lemma** for the owners. -/
theorem Owned.step {taskQueueSize : Nat} (a : Label Wid) (h : Owned opt s)
    (hg : ((TimerRuns.timer opt taskQueueSize).action a).gate s) :
    Owned opt (((TimerRuns.timer opt taskQueueSize).action a).effect s) := by
  cases a with
  | tickLock id => exact h.tickLock hg.2.1 id
  | tickAsync id => exact h.tickAsync hg
  | tickErase id => exact h.tickErase hg
  | tickDone =>
    refine h.same rfl (fun _ => rfl) rfl ?_ rfl rfl
    rw [hg.1]
    rfl
  | advance =>
    refine h.same rfl ?_ rfl ?_ rfl rfl
    · intro x
      show (s.wheel.advance.tasks x).isSome = _
      rw [TimingWheel.advance_tasks]
    · rw [show s.tick = .asleep from hg]
      rfl
  | start | startIndex | stop | stopReturn => exact h.same rfl (fun _ => rfl) rfl rfl rfl rfl
  | startExchange | stopExchange =>
    dsimp only [TimerRuns.timer]
    split
    · exact h.same rfl (fun _ => rfl) rfl rfl rfl rfl
    · exact h.same rfl (fun _ => rfl) rfl rfl rfl rfl
  | initTimerTask =>
    dsimp only [TimerRuns.timer]
    split
    · exact h.same rfl (fun _ => rfl) rfl rfl rfl rfl
    · exact (h.resetNew opt.period).same rfl (fun _ => rfl) rfl rfl rfl rfl
  | startPush id current => exact h.same rfl pushTask_isSome rfl rfl rfl rfl
  | stopReset => exact h.reset.same rfl (fun _ => rfl) rfl rfl rfl rfl
  | enqueueOther =>
    dsimp only [TimerRuns.timer]
    split
    · exact h.same rfl (fun _ => rfl) rfl rfl rfl rfl
    · exact h
  | dequeue w item =>
    refine h.workerMove (Or.inr ?_) rfl rfl (fun _ => rfl) rfl rfl rfl
    rw [show s.workers w = .idle from hg.1]
    cases item with
    | callback id => rfl
    | other => rfl
  | otherDone w =>
    refine h.workerMove (Or.inr ?_) rfl rfl (fun _ => rfl) rfl rfl rfl
    rw [show s.workers w = .other from hg]
    rfl
  | check w id => exact h.check hg
  | call w id =>
    refine h.workerMove (Or.inr ?_) rfl rfl (fun _ => rfl) rfl rfl rfl
    rw [show s.workers w = .call id from hg]
    rfl
  | callbackReturn w id duration => exact h.callbackReturn hg duration
  | workerIndex w id =>
    refine h.workerMove (Or.inr ?_) rfl rfl (fun _ => rfl) rfl rfl rfl
    rw [show s.workers w = .addTask id from hg]
    rfl
  | workerPush w id current =>
    refine h.workerMove (Or.inr ?_) rfl rfl pushTask_isSome rfl rfl rfl
    rw [show s.workers w = .pushTask id current from hg]
    rfl
  | callbackDone w id => exact h.callbackDone hg

theorem owned_init {taskQueueSize : Nat} (hi : (TimerRuns.timer opt taskQueueSize).init s) :
    Owned opt s := by
  obtain ⟨_, _, _, htasks, htick, howners, _, hworkers, _, htask, _⟩ := hi
  constructor
  · intro id
    rw [htasks, howners]
    exact iff_of_false nofun fun hne => hne rfl
  · intro id
    rw [howners]
    exact List.nodup_nil
  · intro o id
    rw [howners]
    refine iff_of_false nofun ?_
    cases o with
    | timer =>
      show ¬ s.task = some id
      rw [htask]
      nofun
    | tick =>
      show ¬ s.tick.holds = some id
      rw [htick]
      nofun
    | worker w =>
      show ¬ (if opt.oneshot = true then none else (s.workers w).owns) = some id
      split
      · nofun
      · rcases hworkers w with hw | hw
        · rw [hw]
          nofun
        · rw [hw]
          nofun
  · exact fun id _ => howners id

end steps

end CyberRT.Timer.TimerRuns
