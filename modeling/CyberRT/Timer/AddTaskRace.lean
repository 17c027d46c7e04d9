import CyberRT.Timer.TimingWheel

/-! # Adding a task while the wheel turns

    `AddTask` reads `current_work_wheel_index_`, chooses a bucket and pushes
    the task under the mutex of that bucket. `TickFunc` sweeps the current
    bucket under its mutex, and advances the indexes under none. Here the
    steps of any number of calls and those of the tick thread interleave.

    A task that is pushed while its bucket is still ahead of the tick thread
    is handed over within its duration (`addTask_inTime`). A task whose
    bucket was swept after the index was read waits for a whole turn
    (`addTask_late`). -/

namespace CyberRT.Timer.WheelThreads

open CyberRT.Framework

/-! ## Section 1: State -/

/-- Where `TickFunc` stands: about to `Tick`, in `rate.Sleep()`, with the
    work index back at zero and the assistant index not advanced, and about
    to `Cascade`. -/
inductive TickPc where
  | beforeTick
  | asleep
  | wrapped
  | cascading
  deriving DecidableEq

inductive Bucket where
  | work (k : Fin workWheelSize)
  | assistant (j : Fin assistantWheelSize)
  deriving DecidableEq

/-- Where a call of `AddTask` stands. `duration` is history: the duration
    for which the bucket was chosen. -/
inductive AddPc where
  | idle
  | read (id : TaskId)
  | choose (id : TaskId) (current : Fin workWheelSize)
  | assistantRead (id : TaskId) (duration assistantTicks : Nat)
  | push (id : TaskId) (duration : Nat) (bucket : Bucket)
  deriving DecidableEq

/-- `advances` and `handed` are history, as in the tick loop; `adders` are
    the threads that call `AddTask`. -/
structure State where
  wheel    : TimingWheel
  tickPc   : TickPc
  advances : Nat
  handed   : TaskId → List Nat
  adders   : Nat → AddPc

def State.setAdder (s : State) (t : Nat) (pc : AddPc) : State :=
  { s with adders := Function.update s.adders t pc }

/-! ## Section 2: Model -/

/-- The advance of the work index alone. -/
def advanceWork (w : TimingWheel) : TimingWheel :=
  { w with currentWorkWheelIndex := getWorkWheelIndex (w.currentWorkWheelIndex.val + 1) }

/-- The advance of the assistant index alone. -/
def advanceAssistant (w : TimingWheel) : TimingWheel :=
  { w with
    currentAssistantWheelIndex := getAssistantWheelIndex (w.currentAssistantWheelIndex.val + 1) }

/-- The middle of `AddTask(task, current_work_wheel_index)`, in which it
    reads the work index once more. -/
def State.chooseBucket (s : State) (t : Nat) (id : TaskId) (task : TimerTask)
    (current : Fin workWheelSize) : State :=
  let s := { s with wheel := { s.wheel with running := true } }
  let duration := task.nextFireDurationMs
  let workWheelIndex := (current.val + duration) % 2 ^ 64
  if h : workWheelIndex < workWheelSize then
    s.setAdder t (.push id duration (.work ⟨workWheelIndex, h⟩))
  else
    let realWorkWheelIndex := getWorkWheelIndex workWheelIndex
    let s := { s with wheel := { s.wheel with
      tasks := Function.update s.wheel.tasks id
        (some { task with remainderIntervalMs := realWorkWheelIndex }) } }
    let assistantTicks := workWheelIndex / workWheelSize
    if assistantTicks = 1 ∧ realWorkWheelIndex ≠ s.wheel.currentWorkWheelIndex then
      s.setAdder t (.push id duration (.work realWorkWheelIndex))
    else s.setAdder t (.assistantRead id duration assistantTicks)

def pushInto (w : TimingWheel) (id : TaskId) : Bucket → TimingWheel
  | .work k      => w.pushWork k id
  | .assistant j => w.pushAssistant j id

/-- The steps of the tick thread, those of thread `t` in a call, and a write
    to a task object by its owner. -/
inductive Label where
  | tick
  | advance
  | advanceAssistant
  | cascade
  | addTask (t : Nat) (id : TaskId)
  | read (t : Nat) (id : TaskId)
  | choose (t : Nat) (id : TaskId) (current : Fin workWheelSize)
  | assistantRead (t : Nat) (id : TaskId) (duration assistantTicks : Nat)
  | push (t : Nat) (id : TaskId) (duration : Nat) (bucket : Bucket)
  | owner (id : TaskId) (task : Option TimerTask)

def wheelThreads : System State Label where
  init := fun s =>
    s.wheel.running = false ∧ s.tickPc = .beforeTick ∧ s.advances = 0 ∧
    s.wheel.currentWorkWheelIndex.val = 0 ∧ s.wheel.currentAssistantWheelIndex.val = 0 ∧
    (∀ k, s.wheel.workWheel k = []) ∧ (∀ j, s.wheel.assistantWheel j = []) ∧
    (∀ id, s.handed id = []) ∧ ∀ t, s.adders t = .idle
  action := fun
    | .tick =>
      { gate   := fun s => s.wheel.running = true ∧ s.tickPc = .beforeTick
        effect := fun s =>
          { s with
            wheel  := s.wheel.tick.2
            tickPc := .asleep
            handed := fun id =>
              s.handed id ++ List.replicate (s.wheel.tick.1.count id) s.advances } }
    | .advance =>
      { gate   := fun s => s.tickPc = .asleep
        effect := fun s =>
          { s with
            wheel    := advanceWork s.wheel
            tickPc   :=
              if (advanceWork s.wheel).currentWorkWheelIndex.val = 0 then .wrapped else .beforeTick
            advances := s.advances + 1 } }
    | .advanceAssistant =>
      { gate   := fun s => s.tickPc = .wrapped
        effect := fun s => { s with wheel := advanceAssistant s.wheel, tickPc := .cascading } }
    | .cascade =>
      { gate   := fun s => s.tickPc = .cascading
        effect := fun s =>
          { s with
            wheel  := s.wheel.cascade s.wheel.currentAssistantWheelIndex
            tickPc := .beforeTick } }
    | .addTask t id =>
      { gate   := fun s => s.adders t = .idle ∧ (s.wheel.tasks id).isSome
        effect := fun s => s.setAdder t (.read id) }
    | .read t id =>
      { gate   := fun s => s.adders t = .read id
        effect := fun s => s.setAdder t (.choose id s.wheel.currentWorkWheelIndex) }
    -- the caller holds a `shared_ptr`: the task has not expired
    | .choose t id current =>
      { gate   := fun s => s.adders t = .choose id current
        effect := fun s =>
          match s.wheel.tasks id with
          | some task => s.chooseBucket t id task current
          | none      => s }
    | .assistantRead t id duration assistantTicks =>
      { gate   := fun s => s.adders t = .assistantRead id duration assistantTicks
        effect := fun s =>
          s.setAdder t (.push id duration (.assistant
            (getAssistantWheelIndex (s.wheel.currentAssistantWheelIndex.val + assistantTicks)))) }
    | .push t id duration bucket =>
      { gate   := fun s => s.adders t = .push id duration bucket
        effect := fun s => { s.setAdder t .idle with wheel := pushInto s.wheel id bucket } }
    | .owner id task =>
      { gate   := fun _ => True
        effect := fun s =>
          { s with wheel := { s.wheel with tasks := Function.update s.wheel.tasks id task } } }

instance decidableGate : ∀ (a : Label) (s : State), Decidable ((wheelThreads.action a).gate s)
  | .tick, s                  => inferInstanceAs (Decidable (_ ∧ s.tickPc = _))
  | .advance, s               => inferInstanceAs (Decidable (s.tickPc = _))
  | .advanceAssistant, s      => inferInstanceAs (Decidable (s.tickPc = _))
  | .cascade, s               => inferInstanceAs (Decidable (s.tickPc = _))
  | .addTask t _, s           => inferInstanceAs (Decidable (s.adders t = _ ∧ _))
  | .read t _, s              => inferInstanceAs (Decidable (s.adders t = _))
  | .choose t _ _, s          => inferInstanceAs (Decidable (s.adders t = _))
  | .assistantRead t _ _ _, s => inferInstanceAs (Decidable (s.adders t = _))
  | .push t _ _ _, s          => inferInstanceAs (Decidable (s.adders t = _))
  | .owner _ _, _             => .isTrue True.intro

/-- The step neither chooses a bucket for the task `id` again nor writes to
    it otherwise. -/
def Label.spares (id : TaskId) : Label → Prop
  | .choose _ i _ => i ≠ id
  | .owner i _    => i ≠ id
  | _             => True

/-! ## Section 3: The steps together -/

/-- The three steps after `rate.Sleep()` are those of `advance`. -/
theorem advance_eq (w : TimingWheel) : w.advance =
    if (advanceWork w).currentWorkWheelIndex.val = 0 then
      (advanceAssistant (advanceWork w)).cascade
        (advanceAssistant (advanceWork w)).currentAssistantWheelIndex
    else advanceWork w := rfl

/-- The wheel when thread `t` has finished its call without an interruption. -/
def State.finish (s : State) (t : Nat) : TimingWheel :=
  match s.adders t with
  | .assistantRead id _ assistantTicks =>
    s.wheel.pushAssistant
      (getAssistantWheelIndex (s.wheel.currentAssistantWheelIndex.val + assistantTicks)) id
  | .push id _ bucket => pushInto s.wheel id bucket
  | _ => s.wheel

/-- A call that is not interrupted is the `AddTask` of one step. -/
theorem chooseBucket_finish (s : State) (t : Nat) (id : TaskId) (task : TimerTask) :
    (s.chooseBucket t id task s.wheel.currentWorkWheelIndex).finish t =
      s.wheel.addTaskAt id task s.wheel.currentWorkWheelIndex := by
  unfold State.chooseBucket TimingWheel.addTaskAt
  dsimp only
  by_cases hwork : (s.wheel.currentWorkWheelIndex.val + task.nextFireDurationMs) % 2 ^ 64 <
      workWheelSize
  · rw [dif_pos hwork, dif_pos hwork]
    simp [State.finish, State.setAdder, pushInto]
  · rw [dif_neg hwork, dif_neg hwork]
    split <;> simp [State.finish, State.setAdder, pushInto]

/-! ## Section 4: When a bucket is swept -/

/-- The bucket of the next `Cascade`, and how often the work index is
    advanced until then. -/
def State.nextCascade (s : State) : Fin assistantWheelSize × Nat :=
  let next := getAssistantWheelIndex (s.wheel.currentAssistantWheelIndex.val + 1)
  match s.tickPc with
  | .cascading => (s.wheel.currentAssistantWheelIndex, 0)
  | .wrapped   => (next, 0)
  | _          => (next, workWheelSize - s.wheel.currentWorkWheelIndex.val)

/-- How often the work index is advanced until it is at `k`. -/
def State.ticksTo (s : State) (k : Fin workWheelSize) : Nat :=
  (k.val + (workWheelSize - s.wheel.currentWorkWheelIndex.val)) % workWheelSize

/-- **Condition**: the bucket is not swept yet and at most `duration` ticks
    ahead of the tick thread. -/
def State.Ahead (s : State) (id : TaskId) (duration : Nat) : Bucket → Prop
  | .work k =>
    s.ticksTo k ≤ duration ∧ (k = s.wheel.currentWorkWheelIndex → s.tickPc ≠ .asleep)
  | .assistant j =>
    j = s.nextCascade.1 ∧ ∀ task ∈ s.wheel.tasks id,
      s.nextCascade.2 + task.remainderIntervalMs.val ≤ duration

/-- `AddTask` pushes a task of at most one turn only into a bucket that is
    ahead. -/
def PushesAhead (s : State) : Label → Prop
  | .push _ id duration bucket =>
    1 ≤ duration → duration < workWheelSize → s.Ahead id duration bucket
  | _ => True

/-- An entry of the task `id` is swept by the `Tick` at advance count `due`. -/
inductive Waits (s : State) (id : TaskId) (due : Nat) : Prop where
  | work (k : Fin workWheelSize) (hin : id ∈ s.wheel.workWheel k)
      (hdue : due = s.advances + s.ticksTo k)
      (hnot : k = s.wheel.currentWorkWheelIndex → s.tickPc ≠ .asleep)
  | assistant (task : TimerTask) (hin : id ∈ s.wheel.assistantWheel s.nextCascade.1)
      (htask : s.wheel.tasks id = some task)
      (hdue : due = s.advances + s.nextCascade.2 + task.remainderIntervalMs.val)

/-- Behind the advance to zero the work index is zero. -/
def Wrapped (s : State) : Prop :=
  s.tickPc = .wrapped ∨ s.tickPc = .cascading → s.wheel.currentWorkWheelIndex.val = 0

variable {s s' : State} {id : TaskId} {due : Nat}

theorem Waits.le (h : Waits s id due) : s.advances ≤ due := by
  cases h with
  | work k _ hdue _ => omega
  | assistant task _ _ hdue => omega

/-- A push into a bucket that is ahead. -/
theorem waits_push {t duration : Nat} {bucket : Bucket} (h : s.Ahead id duration bucket)
    (halive : (s.wheel.tasks id).isSome) :
    ∃ due, due ≤ s.advances + duration ∧
      Waits ((wheelThreads.action (.push t id duration bucket)).effect s) id due := by
  cases bucket with
  | work k =>
    obtain ⟨hle, hnot⟩ := h
    refine ⟨s.advances + s.ticksTo k, by omega, .work k ?_ rfl hnot⟩
    show id ∈ (s.wheel.pushWork k id).workWheel k
    simp [TimingWheel.pushWork]
  | assistant j =>
    obtain ⟨hj, hle⟩ := h
    obtain ⟨task, htask⟩ := Option.isSome_iff_exists.mp halive
    have hle := hle task htask
    refine ⟨_, ?_, .assistant task ?_ htask rfl⟩
    · show s.advances + s.nextCascade.2 + _ ≤ _
      omega
    · show id ∈ (s.wheel.pushAssistant j id).assistantWheel s.nextCascade.1
      simp [TimingWheel.pushAssistant, hj]

/-! ## Section 5: Steps and runs -/

/-- A step of another thread leaves the entries of `id`, its task object and
    the tick thread as they are. -/
structure Grows (id : TaskId) (s s' : State) : Prop where
  work             : ∀ k, id ∈ s.wheel.workWheel k → id ∈ s'.wheel.workWheel k
  assistant        : ∀ j, id ∈ s.wheel.assistantWheel j → id ∈ s'.wheel.assistantWheel j
  current          : s'.wheel.currentWorkWheelIndex = s.wheel.currentWorkWheelIndex
  currentAssistant : s'.wheel.currentAssistantWheelIndex = s.wheel.currentAssistantWheelIndex
  tasks            : s'.wheel.tasks id = s.wheel.tasks id
  tickPc           : s'.tickPc = s.tickPc
  advances         : s'.advances = s.advances
  handed           : s'.handed = s.handed

theorem Grows.refl (id : TaskId) (s : State) : Grows id s s :=
  ⟨fun _ h => h, fun _ h => h, rfl, rfl, rfl, rfl, rfl, rfl⟩

theorem Waits.grows (h : Waits s id due) (hg : Grows id s s') : Waits s' id due := by
  have hticks : ∀ k, s'.ticksTo k = s.ticksTo k := by
    intro k
    unfold State.ticksTo
    rw [hg.current]
  have hnext : s'.nextCascade = s.nextCascade := by
    unfold State.nextCascade
    rw [hg.tickPc, hg.current, hg.currentAssistant]
  cases h with
  | work k hin hdue hnot =>
    refine .work k (hg.work k hin) ?_ ?_
    · rw [hg.advances, hticks]
      exact hdue
    · rw [hg.current, hg.tickPc]
      exact hnot
  | assistant task hin htask hdue =>
    refine .assistant task ?_ (hg.tasks.trans htask) ?_
    · rw [hnext]
      exact hg.assistant _ hin
    · rw [hg.advances, hnext]
      exact hdue

theorem Wrapped.grows (h : Wrapped s) (hg : Grows id s s') : Wrapped s' := by
  unfold Wrapped
  rw [hg.tickPc, hg.current]
  exact h

theorem grows_chooseBucket {t i : Nat} (hne : i ≠ id) (task : TimerTask)
    (current : Fin workWheelSize) : Grows id s (s.chooseBucket t i task current) := by
  have htasks : ∀ task, Function.update s.wheel.tasks i task id = s.wheel.tasks id :=
    fun task => Function.update_of_ne (Ne.symm hne) task s.wheel.tasks
  unfold State.chooseBucket
  dsimp only
  split
  · exact ⟨fun _ h => h, fun _ h => h, rfl, rfl, rfl, rfl, rfl, rfl⟩
  · split
    · exact ⟨fun _ h => h, fun _ h => h, rfl, rfl, htasks _, rfl, rfl, rfl⟩
    · exact ⟨fun _ h => h, fun _ h => h, rfl, rfl, htasks _, rfl, rfl, rfl⟩

/-- A step leaves some task alone. -/
theorem exists_spared (a : Label) : ∃ id, a.spares id := by
  cases a with
  | choose t i current => exact ⟨i + 1, Nat.ne_of_lt (Nat.lt_succ_self i)⟩
  | owner i task => exact ⟨i + 1, Nat.ne_of_lt (Nat.lt_succ_self i)⟩
  | tick | advance | advanceAssistant | cascade | addTask | read | assistantRead | push =>
    exact ⟨0, trivial⟩

/-- The steps of `TickFunc`. -/
def Label.byTickThread : Label → Bool
  | .tick | .advance | .advanceAssistant | .cascade => true
  | _ => false

/-- **Step lemma**, the other threads. -/
theorem grows_step (a : Label) (ha : a.byTickThread = false) (hspares : a.spares id) :
    Grows id s ((wheelThreads.action a).effect s) := by
  cases a with
  | tick | advance | advanceAssistant | cascade => cases ha
  | addTask | read | assistantRead =>
    exact ⟨fun _ h => h, fun _ h => h, rfl, rfl, rfl, rfl, rfl, rfl⟩
  | choose t i current =>
    show Grows id s (match s.wheel.tasks i with | some task => _ | none => s)
    split
    · exact grows_chooseBucket hspares _ current
    · exact .refl id s
  | push t i duration bucket =>
    cases bucket with
    | work k =>
      refine ⟨fun k' h => ?_, fun _ h => h, rfl, rfl, rfl, rfl, rfl, rfl⟩
      show id ∈ Function.update s.wheel.workWheel k (s.wheel.workWheel k ++ [i]) k'
      by_cases hk : k' = k
      · subst hk
        rw [Function.update_self]
        exact List.mem_append_left _ h
      · rwa [Function.update_of_ne hk]
    | assistant j =>
      refine ⟨fun _ h => h, fun j' h => ?_, rfl, rfl, rfl, rfl, rfl, rfl⟩
      show id ∈ Function.update s.wheel.assistantWheel j (s.wheel.assistantWheel j ++ [i]) j'
      by_cases hj : j' = j
      · subst hj
        rw [Function.update_self]
        exact List.mem_append_left _ h
      · rwa [Function.update_of_ne hj]
  | owner i task =>
    have htasks : Function.update s.wheel.tasks i task id = s.wheel.tasks id :=
      Function.update_of_ne (Ne.symm hspares) task s.wheel.tasks
    exact ⟨fun _ h => h, fun _ h => h, rfl, rfl, htasks, rfl, rfl, rfl⟩

theorem tickPc_advance_wrapped (hzero : (advanceWork s.wheel).currentWorkWheelIndex.val = 0) :
    ((wheelThreads.action .advance).effect s).tickPc = .wrapped := if_pos hzero

theorem tickPc_advance_turn (hzero : (advanceWork s.wheel).currentWorkWheelIndex.val ≠ 0) :
    ((wheelThreads.action .advance).effect s).tickPc = .beforeTick := if_neg hzero

/-- While the work index goes round. -/
theorem nextCascade_turn (hpc : s.tickPc = .beforeTick ∨ s.tickPc = .asleep) : s.nextCascade =
    (getAssistantWheelIndex (s.wheel.currentAssistantWheelIndex.val + 1),
      workWheelSize - s.wheel.currentWorkWheelIndex.val) := by
  unfold State.nextCascade
  obtain hpc | hpc := hpc <;> rw [hpc]

theorem nextCascade_wrapped (hpc : s.tickPc = .wrapped) : s.nextCascade =
    (getAssistantWheelIndex (s.wheel.currentAssistantWheelIndex.val + 1), 0) := by
  unfold State.nextCascade
  rw [hpc]

theorem nextCascade_cascading (hpc : s.tickPc = .cascading) :
    s.nextCascade = (s.wheel.currentAssistantWheelIndex, 0) := by
  unfold State.nextCascade
  rw [hpc]

theorem wrapped_reachable (h : wheelThreads.Reachable s) : Wrapped s := by
  induction h with
  | init hi =>
    rintro (hpc | hpc)
    · exact absurd (hi.2.1.symm.trans hpc) nofun
    · exact absurd (hi.2.1.symm.trans hpc) nofun
  | @step s s' a _ hstep ih =>
    obtain ⟨hg, rfl⟩ := hstep
    cases a with
    | tick => rintro (hpc | hpc) <;> cases hpc
    | advance =>
      intro hpc
      by_cases hzero : (advanceWork s.wheel).currentWorkWheelIndex.val = 0
      · exact hzero
      · rw [tickPc_advance_turn hzero] at hpc
        obtain hpc | hpc := hpc <;> cases hpc
    | advanceAssistant => exact fun _ => ih (.inl hg)
    | cascade => rintro (hpc | hpc) <;> cases hpc
    | addTask | read | choose | assistantRead | push | owner =>
      obtain ⟨id, hid⟩ := exists_spared _
      exact ih.grows (grows_step _ rfl hid)

/-- **Step lemma**, `Tick`: it sweeps the entries that are due. -/
theorem Waits.tick (h : Waits s id due) (hpc : s.tickPc = .beforeTick)
    (halive : (s.wheel.tasks id).isSome) :
    (due = s.advances ∧ 0 < s.wheel.tick.1.count id) ∨
      Waits ((wheelThreads.action .tick).effect s) id due := by
  cases h with
  | work k hin hdue hnot =>
    have hcur := s.wheel.currentWorkWheelIndex.isLt
    -- an entry of the current bucket is swept, the others have to wait on
    by_cases hk : k = s.wheel.currentWorkWheelIndex
    · left
      subst hk
      have hzero : s.ticksTo s.wheel.currentWorkWheelIndex = 0 := by
        unfold State.ticksTo
        rw [show s.wheel.currentWorkWheelIndex.val + (workWheelSize -
          s.wheel.currentWorkWheelIndex.val) = workWheelSize by omega, Nat.mod_self]
      rw [hzero, Nat.add_zero] at hdue
      refine ⟨hdue, ?_⟩
      rw [TimingWheel.tick_handed_count, if_pos halive]
      exact List.count_pos_iff.mpr hin
    · right
      refine .work k ?_ hdue (fun hk' => absurd hk' hk)
      show id ∈ Function.update s.wheel.workWheel s.wheel.currentWorkWheelIndex [] k
      rwa [Function.update_of_ne hk]
  | assistant task hin htask hdue =>
    -- a tick leaves the assistant wheel and its next bucket alone
    have hnext : ((wheelThreads.action .tick).effect s).nextCascade = s.nextCascade := by
      unfold State.nextCascade
      rw [hpc]
      rfl
    right
    refine .assistant task ?_ htask ?_
    · rw [hnext]
      exact hin
    · rw [hnext]
      exact hdue

/-- **Step lemma**, the advance of the work index. -/
theorem Waits.advance (h : Waits s id due) (hpc : s.tickPc = .asleep) :
    Waits ((wheelThreads.action .advance).effect s) id due := by
  have hcur := s.wheel.currentWorkWheelIndex.isLt
  have hval : ((wheelThreads.action .advance).effect s).wheel.currentWorkWheelIndex.val =
      (s.wheel.currentWorkWheelIndex.val + 1) % workWheelSize := getWorkWheelIndex_val _
  cases h with
  | work k hin hdue hnot =>
    have hk : k ≠ s.wheel.currentWorkWheelIndex := fun hk => hnot hk hpc
    refine .work k hin ?_ ?_
    · have hlt := k.isLt
      have hne : k.val ≠ s.wheel.currentWorkWheelIndex.val := fun h => hk (Fin.ext h)
      show due = s.advances + 1 + _
      unfold State.ticksTo at hdue ⊢
      rw [hval]
      simp only [workWheelSize] at *
      omega
    · intro _
      show (if _ then TickPc.wrapped else .beforeTick) ≠ .asleep
      split <;> nofun
  | assistant task hin htask hdue =>
    rw [nextCascade_turn (.inr hpc)] at hin hdue
    -- on the wrap the cascade is the next thing to happen, else a turn goes on
    by_cases hzero : (advanceWork s.wheel).currentWorkWheelIndex.val = 0
    · have hnext := nextCascade_wrapped (tickPc_advance_wrapped hzero)
      have hlast : s.wheel.currentWorkWheelIndex.val = workWheelSize - 1 := by
        rw [show (advanceWork s.wheel).currentWorkWheelIndex.val = _ from hval] at hzero
        simp only [workWheelSize] at *
        omega
      refine .assistant task ?_ htask ?_
      · rw [hnext]
        exact hin
      · rw [hnext]
        show due = s.advances + 1 + 0 + _
        simp only [workWheelSize] at *
        omega
    · have hnext := nextCascade_turn (.inl (tickPc_advance_turn hzero))
      refine .assistant task ?_ htask ?_
      · rw [hnext]
        exact hin
      · rw [hnext, hval]
        show due = s.advances + 1 + (workWheelSize - _) + _
        rw [show (advanceWork s.wheel).currentWorkWheelIndex.val = _ from hval] at hzero
        simp only [workWheelSize] at *
        omega

/-- **Step lemma**, the advance of the assistant index. -/
theorem Waits.advanceAssistant (h : Waits s id due) (hpc : s.tickPc = .wrapped) :
    Waits ((wheelThreads.action .advanceAssistant).effect s) id due := by
  cases h with
  | work k hin hdue _ => exact .work k hin hdue fun _ => nofun
  | assistant task hin htask hdue =>
    have hnext : ((wheelThreads.action .advanceAssistant).effect s).nextCascade =
        s.nextCascade := by
      rw [nextCascade_wrapped hpc, nextCascade_cascading rfl]
      rfl
    refine .assistant task ?_ htask ?_
    · rw [hnext]
      exact hin
    · rw [hnext]
      exact hdue

/-- **Step lemma**, `Cascade`: an entry moves to the bucket of its remainder. -/
theorem Waits.cascade (h : Waits s id due) (hpc : s.tickPc = .cascading)
    (hzero : s.wheel.currentWorkWheelIndex.val = 0) :
    Waits ((wheelThreads.action .cascade).effect s) id due := by
  let j := s.wheel.currentAssistantWheelIndex
  have hticks : ∀ k, ((wheelThreads.action .cascade).effect s).ticksTo k = s.ticksTo k := by
    intro k
    show (k.val + (_ - ((s.wheel.cascade j).currentWorkWheelIndex).val)) % _ = _
    rw [TimingWheel.cascade_current]
    rfl
  cases h with
  | work k hin hdue _ =>
    refine .work k ?_ (by rw [hticks]; exact hdue) fun _ => nofun
    have hcount := TimingWheel.cascade_count s.wheel j k id
    have hpos := List.count_pos_iff.mpr hin
    have hpos' : 0 < ((s.wheel.cascade j).workWheel k).count id := by omega
    exact List.count_pos_iff.mp hpos'
  | assistant task hin htask hdue =>
    rw [nextCascade_cascading hpc] at hin hdue
    refine .work task.remainderIntervalMs ?_ ?_ fun _ => nofun
    · have hcount := TimingWheel.cascade_count s.wheel j task.remainderIntervalMs id
      rw [htask, Option.map_some, if_pos rfl] at hcount
      have hpos : 0 < (s.wheel.assistantWheel j).count id := List.count_pos_iff.mpr hin
      have hpos' : 0 < ((s.wheel.cascade j).workWheel task.remainderIntervalMs).count id := by omega
      exact List.count_pos_iff.mp hpos'
    · have hlt := task.remainderIntervalMs.isLt
      rw [hticks]
      show due = s.advances + _
      unfold State.ticksTo
      rw [hzero, Nat.sub_zero, Nat.add_mod_right, Nat.mod_eq_of_lt hlt]
      omega

/-! ## Section 6: Handed over in time -/

/-- The task was handed over after the first `n` times by the `Tick` at
    advance count `due` or an earlier one. -/
def HandedBy (s : State) (id : TaskId) (n due : Nat) : Prop :=
  ∃ count ∈ (s.handed id).drop n, count ≤ due

/-- **Invariant** behind the push: the entry waits for `due`, or the task was
    handed over by then. -/
def OnTurn (id : TaskId) (n due : Nat) (s : State) : Prop :=
  ((s.handed id).length = n ∧ (s.wheel.tasks id).isSome ∧ Waits s id due) ∨ HandedBy s id n due

/-- Until it is handed over, the task stays alive and is not added again. -/
def Undisturbed (id : TaskId) (n : Nat) (s : State) (a : Label) : Prop :=
  (s.handed id).length = n → a.spares id

/-- What was handed over stays so. -/
theorem handed_prefix (a : Label) :
    s.handed id <+: ((wheelThreads.action a).effect s).handed id := by
  cases a with
  | tick => exact List.prefix_append _ _
  | advance | advanceAssistant | cascade => exact List.prefix_rfl
  | addTask | read | choose | assistantRead | push | owner =>
    obtain ⟨i, hi⟩ := exists_spared _
    exact ⟨[], by rw [List.append_nil, (grows_step _ rfl hi).handed]⟩

theorem HandedBy.step {n : Nat} (h : HandedBy s id n due) (a : Label) :
    HandedBy ((wheelThreads.action a).effect s) id n due := by
  obtain ⟨count, hin, hle⟩ := h
  obtain ⟨rest, hrest⟩ : s.handed id <+: ((wheelThreads.action a).effect s).handed id :=
    handed_prefix a
  refine ⟨count, ?_, hle⟩
  rw [← hrest, List.drop_append]
  exact List.mem_append_left _ hin

/-- **Step lemma**, a task that waits. -/
theorem onTurn_step {n : Nat} (a : Label) (hw : Wrapped s) (h : OnTurn id n due s)
    (hg : (wheelThreads.action a).gate s) (hundisturbed : Undisturbed id n s a) :
    OnTurn id n due ((wheelThreads.action a).effect s) := by
  obtain ⟨hlen, halive, hwaits⟩ | hhanded := h
  · -- only the tick thread takes entries out
    by_cases ha : a.byTickThread = true
    · cases a with
      | tick =>
        obtain ⟨rfl, hcount⟩ | hwaits' := hwaits.tick hg.2 halive
        · -- the entry is swept now
          refine .inr ⟨s.advances, ?_, Nat.le_refl _⟩
          show s.advances ∈
            (s.handed id ++ List.replicate (s.wheel.tick.1.count id) s.advances).drop n
          rw [← hlen, List.drop_left, List.mem_replicate]
          exact ⟨Nat.ne_of_gt hcount, rfl⟩
        · by_cases hsame : (((wheelThreads.action .tick).effect s).handed id).length = n
          · exact .inl ⟨hsame, halive, hwaits'⟩
          · -- another entry of the task is swept now
            refine .inr ⟨s.advances, ?_, hwaits.le⟩
            have hcount : s.wheel.tick.1.count id ≠ 0 := by
              intro hzero
              apply hsame
              show (s.handed id ++ List.replicate (s.wheel.tick.1.count id) s.advances).length = n
              rw [hzero, List.replicate_zero, List.append_nil]
              exact hlen
            show s.advances ∈
              (s.handed id ++ List.replicate (s.wheel.tick.1.count id) s.advances).drop n
            rw [← hlen, List.drop_left, List.mem_replicate]
            exact ⟨hcount, rfl⟩
      | advance => exact .inl ⟨hlen, halive, hwaits.advance hg⟩
      | advanceAssistant => exact .inl ⟨hlen, halive, hwaits.advanceAssistant hg⟩
      | cascade =>
        have htasks : (s.wheel.cascade s.wheel.currentAssistantWheelIndex).tasks = s.wheel.tasks :=
          TimingWheel.cascade_tasks _ _
        exact .inl ⟨hlen, htasks ▸ halive, hwaits.cascade hg (hw (.inr hg))⟩
      | addTask | read | choose | assistantRead | push | owner => cases ha
    · have hgrows : Grows id s ((wheelThreads.action a).effect s) :=
        grows_step a (Bool.eq_false_of_not_eq_true ha) (hundisturbed hlen)
      refine .inl ⟨?_, ?_, hwaits.grows hgrows⟩
      · rw [hgrows.handed]
        exact hlen
      · rw [hgrows.tasks]
        exact halive
  · exact .inr (hhanded.step a)

/-- **Run lemma**, a task that waits. -/
theorem onTurn_run {n : Nat} {as : List Label} (hr : wheelThreads.Reachable s)
    (h : OnTurn id n due s) (hrun : (wheelThreads.restrict (Undisturbed id n)).Run s as s') :
    OnTurn id n due s' := by
  induction hrun with
  | nil s => exact h
  | cons a as hstep _ ih =>
    obtain ⟨⟨hg, hundisturbed⟩, rfl⟩ := hstep
    exact ih (.step a hr ⟨hg, rfl⟩) (onTurn_step a (wrapped_reachable hr) h hg hundisturbed)

/-- **Property**: however the threads go on from `s`, the task is handed over
    before the advance behind the next `duration` ones. -/
def State.InTime (s : State) (id : TaskId) (duration : Nat) : Prop :=
  ∀ as s', (wheelThreads.restrict (Undisturbed id (s.handed id).length)).Run s as s' →
    s.advances + duration < s'.advances →
    HandedBy s' id (s.handed id).length (s.advances + duration)

/-- **Main result**: a task that is pushed while its bucket is ahead of the
    tick thread is handed over in time. -/
theorem addTask_inTime {t duration : Nat} {bucket : Bucket} (hr : wheelThreads.Reachable s)
    (hstep : (wheelThreads.restrict PushesAhead).step s (.push t id duration bucket) s')
    (hpos : 1 ≤ duration) (hturn : duration < workWheelSize)
    (halive : (s.wheel.tasks id).isSome) : s'.InTime id duration := by
  obtain ⟨⟨hg, hahead⟩, hs'⟩ := hstep
  have hstep' : wheelThreads.step s (.push t id duration bucket) s' := ⟨hg, hs'⟩
  have hadvances : s'.advances = s.advances := by rw [hs']; rfl
  have htasks : s'.wheel.tasks = s.wheel.tasks := by rw [hs']; cases bucket <;> rfl
  obtain ⟨due, hdue, hwaits⟩ : ∃ due, due ≤ s.advances + duration ∧ Waits s' id due :=
    hs' ▸ waits_push (hahead hpos hturn) halive
  intro as s'' hrun hlate
  have hon := onTurn_run (hr.step _ hstep') (.inl ⟨rfl, htasks ▸ halive, hwaits⟩) hrun
  obtain ⟨_, _, hwaits'⟩ | ⟨count, hin, hle⟩ := hon
  · -- the advance count is past the due one
    have hle := hwaits'.le
    omega
  · exact ⟨count, hin, hadvances ▸ hle.trans hdue⟩

/-- A wheel that has not been started. -/
def start : State where
  wheel    := ⟨false, fun _ => [], fun _ => [], 0, 0, fun _ => none⟩
  tickPc   := .beforeTick
  advances := 0
  handed   := fun _ => []
  adders   := fun _ => .idle

theorem start_init : wheelThreads.init start := by
  refine ⟨rfl, rfl, rfl, rfl, rfl, ?_, ?_, ?_, ?_⟩ <;> intro <;> rfl

/-- A call for a task of one millisecond, up to its push. -/
def untilPush : List Label :=
  [.owner 7 (some ⟨0, 1⟩), .addTask 0 7, .read 0 7, .choose 0 7 0]

theorem addTask_inTime_untilPush :
    (wheelThreads.exec start (untilPush ++ [.push 0 7 1 (.work 1)])).InTime 7 1 := by
  have hr : wheelThreads.Reachable (wheelThreads.exec start untilPush) :=
    System.reachable_exec wheelThreads start_init untilPush (by decide +kernel)
  have hpush : (wheelThreads.restrict PushesAhead).step (wheelThreads.exec start untilPush)
      (.push 0 7 1 (.work 1)) (wheelThreads.exec start (untilPush ++ [.push 0 7 1 (.work 1)])) :=
    ⟨⟨by decide +kernel, fun _ _ => ⟨by decide +kernel, nofun⟩⟩, rfl⟩
  exact addTask_inTime hr hpush (by decide) (by decide) (by decide +kernel)

/-- The tick thread sweeps bucket `1` between the choice of the bucket and
    the push. -/
def sweptBeforePush : List Label := untilPush ++ [.tick, .advance, .tick]

/-- The task that was to be handed over by the `Tick` at advance count `1`
    is not handed over before the fourth advance. -/
theorem addTask_late :
    ¬ ∀ s s' t id duration bucket, wheelThreads.Reachable s →
      wheelThreads.step s (.push t id duration bucket) s' → 1 ≤ duration →
      duration < workWheelSize → (s.wheel.tasks id).isSome → s'.InTime id duration := by
  intro h
  let s := wheelThreads.exec start sweptBeforePush
  let s' := wheelThreads.exec start (sweptBeforePush ++ [.push 0 7 1 (.work 1)])
  let turn : List Label := [.advance, .tick, .advance, .tick, .advance]
  have hr : wheelThreads.Reachable s :=
    System.reachable_exec wheelThreads start_init sweptBeforePush (by decide +kernel)
  have hintime := h s s' 0 7 1 (.work 1) hr ⟨by decide +kernel, rfl⟩ (by decide) (by decide)
    (by decide +kernel)
  have hrun := System.run_exec (wheelThreads.restrict (Undisturbed 7 (s'.handed 7).length)) s' turn
    (System.admits_restrict (by decide +kernel) (by simp [turn, Undisturbed, Label.spares]))
  obtain ⟨count, hin, _⟩ := hintime turn _ hrun (by decide +kernel)
  let last := (wheelThreads.restrict (Undisturbed 7 (s'.handed 7).length)).exec s' turn
  have hnone : last.handed 7 = [] := by decide +kernel
  rw [show (System.exec _ s' turn).handed 7 = [] from hnone] at hin
  cases hin

end CyberRT.Timer.WheelThreads
