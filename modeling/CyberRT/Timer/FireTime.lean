import CyberRT.Timer.TimingWheel

/-! # When the timing wheel fires a task

    A task added with duration `d` should be handed to `Async` by the
    `Tick` after the `d`-th advance of the work index. `AddTask` puts it
    straight into the work wheel whenever the target lies in the next turn
    and in another bucket, so a task whose target bucket lies *ahead* of
    the current one but a whole turn later fires one turn early.

    The proof ties the one entry of the task to the advance count at which
    its bucket is swept (`Pending`), shows that every step keeps that tie,
    and reads the firing time off it. -/

namespace CyberRT.Timer

open CyberRT.Framework

/-! ## Section 1: Where a task waits -/

/-- The task has no entry in either wheel. -/
def Absent (w : TimingWheel) (id : TaskId) : Prop :=
  (∀ k, (w.workWheel k).count id = 0) ∧ (∀ j, (w.assistantWheel j).count id = 0)

/-- The task has one entry, in bucket `k` of the work wheel. -/
def InWork (w : TimingWheel) (id : TaskId) (k : Fin workWheelSize) : Prop :=
  (∀ k', (w.workWheel k').count id = if k' = k then 1 else 0) ∧
  (∀ j, (w.assistantWheel j).count id = 0)

/-- The task has one entry, in bucket `j` of the assistant wheel. -/
def InAssistant (w : TimingWheel) (id : TaskId) (j : Fin assistantWheelSize) : Prop :=
  (∀ k, (w.workWheel k).count id = 0) ∧
  (∀ j', (w.assistantWheel j').count id = if j' = j then 1 else 0)

/-- The one entry of `id` is swept by the `Tick` at advance count `due`:
    either its work bucket is reached then, or its assistant bucket is
    cascaded at the `m`-th wrap from now and leaves the remainder to go. -/
inductive Pending (s : TickLoop) (id : TaskId) (due : Nat) : Prop where
  | work (k : Fin workWheelSize)
      (hin : InWork s.wheel id k)
      (hle : s.advances ≤ due)
      (hlt : due < s.advances + workWheelSize)
      (hk : k.val = (s.wheel.currentWorkWheelIndex.val + (due - s.advances)) % workWheelSize)
  | assistant (j : Fin assistantWheelSize) (task : TimerTask) (m : Nat)
      (hin : InAssistant s.wheel id j)
      (htask : s.wheel.tasks id = some task)
      (hm : 1 ≤ m) (hm' : m ≤ assistantWheelSize)
      (hj : j.val = (s.wheel.currentAssistantWheelIndex.val + m) % assistantWheelSize)
      (hdue : due + s.wheel.currentWorkWheelIndex.val =
        s.advances + workWheelSize * m + task.remainderIntervalMs.val)

/-- The `Tick` at advance count `due` has been executed. -/
def Passed (s : TickLoop) (due : Nat) : Prop :=
  due < s.advances ∨ (due = s.advances ∧ s.phase = .asleep)

instance (s : TickLoop) (due : Nat) : Decidable (Passed s due) :=
  inferInstanceAs (Decidable (_ ∨ _))

/-- Along a run: the task is alive, and it waits for `due`, or was handed
    over then and once. `before` is what had been handed over earlier. -/
structure OnTime (id : TaskId) (due : Nat) (before : List Nat) (s : TickLoop) : Prop where
  alive  : (s.wheel.tasks id).isSome
  waits  : ¬ Passed s due → Pending s id due ∧ s.handed id = before
  handed : Passed s due → Absent s.wheel id ∧ s.handed id = before ++ [due]

/-! ## Section 2: `Tick` -/

section tick
variable {w : TimingWheel} {id : TaskId}

theorem Absent.tick (h : Absent w id) : Absent w.tick.2 id ∧ w.tick.1.count id = 0 := by
  refine ⟨⟨fun k => ?_, h.2⟩, ?_⟩
  · rw [TimingWheel.tick_count, h.1 k, ite_self]
  · rw [TimingWheel.tick_handed_count, h.1 _, ite_self]

theorem InAssistant.tick {j : Fin assistantWheelSize} (h : InAssistant w id j) :
    InAssistant w.tick.2 id j ∧ w.tick.1.count id = 0 := by
  refine ⟨⟨fun k => ?_, h.2⟩, ?_⟩
  · rw [TimingWheel.tick_count, h.1 k, ite_self]
  · rw [TimingWheel.tick_handed_count, h.1 _, ite_self]

theorem InWork.tick_other {k : Fin workWheelSize} (h : InWork w id k)
    (hk : k ≠ w.currentWorkWheelIndex) : InWork w.tick.2 id k ∧ w.tick.1.count id = 0 := by
  refine ⟨⟨fun k' => ?_, h.2⟩, ?_⟩
  · rw [TimingWheel.tick_count, h.1 k']
    by_cases hk' : k' = w.currentWorkWheelIndex
    · rw [if_pos hk', if_neg (fun e => hk (e.symm.trans hk'))]
    · rw [if_neg hk']
  · rw [TimingWheel.tick_handed_count, h.1 _, if_neg (Ne.symm hk), ite_self]

theorem InWork.tick_current (h : InWork w id w.currentWorkWheelIndex)
    (halive : (w.tasks id).isSome) : Absent w.tick.2 id ∧ w.tick.1.count id = 1 := by
  refine ⟨⟨fun k => ?_, h.2⟩, ?_⟩
  · rw [TimingWheel.tick_count, h.1 k]
    split <;> rfl
  · rw [TimingWheel.tick_handed_count, if_pos halive, h.1 _, if_pos rfl]

variable {s : TickLoop} {due : Nat} {before : List Nat}

theorem not_passed_of_lt (h : s.advances < due) : ¬ Passed s due := by
  rintro (h' | ⟨h', _⟩) <;> omega

/-- A waiting task is swept by this `Tick` if it is due now, and waits on
    otherwise. -/
theorem Pending.tick (h : Pending s id due) (halive : (s.wheel.tasks id).isSome) :
    (due = s.advances ∧ Absent s.wheel.tick.2 id ∧ s.wheel.tick.1.count id = 1) ∨
    (s.advances < due ∧ Pending ((tickFunc.action .tick).effect s) id due ∧
      s.wheel.tick.1.count id = 0) := by
  have hcur := s.wheel.currentWorkWheelIndex.isLt
  cases h with
  | work k hin hle hlt hk =>
    -- a task of the work wheel is due exactly when its bucket is the current one
    by_cases hnow : due = s.advances
    · have hkc : k = s.wheel.currentWorkWheelIndex := by
        apply Fin.ext
        rw [hk, hnow, Nat.sub_self, Nat.add_zero, Nat.mod_eq_of_lt hcur]
      subst hkc
      obtain ⟨habs, hone⟩ := hin.tick_current halive
      exact .inl ⟨hnow, habs, hone⟩
    · have hkc : k ≠ s.wheel.currentWorkWheelIndex := by
        intro e
        have hv := congrArg Fin.val e
        simp only [workWheelSize] at *
        omega
      obtain ⟨hin', hzero⟩ := hin.tick_other hkc
      exact .inr ⟨by omega, .work k hin' hle hlt hk, hzero⟩
  | assistant j task m hin htask hm hm' hj hdue =>
    -- a turn or more away, and the tick leaves it where it is
    obtain ⟨hin', hzero⟩ := hin.tick
    refine .inr ⟨?_, .assistant j task m hin' htask hm hm' hj hdue, hzero⟩
    simp only [workWheelSize] at *
    omega

theorem OnTime.tick (h : OnTime id due before s) (hph : s.phase = .beforeTick) :
    OnTime id due before ((tickFunc.action .tick).effect s) := by
  have hhanded : ((tickFunc.action .tick).effect s).handed id =
      s.handed id ++ List.replicate (s.wheel.tick.1.count id) s.advances := rfl
  by_cases hp : Passed s due
  · obtain ⟨habs, hhand⟩ := h.handed hp
    obtain ⟨habs', hzero⟩ := habs.tick
    have hpast : due < s.advances := by simpa [Passed, hph] using hp
    refine ⟨h.alive, fun hn => absurd (Or.inl hpast) hn, fun _ => ⟨habs', ?_⟩⟩
    rw [hhanded, hzero, hhand]; simp
  · obtain ⟨hpend, hhand⟩ := h.waits hp
    rcases hpend.tick h.alive with ⟨hnow, habs, hone⟩ | ⟨hlt, hpend', hzero⟩
    · refine ⟨h.alive, fun hn => absurd (Or.inr ⟨hnow, rfl⟩) hn, fun _ => ⟨habs, ?_⟩⟩
      rw [hhanded, hone, hhand, hnow]; rfl
    · refine ⟨h.alive, fun _ => ⟨hpend', ?_⟩, fun hp' => absurd hp' (not_passed_of_lt hlt)⟩
      rw [hhanded, hzero, hhand]; simp

end tick

/-! ## Section 3: The index advance and `Cascade` -/

section advance
variable {w : TimingWheel} {id : TaskId}

/-- An advance that does not wrap moves the index only. -/
theorem advance_eq_of_lt (h : w.currentWorkWheelIndex.val + 1 < workWheelSize) :
    w.advance = { w with
      currentWorkWheelIndex := getWorkWheelIndex (w.currentWorkWheelIndex.val + 1) } := by
  unfold TimingWheel.advance
  rw [if_neg (by simp only [getWorkWheelIndex_val]; rw [Nat.mod_eq_of_lt h]; omega)]

/-- An advance that wraps cascades the next assistant bucket. -/
theorem advance_eq_of_wrap (h : w.currentWorkWheelIndex.val + 1 = workWheelSize) :
    w.advance = TimingWheel.cascade
      { w with
        currentWorkWheelIndex := getWorkWheelIndex (w.currentWorkWheelIndex.val + 1)
        currentAssistantWheelIndex :=
          getAssistantWheelIndex (w.currentAssistantWheelIndex.val + 1) }
      (getAssistantWheelIndex (w.currentAssistantWheelIndex.val + 1)) := by
  unfold TimingWheel.advance
  rw [if_pos (by simp only [getWorkWheelIndex_val]; rw [h, Nat.mod_self])]

/-- Buckets of the work wheel after an advance, for a task with no entry
    in the assistant wheel. -/
theorem advance_count (h : ∀ j, (w.assistantWheel j).count id = 0) (k : Fin workWheelSize) :
    (w.advance.workWheel k).count id = (w.workWheel k).count id := by
  unfold TimingWheel.advance
  dsimp only
  split
  · rw [TimingWheel.cascade_count, h, ite_self]; rfl
  · rfl

theorem advance_assistant_count (h : ∀ j, (w.assistantWheel j).count id = 0)
    (j : Fin assistantWheelSize) : (w.advance.assistantWheel j).count id = 0 := by
  unfold TimingWheel.advance
  dsimp only
  split
  · rw [TimingWheel.cascade_assistantWheel]
    by_cases hj : j = getAssistantWheelIndex (w.currentAssistantWheelIndex.val + 1)
    · simp [hj]
    · simpa [hj] using h j
  · exact h j

theorem Absent.advance (h : Absent w id) : Absent w.advance id :=
  ⟨fun k => by rw [advance_count h.2, h.1 k], advance_assistant_count h.2⟩

theorem InWork.advance {k : Fin workWheelSize} (h : InWork w id k) : InWork w.advance id k :=
  ⟨fun k' => by rw [advance_count h.2, h.1 k'], advance_assistant_count h.2⟩

variable {s : TickLoop} {due : Nat} {before : List Nat}

/-- The step of the assistant case when the work index wraps: the bucket
    is cascaded now (`m = 1`), or stays for later wraps. -/
theorem pending_assistant_wrap {j : Fin assistantWheelSize} {task : TimerTask} {m : Nat}
    (hin : InAssistant s.wheel id j) (htask : s.wheel.tasks id = some task)
    (hm : 1 ≤ m) (hm' : m ≤ assistantWheelSize)
    (hj : j.val = (s.wheel.currentAssistantWheelIndex.val + m) % assistantWheelSize)
    (hdue : due + s.wheel.currentWorkWheelIndex.val =
      s.advances + workWheelSize * m + task.remainderIntervalMs.val)
    (hwrap : s.wheel.currentWorkWheelIndex.val + 1 = workWheelSize) :
    Pending ((tickFunc.action .advance).effect s) id due := by
  have heq := advance_eq_of_wrap hwrap
  -- both indices after the wrap
  have hrem := task.remainderIntervalMs.isLt
  have hcura := s.wheel.currentAssistantWheelIndex.isLt
  have hcur0 : s.wheel.advance.currentWorkWheelIndex.val = 0 := by
    rw [TimingWheel.advance_current, getWorkWheelIndex_val, hwrap, Nat.mod_self]
  have hcura' : s.wheel.advance.currentAssistantWheelIndex =
      getAssistantWheelIndex (s.wheel.currentAssistantWheelIndex.val + 1) := by
    rw [heq]; simp
  -- the bucket whose turn comes is emptied into the work wheel
  by_cases hm1 : m = 1
  · have hjn : getAssistantWheelIndex (s.wheel.currentAssistantWheelIndex.val + 1) = j := by
      apply Fin.ext
      rw [hj, getAssistantWheelIndex_val, hm1]
    refine .work task.remainderIntervalMs ⟨fun k => ?_, fun j' => ?_⟩ ?_ ?_ ?_
    · show (s.wheel.advance.workWheel k).count id = _
      rw [heq, TimingWheel.cascade_count]
      simp [htask, hin.1 k, hin.2, hjn, eq_comm]
    · show (s.wheel.advance.assistantWheel j').count id = 0
      rw [heq, TimingWheel.cascade_assistantWheel, hjn]
      by_cases hj' : j' = j
      · simp [hj']
      · simpa [hj'] using hin.2 j'
    · show s.advances + 1 ≤ due
      subst hm1; omega
    · show due < s.advances + 1 + workWheelSize
      subst hm1; omega
    · show task.remainderIntervalMs.val =
        (s.wheel.advance.currentWorkWheelIndex.val + (due - (s.advances + 1))) % workWheelSize
      rw [hcur0]
      subst hm1
      rw [show 0 + (due - (s.advances + 1)) = task.remainderIntervalMs.val from by omega,
        Nat.mod_eq_of_lt hrem]
  · have hjn : j ≠ getAssistantWheelIndex (s.wheel.currentAssistantWheelIndex.val + 1) := by
      intro e
      have hv := congrArg Fin.val e
      rw [hj, getAssistantWheelIndex_val] at hv
      simp only [assistantWheelSize] at *
      omega
    refine .assistant j task (m - 1) ⟨fun k => ?_, fun j' => ?_⟩ ?_ (by omega) (by omega) ?_ ?_
    · show (s.wheel.advance.workWheel k).count id = 0
      rw [heq, TimingWheel.cascade_count]
      simp [hin.1 k, hin.2, Ne.symm hjn]
    · show (s.wheel.advance.assistantWheel j').count id = _
      rw [heq, TimingWheel.cascade_assistantWheel]
      by_cases hj' : j' = getAssistantWheelIndex (s.wheel.currentAssistantWheelIndex.val + 1)
      · rw [if_neg (fun e => hjn (e.symm.trans hj'))]
        simp [hj']
      · simpa [hj'] using hin.2 j'
    · show s.wheel.advance.tasks id = some task
      rw [TimingWheel.advance_tasks, htask]
    · show j.val = (s.wheel.advance.currentAssistantWheelIndex.val + (m - 1)) %
        assistantWheelSize
      rw [hcura', getAssistantWheelIndex_val, hj]
      simp only [assistantWheelSize] at *
      omega
    · show due + s.wheel.advance.currentWorkWheelIndex.val =
        s.advances + 1 + workWheelSize * (m - 1) + task.remainderIntervalMs.val
      rw [hcur0]
      simp only [workWheelSize] at *
      omega

theorem Pending.advance (h : Pending s id due) (hlt : s.advances < due) :
    Pending ((tickFunc.action .advance).effect s) id due := by
  have hcur := s.wheel.currentWorkWheelIndex.isLt
  cases h with
  | work k hin hle hlt' hk =>
    refine .work k hin.advance hlt ?_ ?_
    · show due < s.advances + 1 + workWheelSize
      omega
    · show k.val =
        (s.wheel.advance.currentWorkWheelIndex.val + (due - (s.advances + 1))) % workWheelSize
      rw [TimingWheel.advance_current, getWorkWheelIndex_val, hk]
      simp only [workWheelSize] at *
      omega
  | assistant j task m hin htask hm hm' hj hdue =>
    -- the assistant wheel advances when the work index wraps
    rcases Nat.lt_or_ge (s.wheel.currentWorkWheelIndex.val + 1) workWheelSize with hno | hwrap
    · have heq := advance_eq_of_lt hno
      refine .assistant j task m ?_ ?_ hm hm' ?_ ?_
      · show InAssistant s.wheel.advance id j
        rw [heq]; exact hin
      · show s.wheel.advance.tasks id = some task
        rw [heq]; exact htask
      · show j.val = (s.wheel.advance.currentAssistantWheelIndex.val + m) % assistantWheelSize
        rw [heq]; exact hj
      · show due + s.wheel.advance.currentWorkWheelIndex.val =
          s.advances + 1 + workWheelSize * m + task.remainderIntervalMs.val
        rw [TimingWheel.advance_current, getWorkWheelIndex_val, Nat.mod_eq_of_lt hno]
        omega
    · exact pending_assistant_wrap hin htask hm hm' hj hdue (by omega)

theorem OnTime.advance (h : OnTime id due before s) (hph : s.phase = .asleep) :
    OnTime id due before ((tickFunc.action .advance).effect s) := by
  have halive : (s.wheel.advance.tasks id).isSome := by
    rw [TimingWheel.advance_tasks]; exact h.alive
  by_cases hp : Passed s due
  · obtain ⟨habs, hhand⟩ := h.handed hp
    have hpast : due < s.advances + 1 := by
      rcases hp with hp | ⟨hp, _⟩ <;> omega
    exact ⟨halive, fun hn => absurd (Or.inl hpast) hn, fun _ => ⟨habs.advance, hhand⟩⟩
  · obtain ⟨hpend, hhand⟩ := h.waits hp
    have hle : s.advances ≤ due := Nat.le_of_not_lt fun hlt => hp (Or.inl hlt)
    have hne : due ≠ s.advances := fun e => hp (Or.inr ⟨e, hph⟩)
    refine ⟨halive, fun _ => ⟨hpend.advance (by omega), hhand⟩, ?_⟩
    rintro (hp' | ⟨_, hp'⟩)
    · exact absurd hp' (by show ¬ due < s.advances + 1; omega)
    · cases hp'

end advance

/-! ## Section 4: The other users of the wheel -/

section others
variable {w : TimingWheel} {id i : TaskId}

/-- `AddTask` of one task leaves the entries of every other task, their
    objects and both indices alone. -/
theorem addTask_frame (w : TimingWheel) (hi : i ≠ id) :
    (∀ k, ((w.addTask i).workWheel k).count id = (w.workWheel k).count id) ∧
    (∀ j, ((w.addTask i).assistantWheel j).count id = (w.assistantWheel j).count id) ∧
    (w.addTask i).tasks id = w.tasks id ∧
    (w.addTask i).currentWorkWheelIndex = w.currentWorkWheelIndex ∧
    (w.addTask i).currentAssistantWheelIndex = w.currentAssistantWheelIndex := by
  unfold TimingWheel.addTask
  split
  · unfold TimingWheel.addTaskAt
    dsimp only
    split
    · simp [TimingWheel.pushWork_count, hi]
    · split
      · simp [TimingWheel.pushWork_count, hi, Ne.symm hi]
      · refine ⟨fun _ => rfl, fun j => ?_, by simp [TimingWheel.pushAssistant, Ne.symm hi],
          rfl, rfl⟩
        simp [TimingWheel.pushAssistant_count, hi]
  · simp

variable {s s' : TickLoop} {due : Nat} {before : List Nat}

/-- `OnTime` depends only on the entries and the object of the task, the
    two indices and the progress of the tick thread. -/
theorem OnTime.frame (h : OnTime id due before s)
    (hwork : ∀ k, (s'.wheel.workWheel k).count id = (s.wheel.workWheel k).count id)
    (hasst : ∀ j, (s'.wheel.assistantWheel j).count id = (s.wheel.assistantWheel j).count id)
    (htask : s'.wheel.tasks id = s.wheel.tasks id)
    (hcur : s'.wheel.currentWorkWheelIndex = s.wheel.currentWorkWheelIndex)
    (hcura : s'.wheel.currentAssistantWheelIndex = s.wheel.currentAssistantWheelIndex)
    (hadv : s'.advances = s.advances) (hph : s'.phase = s.phase)
    (hhand : s'.handed id = s.handed id) : OnTime id due before s' := by
  have hpass : Passed s' due ↔ Passed s due := by simp [Passed, hadv, hph]
  refine ⟨by rw [htask]; exact h.alive, fun hn => ?_, fun hp => ?_⟩
  · obtain ⟨hpend, hb⟩ := h.waits (fun hp => hn (hpass.mpr hp))
    refine ⟨?_, by rw [hhand, hb]⟩
    cases hpend with
    | work k hin hle hlt hk =>
      exact .work k ⟨fun k' => by rw [hwork, hin.1], fun j => by rw [hasst, hin.2]⟩
        (by rw [hadv]; exact hle) (by rw [hadv]; exact hlt) (by rw [hcur, hadv]; exact hk)
    | assistant j task m hin ht hm hm' hj hdue =>
      exact .assistant j task m ⟨fun k => by rw [hwork, hin.1], fun j' => by rw [hasst, hin.2]⟩
        (by rw [htask]; exact ht) hm hm' (by rw [hcura]; exact hj)
        (by rw [hcur, hadv]; exact hdue)
  · obtain ⟨habs, hb⟩ := h.handed (hpass.mp hp)
    exact ⟨⟨fun k => by rw [hwork, habs.1], fun j => by rw [hasst, habs.2]⟩, by rw [hhand, hb]⟩

/-- **Step lemma**: every step that spares the task keeps it on time. -/
theorem OnTime.step (a : Label) (ha : a.spares id) (h : OnTime id due before s)
    (hg : (tickFunc.action a).gate s) : OnTime id due before ((tickFunc.action a).effect s) := by
  cases a with
  | tick => exact h.tick hg.2
  | advance => exact h.advance hg.2
  | addTask i =>
    have hne : i ≠ id := ha
    obtain ⟨hwork, hasst, htask, hcur, hcura⟩ := addTask_frame s.wheel hne
    exact h.frame hwork hasst htask hcur hcura rfl rfl rfl
  | owner i task =>
    have htask : Function.update s.wheel.tasks i task id = s.wheel.tasks id :=
      Function.update_of_ne (Ne.symm ha) task s.wheel.tasks
    exact h.frame (fun _ => rfl) (fun _ => rfl) htask rfl rfl rfl rfl rfl

end others

/-! ## Section 5: `AddTask` -/

/-- The number of advances after which a task added with duration `d` at
    work index `c` is swept: one turn too early when `d` exceeds a turn
    and the target still lies in the next turn. -/
def fireDelay (c d : Nat) : Nat :=
  if workWheelSize < d ∧ c + d < 2 * workWheelSize then d - workWheelSize else d

section add
variable {s : TickLoop} {id : TaskId} {task : TimerTask}

theorem inWork_pushWork {w : TimingWheel} (habs : Absent w id) (k : Fin workWheelSize) :
    InWork (w.pushWork k id) id k :=
  ⟨fun k' => by rw [TimingWheel.pushWork_count, habs.1]; simp, habs.2⟩

theorem inAssistant_pushAssistant {w : TimingWheel} (habs : Absent w id)
    (j : Fin assistantWheelSize) : InAssistant (w.pushAssistant j id) id j :=
  ⟨habs.1, fun j' => by rw [TimingWheel.pushAssistant_count, habs.2]; simp⟩

theorem addTask_eq (htask : s.wheel.tasks id = some task) :
    s.wheel.addTask id = s.wheel.addTaskAt id task s.wheel.currentWorkWheelIndex := by
  simp [TimingWheel.addTask, htask]

/-- **Placement**: the three branches of `AddTask` put the task where it
    is swept after `fireDelay` advances. -/
theorem pending_add (htask : s.wheel.tasks id = some task) (habs : Absent s.wheel id)
    (hd : 1 ≤ task.nextFireDurationMs) (hd' : task.nextFireDurationMs < timerMaxIntervalMs) :
    Pending (s.add id) id
      (s.advances + fireDelay s.wheel.currentWorkWheelIndex.val task.nextFireDurationMs) := by
  have hc := s.wheel.currentWorkWheelIndex.isLt
  have hwheel : (s.add id).wheel =
      s.wheel.addTaskAt id task s.wheel.currentWorkWheelIndex := addTask_eq htask
  have hadv : (s.add id).advances = s.advances := rfl
  generalize hcv : s.wheel.currentWorkWheelIndex.val = c at *
  generalize hdv : task.nextFireDurationMs = d at *
  -- nothing overflows, as the interval is bounded
  have hsum : (s.wheel.currentWorkWheelIndex.val + task.nextFireDurationMs) % 2 ^ 64 =
      c + d := by
    rw [hcv, hdv]
    exact Nat.mod_eq_of_lt (by simp only [timerMaxIntervalMs, workWheelSize,
      assistantWheelSize] at *; omega)
  unfold TimingWheel.addTaskAt at hwheel
  simp only [hsum] at hwheel
  simp only [timerMaxIntervalMs, assistantWheelSize] at hd'
  unfold fireDelay
  split at hwheel
  · -- the target lies in the current turn
    rename_i hlt
    rw [if_neg (by omega)]
    refine .work ⟨c + d, hlt⟩ ?_ (by omega) (by rw [hadv]; omega) ?_
    · rw [hwheel]; exact inWork_pushWork habs _
    · rw [hwheel, hadv, Nat.add_sub_cancel_left]
      simp only [TimingWheel.pushWork_current, hcv]
      exact (Nat.mod_eq_of_lt hlt).symm
  · rename_i hge
    have hreal : (getWorkWheelIndex (c + d)).val = (c + d) % workWheelSize :=
      getWorkWheelIndex_val _
    split at hwheel
    · -- the target lies in the next turn, in another bucket
      rename_i hnext
      obtain ⟨hturn, hne⟩ := hnext
      have hne' : (c + d) % workWheelSize ≠ c := fun e => hne (Fin.ext (by rw [hreal, hcv, e]))
      refine .work (getWorkWheelIndex (c + d)) ?_ ?_ ?_ ?_
      · rw [hwheel]
        exact inWork_pushWork (w := { s.wheel with
          running := true
          tasks := Function.update s.wheel.tasks id
            (some { task with remainderIntervalMs := getWorkWheelIndex (c + d) }) }) habs _
      · rw [hadv]; omega
      · rw [hadv]; simp only [workWheelSize] at *; split <;> omega
      · rw [hwheel, hadv, hreal]
        simp only [TimingWheel.pushWork_current, hcv, workWheelSize] at *
        split <;> omega
    · -- the target is more than a turn away, or in the current bucket
      rename_i hfar
      have hfar' : (c + d) / workWheelSize = 1 → (c + d) % workWheelSize = c := by
        intro h1
        by_contra hne
        exact hfar ⟨h1, fun e => hne (by rw [← hreal, e, hcv])⟩
      rw [if_neg (by simp only [workWheelSize] at *; omega)]
      refine .assistant
        (getAssistantWheelIndex
          (s.wheel.currentAssistantWheelIndex.val + (c + d) / workWheelSize))
        { task with remainderIntervalMs := getWorkWheelIndex (c + d) }
        ((c + d) / workWheelSize) ?_ ?_ ?_ ?_ ?_ ?_
      · rw [hwheel]
        exact inAssistant_pushAssistant (w := { s.wheel with
          running := true
          tasks := Function.update s.wheel.tasks id
            (some { task with remainderIntervalMs := getWorkWheelIndex (c + d) }) }) habs _
      · rw [hwheel]; simp [TimingWheel.pushAssistant]
      · simp only [workWheelSize] at *; omega
      · simp only [workWheelSize, assistantWheelSize] at *; omega
      · rw [hwheel, getAssistantWheelIndex_val]; rfl
      · rw [hwheel, hadv]
        simp only [TimingWheel.pushAssistant, hcv, hreal, workWheelSize] at *
        omega

theorem add_alive (htask : s.wheel.tasks id = some task) :
    ((s.add id).wheel.tasks id).isSome := by
  show ((s.wheel.addTask id).tasks id).isSome
  rw [addTask_eq htask]
  unfold TimingWheel.addTaskAt
  dsimp only
  split
  · simp [htask]
  · split <;> simp [TimingWheel.pushAssistant]

theorem add_running (htask : s.wheel.tasks id = some task) :
    (s.add id).wheel.running = true := by
  show (s.wheel.addTask id).running = true
  rw [addTask_eq htask]
  unfold TimingWheel.addTaskAt
  dsimp only
  split
  · rfl
  · split <;> rfl

/-- Right after `AddTask` the task is on time for its `fireDelay`. -/
theorem onTime_add (htask : s.wheel.tasks id = some task) (habs : Absent s.wheel id)
    (hd : 1 ≤ task.nextFireDurationMs) (hd' : task.nextFireDurationMs < timerMaxIntervalMs)
    (hpos : 1 ≤ fireDelay s.wheel.currentWorkWheelIndex.val task.nextFireDurationMs) :
    OnTime id
      (s.advances + fireDelay s.wheel.currentWorkWheelIndex.val task.nextFireDurationMs)
      (s.handed id) (s.add id) :=
  ⟨add_alive htask, fun _ => ⟨pending_add htask habs hd hd', rfl⟩,
    fun hp => absurd hp (not_passed_of_lt (by show s.advances < _; omega))⟩

end add

/-! ## Section 6: Firing on time -/

/-- **Fires on time**: in every run after `AddTask(id)` whose other users
    spare the task, exactly the `Tick` at the `d`-th advance hands it over. -/
def FiresOnTime (s : TickLoop) (id : TaskId) (d : Nat) : Prop :=
  ∀ as s', (∀ a ∈ as, a.spares id) → tickFunc.Run (s.add id) as s' →
    s'.handed id = s.handed id ++ if Passed s' (s.advances + d) then [s.advances + d] else []

/-- **Run lemma**: after `AddTask` the task is handed over once, after
    exactly `fireDelay` advances. -/
theorem handed_after_fireDelay {s s' : TickLoop} {id : TaskId} {task : TimerTask}
    {as : List Label} (htask : s.wheel.tasks id = some task) (habs : Absent s.wheel id)
    (hd : 1 ≤ task.nextFireDurationMs) (hd' : task.nextFireDurationMs < timerMaxIntervalMs)
    (has : ∀ a ∈ as, a.spares id) (hrun : tickFunc.Run (s.add id) as s')
    {due : Nat}
    (hdue : due =
      s.advances + fireDelay s.wheel.currentWorkWheelIndex.val task.nextFireDurationMs) :
    s'.handed id = s.handed id ++ if Passed s' due then [due] else [] := by
  have hpos : 1 ≤ fireDelay s.wheel.currentWorkWheelIndex.val task.nextFireDurationMs := by
    unfold fireDelay; split <;> omega
  have hon : OnTime id due (s.handed id) s' := by
    subst hdue
    exact hrun.invariant (fun _ a ha h hg => h.step a ha hg) has
      (onTime_add htask habs hd hd' hpos)
  by_cases hp : Passed s' due
  · rw [if_pos hp]; exact (hon.handed hp).2
  · rw [if_neg hp, (hon.waits hp).2, List.append_nil]

/-- A running tick thread about to `Tick` can do so. -/
theorem step_tick {s : TickLoop} (hr : s.wheel.running = true) (hph : s.phase = .beforeTick) :
    tickFunc.step s .tick ((tickFunc.action .tick).effect s) :=
  ⟨⟨hr, hph⟩, rfl⟩

/-- A running tick thread that sleeps can wake and advance. -/
theorem step_advance {s : TickLoop} (hr : s.wheel.running = true) (hph : s.phase = .asleep) :
    tickFunc.step s .advance ((tickFunc.action .advance).effect s) :=
  ⟨⟨hr, hph⟩, rfl⟩

/-- The tick thread can always run on to the `Tick` at the `n`-th advance. -/
theorem exists_run_to_tick (s : TickLoop) (hr : s.wheel.running = true) (n : Nat) :
    ∃ as s', (∀ a ∈ as, ∀ id, a.spares id) ∧ tickFunc.Run s as s' ∧
      s'.advances = s.advances + n ∧ s'.phase = .asleep ∧ s'.wheel.running = true := by
  induction n with
  | zero =>
    cases hph : s.phase with
    | beforeTick =>
      refine ⟨[.tick], (tickFunc.action .tick).effect s, ?_, ?_, rfl, rfl, hr⟩
      · simp [Label.spares]
      · exact .cons Label.tick [] (step_tick hr hph) (.nil _)
    | asleep => exact ⟨[], s, by simp, .nil s, rfl, hph, hr⟩
  | succ n ih =>
    obtain ⟨as, s₁, has, hrun, hadv, hph, hr₁⟩ := ih
    have hr₂ : ((tickFunc.action .advance).effect s₁).wheel.running = true := by
      show s₁.wheel.advance.running = true
      rw [TimingWheel.advance_running, hr₁]
    -- one more turn of the loop
    have hlast : tickFunc.Run s₁ [Label.advance, Label.tick]
        ((tickFunc.action .tick).effect ((tickFunc.action .advance).effect s₁)) :=
      .cons Label.advance [Label.tick] (step_advance hr₁ hph)
        (.cons Label.tick [] (step_tick hr₂ rfl) (.nil _))
    refine ⟨as ++ [.advance, .tick], _, ?_, hrun.append hlast, ?_, rfl, ?_⟩
    · intro a ha id
      rcases List.mem_append.mp ha with ha | ha
      · exact has a ha id
      · have ha' : a = .advance ∨ a = .tick := by simpa using ha
        rcases ha' with rfl | rfl <;> trivial
    · show s₁.advances + 1 = s.advances + (n + 1)
      omega
    · exact hr₂

/-- A task whose `fireDelay` is not its duration does not fire on time. -/
theorem not_firesOnTime_of_early {s : TickLoop} {id : TaskId} {task : TimerTask}
    (htask : s.wheel.tasks id = some task) (habs : Absent s.wheel id)
    (hd' : task.nextFireDurationMs < timerMaxIntervalMs)
    (hearly : workWheelSize < task.nextFireDurationMs ∧
      s.wheel.currentWorkWheelIndex.val + task.nextFireDurationMs < 2 * workWheelSize) :
    ¬ FiresOnTime s id task.nextFireDurationMs := by
  intro hfire
  have hdelay : fireDelay s.wheel.currentWorkWheelIndex.val task.nextFireDurationMs =
      task.nextFireDurationMs - workWheelSize := by rw [fireDelay, if_pos hearly]
  obtain ⟨hd1, _⟩ := hearly
  obtain ⟨as, s', has, hrun, hadv, hph, _⟩ :=
    exists_run_to_tick (s.add id) (add_running htask) (task.nextFireDurationMs - workWheelSize)
  have hadv' : s'.advances = s.advances + (task.nextFireDurationMs - workWheelSize) := hadv
  have hgot := handed_after_fireDelay htask habs (by omega) hd' (fun a ha => has a ha id) hrun rfl
  have hwant := hfire as s' (fun a ha => has a ha id) hrun
  have hpassed : Passed s' (s.advances + (task.nextFireDurationMs - workWheelSize)) :=
    Or.inr ⟨hadv'.symm, hph⟩
  have hnot : ¬ Passed s' (s.advances + task.nextFireDurationMs) :=
    not_passed_of_lt (by rw [hadv']; simp only [workWheelSize] at *; omega)
  rw [hgot, hdelay, if_pos hpassed, if_neg hnot] at hwant
  simp at hwant

/-- **The wheel fires on time** for a duration `d` exactly when not both
    `d` exceeds a turn and the target lies in the next turn. -/
theorem firesOnTime_iff (s : TickLoop) (id : TaskId) (task : TimerTask)
    (htask : s.wheel.tasks id = some task) (habs : Absent s.wheel id)
    (hd : 1 ≤ task.nextFireDurationMs) (hd' : task.nextFireDurationMs < timerMaxIntervalMs) :
    FiresOnTime s id task.nextFireDurationMs ↔
      ¬ (workWheelSize < task.nextFireDurationMs ∧
          s.wheel.currentWorkWheelIndex.val + task.nextFireDurationMs < 2 * workWheelSize) := by
  constructor
  · intro hfire hearly
    exact not_firesOnTime_of_early htask habs hd' hearly hfire
  · intro hok as s' has hrun
    exact handed_after_fireDelay htask habs hd hd' has hrun (by rw [fireDelay, if_neg hok])

/-- A wheel that has not started, with one live task of duration `d`. -/
def idleWith (d : Nat) : TickLoop where
  wheel :=
    { running                    := false
      workWheel                  := fun _ => []
      assistantWheel             := fun _ => []
      currentWorkWheelIndex      := 0
      currentAssistantWheelIndex := 0
      tasks                      := fun id => if id = 0 then some ⟨0, d⟩ else none }
  phase    := .beforeTick
  advances := 0
  handed   := fun _ => []

theorem absent_idleWith (d : Nat) : Absent (idleWith d).wheel 0 :=
  ⟨fun _ => rfl, fun _ => rfl⟩

theorem idleWith_fires_hundred : FiresOnTime (idleWith 100) 0 100 :=
  (firesOnTime_iff (idleWith 100) 0 ⟨0, 100⟩ rfl (absent_idleWith 100)
    (by decide) (by decide)).mpr (by decide)

/-- A 600 ms task added to the idle wheel is swept after 88 ms already. -/
theorem idleWith_fires_early :
    (idleWith 600).wheel.tasks 0 = some ⟨0, 600⟩ ∧ Absent (idleWith 600).wheel 0 ∧
      ¬ FiresOnTime (idleWith 600) 0 600 :=
  ⟨rfl, absent_idleWith 600,
    @not_firesOnTime_of_early (idleWith 600) 0 ⟨0, 600⟩ rfl (absent_idleWith 600)
      (by decide) (by decide)⟩

end CyberRT.Timer
