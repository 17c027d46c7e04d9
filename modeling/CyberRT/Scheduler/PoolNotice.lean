import CyberRT.Scheduler.PoolSeparation
import Mathlib.Data.Fintype.Basic

/-! # Notice of the pool's routines

    `DispatchTask` puts a routine into a run queue of the pool and notifies
    nobody. When all processors of the pool are blocked at that moment the
    routine is found only by chance.

    Otherwise every ready routine is noticed: a processor that blocks has
    seen the others' routines not ready, and what a processor, a context or
    a removal has acquired is either not in the pool or not left there. -/

namespace CyberRT.Scheduler.ChoreographyPool

open CyberRT.Framework CyberRT.Croutine
open SchedulerChoreography (Conf defaultGroupName)

variable {Pid Cid Rid Id : Type}

/-! ## Section 1: The property -/

/-- Some processor of the pool is not blocked in the untimed wait. -/
def State.Awake (s : State Pid Cid Rid Id) : Prop :=
  ∃ p, (s.processors p).pc ≠ .blocked

/-- Some `NotifyProcessor` is about to notify the pool. -/
def State.Pending (s : State Pid Cid Rid Id) : Prop :=
  ∃ c r, s.callers c = .notify r ∧ s.processorId r = -1 ∧ s.groupName r = defaultGroupName

/-- The bad case: all processors of the pool are blocked, no call is in
    progress, and a run queue holds a routine that is ready and that nobody
    has acquired. -/
structure Unnoticed (s : State Pid Cid Rid Id) : Prop where
  blocked : ∀ p, (s.processors p).pc = .blocked
  idle    : ∀ c, s.callers c = .idle
  ready   : ∃ prio r, r ∈ s.rq prio ∧ (s.routines r).state = .ready ∧ s.locked r = false

/-- **Condition**: a ready routine is put into a run queue while a processor
    is not blocked, or while the pool is about to be notified. -/
def Noticed (s : State Pid Cid Rid Id) : Label Pid Cid Rid Id → Prop
  | .insertPool _ r _ => (s.routines r).state = .ready → s.Awake ∨ s.Pending
  | _ => True

/-! ## Section 2: Scans -/

section scans
variable [DecidableEq Rid]

/-- A fruitless scan leaves the other routines as they are. -/
theorem nextRoutine_other {locked expired : Rid → Bool} {l : List Rid} {r : Rid}
    {routines routines' : Rid → CRoutine} {needSleep needSleep' : Bool}
    (h : nextRoutine locked expired l routines needSleep = some (routines', needSleep'))
    (hr : r ∉ l) : routines' r = routines r := by
  induction l generalizing routines needSleep with
  | nil =>
    rw [nextRoutine] at h
    cases h
    rfl
  | cons x rest ih =>
    have hx : r ≠ x := fun heq => hr (heq ▸ List.mem_cons_self)
    have hrest : r ∉ rest := fun hmem => hr (List.mem_cons_of_mem x hmem)
    rw [nextRoutine] at h
    split at h
    · exact ih h hrest
    · simp only at h
      split at h
      · cases h
      · rw [ih h hrest, Function.update_of_ne hx]

/-- A fruitless scan leaves no routine ready that it could acquire. -/
theorem nextRoutine_not_ready {locked expired : Rid → Bool} {l : List Rid} {r : Rid}
    {routines routines' : Rid → CRoutine} {needSleep needSleep' : Bool}
    (h : nextRoutine locked expired l routines needSleep = some (routines', needSleep'))
    (hr : r ∈ l) (hfree : locked r = false) : (routines' r).state ≠ .ready := by
  induction l generalizing routines needSleep with
  | nil => cases hr
  | cons x rest ih =>
    rw [nextRoutine] at h
    by_cases hrest : r ∈ rest
    · -- it comes once more
      split at h
      · exact ih h hrest
      · simp only at h
        split at h
        · cases h
        · exact ih h hrest
    · have hx : r = x := by
        rcases List.mem_cons.mp hr with heq | hmem
        · exact heq
        · exact absurd hmem hrest
      subst hx
      rw [if_neg (by rw [hfree]; nofun)] at h
      simp only at h
      split at h
      · cases h
      · next hstate =>
        rw [nextRoutine_other h hrest, Function.update_self]
        exact hstate

end scans

theorem mem_scanOrder {s : State Pid Cid Rid Id} {prio : Nat} {r : Rid} (hr : r ∈ s.rq prio)
    (hprio : prio < maxPrio) : r ∈ s.scanOrder :=
  List.mem_flatMap.mpr ⟨prio, List.mem_reverse.mpr (List.mem_range.mpr hprio), hr⟩

/-! ## Section 3: Notice -/

section notice
variable {s s' : State Pid Cid Rid Id}

/-- No run queue holds a routine that is ready. -/
def State.Quiet (s : State Pid Cid Rid Id) : Prop :=
  ∀ prio r, r ∈ s.rq prio → (s.routines r).state ≠ .ready

/-- **Invariant**: as long as some routine is ready a processor is not
    blocked, or the pool is about to be notified. -/
def State.Attentive (s : State Pid Cid Rid Id) : Prop :=
  s.Awake ∨ s.Pending ∨ s.Quiet

/-- The processor that moved is not blocked. -/
theorem attentive_awake [DecidableEq Pid] {p : Pid} (x : Processor Rid)
    (hprocessors : s'.processors = Function.update s.processors p x) (hx : x.pc ≠ .blocked) :
    s'.Attentive := by
  refine Or.inl ⟨p, ?_⟩
  rw [hprocessors, Function.update_self]
  exact hx

/-- A flag of a processor is set. -/
theorem update_pc [DecidableEq Pid] {p : Pid} (x : Processor Rid)
    (hx : x.pc = (s.processors p).pc) (q : Pid) :
    (Function.update s.processors p x q).pc = (s.processors q).pc := by
  by_cases hq : q = p
  · rw [hq, Function.update_self, hx]
  · rw [Function.update_of_ne hq]

/-- A step of no caller that changes routines outside of the pool only. -/
theorem State.Attentive.frame (h : s.Attentive)
    (hprocessors : ∀ p, (s'.processors p).pc = (s.processors p).pc)
    (hcallers : s'.callers = s.callers) (hprocessorId : s'.processorId = s.processorId)
    (hgroupName : s'.groupName = s.groupName) (hrq : s'.rq = s.rq)
    (hroutines : ∀ prio r, r ∈ s.rq prio → s'.routines r = s.routines r) : s'.Attentive := by
  rcases h with hawake | hpending | hquiet
  · obtain ⟨p, hp⟩ := hawake
    refine Or.inl ⟨p, ?_⟩
    rw [hprocessors]
    exact hp
  · obtain ⟨c, r, hc, hpid, hgroup⟩ := hpending
    refine Or.inr (Or.inl ⟨c, r, ?_, ?_, ?_⟩)
    · rw [hcallers]
      exact hc
    · rw [hprocessorId]
      exact hpid
    · rw [hgroupName]
      exact hgroup
  · refine Or.inr (Or.inr ?_)
    intro prio r hr
    rw [hrq] at hr
    rw [hroutines prio r hr]
    exact hquiet prio r hr

variable [DecidableEq Cid] {conf : Conf Rid Id}

/-- A caller that is not about to notify the pool moves, and puts no ready
    routine into it. -/
theorem State.Attentive.caller (h : s.Attentive) (hs : Separated conf s) {c : Cid}
    {pc : CallerPc Rid Id}
    (hpending : ∀ r, s.callers c = .notify r → s.processorId r = -1 →
      s.groupName r ≠ defaultGroupName)
    (hcallers : s'.callers = Function.update s.callers c pc)
    (hprocessors : s'.processors = s.processors) (hkeeps : Keeps conf s s')
    (hgroupName : ∀ r, s.groupName r = defaultGroupName → s'.groupName r = defaultGroupName)
    (hrq : ∀ prio r, r ∈ s'.rq prio → r ∈ s.rq prio)
    (hstate : ∀ r, (s'.routines r).state = (s.routines r).state) : s'.Attentive := by
  rcases h with hawake | hnotify | hquiet
  · obtain ⟨p, hp⟩ := hawake
    refine Or.inl ⟨p, ?_⟩
    rw [hprocessors]
    exact hp
  · obtain ⟨d, r, hd, hpid, hgroup⟩ := hnotify
    have hdc : d ≠ c := by
      intro heq
      rw [heq] at hd
      exact hpending r hd hpid hgroup
    have hassigned : CallerKnows conf s (.notify r) := hd ▸ hs.callers d
    refine Or.inr (Or.inl ⟨d, r, ?_, ?_, hgroupName r hgroup⟩)
    · rw [hcallers, Function.update_of_ne hdc]
      exact hd
    · rw [hkeeps r hassigned]
      exact hpid
  · refine Or.inr (Or.inr ?_)
    intro prio r hr
    rw [hstate]
    exact hquiet prio r (hrq prio r hr)

omit [DecidableEq Cid] in
/-- A caller at another place is not about to notify the pool. -/
theorem not_notifies {c : Cid} {pc : CallerPc Rid Id} (hpc : s.callers c = pc)
    (hnotify : ∀ r, pc ≠ .notify r) (r : Rid) (hr : s.callers c = .notify r)
    (_ : s.processorId r = -1) : s.groupName r ≠ defaultGroupName := by
  rw [hpc] at hr
  exact absurd hr (hnotify r)

/-- A caller moves from a place where it is not about to notify. -/
theorem State.Attentive.callerMove (h : s.Attentive) {c : Cid} {pc pc' : CallerPc Rid Id}
    (hs : Separated conf s) (hpc : s.callers c = pc) (hnotify : ∀ r, pc ≠ .notify r)
    (hcallers : s'.callers = Function.update s.callers c pc')
    (hprocessors : s'.processors = s.processors) (hprocessorId : s'.processorId = s.processorId)
    (hgroupName : s'.groupName = s.groupName) (hrq : s'.rq = s.rq)
    (hroutines : s'.routines = s.routines) : s'.Attentive := by
  refine h.caller hs (not_notifies hpc hnotify) hcallers hprocessors
    (fun r _ => congrFun hprocessorId r) ?_ ?_ ?_
  · intro r hr
    rw [hgroupName]
    exact hr
  · intro prio r hr
    rw [hrq] at hr
    exact hr
  · intro r
    rw [hroutines]

end notice

section notice_steps
variable [DecidableEq Pid] [DecidableEq Cid] [DecidableEq Rid] [DecidableEq Id]
  {conf : Conf Rid Id} {s : State Pid Cid Rid Id}

/-- A processor blocks after a fruitless scan. -/
theorem State.Attentive.nextRoutineWait (hs : Separated conf s) (hl : Taken s.locked s.holder)
    {p : Pid} {expired : Rid → Bool}
    (hg : ((choreographyPool conf).action (.nextRoutineWait p expired)).gate s) :
    (((choreographyPool conf).action (.nextRoutineWait p expired)).effect s).Attentive := by
  obtain ⟨hpc, _, hwriters, hscan⟩ := hg
  obtain ⟨⟨routines, needSleep⟩, hresult⟩ := Option.isSome_iff_exists.mp hscan
  simp only [choreographyPool, hresult]
  cases needSleep with
  | true => exact attentive_awake (s := s) (p := p) _ rfl (by simp)
  | false =>
    by_cases hothers : ∃ q, q ≠ p ∧ (s.processors q).pc ≠ .blocked
    · -- another processor is not blocked
      obtain ⟨q, hq, hblocked⟩ := hothers
      refine Or.inl ⟨q, ?_⟩
      show (Function.update s.processors p _ q).pc ≠ .blocked
      rw [Function.update_of_ne hq]
      exact hblocked
    · refine Or.inr (Or.inr ?_)
      intro prio r hr
      obtain ⟨hpool, hprio⟩ := hs.pool prio r hr
      show (routines r).state ≠ .ready
      cases hlocked : s.locked r with
      | false => exact nextRoutine_not_ready hresult (mem_scanOrder hr hprio) hlocked
      | true =>
        -- nobody is left who could have acquired it
        obtain ⟨y, hy⟩ := hl r hlocked
        rcases y with q | k | c
        · have hq : (s.processors q).pc.holds = some r := hy
          by_cases hqp : q = p
          · rw [hqp, hpc] at hq
            cases hq
          · have hblocked : (s.processors q).pc = .blocked := by
              by_contra hne
              exact hothers ⟨q, hqp, hne⟩
            rw [hblocked] at hq
            cases hq
        · exact absurd hr (hs.not_mem (hs.held k r hy) prio)
        · have hc : (s.callers c).holds = some r := hy
          have hknows := hs.callers c
          have hwrites := hwriters c
          cases hcpc : s.callers c with
          | eraseQueue i q r' =>
            rw [hcpc] at hc hknows hwrites
            cases hc
            cases q with
            | context k => exact absurd hr (hs.not_mem hknows prio)
            | pool prio' => cases hwrites
          | release i q r' =>
            rw [hcpc] at hc hknows hwrites
            cases hc
            cases q with
            | context k => exact absurd hr (hs.not_mem hknows prio)
            | pool prio' => cases hwrites
          | _ =>
            rw [hcpc] at hc
            cases hc

/-- A ready routine is put into the pool when it is noticed. -/
theorem State.Attentive.insertPool (h : s.Attentive) {c : Cid} {r : Rid}
    {prio : Nat} (hpc : s.callers c = .insertPool r prio)
    (hok : Noticed s (.insertPool c r prio)) :
    (((choreographyPool conf).action (.insertPool c r prio)).effect s).Attentive := by
  -- without the new routine the step is that of a caller
  have hmove : s.Awake ∨ s.Pending →
      (((choreographyPool conf).action (.insertPool c r prio)).effect s).Attentive := by
    intro hnoticed
    rcases hnoticed with hawake | hpending
    · exact Or.inl hawake
    · obtain ⟨d, r', hd, hpid, hgroup⟩ := hpending
      have hdc : d ≠ c := by
        intro heq
        rw [heq] at hd
        exact not_notifies hpc (by simp) r' hd hpid hgroup
      refine Or.inr (Or.inl ⟨d, r', ?_, hpid, hgroup⟩)
      show Function.update s.callers c _ d = _
      rw [Function.update_of_ne hdc]
      exact hd
  by_cases hready : (s.routines r).state = .ready
  · exact hmove (hok hready)
  · rcases h with hawake | hpending | hquiet
    · exact hmove (Or.inl hawake)
    · exact hmove (Or.inr hpending)
    · refine Or.inr (Or.inr ?_)
      intro prio' x hx
      have hx' : x ∈ Function.update s.rq prio (s.rq prio ++ [r]) prio' := hx
      show (s.routines x).state ≠ .ready
      by_cases hprio : prio' = prio
      · rw [hprio, Function.update_self, List.mem_append, List.mem_singleton] at hx'
        rcases hx' with hold | hnew
        · exact hquiet prio x hold
        · rw [hnew]
          exact hready
      · rw [Function.update_of_ne hprio] at hx'
        exact hquiet prio' x hx'

/-- The routine that a processor of the pool runs may change its state. -/
theorem attentive_setState {p : Pid} {r : Rid} (hpc : (s.processors p).pc = .running r)
    (state : RoutineState) :
    (((choreographyPool conf).action (.setState p r state)).effect s).Attentive := by
  refine Or.inl ⟨p, ?_⟩
  show (s.processors p).pc ≠ .blocked
  simp [hpc]

/-! ### `DispatchTask` -/

theorem State.Attentive.assign (h : s.Attentive) (hs : Separated conf s) {c : Cid} {r : Rid}
    (hpc : s.callers c = .assign r) :
    (((choreographyPool conf).action (.assign c r)).effect s).Attentive := by
  dsimp only [choreographyPool]
  split
  · exact h.callerMove hs hpc (by simp) rfl rfl rfl rfl rfl rfl
  · next task htask =>
    exact h.caller hs (not_notifies hpc (by simp)) rfl rfl (keeps_assign htask rfl).1
      (fun _ => id) (fun _ _ => id) fun _ => rfl

/-- The group of a routine becomes the default one, if it was not before. -/
theorem State.Attentive.choose (h : s.Attentive) (hs : Separated conf s) {c : Cid} {r : Rid}
    (hpc : s.callers c = .choose r) :
    (((choreographyPool conf).action (.choose c r)).effect s).Attentive := by
  dsimp only [choreographyPool]
  split
  · exact h.callerMove hs hpc (by simp) rfl rfl rfl rfl rfl rfl
  · refine h.caller hs (not_notifies hpc (by simp)) rfl rfl (fun _ _ => rfl) ?_ (fun _ _ => id)
      fun _ => rfl
    intro x hx
    show Function.update s.groupName r defaultGroupName x = _
    by_cases hxr : x = r
    · rw [hxr, Function.update_self]
    · rw [Function.update_of_ne hxr]
      exact hx

/-! ### `NotifyProcessor` -/

/-- The update flag leaves the states as they are. -/
theorem State.Attentive.find (h : s.Attentive) (hs : Separated conf s) {c : Cid} {i : Id}
    (hpc : s.callers c = .find i) :
    (((choreographyPool conf).action (.find c i)).effect s).Attentive := by
  dsimp only [choreographyPool]
  split
  · exact h.callerMove hs hpc (by simp) rfl rfl rfl rfl rfl rfl
  · next r hr =>
    refine h.caller hs (not_notifies hpc (by simp)) rfl rfl (fun _ _ => rfl) (fun _ => id)
      (fun _ _ => id) ?_
    intro x
    show (Function.update s.routines r _ x).state = _
    by_cases hxr : x = r
    · rw [hxr, Function.update_self]
      split <;> rfl
    · rw [Function.update_of_ne hxr]

theorem State.Attentive.notifyContext (h : s.Attentive) (hs : Separated conf s) {c : Cid}
    {r : Rid} (hpc : s.callers c = .notify r) (hpid : s.processorId r ≠ -1) :
    (((choreographyPool conf).action (.notifyContext c r)).effect s).Attentive := by
  have hother : ∀ r', s.callers c = .notify r' → s.processorId r' = -1 →
      s.groupName r' ≠ defaultGroupName := by
    intro r' hr' hpid'
    rw [hpc] at hr'
    cases hr'
    exact absurd hpid' hpid
  dsimp only [choreographyPool]
  split
  · exact h.caller hs hother rfl rfl (fun _ _ => rfl) (fun _ => id) (fun _ _ => id) fun _ => rfl
  · exact h.caller hs hother rfl rfl (fun _ _ => rfl) (fun _ => id) (fun _ _ => id) fun _ => rfl

/-- `notify_one` wakes a processor, or none of them waits. -/
theorem State.Attentive.notifyOne [Nonempty Pid] (h : s.Attentive) (hs : Separated conf s)
    {c : Cid} {r : Rid} {p : Option Pid}
    (hg : ((choreographyPool conf).action (.notifyOne c r p)).gate s) :
    (((choreographyPool conf).action (.notifyOne c r p)).effect s).Attentive := by
  obtain ⟨hpc, _, hwait⟩ := hg
  cases p with
  | some p =>
    exact attentive_awake (s := s.setCaller c .idle) (p := p) _ rfl (woken_ne_blocked _)
  | none =>
    by_cases hgroup : s.groupName r = defaultGroupName
    · -- nobody waits
      obtain ⟨p⟩ := ‹Nonempty Pid›
      refine Or.inl ⟨p, ?_⟩
      intro hblocked
      have hblocked' : (s.processors p).pc = .blocked := hblocked
      have hnot := hwait hgroup p
      rw [hblocked'] at hnot
      cases hnot
    · refine h.caller hs ?_ rfl rfl (fun _ _ => rfl) (fun _ => id) (fun _ _ => id) fun _ => rfl
      intro r' hr'
      rw [hpc] at hr'
      cases hr'
      exact fun _ => hgroup

/-! ### `RemoveCRoutine` -/

theorem State.Attentive.eraseQueue (h : s.Attentive) (hs : Separated conf s) {c : Cid} {i : Id}
    {q : Queue} {r : Rid} (hpc : s.callers c = .eraseQueue i q r) :
    (((choreographyPool conf).action (.eraseQueue c i q r)).effect s).Attentive := by
  have hqueue (prio : Nat) (x : Rid)
      (hx : x ∈ (s.eraseQueue conf.id i q).queue (.pool prio)) : x ∈ s.queue (.pool prio) :=
    mem_eraseQueue hx
  have hother := not_notifies hpc (by simp)
  cases q with
  | context k =>
    exact h.caller hs hother rfl rfl (fun _ _ => rfl) (fun _ => id) (fun _ _ => id) fun _ => rfl
  | pool prio =>
    exact h.caller hs hother rfl rfl (fun _ _ => rfl) (fun _ => id) hqueue fun _ => rfl

/-- **Step lemma** for the notice. -/
theorem State.Attentive.step [Nonempty Pid] (a : Label Pid Cid Rid Id) (h : s.Attentive)
    (hs : Separated conf s) (hl : Taken s.locked s.holder)
    (hg : ((choreographyPool conf).action a).gate s) (hok : Noticed s a) :
    (((choreographyPool conf).action a).effect s).Attentive := by
  cases a with
  -- the processor that moves is awake
  | nextRoutineStopped p | nextRoutine p | readQueue p | leaveQueue p | acquire p | acquireFail p
  | release p | swapOut p | releaseResumed p =>
    exact attentive_awake (s := s) (p := p) _ rfl (by simp)
  | run p =>
    dsimp only [choreographyPool]
    split
    · exact attentive_awake (s := s) (p := p) _ rfl (by simp)
    · exact attentive_awake (s := s) (p := p) _ rfl (by simp)
  | updateState p i rest r expired =>
    refine attentive_awake (s := s) (p := p) _ rfl ?_
    show (if _ then ProcessorPc.resume r else .release i rest r) ≠ .blocked
    split <;> simp
  | resume p r =>
    dsimp only [choreographyPool]
    split
    · exact attentive_awake (s := s) (p := p) _ rfl (by simp)
    · split
      · exact attentive_awake (s := s) (p := p) _ rfl (by simp)
      · exact attentive_awake (s := s) (p := p) _ rfl (by simp)
  | setState p r state => exact attentive_setState hg state
  | nextRoutineWait p expired => exact .nextRoutineWait hs hl hg
  | timeout p => exact attentive_awake (s := s) (p := p) _ rfl (woken_ne_blocked _)
  | notifyAll p => exact Or.inl ⟨p, woken_ne_blocked _⟩
  -- what a context runs is in no queue of the pool
  | contextAcquire k r expired =>
    refine h.frame (fun _ => rfl) rfl rfl rfl rfl ?_
    intro prio x hx
    have hne : x ≠ r := fun heq => hs.not_mem (hs.context k r hg.1) prio (heq ▸ hx)
    exact Function.update_of_ne hne _ _
  | contextSetState k r state =>
    refine h.frame (fun _ => rfl) rfl rfl rfl rfl ?_
    intro prio x hx
    have hne : x ≠ r := fun heq => hs.not_mem (hs.held k r hg) prio (heq ▸ hx)
    exact Function.update_of_ne hne _ _
  | contextRelease | schedulerStop => exact h.frame (fun _ => rfl) rfl rfl rfl rfl fun _ _ _ => rfl
  | stop p =>
    exact h.frame (update_pc { s.processors p with running := false } rfl) rfl rfl rfl rfl
      fun _ _ _ => rfl
  | exchange p =>
    exact h.frame (update_pc { s.processors p with stop := true } rfl) rfl rfl rfl rfl
      fun _ _ _ => rfl
  -- the steps of a caller that neither notifies nor changes a run queue
  | dispatchTask | unlockDispatch | removeCRoutine | releaseRemove | unlockQueue | unlockRemove =>
    exact h.callerMove hs hg (by simp) rfl rfl rfl rfl rfl rfl
  | lockDispatch | insertContext | lockRemove | lockQueue | acquireRemove =>
    exact h.callerMove hs hg.1 (by simp) rfl rfl rfl rfl rfl rfl
  | register | erase | search =>
    dsimp only [choreographyPool]
    split
    · exact h.callerMove hs hg (by simp) rfl rfl rfl rfl rfl rfl
    · exact h.callerMove hs hg (by simp) rfl rfl rfl rfl rfl rfl
  | notifyProcessor c i =>
    dsimp only [choreographyPool]
    split
    · exact h
    · exact h.callerMove hs hg (by simp) rfl rfl rfl rfl rfl rfl
  | assign c r => exact h.assign hs hg
  | choose c r => exact h.choose hs hg
  | insertPool c r prio => exact h.insertPool hg.1 hok
  | find c i => exact h.find hs hg
  | notifyContext c r => exact h.notifyContext hs hg.1 hg.2
  | notifyOne c r p => exact h.notifyOne hs hg
  | eraseQueue c i q r => exact h.eraseQueue hs hg

/-- **Invariant** of the runs that meet the condition. -/
structure Inv (conf : Conf Rid Id) (s : State Pid Cid Rid Id) : Prop where
  separated : Separated conf s
  taken     : Taken s.locked s.holder
  attentive : s.Attentive

theorem inv_init (hi : (choreographyPool conf).init s) : Inv conf s := by
  obtain ⟨_, _, hidCr, hrq, hcontexts, hheld, _, _, hlocked, _, _, hcallers⟩ := hi
  refine ⟨⟨?_, ?_, ?_, ?_, ?_⟩, ?_, Or.inr (Or.inr ?_)⟩
  · intro prio r hr
    rw [hrq] at hr
    cases hr
  · intro k r hr
    have hr' : r ∈ (s.contexts k).crQueue.map Prod.snd := hr
    rw [hcontexts] at hr'
    cases hr'
  · intro k r hr
    rw [hheld] at hr
    cases hr
  · intro i r hr
    rw [hidCr] at hr
    cases hr
  · intro c
    rw [hcallers]
    trivial
  · intro r hr
    rw [hlocked] at hr
    cases hr
  · intro prio r hr
    rw [hrq] at hr
    cases hr

/-- **Run lemma**. -/
theorem inv_reachable [Nonempty Pid] (h : ((choreographyPool conf).restrict Noticed).Reachable s) :
    Inv conf s := by
  apply System.invariant _ _ h
  · intro s hi
    exact inv_init hi
  · intro s a hs hg
    exact ⟨hs.separated.step a hg.1, taken_step a hs.taken hg.1,
      hs.attentive.step a hs.separated hs.taken hg.1 hg.2⟩

/-- **Main result**: no ready routine of the pool goes unnoticed. -/
theorem choreographyPool_not_unnoticed [Nonempty Pid]
    (h : ((choreographyPool conf).restrict Noticed).Reachable s) : ¬ Unnoticed s := by
  intro hun
  rcases (inv_reachable h).attentive with hawake | hpending | hquiet
  · obtain ⟨p, hp⟩ := hawake
    exact hp (hun.blocked p)
  · obtain ⟨c, r, hc, _⟩ := hpending
    rw [hun.idle c] at hc
    cases hc
  · obtain ⟨prio, r, hr, hready, _⟩ := hun.ready
    exact hquiet prio r hr hready

end notice_steps

/-! ## Section 4: One routine -/

/-- One choreography processor; the task is not configured. -/
def oneTask : Conf Unit Unit := ⟨id, fun _ => none, 1, 1⟩

section decidable

instance decidableWritable (s : State Unit Unit Unit Unit) (q : Queue) :
    Decidable (s.writable q) :=
  inferInstanceAs (Decidable ((∀ _, _ ≠ _) ∧ ∀ _, _ ≠ _))

instance decidableGate :
    ∀ (a : Label Unit Unit Unit Unit) (s : State Unit Unit Unit Unit),
      Decidable (((choreographyPool oneTask).action a).gate s)
  | .run p, s | .leaveQueue p _, s | .updateState p _ _ _ _, s | .release p _ _ _, s
  | .resume p _, s | .setState p _ _, s | .swapOut p _, s | .releaseResumed p _, s
  | .timeout p, s => inferInstanceAs (Decidable ((s.processors p).pc = _))
  | .nextRoutineStopped p, s | .nextRoutine p, s | .readQueue p _, s | .acquire p _ _ _, s
  | .acquireFail p _ _ _, s | .nextRoutineWait p _, s =>
    inferInstanceAs (Decidable ((s.processors p).pc = _ ∧ _))
  | .contextAcquire k r _, s =>
    inferInstanceAs (Decidable (r ∈ s.queue (.context k) ∧ s.locked r = _ ∧ _ = _))
  | .contextSetState k _ _, s | .contextRelease k _, s =>
    inferInstanceAs (Decidable (s.contextHolds k = _))
  | .dispatchTask c _, s | .assign c _, s | .register c _, s | .choose c _, s
  | .unlockDispatch c _, s | .notifyProcessor c _, s | .find c _, s | .removeCRoutine c _, s
  | .erase c _, s | .search c _ _, s | .eraseQueue c _ _ _, s | .releaseRemove c _ _ _, s
  | .unlockQueue c _ _, s | .unlockRemove c _, s => inferInstanceAs (Decidable (s.callers c = _))
  | .lockDispatch c _, s | .insertContext c _ _, s | .insertPool c _ _, s
  | .notifyContext c _, s | .notifyOne c _ none, s | .notifyOne c _ (some _), s
  | .lockRemove c _, s | .lockQueue c _ _, s | .acquireRemove c _ _ _, s =>
    inferInstanceAs (Decidable (s.callers c = _ ∧ _))
  | .schedulerStop, _ | .stop _, _ | .exchange _, _ => .isTrue True.intro
  | .notifyAll p, s => inferInstanceAs (Decidable (s.shutting p = _))

instance decidableNoticed (s : State Unit Unit Unit Unit) (a : Label Unit Unit Unit Unit) :
    Decidable (Noticed s a) :=
  match a with
  | .insertPool _ r _ =>
    inferInstanceAs (Decidable ((s.routines r).state = .ready →
      (∃ p, (s.processors p).pc ≠ .blocked) ∨
        ∃ c r, s.callers c = .notify r ∧ s.processorId r = -1 ∧
          s.groupName r = defaultGroupName))
  | .run _ | .nextRoutineStopped _ | .nextRoutine _ | .readQueue _ _ | .leaveQueue _ _
  | .acquire _ _ _ _ | .acquireFail _ _ _ _ | .updateState _ _ _ _ _ | .release _ _ _ _
  | .resume _ _ | .setState _ _ _ | .swapOut _ _ | .releaseResumed _ _ | .nextRoutineWait _ _
  | .timeout _ | .contextAcquire _ _ _ | .contextSetState _ _ _ | .contextRelease _ _
  | .dispatchTask _ _ | .lockDispatch _ _ | .assign _ _ | .register _ _ | .choose _ _
  | .insertContext _ _ _ | .unlockDispatch _ _ | .notifyProcessor _ _ | .find _ _
  | .notifyContext _ _ | .notifyOne _ _ _ | .removeCRoutine _ _ | .lockRemove _ _ | .erase _ _
  | .lockQueue _ _ _ | .search _ _ _ | .acquireRemove _ _ _ _ | .eraseQueue _ _ _ _
  | .releaseRemove _ _ _ _ | .unlockQueue _ _ _ | .unlockRemove _ _ | .schedulerStop | .stop _
  | .exchange _ | .notifyAll _ => .isTrue True.intro

end decidable

def initial : State Unit Unit Unit Unit where
  stop         := false
  idMutex      := fun _ => none
  idCr         := fun _ => none
  rq           := fun _ => []
  contexts     := fun _ => ⟨[], false⟩
  contextHolds := fun _ => none
  routines     := fun _ => .new
  forceStop    := fun _ => false
  locked       := fun _ => false
  processorId  := fun _ => -1
  priority     := fun _ => 19
  groupName    := fun _ => ""
  processors   := fun _ => ⟨.run, true, false, false⟩
  shutting     := fun _ => false
  callers      := fun _ => .idle

theorem initial_init : (choreographyPool oneTask).init initial :=
  ⟨rfl, fun _ => rfl, fun _ => rfl, fun _ => rfl, fun _ => rfl, fun _ => rfl, fun _ => rfl,
    fun _ => rfl, fun _ => rfl, fun _ => rfl, fun _ => rfl, fun _ => rfl⟩

/-- `DispatchTask` for the pool. -/
def dispatch : List (Label Unit Unit Unit Unit) :=
  [.dispatchTask () (), .lockDispatch () (), .assign () (), .register () (), .choose () (),
    .insertPool () () 19, .unlockDispatch () ()]

/-- The processor runs the routine, which waits for data then, and blocks. -/
def runAndBlock : List (Label Unit Unit Unit Unit) :=
  [.run (), .nextRoutine (), .readQueue () 19, .acquire () 19 [] (),
    .updateState () 19 [] () false, .resume () (), .setState () () .dataWait, .swapOut () (),
    .releaseResumed () (), .run (), .nextRoutineWait () (fun _ => false)]

/-- The routine is dispatched before the processor blocks. -/
theorem choreographyPool_dispatchAwake :
    (((choreographyPool oneTask).exec initial (dispatch ++ runAndBlock)).processors ()).pc =
        .blocked ∧
      ¬ Unnoticed ((choreographyPool oneTask).exec initial (dispatch ++ runAndBlock)) := by
  refine ⟨by decide +kernel, ?_⟩
  have hreach := System.reachable_exec ((choreographyPool oneTask).restrict Noticed) initial_init
    (dispatch ++ runAndBlock) (by decide +kernel)
  exact choreographyPool_not_unnoticed hreach

/-- The only processor of the pool blocks, and then the routine is
    dispatched. -/
theorem choreographyPool_dispatchBlocked :
    ¬ ∀ s : State Unit Unit Unit Unit, (choreographyPool oneTask).Reachable s → ¬ Unnoticed s := by
  intro hall
  have hreach := System.reachable_exec (choreographyPool oneTask) initial_init
    ([.run (), .nextRoutineWait () (fun _ => false)] ++ dispatch) (by decide +kernel)
  apply hall _ hreach
  constructor
  · decide +kernel
  · decide +kernel
  · exact ⟨19, (), by decide +kernel, by decide +kernel, by decide +kernel⟩

end CyberRT.Scheduler.ChoreographyPool
