import CyberRT.Framework.TryLock
import CyberRT.Scheduler.ChoreographyPool

/-! # Who has the pool's routines

    A routine whose configuration has been assigned keeps its processor id,
    so the routines of the pool and those of the contexts are never the
    same. A lock flag that is set has a holder: a processor of the pool,
    that of a context, or a removal. -/

namespace CyberRT.Scheduler.ChoreographyPool

open CyberRT.Framework CyberRT.Croutine
open SchedulerChoreography (ChoreographyTask Conf ChoreographyContext)

variable {Pid Cid Rid Id : Type}

/-! ## Section 1: Pool and contexts -/

section separation
variable {conf : Conf Rid Id} {s s' : State Pid Cid Rid Id}

/-- The configuration has been assigned to the routine. -/
def Assigned (conf : Conf Rid Id) (s : State Pid Cid Rid Id) (r : Rid) : Prop :=
  ∀ task, conf.crConf r = some task →
    task.processor.getD (s.processorId r) = s.processorId r

/-- A routine that `DispatchTask` puts into the pool. -/
def InPool (conf : Conf Rid Id) (s : State Pid Cid Rid Id) (r : Rid) : Prop :=
  Assigned conf s r ∧ ¬ s.processorId r < conf.procNum

/-- A routine that `DispatchTask` puts into the queue of a context. -/
def InContext (conf : Conf Rid Id) (s : State Pid Cid Rid Id) (r : Rid) : Prop :=
  Assigned conf s r ∧ s.processorId r < conf.procNum

/-- What a caller knows of the routine it works on. -/
def CallerKnows (conf : Conf Rid Id) (s : State Pid Cid Rid Id) : CallerPc Rid Id → Prop
  | .register r | .choose r | .notify r => Assigned conf s r
  | .insertContext r _ => InContext conf s r
  | .insertPool r prio => InPool conf s r ∧ prio < maxPrio
  | .acquire _ (.context _) r | .eraseQueue _ (.context _) r | .release _ (.context _) r =>
    InContext conf s r
  | _ => True

/-- **Invariant**: the routines of the pool and those of the contexts are
    told apart by their processor ids. -/
structure Separated (conf : Conf Rid Id) (s : State Pid Cid Rid Id) : Prop where
  pool       : ∀ prio r, r ∈ s.rq prio → InPool conf s r ∧ prio < maxPrio
  context    : ∀ k r, r ∈ s.queue (.context k) → InContext conf s r
  held       : ∀ k r, s.contextHolds k = some r → InContext conf s r
  registered : ∀ i r, s.idCr i = some r → Assigned conf s r
  callers    : ∀ c, CallerKnows conf s (s.callers c)

/-- No processor id that was assigned changes. -/
def Keeps (conf : Conf Rid Id) (s s' : State Pid Cid Rid Id) : Prop :=
  ∀ r, Assigned conf s r → s'.processorId r = s.processorId r

theorem Keeps.assigned (h : Keeps conf s s') {r : Rid} (hr : Assigned conf s r) :
    Assigned conf s' r := by
  intro task htask
  rw [h r hr]
  exact hr task htask

theorem Keeps.inPool (h : Keeps conf s s') {r : Rid} (hr : InPool conf s r) :
    InPool conf s' r := by
  refine ⟨h.assigned hr.1, ?_⟩
  rw [h r hr.1]
  exact hr.2

theorem Keeps.inContext (h : Keeps conf s s') {r : Rid} (hr : InContext conf s r) :
    InContext conf s' r := by
  refine ⟨h.assigned hr.1, ?_⟩
  rw [h r hr.1]
  exact hr.2

theorem Keeps.knows (h : Keeps conf s s') {pc : CallerPc Rid Id} (hpc : CallerKnows conf s pc) :
    CallerKnows conf s' pc := by
  cases pc with
  | register r => exact h.assigned hpc
  | choose r => exact h.assigned hpc
  | notify r => exact h.assigned hpc
  | insertContext r k => exact h.inContext hpc
  | insertPool r prio => exact ⟨h.inPool hpc.1, hpc.2⟩
  | acquire i q r =>
    cases q with
    | context k => exact h.inContext hpc
    | pool prio => trivial
  | eraseQueue i q r =>
    cases q with
    | context k => exact h.inContext hpc
    | pool prio => trivial
  | release i q r =>
    cases q with
    | context k => exact h.inContext hpc
    | pool prio => trivial
  | _ => trivial

/-- The pool has no routine of a context. -/
theorem Separated.not_mem (h : Separated conf s) {r : Rid} (hr : InContext conf s r) (prio : Nat) :
    r ∉ s.rq prio := fun hmem => (h.pool prio r hmem).1.2 hr.2

/-- A step of no caller. -/
theorem Separated.frame (h : Separated conf s) (hkeeps : Keeps conf s s') (hrq : s'.rq = s.rq)
    (hcontexts : s'.contexts = s.contexts)
    (hheld : ∀ k r, s'.contextHolds k = some r → s.contextHolds k = some r ∨
      r ∈ s.queue (.context k)) (hidCr : s'.idCr = s.idCr) (hcallers : s'.callers = s.callers) :
    Separated conf s' := by
  constructor
  · intro prio r hr
    rw [hrq] at hr
    exact ⟨hkeeps.inPool (h.pool prio r hr).1, (h.pool prio r hr).2⟩
  · intro k r hr
    have hr' : r ∈ (s'.contexts k).crQueue.map Prod.snd := hr
    rw [hcontexts] at hr'
    exact hkeeps.inContext (h.context k r hr')
  · intro k r hr
    rcases hheld k r hr with hold | hnew
    · exact hkeeps.inContext (h.held k r hold)
    · exact hkeeps.inContext (h.context k r hnew)
  · intro i r hr
    rw [hidCr] at hr
    exact hkeeps.assigned (h.registered i r hr)
  · intro c
    rw [hcallers]
    exact hkeeps.knows (h.callers c)

/-- A step of no caller that touches no queue and no processor id. -/
theorem Separated.same (h : Separated conf s) (hprocessorId : s'.processorId = s.processorId)
    (hrq : s'.rq = s.rq) (hcontexts : s'.contexts = s.contexts)
    (hheld : s'.contextHolds = s.contextHolds) (hidCr : s'.idCr = s.idCr)
    (hcallers : s'.callers = s.callers) : Separated conf s' := by
  refine h.frame (fun r _ => congrFun hprocessorId r) hrq hcontexts ?_ hidCr hcallers
  intro k r hr
  rw [hheld] at hr
  exact Or.inl hr

variable [DecidableEq Cid]

/-- A caller moves. -/
theorem Separated.caller (h : Separated conf s) {c : Cid} {pc : CallerPc Rid Id}
    (hcallers : s'.callers = Function.update s.callers c pc) (hkeeps : Keeps conf s s')
    (hrq : ∀ prio r, r ∈ s'.rq prio → r ∈ s.rq prio ∨ InPool conf s r ∧ prio < maxPrio)
    (hcontext : ∀ k r, r ∈ s'.queue (.context k) → r ∈ s.queue (.context k) ∨ InContext conf s r)
    (hheld : s'.contextHolds = s.contextHolds)
    (hidCr : ∀ i r, s'.idCr i = some r → s.idCr i = some r ∨ Assigned conf s r)
    (hknows : CallerKnows conf s' pc) : Separated conf s' := by
  constructor
  · intro prio r hr
    rcases hrq prio r hr with hold | hnew
    · exact ⟨hkeeps.inPool (h.pool prio r hold).1, (h.pool prio r hold).2⟩
    · exact ⟨hkeeps.inPool hnew.1, hnew.2⟩
  · intro k r hr
    rcases hcontext k r hr with hold | hnew
    · exact hkeeps.inContext (h.context k r hold)
    · exact hkeeps.inContext hnew
  · intro k r hr
    rw [hheld] at hr
    exact hkeeps.inContext (h.held k r hr)
  · intro i r hr
    rcases hidCr i r hr with hold | hnew
    · exact hkeeps.assigned (h.registered i r hold)
    · exact hkeeps.assigned hnew
  · intro d
    rw [hcallers]
    by_cases hd : d = c
    · rw [hd, Function.update_self]
      exact hknows
    · rw [Function.update_of_ne hd]
      exact hkeeps.knows (h.callers d)

/-- A caller moves and changes no queue. -/
theorem Separated.callerMove (h : Separated conf s) {c : Cid} {pc : CallerPc Rid Id}
    (hcallers : s'.callers = Function.update s.callers c pc)
    (hprocessorId : s'.processorId = s.processorId) (hrq : s'.rq = s.rq)
    (hcontexts : s'.contexts = s.contexts) (hheld : s'.contextHolds = s.contextHolds)
    (hidCr : s'.idCr = s.idCr) (hknows : CallerKnows conf s pc) : Separated conf s' := by
  have hkeeps : Keeps conf s s' := fun r _ => congrFun hprocessorId r
  refine h.caller hcallers hkeeps ?_ ?_ hheld ?_ (hkeeps.knows hknows)
  · intro prio r hr
    rw [hrq] at hr
    exact Or.inl hr
  · intro k r hr
    have hr' : r ∈ (s'.contexts k).crQueue.map Prod.snd := hr
    rw [hcontexts] at hr'
    exact Or.inl hr'
  · intro i r hr
    rw [hidCr] at hr
    exact Or.inl hr

end separation

section separation_steps
variable {conf : Conf Rid Id} {s s' : State Pid Cid Rid Id} {r : Rid}

theorem keeps_assign [DecidableEq Rid] {task : ChoreographyTask}
    (htask : conf.crConf r = some task) (hprocessorId : s'.processorId =
      Function.update s.processorId r (task.processor.getD (s.processorId r))) :
    Keeps conf s s' ∧ Assigned conf s' r := by
  refine ⟨?_, ?_⟩
  · intro x hx
    rw [hprocessorId]
    by_cases hxr : x = r
    · subst hxr
      rw [Function.update_self]
      exact hx task htask
    · rw [Function.update_of_ne hxr]
  · intro task' htask'
    rw [htask] at htask'
    cases htask'
    rw [hprocessorId, Function.update_self]
    cases task.processor with
    | none => rfl
    | some pid => rfl

theorem mem_enqueue {ctx : ChoreographyContext Rid} {prio : Nat} {x : Rid}
    (hx : x ∈ (ctx.enqueue prio r).crQueue.map Prod.snd) :
    x ∈ ctx.crQueue.map Prod.snd ∨ x = r := by
  have hx' : x ∈ (ctx.crQueue.takeWhile (fun y => prio ≤ y.1) ++
      (prio, r) :: ctx.crQueue.dropWhile (fun y => prio ≤ y.1)).map Prod.snd := hx
  rw [List.map_append, List.map_cons, List.mem_append, List.mem_cons] at hx'
  rcases hx' with hbefore | hself | hafter
  · exact Or.inl (List.map_subset Prod.snd (List.takeWhile_sublist _).subset hbefore)
  · exact Or.inr hself
  · exact Or.inl (List.map_subset Prod.snd (List.dropWhile_sublist _).subset hafter)

/-- What is left in the queues after a removal was there before. -/
theorem mem_eraseQueue [DecidableEq Id] {i : Id} {q q' : Queue}
    (hr : r ∈ (s.eraseQueue conf.id i q).queue q') : r ∈ s.queue q' := by
  cases q with
  | context k =>
    cases q' with
    | context k' =>
      have hr' : r ∈ (Function.update s.contexts k
        ((s.contexts k).removeCRoutine conf.id i) k').crQueue.map Prod.snd := hr
      by_cases hk : k' = k
      · subst hk
        rw [Function.update_self] at hr'
        exact List.map_subset Prod.snd List.eraseP_subset hr'
      · rw [Function.update_of_ne hk] at hr'
        exact hr'
    | pool prio => exact hr
  | pool prio =>
    cases q' with
    | context k => exact hr
    | pool prio' =>
      have hr' : r ∈ Function.update s.rq prio ((s.rq prio).eraseP fun x => conf.id x = i) prio' :=
        hr
      by_cases hprio : prio' = prio
      · subst hprio
        rw [Function.update_self] at hr'
        exact List.eraseP_subset hr'
      · rw [Function.update_of_ne hprio] at hr'
        exact hr'

/-- The context of a processor takes a routine of its queue. -/
theorem Separated.contextAcquire (h : Separated conf s) {k : Nat}
    (hr : r ∈ s.queue (.context k))
    (hheld : s'.contextHolds = Function.update s.contextHolds k (some r))
    (hprocessorId : s'.processorId = s.processorId) (hrq : s'.rq = s.rq)
    (hcontexts : s'.contexts = s.contexts) (hidCr : s'.idCr = s.idCr)
    (hcallers : s'.callers = s.callers) : Separated conf s' := by
  refine h.frame (fun x _ => congrFun hprocessorId x) hrq hcontexts ?_ hidCr hcallers
  intro k' r' hr'
  rw [hheld] at hr'
  obtain ⟨hk, hnew⟩ | ⟨_, hold⟩ := update_cases hr'
  · subst hk
    cases hnew
    exact Or.inr hr
  · exact Or.inl hold

theorem Separated.contextRelease (h : Separated conf s) {k : Nat}
    (hheld : s'.contextHolds = Function.update s.contextHolds k none)
    (hprocessorId : s'.processorId = s.processorId) (hrq : s'.rq = s.rq)
    (hcontexts : s'.contexts = s.contexts) (hidCr : s'.idCr = s.idCr)
    (hcallers : s'.callers = s.callers) : Separated conf s' := by
  refine h.frame (fun x _ => congrFun hprocessorId x) hrq hcontexts ?_ hidCr hcallers
  intro k' r' hr'
  rw [hheld] at hr'
  obtain ⟨_, hnone⟩ | ⟨_, hold⟩ := update_cases hr'
  · cases hnone
  · exact Or.inl hold

theorem knows_afterErase {i : Id} :
    CallerKnows conf s' (s.afterErase conf i r) := by
  unfold State.afterErase
  split
  · split <;> trivial
  · split <;> trivial

variable [DecidableEq Cid] {c : Cid}

/-- The routine of a call is entered for its id. -/
theorem Separated.register [DecidableEq Id] (h : Separated conf s) (hr : Assigned conf s r) :
    Separated conf { s.setCaller c (.choose r) with
      idCr := Function.update s.idCr (conf.id r) (some r) } := by
  refine h.caller rfl (fun _ _ => rfl) (fun _ _ => Or.inl) (fun _ _ => Or.inl) rfl ?_ hr
  intro i x hx
  obtain ⟨_, hnew⟩ | ⟨_, hold⟩ := update_cases hx
  · cases hnew
    exact Or.inr hr
  · exact Or.inl hold

theorem Separated.insertContext (h : Separated conf s) (hr : InContext conf s r) (k : Nat) :
    Separated conf ((s.setCaller c (.unlockDispatch r)).setContext k
      ((s.contexts k).enqueue (s.priority r) r)) := by
  refine h.caller rfl (fun _ _ => rfl) (fun _ _ => Or.inl) ?_ rfl (fun _ _ => Or.inl) trivial
  intro k' x hx
  have hx' : x ∈ (Function.update s.contexts k
    ((s.contexts k).enqueue (s.priority r) r) k').crQueue.map Prod.snd := hx
  by_cases hk : k' = k
  · subst hk
    rw [Function.update_self] at hx'
    rcases mem_enqueue hx' with hold | hnew
    · exact Or.inl hold
    · subst hnew
      exact Or.inr hr
  · rw [Function.update_of_ne hk] at hx'
    exact Or.inl hx'

theorem Separated.insertPool (h : Separated conf s) {prio : Nat}
    (hr : InPool conf s r ∧ prio < maxPrio) :
    Separated conf { s.setCaller c (.unlockDispatch r) with
      rq := Function.update s.rq prio (s.rq prio ++ [r]) } := by
  refine h.caller rfl (fun _ _ => rfl) ?_ (fun _ _ => Or.inl) rfl (fun _ _ => Or.inl) trivial
  intro prio' x hx
  have hx' : x ∈ Function.update s.rq prio (s.rq prio ++ [r]) prio' := hx
  by_cases hprio : prio' = prio
  · subst hprio
    rw [Function.update_self, List.mem_append, List.mem_singleton] at hx'
    rcases hx' with hold | hnew
    · exact Or.inl hold
    · subst hnew
      exact Or.inr hr
  · rw [Function.update_of_ne hprio] at hx'
    exact Or.inl hx'

/-- The flag of a context is raised. Its queue stays as it is. -/
theorem Separated.notifyContext (h : Separated conf s) (k : Nat) :
    Separated conf ((s.setCaller c .idle).setContext k (s.contexts k).notify) := by
  refine h.caller rfl (fun _ _ => rfl) (fun _ _ => Or.inl) ?_ rfl (fun _ _ => Or.inl) trivial
  intro k' x hx
  have hx' : x ∈ (Function.update s.contexts k (s.contexts k).notify k').crQueue.map Prod.snd := hx
  by_cases hk : k' = k
  · subst hk
    rw [Function.update_self] at hx'
    exact Or.inl hx'
  · rw [Function.update_of_ne hk] at hx'
    exact Or.inl hx'

/-- `RemoveCRoutine` takes the routine of an id out of the registry. -/
theorem Separated.erase [DecidableEq Rid] [DecidableEq Id] (h : Separated conf s) (i : Id) :
    Separated conf { (s.setCaller c (s.afterErase conf i r)).setStopped r with
      idCr := Function.update s.idCr i none } := by
  refine h.caller rfl (fun _ _ => rfl) (fun _ _ => Or.inl) (fun _ _ => Or.inl) rfl ?_
    knows_afterErase
  intro j x hx
  obtain ⟨_, hnone⟩ | ⟨_, hold⟩ := update_cases hx
  · cases hnone
  · exact Or.inl hold

theorem Separated.eraseQueue [DecidableEq Id] (h : Separated conf s) {i : Id} {q : Queue}
    (hr : CallerKnows conf s (.eraseQueue i q r)) :
    Separated conf ((s.setCaller c (.release i q r)).eraseQueue conf.id i q) := by
  have hqueue (q' : Queue) (x : Rid) (hx : x ∈ (s.eraseQueue conf.id i q).queue q') :
      x ∈ s.queue q' := mem_eraseQueue hx
  cases q with
  | context k =>
    exact h.caller rfl (fun _ _ => rfl) (fun _ _ => Or.inl)
      (fun k' x hx => Or.inl (hqueue (.context k') x hx)) rfl (fun _ _ => Or.inl) hr
  | pool prio =>
    exact h.caller rfl (fun _ _ => rfl) (fun prio' x hx => Or.inl (hqueue (.pool prio') x hx))
      (fun _ _ => Or.inl) rfl (fun _ _ => Or.inl) trivial

variable [DecidableEq Pid] [DecidableEq Rid] [DecidableEq Id]

/-- **Step lemma** for the separation. -/
theorem Separated.step (a : Label Pid Cid Rid Id) (h : Separated conf s)
    (hg : ((choreographyPool conf).action a).gate s) :
    Separated conf (((choreographyPool conf).action a).effect s) := by
  have hknows {c : Cid} {pc : CallerPc Rid Id} (hpc : s.callers c = pc) : CallerKnows conf s pc :=
    hpc ▸ h.callers c
  cases a with
  -- the steps that change neither a queue nor a caller
  | nextRoutineStopped | nextRoutine | readQueue | leaveQueue | acquire | acquireFail
  | updateState | release | setState | swapOut | releaseResumed | timeout | contextSetState
  | schedulerStop | stop | exchange | notifyAll =>
    exact h.same rfl rfl rfl rfl rfl rfl
  | run p =>
    dsimp only [choreographyPool]
    split <;> exact h.same rfl rfl rfl rfl rfl rfl
  | resume p r =>
    dsimp only [choreographyPool]
    split
    · exact h.same rfl rfl rfl rfl rfl rfl
    · split <;> exact h.same rfl rfl rfl rfl rfl rfl
  | nextRoutineWait p expired =>
    dsimp only [choreographyPool]
    split
    · exact h
    · exact h.same rfl rfl rfl rfl rfl rfl
  | contextAcquire k r expired => exact h.contextAcquire hg.1 rfl rfl rfl rfl rfl rfl
  | contextRelease k r => exact h.contextRelease rfl rfl rfl rfl rfl rfl
  -- the steps of a caller that then knows nothing of a routine
  | dispatchTask | lockDispatch | unlockDispatch | removeCRoutine | lockRemove | lockQueue
  | releaseRemove | unlockQueue | unlockRemove =>
    exact h.callerMove rfl rfl rfl rfl rfl rfl trivial
  | assign c r =>
    dsimp only [choreographyPool]
    split
    · next hnone =>
      refine h.callerMove rfl rfl rfl rfl rfl rfl ?_
      intro task htask
      rw [hnone] at htask
      cases htask
    · next task htask =>
      exact h.caller rfl (keeps_assign htask rfl).1 (fun _ _ => Or.inl) (fun _ _ => Or.inl) rfl
        (fun _ _ => Or.inl) (keeps_assign htask rfl).2
  | register c r =>
    dsimp only [choreographyPool]
    split
    · exact h.callerMove rfl rfl rfl rfl rfl rfl trivial
    · exact h.register (hknows hg)
  | choose c r =>
    dsimp only [choreographyPool]
    split
    · next hlt => exact h.callerMove rfl rfl rfl rfl rfl rfl ⟨hknows hg, hlt⟩
    · next hlt =>
      refine h.callerMove rfl rfl rfl rfl rfl rfl ⟨⟨hknows hg, hlt⟩, ?_⟩
      exact Nat.lt_of_le_of_lt (Nat.min_le_right _ _) (by decide)
  | insertContext c r k => exact h.insertContext (hknows hg.1) k
  | insertPool c r prio => exact h.insertPool (hknows hg.1)
  | notifyProcessor c i =>
    dsimp only [choreographyPool]
    split
    · exact h
    · exact h.callerMove rfl rfl rfl rfl rfl rfl trivial
  | find c i =>
    dsimp only [choreographyPool]
    split
    · exact h.callerMove rfl rfl rfl rfl rfl rfl trivial
    · next r hr => exact h.callerMove rfl rfl rfl rfl rfl rfl (h.registered i r hr)
  | notifyContext c r =>
    dsimp only [choreographyPool]
    split
    · exact h.notifyContext _
    · exact h.callerMove rfl rfl rfl rfl rfl rfl trivial
  | notifyOne c r p =>
    cases p with
    | none => exact h.callerMove rfl rfl rfl rfl rfl rfl trivial
    | some p => exact h.callerMove rfl rfl rfl rfl rfl rfl trivial
  | erase c i =>
    dsimp only [choreographyPool]
    split
    · exact h.callerMove rfl rfl rfl rfl rfl rfl trivial
    · exact h.erase i
  | search c i q =>
    dsimp only [choreographyPool]
    split
    · exact h.callerMove rfl rfl rfl rfl rfl rfl trivial
    · next r hr =>
      refine h.callerMove rfl rfl rfl rfl rfl rfl ?_
      cases q with
      | context k => exact h.context k r (List.mem_of_find?_eq_some hr)
      | pool prio => trivial
  | acquireRemove c i q r =>
    have hold : CallerKnows conf s (.acquire i q r) := hknows hg.1
    refine h.callerMove rfl rfl rfl rfl rfl rfl ?_
    cases q with
    | context k => exact hold
    | pool prio => trivial
  | eraseQueue c i q r => exact h.eraseQueue (hknows hg)

end separation_steps

/-! ## Section 2: Acquired routines -/

section acquired
variable {s s' : State Pid Cid Rid Id}

/-- The routine a processor of the pool, that of a context, or a caller has
    acquired. -/
def State.holder (s : State Pid Cid Rid Id) : Pid ⊕ (Nat ⊕ Cid) → Option Rid
  | .inl p        => (s.processors p).pc.holds
  | .inr (.inl k) => s.contextHolds k
  | .inr (.inr c) => (s.callers c).holds

theorem woken_holds (x : Processor Rid) : x.woken.pc.holds = x.pc.holds := by
  unfold Processor.woken
  split
  · next h => rw [h]; rfl
  · next h => rw [h]; rfl
  · rfl

theorem woken_ne_blocked (x : Processor Rid) : x.woken.pc ≠ .blocked := by
  unfold Processor.woken
  split
  · nofun
  · nofun
  · next h _ => exact h

section processor
variable [DecidableEq Pid] {p : Pid} (x : Processor Rid)

theorem holder_processor (hprocessors : s'.processors = Function.update s.processors p x)
    (hcontexts : s'.contextHolds = s.contextHolds) (hcallers : s'.callers = s.callers)
    (y : Pid ⊕ (Nat ⊕ Cid)) (hy : y ≠ .inl p) : s'.holder y = s.holder y := by
  match y with
  | .inl q =>
    have hq : q ≠ p := fun heq => hy (heq ▸ rfl)
    show (s'.processors q).pc.holds = (s.processors q).pc.holds
    rw [hprocessors, Function.update_of_ne hq]
  | .inr (.inl k) => exact congrFun hcontexts k
  | .inr (.inr c) =>
    show (s'.callers c).holds = (s.callers c).holds
    rw [hcallers]

theorem holder_processor_self (hprocessors : s'.processors = Function.update s.processors p x) :
    s'.holder (.inl p) = x.pc.holds := by
  show (s'.processors p).pc.holds = x.pc.holds
  rw [hprocessors, Function.update_self]

/-- A processor moves with what it has acquired. -/
theorem taken_processorMove (h : Taken s.locked s.holder)
    (hprocessors : s'.processors = Function.update s.processors p x)
    (hholds : x.pc.holds = (s.processors p).pc.holds)
    (hcontexts : s'.contextHolds = s.contextHolds) (hcallers : s'.callers = s.callers)
    (hlocked : s'.locked = s.locked) : Taken s'.locked s'.holder := by
  rw [hlocked]
  apply h.frame
  intro y
  by_cases hy : y = .inl p
  · rw [hy, holder_processor_self x hprocessors, hholds]
    rfl
  · exact holder_processor x hprocessors hcontexts hcallers y hy

end processor

section context
variable {k : Nat} (held : Option Rid)

theorem holder_context (hcontexts : s'.contextHolds = Function.update s.contextHolds k held)
    (hprocessors : s'.processors = s.processors) (hcallers : s'.callers = s.callers)
    (y : Pid ⊕ (Nat ⊕ Cid)) (hy : y ≠ .inr (.inl k)) : s'.holder y = s.holder y := by
  match y with
  | .inl q =>
    show (s'.processors q).pc.holds = (s.processors q).pc.holds
    rw [hprocessors]
  | .inr (.inl j) =>
    have hj : j ≠ k := fun heq => hy (heq ▸ rfl)
    show s'.contextHolds j = s.contextHolds j
    rw [hcontexts, Function.update_of_ne hj]
  | .inr (.inr c) =>
    show (s'.callers c).holds = (s.callers c).holds
    rw [hcallers]

end context

section caller
variable [DecidableEq Cid] {c : Cid} (pc : CallerPc Rid Id)

theorem holder_caller (hcallers : s'.callers = Function.update s.callers c pc)
    (hprocessors : s'.processors = s.processors) (hcontexts : s'.contextHolds = s.contextHolds)
    (y : Pid ⊕ (Nat ⊕ Cid)) (hy : y ≠ .inr (.inr c)) : s'.holder y = s.holder y := by
  match y with
  | .inl q =>
    show (s'.processors q).pc.holds = (s.processors q).pc.holds
    rw [hprocessors]
  | .inr (.inl k) => exact congrFun hcontexts k
  | .inr (.inr d) =>
    have hd : d ≠ c := fun heq => hy (heq ▸ rfl)
    show (s'.callers d).holds = (s.callers d).holds
    rw [hcallers, Function.update_of_ne hd]

theorem holder_caller_self (hcallers : s'.callers = Function.update s.callers c pc) :
    s'.holder (.inr (.inr c)) = pc.holds := by
  show (s'.callers c).holds = pc.holds
  rw [hcallers, Function.update_self]

/-- A caller moves with what it has acquired. -/
theorem taken_callerMove (h : Taken s.locked s.holder)
    (hcallers : s'.callers = Function.update s.callers c pc)
    (hholds : pc.holds = (s.callers c).holds) (hprocessors : s'.processors = s.processors)
    (hcontexts : s'.contextHolds = s.contextHolds) (hlocked : s'.locked = s.locked) :
    Taken s'.locked s'.holder := by
  rw [hlocked]
  apply h.frame
  intro y
  by_cases hy : y = .inr (.inr c)
  · rw [hy, holder_caller_self pc hcallers, hholds]
    rfl
  · exact holder_caller pc hcallers hprocessors hcontexts y hy

end caller

end acquired

section acquired_steps
variable [DecidableEq Pid] [DecidableEq Cid] [DecidableEq Rid] [DecidableEq Id]
  {conf : Conf Rid Id} {s : State Pid Cid Rid Id}

/-- **Step lemma** for the acquired routines. -/
theorem taken_step (a : Label Pid Cid Rid Id) (h : Taken s.locked s.holder)
    (hg : ((choreographyPool conf).action a).gate s) :
    Taken (((choreographyPool conf).action a).effect s).locked
      (((choreographyPool conf).action a).effect s).holder := by
  have hfrom {p : Pid} {pc : ProcessorPc Rid} {held : Option Rid} (hpc : (s.processors p).pc = pc)
      (hheld : held = pc.holds) : held = (s.processors p).pc.holds := by
    rw [hpc, hheld]
  have hcaller {c : Cid} {pc : CallerPc Rid Id} {held : Option Rid} (hpc : s.callers c = pc)
      (hheld : held = pc.holds) : held = (s.callers c).holds := by
    rw [hpc, hheld]
  cases a with
  -- the steps in which nobody acquires or releases a routine
  | nextRoutineStopped | nextRoutine | readQueue | acquireFail =>
    exact taken_processorMove _ h rfl (hfrom hg.1 rfl) rfl rfl rfl
  | leaveQueue | swapOut => exact taken_processorMove _ h rfl (hfrom hg rfl) rfl rfl rfl
  | stop | exchange => exact taken_processorMove _ h rfl rfl rfl rfl rfl
  | setState | contextSetState | schedulerStop => exact h.frame fun _ => rfl
  | lockDispatch | insertContext | insertPool | lockRemove | lockQueue =>
    exact taken_callerMove _ h rfl (hcaller hg.1 rfl) rfl rfl rfl
  | dispatchTask | unlockDispatch | removeCRoutine | unlockQueue | unlockRemove =>
    exact taken_callerMove _ h rfl (hcaller hg rfl) rfl rfl rfl
  | run p =>
    dsimp only [choreographyPool]
    split
    · exact taken_processorMove _ h rfl (hfrom hg rfl) rfl rfl rfl
    · exact taken_processorMove _ h rfl (hfrom hg rfl) rfl rfl rfl
  | acquire p i rest r =>
    have hnone : s.holder (.inl p) = none := (hfrom hg.1 rfl).symm
    refine h.acquire (h := .inl p) hnone ?_ ?_
    · exact holder_processor_self { s.processors p with pc := .update i rest r } rfl
    · exact holder_processor { s.processors p with pc := .update i rest r } rfl rfl rfl
  | updateState p i rest r expired =>
    refine taken_processorMove _ h rfl (hfrom hg ?_) rfl rfl rfl
    show (if _ then ProcessorPc.resume r else .release i rest r).holds = _
    split <;> rfl
  | release p i rest r =>
    have hheld : s.holder (.inl p) = some r := (hfrom hg rfl).symm
    exact h.release hheld (holder_processor _ rfl rfl rfl)
  | resume p r =>
    dsimp only [choreographyPool]
    split
    · exact taken_processorMove _ h rfl (hfrom hg rfl) rfl rfl rfl
    · split
      · exact taken_processorMove _ h rfl (hfrom hg rfl) rfl rfl rfl
      · exact taken_processorMove _ h rfl (hfrom hg rfl) rfl rfl rfl
  | releaseResumed p r =>
    have hheld : s.holder (.inl p) = some r := (hfrom hg rfl).symm
    exact h.release hheld (holder_processor _ rfl rfl rfl)
  | nextRoutineWait p expired =>
    dsimp only [choreographyPool]
    split
    · exact h
    · refine taken_processorMove _ h rfl (hfrom hg.1 ?_) rfl rfl rfl
      show (if _ then ProcessorPc.timedBlocked else .blocked).holds = _
      split <;> rfl
  | timeout p => exact taken_processorMove _ h rfl (woken_holds _) rfl rfl rfl
  | contextAcquire k r expired =>
    refine h.acquire (h := .inr (.inl k)) hg.2.2 ?_ ?_
    · exact Function.update_self ..
    · exact holder_context (some r) rfl rfl rfl
  | contextRelease k r => exact h.release (h := .inr (.inl k)) hg (holder_context none rfl rfl rfl)
  | assign c r =>
    dsimp only [choreographyPool]
    split
    · exact taken_callerMove _ h rfl (hcaller hg rfl) rfl rfl rfl
    · exact taken_callerMove _ h rfl (hcaller hg rfl) rfl rfl rfl
  | register c r =>
    dsimp only [choreographyPool]
    split
    · exact taken_callerMove _ h rfl (hcaller hg rfl) rfl rfl rfl
    · exact taken_callerMove _ h rfl (hcaller hg rfl) rfl rfl rfl
  | choose c r =>
    dsimp only [choreographyPool]
    split
    · exact taken_callerMove _ h rfl (hcaller hg rfl) rfl rfl rfl
    · exact taken_callerMove _ h rfl (hcaller hg rfl) rfl rfl rfl
  | notifyProcessor c i =>
    dsimp only [choreographyPool]
    split
    · exact h
    · exact taken_callerMove _ h rfl (hcaller hg rfl) rfl rfl rfl
  | find c i =>
    dsimp only [choreographyPool]
    split
    · exact taken_callerMove _ h rfl (hcaller hg rfl) rfl rfl rfl
    · exact taken_callerMove _ h rfl (hcaller hg rfl) rfl rfl rfl
  | notifyContext c r =>
    dsimp only [choreographyPool]
    split
    · exact taken_callerMove _ h rfl (hcaller hg.1 rfl) rfl rfl rfl
    · exact taken_callerMove _ h rfl (hcaller hg.1 rfl) rfl rfl rfl
  | notifyOne c r p =>
    have hmove : Taken (s.setCaller c .idle).locked (s.setCaller c .idle).holder :=
      taken_callerMove .idle h rfl (hcaller hg.1 rfl) rfl rfl rfl
    cases p with
    | none => exact hmove
    | some p =>
      exact taken_processorMove (s := s.setCaller c .idle) _ hmove rfl (woken_holds _) rfl rfl rfl
  | erase c i =>
    dsimp only [choreographyPool]
    split
    · exact taken_callerMove _ h rfl (hcaller hg rfl) rfl rfl rfl
    · next r hr =>
      refine taken_callerMove _ h rfl (hcaller hg ?_) rfl rfl rfl
      unfold State.afterErase
      split
      · split <;> rfl
      · split <;> rfl
  | search c i q =>
    dsimp only [choreographyPool]
    split
    · exact taken_callerMove _ h rfl (hcaller hg rfl) rfl rfl rfl
    · exact taken_callerMove _ h rfl (hcaller hg rfl) rfl rfl rfl
  | acquireRemove c i q r =>
    have hnone : s.holder (.inr (.inr c)) = none := (hcaller hg.1 rfl).symm
    refine h.acquire (h := .inr (.inr c)) hnone ?_ ?_
    · exact holder_caller_self (.eraseQueue i q r) rfl
    · exact holder_caller (.eraseQueue i q r) rfl rfl rfl
  | eraseQueue c i q r =>
    cases q with
    | context k => exact taken_callerMove _ h rfl (hcaller hg rfl) rfl rfl rfl
    | pool prio => exact taken_callerMove _ h rfl (hcaller hg rfl) rfl rfl rfl
  | releaseRemove c i q r =>
    have hheld : s.holder (.inr (.inr c)) = some r := (hcaller hg rfl).symm
    exact h.release hheld (holder_caller _ rfl rfl rfl)
  | notifyAll p =>
    apply h.frame
    intro y
    match y with
    | .inl q => exact woken_holds (s.processors q)
    | .inr (.inl k) => rfl
    | .inr (.inr c) => rfl

end acquired_steps

end CyberRT.Scheduler.ChoreographyPool
