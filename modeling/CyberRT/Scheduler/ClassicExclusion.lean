import CyberRT.Framework.TryLock
import CyberRT.Scheduler.RegistryQueues
import Mathlib.Data.Fintype.Basic

/-! # Exclusion of the classic scheduler

    A processor scans a queue under its read lock, so what it still has to
    scan stays in the queue, and so does what it has acquired: a routine is
    taken out of its queue by a call that has acquired it. After that no
    processor has it, and if it is dispatched again `Resume` finds it
    stopped. -/

namespace CyberRT.Scheduler.SchedulerClassic

open CyberRT.Framework CyberRT.Croutine

variable {Pid Cid Rid Id G : Type}

/-! ## Section 1: The property -/

/-- **Property**: the registry and the run queues agree where no call works,
    a routine is acquired once, and a removed routine is not resumed; while
    it is in no queue, no processor has it at all. -/
structure Sound [DecidableEq Id] [DecidableEq G] (conf : Conf Pid Rid Id G)
    (s : State Pid Cid Rid Id G) : Prop where
  registry  : ∀ i, (∀ c, (s.callers c).works conf.id ≠ some i) → RegistryAgrees conf s i
  exclusive : ∀ p q r, (s.processors p).holds = some r → (s.processors q).holds = some r → p = q
  removed   : ∀ r, s.removed r = true → ∀ p, s.processors p ≠ .running r ∧
    ((∀ g prio, r ∉ s.rq g prio) → (s.processors p).holds ≠ some r)

/-! ## Section 2: Acquired routines -/

section acquired
variable {conf : Conf Pid Rid Id G} {s s' : State Pid Cid Rid Id G}

/-- The routine a processor or a caller has acquired. -/
def State.holder (s : State Pid Cid Rid Id G) : Pid ⊕ Cid → Option Rid
  | .inl p => (s.processors p).holds
  | .inr c => (s.callers c).holds

/-- The routines a scan has still to come to. -/
def ProcessorPc.rest : ProcessorPc Rid → List Rid
  | .scan _ rest | .update _ rest _ | .release _ rest _ => rest
  | _ => []

/-- What a processor at `pc` may have in hand of the queues of its group. -/
structure InHand (rq : Nat → List Rid) (pc : ProcessorPc Rid) : Prop where
  rest  : ∀ prio r, pc.reads = some prio → r ∈ pc.rest → r ∈ rq prio
  holds : ∀ r, pc.holds = some r → ∃ prio, r ∈ rq prio

/-- **Invariant**: the lock flags are set by their holders, no call writes
    a queue that is read, what a processor has in hand is in a queue, and a
    removed routine is stopped and does not run. -/
structure RunInv (conf : Conf Pid Rid Id G) (s : State Pid Cid Rid Id G) : Prop where
  locks   : TryLocks s.locked s.holder
  readers : ∀ p c prio, (s.processors p).reads = some prio →
    (s.callers c).writes ≠ some (conf.group p, prio)
  inHand  : ∀ p, InHand (s.rq (conf.group p)) (s.processors p)
  removed : ∀ r, s.removed r = true →
    s.forceStop r = true ∧ ∀ p, s.processors p ≠ .running r

section processors
variable [DecidableEq Pid]

/-- A processor moves. -/
theorem RunInv.processor (h : RunInv conf s) {p : Pid} {pc : ProcessorPc Rid}
    (hprocessors : s'.processors = Function.update s.processors p pc)
    (hlocks : TryLocks s'.locked s'.holder)
    (hcallers : s'.callers = s.callers) (hrq : s'.rq = s.rq) (hstop : s'.forceStop = s.forceStop)
    (hremoved : s'.removed = s.removed)
    (hreads : ∀ prio, pc.reads = some prio →
      ∀ c, (s.callers c).writes ≠ some (conf.group p, prio))
    (hinHand : InHand (s.rq (conf.group p)) pc)
    (hrunning : ∀ r, pc = .running r → s.forceStop r = false) : RunInv conf s' := by
  refine ⟨hlocks, ?_, ?_, ?_⟩
  · intro q c prio hq
    rw [hprocessors] at hq
    rw [hcallers]
    by_cases hqp : q = p
    · subst hqp
      rw [Function.update_self] at hq
      exact hreads prio hq c
    · rw [Function.update_of_ne hqp] at hq
      exact h.readers q c prio hq
  · intro q
    rw [hprocessors, hrq]
    by_cases hqp : q = p
    · subst hqp
      rw [Function.update_self]
      exact hinHand
    · rw [Function.update_of_ne hqp]
      exact h.inHand q
  · -- a removed routine is stopped, and a processor resumes none that is
    intro r hr
    rw [hremoved] at hr
    obtain ⟨hstopped, hrun⟩ := h.removed r hr
    rw [hstop, hprocessors]
    refine ⟨hstopped, fun q => ?_⟩
    by_cases hqp : q = p
    · rw [hqp, Function.update_self]
      intro heq
      rw [hrunning r heq] at hstopped
      cases hstopped
    · rw [Function.update_of_ne hqp]
      exact hrun q

theorem holder_processor {p : Pid} (pc : ProcessorPc Rid)
    (hprocessors : s'.processors = Function.update s.processors p pc)
    (hcallers : s'.callers = s.callers) (x : Pid ⊕ Cid)
    (hx : x ≠ .inl p) : s'.holder x = s.holder x := by
  cases x with
  | inl q =>
    have hq : q ≠ p := fun heq => hx (heq ▸ rfl)
    show (s'.processors q).holds = (s.processors q).holds
    rw [hprocessors, Function.update_of_ne hq]
  | inr c =>
    show (s'.callers c).holds = (s.callers c).holds
    rw [hcallers]

theorem holder_processor_self {p : Pid} (pc : ProcessorPc Rid)
    (hprocessors : s'.processors = Function.update s.processors p pc) :
    s'.holder (.inl p) = pc.holds := by
  show (s'.processors p).holds = pc.holds
  rw [hprocessors, Function.update_self]

/-- A processor moves with what it has acquired. -/
theorem holder_processorMove {p : Pid} {pc pc' : ProcessorPc Rid} (hpc : s.processors p = pc)
    (hprocessors : s'.processors = Function.update s.processors p pc')
    (hcallers : s'.callers = s.callers) (hholds : pc'.holds = pc.holds) (x : Pid ⊕ Cid) :
    s'.holder x = s.holder x := by
  by_cases hx : x = .inl p
  · rw [hx, holder_processor_self pc' hprocessors, hholds, ← hpc]
    rfl
  · exact holder_processor pc' hprocessors hcallers x hx

/-- A processor moves on in its scan or leaves it, with what it has
    acquired before. -/
theorem RunInv.processorMove (h : RunInv conf s) {p : Pid} {pc pc' : ProcessorPc Rid}
    (hpc : s.processors p = pc) (hprocessors : s'.processors = Function.update s.processors p pc')
    (hholds : pc'.holds = pc.holds)
    (hreads : pc'.reads = none ∨ pc'.reads = pc.reads ∧ ∀ r ∈ pc'.rest, r ∈ pc.rest)
    (hrunning : ∀ r, pc' = .running r → s.forceStop r = false) (hlocked : s'.locked = s.locked)
    (hcallers : s'.callers = s.callers) (hrq : s'.rq = s.rq) (hstop : s'.forceStop = s.forceStop)
    (hremoved : s'.removed = s.removed) : RunInv conf s' := by
  have hold := h.inHand p
  rw [hpc] at hold
  refine h.processor hprocessors ?_ hcallers hrq hstop hremoved ?_ ⟨?_, ?_⟩ hrunning
  · rw [hlocked]
    exact h.locks.frame (holder_processorMove hpc hprocessors hcallers hholds)
  · intro prio hprio c
    rcases hreads with hnone | ⟨hsame, _⟩
    · rw [hnone] at hprio
      cases hprio
    · rw [hsame, ← hpc] at hprio
      exact h.readers p c prio hprio
  · intro prio r hprio hr
    rcases hreads with hnone | ⟨hsame, hrest⟩
    · rw [hnone] at hprio
      cases hprio
    · rw [hsame] at hprio
      exact hold.rest prio r hprio (hrest r hr)
  · intro r hr
    rw [hholds] at hr
    exact hold.holds r hr

end processors

section callers
variable [DecidableEq Cid]

/-- A caller moves, and takes nothing out of a queue that a processor has
    in hand. -/
theorem RunInv.caller (h : RunInv conf s) {c : Cid} {pc : CallerPc Rid Id G}
    (hcallers : s'.callers = Function.update s.callers c pc)
    (hlocks : TryLocks s'.locked s'.holder) (hprocessors : s'.processors = s.processors)
    (hwrites : ∀ p prio, (s.processors p).reads = some prio →
      pc.writes ≠ some (conf.group p, prio))
    (hinHand : ∀ p, InHand (s'.rq (conf.group p)) (s.processors p))
    (hstop : ∀ r, s.forceStop r = true → s'.forceStop r = true)
    (hremoved : ∀ r, s'.removed r = true → s.removed r = true ∨
      s'.forceStop r = true ∧ ∀ p, s.processors p ≠ .running r) : RunInv conf s' := by
  refine ⟨hlocks, ?_, ?_, ?_⟩
  · intro p d prio hp
    rw [hprocessors] at hp
    rw [hcallers]
    by_cases hd : d = c
    · rw [hd, Function.update_self]
      exact hwrites p prio hp
    · rw [Function.update_of_ne hd]
      exact h.readers p d prio hp
  · intro p
    rw [hprocessors]
    exact hinHand p
  · intro r hr
    rw [hprocessors]
    rcases hremoved r hr with hold | hnew
    · obtain ⟨hstopped, hrun⟩ := h.removed r hold
      exact ⟨hstop r hstopped, hrun⟩
    · exact hnew

theorem holder_caller {c : Cid} (pc : CallerPc Rid Id G)
    (hcallers : s'.callers = Function.update s.callers c pc)
    (hprocessors : s'.processors = s.processors) (x : Pid ⊕ Cid) (hx : x ≠ .inr c) :
    s'.holder x = s.holder x := by
  cases x with
  | inl p =>
    show (s'.processors p).holds = (s.processors p).holds
    rw [hprocessors]
  | inr d =>
    have hd : d ≠ c := fun heq => hx (heq ▸ rfl)
    show (s'.callers d).holds = (s.callers d).holds
    rw [hcallers, Function.update_of_ne hd]

theorem holder_caller_self {c : Cid} (pc : CallerPc Rid Id G)
    (hcallers : s'.callers = Function.update s.callers c pc) : s'.holder (.inr c) = pc.holds := by
  show (s'.callers c).holds = pc.holds
  rw [hcallers, Function.update_self]

/-- A caller moves with what it has acquired. -/
theorem holder_callerMove {c : Cid} {pc pc' : CallerPc Rid Id G} (hpc : s.callers c = pc)
    (hcallers : s'.callers = Function.update s.callers c pc')
    (hprocessors : s'.processors = s.processors) (hholds : pc'.holds = pc.holds)
    (x : Pid ⊕ Cid) : s'.holder x = s.holder x := by
  by_cases hx : x = .inr c
  · rw [hx, holder_caller_self pc' hcallers, hholds, ← hpc]
    rfl
  · exact holder_caller pc' hcallers hprocessors x hx

/-- A caller moves between places where it writes no queue, or the same as
    before, and has acquired the same as before. -/
theorem RunInv.callerMove (h : RunInv conf s) {c : Cid} {pc pc' : CallerPc Rid Id G}
    (hpc : s.callers c = pc) (hcallers : s'.callers = Function.update s.callers c pc')
    (hholds : pc'.holds = pc.holds) (hwrites : pc'.writes = none ∨ pc'.writes = pc.writes)
    (hlocked : s'.locked = s.locked) (hprocessors : s'.processors = s.processors)
    (hrq : s'.rq = s.rq)
    (hstop : ∀ r, s.forceStop r = true → s'.forceStop r = true)
    (hremoved : s'.removed = s.removed) : RunInv conf s' := by
  refine h.caller hcallers ?_ hprocessors ?_ ?_ hstop ?_
  · rw [hlocked]
    exact h.locks.frame (holder_callerMove hpc hcallers hprocessors hholds)
  · intro p prio hp
    rcases hwrites with hnone | hsame
    · rw [hnone]
      nofun
    · rw [hsame, ← hpc]
      exact h.readers p c prio hp
  · intro p
    rw [hrq]
    exact h.inHand p
  · intro r hr
    rw [hremoved] at hr
    exact Or.inl hr

end callers

end acquired

/-! ## Section 3: Steps -/

section steps
variable [DecidableEq Pid] [DecidableEq Cid] [DecidableEq Rid] [DecidableEq Id] [DecidableEq G]
  {conf : Conf Pid Rid Id G} {s : State Pid Cid Rid Id G}

theorem RunInv.readQueue (h : RunInv conf s) {p : Pid} {k : Nat}
    (hpc : s.processors p = .scanFrom (k + 1))
    (hwriters : ∀ c, (s.callers c).writes ≠ some (conf.group p, k)) :
    RunInv conf (((schedulerClassic conf).action (.readQueue p k)).effect s) := by
  refine h.processor rfl (h.locks.frame (holder_processorMove hpc rfl rfl rfl)) rfl rfl rfl rfl
    ?_ ⟨?_, nofun⟩ nofun
  · intro prio hprio
    cases hprio
    exact hwriters
  · intro prio r hprio hr
    cases hprio
    exact hr

theorem RunInv.acquire (h : RunInv conf s) {p : Pid} {i : Nat} {rest : List Rid} {r : Rid}
    (hpc : s.processors p = .scan i (r :: rest)) (hfree : s.locked r = false) :
    RunInv conf (((schedulerClassic conf).action (.acquire p i rest r)).effect s) := by
  have hold := h.inHand p
  have hreaders := h.readers p
  rw [hpc] at hold hreaders
  refine h.processor rfl (h.locks.acquire (h := .inl p) hfree ?_ ?_) rfl rfl rfl rfl ?_ ⟨?_, ?_⟩
    nofun
  · exact holder_processor_self (.update i rest r) rfl
  · exact holder_processor (.update i rest r) rfl rfl
  · exact fun prio hprio c => hreaders c prio hprio
  · exact fun prio r' hprio hr' => hold.rest prio r' hprio (List.mem_cons_of_mem r hr')
  · intro r' hr'
    cases hr'
    exact ⟨i, hold.rest i r rfl List.mem_cons_self⟩

theorem RunInv.release (h : RunInv conf s) {p : Pid} {i : Nat} {rest : List Rid} {r : Rid}
    (hpc : s.processors p = .release i rest r) :
    RunInv conf (((schedulerClassic conf).action (.release p i rest r)).effect s) := by
  have hold := h.inHand p
  have hreaders := h.readers p
  rw [hpc] at hold hreaders
  have hheld : s.holder (.inl p) = some r := by
    show (s.processors p).holds = some r
    rw [hpc]
    rfl
  refine h.processor rfl (h.locks.release hheld ?_ ?_) rfl rfl rfl rfl ?_ ⟨?_, nofun⟩ nofun
  · exact holder_processor_self (.scan i rest) rfl
  · exact holder_processor (.scan i rest) rfl rfl
  · exact fun prio hprio c => hreaders c prio hprio
  · exact fun prio r' hprio hr' => hold.rest prio r' hprio hr'

theorem RunInv.releaseResumed (h : RunInv conf s) {p : Pid} {r : Rid}
    (hpc : s.processors p = .resumed r) :
    RunInv conf (((schedulerClassic conf).action (.releaseResumed p r)).effect s) := by
  have hheld : s.holder (.inl p) = some r := by
    show (s.processors p).holds = some r
    rw [hpc]
    rfl
  refine h.processor rfl (h.locks.release hheld ?_ ?_) rfl rfl rfl rfl nofun ⟨nofun, nofun⟩ nofun
  · exact holder_processor_self .run rfl
  · exact holder_processor .run rfl rfl

theorem RunInv.resume (h : RunInv conf s) {p : Pid} {r : Rid} (hpc : s.processors p = .resume r) :
    RunInv conf (((schedulerClassic conf).action (.resume p r)).effect s) := by
  dsimp only [schedulerClassic]
  split
  · exact h.processorMove hpc rfl rfl (Or.inl rfl) (by simp) rfl rfl rfl rfl rfl
  · next hstop =>
    split
    · exact h.processorMove hpc rfl rfl (Or.inl rfl) (by simp) rfl rfl rfl rfl rfl
    · refine h.processorMove hpc rfl rfl (Or.inl rfl) ?_ rfl rfl rfl rfl rfl
      intro r' hr'
      cases hr'
      exact Bool.eq_false_iff.mpr hstop

theorem RunInv.insert (h : RunInv conf s) {c : Cid} {r : Rid} (hpc : s.callers c = .insert r) :
    RunInv conf (((schedulerClassic conf).action (.insert c r)).effect s) := by
  have hrq := setRq_rq s (s.groupName r) (s.priority r) (s.rq (s.groupName r) (s.priority r) ++ [r])
  have hgrow {g : G} {prio : Nat} {r' : Rid} (hr' : r' ∈ s.rq g prio) :
      r' ∈ (s.setRq (s.groupName r) (s.priority r)
        (s.rq (s.groupName r) (s.priority r) ++ [r])).rq g prio := by
    rw [hrq]
    split
    · next hplace =>
      rw [← hplace.1, ← hplace.2]
      exact List.mem_append_left _ hr'
    · exact hr'
  refine h.caller rfl (h.locks.frame (holder_callerMove hpc rfl rfl rfl)) rfl nofun ?_
    (fun _ hr => hr) fun _ hr => Or.inl hr
  · intro p
    refine ⟨fun prio r' hprio hr' => hgrow ((h.inHand p).rest prio r' hprio hr'), ?_⟩
    intro r' hr'
    obtain ⟨prio, hmem⟩ := (h.inHand p).holds r' hr'
    exact ⟨prio, hgrow hmem⟩

theorem RunInv.lockQueue (h : RunInv conf s) {c : Cid} {i : Id} {g : G} {prio : Nat}
    (hpc : s.callers c = .lockQueue i g prio) (hfree : s.writable conf g prio) :
    RunInv conf (((schedulerClassic conf).action (.lockQueue c i g prio)).effect s) := by
  refine h.caller rfl (h.locks.frame (holder_callerMove hpc rfl rfl rfl)) rfl ?_ h.inHand
    (fun _ hr => hr)
    fun _ hr => Or.inl hr
  · intro p prio' hprio hwrites
    cases hwrites
    exact hfree.1 p rfl hprio

theorem RunInv.acquireRemove (h : RunInv conf s) {c : Cid} {i : Id} {g : G} {prio : Nat} {r : Rid}
    (hpc : s.callers c = .acquire i g prio r) (hfree : s.locked r = false) :
    RunInv conf (((schedulerClassic conf).action (.acquireRemove c i g prio r)).effect s) := by
  refine h.caller rfl (h.locks.acquire (h := .inr c) hfree ?_ ?_) rfl ?_ h.inHand
    (fun _ hr => hr) fun _ hr => Or.inl hr
  · exact holder_caller_self (.eraseQueue i g prio r) rfl
  · exact holder_caller (.eraseQueue i g prio r) rfl rfl
  · intro p prio' hprio
    have hreaders := h.readers p c prio' hprio
    rw [hpc] at hreaders
    exact hreaders

theorem RunInv.releaseRemove (h : RunInv conf s) {c : Cid} {i : Id} {g : G} {prio : Nat} {r : Rid}
    (hpc : s.callers c = .release i g prio r) :
    RunInv conf (((schedulerClassic conf).action (.releaseRemove c i g prio r)).effect s) := by
  have hheld : s.holder (.inr c) = some r := by
    show (s.callers c).holds = some r
    rw [hpc]
    rfl
  refine h.caller rfl (h.locks.release hheld ?_ ?_) rfl ?_ h.inHand (fun _ hr => hr)
    fun _ hr => Or.inl hr
  · exact holder_caller_self (.unlockQueue i g prio (some r)) rfl
  · exact holder_caller (.unlockQueue i g prio (some r)) rfl rfl
  · intro p prio' hprio
    have hreaders := h.readers p c prio' hprio
    rw [hpc] at hreaders
    exact hreaders

/-- The routine that leaves its queue is in nobody else's hand. -/
theorem RunInv.eraseQueue (h : RunInv conf s) (hid : IdInv conf s) {c : Cid} {i : Id} {g : G}
    {prio : Nat} {r : Rid} (hpc : s.callers c = .eraseQueue i g prio r) :
    RunInv conf (((schedulerClassic conf).action (.eraseQueue c i g prio r)).effect s) := by
  have hphase := hid.phase i c (by rw [hpc]; rfl)
  rw [hpc] at hphase
  have hq : QueuedAt conf s.rq i r g prio := hphase.2.1
  have hheld : s.holder (.inr c) = some r := by
    show (s.callers c).holds = some r
    rw [hpc]
    rfl
  -- the remover holds the write lock of the queue, so nobody scans it
  have hreaders : ∀ p prio', (s.processors p).reads = some prio' →
      ¬ (conf.group p = g ∧ prio' = prio) := by
    intro p prio' hprio hplace
    apply h.readers p c prio' hprio
    rw [hpc, hplace.1, hplace.2]
    rfl
  have hrq := setRq_rq s g prio ((s.rq g prio).eraseP (fun x => conf.id x = i))
  refine h.caller rfl (h.locks.frame (holder_callerMove hpc rfl rfl rfl)) rfl ?_ ?_ (fun _ hr => hr)
    fun _ hr => Or.inl hr
  · intro p prio' hprio
    have hsame := h.readers p c prio' hprio
    rw [hpc] at hsame
    exact hsame
  · intro p
    refine ⟨?_, ?_⟩
    · intro prio' r' hprio hr'
      show r' ∈ (s.setRq g prio _).rq (conf.group p) prio'
      rw [hrq, if_neg (hreaders p prio' hprio)]
      exact (h.inHand p).rest prio' r' hprio hr'
    · intro r' hr'
      obtain ⟨prio', hmem⟩ := (h.inHand p).holds r' hr'
      refine ⟨prio', ?_⟩
      show r' ∈ (s.setRq g prio _).rq (conf.group p) prio'
      rw [hrq]
      split
      · next hplace =>
        rw [hplace.1, hplace.2] at hmem
        -- another routine of the id would be in the queue beside `r`
        have hne : ¬ (fun x => decide (conf.id x = i)) r' = true := by
          intro hsame
          have hfilter : r' ∈ (s.rq g prio).filter (fun x => conf.id x = i) :=
            List.mem_filter.mpr ⟨hmem, hsame⟩
          rw [hq.2 g prio, if_pos ⟨rfl, rfl⟩, List.mem_singleton] at hfilter
          rw [hfilter] at hr'
          have hsame := h.locks.unique (.inl p) (.inr c) r hr' hheld
          cases hsame
        exact (List.mem_eraseP_of_neg (p := fun x => decide (conf.id x = i)) hne).mpr hmem
      · exact hmem

/-- The routine a removal has found is stopped, and nobody has it. -/
theorem RunInv.unlockRemove (h : RunInv conf s) (hid : IdInv conf s) {c : Cid} {i : Id}
    {found : Option Rid} (hpc : s.callers c = .unlockRemove i found) :
    RunInv conf (((schedulerClassic conf).action (.unlockRemove c i found)).effect s) := by
  have hphase := hid.phase i c (by rw [hpc]; rfl)
  rw [hpc] at hphase
  refine h.caller rfl (h.locks.frame (holder_callerMove hpc rfl rfl rfl)) rfl nofun h.inHand
    (fun _ hr => hr) ?_
  · intro r hr
    have hr' : (s.removed r || decide (found = some r)) = true := hr
    rw [Bool.or_eq_true, decide_eq_true_iff] at hr'
    rcases hr' with hold | hfound
    · exact Or.inl hold
    · subst hfound
      obtain ⟨_, habsent, hrid, hstop⟩ := hphase
      refine Or.inr ⟨hstop, ?_⟩
      intro p hrun
      obtain ⟨prio, hmem⟩ := (h.inHand p).holds r (by rw [hrun]; rfl)
      subst hrid
      exact habsent.not_mem _ _ hmem

/-- **Step lemma** for acquired and removed routines. -/
theorem RunInv.step (a : Label Pid Cid Rid Id G) (h : RunInv conf s) (hid : IdInv conf s)
    (hg : ((schedulerClassic conf).action a).gate s) :
    RunInv conf (((schedulerClassic conf).action a).effect s) := by
  have hkeep : ∀ r, s.forceStop r = true → s.forceStop r = true := fun _ hr => hr
  have hstop (r : Rid) : ∀ r', s.forceStop r' = true →
      Function.update s.forceStop r true r' = true := by
    intro r' hr'
    by_cases heq : r' = r
    · rw [heq, Function.update_self]
    · rw [Function.update_of_ne heq, hr']
  cases a with
  | dispatchTask c r => exact h.callerMove hg rfl rfl (Or.inl rfl) rfl rfl rfl hkeep rfl
  | lockDispatch c r => exact h.callerMove hg.1 rfl rfl (Or.inl rfl) rfl rfl rfl hkeep rfl
  | register c r =>
    dsimp only [schedulerClassic]
    split
    · exact h.callerMove hg rfl rfl (Or.inl rfl) rfl rfl rfl hkeep rfl
    · exact h.callerMove hg rfl rfl (Or.inl rfl) rfl rfl rfl hkeep rfl
  | configure c r =>
    dsimp only [schedulerClassic]
    split
    · exact h.callerMove hg rfl rfl (Or.inl rfl) rfl rfl rfl hkeep rfl
    · exact h.callerMove hg rfl rfl (Or.inl rfl) rfl rfl rfl hkeep rfl
  | insert c r => exact h.insert hg.1
  | unlockDispatch c r ret =>
    cases ret with
    | true => exact h.callerMove hg rfl rfl (Or.inl rfl) rfl rfl rfl hkeep rfl
    | false => exact h.callerMove hg rfl rfl (Or.inl rfl) rfl rfl rfl hkeep rfl
  | notify c r => exact h.callerMove hg rfl rfl (Or.inl rfl) rfl rfl rfl hkeep rfl
  | removeCRoutine c i => exact h.callerMove hg rfl rfl (Or.inl rfl) rfl rfl rfl hkeep rfl
  | lockRemove c i => exact h.callerMove hg.1 rfl rfl (Or.inl rfl) rfl rfl rfl hkeep rfl
  -- a removed routine is stopped at once, and once more when its queue is searched
  | erase c i =>
    dsimp only [schedulerClassic]
    split
    · exact h.callerMove hg rfl rfl (Or.inl rfl) rfl rfl rfl hkeep rfl
    · next r _ => exact h.callerMove hg rfl rfl (Or.inl rfl) rfl rfl rfl (hstop r) rfl
  | lockQueue c i g prio => exact h.lockQueue hg.1 hg.2
  | search c i g prio =>
    dsimp only [schedulerClassic]
    split
    · exact h.callerMove hg rfl rfl (Or.inr rfl) rfl rfl rfl hkeep rfl
    · next r _ => exact h.callerMove hg rfl rfl (Or.inr rfl) rfl rfl rfl (hstop r) rfl
  | acquireRemove c i g prio r => exact h.acquireRemove hg.1 hg.2
  | eraseQueue c i g prio r => exact h.eraseQueue hid hg
  | releaseRemove c i g prio r => exact h.releaseRemove hg
  | unlockQueue c i g prio found => exact h.callerMove hg rfl rfl (Or.inl rfl) rfl rfl rfl hkeep rfl
  | unlockRemove c i found => exact h.unlockRemove hid hg
  | nextRoutine p =>
    exact h.processorMove hg rfl rfl (Or.inl rfl) (by simp) rfl rfl rfl rfl rfl
  | readQueue p k => exact h.readQueue hg.1 hg.2
  | leaveQueue p i =>
    exact h.processorMove hg rfl rfl (Or.inl rfl) (by simp) rfl rfl rfl rfl rfl
  | scanned p => exact h.processorMove hg rfl rfl (Or.inl rfl) (by simp) rfl rfl rfl rfl rfl
  | acquire p i rest r => exact h.acquire hg.1 hg.2
  | acquireFail p i rest r =>
    -- the scan goes on behind the routine
    exact h.processorMove hg.1 rfl rfl
      (Or.inr ⟨rfl, fun _ hr => List.mem_cons_of_mem r hr⟩) (by simp) rfl rfl rfl rfl rfl
  | updateState p i rest r expired =>
    dsimp only [schedulerClassic]
    split
    · exact h.processorMove hg rfl rfl (Or.inl rfl) (by simp) rfl rfl rfl rfl rfl
    · exact h.processorMove hg rfl rfl (Or.inr ⟨rfl, fun _ hr => hr⟩) (by simp) rfl rfl rfl rfl rfl
  | release p i rest r => exact h.release hg
  | resume p r => exact h.resume hg
  | setState p r state => exact ⟨h.locks, h.readers, h.inHand, h.removed⟩
  | swapOut p r => exact h.processorMove hg rfl rfl (Or.inl rfl) (by simp) rfl rfl rfl rfl rfl
  | releaseResumed p r => exact h.releaseResumed hg
  | setUpdateFlag r => exact ⟨h.locks, h.readers, h.inHand, h.removed⟩

/-! ## Section 4: Reachable states -/

theorem inv_init (hi : (schedulerClassic conf).init s) : IdInv conf s ∧ RunInv conf s := by
  obtain ⟨hmutex, hidCr, hrq, _, _, _, hprocessors, hcallers, hremoved⟩ := hi
  refine ⟨⟨?_, ?_, ?_⟩, ⟨TryLocks.free ?_, ?_, ?_, ?_⟩⟩
  · intro i c
    rw [hmutex, hcallers]
    exact iff_of_false nofun nofun
  · intro i _
    refine ⟨?_, ?_⟩
    · intro r hr
      rw [hidCr] at hr
      cases hr
    · intro _ g prio
      rw [hrq]
      rfl
  · intro i c hc
    rw [hcallers] at hc
    cases hc
  · intro x
    cases x with
    | inl p =>
      show (s.processors p).holds = none
      rw [hprocessors]
      rfl
    | inr c =>
      show (s.callers c).holds = none
      rw [hcallers]
      rfl
  · intro p c prio hp
    rw [hprocessors] at hp
    cases hp
  · intro p
    rw [hprocessors]
    exact ⟨nofun, nofun⟩
  · intro r hr
    rw [hremoved] at hr
    cases hr

/-- **Run lemma**. -/
theorem inv_reachable (h : (schedulerClassic conf).Reachable s) :
    IdInv conf s ∧ RunInv conf s :=
  System.invariant (fun _ => inv_init)
    (fun _ a hinv hg => ⟨hinv.1.step a hg, hinv.2.step a hinv.1 hg⟩) h

omit [DecidableEq Pid] [DecidableEq Cid] [DecidableEq Rid] in
/-- Outside of calls the registry and the run queues agree. -/
theorem IdInv.registryAgrees (h : IdInv conf s) {i : Id}
    (hquiet : ∀ c, (s.callers c).works conf.id ≠ some i) : RegistryAgrees conf s i := by
  have hfree : s.idMutex i = none := by
    cases howner : s.idMutex i with
    | none => rfl
    | some c =>
      have hholds := (h.mutex i c).mp howner
      apply absurd _ (hquiet c)
      cases hpc : s.callers c with
      | idle => rw [hpc] at hholds; cases hholds
      | lockDispatch r => rw [hpc] at hholds; cases hholds
      | notify r => rw [hpc] at hholds; cases hholds
      | lockRemove i => rw [hpc] at hholds; cases hholds
      | _ => rw [hpc] at hholds; exact hholds
  have hsettled := h.free i hfree
  refine ⟨hsettled.registered, hsettled.unregistered, ?_⟩
  constructor
  · intro hsome
    obtain ⟨r, hr⟩ := Option.isSome_iff_exists.mp hsome
    exact ⟨r, hsettled.registered r hr⟩
  · intro hqueued
    obtain ⟨r, hq⟩ := hqueued
    cases hidCr : s.idCr i with
    | none => exact absurd hq (hsettled.unregistered hidCr).not_queuedAt
    | some r => rfl

/-- **Main result**: registry, run queues and exclusion of the classic
    scheduler. -/
theorem schedulerClassic_sound (h : (schedulerClassic conf).Reachable s) : Sound conf s := by
  obtain ⟨hid, hrun⟩ := inv_reachable h
  refine ⟨fun i => hid.registryAgrees, ?_, ?_⟩
  · intro p q r hp hq
    exact Sum.inl.inj (hrun.locks.unique (.inl p) (.inl q) r hp hq)
  · intro r hr p
    refine ⟨(hrun.removed r hr).2 p, ?_⟩
    intro habsent hholds
    obtain ⟨prio, hmem⟩ := (hrun.inHand p).holds r hholds
    exact habsent _ _ hmem

end steps

/-! ## Section 5: One routine -/

/-- One group with one processor, and a task whose configured priority is
    above the highest one. -/
def oneTask : Conf Unit Unit Unit Unit := ⟨id, fun _ => some ((), 25), (), id⟩

instance decidableWritable (s : State Unit Unit Unit Unit Unit) (g : Unit) (prio : Nat) :
    Decidable (s.writable oneTask g prio) :=
  inferInstanceAs (Decidable ((∀ p, oneTask.group p = g → _ ≠ _) ∧ ∀ _, _ ≠ _))

instance decidableGate (a : Label Unit Unit Unit Unit Unit)
    (s : State Unit Unit Unit Unit Unit) :
    Decidable (((schedulerClassic oneTask).action a).gate s) := by
  cases a <;> (dsimp only [schedulerClassic]; infer_instance)

def initial : State Unit Unit Unit Unit Unit where
  idMutex    := fun _ => none
  idCr       := fun _ => none
  rq         := fun _ _ => []
  routines   := fun _ => .new
  priority   := fun _ => 0
  groupName  := fun _ => ()
  forceStop  := fun _ => false
  locked     := fun _ => false
  processors := fun _ => .run
  callers    := fun _ => .idle
  removed    := fun _ => false

theorem initial_init : (schedulerClassic oneTask).init initial :=
  ⟨fun _ => rfl, fun _ => rfl, fun _ _ => rfl, fun _ => rfl, fun _ => rfl, fun _ => rfl,
    fun _ => rfl, fun _ => rfl, fun _ => rfl⟩

/-- The routine is dispatched, and the processor comes to run it. -/
def dispatched : List (Label Unit Unit Unit Unit Unit) :=
  [.dispatchTask () (), .lockDispatch () (), .register () (), .configure () (), .insert () (),
    .unlockDispatch () () true, .notify () (), .nextRoutine (), .readQueue () 19,
    .acquire () 19 [] (), .updateState () 19 [] () false, .resume () ()]

/-- While it runs its removal begins; when it is released the removal goes
    on. -/
def removedRunning : List (Label Unit Unit Unit Unit Unit) :=
  dispatched ++
  [.removeCRoutine () (), .lockRemove () (), .erase () (), .lockQueue () () () 19,
    .search () () () 19, .swapOut () (), .releaseResumed () (), .acquireRemove () () () 19 (),
    .eraseQueue () () () 19 (), .releaseRemove () () () 19 (),
    .unlockQueue () () () 19 (some ()), .unlockRemove () () (some ())]

theorem schedulerClassic_sound_removed :
    ((schedulerClassic oneTask).exec initial removedRunning).removed () = true ∧
      Sound oneTask ((schedulerClassic oneTask).exec initial removedRunning) :=
  ⟨by decide, schedulerClassic_sound
    (System.reachable_exec _ initial_init removedRunning (by decide))⟩

end CyberRT.Scheduler.SchedulerClassic
