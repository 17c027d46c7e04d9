import CyberRT.Scheduler.ChoreographyPlacement
import CyberRT.Scheduler.PoolSeparation
import CyberRT.Scheduler.PoolNotice

/-! # Exclusion of the choreography scheduler

    The processors of the pool, those of the contexts and the removals all
    take a routine with the same try-lock. What a processor has acquired
    stays in the queue it was found in: a removal takes a routine out of
    its queue only when it has acquired it itself, and then nobody else
    has it. A routine that is in no queue is therefore run by nobody, and
    one that is bound to a processor is never run by the pool.

    All this is about runs in which a routine is registered only with a
    processor id that has a place; with any other id a later notice or
    removal would take something else for its context. -/

namespace CyberRT.Scheduler.ChoreographyPool

open CyberRT.Framework CyberRT.Croutine SchedulerChoreography

variable {Pid Cid Rid Id : Type}

/-! ## Section 1: The property -/

/-- Where an acquired routine may be found: a processor of the pool takes
    it from a run queue, that of context `k` from the context's queue. -/
def State.Has (s : State Pid Cid Rid Id) (r : Rid) : Pid ⊕ Nat → Prop
  | .inl p => (s.processors p).pc.holds = some r
  | .inr k => s.contextHolds k = some r

/-- **Condition**: a routine that is registered has the processor id -1 or
    that of a choreography processor. -/
def Placed [DecidableEq Id] (conf : Conf Rid Id) (s : State Pid Cid Rid Id) :
    Label Pid Cid Rid Id → Prop
  | .register _ r => s.idCr (conf.id r) = none → conf.HasPlace (s.processorId r)
  | _             => True

/-! ## Section 2: Invariant -/

/-- The routines a scan has still to come to. -/
def ProcessorPc.rest : ProcessorPc Rid → List Rid
  | .scan _ rest | .update _ rest _ | .release _ rest _ => rest
  | _ => []

/-- The routine a removal has found in a queue and has not taken out yet. -/
def CallerPc.seeks : CallerPc Rid Id → Option (Id × Queue × Rid)
  | .acquire i q r | .eraseQueue i q r => some (i, q, r)
  | _ => none

theorem writes_of_seeks {pc : CallerPc Rid Id} {i : Id} {q : Queue} {r : Rid}
    (h : pc.seeks = some (i, q, r)) : pc.writes = some q := by
  cases pc
  case acquire | eraseQueue =>
    cases h
    rfl
  all_goals cases h

/-- What a processor at `pc` may have in hand of the run queues. -/
structure InHand (rq : Nat → List Rid) (pc : ProcessorPc Rid) : Prop where
  rest  : ∀ prio r, pc.reads = some prio → r ∈ pc.rest → r ∈ rq prio
  holds : ∀ r, pc.holds = some r → ∃ prio, r ∈ rq prio

/-- **Invariant**: the lock flags are set by their holders, a queue is
    written by one removal and read by no processor of the pool meanwhile,
    and what a processor has in hand is in its queue. -/
structure HandInv [DecidableEq Id] (conf : Conf Rid Id) (s : State Pid Cid Rid Id) : Prop where
  locks   : TryLocks s.locked s.holder
  readers : ∀ p c prio, (s.processors p).pc.reads = some prio →
    (s.callers c).writes ≠ some (.pool prio)
  writers : ∀ c d q, (s.callers c).writes = some q → (s.callers d).writes = some q → c = d
  inHand  : ∀ p, InHand s.rq (s.processors p).pc
  held    : ∀ k r, s.contextHolds k = some r → r ∈ s.queue (.context k)
  found   : ∀ c i q r, (s.callers c).seeks = some (i, q, r) →
    (s.queue q).find? (fun x => conf.id x = i) = some r

theorem woken_reads (x : Processor Rid) :
    x.woken.pc.reads = none ∨
      x.woken.pc.reads = x.pc.reads ∧ ∀ r ∈ x.woken.pc.rest, r ∈ x.pc.rest := by
  unfold Processor.woken
  split
  · exact Or.inl rfl
  · exact Or.inl rfl
  · exact Or.inr ⟨rfl, fun _ hr => hr⟩

section moves
variable [DecidableEq Id] {conf : Conf Rid Id} {s s' : State Pid Cid Rid Id}

/-- Neither the processors of the pool nor the callers nor a queue change. -/
theorem HandInv.frame (h : HandInv conf s) (hlocks : TryLocks s'.locked s'.holder)
    (hprocessors : s'.processors = s.processors) (hcallers : s'.callers = s.callers)
    (hqueue : s'.queue = s.queue)
    (hheld : ∀ k r, s'.contextHolds k = some r → r ∈ s.queue (.context k)) : HandInv conf s' := by
  have hrq (prio : Nat) : s'.rq prio = s.rq prio := congrFun hqueue (.pool prio)
  refine ⟨hlocks, ?_, ?_, ?_, ?_, ?_⟩
  · rw [hprocessors, hcallers]
    exact h.readers
  · rw [hcallers]
    exact h.writers
  · intro p
    rw [hprocessors, funext hrq]
    exact h.inHand p
  · intro k r hr
    rw [hqueue]
    exact hheld k r hr
  · rw [hcallers, hqueue]
    exact h.found

/-- Nobody else works on a queue that is written. -/
theorem HandInv.alone (h : HandInv conf s) {c : Cid} {q : Queue}
    (hq : (s.callers c).writes = some q) :
    (∀ p, (s.processors p).pc.reads.map Queue.pool ≠ some q) ∧
      ∀ d, d ≠ c → (s.callers d).writes ≠ some q := by
  constructor
  · intro p hp
    obtain ⟨prio, hprio, hpool⟩ := Option.map_eq_some_iff.mp hp
    rw [← hpool] at hq
    exact h.readers p c prio hprio hq
  · intro d hd hw
    exact hd (h.writers d c q hw hq)

section processors
variable [DecidableEq Pid]

/-- A processor of the pool moves. -/
theorem HandInv.processor (h : HandInv conf s) {p : Pid} {x : Processor Rid}
    (hprocessors : s'.processors = Function.update s.processors p x)
    (hlocks : TryLocks s'.locked s'.holder) (hcallers : s'.callers = s.callers)
    (hqueue : s'.queue = s.queue) (hcontexts : s'.contextHolds = s.contextHolds)
    (hreads : ∀ prio, x.pc.reads = some prio → ∀ c, (s.callers c).writes ≠ some (.pool prio))
    (hinHand : InHand s.rq x.pc) : HandInv conf s' := by
  have hrq (prio : Nat) : s'.rq prio = s.rq prio := congrFun hqueue (.pool prio)
  refine ⟨hlocks, ?_, ?_, ?_, ?_, ?_⟩
  · intro q c prio hq
    rw [hprocessors] at hq
    rw [hcallers]
    by_cases hqp : q = p
    · subst hqp
      rw [Function.update_self] at hq
      exact hreads prio hq c
    · rw [Function.update_of_ne hqp] at hq
      exact h.readers q c prio hq
  · rw [hcallers]
    exact h.writers
  · intro q
    rw [hprocessors, funext hrq]
    by_cases hqp : q = p
    · subst hqp
      rw [Function.update_self]
      exact hinHand
    · rw [Function.update_of_ne hqp]
      exact h.inHand q
  · rw [hcontexts, hqueue]
    exact h.held
  · rw [hcallers, hqueue]
    exact h.found

omit [DecidableEq Pid] in
/-- A processor at a place of the same scan, or out of it, reads a queue that
    nobody writes. -/
theorem HandInv.readers_of (h : HandInv conf s) {p : Pid} {pc pc' : ProcessorPc Rid}
    (hpc : (s.processors p).pc = pc) (hreads : pc'.reads = none ∨ pc'.reads = pc.reads ∧
      ∀ r ∈ pc'.rest, r ∈ pc.rest) (prio : Nat) (hprio : pc'.reads = some prio) (c : Cid) :
    (s.callers c).writes ≠ some (.pool prio) := by
  rcases hreads with hnone | ⟨hsame, _⟩
  · rw [hnone] at hprio
    cases hprio
  · rw [hsame, ← hpc] at hprio
    exact h.readers p c prio hprio

omit [DecidableEq Pid] in
/-- It has in hand what it had there, as far as it has it acquired. -/
theorem InHand.of_reads {rq : Nat → List Rid} {pc pc' : ProcessorPc Rid} (h : InHand rq pc)
    (hreads : pc'.reads = none ∨ pc'.reads = pc.reads ∧ ∀ r ∈ pc'.rest, r ∈ pc.rest)
    (hholds : ∀ r, pc'.holds = some r → pc.holds = some r) : InHand rq pc' := by
  constructor
  · intro prio r hprio hr
    rcases hreads with hnone | ⟨hsame, hrest⟩
    · rw [hnone] at hprio
      cases hprio
    · rw [hsame] at hprio
      exact h.rest prio r hprio (hrest r hr)
  · exact fun r hr => h.holds r (hholds r hr)

omit [DecidableEq Id] in
/-- A processor moves with what it has acquired. -/
theorem holder_processorMove {p : Pid} (x : Processor Rid)
    (hprocessors : s'.processors = Function.update s.processors p x)
    (hholds : x.pc.holds = (s.processors p).pc.holds)
    (hcontexts : s'.contextHolds = s.contextHolds) (hcallers : s'.callers = s.callers)
    (y : Pid ⊕ (Nat ⊕ Cid)) : s'.holder y = s.holder y := by
  by_cases hy : y = .inl p
  · rw [hy, holder_processor_self x hprocessors, hholds]
    rfl
  · exact holder_processor x hprocessors hcontexts hcallers y hy

/-- A processor moves on in its scan or leaves it, with what it has
    acquired before. -/
theorem HandInv.processorMove (h : HandInv conf s) {p : Pid} (x : Processor Rid)
    {pc : ProcessorPc Rid} (hpc : (s.processors p).pc = pc)
    (hprocessors : s'.processors = Function.update s.processors p x)
    (hholds : x.pc.holds = pc.holds)
    (hreads : x.pc.reads = none ∨ x.pc.reads = pc.reads ∧ ∀ r ∈ x.pc.rest, r ∈ pc.rest)
    (hlocked : s'.locked = s.locked) (hcallers : s'.callers = s.callers)
    (hqueue : s'.queue = s.queue) (hcontexts : s'.contextHolds = s.contextHolds) :
    HandInv conf s' := by
  have hold := h.inHand p
  rw [hpc] at hold
  have hlocks : TryLocks s'.locked s'.holder := by
    rw [hlocked]
    apply h.locks.frame
    apply holder_processorMove x hprocessors _ hcontexts hcallers
    rw [hpc]
    exact hholds
  apply h.processor hprocessors hlocks hcallers hqueue hcontexts
  · exact h.readers_of hpc hreads
  · apply hold.of_reads hreads
    rw [hholds]
    exact fun _ hr => hr

end processors

section callers
variable [DecidableEq Cid]

omit [DecidableEq Id] in
/-- A caller moves with what it has acquired. -/
theorem holder_callerMove {c : Cid} {pc pc' : CallerPc Rid Id} (hpc : s.callers c = pc)
    (hcallers : s'.callers = Function.update s.callers c pc') (hholds : pc'.holds = pc.holds)
    (hprocessors : s'.processors = s.processors) (hcontexts : s'.contextHolds = s.contextHolds)
    (y : Pid ⊕ (Nat ⊕ Cid)) : s'.holder y = s.holder y := by
  by_cases hy : y = .inr (.inr c)
  · rw [hy, holder_caller_self pc' hcallers, hholds, ← hpc]
    rfl
  · exact holder_caller pc' hcallers hprocessors hcontexts y hy

/-- A caller moves and changes no queue that somebody else works on, nor
    takes what a processor has in hand out of a queue. -/
theorem HandInv.caller (h : HandInv conf s) {c : Cid} {pc : CallerPc Rid Id}
    (hcallers : s'.callers = Function.update s.callers c pc)
    (hlocks : TryLocks s'.locked s'.holder) (hprocessors : s'.processors = s.processors)
    (hcontexts : s'.contextHolds = s.contextHolds)
    (hwrites : ∀ q, pc.writes = some q →
      (∀ p, (s.processors p).pc.reads.map Queue.pool ≠ some q) ∧
        ∀ d, d ≠ c → (s.callers d).writes ≠ some q)
    (hrest : ∀ p prio r, (s.processors p).pc.reads = some prio → r ∈ s.rq prio → r ∈ s'.rq prio)
    (hkept : ∀ r q, (∃ x, s.Has r x) → r ∈ s.queue q → r ∈ s'.queue q)
    (hown : ∀ i q r, pc.seeks = some (i, q, r) →
      (s'.queue q).find? (fun x => conf.id x = i) = some r)
    (hothers : ∀ d q, d ≠ c → (s.callers d).writes = some q → s'.queue q = s.queue q) :
    HandInv conf s' := by
  refine ⟨hlocks, ?_, ?_, ?_, ?_, ?_⟩
  · intro p d prio hp
    rw [hprocessors] at hp
    rw [hcallers]
    by_cases hd : d = c
    · rw [hd, Function.update_self]
      intro hw
      apply (hwrites _ hw).1 p
      rw [hp]
      rfl
    · rw [Function.update_of_ne hd]
      exact h.readers p d prio hp
  · intro d e q hdq heq
    rw [hcallers] at hdq heq
    by_cases hd : d = c
    · by_cases he : e = c
      · rw [hd, he]
      · rw [hd, Function.update_self] at hdq
        rw [Function.update_of_ne he] at heq
        exact absurd heq ((hwrites q hdq).2 e he)
    · by_cases he : e = c
      · rw [he, Function.update_self] at heq
        rw [Function.update_of_ne hd] at hdq
        exact absurd hdq ((hwrites q heq).2 d hd)
      · rw [Function.update_of_ne hd] at hdq
        rw [Function.update_of_ne he] at heq
        exact h.writers d e q hdq heq
  · intro p
    rw [hprocessors]
    constructor
    · intro prio r hprio hr
      exact hrest p prio r hprio ((h.inHand p).rest prio r hprio hr)
    · intro r hr
      obtain ⟨prio, hmem⟩ := (h.inHand p).holds r hr
      exact ⟨prio, hkept r (.pool prio) ⟨.inl p, hr⟩ hmem⟩
  · intro k r hr
    rw [hcontexts] at hr
    exact hkept r (.context k) ⟨.inr k, hr⟩ (h.held k r hr)
  · intro d i q r hd
    rw [hcallers] at hd
    by_cases hdc : d = c
    · rw [hdc, Function.update_self] at hd
      exact hown i q r hd
    · rw [Function.update_of_ne hdc] at hd
      rw [hothers d q hdc (writes_of_seeks hd)]
      exact h.found d i q r hd

/-- A caller moves between places where it writes no queue, or the same as
    before, seeks nothing or the same as before, and has acquired the same
    as before. -/
theorem HandInv.callerMove (h : HandInv conf s) {c : Cid} {pc pc' : CallerPc Rid Id}
    (hpc : s.callers c = pc) (hcallers : s'.callers = Function.update s.callers c pc')
    (hholds : pc'.holds = pc.holds) (hwrites : pc'.writes = none ∨ pc'.writes = pc.writes)
    (hseeks : pc'.seeks = none) (hlocked : s'.locked = s.locked)
    (hprocessors : s'.processors = s.processors) (hcontexts : s'.contextHolds = s.contextHolds)
    (hqueue : s'.queue = s.queue) : HandInv conf s' := by
  have hlocks : TryLocks s'.locked s'.holder := by
    rw [hlocked]
    exact h.locks.frame (holder_callerMove hpc hcallers hholds hprocessors hcontexts)
  apply h.caller hcallers hlocks hprocessors hcontexts
  · intro q hq
    rcases hwrites with hnone | hsame
    · rw [hnone] at hq
      cases hq
    · rw [hsame, ← hpc] at hq
      exact h.alone hq
  · intro p prio r _ hr
    have hsame : s'.rq prio = s.rq prio := congrFun hqueue (.pool prio)
    rw [hsame]
    exact hr
  · intro r q _ hr
    rw [hqueue]
    exact hr
  · intro i q r hr
    rw [hseeks] at hr
    cases hr
  · intro d q _ _
    rw [hqueue]

end callers

end moves

/-! ## Section 3: Queues -/

section queues
variable {conf : Conf Rid Id} {s : State Pid Cid Rid Id}

theorem queue_setContext (k : Nat) (ctx : ChoreographyContext Rid) (q : Queue) :
    (s.setContext k ctx).queue q =
      if q = .context k then ctx.crQueue.map Prod.snd else s.queue q := by
  cases q
  case context k' =>
    show (Function.update s.contexts k ctx k').crQueue.map Prod.snd = _
    by_cases hk : k' = k
    · rw [hk, Function.update_self, if_pos rfl]
    · rw [Function.update_of_ne hk, if_neg (fun heq => hk (Queue.context.inj heq))]
      rfl
  case pool prio =>
    rw [if_neg fun heq => Queue.noConfusion heq]
    rfl

/-- `Enqueue` keeps what is queued. -/
theorem mem_enqueue_of_mem {ctx : ChoreographyContext Rid} {prio : Nat} {r x : Rid}
    (hx : x ∈ ctx.crQueue.map Prod.snd) : x ∈ (ctx.enqueue prio r).crQueue.map Prod.snd := by
  obtain ⟨y, hy, rfl⟩ := List.mem_map.mp hx
  apply List.mem_map_of_mem
  show y ∈ ctx.crQueue.takeWhile (fun z => prio ≤ z.1) ++
    (prio, r) :: ctx.crQueue.dropWhile (fun z => prio ≤ z.1)
  rw [← List.takeWhile_append_dropWhile (p := fun z => decide (prio ≤ z.1)) (l := ctx.crQueue),
    List.mem_append] at hy
  rcases hy with hbefore | hafter
  · exact List.mem_append_left _ hbefore
  · exact List.mem_append_right _ (List.mem_cons_of_mem _ hafter)

theorem eraseP_map_snd (l : List (Nat × Rid)) (p : Rid → Bool) :
    (l.eraseP fun x => p x.2).map Prod.snd = (l.map Prod.snd).eraseP p := by
  rw [List.eraseP_map]
  rfl

variable [DecidableEq Id]

theorem queue_eraseQueue (i : Id) (q q' : Queue) :
    (s.eraseQueue conf.id i q).queue q' =
      if q' = q then (s.queue q).eraseP (fun x => conf.id x = i) else s.queue q' := by
  cases q
  case context k =>
    show (s.setContext k ((s.contexts k).removeCRoutine conf.id i)).queue q' = _
    rw [queue_setContext]
    split
    · exact eraseP_map_snd (s.contexts k).crQueue fun x => decide (conf.id x = i)
    · rfl
  case pool prio =>
    cases q'
    case context k => rw [if_neg fun heq => Queue.noConfusion heq]; rfl
    case pool prio' =>
      show Function.update s.rq prio ((s.rq prio).eraseP fun x => conf.id x = i) prio' = _
      by_cases hprio : prio' = prio
      · rw [hprio, Function.update_self, if_pos rfl]
        rfl
      · rw [Function.update_of_ne hprio, if_neg (fun heq => hprio (Queue.pool.inj heq))]
        rfl

/-- Only the routine that was found leaves the queue. -/
theorem mem_eraseQueue_of_ne {i : Id} {q q' : Queue} {r x : Rid}
    (hfound : (s.queue q).find? (fun x => conf.id x = i) = some r) (hne : x ≠ r)
    (hx : x ∈ s.queue q') : x ∈ (s.eraseQueue conf.id i q).queue q' := by
  rw [queue_eraseQueue]
  split
  · next heq =>
    rw [heq] at hx
    obtain ⟨hr, before, after, hqueue, hbefore⟩ := List.find?_eq_some_iff_append.mp hfound
    have herase : (s.queue q).eraseP (fun x => conf.id x = i) = before ++ after := by
      rw [hqueue, List.eraseP_append_right _ (fun y hy => by simpa using hbefore y hy),
        List.eraseP_cons_of_pos (p := fun x => decide (conf.id x = i)) hr]
    rw [herase]
    rw [hqueue, List.mem_append, List.mem_cons] at hx
    rcases hx with hin | hself | hin
    · exact List.mem_append_left _ hin
    · exact absurd hself hne
    · exact List.mem_append_right _ hin
  · exact hx

end queues

/-! ## Section 4: Steps -/

section steps
variable [DecidableEq Pid] [DecidableEq Cid] [DecidableEq Rid] [DecidableEq Id]
  {conf : Conf Rid Id} {s : State Pid Cid Rid Id}

theorem HandInv.readQueue (h : HandInv conf s) {p : Pid} {k : Nat}
    (hpc : (s.processors p).pc = .scanFrom (k + 1))
    (hwriters : ∀ c, (s.callers c).writes ≠ some (.pool k)) :
    HandInv conf (((choreographyPool conf).action (.readQueue p k)).effect s) := by
  have hholds : (ProcessorPc.scan k (s.rq k)).holds = (s.processors p).pc.holds := by
    rw [hpc]
    rfl
  have hsame : ∀ y, (s.setPc p (.scan k (s.rq k))).holder y = s.holder y :=
    holder_processorMove _ rfl hholds rfl rfl
  have hlocks := h.locks.frame hsame
  refine h.processor rfl hlocks rfl rfl rfl ?_ ?_
  · intro prio hprio
    cases hprio
    exact hwriters
  · refine ⟨?_, fun r hr => nomatch hr⟩
    intro prio r hprio hr
    cases hprio
    exact hr

theorem HandInv.acquire (h : HandInv conf s) {p : Pid} {i : Nat} {rest : List Rid} {r : Rid}
    (hpc : (s.processors p).pc = .scan i (r :: rest)) (hfree : s.locked r = false) :
    HandInv conf (((choreographyPool conf).action (.acquire p i rest r)).effect s) := by
  have hold := h.inHand p
  have hreaders := h.readers p
  rw [hpc] at hold hreaders
  have hlocks : TryLocks (Function.update s.locked r true)
      ((s.setPc p (.update i rest r)).setLocked r true).holder := by
    apply h.locks.acquire (h := .inl p) hfree
    · exact holder_processor_self { s.processors p with pc := .update i rest r } rfl
    · exact holder_processor { s.processors p with pc := .update i rest r } rfl rfl rfl
  refine h.processor rfl hlocks rfl rfl rfl ?_ ?_
  · intro prio hprio c
    exact hreaders c prio hprio
  · constructor
    · intro prio r' hprio hr'
      exact hold.rest prio r' hprio (List.mem_cons_of_mem r hr')
    · intro r' hr'
      cases hr'
      exact ⟨i, hold.rest i r rfl List.mem_cons_self⟩

omit [DecidableEq Cid] in
/-- A processor releases its routine and goes to a place of the same scan,
    or out of it. -/
theorem HandInv.processorRelease (h : HandInv conf s) {p : Pid} (x : Processor Rid)
    {pc : ProcessorPc Rid} {r : Rid} (hpc : (s.processors p).pc = pc) (hheld : pc.holds = some r)
    (hholds : x.pc.holds = none)
    (hreads : x.pc.reads = none ∨ x.pc.reads = pc.reads ∧ ∀ r ∈ x.pc.rest, r ∈ pc.rest) :
    HandInv conf ((s.setProcessor p x).setLocked r false) := by
  have hold := h.inHand p
  rw [hpc] at hold
  have hheld' : s.holder (.inl p) = some r := by
    show (s.processors p).pc.holds = some r
    rw [hpc]
    exact hheld
  have hlocks : TryLocks (Function.update s.locked r false)
      ((s.setProcessor p x).setLocked r false).holder := by
    apply h.locks.release hheld'
    · rw [← hholds]
      exact holder_processor_self x rfl
    · exact holder_processor x rfl rfl rfl
  refine h.processor rfl hlocks rfl rfl rfl ?_ ?_
  · exact h.readers_of hpc hreads
  · apply hold.of_reads hreads
    rw [hholds]
    nofun

theorem HandInv.contextAcquire (h : HandInv conf s) {k : Nat} {r : Rid} {expired : Bool}
    (hg : ((choreographyPool conf).action (.contextAcquire k r expired)).gate s) :
    HandInv conf (((choreographyPool conf).action (.contextAcquire k r expired)).effect s) := by
  obtain ⟨hmem, hfree, _⟩ := hg
  have hlocks : TryLocks (Function.update s.locked r true)
      (((choreographyPool conf).action (.contextAcquire k r expired)).effect s).holder := by
    apply h.locks.acquire (h := .inr (.inl k)) hfree
    · exact Function.update_self k (some r) s.contextHolds
    · exact holder_context (some r) rfl rfl rfl
  refine h.frame hlocks rfl rfl rfl ?_
  intro k' r' hr'
  have hkept : Function.update s.contextHolds k (some r) k' = some r' := hr'
  by_cases hk : k' = k
  · subst hk
    rw [Function.update_self] at hkept
    cases hkept
    exact hmem
  · rw [Function.update_of_ne hk] at hkept
    exact h.held k' r' hkept

theorem HandInv.contextRelease (h : HandInv conf s) {k : Nat} {r : Rid}
    (hheld : s.contextHolds k = some r) :
    HandInv conf (((choreographyPool conf).action (.contextRelease k r)).effect s) := by
  have hlocks : TryLocks (Function.update s.locked r false)
      (((choreographyPool conf).action (.contextRelease k r)).effect s).holder := by
    apply h.locks.release (h := .inr (.inl k)) hheld
    · exact Function.update_self k none s.contextHolds
    · exact holder_context none rfl rfl rfl
  refine h.frame hlocks rfl rfl rfl ?_
  intro k' r' hr'
  have hkept : Function.update s.contextHolds k none k' = some r' := hr'
  by_cases hk : k' = k
  · subst hk
    rw [Function.update_self] at hkept
    cases hkept
  · rw [Function.update_of_ne hk] at hkept
    exact h.held k' r' hkept

omit [DecidableEq Pid] [DecidableEq Rid] in
/-- A queue that is free for writing grows. -/
theorem HandInv.insert (h : HandInv conf s) {s' : State Pid Cid Rid Id} {c : Cid} {q : Queue}
    {pc pc' : CallerPc Rid Id} (hpc : s.callers c = pc)
    (hcallers : s'.callers = Function.update s.callers c pc') (hholds : pc'.holds = pc.holds)
    (hwrites : pc'.writes = none) (hseeks : pc'.seeks = none) (hlocked : s'.locked = s.locked)
    (hprocessors : s'.processors = s.processors) (hcontexts : s'.contextHolds = s.contextHolds)
    (hfree : s.writable q) (hgrow : ∀ x, x ∈ s.queue q → x ∈ s'.queue q)
    (hsame : ∀ q', q' ≠ q → s'.queue q' = s.queue q') : HandInv conf s' := by
  have hmem {q' : Queue} {x : Rid} (hx : x ∈ s.queue q') : x ∈ s'.queue q' := by
    by_cases hq : q' = q
    · rw [hq] at hx ⊢
      exact hgrow x hx
    · rw [hsame q' hq]
      exact hx
  have hlocks : TryLocks s'.locked s'.holder := by
    rw [hlocked]
    exact h.locks.frame (holder_callerMove hpc hcallers hholds hprocessors hcontexts)
  apply h.caller hcallers hlocks hprocessors hcontexts
  · intro q' hq'
    rw [hwrites] at hq'
    cases hq'
  · intro p prio r _ hr
    have hr' : r ∈ s.queue (.pool prio) := hr
    exact hmem hr'
  · exact fun r q' _ hr => hmem hr
  · intro i q' r hr
    rw [hseeks] at hr
    cases hr
  · intro d q' _ hd
    apply hsame
    intro hq
    rw [hq] at hd
    exact hfree.2 d hd

theorem HandInv.insertContext (h : HandInv conf s) {c : Cid} {r : Rid} {k : Nat}
    (hpc : s.callers c = .insertContext r k) (hfree : s.writable (.context k)) :
    HandInv conf (((choreographyPool conf).action (.insertContext c r k)).effect s) := by
  have hqueue (q : Queue) := queue_setContext (s := s.setCaller c (.unlockDispatch r)) k
    ((s.contexts k).enqueue (s.priority r) r) q
  refine h.insert hpc rfl rfl rfl rfl rfl rfl rfl hfree ?_ ?_
  · intro x hx
    show x ∈ ((s.setCaller c (.unlockDispatch r)).setContext k _).queue (.context k)
    rw [hqueue, if_pos rfl]
    exact mem_enqueue_of_mem hx
  · intro q hq
    show ((s.setCaller c (.unlockDispatch r)).setContext k _).queue q = s.queue q
    rw [hqueue, if_neg hq]
    cases q
    · rfl
    · rfl

theorem HandInv.insertPool (h : HandInv conf s) {c : Cid} {r : Rid} {prio : Nat}
    (hpc : s.callers c = .insertPool r prio) (hfree : s.writable (.pool prio)) :
    HandInv conf (((choreographyPool conf).action (.insertPool c r prio)).effect s) := by
  refine h.insert hpc rfl rfl rfl rfl rfl rfl rfl hfree ?_ ?_
  · intro x hx
    show x ∈ Function.update s.rq prio (s.rq prio ++ [r]) prio
    rw [Function.update_self]
    exact List.mem_append_left _ hx
  · intro q hq
    cases q
    case context k => rfl
    case pool prio' =>
      show Function.update s.rq prio (s.rq prio ++ [r]) prio' = s.rq prio'
      rw [Function.update_of_ne fun heq => hq (congrArg Queue.pool heq)]

omit [DecidableEq Pid] [DecidableEq Rid] in
/-- The notice of a context leaves its queue as it is. -/
theorem HandInv.notifyContext (h : HandInv conf s) {c : Cid} {r : Rid}
    (hpc : s.callers c = .notify r) (k : Nat) :
    HandInv conf ((s.setCaller c .idle).setContext k (s.contexts k).notify) := by
  refine h.callerMove hpc rfl rfl (Or.inl rfl) rfl rfl rfl rfl ?_
  funext q
  rw [queue_setContext]
  split
  · next heq =>
    rw [heq]
    rfl
  · cases q
    · rfl
    · rfl

theorem HandInv.lockQueue (h : HandInv conf s) {c : Cid} {i : Id} {q : Queue}
    (hpc : s.callers c = .lockQueue i q) (hfree : s.writable q) :
    HandInv conf (((choreographyPool conf).action (.lockQueue c i q)).effect s) := by
  have hsame : ∀ y, (s.setCaller c (.search i q)).holder y = s.holder y :=
    holder_callerMove hpc rfl rfl rfl rfl
  have hlocks := h.locks.frame hsame
  refine h.caller rfl hlocks rfl rfl ?_ ?_ ?_ ?_ ?_
  · intro q' hq'
    cases hq'
    exact ⟨hfree.1, fun d _ => hfree.2 d⟩
  · exact fun _ _ _ _ hr => hr
  · exact fun _ _ _ hr => hr
  · intro i' q' r hr
    cases hr
  · exact fun _ _ _ _ => rfl

omit [DecidableEq Pid] [DecidableEq Rid] in
/-- The steps of a removal under the write lock that change no queue. -/
theorem HandInv.writing (h : HandInv conf s) {s' : State Pid Cid Rid Id} {c : Cid} {q : Queue}
    {pc : CallerPc Rid Id} (hpc : (s.callers c).writes = some q)
    (hcallers : s'.callers = Function.update s.callers c pc)
    (hlocks : TryLocks s'.locked s'.holder) (hprocessors : s'.processors = s.processors)
    (hcontexts : s'.contextHolds = s.contextHolds) (hqueue : s'.queue = s.queue)
    (hwrites : pc.writes = some q)
    (hown : ∀ i q r, pc.seeks = some (i, q, r) →
      (s.queue q).find? (fun x => conf.id x = i) = some r) : HandInv conf s' := by
  apply h.caller hcallers hlocks hprocessors hcontexts
  · intro q' hq'
    rw [hwrites] at hq'
    cases hq'
    exact h.alone hpc
  · intro p prio r _ hr
    have hsame : s'.rq prio = s.rq prio := congrFun hqueue (.pool prio)
    rw [hsame]
    exact hr
  · intro r q' _ hr
    rw [hqueue]
    exact hr
  · intro i q' r hr
    rw [hqueue]
    exact hown i q' r hr
  · intro d q' _ _
    rw [hqueue]

theorem HandInv.search (h : HandInv conf s) {c : Cid} {i : Id} {q : Queue}
    (hpc : s.callers c = .search i q) :
    HandInv conf (((choreographyPool conf).action (.search c i q)).effect s) := by
  have hwrites : (s.callers c).writes = some q := by
    rw [hpc]
    rfl
  dsimp only [choreographyPool]
  split
  · exact h.callerMove hpc rfl rfl (Or.inr rfl) rfl rfl rfl rfl rfl
  · next r hr =>
    have hsame : ∀ y, ((s.setCaller c (.acquire i q r)).setStopped r).holder y = s.holder y :=
      holder_callerMove hpc rfl rfl rfl rfl
    have hlocks := h.locks.frame hsame
    refine h.writing hwrites rfl hlocks rfl rfl rfl rfl ?_
    intro i' q' r' hseeks
    cases hseeks
    exact hr

theorem HandInv.acquireRemove (h : HandInv conf s) {c : Cid} {i : Id} {q : Queue} {r : Rid}
    (hpc : s.callers c = .acquire i q r) (hfree : s.locked r = false) :
    HandInv conf (((choreographyPool conf).action (.acquireRemove c i q r)).effect s) := by
  have hwrites : (s.callers c).writes = some q := by
    rw [hpc]
    rfl
  have hlocks : TryLocks (Function.update s.locked r true)
      ((s.setCaller c (.eraseQueue i q r)).setLocked r true).holder := by
    apply h.locks.acquire (h := .inr (.inr c)) hfree
    · exact holder_caller_self (.eraseQueue i q r) rfl
    · exact holder_caller (.eraseQueue i q r) rfl rfl rfl
  refine h.writing hwrites rfl hlocks rfl rfl rfl rfl ?_
  intro i' q' r' hseeks
  cases hseeks
  apply h.found c
  rw [hpc]
  rfl

/-- The routine that leaves its queue is in nobody else's hand. -/
theorem HandInv.eraseQueue (h : HandInv conf s) {c : Cid} {i : Id} {q : Queue} {r : Rid}
    (hpc : s.callers c = .eraseQueue i q r) :
    HandInv conf (((choreographyPool conf).action (.eraseQueue c i q r)).effect s) := by
  have hfound := h.found c i q r (by rw [hpc]; rfl)
  have hwrites : (s.callers c).writes = some q := by
    rw [hpc]
    rfl
  have hheld : s.holder (.inr (.inr c)) = some r := by
    show (s.callers c).holds = some r
    rw [hpc]
    rfl
  have hqueue (q' : Queue) :
      (((choreographyPool conf).action (.eraseQueue c i q r)).effect s).queue q' =
        (s.eraseQueue conf.id i q).queue q' := by
    cases q
    all_goals
      cases q'
      · rfl
      · rfl
  have hsame {q' : Queue} (hq : q' ≠ q) :
      (((choreographyPool conf).action (.eraseQueue c i q r)).effect s).queue q' = s.queue q' := by
    rw [hqueue, queue_eraseQueue, if_neg hq]
  have hcallers : (((choreographyPool conf).action (.eraseQueue c i q r)).effect s).callers =
      Function.update s.callers c (.release i q r) := by
    cases q
    · rfl
    · rfl
  have hrest : (((choreographyPool conf).action (.eraseQueue c i q r)).effect s).locked = s.locked ∧
      (((choreographyPool conf).action (.eraseQueue c i q r)).effect s).processors = s.processors ∧
      (((choreographyPool conf).action (.eraseQueue c i q r)).effect s).contextHolds =
        s.contextHolds := by
    cases q
    · exact ⟨rfl, rfl, rfl⟩
    · exact ⟨rfl, rfl, rfl⟩
  obtain ⟨hlocked, hprocessors, hcontexts⟩ := hrest
  have hlocks : TryLocks (((choreographyPool conf).action (.eraseQueue c i q r)).effect s).locked
      (((choreographyPool conf).action (.eraseQueue c i q r)).effect s).holder := by
    rw [hlocked]
    exact h.locks.frame (holder_callerMove hpc hcallers rfl hprocessors hcontexts)
  apply h.caller hcallers hlocks hprocessors hcontexts
  · intro q' hq'
    cases hq'
    exact h.alone hwrites
  · intro p prio x hprio hx
    have hq : Queue.pool prio ≠ q := by
      intro heq
      rw [← heq] at hwrites
      exact h.readers p c prio hprio hwrites
    have hkept := hsame hq
    show x ∈ (((choreographyPool conf).action (.eraseQueue c i q r)).effect s).queue (.pool prio)
    rw [hkept]
    exact hx
  · intro x q' hhas hx
    rw [hqueue]
    apply mem_eraseQueue_of_ne hfound _ hx
    intro heq
    subst heq
    obtain ⟨y, hy⟩ := hhas
    rcases y with p | k
    · have hsame := h.locks.unique (.inl p) (.inr (.inr c)) x hy hheld
      cases hsame
    · have hsame := h.locks.unique (.inr (.inl k)) (.inr (.inr c)) x hy hheld
      cases hsame
  · intro i' q' r' hseeks
    cases hseeks
  · intro d q' hd hw
    apply hsame
    intro heq
    rw [heq] at hw
    exact hd (h.writers d c q hw hwrites)

theorem HandInv.releaseRemove (h : HandInv conf s) {c : Cid} {i : Id} {q : Queue} {r : Rid}
    (hpc : s.callers c = .release i q r) :
    HandInv conf (((choreographyPool conf).action (.releaseRemove c i q r)).effect s) := by
  have hwrites : (s.callers c).writes = some q := by
    rw [hpc]
    rfl
  have hheld : s.holder (.inr (.inr c)) = some r := by
    show (s.callers c).holds = some r
    rw [hpc]
    rfl
  have hlocks : TryLocks (Function.update s.locked r false)
      ((s.setCaller c (.unlockQueue i q)).setLocked r false).holder := by
    apply h.locks.release hheld
    · exact holder_caller_self (.unlockQueue i q) rfl
    · exact holder_caller (.unlockQueue i q) rfl rfl rfl
  refine h.writing hwrites rfl hlocks rfl rfl rfl rfl ?_
  intro i' q' r' hseeks
  cases hseeks

/-- A caller is done and wakes a processor that waits. -/
theorem HandInv.notifyOne (h : HandInv conf s) {c : Cid} {r : Rid} {p : Option Pid}
    (hpc : s.callers c = .notify r) :
    HandInv conf (((choreographyPool conf).action (.notifyOne c r p)).effect s) := by
  have hmove : HandInv conf (s.setCaller c .idle) :=
    h.callerMove hpc rfl rfl (Or.inl rfl) rfl rfl rfl rfl rfl
  cases p
  case none => exact hmove
  case some p =>
    exact hmove.processorMove _ rfl rfl (woken_holds _) (woken_reads _) rfl rfl rfl rfl

theorem HandInv.notifyAll (h : HandInv conf s) (p : Pid) :
    HandInv conf (((choreographyPool conf).action (.notifyAll p)).effect s) := by
  have hlocks : TryLocks s.locked
      (((choreographyPool conf).action (.notifyAll p)).effect s).holder := by
    apply h.locks.frame
    intro y
    rcases y with q | k | c
    · exact woken_holds (s.processors q)
    · rfl
    · rfl
  refine ⟨hlocks, ?_, h.writers, ?_, h.held, h.found⟩
  · intro q c prio hq
    have hq' : (s.processors q).woken.pc.reads = some prio := hq
    rcases woken_reads (s.processors q) with hnone | ⟨hsame, _⟩
    · rw [hnone] at hq'
      cases hq'
    · rw [hsame] at hq'
      exact h.readers q c prio hq'
  · intro q
    show InHand s.rq (s.processors q).woken.pc
    constructor
    · intro prio r hprio hr
      rcases woken_reads (s.processors q) with hnone | ⟨hsame, hrest⟩
      · rw [hnone] at hprio
        cases hprio
      · rw [hsame] at hprio
        exact (h.inHand q).rest prio r hprio (hrest r hr)
    · intro r hr
      rw [woken_holds] at hr
      exact (h.inHand q).holds r hr

/-- **Step lemma** for what processors and removals have in hand. -/
theorem HandInv.step (a : Label Pid Cid Rid Id) (h : HandInv conf s)
    (hg : ((choreographyPool conf).action a).gate s) :
    HandInv conf (((choreographyPool conf).action a).effect s) := by
  cases a
  case nextRoutineStopped | nextRoutine =>
    exact h.processorMove _ hg.1 rfl rfl (Or.inl rfl) rfl rfl rfl rfl
  case leaveQueue | swapOut =>
    exact h.processorMove _ hg rfl rfl (Or.inl rfl) rfl rfl rfl rfl
  case stop | exchange =>
    exact h.processorMove _ rfl rfl rfl (Or.inr ⟨rfl, fun _ hr => hr⟩) rfl rfl rfl rfl
  case setState | contextSetState | schedulerStop =>
    exact ⟨h.locks, h.readers, h.writers, h.inHand, h.held, h.found⟩
  case lockDispatch | lockRemove =>
    exact h.callerMove hg.1 rfl rfl (Or.inl rfl) rfl rfl rfl rfl rfl
  case dispatchTask | unlockDispatch | removeCRoutine | unlockQueue | unlockRemove =>
    exact h.callerMove hg rfl rfl (Or.inl rfl) rfl rfl rfl rfl rfl
  case run p =>
    dsimp only [choreographyPool]
    split
    · exact h.processorMove _ hg rfl rfl (Or.inl rfl) rfl rfl rfl rfl
    · exact h.processorMove _ hg rfl rfl (Or.inl rfl) rfl rfl rfl rfl
  case readQueue p k => exact h.readQueue hg.1 hg.2
  case acquire p i rest r => exact h.acquire hg.1 hg.2
  case acquireFail p i rest r =>
    -- the scan goes on behind the routine
    have hrest : ∀ x ∈ rest, x ∈ r :: rest := fun x hx => List.mem_cons_of_mem r hx
    exact h.processorMove _ hg.1 rfl rfl (Or.inr ⟨rfl, hrest⟩) rfl rfl rfl rfl
  case updateState p i rest r expired =>
    dsimp only [choreographyPool]
    split
    · exact h.processorMove _ hg rfl rfl (Or.inl rfl) rfl rfl rfl rfl
    · exact h.processorMove _ hg rfl rfl (Or.inr ⟨rfl, fun _ hr => hr⟩) rfl rfl rfl rfl
  case release p i rest r =>
    exact h.processorRelease _ hg rfl rfl (Or.inr ⟨rfl, fun _ hr => hr⟩)
  case resume p r =>
    dsimp only [choreographyPool]
    split
    · exact h.processorMove _ hg rfl rfl (Or.inl rfl) rfl rfl rfl rfl
    · split
      · exact h.processorMove _ hg rfl rfl (Or.inl rfl) rfl rfl rfl rfl
      · exact h.processorMove _ hg rfl rfl (Or.inl rfl) rfl rfl rfl rfl
  case releaseResumed p r => exact h.processorRelease _ hg rfl rfl (Or.inl rfl)
  case nextRoutineWait p expired =>
    dsimp only [choreographyPool]
    split
    · exact h
    · next routines needSleep _ =>
      cases needSleep
      · exact h.processorMove _ hg.1 rfl rfl (Or.inl rfl) rfl rfl rfl rfl
      · exact h.processorMove _ hg.1 rfl rfl (Or.inl rfl) rfl rfl rfl rfl
  case timeout p =>
    exact h.processorMove _ rfl rfl (woken_holds _) (woken_reads _) rfl rfl rfl rfl
  case contextAcquire k r expired => exact h.contextAcquire hg
  case contextRelease k r => exact h.contextRelease hg
  case assign c r =>
    dsimp only [choreographyPool]
    split
    · exact h.callerMove hg rfl rfl (Or.inl rfl) rfl rfl rfl rfl rfl
    · exact h.callerMove hg rfl rfl (Or.inl rfl) rfl rfl rfl rfl rfl
  case register c r =>
    dsimp only [choreographyPool]
    split
    · exact h.callerMove hg rfl rfl (Or.inl rfl) rfl rfl rfl rfl rfl
    · exact h.callerMove hg rfl rfl (Or.inl rfl) rfl rfl rfl rfl rfl
  case choose c r =>
    dsimp only [choreographyPool]
    split
    · exact h.callerMove hg rfl rfl (Or.inl rfl) rfl rfl rfl rfl rfl
    · exact h.callerMove hg rfl rfl (Or.inl rfl) rfl rfl rfl rfl rfl
  case insertContext c r k => exact h.insertContext hg.1 hg.2
  case insertPool c r prio => exact h.insertPool hg.1 hg.2
  case notifyProcessor c i =>
    dsimp only [choreographyPool]
    split
    · exact h
    · exact h.callerMove hg rfl rfl (Or.inl rfl) rfl rfl rfl rfl rfl
  case find c i =>
    dsimp only [choreographyPool]
    split
    · exact h.callerMove hg rfl rfl (Or.inl rfl) rfl rfl rfl rfl rfl
    · exact h.callerMove hg rfl rfl (Or.inl rfl) rfl rfl rfl rfl rfl
  case notifyContext c r =>
    dsimp only [choreographyPool]
    split
    · exact h.notifyContext hg.1 _
    · exact h.callerMove hg.1 rfl rfl (Or.inl rfl) rfl rfl rfl rfl rfl
  case notifyOne c r p => exact h.notifyOne hg.1
  case erase c i =>
    dsimp only [choreographyPool]
    split
    · exact h.callerMove hg rfl rfl (Or.inl rfl) rfl rfl rfl rfl rfl
    · next r _ =>
      have hafter : (s.afterErase conf i r).holds = none ∧ (s.afterErase conf i r).writes = none ∧
          (s.afterErase conf i r).seeks = none := by
        unfold State.afterErase
        split
        · split
          · exact ⟨rfl, rfl, rfl⟩
          · exact ⟨rfl, rfl, rfl⟩
        · split
          · exact ⟨rfl, rfl, rfl⟩
          · exact ⟨rfl, rfl, rfl⟩
      exact h.callerMove hg rfl hafter.1 (Or.inl hafter.2.1) hafter.2.2 rfl rfl rfl rfl
  case lockQueue c i q => exact h.lockQueue hg.1 hg.2
  case search c i q => exact h.search hg
  case acquireRemove c i q r => exact h.acquireRemove hg.1 hg.2
  case eraseQueue c i q r => exact h.eraseQueue hg
  case releaseRemove c i q r => exact h.releaseRemove hg
  case notifyAll p => exact h.notifyAll p

end steps

/-! ## Section 5: Processor ids -/

/-- A call that goes by the processor id of a routine finds its place. -/
def CallerPlaced (conf : Conf Rid Id) (s : State Pid Cid Rid Id) : CallerPc Rid Id → Prop
  | .notify r => conf.HasPlace (s.processorId r)
  | .fault    => False
  | _         => True

/-- **Invariant**: what is registered has a place. -/
structure Places (conf : Conf Rid Id) (s : State Pid Cid Rid Id) : Prop where
  registered : ∀ i r, s.idCr i = some r → conf.HasPlace (s.processorId r)
  callers    : ∀ c, CallerPlaced conf s (s.callers c)

section places
variable {conf : Conf Rid Id} {s s' : State Pid Cid Rid Id}

/-- The place a call has been told of stays the place. -/
theorem Keeps.placed (h : Keeps conf s s') {pc : CallerPc Rid Id} (hknows : CallerKnows conf s pc)
    (hpc : CallerPlaced conf s pc) : CallerPlaced conf s' pc := by
  cases pc
  case notify r =>
    show conf.HasPlace (s'.processorId r)
    rw [h r hknows]
    exact hpc
  case fault => exact hpc
  all_goals trivial

/-- A step of no caller. -/
theorem Places.same (h : Places conf s) (hprocessorId : s'.processorId = s.processorId)
    (hidCr : s'.idCr = s.idCr) (hcallers : s'.callers = s.callers) : Places conf s' := by
  constructor
  · intro i r hr
    rw [hidCr] at hr
    rw [hprocessorId]
    exact h.registered i r hr
  · intro c
    have hc := h.callers c
    unfold CallerPlaced at hc ⊢
    rw [hcallers, hprocessorId]
    exact hc

/-- `RemoveCRoutine` finds the context of a routine that has a place. -/
theorem afterErase_placed {i : Id} {r : Rid} (hr : conf.HasPlace (s.processorId r)) :
    CallerPlaced conf s (s.afterErase conf i r) := by
  unfold State.afterErase
  split
  · split
    · trivial
    · trivial
  · next hpool =>
    have hcontext : HasContext conf (s.processorId r) := hr.resolve_left hpool
    rw [if_pos hcontext]
    trivial

variable [DecidableEq Cid]

/-- A caller moves, and what it enters into the registry has a place. -/
theorem Places.caller (h : Places conf s) (hsep : Separated conf s) {c : Cid}
    {pc : CallerPc Rid Id} (hcallers : s'.callers = Function.update s.callers c pc)
    (hkeeps : Keeps conf s s')
    (hidCr : ∀ i r, s'.idCr i = some r → s.idCr i = some r ∨ conf.HasPlace (s'.processorId r))
    (hpc : CallerPlaced conf s' pc) : Places conf s' := by
  constructor
  · intro i r hr
    rcases hidCr i r hr with hold | hnew
    · rw [hkeeps r (hsep.registered i r hold)]
      exact h.registered i r hold
    · exact hnew
  · intro d
    rw [hcallers]
    by_cases hd : d = c
    · rw [hd, Function.update_self]
      exact hpc
    · rw [Function.update_of_ne hd]
      exact hkeeps.placed (hsep.callers d) (h.callers d)

/-- A caller moves and leaves the registry as it is. -/
theorem Places.callerMove (h : Places conf s) (hsep : Separated conf s) {c : Cid}
    {pc : CallerPc Rid Id} (hcallers : s'.callers = Function.update s.callers c pc)
    (hkeeps : Keeps conf s s') (hidCr : s'.idCr = s.idCr) (hpc : CallerPlaced conf s' pc) :
    Places conf s' := by
  apply h.caller hsep hcallers hkeeps _ hpc
  intro i r hr
  rw [hidCr] at hr
  exact Or.inl hr

end places

section places_step
variable [DecidableEq Pid] [DecidableEq Cid] [DecidableEq Rid] [DecidableEq Id]
  {conf : Conf Rid Id} {s : State Pid Cid Rid Id}

theorem Places.register (h : Places conf s) (hsep : Separated conf s) {c : Cid} {r : Rid}
    (hok : Placed conf s (.register c r)) :
    Places conf (((choreographyPool conf).action (.register c r)).effect s) := by
  dsimp only [choreographyPool]
  split
  · exact h.callerMove hsep rfl (fun _ _ => rfl) rfl trivial
  · next hfree =>
    have hplace : conf.HasPlace (s.processorId r) := hok (Option.not_isSome_iff_eq_none.mp hfree)
    refine h.caller hsep rfl (fun _ _ => rfl) ?_ trivial
    intro i x hx
    obtain ⟨_, hnew⟩ | ⟨_, hold⟩ := update_cases hx
    · cases hnew
      exact Or.inr hplace
    · exact Or.inl hold

/-- `NotifyProcessor` finds the context it looks for. -/
theorem Places.notifyContext (h : Places conf s) (hsep : Separated conf s) {c : Cid} {r : Rid}
    (hg : ((choreographyPool conf).action (.notifyContext c r)).gate s) :
    Places conf (((choreographyPool conf).action (.notifyContext c r)).effect s) := by
  obtain ⟨hpc, hpool⟩ := hg
  have hplace := h.callers c
  rw [hpc] at hplace
  have hcontext : HasContext conf (s.processorId r) := hplace.resolve_left hpool
  dsimp only [choreographyPool]
  rw [if_pos hcontext]
  exact h.callerMove hsep rfl (fun _ _ => rfl) rfl trivial

theorem Places.erase (h : Places conf s) (hsep : Separated conf s) (c : Cid) (i : Id) :
    Places conf (((choreographyPool conf).action (.erase c i)).effect s) := by
  dsimp only [choreographyPool]
  split
  · exact h.callerMove hsep rfl (fun _ _ => rfl) rfl trivial
  · next r hr =>
    refine h.caller hsep rfl (fun _ _ => rfl) ?_ ?_
    · intro j x hx
      obtain ⟨_, hnone⟩ | ⟨_, hold⟩ := update_cases hx
      · cases hnone
      · exact Or.inl hold
    · have hplaced := afterErase_placed (i := i) (h.registered i r hr)
      unfold CallerPlaced at hplaced ⊢
      exact hplaced

/-- **Step lemma** for the processor ids. -/
theorem Places.step (a : Label Pid Cid Rid Id) (h : Places conf s) (hsep : Separated conf s)
    (hg : ((choreographyPool conf).action a).gate s) (hok : Placed conf s a) :
    Places conf (((choreographyPool conf).action a).effect s) := by
  cases a
  -- the steps of no caller
  case nextRoutineStopped | nextRoutine | readQueue | leaveQueue | acquire | acquireFail
      | updateState | release | setState | swapOut | releaseResumed | timeout | contextAcquire
      | contextSetState | contextRelease | schedulerStop | stop | exchange | notifyAll =>
    exact h.same rfl rfl rfl
  case run | nextRoutineWait =>
    dsimp only [choreographyPool]
    split
    · exact h.same rfl rfl rfl
    · exact h.same rfl rfl rfl
  case resume p r =>
    dsimp only [choreographyPool]
    split
    · exact h.same rfl rfl rfl
    · split
      · exact h.same rfl rfl rfl
      · exact h.same rfl rfl rfl
  -- the steps of a caller that looks up no processor id
  case dispatchTask | lockDispatch | insertContext | insertPool | unlockDispatch
      | removeCRoutine | lockRemove | lockQueue | acquireRemove | releaseRemove | unlockQueue
      | unlockRemove =>
    exact h.callerMove hsep rfl (fun _ _ => rfl) rfl trivial
  case choose | search =>
    dsimp only [choreographyPool]
    split
    · exact h.callerMove hsep rfl (fun _ _ => rfl) rfl trivial
    · exact h.callerMove hsep rfl (fun _ _ => rfl) rfl trivial
  case eraseQueue c i q r =>
    cases q
    · exact h.callerMove hsep rfl (fun _ _ => rfl) rfl trivial
    · exact h.callerMove hsep rfl (fun _ _ => rfl) rfl trivial
  case notifyOne c r p =>
    cases p
    · exact h.callerMove hsep rfl (fun _ _ => rfl) rfl trivial
    · exact h.callerMove hsep rfl (fun _ _ => rfl) rfl trivial
  case notifyProcessor c i =>
    dsimp only [choreographyPool]
    split
    · exact h
    · exact h.callerMove hsep rfl (fun _ _ => rfl) rfl trivial
  -- the steps that assign a processor id or go by one
  case assign c r =>
    dsimp only [choreographyPool]
    split
    · exact h.callerMove hsep rfl (fun _ _ => rfl) rfl trivial
    · next task htask =>
      exact h.callerMove hsep rfl (keeps_assign htask rfl).1 rfl trivial
  case register c r => exact h.register hsep hok
  case find c i =>
    dsimp only [choreographyPool]
    split
    · exact h.callerMove hsep rfl (fun _ _ => rfl) rfl trivial
    · next r hr => exact h.callerMove hsep rfl (fun _ _ => rfl) rfl (h.registered i r hr)
  case notifyContext c r => exact h.notifyContext hsep hg
  case erase c i => exact h.erase hsep c i

end places_step

/-! ## Section 6: Reachable states -/

section reachable
variable [DecidableEq Pid] [DecidableEq Cid] [DecidableEq Rid] [DecidableEq Id]
  {conf : Conf Rid Id} {s : State Pid Cid Rid Id}

end reachable

instance decidablePlaced (s : State Unit Unit Unit Unit) (a : Label Unit Unit Unit Unit) :
    Decidable (Placed oneTask s a) :=
  match a with
  | .register _ _ =>
    inferInstanceAs (Decidable (_ = none → _ = (-1 : BitVec 32) ∨ HasContext oneTask _))
  | .run _ | .nextRoutineStopped _ | .nextRoutine _ | .readQueue _ _ | .leaveQueue _ _
  | .acquire _ _ _ _ | .acquireFail _ _ _ _ | .updateState _ _ _ _ _ | .release _ _ _ _
  | .resume _ _ | .setState _ _ _ | .swapOut _ _ | .releaseResumed _ _ | .nextRoutineWait _ _
  | .timeout _ | .contextAcquire _ _ _ | .contextSetState _ _ _ | .contextRelease _ _
  | .dispatchTask _ _ | .lockDispatch _ _ | .assign _ _ | .choose _ _ | .insertContext _ _ _
  | .insertPool _ _ _ | .unlockDispatch _ _ | .notifyProcessor _ _ | .find _ _
  | .notifyContext _ _ | .notifyOne _ _ _ | .removeCRoutine _ _ | .lockRemove _ _ | .erase _ _
  | .lockQueue _ _ _ | .search _ _ _ | .acquireRemove _ _ _ _ | .eraseQueue _ _ _ _
  | .releaseRemove _ _ _ _ | .unlockQueue _ _ _ | .unlockRemove _ _ | .schedulerStop | .stop _
  | .exchange _ | .notifyAll _ => .isTrue trivial

/-- The processor of the pool runs the routine while its removal waits for
    it. -/
def removedRunning : List (Label Unit Unit Unit Unit) :=
  dispatch ++ [.run (), .nextRoutine (), .readQueue () 19, .acquire () 19 [] (),
    .updateState () 19 [] () false, .resume () (), .removeCRoutine () (), .lockRemove () (),
    .erase () (), .lockQueue () () (.pool 19), .search () () (.pool 19)]

end CyberRT.Scheduler.ChoreographyPool
