import CyberRT.Framework.Placement
import CyberRT.Scheduler.SchedulerChoreography

/-! # Placement of the choreography scheduler's routines

    `DispatchTask` asks whether the processor id, taken as unsigned, is
    below `proc_num_`; `NotifyProcessor` and `RemoveCRoutine` ask whether it
    is -1. A routine with another id that is no choreography processor's is
    put into the pool and looked for in `pctxs_`.

    A call for a routine that is registered assigns the configured priority
    once more, this time without the bound of the pool.

    While neither happens the three agree. -/

namespace CyberRT.Scheduler.SchedulerChoreography

open CyberRT.Framework CyberRT.Croutine

/-! ## Section 1: The property -/

/-- Where a routine may be queued. -/
inductive Place where
  | context (pid : Nat)
  | run (groupName : String) (prio : Nat)
  deriving DecidableEq

/-- Whom a `Notify` for the place is for. -/
def Place.notice : Place → Notice
  | .context pid     => .context pid
  | .run groupName _ => .group groupName

section property
variable {Rid Id : Type}

def contextQueue : Option (Context Rid) → List Rid
  | some (.choreography ctx) => ctx.crQueue.map Prod.snd
  | _                        => []

def State.queue (s : State Rid Id) : Place → List Rid
  | .context pid        => contextQueue s.pctxs[pid]?
  | .run groupName prio => s.crGroup groupName prio

variable [DecidableEq Rid] [DecidableEq Id]

/-- **Property**: no context was used as a `ChoreographyContext` that is not
    one; for a routine that was dispatched `NotifyProcessor` notifies where
    it is queued, and `RemoveCRoutine` takes it out of its queue. -/
structure Agrees (conf : Conf Rid Id) (s : State Rid Id) : Prop where
  faultless : s.fault = none
  notifies  : ∀ r, s.dispatched r = true → ∃ s' p,
    notifyProcessor s (conf.id r) = .ok (s', true) ∧ s'.notices = s.notices ++ [p.notice] ∧
    ∀ q, r ∈ s.queue q ↔ q = p
  removes   : ∀ r, s.dispatched r = true → ∃ s',
    removeCRoutine conf s (conf.id r) = .ok (s', true) ∧ ∀ q, r ∉ s'.queue q

/-- A processor id that the three functions take alike. -/
def Conf.HasPlace (conf : Conf Rid Id) (pid : BitVec 32) : Prop :=
  pid = -1 ∨ 0 ≤ pid.toInt ∧ pid < conf.procNum

/-- **Condition**: a routine that is registered has the processor id -1 or
    that of a choreography processor, and no pool routine that is registered
    is dispatched once more with a priority beyond the last one. -/
def Placed (conf : Conf Rid Id) (s : State Rid Id) : Label Rid Id → Prop
  | .dispatchTask r =>
    (s.idCr (conf.id r) = none → conf.HasPlace ((s.assign conf r).processorId r)) ∧
    (s.idCr (conf.id r) = some r → s.processorId r = -1 → (s.assign conf r).priority r < maxPrio)
  | _ => True

end property

/-! ## Section 2: Places -/

section places
variable {Rid Id : Type} {conf : Conf Rid Id} {s s' : State Rid Id}

/-- The place that `RemoveCRoutine` and `NotifyProcessor` take for the
    routine's. -/
def State.place (s : State Rid Id) (r : Rid) : Place :=
  if s.processorId r = -1 then .run (s.groupName r) (s.priority r)
  else .context (s.processorId r).toNat

theorem place_pool {r : Rid} (h : s.processorId r = -1) :
    s.place r = .run (s.groupName r) (s.priority r) := by
  rw [State.place, if_pos h]

theorem place_context {r : Rid} (h : s.processorId r ≠ -1) :
    s.place r = .context (s.processorId r).toNat := by
  rw [State.place, if_neg h]

/-- The contexts of `pctxs_` below `proc_num_` are `ChoreographyContext`s. -/
def Created (conf : Conf Rid Id) (pctxs : List (Context Rid)) : Prop :=
  ∀ k, k < conf.procNum.toNat → ∃ ctx, pctxs[k]? = some (.choreography ctx)

theorem created_createProcessor (conf : Conf Rid Id) : Created conf (createProcessor conf) := by
  intro k hk
  refine ⟨⟨[], false⟩, ?_⟩
  rw [createProcessor, List.getElem?_append_left (by rwa [List.length_replicate]),
    List.getElem?_replicate, if_pos hk]

theorem Created.setContext (h : Created conf s.pctxs) {k : Nat} {ctx ctx' : ChoreographyContext Rid}
    (hk : s.pctxs[k]? = some (.choreography ctx)) : Created conf (s.setContext k ctx').pctxs := by
  intro j hj
  show ∃ ctx'', (s.pctxs.set k (.choreography ctx'))[j]? = some (.choreography ctx'')
  rw [List.getElem?_set]
  split
  · next hjk =>
    have hlt : k < s.pctxs.length := (List.getElem?_eq_some_iff.mp hk).1
    rw [if_pos hlt]
    exact ⟨ctx', rfl⟩
  · exact h j hj

theorem setContext_queue_self {k : Nat} {ctx ctx' : ChoreographyContext Rid}
    (hk : s.pctxs[k]? = some (.choreography ctx)) :
    (s.setContext k ctx').queue (.context k) = ctx'.crQueue.map Prod.snd := by
  have hlt : k < s.pctxs.length := (List.getElem?_eq_some_iff.mp hk).1
  show contextQueue (s.pctxs.set k (.choreography ctx'))[k]? = _
  rw [List.getElem?_set_self hlt]
  rfl

theorem setContext_queue_of_ne {k : Nat} {ctx : ChoreographyContext Rid} {q : Place}
    (hq : q ≠ .context k) : (s.setContext k ctx).queue q = s.queue q := by
  cases q with
  | context j =>
    have hj : k ≠ j := fun heq => hq (heq ▸ rfl)
    show contextQueue (s.pctxs.set k (.choreography ctx))[j]? = contextQueue s.pctxs[j]?
    rw [List.getElem?_set_ne hj]
  | run groupName prio => rfl

/-- A context whose queue stays as it is. -/
theorem setContext_queue_same {k : Nat} {ctx ctx' : ChoreographyContext Rid}
    (hk : s.pctxs[k]? = some (.choreography ctx)) (hqueue : ctx'.crQueue = ctx.crQueue) :
    (s.setContext k ctx').queue = s.queue := by
  funext q
  by_cases hq : q = .context k
  · rw [hq, setContext_queue_self hk, hqueue]
    show _ = contextQueue s.pctxs[k]?
    rw [hk]
    rfl
  · exact setContext_queue_of_ne hq

theorem setGroup_queue_self {groupName : String} {prio : Nat} {queue : List Rid} :
    (s.setGroup groupName prio queue).queue (.run groupName prio) = queue := by
  show Function.update s.crGroup groupName _ groupName prio = queue
  rw [Function.update_self, Function.update_self]

theorem setGroup_queue_of_ne {groupName : String} {prio : Nat} {queue : List Rid} {q : Place}
    (hq : q ≠ .run groupName prio) : (s.setGroup groupName prio queue).queue q = s.queue q := by
  cases q with
  | context k => rfl
  | run g i =>
    show Function.update s.crGroup groupName _ g i = s.crGroup g i
    by_cases hg : g = groupName
    · subst hg
      have hi : i ≠ prio := fun heq => hq (heq ▸ rfl)
      rw [Function.update_self, Function.update_of_ne hi]
    · rw [Function.update_of_ne hg]

/-- The pool takes what is no choreography processor's. -/
theorem Conf.HasPlace.not_lt_iff {pid : BitVec 32} (h : conf.HasPlace pid) :
    ¬ pid < conf.procNum ↔ pid = -1 := by
  constructor
  · intro hlt
    rcases h with hpool | ⟨_, hctx⟩
    · exact hpool
    · exact absurd hctx hlt
  · intro hpool
    subst hpool
    have hmax := conf.procNum.isLt
    rw [BitVec.lt_def]
    have hall : (-1 : BitVec 32).toNat = 2 ^ 32 - 1 := rfl
    omega

/-- Signed or not, the id of a choreography processor is the same. -/
theorem Conf.HasPlace.toInt {pid : BitVec 32} (h : conf.HasPlace pid) (hpool : pid ≠ -1) :
    pid.toInt = .ofNat pid.toNat ∧ pid.toNat < conf.procNum.toNat := by
  rcases h with heq | ⟨hnonneg, hlt⟩
  · exact absurd heq hpool
  · refine ⟨?_, BitVec.lt_def.mp hlt⟩
    rw [BitVec.toInt_eq_toNat_cond] at hnonneg ⊢
    split at hnonneg
    · next hsmall =>
      rw [if_pos hsmall]
      rfl
    · have hmax := pid.isLt
      omega

theorem choreographyAt_ofNat {pctxs : List (Context Rid)} {k : Nat}
    {ctx : ChoreographyContext Rid} (hk : pctxs[k]? = some (.choreography ctx)) :
    choreographyAt pctxs (.ofNat k) = .ok (k, ctx) := by
  rw [choreographyAt, hk]

end places

/-! ## Section 3: Parts of the calls -/

section calls
variable {Rid Id : Type} [DecidableEq Rid] [DecidableEq Id] {conf : Conf Rid Id}
  {s s' : State Rid Id} {r : Rid}

/-- What the enqueueing part of `DispatchTask` did. -/
structure Enqueued (conf : Conf Rid Id) (s s' : State Rid Id) (r : Rid) : Prop where
  inserts     : Inserts s.queue s'.queue r (s'.place r)
  created     : Created conf s'.pctxs
  idCr        : s'.idCr = s.idCr
  processorId : s'.processorId = s.processorId
  groupName   : ∀ x, x ≠ r → s'.groupName x = s.groupName x
  priority    : ∀ x, x ≠ r → s'.priority x = s.priority x
  bounded     : s.processorId r = -1 → s'.priority r = min (s.priority r) (maxPrio - 1)
  dispatched  : s'.dispatched = s.dispatched
  fault       : s'.fault = s.fault

omit [DecidableEq Id] in
theorem enqueuePool_queue : (s.enqueuePool r).queue =
    (s.setGroup defaultGroupName (min (s.priority r) (maxPrio - 1))
      (s.crGroup defaultGroupName (min (s.priority r) (maxPrio - 1)) ++ [r])).queue := rfl

omit [DecidableEq Id] in
theorem enqueue_enqueued (hcreated : Created conf s.pctxs)
    (hplace : conf.HasPlace (s.processorId r)) :
    ∃ s', s.enqueue conf r = .ok s' ∧ Enqueued conf s s' r := by
  unfold State.enqueue
  by_cases hpool : s.processorId r = -1
  · -- into the pool
    rw [if_neg (hplace.not_lt_iff.mpr hpool)]
    refine ⟨s.enqueuePool r, rfl, ?_⟩
    have hat : (s.enqueuePool r).place r =
        .run defaultGroupName (min (s.priority r) (maxPrio - 1)) := by
      rw [place_pool (s := s.enqueuePool r) hpool]
      simp only [State.enqueuePool, Function.update_self]
    constructor
    case inserts =>
      rw [hat]
      refine ⟨⟨_, [], (List.append_nil _).symm, ?_⟩, ?_⟩
      · rw [enqueuePool_queue, setGroup_queue_self]
        rfl
      · intro q hq
        rw [enqueuePool_queue, setGroup_queue_of_ne hq]
    case created => exact hcreated
    case groupName => exact fun x hx => Function.update_of_ne hx _ _
    case priority => exact fun x hx => Function.update_of_ne hx _ _
    case bounded => exact fun _ => Function.update_self ..
    all_goals rfl
  · -- into the queue of a choreography context
    obtain ⟨_, hlt⟩ := hplace.toInt hpool
    obtain ⟨ctx, hctx⟩ := hcreated _ hlt
    rw [if_pos (BitVec.lt_def.mpr hlt)]
    have hat : choreographyAt s.pctxs (s.processorId r).toNat =
        .ok ((s.processorId r).toNat, ctx) :=
      choreographyAt_ofNat hctx
    rw [hat]
    refine ⟨s.setContext (s.processorId r).toNat (ctx.enqueue (s.priority r) r), rfl, ?_⟩
    have hplaced : (s.setContext (s.processorId r).toNat (ctx.enqueue (s.priority r) r)).place r =
        .context (s.processorId r).toNat := place_context hpool
    constructor
    case inserts =>
      rw [hplaced]
      -- behind the routines of the same or a higher priority
      refine ⟨⟨(ctx.crQueue.takeWhile fun x => s.priority r ≤ x.1).map Prod.snd,
        (ctx.crQueue.dropWhile fun x => s.priority r ≤ x.1).map Prod.snd, ?_, ?_⟩, ?_⟩
      · rw [← List.map_append, List.takeWhile_append_dropWhile]
        show contextQueue s.pctxs[(s.processorId r).toNat]? = _
        rw [hctx]
        rfl
      · rw [setContext_queue_self hctx]
        exact List.map_append
      · intro q hq
        exact setContext_queue_of_ne hq
    case created => exact hcreated.setContext hctx
    case bounded => exact fun hpid => absurd hpid hpool
    all_goals intros; rfl

/-- What the dequeueing part of `RemoveCRoutine` did. -/
structure Dequeued (conf : Conf Rid Id) (s s' : State Rid Id) (i : Id) (p : Place) : Prop where
  erases      : Erases conf.id s.queue s'.queue i p
  created     : Created conf s'.pctxs
  idCr        : s'.idCr = s.idCr
  processorId : s'.processorId = s.processorId
  groupName   : s'.groupName = s.groupName
  priority    : s'.priority = s.priority
  dispatched  : s'.dispatched = s.dispatched
  fault       : s'.fault = s.fault

theorem dequeue_dequeued (hcreated : Created conf s.pctxs)
    (hplace : conf.HasPlace (s.processorId r))
    (hprio : s.processorId r = -1 → s.priority r < maxPrio)
    (honly : OnlyAt conf.id s.queue r (s.place r)) :
    ∃ s', s.dequeue conf (conf.id r) (s.priority r) (s.processorId r) (s.groupName r) =
      .ok (s', true) ∧ Dequeued conf s s' (conf.id r) (s.place r) := by
  unfold State.dequeue
  -- the only routine of the id is where its members say, so it is found
  have hfind := honly.find?
  by_cases hpool : s.processorId r = -1
  · -- out of the pool
    rw [place_pool hpool] at hfind ⊢
    have hqueue :
        (s.crGroup (s.groupName r) (s.priority r)).find? (fun x => conf.id x = conf.id r) =
        some r := hfind
    rw [if_pos hpool, if_neg (Nat.not_le.mpr (hprio hpool))]
    simp only [hqueue]
    refine ⟨_, rfl, ?_⟩
    constructor
    case erases =>
      refine ⟨setGroup_queue_self, ?_⟩
      intro q hq
      exact setGroup_queue_of_ne hq
    case created => exact hcreated
    all_goals rfl
  · -- out of the queue of a choreography context
    obtain ⟨hint, hlt⟩ := hplace.toInt hpool
    obtain ⟨ctx, hctx⟩ := hcreated _ hlt
    rw [place_context hpool] at hfind ⊢
    have hqueue : s.queue (.context (s.processorId r).toNat) = ctx.crQueue.map Prod.snd := by
      show contextQueue s.pctxs[(s.processorId r).toNat]? = _
      rw [hctx]
      rfl
    rw [hqueue, List.find?_map, Option.map_eq_some_iff] at hfind
    obtain ⟨x, hx, _⟩ := hfind
    have hx' : ctx.crQueue.find? (fun x => conf.id x.2 = conf.id r) = some x := hx
    rw [if_neg hpool, hint, choreographyAt_ofNat hctx]
    refine ⟨(s.stop x.2).setContext (s.processorId r).toNat
      (ctx.removeCRoutine conf.id (conf.id r)),
      ?_, ?_⟩
    · simp only [Bind.bind, Except.bind, hx']
      rfl
    · constructor
      case erases =>
        refine ⟨?_, ?_⟩
        · rw [setContext_queue_self (s := s.stop x.2) hctx, hqueue, List.eraseP_map]
          rfl
        · intro q hq
          exact setContext_queue_of_ne hq
      case created => exact hcreated.setContext (s := s.stop x.2) hctx
      all_goals rfl

/-! ### Calls -/

omit [DecidableEq Id] in
theorem assign_idCr : (s.assign conf r).idCr = s.idCr := by
  unfold State.assign
  split <;> rfl

omit [DecidableEq Id] in
theorem assign_queue : (s.assign conf r).queue = s.queue := by
  unfold State.assign
  split <;> rfl

omit [DecidableEq Id] in
theorem assign_pctxs : (s.assign conf r).pctxs = s.pctxs := by
  unfold State.assign
  split <;> rfl

omit [DecidableEq Id] in
theorem assign_groupName : (s.assign conf r).groupName = s.groupName := by
  unfold State.assign
  split <;> rfl

omit [DecidableEq Id] in
theorem assign_dispatched : (s.assign conf r).dispatched = s.dispatched := by
  unfold State.assign
  split <;> rfl

omit [DecidableEq Id] in
theorem assign_fault : (s.assign conf r).fault = s.fault := by
  unfold State.assign
  split <;> rfl

omit [DecidableEq Id] in
theorem assign_of_ne {x : Rid} (hx : x ≠ r) :
    (s.assign conf r).processorId x = s.processorId x ∧
      (s.assign conf r).priority x = s.priority x := by
  unfold State.assign
  split
  · exact ⟨rfl, rfl⟩
  · exact ⟨Function.update_of_ne hx _ _, Function.update_of_ne hx _ _⟩

omit [DecidableEq Id] in
theorem assign_of_task {task : ChoreographyTask} (htask : conf.crConf r = some task) :
    (s.assign conf r).processorId r = task.processor.getD (s.processorId r) ∧
      (s.assign conf r).priority r = task.prio := by
  unfold State.assign
  rw [htask]
  exact ⟨Function.update_self .., Function.update_self ..⟩

omit [DecidableEq Id] in
theorem assign_of_none (htask : conf.crConf r = none) : s.assign conf r = s := by
  unfold State.assign
  rw [htask]

theorem dispatchTask_registered (h : s.idCr (conf.id r) ≠ none) :
    dispatchTask conf s r = .ok (s.assign conf r, false) := by
  have hsome : ((s.assign conf r).idCr (conf.id r)).isSome := by
    rw [assign_idCr, Option.isSome_iff_ne_none]
    exact h
  unfold dispatchTask
  rw [if_pos hsome]
  rfl

/-- The state in which `DispatchTask` enqueues the routine. -/
def State.register (conf : Conf Rid Id) (s : State Rid Id) (r : Rid) : State Rid Id :=
  { s.assign conf r with idCr := Function.update (s.assign conf r).idCr (conf.id r) (some r) }

theorem dispatchTask_enqueued (h : s.idCr (conf.id r) = none) (hcreated : Created conf s.pctxs)
    (hplace : conf.HasPlace ((s.assign conf r).processorId r)) :
    ∃ s', dispatchTask conf s r = .ok (s', true) ∧ Enqueued conf (s.register conf r) s' r := by
  have hcreated' : Created conf (s.register conf r).pctxs := by
    show Created conf (s.assign conf r).pctxs
    rw [assign_pctxs]
    exact hcreated
  obtain ⟨s', henqueue, hs'⟩ := enqueue_enqueued hcreated' hplace
  refine ⟨s', ?_, hs'⟩
  have hnone : ¬ ((s.assign conf r).idCr (conf.id r)).isSome := by
    rw [assign_idCr, h]
    nofun
  unfold dispatchTask
  rw [if_neg hnone]
  show (do let s ← State.enqueue conf (s.register conf r) r; return (s, true)) =
    Except.ok (s', true)
  rw [henqueue]
  rfl

/-- The state in which `RemoveCRoutine` looks for the routine. -/
def State.unregister (s : State Rid Id) (i : Id) (r : Rid) : State Rid Id :=
  { s.stop r with idCr := Function.update s.idCr i none }

theorem removeCRoutine_dequeued (h : s.idCr (conf.id r) = some r) (hcreated : Created conf s.pctxs)
    (hplace : conf.HasPlace (s.processorId r))
    (hprio : s.processorId r = -1 → s.priority r < maxPrio)
    (honly : OnlyAt conf.id s.queue r (s.place r)) :
    ∃ s', removeCRoutine conf s (conf.id r) = .ok (s', true) ∧
      Dequeued conf (s.unregister (conf.id r) r) s' (conf.id r) (s.place r) := by
  obtain ⟨s', hdequeue, hs'⟩ :=
    dequeue_dequeued (s := s.unregister (conf.id r) r) hcreated hplace hprio honly
  refine ⟨s', ?_, hs'⟩
  unfold removeCRoutine
  rw [h]
  exact hdequeue

/-- What `NotifyProcessor` did for a routine that is registered. -/
structure Notified (conf : Conf Rid Id) (s s' : State Rid Id) (p : Place) : Prop where
  notices     : s'.notices = s.notices ++ [p.notice]
  queue       : s'.queue = s.queue
  created     : Created conf s'.pctxs
  idCr        : s'.idCr = s.idCr
  processorId : s'.processorId = s.processorId
  groupName   : s'.groupName = s.groupName
  priority    : s'.priority = s.priority
  dispatched  : s'.dispatched = s.dispatched
  fault       : s'.fault = s.fault

omit [DecidableEq Id] in
theorem notifyProcessor_notified {i : Id} (h : s.idCr i = some r) (hcreated : Created conf s.pctxs)
    (hplace : conf.HasPlace (s.processorId r)) :
    ∃ s', notifyProcessor s i = .ok (s', true) ∧ Notified conf s s' (s.place r) := by
  unfold notifyProcessor
  rw [h]
  -- the update flag plays no part
  generalize hflag : (if CRoutine.waits (s.routines r).state = true then s.setUpdateFlag r
    else s) = t
  have ht : t = { s with routines := t.routines } := by
    rw [← hflag]
    split <;> rfl
  simp only [hflag]
  rw [ht]
  by_cases hpool : s.processorId r = -1
  · rw [if_neg (not_not.mpr hpool), place_pool hpool]
    refine ⟨_, rfl, ?_⟩
    constructor
    case created => exact hcreated
    all_goals rfl
  · obtain ⟨hint, hlt⟩ := hplace.toInt hpool
    obtain ⟨ctx, hctx⟩ := hcreated _ hlt
    rw [if_pos hpool, place_context hpool]
    dsimp only
    rw [hint, choreographyAt_ofNat hctx]
    refine ⟨_, rfl, ?_⟩
    constructor
    case queue => exact setContext_queue_same hctx rfl
    case created => exact hcreated.setContext hctx
    all_goals rfl

end calls

/-! ## Section 4: Invariant -/

section invariant
variable {Rid Id : Type} [DecidableEq Rid] [DecidableEq Id] {conf : Conf Rid Id}
  {s s' : State Rid Id} {r : Rid} {i : Id}

/-- What a registered routine records says where it is. -/
structure Registered (conf : Conf Rid Id) (s : State Rid Id) (i : Id) (r : Rid) : Prop where
  id         : conf.id r = i
  hasPlace   : conf.HasPlace (s.processorId r)
  onlyAt     : OnlyAt conf.id s.queue r (s.place r)
  inRange    : s.processorId r = -1 → s.priority r < maxPrio
  configured : ∀ task, conf.crConf r = some task →
    task.processor.getD (s.processorId r) = s.processorId r ∧
    (s.processorId r = -1 → min task.prio (maxPrio - 1) = s.priority r)

/-- **Invariant**. -/
structure Inv (conf : Conf Rid Id) (s : State Rid Id) : Prop where
  faultless    : s.fault = none
  created      : Created conf s.pctxs
  dispatched   : ∀ r, s.dispatched r = true → s.idCr (conf.id r) = some r
  registered   : ∀ i r, s.idCr i = some r → Registered conf s i r
  unregistered : ∀ i, s.idCr i = none → Absent conf.id s.queue i

omit [DecidableEq Rid] in
/-- What is recorded of a routine and queued under its id stays. -/
theorem Registered.frame (h : Registered conf s i r)
    (hqueue : ∀ q, withKey conf.id i (s'.queue q) = withKey conf.id i (s.queue q))
    (hprocessorId : s'.processorId r = s.processorId r)
    (hpriority : s.processorId r = -1 → s'.priority r = s.priority r)
    (hgroupName : s'.groupName r = s.groupName r) : Registered conf s' i r := by
  have hplace : s'.place r = s.place r := by
    by_cases hpool : s.processorId r = -1
    · rw [place_pool hpool, place_pool (hprocessorId.trans hpool), hpriority hpool, hgroupName]
    · have hpool' : s'.processorId r ≠ -1 := by
        rw [hprocessorId]
        exact hpool
      rw [place_context hpool, place_context hpool', hprocessorId]
  have hid := h.id
  subst hid
  constructor
  · exact h.id
  · rw [hprocessorId]
    exact h.hasPlace
  · rw [hplace]
    exact h.onlyAt.frame hqueue
  · intro hpool
    rw [hprocessorId] at hpool
    rw [hpriority hpool]
    exact h.inRange hpool
  · intro task htask
    obtain ⟨hpid, hprio⟩ := h.configured task htask
    rw [hprocessorId]
    refine ⟨hpid, ?_⟩
    intro hpool
    rw [hpriority hpool]
    exact hprio hpool

omit [DecidableEq Rid] in
/-- A step of no call that changes the registry. -/
theorem Inv.frame (h : Inv conf s) (hfault : s'.fault = s.fault)
    (hcreated : Created conf s'.pctxs) (hdispatched : s'.dispatched = s.dispatched)
    (hidCr : s'.idCr = s.idCr) (hqueue : s'.queue = s.queue)
    (hprocessorId : ∀ i r, s.idCr i = some r → s'.processorId r = s.processorId r)
    (hpriority : ∀ i r, s.idCr i = some r → s.processorId r = -1 →
      s'.priority r = s.priority r)
    (hgroupName : s'.groupName = s.groupName) : Inv conf s' := by
  constructor
  · rw [hfault]
    exact h.faultless
  · exact hcreated
  · rw [hdispatched, hidCr]
    exact h.dispatched
  · intro i r hr
    rw [hidCr] at hr
    refine (h.registered i r hr).frame ?_ (hprocessorId i r hr) (hpriority i r hr)
      (congrFun hgroupName r)
    intro q
    rw [hqueue]
  · intro i hi
    rw [hidCr] at hi
    rw [hqueue]
    exact h.unregistered i hi

/-- A routine is registered under its id and enqueued. -/
theorem Inv.enqueue (h : Inv conf s) (hfree : s.idCr (conf.id r) = none)
    (hplace : conf.HasPlace ((s.assign conf r).processorId r))
    (he : Enqueued conf (s.register conf r) s' r) :
    Inv conf { s' with dispatched := Function.update s'.dispatched r true } := by
  have hidCr : s'.idCr = Function.update s.idCr (conf.id r) (some r) := by
    rw [he.idCr]
    show Function.update (s.assign conf r).idCr _ _ = _
    rw [assign_idCr]
  have hinserts : Inserts s.queue s'.queue r (s'.place r) := by
    have hqueue : (s.register conf r).queue = s.queue := assign_queue
    rw [← hqueue]
    exact he.inserts
  constructor
  · show s'.fault = none
    rw [he.fault]
    exact assign_fault.trans h.faultless
  · exact he.created
  · intro x hx
    show s'.idCr (conf.id x) = some x
    have hx' : Function.update s'.dispatched r true x = true := hx
    by_cases hxr : x = r
    · rw [hxr, hidCr, Function.update_self]
    · have hold : s.dispatched x = true := by
        rw [Function.update_of_ne hxr, he.dispatched] at hx'
        rw [← assign_dispatched]
        exact hx'
      have hxid := h.dispatched x hold
      -- the id of `r` was free, so a routine in place has another one
      have hne : conf.id x ≠ conf.id r := by
        intro heq
        rw [heq, hfree] at hxid
        cases hxid
      rw [hidCr, Function.update_of_ne hne]
      exact hxid
  · intro i x hx
    have hx' : s'.idCr i = some x := hx
    rw [hidCr] at hx'
    by_cases hi : i = conf.id r
    · -- the routine that is registered now
      subst hi
      rw [Function.update_self] at hx'
      cases hx'
      constructor
      case id => rfl
      case hasPlace =>
        show conf.HasPlace (s'.processorId r)
        rw [he.processorId]
        exact hplace
      case onlyAt => exact (h.unregistered _ hfree).insert hinserts
      case inRange =>
        intro hpool
        show s'.priority r < maxPrio
        have hpool' : s'.processorId r = -1 := hpool
        rw [he.processorId] at hpool'
        -- the pool cuts the priority down to the last queue
        rw [he.bounded hpool']
        exact Nat.lt_of_le_of_lt (Nat.min_le_right _ _) (by decide)
      case configured =>
        intro task htask
        obtain ⟨hpid, hprio⟩ := assign_of_task (s := s) htask
        have hpid' : s'.processorId r = task.processor.getD (s.processorId r) := by
          rw [he.processorId]
          exact hpid
        refine ⟨?_, ?_⟩
        · show task.processor.getD (s'.processorId r) = s'.processorId r
          rw [hpid']
          cases task.processor with
          | none => rfl
          | some pid => rfl
        · intro hpool
          have hpool' : s'.processorId r = -1 := hpool
          rw [he.processorId] at hpool'
          show min task.prio (maxPrio - 1) = s'.priority r
          rw [he.bounded hpool']
          show _ = min ((s.assign conf r).priority r) _
          rw [hprio]
    · -- another id
      rw [Function.update_of_ne hi] at hx'
      have hreg := h.registered i x hx'
      have hxr : x ≠ r := by
        intro heq
        rw [heq] at hreg
        exact hi hreg.id.symm
      have hassign : (s.assign conf r).processorId x = s.processorId x ∧
          (s.assign conf r).priority x = s.priority x := assign_of_ne hxr
      obtain ⟨hpid, hprio⟩ := hassign
      refine hreg.frame (fun q => hinserts.withKey_of_ne (Ne.symm hi) q) ?_ ?_ ?_
      · show s'.processorId x = _
        rw [he.processorId]
        exact hpid
      · exact fun _ => (he.priority x hxr).trans hprio
      · refine (he.groupName x hxr).trans ?_
        exact congrFun assign_groupName x
  · intro i hi
    have hi' : s'.idCr i = none := hi
    rw [hidCr] at hi'
    have hne : i ≠ conf.id r := by
      intro heq
      rw [heq, Function.update_self] at hi'
      cases hi'
    rw [Function.update_of_ne hne] at hi'
    exact (h.unregistered i hi').frame fun q => hinserts.withKey_of_ne (Ne.symm hne) q

/-- `DispatchTask` of an id that is registered. -/
theorem Inv.assign (h : Inv conf s)
    (hagain : s.idCr (conf.id r) = some r → s.processorId r = -1 →
      (s.assign conf r).priority r < maxPrio) : Inv conf (s.assign conf r) := by
  refine h.frame assign_fault ?_ assign_dispatched assign_idCr assign_queue ?_ ?_ assign_groupName
  · rw [assign_pctxs]
    exact h.created
  · intro i x hx
    by_cases hxr : x = r
    · subst hxr
      cases htask : conf.crConf x with
      | none => rw [assign_of_none htask]
      | some task =>
        rw [(assign_of_task htask).1]
        exact ((h.registered i x hx).configured task htask).1
    · exact (assign_of_ne hxr).1
  · intro i x hx hpool
    by_cases hxr : x = r
    · subst hxr
      cases htask : conf.crConf x with
      | none => rw [assign_of_none htask]
      | some task =>
        have hreg := h.registered i x hx
        have hprio := (hreg.configured task htask).2 hpool
        have hbound := hagain (by rw [hreg.id]; exact hx) hpool
        rw [(assign_of_task htask).2] at hbound ⊢
        rw [← hprio]
        exact (Nat.min_eq_left (Nat.le_sub_one_of_lt hbound)).symm
    · exact (assign_of_ne hxr).2

/-- A routine is taken out of the registry and dequeued. -/
theorem Inv.dequeue (h : Inv conf s) (hr : s.idCr (conf.id r) = some r)
    (hd : Dequeued conf (s.unregister (conf.id r) r) s' (conf.id r) (s.place r)) :
    Inv conf { s' with dispatched := fun x => s'.dispatched x && conf.id x ≠ conf.id r } := by
  have hidCr : s'.idCr = Function.update s.idCr (conf.id r) none := hd.idCr
  have herases : Erases conf.id s.queue s'.queue (conf.id r) (s.place r) := hd.erases
  constructor
  · exact hd.fault.trans h.faultless
  · exact hd.created
  · intro x hx
    have hx' : (s'.dispatched x && decide (conf.id x ≠ conf.id r)) = true := hx
    rw [Bool.and_eq_true, decide_eq_true_iff, hd.dispatched] at hx'
    show s'.idCr (conf.id x) = some x
    rw [hidCr, Function.update_of_ne hx'.2]
    exact h.dispatched x hx'.1
  · intro i x hx
    have hx' : s'.idCr i = some x := hx
    rw [hidCr] at hx'
    have hi : i ≠ conf.id r := by
      intro heq
      rw [heq, Function.update_self] at hx'
      cases hx'
    rw [Function.update_of_ne hi] at hx'
    exact (h.registered i x hx').frame (fun q => herases.withKey_of_ne hi q)
      (congrFun hd.processorId x) (fun _ => congrFun hd.priority x) (congrFun hd.groupName x)
  · intro i hi
    have hi' : s'.idCr i = none := hi
    rw [hidCr] at hi'
    by_cases hir : i = conf.id r
    · -- the queue had nothing else of the id
      rw [hir]
      exact (h.registered _ r hr).onlyAt.erase herases
    · rw [Function.update_of_ne hir] at hi'
      exact (h.unregistered i hi').frame fun q => herases.withKey_of_ne hir q

/-- **Step lemma**. -/
theorem Inv.step (a : Label Rid Id) (h : Inv conf s)
    (hg : ((schedulerChoreography conf).action a).gate s) (hok : Placed conf s a) :
    Inv conf (((schedulerChoreography conf).action a).effect s) := by
  cases a with
  | dispatchTask r =>
    dsimp only [schedulerChoreography]
    by_cases hfree : s.idCr (conf.id r) = none
    · obtain ⟨s', hcall, hs'⟩ := dispatchTask_enqueued hfree h.created (hok.1 hfree)
      rw [hcall]
      exact h.enqueue hfree (hok.1 hfree) hs'
    · rw [dispatchTask_registered hfree]
      exact h.assign hok.2
  | notifyProcessor i =>
    dsimp only [schedulerChoreography]
    cases hr : s.idCr i with
    | none =>
      have hcall : notifyProcessor s i = .ok (s, false) := by
        unfold notifyProcessor
        rw [hr]
        rfl
      rw [hcall]
      exact h
    | some r =>
      obtain ⟨s', hcall, hs'⟩ :=
        notifyProcessor_notified hr h.created (h.registered i r hr).hasPlace
      rw [hcall]
      exact h.frame hs'.fault hs'.created hs'.dispatched hs'.idCr hs'.queue
        (fun _ x _ => congrFun hs'.processorId x) (fun _ x _ _ => congrFun hs'.priority x)
        hs'.groupName
  | removeCRoutine i =>
    dsimp only [schedulerChoreography]
    cases hr : s.idCr i with
    | none =>
      have hcall : removeCRoutine conf s i = .ok (s, false) := by
        unfold removeCRoutine
        rw [hr]
        rfl
      rw [hcall]
      show Inv conf { s with dispatched := fun x => s.dispatched x && conf.id x ≠ i }
      refine ⟨h.faultless, h.created, ?_, ?_, h.unregistered⟩
      · intro x hx
        have hx' : (s.dispatched x && decide (conf.id x ≠ i)) = true := hx
        rw [Bool.and_eq_true] at hx'
        exact h.dispatched x hx'.1
      · intro j x hx
        exact (h.registered j x hx).frame (fun _ => rfl) rfl (fun _ => rfl) rfl
    | some r =>
      have hreg := h.registered i r hr
      have hid := hreg.id
      subst hid
      obtain ⟨s', hcall, hs'⟩ :=
        removeCRoutine_dequeued hr h.created hreg.hasPlace hreg.inRange hreg.onlyAt
      rw [hcall]
      exact h.dequeue hr hs'
  | setState r state =>
    exact h.frame rfl h.created rfl rfl rfl (fun _ _ _ => rfl) (fun _ _ _ _ => rfl) rfl
  | clearNotified k ctx =>
    exact h.frame rfl (h.created.setContext hg.2) rfl rfl (setContext_queue_same hg.2 rfl)
      (fun _ _ _ => rfl) (fun _ _ _ _ => rfl) rfl

theorem inv_init (hi : (schedulerChoreography conf).init s) : Inv conf s := by
  obtain ⟨hidCr, hpctxs, hcrGroup, _, hdispatched, hfault⟩ := hi
  constructor
  · exact hfault
  · rw [hpctxs]
    exact created_createProcessor conf
  · intro r hr
    rw [hdispatched] at hr
    cases hr
  · intro i r hr
    rw [hidCr] at hr
    cases hr
  · intro i _ q
    cases q with
    | context k =>
      have hqueue : s.queue (.context k) = [] := by
        show contextQueue s.pctxs[k]? = []
        rw [hpctxs, createProcessor, List.getElem?_append]
        split
        · rw [List.getElem?_replicate]
          split <;> rfl
        · rw [List.getElem?_replicate]
          split <;> rfl
      rw [hqueue]
      rfl
    | run groupName prio =>
      have hqueue : s.queue (.run groupName prio) = [] := hcrGroup groupName prio
      rw [hqueue]
      rfl

/-- A registered routine is notified and removed where it is. -/
theorem Inv.agrees (h : Inv conf s) : Agrees conf s := by
  refine ⟨h.faultless, ?_, ?_⟩
  · intro r hr
    have hreg := h.registered _ r (h.dispatched r hr)
    obtain ⟨s', hcall, hs'⟩ := notifyProcessor_notified (h.dispatched r hr) h.created hreg.hasPlace
    exact ⟨s', s.place r, hcall, hs'.notices, fun q => hreg.onlyAt.mem_iff⟩
  · intro r hr
    have hreg := h.registered _ r (h.dispatched r hr)
    obtain ⟨s', hcall, hs'⟩ := removeCRoutine_dequeued (h.dispatched r hr) h.created hreg.hasPlace
      hreg.inRange hreg.onlyAt
    exact ⟨s', hcall, (hreg.onlyAt.erase hs'.erases).not_mem⟩

/-- **Main result**: dispatch, notification and removal agree. -/
theorem schedulerChoreography_agrees
    (h : ((schedulerChoreography conf).restrict (Placed conf)).Reachable s) : Agrees conf s := by
  have hinv : Inv conf s := by
    apply System.invariant _ _ h
    · intro s hi
      exact inv_init hi
    · intro s a hs hg
      exact hs.step a hg.1 hg.2
  exact hinv.agrees

end invariant

/-! ## Section 5: One routine -/

/-- One choreography processor, one pool processor, and a task. -/
def oneTask (task : ChoreographyTask) : Conf Unit Unit := ⟨id, fun _ => some task, 1, 1⟩

section decidable

instance decidableHasPlace (conf : Conf Unit Unit) (pid : BitVec 32) :
    Decidable (conf.HasPlace pid) :=
  inferInstanceAs (Decidable (_ ∨ _ ∧ _))

instance decidablePlaced (conf : Conf Unit Unit) (s : State Unit Unit) :
    (a : Label Unit Unit) → Decidable (Placed conf s a)
  | .dispatchTask _    => inferInstanceAs (Decidable ((_ → _) ∧ (_ → _ → _)))
  | .notifyProcessor _ => .isTrue trivial
  | .removeCRoutine _  => .isTrue trivial
  | .setState _ _      => .isTrue trivial
  | .clearNotified _ _ => .isTrue trivial

instance decidableGate (conf : Conf Unit Unit) :
    (a : Label Unit Unit) → (s : State Unit Unit) →
      Decidable (((schedulerChoreography conf).action a).gate s)
  | .dispatchTask _, _    => inferInstanceAs (Decidable (_ = _))
  | .notifyProcessor _, _ => inferInstanceAs (Decidable (_ = _))
  | .removeCRoutine _, _  => inferInstanceAs (Decidable (_ = _))
  | .setState _ _, _      => inferInstanceAs (Decidable (_ = _))
  | .clearNotified _ _, _ => inferInstanceAs (Decidable (_ = _ ∧ _ = _))

end decidable

/-- The state after `CreateProcessor`, with a new routine. -/
def initial (conf : Conf Unit Unit) : State Unit Unit where
  idCr        := fun _ => none
  pctxs       := createProcessor conf
  crGroup     := fun _ _ => []
  routines    := fun _ => .new
  forceStop   := fun _ => false
  processorId := fun _ => -1
  priority    := fun _ => 0
  groupName   := fun _ => ""
  notices     := []
  dispatched  := fun _ => false
  fault       := none

theorem initial_init (conf : Conf Unit Unit) : (schedulerChoreography conf).init (initial conf) :=
  ⟨fun _ => rfl, rfl, fun _ _ => rfl, rfl, fun _ => rfl, rfl⟩

/-- Dispatched, notified, removed and dispatched once more. -/
def dispatchedAgain : List (Label Unit Unit) :=
  [.dispatchTask (), .notifyProcessor (), .removeCRoutine (), .dispatchTask ()]

/-- A routine of the pool with a priority beyond the last one. -/
theorem schedulerChoreography_agrees_dispatchedAgain :
    let s := (schedulerChoreography (oneTask ⟨none, 25⟩)).exec (initial (oneTask ⟨none, 25⟩))
      dispatchedAgain
    s.dispatched () = true ∧ Agrees (oneTask ⟨none, 25⟩) s := by
  refine ⟨by decide, ?_⟩
  have hreach := System.reachable_exec
    ((schedulerChoreography (oneTask ⟨none, 25⟩)).restrict (Placed (oneTask ⟨none, 25⟩)))
    (initial_init (oneTask ⟨none, 25⟩)) dispatchedAgain
    (by decide)
  exact schedulerChoreography_agrees hreach

/-- The task's processor is that of the pool: `NotifyProcessor` uses its
    `ClassicContext` as a `ChoreographyContext`. -/
theorem schedulerChoreography_castsClassic :
    ¬ ∀ s : State Unit Unit, (schedulerChoreography (oneTask ⟨some 1, 1⟩)).Reachable s →
      Agrees (oneTask ⟨some 1, 1⟩) s := by
  intro hall
  have hreach := System.reachable_exec (schedulerChoreography (oneTask ⟨some 1, 1⟩))
    (initial_init (oneTask ⟨some 1, 1⟩)) [.dispatchTask (), .notifyProcessor ()]
    (by decide)
  have hfault : ((schedulerChoreography (oneTask ⟨some 1, 1⟩)).exec (initial (oneTask ⟨some 1, 1⟩))
      [.dispatchTask (), .notifyProcessor ()]).fault = some .notChoreography := by decide
  have hfaultless := (hall _ hreach).faultless
  rw [hfault] at hfaultless
  cases hfaultless

end CyberRT.Scheduler.SchedulerChoreography
