import CyberRT.Framework.Placement
import CyberRT.Scheduler.SchedulerClassic

/-! # Registry and run queues of the classic scheduler

    The mutex of an id makes one call work on the id at a time. What its
    place in the code says about the registry and the run queues is the
    phase of the id; outside of calls the two agree. -/

namespace CyberRT.Scheduler.SchedulerClassic

open CyberRT.Framework CyberRT.Croutine

variable {Pid Cid Rid Id G : Type} [DecidableEq Id]

/-! ## Section 1: The property -/

/-- No routine with id `i` is in a run queue. -/
def Absent (conf : Conf Pid Rid Id G) (rq : G → Nat → List Rid) (i : Id) : Prop :=
  ∀ g prio, (rq g prio).filter (fun x => conf.id x = i) = []

variable [DecidableEq G]

/-- Of all routines with id `i`, `r` alone is in a run queue: once, in the
    queue of `g` and `prio`. -/
def QueuedAt (conf : Conf Pid Rid Id G) (rq : G → Nat → List Rid) (i : Id) (r : Rid) (g : G)
    (prio : Nat) : Prop :=
  conf.id r = i ∧ ∀ g' prio', (rq g' prio').filter (fun x => conf.id x = i) =
    if g' = g ∧ prio' = prio then [r] else []

/-- The id a caller works on. -/
def CallerPc.works (id : Rid → Id) : CallerPc Rid Id G → Option Id
  | .idle => none
  | .lockDispatch r | .notify r => some (id r)
  | .lockRemove i => some i
  | pc => pc.holdsId id

/-- The registry and the run queues agree on `i`. -/
structure RegistryAgrees (conf : Conf Pid Rid Id G) (s : State Pid Cid Rid Id G) (i : Id) :
    Prop where
  registered   : ∀ r, s.idCr i = some r →
    QueuedAt conf s.rq i r (s.groupName r) (s.priority r)
  unregistered : s.idCr i = none → Absent conf s.rq i
  iff          : (s.idCr i).isSome ↔
    ∃ r, QueuedAt conf s.rq i r (s.groupName r) (s.priority r)

/-! ## Section 2: Run queues -/

theorem Absent.not_queuedAt {conf : Conf Pid Rid Id G} {rq : G → Nat → List Rid} {i : Id}
    (h : Absent conf rq i) {r : Rid} {g : G} {prio : Nat} : ¬ QueuedAt conf rq i r g prio := by
  intro hq
  have hfilter := hq.2 g prio
  rw [h g prio, if_pos ⟨rfl, rfl⟩] at hfilter
  cases hfilter

/-- The search finds the routine that was registered. -/
theorem QueuedAt.find? {conf : Conf Pid Rid Id G} {rq : G → Nat → List Rid} {i : Id} {r : Rid}
    {g : G} {prio : Nat} (h : QueuedAt conf rq i r g prio) :
    (rq g prio).find? (fun x => conf.id x = i) = some r := by
  rw [← List.head?_filter, h.2 g prio, if_pos ⟨rfl, rfl⟩]
  rfl

omit [DecidableEq G] in
/-- A routine of an absent id is in no queue. -/
theorem Absent.not_mem {conf : Conf Pid Rid Id G} {rq : G → Nat → List Rid} {r : Rid}
    (h : Absent conf rq (conf.id r)) (g : G) (prio : Nat) : r ∉ rq g prio := by
  intro hmem
  have hfilter : r ∈ (rq g prio).filter (fun x => conf.id x = conf.id r) :=
    List.mem_filter.mpr ⟨hmem, by simp⟩
  rw [h g prio] at hfilter
  cases hfilter

/-! ## Section 3: Phases of an id -/

section phases
variable (conf : Conf Pid Rid Id G) (s : State Pid Cid Rid Id G) (i : Id)

/-- The registry and the run queues agree on `i`. -/
structure Settled : Prop where
  registered   : ∀ r, s.idCr i = some r →
    QueuedAt conf s.rq i r (s.groupName r) (s.priority r)
  unregistered : s.idCr i = none → Absent conf s.rq i

/-- What the place of the call that works on `i` says about `i`. -/
def Phase : CallerPc Rid Id G → Prop
  | .configure r | .insert r => s.idCr i = some r ∧ Absent conf s.rq i
  | .lockQueue _ g prio | .search _ g prio =>
    s.idCr i = none ∧ ∃ r, QueuedAt conf s.rq i r g prio ∧ s.forceStop r = true
  | .acquire _ g prio r | .eraseQueue _ g prio r =>
    s.idCr i = none ∧ QueuedAt conf s.rq i r g prio ∧ s.forceStop r = true
  | .release _ _ _ r | .unlockQueue _ _ _ (some r) | .unlockRemove _ (some r) =>
    s.idCr i = none ∧ Absent conf s.rq i ∧ conf.id r = i ∧ s.forceStop r = true
  | _ => Settled conf s i

end phases

section phase_steps
variable {conf : Conf Pid Rid Id G} {s s' : State Pid Cid Rid Id G} {i : Id}

/-- A step that leaves alone what is registered and queued under `i`. -/
structure SameId (conf : Conf Pid Rid Id G) (s s' : State Pid Cid Rid Id G) (i : Id) :
    Prop where
  idCr      : s'.idCr i = s.idCr i
  queues    : ∀ g prio, (s'.rq g prio).filter (fun x => conf.id x = i) =
    (s.rq g prio).filter (fun x => conf.id x = i)
  groupName : ∀ r, conf.id r = i → s'.groupName r = s.groupName r
  priority  : ∀ r, conf.id r = i → s'.priority r = s.priority r
  forceStop : ∀ r, s.forceStop r = true → s'.forceStop r = true

theorem SameId.queuedAt (h : SameId conf s s' i) {r : Rid} {g : G} {prio : Nat}
    (hq : QueuedAt conf s.rq i r g prio) : QueuedAt conf s'.rq i r g prio :=
  ⟨hq.1, fun g' prio' => (h.queues g' prio').trans (hq.2 g' prio')⟩

omit [DecidableEq G] in
theorem SameId.absent (h : SameId conf s s' i) (ha : Absent conf s.rq i) :
    Absent conf s'.rq i :=
  fun g prio => (h.queues g prio).trans (ha g prio)

theorem SameId.settled (h : SameId conf s s' i) (hs : Settled conf s i) : Settled conf s' i := by
  refine ⟨?_, ?_⟩
  · intro r hr
    rw [h.idCr] at hr
    have hq := hs.registered r hr
    rw [h.groupName r hq.1, h.priority r hq.1]
    exact h.queuedAt hq
  · intro hnone
    rw [h.idCr] at hnone
    exact h.absent (hs.unregistered hnone)

theorem SameId.phase (h : SameId conf s s' i) {pc : CallerPc Rid Id G}
    (hp : Phase conf s i pc) : Phase conf s' i pc := by
  cases pc with
  | configure r => exact ⟨h.idCr.trans hp.1, h.absent hp.2⟩
  | insert r => exact ⟨h.idCr.trans hp.1, h.absent hp.2⟩
  | lockQueue _ g prio =>
    obtain ⟨hid, r, hq, hstop⟩ := hp
    exact ⟨h.idCr.trans hid, r, h.queuedAt hq, h.forceStop r hstop⟩
  | search _ g prio =>
    obtain ⟨hid, r, hq, hstop⟩ := hp
    exact ⟨h.idCr.trans hid, r, h.queuedAt hq, h.forceStop r hstop⟩
  | acquire _ g prio r => exact ⟨h.idCr.trans hp.1, h.queuedAt hp.2.1, h.forceStop r hp.2.2⟩
  | eraseQueue _ g prio r => exact ⟨h.idCr.trans hp.1, h.queuedAt hp.2.1, h.forceStop r hp.2.2⟩
  | release _ _ _ r =>
    exact ⟨h.idCr.trans hp.1, h.absent hp.2.1, hp.2.2.1, h.forceStop r hp.2.2.2⟩
  | unlockQueue _ _ _ found =>
    cases found with
    | none => exact h.settled hp
    | some r => exact ⟨h.idCr.trans hp.1, h.absent hp.2.1, hp.2.2.1, h.forceStop r hp.2.2.2⟩
  | unlockRemove _ found =>
    cases found with
    | none => exact h.settled hp
    | some r => exact ⟨h.idCr.trans hp.1, h.absent hp.2.1, hp.2.2.1, h.forceStop r hp.2.2.2⟩
  | _ => exact h.settled hp

/-- **Invariant**: the mutexes are held by the calls at work, and every id
    is in the phase of the call that works on it. -/
structure IdInv (conf : Conf Pid Rid Id G) (s : State Pid Cid Rid Id G) : Prop where
  mutex : ∀ i c, s.idMutex i = some c ↔ (s.callers c).holdsId conf.id = some i
  free  : ∀ i, s.idMutex i = none → Settled conf s i
  phase : ∀ i c, (s.callers c).holdsId conf.id = some i → Phase conf s i (s.callers c)

/-- Nobody who calls the scheduler moves. -/
theorem IdInv.frame (h : IdInv conf s) (hmutex : s'.idMutex = s.idMutex)
    (hcallers : s'.callers = s.callers) (hsame : ∀ i, SameId conf s s' i) : IdInv conf s' := by
  refine ⟨?_, ?_, ?_⟩
  · intro i c
    rw [hmutex, hcallers]
    exact h.mutex i c
  · intro i hfree
    rw [hmutex] at hfree
    exact (hsame i).settled (h.free i hfree)
  · intro i c hc
    rw [hcallers] at hc ⊢
    exact (hsame i).phase (h.phase i c hc)

variable [DecidableEq Cid] {c : Cid} {pc : CallerPc Rid Id G}

/-- A caller moves without the mutex of an id. -/
theorem IdInv.outside (h : IdInv conf s) (hold : (s.callers c).holdsId conf.id = none)
    (hnew : pc.holdsId conf.id = none) (hmutex : s'.idMutex = s.idMutex)
    (hcallers : s'.callers = Function.update s.callers c pc)
    (hsame : ∀ i, SameId conf s s' i) : IdInv conf s' := by
  have hholds : ∀ d, (s'.callers d).holdsId conf.id = (s.callers d).holdsId conf.id := by
    intro d
    rw [hcallers]
    by_cases hd : d = c
    · rw [hd, Function.update_self, hnew, hold]
    · rw [Function.update_of_ne hd]
  refine ⟨?_, ?_, ?_⟩
  · intro i d
    rw [hmutex, hholds]
    exact h.mutex i d
  · intro i hfree
    rw [hmutex] at hfree
    exact (hsame i).settled (h.free i hfree)
  · intro i d hd
    rw [hholds] at hd
    have hne : d ≠ c := by
      intro heq
      rw [heq, hold] at hd
      cases hd
    rw [hcallers, Function.update_of_ne hne]
    exact (hsame i).phase (h.phase i d hd)

/-- The holder of the mutex of `i` moves and keeps it. -/
theorem IdInv.inside (h : IdInv conf s) (hold : (s.callers c).holdsId conf.id = some i)
    (hnew : pc.holdsId conf.id = some i) (hmutex : s'.idMutex = s.idMutex)
    (hcallers : s'.callers = Function.update s.callers c pc)
    (hsame : ∀ j, j ≠ i → SameId conf s s' j) (hphase : Phase conf s' i pc) : IdInv conf s' := by
  -- nobody takes or gives back a mutex in this step
  have hholds : ∀ d, (s'.callers d).holdsId conf.id = (s.callers d).holdsId conf.id := by
    intro d
    rw [hcallers]
    by_cases hd : d = c
    · rw [hd, Function.update_self, hnew, hold]
    · rw [Function.update_of_ne hd]
  have howner : s.idMutex i = some c := (h.mutex i c).mpr hold
  refine ⟨?_, ?_, ?_⟩
  · intro j d
    rw [hmutex, hholds]
    exact h.mutex j d
  · intro j hfree
    rw [hmutex] at hfree
    -- the mutex of `i` is held
    have hj : j ≠ i := by
      intro heq
      rw [heq, howner] at hfree
      cases hfree
    exact (hsame j hj).settled (h.free j hfree)
  · intro j d hd
    rw [hholds] at hd
    by_cases hdc : d = c
    · subst hdc
      rw [hold] at hd
      cases hd
      rw [hcallers, Function.update_self]
      exact hphase
    · -- another caller works on another id
      have hj : j ≠ i := by
        intro heq
        rw [heq, ← h.mutex, howner] at hd
        exact hdc (Option.some.inj hd).symm
      rw [hcallers, Function.update_of_ne hdc]
      exact (hsame j hj).phase (h.phase j d hd)

/-- A caller takes the mutex of `i`. -/
theorem IdInv.lock (h : IdInv conf s) (hfree : s.idMutex i = none)
    (hold : (s.callers c).holdsId conf.id = none) (hnew : pc.holdsId conf.id = some i)
    (hphase : Settled conf s i → Phase conf s i pc) :
    IdInv conf { s.setCaller c pc with idMutex := Function.update s.idMutex i (some c) } := by
  have hsame : ∀ j, SameId conf s
      { s.setCaller c pc with idMutex := Function.update s.idMutex i (some c) } j :=
    fun _ => ⟨rfl, fun _ _ => rfl, fun _ _ => rfl, fun _ _ => rfl, fun _ hr => hr⟩
  refine ⟨?_, ?_, ?_⟩
  · intro j d
    show Function.update s.idMutex i (some c) j = some d ↔
      (Function.update s.callers c pc d).holdsId conf.id = some j
    by_cases hd : d = c
    · subst hd
      rw [Function.update_self, hnew]
      -- `c` holds the mutex of `i` and no other
      by_cases hj : j = i
      · rw [hj, Function.update_self]
        exact iff_of_true rfl rfl
      · rw [Function.update_of_ne hj, h.mutex, hold]
        exact iff_of_false nofun fun heq => hj (Option.some.inj heq).symm
    · rw [Function.update_of_ne hd, ← h.mutex]
      by_cases hj : j = i
      · rw [hj, Function.update_self, hfree]
        exact iff_of_false (fun heq => hd (Option.some.inj heq).symm) nofun
      · rw [Function.update_of_ne hj]
  · intro j hj
    have hj' : Function.update s.idMutex i (some c) j = none := hj
    by_cases hji : j = i
    · rw [hji, Function.update_self] at hj'
      cases hj'
    · rw [Function.update_of_ne hji] at hj'
      exact (hsame j).settled (h.free j hj')
  · intro j d hd
    have hd' : (Function.update s.callers c pc d).holdsId conf.id = some j := hd
    show Phase conf _ j (Function.update s.callers c pc d)
    by_cases hdc : d = c
    · subst hdc
      rw [Function.update_self, hnew] at hd'
      -- the phase of `c` starts from what the free mutex guaranteed
      cases hd'
      rw [Function.update_self]
      exact (hsame i).phase (hphase (h.free i hfree))
    · rw [Function.update_of_ne hdc] at hd' ⊢
      exact (hsame j).phase (h.phase j d hd')

/-- A step inside a removal that changes nothing the phases look at. -/
theorem IdInv.goOn (h : IdInv conf s) {pc pc' : CallerPc Rid Id G} (hpc : s.callers c = pc)
    (hold : pc.holdsId conf.id = some i) (hnew : pc'.holdsId conf.id = some i)
    (hmutex : s'.idMutex = s.idMutex)
    (hcallers : s'.callers = Function.update s.callers c pc')
    (hsame : ∀ j, SameId conf s s' j) (hphase : Phase conf s i pc → Phase conf s i pc') :
    IdInv conf s' := by
  have hheld : (s.callers c).holdsId conf.id = some i := by rw [hpc]; exact hold
  have hp := h.phase i c hheld
  rw [hpc] at hp
  exact h.inside hheld hnew hmutex hcallers (fun j _ => hsame j) ((hsame i).phase (hphase hp))

/-- The holder of the mutex of `i` gives it back. -/
theorem IdInv.unlock (h : IdInv conf s) (hold : (s.callers c).holdsId conf.id = some i)
    (hnew : pc.holdsId conf.id = none) (hsettled : Settled conf s i)
    (hmutex : s'.idMutex = Function.update s.idMutex i none)
    (hcallers : s'.callers = Function.update s.callers c pc)
    (hsame : ∀ j, SameId conf s s' j) : IdInv conf s' := by
  have howner : s.idMutex i = some c := (h.mutex i c).mpr hold
  refine ⟨?_, ?_, ?_⟩
  · intro j d
    rw [hmutex, hcallers]
    by_cases hd : d = c
    · subst hd
      rw [Function.update_self, hnew]
      by_cases hj : j = i
      · rw [hj, Function.update_self]
        exact iff_of_false nofun nofun
      · rw [Function.update_of_ne hj, h.mutex, hold]
        exact iff_of_false (fun heq => hj (Option.some.inj heq).symm) nofun
    · rw [Function.update_of_ne hd, ← h.mutex]
      by_cases hj : j = i
      · rw [hj, Function.update_self, howner]
        exact iff_of_false nofun fun heq => hd (Option.some.inj heq).symm
      · rw [Function.update_of_ne hj]
  · intro j hj
    rw [hmutex] at hj
    by_cases hji : j = i
    · -- what the mutex guarded is settled again
      rw [hji]
      exact (hsame i).settled hsettled
    · rw [Function.update_of_ne hji] at hj
      exact (hsame j).settled (h.free j hj)
  · intro j d hd
    rw [hcallers] at hd ⊢
    by_cases hdc : d = c
    · rw [hdc, Function.update_self, hnew] at hd
      cases hd
    · rw [Function.update_of_ne hdc] at hd ⊢
      exact (hsame j).phase (h.phase j d hd)

end phase_steps

/-! ## Section 4: Steps of the callers -/

section callers
variable [DecidableEq Pid] [DecidableEq Cid] [DecidableEq Rid] {conf : Conf Pid Rid Id G}
  {s : State Pid Cid Rid Id G} {c : Cid} {r : Rid} {i : Id} {g : G} {prio : Nat}

omit [DecidableEq Pid] [DecidableEq Cid] [DecidableEq Rid] [DecidableEq Id] in
theorem setRq_rq (s : State Pid Cid Rid Id G) (g : G) (prio : Nat) (queue : List Rid) (g' : G)
    (prio' : Nat) :
    (s.setRq g prio queue).rq g' prio' =
      if g' = g ∧ prio' = prio then queue else s.rq g' prio' := by
  show Function.update s.rq g (Function.update (s.rq g) prio queue) g' prio' = _
  by_cases hg : g' = g
  · subst hg
    rw [Function.update_self]
    by_cases hprio : prio' = prio
    · subst hprio
      rw [Function.update_self, if_pos ⟨rfl, rfl⟩]
    · rw [Function.update_of_ne hprio, if_neg fun h => hprio h.2]
  · rw [Function.update_of_ne hg, if_neg fun h => hg h.1]

theorem IdInv.register (h : IdInv conf s) (hpc : s.callers c = .register r) :
    IdInv conf (((schedulerClassic conf).action (.register c r)).effect s) := by
  have hold : (s.callers c).holdsId conf.id = some (conf.id r) := by rw [hpc]; rfl
  have hsettled : Settled conf s (conf.id r) := by
    have hphase := h.phase _ c hold
    rw [hpc] at hphase
    exact hphase
  dsimp only [schedulerClassic]
  split
  · exact h.inside hold rfl rfl rfl
      (fun _ _ => ⟨rfl, fun _ _ => rfl, fun _ _ => rfl, fun _ _ => rfl, fun _ hr => hr⟩)
      ⟨hsettled.registered, hsettled.unregistered⟩
  · next hnone =>
    have hnone' : s.idCr (conf.id r) = none := by simpa using hnone
    refine h.inside hold rfl rfl rfl (fun j hj => ?_) ⟨?_, hsettled.unregistered hnone'⟩
    · exact ⟨Function.update_of_ne hj _ _, fun _ _ => rfl, fun _ _ => rfl, fun _ _ => rfl,
        fun _ hr => hr⟩
    · exact Function.update_self _ _ _

theorem IdInv.configure (h : IdInv conf s) (hpc : s.callers c = .configure r) :
    IdInv conf (((schedulerClassic conf).action (.configure c r)).effect s) := by
  have hold : (s.callers c).holdsId conf.id = some (conf.id r) := by rw [hpc]; rfl
  have hphase := h.phase _ c hold
  rw [hpc] at hphase
  have hne {j : Id} (hj : j ≠ conf.id r) {r' : Rid} (hr' : conf.id r' = j) : r' ≠ r := by
    intro heq
    rw [heq] at hr'
    exact hj hr'.symm
  dsimp only [schedulerClassic]
  split
  · exact h.inside hold rfl rfl rfl (fun j hj => ⟨rfl, fun _ _ => rfl,
      fun _ hr' => Function.update_of_ne (hne hj hr') _ _,
      fun _ hr' => Function.update_of_ne (hne hj hr') _ _, fun _ hr => hr⟩) hphase
  · exact h.inside hold rfl rfl rfl (fun j hj => ⟨rfl, fun _ _ => rfl,
      fun _ hr' => Function.update_of_ne (hne hj hr') _ _,
      fun _ hr' => Function.update_of_ne (hne hj hr') _ _, fun _ hr => hr⟩) hphase

theorem IdInv.insert (h : IdInv conf s) (hpc : s.callers c = .insert r) :
    IdInv conf (((schedulerClassic conf).action (.insert c r)).effect s) := by
  have hold : (s.callers c).holdsId conf.id = some (conf.id r) := by rw [hpc]; rfl
  have hphase := h.phase _ c hold
  rw [hpc] at hphase
  obtain ⟨hid, habsent⟩ := hphase
  have hrq := setRq_rq s (s.groupName r) (s.priority r) (s.rq (s.groupName r) (s.priority r) ++ [r])
  refine h.inside hold rfl rfl rfl (fun j hj => ⟨rfl, ?_, fun _ _ => rfl, fun _ _ => rfl,
    fun _ hr => hr⟩) ⟨?_, ?_⟩
  · -- the queue grows by a routine of another id
    intro g' prio'
    show ((s.setRq _ _ _).rq g' prio').filter _ = _
    rw [hrq]
    split
    · next hplace =>
      rw [List.filter_append, List.filter_cons_of_neg (by simpa using Ne.symm hj), hplace.1,
        hplace.2]
      simp
    · rfl
  · -- the queue of `r` had nothing of its id, so `r` is all there is now
    intro r' hr'
    have hr'' : s.idCr (conf.id r) = some r' := hr'
    rw [hid] at hr''
    cases hr''
    refine ⟨rfl, fun g' prio' => ?_⟩
    show ((s.setRq _ _ _).rq g' prio').filter _ =
      if g' = s.groupName r ∧ prio' = s.priority r then _
      else _
    rw [hrq]
    split
    · rw [List.filter_append, habsent, List.filter_cons_of_pos (by simp)]
      rfl
    · exact habsent g' prio'
  · intro hnone
    have hnone' : s.idCr (conf.id r) = none := hnone
    rw [hid] at hnone'
    cases hnone'

theorem IdInv.erase (h : IdInv conf s) (hpc : s.callers c = .erase i) :
    IdInv conf (((schedulerClassic conf).action (.erase c i)).effect s) := by
  have hold : (s.callers c).holdsId conf.id = some i := by rw [hpc]; rfl
  have hsettled : Settled conf s i := by
    have hphase := h.phase _ c hold
    rw [hpc] at hphase
    exact hphase
  have hstop (r : Rid) : ∀ r', s.forceStop r' = true →
      Function.update s.forceStop r true r' = true := by
    intro r' hr'
    by_cases heq : r' = r
    · rw [heq, Function.update_self]
    · rw [Function.update_of_ne heq, hr']
  dsimp only [schedulerClassic]
  split
  · exact h.inside hold rfl rfl rfl
      (fun _ _ => ⟨rfl, fun _ _ => rfl, fun _ _ => rfl, fun _ _ => rfl, fun _ hr => hr⟩)
      ⟨hsettled.registered, hsettled.unregistered⟩
  · next r hr =>
    refine h.inside hold rfl rfl rfl (fun j hj => ?_) ⟨?_, r, hsettled.registered r hr, ?_⟩
    · exact ⟨Function.update_of_ne hj _ _, fun _ _ => rfl, fun _ _ => rfl, fun _ _ => rfl,
        hstop r⟩
    · exact Function.update_self _ _ _
    · exact Function.update_self _ _ _

theorem IdInv.search (h : IdInv conf s) (hpc : s.callers c = .search i g prio) :
    IdInv conf (((schedulerClassic conf).action (.search c i g prio)).effect s) := by
  have hold : (s.callers c).holdsId conf.id = some i := by rw [hpc]; rfl
  have hphase := h.phase _ c hold
  rw [hpc] at hphase
  obtain ⟨hid, r, hq, hr⟩ := hphase
  have hstop : ∀ r', s.forceStop r' = true → Function.update s.forceStop r true r' = true := by
    intro r' hr'
    by_cases heq : r' = r
    · rw [heq, Function.update_self]
    · rw [Function.update_of_ne heq, hr']
  simp only [schedulerClassic, hq.find?]
  exact h.inside hold rfl rfl rfl
    (fun _ _ => ⟨rfl, fun _ _ => rfl, fun _ _ => rfl, fun _ _ => rfl, hstop⟩)
    ⟨hid, hq, hstop r hr⟩

theorem IdInv.eraseQueue (h : IdInv conf s) (hpc : s.callers c = .eraseQueue i g prio r) :
    IdInv conf (((schedulerClassic conf).action (.eraseQueue c i g prio r)).effect s) := by
  have hold : (s.callers c).holdsId conf.id = some i := by rw [hpc]; rfl
  have hphase := h.phase _ c hold
  rw [hpc] at hphase
  obtain ⟨hid, hq, hr⟩ := hphase
  have hrq := setRq_rq s g prio ((s.rq g prio).eraseP (fun x => conf.id x = i))
  refine h.inside hold rfl rfl rfl (fun j hj => ⟨rfl, ?_, fun _ _ => rfl, fun _ _ => rfl,
    fun _ hr => hr⟩) ⟨hid, ?_, hq.1, hr⟩
  · intro g' prio'
    show ((s.setRq _ _ _).rq g' prio').filter _ = _
    rw [hrq]
    split
    · next hplace =>
      rw [filter_eraseP_of_disjoint, hplace.1, hplace.2]
      intro x hx
      have hxi : conf.id x = i := by simpa using hx
      simpa [hxi] using Ne.symm hj
    · rfl
  · intro g' prio'
    show ((s.setRq _ _ _).rq g' prio').filter _ = _
    rw [hrq]
    split
    · rw [filter_eraseP_self, hq.2, if_pos ⟨rfl, rfl⟩]
      rfl
    · next hplace => rw [hq.2, if_neg hplace]

theorem IdInv.unlockRemove (h : IdInv conf s) {found : Option Rid}
    (hpc : s.callers c = .unlockRemove i found) :
    IdInv conf (((schedulerClassic conf).action (.unlockRemove c i found)).effect s) := by
  have hold : (s.callers c).holdsId conf.id = some i := by rw [hpc]; rfl
  have hphase := h.phase _ c hold
  rw [hpc] at hphase
  have hsettled : Settled conf s i := by
    cases found with
    | none => exact hphase
    | some r =>
      refine ⟨?_, fun _ => hphase.2.1⟩
      intro r' hr'
      rw [hphase.1] at hr'
      cases hr'
  exact h.unlock hold rfl hsettled rfl rfl
    fun _ => ⟨rfl, fun _ _ => rfl, fun _ _ => rfl, fun _ _ => rfl, fun _ hr => hr⟩

theorem IdInv.unlockDispatch (h : IdInv conf s) {ret : Bool}
    (hpc : s.callers c = .unlockDispatch r ret) :
    IdInv conf (((schedulerClassic conf).action (.unlockDispatch c r ret)).effect s) := by
  have hold : (s.callers c).holdsId conf.id = some (conf.id r) := by rw [hpc]; rfl
  have hphase := h.phase _ c hold
  rw [hpc] at hphase
  refine h.unlock hold ?_ hphase rfl rfl
    fun _ => ⟨rfl, fun _ _ => rfl, fun _ _ => rfl, fun _ _ => rfl, fun _ hr => hr⟩
  split <;> rfl

/-- **Step lemma** for the registry and the run queues. -/
theorem IdInv.step (a : Label Pid Cid Rid Id G) (h : IdInv conf s)
    (hg : ((schedulerClassic conf).action a).gate s) :
    IdInv conf (((schedulerClassic conf).action a).effect s) := by
  have hsame : ∀ s' : State Pid Cid Rid Id G, s'.idCr = s.idCr → s'.rq = s.rq →
      s'.groupName = s.groupName → s'.priority = s.priority → s'.forceStop = s.forceStop →
      ∀ i, SameId conf s s' i := by
    intro s' hidCr hrq hgroup hprio hstop i
    refine ⟨by rw [hidCr], fun _ _ => by rw [hrq], fun _ _ => by rw [hgroup],
      fun _ _ => by rw [hprio], fun _ hr => by rw [hstop, hr]⟩
  have hnone {pc : CallerPc Rid Id G} {c : Cid} (hpc : s.callers c = pc)
      (hid : pc.holdsId conf.id = none) : (s.callers c).holdsId conf.id = none := by
    rw [hpc]
    exact hid
  cases a with
  | dispatchTask c r => exact h.outside (hnone hg rfl) rfl rfl rfl (hsame _ rfl rfl rfl rfl rfl)
  | lockDispatch c r => exact h.lock hg.2 (hnone hg.1 rfl) rfl id
  | register c r => exact h.register hg
  | configure c r => exact h.configure hg
  | insert c r => exact h.insert hg.1
  | unlockDispatch c r ret => exact h.unlockDispatch hg
  | notify c r => exact h.outside (hnone hg rfl) rfl rfl rfl (hsame _ rfl rfl rfl rfl rfl)
  | removeCRoutine c i => exact h.outside (hnone hg rfl) rfl rfl rfl (hsame _ rfl rfl rfl rfl rfl)
  | lockRemove c i => exact h.lock hg.2 (hnone hg.1 rfl) rfl id
  | erase c i => exact h.erase hg
  | lockQueue c i g prio =>
    exact h.goOn hg.1 rfl rfl rfl rfl (hsame _ rfl rfl rfl rfl rfl) id
  | search c i g prio => exact h.search hg
  | acquireRemove c i g prio r =>
    exact h.goOn hg.1 rfl rfl rfl rfl (hsame _ rfl rfl rfl rfl rfl) id
  | eraseQueue c i g prio r => exact h.eraseQueue hg
  | releaseRemove c i g prio r =>
    exact h.goOn hg rfl rfl rfl rfl (hsame _ rfl rfl rfl rfl rfl) id
  | unlockQueue c i g prio found =>
    refine h.goOn hg rfl rfl rfl rfl (hsame _ rfl rfl rfl rfl rfl) ?_
    cases found with
    | none => exact id
    | some r => exact id
  | unlockRemove c i found => exact h.unlockRemove hg
  | resume p r =>
    dsimp only [schedulerClassic]
    split
    · exact h.frame rfl rfl (hsame _ rfl rfl rfl rfl rfl)
    · split
      · exact h.frame rfl rfl (hsame _ rfl rfl rfl rfl rfl)
      · exact h.frame rfl rfl (hsame _ rfl rfl rfl rfl rfl)
  -- the steps of the processors leave the registry and the queues alone
  | _ => exact h.frame rfl rfl (hsame _ rfl rfl rfl rfl rfl)

end callers

end CyberRT.Scheduler.SchedulerClassic
