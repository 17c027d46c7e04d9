import CyberRT.Io.PollHandler
import Mathlib.Data.Fintype.Basic

/-! # What a `Block` call returns

    The poll handler among other threads that notify its routines with
    `NotifyTask`, for reasons of their own. A request may also time out: it
    is answered with a response without events.

    History are the numbers of the registrations (`own` is that of each
    routine's `Block`), the callbacks that were called, each for the
    registration it found, and for which of them the response that is stored
    was delivered.

    `Block` does not reset `response_`. Once it is resumed it takes what is
    there for its answer, though it may have been another notification that
    woke it (`block_takesOldResponse`). There are three causes for that: a
    thread notifies the routine while it waits, the update flag is still
    raised as the routine stores `IO_WAIT`, and the poller answers one routine
    while another one is in its `Block` on the same handler. Shown: where none
    of them occurs, every `Block` that returns true has been told so by a
    response of its own (`block_truthful`). -/

namespace CyberRT.Io.BlockResponses

open CyberRT.Framework CyberRT.Croutine CyberRT.Io.PollHandler

/-! ## Section 1: State -/

/-- A callback was called for a registration. -/
structure Delivery where
  registration : Nat
  events       : BitVec 32
  deriving DecidableEq

/-- Where a thread stands in `NotifyTask`, named by the next step. -/
inductive NotifyPc (Cid : Type) where
  | idle
  | checkDataWait (c : Cid)
  | checkIoWait (c : Cid)
  | setUpdateFlag (c : Cid)
  deriving DecidableEq

/-- `registrations` counts them, `answering` is the one that the callback in
    progress was called for, `origin` that of the stored response. What each
    routine's `Block` has read at last is in `answers`. -/
structure State (Cid Nid : Type) where
  handler       : PollHandler.State Cid
  notifiers     : Nid → NotifyPc Cid
  registrations : Nat
  own           : Cid → Nat
  answering     : Nat
  origin        : Nat
  answers       : Cid → Option Delivery
  deliveries    : List Delivery

/-! ## Section 2: Model -/

section model
variable {Cid Nid : Type} [DecidableEq Cid] [DecidableEq Nid]

omit [DecidableEq Cid] in
def State.setNotifier (s : State Cid Nid) (n : Nid) (pc : NotifyPc Cid) : State Cid Nid :=
  { s with notifiers := Function.update s.notifiers n pc }

/-- What a step of the handler adds to the history. -/
def State.record (s : State Cid Nid) : PollHandler.Label Cid → State Cid Nid
  | .register c =>
    { s with
      registrations := s.registrations + 1
      own           := Function.update s.own c (s.registrations + 1) }
  | .respond rsp =>
    if s.handler.requested then
      { s with
        answering  := s.registrations
        deliveries := s.deliveries ++ [⟨s.registrations, rsp⟩] }
    else s
  | .storeResponse _ => { s with origin := s.answering }
  | .readResponse c =>
    { s with answers := Function.update s.answers c (some ⟨s.origin, s.handler.response⟩) }
  | _ => s

inductive Label (Cid Nid : Type) where
  -- a step of the handler, the poller or a `Block`
  | handler (a : PollHandler.Label Cid)
  -- the time of the request is over
  | timeout
  -- a routine outside of `Block`
  | elsewhere (c : Cid) (cr : CRoutine)
  -- `NotifyTask` and `NotifyProcessor`
  | notifyTask (n : Nid) (c : Cid)
  | checkDataWait (n : Nid) (c : Cid)
  | checkIoWait (n : Nid) (c : Cid)
  | setUpdateFlag (n : Nid) (c : Cid)

/-- The handler and the threads that notify its routines. -/
def notifiedHandler : System (State Cid Nid) (Label Cid Nid) where
  init := fun s =>
    pollHandler.init s.handler ∧ (∀ n, s.notifiers n = .idle) ∧ s.registrations = 0 ∧
    (∀ c, s.own c = 0) ∧ s.answering = 0 ∧ s.origin = 0 ∧ s.deliveries = [] ∧
    ∀ c, (s.handler.routines c).result = none
  action := fun
    | .handler a =>
      { gate   := fun s => (pollHandler.action a).gate s.handler
        effect := fun s => { s.record a with handler := (pollHandler.action a).effect s.handler } }
    | .timeout =>
      -- a request that `HandleChanges` has yet to see does not time out
      { gate   := fun s =>
          s.handler.pollerPc = .idle ∧ s.handler.requested = true ∧ s.handler.ctrl = none
        effect := fun s => { s with handler := s.handler.setPoller (.respond 0) } }
    | .elsewhere c cr =>
      { gate   := fun s => (s.handler.routines c).pc = .idle
        effect := fun s =>
          { s with handler := s.handler.setRoutine c { s.handler.routines c with cr := cr } } }
    | .notifyTask n c =>
      { gate   := fun s => s.notifiers n = .idle
        effect := fun s => s.setNotifier n (.checkDataWait c) }
    | .checkDataWait n c =>
      { gate   := fun s => s.notifiers n = .checkDataWait c
        effect := fun s =>
          s.setNotifier n
            (if (s.handler.routines c).cr.state = .dataWait then .setUpdateFlag c
              else .checkIoWait c) }
    | .checkIoWait n c =>
      { gate   := fun s => s.notifiers n = .checkIoWait c
        effect := fun s =>
          s.setNotifier n
            (if (s.handler.routines c).cr.state = .ioWait then .setUpdateFlag c else .idle) }
    | .setUpdateFlag n c =>
      { gate   := fun s => s.notifiers n = .setUpdateFlag c
        effect := fun s =>
          { s.setNotifier n .idle with
            handler := s.handler.setRoutine c
              { s.handler.routines c with cr := (s.handler.routines c).cr.setUpdateFlag } } }

instance decidableGate (a : Label Cid Nid) (s : State Cid Nid) :
    Decidable ((notifiedHandler.action a).gate s) :=
  match a with
  | .handler a => PollHandler.decidableGate s.handler a
  | .timeout =>
    inferInstanceAs (Decidable
      (s.handler.pollerPc = .idle ∧ s.handler.requested = true ∧ s.handler.ctrl = none))
  | .elsewhere c _ => inferInstanceAs (Decidable ((s.handler.routines c).pc = .idle))
  | .notifyTask n _ => inferInstanceAs (Decidable (s.notifiers n = .idle))
  | .checkDataWait n c => inferInstanceAs (Decidable (s.notifiers n = .checkDataWait c))
  | .checkIoWait n c => inferInstanceAs (Decidable (s.notifiers n = .checkIoWait c))
  | .setUpdateFlag n c => inferInstanceAs (Decidable (s.notifiers n = .setUpdateFlag c))

/-- Nothing registered, everybody elsewhere. -/
def initial : State Cid Nid where
  handler       := PollHandler.initial
  notifiers     := fun _ => .idle
  registrations := 0
  own           := fun _ => 0
  answering     := 0
  origin        := 0
  answers       := fun _ => none
  deliveries    := []

theorem initial_init : notifiedHandler.init (initial : State Cid Nid) :=
  ⟨PollHandler.initial_init, fun _ => rfl, rfl, fun _ => rfl, rfl, rfl, rfl, fun _ => rfl⟩

end model

/-! ## Section 3: Truthful calls -/

section truth
variable {Cid Nid : Type}

/-- The `Block` of the routine has returned true, or is going to. -/
def State.Succeeds (s : State Cid Nid) (c : Cid) : Prop :=
  (s.handler.routines c).result = some true

/-- **Truthful**: what a `Block` that returns true has read is a response
    delivered to its own registration that reported an event it waited for. -/
def Truthful (s : State Cid Nid) : Prop :=
  ∀ c, s.Succeeds c → ∃ d ∈ s.deliveries, s.answers c = some d ∧ d.registration = s.own c ∧
    d.events &&& targetEvents (s.handler.routines c).isRead ≠ 0

/-- The routine is in `Block`, past its registration. -/
def isRegistered : RoutinePc → Bool
  | .setState | .swapOut | .suspended | .updating | .readResponse => true
  | _ => false

/-- The routine has stored `IO_WAIT`, and its update flag is down. -/
def Waits (x : Routine) : Prop :=
  (x.pc = .swapOut ∨ x.pc = .suspended) ∧ x.cr.state = .ioWait ∧ ¬ x.cr.Raised

instance (x : Routine) : Decidable (Waits x) :=
  inferInstanceAs (Decidable (_ ∧ _ ∧ _))

/-- **Undisturbed**: no other thread raises the flag of a routine that waits,
    none is raised when a routine stores `IO_WAIT`, and no response is stored
    while a `Block` is registered that it was not delivered to. -/
def Undisturbed (s : State Cid Nid) : Label Cid Nid → Prop
  | .setUpdateFlag _ c => ¬ Waits (s.handler.routines c)
  | .handler (.setState c) => ¬ (s.handler.routines c).cr.Raised
  | .handler (.storeResponse _) =>
    ∀ c, isRegistered (s.handler.routines c).pc = true → s.own c = s.answering
  | _ => True

instance decidableUndisturbed [Fintype Cid] (s : State Cid Nid) :
    ∀ a : Label Cid Nid, Decidable (Undisturbed s a)
  | .setUpdateFlag _ c => inferInstanceAs (Decidable (¬ Waits (s.handler.routines c)))
  | .handler (.setState c) =>
    inferInstanceAs (Decidable (¬ (s.handler.routines c).cr.Raised))
  | .handler (.storeResponse _) =>
    inferInstanceAs (Decidable
      (∀ c, isRegistered (s.handler.routines c).pc = true → s.own c = s.answering))
  | .handler (.check ..) | .handler .checkOutside | .handler (.exchange _)
  | .handler (.register _) | .handler (.registerFails _) | .handler (.swapOut _)
  | .handler (.readResponse _) | .handler (.endBlock _) | .handler (.testAndSet _)
  | .handler (.becomeReady _) | .handler (.resume _) | .handler .unblock | .handler .unregister
  | .handler .handleChanges | .handler (.report _) | .handler (.respond _)
  | .handler (.testBlocking _) | .handler (.testRoutine _) | .handler (.loadRoutine _)
  | .handler (.testState _) | .handler (.loadId _) | .handler (.checkDataWait _)
  | .handler (.checkIoWait _) | .handler (.setUpdateFlag _)
  | .timeout | .elsewhere .. | .notifyTask .. | .checkDataWait .. | .checkIoWait .. =>
    .isTrue trivial

/-- The response that the callback in progress has yet to store. -/
def toStore : PollerPc Cid → Option (BitVec 32)
  | .testBlocking rsp | .testRoutine rsp | .storeResponse rsp => some rsp
  | _ => none

/-- **Invariant**: a `Block` has no result before it reads the response, it
    has a number once it is registered, and what is stored, or going to be,
    was delivered. -/
structure Inv (s : State Cid Nid) : Prop where
  pending : ∀ c, (s.handler.routines c).pc ≠ .idle → (s.handler.routines c).pc ≠ .endBlock →
    (s.handler.routines c).result = none
  own     : ∀ c, isRegistered (s.handler.routines c).pc = true → 0 < s.own c
  answer  : ∀ rsp, toStore s.handler.pollerPc = some rsp → ⟨s.answering, rsp⟩ ∈ s.deliveries
  stored  : 0 < s.origin → ⟨s.origin, s.handler.response⟩ ∈ s.deliveries

/-- The routine has stored `IO_WAIT` and has not read the response. -/
def isPastSetState : RoutinePc → Bool
  | .swapOut | .suspended | .updating | .readResponse => true
  | _ => false

/-- The callback in progress has stored its response. -/
def hasStored : PollerPc Cid → Bool
  | .loadRoutine | .testState _ | .loadId | .checkDataWait _ | .checkIoWait _
  | .setUpdateFlag _ => true
  | _ => false

/-- **Woken by its own**: the response stored is the routine's own as soon as
    it does not wait any more. From the store on to the end of a callback it
    is that of every `Block` registered. -/
structure WokenByOwn (s : State Cid Nid) : Prop where
  woken  : ∀ c, isPastSetState (s.handler.routines c).pc = true →
    ¬ Waits (s.handler.routines c) → s.origin = s.own c
  stored : hasStored s.handler.pollerPc = true →
    ∀ c, isRegistered (s.handler.routines c).pc = true → s.origin = s.own c

theorem isRegistered_of_isPastSetState {pc : RoutinePc} (h : isPastSetState pc = true) :
    isRegistered pc = true := by
  cases pc <;> first | rfl | cases h

theorem inCallback_of_hasStored {pc : PollerPc Cid} (h : hasStored pc = true) :
    pc.inCallback = true := by
  cases pc <;> first | rfl | cases h

/-! ## Section 4: Steps of one routine -/

section frame
variable [DecidableEq Cid] {s s' : State Cid Nid} {c : Cid} {x : Routine}

/-- One routine moves. -/
theorem Inv.setRoutine (h : Inv s)
    (hroutines : s'.handler.routines = Function.update s.handler.routines c x)
    (hown : s'.own = s.own)
    (hrest : s'.handler.pollerPc = s.handler.pollerPc ∧ s'.handler.response = s.handler.response ∧
      s'.answering = s.answering ∧ s'.origin = s.origin ∧ s'.deliveries = s.deliveries)
    (hpending : x.pc ≠ .idle → x.pc ≠ .endBlock → x.result = none)
    (hregistered : isRegistered x.pc = true → 0 < s.own c) : Inv s' := by
  obtain ⟨hpoller, hresponse, hanswering, horigin, hdeliveries⟩ := hrest
  constructor
  · intro u
    rw [hroutines]
    by_cases hu : u = c
    · subst hu
      rw [Function.update_self]
      exact hpending
    · rw [Function.update_of_ne hu]
      exact h.pending u
  · intro u
    rw [hroutines, hown]
    by_cases hu : u = c
    · subst hu
      rw [Function.update_self]
      exact hregistered
    · rw [Function.update_of_ne hu]
      exact h.own u
  · rw [hpoller, hanswering, hdeliveries]
    exact h.answer
  · rw [horigin, hresponse, hdeliveries]
    exact h.stored

/-- One routine moves, and does not succeed by it. -/
theorem Truthful.setRoutine (h : Truthful s)
    (hroutines : s'.handler.routines = Function.update s.handler.routines c x)
    (hrest : s'.own = s.own ∧ s'.answers = s.answers ∧ s'.deliveries = s.deliveries)
    (hx : x.result = some true → s.Succeeds c ∧ x.isRead = (s.handler.routines c).isRead) :
    Truthful s' := by
  obtain ⟨hown, hanswers, hdeliveries⟩ := hrest
  intro u hu
  unfold State.Succeeds at hu
  rw [hroutines] at hu ⊢
  rw [hown, hanswers, hdeliveries]
  by_cases huc : u = c
  · subst huc
    rw [Function.update_self] at hu ⊢
    obtain ⟨hsucceeds, hread⟩ := hx hu
    rw [hread]
    exact h u hsucceeds
  · rw [Function.update_of_ne huc] at hu ⊢
    exact h u hu

/-- A registered `Block` goes on to a place before the end. -/
theorem Inv.goOn (h : Inv s) (hpc : isRegistered (s.handler.routines c).pc = true)
    (hroutines : s'.handler.routines = Function.update s.handler.routines c x)
    (hresult : x.result = (s.handler.routines c).result) (hown : s'.own = s.own)
    (hrest : s'.handler.pollerPc = s.handler.pollerPc ∧ s'.handler.response = s.handler.response ∧
      s'.answering = s.answering ∧ s'.origin = s.origin ∧ s'.deliveries = s.deliveries) :
    Inv s' := by
  have hnone : x.result = none := by
    rw [hresult]
    apply h.pending c <;> intro hidle <;> rw [hidle] at hpc <;> cases hpc
  exact h.setRoutine hroutines hown hrest (fun _ _ => hnone) fun _ => h.own c hpc

omit [DecidableEq Cid] in
/-- The poller's thread moves to where it has no response to store. -/
theorem Inv.setPoller (h : Inv s)
    (hrest : s'.handler.routines = s.handler.routines ∧ s'.handler.response = s.handler.response ∧
      s'.own = s.own ∧ s'.origin = s.origin ∧ s'.deliveries = s.deliveries)
    (hpc : toStore s'.handler.pollerPc = none) : Inv s' := by
  obtain ⟨hroutines, hresponse, hown, horigin, hdeliveries⟩ := hrest
  constructor
  · rw [hroutines]
    exact h.pending
  · rw [hroutines, hown]
    exact h.own
  · intro rsp hrsp
    rw [hpc] at hrsp
    cases hrsp
  · rw [horigin, hresponse, hdeliveries]
    exact h.stored

/-- One routine moves, and registers by it only if it was registered. -/
theorem WokenByOwn.setRoutine (h : WokenByOwn s)
    (hroutines : s'.handler.routines = Function.update s.handler.routines c x)
    (hrest : s'.handler.pollerPc = s.handler.pollerPc ∧ s'.own = s.own ∧ s'.origin = s.origin)
    (hregistered : isRegistered x.pc = true → isRegistered (s.handler.routines c).pc = true)
    (hwoken : isPastSetState x.pc = true → ¬ Waits x → s.origin = s.own c) : WokenByOwn s' := by
  obtain ⟨hpoller, hown, horigin⟩ := hrest
  constructor
  · intro u
    rw [hroutines, hown, horigin]
    by_cases hu : u = c
    · subst hu
      rw [Function.update_self]
      exact hwoken
    · rw [Function.update_of_ne hu]
      exact h.woken u
  · intro hstored u
    rw [hpoller] at hstored
    rw [hroutines, hown, horigin]
    by_cases hu : u = c
    · subst hu
      rw [Function.update_self]
      intro hpc
      exact h.stored hstored u (hregistered hpc)
    · rw [Function.update_of_ne hu]
      exact h.stored hstored u

omit [DecidableEq Cid] in
/-- The poller's thread moves, and is past the store only if it was. -/
theorem WokenByOwn.setPoller (h : WokenByOwn s)
    (hrest : s'.handler.routines = s.handler.routines ∧ s'.own = s.own ∧ s'.origin = s.origin)
    (hpc : hasStored s'.handler.pollerPc = true → hasStored s.handler.pollerPc = true) :
    WokenByOwn s' := by
  obtain ⟨hroutines, hown, horigin⟩ := hrest
  constructor
  · rw [hroutines, hown, horigin]
    exact h.woken
  · intro hstored
    rw [hroutines, hown, horigin]
    exact h.stored (hpc hstored)

end frame

/-! ## Section 5: Step lemmas -/

section steps
variable [DecidableEq Cid] [DecidableEq Nid] {s : State Cid Nid}

theorem inv_init (h : notifiedHandler.init s) : Inv s := by
  obtain ⟨hhandler, _, _, _, _, horigin, _, hresult⟩ := h
  have hpoller : s.handler.pollerPc = .idle := hhandler.2.2.2.2.2.1
  have hroutines := hhandler.2.2.2.2.2.2.2.2.2
  constructor
  · exact fun c _ _ => hresult c
  · intro c hpc
    rw [(hroutines c).1] at hpc
    cases hpc
  · intro rsp hrsp
    rw [hpoller] at hrsp
    cases hrsp
  · intro hpos
    rw [horigin] at hpos
    cases hpos

theorem wokenByOwn_init (h : notifiedHandler.init s) : WokenByOwn s := by
  have hpoller : s.handler.pollerPc = .idle := h.1.2.2.2.2.2.1
  have hroutines := h.1.2.2.2.2.2.2.2.2.2
  constructor
  · intro c hpc
    rw [(hroutines c).1] at hpc
    cases hpc
  · intro hstored
    rw [hpoller] at hstored
    cases hstored

theorem truthful_init (h : notifiedHandler.init s) : Truthful s := by
  intro c hc
  have hnone := h.2.2.2.2.2.2.2 c
  unfold State.Succeeds at hc
  rw [hnone] at hc
  cases hc

/-- A step of the handler. -/
theorem inv_handler (a : PollHandler.Label Cid) (h : Inv s)
    (hg : (pollHandler.action a).gate s.handler) :
    Inv ((notifiedHandler.action (.handler a)).effect s) := by
  cases a with
  | check c isRead =>
    exact h.setRoutine (c := c) rfl rfl ⟨rfl, rfl, rfl, rfl, rfl⟩ (fun _ _ => rfl)
      fun hpc => nomatch hpc
  | checkOutside | unblock | handleChanges => exact ⟨h.pending, h.own, h.answer, h.stored⟩
  | unregister =>
    simp only [notifiedHandler, pollHandler]
    split <;> exact ⟨h.pending, h.own, h.answer, h.stored⟩
  | exchange c =>
    have hpc : (s.handler.routines c).pc = .exchange := hg
    have hnone : (s.handler.routines c).result = none := by
      apply h.pending c <;> rw [hpc] <;> decide
    simp only [notifiedHandler, pollHandler]
    split
    · exact h.setRoutine (c := c) rfl rfl ⟨rfl, rfl, rfl, rfl, rfl⟩ (fun hidle => absurd rfl hidle)
        fun hpc => nomatch hpc
    · exact h.setRoutine (c := c) rfl rfl ⟨rfl, rfl, rfl, rfl, rfl⟩ (fun _ _ => hnone)
        fun hpc => nomatch hpc
  | register c =>
    have hpc : (s.handler.routines c).pc = .register := hg.1
    have hnone : (s.handler.routines c).result = none := by
      apply h.pending c <;> rw [hpc] <;> decide
    -- with the new number already there the routine only goes on
    let t : State Cid Nid := { s with own := Function.update s.own c (s.registrations + 1) }
    have ht : Inv t := by
      refine ⟨h.pending, fun u hu => ?_, h.answer, h.stored⟩
      by_cases huc : u = c
      · subst huc
        simp [t]
      · simp only [t, Function.update_of_ne huc]
        exact h.own u hu
    exact ht.setRoutine (c := c) rfl rfl ⟨rfl, rfl, rfl, rfl, rfl⟩ (fun _ _ => hnone)
      fun _ => by simp [t]
  | registerFails c | endBlock c =>
    exact h.setRoutine (c := c) rfl rfl ⟨rfl, rfl, rfl, rfl, rfl⟩ (fun hidle => absurd rfl hidle)
      fun hpc => nomatch hpc
  | setState c | swapOut c | testAndSet c | becomeReady c =>
    refine h.goOn (c := c) ?_ rfl rfl rfl ⟨rfl, rfl, rfl, rfl, rfl⟩
    rw [hg]
    rfl
  | resume c =>
    refine h.goOn (c := c) ?_ rfl rfl rfl ⟨rfl, rfl, rfl, rfl, rfl⟩
    rw [hg.1]
    rfl
  | readResponse c =>
    exact h.setRoutine (c := c) rfl rfl ⟨rfl, rfl, rfl, rfl, rfl⟩ (fun _ hend => absurd rfl hend)
      fun hpc => nomatch hpc
  | report rsp | loadRoutine c | loadId c => exact h.setPoller ⟨rfl, rfl, rfl, rfl, rfl⟩ rfl
  | respond rsp =>
    simp only [notifiedHandler, pollHandler, State.record]
    split
    · refine ⟨h.pending, h.own, ?_, fun hpos => List.mem_append_left _ (h.stored hpos)⟩
      rintro _ ⟨⟩
      exact List.mem_append_right _ (List.mem_singleton.mpr rfl)
    · exact h.setPoller ⟨rfl, rfl, rfl, rfl, rfl⟩ rfl
  | testBlocking rsp =>
    have hanswer := h.answer rsp (by rw [hg]; rfl)
    refine ⟨h.pending, h.own, ?_, h.stored⟩
    intro rsp' hrsp
    simp only [notifiedHandler, pollHandler, State.setPoller] at hrsp
    split at hrsp <;> cases hrsp
    exact hanswer
  | testRoutine rsp =>
    have hanswer := h.answer rsp (by rw [hg]; rfl)
    refine ⟨h.pending, h.own, ?_, h.stored⟩
    intro rsp' hrsp
    simp only [notifiedHandler, pollHandler, State.setPoller] at hrsp
    split at hrsp <;> cases hrsp
    exact hanswer
  | storeResponse rsp =>
    have hanswer := h.answer rsp (by rw [hg]; rfl)
    exact ⟨h.pending, h.own, fun _ hrsp => (nomatch hrsp), fun _ => hanswer⟩
  | testState c | checkDataWait c | checkIoWait c =>
    refine h.setPoller ⟨rfl, rfl, rfl, rfl, rfl⟩ ?_
    simp only [notifiedHandler, pollHandler, State.setPoller]
    split <;> rfl
  | setUpdateFlag c =>
    have ht : Inv { s with handler := s.handler.setPoller .idle } :=
      h.setPoller ⟨rfl, rfl, rfl, rfl, rfl⟩ rfl
    exact ht.setRoutine (c := c) rfl rfl ⟨rfl, rfl, rfl, rfl, rfl⟩ (h.pending c) (h.own c)

/-- **Step lemma** for the invariant. -/
theorem inv_step (s : State Cid Nid) (a : Label Cid Nid) (h : Inv s)
    (hg : (notifiedHandler.action a).gate s) : Inv ((notifiedHandler.action a).effect s) := by
  cases a with
  | handler a => exact inv_handler a h hg
  | timeout => exact h.setPoller ⟨rfl, rfl, rfl, rfl, rfl⟩ rfl
  | elsewhere c cr | setUpdateFlag n c =>
    exact h.setRoutine (c := c) rfl rfl ⟨rfl, rfl, rfl, rfl, rfl⟩ (h.pending c) (h.own c)
  | notifyTask | checkDataWait | checkIoWait => exact ⟨h.pending, h.own, h.answer, h.stored⟩

/-- An undisturbed step of the handler. -/
theorem wokenByOwn_handler (a : PollHandler.Label Cid) (h : WokenByOwn s)
    (hok : Undisturbed s (.handler a)) (hg : (pollHandler.action a).gate s.handler) :
    WokenByOwn ((notifiedHandler.action (.handler a)).effect s) := by
  cases a with
  | check c isRead | registerFails c | readResponse c | endBlock c =>
    exact h.setRoutine (c := c) rfl ⟨rfl, rfl, rfl⟩ (fun hpc => nomatch hpc)
      fun hpc => nomatch hpc
  | exchange c =>
    simp only [notifiedHandler, pollHandler]
    split <;>
      exact h.setRoutine (c := c) rfl ⟨rfl, rfl, rfl⟩ (fun hpc => nomatch hpc)
        fun hpc => nomatch hpc
  | checkOutside | unblock | handleChanges => exact ⟨h.woken, h.stored⟩
  | unregister =>
    simp only [notifiedHandler, pollHandler]
    split <;> exact ⟨h.woken, h.stored⟩
  | register c =>
    -- nobody registers during a callback
    have hcallback : s.handler.pollerPc.inCallback = false := hg.2
    constructor
    · intro u
      simp only [notifiedHandler, pollHandler, State.record, PollHandler.State.setRoutine]
      by_cases huc : u = c
      · subst huc
        rw [Function.update_self]
        intro hpc
        cases hpc
      · rw [Function.update_of_ne huc, Function.update_of_ne huc]
        exact h.woken u
    · intro hstored
      have hstored : hasStored s.handler.pollerPc = true := hstored
      rw [inCallback_of_hasStored hstored] at hcallback
      cases hcallback
  | setState c =>
    have hpc : (s.handler.routines c).pc = .setState := hg
    have hwaits : Waits
        { s.handler.routines c with
          pc := .swapOut, cr := (s.handler.routines c).cr.setState .ioWait } :=
      ⟨.inl rfl, rfl, hok⟩
    exact h.setRoutine (c := c) rfl ⟨rfl, rfl, rfl⟩ (fun _ => by rw [hpc]; rfl)
      fun _ hnot => absurd hwaits hnot
  | swapOut c =>
    have hpc : (s.handler.routines c).pc = .swapOut := hg
    refine h.setRoutine (c := c) rfl ⟨rfl, rfl, rfl⟩ (fun _ => by rw [hpc]; rfl) ?_
    intro _ hnot
    apply h.woken c (by rw [hpc]; rfl)
    intro hwaits
    exact hnot ⟨.inr rfl, hwaits.2⟩
  | testAndSet c =>
    have hpc : (s.handler.routines c).pc = .suspended := hg
    refine h.setRoutine (c := c) rfl ⟨rfl, rfl, rfl⟩ (fun _ => by rw [hpc]; rfl) ?_
    intro _ hnot
    apply h.woken c (by rw [hpc]; rfl)
    intro hwaits
    apply hnot
    refine ⟨.inr ?_, hwaits.2.1, ?_⟩
    · simp only [if_neg hwaits.2.2]
    · simp [CRoutine.testAndSet, CRoutine.Raised]
  | becomeReady c =>
    have hpc : (s.handler.routines c).pc = .updating := hg
    have hnot : ¬ Waits (s.handler.routines c) := by
      simp [Waits, hpc]
    exact h.setRoutine (c := c) rfl ⟨rfl, rfl, rfl⟩ (fun _ => by rw [hpc]; rfl)
      fun _ _ => h.woken c (by rw [hpc]; rfl) hnot
  | resume c =>
    obtain ⟨hpc, hstate⟩ : (s.handler.routines c).pc = .suspended ∧
      (s.handler.routines c).cr.state = .ready := hg
    have hnot : ¬ Waits (s.handler.routines c) := by
      simp [Waits, hstate]
    exact h.setRoutine (c := c) rfl ⟨rfl, rfl, rfl⟩ (fun _ => by rw [hpc]; rfl)
      fun _ _ => h.woken c (by rw [hpc]; rfl) hnot
  | report rsp =>
    exact h.setPoller ⟨rfl, rfl, rfl⟩ fun hstored => nomatch hstored
  | respond rsp =>
    simp only [notifiedHandler, pollHandler, State.record]
    split <;> exact h.setPoller ⟨rfl, rfl, rfl⟩ fun hstored => nomatch hstored
  | testBlocking rsp | testRoutine rsp =>
    refine h.setPoller ⟨rfl, rfl, rfl⟩ fun hstored => ?_
    simp only [notifiedHandler, pollHandler, State.setPoller] at hstored
    split at hstored <;> cases hstored
  | storeResponse rsp =>
    constructor
    · intro c hpc _
      exact (hok c (isRegistered_of_isPastSetState hpc)).symm
    · intro _ c hpc
      exact (hok c hpc).symm
  | loadRoutine c | loadId c =>
    exact h.setPoller ⟨rfl, rfl, rfl⟩ fun _ => by rw [hg.1]; rfl
  | testState c | checkDataWait c | checkIoWait c =>
    exact h.setPoller ⟨rfl, rfl, rfl⟩ fun _ => by rw [hg]; rfl
  | setUpdateFlag c =>
    have hpoller : s.handler.pollerPc = .setUpdateFlag c := hg
    have ht : WokenByOwn { s with handler := s.handler.setPoller .idle } :=
      h.setPoller ⟨rfl, rfl, rfl⟩ fun hstored => nomatch hstored
    exact ht.setRoutine (c := c) rfl ⟨rfl, rfl, rfl⟩ id fun hpc _ =>
      h.stored (by rw [hpoller]; rfl) c (isRegistered_of_isPastSetState hpc)

/-- **Step lemma**: in an undisturbed step only its own response wakes a
    routine. -/
theorem wokenByOwn_step (s : State Cid Nid) (a : Label Cid Nid) (h : WokenByOwn s)
    (hok : Undisturbed s a) (hg : (notifiedHandler.action a).gate s) :
    WokenByOwn ((notifiedHandler.action a).effect s) := by
  cases a with
  | handler a => exact wokenByOwn_handler a h hok hg
  | timeout => exact h.setPoller ⟨rfl, rfl, rfl⟩ fun hstored => nomatch hstored
  | elsewhere c cr =>
    have hpc : (s.handler.routines c).pc = .idle := hg
    refine h.setRoutine (c := c) rfl ⟨rfl, rfl, rfl⟩ id fun hpast => ?_
    have hpast : isPastSetState (s.handler.routines c).pc = true := hpast
    rw [hpc] at hpast
    cases hpast
  | setUpdateFlag n c =>
    exact h.setRoutine (c := c) rfl ⟨rfl, rfl, rfl⟩ id fun hpc _ => h.woken c hpc hok
  | notifyTask | checkDataWait | checkIoWait => exact ⟨h.woken, h.stored⟩

/-- A `Block` that reads a response of its own is truthful. -/
theorem truthful_readResponse {c : Cid} (h : Inv s) (horigin : s.origin = s.own c)
    (hs : Truthful s) (hg : (pollHandler.action (.readResponse c)).gate s.handler) :
    Truthful ((notifiedHandler.action (.handler (.readResponse c))).effect s) := by
  have hpc : (s.handler.routines c).pc = .readResponse := hg
  intro u hu
  by_cases huc : u = c
  · subst huc
    have hevents : s.handler.response &&& targetEvents (s.handler.routines u).isRead ≠ 0 := by
      simpa [State.Succeeds, notifiedHandler, pollHandler, PollHandler.State.setRoutine] using hu
    have hpos : 0 < s.origin := horigin ▸ h.own u (by rw [hpc]; rfl)
    refine ⟨⟨s.origin, s.handler.response⟩, h.stored hpos, ?_, horigin, ?_⟩
    · simp [notifiedHandler, State.record]
    · simpa [notifiedHandler, pollHandler, PollHandler.State.setRoutine] using hevents
  · have hother : ((pollHandler.action (.readResponse c)).effect s.handler).routines u =
        s.handler.routines u := Function.update_of_ne huc _ _
    have hu' : s.Succeeds u := by
      simp only [State.Succeeds, notifiedHandler] at hu
      rw [hother] at hu
      exact hu
    obtain ⟨d, hd, hanswer, hown, hevents⟩ := hs u hu'
    refine ⟨d, hd, ?_, hown, ?_⟩
    · simp only [notifiedHandler, State.record, Function.update_of_ne huc]
      exact hanswer
    · simp only [notifiedHandler]
      rw [hother]
      exact hevents

/-- A step of the handler. -/
theorem truthful_handler (a : PollHandler.Label Cid) (h : Inv s) (hwoken : WokenByOwn s)
    (hs : Truthful s) (hg : (pollHandler.action a).gate s.handler) :
    Truthful ((notifiedHandler.action (.handler a)).effect s) := by
  cases a with
  | readResponse c =>
    have hpc : (s.handler.routines c).pc = .readResponse := hg
    have hnot : ¬ Waits (s.handler.routines c) := by
      simp [Waits, hpc]
    exact truthful_readResponse h (hwoken.woken c (by rw [hpc]; rfl) hnot) hs hg
  | checkOutside | unblock | handleChanges | report | testBlocking | testRoutine | storeResponse
  | loadRoutine | testState | loadId | checkDataWait | checkIoWait => exact hs
  | unregister =>
    simp only [notifiedHandler, pollHandler]
    split <;> exact hs
  | check c isRead =>
    exact hs.setRoutine (c := c) rfl ⟨rfl, rfl, rfl⟩ fun hx => nomatch hx
  | exchange c =>
    simp only [notifiedHandler, pollHandler]
    split
    · exact hs.setRoutine (c := c) rfl ⟨rfl, rfl, rfl⟩ fun hx => nomatch hx
    · exact hs.setRoutine (c := c) rfl ⟨rfl, rfl, rfl⟩ fun hx => ⟨hx, rfl⟩
  | register c =>
    have hpc : (s.handler.routines c).pc = .register := hg.1
    have hnone : (s.handler.routines c).result = none := by
      apply h.pending c <;> rw [hpc] <;> decide
    -- the routine whose number changes has no result
    let t : State Cid Nid := { s with own := Function.update s.own c (s.registrations + 1) }
    have ht : Truthful t := by
      intro u hu
      have huc : u ≠ c := by
        rintro rfl
        rw [State.Succeeds, hnone] at hu
        cases hu
      obtain ⟨d, hd, hanswer, hown, hevents⟩ := hs u hu
      refine ⟨d, hd, hanswer, ?_, hevents⟩
      simp only [t, Function.update_of_ne huc]
      exact hown
    exact ht.setRoutine (c := c) rfl ⟨rfl, rfl, rfl⟩ fun hx => ⟨hx, rfl⟩
  | registerFails c =>
    exact hs.setRoutine (c := c) rfl ⟨rfl, rfl, rfl⟩ fun hx => nomatch hx
  | setState c | swapOut c | testAndSet c | becomeReady c | resume c | endBlock c
  | setUpdateFlag c =>
    exact hs.setRoutine (c := c) rfl ⟨rfl, rfl, rfl⟩ fun hx => ⟨hx, rfl⟩
  | respond rsp =>
    simp only [notifiedHandler, pollHandler, State.record]
    split
    · intro c hc
      obtain ⟨d, hd, hrest⟩ := hs c hc
      exact ⟨d, List.mem_append_left _ hd, hrest⟩
    · exact hs

/-- **Step lemma** for truth, where only its own response has woken each
    routine. -/
theorem truthful_step (s : State Cid Nid) (a : Label Cid Nid) (h : Inv s)
    (hwoken : WokenByOwn s) (hs : Truthful s) (hg : (notifiedHandler.action a).gate s) :
    Truthful ((notifiedHandler.action a).effect s) := by
  cases a with
  | handler a => exact truthful_handler a h hwoken hs hg
  | timeout | notifyTask | checkDataWait | checkIoWait => exact hs
  | elsewhere c cr | setUpdateFlag n c =>
    exact hs.setRoutine (c := c) rfl ⟨rfl, rfl, rfl⟩ fun hx => ⟨hx, rfl⟩

/-! ## Section 6: Runs -/

/-- In every state of an undisturbed run, whatever events and timeouts the
    poller answers with and whatever the other threads do, all calls of
    `Block` that have returned true are truthful. -/
theorem block_truthful (h : (notifiedHandler.restrict Undisturbed).Reachable s) :
    Truthful s := by
  have hall : Inv s ∧ WokenByOwn s ∧ Truthful s := by
    induction h with
    | init hinit => exact ⟨inv_init hinit, wokenByOwn_init hinit, truthful_init hinit⟩
    | step a _ hstep ih =>
      obtain ⟨⟨hg, hok⟩, rfl⟩ := hstep
      obtain ⟨hinv, hwoken, hs⟩ := ih
      exact ⟨inv_step _ a hinv hg, wokenByOwn_step _ a hwoken hok hg,
        truthful_step _ a hinv hwoken hs hg⟩
  exact hall.2.2

end steps

/-- A `Block` until its routine is suspended and the fd armed. -/
def blocks (isRead : Bool) : List (Label Unit Unit) :=
  [.handler (.check () isRead), .handler (.exchange ()), .handler (.register ()),
    .handler (.setState ()), .handler (.swapOut ()), .handler .handleChanges]

/-- The poller's answer, up to the notification. -/
def answered (rsp : BitVec 32) : List (Label Unit Unit) :=
  [.handler (.respond rsp), .handler (.testBlocking rsp), .handler (.testRoutine rsp),
    .handler (.storeResponse rsp), .handler (.loadRoutine ()), .handler (.testState ()),
    .handler (.loadId ()), .handler (.checkDataWait ()), .handler (.checkIoWait ()),
    .handler (.setUpdateFlag ())]

/-- A notification by another thread. -/
def notified : List (Label Unit Unit) :=
  [.notifyTask () (), .checkDataWait () (), .checkIoWait () (), .setUpdateFlag () ()]

/-- The routine goes on. -/
def resumes : List (Label Unit Unit) :=
  [.handler (.testAndSet ()), .handler (.becomeReady ()), .handler (.resume ()),
    .handler (.readResponse ()), .handler (.endBlock ())]

/-- A `Block` that times out, a notification outside of `Block` that nobody
    waits for, and a `Block` that is answered. -/
def timeoutThenAnswered : List (Label Unit Unit) :=
  [blocks true, [.timeout], answered 0, resumes, [.notifyTask () (), .checkDataWait () (),
    .checkIoWait () ()], blocks true, [.handler (.report 1)], answered 1, resumes].flatten

theorem block_truthful_answered :
    ∃ s : State Unit Unit, (notifiedHandler.restrict Undisturbed).Reachable s ∧
      (s.handler.routines ()).result = some true ∧ s.answers () = some ⟨2, 1⟩ ∧ Truthful s := by
  have hreach : (notifiedHandler.restrict Undisturbed).Reachable
      ((notifiedHandler.restrict Undisturbed).exec (initial : State Unit Unit)
        timeoutThenAnswered) :=
    System.reachable_exec (notifiedHandler.restrict Undisturbed) initial_init _ (by decide)
  exact ⟨_, hreach, by decide, by decide, block_truthful hreach⟩

/-- A `Block` that is answered, and one that something else wakes up. -/
def answeredThenNotified : List (Label Unit Unit) :=
  [blocks true, [.handler (.report 1)], answered 1, resumes,
    blocks true, notified, resumes].flatten

def afterNotified : State Unit Unit := notifiedHandler.exec initial answeredThenNotified

/-- The second `Block` returns true, and nothing was delivered to it. -/
theorem block_takesOldResponse :
    notifiedHandler.Admits initial answeredThenNotified ∧
      (afterNotified.handler.routines ()).pc = .idle ∧
      (afterNotified.handler.routines ()).result = some true ∧
      afterNotified.own () = 2 ∧ afterNotified.deliveries = [⟨1, 1⟩] ∧
      ¬ Truthful afterNotified := by
  have hdeliveries : afterNotified.deliveries = [⟨1, 1⟩] := by decide
  have hown : afterNotified.own () = 2 := by decide
  have hresult : (afterNotified.handler.routines ()).result = some true := by decide
  refine ⟨by decide, by decide, hresult, hown, hdeliveries, fun h => ?_⟩
  obtain ⟨d, hd, _, hregistration, _⟩ := h () hresult
  rw [hdeliveries, List.mem_singleton] at hd
  rw [hd, hown] at hregistration
  exact absurd hregistration (by decide)

end truth

end CyberRT.Io.BlockResponses
