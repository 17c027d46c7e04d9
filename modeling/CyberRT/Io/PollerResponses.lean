import CyberRT.Io.PollerEpoll
import CyberRT.Io.PollerTimeouts

/-! # The responses of the poller

    `Poll` in its steps: `epoll_wait`, the pass over the timeouts under the
    lock, and for each response its delivery under the lock. Other threads
    register and unregister requests at any time.

    History are the numbers of the registrations: that of the request a fd
    has, that which the last `HandleChanges` found, that whose operation made
    the entry of the epoll set, and that for which a response was determined.
    An event is one of the registration that the epoll set has an entry of, a
    timeout one of the request whose time is over. Of each callback that is
    called it is noted whose it is and for which registration its response
    was determined.

    The delivery looks a request up by its fd only, so a request that was
    registered in the meantime gets the response of its predecessor, and
    loses its timeout (`respond_newcomer`). An addition that `epoll_ctl`
    refuses leaves the entry of a predecessor in the epoll set, and its events
    go to the new request (`respond_refused`). Shown: all responses reach
    their registrations exactly if none is delivered to a newcomer, and no
    event where the last addition was refused (`responses_belong_iff`). -/

namespace CyberRT.Io.PollerResponses

open CyberRT.Framework

variable {F : Type}

/-! ## Section 1: State -/

/-- A callback that was called: the registration it belongs to, and the one
    for which the response was determined. -/
structure Delivery where
  registration : Nat
  origin       : Nat
  deriving DecidableEq

/-- `waited` is what `epoll_wait` returned, with the measured interval, until
    the pass over the timeouts; `ready` are the fds of its events from then
    on. `held` is the registration that the entry of the fd in the epoll set
    was made for, and `refused` says that an addition has failed since. -/
structure State (F : Type) where
  poller     : Poller F
  waited     : Option (Int × List (Int × BitVec 32))
  ready      : List Int
  current    : Int → Nat
  applied    : Int → Nat
  held       : Int → Nat
  refused    : Int → Bool
  next       : Nat
  origin     : Int → Nat
  deliveries : List Delivery

inductive Label (F : Type) where
  | register (req : PollRequest F)
  | unregister (req : PollRequest F)
  | handleChanges
  | epollCtl (fd : Int) (p : PollCtrlParam)
  | changesHandled
  | epollWait (interval : Int) (ready : List (Int × BitVec 32))
  | timeoutPass (interval : Int) (ready : List (Int × BitVec 32))
  | respond (fd : Int)
  | polled

namespace State

def register (s : State F) (req : PollRequest F) : State F :=
  match s.poller.register req with
  -- a new number, whether the fd had a request or not
  | (p, true)  =>
    { s with
      poller  := p
      current := Function.update s.current req.fd s.next
      next    := s.next + 1 }
  | (p, false) => { s with poller := p }

def unregister (s : State F) (req : PollRequest F) : State F :=
  { s with poller := (s.poller.unregister req).1 }

/-- `epoll_ctl` makes an entry of the fd, or changes the one that is there. -/
def makesEntry (s : State F) (p : PollCtrlParam) : Bool :=
  match p.operation with
  | .add => (s.poller.epoll p.fd).isNone
  | .mod => (s.poller.epoll p.fd).isSome
  | .del => false

/-- `epoll_ctl` fails with `EEXIST`. -/
def refusesAddition (s : State F) (p : PollCtrlParam) : Bool :=
  p.operation = .add && (s.poller.epoll p.fd).isSome

/-- The operation is that of the registration `HandleChanges` found. -/
def epollCtl (s : State F) (p : PollCtrlParam) : State F :=
  { s with
    held    := if s.makesEntry p then Function.update s.held p.fd (s.applied p.fd) else s.held
    refused :=
      if s.makesEntry p then Function.update s.refused p.fd false
      else if s.refusesAddition p then Function.update s.refused p.fd true
      else s.refused }

/-- The pass over the timeouts; then the events take their places. -/
def timeoutPass (s : State F) (interval : Int) (ready : List (Int × BitVec 32)) : State F :=
  { s with
    poller := { s.poller with
      pc        := .respond
      requests  := s.poller.tickAll interval
      responses := PollerTimeouts.collect s.poller interval ready }
    waited := none
    ready  := ready.map Prod.fst
    origin := fun fd => if fd ∈ ready.map Prod.fst then s.held fd else s.current fd }

/-- The delivery of a response, to the request the fd has now. -/
def respond (s : State F) (fd : Int) : State F :=
  { s with
    poller     := { s.poller.answer fd with responses := s.poller.responses.erase fd }
    deliveries :=
      if (s.poller.requests.lookup fd).isSome then
        s.deliveries ++ [⟨s.current fd, s.origin fd⟩]
      else s.deliveries }

/-- The request of the pipe has the number 1. -/
def create (pipeFd : Int) (drain : F) : State F where
  poller     := Poller.create pipeFd drain
  waited     := none
  ready      := []
  current    := fun fd => if fd = pipeFd then 1 else 0
  applied    := fun _ => 0
  held       := fun _ => 0
  refused    := fun _ => false
  next       := 2
  origin     := fun _ => 0
  deliveries := []

end State

/-- The poller's thread and the threads that use it. The steps that are no
    part of `Poll` are those of the model with a `Poll` of one step. -/
def pollerThreads (pipeFd : Int) (drain : F) : System (State F) (Label F) where
  init := fun s => s = State.create pipeFd drain
  action := fun
    | .register req =>
      { gate   := fun _ => True
        effect := fun s => s.register req }
    | .unregister req =>
      { gate   := fun _ => True
        effect := fun s => s.unregister req }
    | .handleChanges =>
      { gate   := fun s => ((poller pipeFd drain).action .handleChanges).gate s.poller
        effect := fun s =>
          { s with
            poller  := ((poller pipeFd drain).action .handleChanges).effect s.poller
            applied := s.current } }
    | .epollCtl fd p =>
      { gate   := fun s => ((poller pipeFd drain).action (.epollCtl fd p)).gate s.poller
        effect := fun s =>
          { s.epollCtl p with
            poller := ((poller pipeFd drain).action (.epollCtl fd p)).effect s.poller } }
    | .changesHandled =>
      { gate   := fun s => ((poller pipeFd drain).action .changesHandled).gate s.poller
        effect := fun s =>
          { s with poller := ((poller pipeFd drain).action .changesHandled).effect s.poller } }
    | .epollWait interval ready =>
      { gate   := fun s =>
          s.poller.pc = .poll ∧ s.waited = none ∧ ∀ x ∈ ready, (s.poller.epoll x.1).isSome
        effect := fun s => { s with waited := some (interval, ready) } }
    | .timeoutPass interval ready =>
      { gate   := fun s => s.poller.pc = .poll ∧ s.waited = some (interval, ready)
        effect := fun s => s.timeoutPass interval ready }
    | .respond fd =>
      { gate   := fun s => ((poller pipeFd drain).action (.respond fd)).gate s.poller
        effect := fun s => s.respond fd }
    | .polled =>
      { gate   := fun s => ((poller pipeFd drain).action .polled).gate s.poller
        effect := fun s =>
          { s with poller := ((poller pipeFd drain).action .polled).effect s.poller } }

instance (pipeFd : Int) (drain : F) : ∀ (a : Label F) (s : State F),
    Decidable (((pollerThreads pipeFd drain).action a).gate s)
  | .register _,    _ => inferInstanceAs (Decidable True)
  | .unregister _,  _ => inferInstanceAs (Decidable True)
  | .handleChanges, s => decidableGate pipeFd drain s.poller .handleChanges
  | .epollCtl fd p, s => decidableGate pipeFd drain s.poller (.epollCtl fd p)
  | .changesHandled, s => decidableGate pipeFd drain s.poller .changesHandled
  | .epollWait _ ready, s =>
    inferInstanceAs (Decidable
      (s.poller.pc = .poll ∧ s.waited = none ∧ ∀ x ∈ ready, (s.poller.epoll x.1).isSome))
  | .timeoutPass interval ready, s =>
    inferInstanceAs (Decidable (s.poller.pc = .poll ∧ s.waited = some (interval, ready)))
  | .respond fd, s => decidableGate pipeFd drain s.poller (.respond fd)
  | .polled, s => decidableGate pipeFd drain s.poller .polled

/-! ## Section 2: Specification -/

/-- Every callback was called with a response of its own registration. -/
def Belong (s : State F) : Prop := ∀ d ∈ s.deliveries, d.registration = d.origin

/-- A response is delivered to a fd without a request, or to a request whose
    registration `HandleChanges` has seen: the test that the pass over the
    timeouts makes. If it is an event, `epoll_ctl` has not refused the last
    addition of the fd. -/
def NoStranger (s : State F) : Label F → Prop
  | .respond fd =>
    s.poller.requests.lookup fd = none ∨
      (s.poller.ctrlParams.lookup fd = none ∧ (fd ∈ s.ready → s.refused fd = false))
  | _ => True

instance [DecidableEq F] (s : State F) : ∀ a : Label F, Decidable (NoStranger s a)
  | .respond fd =>
    inferInstanceAs (Decidable
      (s.poller.requests.lookup fd = none ∨
        (s.poller.ctrlParams.lookup fd = none ∧ (fd ∈ s.ready → s.refused fd = false))))
  | .register _      => inferInstanceAs (Decidable True)
  | .unregister _    => inferInstanceAs (Decidable True)
  | .handleChanges   => inferInstanceAs (Decidable True)
  | .epollCtl _ _    => inferInstanceAs (Decidable True)
  | .changesHandled  => inferInstanceAs (Decidable True)
  | .epollWait _ _   => inferInstanceAs (Decidable True)
  | .timeoutPass _ _ => inferInstanceAs (Decidable True)
  | .polled          => inferInstanceAs (Decidable True)

/-! ## Section 3: Invariants -/

/-- A request is a newcomer exactly if its registration is not the one that
    `HandleChanges` has seen, and all timeouts are of registrations that it
    has seen. -/
structure Inv (s : State F) : Prop where
  fds     : ∀ fd r, s.poller.requests.lookup fd = some r → r.fd = fd
  current : ∀ fd, s.current fd < s.next
  applied : ∀ fd, s.applied fd ≤ s.current fd
  settled : ∀ fd, s.poller.ctrlParams.lookup fd = none → s.current fd = s.applied fd
  newer   : ∀ fd p, s.poller.ctrlParams.lookup fd = some p →
    (s.poller.requests.lookup fd).isSome = true ∨ p.operation ≠ .del →
    s.applied fd < s.current fd
  origin  : s.poller.pc = .respond → ∀ fd, (s.poller.responses.lookup fd).isSome = true →
    fd ∉ s.ready → s.origin fd = s.applied fd

/-- The entry of a fd in the epoll set is of the registration that
    `HandleChanges` has seen exactly if no addition was refused, once the
    operation of the fd is carried out. An addition finds none or an older
    one. What `epoll_wait` returns is of the entries, which stay. -/
structure EpollInv (s : State F) : Prop where
  keys     : ∀ fd p, s.poller.ctrlParams.lookup fd = some p ∨
    s.poller.localParams.lookup fd = some p → p.fd = fd
  noneLeft : s.poller.pc ≠ .epollCtl → s.poller.localParams.entries = []
  held     : ∀ fd, s.held fd ≤ s.applied fd
  older    : ∀ fd p, s.poller.localParams.lookup fd = some p → p.operation ≠ .del →
    s.held fd < s.applied fd
  kept     : ∀ fd, (s.poller.epoll fd).isSome = true → s.poller.localParams.lookup fd = none →
    (s.held fd = s.applied fd ↔ s.refused fd = false)
  waited   : ∀ w, s.waited = some w →
    s.poller.pc = .poll ∧ ∀ x ∈ w.2, (s.poller.epoll x.1).isSome = true
  events   : s.poller.pc = .respond → ∀ fd ∈ s.ready,
    s.origin fd = s.held fd ∧ (s.poller.epoll fd).isSome = true

theorem inv_create (pipeFd : Int) (drain : F) : Inv (State.create pipeFd drain) := by
  have hctrl : ∀ fd, fd ≠ pipeFd →
      (State.create pipeFd drain).poller.ctrlParams.lookup fd = none := by
    intro fd hfd
    simp [State.create, Poller.create, ← AList.insert_empty, AList.lookup_insert_ne hfd]
  constructor
  case fds => exact (PollerTimeouts.inv_create pipeFd drain).fds
  case current =>
    intro fd
    simp only [State.create]
    split <;> decide
  case applied => exact fun _ => Nat.zero_le _
  case settled =>
    intro fd hnone
    by_cases hfd : fd = pipeFd
    · subst hfd
      simp [State.create, Poller.create, AList.lookup] at hnone
    · simp [State.create, hfd]
  case newer =>
    intro fd p hp _
    by_cases hfd : fd = pipeFd
    · simp [State.create, hfd]
    · rw [hctrl fd hfd] at hp
      cases hp
  case origin =>
    intro hpc
    cases hpc

theorem epollInv_create (pipeFd : Int) (drain : F) : EpollInv (State.create pipeFd drain) := by
  constructor
  case keys => exact (Poller.inv_create pipeFd drain).fds
  case noneLeft => exact fun _ => rfl
  case held => exact fun _ => Nat.le_refl 0
  case older =>
    intro fd p hp
    simp [State.create, Poller.create] at hp
  case kept =>
    intro fd hsome
    cases hsome
  case waited =>
    intro w hw
    cases hw
  case events =>
    intro hpc
    cases hpc

theorem Inv.register {s : State F} (h : Inv s) (req : PollRequest F) : Inv (s.register req) := by
  unfold State.register
  rcases PollerTimeouts.register_cases s.poller req with heq | ⟨p, _, heq⟩
  · rw [heq]
    exact h
  · rw [heq]
    have hle : ∀ fd, s.applied fd < s.next :=
      fun fd => Nat.lt_of_le_of_lt (h.applied fd) (h.current fd)
    constructor
    case fds => exact PollerTimeouts.fds_insert h.fds req
    case current =>
      intro fd
      by_cases hfd : fd = req.fd
      · subst hfd
        simp
      · simp only [Function.update_of_ne hfd]
        exact Nat.lt_succ_of_lt (h.current fd)
    case applied =>
      intro fd
      by_cases hfd : fd = req.fd
      · subst hfd
        simp only [Function.update_self]
        exact Nat.le_of_lt (hle _)
      · simp only [Function.update_of_ne hfd]
        exact h.applied fd
    case settled =>
      intro fd hnone
      by_cases hfd : fd = req.fd
      · subst hfd
        simp at hnone
      · simp only [AList.lookup_insert_ne hfd, Function.update_of_ne hfd] at hnone ⊢
        exact h.settled fd hnone
    case newer =>
      intro fd q hq hof
      by_cases hfd : fd = req.fd
      · -- the new number is none that `HandleChanges` has seen
        subst hfd
        simp only [Function.update_self]
        exact hle _
      · simp only [AList.lookup_insert_ne hfd, Function.update_of_ne hfd] at hq hof ⊢
        exact h.newer fd q hq hof
    case origin => exact h.origin

/-- A pending operation for a fd, beside the ones that are there. -/
theorem EpollInv.keys_insert {s : State F} (h : EpollInv s) {p : PollCtrlParam} {fd₀ : Int}
    (hp : p.fd = fd₀) (fd : Int) (q : PollCtrlParam)
    (hq : (s.poller.ctrlParams.insert fd₀ p).lookup fd = some q ∨
      s.poller.localParams.lookup fd = some q) : q.fd = fd := by
  by_cases hfd : fd = fd₀
  · rw [hfd, AList.lookup_insert] at hq
    rcases hq with hq | hq
    · rw [hfd, ← hp, Option.some.inj hq]
    · rw [hfd]
      exact h.keys fd₀ q (.inr hq)
  · rw [AList.lookup_insert_ne hfd] at hq
    exact h.keys fd q hq

theorem EpollInv.register {s : State F} (h : EpollInv s) (req : PollRequest F) :
    EpollInv (s.register req) := by
  unfold State.register
  rcases PollerTimeouts.register_cases s.poller req with heq | ⟨p, hpfd, heq⟩
  · rw [heq]
    exact h
  · rw [heq]
    exact ⟨h.keys_insert hpfd, h.noneLeft, h.held, h.older, h.kept, h.waited, h.events⟩

theorem Inv.unregister {s : State F} (h : Inv s) (req : PollRequest F) :
    Inv (s.unregister req) := by
  unfold State.unregister
  rcases PollerTimeouts.unregister_cases s.poller req with heq | heq
  · rw [heq]
    exact h
  · rw [heq]
    constructor
    case fds => exact fun fd r hr => h.fds fd r (PollerTimeouts.lookup_of_erase hr).2
    case current => exact h.current
    case applied => exact h.applied
    case settled =>
      intro fd hnone
      by_cases hfd : fd = req.fd
      · simp [hfd] at hnone
      · rw [AList.lookup_insert_ne hfd] at hnone
        exact h.settled fd hnone
    case newer =>
      intro fd p hp hof
      by_cases hfd : fd = req.fd
      · -- neither is there a request, nor is the operation another one
        rw [hfd, AList.lookup_insert] at hp
        rw [hfd, AList.lookup_erase, ← Option.some.inj hp] at hof
        simp at hof
      · rw [AList.lookup_insert_ne hfd] at hp
        rw [AList.lookup_erase_ne hfd] at hof
        exact h.newer fd p hp hof
    case origin => exact h.origin

theorem EpollInv.unregister {s : State F} (h : EpollInv s) (req : PollRequest F) :
    EpollInv (s.unregister req) := by
  unfold State.unregister
  rcases PollerTimeouts.unregister_cases s.poller req with heq | heq
  · rw [heq]
    exact h
  · rw [heq]
    exact ⟨h.keys_insert rfl, h.noneLeft, h.held, h.older, h.kept, h.waited, h.events⟩

/-- `HandleChanges` has seen all registrations. -/
theorem Inv.handleChanges {s : State F} (h : Inv s) (pc : Pc)
    (localParams : AList fun _ : Int => PollCtrlParam) (hpc : pc ≠ .respond) :
    Inv { s with
      poller := { s.poller with pc := pc, ctrlParams := ∅, localParams := localParams }
      applied := s.current } where
  fds     := h.fds
  current := h.current
  applied := fun _ => Nat.le_refl _
  settled := fun _ _ => rfl
  newer   := fun _ _ hp => nomatch hp
  origin  := fun hrespond => absurd hrespond hpc

/-- What was left for `HandleChanges` is now left for `epoll_ctl`. -/
theorem EpollInv.handleChanges {s : State F} (hinv : Inv s) (h : EpollInv s) (pc : Pc)
    (hpc : s.poller.pc = .handleChanges) (hrespond : pc ≠ .respond)
    (hnone : pc ≠ .epollCtl → s.poller.ctrlParams.entries = []) :
    EpollInv { s with
      poller := { s.poller with pc := pc, ctrlParams := ∅, localParams := s.poller.ctrlParams }
      applied := s.current } := by
  have hlocal : s.poller.localParams = ∅ := AList.ext (h.noneLeft (by rw [hpc]; decide))
  have hle : ∀ fd, s.held fd ≤ s.current fd :=
    fun fd => Nat.le_trans (h.held fd) (hinv.applied fd)
  constructor
  case keys =>
    intro fd p hp
    rcases hp with hp | hp
    · simp at hp
    · exact h.keys fd p (.inl hp)
  case noneLeft => exact hnone
  case held => exact hle
  case older =>
    intro fd p hp hop
    exact Nat.lt_of_le_of_lt (h.held fd) (hinv.newer fd p hp (.inr hop))
  case kept =>
    intro fd hsome hnone
    simp only at hnone hsome ⊢
    rw [hinv.settled fd hnone]
    exact h.kept fd hsome (by rw [hlocal]; rfl)
  case waited =>
    intro w hw
    have hpoll := (h.waited w hw).1
    rw [hpc] at hpoll
    cases hpoll
  case events => exact fun hpc' => absurd hpc' hrespond

/-- The entry of one fd changes, by an operation of the registration that
    `HandleChanges` has seen. -/
theorem EpollInv.epollCtl {s : State F} (h : EpollInv s) {fd : Int} {p : PollCtrlParam}
    (hpc : s.poller.pc = .epollCtl) (hp : s.poller.localParams.lookup fd = some p) :
    EpollInv { s.epollCtl p with
      poller := { s.poller with
        epoll := s.poller.epoll.ctl p, localParams := s.poller.localParams.erase fd } } := by
  obtain rfl : p.fd = fd := h.keys fd p (.inr hp)
  -- the other fds keep their entries
  have hother : ∀ fd, fd ≠ p.fd →
      (s.epollCtl p).held fd = s.held fd ∧ (s.epollCtl p).refused fd = s.refused fd := by
    intro fd hfd
    simp only [State.epollCtl]
    constructor
    · split <;> simp [Function.update_of_ne hfd]
    · split
      · simp [Function.update_of_ne hfd]
      · split <;> simp [Function.update_of_ne hfd]
  have hheld : (s.epollCtl p).held p.fd ≤ s.applied p.fd := by
    simp only [State.epollCtl]
    split <;> simp [h.held p.fd]
  -- the entry is of the registration that was seen, or stays that of an older one
  have hself : (s.poller.epoll.ctl p p.fd).isSome = true →
      ((s.epollCtl p).held p.fd = s.applied p.fd ↔ (s.epollCtl p).refused p.fd = false) := by
    intro hsome
    have holder := h.older p.fd p hp
    unfold Epoll.ctl at hsome
    unfold State.epollCtl State.makesEntry State.refusesAddition
    cases hop : p.operation <;> cases hepoll : s.poller.epoll p.fd <;>
      simp [hop, hepoll] at hsome ⊢
    have hlt := holder (by rw [hop]; decide)
    omega
  constructor
  case keys =>
    intro fd q hq
    by_cases hfd : fd = p.fd
    · rw [hfd, AList.lookup_erase] at hq
      rw [hfd]
      exact h.keys p.fd q (.inl (hq.resolve_right (by simp)))
    · rw [AList.lookup_erase_ne hfd] at hq
      exact h.keys fd q hq
  case noneLeft => exact fun hne => absurd hpc hne
  case held =>
    intro fd
    by_cases hfd : fd = p.fd
    · rw [hfd]
      exact hheld
    · rw [show _ = s.held fd from (hother fd hfd).1]
      exact h.held fd
  case older =>
    intro fd q hq hop
    by_cases hfd : fd = p.fd
    · rw [hfd, AList.lookup_erase] at hq
      cases hq
    · rw [AList.lookup_erase_ne hfd] at hq
      rw [show _ = s.held fd from (hother fd hfd).1]
      exact h.older fd q hq hop
  case kept =>
    intro fd hsome hnone
    by_cases hfd : fd = p.fd
    · rw [hfd] at hsome ⊢
      exact hself hsome
    · have hsome : (s.poller.epoll.ctl p fd).isSome = true := hsome
      rw [Epoll.ctl_of_ne _ p hfd] at hsome
      rw [AList.lookup_erase_ne hfd] at hnone
      rw [show _ = s.held fd from (hother fd hfd).1,
        show _ = s.refused fd from (hother fd hfd).2]
      exact h.kept fd hsome hnone
  case waited =>
    intro w hw
    have hpoll := (h.waited w hw).1
    rw [hpc] at hpoll
    cases hpoll
  case events =>
    intro hrespond
    have hrespond : s.poller.pc = .respond := hrespond
    rw [hpc] at hrespond
    cases hrespond

theorem Inv.timeoutPass {s : State F} (h : Inv s) (interval : Int)
    (ready : List (Int × BitVec 32)) : Inv (s.timeoutPass interval ready) := by
  have hlookup : ∀ fd, (s.poller.tickAll interval).lookup fd =
      (s.poller.requests.lookup fd).map (s.poller.tick interval) :=
    PollerTimeouts.lookup_tickAll s.poller interval
  constructor
  case fds =>
    intro fd r hr
    simp only [State.timeoutPass, hlookup] at hr
    obtain ⟨r', hr', rfl⟩ := Option.map_eq_some_iff.mp hr
    exact (PollerTimeouts.tick_fd s.poller interval r').trans (h.fds fd r' hr')
  case current => exact h.current
  case applied => exact h.applied
  case settled => exact h.settled
  case newer =>
    intro fd p hp hof
    simp only [State.timeoutPass, hlookup, Option.isSome_map] at hof
    exact h.newer fd p hp hof
  case origin =>
    intro _ fd hsome hnot
    simp only [State.timeoutPass] at hsome hnot ⊢
    rw [if_neg hnot]
    -- a timeout, so the request is no newcomer
    have hcases := PollerTimeouts.lookup_collect s.poller interval ready fd
    rcases hcases with ⟨x, hx, hkey, _⟩ | hcollect
    · exact absurd (List.mem_map.mpr ⟨x, hx, hkey⟩) hnot
    · rw [hcollect, PollerTimeouts.lookup_timeouts] at hsome
      obtain ⟨events, hevents⟩ := Option.isSome_iff_exists.mp hsome
      obtain ⟨r, hr, hdue⟩ := Option.bind_eq_some_iff.mp hevents
      have hfree : s.poller.ctrlParams.lookup fd = none := by
        split at hdue
        · rename_i hd
          rw [← h.fds fd r hr]
          exact hd.1
        · cases hdue
      exact h.settled fd hfree

theorem EpollInv.timeoutPass {s : State F} (h : EpollInv s) {interval : Int}
    {ready : List (Int × BitVec 32)} (hwaited : s.waited = some (interval, ready)) :
    EpollInv (s.timeoutPass interval ready) := by
  obtain ⟨hpc, hentries⟩ := h.waited _ hwaited
  constructor
  case keys => exact h.keys
  case noneLeft => exact fun _ => h.noneLeft (by rw [hpc]; decide)
  case held => exact h.held
  case older => exact h.older
  case kept => exact h.kept
  case waited =>
    intro w hw
    cases hw
  case events =>
    intro _ fd hfd
    obtain ⟨x, hx, rfl⟩ := List.mem_map.mp hfd
    exact ⟨if_pos hfd, hentries x hx⟩

theorem Inv.respond {s : State F} (h : Inv s) (fd : Int) : Inv (s.respond fd) := by
  have hlookup : ∀ fd', (s.poller.answer fd).requests.lookup fd' =
      if fd' = fd then (s.poller.requests.lookup fd').map fun r => { r with timeoutMs := -1 }
      else s.poller.requests.lookup fd' := PollerTimeouts.lookup_answer s.poller fd
  constructor
  case fds =>
    intro fd' r hr
    simp only [State.respond, hlookup] at hr
    split at hr
    · obtain ⟨r', hr', rfl⟩ := Option.map_eq_some_iff.mp hr
      exact h.fds fd' r' hr'
    · exact h.fds fd' r hr
  case current => exact h.current
  case applied => exact h.applied
  case settled =>
    intro fd' hnone
    simp only [State.respond, PollerTimeouts.answer_ctrlParams] at hnone
    exact h.settled fd' hnone
  case newer =>
    intro fd' p hp hof
    simp only [State.respond, PollerTimeouts.answer_ctrlParams] at hp
    have hsame : ((s.poller.answer fd).requests.lookup fd').isSome =
        (s.poller.requests.lookup fd').isSome := by
      rw [hlookup]
      split <;> simp
    simp only [State.respond, hsame] at hof
    exact h.newer fd' p hp hof
  case origin =>
    intro hpc fd' hsome hnot
    simp only [State.respond, PollerTimeouts.answer_pc] at hpc hsome ⊢
    by_cases hfd : fd' = fd
    · -- the response that was delivered is gone
      rw [hfd, AList.lookup_erase] at hsome
      cases hsome
    · rw [AList.lookup_erase_ne hfd] at hsome
      exact h.origin hpc fd' hsome hnot

theorem EpollInv.respond {s : State F} (h : EpollInv s) (fd : Int) : EpollInv (s.respond fd) := by
  have hsame : (s.poller.answer fd).ctrlParams = s.poller.ctrlParams ∧
      (s.poller.answer fd).localParams = s.poller.localParams ∧
      (s.poller.answer fd).epoll = s.poller.epoll ∧ (s.poller.answer fd).pc = s.poller.pc := by
    unfold Poller.answer
    split <;> exact ⟨rfl, rfl, rfl, rfl⟩
  obtain ⟨hctrl, hlocal, hepoll, hpc⟩ := hsame
  constructor <;> simp only [State.respond, hctrl, hlocal, hepoll, hpc]
  case keys => exact h.keys
  case noneLeft => exact h.noneLeft
  case held => exact h.held
  case older => exact h.older
  case kept => exact h.kept
  case waited => exact h.waited
  case events => exact h.events

theorem inv_step (pipeFd : Int) (drain : F) (s : State F) (a : Label F) (h : Inv s)
    (hg : ((pollerThreads pipeFd drain).action a).gate s) :
    Inv (((pollerThreads pipeFd drain).action a).effect s) := by
  cases a with
  | register req   => exact h.register req
  | unregister req => exact h.unregister req
  | handleChanges =>
    simp only [pollerThreads, poller]
    split
    · -- nothing was pending, which is as good as a swap
      rename_i hempty
      have hctrl : s.poller.ctrlParams = ∅ := AList.ext hempty
      have hinv := h.handleChanges .poll s.poller.localParams (by decide)
      rw [← hctrl] at hinv
      exact hinv
    · exact h.handleChanges .epollCtl _ (by decide)
  | epollCtl fd p =>
    have hpc : s.poller.pc = .epollCtl := hg.1
    refine ⟨h.fds, h.current, h.applied, h.settled, h.newer, fun hrespond => ?_⟩
    have hrespond : s.poller.pc = .respond := hrespond
    rw [hpc] at hrespond
    cases hrespond
  | changesHandled =>
    exact ⟨h.fds, h.current, h.applied, h.settled, h.newer, fun hpc => by cases hpc⟩
  | epollWait interval ready =>
    exact ⟨h.fds, h.current, h.applied, h.settled, h.newer, h.origin⟩
  | timeoutPass interval ready => exact h.timeoutPass interval ready
  | respond fd => exact h.respond fd
  | polled => exact ⟨h.fds, h.current, h.applied, h.settled, h.newer, fun hpc => by cases hpc⟩

theorem epollInv_step (pipeFd : Int) (drain : F) (s : State F) (a : Label F) (hinv : Inv s)
    (h : EpollInv s) (hg : ((pollerThreads pipeFd drain).action a).gate s) :
    EpollInv (((pollerThreads pipeFd drain).action a).effect s) := by
  cases a with
  | register req   => exact h.register req
  | unregister req => exact h.unregister req
  | handleChanges =>
    have hpc : s.poller.pc = .handleChanges := hg
    simp only [pollerThreads, poller]
    split
    · rename_i hempty
      have hctrl : s.poller.ctrlParams = ∅ := AList.ext hempty
      have hlocal : s.poller.localParams = ∅ := AList.ext (h.noneLeft (by rw [hpc]; decide))
      have hchanges := h.handleChanges hinv .poll hpc (by decide) fun _ => hempty
      rw [hctrl, ← hlocal] at hchanges
      nth_rewrite 1 [hlocal, ← hctrl] at hchanges
      exact hchanges
    · exact h.handleChanges hinv .epollCtl hpc (by decide) fun hne => absurd rfl hne
  | epollCtl fd p => exact h.epollCtl hg.1 hg.2
  | changesHandled =>
    refine ⟨h.keys, fun _ => hg.2, h.held, h.older, h.kept, ?_, fun hpc => by cases hpc⟩
    intro w hw
    exact ⟨rfl, (h.waited w hw).2⟩
  | epollWait interval ready =>
    refine ⟨h.keys, h.noneLeft, h.held, h.older, h.kept, ?_, h.events⟩
    rintro _ ⟨⟩
    exact ⟨hg.1, hg.2.2⟩
  | timeoutPass interval ready => exact h.timeoutPass hg.2
  | respond fd => exact h.respond fd
  | polled =>
    have hpc : s.poller.pc = .respond := hg.1
    refine ⟨h.keys, fun _ => h.noneLeft (by rw [hpc]; decide), h.held, h.older, h.kept, ?_,
      fun hrespond => by cases hrespond⟩
    intro w hw
    have hpoll := (h.waited w hw).1
    rw [hpc] at hpoll
    cases hpoll

/-! ## Section 4: Runs -/

/-- The request of a fd is the one a response was determined for exactly if it
    is no newcomer and, if the response is an event, the entry is its own. -/
theorem origin_eq_iff {s : State F} (h : Inv s) (hepoll : EpollInv s) {fd : Int}
    (hpc : s.poller.pc = .respond) (hresponse : (s.poller.responses.lookup fd).isSome = true)
    (hrequest : (s.poller.requests.lookup fd).isSome = true) :
    s.current fd = s.origin fd ↔
      s.poller.ctrlParams.lookup fd = none ∧ (fd ∈ s.ready → s.refused fd = false) := by
  have hsettled : s.poller.ctrlParams.lookup fd = none ↔ s.current fd = s.applied fd := by
    constructor
    · exact h.settled fd
    · intro heq
      cases hctrl : s.poller.ctrlParams.lookup fd with
      | none => rfl
      | some p =>
        have hlt := h.newer fd p hctrl (.inl hrequest)
        omega
  by_cases hready : fd ∈ s.ready
  · obtain ⟨horigin, hentry⟩ := hepoll.events hpc fd hready
    have hempty : s.poller.localParams = ∅ :=
      AList.ext (hepoll.noneLeft (by rw [hpc]; decide))
    have hlocal : s.poller.localParams.lookup fd = none := by
      rw [hempty]
      rfl
    have hkept := hepoll.kept fd hentry hlocal
    have hheld := hepoll.held fd
    have happlied := h.applied fd
    rw [hsettled, horigin, ← hkept]
    constructor
    · intro heq
      exact ⟨by omega, fun _ => by omega⟩
    · intro ⟨hcurrent, himp⟩
      exact hcurrent.trans (himp hready).symm
  · rw [hsettled, h.origin hpc fd hresponse hready]
    constructor
    · exact fun heq => ⟨heq, fun hmem => absurd hmem hready⟩
    · exact fun hboth => hboth.1

/-- A delivery is right exactly if it is none to a stranger. -/
theorem belong_respond {s : State F} (h : Inv s) (hepoll : EpollInv s) (hs : Belong s) {fd : Int}
    (hpc : s.poller.pc = .respond) (hresponse : (s.poller.responses.lookup fd).isSome = true) :
    Belong (s.respond fd) ↔ NoStranger s (.respond fd) := by
  cases hrequest : s.poller.requests.lookup fd with
  | none =>
    have hsame : (s.respond fd).deliveries = s.deliveries := by
      simp [State.respond, hrequest]
    -- no callback is called
    constructor
    · exact fun _ => .inl hrequest
    · intro _ d hd
      exact hs d (hsame ▸ hd)
  | some r =>
    have hnew : (s.respond fd).deliveries = s.deliveries ++ [⟨s.current fd, s.origin fd⟩] := by
      simp [State.respond, hrequest]
    have horigin := origin_eq_iff h hepoll hpc hresponse (by rw [hrequest]; rfl)
    constructor
    · intro hbelong
      have hthis := hbelong ⟨s.current fd, s.origin fd⟩ (by rw [hnew]; simp)
      exact .inr (horigin.mp hthis)
    · rintro (hnone | hfree) d hd
      · rw [hrequest] at hnone
        cases hnone
      · rw [hnew] at hd
        rcases List.mem_append.mp hd with hd | hd
        · exact hs d hd
        · obtain rfl := List.mem_singleton.mp hd
          exact horigin.mpr hfree

theorem belong_step (pipeFd : Int) (drain : F) (s : State F) (a : Label F)
    (h : Inv s ∧ EpollInv s) (hs : Belong s)
    (hg : ((pollerThreads pipeFd drain).action a).gate s) :
    Belong (((pollerThreads pipeFd drain).action a).effect s) ↔ NoStranger s a := by
  cases a with
  | respond fd => exact belong_respond h.1 h.2 hs hg.1 hg.2
  | register req =>
    refine iff_of_true ?_ trivial
    change Belong (s.register req)
    unfold State.register
    split <;> exact hs
  | _ => exact iff_of_true hs trivial

/-- In every run, with the steps of `Poll` and the calls of other threads in
    any order, all responses reach the registrations they belong to exactly
    if none is delivered to a newcomer, and no event to a request whose
    addition was refused. -/
theorem responses_belong_iff (pipeFd : Int) (drain : F) {as : List (Label F)}
    (h : (pollerThreads pipeFd drain).Admits (State.create pipeFd drain) as) :
    (∀ bs, bs <+: as → Belong ((pollerThreads pipeFd drain).exec (.create pipeFd drain) bs)) ↔
      ((pollerThreads pipeFd drain).restrict NoStranger).Admits (State.create pipeFd drain) as :=
  System.always_iff_admits_restrict
    (fun s a hs hg =>
      ⟨inv_step pipeFd drain s a hs.1 hg, epollInv_step pipeFd drain s a hs.1 hs.2 hg⟩)
    (fun s a hi hs hg => belong_step pipeFd drain s a hi hs hg) h
    ⟨inv_create pipeFd drain, epollInv_create pipeFd drain⟩ (fun _ hd => nomatch hd)

/-- A timeout and an event, each for the request that is there. -/
def bothAnswered : List (Label Unit) :=
  [.register ⟨5, 1, 10, some ()⟩, .handleChanges, .epollCtl 5 ⟨.add, 5, 1⟩,
    .epollCtl 3 ⟨.add, 3, 1⟩, .changesHandled, .epollWait 20 [(3, 1)], .timeoutPass 20 [(3, 1)],
    .respond 5, .respond 3, .polled]

theorem responses_belong_bothAnswered :
    (pollerThreads 3 ()).Admits (State.create 3 ()) bothAnswered ∧
      ∀ bs, bs <+: bothAnswered → Belong ((pollerThreads 3 ()).exec (.create 3 ()) bs) :=
  ⟨by decide, (responses_belong_iff 3 () (by decide)).mpr (by decide)⟩

/-- A request times out, and is replaced by one that is to wait for 500 ms
    before its response is delivered. -/
def replacedInPoll : List (Label Unit) :=
  [.register ⟨5, 1, 10, some ()⟩, .handleChanges, .epollCtl 5 ⟨.add, 5, 1⟩,
    .epollCtl 3 ⟨.add, 3, 1⟩, .changesHandled, .epollWait 20 [], .timeoutPass 20 [],
    .register ⟨5, 4, 500, some ()⟩, .respond 5]

def afterReplaced : State Unit := (pollerThreads 3 ()).exec (State.create 3 ()) replacedInPoll

/-- The new request gets the empty response of the old one, and has no
    timeout any more. -/
theorem respond_newcomer :
    (pollerThreads 3 ()).Admits (State.create 3 ()) replacedInPoll ∧
      afterReplaced.deliveries = [⟨3, 2⟩] ∧
      (afterReplaced.poller.requests.lookup 5).map PollRequest.timeoutMs = some (-1) ∧
      ¬ Belong afterReplaced := by
  have hdeliveries : afterReplaced.deliveries = [⟨3, 2⟩] := by decide
  refine ⟨by decide, hdeliveries, by decide, fun h => ?_⟩
  have hsame := h ⟨3, 2⟩ (by rw [hdeliveries]; simp)
  exact absurd hsame (by decide)

/-- A fd is in the epoll set, and is unregistered and registered anew before
    the deletion is carried out. -/
def refusedAddition : List (Label Unit) :=
  [.register ⟨5, 1, -1, some ()⟩, .handleChanges, .epollCtl 5 ⟨.add, 5, 1⟩,
    .epollCtl 3 ⟨.add, 3, 1⟩, .changesHandled, .epollWait 20 [], .timeoutPass 20 [], .polled,
    .unregister ⟨5, 1, -1, some ()⟩, .register ⟨5, 4, -1, some ()⟩, .handleChanges,
    .epollCtl 5 ⟨.add, 5, 4⟩, .changesHandled, .epollWait 20 [(5, 1)], .timeoutPass 20 [(5, 1)],
    .respond 5]

def afterRefused : State Unit := (pollerThreads 3 ()).exec (State.create 3 ()) refusedAddition

/-- The epoll set has kept the events of the old request, and the new one gets
    what they report, though it is no newcomer. -/
theorem respond_refused :
    (pollerThreads 3 ()).Admits (State.create 3 ()) refusedAddition ∧
      afterRefused.deliveries = [⟨3, 2⟩] ∧ afterRefused.poller.epoll 5 = some 1 ∧
      afterRefused.poller.ctrlParams.lookup 5 = none := by
  decide

end CyberRT.Io.PollerResponses
