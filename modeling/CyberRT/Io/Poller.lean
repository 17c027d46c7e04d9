import CyberRT.Framework.System
import Mathlib.Data.List.AList

/-! # The poller

    `Register` and `Unregister` change the requests under a lock and leave an
    operation for the poller's thread, one for each fd: a later one takes the
    place of an earlier one. The thread takes all operations over at the
    beginning of `HandleChanges` and carries them out one by one, while other
    threads leave new ones.

    A critical section is one step. The epoll set is a map from fds to
    events, as `epoll_ctl` sees it. Maps that the code does not order may be
    gone through in any order. -/

namespace CyberRT.Io

open CyberRT.Framework

/-! ## Section 1: State -/

/-- `F` is the type of callbacks. -/
structure PollRequest (F : Type) where
  fd        : Int
  events    : BitVec 32
  timeoutMs : Int
  callback  : Option F
  deriving DecidableEq

inductive Operation where
  | add
  | mod
  | del
  deriving DecidableEq

/-- An operation for `epoll_ctl`. The events of a deletion are not read. -/
structure PollCtrlParam where
  operation : Operation
  fd        : Int
  events    : BitVec 32
  deriving DecidableEq

/-- The epoll set. -/
abbrev Epoll := Int → Option (BitVec 32)

/-- An addition fails if the fd is there, the others fail if it is not. A
    failure changes nothing. -/
def Epoll.ctl (epoll : Epoll) (p : PollCtrlParam) : Epoll :=
  match p.operation, epoll p.fd with
  | .add, none   => Function.update epoll p.fd (some p.events)
  | .mod, some _ => Function.update epoll p.fd (some p.events)
  | .del, some _ => Function.update epoll p.fd none
  | _, _         => epoll

/-- Where the poller's thread stands. -/
inductive Pc where
  | handleChanges
  | epollCtl
  | poll
  | respond
  deriving DecidableEq

structure Poller (F : Type) where
  epoll       : Epoll
  requests    : AList fun _ : Int => PollRequest F
  ctrlParams  : AList fun _ : Int => PollCtrlParam
  pc          : Pc
  localParams : AList fun _ : Int => PollCtrlParam
  responses   : AList fun _ : Int => BitVec 32

/-! ## Section 2: Requests -/

namespace Poller
variable {F : Type}

/-- `ctrl_params_[p.fd] = p`. -/
def setCtrl (s : Poller F) (p : PollCtrlParam) : Poller F :=
  { s with ctrlParams := s.ctrlParams.insert p.fd p }

/-- `Register`, and whether it succeeds. -/
def register (s : Poller F) (req : PollRequest F) : Poller F × Bool :=
  if req.fd < 0 ∨ req.callback.isNone then
    (s, false)
  else
    -- the pending operation of the fd is not looked at
    let operation := if (s.requests.lookup req.fd).isNone then .add else .mod
    ({ s with requests := s.requests.insert req.fd req }.setCtrl ⟨operation, req.fd, req.events⟩,
      true)

/-- `Unregister`, and whether it succeeds. -/
def unregister (s : Poller F) (req : PollRequest F) : Poller F × Bool :=
  if req.fd < 0 ∨ req.callback.isNone then
    (s, false)
  else if (s.requests.lookup req.fd).isNone then
    (s, false)
  else
    ({ s with requests := s.requests.erase req.fd }.setCtrl ⟨.del, req.fd, 0⟩, true)

/-- The request of the pipe that wakes the poller up. -/
def pipeRequest (pipeFd : Int) (drain : F) : PollRequest F := ⟨pipeFd, 1, -1, some drain⟩

/-- `Init`, before the thread starts. -/
def create (pipeFd : Int) (drain : F) : Poller F where
  epoll       := fun _ => none
  requests    := AList.singleton pipeFd (pipeRequest pipeFd drain)
  ctrlParams  := AList.singleton pipeFd ⟨.add, pipeFd, 1⟩
  pc          := .handleChanges
  localParams := ∅
  responses   := ∅

/-! ## Section 3: The poller's thread -/

/-- What is left of the timeout. -/
def timeLeft (intervalMs : Int) (r : PollRequest F) : Int :=
  if 0 < r.timeoutMs then max 0 (r.timeoutMs - if intervalMs = 0 then 1 else intervalMs)
  else r.timeoutMs

/-- A request without a pending operation is looked at. -/
def tick (s : Poller F) (intervalMs : Int) (r : PollRequest F) : PollRequest F :=
  if (s.ctrlParams.lookup r.fd).isSome then r
  else { r with timeoutMs := if timeLeft intervalMs r = 0 then -1 else timeLeft intervalMs r }

/-- The time of the request is over. -/
def Due (s : Poller F) (intervalMs : Int) (r : PollRequest F) : Prop :=
  s.ctrlParams.lookup r.fd = none ∧ timeLeft intervalMs r = 0

instance (s : Poller F) (intervalMs : Int) (r : PollRequest F) :
    Decidable (s.Due intervalMs r) := inferInstanceAs (Decidable (_ ∧ _))

/-- The requests whose time is over get an empty response. -/
def timeouts (s : Poller F) (intervalMs : Int) : AList fun _ : Int => BitVec 32 :=
  (s.requests.entries.filterMap fun x =>
    if s.Due intervalMs x.2 then some ⟨x.1, 0⟩ else none).toAList

def tickAll (s : Poller F) (intervalMs : Int) : AList fun _ : Int => PollRequest F :=
  ⟨s.requests.entries.map (.map id fun _ => s.tick intervalMs),
    s.requests.nodupKeys.map₂ (fun _ => s.tick intervalMs) _⟩

/-- The answered request has no timeout any more. -/
def answer (s : Poller F) (fd : Int) : Poller F :=
  match s.requests.lookup fd with
  | none   => s
  | some r => { s with requests := s.requests.insert fd { r with timeoutMs := -1 } }

end Poller

inductive Label (F : Type) where
  | register (req : PollRequest F)
  | unregister (req : PollRequest F)
  | handleChanges
  | epollCtl (fd : Int) (p : PollCtrlParam)
  | changesHandled
  | poll (intervalMs : Int) (ready : List (Int × BitVec 32))
  | respond (fd : Int)
  | polled

/-- The poller and the threads that use it. `Poll` waits for the events of
    fds in the epoll set. -/
def poller {F : Type} (pipeFd : Int) (drain : F) : System (Poller F) (Label F) where
  init := fun s => s = Poller.create pipeFd drain
  action := fun
    | .register req =>
      { gate   := fun _ => True
        effect := fun s => (s.register req).1 }
    | .unregister req =>
      { gate   := fun _ => True
        effect := fun s => (s.unregister req).1 }
    | .handleChanges =>
      { gate   := fun s => s.pc = .handleChanges
        effect := fun s =>
          if s.ctrlParams.entries = [] then { s with pc := .poll }
          else { s with pc := .epollCtl, ctrlParams := ∅, localParams := s.ctrlParams } }
    | .epollCtl fd p =>
      { gate   := fun s => s.pc = .epollCtl ∧ s.localParams.lookup fd = some p
        effect := fun s =>
          { s with epoll := s.epoll.ctl p, localParams := s.localParams.erase fd } }
    | .changesHandled =>
      { gate   := fun s => s.pc = .epollCtl ∧ s.localParams.entries = []
        effect := fun s => { s with pc := .poll } }
    | .poll intervalMs ready =>
      { gate   := fun s => s.pc = .poll ∧ ∀ x ∈ ready, (s.epoll x.1).isSome
        effect := fun s =>
          { s with
            pc        := .respond
            requests  := s.tickAll intervalMs
            responses := ready.foldl (fun m x => m.insert x.1 x.2) (s.timeouts intervalMs) } }
    | .respond fd =>
      -- the callback is called under the lock
      { gate   := fun s => s.pc = .respond ∧ (s.responses.lookup fd).isSome
        effect := fun s => { s.answer fd with responses := s.responses.erase fd } }
    | .polled =>
      { gate   := fun s => s.pc = .respond ∧ s.responses.entries = []
        effect := fun s => { s with pc := .handleChanges } }

section decidable
variable {F : Type}

instance decidableGate (pipeFd : Int) (drain : F) (s : Poller F) :
    ∀ a : Label F, Decidable (((poller pipeFd drain).action a).gate s)
  | .register _    => .isTrue trivial
  | .unregister _  => .isTrue trivial
  | .handleChanges => inferInstanceAs (Decidable (s.pc = .handleChanges))
  | .epollCtl fd p =>
    inferInstanceAs (Decidable (s.pc = .epollCtl ∧ s.localParams.lookup fd = some p))
  | .changesHandled => inferInstanceAs (Decidable (s.pc = .epollCtl ∧ s.localParams.entries = []))
  | .poll _ ready =>
    inferInstanceAs (Decidable (s.pc = .poll ∧ ∀ x ∈ ready, (s.epoll x.1).isSome))
  | .respond fd =>
    inferInstanceAs (Decidable (s.pc = .respond ∧ (s.responses.lookup fd).isSome))
  | .polled => inferInstanceAs (Decidable (s.pc = .respond ∧ s.responses.entries = []))

end decidable

end CyberRT.Io
