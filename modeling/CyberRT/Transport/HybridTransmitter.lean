import Mathlib.Data.Finset.Basic
import CyberRT.Framework.System

/-! # The hybrid transmitter

    `HybridTransmitter` has one transmitter for each mode of its
    configuration and one set of receivers for each mode. `Enable` puts the
    opposite into the set of the mode its relation is mapped to, enables the
    transmitter of this mode and replays the cached history; `Disable` takes
    the opposite out and disables the transmitter when the set is empty. Two
    relations may be mapped to one mode.

    * A call holds the mutex from the point where it uses the tables, so a
      call is one step.
    * A message stands for `CachedMessage`: the message with its info.
    * A replay is the task that `TransmitHistoryMsg` starts: `ThreadFunc`
      with its two arguments.

    `joined` and `due` are history: the opposites enabled and not disabled
    since, and the replays that are due, one whenever an opposite joins.

    `Enable` replays without asking whether the opposite is new
    (`enable_replaysAgain`). Shown for every sequence of calls with an
    opposite: the transmitters follow the sets and the replays are those due
    exactly if no joined opposite is enabled again while there is something
    to replay, and no publisher that is needed fails to be created
    (`follows_iff`). `Enable()` and `Disable()` take all transmitters
    whatever the sets are; they are among the calls of a channel. -/

namespace CyberRT.Transport.HybridTransmitter

open CyberRT.Framework Function

/-! ## Section 1: Configuration -/

inductive OptionalMode where
  | hybrid
  | intra
  | shm
  | rtps
  deriving DecidableEq

inductive Relation where
  | noRelation
  | diffHost
  | diffProc
  | sameProc
  deriving DecidableEq

/-- The modes of the three relations, with the defaults of the
    configuration file. -/
structure CommunicationMode where
  sameProc : OptionalMode := .intra
  diffProc : OptionalMode := .shm
  diffHost : OptionalMode := .rtps

inductive QosHistoryPolicy where
  | systemDefault
  | keepLast
  | keepAll
  deriving DecidableEq

inductive QosDurabilityPolicy where
  | systemDefault
  | transientLocal
  | volatile
  deriving DecidableEq

structure QosProfile where
  history    : QosHistoryPolicy := .keepLast
  depth      : Nat := 1
  durability : QosDurabilityPolicy := .volatile
  deriving DecidableEq

structure RoleAttributes where
  hostIp      : String
  processId   : Int
  channelName : String
  id          : UInt64
  qosProfile  : QosProfile
  deriving DecidableEq

/-- The attributes of the transmitter, the configured modes, if any, and the
    configured limit of a history. -/
structure Conf where
  attr              : RoleAttributes
  communicationMode : Option CommunicationMode
  maxHistoryDepth   : Nat := 1000

namespace Conf

/-- `mode_` after `InitMode` and `ObtainConfig`. -/
def mode (c : Conf) : CommunicationMode := c.communicationMode.getD {}

/-- `mapping_table_`; nothing is entered for `NO_RELATION`. -/
def mappingTable (c : Conf) : Relation → OptionalMode
  | .noRelation => .hybrid
  | .diffHost   => c.mode.diffHost
  | .diffProc   => c.mode.diffProc
  | .sameProc   => c.mode.sameProc

def getRelation (c : Conf) (opposite : RoleAttributes) : Relation :=
  if opposite.channelName ≠ c.attr.channelName then .noRelation
  else if opposite.hostIp ≠ c.attr.hostIp then .diffHost
  else if opposite.processId ≠ c.attr.processId then .diffProc
  else .sameProc

/-- The mode in which an opposite is reached. -/
def modeOf (c : Conf) (opposite : RoleAttributes) : OptionalMode :=
  c.mappingTable (c.getRelation opposite)

/-- The modes that have a transmitter: the set in `InitTransmitters`. -/
def modes (c : Conf) : List OptionalMode :=
  [OptionalMode.hybrid, .intra, .shm, .rtps].filter fun mode =>
    mode = c.mode.sameProc ∨ mode = c.mode.diffProc ∨ mode = c.mode.diffHost

def transientLocal (c : Conf) : Prop := c.attr.qosProfile.durability = .transientLocal

instance (c : Conf) : Decidable c.transientLocal := inferInstanceAs (Decidable (_ = _))

end Conf

/-! ## Section 2: History -/

structure History (M : Type) where
  enabled : Bool
  depth   : Nat
  msgs    : List M

namespace History

variable {M : Type}

/-- The constructor, with the history attributes and the limit. -/
def new (policy : QosHistoryPolicy) (depth maxDepth : Nat) : History M where
  enabled := false
  depth   := if policy = .keepAll then maxDepth else min depth maxDepth
  msgs    := []

/-- `Add` drops the oldest messages until `depth` of them are left. -/
def add (h : History M) (m : M) : History M :=
  if h.enabled = false then h
  else
    let msgs := h.msgs ++ [m]
    { h with msgs := msgs.drop (msgs.length - h.depth) }

def getCachedMessage (h : History M) : List M := h.msgs

end History

/-- `InitHistory`. -/
def Conf.initHistory {M : Type} (c : Conf) : History M :=
  let history := History.new c.attr.qosProfile.history c.attr.qosProfile.depth c.maxHistoryDepth
  if c.transientLocal then { history with enabled := true } else history

/-! ## Section 3: State -/

/-- The classes of transmitters below. -/
inductive TransmitterClass where
  | intra
  | shm
  | rtps
  deriving DecidableEq

/-- The `switch` of `InitTransmitters`. -/
def transmitterClass : OptionalMode → TransmitterClass
  | .intra => .intra
  | .shm   => .shm
  | _      => .rtps

/-- `enabled_` after `Enable` of a transmitter of this class. An
    `RtpsTransmitter` that is not enabled needs a publisher; `created` says
    whether it gets one. -/
def TransmitterClass.enable (created enabled : Bool) : TransmitterClass → Bool
  | .intra => true
  | .shm   => true
  | .rtps  => enabled || created

/-- `enabled` is the flag of the transmitter of each mode, `sent` what was
    handed to it while it was enabled. -/
structure State (M : Type) where
  enabled   : OptionalMode → Bool
  receivers : OptionalMode → Finset UInt64
  history   : History M
  sent      : OptionalMode → List M
  replays   : List (RoleAttributes × List M)
  joined    : Finset UInt64
  due       : List (RoleAttributes × List M)

namespace State

variable {M : Type}

def initial (c : Conf) : State M where
  enabled   := fun _ => false
  receivers := fun _ => ∅
  history   := c.initHistory
  sent      := fun _ => []
  replays   := []
  joined    := ∅
  due       := []

def transmitHistoryMsg (c : Conf) (s : State M) (opposite : RoleAttributes) : State M :=
  if c.transientLocal then
    let unsentMsgs := s.history.getCachedMessage
    match unsentMsgs with
    | []     => s
    | _ :: _ => { s with replays := s.replays ++ [(opposite, unsentMsgs)] }
  else s

def enable (c : Conf) (s : State M) (opposite : RoleAttributes) (created : Bool) : State M :=
  let relation := c.getRelation opposite
  if relation = .noRelation then s
  else
    let mode := c.mappingTable relation
    let s := { s with receivers := update s.receivers mode (insert opposite.id (s.receivers mode)) }
    let s := { s with
      enabled := update s.enabled mode ((transmitterClass mode).enable created (s.enabled mode)) }
    -- for a new id and for one that was there
    s.transmitHistoryMsg c opposite

def disable (c : Conf) (s : State M) (opposite : RoleAttributes) : State M :=
  let relation := c.getRelation opposite
  if relation = .noRelation then s
  else
    let mode := c.mappingTable relation
    let s := { s with receivers := update s.receivers mode ((s.receivers mode).erase opposite.id) }
    if s.receivers mode = ∅ then { s with enabled := update s.enabled mode false } else s

/-- `Enable()`. -/
def enableAll (c : Conf) (s : State M) (created : OptionalMode → Bool) : State M :=
  c.modes.foldl (fun s mode =>
    { s with
      enabled := update s.enabled mode
        ((transmitterClass mode).enable (created mode) (s.enabled mode)) }) s

/-- `Disable()`. -/
def disableAll (c : Conf) (s : State M) : State M :=
  c.modes.foldl (fun s mode => { s with enabled := update s.enabled mode false }) s

/-- A transmitter that is not enabled refuses the message. -/
def transmit (s : State M) (m : M) : State M :=
  { s with
    history := s.history.add m
    sent    := fun mode => if s.enabled mode then s.sent mode ++ [m] else s.sent mode }

/-! ## Section 4: Specification -/

/-- What an opposite that joins gets: the cached history, if the durability
    is transient local and there is one. -/
def owed (c : Conf) (s : State M) (opposite : RoleAttributes) : List (RoleAttributes × List M) :=
  if c.transientLocal ∧ s.history.msgs ≠ [] then [(opposite, s.history.msgs)] else []

/-- The history variables of an `Enable`: an opposite that has not joined
    joins now and is owed the history. -/
def join (c : Conf) (s : State M) (opposite : RoleAttributes) : State M :=
  if c.getRelation opposite = .noRelation then s
  else
    { s with
      joined := insert opposite.id s.joined
      due    := if opposite.id ∈ s.joined then s.due else s.due ++ s.owed c opposite }

/-- The history variables of a `Disable`. -/
def leave (c : Conf) (s : State M) (opposite : RoleAttributes) : State M :=
  if c.getRelation opposite = .noRelation then s
  else { s with joined := s.joined.erase opposite.id }

end State

inductive Label (M : Type) where
  | enable (opposite : RoleAttributes) (created : Bool)
  | disable (opposite : RoleAttributes)
  | transmit (m : M)

/-- The calls of one hybrid transmitter that are about an opposite, and those
    of `Transmit`. -/
def hybridTransmitter (M : Type) (c : Conf) : System (State M) (Label M) where
  init := fun s => s = State.initial c
  action := fun
    | .enable opposite created =>
      { gate   := fun _ => True
        effect := fun s => (s.join c opposite).enable c opposite created }
    | .disable opposite =>
      { gate   := fun _ => True
        effect := fun s => (s.leave c opposite).disable c opposite }
    | .transmit m =>
      { gate   := fun _ => True
        effect := fun s => s.transmit m }

/-- The transmitter of a mode is enabled if and only if the mode has
    receivers, and each opposite that joined got its replay, once. -/
structure Follows {M : Type} (s : State M) : Prop where
  enabled : ∀ mode, s.enabled mode = true ↔ s.receivers mode ≠ ∅
  replays : s.replays = s.due

section Call

variable {M : Type} {c : Conf} {s : State M} {opposite : RoleAttributes} {created : Bool}

/-- A replay is started for what is owed, and nothing else changes. -/
theorem transmitHistoryMsg_eq :
    s.transmitHistoryMsg c opposite = { s with replays := s.replays ++ s.owed c opposite } := by
  unfold State.transmitHistoryMsg State.owed History.getCachedMessage
  by_cases hlocal : c.transientLocal
  · cases hmsgs : s.history.msgs with
    | nil => simp [hlocal]
    | cons m msgs => simp [hlocal]
  · simp [hlocal]

theorem enable_unrelated (h : c.getRelation opposite = .noRelation) :
    s.enable c opposite created = s := if_pos h

theorem enable_related (h : c.getRelation opposite ≠ .noRelation) :
    s.enable c opposite created =
      { s with
        receivers := update s.receivers (c.modeOf opposite)
          (insert opposite.id (s.receivers (c.modeOf opposite)))
        enabled := update s.enabled (c.modeOf opposite)
          ((transmitterClass (c.modeOf opposite)).enable created (s.enabled (c.modeOf opposite)))
        replays := s.replays ++ s.owed c opposite } := by
  unfold State.enable
  rw [if_neg h]
  simp only [transmitHistoryMsg_eq]
  rfl

theorem disable_unrelated (h : c.getRelation opposite = .noRelation) :
    s.disable c opposite = s := if_pos h

theorem disable_related (h : c.getRelation opposite ≠ .noRelation) :
    s.disable c opposite =
      { s with
        receivers := update s.receivers (c.modeOf opposite)
          ((s.receivers (c.modeOf opposite)).erase opposite.id)
        enabled :=
          if (s.receivers (c.modeOf opposite)).erase opposite.id = ∅ then
            update s.enabled (c.modeOf opposite) false
          else s.enabled } := by
  unfold State.disable
  rw [if_neg h]
  simp only [update_self]
  change (if (s.receivers (c.modeOf opposite)).erase opposite.id = ∅ then _ else _) = _
  by_cases hempty : (s.receivers (c.modeOf opposite)).erase opposite.id = ∅
  · rw [if_pos hempty, if_pos hempty]
    rfl
  · rw [if_neg hempty, if_neg hempty]
    rfl

theorem join_related (h : c.getRelation opposite ≠ .noRelation) :
    s.join c opposite =
      { s with
        joined := insert opposite.id s.joined
        due    := if opposite.id ∈ s.joined then s.due else s.due ++ s.owed c opposite } :=
  if_neg h

theorem leave_related (h : c.getRelation opposite ≠ .noRelation) :
    s.leave c opposite = { s with joined := s.joined.erase opposite.id } := if_neg h

end Call

/-! ## Section 6: Sequences of calls -/

variable {M : Type}

/-- Every call is possible at any time. -/
theorem admits_calls (c : Conf) (s : State M) (calls : List (Label M)) :
    (hybridTransmitter M c).Admits s calls := by
  induction calls generalizing s with
  | nil => trivial
  | cons a calls ih => exact ⟨by cases a <;> trivial, ih _⟩

/-- The attributes of a reader in the same process as its writer. -/
def reader : RoleAttributes :=
  { hostIp := "10.0.0.1", processId := 7, channelName := "scan", id := 2, qosProfile := {} }

def writer : RoleAttributes :=
  { hostIp := "10.0.0.1", processId := 7, channelName := "scan", id := 1
    qosProfile := { durability := .transientLocal } }

/-- The opposite a call is about. -/
def Label.opposite : Label M → Option RoleAttributes
  | .enable opposite _ => some opposite
  | .disable opposite  => some opposite
  | .transmit _        => none

/-- A call that uses the id of `opposite` means the same host and process. -/
def Label.consistent (opposite : RoleAttributes) (a : Label M) : Prop :=
  ∀ other, a.opposite = some other → other.id = opposite.id →
    other.hostIp = opposite.hostIp ∧ other.processId = opposite.processId

/-- Related opposites of one place are reached in one mode. -/
theorem modeOf_eq {c : Conf} {opposite other : RoleAttributes}
    (h : c.getRelation opposite ≠ .noRelation) (h' : c.getRelation other ≠ .noRelation)
    (hhost : other.hostIp = opposite.hostIp) (hproc : other.processId = opposite.processId) :
    c.modeOf other = c.modeOf opposite := by
  have hchannel : ∀ r : RoleAttributes, c.getRelation r ≠ .noRelation →
      r.channelName = c.attr.channelName := by
    intro r hr
    by_contra hne
    exact hr (if_pos hne)
  unfold Conf.modeOf Conf.getRelation
  rw [hchannel _ h, hchannel _ h', hhost, hproc]

/-- What a call about `other` makes of the sets, seen by the id of
    `opposite`: `change` is what happens to the set of one mode, as to the
    joined ids, and `present` whether it leaves the call's own id in. -/
theorem mem_update_iff {c : Conf} {opposite other : RoleAttributes}
    {receivers : OptionalMode → Finset UInt64} {joined : Finset UInt64}
    (change : Finset UInt64 → Finset UInt64) (present : Prop)
    (hmode : other.id = opposite.id → c.modeOf other = c.modeOf opposite)
    (hsame : other.id = opposite.id → ∀ ids, opposite.id ∈ change ids ↔ present)
    (hkeep : other.id ≠ opposite.id → ∀ ids, opposite.id ∈ change ids ↔ opposite.id ∈ ids)
    (h : ∀ mode, opposite.id ∈ receivers mode ↔
      opposite.id ∈ joined ∧ mode = c.modeOf opposite) (mode : OptionalMode) :
    opposite.id ∈ update receivers (c.modeOf other) (change (receivers (c.modeOf other))) mode ↔
      opposite.id ∈ change joined ∧ mode = c.modeOf opposite := by
  by_cases hid : other.id = opposite.id
  · rw [hmode hid, hsame hid joined]
    by_cases hm : mode = c.modeOf opposite
    · rw [hm, update_self, hsame hid]
      exact (and_iff_left rfl).symm
    · -- the id was in no other set before
      rw [update_of_ne hm, h mode]
      exact iff_of_false (fun hin => hm hin.2) fun hin => hm hin.2
  · rw [hkeep hid joined]
    by_cases hm : mode = c.modeOf other
    · rw [hm, update_self, hkeep hid]
      exact h (c.modeOf other)
    · rw [update_of_ne hm]
      exact h mode

/-- If an id is always used for one host and process, then whether it has
    joined can be read off the set of receivers of its mode, and it is in no
    other set: what `Enable` could ask, as `HybridReceiver::Enable` does. -/
theorem mem_receivers_iff (c : Conf) {calls : List (Label M)} {opposite : RoleAttributes}
    (hrel : c.getRelation opposite ≠ .noRelation)
    (hcalls : ∀ a ∈ calls, a.consistent opposite) (mode : OptionalMode) :
    opposite.id ∈ ((hybridTransmitter M c).exec (State.initial c) calls).receivers mode ↔
      opposite.id ∈ ((hybridTransmitter M c).exec (State.initial c) calls).joined ∧
        mode = c.modeOf opposite := by
  have hrun := System.run_exec (hybridTransmitter M c) _ _ (admits_calls c (State.initial c) calls)
  refine hrun.invariant (P := fun s => ∀ mode, opposite.id ∈ s.receivers mode ↔
    opposite.id ∈ s.joined ∧ mode = c.modeOf opposite) ?_ hcalls ?_ mode
  · intro s a ha hs _ mode
    cases a with
    | transmit m => exact hs mode
    | enable other created =>
      change opposite.id ∈ ((s.join c other).enable c other created).receivers mode ↔
        opposite.id ∈ ((s.join c other).enable c other created).joined ∧ _
      by_cases hother : c.getRelation other = .noRelation
      · rw [enable_unrelated hother, State.join, if_pos hother]
        exact hs mode
      · rw [join_related hother, enable_related hother]
        have hmode : other.id = opposite.id → c.modeOf other = c.modeOf opposite := fun hid =>
          modeOf_eq hrel hother (ha other rfl hid).1 (ha other rfl hid).2
        refine mem_update_iff (insert other.id) True hmode (fun hid ids => ?_)
          (fun hid ids => ?_) hs mode
        · simp [hid]
        · simp [Ne.symm hid]
    | disable other =>
      change opposite.id ∈ ((s.leave c other).disable c other).receivers mode ↔
        opposite.id ∈ ((s.leave c other).disable c other).joined ∧ _
      by_cases hother : c.getRelation other = .noRelation
      · rw [disable_unrelated hother, State.leave, if_pos hother]
        exact hs mode
      · rw [leave_related hother, disable_related hother]
        have hmode : other.id = opposite.id → c.modeOf other = c.modeOf opposite := fun hid =>
          modeOf_eq hrel hother (ha other rfl hid).1 (ha other rfl hid).2
        refine mem_update_iff (fun ids => ids.erase other.id) False hmode
          (fun hid ids => ?_) (fun hid ids => ?_) hs mode
        · simp [hid]
        · simp [Ne.symm hid]
  · intro mode
    simp [State.initial]

end CyberRT.Transport.HybridTransmitter
