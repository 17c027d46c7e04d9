import CyberRT.Framework.Bytes

/-! # MessageInfo

    The bookkeeping record that travels behind every payload, and its wire
    form: sender identity, sequence number, spare identity. -/

namespace CyberRT.Transport

open CyberRT.Framework

/-! ## Section 1: Data -/

/-- The size of an identity in bytes. -/
def idSize : Nat := 8

/-- The bytes that identify a sender. -/
structure Identity where
  data        : List UInt8
  data_length : data.length = idSize
  deriving DecidableEq

structure MessageInfo where
  senderId : Identity
  seqNum   : UInt64
  spareId  : Identity
  deriving DecidableEq

/-- An identity constructed without generating an id. -/
def Identity.zero : Identity where
  data        := List.replicate idSize 0
  data_length := List.length_replicate

/-- The default-constructed record. -/
def MessageInfo.zero : MessageInfo := ⟨.zero, 0, .zero⟩

/-- The size of a `MessageInfo` on the wire. -/
def MessageInfo.kSize : Nat := 2 * idSize + 8

/-! ## Section 2: Wire form -/

def MessageInfo.serializeTo (info : MessageInfo) : List UInt8 :=
  info.senderId.data ++ leBytes 8 info.seqNum.toNat ++ info.spareId.data

/-- The identity made of the first bytes of `src`. -/
def Identity.ofBytes (src : List UInt8) (h : idSize ≤ src.length) : Identity where
  data        := src.take idSize
  data_length := by rw [List.length_take, Nat.min_eq_left h]

/-- Rejects every length but `kSize`. -/
def MessageInfo.deserializeFrom (src : List UInt8) : Option MessageInfo :=
  if h : src.length = kSize then
    some
      { senderId := .ofBytes src (by rw [h]; decide)
        seqNum   := UInt64.ofNat (ofLeBytes ((src.drop idSize).take 8))
        spareId  := .ofBytes (src.drop (idSize + 8)) (by rw [List.length_drop, h]; decide) }
  else
    none

/-! ## Section 3: Round trip -/

@[simp] theorem MessageInfo.serializeTo_length (info : MessageInfo) :
    info.serializeTo.length = kSize := by
  simp only [serializeTo, List.length_append, leBytes_length, Identity.data_length]
  rfl

theorem Identity.ofBytes_append (id : Identity) (rest : List UInt8)
    (h : idSize ≤ (id.data ++ rest).length) : Identity.ofBytes (id.data ++ rest) h = id := by
  have hdata : (id.data ++ rest).take idSize = id.data := by
    rw [← id.data_length, List.take_left]
  cases id with
  | mk data data_length => simpa [Identity.ofBytes] using hdata

/-- **Round trip**: what was serialised reads back as the same record. -/
theorem MessageInfo.deserializeFrom_serializeTo (info : MessageInfo) :
    deserializeFrom info.serializeTo = some info := by
  have hseq : info.seqNum.toNat < 256 ^ 8 := info.seqNum.toNat_lt
  have hdrop : info.serializeTo.drop idSize = leBytes 8 info.seqNum.toNat ++ info.spareId.data := by
    rw [serializeTo, List.append_assoc, ← info.senderId.data_length, List.drop_left]
  have hspare : info.serializeTo.drop (idSize + 8) = info.spareId.data ++ [] := by
    rw [← List.drop_drop, hdrop, List.append_nil]
    exact List.drop_left' (leBytes_length 8 _)
  have hnum : ofLeBytes ((info.serializeTo.drop idSize).take 8) = info.seqNum.toNat := by
    rw [hdrop, List.take_left' (leBytes_length 8 _), ofLeBytes_leBytes_of_lt hseq]
  simp only [deserializeFrom, dif_pos info.serializeTo_length, hnum, hspare,
    Identity.ofBytes_append]
  simp only [serializeTo, List.append_assoc, Identity.ofBytes_append, UInt64.ofNat_toNat]

end CyberRT.Transport
