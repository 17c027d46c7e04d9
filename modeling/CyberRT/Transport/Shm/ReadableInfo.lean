import CyberRT.Framework.Bytes
import CyberRT.Transport.Shm.ConditionNotifier

/-! # ReadableInfo on the wire

    `SerializeTo` copies the host id, the block index and the channel id one
    after another; `DeserializeFrom` takes back exactly what has this
    length. -/

namespace CyberRT.Transport.Shm.ConditionNotifier

open CyberRT.Framework

namespace ReadableInfo

def kSize : Nat := 8 * 2 + 4

def serializeTo (info : ReadableInfo) : List UInt8 :=
  leBytes 8 info.hostId.toNat ++ leBytes 4 info.blockIndex.toNat ++
    leBytes 8 info.channelId.toNat

def deserializeFrom (src : List UInt8) : Option ReadableInfo :=
  if src.length = kSize then
    some
      { hostId     := UInt64.ofNat (ofLeBytes (src.take 8))
        blockIndex := UInt32.ofNat (ofLeBytes ((src.drop 8).take 4))
        channelId  := UInt64.ofNat (ofLeBytes (src.drop 12)) }
  else
    none

@[simp] theorem serializeTo_length (info : ReadableInfo) : info.serializeTo.length = kSize := by
  simp only [serializeTo, List.length_append, leBytes_length]
  rfl

theorem deserializeFrom_serializeTo (info : ReadableInfo) :
    deserializeFrom info.serializeTo = some info := by
  have hhost : info.hostId.toNat < 256 ^ 8 := info.hostId.toNat_lt
  have hblock : info.blockIndex.toNat < 256 ^ 4 := info.blockIndex.toNat_lt
  have hchannel : info.channelId.toNat < 256 ^ 8 := info.channelId.toNat_lt
  have hdrop : info.serializeTo.drop 8 =
      leBytes 4 info.blockIndex.toNat ++ leBytes 8 info.channelId.toNat := by
    rw [serializeTo, List.append_assoc]
    exact List.drop_left' (leBytes_length 8 _)
  have hrest : info.serializeTo.drop 12 = leBytes 8 info.channelId.toNat := by
    have hsum : info.serializeTo.drop 12 = (info.serializeTo.drop 8).drop 4 := by
      rw [List.drop_drop]
    rw [hsum, hdrop]
    exact List.drop_left' (leBytes_length 4 _)
  have hfirst : info.serializeTo.take 8 = leBytes 8 info.hostId.toNat := by
    rw [serializeTo, List.append_assoc]
    exact List.take_left' (leBytes_length 8 _)
  rw [deserializeFrom, if_pos info.serializeTo_length, hrest, hdrop, hfirst,
    List.take_left' (leBytes_length 4 _), ofLeBytes_leBytes_of_lt hhost,
    ofLeBytes_leBytes_of_lt hblock, ofLeBytes_leBytes_of_lt hchannel, UInt64.ofNat_toNat,
    UInt32.ofNat_toNat, UInt64.ofNat_toNat]

/-- What is accepted is the wire form of what it is read as. -/
theorem serializeTo_of_deserializeFrom {src : List UInt8} {info : ReadableInfo}
    (h : deserializeFrom src = some info) : info.serializeTo = src := by
  rw [deserializeFrom] at h
  split at h
  · next hlength =>
    obtain rfl := Option.some.inj h
    have hhost : (src.take 8).length = 8 := by simp [hlength, kSize]
    have hblock : ((src.drop 8).take 4).length = 4 := by simp [hlength, kSize]
    have hchannel : (src.drop 12).length = 8 := by simp [hlength, kSize]
    have hrest : ((src.drop 8).take 4) ++ src.drop 12 = src.drop 8 := by
      have hdrop : src.drop 12 = (src.drop 8).drop 4 := by rw [List.drop_drop]
      rw [hdrop, List.take_append_drop]
    rw [serializeTo, UInt64.toNat_ofNat_of_lt' (ofLeBytes_lt hhost),
      UInt32.toNat_ofNat_of_lt' (ofLeBytes_lt hblock),
      UInt64.toNat_ofNat_of_lt' (ofLeBytes_lt hchannel), leBytes_ofLeBytes hhost,
      leBytes_ofLeBytes hblock, leBytes_ofLeBytes hchannel, List.append_assoc, hrest,
      List.take_append_drop]
  · cases h

end ReadableInfo

end CyberRT.Transport.Shm.ConditionNotifier
