import CyberRT.Framework.Wire
import CyberRT.Record.RecordProto

/-! # The record messages on the wire

    A protobuf runtime for the messages of `record.proto`: every field with
    its tag, in the order of the field numbers. It is lawful, and it writes
    the bytes the real one writes; its parser takes no other order of the
    fields. -/

namespace CyberRT.Record

open CyberRT.Framework

/-! ## Section 1: Scalars -/

namespace Wire

def uint64 : Format UInt64 :=
  Format.nat.map UInt64.toNat (fun n => if n < UInt64.size then some (.ofNat n) else none)
    (fun x => by
      rw [if_pos x.toNat_lt_size]
      simp)

def uint32 : Format UInt32 :=
  Format.nat.map UInt32.toNat (fun n => if n < UInt32.size then some (.ofNat n) else none)
    (fun x => by
      rw [if_pos x.toNat_lt_size]
      simp)

def bool : Format Bool :=
  Format.nat.map Bool.toNat (fun n => some (n == 1)) (fun b => by cases b <;> rfl)

def sectionType : Format SectionType :=
  Format.nat.map SectionType.toNat SectionType.ofValue SectionType.ofValue_toNat

def compressToNat : CompressType → Nat
  | .none => 0
  | .bz2  => 1
  | .lz4  => 2

def compressOfNat : Nat → Option CompressType
  | 0 => some .none
  | 1 => some .bz2
  | 2 => some .lz4
  | _ => Option.none

def compressType : Format CompressType :=
  Format.nat.map compressToNat compressOfNat (fun t => by cases t <;> rfl)

/-! ## Section 2: Messages -/

/-- The tag of field `number` with a varint. -/
def varintField {α : Type} (number : Nat) (f : Format α) : Format α := .field (number * 8) f

/-- The tag of field `number` with a length in front of its value. -/
def lengthField {α : Type} (number : Nat) (f : Format α) : Format α := .field (number * 8 + 2) f

def string (number : Nat) : Format (List UInt8) := lengthField number .bytes

def singleMessage : Format SingleMessage :=
  ((string 1).seq ((varintField 2 uint64).seq (string 3))).map
    (fun m => (m.channelName, m.time, m.content)) (fun (a, b, c) => some ⟨a, b, c⟩) (fun _ => rfl)

def channel : Format Channel :=
  ((string 1).seq ((string 2).seq (string 3))).map
    (fun m => (m.name, m.messageType, m.protoDesc)) (fun (a, b, c) => some ⟨a, b, c⟩) (fun _ => rfl)

def chunkHeader : Format ChunkHeader :=
  ((varintField 1 uint64).seq ((varintField 2 uint64).seq
    ((varintField 3 uint64).seq (varintField 4 uint64)))).map
    (fun m => (m.beginTime, m.endTime, m.messageNumber, m.rawSize))
    (fun (a, b, c, d) => some ⟨a, b, c, d⟩) (fun _ => rfl)

def header : Format Header :=
  ((varintField 1 uint32).seq ((varintField 2 uint32).seq ((varintField 3 compressType).seq
    ((varintField 4 uint64).seq ((varintField 5 uint64).seq ((varintField 6 uint64).seq
    ((varintField 7 uint64).seq ((varintField 8 uint64).seq ((varintField 9 uint64).seq
    ((varintField 10 uint64).seq ((varintField 11 uint64).seq ((varintField 12 uint64).seq
    ((varintField 13 bool).seq ((varintField 14 uint64).seq (varintField 15 uint64))))))))))))))).map
    (fun h => (h.majorVersion, h.minorVersion, h.compress, h.chunkInterval, h.segmentInterval,
      h.indexPosition, h.chunkNumber, h.channelNumber, h.beginTime, h.endTime, h.messageNumber,
      h.size, h.isComplete, h.chunkRawSize, h.segmentRawSize))
    (fun (a, b, c, d, e, f, g, h, i, j, k, l, m, n, o) =>
      some ⟨a, b, c, d, e, f, g, h, i, j, k, l, m, n, o⟩) (fun _ => rfl)

def channelCache : Format ChannelCache :=
  ((varintField 1 uint64).seq ((string 2).seq ((string 3).seq (string 4)))).map
    (fun c => (c.messageNumber, c.name, c.messageType, c.protoDesc))
    (fun (a, b, c, d) => some ⟨a, b, c, d⟩) (fun _ => rfl)

def chunkHeaderCache : Format ChunkHeaderCache :=
  ((varintField 1 uint64).seq ((varintField 2 uint64).seq
    ((varintField 3 uint64).seq (varintField 4 uint64)))).map
    (fun m => (m.messageNumber, m.beginTime, m.endTime, m.rawSize))
    (fun (a, b, c, d) => some ⟨a, b, c, d⟩) (fun _ => rfl)

def chunkBodyCache : Format ChunkBodyCache :=
  (varintField 1 uint64).map (fun c => c.messageNumber) (fun n => some ⟨n⟩) (fun _ => rfl)

/-- The members of the `oneof`. -/
inductive CacheKind where
  | channel
  | chunkHeader
  | chunkBody

def CacheKind.tag : CacheKind → Nat
  | .channel     => 101 * 8 + 2
  | .chunkHeader => 102 * 8 + 2
  | .chunkBody   => 103 * 8 + 2

def CacheKind.ofTag (n : Nat) : Option CacheKind :=
  if n = 101 * 8 + 2 then some .channel
  else if n = 102 * 8 + 2 then some .chunkHeader
  else if n = 103 * 8 + 2 then some .chunkBody
  else none

def CacheKind.Value : CacheKind → Type
  | .channel     => ChannelCache
  | .chunkHeader => ChunkHeaderCache
  | .chunkBody   => ChunkBodyCache

def cacheValue : (k : CacheKind) → Format k.Value
  | .channel     => channelCache.delimited
  | .chunkHeader => chunkHeaderCache.delimited
  | .chunkBody   => chunkBodyCache.delimited

def cacheToSigma : Cache → Sigma CacheKind.Value
  | .channel c     => ⟨.channel, c⟩
  | .chunkHeader c => ⟨.chunkHeader, c⟩
  | .chunkBody c   => ⟨.chunkBody, c⟩

def cacheOfSigma : Sigma CacheKind.Value → Cache
  | ⟨.channel, c⟩     => .channel c
  | ⟨.chunkHeader, c⟩ => .chunkHeader c
  | ⟨.chunkBody, c⟩   => .chunkBody c

def cacheKind : Format CacheKind :=
  Format.nat.map CacheKind.tag CacheKind.ofTag (fun k => by cases k <;> rfl)

def cache : Format Cache :=
  (cacheKind.sigma cacheValue).map cacheToSigma (fun x => some (cacheOfSigma x))
    (fun c => by cases c <;> rfl)

def singleIndex : Format SingleIndex :=
  ((varintField 1 sectionType).seq ((varintField 2 uint64).seq cache)).map
    (fun e => (e.type, e.position, e.cache)) (fun (a, b, c) => some ⟨a, b, c⟩) (fun _ => rfl)

/-! ## Section 3: The runtime -/

/-- A codec from a format. A failed parse leaves the message `empty`. -/
def codec {M : Type} (f : Format M) (empty : M) : Codec M where
  serialize := f.encode
  parse bs  := match f.decodeWhole bs with
    | some m => (m, true)
    | none   => (empty, false)

theorem codec_roundTrip {M : Type} (f : Format M) (empty : M) : (codec f empty).RoundTrip := by
  intro m
  simp [codec, f.decodeWhole_encode]

/-- A codec for a message with one repeated field. -/
def repeatedCodec {M α : Type} (f : Format α) (mk : List α → M) (get : M → List α) : Codec M where
  serialize m := (get m).flatMap f.encode
  parse bs    := match f.decodeAll bs.length bs with
    | some as => (mk as, true)
    | none    => (mk [], false)

theorem repeatedCodec_roundTrip {M α : Type} {f : Format α} {mk : List α → M} {get : M → List α}
    (hne : ∀ a, f.encode a ≠ []) (hmk : ∀ m, mk (get m) = m) :
    (repeatedCodec f mk get).RoundTrip := by
  intro m
  have hdecode := f.decodeAll_encode hne (get m) (f.length_le_flatMap_encode hne (get m))
  simp only [repeatedCodec, hdecode, hmk]

def kDefaultBlockSize : Nat := 8192

def protobuf : Protobuf where
  header      := codec header .default
  chunkHeader := codec chunkHeader ⟨0, 0, 0, 0⟩
  chunkBody   :=
    repeatedCodec (lengthField 1 singleMessage.delimited) ChunkBody.mk ChunkBody.messages
  index       := repeatedCodec (lengthField 1 singleIndex.delimited) Index.mk Index.indexes
  channel     := codec channel ⟨[], [], []⟩
  view size rest  := if 0 ≤ size then rest.take size.toNat else rest
  taken size rest := min (if 0 < size then size.toNat else kDefaultBlockSize) rest.length

theorem lengthField_ne_nil {α : Type} (number : Nat) (f : Format α) (a : α) :
    (lengthField number f).encode a ≠ [] :=
  Format.encode_field_ne_nil _ f a

theorem protobuf_lawful : protobuf.Lawful where
  header           := codec_roundTrip _ _
  chunkHeader      := codec_roundTrip _ _
  chunkBody        := repeatedCodec_roundTrip (lengthField_ne_nil _ _) (fun _ => rfl)
  index            := repeatedCodec_roundTrip (lengthField_ne_nil _ _) (fun _ => rfl)
  channel          := codec_roundTrip _ _
  chunkHeader_pos  := by
    intro m
    apply List.length_pos_of_ne_nil
    intro h
    exact Format.encode_field_ne_nil _ uint64 m.beginTime (List.append_eq_nil_iff.mp h).1
  channel_pos      := by
    intro m
    apply List.length_pos_of_ne_nil
    intro h
    exact lengthField_ne_nil 1 .bytes m.name (List.append_eq_nil_iff.mp h).1
  chunkBody_length := fun m => Format.length_le_flatMap_encode _ (lengthField_ne_nil _ _) m.messages
  view             := by
    intro size rest _
    have hview : (if (0 : Int) ≤ size then rest.take (size : Int).toNat else rest) =
        rest.take size := if_pos (Int.natCast_nonneg size)
    exact hview
  taken            := by
    intro size rest hpos hle
    have hblock : (if (0 : Int) < size then (size : Int).toNat else kDefaultBlockSize) = size :=
      if_pos (Int.natCast_pos.mpr hpos)
    show min (if (0 : Int) < size then (size : Int).toNat else kDefaultBlockSize) _ = _
    rw [hblock]
    exact Nat.min_eq_left hle

end Wire

end CyberRT.Record
