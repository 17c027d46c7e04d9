import CyberRT.Framework.Bytes
import CyberRT.Framework.Buffer

/-! # The message header

    `MessageHeader` is a block of `char` arrays, so that its bytes in memory
    are the arrays one behind the other. Numbers stand in it in network
    order; the message type is a C string in an array of its own.

    A received header is read in place: at offsets of the buffer it came in,
    without a copy. -/

namespace CyberRT.Message

open CyberRT.Framework

/-! ## Section 1: Headers -/

structure MessageHeader where
  magicNum    : CharArray 8
  seq         : CharArray 8
  timestampNs : CharArray 8
  srcId       : CharArray 8
  dstId       : CharArray 8
  msgType     : CharArray 129
  res         : CharArray 19
  contentSize : CharArray 4

/-- `sizeof(msg_type_)`. -/
def sizeofMsgType : Nat := 129

/-- `sizeof(MessageHeader)`. -/
def sizeofMessageHeader : Nat := 192

/-- The offset of `msg_type_`. -/
def msgTypeOffset : Nat := 40

/-- The offset of `content_size_`. -/
def contentSizeOffset : Nat := 188

namespace MessageHeader

/-- "BDACBDAC". -/
def magic : CharArray 8 := ⟨[66, 68, 65, 67, 66, 68, 65, 67], rfl⟩

/-- The constructor. -/
def new : MessageHeader where
  magicNum    := magic
  seq         := .zero 8
  timestampNs := .zero 8
  srcId       := .zero 8
  dstId       := .zero 8
  msgType     := .zero 129
  res         := .zero 19
  contentSize := .zero 4

/-- How many characters of a type name `set_msg_type` keeps. -/
def realLen (msgTypeLen : Nat) : Nat :=
  if sizeofMsgType ≤ msgTypeLen then sizeofMsgType - 1 else msgTypeLen

theorem realLen_lt (msgTypeLen : Nat) : realLen msgTypeLen < sizeofMsgType := by
  unfold realLen
  split
  · decide
  · omega

/-- `set_msg_type`: the name, cut if need be, and a terminating zero. -/
def setMsgType (h : MessageHeader) (msgType : List UInt8) : MessageHeader :=
  if msgType.length = 0 then h
  else
    { h with
      msgType :=
        ⟨msgType.take (realLen msgType.length) ++
          0 :: h.msgType.1.drop (realLen msgType.length + 1), by
          have hlt := realLen_lt msgType.length
          have hle : realLen msgType.length ≤ msgType.length := by
            unfold realLen
            split <;> omega
          have hsize := h.msgType.2
          unfold sizeofMsgType at hlt
          simp only [List.length_append, List.length_take, List.length_cons, List.length_drop]
          omega⟩ }

/-- `set_content_size`, by `Convert32ToArray`. -/
def setContentSize (h : MessageHeader) (contentSize : Nat) : MessageHeader :=
  { h with contentSize := ⟨beBytes 4 contentSize, beBytes_length 4 contentSize⟩ }

/-- The header in memory. -/
def toBytes (h : MessageHeader) : List UInt8 :=
  h.magicNum.1 ++ h.seq.1 ++ h.timestampNs.1 ++ h.srcId.1 ++ h.dstId.1 ++ h.msgType.1 ++ h.res.1 ++
    h.contentSize.1

@[simp] theorem toBytes_length (h : MessageHeader) : h.toBytes.length = sizeofMessageHeader := by
  simp only [toBytes, List.length_append, CharArray.length_eq]
  rfl

@[simp] theorem setContentSize_msgType (h : MessageHeader) (contentSize : Nat) :
    (h.setContentSize contentSize).msgType = h.msgType := rfl

end MessageHeader

/-! ## Section 2: Reading a header in place -/

/-- `header->content_size()`, by `ConvertArrayTo32`. -/
def contentSizeAt (data : List UInt8) : Option Nat :=
  (Buffer.read data contentSizeOffset 4).map ofBeBytes

/-- The `std::string` made of `header->msg_type()`, a pointer into `data`. -/
def msgTypeAt (data : List UInt8) : Option (List UInt8) :=
  Buffer.cString (data.drop msgTypeOffset)

section roundTrip
variable {h : MessageHeader} {rest : List UInt8}

/-- The content size reads back. -/
theorem contentSizeAt_setContentSize {contentSize : Nat} (hlt : contentSize < 2 ^ 32) :
    contentSizeAt ((h.setContentSize contentSize).toBytes ++ rest) = some contentSize := by
  let front := h.magicNum.1 ++ h.seq.1 ++ h.timestampNs.1 ++ h.srcId.1 ++ h.dstId.1 ++
    h.msgType.1 ++ h.res.1
  have hfront : front.length = contentSizeOffset := by
    simp only [front, List.length_append, CharArray.length_eq]
    rfl
  have hbytes : (h.setContentSize contentSize).toBytes ++ rest =
      front ++ (beBytes 4 contentSize ++ rest) := List.append_assoc _ _ _
  have hread : Buffer.read ((h.setContentSize contentSize).toBytes ++ rest) contentSizeOffset 4 =
      some (beBytes 4 contentSize) := by
    rw [Buffer.read_of_le, hbytes, List.drop_left' hfront, List.take_left' (beBytes_length 4 _)]
    rw [List.length_append, MessageHeader.toBytes_length]
    exact Nat.le_add_right _ _
  rw [contentSizeAt, hread, Option.map_some, ofBeBytes_beBytes_of_lt hlt]

/-- **Type names**: in a header that had none, the first 128 characters of
    the name read back. -/
theorem msgTypeAt_setMsgType {msgType : List UInt8} {contentSize : Nat}
    (hnone : h.msgType = .zero 129) (hzero : 0 ∉ msgType) :
    msgTypeAt (((h.setMsgType msgType).setContentSize contentSize).toBytes ++ rest) =
      some (msgType.take 128) := by
  let h' := (h.setMsgType msgType).setContentSize contentSize
  let front := h'.magicNum.1 ++ h'.seq.1 ++ h'.timestampNs.1 ++ h'.srcId.1 ++ h'.dstId.1
  have hfront : front.length = msgTypeOffset := by
    simp only [front, List.length_append, CharArray.length_eq]
    rfl
  have hbytes : h'.toBytes ++ rest =
      front ++ ((h.setMsgType msgType).msgType.1 ++ (h'.res.1 ++ h'.contentSize.1 ++ rest)) := by
    simp only [MessageHeader.toBytes, front, h', MessageHeader.setContentSize_msgType,
      List.append_assoc]
  have hstring : ∃ tail, (h.setMsgType msgType).msgType.1 = msgType.take 128 ++ 0 :: tail := by
    unfold MessageHeader.setMsgType
    split
    · next hempty =>
      -- an empty name is not stored, and the header had none
      rw [List.length_eq_zero_iff.mp hempty, hnone]
      exact ⟨List.replicate 128 0, rfl⟩
    · refine ⟨h.msgType.1.drop (MessageHeader.realLen msgType.length + 1), ?_⟩
      show msgType.take (MessageHeader.realLen msgType.length) ++ _ = _
      congr 1
      unfold MessageHeader.realLen sizeofMsgType
      split
      · -- the name is cut
        rfl
      · rw [List.take_length, List.take_of_length_le (by omega)]
  obtain ⟨tail, htail⟩ := hstring
  rw [msgTypeAt, hbytes, List.drop_left' hfront, htail, List.append_assoc, List.cons_append]
  exact Buffer.cString_append fun hmem => hzero (List.mem_of_mem_take hmem)

end roundTrip

end CyberRT.Message
