import CyberRT.Message.MessageTraits

/-! # Framed messages

    What `SerializeToHC` writes `ParseFromHC` reads back, but for one case:
    an empty payload is written and refused by the reader.

    Neither function keeps to the size it is given. `SerializeToHC` copies
    the header before it compares any size, and `ParseFromHC` looks for the
    end of the message type without a bound. -/

namespace CyberRT.Message

open CyberRT.Framework

namespace MessageTraits

variable {M : Type} {T : MessageTraits M} {m : M} {data : List UInt8} {size : Int}

/-! ## Section 1: What is written -/

/-- The header and the payload are copied to the front of the buffer. -/
theorem serializeToHC_of_room (hsize : 0 ≤ T.byteSize m)
    (hroom : sizeofMessageHeader + (T.content m).length ≤ size) (hdata : size ≤ data.length) :
    ∃ rest, T.serializeToHC m data size =
      some (true, (T.header m).toBytes ++ T.content m ++ rest) := by
  have hheader : 0 + (T.header m).toBytes.length ≤ data.length := by
    rw [MessageHeader.toBytes_length]
    omega
  have hleft : ¬ size - sizeofMessageHeader < toInt32 (T.content m).length := by
    have := toInt32_le (T.content m).length
    omega
  let written := (T.header m).toBytes ++ data.drop sizeofMessageHeader
  have hwritten : sizeofMessageHeader + (T.content m).length ≤ written.length := by
    rw [List.length_append, MessageHeader.toBytes_length, List.length_drop]
    omega
  have htake : written.take sizeofMessageHeader = (T.header m).toBytes :=
    List.take_left' (MessageHeader.toBytes_length _)
  have hwrite : Buffer.write data 0 (T.header m).toBytes = some written := by
    rw [Buffer.write_of_le hheader, MessageHeader.toBytes_length, Nat.zero_add]
    rfl
  refine ⟨written.drop (sizeofMessageHeader + (T.content m).length), ?_⟩
  unfold serializeToHC
  rw [if_neg (Int.not_lt.mpr hsize), hwrite]
  show serializeString _ _ _ _ = _
  rw [serializeString, if_neg hleft, Buffer.write_of_le hwritten, htake]
  rfl

/-! ## Section 2: Round trip -/

/-- What the header of a frame says. -/
theorem header_reads_back (hsize : (T.content m).length < 2 ^ 31) (hzero : 0 ∉ T.messageType m)
    (rest : List UInt8) :
    contentSizeAt ((T.header m).toBytes ++ rest) = some (T.content m).length ∧
    msgTypeAt ((T.header m).toBytes ++ rest) = some ((T.messageType m).take 128) := by
  have hbytes : (T.byteSize m).toNat = (T.content m).length := by
    rw [byteSize, toInt32_of_lt hsize, Int.toNat_natCast]
  constructor
  · rw [header, hbytes]
    exact contentSizeAt_setContentSize (by omega)
  · exact msgTypeAt_setMsgType rfl hzero

/-- `ParseFromHC` of a frame comes down to `ParseFromArray` of its payload. -/
theorem parseFromHC_of_frame (hlen : (T.content m).length < 2 ^ 31) (hzero : 0 ∉ T.messageType m)
    (hroom : sizeofMessageHeader + (T.content m).length ≤ size) (rest : List UInt8) (old : M) :
    T.parseFromHC ((T.header m).toBytes ++ T.content m ++ rest) size old =
      T.parseFromArray old ((T.header m).toBytes ++ T.content m ++ rest) sizeofMessageHeader
        (T.content m).length := by
  have hread := header_reads_back hlen hzero (T.content m ++ rest)
  rw [← List.append_assoc] at hread
  have hlong : ¬ size < sizeofMessageHeader := by omega
  have hfits : ¬ (size - sizeofMessageHeader).toNat < (T.content m).length := by omega
  unfold parseFromHC
  rw [if_neg hlong, hread.1]
  simp only [if_neg hfits, hread.2, toInt32_of_lt hlen]

/-- **Round trip** of a message through a buffer of the given size: it is
    serialised, the same size is parsed back into any message, and header
    and payload come out as they went in. -/
def RoundTrips (T : MessageTraits M) (m : M) (data : List UInt8) (size : Int) : Prop :=
  ∃ data', T.serializeToHC m data size = some (true, data') ∧
    contentSizeAt data' = some (T.content m).length ∧
    msgTypeAt data' = some ((T.messageType m).take 128) ∧
    ∀ old, ∃ m', T.parseFromHC data' size old = some (true, m') ∧ T.content m' = T.content m

/-- The payload of a frame, parsed as a string. -/
theorem parseString_of_frame (header payload rest old : List UInt8) :
    parseString old (header ++ payload ++ rest) header.length payload.length =
      some (if payload = [] then (false, old) else (true, payload)) := by
  unfold parseString
  by_cases hempty : payload = []
  · subst hempty
    rfl
  · have hpos := List.length_pos_iff.mpr hempty
    rw [if_neg (by omega), if_neg hempty, Int.toNat_natCast, Buffer.read_append]
    rfl

/-- For a message kept as a string the round trip fails on an empty payload
    and on nothing else. -/
theorem KeepsString.roundTrips_iff (K : T.KeepsString)
    (hlen : (T.content m).length < 2 ^ 31 - sizeofMessageHeader)
    (hroom : T.fullByteSize m ≤ size) (hdata : size ≤ data.length) :
    T.RoundTrips m data size ↔ T.content m ≠ [] := by
  have hlt : (T.content m).length < 2 ^ 31 := by omega
  have hsize : T.byteSize m = (T.content m).length := toInt32_of_lt hlt
  have hfits : sizeofMessageHeader + (T.content m).length ≤ size := by
    unfold fullByteSize at hroom
    rw [hsize, if_neg (by omega)] at hroom
    omega
  obtain ⟨rest, hwrite⟩ := serializeToHC_of_room (by omega) hfits hdata
  have hparse := fun old => parseString_of_frame (T.header m).toBytes (T.content m) rest old
  simp only [MessageHeader.toBytes_length] at hparse
  constructor
  · -- a frame without payload is refused
    rintro ⟨data', hwrite', -, -, hback⟩ hempty
    rw [hwrite] at hwrite'
    cases hwrite'
    obtain ⟨m', hm', -⟩ := hback m
    rw [parseFromHC_of_frame hlt (K.named m) hfits, K.parse, hparse, if_pos hempty] at hm'
    cases hm'
  · intro hne
    have hread := header_reads_back hlt (K.named m) (T.content m ++ rest)
    rw [← List.append_assoc] at hread
    refine ⟨_, hwrite, hread.1, hread.2, ?_⟩
    intro old
    refine ⟨K.assign old (T.content m), ?_, K.content_assign old (T.content m)⟩
    rw [parseFromHC_of_frame hlt (K.named m) hfits, K.parse, hparse, if_neg hne]
    rfl

end MessageTraits

/-- **Framed messages** of either class come back from every buffer that is
    large enough exactly if their payload is not empty. -/
theorem framed_roundTrip (data : List UInt8) (size : Int) (hdata : size ≤ data.length) :
    (∀ m : RawMessage, m.message.length < 2 ^ 31 - sizeofMessageHeader →
      RawMessage.traits.fullByteSize m ≤ size →
      (RawMessage.traits.RoundTrips m data size ↔ m.message ≠ [])) ∧
    (∀ m : PyMessageWrap, m.data.length < 2 ^ 31 - sizeofMessageHeader →
      PyMessageWrap.traits.fullByteSize m ≤ size →
      (PyMessageWrap.traits.RoundTrips m data size ↔ m.data ≠ [])) :=
  ⟨fun _ hlen hroom => RawMessage.keepsString.roundTrips_iff hlen hroom hdata,
    fun _ hlen hroom => PyMessageWrap.keepsString.roundTrips_iff hlen hroom hdata⟩

/-- One byte in a buffer of 200 is a round trip. -/
theorem framed_roundTrip_oneByte :
    RawMessage.traits.RoundTrips ⟨[7], 0⟩ (List.replicate 200 0) 200 :=
  ((framed_roundTrip (List.replicate 200 0) 200 (by rw [List.length_replicate]; decide)).1
    ⟨[7], 0⟩ (by decide) (by decide)).mpr (by decide)

set_option maxRecDepth 4000 in
/-- The empty message fills its buffer of 192 bytes, and is not read back. -/
theorem framed_emptyRefused :
    RawMessage.traits.fullByteSize ⟨[], 0⟩ = 192 ∧
    ¬ RawMessage.traits.RoundTrips ⟨[], 0⟩ (List.replicate 192 0) 192 := by
  refine ⟨by decide, ?_⟩
  rintro ⟨data, hwrite, -, -, hback⟩
  cases hwrite
  obtain ⟨m, hm, -⟩ := hback ⟨[], 0⟩
  have hrefused : RawMessage.traits.parseFromHC
      (RawMessage.traits.header ⟨[], 0⟩).toBytes 192 ⟨[], 0⟩ = some (false, ⟨[], 0⟩) := by decide
  cases hrefused.symm.trans hm

/-! ## Section 3: Offsets -/

namespace MessageTraits

variable {M : Type} (T : MessageTraits M)

/-- `SerializeToHC` stays inside of the buffer, and one that returns false
    leaves it as it was. -/
def WritesInside (m : M) (data : List UInt8) (size : Int) : Prop :=
  ∃ ok data', T.serializeToHC m data size = some (ok, data') ∧ (ok = false → data' = data)

/-- The header goes to the front of the buffer, whatever `size` is. -/
theorem serializeToHC_of_byteSize {m : M} {data : List UInt8} (size : Int)
    (hsize : 0 ≤ T.byteSize m) :
    T.serializeToHC m data size =
      if data.length < sizeofMessageHeader then none
      else
        T.serializeToArray m ((T.header m).toBytes ++ data.drop sizeofMessageHeader)
          sizeofMessageHeader (size - sizeofMessageHeader) := by
  have hlength := MessageHeader.toBytes_length (T.header m)
  unfold serializeToHC
  rw [if_neg (Int.not_lt.mpr hsize)]
  by_cases hshort : data.length < sizeofMessageHeader
  · rw [if_pos hshort, Buffer.write_eq_none (by omega)]
  · rw [if_neg hshort, Buffer.write_of_le (by omega), hlength, Nat.zero_add]
    rfl

/-- The writer keeps to its bounds if the frame fits or there is nothing to
    be written. Without room for the payload it has written its header, and
    only a buffer that had the same bytes there is left unchanged. -/
theorem writesInside_iff {m : M} {data : List UInt8} {size : Int}
    (hdata : data.length = size.toNat) :
    T.WritesInside m data size ↔
      T.byteSize m < 0 ∨ sizeofMessageHeader + (T.content m).length ≤ size ∨
        sizeofMessageHeader ≤ size ∧ size - sizeofMessageHeader < T.byteSize m ∧
          data.take sizeofMessageHeader = (T.header m).toBytes := by
  rcases Int.lt_or_le (T.byteSize m) 0 with hneg | hsize
  · have hfalse : T.serializeToHC m data size = some (false, data) := if_pos hneg
    exact ⟨fun _ => .inl hneg, fun _ => ⟨false, data, hfalse, fun _ => rfl⟩⟩
  have hle := toInt32_le (T.content m).length
  have hheader : 0 < sizeofMessageHeader := by decide
  unfold WritesInside
  rw [serializeToHC_of_byteSize T size hsize]
  by_cases hshort : data.length < sizeofMessageHeader
  · -- the header alone does not fit
    rw [if_pos hshort]
    constructor
    · rintro ⟨ok, data', hnone, -⟩
      cases hnone
    · unfold sizeofMessageHeader at *
      omega
  rw [if_neg hshort, serializeToArray, serializeString]
  have hlength : ((T.header m).toBytes ++ data.drop sizeofMessageHeader).length = data.length := by
    rw [List.length_append, MessageHeader.toBytes_length, List.length_drop]
    omega
  by_cases hleft : size - sizeofMessageHeader < T.byteSize m
  · -- no room for the payload: false, with the header written
    rw [if_pos (show _ < toInt32 _ from hleft)]
    have hrefused : ¬ sizeofMessageHeader + (T.content m).length ≤ size := by
      unfold byteSize at hleft
      omega
    constructor
    · rintro ⟨ok, data', hwrite, hsame⟩
      cases hwrite
      have hfront := congrArg (List.take sizeofMessageHeader) (hsame rfl)
      rw [List.take_left' (MessageHeader.toBytes_length _)] at hfront
      exact .inr (.inr ⟨by omega, hleft, hfront.symm⟩)
    · rintro (hneg | hroom | ⟨-, -, hfront⟩)
      · omega
      · exact absurd hroom hrefused
      · refine ⟨false, _, rfl, fun _ => ?_⟩
        rw [← hfront, List.take_append_drop]
  · rw [if_neg (show ¬ _ < toInt32 _ from hleft)]
    -- not refused, which need not mean that there is room
    by_cases hroom : sizeofMessageHeader + (T.content m).length ≤ size
    · rw [Buffer.write_of_le (by omega)]
      exact ⟨fun _ => .inr (.inl hroom), fun _ => ⟨true, _, rfl, nofun⟩⟩
    · -- a length that was cut to `int` hides the missing room
      rw [Buffer.write_eq_none (by omega)]
      constructor
      · rintro ⟨ok, data', hnone, -⟩
        cases hnone
      · rintro (hneg | hfits | ⟨-, hless, -⟩)
        · omega
        · exact absurd hfits hroom
        · exact absurd hless hleft

/-- The reader keeps to its bounds if it refuses the sizes or finds a zero
    byte from the type name on. -/
theorem parseFromHC_inside_iff {data : List UInt8} {size : Int} (hdata : data.length = size.toNat)
    (m : M) :
    (T.parseFromHC data size m).isSome ↔
      size < sizeofMessageHeader ∨
        (∃ n, contentSizeAt data = some n ∧ (size - sizeofMessageHeader).toNat < n) ∨
        0 ∈ data.drop msgTypeOffset := by
  unfold parseFromHC
  by_cases hshort : size < sizeofMessageHeader
  · rw [if_pos hshort]
    exact ⟨fun _ => .inl hshort, fun _ => rfl⟩
  rw [if_neg hshort]
  -- the header is there, so its size can be read
  have hread : ∃ n, contentSizeAt data = some n := by
    unfold contentSizeAt
    rw [Buffer.read_of_le]
    · exact ⟨_, rfl⟩
    · unfold contentSizeOffset
      unfold sizeofMessageHeader at hshort
      omega
  obtain ⟨n, hn⟩ := hread
  rw [hn]
  show Option.isSome (if _ then _ else _) ↔ _
  by_cases hmore : (size - sizeofMessageHeader).toNat < n
  · rw [if_pos hmore]
    exact ⟨fun _ => .inr (.inl ⟨n, rfl, hmore⟩), fun _ => rfl⟩
  rw [if_neg hmore]
  rcases hname : msgTypeAt data with _ | name
  · -- the search for the end of the name runs out of the buffer
    constructor
    · intro hnone
      cases hnone
    · rintro (h | ⟨n', hn', h⟩ | hzero)
      · exact absurd h hshort
      · cases hn'
        exact absurd h hmore
      · exact absurd hzero (Buffer.cString_eq_none_iff.mp hname)
  · have hzero : 0 ∈ data.drop msgTypeOffset := by
      by_contra hmissing
      rw [msgTypeAt, Buffer.cString_eq_none_iff.mpr hmissing] at hname
      cases hname
    -- the sizes agree and the name ends inside
    have hle := toInt32_le n
    exact ⟨fun _ => .inr (.inr hzero), fun _ => T.parse_inside m data _ _ (by omega)⟩

end MessageTraits

/-- **Framed messages and their buffers**: when exactly writer and reader
    stay at the offsets below `size`. -/
theorem framed_inside {M : Type} (T : MessageTraits M) (m : M) (data : List UInt8) (size : Int)
    (hdata : data.length = size.toNat) :
    (T.WritesInside m data size ↔
      T.byteSize m < 0 ∨ sizeofMessageHeader + (T.content m).length ≤ size ∨
        sizeofMessageHeader ≤ size ∧ size - sizeofMessageHeader < T.byteSize m ∧
          data.take sizeofMessageHeader = (T.header m).toBytes) ∧
    ((T.parseFromHC data size m).isSome ↔
      size < sizeofMessageHeader ∨
        (∃ n, contentSizeAt data = some n ∧ (size - sizeofMessageHeader).toNat < n) ∨
        0 ∈ data.drop msgTypeOffset) :=
  ⟨T.writesInside_iff hdata, T.parseFromHC_inside_iff hdata m⟩

/-- Seven bytes are left behind a frame of 193 bytes. -/
theorem framed_inside_room :
    RawMessage.traits.WritesInside ⟨[7], 0⟩ (List.replicate 200 0) 200 :=
  (framed_inside RawMessage.traits ⟨[7], 0⟩ (List.replicate 200 0) 200
    (by rw [List.length_replicate]; decide)).1.mpr (.inr (.inl (by decide)))

set_option maxRecDepth 4000 in
/-- The header goes to a buffer without a byte. One of 192 bytes is
    overwritten although the one byte of payload does not fit. A header
    without a zero byte is searched beyond its end. -/
theorem framed_outside :
    RawMessage.traits.serializeToHC ⟨[7], 0⟩ [] 0 = none ∧
    RawMessage.traits.serializeToHC ⟨[7], 0⟩ (List.replicate 192 0) 192 =
      some (false, (RawMessage.traits.header ⟨[7], 0⟩).toBytes) ∧
    ¬ RawMessage.traits.WritesInside ⟨[7], 0⟩ (List.replicate 192 0) 192 ∧
    RawMessage.traits.parseFromHC (List.replicate (192 + 16843009) 1) (192 + 16843009) ⟨[], 0⟩ =
      none := by
  have hcut : RawMessage.traits.serializeToHC ⟨[7], 0⟩ (List.replicate 192 0) 192 =
      some (false, (RawMessage.traits.header ⟨[7], 0⟩).toBytes) := rfl
  refine ⟨rfl, hcut, ?_, ?_⟩
  · rintro ⟨ok, data', hwrite, hsame⟩
    cases hcut.symm.trans hwrite
    exact absurd (congrArg List.head? (hsame rfl)) (by decide)
  · have hclaimed : contentSizeAt (List.replicate (192 + 16843009) 1) = some 16843009 := by
      have hbehind :
          contentSizeOffset + 4 ≤ (List.replicate (192 + 16843009) (1 : UInt8)).length := by
        rw [List.length_replicate]
        decide
      rw [contentSizeAt, Buffer.read_of_le hbehind, List.drop_replicate, List.take_replicate]
      rfl
    have hdata : (List.replicate (192 + 16843009) (1 : UInt8)).length =
        (192 + 16843009 : Int).toNat := by
      rw [List.length_replicate]
      rfl
    have hinside := RawMessage.traits.parseFromHC_inside_iff hdata ⟨[], 0⟩
    rw [Option.eq_none_iff_forall_ne_some]
    intro result hresult
    have hsome := Option.isSome_iff_exists.mpr ⟨result, hresult⟩
    rcases hinside.mp hsome with h | ⟨n, hn, h⟩ | hzero
    · exact absurd h (by decide)
    · cases hclaimed.symm.trans hn
      exact absurd h (by decide)
    · rw [List.drop_replicate] at hzero
      exact absurd (List.eq_of_mem_replicate hzero) (by decide)

end CyberRT.Message
