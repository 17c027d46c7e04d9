import CyberRT.Framework.Extrema
import CyberRT.Record.File.RecordCounters

/-! # Time bounds of a record file

    `Chunk::add` keeps the bounds of the chunk in its header, `WriteChunk`
    those of the file in the header of the file. Both take a begin time of
    `0` for "none yet", so a message of time `0` is forgotten with the next
    one; and the file takes its begin time from its first chunk and its end
    time from its last chunk, whatever the others hold.

    Numbers and sizes are right for every chunk. The bounds are exactly when
    the chunks hold their times in an order that hides this. -/

namespace CyberRT.Record

open CyberRT.Framework

variable {P : Protobuf} {given : Header} {s : State}

/-! ## Section 1: Bounds -/

def timesOf (ms : List SingleMessage) : List Nat := ms.map (·.time.toNat)

def contentSize (ms : List SingleMessage) : Nat := (ms.map (·.content.length)).sum

/-- The header of a chunk is that of these messages. -/
structure ChunkHeader.Bounds (h : ChunkHeader) (ms : List SingleMessage) : Prop where
  beginTime     : IsLeast (valuesOf (timesOf ms)) h.beginTime.toNat
  endTime       : IsGreatest (valuesOf (timesOf ms)) h.endTime.toNat
  messageNumber : h.messageNumber.toNat = ms.length
  rawSize       : h.rawSize.toNat = contentSize ms

/-- The sections of a file between its header and its index. -/
def RecordFile.sections (r : RecordFile) : List Message := r.blocks.flatMap Block.sections

/-- **Property**: each chunk header bounds the body behind it, and the header
    of the file, if there are messages, all of them. -/
structure RecordFile.TimeBounds (r : RecordFile) : Prop where
  chunks : ∀ h b, [Message.chunkHeader h, .chunkBody b] <:+: r.sections → h.Bounds b.messages
  header : messagesOf r.blocks ≠ [] →
    IsLeast (valuesOf (timesOf (messagesOf r.blocks))) r.header.beginTime.toNat ∧
      IsGreatest (valuesOf (timesOf (messagesOf r.blocks))) r.header.endTime.toNat

/-- **Condition** on the times of the chunks of a file, in file order, and on
    the begin time of the header given to `WriteHeader`. -/
structure TimesInOrder (start : Nat) (chunks : List (List Nat)) : Prop where
  zeroLast     : ∀ ts ∈ chunks, 0 ∈ ts → ts.getLast? = some 0
  leastFirst   : chunks ≠ [] → LeastInFirst start chunks
  greatestLast : ∀ ts ∈ chunks.getLast?, ∀ y ∈ chunks.flatten, ∃ x ∈ ts, y ≤ x

/-- The content of each message is in the encoding of its chunk body. -/
def Protobuf.HoldsContent (P : Protobuf) : Prop :=
  ∀ b : ChunkBody, contentSize b.messages ≤ P.chunkBody.byteSize b

theorem Wire.protobuf_holdsContent : Wire.protobuf.HoldsContent := by
  rintro ⟨ms⟩
  induction ms with
  | nil => exact Nat.zero_le _
  | cons m ms ih =>
    have hmessage : m.content.length ≤
        ((Wire.lengthField 1 Wire.singleMessage.delimited).encode m).length := by
      simp only [Wire.lengthField, Wire.singleMessage, Wire.string, Wire.varintField,
        Format.field, Format.delimited, Format.bytes, Format.map, Format.seq, List.length_append]
      omega
    simp only [Wire.protobuf, Codec.byteSize, Wire.repeatedCodec, contentSize, List.map_cons,
      List.sum_cons, List.flatMap_cons, List.length_append] at ih ⊢
    omega

/-! ## Section 2: Chunks -/

namespace Chunk

theorem beginTime_of (ms : List SingleMessage) :
    (Chunk.of ms).header.beginTime.toNat = leastSeen (timesOf ms) := by
  induction ms using List.reverseRecOn with
  | nil => rfl
  | append_singleton ms m ih =>
    have htimes : timesOf (ms ++ [m]) = timesOf ms ++ [m.time.toNat] := List.map_append
    rw [of_concat, htimes, leastSeen_concat, ← ih]
    have hzero : (Chunk.of ms).header.beginTime = 0 ↔
        (Chunk.of ms).header.beginTime.toNat = ⊥ := UInt64.toNat_inj.symm
    show (if _ then _ else _ : UInt64).toNat = _
    by_cases hunset : (Chunk.of ms).header.beginTime = 0
    · rw [if_pos hunset, if_pos (hzero.mp hunset)]
    · rw [if_neg hunset, if_neg (mt hzero.mpr hunset)]
      by_cases hgt : (Chunk.of ms).header.beginTime > m.time
      · rw [if_pos hgt, min_eq_right (Nat.le_of_lt (UInt64.lt_iff_toNat_lt.mp hgt))]
      · have hle : (Chunk.of ms).header.beginTime.toNat ≤ m.time.toNat :=
          Nat.le_of_not_lt (mt UInt64.lt_iff_toNat_lt.mpr hgt)
        rw [if_neg hgt, min_eq_left hle]

theorem endTime_of (ms : List SingleMessage) :
    (Chunk.of ms).header.endTime.toNat = greatestSeen (timesOf ms) := by
  induction ms using List.reverseRecOn with
  | nil => rfl
  | append_singleton ms m ih =>
    have htimes : timesOf (ms ++ [m]) = timesOf ms ++ [m.time.toNat] := List.map_append
    rw [of_concat, htimes, greatestSeen_concat, ← ih]
    show (if _ then _ else _ : UInt64).toNat = _
    by_cases hlt : (Chunk.of ms).header.endTime < m.time
    · rw [if_pos hlt, max_eq_right (Nat.le_of_lt (UInt64.lt_iff_toNat_lt.mp hlt))]
    · have hle : m.time.toNat ≤ (Chunk.of ms).header.endTime.toNat :=
        Nat.le_of_not_lt (mt UInt64.lt_iff_toNat_lt.mpr hlt)
      rw [if_neg hlt, max_eq_left hle]

theorem rawSize_of (ms : List SingleMessage) :
    (Chunk.of ms).header.rawSize = .ofNat (contentSize ms) := by
  induction ms using List.reverseRecOn with
  | nil => rfl
  | append_singleton ms m ih =>
    rw [of_concat]
    show (Chunk.of ms).header.rawSize + .ofNat m.content.length = _
    rw [ih]
    simp [contentSize]

end Chunk

theorem timesOf_ne_nil {ms : List SingleMessage} (h : ms ≠ []) : timesOf ms ≠ [] :=
  mt List.map_eq_nil_iff.mp h

/-- The header `add` makes bounds its messages unless it has seen a time of
    `0` and something after it. -/
theorem bounds_of_iff {ms : List SingleMessage} (hne : ms ≠ [])
    (hnumber : ms.length < UInt64.size) (hsize : contentSize ms < UInt64.size) :
    (Chunk.of ms).header.Bounds ms ↔ (0 ∈ timesOf ms → (timesOf ms).getLast? = some 0) := by
  have hleast := isLeast_leastSeen_iff (timesOf_ne_nil hne)
  rw [← Chunk.beginTime_of] at hleast
  constructor
  · intro h
    exact hleast.mp h.beginTime
  · intro h
    constructor
    · exact hleast.mpr h
    · rw [Chunk.endTime_of]
      exact isGreatest_greatestSeen (timesOf_ne_nil hne)
    · rw [Chunk.messageNumber_of, UInt64.toNat_ofNat_of_lt' hnumber]
    · rw [Chunk.rawSize_of, UInt64.toNat_ofNat_of_lt' hsize]

/-- A chunk header with a body behind it, among the sections of blocks. -/
theorem infix_sections_iff {blocks : List Block} {h : ChunkHeader} {b : ChunkBody} :
    [Message.chunkHeader h, .chunkBody b] <:+: blocks.flatMap Block.sections ↔
      .chunk b.messages ∈ blocks ∧ h = (Chunk.of b.messages).header := by
  induction blocks with
  | nil => simp
  | cons block blocks ih =>
    rw [List.flatMap_cons]
    cases block with
    | channel c =>
      show _ <:+: Message.channel c :: blocks.flatMap Block.sections ↔ _
      rw [List.infix_cons_iff, ih]
      simp
    | chunk ms =>
      show _ <:+: Message.chunkHeader (Chunk.of ms).header :: Message.chunkBody ⟨ms⟩ ::
        blocks.flatMap Block.sections ↔ _
      rw [List.infix_cons_iff, List.infix_cons_iff, ih]
      simp only [List.cons_prefix_cons, Message.chunkHeader.injEq, Message.chunkBody.injEq,
        List.nil_prefix, and_true, List.mem_cons, Block.chunk.injEq, reduceCtorEq, false_and,
        false_or]
      constructor
      · rintro (⟨rfl, rfl⟩ | ⟨hin, rfl⟩)
        · exact ⟨.inl rfl, rfl⟩
        · exact ⟨.inr hin, rfl⟩
      · rintro ⟨rfl | hin, rfl⟩
        · exact .inl ⟨rfl, rfl⟩
        · exact .inr ⟨hin, rfl⟩

/-! ## Section 3: The header of the file -/

/-- The end time `WriteChunk` leaves: that of the last chunk. -/
def endAfter (start : Nat) (chunks : List (List Nat)) : Nat :=
  (chunks.getLast?.map greatestSeen).getD start

theorem endAfter_concat (start : Nat) (chunks : List (List Nat)) (ts : List Nat) :
    endAfter start (chunks ++ [ts]) = greatestSeen ts := by
  simp [endAfter]

/-- The times of the chunks in the file. -/
def State.chunkTimes (s : State) : List (List Nat) := (chunksOf s.blocks).map timesOf

/-- **Invariant**: the bounds in the member `header_`. -/
structure Bounded (given : Header) (s : State) : Prop where
  beginTime : s.caller.fresh = false → s.header.beginTime.toNat =
    firstSeen given.beginTime.toNat (s.chunkTimes.map leastSeen)
  endTime   : s.caller.fresh = false → s.header.endTime.toNat =
    endAfter given.endTime.toNat s.chunkTimes

/-- A step that leaves the bounds and the chunks alone. -/
theorem Bounded.same {s s' : State} (h : Bounded given s)
    (hf : s'.caller.fresh = false → s.caller.fresh = false)
    (hbegin : s'.header.beginTime = s.header.beginTime)
    (hend : s'.header.endTime = s.header.endTime)
    (hchunks : s'.chunkTimes = s.chunkTimes) : Bounded given s' where
  beginTime := fun hf' => by
    rw [hbegin, hchunks]
    exact h.beginTime (hf hf')
  endTime   := fun hf' => by
    rw [hend, hchunks]
    exact h.endTime (hf hf')

/-- A chunk is written. -/
theorem bounded_chunkBody (ht : s.Threads) (hc : s.Chunks) (h : Bounded given s)
    (hg : ((recordFileWriter P given).action .chunkBody).gate s) :
    Bounded given (((recordFileWriter P given).action .chunkBody).effect s) := by
  obtain ⟨hf, _⟩ := growing_of_writing ht hc (by rw [hg.1]; rfl)
  let ms := s.chunkFlush.body.messages
  have hof : s.chunkFlush.header = (Chunk.of ms).header := congrArg Chunk.header hc.soundFlush.of
  have hbegin : s.chunkFlush.header.beginTime.toNat = leastSeen (timesOf ms) := by
    rw [hof]
    exact Chunk.beginTime_of ms
  have hend : s.chunkFlush.header.endTime.toNat = greatestSeen (timesOf ms) := by
    rw [hof]
    exact Chunk.endTime_of ms
  have htimes : (((recordFileWriter P given).action .chunkBody).effect s).chunkTimes =
      s.chunkTimes ++ [timesOf ms] := by
    show (chunksOf (s.blocks ++ [.chunk ms])).map timesOf = _
    rw [chunksOf_concat_chunk, List.map_append]
    rfl
  constructor
  · intro _
    have hzero : s.header.beginTime = 0 ↔ s.header.beginTime.toNat = ⊥ := UInt64.toNat_inj.symm
    rw [htimes]
    show (if s.header.beginTime = 0 then s.chunkFlush.header.beginTime
      else s.header.beginTime).toNat = _
    rw [List.map_append, List.map_singleton, firstSeen_concat, ← h.beginTime hf, ← hbegin]
    by_cases hunset : s.header.beginTime = 0
    · rw [if_pos hunset, if_pos (hzero.mp hunset)]
    · rw [if_neg hunset, if_neg (mt hzero.mpr hunset)]
  · intro _
    rw [htimes, endAfter_concat]
    exact hend

/-- **Step lemma**, bounds. -/
theorem bounded_step (a : Label) (ht : s.Threads) (hc : s.Chunks) (hcount : Counted P given s)
    (h : Bounded given s) (hg : ((recordFileWriter P given).action a).gate s) :
    Bounded given (((recordFileWriter P given).action a).effect s) := by
  cases a with
  | chunkBody => exact bounded_chunkBody ht hc h hg
  | headerWrite last =>
    cases last with
    | false =>
      -- the header is the one given, and there are no chunks yet
      have hblocks : s.chunkTimes = [] := by
        rw [State.chunkTimes, (hcount.fresh (by rw [hg.1]; rfl)).2]
        rfl
      constructor
      · intro _
        show given.beginTime.toNat = firstSeen _ (s.chunkTimes.map leastSeen)
        rw [hblocks]
        rfl
      · intro _
        show given.endTime.toNat = endAfter _ s.chunkTimes
        rw [hblocks]
        rfl
    | true =>
      have hf : s.caller.fresh = false := by
        rw [hg.1]
        rfl
      exact h.same (fun _ => hf) rfl rfl rfl
  | channelWrite c =>
    have hf : s.caller.fresh = false := by
      rw [hg.1]
      rfl
    exact h.same (fun _ => hf) rfl rfl (congrArg (·.map timesOf) (chunksOf_concat_channel _ c))
  | writeMessage m | indexWrite =>
    have hf : s.caller.fresh = false := by
      rw [hg.1]
      rfl
    exact h.same (fun _ => hf) rfl rfl rfl
  | swap last | setComplete =>
    have hf : s.caller.fresh = false := by
      rw [show s.caller = _ from hg]
      rfl
    exact h.same (fun _ => hf) rfl rfl rfl
  | chunkHeader => exact h.same id rfl rfl rfl
  | clear => exact h.same id rfl rfl rfl
  | _ =>
    have hq := quiet_step _ rfl hg
    refine h.same (fun hf => hq.fresh ▸ hf) ?_ ?_ ?_
    · rw [hq.members]
    · rw [hq.members]
    · unfold State.chunkTimes
      rw [hq.members]

/-- **Run lemma**: the bounds in every reachable state. -/
theorem bounded_reachable (h : (recordFileWriter P given).Reachable s) : Bounded given s := by
  induction h with
  | init hi =>
    obtain ⟨_, _, _, _, hcaller, _⟩ := hi
    constructor
    · rw [hcaller]
      nofun
    · rw [hcaller]
      nofun
  | step a hr hstep ih =>
    obtain ⟨hg, rfl⟩ := hstep
    obtain ⟨ht, hc⟩ := threads_reachable hr
    exact bounded_step a ht hc (counted_reachable hr) ih hg

/-! ## Section 4: After Close -/

theorem messagesOf_eq_flatten (blocks : List Block) :
    messagesOf blocks = (chunksOf blocks).flatten := by
  induction blocks with
  | nil => rfl
  | cons b blocks ih =>
    rw [messagesOf, List.flatMap_cons, ← messagesOf, ih]
    cases b <;> rfl

theorem timesOf_messagesOf (blocks : List Block) :
    timesOf (messagesOf blocks) = ((chunksOf blocks).map timesOf).flatten := by
  rw [messagesOf_eq_flatten]
  exact List.map_flatten

/-- Chunks of the file are counted in 64 bits. -/
theorem chunk_small {h : Header} {file : FileImage} {blocks : List Block} {opened : List Message}
    (hP : P.Lawful) (hcontent : P.HoldsContent) (hw : Written P h file blocks opened)
    {ms : List SingleMessage} (hms : .chunk ms ∈ blocks) :
    ms.length < UInt64.size ∧ contentSize ms < UInt64.size := by
  have hsize : P.byteSize (.chunkBody ⟨ms⟩) ≤ intMax := by
    apply hw.sizes
    refine List.mem_append_left _ (List.mem_flatMap.mpr ⟨_, hms, ?_⟩)
    exact List.mem_cons_of_mem _ List.mem_cons_self
  have hmax : intMax < UInt64.size := by decide
  have hlen : ms.length ≤ P.byteSize (.chunkBody ⟨ms⟩) := hP.chunkBody_length ⟨ms⟩
  have hraw : contentSize ms ≤ P.byteSize (.chunkBody ⟨ms⟩) := hcontent ⟨ms⟩
  omega

theorem mem_chunksOf {blocks : List Block} {ms : List SingleMessage} :
    ms ∈ chunksOf blocks ↔ .chunk ms ∈ blocks := by
  unfold chunksOf
  rw [List.mem_filterMap]
  constructor
  · rintro ⟨b, hb, heq⟩
    cases b with
    | channel c => cases heq
    | chunk ms' =>
      cases heq
      exact hb
  · intro h
    exact ⟨_, h, rfl⟩

/-- The header of the file bounds the messages when the first chunk has the
    least time and the last chunk the greatest. -/
theorem headerBounds_iff {chunks : List (List Nat)} (start finish : Nat) (hne : chunks ≠ [])
    (hchunk : ∀ ts ∈ chunks, ts ≠ []) (hzero : ∀ ts ∈ chunks, 0 ∈ ts → ts.getLast? = some 0) :
    (IsLeast (valuesOf chunks.flatten) (firstSeen start (chunks.map leastSeen)) ∧
      IsGreatest (valuesOf chunks.flatten) (endAfter finish chunks)) ↔
    LeastInFirst start chunks ∧
      ∀ ts ∈ chunks.getLast?, ∀ y ∈ chunks.flatten, ∃ x ∈ ts, y ≤ x := by
  have hleast : ∀ ts ∈ chunks, IsLeast (valuesOf ts) (leastSeen ts) := fun ts hts =>
    (isLeast_leastSeen_iff (hchunk ts hts)).mpr (hzero ts hts)
  refine and_congr ?_ ?_
  · calc IsLeast (valuesOf chunks.flatten) (firstSeen start (chunks.map leastSeen))
        ↔ IsLeast (valuesOf (chunks.map leastSeen)) (firstSeen start (chunks.map leastSeen)) :=
          isLeast_flatten_iff hleast _
      _ ↔ LeastFirst start (chunks.map leastSeen) :=
          isLeast_firstSeen_iff start (mt List.map_eq_nil_iff.mp hne)
      _ ↔ LeastInFirst start chunks := leastFirst_map_iff hleast start
  · obtain ⟨chunks, ts, rfl⟩ := (List.eq_nil_or_concat chunks).resolve_left hne
    rw [List.concat_eq_append, endAfter_concat] at *
    have hin : ts ∈ chunks ++ [ts] := by simp
    rw [isGreatest_flatten_iff hin (isGreatest_greatestSeen (hchunk ts hin))]
    simp

/-- **Main result**: the closed file is its content, and its bounds are right
    exactly when the times of its chunks are in order. -/
theorem close_timeBounds_iff (hP : P.Lawful) (hcontent : P.HoldsContent)
    (h : (recordFileWriter P given).Reachable s) (hclosed : s.caller = .closed) :
    s.file.bytes = s.content.bytes P ∧
      (s.content.TimeBounds ↔ TimesInOrder given.beginTime.toNat s.chunkTimes) := by
  obtain ⟨hw, hbytes⟩ := written_of_closed h hclosed
  refine ⟨hbytes, ?_⟩
  have hf : s.caller.fresh = false := by
    rw [hclosed]
    rfl
  have hbounded := bounded_reachable h
  have hchunk : ∀ ts ∈ s.chunkTimes, ts ≠ [] := by
    intro ts hts
    obtain ⟨ms, hms, rfl⟩ := List.mem_map.mp hts
    exact timesOf_ne_nil (chunk_ne_nil h ms (mem_chunksOf.mp hms))
  -- the chunks one by one
  have hchunks : (∀ h b, [Message.chunkHeader h, .chunkBody b] <:+: s.content.sections →
      h.Bounds b.messages) ↔ ∀ ts ∈ s.chunkTimes, 0 ∈ ts → ts.getLast? = some 0 := by
    constructor
    · intro hall ts hts
      obtain ⟨ms, hms, rfl⟩ := List.mem_map.mp hts
      rw [mem_chunksOf] at hms
      obtain ⟨hnumber, hsize⟩ := chunk_small hP hcontent hw hms
      have hbounds := hall (Chunk.of ms).header ⟨ms⟩ (infix_sections_iff.mpr ⟨hms, rfl⟩)
      exact (bounds_of_iff (chunk_ne_nil h ms hms) hnumber hsize).mp hbounds
    · intro hall header b hin
      obtain ⟨hms, rfl⟩ := infix_sections_iff.mp hin
      obtain ⟨hnumber, hsize⟩ := chunk_small hP hcontent hw hms
      have hzero := hall _ (List.mem_map.mpr ⟨_, mem_chunksOf.mpr hms, rfl⟩)
      exact (bounds_of_iff (chunk_ne_nil h _ hms) hnumber hsize).mpr hzero
  have htimes : timesOf (messagesOf s.content.blocks) = s.chunkTimes.flatten :=
    timesOf_messagesOf s.blocks
  have hbegin : s.content.header.beginTime.toNat = _ := hbounded.beginTime hf
  have hend : s.content.header.endTime.toNat = _ := hbounded.endTime hf
  by_cases hnil : s.chunkTimes = []
  · -- no messages
    have hempty : messagesOf s.content.blocks = [] := by
      rw [hnil] at htimes
      exact List.map_eq_nil_iff.mp htimes
    constructor
    · intro hb
      exact ⟨hchunks.mp hb.chunks, fun hne => absurd hnil hne, by rw [hnil]; nofun⟩
    · intro ht
      exact ⟨hchunks.mpr ht.zeroLast, fun hne => absurd hempty hne⟩
  · have hsome : messagesOf s.content.blocks ≠ [] := by
      intro hempty
      rw [hempty] at htimes
      obtain ⟨ts, hts⟩ := List.exists_mem_of_ne_nil _ hnil
      exact hchunk ts hts (List.flatten_eq_nil_iff.mp htimes.symm ts hts)
    constructor
    · intro hb
      have hzero := hchunks.mp hb.chunks
      have hheader := hb.header hsome
      rw [htimes, hbegin, hend, headerBounds_iff _ _ hnil hchunk hzero] at hheader
      exact ⟨hzero, fun _ => hheader.1, hheader.2⟩
    · intro ht
      refine ⟨hchunks.mpr ht.zeroLast, fun _ => ?_⟩
      rw [htimes, hbegin, hend, headerBounds_iff _ _ hnil hchunk ht.zeroLast]
      exact ⟨ht.leastFirst hnil, ht.greatestLast⟩

theorem close_timeBounds_oneMessage :
    ((recordFileWriter Wire.protobuf .default).exec initial oneMessageRun).file.bytes =
        ((recordFileWriter Wire.protobuf .default).exec initial oneMessageRun).content.bytes
          Wire.protobuf ∧
      (((recordFileWriter Wire.protobuf .default).exec initial oneMessageRun).content.TimeBounds ↔
        TimesInOrder 0
          ((recordFileWriter Wire.protobuf .default).exec initial oneMessageRun).chunkTimes) :=
  close_timeBounds_iff Wire.protobuf_lawful Wire.protobuf_holdsContent
    (System.reachable_exec (recordFileWriter Wire.protobuf .default)
      (initial_init Wire.protobuf .default) oneMessageRun (by decide +kernel))
    (by decide +kernel)

/-- A message of time `0`, another one of time `5`, and `Close`. -/
def zeroTimeRun : List Label :=
  [.writeHeader, .headerLock false, .headerWrite false, .writeMessage ⟨[97], 0, [1]⟩,
   .writeMessage ⟨[97], 5, [2]⟩, .close, .waitFlush, .swapLock true, .swap true, .notify true,
   .swapUnlock true, .loop, .lock, .test, .checkWriting, .checkEmpty, .chunkLock, .chunkHeader,
   .chunkBody, .clear, .unlock, .waitLast, .stop, .notifyAll, .loop, .join, .indexLock,
   .indexWrite, .setComplete, .headerLock true, .headerWrite true]

/-- The chunk and the file begin at `5`, and hold a message of time `0`. -/
theorem close_timeBounds_zeroTime :
    ∃ s, (recordFileWriter Wire.protobuf .default).Reachable s ∧ s.caller = .closed ∧
      s.file.bytes = s.content.bytes Wire.protobuf ∧ ¬ s.content.TimeBounds := by
  let s := (recordFileWriter Wire.protobuf .default).exec initial zeroTimeRun
  have hs : (recordFileWriter Wire.protobuf .default).Reachable s :=
    System.reachable_exec _ (initial_init _ _) zeroTimeRun (by decide +kernel)
  have hclosed : s.caller = .closed := by decide +kernel
  have hblocks : timesOf (messagesOf s.content.blocks) = [0, 5] := by decide +kernel
  have hbegin : s.content.header.beginTime.toNat = 5 := by decide +kernel
  refine ⟨s, hs, hclosed, (written_of_closed hs hclosed).2, ?_⟩
  intro hbounds
  have hne : messagesOf s.content.blocks ≠ [] := by
    intro hnil
    rw [hnil] at hblocks
    cases hblocks
  have hleast := (hbounds.header hne).1
  rw [hblocks, hbegin] at hleast
  have hle : 5 ≤ 0 := hleast.2 (show 0 ∈ [0, 5] by simp)
  omega

end CyberRT.Record
