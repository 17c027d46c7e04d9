import CyberRT.Record.File.RecordCounters
import CyberRT.Record.RecordReader

/-! # Order of recorded messages

    `WriteMessage` swaps the two chunks without looking whether
    `chunk_flush_` has been written. If it has not, its messages come back
    into `chunk_active_` behind messages that were written later.

    As long as each swap finds `chunk_flush_` empty, the file holds the
    messages in the order they were written, and a reader hands them out in
    that order. -/

namespace CyberRT.Record

open CyberRT.Framework

variable {P : Protobuf} {given : Header} {s : State}

/-! ## Section 1: Writing in order -/

/-- **Condition**: a swap of `WriteMessage` finds `chunk_flush_` empty. -/
def FlushedBeforeSwap (s : State) : Label → Prop
  | .swap false => s.chunkFlush.empty = true
  | _           => True

instance : ∀ s a, Decidable (FlushedBeforeSwap s a)
  | s, .swap false => inferInstanceAs (Decidable (s.chunkFlush.empty = true))
  | _, .swap true | _, .writeHeader | _, .writeChannel _ | _, .writeMessage _ | _, .close
  | _, .headerLock _ | _, .headerWrite _ | _, .channelLock _ | _, .channelWrite _
  | _, .swapLock _ | _, .notify _ | _, .swapUnlock _ | _, .waitFlush | _, .waitLast | _, .stop
  | _, .notifyAll | _, .join | _, .indexLock | _, .indexWrite | _, .setComplete | _, .loop
  | _, .lock | _, .test | _, .block | _, .spurious | _, .relock | _, .checkWriting
  | _, .checkEmpty | _, .chunkLock | _, .chunkHeader | _, .chunkBody | _, .clear
  | _, .unlock => .isTrue trivial

/-- A swap finds no pending messages. -/
theorem pending_of_swap {last : Bool} (hc : s.Chunks) (hpc : s.caller = .swap last)
    (hok : FlushedBeforeSwap s (.swap last)) : s.pending = [] := by
  have hflush : s.chunkFlush.body.messages = [] := by
    cases last with
    | false => exact hc.soundFlush.empty_iff.mp hok
    | true =>
      apply hc.beforeLast
      rw [hpc]
      rfl
  unfold State.pending
  rw [hflush]
  exact ite_self _

/-- **Run lemma**: the messages in the file, the pending ones and the active
    ones are the messages written, in order. -/
theorem written_inOrder (h : ((recordFileWriter P given).restrict FlushedBeforeSwap).Reachable s) :
    s.written = messagesOf s.blocks ++ s.pending ++ s.active := by
  induction h with
  | init hi =>
    obtain ⟨hs, _, _, _, _, hfl⟩ := hi
    unfold State.pending State.active
    rw [hs, hfl]
    rfl
  | @step s s' a hr hstep ih =>
    obtain ⟨⟨hg, hok⟩, rfl⟩ := hstep
    obtain ⟨ht, hc⟩ := threads_reachable hr.of_restrict
    have hflow : Flow s a ((((recordFileWriter P given).restrict FlushedBeforeSwap).action
        a).effect s) := flow_step a ht hg
    cases hflow with
    | same hw hb hp ha =>
      rw [hw, hb, hp, ha]
      exact ih
    | add m hw hb hp ha =>
      rw [hw, hb, hp, ha, ← List.append_assoc, ih]
    | swap last hlabel hpc hw hb hp ha =>
      subst hlabel
      rw [pending_of_swap hc hpc hok, List.append_nil] at ih
      rw [hw, hb, hp, ha, pending_of_swap hc hpc hok, List.append_nil]
      exact ih
    | store hw hb hp ha =>
      rw [hw, hb, hp, ha, List.append_nil]
      exact ih

/-- After `Close` the file holds the messages in the order written. -/
theorem written_eq_of_closed
    (h : ((recordFileWriter P given).restrict FlushedBeforeSwap).Reachable s)
    (hclosed : s.caller = .closed) : s.written = messagesOf s.blocks := by
  have hchunks := (threads_reachable h.of_restrict).2
  have hdrained : s.caller.drained = true := by
    rw [hclosed]
    rfl
  have hactive : s.active = [] := hchunks.afterLast (CallerPc.afterLast_of_drained hdrained)
  have hpending : s.pending = [] := by
    unfold State.pending
    rw [hchunks.drained hdrained]
    exact ite_self _
  have horder := written_inOrder h
  rw [hactive, hpending, List.append_nil, List.append_nil] at horder
  exact horder

/-! ## Section 2: Reading a section -/

theorem setPosition_bytes (position : Int) (f : FileImage) :
    (setPosition position f).2.bytes = f.bytes := by
  unfold setPosition
  split <;> rfl

theorem skipSection_bytes (size : Int) (f : FileImage) : (skipSection size f).bytes = f.bytes := by
  unfold skipSection
  split
  · rfl
  · exact setPosition_bytes _ f

namespace RecordReader

variable (flushMode : Bool) {r : RecordReader}

/-- The reader stands behind the header or behind a block: `ms` are left of
    its chunk, `bs` and the index of the file. -/
structure At (P : Protobuf) (idx : Index) (r : RecordReader) (ms : List SingleMessage)
    (bs : List Block) : Prop where
  valid  : r.isValid = true
  notEnd : r.reachEnd = false
  chunk  : r.chunk.messages.drop r.messageIndex = ms
  rest   : r.fileReader.file.rest =
    bs.flatMap P.blockBytes ++ P.sectionBytes (.index idx)
  sizes  : ∀ m ∈ bs.flatMap Block.sections ++ [.index idx], P.byteSize m ≤ intMax

variable {idx : Index} {ms : List SingleMessage} {bs : List Block}

/-- A section that was written, at the reader's place. -/
theorem readSection_written {f : FileImage} {m : Message} {rest : List UInt8}
    (hsize : P.byteSize m ≤ intMax) (hrest : f.rest = P.sectionBytes m ++ rest) :
    readSection f = (some ⟨some m.type, P.byteSize m⟩, f.seek (f.pos + sizeofSection)) ∧
      (f.seek (f.pos + sizeofSection)).rest = P.serialize m ++ rest := by
  rw [Protobuf.sectionBytes, List.append_assoc] at hrest
  have hmax : P.byteSize m ≤ int64Max := Nat.le_trans hsize (by decide)
  refine ⟨readSection_of_rest hmax hrest, ?_⟩
  have hlen := FileImage.rest_seek_of_rest hrest
  rw [length_sectionStruct] at hlen
  exact hlen

/-- `UINT64_MAX`. -/
def maxTime : UInt64 := 0xFFFFFFFFFFFFFFFF

theorem not_gt_maxTime (t : UInt64) : ¬ t > maxTime := by
  rw [gt_iff_lt, UInt64.lt_iff_toNat_lt]
  have hmax : maxTime.toNat = UInt64.size - 1 := by decide
  have ht := t.toNat_lt_size
  omega

/-! ## Section 3: Passes of the section loop -/

section passes
variable (beginTime endTime : UInt64) (skip : Bool) {rest : List UInt8}

theorem pass_channel (hP : P.Lawful) {c : Channel} (hsize : P.byteSize (.channel c) ≤ intMax)
    (hrest : r.fileReader.file.rest = P.sectionBytes (.channel c) ++ rest) :
    ∃ f : FileImage, f.rest = rest ∧ f.bytes = r.fileReader.file.bytes ∧
      pass P flushMode beginTime endTime skip r = .again skip (r.setFile f) := by
  obtain ⟨hsection, hleft⟩ := readSection_written hsize hrest
  have hread : readSection r.fileReader.file = (some ⟨some .channel, P.channel.byteSize c⟩,
      r.fileReader.file.seek (r.fileReader.file.pos + sizeofSection)) := hsection
  refine ⟨_, rest_after_message hP (hP.channel_pos c) hleft, rfl, ?_⟩
  have hmessage := readSectionOf_of_rest hP hP.channel c ⟨[], [], []⟩ hsize hleft
  unfold pass
  rw [hread]
  dsimp only
  rw [hmessage]

theorem pass_chunkHeader (hP : P.Lawful) {h : ChunkHeader}
    (hsize : P.byteSize (.chunkHeader h) ≤ intMax)
    (hrest : r.fileReader.file.rest = P.sectionBytes (.chunkHeader h) ++ rest) :
    ∃ f : FileImage, f.rest = rest ∧ f.bytes = r.fileReader.file.bytes ∧
      pass P flushMode beginTime endTime skip r =
        if h.beginTime > endTime then .done false (r.setFile f)
        else .again (skip || h.endTime < beginTime) (r.setFile f) := by
  obtain ⟨hsection, hleft⟩ := readSection_written hsize hrest
  have hread : readSection r.fileReader.file = (some ⟨some .chunkHeader, P.chunkHeader.byteSize h⟩,
      r.fileReader.file.seek (r.fileReader.file.pos + sizeofSection)) := hsection
  refine ⟨_, rest_after_message hP (hP.chunkHeader_pos h) hleft, rfl, ?_⟩
  have hmessage := readSectionOf_of_rest hP hP.chunkHeader h ⟨0, 0, 0, 0⟩ hsize hleft
  unfold pass
  rw [hread]
  dsimp only
  rw [hmessage]

/-- The window of all times takes every chunk. -/
theorem pass_chunkHeader_all (hP : P.Lawful) {h : ChunkHeader}
    (hsize : P.byteSize (.chunkHeader h) ≤ intMax)
    (hrest : r.fileReader.file.rest = P.sectionBytes (.chunkHeader h) ++ rest) :
    ∃ f : FileImage, f.rest = rest ∧
      pass P flushMode 0 maxTime false r = .again false (r.setFile f) := by
  obtain ⟨f, hf, _, hpass⟩ := pass_chunkHeader flushMode 0 maxTime false hP hsize hrest
  refine ⟨f, hf, ?_⟩
  rw [hpass, if_neg (not_gt_maxTime _)]
  simp

theorem pass_chunkBody (hP : P.Lawful) {b : ChunkBody} (hne : b.messages ≠ [])
    (hsize : P.byteSize (.chunkBody b) ≤ intMax)
    (hrest : r.fileReader.file.rest = P.sectionBytes (.chunkBody b) ++ rest) :
    ∃ f : FileImage, f.rest = rest ∧ f.bytes = r.fileReader.file.bytes ∧
      pass P flushMode beginTime endTime false r =
        .done true { r.setFile f with chunk := b } := by
  obtain ⟨hsection, hleft⟩ := readSection_written hsize hrest
  have hread : readSection r.fileReader.file = (some ⟨some .chunkBody, P.chunkBody.byteSize b⟩,
      r.fileReader.file.seek (r.fileReader.file.pos + sizeofSection)) := hsection
  have hpos : 0 < P.chunkBody.byteSize b :=
    Nat.lt_of_lt_of_le (List.length_pos_iff.mpr hne) (hP.chunkBody_length b)
  refine ⟨_, rest_after_message hP hpos hleft, rfl, ?_⟩
  have hmessage := readSectionOf_of_rest hP hP.chunkBody b (if flushMode then ⟨[]⟩ else r.chunk)
    hsize hleft
  unfold pass
  rw [hread]
  dsimp only
  rw [if_neg Bool.false_ne_true, hmessage]

/-- `SkipSection` over a section that was written. -/
theorem skipSection_written {f : FileImage} {bs : List UInt8} (hpos : 0 < bs.length)
    (hsmall : f.bytes.length ≤ int64Max) (hrest : f.rest = bs ++ rest) :
    skipSection bs.length f = f.seek (f.pos + bs.length) := by
  have hlen : f.rest.length = f.bytes.length - f.pos := List.length_drop
  rw [hrest, List.length_append] at hlen
  have hin : ¬ (bs.length : Int) > (int64Max : Int) - f.pos := by omega
  have hforward : ¬ (f.pos : Int) + bs.length < 0 := by omega
  unfold skipSection setPosition
  rw [if_neg hin, if_neg hforward]
  congr 1

/-- A body behind a header whose chunk is skipped. -/
theorem pass_skip (hP : P.Lawful) {b : ChunkBody} (hne : b.messages ≠ [])
    (hsmall : r.fileReader.file.bytes.length ≤ int64Max)
    (hsize : P.byteSize (.chunkBody b) ≤ intMax)
    (hrest : r.fileReader.file.rest = P.sectionBytes (.chunkBody b) ++ rest) :
    ∃ f : FileImage, f.rest = rest ∧ f.bytes = r.fileReader.file.bytes ∧
      pass P flushMode beginTime endTime true r = .again false (r.setFile f) := by
  obtain ⟨hread, hleft⟩ := readSection_written hsize hrest
  have hpos : 0 < (P.serialize (.chunkBody b)).length :=
    Nat.lt_of_lt_of_le (List.length_pos_iff.mpr hne) (hP.chunkBody_length b)
  let f := r.fileReader.file.seek (r.fileReader.file.pos + sizeofSection)
  refine ⟨f.seek (f.pos + (P.serialize (.chunkBody b)).length), FileImage.rest_seek_of_rest hleft,
    rfl, ?_⟩
  have hskip := skipSection_written (f := f) hpos hsmall hleft
  unfold pass
  rw [hread]
  show Pass.again false (r.setFile (skipSection (P.serialize (.chunkBody b)).length f)) = _
  rw [hskip]

theorem pass_index (hsize : P.byteSize (.index idx) ≤ intMax)
    (hrest : r.fileReader.file.rest = P.sectionBytes (.index idx)) :
    ∃ f : FileImage, f.bytes = r.fileReader.file.bytes ∧
      pass P flushMode beginTime endTime skip r =
        .again skip { r.setFile f with reachEnd := true } := by
  rw [← List.append_nil (P.sectionBytes _)] at hrest
  obtain ⟨hread, _⟩ := readSection_written hsize hrest
  let f := r.fileReader.file.seek (r.fileReader.file.pos + sizeofSection)
  refine ⟨skipSection (P.byteSize (.index idx)) f, skipSection_bytes _ f, ?_⟩
  unfold pass
  rw [hread]
  rfl

end passes

/-! ## Section 4: Reading to the end -/

/-- A loop over the rest of a file finds the next chunk, or the index. Two
    passes a block are enough. -/
theorem readNextChunk_at (hP : P.Lawful) (hat : At P idx r [] bs)
    (hne : ∀ ms, Block.chunk ms ∈ bs → ms ≠ []) {passes : Nat} (hp : 2 * bs.length + 2 ≤ passes) :
    (messagesOf bs = [] ∧ ∃ r',
      readNextChunk P flushMode 0 maxTime passes false r = some (false, r')) ∨
    ∃ r' ms bs', readNextChunk P flushMode 0 maxTime passes false r = some (true, r') ∧
      At P idx { r' with messageIndex := 0 } ms bs' ∧ messagesOf bs = ms ++ messagesOf bs' ∧
      bs'.length < bs.length ∧ ∀ b ∈ bs', b ∈ bs := by
  induction bs generalizing r passes with
  | nil =>
    obtain ⟨f, _, hpass⟩ := pass_index flushMode 0 maxTime false
      (hat.sizes _ (by simp)) hat.rest
    obtain ⟨k, rfl⟩ : ∃ k, passes = k + 2 := ⟨passes - 2, by simp at hp; omega⟩
    refine Or.inl ⟨rfl, { r.setFile f with reachEnd := true }, ?_⟩
    simp only [readNextChunk, hat.notEnd, hpass]
    rfl
  | cons b bs ih =>
    rw [List.length_cons] at hp
    have hrest := hat.rest
    rw [List.flatMap_cons, List.append_assoc] at hrest
    cases b with
    | channel c =>
      -- the channel is passed over
      simp only [Protobuf.blockBytes, Block.sections, List.flatMap_cons, List.flatMap_nil,
        List.append_nil] at hrest
      obtain ⟨f, hf, _, hpass⟩ := pass_channel flushMode 0 maxTime false hP
        (hat.sizes (.channel c) (by simp [Block.sections])) hrest
      have hat' : At P idx (r.setFile f) [] bs :=
        ⟨hat.valid, hat.notEnd, hat.chunk, hf, fun m hm => hat.sizes m (by
          rw [List.flatMap_cons, List.append_assoc]
          exact List.mem_append_right _ hm)⟩
      obtain ⟨k, rfl⟩ : ∃ k, passes = k + 1 := ⟨passes - 1, by omega⟩
      have hloop : readNextChunk P flushMode 0 maxTime (k + 1) false r =
          readNextChunk P flushMode 0 maxTime k false (r.setFile f) := by
        simp only [readNextChunk, hat.notEnd, hpass]
        rfl
      rw [hloop]
      obtain ⟨hnil, hread⟩ | ⟨r', ms, bs', hread, hat'', hms, hlt, hmem⟩ :=
        ih hat' (fun ms hms => hne ms (List.mem_cons_of_mem _ hms)) (by omega : _ ≤ k)
      · exact Or.inl ⟨hnil, hread⟩
      · exact Or.inr ⟨r', ms, bs', hread, hat'', hms, Nat.lt_succ_of_lt hlt,
          fun b hb => List.mem_cons_of_mem _ (hmem b hb)⟩
    | chunk ms =>
      -- the header is passed over, the body is the next chunk
      simp only [Protobuf.blockBytes, Block.sections, List.flatMap_cons, List.flatMap_nil,
        List.append_nil, List.append_assoc] at hrest
      obtain ⟨f, hf, hpass⟩ := pass_chunkHeader_all flushMode hP
        (hat.sizes (.chunkHeader (Chunk.of ms).header) (by simp [Block.sections])) hrest
      obtain ⟨f', hf', _, hpass'⟩ := pass_chunkBody flushMode 0 maxTime (r := r.setFile f) hP
        (hne ms List.mem_cons_self) (hat.sizes (.chunkBody ⟨ms⟩) (by simp [Block.sections])) hf
      obtain ⟨k, rfl⟩ : ∃ k, passes = k + 2 := ⟨passes - 2, by omega⟩
      refine Or.inr ⟨{ (r.setFile f).setFile f' with chunk := ⟨ms⟩ }, ms, bs, ?_, ?_, rfl,
        Nat.lt_succ_self _, fun b hb => List.mem_cons_of_mem _ hb⟩
      · have hnotEnd : (r.setFile f).reachEnd = false := hat.notEnd
        simp only [readNextChunk, hat.notEnd, hpass, hnotEnd, hpass']
        rfl
      · exact ⟨hat.valid, hat.notEnd, rfl, hf', fun m hm => hat.sizes m (by
          rw [List.flatMap_cons, List.append_assoc]
          exact List.mem_append_right _ hm)⟩

/-- A reader that was opened gives out every message in turn. -/
theorem readMessage_at (hP : P.Lawful) (hat : At P idx r ms bs)
    (hne : ∀ ms, Block.chunk ms ∈ bs → ms ≠ []) {passes calls : Nat}
    (hp : 2 * bs.length + 2 ≤ passes) (hc : bs.length + 1 ≤ calls) :
    (ms ++ messagesOf bs = [] ∧ ∃ r',
      readMessage P flushMode 0 maxTime passes calls r = some (none, r')) ∨
    ∃ r' m ms' bs', readMessage P flushMode 0 maxTime passes calls r = some (some (.of m), r') ∧
      At P idx r' ms' bs' ∧ ms ++ messagesOf bs = m :: (ms' ++ messagesOf bs') ∧
      bs'.length ≤ bs.length ∧ ∀ b ∈ bs', b ∈ bs := by
  induction calls generalizing r ms bs with
  | zero => omega
  | succ calls ih =>
    have hvalid : ¬ (!r.isValid) = true := by
      rw [hat.valid]
      decide
    have hwindow : ¬ ((0 : UInt64) > r.header.endTime ∨ maxTime < r.header.beginTime) := by
      rw [not_or]
      exact ⟨by simp, not_gt_maxTime _⟩
    cases ms with
    | cons m ms =>
      -- the chunk that is being read has the message
      refine Or.inr ⟨{ r with messageIndex := r.messageIndex + 1 }, m, ms, bs, ?_, ?_, rfl,
        Nat.le_refl _, fun b hb => hb⟩
      · unfold readMessage
        rw [if_neg hvalid, if_neg hwindow, hat.chunk, scan, if_neg (not_gt_maxTime _),
          if_neg (by simp)]
      · refine ⟨hat.valid, hat.notEnd, ?_, hat.rest, hat.sizes⟩
        show r.chunk.messages.drop (r.messageIndex + 1) = ms
        rw [← List.drop_drop, hat.chunk]
        rfl
    | nil =>
      -- a block less is in front of the reader, so the calls left are enough
      have hexhausted (ok : Bool) (r' : RecordReader)
          (hread : readNextChunk P flushMode 0 maxTime passes false r = some (ok, r')) :
          readMessage P flushMode 0 maxTime passes (calls + 1) r =
            if ok then readMessage P flushMode 0 maxTime passes calls { r' with messageIndex := 0 }
            else some (none, r') := by
        conv_lhs => unfold readMessage
        rw [if_neg hvalid, if_neg hwindow, hat.chunk]
        dsimp only [scan]
        rw [hread]
        cases ok with
        | false => rfl
        | true => rfl
      obtain ⟨hnil, r', hread⟩ | ⟨r', ms', bs', hread, hat', hms, hlt, hmem⟩ :=
        readNextChunk_at flushMode hP hat hne hp
      · exact Or.inl ⟨hnil, r', hexhausted false r' hread⟩
      · rw [hexhausted true r' hread, if_pos rfl, List.nil_append, hms]
        have hne' : ∀ ms, Block.chunk ms ∈ bs' → ms ≠ [] := fun ms h => hne ms (hmem _ h)
        obtain hend | ⟨r'', m, ms'', bs'', hmessage, hat'', hms'', hle, hmem'⟩ :=
          ih hat' hne' (by omega) (by omega)
        · exact Or.inl hend
        · exact Or.inr ⟨r'', m, ms'', bs'', hmessage, hat'', hms'', by omega,
            fun b hb => hmem b (hmem' b hb)⟩

/-- **Run lemma**: reading until `ReadMessage` returns false gives out all
    messages in front of the reader. -/
theorem readAll_at (hP : P.Lawful) (hat : At P idx r ms bs)
    (hne : ∀ ms, Block.chunk ms ∈ bs → ms ≠ []) {passes calls reads : Nat}
    (hp : 2 * bs.length + 2 ≤ passes) (hc : bs.length + 1 ≤ calls)
    (hr : (ms ++ messagesOf bs).length + 1 ≤ reads) :
    readAll P flushMode 0 maxTime passes calls reads r =
      some ((ms ++ messagesOf bs).map RecordMessage.of) := by
  induction reads generalizing r ms bs with
  | zero => omega
  | succ reads ih =>
    unfold readAll
    obtain ⟨hnil, r', hread⟩ | ⟨r', m, ms', bs', hread, hat', hms, hle, hmem⟩ :=
      readMessage_at flushMode hP hat hne hp hc
    · rw [hread, hnil]
      rfl
    · have hne' : ∀ ms, Block.chunk ms ∈ bs' → ms ≠ [] := fun ms h => hne ms (hmem _ h)
      rw [hms, List.length_cons] at hr
      have hrest := ih hat' hne' (by omega) (by omega) (by omega)
      rw [hread, hms]
      show (readAll P flushMode 0 maxTime passes calls reads r').map (RecordMessage.of m :: ·) = _
      rw [hrest]
      rfl

/-! ## Section 5: Opening -/

end RecordReader

theorem readSection_bytes (f : FileImage) : (readSection f).2.bytes = f.bytes := by
  unfold readSection
  show (if _ then _ else _ : Option Section × FileImage).2.bytes = _
  split <;> rfl

theorem readSectionOf_bytes {M : Type} (c : Codec M) (size : Int) (m : M) (f : FileImage) :
    (readSectionOf P c size m f).2.2.bytes = f.bytes := by
  unfold readSectionOf
  split
  · rfl
  · show (if _ then _ else _ : M × Bool × FileImage).2.2.bytes = _
    split
    · rfl
    · split <;> rfl

/-- Reading the index leaves the file as it is, wherever it ends. -/
theorem readIndex_bytes (r : RecordFileReader) :
    (r.readIndex P).2.file.bytes = r.file.bytes := by
  unfold RecordFileReader.readIndex
  have hposition := setPosition_bytes (toInt64 r.header.indexPosition.toNat) r.file
  split
  · rfl
  · split
    · next f hf =>
      rw [hf] at hposition
      exact hposition
    · next f hf =>
      rw [hf] at hposition
      have hsection := readSection_bytes f
      split
      · next f' hf' =>
        rw [hf'] at hsection
        exact hsection.trans hposition
      · next sec f' hf' =>
        rw [hf'] at hsection
        have hmessage := readSectionOf_bytes (P := P) P.index sec.size r.index f'
        split
        · exact hsection.trans hposition
        · split
          · next index f'' hf'' =>
            rw [hf''] at hmessage
            exact hmessage.trans (hsection.trans hposition)
          · next index f'' hf'' =>
            rw [hf''] at hmessage
            exact (setPosition_bytes _ _).trans (hmessage.trans (hsection.trans hposition))

theorem reset_rest {r : RecordFileReader} {block rest : List UInt8}
    (hbytes : r.file.bytes = block ++ rest) (hlen : block.length = sizeofSection + headerLength) :
    r.reset.file.rest = rest := by
  have hseek := FileImage.rest_seek_of_bytes hbytes
  rw [hlen] at hseek
  exact hseek

/-- The reader of a file that begins with a header. -/
theorem openFile_of_bytes (hP : P.Lawful) {h : Header}
    (hfits : P.byteSize (.header h) ≤ headerLength) (tail : List UInt8) :
    ∃ (R : RecordFileReader) (index : Index) (info : List UInt8 → Option ChannelCache),
      RecordReader.openFile P (P.headerBlock h ++ tail) =
        ⟨R.reset, true, false, ⟨[]⟩, 0, h, index, info⟩ ∧
      R.file.bytes = P.headerBlock h ++ tail := by
  have hsize : P.byteSize (.header h) ≤ intMax := Nat.le_trans hfits (by decide)
  -- the header is read
  have hrest : (⟨P.headerBlock h ++ tail, 0⟩ : FileImage).rest = P.sectionBytes (.header h) ++
      (blank.take (headerLength - P.byteSize (.header h)) ++ tail) := by
    rw [FileImage.rest, List.drop_zero, Protobuf.headerBlock, List.append_assoc]
  obtain ⟨hsection, hleft⟩ := RecordReader.readSection_written hsize hrest
  have hread : readSection ⟨P.headerBlock h ++ tail, 0⟩ =
      (some ⟨some .header, P.header.byteSize h⟩,
        (⟨P.headerBlock h ++ tail, 0⟩ : FileImage).seek (0 + sizeofSection)) := hsection
  have hmessage := readSectionOf_of_rest hP hP.header h .default hsize hleft
  obtain ⟨R, hopen, hheader, hR⟩ : ∃ R : RecordFileReader,
      RecordFileReader.openFile P (P.headerBlock h ++ tail) = (true, R) ∧ R.header = h ∧
        R.file.bytes = P.headerBlock h ++ tail := by
    unfold RecordFileReader.openFile RecordFileReader.readHeader
    rw [hread]
    dsimp only
    rw [hmessage]
    exact ⟨_, rfl, rfl, setPosition_bytes _ _⟩
  -- reading the index ends with a reset
  have hindex := (readIndex_bytes (P := P) R).trans hR
  refine ⟨(R.readIndex P).2, ?_⟩
  unfold RecordReader.openFile
  rw [hopen]
  cases hcase : R.readIndex P with
  | mk ok R' =>
    rw [hcase] at hindex
    simp only [hcase, hheader]
    cases ok with
    | false => exact ⟨_, _, rfl, hindex⟩
    | true  => exact ⟨_, _, rfl, hindex⟩

/-- A reader stands behind the header of the file it has opened. -/
theorem openFile_at (hP : P.Lawful) {r : RecordFile}
    (hfits : P.byteSize (.header r.header) ≤ headerLength)
    (hsizes : ∀ m ∈ r.blocks.flatMap Block.sections ++ [.index r.index], P.byteSize m ≤ intMax) :
    RecordReader.At P r.index (.openFile P (r.bytes P)) [] r.blocks := by
  have hbytes : r.bytes P = P.headerBlock r.header ++
      (r.blocks.flatMap P.blockBytes ++ P.sectionBytes (.index r.index)) :=
    List.append_assoc _ _ _
  obtain ⟨R, index, info, hreader, hR⟩ := openFile_of_bytes hP hfits
    (r.blocks.flatMap P.blockBytes ++ P.sectionBytes (.index r.index))
  rw [hbytes, hreader]
  exact ⟨rfl, rfl, rfl, reset_rest hR (P.length_headerBlock hfits), hsizes⟩

/-! ## Section 6: Round trip -/

/-- A record file that was closed reads back as the messages of its blocks. -/
theorem readAll_of_closed (hP : P.Lawful) (h : (recordFileWriter P given).Reachable s)
    (hclosed : s.caller = .closed) (flushMode : Bool) :
    ∃ n, ∀ passes calls reads, n ≤ passes → n ≤ calls → n ≤ reads →
      RecordReader.readAll P flushMode 0 RecordReader.maxTime passes calls reads
        (.openFile P s.file.bytes) = some ((messagesOf s.blocks).map RecordMessage.of) := by
  obtain ⟨hw, hbytes⟩ := written_of_closed h hclosed
  have hat := openFile_at hP hw.fits hw.sizes
  refine ⟨2 * s.blocks.length + (messagesOf s.blocks).length + 2, ?_⟩
  intro passes calls reads hp hc hr
  rw [hbytes]
  have hlen : ([] ++ messagesOf s.content.blocks).length + 1 ≤ reads := by
    simp only [List.nil_append, State.content]
    omega
  have hblocks : s.content.blocks.length = s.blocks.length := rfl
  exact RecordReader.readAll_at _ hP hat (chunk_ne_nil h) (by omega) (by omega) hlen

/-- **Main result**: when each swap finds `chunk_flush_` empty, reading the
    closed file gives the messages back in the order they were written. -/
theorem readAll_inOrder (hP : P.Lawful)
    (h : ((recordFileWriter P given).restrict FlushedBeforeSwap).Reachable s)
    (hclosed : s.caller = .closed) (flushMode : Bool) :
    ∃ n, ∀ passes calls reads, n ≤ passes → n ≤ calls → n ≤ reads →
      RecordReader.readAll P flushMode 0 RecordReader.maxTime passes calls reads
        (.openFile P s.file.bytes) = some (s.written.map RecordMessage.of) := by
  rw [written_eq_of_closed h hclosed]
  exact readAll_of_closed hP h.of_restrict hclosed flushMode

/-- A header that asks for a new chunk after each byte. -/
def smallChunks : Header := { Header.default with chunkRawSize := 1 }

def first : SingleMessage := ⟨[97], 1, [1, 2]⟩
def second : SingleMessage := ⟨[97], 2, [3, 4]⟩

/-- `WriteMessage` with the swap of its chunk. -/
def writeAndSwap (m : SingleMessage) : List Label :=
  [.writeMessage m, .swapLock false, .swap false, .notify false, .swapUnlock false]

/-- One turn of the flush thread that writes a chunk. -/
def flushTurn : List Label :=
  [.loop, .lock, .test, .checkWriting, .checkEmpty, .chunkLock, .chunkHeader, .chunkBody, .clear,
   .unlock]

/-- `Close` from its swap on, with the flush thread's last turns. -/
def closeTurn : List Label :=
  [.waitFlush, .swapLock true, .swap true, .notify true, .swapUnlock true] ++ flushTurn ++
  [.waitLast, .stop, .notifyAll, .loop, .join, .indexLock, .indexWrite, .setComplete,
   .headerLock true, .headerWrite true]

/-- The flush thread writes the first chunk before the second swap. -/
def inOrderRun : List Label :=
  [.writeHeader, .headerLock false, .headerWrite false] ++ writeAndSwap first ++ flushTurn ++
  writeAndSwap second ++ flushTurn ++ [.writeMessage ⟨[98], 3, []⟩, .close] ++ closeTurn

theorem readAll_inOrder_threeMessages :
    ∃ n, ∀ passes calls reads, n ≤ passes → n ≤ calls → n ≤ reads →
      RecordReader.readAll Wire.protobuf true 0 RecordReader.maxTime passes calls reads
        (.openFile Wire.protobuf
          (((recordFileWriter Wire.protobuf smallChunks).restrict FlushedBeforeSwap).exec initial
            inOrderRun).file.bytes) =
      some ((((recordFileWriter Wire.protobuf smallChunks).restrict FlushedBeforeSwap).exec initial
        inOrderRun).written.map RecordMessage.of) :=
  readAll_inOrder Wire.protobuf_lawful
    (System.reachable_exec ((recordFileWriter Wire.protobuf smallChunks).restrict FlushedBeforeSwap)
      (initial_init Wire.protobuf smallChunks) inOrderRun (by decide +kernel))
    (by decide +kernel) true

/-- Both chunks are swapped before the flush thread runs. -/
def outOfOrderRun : List Label :=
  [.writeHeader, .headerLock false, .headerWrite false] ++ writeAndSwap first ++
  writeAndSwap second ++ [.close] ++ flushTurn ++ closeTurn

/-- The second message comes back first. -/
theorem readAll_outOfOrder :
    ∃ s, (recordFileWriter Wire.protobuf smallChunks).Reachable s ∧ s.caller = .closed ∧
      s.written = [first, second] ∧
      ∀ flushMode, ∃ n, ∀ passes calls reads, n ≤ passes → n ≤ calls → n ≤ reads →
        RecordReader.readAll Wire.protobuf flushMode 0 RecordReader.maxTime passes calls reads
          (.openFile Wire.protobuf s.file.bytes) = some [.of second, .of first] := by
  let s := (recordFileWriter Wire.protobuf smallChunks).exec initial outOfOrderRun
  have hs : (recordFileWriter Wire.protobuf smallChunks).Reachable s :=
    System.reachable_exec _ (initial_init _ _) outOfOrderRun (by decide +kernel)
  have hclosed : s.caller = .closed := by decide +kernel
  have hblocks : messagesOf s.blocks = [second, first] := by decide +kernel
  refine ⟨s, hs, hclosed, by decide +kernel, ?_⟩
  intro flushMode
  have hread := readAll_of_closed Wire.protobuf_lawful hs hclosed flushMode
  rw [hblocks] at hread
  exact hread

end CyberRT.Record
