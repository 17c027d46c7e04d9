import CyberRT.Record.File.WriterThreads

/-! # Layout of a record file

    The bytes behind the writer's descriptor, in every reachable state: the
    header section with its padding, then the sections of the blocks in the
    order their last section was written, then the section the flush thread
    has written of the chunk it is in, or the index.

    A section is appended at the end of the file; only `WriteHeader` goes
    back to the start, and overwrites the header in place. -/

namespace CyberRT.Record

open CyberRT.Framework

variable {P : Protobuf} {given : Header} {s : State}

/-! ## Section 1: Record files -/

/-- The sections of a block. -/
def Block.sections : Block → List Message
  | .channel c => [.channel c]
  | .chunk ms  => [.chunkHeader (Chunk.of ms).header, .chunkBody ⟨ms⟩]

/-- The bytes of a block: a channel section, or a chunk header section with
    its chunk body section right after it. -/
def Protobuf.blockBytes (P : Protobuf) (b : Block) : List UInt8 :=
  b.sections.flatMap P.sectionBytes

/-- The content of a complete record file. -/
structure RecordFile where
  header : Header
  blocks : List Block
  index  : Index

/-- The file: the padded header, the blocks, the index. -/
def RecordFile.bytes (P : Protobuf) (r : RecordFile) : List UInt8 :=
  P.headerBlock r.header ++ r.blocks.flatMap P.blockBytes ++ P.sectionBytes (.index r.index)

/-! ## Section 2: Writing a section -/

/-- A section other than the header is appended. -/
theorem writeSection_file {w : RecordFileWriter} {m : Message} (hm : m.type ≠ .header) :
    (w.writeSection P m).file = w.file.write (P.sectionBytes m) := by
  have hwrite := FileImage.write_write w.file (sectionStruct m.type (P.byteSize m))
    (P.serialize m)
  cases m with
  | header h => exact absurd rfl hm
  | _ => exact hwrite

theorem writeSection_atEnd {w : RecordFileWriter} {m : Message} (hm : m.type ≠ .header)
    (hend : w.file.AtEnd) : (w.writeSection P m).file.AtEnd := by
  rw [writeSection_file hm]
  exact hend.write _

/-- The header section goes to the start of the file. -/
theorem writeHeader_file (w : RecordFileWriter) (h : Header) :
    (w.writeHeader P h).file = (w.file.seek 0).write (P.headerBlock h) := by
  unfold RecordFileWriter.writeHeader RecordFileWriter.writeSection Protobuf.headerBlock
    Protobuf.sectionBytes
  simp only [FileImage.write_write]

/-- `P.headerBlock h`, the blocks and the sections `opened` are the file, and
    every section was one that could be written. -/
structure Written (P : Protobuf) (h : Header) (file : FileImage) (blocks : List Block)
    (opened : List Message) : Prop where
  fits  : P.byteSize (.header h) ≤ headerLength
  bytes : file.bytes =
    P.headerBlock h ++ blocks.flatMap P.blockBytes ++ opened.flatMap P.sectionBytes
  small : file.bytes.length ≤ int64Max
  sizes : ∀ m ∈ blocks.flatMap Block.sections ++ opened, P.byteSize m ≤ intMax

namespace Written

variable {h h' : Header} {blocks : List Block} {opened : List Message} {file : FileImage}

/-- A section is appended. -/
theorem append {w : RecordFileWriter} {m : Message} (hw : Written P h w.file blocks opened)
    (hcan : w.CanWrite P m) (hend : w.file.AtEnd) (hm : m.type ≠ .header) :
    Written P h (w.writeSection P m).file blocks (opened ++ [m]) := by
  obtain ⟨hsize, _, hpos⟩ := hcan
  rw [writeSection_file hm] at hpos ⊢
  constructor
  · exact hw.fits
  · rw [FileImage.write_bytes_of_atEnd hend, hw.bytes]
    simp
  · have hend' := hend.write (P.sectionBytes m)
    rw [FileImage.AtEnd] at hend'
    omega
  · intro m' hm'
    rw [← List.append_assoc, List.mem_append, List.mem_singleton] at hm'
    obtain hold | rfl := hm'
    · exact hw.sizes m' hold
    · exact hsize

/-- The sections written since the last block make up a block. -/
theorem complete (hw : Written P h file blocks opened) {b : Block} (hb : opened = b.sections) :
    Written P h file (blocks ++ [b]) [] := by
  subst hb
  constructor
  · exact hw.fits
  · rw [hw.bytes]
    simp [Protobuf.blockBytes]
  · exact hw.small
  · intro m hm
    apply hw.sizes m
    simpa using hm

/-- The header is overwritten in place. -/
theorem rewrite {w : RecordFileWriter} (hw : Written P h w.file blocks opened)
    (hfits : P.byteSize (.header h') ≤ headerLength) :
    Written P h' (w.writeHeader P h').file blocks opened := by
  have hlen : (P.headerBlock h).length = (P.headerBlock h').length := by
    rw [P.length_headerBlock hw.fits, P.length_headerBlock hfits]
  have hbytes := hw.bytes
  rw [List.append_assoc] at hbytes
  have hnew := FileImage.write_bytes_of_start hbytes hlen
  rw [← writeHeader_file, ← List.append_assoc] at hnew
  constructor
  · exact hfits
  · exact hnew
  · have hsmall := hw.small
    rw [hnew]
    rw [hw.bytes] at hsmall
    simp only [List.length_append, hlen] at hsmall ⊢
    exact hsmall
  · exact hw.sizes

/-- The file of a writer that has not written yet. -/
theorem first {w : RecordFileWriter} (hempty : w.file = ⟨[], 0⟩)
    (hcan : { w with header := h }.CanWrite P (.header h)) :
    Written P h (w.writeHeader P h).file [] [] ∧ (w.writeHeader P h).file.AtEnd := by
  obtain ⟨_, hfits, hpos⟩ := hcan
  have hfits : P.byteSize (.header h) ≤ headerLength := hfits rfl
  have hfile := writeHeader_file (P := P) w h
  rw [hempty] at hfile
  have hbytes : (w.writeHeader P h).file.bytes = P.headerBlock h := by
    rw [hfile]
    exact FileImage.write_bytes_of_empty _ 0
  have hend : (w.writeHeader P h).file.AtEnd := by
    rw [FileImage.AtEnd, hbytes, hfile, FileImage.write_pos, FileImage.seek_pos, Nat.zero_add]
  refine ⟨⟨hfits, ?_, ?_, nofun⟩, hend⟩
  · rw [hbytes]
    simp
  · rw [← hend]
    exact hpos

/-- The offset behind the blocks. -/
theorem length_blocks (hw : Written P h file blocks []) :
    file.bytes.length = sizeofSection + headerLength + (blocks.flatMap P.blockBytes).length := by
  rw [hw.bytes]
  simp [P.length_headerBlock hw.fits]

end Written

/-! ## Section 3: Steps that leave the members alone -/

/-- Labels of the steps that only move the two threads. -/
def Label.quiet : Label → Bool
  | .writeMessage _ | .headerWrite _ | .channelWrite _ | .swap _ | .indexWrite | .setComplete
  | .chunkHeader | .chunkBody | .clear => false
  | _ => true

/-- A step that leaves the members alone, and the places in what they mean
    for the file. -/
structure Quiet (s s' : State) : Prop where
  members : s'.toRecordFileWriter = s.toRecordFileWriter
  fresh   : s'.caller.fresh = s.caller.fresh
  indexed : s'.caller.indexed = s.caller.indexed
  mark    : s'.caller = .setComplete ↔ s.caller = .setComplete
  closed  : s'.caller = .closed ↔ s.caller = .closed
  body    : s'.flusher = .chunkBody ↔ s.flusher = .chunkBody

/-- A quiet step of the caller. -/
theorem quiet_of_caller {s s' : State} {pc : CallerPc} (hpc : s.caller = pc)
    (hmembers : s'.toRecordFileWriter = s.toRecordFileWriter)
    (hfresh : s'.caller.fresh = pc.fresh) (hindexed : s'.caller.indexed = pc.indexed)
    (hmark : pc ≠ .setComplete) (hmark' : s'.caller ≠ .setComplete)
    (hne : pc ≠ .closed) (hne' : s'.caller ≠ .closed)
    (hbody : s'.flusher = .chunkBody ↔ s.flusher = .chunkBody) : Quiet s s' where
  members := hmembers
  fresh   := hpc ▸ hfresh
  indexed := hpc ▸ hindexed
  mark    := iff_of_false hmark' (hpc ▸ hmark)
  closed  := iff_of_false hne' (hpc ▸ hne)
  body    := hbody

/-- A quiet step of the flush thread. -/
theorem quiet_of_flusher {s s' : State} {pc : FlushPc} (hpc : s.flusher = pc)
    (hmembers : s'.toRecordFileWriter = s.toRecordFileWriter) (hcaller : s'.caller = s.caller)
    (hne : pc ≠ .chunkBody) (hne' : s'.flusher ≠ .chunkBody) : Quiet s s' where
  members := hmembers
  fresh   := by rw [hcaller]
  indexed := by rw [hcaller]
  mark    := by rw [hcaller]
  closed  := by rw [hcaller]
  body    := iff_of_false hne' (hpc ▸ hne)

theorem notified_eq_chunkBody (f : FlushPc) : f.notified = .chunkBody ↔ f = .chunkBody := by
  cases f <;> simp [FlushPc.notified]

theorem quiet_step (a : Label) (hq : a.quiet = true)
    (hg : ((recordFileWriter P given).action a).gate s) :
    Quiet s (((recordFileWriter P given).action a).effect s) := by
  cases a with
  | writeMessage _ | headerWrite _ | channelWrite _ | swap _ | indexWrite | setComplete
  | chunkHeader | chunkBody | clear => cases hq
  | writeHeader | writeChannel c | close =>
    exact quiet_of_caller hg rfl rfl rfl nofun nofun nofun nofun Iff.rfl
  | headerLock last =>
    cases last <;> exact quiet_of_caller hg.1 rfl rfl rfl nofun nofun nofun nofun Iff.rfl
  | channelLock c | swapLock last | waitFlush | waitLast | join | indexLock =>
    exact quiet_of_caller hg.1 rfl rfl rfl nofun nofun nofun nofun Iff.rfl
  | notify last | notifyAll =>
    exact quiet_of_caller hg rfl rfl rfl nofun nofun nofun nofun (notified_eq_chunkBody _)
  | swapUnlock last =>
    cases last <;> exact quiet_of_caller hg rfl rfl rfl nofun nofun nofun nofun Iff.rfl
  | stop => exact quiet_of_caller hg rfl rfl rfl nofun nofun nofun nofun Iff.rfl
  | loop | test =>
    refine quiet_of_flusher hg rfl rfl nofun ?_
    show (if _ then _ else _) ≠ _
    split <;> nofun
  | lock | relock | chunkLock => exact quiet_of_flusher hg.1 rfl rfl nofun nofun
  | block | spurious | unlock => exact quiet_of_flusher hg rfl rfl nofun nofun
  | checkWriting | checkEmpty =>
    show Quiet s (if _ then _ else _)
    split <;> exact quiet_of_flusher hg rfl rfl nofun nofun

/-! ## Section 4: Layout -/

/-- The sections in the file that belong to no complete block: the header of
    the chunk being written, or the index. -/
def openSections (flusher : FlushPc) (caller : CallerPc) (header : ChunkHeader) (index : Index) :
    List Message :=
  (if flusher = .chunkBody then [.chunkHeader header] else []) ++
    (if caller.indexed = true then [.index index] else [])

def State.openSections (s : State) : List Message :=
  Record.openSections s.flusher s.caller s.chunkFlush.header s.index

section openSections
variable {f : FlushPc} {c : CallerPc} {header : ChunkHeader} {index : Index}

/-- Nothing is open while the flush thread is not between the two sections
    of a chunk and the index is not written. -/
theorem openSections_eq_nil (hbody : f ≠ .chunkBody) (hindexed : c.indexed = false) :
    openSections f c header index = [] := by
  unfold openSections
  rw [if_neg hbody, hindexed]
  rfl

/-- In the middle of a chunk its header is open. -/
theorem openSections_of_body (hindexed : c.indexed = false) :
    openSections .chunkBody c header index = [.chunkHeader header] := by
  unfold openSections
  rw [if_pos rfl, hindexed]
  rfl

/-- When the index is written it is open. -/
theorem openSections_of_indexed (hbody : f ≠ .chunkBody) (hindexed : c.indexed = true) :
    openSections f c header index = [.index index] := by
  unfold openSections
  rw [if_neg hbody, hindexed]
  rfl

end openSections

def Header.withSize (h : Header) (size : Nat) : Header := { h with size := .ofNat size }

/-- The file before `WriteHeader`, between `WriteHeader` and the end of
    `Close`, and after `Close`. The last header is the member as it was
    before the write set its size to the length of the header block. -/
inductive Layout (P : Protobuf) (s : State) : Prop where
  | fresh : s.caller.fresh = true → s.file = ⟨[], 0⟩ → s.blocks = [] → Layout P s
  | growing (h : Header) : s.caller.fresh = false → s.caller ≠ .closed →
      Written P h s.file s.blocks s.openSections → s.file.AtEnd →
      s.header.size = .ofNat s.file.bytes.length → Layout P s
  | closed : s.caller = .closed →
      Written P (s.header.withSize s.file.bytes.length) s.file s.blocks s.openSections → Layout P s

theorem Layout.of_quiet {s s' : State} (h : Layout P s) (hq : Quiet s s') : Layout P s' := by
  have hopen : s'.openSections = s.openSections := by
    unfold State.openSections Record.openSections
    simp only [hq.body, hq.indexed, hq.members]
  cases h with
  | fresh hf hfile hblocks =>
    apply Layout.fresh (hq.fresh.trans hf)
    · rw [hq.members, hfile]
    · rw [hq.members, hblocks]
  | growing h hf hne hw hend hsize =>
    apply Layout.growing h (hq.fresh.trans hf) (mt hq.closed.mp hne)
    · rw [hopen, hq.members]
      exact hw
    · rw [hq.members]
      exact hend
    · rw [hq.members]
      exact hsize
  | closed hc hw =>
    apply Layout.closed (hq.closed.mpr hc)
    rw [hopen, hq.members]
    exact hw

theorem Layout.grow {h : Header} {opened : List Message} (hf : s.caller.fresh = false)
    (hne : s.caller ≠ .closed) (hopen : s.openSections = opened)
    (hw : Written P h s.file s.blocks opened) (hend : s.file.AtEnd)
    (hsize : s.header.size = .ofNat s.file.bytes.length) : Layout P s :=
  .growing h hf hne (hopen ▸ hw) hend hsize

/-- While the file grows. -/
theorem Layout.written (h : Layout P s) (hf : s.caller.fresh = false) (hne : s.caller ≠ .closed) :
    ∃ h, Written P h s.file s.blocks s.openSections ∧ s.file.AtEnd ∧
      s.header.size = .ofNat s.file.bytes.length := by
  cases h with
  | fresh hf' => exact absurd (hf'.symm.trans hf) nofun
  | growing h _ _ hw hend hsize => exact ⟨h, hw, hend, hsize⟩
  | closed hc => exact absurd hc hne

/-- The flush thread writes only after `WriteHeader` and before the join. -/
theorem growing_of_writing (ht : s.Threads) (hc : s.Chunks) (hwriting : s.flusher.writing = true) :
    s.caller.fresh = false ∧ s.caller.joined = false := by
  constructor
  · rw [Bool.eq_false_iff]
    intro hf
    exact hc.writing hwriting (hc.fresh hf).2
  · rw [Bool.eq_false_iff]
    intro hj
    rw [ht.joined hj] at hwriting
    cases hwriting

theorem CallerPc.ne_closed {c : CallerPc} (h : c.joined = false) : c ≠ .closed := by
  rintro rfl
  cases h

theorem CallerPc.not_indexed {c : CallerPc} (h : c.joined = false) : c.indexed = false :=
  Bool.eq_false_iff.mpr fun hi => absurd (joined_of_indexed hi) (by rw [h]; nofun)

/-- The flush thread is not in the file while the caller is. -/
theorem not_body_of_inFile (ht : s.Threads) (hin : s.caller.inFile = true) :
    s.flusher ≠ .chunkBody := by
  intro hbody
  have hexcl := (hin ▸ ht.file).exclusive
  rw [hbody] at hexcl
  cases hexcl

section steps

theorem layout_headerWrite (last : Bool) (ht : s.Threads) (h : Layout P s)
    (hg : ((recordFileWriter P given).action (.headerWrite last)).gate s) :
    Layout P (((recordFileWriter P given).action (.headerWrite last)).effect s) := by
  obtain ⟨hpc, hcan⟩ := hg
  have hbody : s.flusher ≠ .chunkBody := by
    apply not_body_of_inFile ht
    rw [hpc]
    rfl
  cases last with
  | false =>
    cases h with
    | growing _ hf =>
      rw [hpc] at hf
      cases hf
    | closed hc =>
      rw [hpc] at hc
      cases hc
    | fresh _ hfile hblocks =>
      -- the first header opens an empty file
      obtain ⟨hw, hend⟩ := Written.first (w := s.toRecordFileWriter) hfile hcan
      have hw : Written P given (s.writeHeader P given).file s.blocks [] := by
        rw [hblocks]
        exact hw
      exact .grow rfl nofun (openSections_eq_nil hbody rfl) hw hend (congrArg UInt64.ofNat hend)
  | true =>
    have hf : s.caller.fresh = false := by
      rw [hpc]
      rfl
    have hne : s.caller ≠ .closed := by
      rw [hpc]
      nofun
    have hindexed : s.caller.indexed = true := by
      rw [hpc]
      rfl
    obtain ⟨h₀, hw, _, hsize⟩ := h.written hf hne
    have hfits : P.byteSize (.header s.header) ≤ headerLength := hcan.2.1 rfl
    have hnew := hw.rewrite hfits
    -- the header is written over the old one, which has the same length
    have hlen : ((s.writeHeader P s.header).file.bytes).length = s.file.bytes.length := by
      rw [hnew.bytes, hw.bytes]
      simp only [List.length_append, P.length_headerBlock hnew.fits, P.length_headerBlock hw.fits]
    have hheader : (s.writeHeader P s.header).header.withSize
        (s.writeHeader P s.header).file.bytes.length = s.header := by
      rw [hlen, Header.withSize, ← hsize]
      rfl
    have hopen : s.openSections = openSections s.flusher .closed s.chunkFlush.header s.index :=
      (openSections_of_indexed hbody hindexed).trans (openSections_of_indexed hbody rfl).symm
    apply Layout.closed rfl
    show Written P ((s.writeHeader P s.header).header.withSize
        (s.writeHeader P s.header).file.bytes.length) (s.writeHeader P s.header).file s.blocks
      (openSections s.flusher .closed s.chunkFlush.header s.index)
    rw [hheader, ← hopen]
    exact hnew

theorem layout_channelWrite (c : Channel) (ht : s.Threads) (h : Layout P s)
    (hg : ((recordFileWriter P given).action (.channelWrite c)).gate s) :
    Layout P (((recordFileWriter P given).action (.channelWrite c)).effect s) := by
  obtain ⟨hpc, hcan⟩ := hg
  have hbody : s.flusher ≠ .chunkBody := by
    apply not_body_of_inFile ht
    rw [hpc]
    rfl
  have hopen : s.openSections = [] := by
    apply openSections_eq_nil hbody
    rw [hpc]
    rfl
  obtain ⟨h₀, hw, hend, _⟩ := h.written (by rw [hpc]; rfl) (by rw [hpc]; nofun)
  rw [hopen] at hw
  have hw := (hw.append hcan hend nofun).complete (b := .channel c) rfl
  have hend : (s.writeSection P (.channel c)).file.AtEnd := writeSection_atEnd nofun hend
  exact .grow rfl nofun (openSections_eq_nil hbody rfl) hw hend (congrArg UInt64.ofNat hend)

theorem layout_indexWrite (ht : s.Threads) (h : Layout P s)
    (hg : ((recordFileWriter P given).action .indexWrite).gate s) :
    Layout P (((recordFileWriter P given).action .indexWrite).effect s) := by
  obtain ⟨hpc, hcan⟩ := hg
  have hbody : s.flusher ≠ .chunkBody := by
    apply not_body_of_inFile ht
    rw [hpc]
    rfl
  have hopen : s.openSections = [] := by
    apply openSections_eq_nil hbody
    rw [hpc]
    rfl
  obtain ⟨h₀, hw, hend, _⟩ := h.written (by rw [hpc]; rfl) (by rw [hpc]; nofun)
  rw [hopen] at hw
  have hw := hw.append hcan hend nofun
  have hend : (s.writeSection P (.index s.indexToWrite)).file.AtEnd := writeSection_atEnd nofun hend
  exact .grow rfl nofun (openSections_of_indexed hbody rfl) hw hend (congrArg UInt64.ofNat hend)

theorem layout_chunkHeader (ht : s.Threads) (hc : s.Chunks) (h : Layout P s)
    (hg : ((recordFileWriter P given).action .chunkHeader).gate s) :
    Layout P (((recordFileWriter P given).action .chunkHeader).effect s) := by
  obtain ⟨hpc, hcan⟩ := hg
  obtain ⟨hf, hj⟩ := growing_of_writing ht hc (by rw [hpc]; rfl)
  have hindexed := CallerPc.not_indexed hj
  have hopen : s.openSections = [] := by
    apply openSections_eq_nil _ hindexed
    rw [hpc]
    nofun
  obtain ⟨h₀, hw, hend, _⟩ := h.written hf (CallerPc.ne_closed hj)
  rw [hopen] at hw
  have hw := hw.append hcan hend nofun
  have hend : (s.writeSection P (.chunkHeader s.chunkFlush.header)).file.AtEnd :=
    writeSection_atEnd nofun hend
  exact .grow hf (CallerPc.ne_closed hj) (openSections_of_body hindexed) hw hend
    (congrArg UInt64.ofNat hend)

theorem layout_chunkBody (ht : s.Threads) (hc : s.Chunks) (h : Layout P s)
    (hg : ((recordFileWriter P given).action .chunkBody).gate s) :
    Layout P (((recordFileWriter P given).action .chunkBody).effect s) := by
  obtain ⟨hpc, hcan⟩ := hg
  obtain ⟨hf, hj⟩ := growing_of_writing ht hc (by rw [hpc]; rfl)
  have hindexed := CallerPc.not_indexed hj
  have hopen : s.openSections = [.chunkHeader s.chunkFlush.header] := by
    unfold State.openSections
    rw [hpc]
    exact openSections_of_body hindexed
  obtain ⟨h₀, hw, hend, _⟩ := h.written hf (CallerPc.ne_closed hj)
  rw [hopen] at hw
  -- the header in the file is the one of the messages in the body
  have hblock : [.chunkHeader s.chunkFlush.header] ++ [.chunkBody s.chunkFlush.body] =
      Block.sections (.chunk s.chunkFlush.body.messages) := by
    show [_, _] = [Message.chunkHeader (Chunk.of s.chunkFlush.body.messages).header, _]
    rw [← hc.soundFlush.of]
  have hw := (hw.append hcan hend nofun).complete hblock
  have hend : (s.writeSection P (.chunkBody s.chunkFlush.body)).file.AtEnd :=
    writeSection_atEnd nofun hend
  exact .grow hf (CallerPc.ne_closed hj) (openSections_eq_nil nofun hindexed) hw hend
    (congrArg UInt64.ofNat hend)

/-- **Step lemma**, layout. -/
theorem layout_step (a : Label) (ht : s.Threads) (hc : s.Chunks) (h : Layout P s)
    (hg : ((recordFileWriter P given).action a).gate s) :
    Layout P (((recordFileWriter P given).action a).effect s) := by
  cases a with
  | headerWrite last => exact layout_headerWrite last ht h hg
  | channelWrite c => exact layout_channelWrite c ht h hg
  | indexWrite => exact layout_indexWrite ht h hg
  | chunkHeader => exact layout_chunkHeader ht hc h hg
  | chunkBody => exact layout_chunkBody ht hc h hg
  | writeMessage m =>
    have hpc : s.caller = .idle := hg.1
    obtain ⟨h₀, hw, hend, hsize⟩ := h.written (by rw [hpc]; rfl) (by rw [hpc]; nofun)
    have hpc' : ∀ b : Bool, openSections s.flusher (if b then .swapLock false else .idle)
        s.chunkFlush.header s.index = s.openSections := by
      intro b
      unfold State.openSections openSections
      rw [hpc]
      cases b <;> rfl
    refine .grow ?_ ?_ (hpc' _) hw hend hsize
    · show CallerPc.fresh (if _ then _ else _) = false
      split <;> rfl
    · show (if _ then _ else _) ≠ CallerPc.closed
      split <;> nofun
  | swap last =>
    have hpc : s.caller = .swap last := hg
    -- the swap needs the mutex the flusher would hold
    have hbody : s.flusher ≠ .chunkBody := by
      intro hbody
      have hlocked := not_locked_of_swap ht hpc
      rw [hbody] at hlocked
      cases hlocked
    obtain ⟨h₀, hw, hend, hsize⟩ := h.written (by rw [hpc]; rfl) (by rw [hpc]; nofun)
    have hopen : s.openSections = [] := by
      apply openSections_eq_nil hbody
      rw [hpc]
      rfl
    rw [hopen] at hw
    have hindexed : (CallerPc.notify last).indexed = false := by cases last <;> rfl
    have hne : CallerPc.notify last ≠ .closed := nofun
    exact .grow (by cases last <;> rfl) hne (openSections_eq_nil hbody hindexed) hw hend hsize
  | setComplete =>
    have hpc : s.caller = .setComplete := hg
    obtain ⟨h₀, hw, hend, hsize⟩ := h.written (by rw [hpc]; rfl) (by rw [hpc]; nofun)
    have hopen : openSections s.flusher (.headerLock true) s.chunkFlush.header s.index =
        s.openSections := by
      unfold State.openSections openSections
      rw [hpc]
      rfl
    exact .grow rfl nofun hopen hw hend hsize
  | clear =>
    have hpc : s.flusher = .clear := hg
    obtain ⟨hf, hj⟩ := growing_of_writing ht hc (by rw [hpc]; rfl)
    have hindexed := CallerPc.not_indexed hj
    have hopen : s.openSections = [] := by
      apply openSections_eq_nil _ hindexed
      rw [hpc]
      nofun
    obtain ⟨h₀, hw, hend, hsize⟩ := h.written hf (CallerPc.ne_closed hj)
    rw [hopen] at hw
    exact .grow hf (CallerPc.ne_closed hj) (openSections_eq_nil nofun hindexed) hw hend hsize
  -- the other steps write nothing
  | _ => exact h.of_quiet (quiet_step _ rfl hg)

end steps

/-- **Run lemma**: the layout of the file in every reachable state. -/
theorem layout_reachable (h : (recordFileWriter P given).Reachable s) : Layout P s := by
  induction h with
  | init hi =>
    obtain ⟨hs, _, _, _, hcaller, _⟩ := hi
    apply Layout.fresh
    · rw [hcaller]
      rfl
    · rw [hs]
      rfl
    · rw [hs]
      rfl
  | step a hr hstep ih =>
    obtain ⟨hg, rfl⟩ := hstep
    have hinv := threads_reachable hr
    exact layout_step a hinv.1 hinv.2 ih hg

/-- No chunk in the file is empty. -/
theorem chunk_ne_nil (h : (recordFileWriter P given).Reachable s) :
    ∀ ms, Block.chunk ms ∈ s.blocks → ms ≠ [] := by
  induction h with
  | init hi =>
    rw [hi.1]
    nofun
  | @step s _ a hr hstep ih =>
    obtain ⟨hg, rfl⟩ := hstep
    cases a with
    | channelWrite c =>
      intro ms hms
      have hms : Block.chunk ms ∈ s.blocks ++ [.channel c] := hms
      simp only [List.mem_append, List.mem_singleton, reduceCtorEq, or_false] at hms
      exact ih ms hms
    | chunkBody =>
      intro ms hms
      have hms : Block.chunk ms ∈ s.blocks ++ [.chunk s.chunkFlush.body.messages] := hms
      simp only [List.mem_append, List.mem_singleton, Block.chunk.injEq] at hms
      obtain hold | rfl := hms
      · exact ih ms hold
      · -- the flusher writes a chunk only when it has messages
        apply (threads_reachable hr).2.writing
        rw [hg.1]
        rfl
    | writeMessage m | headerWrite last | swap last | indexWrite | setComplete | chunkHeader
    | clear => exact ih
    | _ =>
      rw [(quiet_step _ rfl hg).members]
      exact ih

end CyberRT.Record
