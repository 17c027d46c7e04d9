import CyberRT.Record.RecordOrder

/-! # Positions in the index

    `WriteChannel` and `WriteChunk` take the position of an index entry from
    the descriptor after they have written the section, so the position is
    that of whatever follows. The last entry always points at the index
    itself, and a reader that seeks there finds no channel and no chunk.

    `WriteIndex` takes `index_position` before it writes: that position is
    right. -/

namespace CyberRT.Record

open CyberRT.Framework

variable {P : Protobuf} {given : Header} {s : State}

/-! ## Section 1: Seeking to an entry -/

/-- The message of a section, if it can be read. -/
def parsed {M : Type} (P : Protobuf) (c : Codec M) (message : M) (wrap : M → Message) (size : Int)
    (f : FileImage) : Option Message :=
  match readSectionOf P c size message f with
  | (_, false, _)      => none
  | (message, true, _) => some (wrap message)

/-- `SetPosition`, `ReadSection(Section*)`, and `ReadSection` of the message
    the section is said to hold. -/
def messageAt (P : Protobuf) (bytes : List UInt8) (position : UInt64) : Option Message :=
  match setPosition (toInt64 position.toNat) ⟨bytes, 0⟩ with
  | (false, _) => none
  | (true, f)  =>
    match readSection f with
    | (none, _)     => none
    | (some sec, f) =>
      match sec.type with
      | some .header      => parsed P P.header .default .header sec.size f
      | some .chunkHeader => parsed P P.chunkHeader ⟨0, 0, 0, 0⟩ .chunkHeader sec.size f
      | some .chunkBody   => parsed P P.chunkBody ⟨[]⟩ .chunkBody sec.size f
      | some .index       => parsed P P.index ⟨[]⟩ .index sec.size f
      | some .channel     => parsed P P.channel ⟨[], [], []⟩ .channel sec.size f
      | none              => none

/-- The entry is one of this section. -/
def SingleIndex.Describes (e : SingleIndex) : Message → Prop
  | .channel c     => e.type = .channel ∧
      ∃ n, e.cache = .channel ⟨n, c.name, c.messageType, c.protoDesc⟩
  | .chunkHeader h => e.type = .chunkHeader ∧
      e.cache = .chunkHeader ⟨h.messageNumber, h.beginTime, h.endTime, h.rawSize⟩
  | .chunkBody b   => e.type = .chunkBody ∧ e.cache = .chunkBody ⟨.ofNat b.messages.length⟩
  | .header _      => False
  | .index _       => False

/-- **Property**: each entry of the index points at the section it
    describes. -/
def PointsAtSections (P : Protobuf) (bytes : List UInt8) (index : Index) : Prop :=
  ∀ e ∈ index.indexes, ∃ m, messageAt P bytes e.position = some m ∧ e.Describes m

/-- Behind the blocks is the index. -/
theorem messageAt_behind_blocks (hP : P.Lawful) {h : Header} {file : FileImage}
    {blocks : List Block} {index : Index} (hw : Written P h file blocks [.index index]) :
    messageAt P file.bytes
      (.ofNat (sizeofSection + headerLength + (blocks.flatMap P.blockBytes).length)) =
      some (.index index) := by
  have hheader := P.length_headerBlock hw.fits
  have hsize : P.byteSize (.index index) ≤ intMax := hw.sizes _ (by simp)
  let blocksEnd := P.headerBlock h ++ blocks.flatMap P.blockBytes
  have hlen : blocksEnd.length =
      sizeofSection + headerLength + (blocks.flatMap P.blockBytes).length := by
    rw [List.length_append, hheader]
  have hbytes : file.bytes = blocksEnd ++ P.sectionBytes (.index index) := by
    rw [hw.bytes]
    simp [blocksEnd]
  have hsmall : blocksEnd.length ≤ int64Max := by
    have hfile := hw.small
    rw [hbytes, List.length_append] at hfile
    omega
  rw [← hlen]
  -- the seek
  have hposition : setPosition (toInt64 (UInt64.ofNat blocksEnd.length).toNat) ⟨file.bytes, 0⟩ =
      (true, ⟨file.bytes, blocksEnd.length⟩) := by
    rw [UInt64.toNat_ofNat_of_lt' (Nat.lt_of_le_of_lt hsmall (by decide)), toInt64_of_le hsmall]
    exact if_neg (Int.not_lt.mpr (Int.natCast_nonneg _))
  have hrest : (⟨file.bytes, blocksEnd.length⟩ : FileImage).rest =
      P.sectionBytes (.index index) ++ [] := by
    rw [List.append_nil]
    exact FileImage.rest_seek_of_bytes (f := ⟨file.bytes, 0⟩) hbytes
  -- the section and its message
  obtain ⟨hread, hleft⟩ := RecordReader.readSection_written hsize hrest
  have hmessage := readSectionOf_of_rest hP hP.index index ⟨[]⟩ hsize hleft
  unfold messageAt
  rw [hposition]
  simp only [hread]
  show parsed P P.index ⟨[]⟩ .index (P.index.byteSize index) _ = _
  unfold parsed
  rw [hmessage]

/-! ## Section 2: The last entry -/

/-- The last entry has the position `offset`, and there are entries as soon
    as there are blocks. -/
inductive LastAt (offset : Nat) : List SingleIndex → List Block → Prop where
  | none : LastAt offset [] []
  | some (es : List SingleIndex) (e : SingleIndex) (bs : List Block) (b : Block) :
      e.position = .ofNat offset → LastAt offset (es ++ [e]) (bs ++ [b])

theorem SingleIndex.setMessageNumber_position (e : SingleIndex)
    (map : List UInt8 → Option UInt64) : (e.setMessageNumber map).position = e.position := by
  unfold SingleIndex.setMessageNumber
  by_cases htype : e.type = .channel
  · rw [if_pos htype]
    cases hn : map e.mutableChannelCache.name <;> simp [hn]
  · rw [if_neg htype]

/-- The loop of `WriteIndex` leaves the positions alone. -/
theorem LastAt.setMessageNumbers {offset : Nat} {es : List SingleIndex} {bs : List Block}
    (h : LastAt offset es bs) (map : List UInt8 → Option UInt64) :
    LastAt offset (es.map (·.setMessageNumber map)) bs := by
  cases h with
  | none => exact .none
  | some es e bs b he =>
    rw [List.map_append]
    exact .some _ _ bs b ((e.setMessageNumber_position map).trans he)

/-- The offset behind the blocks. -/
def State.behindBlocks (P : Protobuf) (s : State) : Nat :=
  sizeofSection + headerLength + (s.blocks.flatMap P.blockBytes).length

/-- **Invariant**: between two chunks the last entry points behind the
    blocks. -/
def Trailing (P : Protobuf) (s : State) : Prop :=
  s.flusher ≠ .chunkBody → LastAt (s.behindBlocks P) s.index.indexes s.blocks

/-- The descriptor stands behind the blocks when a block is complete. -/
theorem pos_of_complete (h : Layout P s) (hf : s.caller.fresh = false) (hne : s.caller ≠ .closed)
    (hopen : s.openSections = []) : s.file.pos = s.behindBlocks P := by
  obtain ⟨h₀, hw, hend, _⟩ := h.written hf hne
  rw [hopen] at hw
  rw [hend, hw.length_blocks]
  rfl

/-- **Step lemma**, the last entry. -/
theorem trailing_step (a : Label) (hr : (recordFileWriter P given).Reachable s) (h : Trailing P s)
    (hg : ((recordFileWriter P given).action a).gate s) :
    Trailing P (((recordFileWriter P given).action a).effect s) := by
  obtain ⟨ht, hc⟩ := threads_reachable hr
  have hlayout := layout_step a ht hc (layout_reachable hr) hg
  cases a with
  | channelWrite c =>
    intro hbody
    have hpos := pos_of_complete hlayout rfl nofun (openSections_eq_nil hbody rfl)
    exact .some _ _ _ _ (congrArg UInt64.ofNat hpos)
  | chunkBody =>
    intro hbody
    obtain ⟨hf, hj⟩ := growing_of_writing ht hc (by rw [hg.1]; rfl)
    have hpos := pos_of_complete hlayout hf (CallerPc.ne_closed hj)
      (openSections_eq_nil hbody (CallerPc.not_indexed hj))
    exact .some _ _ _ _ (congrArg UInt64.ofNat hpos)
  | indexWrite =>
    intro hbody
    exact (h hbody).setMessageNumbers s.channelMessageNumberMap
  | chunkHeader => exact fun hbody => absurd rfl hbody
  | clear =>
    have hbody : s.flusher ≠ .chunkBody := by
      rw [show s.flusher = _ from hg]
      nofun
    exact fun _ => h hbody
  | writeMessage _ | headerWrite _ | swap _ | setComplete => exact h
  | _ =>
    have hq := quiet_step _ rfl hg
    unfold Trailing State.behindBlocks
    rw [hq.members]
    exact fun hbody => h (mt hq.body.mpr hbody)

/-- **Run lemma**: the last entry in every reachable state. -/
theorem trailing_reachable (h : (recordFileWriter P given).Reachable s) : Trailing P s := by
  induction h with
  | init hi =>
    intro _
    rw [hi.1]
    exact .none
  | step a hr hstep ih =>
    obtain ⟨hg, rfl⟩ := hstep
    exact trailing_step a hr ih hg

/-- The entries of a closed file point at their sections only when there are
    none. -/
theorem pointsAtSections_of_closed (hP : P.Lawful) (h : (recordFileWriter P given).Reachable s)
    (hclosed : s.caller = .closed) :
    PointsAtSections P s.file.bytes s.content.index ↔ s.blocks = [] := by
  obtain ⟨hw, _⟩ := written_of_closed h hclosed
  have hbody : s.flusher ≠ .chunkBody := by
    rw [(threads_reachable h).1.joined (by rw [hclosed]; rfl)]
    nofun
  have hlast := trailing_reachable h hbody
  have hindex : s.content.index = s.index := rfl
  unfold PointsAtSections
  rw [hindex]
  generalize hes : s.index.indexes = es at hlast
  generalize hbs : s.blocks = bs at hlast
  cases hlast with
  | none => exact iff_of_true nofun rfl
  | some es e bs b he =>
    refine iff_of_false ?_ (by simp)
    intro hall
    obtain ⟨m, hm, hdescribes⟩ := hall e (by simp)
    -- the last entry points at the index
    have hat : messageAt P s.file.bytes e.position = some (.index s.content.index) := by
      rw [he]
      exact messageAt_behind_blocks hP hw
    rw [hat, Option.some.injEq] at hm
    rw [← hm] at hdescribes
    exact hdescribes

/-! ## Section 3: The calls of a run -/

/-- The calls that fill the file. -/
def Label.writes : Label → Bool
  | .writeChannel _ | .writeMessage _ => true
  | _ => false

/-- The caller is in `WriteChannel`. -/
def CallerPc.inChannel : CallerPc → Bool
  | .channelLock _ | .channelWrite _ => true
  | _ => false

/-- `WriteChannel` or `WriteMessage` has been called. -/
def Called (s : State) : Prop :=
  s.written ≠ [] ∨ channelsOf s.blocks ≠ [] ∨ s.caller.inChannel = true

/-- A step that is no such call. -/
theorem called_of_other {s s' : State} {a : Label} (ha : a.writes = false)
    (hw : s'.written = s.written) (hb : channelsOf s'.blocks = channelsOf s.blocks)
    (hc : s'.caller.inChannel = s.caller.inChannel) : Called s' ↔ Called s ∨ a.writes = true := by
  have hsame : Called s' ↔ Called s := by
    unfold Called
    rw [hw, hb, hc]
  rw [ha, or_iff_left nofun]
  exact hsame

/-- **Step lemma**, calls. -/
theorem called_step (a : Label) (hg : ((recordFileWriter P given).action a).gate s) :
    Called (((recordFileWriter P given).action a).effect s) ↔ Called s ∨ a.writes = true := by
  cases a with
  | writeChannel c => exact iff_of_true (.inr (.inr rfl)) (.inr rfl)
  | writeMessage m =>
    refine iff_of_true (.inl ?_) (.inr rfl)
    exact List.append_ne_nil_of_right_ne_nil s.written (List.cons_ne_nil m [])
  | channelLock c =>
    have hin : s.caller.inChannel = true := by
      rw [hg.1]
      rfl
    exact iff_of_true (.inr (.inr rfl)) (.inl (.inr (.inr hin)))
  | channelWrite c =>
    have hin : s.caller.inChannel = true := by
      rw [hg.1]
      rfl
    refine iff_of_true (.inr (.inl ?_)) (.inl (.inr (.inr hin)))
    show channelsOf (s.blocks ++ [.channel c]) ≠ []
    rw [channelsOf_concat_channel]
    exact List.append_ne_nil_of_right_ne_nil _ (List.cons_ne_nil c [])
  | chunkBody =>
    exact called_of_other rfl rfl (channelsOf_concat_chunk _ _) rfl
  | writeHeader | close | swap last | notify last | stop | notifyAll | setComplete =>
    refine called_of_other rfl rfl rfl ?_
    rw [show s.caller = _ from hg]
    rfl
  | headerLock last | swapLock last | waitFlush | waitLast | join | indexLock | indexWrite =>
    refine called_of_other rfl rfl rfl ?_
    rw [hg.1]
    rfl
  | headerWrite last =>
    refine called_of_other rfl rfl rfl ?_
    rw [hg.1]
    cases last <;> rfl
  | swapUnlock last =>
    refine called_of_other rfl rfl rfl ?_
    rw [show s.caller = _ from hg]
    cases last <;> rfl
  | checkWriting | checkEmpty =>
    show Called (if _ then _ else _) ↔ _
    split <;> exact called_of_other rfl rfl rfl rfl
  | loop | lock | test | block | spurious | relock | chunkLock | chunkHeader | clear | unlock =>
    exact called_of_other rfl rfl rfl rfl

/-- **Run lemma**, calls. -/
theorem called_run {s s' : State} {as : List Label}
    (h : (recordFileWriter P given).Run s as s') :
    Called s' ↔ Called s ∨ ∃ a ∈ as, a.writes = true := by
  induction h with
  | nil s => simp
  | cons a as hstep _ ih =>
    obtain ⟨hg, rfl⟩ := hstep
    rw [ih, called_step a hg, or_assoc]
    simp

/-- After `Close` there are blocks exactly if there was a call. -/
theorem called_of_closed (h : (recordFileWriter P given).Reachable s)
    (hclosed : s.caller = .closed) : Called s ↔ s.blocks ≠ [] := by
  have hdrained : s.caller.drained = true := by
    rw [hclosed]
    rfl
  have hperm := written_perm_of_drained h hdrained
  constructor
  · intro hcalled hnil
    rw [hnil] at hperm
    obtain hw | hb | hin := hcalled
    · exact hw hperm.eq_nil
    · rw [hnil] at hb
      exact hb rfl
    · rw [hclosed] at hin
      cases hin
  · intro hne
    obtain ⟨b, bs, hbs⟩ := List.exists_cons_of_ne_nil hne
    cases b with
    | channel c =>
      refine .inr (.inl ?_)
      rw [hbs]
      exact List.cons_ne_nil c _
    | chunk ms =>
      -- a chunk in the file has messages, and they were written
      have hms : ms ≠ [] := chunk_ne_nil h ms (by rw [hbs]; exact List.mem_cons_self)
      refine .inl ?_
      intro hnil
      rw [hnil, hbs] at hperm
      have hempty := hperm.nil_eq
      rw [messagesOf, List.flatMap_cons] at hempty
      exact hms (List.append_eq_nil_iff.mp hempty.symm).1

/-! ## Section 4: Index positions -/

/-- **Main result**: the entries of the index of a closed file point at their
    sections exactly when neither `WriteChannel` nor `WriteMessage` was
    called, so that there are none. -/
theorem index_pointsAtSections_iff (hP : P.Lawful) {s₀ : State} {as : List Label}
    (hi : (recordFileWriter P given).init s₀) (hrun : (recordFileWriter P given).Run s₀ as s)
    (hclosed : s.caller = .closed) :
    PointsAtSections P s.file.bytes s.content.index ↔ ∀ a ∈ as, a.writes = false := by
  have hr : (recordFileWriter P given).Reachable s := .of_run (.init hi) hrun
  have hfirst : ¬ Called s₀ := by
    obtain ⟨hs, _, _, _, hcaller, _⟩ := hi
    unfold Called
    rw [hs, hcaller]
    rintro (hw | hb | hin)
    · exact hw rfl
    · exact hb rfl
    · cases hin
  have hcalled := called_run hrun
  rw [or_iff_right hfirst] at hcalled
  calc PointsAtSections P s.file.bytes s.content.index
      ↔ s.blocks = [] := pointsAtSections_of_closed hP hr hclosed
    _ ↔ ¬ Called s := by rw [called_of_closed hr hclosed, not_not]
    _ ↔ ¬ ∃ a ∈ as, a.writes = true := not_congr hcalled
    _ ↔ ∀ a ∈ as, a.writes = false := by simp

theorem index_pointsAtSections_emptyRun :
    PointsAtSections Wire.protobuf
        ((recordFileWriter Wire.protobuf .default).exec initial emptyRun).file.bytes
        ((recordFileWriter Wire.protobuf .default).exec initial emptyRun).content.index ↔
      ∀ a ∈ emptyRun, a.writes = false :=
  index_pointsAtSections_iff Wire.protobuf_lawful (initial_init Wire.protobuf .default)
    (System.run_exec (recordFileWriter Wire.protobuf .default) initial emptyRun
      (by decide +kernel))
    (by decide +kernel)

/-- The only message of a file: the entry of its chunk body points at the
    index. -/
theorem index_pointsBehind :
    ∃ s, (recordFileWriter Wire.protobuf .default).Reachable s ∧ s.caller = .closed ∧
      ¬ PointsAtSections Wire.protobuf s.file.bytes s.content.index := by
  let s := (recordFileWriter Wire.protobuf .default).exec initial oneMessageRun
  have hs : (recordFileWriter Wire.protobuf .default).Reachable s :=
    System.reachable_exec _ (initial_init _ _) oneMessageRun (by decide +kernel)
  have hclosed : s.caller = .closed := by decide +kernel
  have hblocks : s.blocks ≠ [] := by decide +kernel
  exact ⟨s, hs, hclosed, fun h =>
    hblocks ((pointsAtSections_of_closed Wire.protobuf_lawful hs hclosed).mp h)⟩

end CyberRT.Record
