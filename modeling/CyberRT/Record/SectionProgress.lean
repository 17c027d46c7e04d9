import CyberRT.Framework.Loop
import CyberRT.Record.RecordOrder

/-! # The end of reading

    `ReadNextChunk` and `ReadMessage` on any bytes. What a pass of the
    section loop does to the offset depends on the size in the section, and
    only one pass trusts it: the body of a chunk that is skipped is passed
    over with a relative seek, and a negative size moves the offset back. -/

namespace CyberRT.Record

open CyberRT.Framework

namespace RecordReader

variable (P : Protobuf) (flushMode : Bool) (beginTime endTime : UInt64)

/-- The offset of the reader's descriptor. -/
def pos (r : RecordReader) : Nat := r.fileReader.file.pos

def bytes (r : RecordReader) : List UInt8 := r.fileReader.file.bytes

/-! ## Section 1: Progress -/

/-- A pass moves the offset strictly forward, or it is the last one. -/
def Pass.Moves (r : RecordReader) : Pass → Prop
  | .again _ r' => r'.reachEnd = true ∨ r.pos < r'.pos
  | .done _ _   => True

/-- The body of the chunk to be skipped is next, and its size leads back to
    the start of its section or before it, but not out of the file. -/
def SkipsBack (skip : Bool) (r : RecordReader) : Prop :=
  r.reachEnd = false ∧ skip = true ∧ ∃ (size : Int) (f : FileImage),
    readSection r.fileReader.file = (some ⟨some .chunkBody, size⟩, f) ∧
      size ≤ -sizeofSection ∧ 0 ≤ f.pos + size ∧ f.pos + size ≤ int64Max

/-- The section loop of `ReadNextChunk`: what a pass starts from, and what is
    returned. -/
def sectionLoop : Bool × RecordReader → (Bool × RecordReader) ⊕ (Bool × RecordReader)
  | (skip, r) =>
    if r.reachEnd then .inr (false, r)
    else match pass P flushMode beginTime endTime skip r with
      | .again skip r => .inl (skip, r)
      | .done ok r    => .inr (ok, r)

/-- `ReadMessage` goes through its chunk and calls `ReadNextChunk` on `r'`. -/
def NeedsChunk (r r' : RecordReader) : Prop :=
  r.isValid = true ∧ ¬ (beginTime > r.header.endTime ∨ endTime < r.header.beginTime) ∧
    ∃ index, scan beginTime endTime (r.chunk.messages.drop r.messageIndex) r.messageIndex =
      .exhausted index ∧ r' = { r with messageIndex := index }

/-- The passes of the section loop that a call of `ReadMessage` makes, in its
    own call of `ReadNextChunk` or in those of the calls of itself. -/
inductive MessageVisits : RecordReader → Bool × RecordReader → Prop where
  | chunk {r r' : RecordReader} {x : Bool × RecordReader}
      (hneeds : NeedsChunk beginTime endTime r r')
      (hx : Visits (sectionLoop P flushMode beginTime endTime) (false, r') x) : MessageVisits r x
  | call {r r' r'' : RecordReader} {x : Bool × RecordReader} {passes : Nat}
      (hneeds : NeedsChunk beginTime endTime r r')
      (hchunk : readNextChunk P flushMode beginTime endTime passes false r' = some (true, r''))
      (hx : MessageVisits { r'' with messageIndex := 0 } x) : MessageVisits r x

/-! ## Section 2: One pass -/

section onePass
variable {f : FileImage}

/-- A section that was read lay inside the file. -/
theorem readSection_pos {sec : Section} {f' : FileImage} (h : readSection f = (some sec, f')) :
    f'.pos = f.pos + sizeofSection ∧ f.pos + sizeofSection ≤ f.bytes.length := by
  have hlen : (f.rest.take sizeofSection).length = min sizeofSection (f.bytes.length - f.pos) := by
    rw [List.length_take, FileImage.rest, List.length_drop]
  unfold readSection FileImage.read at h
  simp only at h
  split at h
  · next hfull =>
    rw [← (Prod.mk.inj h).2]
    have hsize : sizeofSection = 16 := rfl
    simp only
    omega
  · cases (Prod.mk.inj h).1

/-- A message is read from the offset on. -/
theorem readSectionOf_pos {M : Type} (c : Codec M) (size : Int) (m : M) :
    f.pos ≤ (readSectionOf P c size m f).2.2.pos := by
  unfold readSectionOf
  split
  · exact Nat.le_refl _
  · show f.pos ≤ (if _ then _ else _ : M × Bool × FileImage).2.2.pos
    split
    · exact Nat.le_add_right _ _
    · split <;> exact Nat.le_add_right _ _

/-- Where `SkipSection` leads. -/
theorem skipSection_pos (size : Int) :
    (skipSection size f).pos =
      if 0 ≤ f.pos + size ∧ f.pos + size ≤ int64Max then (f.pos + size).toNat else f.pos := by
  unfold skipSection setPosition
  split
  · rw [if_neg (by omega)]
  · split
    · rw [if_neg (by omega)]
    · rw [if_pos (by omega)]
      rfl

/-- What a pass can do, and what it leaves of the file. -/
inductive Passed (skip : Bool) (r : RecordReader) : Pass → Prop where
  | stopped (r' : RecordReader) (hbytes : r'.bytes = r.bytes) : Passed skip r (.done false r')
  | body {sec : Section} {f : FileImage} (ok : Bool) (r' : RecordReader)
      (hread : readSection r.fileReader.file = (some sec, f)) (hpos : f.pos ≤ r'.pos)
      (hbytes : r'.bytes = r.bytes) : Passed skip r (.done ok r')
  | index (r' : RecordReader) (hend : r'.reachEnd = true) (hbytes : r'.bytes = r.bytes) :
      Passed skip r (.again skip r')
  | message {sec : Section} {f : FileImage} (skip' : Bool) (r' : RecordReader)
      (hread : readSection r.fileReader.file = (some sec, f)) (hpos : f.pos ≤ r'.pos)
      (hbytes : r'.bytes = r.bytes) : Passed skip r (.again skip' r')
  | skipped {f : FileImage} {size : Int}
      (hread : readSection r.fileReader.file = (some ⟨some .chunkBody, size⟩, f))
      (hskip : skip = true) : Passed skip r (.again false (r.setFile (skipSection size f)))

theorem pass_passed (skip : Bool) (r : RecordReader) :
    Passed skip r (pass P flushMode beginTime endTime skip r) := by
  have hsection := readSection_bytes r.fileReader.file
  unfold pass
  cases hread : readSection r.fileReader.file with
  | mk found f =>
    rw [hread] at hsection
    cases found with
    | none     => exact .stopped _ hsection
    | some sec =>
      obtain ⟨type, size⟩ := sec
      cases type with
      | none => exact .stopped _ hsection
      | some type =>
        cases type with
        | header => exact .stopped _ hsection
        | index  => exact .index _ rfl ((skipSection_bytes size f).trans hsection)
        | channel =>
          have hbytes := readSectionOf_bytes (P := P) P.channel size ⟨[], [], []⟩ f
          have hpos := readSectionOf_pos P (f := f) P.channel size ⟨[], [], []⟩
          simp only
          split
          · next f' hf' =>
            rw [hf'] at hbytes
            exact .stopped _ (hbytes.trans hsection)
          · next f' hf' =>
            rw [hf'] at hbytes hpos
            exact .message skip _ hread hpos (hbytes.trans hsection)
        | chunkHeader =>
          have hbytes := readSectionOf_bytes (P := P) P.chunkHeader size ⟨0, 0, 0, 0⟩ f
          have hpos := readSectionOf_pos P (f := f) P.chunkHeader size ⟨0, 0, 0, 0⟩
          simp only
          split
          · next f' hf' =>
            rw [hf'] at hbytes
            exact .stopped _ (hbytes.trans hsection)
          · next header f' hf' =>
            rw [hf'] at hbytes hpos
            split
            · exact .stopped _ (hbytes.trans hsection)
            · exact .message _ _ hread hpos (hbytes.trans hsection)
        | chunkBody =>
          cases skip with
          | true  => exact .skipped hread rfl
          | false =>
            have hbytes := readSectionOf_bytes (P := P) P.chunkBody size
              (if flushMode then ⟨[]⟩ else r.chunk) f
            have hpos := readSectionOf_pos P (f := f) P.chunkBody size
              (if flushMode then ⟨[]⟩ else r.chunk)
            exact .body _ _ hread hpos (hbytes.trans hsection)

theorem pass_skipped {r : RecordReader} {size : Int} {f : FileImage}
    (hread : readSection r.fileReader.file = (some ⟨some .chunkBody, size⟩, f)) :
    pass P flushMode beginTime endTime true r = .again false (r.setFile (skipSection size f)) := by
  unfold pass
  rw [hread]
  rfl

/-- The file stays as it is. -/
theorem pass_bytes {skip skip' : Bool} {r r' : RecordReader}
    (h : pass P flushMode beginTime endTime skip r = .again skip' r') : r'.bytes = r.bytes := by
  have hpassed := pass_passed P flushMode beginTime endTime skip r
  rw [h] at hpassed
  cases hpassed with
  | index _ _ hbytes         => exact hbytes
  | message _ _ _ _ hbytes   => exact hbytes
  | skipped hread _          =>
    have hsection := readSection_bytes r.fileReader.file
    rw [hread] at hsection
    exact (skipSection_bytes _ _).trans hsection

/-- A pass that goes on has read a section inside the file. -/
theorem pass_inside {skip skip' : Bool} {r r' : RecordReader}
    (h : pass P flushMode beginTime endTime skip r = .again skip' r') :
    r.pos + sizeofSection ≤ r.bytes.length ∨ r'.reachEnd = true := by
  have hpassed := pass_passed P flushMode beginTime endTime skip r
  rw [h] at hpassed
  cases hpassed with
  | index _ hend _          => exact .inr hend
  | message _ _ hread _ _   => exact .inl (readSection_pos hread).2
  | skipped hread _         => exact .inl (readSection_pos hread).2

/-- A chunk was read from a section inside the file. -/
theorem pass_done {skip : Bool} {r r' : RecordReader}
    (h : pass P flushMode beginTime endTime skip r = .done true r') :
    r.pos < r'.pos ∧ r.pos < r.bytes.length ∧ r'.bytes = r.bytes := by
  have hpassed := pass_passed P flushMode beginTime endTime skip r
  rw [h] at hpassed
  cases hpassed with
  | body _ _ hread hpos hbytes =>
    obtain ⟨hf, hinside⟩ := readSection_pos hread
    have hsize : sizeofSection = 16 := rfl
    unfold pos bytes at *
    exact ⟨by omega, by omega, hbytes⟩

/-- **Progress of one pass**: only the seek over a skipped body can fail to
    move forward. -/
theorem pass_moves_iff (skip : Bool) (r : RecordReader) (hend : r.reachEnd = false) :
    (pass P flushMode beginTime endTime skip r).Moves r ↔ ¬ SkipsBack skip r := by
  have hsize : sizeofSection = 16 := rfl
  constructor
  · intro hmoves hback
    obtain ⟨-, rfl, size, f, hread, hfar, hstart, hmax⟩ := hback
    rw [pass_skipped P flushMode beginTime endTime hread] at hmoves
    obtain ⟨hf, _⟩ := readSection_pos hread
    rcases hmoves with hreach | hforward
    · rw [RecordReader.setFile, hend] at hreach
      cases hreach
    · have htarget : (r.setFile (skipSection size f)).pos = (f.pos + size).toNat := by
        show (skipSection size f).pos = _
        rw [skipSection_pos, if_pos ⟨hstart, hmax⟩]
      rw [htarget] at hforward
      unfold pos at hforward
      omega
  · intro hback
    have hpassed := pass_passed P flushMode beginTime endTime skip r
    generalize pass P flushMode beginTime endTime skip r = p at hpassed ⊢
    cases hpassed with
    | stopped _ _    => trivial
    | body _ _ _ _ _ => trivial
    | index _ hend _ => exact .inl hend
    | message _ _ hread hpos _ =>
      obtain ⟨hf, _⟩ := readSection_pos hread
      right
      unfold pos at *
      omega
    | @skipped f size hread hskip =>
      obtain ⟨hf, _⟩ := readSection_pos hread
      right
      show r.fileReader.file.pos < (skipSection size f).pos
      rw [skipSection_pos]
      split
      · next htarget =>
        -- the target is behind the start of the section
        have hnear : ¬ size ≤ -sizeofSection := fun hfar =>
          hback ⟨hend, hskip, size, f, hread, hfar, htarget.1, htarget.2⟩
        omega
      · omega

end onePass

/-! ## Section 3: The section loop -/

section sections
variable {passes : Nat} {skip skip' ok : Bool} {r r' : RecordReader}

theorem readNextChunk_eq (passes : Nat) (skip : Bool) (r : RecordReader) :
    readNextChunk P flushMode beginTime endTime passes skip r =
      loop (sectionLoop P flushMode beginTime endTime) passes (skip, r) := by
  induction passes generalizing skip r with
  | zero => rfl
  | succ passes ih =>
    simp only [readNextChunk, loop, sectionLoop]
    by_cases hend : r.reachEnd = true
    · simp only [if_pos hend]
    · simp only [if_neg hend]
      cases pass P flushMode beginTime endTime skip r with
      | again skip' r' => exact ih skip' r'
      | done ok r'     => rfl

theorem sectionLoop_again
    (h : sectionLoop P flushMode beginTime endTime (skip, r) = .inl (skip', r')) :
    r.reachEnd = false ∧ pass P flushMode beginTime endTime skip r = .again skip' r' := by
  unfold sectionLoop at h
  cases hend : r.reachEnd with
  | true  => simp [hend] at h
  | false =>
    cases hpass : pass P flushMode beginTime endTime skip r with
    | again skip' r' => simpa [hend, hpass] using h
    | done ok r'     => simp [hend, hpass] at h

theorem sectionLoop_done
    (h : sectionLoop P flushMode beginTime endTime (skip, r) = .inr (true, r')) :
    r.reachEnd = false ∧ pass P flushMode beginTime endTime skip r = .done true r' := by
  unfold sectionLoop at h
  cases hend : r.reachEnd with
  | true  => simp [hend] at h
  | false =>
    cases hpass : pass P flushMode beginTime endTime skip r with
    | again skip' r' => simp [hend, hpass] at h
    | done ok r'     => simpa [hend, hpass] using h

/-- **Measure** of the section loop: the bytes behind the offset, until the
    index is reached. -/
def left (r : RecordReader) : Nat :=
  if r.reachEnd then 0 else r.bytes.length - r.pos + 1

theorem left_falls (hback : ¬ SkipsBack skip r)
    (h : sectionLoop P flushMode beginTime endTime (skip, r) = .inl (skip', r')) :
    r'.left < r.left := by
  obtain ⟨hend, hpass⟩ := sectionLoop_again P flushMode beginTime endTime h
  have hmoves := (pass_moves_iff P flushMode beginTime endTime skip r hend).mpr hback
  have hbytes := pass_bytes P flushMode beginTime endTime hpass
  have hinside := pass_inside P flushMode beginTime endTime hpass
  have hsize : sizeofSection = 16 := rfl
  rw [hpass] at hmoves
  unfold left
  rw [hend, hbytes]
  by_cases hreach : r'.reachEnd = true
  · rw [if_pos hreach, if_neg Bool.false_ne_true]
    omega
  · have hforward := hmoves.resolve_left hreach
    have hlength := hinside.resolve_right hreach
    rw [if_neg hreach, if_neg Bool.false_ne_true]
    omega

/-- No pass of the section loop skips back. -/
def NeverBack (visited : Bool × RecordReader → Prop) : Prop :=
  ∀ skip r, visited (skip, r) → ¬ SkipsBack skip r

/-- Each pass moves the offset strictly forward or stops. -/
def AlwaysMoves (visited : Bool × RecordReader → Prop) : Prop :=
  ∀ skip r, visited (skip, r) → r.reachEnd = false →
    (pass P flushMode beginTime endTime skip r).Moves r

theorem alwaysMoves_iff (visited : Bool × RecordReader → Prop) :
    AlwaysMoves P flushMode beginTime endTime visited ↔ NeverBack visited := by
  constructor
  · intro hmoves skip r hvisited hback
    exact (pass_moves_iff P flushMode beginTime endTime skip r hback.1).mp
      (hmoves skip r hvisited hback.1) hback
  · intro hnever skip r hvisited hend
    exact (pass_moves_iff P flushMode beginTime endTime skip r hend).mpr (hnever skip r hvisited)

variable {P flushMode beginTime endTime}

/-- **Run lemma** of the section loop: the offset is behind the place it has
    started from. -/
theorem visits_forward {x : Bool × RecordReader}
    (hnever : NeverBack (Visits (sectionLoop P flushMode beginTime endTime) (skip, r)))
    (hx : Visits (sectionLoop P flushMode beginTime endTime) (skip, r) x) :
    x.2.bytes = r.bytes ∧ (x.2.reachEnd = true ∨ r.pos ≤ x.2.pos) := by
  induction hx with
  | start => exact ⟨rfl, .inr (Nat.le_refl _)⟩
  | @next t t' ht hbody ih =>
    obtain ⟨hend, hpass⟩ := sectionLoop_again P flushMode beginTime endTime hbody
    have hmoves := (pass_moves_iff P flushMode beginTime endTime t.1 t.2 hend).mpr
      (hnever _ _ ht)
    rw [hpass] at hmoves
    refine ⟨(pass_bytes P flushMode beginTime endTime hpass).trans ih.1, ?_⟩
    rcases hmoves with hreach | hforward
    · exact .inl hreach
    · have hbehind := ih.2.resolve_left (by simp [hend])
      right
      omega

/-- `ReadNextChunk` returns. -/
theorem readNextChunk_ends
    (hnever : NeverBack (Visits (sectionLoop P flushMode beginTime endTime) (skip, r)))
    (hpasses : r.bytes.length + 1 < passes) :
    ∃ x, readNextChunk P flushMode beginTime endTime passes skip r = some x := by
  have hleft : r.left < passes := by
    unfold left
    split <;> omega
  rw [readNextChunk_eq]
  exact loop_ends (fun x : Bool × RecordReader => x.2.left)
    (fun t t' ht hbody => left_falls P flushMode beginTime endTime (hnever t.1 t.2 ht) hbody) hleft

/-- The chunk it has read lay behind the offset. -/
theorem readNextChunk_forward
    (hnever : NeverBack (Visits (sectionLoop P flushMode beginTime endTime) (skip, r)))
    (h : readNextChunk P flushMode beginTime endTime passes skip r = some (true, r')) :
    r.pos < r'.pos ∧ r.pos < r.bytes.length ∧ r'.bytes = r.bytes := by
  rw [readNextChunk_eq] at h
  obtain ⟨⟨skip', t⟩, ht, hdone⟩ := visits_of_loop h
  obtain ⟨hend, hpass⟩ := sectionLoop_done P flushMode beginTime endTime hdone
  obtain ⟨hbytes, hbehind⟩ := visits_forward hnever ht
  obtain ⟨hpos, hinside, hsame⟩ := pass_done P flushMode beginTime endTime hpass
  have hstart : r.pos ≤ t.pos := hbehind.resolve_left (by simp [hend])
  rw [hbytes] at hsame
  rw [show t.bytes = r.bytes from hbytes] at hinside
  exact ⟨by omega, by omega, hsame⟩

end sections

/-! ## Section 4: ReadMessage -/

section messages
variable {P flushMode beginTime endTime} {passes calls : Nat} {r : RecordReader}

/-- A call that gets to `ReadNextChunk`. -/
theorem readMessage_needsChunk {r' : RecordReader} (h : NeedsChunk beginTime endTime r r')
    (passes calls : Nat) :
    readMessage P flushMode beginTime endTime passes (calls + 1) r =
      match readNextChunk P flushMode beginTime endTime passes false r' with
      | none => none
      | some (false, r) => some (none, r)
      | some (true, r)  =>
        readMessage P flushMode beginTime endTime passes calls { r with messageIndex := 0 } := by
  obtain ⟨hvalid, hwindow, index, hscan, rfl⟩ := h
  rewrite [readMessage, if_neg (by simp [hvalid]), if_neg hwindow, hscan]
  rfl

/-- `ReadMessage` returns: each call of itself stands behind the one before. -/
theorem readMessage_ends
    (hnever : NeverBack (MessageVisits P flushMode beginTime endTime r))
    (hpasses : r.bytes.length + 1 < passes) (hcalls : r.bytes.length - r.pos < calls) :
    ∃ x, readMessage P flushMode beginTime endTime passes calls r = some x := by
  induction calls generalizing r with
  | zero => omega
  | succ calls ih =>
    -- a call that needs no chunk returns without a section loop
    by_cases hneeds : ∃ r', NeedsChunk beginTime endTime r r'
    · obtain ⟨r', hneeds⟩ := hneeds
      obtain ⟨_, _, index, _, hr'⟩ := id hneeds
      have hplace : r'.fileReader = r.fileReader := by rw [hr']
      have hchunk : NeverBack (Visits (sectionLoop P flushMode beginTime endTime) (false, r')) :=
        fun skip t ht => hnever skip t (.chunk hneeds ht)
      have hstart : r'.bytes.length + 1 < passes := by
        rw [bytes, hplace]
        exact hpasses
      obtain ⟨⟨ok, r''⟩, hread⟩ := readNextChunk_ends hchunk hstart
      rw [readMessage_needsChunk hneeds, hread]
      cases ok with
      | false => exact ⟨_, rfl⟩
      | true  =>
        obtain ⟨hpos, hinside, hbytes⟩ := readNextChunk_forward hchunk hread
        have hnext : NeverBack (MessageVisits P flushMode beginTime endTime
            { r'' with messageIndex := 0 }) :=
          fun skip t ht => hnever skip t (.call hneeds hread ht)
        have hsame : bytes { r'' with messageIndex := 0 } = r.bytes :=
          hbytes.trans (congrArg (·.file.bytes) hplace)
        have hbehind : r'.pos < pos { r'' with messageIndex := 0 } := hpos
        rw [bytes, pos, hplace] at hinside
        rw [pos, hplace] at hbehind
        unfold pos bytes at *
        exact ih hnext (by rw [hsame]; exact hpasses) (by rw [hsame]; omega)
    · rw [readMessage]
      split
      · exact ⟨_, rfl⟩
      · next hvalid =>
        split
        · exact ⟨_, rfl⟩
        · next hwindow =>
          split
          · exact ⟨_, rfl⟩
          · exact ⟨_, rfl⟩
          · next index hscan =>
            exact absurd ⟨_, by simpa using hvalid, hwindow, index, hscan, rfl⟩ hneeds

end messages

/-- **Reading ends**: a call of `ReadNextChunk` and one of `ReadMessage` end,
    with each pass of the section loop moving strictly forward or stopping,
    if and only if none of its passes skips back. -/
theorem reading_ends_iff (P : Protobuf) (flushMode : Bool) (beginTime endTime : UInt64)
    (r : RecordReader) :
    ((∃ passes x, readNextChunk P flushMode beginTime endTime passes false r = some x) ∧
        AlwaysMoves P flushMode beginTime endTime
          (Visits (sectionLoop P flushMode beginTime endTime) (false, r)) ↔
      NeverBack (Visits (sectionLoop P flushMode beginTime endTime) (false, r))) ∧
    ((∃ passes calls x, readMessage P flushMode beginTime endTime passes calls r = some x) ∧
        AlwaysMoves P flushMode beginTime endTime
          (MessageVisits P flushMode beginTime endTime r) ↔
      NeverBack (MessageVisits P flushMode beginTime endTime r)) := by
  rw [alwaysMoves_iff, alwaysMoves_iff]
  constructor
  · constructor
    · intro h
      exact h.2
    · intro hnever
      obtain ⟨x, hx⟩ := readNextChunk_ends hnever (Nat.lt_succ_self _)
      exact ⟨⟨_, x, hx⟩, hnever⟩
  · constructor
    · intro h
      exact h.2
    · intro hnever
      obtain ⟨x, hx⟩ := readMessage_ends hnever (Nat.lt_succ_self _) (Nat.lt_succ_self _)
      exact ⟨⟨_, _, x, hx⟩, hnever⟩

/-! ## Section 5: A file without end -/

/-- A record from 1 to 10 whose first chunk ends at 2. -/
def endlessHeader : Header := { Header.default with beginTime := 1, endTime := 10 }

def endedChunk : Message := .chunkHeader ⟨1, 2, 1, 1⟩

/-- The struct of a chunk body with the size -40. -/
def backSection : List UInt8 := sectionStruct .chunkBody (2 ^ 64 - 40)

/-- The size leads from the end of the file to the header of the chunk. -/
def endlessFile : List UInt8 :=
  Wire.protobuf.headerBlock endlessHeader ++ (Wire.protobuf.sectionBytes endedChunk ++ backSection)

/-- In front of the chunk header, or behind it with its body to be skipped. -/
structure Circles (x : Bool × RecordReader) : Prop where
  bytes  : x.2.bytes = endlessFile
  notEnd : x.2.reachEnd = false
  place  : (x.1 = false ∧ x.2.pos = 2064) ∨ (x.1 = true ∧ x.2.pos = 2088)

theorem endlessHeader_fits : Wire.protobuf.byteSize (.header endlessHeader) ≤ headerLength := by
  decide

theorem length_endedChunk : (Wire.protobuf.sectionBytes endedChunk).length = 24 := by
  decide

theorem length_endlessFile : endlessFile.length = 2104 := by
  have hblock := Wire.protobuf.length_headerBlock endlessHeader_fits
  have hback : backSection.length = sizeofSection := length_sectionStruct _ _
  rw [endlessFile, List.length_append, List.length_append, hblock, length_endedChunk, hback]
  rfl

theorem rest_endlessFile {f : FileImage} (hbytes : f.bytes = endlessFile) (hpos : f.pos = 2064) :
    f.rest = Wire.protobuf.sectionBytes endedChunk ++ backSection := by
  have hblock := Wire.protobuf.length_headerBlock endlessHeader_fits
  rw [FileImage.rest, hbytes, hpos, endlessFile]
  exact List.drop_left' hblock

/-- The section with the negative size. -/
theorem readSection_back {f : FileImage} (hbytes : f.bytes = endlessFile) (hpos : f.pos = 2088) :
    readSection f = (some ⟨some .chunkBody, -40⟩, f.seek 2104) := by
  have hrest : f.rest = backSection ++ [] := by
    have hstart := rest_endlessFile (f := f.seek 2064) hbytes rfl
    rw [FileImage.rest, FileImage.seek_bytes, FileImage.seek_pos] at hstart
    rw [FileImage.rest, hpos, show 2088 = 2064 + 24 from rfl, ← List.drop_drop, hstart,
      List.drop_left' length_endedChunk, List.append_nil]
  have hread := FileImage.read_of_rest hrest
  have hlen : backSection.length = sizeofSection := length_sectionStruct _ _
  rw [hlen, hpos] at hread
  unfold readSection
  rw [hread]
  simp only [hlen, if_true]
  have htype : SectionType.ofValue (ofLeBytes (backSection.take 4)) = some .chunkBody := by decide
  have hsize : toInt64 (ofLeBytes (backSection.drop 8)) = -40 := by decide
  rw [Section.ofBytes, htype, hsize]
  rfl

/-- **Step lemma**: the section loop goes in a circle. -/
theorem circles_step (x : Bool × RecordReader) (h : Circles x) :
    ∃ x', sectionLoop Wire.protobuf false 5 10 x = .inl x' ∧ Circles x' := by
  obtain ⟨skip, r⟩ := x
  obtain ⟨hbytes, hend, hplace⟩ := h
  simp only at hbytes hend hplace
  have hnext : ∀ skip' r', pass Wire.protobuf false 5 10 skip r = .again skip' r' →
      sectionLoop Wire.protobuf false 5 10 (skip, r) = .inl (skip', r') := by
    intro skip' r' hpass
    simp only [sectionLoop, hend, hpass, Bool.false_eq_true, if_false]
  -- from the chunk header to the body that is skipped, and back
  rcases hplace with ⟨rfl, hpos⟩ | ⟨rfl, hpos⟩
  · obtain ⟨f, hrest, hsame, hpass⟩ := pass_chunkHeader false 5 10 false Wire.protobuf_lawful
      (by decide) (rest_endlessFile hbytes hpos)
    rw [if_neg (by decide)] at hpass
    have hlen : (f.bytes.drop f.pos).length = sizeofSection :=
      (congrArg List.length hrest).trans (length_sectionStruct _ _)
    rw [List.length_drop, hsame, show r.fileReader.file.bytes = endlessFile from hbytes,
      length_endlessFile] at hlen
    have hsize : sizeofSection = 16 := rfl
    exact ⟨_, hnext _ _ hpass, hsame.trans hbytes, hend, .inr ⟨rfl, show f.pos = 2088 by omega⟩⟩
  · have hpass := pass_skipped Wire.protobuf false 5 10 (readSection_back hbytes hpos)
    exact ⟨_, hnext _ _ hpass, (skipSection_bytes _ _).trans hbytes, hend, .inl ⟨rfl, rfl⟩⟩

/-- The reader of this file does not come back from its first call. -/
theorem reading_endless :
    (¬ ∃ passes x, readNextChunk Wire.protobuf false 5 10 passes false
      (openFile Wire.protobuf endlessFile) = some x) ∧
    ¬ ∃ passes calls x, readMessage Wire.protobuf false 5 10 passes calls
      (openFile Wire.protobuf endlessFile) = some x := by
  obtain ⟨R, index, info, hopen, hR⟩ := openFile_of_bytes Wire.protobuf_lawful endlessHeader_fits
    (Wire.protobuf.sectionBytes endedChunk ++ backSection)
  let r : RecordReader := ⟨R.reset, true, false, ⟨[]⟩, 0, endlessHeader, index, info⟩
  have hstart : Circles (false, r) := ⟨hR, rfl, .inl ⟨rfl, rfl⟩⟩
  have hchunk : ∀ passes, readNextChunk Wire.protobuf false 5 10 passes false r = none := by
    intro passes
    rw [readNextChunk_eq]
    exact loop_never circles_step hstart passes
  have hwindow : ¬ ((5 : UInt64) > endlessHeader.endTime ∨ 10 < endlessHeader.beginTime) := by
    decide
  -- there is no message yet
  have hneeds : NeedsChunk 5 10 r r := ⟨rfl, hwindow, 0, rfl, rfl⟩
  rw [endlessFile, hopen]
  constructor
  · rintro ⟨passes, x, hx⟩
    cases (hchunk passes).symm.trans hx
  · rintro ⟨passes, calls, x, hx⟩
    have hnone : readMessage Wire.protobuf false 5 10 passes calls r = none := by
      cases calls with
      | zero       => rfl
      | succ calls => rw [readMessage_needsChunk hneeds, hchunk]
    cases hnone.symm.trans hx

end RecordReader

end CyberRT.Record
