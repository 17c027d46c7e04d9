import CyberRT.Record.File.TimeBounds
import CyberRT.Record.RecordOrder

/-! # Reading a window of a record file

    `ReadMessage(begin, end)` hands out the messages whose time is in the
    window. It passes over a chunk whose header ends before the window, and
    stops at the first message or chunk header beyond it. It keeps its
    place, so that a later window goes on from there: in front of the
    message, or between the header and the body of the chunk.

    So the messages of a file are those of the window up to the first one
    that is beyond it, in file order. -/

namespace CyberRT.Record

open CyberRT.Framework

variable {P : Protobuf}

/-! ## Section 1: Files -/

/-- What a record file holds between its header and its index. A chunk comes
    with its header. -/
inductive Part where
  | channel (c : Channel)
  | chunk (header : ChunkHeader) (messages : List SingleMessage)
  deriving DecidableEq

def Part.sections : Part → List Message
  | .channel c        => [.channel c]
  | .chunk header ms  => [.chunkHeader header, .chunkBody ⟨ms⟩]

def Part.messages : Part → List SingleMessage
  | .channel _  => []
  | .chunk _ ms => ms

def messagesIn (parts : List Part) : List SingleMessage := parts.flatMap Part.messages

structure PartFile where
  header : Header
  parts  : List Part
  index  : Index

namespace PartFile

def sections (f : PartFile) : List Message := f.parts.flatMap Part.sections

def messages (f : PartFile) : List SingleMessage := messagesIn f.parts

def bytes (P : Protobuf) (f : PartFile) : List UInt8 :=
  P.headerBlock f.header ++
    (f.sections.flatMap P.sectionBytes ++ P.sectionBytes (.index f.index))

/-- A record file whose sections fit and whose header and chunk headers carry
    the least and the greatest time of their messages. -/
structure WellFormed (P : Protobuf) (f : PartFile) : Prop where
  fits   : P.byteSize (.header f.header) ≤ headerLength
  sizes  : ∀ m ∈ f.sections ++ [.index f.index], P.byteSize m ≤ intMax
  small  : (f.bytes P).length ≤ int64Max
  chunks : ∀ h ms, .chunk h ms ∈ f.parts →
    IsLeast (valuesOf (timesOf ms)) h.beginTime.toNat ∧
      IsGreatest (valuesOf (timesOf ms)) h.endTime.toNat
  header : f.messages ≠ [] →
    IsLeast (valuesOf (timesOf f.messages)) f.header.beginTime.toNat ∧
      IsGreatest (valuesOf (timesOf f.messages)) f.header.endTime.toNat

end PartFile

/-! ## Section 2: Bounds and windows -/

/-- No message of the window `[b, e]` is lost when `ms` are passed over for
    their bounds `first` and `last`. -/
structure Spans (b e first last : UInt64) (ms : List SingleMessage) : Prop where
  late  : first > e → ∀ m ∈ ms, m.time > e
  early : last < b → ∀ m ∈ ms, m.time < b

variable {b e : UInt64}

theorem mem_timesOf {ms : List SingleMessage} {m : SingleMessage} (h : m ∈ ms) :
    m.time.toNat ∈ timesOf ms :=
  List.mem_map.mpr ⟨m, h, rfl⟩

/-- True bounds lose nothing. -/
theorem Spans.of_bounds {first last : UInt64} {ms : List SingleMessage}
    (hfirst : IsLeast (valuesOf (timesOf ms)) first.toNat)
    (hlast : IsGreatest (valuesOf (timesOf ms)) last.toNat) : Spans b e first last ms where
  late  := fun hlate m hm => by
    have hle : first.toNat ≤ m.time.toNat := hfirst.2 (mem_timesOf hm)
    exact UInt64.lt_iff_toNat_lt.mpr (Nat.lt_of_lt_of_le (UInt64.lt_iff_toNat_lt.mp hlate) hle)
  early := fun hearly m hm => by
    have hle : m.time.toNat ≤ last.toNat := hlast.2 (mem_timesOf hm)
    exact UInt64.lt_iff_toNat_lt.mpr (Nat.lt_of_le_of_lt hle (UInt64.lt_iff_toNat_lt.mp hearly))

theorem Spans.mono {first last : UInt64} {ms ms' : List SingleMessage}
    (h : Spans b e first last ms) (hms : ∀ m ∈ ms', m ∈ ms) : Spans b e first last ms' where
  late  := fun hlate m hm => h.late hlate m (hms m hm)
  early := fun hearly m hm => h.early hearly m (hms m hm)

/-- The same for a part; a chunk has messages. -/
def Part.Spans (b e : UInt64) : Part → Prop
  | .channel _        => True
  | .chunk header ms  => ms ≠ [] ∧ Record.Spans b e header.beginTime header.endTime ms

/-- What `ReadMessage` does to the messages `ms` in front of the reader: it
    passes over messages before the window, and hands out one of the window
    or finds none, in front of one beyond the window or at the end. -/
inductive Reads (b e : UInt64) (ms : List SingleMessage) :
    Option SingleMessage → List SingleMessage → Prop where
  | found (pre : List SingleMessage) (m : SingleMessage) (post : List SingleMessage) :
      ms = pre ++ m :: post → (∀ x ∈ pre, x.time < b) → b ≤ m.time → m.time ≤ e →
      Reads b e ms (some m) post
  | none (pre mid post : List SingleMessage) :
      ms = pre ++ (mid ++ post) → (∀ x ∈ pre ++ mid, x.time < b) →
      (∀ x ∈ post.head?, x.time > e) → Reads b e ms none (mid ++ post)

/-- Messages before the window make no difference. -/
theorem Reads.skip {pre ms rest : List SingleMessage} {out : Option SingleMessage}
    (h : Reads b e ms out rest) (hpre : ∀ x ∈ pre, x.time < b) :
    Reads b e (pre ++ ms) out rest := by
  cases h with
  | found pre' m post hms hpre' hb he =>
    refine .found (pre ++ pre') m rest ?_ (List.forall_mem_append.mpr ⟨hpre, hpre'⟩) hb he
    rw [hms, List.append_assoc]
  | none pre' mid post hms hpre' hpost =>
    refine .none (pre ++ pre') mid post ?_ ?_ hpost
    · rw [hms, List.append_assoc]
    · rw [List.append_assoc]
      exact List.forall_mem_append.mpr ⟨hpre, hpre'⟩

/-- The messages of the window before the first one beyond it. -/
def inWindow (b e : UInt64) (ms : List SingleMessage) : List SingleMessage :=
  (ms.takeWhile (·.time ≤ e)).filter (b ≤ ·.time)

theorem inWindow_cons (m : SingleMessage) (ms : List SingleMessage) :
    inWindow b e (m :: ms) =
      if m.time ≤ e then if b ≤ m.time then m :: inWindow b e ms else inWindow b e ms else [] := by
  unfold inWindow
  by_cases he : m.time ≤ e
  · by_cases hb : b ≤ m.time
    · simp [he, hb]
    · simp [he, hb]
  · simp [he]

/-- Messages before the window are not in it, also where they are beyond its
    end. -/
theorem inWindow_append {pre : List SingleMessage} (hpre : ∀ x ∈ pre, x.time < b)
    {ms : List SingleMessage} (hms : ∀ x ∈ ms.head?, b ≤ e ∨ x.time > e) :
    inWindow b e (pre ++ ms) = inWindow b e ms := by
  induction pre with
  | nil => rfl
  | cons x pre ih =>
    have hx : ¬ b ≤ x.time := UInt64.not_le.mpr (hpre x List.mem_cons_self)
    rw [List.cons_append, inWindow_cons, if_neg hx]
    by_cases he : x.time ≤ e
    · rw [if_pos he]
      exact ih fun y hy => hpre y (List.mem_cons_of_mem x hy)
    · -- the window is empty
      rw [if_neg he]
      cases ms with
      | nil => rfl
      | cons m ms =>
        have hlate : m.time > e := by
          refine (hms m rfl).resolve_left fun hbe => he ?_
          exact UInt64.le_trans (UInt64.le_of_lt (hpre x List.mem_cons_self)) hbe
        rw [inWindow_cons, if_neg (UInt64.not_le.mpr hlate)]

/-- Nothing of the window is in front of a message beyond it. -/
theorem inWindow_of_head {ms : List SingleMessage} (h : ∀ x ∈ ms.head?, x.time > e) :
    inWindow b e ms = [] := by
  cases ms with
  | nil => rfl
  | cons m ms => rw [inWindow_cons, if_neg (UInt64.not_le.mpr (h m rfl))]

/-! ## Section 3: Places of the reader -/

/-- Where a reader stands: `loaded` is left of its chunk, and the file goes
    on with parts, or with the body of a chunk whose header was read, or the
    index was read. -/
inductive Cursor where
  | between (loaded : List SingleMessage) (parts : List Part)
  | within (body : List SingleMessage) (parts : List Part)
  | ended

namespace Cursor

def loaded : Cursor → List SingleMessage
  | .between loaded _ => loaded
  | _                 => []

def parts : Cursor → List Part
  | .between _ parts => parts
  | .within _ parts  => parts
  | .ended           => []

def sections : Cursor → List Message
  | .between _ parts   => parts.flatMap Part.sections
  | .within body parts => .chunkBody ⟨body⟩ :: parts.flatMap Part.sections
  | .ended             => []

/-- The messages in front of the reader. -/
def left : Cursor → List SingleMessage
  | .between loaded parts => loaded ++ messagesIn parts
  | .within body parts    => body ++ messagesIn parts
  | .ended                => []

/-- A bound of the chunks to be read. -/
def size : Cursor → Nat
  | .between _ parts => parts.length
  | .within _ parts  => parts.length + 1
  | .ended           => 0

end Cursor

structure Stands (P : Protobuf) (idx : Index) (r : RecordReader) (c : Cursor) : Prop where
  valid  : r.isValid = true
  small  : r.fileReader.file.bytes.length ≤ int64Max
  chunk  : r.chunk.messages.drop r.messageIndex = c.loaded
  atEnd  : r.reachEnd = true ↔ c = .ended
  rest   : c ≠ .ended → r.fileReader.file.rest =
    c.sections.flatMap P.sectionBytes ++ P.sectionBytes (.index idx)
  sizes  : ∀ m ∈ c.sections ++ [.index idx], P.byteSize m ≤ intMax
  body   : ∀ body parts, c = .within body parts → body ≠ []

namespace RecordReader

variable (flushMode : Bool) {r : RecordReader} {idx : Index}

/-! ## Section 4: ReadNextChunk -/

/-- Another offset in the same file. -/
theorem stands_setFile {c c' : Cursor} {f : FileImage} (h : Stands P idx r c)
    (hbytes : f.bytes = r.fileReader.file.bytes) (hloaded : c'.loaded = c.loaded)
    (hend : c ≠ .ended) (hend' : c' ≠ .ended)
    (hrest : f.rest = c'.sections.flatMap P.sectionBytes ++ P.sectionBytes (.index idx))
    (hsections : c'.sections <:+ c.sections)
    (hbody : ∀ body parts, c' = .within body parts → body ≠ []) :
    Stands P idx (r.setFile f) c' where
  valid := h.valid
  small := by
    show f.bytes.length ≤ _
    rw [hbytes]
    exact h.small
  chunk := hloaded ▸ h.chunk
  atEnd := iff_of_false (mt h.atEnd.mp hend) hend'
  rest  := fun _ => hrest
  sizes := fun m hm => by
    apply h.sizes
    rw [List.mem_append] at hm ⊢
    exact hm.imp_left fun hm => hsections.subset hm
  body  := hbody

/-- What `ReadNextChunk` finds in front of a reader that has used up its
    chunk. -/
inductive NextChunk (P : Protobuf) (idx : Index) (b e : UInt64) (c : Cursor) :
    Bool → RecordReader → Prop where
  | beyond (r' : RecordReader) (pre : List SingleMessage) (c' : Cursor) :
      Stands P idx r' c' → c.left = pre ++ c'.left → (∀ x ∈ pre, x.time < b) →
      (∀ x ∈ c'.left.head?, x.time > e) → c'.parts <:+ c.parts → c'.size ≤ c.size →
      NextChunk P idx b e c false r'
  | chunk (r' : RecordReader) (pre ms : List SingleMessage) (parts : List Part) :
      Stands P idx { r' with messageIndex := 0 } (.between ms parts) →
      c.left = pre ++ (ms ++ messagesIn parts) → (∀ x ∈ pre, x.time < b) →
      parts.length < c.size → parts <:+ c.parts → NextChunk P idx b e c true r'

/-- Parts passed over before. -/
theorem NextChunk.skip {c c' : Cursor} {ok : Bool} {r' : RecordReader}
    (h : NextChunk P idx b e c' ok r') (pre : List SingleMessage) (hleft : c.left = pre ++ c'.left)
    (hpre : ∀ x ∈ pre, x.time < b) (hsize : c'.size ≤ c.size) (hparts : c'.parts <:+ c.parts) :
    NextChunk P idx b e c ok r' := by
  cases h with
  | beyond _ pre' c'' hstands hleft' hpre' hhead hparts' hsize' =>
    refine .beyond r' (pre ++ pre') c'' hstands ?_ (List.forall_mem_append.mpr ⟨hpre, hpre'⟩)
      hhead (hparts'.trans hparts) (hsize'.trans hsize)
    rw [hleft, hleft', List.append_assoc]
  | chunk _ pre' ms parts hstands hleft' hpre' hlt hparts' =>
    refine .chunk r' (pre ++ pre') ms parts hstands ?_ (List.forall_mem_append.mpr ⟨hpre, hpre'⟩)
      (Nat.lt_of_lt_of_le hlt hsize) (hparts'.trans hparts)
    rw [hleft, hleft', List.append_assoc]

/-- The body of a chunk is read. -/
theorem readNextChunk_body (hP : P.Lawful) {ms : List SingleMessage} {parts : List Part}
    (h : Stands P idx r (.within ms parts)) (passes : Nat) :
    ∃ r', readNextChunk P flushMode b e (passes + 1) false r = some (true, r') ∧
      Stands P idx { r' with messageIndex := 0 } (.between ms parts) := by
  have hne : ms ≠ [] := h.body ms parts rfl
  have hrest := h.rest (by simp)
  simp only [Cursor.sections, List.flatMap_cons, List.append_assoc] at hrest
  have hsize : P.byteSize (.chunkBody ⟨ms⟩) ≤ intMax := h.sizes _ (by simp [Cursor.sections])
  obtain ⟨f, hf, hbytes, hpass⟩ := pass_chunkBody flushMode b e (b := ⟨ms⟩) hP hne hsize hrest
  have hend : r.reachEnd = false := Bool.eq_false_iff.mpr (mt h.atEnd.mp (by simp))
  refine ⟨{ r.setFile f with chunk := ⟨ms⟩ }, ?_, ?_⟩
  · unfold readNextChunk
    rw [hend, hpass]
    rfl
  · constructor
    · exact h.valid
    · show f.bytes.length ≤ _
      rw [hbytes]
      exact h.small
    · rfl
    · exact iff_of_false (by simpa [setFile] using hend) (by simp)
    · exact fun _ => hf
    · intro m hm
      apply h.sizes
      simp only [Cursor.sections, List.cons_append, List.mem_cons]
      exact .inr hm
    · simp

/-- **Run lemma**: the section loop passes over the chunks before the window
    and ends at a chunk of the window, at a chunk header beyond it, or at the
    index. Two passes a part are enough. -/
theorem readNextChunk_parts (hP : P.Lawful) {parts : List Part}
    (h : Stands P idx r (.between [] parts)) (hspan : ∀ p ∈ parts, p.Spans b e) {passes : Nat}
    (hpasses : 2 * parts.length + 2 ≤ passes) :
    ∃ ok r', readNextChunk P flushMode b e passes false r = some (ok, r') ∧
      NextChunk P idx b e (.between [] parts) ok r' := by
  have hend : r.reachEnd = false := Bool.eq_false_iff.mpr (mt h.atEnd.mp (by simp))
  induction parts generalizing r passes with
  | nil =>
    obtain ⟨f, hbytes, hpass⟩ := pass_index flushMode b e false (h.sizes _ (by simp))
      (h.rest (by simp))
    obtain ⟨k, rfl⟩ : ∃ k, passes = k + 2 := ⟨passes - 2, by simp at hpasses; omega⟩
    refine ⟨false, { r.setFile f with reachEnd := true }, ?_, ?_⟩
    · simp only [readNextChunk, hend, hpass]
      rfl
    · refine .beyond _ [] .ended ?_ rfl (by simp) (by simp [Cursor.left]) List.suffix_rfl
        (Nat.le_refl _)
      constructor
      · exact h.valid
      · show f.bytes.length ≤ _
        rw [hbytes]
        exact h.small
      · exact h.chunk
      · exact iff_of_true rfl rfl
      · exact fun hne => absurd rfl hne
      · exact fun m hm => h.sizes m (List.mem_append_right _ hm)
      · simp
  | cons p parts ih =>
    rw [List.length_cons] at hpasses
    have hspan' : ∀ p ∈ parts, p.Spans b e := fun q hq => hspan q (List.mem_cons_of_mem p hq)
    have hrest := h.rest (by simp)
    simp only [Cursor.sections, List.flatMap_cons, List.flatMap_append, List.append_assoc] at hrest
    have hsections : (Cursor.between [] parts).sections <:+
        (Cursor.between [] (p :: parts)).sections := List.suffix_append _ _
    have hparts : (Cursor.between [] parts).parts <:+ (Cursor.between [] (p :: parts)).parts :=
      List.suffix_cons p parts
    cases p with
    | channel c =>
      -- the channel is passed over
      simp only [Part.sections, List.flatMap_cons, List.flatMap_nil, List.append_nil] at hrest
      obtain ⟨f, hf, hbytes, hpass⟩ := pass_channel flushMode b e false hP
        (h.sizes (.channel c) (by simp [Cursor.sections, Part.sections])) hrest
      have h' : Stands P idx (r.setFile f) (.between [] parts) :=
        stands_setFile h hbytes rfl (by simp) (by simp) hf hsections (by simp)
      obtain ⟨k, rfl⟩ : ∃ k, passes = k + 1 := ⟨passes - 1, by omega⟩
      have hloop : readNextChunk P flushMode b e (k + 1) false r =
          readNextChunk P flushMode b e k false (r.setFile f) := by
        simp only [readNextChunk, hend, hpass]
        rfl
      rw [hloop]
      have hpasses' : 2 * parts.length + 2 ≤ k := by omega
      obtain ⟨ok, r', hread, hnext⟩ := ih h' hspan' hpasses' hend
      exact ⟨ok, r', hread, hnext.skip [] rfl (by simp) (Nat.le_succ _) hparts⟩
    | chunk header ms =>
      obtain ⟨hne, hbounds⟩ := hspan _ List.mem_cons_self
      simp only [Part.sections, List.flatMap_cons, List.flatMap_nil, List.append_nil,
        List.append_assoc] at hrest
      obtain ⟨f, hf, hbytes, hpass⟩ := pass_chunkHeader flushMode b e false hP
        (h.sizes (.chunkHeader header) (by simp [Cursor.sections, Part.sections])) hrest
      have hwithin : Stands P idx (r.setFile f) (.within ms parts) := by
        refine stands_setFile h hbytes rfl (by simp) (by simp) ?_ ?_ ?_
        · simp only [Cursor.sections, List.flatMap_cons, List.append_assoc]
          exact hf
        · exact List.suffix_cons (Message.chunkHeader header) _
        · rintro _ _ ⟨⟩
          exact hne
      have hleft : (Cursor.between [] (.chunk header ms :: parts)).left =
          (Cursor.within ms parts).left := rfl
      by_cases hlate : header.beginTime > e
      · -- the reader stops between the header and the body
        rw [if_pos hlate] at hpass
        obtain ⟨k, rfl⟩ : ∃ k, passes = k + 1 := ⟨passes - 1, by omega⟩
        refine ⟨false, r.setFile f, ?_, ?_⟩
        · simp only [readNextChunk, hend, hpass]
          rfl
        · refine .beyond _ [] (.within ms parts) hwithin rfl (by simp) ?_ hparts (Nat.le_refl _)
          obtain ⟨m, ms', hms⟩ := List.exists_cons_of_ne_nil hne
          rw [hms]
          rintro x ⟨⟩
          exact hbounds.late hlate m (hms ▸ List.mem_cons_self)
      rw [if_neg hlate] at hpass
      obtain ⟨k, rfl⟩ : ∃ k, passes = k + 2 := ⟨passes - 2, by omega⟩
      have hend' : (r.setFile f).reachEnd = false := hend
      by_cases hearly : header.endTime < b
      · -- the body is skipped
        rw [decide_eq_true hearly, Bool.or_true] at hpass
        have hrest' := hwithin.rest (by simp)
        simp only [Cursor.sections, List.flatMap_cons, List.append_assoc] at hrest'
        obtain ⟨f', hf', hbytes', hpass'⟩ := pass_skip flushMode b e (b := ⟨ms⟩) hP hne
          hwithin.small (hwithin.sizes _ (by simp [Cursor.sections])) hrest'
        have h' : Stands P idx ((r.setFile f).setFile f') (.between [] parts) :=
          stands_setFile hwithin hbytes' rfl (by simp) (by simp) hf' (List.suffix_cons _ _)
            (by simp)
        have hloop : readNextChunk P flushMode b e (k + 2) false r =
            readNextChunk P flushMode b e k false ((r.setFile f).setFile f') := by
          simp only [readNextChunk, hend, hpass, hend', hpass']
          rfl
        rw [hloop]
        have hpasses' : 2 * parts.length + 2 ≤ k := by omega
        obtain ⟨ok, r', hread, hnext⟩ := ih h' hspan' hpasses' hend
        refine ⟨ok, r', hread, hnext.skip ms rfl ?_ (Nat.le_succ _) hparts⟩
        exact hbounds.early hearly
      · -- the body is the next chunk
        rw [decide_eq_false hearly, Bool.or_false] at hpass
        obtain ⟨r', hread, hstands⟩ := readNextChunk_body flushMode (b := b) (e := e) hP hwithin k
        refine ⟨true, r', ?_,
          .chunk r' [] ms parts hstands rfl (by simp) (Nat.lt_succ_self _) hparts⟩
        have hloop : readNextChunk P flushMode b e (k + 2) false r =
            readNextChunk P flushMode b e (k + 1) false (r.setFile f) := by
          simp only [readNextChunk, hend, hpass]
          rfl
        rw [hloop]
        exact hread

/-- `ReadNextChunk` from any place where the chunk is used up. -/
theorem readNextChunk_stands (hP : P.Lawful) {c : Cursor} (h : Stands P idx r c)
    (hloaded : c.loaded = []) (hspan : ∀ p ∈ c.parts, p.Spans b e) {passes : Nat}
    (hpasses : 2 * c.size + 2 ≤ passes) :
    ∃ ok r', readNextChunk P flushMode b e passes false r = some (ok, r') ∧
      NextChunk P idx b e c ok r' := by
  cases c with
  | between loaded parts =>
    cases show loaded = [] from hloaded
    exact readNextChunk_parts flushMode hP h hspan hpasses
  | within ms parts =>
    obtain ⟨k, rfl⟩ : ∃ k, passes = k + 1 := ⟨passes - 1, by omega⟩
    obtain ⟨r', hread, hstands⟩ := readNextChunk_body flushMode (b := b) (e := e) hP h k
    exact ⟨true, r', hread,
      .chunk r' [] ms parts hstands rfl nofun (Nat.lt_succ_self _) List.suffix_rfl⟩
  | ended =>
    obtain ⟨k, rfl⟩ : ∃ k, passes = k + 1 := ⟨passes - 1, by omega⟩
    refine ⟨false, r, ?_, .beyond r [] .ended h rfl nofun nofun List.suffix_rfl (Nat.le_refl _)⟩
    unfold readNextChunk
    rw [h.atEnd.mpr rfl]
    rfl

/-! ## Section 5: Reset -/

/-- Readers that are the same after a `Reset` have the same header. -/
theorem header_eq_of_reset {r r' : RecordReader} (h : r'.reset = r.reset) :
    r'.header = r.header := by
  have hheader := congrArg RecordReader.header h
  exact hheader

/-- `Reset` undoes a move in the file. -/
theorem reset_setFile {f : FileImage} (hbytes : f.bytes = r.fileReader.file.bytes) :
    (r.setFile f).reset = r.reset := by
  have hfile : (r.setFile f).fileReader.reset = r.fileReader.reset := by
    show (⟨⟨f.bytes, _⟩, _, _⟩ : RecordFileReader) = ⟨⟨r.fileReader.file.bytes, _⟩, _, _⟩
    rw [hbytes]
    rfl
  unfold reset
  rw [hfile]
  rfl

def Pass.reader : Pass → RecordReader
  | .again _ r => r
  | .done _ r  => r

theorem reset_pass (skip : Bool) (r : RecordReader) :
    (pass P flushMode b e skip r).reader.reset = r.reset := by
  have hsection := readSection_bytes r.fileReader.file
  unfold pass
  split
  · next f hf =>
    rw [hf] at hsection
    exact reset_setFile hsection
  · next sec f hf =>
    rw [hf] at hsection
    split
    · exact reset_setFile ((skipSection_bytes _ f).trans hsection)
    · have hmessage := readSectionOf_bytes (P := P) P.channel sec.size ⟨[], [], []⟩ f
      split
      · next f' hf' =>
        rw [hf'] at hmessage
        exact reset_setFile (hmessage.trans hsection)
      · next f' hf' =>
        rw [hf'] at hmessage
        exact reset_setFile (hmessage.trans hsection)
    · have hmessage := readSectionOf_bytes (P := P) P.chunkHeader sec.size ⟨0, 0, 0, 0⟩ f
      split
      · next f' hf' =>
        rw [hf'] at hmessage
        exact reset_setFile (hmessage.trans hsection)
      · next header f' hf' =>
        rw [hf'] at hmessage
        split
        · exact reset_setFile (hmessage.trans hsection)
        · exact reset_setFile (hmessage.trans hsection)
    · split
      · exact reset_setFile ((skipSection_bytes _ f).trans hsection)
      · have hmessage := readSectionOf_bytes (P := P) P.chunkBody sec.size
          (if flushMode then ⟨[]⟩ else r.chunk) f
        exact reset_setFile (hmessage.trans hsection)
    · exact reset_setFile hsection

theorem reset_readNextChunk {passes : Nat} {skip ok : Bool} {r r' : RecordReader}
    (h : readNextChunk P flushMode b e passes skip r = some (ok, r')) : r'.reset = r.reset := by
  induction passes generalizing skip r with
  | zero => cases h
  | succ passes ih =>
    have hpass := reset_pass (P := P) (b := b) (e := e) flushMode skip r
    unfold readNextChunk at h
    split at h
    · cases h
      rfl
    · split at h
      · next hcase =>
        rw [hcase] at hpass
        exact (ih h).trans hpass
      · next hcase =>
        rw [hcase] at hpass
        cases h
        exact hpass

/-- `Reset` undoes `ReadMessage`, whatever the reader reads. -/
theorem reset_readMessage {passes calls : Nat} {out : Option RecordMessage} {r r' : RecordReader}
    (h : readMessage P flushMode b e passes calls r = some (out, r')) : r'.reset = r.reset := by
  induction calls generalizing r with
  | zero => cases h
  | succ calls ih =>
    unfold readMessage at h
    split at h
    · cases h
      rfl
    split at h
    · cases h
      rfl
    split at h
    · cases h
      rfl
    · cases h
      rfl
    · next index _ =>
      dsimp only at h
      split at h
      · cases h
      · next hread =>
        have hreset := reset_readNextChunk flushMode hread
        cases h
        exact hreset
      · next hread =>
        have hreset := reset_readNextChunk flushMode hread
        exact (ih h).trans hreset

/-! ## Section 6: ReadMessage -/

/-- The loop over the messages of the chunk, as it ends. -/
inductive Scanned (b e : UInt64) (ms : List SingleMessage) (index : Nat) : Scan → Prop where
  | found (pre : List SingleMessage) (m : SingleMessage) (post : List SingleMessage) :
      ms = pre ++ m :: post → (∀ x ∈ pre, x.time < b) → b ≤ m.time → m.time ≤ e →
      Scanned b e ms index (.found (index + pre.length + 1) m)
  | beyond (pre : List SingleMessage) (m : SingleMessage) (post : List SingleMessage) :
      ms = pre ++ m :: post → (∀ x ∈ pre, x.time < b) → m.time > e →
      Scanned b e ms index (.beyond (index + pre.length))
  | exhausted : (∀ x ∈ ms, x.time < b) → Scanned b e ms index (.exhausted (index + ms.length))

theorem scanned_scan (ms : List SingleMessage) (index : Nat) :
    Scanned b e ms index (scan b e ms index) := by
  induction ms generalizing index with
  | nil => exact .exhausted nofun
  | cons m ms ih =>
    rw [scan]
    by_cases hlate : m.time > e
    · rw [if_pos hlate]
      exact .beyond [] m ms rfl nofun hlate
    rw [if_neg hlate]
    by_cases hearly : m.time < b
    swap
    · rw [if_neg hearly]
      exact .found [] m ms rfl nofun (UInt64.not_lt.mp hearly) (UInt64.not_lt.mp hlate)
    -- the message is passed over
    rw [if_pos hearly]
    have hrec := ih (index + 1)
    generalize scan b e ms (index + 1) = out at hrec
    cases hrec with
    | found pre m' post hms hpre hb he =>
      have hfound : Scanned b e (m :: ms) index (.found (index + (m :: pre).length + 1) m') :=
        .found (m :: pre) m' post (congrArg (m :: ·) hms)
          (List.forall_mem_cons.mpr ⟨hearly, hpre⟩) hb he
      rwa [List.length_cons, ← Nat.add_assoc, Nat.add_right_comm index] at hfound
    | beyond pre m' post hms hpre he =>
      have hbeyond : Scanned b e (m :: ms) index (.beyond (index + (m :: pre).length)) :=
        .beyond (m :: pre) m' post (congrArg (m :: ·) hms)
          (List.forall_mem_cons.mpr ⟨hearly, hpre⟩) he
      rwa [List.length_cons, ← Nat.add_assoc, Nat.add_right_comm index] at hbeyond
    | exhausted hms =>
      have hexhausted : Scanned b e (m :: ms) index (.exhausted (index + (m :: ms).length)) :=
        .exhausted (List.forall_mem_cons.mpr ⟨hearly, hms⟩)
      rwa [List.length_cons, ← Nat.add_assoc, Nat.add_right_comm index] at hexhausted

/-- Another index into the chunk. -/
theorem stands_setIndex {c c' : Cursor} {index : Nat} (h : Stands P idx r c)
    (hloaded : r.chunk.messages.drop index = c'.loaded) (hend : c' = .ended ↔ c = .ended)
    (hsections : c'.sections = c.sections)
    (hbody : ∀ body parts, c' = .within body parts → c = .within body parts) :
    Stands P idx { r with messageIndex := index } c' where
  valid := h.valid
  small := h.small
  chunk := hloaded
  atEnd := h.atEnd.trans hend.symm
  rest  := fun hne => by
    rw [hsections]
    exact h.rest (mt hend.mpr hne)
  sizes := by
    rw [hsections]
    exact h.sizes
  body  := fun body parts hc => h.body body parts (hbody body parts hc)

/-- **Step lemma**: what one call of `ReadMessage` does to the messages in
    front of the reader. -/
theorem readMessage_stands (hP : P.Lawful) {c : Cursor} (h : Stands P idx r c)
    (hspan : ∀ p ∈ c.parts, p.Spans b e)
    (hheader : Spans b e r.header.beginTime r.header.endTime c.left) {passes calls : Nat}
    (hpasses : 2 * c.size + 2 ≤ passes) (hcalls : c.size + 1 ≤ calls) :
    ∃ out r' c', readMessage P flushMode b e passes calls r =
        some (out.map RecordMessage.of, r') ∧ Stands P idx r' c' ∧
      Reads b e c.left out c'.left ∧ c'.parts <:+ c.parts ∧ c'.size ≤ c.size := by
  induction calls generalizing r c with
  | zero => omega
  | succ calls ih =>
    have hvalid : ¬ (!r.isValid) = true := by
      simp [h.valid]
    by_cases hwindow : b > r.header.endTime ∨ e < r.header.beginTime
    · -- the window does not meet the file
      refine ⟨none, r, c, ?_, h, ?_, List.suffix_rfl, Nat.le_refl _⟩
      · unfold readMessage
        rw [if_neg hvalid, if_pos hwindow]
        rfl
      · obtain hearly | hlate := hwindow
        · have hreads : Reads b e c.left none (c.left ++ []) :=
            .none [] c.left [] (by simp) (by simpa using hheader.early hearly) (by simp)
          rwa [List.append_nil] at hreads
        · refine .none [] [] c.left rfl (by simp) ?_
          intro x hx
          exact hheader.late hlate x (List.mem_of_mem_head? hx)
    have hscan : Scanned b e c.loaded r.messageIndex
        (scan b e (r.chunk.messages.drop r.messageIndex) r.messageIndex) := by
      rw [h.chunk]
      exact scanned_scan _ _
    -- what is left of the chunk behind a prefix of it
    have hdrop : ∀ pre post, c.loaded = pre ++ post →
        r.chunk.messages.drop (r.messageIndex + pre.length) = post := by
      intro pre post hloaded
      rw [← List.drop_drop, h.chunk, hloaded, List.drop_left]
    unfold readMessage
    rw [if_neg hvalid, if_neg hwindow]
    generalize scan b e (r.chunk.messages.drop r.messageIndex) r.messageIndex = out at hscan
    cases hscan with
    | found pre m post hloaded hpre hb he =>
      -- the chunk is being used, so the reader stands between two parts
      obtain ⟨parts, rfl⟩ : ∃ parts, c = .between (pre ++ m :: post) parts := by
        cases c with
        | between loaded parts => exact ⟨parts, congrArg (Cursor.between · parts) hloaded⟩
        | within | ended => exact absurd hloaded (by simp [Cursor.loaded])
      refine ⟨some m, _, .between post parts, rfl, ?_, ?_, List.suffix_rfl, Nat.le_refl _⟩
      · refine stands_setIndex h ?_ (iff_of_false (by simp) (by simp)) rfl (by simp)
        have hpost := hdrop (pre ++ [m]) post (by simp [Cursor.loaded])
        rwa [List.length_append, List.length_singleton, ← Nat.add_assoc] at hpost
      · refine .found pre m (post ++ messagesIn parts) ?_ hpre hb he
        simp [Cursor.left]
    | beyond pre m post hloaded hpre he =>
      -- the reader stays at the message that is beyond the window
      obtain ⟨parts, rfl⟩ : ∃ parts, c = .between (pre ++ m :: post) parts := by
        cases c with
        | between loaded parts => exact ⟨parts, congrArg (Cursor.between · parts) hloaded⟩
        | within | ended => exact absurd hloaded (by simp [Cursor.loaded])
      refine ⟨none, _, .between (m :: post) parts, rfl, ?_, ?_, List.suffix_rfl, Nat.le_refl _⟩
      · exact stands_setIndex h (hdrop pre (m :: post) rfl) (iff_of_false (by simp) (by simp)) rfl
          (by simp)
      · refine .none pre [] (m :: post ++ messagesIn parts) ?_ (by simpa using hpre) ?_
        · simp [Cursor.left]
        · rintro x ⟨⟩
          exact he
    | exhausted hloaded =>
      -- the next chunk, with the messages left of this one passed over
      obtain ⟨c₀, hleft, hloaded₀, hparts₀, hsize₀, hstands₀⟩ : ∃ c₀ : Cursor,
          c.left = c.loaded ++ c₀.left ∧ c₀.loaded = [] ∧ c₀.parts = c.parts ∧ c₀.size = c.size ∧
          Stands P idx { r with messageIndex := r.messageIndex + c.loaded.length } c₀ := by
        have hnil := hdrop c.loaded [] (by simp)
        cases c with
        | between loaded parts =>
          exact ⟨.between [] parts, rfl, rfl, rfl, rfl,
            stands_setIndex h hnil (iff_of_false (by simp) (by simp)) rfl (by simp)⟩
        | within body parts =>
          exact ⟨.within body parts, rfl, rfl, rfl, rfl,
            stands_setIndex h hnil Iff.rfl rfl fun _ _ hc => hc⟩
        | ended => exact ⟨.ended, rfl, rfl, rfl, rfl, stands_setIndex h hnil Iff.rfl rfl (by simp)⟩
      rw [← hparts₀] at hspan
      have hpasses₀ : 2 * c₀.size + 2 ≤ passes := by omega
      obtain ⟨ok, r', hread, hnext⟩ :=
        readNextChunk_stands flushMode hP hstands₀ hloaded₀ hspan hpasses₀
      have hsuffix : c₀.parts <:+ c.parts := hparts₀ ▸ List.suffix_rfl
      dsimp only
      rw [hread]
      cases hnext with
      | beyond _ pre c' hstands' hleft' hpre hhead hparts' hsize' =>
        refine ⟨none, r', c', rfl, hstands', ?_, hparts'.trans hsuffix, hsize₀ ▸ hsize'⟩
        refine .none (c.loaded ++ pre) [] c'.left ?_ ?_ hhead
        · rw [hleft, hleft', List.append_assoc]
          rfl
        · rw [List.append_nil]
          exact List.forall_mem_append.mpr ⟨hloaded, hpre⟩
      | chunk _ pre ms parts hstands' hleft' hpre hlt hparts' =>
        -- a chunk less is in front of the reader, so the calls left are enough
        have hheader' := header_eq_of_reset (reset_readNextChunk flushMode hread)
        have hbefore : ∀ x ∈ c.loaded ++ pre, x.time < b :=
          List.forall_mem_append.mpr ⟨hloaded, hpre⟩
        have hall : c.left = (c.loaded ++ pre) ++ (Cursor.between ms parts).left := by
          rw [hleft, hleft', List.append_assoc]
          rfl
        have hspan' : ∀ p ∈ parts, p.Spans b e := fun p hp => hspan p (hparts'.subset hp)
        have hbounds : Spans b e r'.header.beginTime r'.header.endTime
            (Cursor.between ms parts).left := by
          rw [hheader']
          exact hheader.mono fun x hx => hall ▸ List.mem_append_right _ hx
        have hsize : (Cursor.between ms parts).size < c.size := hsize₀ ▸ hlt
        obtain ⟨out, r'', c', hmessage, hstands'', hreads, hparts'', hle⟩ :=
          ih hstands' hspan' hbounds (by omega) (by omega)
        refine ⟨out, r'', c', hmessage, hstands'', ?_, ?_, by omega⟩
        · rw [hall]
          exact hreads.skip hbefore
        · exact hparts''.trans (hparts'.trans hsuffix)

/-- **Run lemma**: reading until `ReadMessage` returns false hands out the
    messages of the window before the first one beyond it. -/
theorem readAll_stands (hP : P.Lawful) {c : Cursor} (h : Stands P idx r c)
    (hspan : ∀ p ∈ c.parts, p.Spans b e)
    (hheader : Spans b e r.header.beginTime r.header.endTime c.left) {passes calls reads : Nat}
    (hpasses : 2 * c.size + 2 ≤ passes) (hcalls : c.size + 1 ≤ calls)
    (hreads : c.left.length + 1 ≤ reads) :
    readAll P flushMode b e passes calls reads r =
      some ((inWindow b e c.left).map RecordMessage.of) := by
  induction reads generalizing r c with
  | zero => omega
  | succ reads ih =>
    obtain ⟨out, r', c', hread, hstands, hout, hparts, hsize⟩ :=
      readMessage_stands flushMode hP h hspan hheader hpasses hcalls
    unfold readAll
    rw [hread]
    generalize hpost : c'.left = post at hout
    cases hout with
    | found pre m _ hleft hpre hb he =>
      -- the induction is on the reads: a message that is found is no longer left
      have hheader' := header_eq_of_reset (reset_readMessage flushMode hread)
      have hmem : ∀ x ∈ c'.left, x ∈ c.left := by
        intro x hx
        rw [hleft, ← hpost]
        exact List.mem_append_right _ (List.mem_cons_of_mem m hx)
      have hbounds : Spans b e r'.header.beginTime r'.header.endTime c'.left := by
        rw [hheader']
        exact hheader.mono hmem
      have hlen : c.left.length = pre.length + (c'.left.length + 1) := by
        rw [hleft, hpost, List.length_append, List.length_cons]
      have hrest := ih hstands (fun p hp => hspan p (hparts.subset hp)) hbounds (by omega)
        (by omega) (by omega)
      have hwindow : inWindow b e c.left = m :: inWindow b e c'.left := by
        rw [hleft, inWindow_append hpre fun _ _ => .inl (UInt64.le_trans hb he), inWindow_cons,
          if_pos he, if_pos hb, hpost]
      show (readAll P flushMode b e passes calls reads r').map (RecordMessage.of m :: ·) = _
      rw [hrest, hwindow]
      rfl
    | none pre mid post hleft hpre hpost' =>
      have hwindow : inWindow b e c.left = [] := by
        rw [hleft, ← List.append_assoc, inWindow_append hpre fun x hx => .inr (hpost' x hx)]
        exact inWindow_of_head hpost'
      rw [hwindow]
      rfl

end RecordReader

/-! ## Section 7: Windows of a file -/

/-- Readers of a file that have read and been reset any number of times. -/
inductive Used (P : Protobuf) (bytes : List UInt8) : RecordReader → Prop where
  | opened : Used P bytes (.openFile P bytes)
  | read {r r' : RecordReader} {out : Option RecordMessage} (flushMode : Bool) (b e : UInt64)
      (passes calls : Nat) : Used P bytes r →
      RecordReader.readMessage P flushMode b e passes calls r = some (out, r') → Used P bytes r'
  | reset {r : RecordReader} : Used P bytes r → Used P bytes r.reset

/-- `Reset` leaves nothing of what was read. -/
theorem Used.reset_eq {bytes : List UInt8} {r : RecordReader} (h : Used P bytes r) :
    r.reset = (RecordReader.openFile P bytes).reset := by
  induction h with
  | opened => rfl
  | read flushMode b e passes calls _ hread ih =>
    exact (RecordReader.reset_readMessage flushMode hread).trans ih
  | reset _ ih => exact ih

namespace PartFile

variable {f : PartFile}

theorem WellFormed.spans (h : f.WellFormed P) (p : Part) (hp : p ∈ f.parts) : p.Spans b e := by
  cases p with
  | channel c => trivial
  | chunk header ms =>
    obtain ⟨hfirst, hlast⟩ := h.chunks header ms hp
    refine ⟨?_, .of_bounds hfirst hlast⟩
    rintro rfl
    exact absurd hfirst.1 List.not_mem_nil

theorem WellFormed.spans_header (h : f.WellFormed P) :
    Spans b e f.header.beginTime f.header.endTime f.messages := by
  by_cases hnil : f.messages = []
  · rw [hnil]
    exact ⟨fun _ => nofun, fun _ => nofun⟩
  · obtain ⟨hfirst, hlast⟩ := h.header hnil
    exact .of_bounds hfirst hlast

/-- A reader that was reset stands in front of all parts. -/
theorem WellFormed.stands_reset (hP : P.Lawful) (h : f.WellFormed P) {r : RecordReader}
    (hr : Used P (f.bytes P) r) :
    Stands P f.index r.reset (.between [] f.parts) ∧ r.reset.header = f.header := by
  obtain ⟨R, index, info, hopen, hR⟩ := openFile_of_bytes hP h.fits
    (f.sections.flatMap P.sectionBytes ++ P.sectionBytes (.index f.index))
  have hreset := hr.reset_eq
  unfold PartFile.bytes at hreset
  rw [hopen] at hreset
  rw [hreset]
  refine ⟨⟨rfl, ?_, rfl, iff_of_false nofun nofun, ?_, h.sizes, nofun⟩, rfl⟩
  · show R.file.bytes.length ≤ _
    rw [hR]
    exact h.small
  · intro _
    exact reset_rest (r := R) hR (P.length_headerBlock h.fits)

/-- Reading a window of a file from its start. -/
theorem WellFormed.readAll_reset (hP : P.Lawful) (h : f.WellFormed P) {r : RecordReader}
    (hr : Used P (f.bytes P) r) (flushMode : Bool) (b e : UInt64) :
    ∃ n, ∀ passes calls reads, n ≤ passes → n ≤ calls → n ≤ reads →
      RecordReader.readAll P flushMode b e passes calls reads r.reset =
        some ((inWindow b e f.messages).map RecordMessage.of) := by
  obtain ⟨hstands, hheader⟩ := h.stands_reset hP hr
  refine ⟨2 * f.parts.length + f.messages.length + 2, ?_⟩
  intro passes calls reads hpasses hcalls hreads
  have hbounds : Spans b e r.reset.header.beginTime r.reset.header.endTime
      (Cursor.between [] f.parts).left := by
    rw [hheader]
    exact h.spans_header
  have hlen : (Cursor.between [] f.parts).left.length = f.messages.length := rfl
  have hsize : (Cursor.between [] f.parts).size = f.parts.length := rfl
  exact RecordReader.readAll_stands flushMode hP hstands h.spans hbounds (by omega) (by omega)
    (by omega)

end PartFile

/-- Nothing of the window is missing exactly when no message of it comes
    behind one beyond it. -/
theorem inWindow_eq_filter_iff (ms : List SingleMessage) :
    inWindow b e ms = ms.filter (fun m => b ≤ m.time ∧ m.time ≤ e) ↔
      ms.Pairwise fun x y => x.time > e → ¬ (b ≤ y.time ∧ y.time ≤ e) := by
  induction ms with
  | nil => exact iff_of_true rfl .nil
  | cons m ms ih =>
    rw [inWindow_cons, List.pairwise_cons]
    by_cases he : m.time ≤ e
    · have hfirst : ∀ y ∈ ms, m.time > e → ¬ (b ≤ y.time ∧ y.time ≤ e) := fun _ _ hgt =>
        absurd he (UInt64.not_le.mpr hgt)
      rw [if_pos he, and_iff_right hfirst, ← ih]
      by_cases hb : b ≤ m.time
      · simp [hb, he]
      · simp [hb]
    · have hgt : m.time > e := UInt64.not_le.mp he
      rw [if_neg he, List.filter_cons_of_neg (by simp [he])]
      constructor
      · intro hnil
        have hnone : ∀ y ∈ ms, ¬ (b ≤ y.time ∧ y.time ≤ e) := by
          simpa using List.filter_eq_nil_iff.mp hnil.symm
        exact ⟨fun y hy _ => hnone y hy,
          List.pairwise_of_forall_mem_list fun _ _ y hy _ => hnone y hy⟩
      · intro ⟨hnone, _⟩
        symm
        rw [List.filter_eq_nil_iff]
        intro y hy
        simpa using hnone y hy hgt

/-- **Main result**: after `Reset`, reading a window of a well-formed file
    gives out the messages of the window up to the first message beyond it,
    each once and in file order. -/
theorem readAll_window (hP : P.Lawful) {f : PartFile} (h : f.WellFormed P) {r : RecordReader}
    (hr : Used P (f.bytes P) r) (flushMode : Bool) (b e : UInt64) :
    ∃ n, ∀ passes calls reads, n ≤ passes → n ≤ calls → n ≤ reads →
      RecordReader.readAll P flushMode b e passes calls reads r.reset =
        some (((f.messages.takeWhile (·.time ≤ e)).filter (b ≤ ·.time)).map RecordMessage.of) :=
  h.readAll_reset hP hr flushMode b e

/-- A message of time `5` in front of one of time `1`. -/
def lateFirst : PartFile where
  header := { Header.default with beginTime := 1, endTime := 5, messageNumber := 2 }
  parts  := [.chunk ⟨1, 5, 2, 2⟩ [⟨[97], 5, [1]⟩, ⟨[97], 1, [2]⟩]]
  index  := ⟨[]⟩

theorem lateFirst_wellFormed : lateFirst.WellFormed Wire.protobuf := by
  have hleast : IsLeast (valuesOf [5, 1]) 1 := ⟨by simp [valuesOf], by simp [lowerBounds, valuesOf]⟩
  have hgreatest : IsGreatest (valuesOf [5, 1]) 5 :=
    ⟨by simp [valuesOf], by simp [upperBounds, valuesOf]⟩
  constructor
  · decide +kernel
  · decide +kernel
  · decide +kernel
  · intro h ms hms
    cases List.mem_singleton.mp hms
    exact ⟨hleast, hgreatest⟩
  · exact fun _ => ⟨hleast, hgreatest⟩

theorem readAll_window_lateFirst :
    ∃ n, ∀ passes calls reads, n ≤ passes → n ≤ calls → n ≤ reads →
      RecordReader.readAll Wire.protobuf true 0 1 passes calls reads
          (RecordReader.openFile Wire.protobuf (lateFirst.bytes Wire.protobuf)).reset =
        some (((lateFirst.messages.takeWhile (·.time ≤ 1)).filter (0 ≤ ·.time)).map
          RecordMessage.of) :=
  readAll_window Wire.protobuf_lawful lateFirst_wellFormed .opened true 0 1

/-- The message of time `1` is in the window `[0, 1]` and is not handed
    out. -/
theorem readAll_window_stopsEarly :
    ¬ ∀ (f : PartFile), f.WellFormed Wire.protobuf → ∀ (flushMode : Bool) (b e : UInt64),
      ∃ n, ∀ passes calls reads, n ≤ passes → n ≤ calls → n ≤ reads →
        RecordReader.readAll Wire.protobuf flushMode b e passes calls reads
            (RecordReader.openFile Wire.protobuf (f.bytes Wire.protobuf)).reset =
          some ((f.messages.filter fun m => b ≤ m.time ∧ m.time ≤ e).map RecordMessage.of) := by
  intro h
  obtain ⟨n, hall⟩ := h lateFirst lateFirst_wellFormed true 0 1
  obtain ⟨n', hwindow⟩ := lateFirst_wellFormed.readAll_reset Wire.protobuf_lawful .opened true 0 1
  let m := max n n'
  have heq := hall m m m (le_max_left _ _) (le_max_left _ _) (le_max_left _ _)
  rw [hwindow m m m (le_max_right _ _) (le_max_right _ _) (le_max_right _ _)] at heq
  exact absurd heq (by decide)

end CyberRT.Record
