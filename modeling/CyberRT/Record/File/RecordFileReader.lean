import CyberRT.Record.RecordProto

/-! # The record file reader

    `RecordFileReader` reads the header, the index and the sections of a
    record file. What `ReadSection` finds where a section was written is the
    section. -/

namespace CyberRT.Record

open CyberRT.Framework

/-! ## Section 1: Sections -/

/-- A `Section` that was read: its enumerator, if it is one, and its size. -/
structure Section where
  type : Option SectionType
  size : Int

/-- Eight bytes read as an `int64_t`. -/
def toInt64 (n : Nat) : Int := if n ≤ int64Max then n else n - 2 ^ 64

def Section.ofBytes (bs : List UInt8) : Section where
  type := SectionType.ofValue (ofLeBytes (bs.take 4))
  size := toInt64 (ofLeBytes (bs.drop 8))

/-- `SetPosition`: `lseek` fails for a negative offset. -/
def setPosition (position : Int) (f : FileImage) : Bool × FileImage :=
  if position < 0 then (false, f) else (true, f.seek position.toNat)

/-- `ReadSection(Section*)`. -/
def readSection (f : FileImage) : Option Section × FileImage :=
  let (bs, f) := f.read sizeofSection
  if bs.length = sizeofSection then (some (.ofBytes bs), f) else (none, f)

def skipSection (size : Int) (f : FileImage) : FileImage :=
  if size > int64Max - f.pos then f else (setPosition (f.pos + size) f).2

/-- `ReadSection<T>(size, message)`, with the message left in `message`. -/
def readSectionOf {M : Type} (P : Protobuf) (c : Codec M) (size : Int) (message : M)
    (f : FileImage) : M × Bool × FileImage :=
  if size < -(intMax : Int) - 1 ∨ size > intMax then (message, false, f)
  else
    let (message, ok) := c.parse (P.view size f.rest)
    let f := f.seek (f.pos + P.taken size f.rest)
    if !ok then (message, false, f)
    else if (c.byteSize message : Int) ≠ size then (message, false, f)
    else (message, true, f)

/-! ## Section 2: The reader -/

structure RecordFileReader where
  file   : FileImage
  header : Header
  index  : Index

namespace RecordFileReader

variable (P : Protobuf) (r : RecordFileReader)

def reset : RecordFileReader :=
  { r with file := (setPosition (sizeofSection + headerLength) r.file).2 }

def readHeader : Bool × RecordFileReader :=
  match readSection r.file with
  | (none, f) => (false, { r with file := f })
  | (some sec, f) =>
    if sec.type ≠ some .header then (false, { r with file := f })
    else match readSectionOf P P.header sec.size r.header f with
      | (header, false, f) => (false, { r with header := header, file := f })
      | (header, true, f) =>
        (true, { r with
          header := header
          file   := (setPosition (sizeofSection + headerLength) f).2 })

/-- `Open` of a file that exists. -/
def openFile (bytes : List UInt8) : Bool × RecordFileReader :=
  readHeader P ⟨⟨bytes, 0⟩, .default, ⟨[]⟩⟩

def readIndex : Bool × RecordFileReader :=
  if !r.header.isComplete then (false, r)
  else match setPosition (toInt64 r.header.indexPosition.toNat) r.file with
    | (false, f) => (false, { r with file := f })
    | (true, f) =>
      match readSection f with
      | (none, f) => (false, { r with file := f })
      | (some sec, f) =>
        if sec.type ≠ some .index then (false, { r with file := f })
        else match readSectionOf P P.index sec.size r.index f with
          | (index, false, f) => (false, { r with index := index, file := f })
          | (index, true, f)  => (true, { r with index := index, file := f }.reset)

end RecordFileReader

/-! ## Section 3: Reading what was written -/

section reading
variable {P : Protobuf} {f : FileImage} {rest : List UInt8}

theorem toInt64_of_le {n : Nat} (h : n ≤ int64Max) : toInt64 n = n := if_pos h

theorem ofBytes_sectionStruct (t : SectionType) {size : Nat} (h : size ≤ int64Max) :
    Section.ofBytes (sectionStruct t size) = ⟨some t, size⟩ := by
  have htake : (sectionStruct t size).take 4 = leBytes 4 t.toNat := by
    rw [sectionStruct, List.append_assoc, List.take_left' (leBytes_length 4 _)]
  have hdrop : (sectionStruct t size).drop 8 = leBytes 8 size := by
    rw [sectionStruct, List.drop_left' (by simp)]
  have htype : t.toNat < 256 ^ 4 := Nat.lt_trans t.toNat_lt (by decide)
  have hsize : size < 256 ^ 8 := Nat.lt_of_le_of_lt h (by decide)
  unfold Section.ofBytes
  rw [htake, hdrop, ofLeBytes_leBytes_of_lt htype, ofLeBytes_leBytes_of_lt hsize,
    SectionType.ofValue_toNat, toInt64_of_le h]

/-- The struct in front of a section. -/
theorem readSection_of_rest {t : SectionType} {size : Nat} (h : size ≤ int64Max)
    (hrest : f.rest = sectionStruct t size ++ rest) :
    readSection f = (some ⟨some t, size⟩, f.seek (f.pos + sizeofSection)) := by
  have hread := FileImage.read_of_rest hrest
  rw [length_sectionStruct] at hread
  unfold readSection
  rw [hread]
  simp only [length_sectionStruct, if_true, ofBytes_sectionStruct t h]

/-- The message of a section. -/
theorem readSectionOf_of_rest {M : Type} (hP : P.Lawful) {c : Codec M} (hc : c.RoundTrip) (m m₀ : M)
    (hsize : c.byteSize m ≤ intMax) (hrest : f.rest = c.serialize m ++ rest) :
    readSectionOf P c (c.byteSize m) m₀ f =
      (m, true, f.seek (f.pos + P.taken (c.byteSize m) f.rest)) := by
  have hle : c.byteSize m ≤ f.rest.length := by
    rw [hrest, List.length_append]
    exact Nat.le_add_right _ _
  have hview : P.view (c.byteSize m) f.rest = c.serialize m := by
    rw [hP.view _ _ hle, hrest]
    exact List.take_left
  have hrange : ¬ ((c.byteSize m : Int) < -(intMax : Int) - 1 ∨ (c.byteSize m : Int) > intMax) := by
    omega
  unfold readSectionOf
  rw [if_neg hrange, hview, hc m]
  simp

/-- What is left after a message that is not empty. -/
theorem rest_after_message {M : Type} (hP : P.Lawful) {c : Codec M} {m : M}
    (hpos : 0 < c.byteSize m) (hrest : f.rest = c.serialize m ++ rest) :
    (f.seek (f.pos + P.taken (c.byteSize m) f.rest)).rest = rest := by
  have hle : c.byteSize m ≤ f.rest.length := by
    rw [hrest, List.length_append]
    exact Nat.le_add_right _ _
  rw [hP.taken _ _ hpos hle]
  exact FileImage.rest_seek_of_rest hrest

end reading

end CyberRT.Record
