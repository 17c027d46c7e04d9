import Mathlib.Data.List.TakeDrop

/-! # Files behind a descriptor

    A file as the bytes it holds and the offset of its one descriptor.
    `write` and `read` act at the offset and move it, `seek` sets it, also
    beyond the end.

    Two uses of such a file have rules of their own: appending, with the
    offset at the end throughout, and overwriting a prefix of equal length
    in place. -/

namespace CyberRT.Framework

structure FileImage where
  bytes : List UInt8
  pos   : Nat
  deriving DecidableEq

namespace FileImage

/-! ## Section 1: Operations -/

def seek (f : FileImage) (pos : Nat) : FileImage := { f with pos := pos }

/-- Write at the offset. A gap between the end and the offset reads as zeros. -/
def write (f : FileImage) (bs : List UInt8) : FileImage where
  bytes := f.bytes.takeD f.pos 0 ++ bs ++ f.bytes.drop (f.pos + bs.length)
  pos   := f.pos + bs.length

/-- The bytes from the offset to the end. -/
def rest (f : FileImage) : List UInt8 := f.bytes.drop f.pos

/-- Read `count` bytes, or as many as are left. -/
def read (f : FileImage) (count : Nat) : List UInt8 × FileImage :=
  (f.rest.take count, { f with pos := f.pos + (f.rest.take count).length })

/-- The offset is at the end. -/
def AtEnd (f : FileImage) : Prop := f.pos = f.bytes.length

/-! ## Section 2: Writing -/

@[simp] theorem seek_pos (f : FileImage) (pos : Nat) : (f.seek pos).pos = pos := rfl
@[simp] theorem seek_bytes (f : FileImage) (pos : Nat) : (f.seek pos).bytes = f.bytes := rfl

@[simp] theorem write_pos (f : FileImage) (bs : List UInt8) :
    (f.write bs).pos = f.pos + bs.length := rfl

/-- Two writes in a row are one. -/
theorem write_write (f : FileImage) (as bs : List UInt8) :
    (f.write as).write bs = f.write (as ++ bs) := by
  have hlen : (f.bytes.takeD f.pos 0 ++ as).length = f.pos + as.length := by simp
  have htake : (f.bytes.takeD f.pos 0 ++ as ++ f.bytes.drop (f.pos + as.length)).takeD
      (f.pos + as.length) 0 = f.bytes.takeD f.pos 0 ++ as := by
    rw [List.takeD_eq_take _ (by simp), ← hlen, List.take_left]
  have hdrop : (f.bytes.takeD f.pos 0 ++ as ++ f.bytes.drop (f.pos + as.length)).drop
      (f.pos + as.length + bs.length) = f.bytes.drop (f.pos + as.length + bs.length) := by
    rw [← hlen, ← List.drop_drop, List.drop_left, hlen, List.drop_drop]
  unfold write
  rw [htake, hdrop]
  simp [Nat.add_assoc]

/-- Writing at the end appends. -/
theorem write_bytes_of_atEnd {f : FileImage} (h : f.AtEnd) (bs : List UInt8) :
    (f.write bs).bytes = f.bytes ++ bs := by
  unfold write
  rw [h, List.takeD_eq_take _ (Nat.le_refl _), List.take_length]
  simp

theorem AtEnd.write {f : FileImage} (h : f.AtEnd) (bs : List UInt8) : (f.write bs).AtEnd := by
  unfold AtEnd
  rw [write_bytes_of_atEnd h, write_pos, h, List.length_append]

/-- Writing at the start replaces a prefix of the same length. -/
theorem write_bytes_of_start {f : FileImage} {old bs r : List UInt8} (h : f.bytes = old ++ r)
    (hlen : old.length = bs.length) : ((f.seek 0).write bs).bytes = bs ++ r := by
  unfold write
  simp [h, ← hlen]

/-- Writing at the start of an empty file. -/
theorem write_bytes_of_empty (bs : List UInt8) (pos : Nat) :
    (((⟨[], pos⟩ : FileImage).seek 0).write bs).bytes = bs := by
  simp [write]

/-! ## Section 3: Reading -/

@[simp] theorem read_bytes (f : FileImage) (count : Nat) : (f.read count).2.bytes = f.bytes := rfl

/-- What a read finds when the bytes from the offset are known. -/
theorem read_of_rest {f : FileImage} {as r : List UInt8} (h : f.rest = as ++ r) :
    f.read as.length = (as, f.seek (f.pos + as.length)) := by
  unfold read
  rw [h, List.take_left]
  rfl

/-- What is left when the offset moves over bytes that are known. -/
theorem rest_seek_of_rest {f : FileImage} {as r : List UInt8} (h : f.rest = as ++ r) :
    (f.seek (f.pos + as.length)).rest = r := by
  unfold rest at *
  rw [seek_pos, seek_bytes, ← List.drop_drop, h, List.drop_left]

theorem rest_seek_of_bytes {f : FileImage} {as r : List UInt8} (h : f.bytes = as ++ r) :
    (f.seek as.length).rest = r := by
  unfold rest
  rw [seek_pos, seek_bytes, h, List.drop_left]

end FileImage

end CyberRT.Framework
