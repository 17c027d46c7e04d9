import Mathlib.Data.List.TakeDrop

/-! # Checked buffers

    The bytes behind a pointer, as far as they may be accessed. A read or a
    write outside of them fails, so an operation that does not fail has
    stayed inside. -/

namespace CyberRT.Framework.Buffer

variable {buf buf' as bs : List UInt8} {off i len : Nat}

/-! ## Section 1: Reading and writing -/

/-- The `len` bytes at `off`. -/
def read (buf : List UInt8) (off len : Nat) : Option (List UInt8) :=
  if off + len ≤ buf.length then some ((buf.drop off).take len) else none

/-- The bytes `bs` are copied to `off`. -/
def write (buf : List UInt8) (off : Nat) (bs : List UInt8) : Option (List UInt8) :=
  if off + bs.length ≤ buf.length then
    some (buf.take off ++ bs ++ buf.drop (off + bs.length))
  else none

theorem read_of_le (h : off + len ≤ buf.length) :
    read buf off len = some ((buf.drop off).take len) := if_pos h

theorem write_of_le (h : off + bs.length ≤ buf.length) :
    write buf off bs = some (buf.take off ++ bs ++ buf.drop (off + bs.length)) := if_pos h

theorem write_eq_none (h : buf.length < off + bs.length) : write buf off bs = none :=
  if_neg (Nat.not_le_of_lt h)

/-- What a write that succeeds has done. -/
theorem write_eq_some (h : write buf off bs = some buf') :
    off + bs.length ≤ buf.length ∧ buf' = buf.take off ++ bs ++ buf.drop (off + bs.length) := by
  unfold write at h
  split at h
  · next hle => exact ⟨hle, (Option.some.inj h).symm⟩
  · cases h

theorem length_of_write (h : write buf off bs = some buf') : buf'.length = buf.length := by
  obtain ⟨hle, rfl⟩ := write_eq_some h
  simp only [List.length_append, List.length_take, List.length_drop]
  omega

/-- Bytes between others. -/
theorem read_append (as bs cs : List UInt8) :
    read (as ++ bs ++ cs) as.length bs.length = some bs := by
  rw [read_of_le, List.append_assoc, List.drop_left, List.take_left]
  simp only [List.length_append]
  omega

/-- **Round trip**: what was written is read back. -/
theorem read_of_write (h : write buf off bs = some buf') : read buf' off bs.length = some bs := by
  obtain ⟨hle, rfl⟩ := write_eq_some h
  have hfront : (buf.take off).length = off := List.length_take_of_le (by omega)
  have hread := read_append (buf.take off) bs (buf.drop (off + bs.length))
  rwa [hfront] at hread

/-- **Frame**: bytes apart from those written stay. -/
theorem read_of_write_of_disjoint (h : write buf off bs = some buf')
    (hdisjoint : i + len ≤ off ∨ off + bs.length ≤ i) : read buf' i len = read buf i len := by
  have hlen := length_of_write h
  obtain ⟨hle, rfl⟩ := write_eq_some h
  unfold read
  rw [hlen]
  split
  · congr 1
    apply List.ext_getElem?
    intro j
    simp only [List.getElem?_take, List.getElem?_drop, List.getElem?_append, List.length_append,
      List.length_take]
    have hmin : min off buf.length = off := by omega
    rw [hmin]
    by_cases hj : j < len
    · rcases hdisjoint with hbefore | hbehind
      · have hfront : i + j < off + bs.length := by omega
        have hin : i + j < off := by omega
        simp [hj, hfront, hin]
      · have hback : ¬ i + j < off + bs.length := by omega
        have hpos : off + bs.length + (i + j - (off + bs.length)) = i + j := by omega
        simp [hj, hback, hpos]
    · simp [hj]
  · rfl

/-- Bytes read in two parts. -/
theorem read_split (h : read buf off (as.length + bs.length) = some (as ++ bs)) :
    read buf off as.length = some as ∧ read buf (off + as.length) bs.length = some bs := by
  unfold read at h
  split at h
  · next hle =>
    have hbytes := Option.some.inj h
    constructor
    · rw [read_of_le (by omega)]
      have htake := congrArg (List.take as.length) hbytes
      rw [List.take_take, Nat.min_eq_left (Nat.le_add_right _ _), List.take_left] at htake
      rw [htake]
    · rw [read_of_le (by omega)]
      have hdrop := congrArg (List.drop as.length) hbytes
      rw [List.drop_take, Nat.add_sub_cancel_left, List.drop_drop, List.drop_left] at hdrop
      rw [hdrop]
  · cases h

/-- Bytes written in two parts. -/
theorem write_write (buf : List UInt8) (off : Nat) (as bs : List UInt8) :
    (write buf off as).bind (fun buf => write buf (off + as.length) bs) =
      write buf off (as ++ bs) := by
  have hsum : (as ++ bs).length = as.length + bs.length := List.length_append
  by_cases hle : off + as.length ≤ buf.length
  · have hfront : (buf.take off ++ as).length = off + as.length := by
      rw [List.length_append, List.length_take_of_le (by omega)]
    have hlen : (buf.take off ++ as ++ buf.drop (off + as.length)).length = buf.length := by
      rw [List.length_append, hfront, List.length_drop]
      omega
    rw [write_of_le hle, Option.bind_some]
    by_cases hboth : off + (as ++ bs).length ≤ buf.length
    · rw [write_of_le hboth, write_of_le (by omega), List.take_left' hfront, ← List.drop_drop,
        List.drop_left' hfront, List.drop_drop, hsum, List.append_assoc _ as, Nat.add_assoc]
    · have hover : buf.length < off + (as ++ bs).length := by omega
      rw [write_eq_none hover, write_eq_none (by omega)]
  · rw [write_eq_none (by omega), write_eq_none (by omega)]
    rfl

/-! ## Section 2: C strings -/

/-- The C string at the front. Its reader goes on to the first zero byte. -/
def cString : List UInt8 → Option (List UInt8)
  | []      => none
  | b :: bs => if b = 0 then some [] else (cString bs).map (b :: ·)

/-- **No terminator**: the reader leaves the buffer. -/
theorem cString_eq_none_iff : cString buf = none ↔ 0 ∉ buf := by
  induction buf with
  | nil => simp [cString]
  | cons b buf ih =>
    by_cases hb : b = 0
    · simp [cString, hb]
    · simp [cString, hb, ih, Ne.symm hb]

theorem cString_append (h : 0 ∉ bs) : cString (bs ++ 0 :: buf) = some bs := by
  induction bs with
  | nil => simp [cString]
  | cons b bs ih =>
    rw [List.mem_cons, not_or] at h
    have hb : b ≠ 0 := fun heq => h.1 heq.symm
    simp [cString, hb, ih h.2]

end CyberRT.Framework.Buffer
