import Mathlib.Data.Nat.Digits.Defs

/-! # Bytes of numbers

    Fixed-width numbers as the bytes a `memcpy` of them leaves in memory on
    a little-endian machine, and back; the same in network order, and arrays
    of a fixed number of bytes. -/

namespace CyberRT.Framework

/-- The low `k` bytes of `x`, lowest first. -/
def leBytes : Nat → Nat → List UInt8
  | 0,     _ => []
  | k + 1, x => UInt8.ofNat x :: leBytes k (x / 256)

/-- The number whose bytes, lowest first, are `bs`. -/
def ofLeBytes (bs : List UInt8) : Nat := Nat.ofDigits 256 (bs.map UInt8.toNat)

@[simp] theorem leBytes_length (k x : Nat) : (leBytes k x).length = k := by
  induction k generalizing x with
  | zero => rfl
  | succ k ih => rw [leBytes, List.length_cons, ih]

/-- Reading back the low `k` bytes gives the number modulo `256 ^ k`. -/
theorem ofLeBytes_leBytes (k x : Nat) : ofLeBytes (leBytes k x) = x % 256 ^ k := by
  induction k generalizing x with
  | zero => simp [leBytes, ofLeBytes, Nat.mod_one]
  | succ k ih =>
    have hstep :
        ofLeBytes (leBytes (k + 1) x) = x % 256 + 256 * ofLeBytes (leBytes k (x / 256)) := by
      simp [leBytes, ofLeBytes, Nat.ofDigits_cons]
    rw [hstep, ih, Nat.pow_succ, Nat.mul_comm (256 ^ k), Nat.mod_mul]

theorem ofLeBytes_leBytes_of_lt {k x : Nat} (h : x < 256 ^ k) : ofLeBytes (leBytes k x) = x := by
  rw [ofLeBytes_leBytes, Nat.mod_eq_of_lt h]

/-- Every string of bytes is the bytes of a number. -/
theorem leBytes_ofLeBytes {k : Nat} {bs : List UInt8} (h : bs.length = k) :
    leBytes k (ofLeBytes bs) = bs := by
  induction bs generalizing k with
  | nil =>
    rw [← h]
    rfl
  | cons b bs ih =>
    have hcons : ofLeBytes (b :: bs) = b.toNat + 256 * ofLeBytes bs := by
      simp [ofLeBytes, Nat.ofDigits_cons]
    have hlt : b.toNat < 256 := b.toNat_lt
    have hhead : UInt8.ofNat (b.toNat + 256 * ofLeBytes bs) = b := by
      apply UInt8.toNat_inj.mp
      rw [UInt8.toNat_ofNat']
      omega
    have htail : (b.toNat + 256 * ofLeBytes bs) / 256 = ofLeBytes bs := by omega
    rw [← h, List.length_cons, leBytes, hcons, hhead, htail, ih rfl]

theorem ofLeBytes_lt {k : Nat} {bs : List UInt8} (h : bs.length = k) : ofLeBytes bs < 256 ^ k := by
  rw [← leBytes_ofLeBytes h, ofLeBytes_leBytes]
  exact Nat.mod_lt _ (Nat.pow_pos (by decide))

/-! ## Network order -/

/-- The low `k` bytes of `x`, highest first. -/
def beBytes (k x : Nat) : List UInt8 := (leBytes k x).reverse

/-- The number whose bytes, highest first, are `bs`. -/
def ofBeBytes (bs : List UInt8) : Nat := ofLeBytes bs.reverse

@[simp] theorem beBytes_length (k x : Nat) : (beBytes k x).length = k := by
  rw [beBytes, List.length_reverse, leBytes_length]

theorem ofBeBytes_beBytes_of_lt {k x : Nat} (h : x < 256 ^ k) : ofBeBytes (beBytes k x) = x := by
  rw [ofBeBytes, beBytes, List.reverse_reverse, ofLeBytes_leBytes_of_lt h]

/-! ## Arrays -/

/-- A `char` array with `n` elements. -/
abbrev CharArray (n : Nat) : Type := { bs : List UInt8 // bs.length = n }

@[simp] theorem CharArray.length_eq {n : Nat} (a : CharArray n) : a.1.length = n := a.2

/-- The array after a `memset` to 0. -/
def CharArray.zero (n : Nat) : CharArray n := ⟨List.replicate n 0, List.length_replicate⟩

end CyberRT.Framework
