import CyberRT.Framework.Bytes

/-! # Address spaces

    The memory of a 64-bit little-endian machine, byte by byte, the words in
    it and the stacks that grow downward in it.

    Addresses are taken modulo `2 ^ 64`, so a stretch of memory is given by
    its first address and its length, and whether an address lies in it is
    read off the distance to the first one. -/

namespace CyberRT.Framework

/-! ## Section 1: Stretches of memory -/

/-- What each address holds. -/
abbrev AddressSpace : Type := BitVec 64 → UInt8

/-- `x` is one of the `n` addresses from `a` on. -/
def Within (a : BitVec 64) (n : Nat) (x : BitVec 64) : Prop := (x - a).toNat < n

instance (a : BitVec 64) (n : Nat) (x : BitVec 64) : Decidable (Within a n x) :=
  inferInstanceAs (Decidable (_ < _))

/-- The `n` addresses from `a` on are among the `k` from `b` on. -/
def Inside (a : BitVec 64) (n : Nat) (b : BitVec 64) (k : Nat) : Prop := (a - b).toNat + n ≤ k

/-- No address is among the `n` from `a` on and the `k` from `b` on. -/
def Apart (a : BitVec 64) (n : Nat) (b : BitVec 64) (k : Nat) : Prop :=
  ∀ x, Within a n x → ¬ Within b k x

section stretches
variable {a b c x : BitVec 64} {n k l : Nat}

theorem Inside.within (h : Inside a n b k) (hx : Within a n x) : Within b k x := by
  unfold Inside at h
  unfold Within at hx ⊢
  have hle : (x - b).toNat ≤ (x - a).toNat + (a - b).toNat := by
    have hsum : x - b = (x - a) + (a - b) := by bv_omega
    rw [hsum, BitVec.toNat_add]
    exact Nat.mod_le _ _
  omega

theorem Inside.trans (h₁ : Inside a n b k) (h₂ : Inside b k c l) : Inside a n c l := by
  unfold Inside at *
  have hle : (a - c).toNat ≤ (a - b).toNat + (b - c).toNat := by
    have hsum : a - c = (a - b) + (b - c) := by bv_omega
    rw [hsum, BitVec.toNat_add]
    exact Nat.mod_le _ _
  omega

theorem Apart.symm (h : Apart a n b k) : Apart b k a n := fun x hb ha => h x ha hb

theorem Apart.inside (h : Apart b k c l) (ha : Inside a n b k) : Apart a n c l :=
  fun x hx => h x (ha.within hx)

theorem Apart.inside_right (h : Apart c l b k) (ha : Inside a n b k) : Apart c l a n :=
  (h.symm.inside ha).symm

end stretches

namespace AddressSpace

/-! ## Section 2: Bytes -/

/-- The `n` bytes from `a` on. -/
def read (m : AddressSpace) (a : BitVec 64) (n : Nat) : List UInt8 :=
  (List.range n).map fun i => m (a + BitVec.ofNat 64 i)

/-- The bytes `bs` are stored from `a` on. -/
def write (m : AddressSpace) (a : BitVec 64) (bs : List UInt8) : AddressSpace := fun x =>
  if h : (x - a).toNat < bs.length then bs[(x - a).toNat] else m x

/-- Two memories hold the same from `a` on for `n` bytes. -/
def Same (m m' : AddressSpace) (a : BitVec 64) (n : Nat) : Prop :=
  ∀ x, Within a n x → m' x = m x

section bytes
variable {m m' m'' : AddressSpace} {a b : BitVec 64} {bs : List UInt8} {n k : Nat}

theorem Same.refl (m : AddressSpace) (a : BitVec 64) (n : Nat) : Same m m a n := fun _ _ => rfl

theorem Same.trans (h₁ : Same m m' a n) (h₂ : Same m' m'' a n) : Same m m'' a n :=
  fun x hx => (h₂ x hx).trans (h₁ x hx)

theorem Same.inside (h : Same m m' b k) (ha : Inside a n b k) : Same m m' a n :=
  fun x hx => h x (ha.within hx)

theorem read_length : (m.read a n).length = n := by
  rw [read, List.length_map, List.length_range]

theorem read_same (h : Same m m' a n) (hn : n ≤ 2 ^ 64) : m'.read a n = m.read a n := by
  refine List.map_congr_left fun i hi => h _ ?_
  have hi' : i < n := List.mem_range.mp hi
  unfold Within
  bv_omega

theorem write_of_not_within {x : BitVec 64} (h : ¬ Within a bs.length x) :
    m.write a bs x = m x := dif_neg h

/-- Bytes after a `memset` to 0. -/
theorem write_zero {x : BitVec 64} (h : Within a n x) :
    m.write a (List.replicate n 0) x = 0 := by
  have hlt : (x - a).toNat < (List.replicate n (0 : UInt8)).length := by
    rw [List.length_replicate]
    exact h
  rw [write, dif_pos hlt, List.getElem_replicate]

theorem same_write (h : Apart a bs.length b k) : Same m (m.write a bs) b k :=
  fun x hx => write_of_not_within (h.symm x hx)

theorem read_write (m : AddressSpace) (a : BitVec 64) (bs : List UInt8) (h : bs.length ≤ 2 ^ 64) :
    (m.write a bs).read a bs.length = bs := by
  refine List.ext_getElem read_length fun i hi hi' => ?_
  have hdist : (a + BitVec.ofNat 64 i - a).toNat = i := by bv_omega
  simp only [read, write, List.getElem_map, List.getElem_range, hdist, hi', ↓reduceDIte]

end bytes

/-! ## Section 3: Words -/

/-- The word at `a`. -/
def load (m : AddressSpace) (a : BitVec 64) : BitVec 64 := BitVec.ofNat 64 (ofLeBytes (m.read a 8))

/-- The word `w` is stored at `a`. -/
def store (m : AddressSpace) (a w : BitVec 64) : AddressSpace := m.write a (leBytes 8 w.toNat)

section words
variable {m m' : AddressSpace} {a b w : BitVec 64} {n k : Nat}

theorem load_same (h : Same m m' a 8) : m'.load a = m.load a := by
  rw [load, load, read_same h (by decide)]

@[simp] theorem load_store (m : AddressSpace) (a w : BitVec 64) : (m.store a w).load a = w := by
  have hread : (m.store a w).read a 8 = leBytes 8 w.toNat := by
    have h := read_write m a (leBytes 8 w.toNat) (by rw [leBytes_length]; decide)
    rwa [leBytes_length] at h
  rw [load, hread, ofLeBytes_leBytes_of_lt w.isLt, BitVec.ofNat_toNat, BitVec.setWidth_eq]

theorem same_store (h : Apart a 8 b k) : Same m (m.store a w) b k :=
  same_write (by rwa [leBytes_length])

theorem load_store_of_apart (h : Apart a 8 b 8) : (m.store a w).load b = m.load b :=
  load_same (same_store h)

/-- A word of cleared bytes. -/
theorem load_zero (h : ∀ x, Within a 8 x → m x = 0) : m.load a = 0 := by
  have hread : m.read a 8 = List.replicate 8 0 := by
    refine List.eq_replicate_iff.mpr ⟨read_length, fun b hb => ?_⟩
    obtain ⟨i, hi, rfl⟩ := List.mem_map.mp hb
    have hi' : i < 8 := List.mem_range.mp hi
    refine h _ ?_
    unfold Within
    bv_omega
  rw [load, hread]
  rfl

end words

/-! ## Section 4: Stacks -/

/-- The words `ws` are pushed on the stack whose top is `sp`. -/
def pushes (m : AddressSpace) (sp : BitVec 64) : List (BitVec 64) → AddressSpace
  | []      => m
  | w :: ws => pushes (m.store (sp - 8) w) (sp - 8) ws

/-- The `n` words a stack whose top is `sp` gives, in turn. -/
def pops (m : AddressSpace) (sp : BitVec 64) : Nat → List (BitVec 64)
  | 0     => []
  | n + 1 => m.load sp :: pops m (sp + 8) n

section pushed
variable {m m' : AddressSpace} {sp a : BitVec 64} {ws : List (BitVec 64)} {n k : Nat}

@[simp] theorem pops_length (m : AddressSpace) (sp : BitVec 64) (n : Nat) :
    (m.pops sp n).length = n := by
  induction n generalizing sp with
  | zero      => rfl
  | succ n ih => rw [pops, List.length_cons, ih]

/-- The stack holds what it held while its bytes are the same. -/
theorem pops_same (h : Same m m' sp (8 * n)) (hn : 8 * n ≤ 2 ^ 64) :
    m'.pops sp n = m.pops sp n := by
  induction n generalizing sp with
  | zero => rfl
  | succ n ih =>
    have hfirst : Inside sp 8 sp (8 * (n + 1)) := by unfold Inside; bv_omega
    have hrest : Inside (sp + 8) (8 * n) sp (8 * (n + 1)) := by unfold Inside; bv_omega
    rw [pops, pops, load_same (h.inside hfirst), ih (h.inside hrest) (by omega)]

/-- More words, deeper in the stack. -/
theorem pops_add (m : AddressSpace) (sp : BitVec 64) (n k : Nat) :
    m.pops sp (n + k) = m.pops sp n ++ m.pops (sp + BitVec.ofNat 64 (8 * n)) k := by
  induction n generalizing sp with
  | zero => simp [pops]
  | succ n ih =>
    have hnext : sp + 8 + BitVec.ofNat 64 (8 * n) = sp + BitVec.ofNat 64 (8 * (n + 1)) := by
      bv_omega
    rw [Nat.add_right_comm, pops, pops, ih, hnext, List.cons_append]

/-- Pushing changes the bytes below the top only. -/
theorem same_pushes (h : Apart (sp - BitVec.ofNat 64 (8 * ws.length)) (8 * ws.length) a k)
    (hws : 8 * ws.length ≤ 2 ^ 64) : Same m (m.pushes sp ws) a k := by
  induction ws generalizing m sp with
  | nil => exact Same.refl m a k
  | cons w ws ih =>
    simp only [List.length_cons] at h hws
    have hword : Inside (sp - 8) 8 (sp - BitVec.ofNat 64 (8 * (ws.length + 1)))
        (8 * (ws.length + 1)) := by
      unfold Inside
      bv_omega
    have hnext : sp - 8 - BitVec.ofNat 64 (8 * ws.length) =
        sp - BitVec.ofNat 64 (8 * (ws.length + 1)) := by bv_omega
    have hrest : Inside (sp - BitVec.ofNat 64 (8 * (ws.length + 1))) (8 * ws.length)
        (sp - BitVec.ofNat 64 (8 * (ws.length + 1))) (8 * (ws.length + 1)) := by
      unfold Inside
      bv_omega
    rw [← hnext] at hrest
    exact (same_store (h.inside hword)).trans (ih (by rw [hnext] at hrest ⊢; exact h.inside hrest)
      (by omega))

/-- What was pushed is popped in the opposite order. -/
theorem pops_pushes (m : AddressSpace) (sp : BitVec 64) (ws : List (BitVec 64))
    (hws : 8 * ws.length ≤ 2 ^ 64) :
    (m.pushes sp ws).pops (sp - BitVec.ofNat 64 (8 * ws.length)) ws.length = ws.reverse := by
  induction ws generalizing m sp with
  | nil => rfl
  | cons w ws ih =>
    simp only [List.length_cons] at hws ⊢
    have hnext : sp - 8 - BitVec.ofNat 64 (8 * ws.length) =
        sp - BitVec.ofNat 64 (8 * (ws.length + 1)) := by bv_omega
    have htop : sp - BitVec.ofNat 64 (8 * (ws.length + 1)) + BitVec.ofNat 64 (8 * ws.length) =
        sp - 8 := by bv_omega
    have hword : Apart (sp - 8 - BitVec.ofNat 64 (8 * ws.length)) (8 * ws.length) (sp - 8) 8 := by
      intro x hx hx'
      unfold Within at hx hx'
      bv_omega
    have hrest := ih (m.store (sp - 8) w) (sp - 8) (by omega)
    rw [hnext] at hrest
    rw [pops_add, pushes, hrest, htop, List.reverse_cons]
    have hload : ((m.store (sp - 8) w).pushes (sp - 8) ws).load (sp - 8) = w := by
      rw [load_same (same_pushes hword (by omega)), load_store]
    rw [pops, pops, hload]

/-- Words of cleared bytes. -/
theorem pops_zero (h : ∀ x, Within sp (8 * n) x → m x = 0) (hn : 8 * n ≤ 2 ^ 64) :
    m.pops sp n = List.replicate n 0 := by
  induction n generalizing sp with
  | zero => rfl
  | succ n ih =>
    have hfirst : Inside sp 8 sp (8 * (n + 1)) := by unfold Inside; bv_omega
    have hrest : Inside (sp + 8) (8 * n) sp (8 * (n + 1)) := by unfold Inside; bv_omega
    rw [pops, load_zero fun x hx => h x (hfirst.within hx),
      ih (fun x hx => h x (hrest.within hx)) (by omega), List.replicate_succ]

end pushed

end AddressSpace

end CyberRT.Framework
