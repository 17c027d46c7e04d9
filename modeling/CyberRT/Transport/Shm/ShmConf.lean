import Mathlib.Algebra.GroupWithZero.Nat
import Mathlib.Logic.Function.Basic

/-! # Shared-memory configuration

    `ShmConf` cuts the message sizes into six tiers. The tier of a segment
    fixes the size of its block buffers, the number of its blocks and the
    size of the mapping, and with them where every header and buffer lies. -/

namespace CyberRT.Transport.Shm

/-! ## Section 1: Tiers -/

def extraSize : Nat := 1024 * 4
def stateSize : Nat := 1024
def blockSize : Nat := 1024
def messageInfoSize : Nat := 1024

def messageSize16K : Nat := 1024 * 16
def messageSize128K : Nat := 1024 * 128
def messageSize1M : Nat := 1024 * 1024
def messageSize8M : Nat := 1024 * 1024 * 8
def messageSize16M : Nat := 1024 * 1024 * 16
def messageSizeMore : Nat := 1024 * 1024 * 32

def getCeilingMessageSize (realMsgSize : Nat) : Nat :=
  if realMsgSize ≤ messageSize16K then messageSize16K
  else if realMsgSize ≤ messageSize128K then messageSize128K
  else if realMsgSize ≤ messageSize1M then messageSize1M
  else if realMsgSize ≤ messageSize8M then messageSize8M
  else if realMsgSize ≤ messageSize16M then messageSize16M
  else messageSizeMore

def getBlockBufSize (ceilingMsgSize : Nat) : Nat := ceilingMsgSize + messageInfoSize

/-- An unknown ceiling is logged and has no block. -/
def getBlockNum (ceilingMsgSize : Nat) : Nat :=
  if ceilingMsgSize = messageSize16K then 512
  else if ceilingMsgSize = messageSize128K then 128
  else if ceilingMsgSize = messageSize1M then 64
  else if ceilingMsgSize = messageSize8M then 32
  else if ceilingMsgSize = messageSize16M then 16
  else if ceilingMsgSize = messageSizeMore then 8
  else 0

/-! ## Section 2: Configurations -/

/-- A configuration, which only `Update` computes. -/
structure ShmConf where
  ceilingMsgSize : Nat
  blockBufSize   : Nat
  blockNum       : Nat
  managedShmSize : Nat
  ceiling_eq     : ∃ realMsgSize, ceilingMsgSize = getCeilingMessageSize realMsgSize
  bufSize_eq     : blockBufSize = getBlockBufSize ceilingMsgSize
  blockNum_eq    : blockNum = getBlockNum ceilingMsgSize
  managed_eq     : managedShmSize = extraSize + stateSize + (blockSize + blockBufSize) * blockNum
  deriving DecidableEq

namespace ShmConf

/-- `Update`: the configuration depends on nothing but the size it is given. -/
def update (realMsgSize : Nat) : ShmConf where
  ceilingMsgSize := getCeilingMessageSize realMsgSize
  blockBufSize   := getBlockBufSize (getCeilingMessageSize realMsgSize)
  blockNum       := getBlockNum (getCeilingMessageSize realMsgSize)
  managedShmSize := extraSize + stateSize +
    (blockSize + getBlockBufSize (getCeilingMessageSize realMsgSize)) *
      getBlockNum (getCeilingMessageSize realMsgSize)
  ceiling_eq     := ⟨realMsgSize, rfl⟩
  bufSize_eq     := rfl
  blockNum_eq    := rfl
  managed_eq     := rfl

/-- A default-constructed configuration. -/
def new : ShmConf := update messageSize16K

/-- The ceiling tells the whole configuration. -/
theorem eq_of_ceiling {c d : ShmConf} (h : c.ceilingMsgSize = d.ceilingMsgSize) : c = d := by
  have hbuf : c.blockBufSize = d.blockBufSize := by rw [c.bufSize_eq, d.bufSize_eq, h]
  have hnum : c.blockNum = d.blockNum := by rw [c.blockNum_eq, d.blockNum_eq, h]
  have hmanaged : c.managedShmSize = d.managedShmSize := by
    rw [c.managed_eq, d.managed_eq, hbuf, hnum]
  cases c
  cases d
  simp_all

/-- The six ceilings. -/
theorem ceiling_cases (realMsgSize : Nat) :
    getCeilingMessageSize realMsgSize = messageSize16K ∨
    getCeilingMessageSize realMsgSize = messageSize128K ∨
    getCeilingMessageSize realMsgSize = messageSize1M ∨
    getCeilingMessageSize realMsgSize = messageSize8M ∨
    getCeilingMessageSize realMsgSize = messageSize16M ∨
    getCeilingMessageSize realMsgSize = messageSizeMore := by
  unfold getCeilingMessageSize
  split
  · exact Or.inl rfl
  split
  · exact Or.inr (Or.inl rfl)
  split
  · exact Or.inr (Or.inr (Or.inl rfl))
  split
  · exact Or.inr (Or.inr (Or.inr (Or.inl rfl)))
  split
  · exact Or.inr (Or.inr (Or.inr (Or.inr (Or.inl rfl))))
  · exact Or.inr (Or.inr (Or.inr (Or.inr (Or.inr rfl))))

/-- A ceiling is its own ceiling: reading back a stored ceiling recovers
    the configuration it was stored by. -/
theorem update_ceiling (c : ShmConf) : update c.ceilingMsgSize = c := by
  obtain ⟨realMsgSize, hreal⟩ := c.ceiling_eq
  apply eq_of_ceiling
  show getCeilingMessageSize c.ceilingMsgSize = c.ceilingMsgSize
  rw [hreal]
  rcases ceiling_cases realMsgSize with h | h | h | h | h | h <;> rw [h] <;> rfl

theorem blockNum_pos (c : ShmConf) : 0 < c.blockNum := by
  obtain ⟨realMsgSize, hreal⟩ := c.ceiling_eq
  rw [c.blockNum_eq, hreal]
  rcases ceiling_cases realMsgSize with h | h | h | h | h | h <;> rw [h] <;> decide

/-- Every number of blocks is a power of two, which the mask of the search
    relies on. -/
theorem blockNum_two_pow (c : ShmConf) : ∃ k, k < 32 ∧ c.blockNum = 2 ^ k := by
  obtain ⟨realMsgSize, hreal⟩ := c.ceiling_eq
  rw [c.blockNum_eq, hreal]
  rcases ceiling_cases realMsgSize with h | h | h | h | h | h <;> rw [h]
  · exact ⟨9, by decide⟩
  · exact ⟨7, by decide⟩
  · exact ⟨6, by decide⟩
  · exact ⟨5, by decide⟩
  · exact ⟨4, by decide⟩
  · exact ⟨3, by decide⟩

theorem blockNum_lt (c : ShmConf) : c.blockNum < 2 ^ 32 := by
  obtain ⟨k, hk, hpow⟩ := c.blockNum_two_pow
  rw [hpow]
  exact Nat.pow_lt_pow_right (by decide) hk

/-- Up to the largest tier the ceiling covers the size it was asked for. -/
theorem le_ceiling {realMsgSize : Nat} (h : realMsgSize ≤ messageSizeMore) :
    realMsgSize ≤ getCeilingMessageSize realMsgSize := by
  unfold getCeilingMessageSize
  split
  · assumption
  split
  · assumption
  split
  · assumption
  split
  · assumption
  split
  · assumption
  · exact h

theorem more_le_ceiling {realMsgSize : Nat} (h : messageSizeMore < realMsgSize) :
    getCeilingMessageSize realMsgSize = messageSizeMore := by
  unfold messageSizeMore at h
  unfold getCeilingMessageSize
  rw [if_neg (by unfold messageSize16K; omega), if_neg (by unfold messageSize128K; omega),
    if_neg (by unfold messageSize1M; omega), if_neg (by unfold messageSize8M; omega),
    if_neg (by unfold messageSize16M; omega)]

/-! ## Section 3: Layout of a segment -/

/-- `sizeof(State)` and `sizeof(Block)` on a 64-bit machine. -/
def sizeofState : Nat := 32
def sizeofBlock : Nat := 32

/-- Where the header of block `i` lies in the mapping. -/
def blockOffset (i : Nat) : Nat := sizeofState + i * sizeofBlock

/-- Where the buffer of block `i` lies in the mapping. -/
def bufOffset (c : ShmConf) (i : Nat) : Nat :=
  sizeofState + c.blockNum * sizeofBlock + i * c.blockBufSize

/-- The block in whose buffer the mapping has the byte at `offset`. -/
def blockAt (c : ShmConf) (offset : Nat) : Nat := (offset - c.bufOffset 0) / c.blockBufSize

theorem blockAt_bufOffset (c : ShmConf) {i k : Nat} (h : k < c.blockBufSize) :
    c.blockAt (c.bufOffset i + k) = i := by
  have hoffset : c.bufOffset i + k - c.bufOffset 0 = k + c.blockBufSize * i := by
    unfold bufOffset
    rw [Nat.mul_comm c.blockBufSize]
    omega
  rw [blockAt, hoffset, Nat.add_mul_div_left k i (by omega), Nat.div_eq_of_lt h, Nat.zero_add]

theorem lt_blockBufSize (c : ShmConf) : messageSize16K < c.blockBufSize := by
  obtain ⟨realMsgSize, hreal⟩ := c.ceiling_eq
  rw [c.bufSize_eq, hreal]
  rcases ceiling_cases realMsgSize with h | h | h | h | h | h <;> rw [h] <;> decide

/-- The header that an index of the smallest tier names in a segment with
    fewer blocks lies in the buffer of the first block. -/
theorem blockAt_blockOffset (c : ShmConf) {index : Nat} (h : c.blockNum ≤ index)
    (hlt : index < getBlockNum messageSize16K) : c.blockAt (blockOffset index) = 0 := by
  have hbehind : blockOffset index = c.bufOffset 0 + (index - c.blockNum) * sizeofBlock := by
    have hsplit : index * sizeofBlock =
        c.blockNum * sizeofBlock + (index - c.blockNum) * sizeofBlock := by
      rw [← Nat.add_mul]
      congr 1
      omega
    unfold blockOffset bufOffset
    omega
  have hsize := c.lt_blockBufSize
  have hnum : getBlockNum messageSize16K = 512 := rfl
  rw [hbehind]
  apply c.blockAt_bufOffset
  unfold messageSize16K at hsize
  unfold sizeofBlock
  omega

/-- Every buffer lies inside the mapping. -/
theorem bufOffset_add_le (c : ShmConf) {i : Nat} (h : i < c.blockNum) :
    c.bufOffset i + c.blockBufSize ≤ c.managedShmSize := by
  have hnext : i * c.blockBufSize + c.blockBufSize ≤ c.blockNum * c.blockBufSize := by
    rw [← Nat.succ_mul]
    exact Nat.mul_le_mul_right _ h
  rw [c.managed_eq, Nat.add_mul, Nat.mul_comm blockSize, Nat.mul_comm c.blockBufSize]
  unfold bufOffset sizeofState sizeofBlock extraSize stateSize blockSize
  omega

/-- The buffers lie behind the headers. -/
theorem header_le_bufOffset (c : ShmConf) {i : Nat} (h : i < c.blockNum) (j : Nat) :
    blockOffset i + sizeofBlock ≤ c.bufOffset j := by
  have hnext : i * sizeofBlock + sizeofBlock ≤ c.blockNum * sizeofBlock := by
    rw [← Nat.succ_mul]
    exact Nat.mul_le_mul_right _ h
  unfold blockOffset bufOffset
  omega

/-- Buffers of distinct blocks do not overlap. -/
theorem bufOffset_disjoint (c : ShmConf) {i j : Nat} (h : i ≠ j) :
    c.bufOffset i + c.blockBufSize ≤ c.bufOffset j ∨
    c.bufOffset j + c.blockBufSize ≤ c.bufOffset i := by
  have hstep : ∀ a b, a < b → c.bufOffset a + c.blockBufSize ≤ c.bufOffset b := by
    intro a b hab
    have hmul : a * c.blockBufSize + c.blockBufSize ≤ b * c.blockBufSize := by
      rw [← Nat.succ_mul]
      exact Nat.mul_le_mul_right _ hab
    unfold bufOffset
    omega
  rcases Nat.lt_or_gt_of_ne h with hlt | hlt
  · exact Or.inl (hstep i j hlt)
  · exact Or.inr (hstep j i hlt)

end ShmConf

/-! ## Section 4: The search for a writable block -/

/-- The wrap of `GetNextWritableBlockIndex`: `try_idx &= block_num - 1`. -/
def wrapIndex (blockNum tryIdx : Nat) : Nat :=
  if tryIdx < blockNum then tryIdx else tryIdx &&& (blockNum - 1)

theorem wrapIndex_lt {blockNum : Nat} (h : 0 < blockNum) (tryIdx : Nat) :
    wrapIndex blockNum tryIdx < blockNum := by
  unfold wrapIndex
  split
  · assumption
  · have hle : tryIdx &&& (blockNum - 1) ≤ blockNum - 1 := Nat.and_le_right
    omega

/-- The mask is the remainder. -/
theorem wrapIndex_eq_mod (c : ShmConf) (tryIdx : Nat) :
    wrapIndex c.blockNum tryIdx = tryIdx % c.blockNum := by
  obtain ⟨k, -, hpow⟩ := c.blockNum_two_pow
  unfold wrapIndex
  split
  · next hlt => exact (Nat.mod_eq_of_lt hlt).symm
  · rw [hpow, Nat.and_two_pow_sub_one_eq_mod]

end CyberRT.Transport.Shm
