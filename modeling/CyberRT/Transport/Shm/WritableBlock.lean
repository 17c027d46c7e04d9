import CyberRT.Framework.Loop
import CyberRT.Framework.Ring
import CyberRT.Transport.Shm.Block

/-! # The search for a writable block

    `GetNextWritableBlockIndex` probes the blocks from `wrote_num_` on until
    it has write-locked one. Its loop has no bound of its own. Here it runs
    alone: nothing else changes a lock meanwhile, and the weak exchange
    fails only on a block that is locked.

    The mask is the remainder, as every number of blocks is a power of two,
    so the probes are a walk around the ring of blocks. Section 3 finds the
    same search among the steps of a segment. -/

namespace CyberRT.Transport.Shm

open CyberRT.Framework

/-! ## Section 1: Model -/

/-- `TryLockForWrite`: the locked block, if the exchange succeeds. -/
def Block.tryLockForWrite (blk : Block) : Option Block :=
  if blk.lockNum = kRWLockFree then some { blk with lockNum := kWriteExclusive } else none

/-- What the search reads and writes: `wrote_num_`, the array `blocks_` and
    the local `try_idx`. -/
structure Search where
  wroteNum : Nat
  blocks   : Nat → Block
  tryIdx   : Nat

namespace Search

/-- The block of the next probe. -/
def probe (blockNum : Nat) (m : Search) : Nat := wrapIndex blockNum m.tryIdx

/-- One pass of the loop; it returns the index and the state it leaves. -/
def pass (blockNum : Nat) (m : Search) : Search ⊕ (Nat × Search) :=
  let tryIdx := m.probe blockNum
  match (m.blocks tryIdx).tryLockForWrite with
  | some blk =>
    .inr (tryIdx,
      { wroteNum := (m.wroteNum + 1) % 2 ^ 32
        blocks   := Function.update m.blocks tryIdx blk
        tryIdx   := tryIdx })
  | none => .inl { m with tryIdx := (tryIdx + 1) % 2 ^ 32 }

theorem pass_of_locked {blockNum : Nat} {m : Search}
    (h : (m.blocks (m.probe blockNum)).lockNum ≠ kRWLockFree) :
    m.pass blockNum = .inl { m with tryIdx := (m.probe blockNum + 1) % 2 ^ 32 } := by
  simp only [pass, Block.tryLockForWrite, if_neg h]

theorem pass_of_free {blockNum : Nat} {m : Search}
    (h : (m.blocks (m.probe blockNum)).lockNum = kRWLockFree) :
    m.pass blockNum = .inr (m.probe blockNum,
      { wroteNum := (m.wroteNum + 1) % 2 ^ 32
        blocks   := Function.update m.blocks (m.probe blockNum)
          { m.blocks (m.probe blockNum) with lockNum := kWriteExclusive }
        tryIdx   := m.probe blockNum }) := by
  simp only [pass, Block.tryLockForWrite, if_pos h]

end Search

/-- `GetNextWritableBlockIndex`, if it returns after that many passes. -/
def getNextWritableBlockIndex (conf : ShmConf) (passes wroteNum : Nat) (blocks : Nat → Block) :
    Option (Nat × Search) :=
  loop (Search.pass conf.blockNum) passes ⟨wroteNum, blocks, wroteNum⟩

/-- The blocks it probes in that many passes, in turn. -/
def probes (conf : ShmConf) (passes wroteNum : Nat) (blocks : Nat → Block) : List Nat :=
  (passStates (Search.pass conf.blockNum) passes ⟨wroteNum, blocks, wroteNum⟩).map
    (Search.probe conf.blockNum)

/-! ## Section 2: The walk around the ring -/

section walk
variable {c : ShmConf} {wroteNum : Nat} {blocks : Nat → Block}

/-- The search before its pass `k`, as long as it has found nothing. The
    local is wrapped at each probe, not at each increment. -/
def searchState (c : ShmConf) (wroteNum : Nat) (blocks : Nat → Block) : Nat → Search
  | 0     => ⟨wroteNum, blocks, wroteNum⟩
  | k + 1 => ⟨wroteNum, blocks, (wroteNum + k) % c.blockNum + 1⟩

@[simp] theorem searchState_wroteNum (k : Nat) :
    (searchState c wroteNum blocks k).wroteNum = wroteNum := by cases k <;> rfl

@[simp] theorem searchState_blocks (k : Nat) :
    (searchState c wroteNum blocks k).blocks = blocks := by cases k <;> rfl

/-- Probe `k` is `k` steps around the ring. -/
theorem probe_searchState (k : Nat) :
    (searchState c wroteNum blocks k).probe c.blockNum = (wroteNum + k) % c.blockNum := by
  unfold Search.probe
  rw [wrapIndex_eq_mod]
  cases k with
  | zero   => rfl
  | succ k => exact Nat.mod_add_mod (wroteNum + k) c.blockNum 1

/-- A pass that finds its block locked goes on to the next one. -/
theorem pass_searchState {k : Nat}
    (h : (blocks ((wroteNum + k) % c.blockNum)).lockNum ≠ kRWLockFree) :
    (searchState c wroteNum blocks k).pass c.blockNum =
      .inl (searchState c wroteNum blocks (k + 1)) := by
  have hlt := Nat.mod_lt (wroteNum + k) c.blockNum_pos
  have hword := c.blockNum_lt
  rw [Search.pass_of_locked (by rw [probe_searchState, searchState_blocks]; exact h),
    probe_searchState, Nat.mod_eq_of_lt (by omega)]
  cases k <;> rfl

/-- Where the search ends: the first unlocked block of the walk, less than
    a lap away. -/
theorem exists_first_free (hfree : ∃ i, i < c.blockNum ∧ (blocks i).lockNum = kRWLockFree)
    (wroteNum : Nat) :
    ∃ m, m < c.blockNum ∧ (blocks ((wroteNum + m) % c.blockNum)).lockNum = kRWLockFree ∧
      ∀ k, k < m → (blocks ((wroteNum + k) % c.blockNum)).lockNum ≠ kRWLockFree := by
  obtain ⟨i, hi, hlock⟩ := hfree
  obtain ⟨k, hk, hmod⟩ := Ring.exists_mod_eq hi wroteNum
  have hex : ∃ m, (blocks ((wroteNum + m) % c.blockNum)).lockNum = kRWLockFree :=
    ⟨k, by rw [hmod]; exact hlock⟩
  exact ⟨Nat.find hex, Nat.lt_of_le_of_lt (Nat.find_min' hex (by rw [hmod]; exact hlock)) hk,
    Nat.find_spec hex, fun k hk => Nat.find_min hex hk⟩

end walk

/-- **Search**: whatever `wrote_num_` is, with an unlocked block the search
    ends within one lap, probes no block twice and none outside the array,
    and leaves one block that was unlocked write-locked. -/
theorem getNextWritableBlockIndex_covers (c : ShmConf) (wroteNum : Nat)
    (blocks : Nat → Block) (hfree : ∃ i, i < c.blockNum ∧ (blocks i).lockNum = kRWLockFree)
    {passes : Nat} (hpasses : c.blockNum ≤ passes) :
    (probes c passes wroteNum blocks).length ≤ c.blockNum ∧
    (∀ i ∈ probes c passes wroteNum blocks, i < c.blockNum) ∧
    (probes c passes wroteNum blocks).Nodup ∧
    ∃ i after, getNextWritableBlockIndex c passes wroteNum blocks = some (i, after) ∧
      i ∈ probes c passes wroteNum blocks ∧ (blocks i).lockNum = kRWLockFree ∧
      (after.blocks i).lockNum = kWriteExclusive ∧ ∀ j, j ≠ i → after.blocks j = blocks j := by
  obtain ⟨m, hm, hlock, hlocked⟩ := exists_first_free hfree wroteNum
  have hfound : ((searchState c wroteNum blocks m).blocks
      ((searchState c wroteNum blocks m).probe c.blockNum)).lockNum = kRWLockFree := by
    rw [probe_searchState, searchState_blocks]
    exact hlock
  have hend := Search.pass_of_free hfound
  rw [probe_searchState, searchState_blocks, searchState_wroteNum] at hend
  obtain ⟨hloop, hstates⟩ := loop_of_states (searchState c wroteNum blocks)
    (fun k hk => pass_searchState (hlocked k hk)) hend (Nat.lt_of_lt_of_le hm hpasses)
  have hprobes : probes c passes wroteNum blocks =
      (List.range (m + 1)).map fun k => (wroteNum + k) % c.blockNum := by
    show (passStates _ _ (searchState c wroteNum blocks 0)).map _ = _
    rw [hstates, List.map_map]
    exact List.map_congr_left fun k _ => probe_searchState k
  rw [hprobes]
  refine ⟨by rw [List.length_map, List.length_range]; exact hm, ?_, Ring.nodup_walk hm wroteNum,
    _, _, hloop, ?_, hlock, ?_, ?_⟩
  · intro i hi
    obtain ⟨k, -, rfl⟩ := List.mem_map.mp hi
    exact Nat.mod_lt _ c.blockNum_pos
  · exact List.mem_map.mpr ⟨m, List.mem_range.mpr (Nat.lt_succ_self m), rfl⟩
  · show (Function.update blocks _ _ _).lockNum = kWriteExclusive
    rw [Function.update_self]
  · intro j hj
    exact Function.update_of_ne hj ..

/-- A segment of 16 MB messages with one unlocked block, searched from the
    last value of `wrote_num_` on. -/
theorem getNextWritableBlockIndex_covers_last :
    ∃ i after, getNextWritableBlockIndex (.update (1024 * 1024 * 16)) 16 (2 ^ 32 - 1)
        (fun i => ⟨if i = 14 then kRWLockFree else 3, 0, 0, fun _ => 0⟩) = some (i, after) ∧
      (after.blocks i).lockNum = kWriteExclusive := by
  obtain ⟨-, -, -, i, after, hsome, -, -, hlock, -⟩ :=
    getNextWritableBlockIndex_covers (.update (1024 * 1024 * 16)) (2 ^ 32 - 1)
      (fun i => ⟨if i = 14 then kRWLockFree else 3, 0, 0, fun _ => 0⟩) ⟨14, by decide, rfl⟩
      (show _ ≤ 16 by decide)
  exact ⟨i, after, hsome, hlock⟩

/-! ## Section 3: The search of a segment

    The steps of one thread of a segment, taken with no step of another
    thread between them, are passes of the search. -/

section segment
variable {n : Nat} [NeZero n] {Tid : Type} (ceilingMsgSize : Nat)

/-- The search of the thread sees the segment as it is. -/
structure Agrees (s : State n Tid) (t : Tid) (m : Search) : Prop where
  wroteNum : m.wroteNum = s.wroteNum
  blocks   : ∀ b : Fin n, m.blocks b = s.blocks b
  tryIdx   : m.tryIdx = (s.loc t).tryIdx

/-- What a search over a segment with an unlocked block returns. -/
theorem search_of_free (c : ShmConf) (wroteNum : Nat) (blocks : Nat → Block)
    (hfree : ∃ i, i < c.blockNum ∧ (blocks i).lockNum = kRWLockFree) :
    ∃ i after, loop (Search.pass c.blockNum) c.blockNum ⟨wroteNum, blocks, wroteNum⟩ =
        some (i, after) ∧ (blocks i).lockNum = kRWLockFree ∧
      after.blocks = Function.update blocks i { blocks i with lockNum := kWriteExclusive } := by
  obtain ⟨m, hm, hlock, hlocked⟩ := exists_first_free hfree wroteNum
  have hfound : ((searchState c wroteNum blocks m).blocks
      ((searchState c wroteNum blocks m).probe c.blockNum)).lockNum = kRWLockFree := by
    rw [probe_searchState, searchState_blocks]
    exact hlock
  have hend := Search.pass_of_free hfound
  rw [probe_searchState, searchState_blocks] at hend
  obtain ⟨hloop, -⟩ := loop_of_states (searchState c wroteNum blocks)
    (fun k hk => pass_searchState (hlocked k hk)) hend hm
  exact ⟨_, _, hloop, hlock, rfl⟩

variable {s : State n Tid} {t : Tid} {m : Search}

theorem Agrees.probe (h : Agrees s t m) :
    m.probe n = (blockIndex (s.loc t).tryIdx : Fin n) := by
  unfold Search.probe
  rw [h.tryIdx]
  rfl

theorem Agrees.blocks_probe (h : Agrees s t m) :
    m.blocks (m.probe n) = s.blocks (blockIndex (s.loc t).tryIdx) := by
  rw [h.probe, h.blocks]

variable [DecidableEq Tid]

/-- A pass that goes on is the failed exchange. -/
theorem Agrees.failed (h : Agrees s t m) (hpc : (s.loc t).pc = .tryLockForWrite) {m' : Search}
    (hpass : m.pass n = .inl m') :
    ∃ s', (segment n ceilingMsgSize).step s (.tryLockForWriteFail t) s' ∧ Agrees s' t m' ∧
      (s'.loc t).pc = .tryLockForWrite := by
  have hlocked : (m.blocks (m.probe n)).lockNum ≠ kRWLockFree := by
    intro hfree
    rw [Search.pass_of_free hfree] at hpass
    cases hpass
  rw [Search.pass_of_locked hlocked, h.probe] at hpass
  cases hpass
  refine ⟨_, ⟨hpc, rfl⟩, ⟨h.wroteNum, h.blocks, ?_⟩, ?_⟩
  · simp [segment, State.setLoc]
  · simpa [segment, State.setLoc] using hpc

/-- The pass that returns is the exchange and the increment after it. -/
theorem Agrees.locked (h : Agrees s t m) (hpc : (s.loc t).pc = .tryLockForWrite) {i : Nat}
    {after : Search} (hpass : m.pass n = .inr (i, after)) :
    ∃ s', (segment n ceilingMsgSize).Run s [.tryLockForWrite t, .increaseWroteNum t] s' ∧
      (s'.loc t).pc = .serializeToArray ∧ (s'.loc t).index = i ∧
      s'.wroteNum = after.wroteNum ∧ ∀ b : Fin n, s'.blocks b = after.blocks b := by
  have hfree : (m.blocks (m.probe n)).lockNum = kRWLockFree := by
    by_contra hlocked
    rw [Search.pass_of_locked hlocked] at hpass
    cases hpass
  rw [Search.pass_of_free hfree, h.blocks_probe, h.probe] at hpass
  cases hpass
  rw [h.blocks_probe] at hfree
  refine ⟨_, .cons _ _ ⟨⟨hpc, hfree⟩, rfl⟩ (.cons _ _ ⟨?_, rfl⟩ (.nil _)), ?_, ?_, ?_, ?_⟩
  · simp [segment, State.setLoc, State.setBlock]
  · simp [segment, State.setLoc, State.setBlock]
  · simp [segment, State.setLoc, State.setBlock]
  · simp [segment, State.setLoc, State.setBlock, h.wroteNum]
  · intro b
    by_cases hb : b = blockIndex (s.loc t).tryIdx
    · subst hb
      simp [segment, State.setLoc, State.setBlock]
    · have hval : b.val ≠ (blockIndex (s.loc t).tryIdx : Fin n).val := fun heq => hb (Fin.ext heq)
      simp [segment, State.setLoc, State.setBlock, hb, hval, h.blocks]

/-- The whole search, pass by pass. -/
theorem Agrees.search (h : Agrees s t m) (hpc : (s.loc t).pc = .tryLockForWrite) {passes i : Nat}
    {after : Search} (hloop : loop (Search.pass n) passes m = some (i, after)) :
    ∃ k s', k < passes ∧ (segment n ceilingMsgSize).Run s
        (List.replicate k (.tryLockForWriteFail t) ++
          [.tryLockForWrite t, .increaseWroteNum t]) s' ∧
      (s'.loc t).pc = .serializeToArray ∧ (s'.loc t).index = i ∧
      s'.wroteNum = after.wroteNum ∧ ∀ b : Fin n, s'.blocks b = after.blocks b := by
  induction passes generalizing s m with
  | zero => cases hloop
  | succ passes ih =>
    unfold loop at hloop
    cases hpass : m.pass n with
    | inr r =>
      rw [hpass] at hloop
      cases hloop
      obtain ⟨s', hrun, hrest⟩ := h.locked ceilingMsgSize hpc hpass
      exact ⟨0, s', Nat.succ_pos passes, hrun, hrest⟩
    | inl m' =>
      rw [hpass] at hloop
      obtain ⟨s₁, hstep, hagrees, hpc₁⟩ := h.failed ceilingMsgSize hpc hpass
      obtain ⟨k, s', hk, hrun, hrest⟩ := ih hagrees hpc₁ hloop
      exact ⟨k + 1, s', Nat.succ_lt_succ hk, .cons _ _ hstep hrun, hrest⟩

/-- **Alone**: a writer that takes its steps alone has locked a block after
    fewer failed exchanges than there are blocks. -/
theorem segment_search (c : ShmConf) [NeZero c.blockNum] {s : State c.blockNum Tid} {t : Tid}
    (hpc : (s.loc t).pc = .wroteNum) (hfree : ∃ b, (s.blocks b).lockNum = kRWLockFree) :
    ∃ k s', k < c.blockNum ∧ (segment c.blockNum ceilingMsgSize).Run s
        (.wroteNum t :: (List.replicate k (.tryLockForWriteFail t) ++
          [.tryLockForWrite t, .increaseWroteNum t])) s' ∧
      (s'.loc t).pc = .serializeToArray ∧
      (s.blocks (s'.loc t).index).lockNum = kRWLockFree ∧
      (s'.blocks (s'.loc t).index).lockNum = kWriteExclusive ∧
      ∀ b, b ≠ (s'.loc t).index → s'.blocks b = s.blocks b := by
  let blocks : Nat → Block := fun i => s.blocks (Fin.ofNat c.blockNum i)
  have hblocks : ∀ b : Fin c.blockNum, blocks b = s.blocks b := fun b =>
    congrArg s.blocks (Fin.ofNat_val_eq_self b)
  obtain ⟨b, hb⟩ := hfree
  obtain ⟨i, after, hloop, hlock, hsearched⟩ :=
    search_of_free c s.wroteNum blocks ⟨b, b.isLt, by rw [hblocks]; exact hb⟩
  let s₁ : State c.blockNum Tid :=
    s.setLoc t { s.loc t with pc := .tryLockForWrite, tryIdx := s.wroteNum }
  have hloc : s₁.loc t = { s.loc t with pc := .tryLockForWrite, tryIdx := s.wroteNum } :=
    Function.update_self ..
  have hagrees : Agrees s₁ t ⟨s.wroteNum, blocks, s.wroteNum⟩ := ⟨rfl, hblocks, by rw [hloc]⟩
  obtain ⟨k, s', hk, hrun, hpc', hindex, -, hafter⟩ :=
    hagrees.search ceilingMsgSize (by rw [hloc]) hloop
  refine ⟨k, s', hk, .cons _ _ ⟨hpc, rfl⟩ hrun, hpc', ?_, ?_, ?_⟩
  · rw [← hblocks, hindex]
    exact hlock
  · rw [hafter, hindex, hsearched, Function.update_self]
  · intro b hb
    rw [hafter, ← hblocks, hsearched,
      Function.update_of_ne fun heq => hb (Fin.ext (heq.trans hindex.symm))]

end segment

end CyberRT.Transport.Shm
