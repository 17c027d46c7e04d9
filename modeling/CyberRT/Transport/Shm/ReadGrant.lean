import CyberRT.Transport.Shm.SegmentLayout

/-! # A granted read block exists

    `AcquireBlockToRead` checks the index against the configuration it has
    before it remaps. A `Remap` that finds a segment with fewer blocks then
    locks a block behind the end of the array. As long as no `Remap` does
    (and no `OpenOnly` reads a `State` under construction), every lock is
    attempted inside the block array and every granted block has its
    buffer. -/

namespace CyberRT.Transport.Shm.Segment

open CyberRT.Framework

/-! ## Section 1: The condition -/

/-- **Condition** under which every lock is attempted inside the array: a
    `Remap` within `AcquireBlockToRead` finds a segment that has the block. -/
structure KeepsIndex (b : Step) (g : Kernel) (l : Object) : Prop where
  ceiling : LoadsCeiling b g l
  remap   : b = .loadCeilingOpen → l.opening = .remap → l.op = .acquireBlockToRead →
    l.index < (ShmConf.update (g.shms l.shmid).ceilingMsgSize).blockNum

instance (b : Step) (g : Kernel) (l : Object) : Decidable (KeepsIndex b g l) :=
  decidable_of_iff
    (LoadsCeiling b g l ∧
      (b = .loadCeilingOpen → l.opening = .remap → l.op = .acquireBlockToRead →
        l.index < (ShmConf.update (g.shms l.shmid).ceilingMsgSize).blockNum))
    ⟨fun h => ⟨h.1, h.2⟩, fun h => ⟨h.ceiling, h.remap⟩⟩

/-! ## Section 2: Invariant -/

/-- Where the index of a read has passed the check and nothing but a
    `Remap` may have happened since. -/
def Object.needsIndex (l : Object) : Bool :=
  match l.pc with
  | .needRemap => decide (l.op = .acquireBlockToRead)
  | .increaseReferenceCounts =>
    decide (l.opening = .remap) && decide (l.op = .acquireBlockToRead)
  | .tryLockForRead | .reading => true
  | _ => false

/-- Inside `OpenOrCreate`, which a `Remap` never calls. -/
def Pc.creates : Pc → Bool
  | .reset .recreate | .shmgetRemove .recreate | .shmctlRemove .recreate
  | .reset .einval | .shmgetRemove .einval | .shmctlRemove .einval
  | .shmgetCreate | .shmatCreate | .newState | .loadCeilingCreate | .newBlocks => true
  | _ => false

structure InRange (l : Object) : Prop where
  index   : l.needsIndex = true → l.index < l.conf.blockNum
  opening : l.pc.creates = true → l.opening ≠ .remap

/-! ## Section 3: Steps -/

section steps
variable {g : Kernel} {l : Object}

/-- A state that asks for nothing. -/
theorem InRange.leave (hindex : l.needsIndex = false) (hpc : l.pc.creates = false) :
    InRange l := by
  refine ⟨?_, ?_⟩
  · intro hneeds
    rw [hindex] at hneeds
    cases hneeds
  · intro hcreates
    rw [hpc] at hcreates
    cases hcreates

/-- Where `OpenOrCreate` was called from. -/
theorem InRange.create (hindex : l.needsIndex = false) (hopening : l.opening ≠ .remap) :
    InRange l := by
  refine ⟨?_, fun _ => hopening⟩
  intro hneeds
  rw [hindex] at hneeds
  cases hneeds

theorem inRange_checkIndex (l : Object) : InRange l.checkIndex := by
  unfold Object.checkIndex
  split
  · next hlt => exact ⟨fun _ => hlt, nofun⟩
  · exact .leave rfl rfl

theorem inRange_checkSize (l : Object) (result : Bool) : InRange (l.checkSize result) := by
  unfold Object.checkSize
  split
  · split
    · exact .leave rfl rfl
    · exact .leave rfl rfl
  · split
    · exact .leave rfl rfl
    · exact .leave rfl rfl

theorem inRange_opened {ok : Bool} (h : ok = true → l.opening = .remap →
    l.op = .acquireBlockToRead → l.index < l.conf.blockNum) : InRange (l.opened ok) := by
  unfold Object.opened
  split
  · next hop =>
    split
    · apply InRange.leave
      · show decide (l.op = .acquireBlockToRead) = false
        rw [hop]
        rfl
      · rfl
    · exact .leave rfl rfl
  · split
    · exact inRange_checkIndex l
    · exact .leave rfl rfl
  · exact inRange_checkSize l ok
  · next hopening hop =>
    split
    · next hok => exact ⟨fun _ => h hok hopening hop, nofun⟩
    · exact .leave rfl rfl
  · split
    · exact .leave rfl rfl
    · exact .leave rfl rfl

theorem inRange_failed (l : Object) : InRange (l.opened false) := by
  apply inRange_opened
  intro hok
  cases hok

theorem inRange_callInit (l : Object) : InRange l.callInit := by
  unfold Object.callInit
  split
  · exact .leave rfl rfl
  · exact .create rfl nofun

theorem inRange_removed {by_ : RemoveBy}
    (hopening : (Pc.shmgetRemove by_).creates = true → l.opening ≠ .remap) :
    InRange (l.removed by_) := by
  unfold Object.removed
  split
  · exact .create rfl (hopening rfl)
  · split
    · exact .create rfl (hopening rfl)
    · exact inRange_failed _
  · exact .leave rfl rfl

theorem inRange_withState {f : Nat → Kernel × Object}
    (hf : ∀ k, l.state = some k → InRange (f k).2) : InRange (withState g l f).2 := by
  apply @withState_rec g l f (fun r => InRange r.2)
  · exact hf
  · exact fun _ => .leave rfl rfl

theorem inRange_withBlocks {f : Nat → Kernel × Object} (hf : ∀ k, InRange (f k).2) :
    InRange (withBlocks g l f).2 := by
  apply @withBlocks_rec g l f (fun r => InRange r.2)
  · exact fun k _ => hf k
  · exact fun _ => .leave rfl rfl

/-- Without a remap it is the index that was checked. -/
theorem inRange_needRemap (h : InRange l) (hpc : l.pc = .needRemap) :
    InRange (Step.needRemap.effect g l).2 := by
  apply inRange_withState
  intro k _
  split
  · exact .leave rfl rfl
  split
  · exact inRange_checkSize l true
  · next hop =>
    refine ⟨fun _ => h.index ?_, nofun⟩
    unfold Object.needsIndex
    rw [hpc]
    exact decide_eq_true hop

theorem inRange_reset (h : InRange l) {by_ : ResetBy} (hpc : l.pc = .reset by_) :
    InRange ((Step.reset by_).effect g l).2 := by
  have hopening := h.opening
  rw [hpc] at hopening
  have hnext : ∀ {l' : Object}, l'.pc = by_.next → l'.opening = l.opening → InRange l' := by
    intro l' hnext hsame
    refine ⟨?_, ?_⟩
    · unfold Object.needsIndex
      rw [hnext]
      cases by_ <;> nofun
    · rw [hnext, hsame]
      cases by_ with
      | remap    => nofun
      | recreate => exact hopening
      | einval   => exact hopening
  dsimp only [Step.effect]
  split
  · exact hnext rfl rfl
  · exact hnext rfl rfl

/-- The blocks that `OpenOrCreate` lays out are not those of a remap. -/
theorem inRange_newBlocks (hopening : l.opening ≠ .remap) :
    InRange (Step.newBlocks.effect g l).2 := by
  apply InRange.leave
  · show (decide (l.opening = .remap) && decide (l.op = .acquireBlockToRead)) = false
    rw [decide_eq_false hopening, Bool.false_and]
  · rfl

/-- Those of a remap have the index, by the condition. -/
theorem inRange_loadCeilingOpen (hL : Layout g l) (hpc : l.pc = .loadCeilingOpen)
    (hok : KeepsIndex .loadCeilingOpen g l) : InRange (Step.loadCeilingOpen.effect g l).2 := by
  have hstate : l.state = some l.shmid := by
    have hL := hL.pc
    unfold PcInv at hL
    rw [hpc] at hL
    exact hL.2.2
  apply inRange_withState
  intro k hk
  obtain rfl : l.shmid = k := Option.some.inj (hstate.symm.trans hk)
  refine ⟨?_, nofun⟩
  intro hneeds
  obtain ⟨hopening, hop⟩ := Bool.and_eq_true_iff.mp hneeds
  exact hok.remap rfl (of_decide_eq_true hopening) (of_decide_eq_true hop)

theorem inRange_increaseReferenceCounts (h : InRange l) (hpc : l.pc = .increaseReferenceCounts) :
    InRange (Step.increaseReferenceCounts.effect g l).2 := by
  apply inRange_withState
  intro k _
  apply inRange_opened
  intro _ hopening hop
  have hopening : l.opening = .remap := hopening
  have hop : l.op = .acquireBlockToRead := hop
  apply h.index
  unfold Object.needsIndex
  rw [hpc, hopening, hop]
  rfl

theorem inRange_tryLockForWriteFail (hpc : l.pc = .tryLockForWrite) :
    InRange (Step.tryLockForWriteFail.effect g l).2 := by
  apply inRange_withBlocks
  intro k
  have hpc' : ({ l with tryIdx := (l.tryIndex + 1) % 2 ^ 32 } : Object).pc = .tryLockForWrite :=
    hpc
  apply InRange.leave
  · unfold Object.needsIndex
    rw [hpc']
  · rw [hpc']
    rfl

theorem inRange_tryLockForRead (h : InRange l) (hpc : l.pc = .tryLockForRead) :
    InRange (Step.tryLockForRead.effect g l).2 := by
  apply inRange_withBlocks
  intro k
  refine ⟨fun _ => h.index ?_, nofun⟩
  unfold Object.needsIndex
  rw [hpc]

/-- **Step lemma**. -/
theorem inRange_step (b : Step) (hL : Layout g l) (h : InRange l) (hg : b.gate g l)
    (hok : KeepsIndex b g l) : InRange (b.effect g l).2 := by
  have hpc := hg.1
  -- the next step of a creation
  have hcreate : b.pc.creates = true → l.opening ≠ .remap := by
    rw [← hpc]
    exact h.opening
  cases b with
  | acquireBlockToWrite msgSize =>
    dsimp only [Step.effect]
    split
    · exact .leave rfl rfl
    · exact inRange_callInit _
  | acquireBlockToRead index =>
    dsimp only [Step.effect]
    split
    · exact inRange_checkIndex _
    · exact inRange_callInit _
  | destroy =>
    dsimp only [Step.effect]
    split
    · exact .leave rfl rfl
    · exact h
  | needRemap => exact inRange_needRemap h hpc
  | setNeedRemap => exact inRange_withState fun _ _ => .create rfl nofun
  | reset by_ => exact inRange_reset h hpc
  | shmgetCreate | shmgetEinval | shmatCreate | newState => exact .create rfl (hcreate rfl)
  | loadCeilingCreate => exact inRange_withState fun _ _ => .create rfl (hcreate rfl)
  | newBlocks => exact inRange_newBlocks (hcreate rfl)
  | loadCeilingOpen => exact inRange_loadCeilingOpen hL hpc hok
  | increaseReferenceCounts => exact inRange_increaseReferenceCounts h hpc
  | shmgetCreateFail | rmidCreate | shmgetOpenFail | shmatOpenFail => exact inRange_failed _
  | shmgetRemove by_ =>
    dsimp only [Step.effect]
    split
    · refine ⟨nofun, ?_⟩
      cases by_ <;> exact hcreate
    · exact h
  | shmgetRemoveFail by_ => exact inRange_removed hcreate
  | shmctlRemove by_ | shmctlRemoveFail by_ =>
    apply inRange_removed
    cases by_ <;> exact hcreate
  | shmgetOpen =>
    dsimp only [Step.effect]
    split
    · exact .leave rfl rfl
    · exact h
  | tryLockForWriteFail => exact inRange_tryLockForWriteFail hpc
  | tryLockForRead => exact inRange_tryLockForRead h hpc
  | releaseWrittenBlock | releaseReadBlock =>
    dsimp only [Step.effect]
    split
    · exact inRange_withBlocks fun _ => .leave rfl rfl
    · exact .leave rfl rfl
  | referenceCounts =>
    apply inRange_withState
    intro k _
    dsimp only
    split
    · exact .leave rfl rfl
    · exact .leave rfl rfl
  | wroteNum | increaseWroteNum | decreaseReferenceCounts =>
    exact inRange_withState fun _ _ => .leave rfl rfl
  | tryLockForWrite | tryLockForReadFail => exact inRange_withBlocks fun _ => .leave rfl rfl
  | shmgetEexist | shmatCreateFail | shmatOpen => exact .leave rfl rfl

end steps

/-! ## Section 4: Locked blocks -/

section runs
variable {Pid : Type}

/-- Block `i` is one of the blocks of the segment the object has mapped,
    and its header lies inside that segment. -/
structure InBlockArray (s : Global Kernel Object Pid) (p : Pid) (k i : Nat) : Prop where
  attached : Attached s p k
  blocks   : (s.loc p).blocks = some k
  index_lt : i < (s.shared.shms k).conf.blockNum
  inside   : ShmConf.blockOffset i + ShmConf.sizeofBlock ≤ (s.shared.shms k).size

/-- `AcquireBlockToRead` has returned true for an existing block. -/
structure Readable (s : Global Kernel Object Pid) (p : Pid) (k : Nat) : Prop where
  block : InBlockArray s p k (s.loc p).index
  buf   : (s.loc p).blockBufAddr (s.loc p).index =
    some ⟨k, (s.shared.shms k).conf.bufOffset (s.loc p).index⟩

theorem inRange_reachable [DecidableEq Pid] {s : Global Kernel Object Pid}
    (h : (component.parallelOk KeepsIndex).Reachable s) (p : Pid) :
    Layout s.shared (s.loc p) ∧ InRange (s.loc p) := by
  have hrg := layout_relyGuarantee (fun b g l (hb : KeepsIndex b g l) => hb.ceiling)
    (fun _ => .leave rfl rfl) fun b g l hL hX hg hb => inRange_step b hL hX hg hb
  exact (hrg.reachable h).2 p

theorem inBlockArray {s : Global Kernel Object Pid} {p : Pid} {k i : Nat}
    (hinit : (s.loc p).init = true) (hk : MappedTo s.shared (s.loc p) k)
    (hi : i < (s.loc p).conf.blockNum) : InBlockArray s p k i := by
  rw [hk.conf_eq] at hi
  refine ⟨⟨hinit, hk.state_eq⟩, hk.blocks_eq, hi, ?_⟩
  have hbuf := ShmConf.header_le_bufOffset (s.shared.shms k).conf hi i
  have hmanaged := ShmConf.bufOffset_add_le (s.shared.shms k).conf hi
  unfold SharedMemory.size
  omega

/-- **Run lemma**: in every run that keeps the condition a granted read
    block exists and every lock is attempted inside the block array. -/
theorem acquireBlockToRead_exists [DecidableEq Pid] {s : Global Kernel Object Pid}
    (h : (component.parallelOk KeepsIndex).Reachable s) (p : Pid) :
    ((s.loc p).pc = .reading → ∃ k, Readable s p k) ∧
    ((s.loc p).pc = .tryLockForRead → ∃ k, InBlockArray s p k (s.loc p).index) ∧
    ((s.loc p).pc = .tryLockForWrite → ∃ k, InBlockArray s p k (s.loc p).tryIndex) := by
  obtain ⟨hL, hrange⟩ := inRange_reachable h p
  have hpcInv := hL.pc
  unfold PcInv at hpcInv
  have hindex : ∀ {pc : Pc}, (s.loc p).pc = pc → pc = .reading ∨ pc = .tryLockForRead →
      (s.loc p).index < (s.loc p).conf.blockNum := by
    intro pc hpc hor
    apply hrange.index
    unfold Object.needsIndex
    rw [hpc]
    obtain rfl | rfl := hor <;> rfl
  refine ⟨?_, ?_, ?_⟩
  · intro hpc
    rw [hpc] at hpcInv
    obtain ⟨k, hk⟩ := hL.base.mapped hpcInv
    have hlt := hindex hpc (Or.inl rfl)
    refine ⟨k, inBlockArray hpcInv hk hlt, ?_⟩
    rw [hk.addr_eq _ hlt, hk.conf_eq]
  · intro hpc
    rw [hpc] at hpcInv
    obtain ⟨k, hk⟩ := hL.base.mapped hpcInv
    exact ⟨k, inBlockArray hpcInv hk (hindex hpc (Or.inr rfl))⟩
  · intro hpc
    rw [hpc] at hpcInv
    obtain ⟨k, hk⟩ := hL.base.mapped hpcInv
    exact ⟨k, inBlockArray hpcInv hk (wrapIndex_lt (ShmConf.blockNum_pos _) _)⟩

/-- A writer (`true`) and a reader (`false`). -/
def modes (writer : Bool) : ReadWriteMode := if writer then .writeOnly else .readOnly

/-- The writer creates the segment and writes a block; the reader opens
    the segment and reads block 0. -/
def firstSteps : List (Bool × Step) :=
  stepsOf true ([Step.acquireBlockToWrite 100] ++ createSteps ++ [Step.needRemap] ++
    searchSteps ++ [Step.releaseWrittenBlock]) ++
  stepsOf false ([Step.acquireBlockToRead 0] ++ openSteps ++ [Step.needRemap, Step.tryLockForRead])

/-- A run that meets the condition and ends in a granted read. -/
theorem acquireBlockToRead_exists_first :
    ∃ k, Readable ((component.parallelOk KeepsIndex).exec (initial modes) firstSteps) false k := by
  apply (acquireBlockToRead_exists _ _).1
  · decide +kernel
  · apply System.reachable_exec
    · exact initial_init _
    · decide +kernel

/-- Then the writer recreates the segment for a message of 20000 bytes,
    with 128 blocks instead of 512, before the reader comes to the
    notification of block 300. -/
def staleSteps : List (Bool × Step) :=
  firstSteps ++ stepsOf false [Step.releaseReadBlock] ++
  stepsOf true ([Step.acquireBlockToWrite 20000, Step.needRemap] ++ recreateSteps ++ createSteps ++
    searchSteps) ++
  stepsOf false ([Step.acquireBlockToRead 300, Step.needRemap, Step.reset .remap] ++ openSteps ++
    [Step.tryLockForRead])

/-- Without the condition the lock of a block that does not exist is
    attempted and the read granted. -/
theorem acquireBlockToRead_stale : ∃ s : Global Kernel Object Bool, channel.Reachable s ∧
    (s.loc false).pc = .reading ∧ ¬ ∃ k, Readable s false k := by
  refine ⟨channel.exec (initial modes) staleSteps, ?_, ?_, ?_⟩
  · exact System.reachable_exec _ (initial_init _) staleSteps (by decide +kernel)
  · decide +kernel
  · intro hreadable
    obtain ⟨k, h⟩ := hreadable
    have hnull : ((channel.exec (initial modes) staleSteps).loc false).blockBufAddr
        ((channel.exec (initial modes) staleSteps).loc false).index = none := by decide +kernel
    rw [h.buf] at hnull
    cases hnull

end runs

end CyberRT.Transport.Shm.Segment
