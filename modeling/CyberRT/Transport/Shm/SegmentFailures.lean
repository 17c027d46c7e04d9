import Mathlib.Data.Finset.Lattice.Lemmas
import Mathlib.Data.Finset.Range
import CyberRT.Transport.Shm.Segment

/-! # A Segment object and failing system calls

    One `Segment` object and any sequence of calls on it, while every system
    call may fail and other processes do with the shared memory what they
    want. A block that was acquired may be kept over later calls and be
    released after them.

    `Remap` and `Recreate` reset the object and may fail after that. What
    the object has left is then looked at once more by the same call, and
    later by the release of a block. -/

namespace CyberRT.Transport.Shm.Segment

open CyberRT.Framework

/-! ## Section 1: Calls on one object -/

/-- The object, the kernel and the keys of `block_buf_addrs_`: those that
    were laid out, and those that `operator[]` has put in with a null
    address. -/
structure Solo where
  kernel : Kernel
  object : Object
  keys   : Finset Nat

/-- A step of the object; a step of other processes; the caller keeps the
    block it has acquired and goes on; it releases a block it has kept. -/
inductive Call where
  | step (b : Step)
  | others (f : Kernel → Kernel)
  | keep
  | releaseWritten (index : Nat)
  | releaseRead (index : Nat)

/-- The keys after a step. -/
def Step.keys (b : Step) (g : Kernel) (l : Object) (keys : Finset Nat) : Finset Nat :=
  match b with
  | .reset _          => ∅
  -- a layout does not clear what is there
  | .newBlocks        => keys ∪ Finset.range l.conf.blockNum
  | .loadCeilingOpen  =>
    match l.state with
    | some k => keys ∪ Finset.range (ShmConf.update (g.shms k).ceilingMsgSize).blockNum
    | none   => keys
  -- `block_buf_addrs_[index]` makes an entry if there is none
  | .increaseWroteNum | .tryLockForRead => insert l.index keys
  | _ => keys

/-- `ReleaseWrittenBlock` and `ReleaseReadBlock` of block `index`, which add
    `d` to its lock word. -/
def release (g : Kernel) (l : Object) (index : Nat) (d : Int) : Kernel × Object :=
  if index < l.conf.blockNum then
    withBlocks g l fun k => (setLockNum g k index ((g.shms k).lockNum index + d), l)
  else
    (g, l)

def segmentCalls : System Solo Call where
  init := fun s => s.object = .new s.object.mode ∧ s.keys = ∅
  action := fun
    | .step b =>
      { gate   := fun s => b.gate s.kernel s.object
        effect := fun s =>
          { kernel := (b.effect s.kernel s.object).1
            object := (b.effect s.kernel s.object).2
            keys   := b.keys s.kernel s.object s.keys } }
    | .others f =>
      { gate   := fun _ => True
        effect := fun s => { s with kernel := f s.kernel } }
    | .keep =>
      -- the block stays locked, and the object does not know of it
      { gate   := fun s => s.object.pc = .writing ∨ s.object.pc = .reading
        effect := fun s => { s with object := s.object.goto .idle } }
    | .releaseWritten index =>
      { gate   := fun s => s.object.pc = .idle
        effect := fun s =>
          { s with
            kernel := (release s.kernel s.object index 1).1
            object := (release s.kernel s.object index 1).2 } }
    | .releaseRead index =>
      { gate   := fun s => s.object.pc = .idle
        effect := fun s =>
          { s with
            kernel := (release s.kernel s.object index (-1)).1
            object := (release s.kernel s.object index (-1)).2 } }

instance decidableCallGate (a : Call) (s : Solo) : Decidable ((segmentCalls.action a).gate s) :=
  match a with
  | .step b           => inferInstanceAs (Decidable (component.gate b s.kernel s.object))
  | .others _         => .isTrue trivial
  | .keep             =>
    inferInstanceAs (Decidable (s.object.pc = .writing ∨ s.object.pc = .reading))
  | .releaseWritten _ => inferInstanceAs (Decidable (s.object.pc = .idle))
  | .releaseRead _    => inferInstanceAs (Decidable (s.object.pc = .idle))

/-! ## Section 2: A usable object -/

/-- The pointers point into the attached memory, and the buffers are those of
    the configuration. -/
structure Whole (l : Object) (keys : Finset Nat) : Prop where
  mapped : ∃ k, l.managedShm = .attached k ∧ l.state = some k ∧ l.blocks = some k ∧
    ∀ i < l.conf.blockNum, l.blockBufAddr i = some ⟨k, l.conf.bufOffset i⟩
  keys   : keys = Finset.range l.conf.blockNum

/-- No call is in progress: the last one has returned, and a caller may hold
    the block it has acquired. -/
def Pc.returned : Pc → Bool
  | .idle | .writing | .reading => true
  | _ => false

/-- **Property**. An address in `block_buf_addrs_` always has its key. -/
structure Usable (s : Solo) : Prop where
  recorded : ∀ i, s.object.blockBufAddr i ≠ none → i ∈ s.keys
  notNull  : s.object.pc ≠ .crashed
  attached : s.object.pc.returned = true → s.object.init = true → Whole s.object s.keys

/-- **Condition** on the steps. `Remap` for a writer fails only when the
    message fits the old ceiling; a lock for reading is taken only on a
    block of the configuration; buffers are laid out only where no larger
    index is left from an earlier layout; and a block is released only when
    the object still has its blocks, or for an index it has not. -/
def FailsSafely (s : Solo) : Call → Prop
  | .step .shmgetOpenFail | .step .shmatOpenFail =>
    s.object.opening = .remap → s.object.op = .acquireBlockToWrite →
      s.object.msgSize ≤ s.object.conf.ceilingMsgSize
  | .step .tryLockForRead => s.object.index < s.object.conf.blockNum
  | .step .newBlocks => s.keys ⊆ Finset.range s.object.conf.blockNum
  | .step .loadCeilingOpen =>
    ∀ k ∈ s.object.state,
      s.keys ⊆ Finset.range (ShmConf.update (s.kernel.shms k).ceilingMsgSize).blockNum
  | .releaseWritten index | .releaseRead index =>
    index < s.object.conf.blockNum → s.object.blocks ≠ none
  | _ => True

/-! ## Section 3: Invariant -/

/-- What is known at each program counter. -/
def Known (l : Object) (keys : Finset Nat) : Prop :=
  match l.pc with
  | .idle => l.init = true → Whole l keys
  | .needRemap | .wroteNum | .tryLockForWrite | .writing | .tryLockForRead | .reading =>
    l.init = true ∧ Whole l keys
  | .increaseWroteNum => l.init = true ∧ Whole l keys ∧ l.index < l.conf.blockNum
  | .increaseReferenceCounts => Whole l keys
  | .setNeedRemap | .decreaseReferenceCounts | .referenceCounts =>
    l.init = false ∧ l.state ≠ none
  | .newState => l.init = false ∧ l.managedShm = .attached l.shmid
  | .loadCeilingCreate | .newBlocks | .loadCeilingOpen =>
    l.init = false ∧ l.managedShm = .attached l.shmid ∧ l.state = some l.shmid
  | .shmgetCreate | .shmatCreate | .rmidCreate | .reset .recreate | .reset .einval
  | .shmgetRemove .recreate | .shmgetRemove .einval | .shmctlRemove .recreate
  | .shmctlRemove .einval => l.init = false ∧ l.opening ≠ .remap
  | .shmgetOpen | .shmatOpen | .reset .remap | .shmgetRemove .destroy | .shmctlRemove .destroy =>
    l.init = false
  | .crashed => False

section known
variable {l : Object} {keys : Finset Nat}

theorem Whole.state_ne (h : Whole l keys) : l.state ≠ none := by
  obtain ⟨k, _, hstate, _⟩ := h.mapped
  rw [hstate]
  exact Option.some_ne_none k

theorem Whole.blocks_ne (h : Whole l keys) : l.blocks ≠ none := by
  obtain ⟨k, _, _, hblocks, _⟩ := h.mapped
  rw [hblocks]
  exact Option.some_ne_none k

theorem known_idle (hinit : l.init = false) : Known (l.goto .idle) keys := by
  intro htrue
  rw [show (l.goto .idle).init = l.init from rfl, hinit] at htrue
  cases htrue

theorem known_callInit (hinit : l.init = false) : Known l.callInit keys := by
  unfold Object.callInit
  cases l.mode with
  | readOnly  => exact hinit
  | writeOnly => exact ⟨hinit, by simp⟩

theorem known_checkSize (hinit : l.init = true) (h : Whole l keys) :
    Known (l.checkSize true) keys := by
  obtain ⟨k, _, hstate, _⟩ := h.mapped
  unfold Object.checkSize
  split
  · rw [hstate]
    exact ⟨rfl, by simp⟩
  · exact ⟨hinit, h.mapped, h.keys⟩

/-- `Remap` has failed, and the message fits the ceiling. -/
theorem known_checkSize_failed (hinit : l.init = false)
    (hfits : l.msgSize ≤ l.conf.ceilingMsgSize) : Known (l.checkSize false) keys := by
  unfold Object.checkSize
  rw [if_neg (by omega), if_neg Bool.false_ne_true]
  exact known_idle hinit

theorem known_checkIndex (hinit : l.init = true) (h : Whole l keys) :
    Known l.checkIndex keys := by
  unfold Object.checkIndex
  split
  · exact ⟨hinit, h.mapped, h.keys⟩
  · exact fun _ => ⟨h.mapped, h.keys⟩

theorem known_opened (hinit : l.init = true) (h : Whole l keys) :
    Known (l.opened true) keys := by
  unfold Object.opened
  split
  · exact ⟨hinit, h.mapped, h.keys⟩
  · exact known_checkIndex hinit h
  · exact known_checkSize hinit h
  · exact ⟨hinit, h.mapped, h.keys⟩
  · exact ⟨hinit, h.mapped, h.keys⟩

theorem known_failed (hinit : l.init = false)
    (hfits : l.opening = .remap → l.op = .acquireBlockToWrite →
      l.msgSize ≤ l.conf.ceilingMsgSize) : Known (l.opened false) keys := by
  unfold Object.opened
  split
  · exact known_idle hinit
  · exact known_idle hinit
  · next hopening hop => exact known_checkSize_failed hinit (hfits hopening hop)
  · exact known_idle hinit
  · exact known_idle hinit

theorem known_removed {by_ : RemoveBy} (hinit : l.init = false)
    (hopening : by_ ≠ .destroy → l.opening ≠ .remap) : Known (l.removed by_) keys := by
  unfold Object.removed
  cases by_ with
  | recreate => exact ⟨hinit, hopening (by decide)⟩
  | destroy  => exact known_idle hinit
  | einval   =>
    simp only
    split
    · exact ⟨hinit, hopening (by decide)⟩
    · exact known_failed hinit fun hremap => absurd hremap (hopening (by decide))

end known

/-! ## Section 4: The steps -/

section steps
variable {s : Solo}

/-- An access through a pointer that is not null. -/
theorem known_withState {g : Kernel} {l : Object} {keys : Finset Nat} {f : Nat → Kernel × Object}
    (hstate : l.state ≠ none) (h : ∀ k, Known (f k).2 keys) : Known (withState g l f).2 keys := by
  apply @withState_rec g l f (fun r => Known r.2 keys)
  · exact fun k _ => h k
  · exact fun hnone => absurd hnone hstate

theorem known_withBlocks {g : Kernel} {l : Object} {keys : Finset Nat} {f : Nat → Kernel × Object}
    (hblocks : l.blocks ≠ none) (h : ∀ k, Known (f k).2 keys) :
    Known (withBlocks g l f).2 keys := by
  apply @withBlocks_rec g l f (fun r => Known r.2 keys)
  · exact fun k _ => h k
  · exact fun hnone => absurd hnone hblocks

theorem layOut_keys {keys : Finset Nat} {n : Nat} (h : keys ⊆ Finset.range n) :
    keys ∪ Finset.range n = Finset.range n := Finset.union_eq_right.mpr h

theorem insert_keys {keys : Finset Nat} {i n : Nat} (h : keys = Finset.range n) (hi : i < n) :
    insert i keys = Finset.range n := by
  rw [h]
  exact Finset.insert_eq_of_mem (Finset.mem_range.mpr hi)

/-- **Step lemma** of the object. -/
theorem known_step (b : Step) {g : Kernel} {l : Object} {keys : Finset Nat} (h : Known l keys)
    (hg : b.gate g l) (hok : FailsSafely ⟨g, l, keys⟩ (.step b)) :
    Known (b.effect g l).2 (b.keys g l keys) := by
  have hpc : l.pc = b.pc := hg.1
  unfold Known at h
  rw [hpc] at h
  cases b with
  | acquireBlockToWrite msgSize =>
    dsimp only [Step.effect]
    -- what an initialised object has, or `Init` of one that is not
    cases hinit : l.init with
    | true  =>
      have hwhole := h hinit
      exact ⟨rfl, hwhole.mapped, hwhole.keys⟩
    | false => exact known_callInit rfl
  | acquireBlockToRead index =>
    dsimp only [Step.effect]
    cases hinit : l.init with
    | true  =>
      have hwhole := h hinit
      exact known_checkIndex rfl ⟨hwhole.mapped, hwhole.keys⟩
    | false => exact known_callInit rfl
  | destroy =>
    dsimp only [Step.effect]
    split
    · next hinit => exact ⟨rfl, (h hinit).state_ne⟩
    · unfold Known
      rw [hpc]
      exact h
  | needRemap =>
    obtain ⟨hinit, hwhole⟩ := h
    obtain ⟨k, hmanaged, hstate, hblocks⟩ := hwhole.mapped
    simp only [Step.effect, Step.keys, withState, hstate]
    split
    · exact rfl
    split
    · exact known_checkSize hinit hwhole
    · exact ⟨hinit, ⟨k, hmanaged, hstate, hblocks⟩, hwhole.keys⟩
  | setNeedRemap => exact known_withState h.2 fun _ => ⟨h.1, nofun⟩
  | reset by_ =>
    dsimp only [Step.effect]
    -- `shmdt` makes no difference to the object
    cases by_ with
    | remap    => split <;> exact h
    | recreate => split <;> exact h
    | einval   => split <;> exact h
  | shmgetCreate => exact h
  | shmgetEexist => exact h.1
  | shmgetEinval => exact h
  | shmgetCreateFail => exact known_failed h.1 fun hremap => absurd hremap h.2
  | shmatCreate => exact ⟨h.1, rfl⟩
  | shmatCreateFail => exact h
  | rmidCreate => exact known_failed h.1 fun hremap => absurd hremap h.2
  | newState => exact ⟨h.1, h.2, rfl⟩
  | loadCeilingCreate =>
    obtain ⟨hinit, hmanaged, hstate⟩ := h
    simp only [Step.effect, withState, hstate]
    exact ⟨hinit, hmanaged, rfl⟩
  | newBlocks =>
    obtain ⟨hinit, hmanaged, hstate⟩ := h
    exact ⟨⟨l.shmid, hmanaged, hstate, rfl, fun _ hi => if_pos hi⟩, layOut_keys hok⟩
  | shmgetOpen =>
    dsimp only [Step.effect]
    split
    · exact h
    · unfold Known
      rw [hpc]
      exact h
  | shmgetOpenFail => exact known_failed h hok
  | shmatOpen => exact ⟨h, rfl, rfl⟩
  | shmatOpenFail => exact known_failed h hok
  | loadCeilingOpen =>
    obtain ⟨hinit, hmanaged, hstate⟩ := h
    simp only [Step.effect, Step.keys, withState, hstate]
    exact ⟨⟨l.shmid, hmanaged, rfl, rfl, fun _ hi => if_pos hi⟩, layOut_keys (hok l.shmid hstate)⟩
  | increaseReferenceCounts =>
    exact known_withState h.state_ne fun _ => known_opened rfl ⟨h.mapped, h.keys⟩
  | shmgetRemove by_ =>
    dsimp only [Step.effect]
    split
    · cases by_ <;> exact h
    · unfold Known
      rw [hpc]
      exact h
  | shmgetRemoveFail by_ | shmctlRemove by_ | shmctlRemoveFail by_ =>
    show Known (l.removed by_) keys
    cases by_ with
    | recreate => exact known_removed h.1 fun _ => h.2
    | einval   => exact known_removed h.1 fun _ => h.2
    | destroy  => exact known_removed h fun hne => absurd rfl hne
  | wroteNum =>
    obtain ⟨hinit, hwhole⟩ := h
    exact known_withState hwhole.state_ne fun _ => ⟨hinit, hwhole.mapped, hwhole.keys⟩
  | tryLockForWrite =>
    obtain ⟨hinit, hwhole⟩ := h
    have hindex := wrapIndex_lt (ShmConf.blockNum_pos l.conf) l.tryIdx
    exact known_withBlocks hwhole.blocks_ne fun _ =>
      ⟨hinit, ⟨hwhole.mapped, hwhole.keys⟩, hindex⟩
  | tryLockForWriteFail =>
    obtain ⟨hinit, hwhole⟩ := h
    apply known_withBlocks hwhole.blocks_ne
    intro k
    -- the search goes on where it is
    unfold Known
    dsimp only
    rw [hpc]
    exact ⟨hinit, hwhole.mapped, hwhole.keys⟩
  | increaseWroteNum =>
    obtain ⟨hinit, hwhole, hindex⟩ := h
    have hkeys := insert_keys hwhole.keys hindex
    exact known_withState hwhole.state_ne fun _ => ⟨hinit, hwhole.mapped, hkeys⟩
  | tryLockForRead =>
    obtain ⟨hinit, hwhole⟩ := h
    -- `operator[]` finds the key
    have hkeys := insert_keys hwhole.keys hok
    exact known_withBlocks hwhole.blocks_ne fun _ => ⟨hinit, hwhole.mapped, hkeys⟩
  | releaseWrittenBlock | releaseReadBlock =>
    obtain ⟨hinit, hwhole⟩ := h
    dsimp only [Step.effect]
    split
    · exact known_withBlocks hwhole.blocks_ne fun _ _ => ⟨hwhole.mapped, hwhole.keys⟩
    · exact fun _ => ⟨hwhole.mapped, hwhole.keys⟩
  | tryLockForReadFail =>
    obtain ⟨hinit, hwhole⟩ := h
    exact known_withBlocks hwhole.blocks_ne fun _ _ => ⟨hwhole.mapped, hwhole.keys⟩
  | decreaseReferenceCounts => exact known_withState h.2 fun _ => h
  | referenceCounts =>
    apply known_withState h.2
    intro k
    dsimp only
    split
    · exact h.1
    · exact known_idle h.1

/-- A release of a kept block does nothing to the object. -/
theorem release_object {g : Kernel} {l : Object} {index : Nat} (d : Int)
    (h : index < l.conf.blockNum → l.blocks ≠ none) : (release g l index d).2 = l := by
  unfold release
  split
  · next hindex =>
    apply @withBlocks_rec g l _ (fun r => r.2 = l)
    · exact fun _ _ => rfl
    · exact fun hnone => absurd hnone (h hindex)
  · rfl

/-- **Step lemma**. -/
theorem known_call (a : Call) (h : Known s.object s.keys)
    (hg : ((segmentCalls.restrict FailsSafely).action a).gate s) :
    Known ((segmentCalls.action a).effect s).object ((segmentCalls.action a).effect s).keys := by
  obtain ⟨hg, hok⟩ := hg
  cases a with
  | step b => exact known_step b h hg hok
  | others f => exact h
  | keep =>
    unfold Known at h
    rcases hg with hpc | hpc
    · rw [hpc] at h
      exact fun _ => ⟨h.2.mapped, h.2.keys⟩
    · rw [hpc] at h
      exact fun _ => ⟨h.2.mapped, h.2.keys⟩
  | releaseWritten index =>
    have hobject := release_object (g := s.kernel) (l := s.object) 1 hok
    show Known (release s.kernel s.object index 1).2 s.keys
    rw [hobject]
    exact h
  | releaseRead index =>
    have hobject := release_object (g := s.kernel) (l := s.object) (-1) hok
    show Known (release s.kernel s.object index (-1)).2 s.keys
    rw [hobject]
    exact h

/-! ## Section 5: The keys -/

section keys
variable (l : Object)

@[simp] theorem goto_blockBufAddr (pc : Pc) : (l.goto pc).blockBufAddr = l.blockBufAddr := rfl

@[simp] theorem callInit_blockBufAddr : l.callInit.blockBufAddr = l.blockBufAddr := by
  unfold Object.callInit
  split <;> rfl

@[simp] theorem checkSize_blockBufAddr (result : Bool) :
    (l.checkSize result).blockBufAddr = l.blockBufAddr := by
  unfold Object.checkSize
  split
  · split <;> rfl
  · split <;> rfl

@[simp] theorem checkIndex_blockBufAddr : l.checkIndex.blockBufAddr = l.blockBufAddr := by
  unfold Object.checkIndex
  split <;> rfl

@[simp] theorem opened_blockBufAddr (ok : Bool) : (l.opened ok).blockBufAddr = l.blockBufAddr := by
  unfold Object.opened
  split
  · split <;> rfl
  · split <;> simp
  · simp
  · split <;> rfl
  · split <;> rfl

@[simp] theorem removed_blockBufAddr (by_ : RemoveBy) :
    (l.removed by_).blockBufAddr = l.blockBufAddr := by
  unfold Object.removed
  split
  · rfl
  · split <;> simp
  · rfl

end keys

section recorded
variable {g : Kernel} {l : Object} {keys : Finset Nat}

theorem withState_blockBufAddr {f : Nat → Kernel × Object}
    (h : ∀ k, (f k).2.blockBufAddr = l.blockBufAddr) :
    (withState g l f).2.blockBufAddr = l.blockBufAddr := by
  apply @withState_rec g l f (fun r => r.2.blockBufAddr = l.blockBufAddr)
  · exact fun k _ => h k
  · exact fun _ => rfl

theorem withBlocks_blockBufAddr {f : Nat → Kernel × Object}
    (h : ∀ k, (f k).2.blockBufAddr = l.blockBufAddr) :
    (withBlocks g l f).2.blockBufAddr = l.blockBufAddr := by
  apply @withBlocks_rec g l f (fun r => r.2.blockBufAddr = l.blockBufAddr)
  · exact fun k _ => h k
  · exact fun _ => rfl

/-- Only `Reset` and the two layouts change an address. -/
theorem blockBufAddr_same (b : Step) (hreset : ∀ by_, b ≠ .reset by_) (hnew : b ≠ .newBlocks)
    (hopen : b ≠ .loadCeilingOpen) : (b.effect g l).2.blockBufAddr = l.blockBufAddr := by
  cases b with
  | reset by_ => exact absurd rfl (hreset by_)
  | newBlocks => exact absurd rfl hnew
  | loadCeilingOpen => exact absurd rfl hopen
  | acquireBlockToWrite msgSize | acquireBlockToRead index | destroy =>
    dsimp only [Step.effect]
    split <;> simp
  | needRemap =>
    apply withState_blockBufAddr
    intro k
    split
    · rfl
    · split <;> simp
  | shmgetOpen | shmgetRemove by_ =>
    dsimp only [Step.effect]
    split <;> rfl
  | shmgetCreate | shmgetEexist | shmgetEinval | shmatCreate | shmatCreateFail | newState
  | shmatOpen => rfl
  | shmgetCreateFail | rmidCreate | shmgetOpenFail | shmatOpenFail => exact opened_blockBufAddr _ _
  | shmgetRemoveFail by_ | shmctlRemove by_ | shmctlRemoveFail by_ =>
    exact removed_blockBufAddr _ _
  | setNeedRemap | loadCeilingCreate | wroteNum | increaseWroteNum | decreaseReferenceCounts =>
    exact withState_blockBufAddr fun _ => rfl
  | increaseReferenceCounts => exact withState_blockBufAddr fun _ => opened_blockBufAddr _ _
  | referenceCounts =>
    apply withState_blockBufAddr
    intro k
    dsimp only
    split <;> rfl
  | tryLockForWrite | tryLockForWriteFail | tryLockForRead | tryLockForReadFail =>
    exact withBlocks_blockBufAddr fun _ => rfl
  | releaseWrittenBlock | releaseReadBlock =>
    dsimp only [Step.effect]
    split
    · exact withBlocks_blockBufAddr fun _ => rfl
    · rfl

theorem release_blockBufAddr (g : Kernel) (l : Object) (index : Nat) (d : Int) :
    (release g l index d).2.blockBufAddr = l.blockBufAddr := by
  unfold release
  split
  · exact withBlocks_blockBufAddr fun _ => rfl
  · rfl

theorem recorded_layOut (h : ∀ i, l.blockBufAddr i ≠ none → i ∈ keys) (k i : Nat)
    (hi : (l.layOut k).blockBufAddr i ≠ none) : i ∈ keys ∪ Finset.range l.conf.blockNum := by
  rw [Finset.mem_union, Finset.mem_range]
  by_cases hlt : i < l.conf.blockNum
  · exact .inr hlt
  · have hold : (l.layOut k).blockBufAddr i = l.blockBufAddr i := if_neg hlt
    rw [hold] at hi
    exact .inl (h i hi)

/-- **Step lemma**: no address without its key. -/
theorem recorded_step (b : Step) (h : ∀ i, l.blockBufAddr i ≠ none → i ∈ keys) (i : Nat)
    (hi : (b.effect g l).2.blockBufAddr i ≠ none) : i ∈ b.keys g l keys := by
  by_cases hreset : ∃ by_, b = .reset by_
  · obtain ⟨by_, rfl⟩ := hreset
    have hnone : ((Step.reset by_).effect g l).2.blockBufAddr i = none := by
      dsimp only [Step.effect]
      split <;> rfl
    exact absurd hnone hi
  by_cases hnew : b = .newBlocks
  · subst hnew
    exact recorded_layOut h l.shmid i hi
  by_cases hopen : b = .loadCeilingOpen
  · subst hopen
    dsimp only [Step.keys, Step.effect, withState] at hi ⊢
    cases hstate : l.state with
    | some k =>
      rw [hstate] at hi
      exact recorded_layOut
        (l := { l with conf := .update (g.shms k).ceilingMsgSize, state := some k }) h k i hi
    | none =>
      rw [hstate] at hi
      exact h i hi
  have hsame := blockBufAddr_same (g := g) (l := l) b (fun by_ hb => hreset ⟨by_, hb⟩) hnew hopen
  rw [hsame] at hi
  have hkey := h i hi
  unfold Step.keys
  split
  · next by_ => exact absurd ⟨by_, rfl⟩ hreset
  · exact absurd rfl hnew
  · exact absurd rfl hopen
  · exact Finset.mem_insert_of_mem hkey
  · exact Finset.mem_insert_of_mem hkey
  · exact hkey

end recorded

/-! ## Section 6: Runs -/

theorem known_reachable (h : (segmentCalls.restrict FailsSafely).Reachable s) :
    Known s.object s.keys := by
  apply System.invariant (P := fun s : Solo => Known s.object s.keys) _ _ h
  · intro s hinit
    rw [hinit.1]
    exact known_idle (l := .new s.object.mode) rfl
  · exact fun _ a hP hg => known_call a hP hg

/-- Along every run the addresses have their keys. -/
theorem recorded_reachable (h : segmentCalls.Reachable s) :
    ∀ i, s.object.blockBufAddr i ≠ none → i ∈ s.keys := by
  apply System.invariant (P := fun s : Solo => ∀ i, s.object.blockBufAddr i ≠ none → i ∈ s.keys)
    _ _ h
  · intro s hinit i hi
    rw [hinit.1] at hi
    exact absurd rfl hi
  · intro s a hP hg
    cases a with
    | step b => exact recorded_step b hP
    | others f => exact hP
    | keep => exact hP
    | releaseWritten index =>
      intro i hi
      rw [← release_blockBufAddr s.kernel s.object index 1] at hP
      exact hP i hi
    | releaseRead index =>
      intro i hi
      rw [← release_blockBufAddr s.kernel s.object index (-1)] at hP
      exact hP i hi

theorem usable_of_known (hrecorded : ∀ i, s.object.blockBufAddr i ≠ none → i ∈ s.keys)
    (h : Known s.object s.keys) : Usable s := by
  unfold Known at h
  constructor
  case recorded => exact hrecorded
  case notNull =>
    intro hpc
    rw [hpc] at h
    exact h
  case attached =>
    intro hreturned hinit
    cases hpc : s.object.pc with
    | idle =>
      rw [hpc] at h
      exact h hinit
    | writing | reading =>
      rw [hpc] at h
      exact h.2
    | _ =>
      rw [hpc] at hreturned
      cases hreturned

end steps

/-! ## Section 7: Failing calls -/

/-- **Failing calls**: an object is usable in every state of a run whose steps
    fail safely. -/
theorem usable_reachable (s : Solo) (h : (segmentCalls.restrict FailsSafely).Reachable s) :
    Usable s :=
  usable_of_known (recorded_reachable h.of_restrict) (known_reachable h)

instance decidableFailsSafely (s : Solo) (a : Call) : Decidable (FailsSafely s a) :=
  match a with
  | .step .shmgetOpenFail | .step .shmatOpenFail =>
    inferInstanceAs (Decidable (s.object.opening = .remap → s.object.op = .acquireBlockToWrite →
      s.object.msgSize ≤ s.object.conf.ceilingMsgSize))
  | .step .tryLockForRead => inferInstanceAs (Decidable (s.object.index < s.object.conf.blockNum))
  | .step .newBlocks =>
    inferInstanceAs (Decidable (s.keys ⊆ Finset.range s.object.conf.blockNum))
  | .step .loadCeilingOpen =>
    inferInstanceAs (Decidable (∀ k ∈ s.object.state,
      s.keys ⊆ Finset.range (ShmConf.update (s.kernel.shms k).ceilingMsgSize).blockNum))
  | .releaseWritten index | .releaseRead index =>
    inferInstanceAs (Decidable (index < s.object.conf.blockNum → s.object.blocks ≠ none))
  | .step (.acquireBlockToWrite _) | .step (.acquireBlockToRead _) | .step .destroy
  | .step .needRemap | .step .setNeedRemap | .step (.reset _) | .step .shmgetCreate
  | .step .shmgetEexist | .step .shmgetEinval | .step .shmgetCreateFail | .step .shmatCreate
  | .step .shmatCreateFail | .step .rmidCreate | .step .newState | .step .loadCeilingCreate
  | .step .shmgetOpen | .step .shmatOpen | .step .increaseReferenceCounts
  | .step (.shmgetRemove _) | .step (.shmgetRemoveFail _) | .step (.shmctlRemove _)
  | .step (.shmctlRemoveFail _) | .step .wroteNum | .step .tryLockForWrite
  | .step .tryLockForWriteFail | .step .increaseWroteNum | .step .releaseWrittenBlock
  | .step .tryLockForReadFail | .step .releaseReadBlock | .step .decreaseReferenceCounts
  | .step .referenceCounts | .others _ | .keep => .isTrue trivial

/-- No segment yet. -/
def solo (mode : ReadWriteMode) : Solo where
  kernel := { key := none, shms := fun _ => SharedMemory.zeroed .new, next := 0 }
  object := .new mode
  keys   := ∅

/-- Another process makes a segment. -/
def makeShm (conf : ShmConf) (g : Kernel) : Kernel :=
  (g.create conf).modify g.next fun m =>
    { m with ceilingMsgSize := conf.ceilingMsgSize, referenceCount := 1 }

/-- Another process sets `need_remap` in segment 0 and removes it. -/
def withdrawShm (g : Kernel) : Kernel := (g.modify 0 fun m => { m with needRemap := true }).rmid 0

/-- A writer makes the segment and is granted a block of it. -/
def writes : List Call :=
  ([Step.acquireBlockToWrite 1] ++ createSteps ++ [Step.needRemap] ++ searchSteps).map .step

/-- A writer does not find the segment it wants to remap. -/
def remapFails (msgSize : Nat) : List Call :=
  .others withdrawShm ::
    [Step.acquireBlockToWrite msgSize, .needRemap, .reset .remap, .shmgetOpenFail].map .step

/-- A reader opens a segment of 16 blocks and asks for block `index`. -/
def asks (index : Nat) : List Call :=
  .others (makeShm (.update messageSize16M)) ::
    ([Step.acquireBlockToRead index] ++ openSteps).map .step

/-- Segment 0 is replaced by one of 8 blocks. -/
def replaced : List Call := [.others withdrawShm, .others (makeShm (.update messageSizeMore))]

/-- A remapping fails, and the next call initialises the writer again. -/
theorem usable_reachable_remapped :
    (segmentCalls.exec (solo .writeOnly)
      (writes ++ [.step .releaseWrittenBlock] ++ remapFails 1 ++ writes)).object.init = true ∧
    Usable (segmentCalls.exec (solo .writeOnly)
      (writes ++ [.step .releaseWrittenBlock] ++ remapFails 1 ++ writes)) := by
  have hreach : (segmentCalls.restrict FailsSafely).Reachable
      ((segmentCalls.restrict FailsSafely).exec (solo .writeOnly)
        (writes ++ [.step .releaseWrittenBlock] ++ remapFails 1 ++ writes)) :=
    System.reachable_exec (segmentCalls.restrict FailsSafely) ⟨rfl, rfl⟩ _ (by decide +kernel)
  rw [System.exec_restrict] at hreach
  exact ⟨by decide +kernel, usable_reachable _ hreach⟩

/-- The calls lead an object that was just constructed to where it is not
    usable. -/
def Breaks (mode : ReadWriteMode) (as : List Call) : Prop :=
  segmentCalls.Reachable (segmentCalls.exec (solo mode) as) ∧
    ¬ Usable (segmentCalls.exec (solo mode) as)

theorem breaks_of_crashed {mode : ReadWriteMode} {as : List Call}
    (h : segmentCalls.Admits (solo mode) as)
    (hpc : (segmentCalls.exec (solo mode) as).object.pc = .crashed) : Breaks mode as :=
  ⟨System.reachable_exec segmentCalls ⟨rfl, rfl⟩ as h, fun husable => husable.notNull hpc⟩

theorem breaks_of_keys {mode : ReadWriteMode} {as : List Call}
    (h : segmentCalls.Admits (solo mode) as)
    (hpc : (segmentCalls.exec (solo mode) as).object.pc.returned = true)
    (hinit : (segmentCalls.exec (solo mode) as).object.init = true)
    (hkeys : (segmentCalls.exec (solo mode) as).keys ≠
      Finset.range (segmentCalls.exec (solo mode) as).object.conf.blockNum) : Breaks mode as :=
  ⟨System.reachable_exec segmentCalls ⟨rfl, rfl⟩ as h,
    fun husable => hkeys (husable.attached hpc hinit).keys⟩

/-- The remapping fails before a message above the old ceiling. -/
def largeMessage : List Call := writes ++ .step .releaseWrittenBlock :: remapFails 20000

/-- The remapping fails, and the block that was kept is released. -/
def keptBlock : List Call := writes ++ .keep :: (remapFails 1).concat (.releaseWritten 0)

/-- The remapped segment has no block 10. -/
def fewerBlocks : List Call :=
  asks 10 ++ replaced ++
    (.needRemap :: .reset .remap :: openSteps.concat .tryLockForRead).map .step

/-- A destroyed object is initialised on a segment with fewer blocks. -/
def destroyed : List Call :=
  asks 0 ++ [Step.needRemap, .tryLockForRead, .releaseReadBlock, .destroy, .decreaseReferenceCounts,
    .referenceCounts].map .step ++ replaced ++
    (.acquireBlockToRead 0 :: openSteps ++ [Step.needRemap, .tryLockForRead]).map .step

/-- One run for each way to fail. -/
theorem usable_breaks :
    Breaks .writeOnly largeMessage ∧ Breaks .writeOnly keptBlock ∧ Breaks .readOnly fewerBlocks ∧
      Breaks .readOnly destroyed := by
  refine ⟨breaks_of_crashed ?_ ?_, breaks_of_crashed ?_ ?_, breaks_of_keys ?_ ?_ ?_ ?_,
    breaks_of_keys ?_ ?_ ?_ ?_⟩ <;> decide +kernel

end CyberRT.Transport.Shm.Segment
