import CyberRT.Transport.MessageInfo
import CyberRT.Transport.Shm.SegmentLayout

/-! # A granted write block is large enough

    `AcquireBlockToWrite` compares the message with the ceiling once and
    recreates the segment when it does not fit. Two things escape the
    comparison: a message larger than the largest tier, and a recreation
    that loses the race for the key and opens the winner's smaller segment.
    Without them (and without an `OpenOnly` that reads a `State` under
    construction) every granted block has room. -/

namespace CyberRT.Transport.Shm.Segment

open CyberRT.Framework

/-! ## Section 1: The condition -/

/-- The size an `AcquireBlockToWrite` is called with. -/
def Step.request : Step → Option Nat
  | .acquireBlockToWrite msgSize => some msgSize
  | _ => none

/-- **Condition** under which every granted write block has room:
    no message is larger than a block buffer of the largest tier, and a
    `Recreate` that opens another object's segment finds it large enough. -/
structure KeepsRoom (b : Step) (g : Kernel) (l : Object) : Prop where
  ceiling  : LoadsCeiling b g l
  request  : ∀ msgSize ∈ b.request, msgSize + MessageInfo.kSize ≤ messageSizeMore + messageInfoSize
  recreate : b = .loadCeilingOpen → l.opening = .recreate →
    l.msgSize + MessageInfo.kSize ≤ (ShmConf.update (g.shms l.shmid).ceilingMsgSize).blockBufSize

instance (b : Step) (g : Kernel) (l : Object) : Decidable (KeepsRoom b g l) :=
  decidable_of_iff
    (LoadsCeiling b g l ∧
      (∀ msgSize ∈ b.request,
        msgSize + MessageInfo.kSize ≤ messageSizeMore + messageInfoSize) ∧
      (b = .loadCeilingOpen → l.opening = .recreate →
        l.msgSize + MessageInfo.kSize ≤
          (ShmConf.update (g.shms l.shmid).ceilingMsgSize).blockBufSize))
    ⟨fun h => ⟨h.1, h.2.1, h.2.2⟩, fun h => ⟨h.ceiling, h.request, h.recreate⟩⟩

/-! ## Section 2: Invariant -/

/-- Where the configuration in force must have room for the message: from
    the end of the size check on, and all through a `Recreate` except where
    `OpenOnly` is about to replace the configuration. -/
def Pc.needsRoom (pc : Pc) (opening : Opening) : Bool :=
  match pc with
  | .wroteNum | .tryLockForWrite | .increaseWroteNum | .writing => true
  | .setNeedRemap | .reset .recreate | .shmgetRemove .recreate | .shmctlRemove .recreate => true
  | .reset .einval | .shmgetRemove .einval | .shmctlRemove .einval | .shmgetCreate | .shmatCreate
  | .newState | .loadCeilingCreate | .newBlocks | .increaseReferenceCounts =>
    decide (opening = .recreate)
  | _ => false

structure Room (l : Object) : Prop where
  request : l.msgSize + MessageInfo.kSize ≤ messageSizeMore + messageInfoSize
  room    : l.pc.needsRoom l.opening = true →
    l.msgSize + MessageInfo.kSize ≤ l.conf.blockBufSize
  index   : l.pc = .increaseWroteNum ∨ l.pc = .writing → l.index < l.conf.blockNum

/-- Below the ceiling there is room for the `MessageInfo` as well. -/
theorem room_of_le_ceiling {conf : ShmConf} {msgSize : Nat} (h : msgSize ≤ conf.ceilingMsgSize) :
    msgSize + MessageInfo.kSize ≤ conf.blockBufSize := by
  rw [conf.bufSize_eq]
  unfold getBlockBufSize messageInfoSize
  have hk : MessageInfo.kSize ≤ 1024 := by decide
  omega

/-- `Update` makes room up to a block buffer of the largest tier. -/
theorem room_update {msgSize : Nat}
    (h : msgSize + MessageInfo.kSize ≤ messageSizeMore + messageInfoSize) :
    msgSize + MessageInfo.kSize ≤ (ShmConf.update msgSize).blockBufSize := by
  by_cases hmore : msgSize ≤ messageSizeMore
  · exact room_of_le_ceiling (ShmConf.le_ceiling hmore)
  · show _ ≤ getBlockBufSize (getCeilingMessageSize msgSize)
    rw [ShmConf.more_le_ceiling (by omega)]
    exact h

/-- An object just constructed has no message yet. -/
theorem room_new (mode : ReadWriteMode) : Room (.new mode) := by
  refine ⟨?_, nofun, nofun⟩
  show 0 + MessageInfo.kSize ≤ messageSizeMore + messageInfoSize
  decide

/-! ## Section 3: Steps -/

section steps
variable {g : Kernel} {l : Object}

/-- A move to where no room is asked for. -/
theorem Room.leave {l' : Object} (h : Room l) (hsize : l'.msgSize = l.msgSize)
    (hpc : l'.pc.needsRoom l'.opening = false) : Room l' := by
  refine ⟨by rw [hsize]; exact h.request, ?_, ?_⟩
  · intro hneeds
    rw [hpc] at hneeds
    cases hneeds
  · intro hindex
    obtain hindex | hindex := hindex
    · rw [hindex] at hpc
      cases hpc
    · rw [hindex] at hpc
      cases hpc

/-- A move under the same configuration and for the same message. -/
theorem Room.move {l' : Object} (h : Room l) (hsize : l'.msgSize = l.msgSize)
    (hconf : l'.conf = l.conf)
    (hpc : l'.pc.needsRoom l'.opening = true → l.pc.needsRoom l.opening = true)
    (hindex : l'.pc ≠ .increaseWroteNum ∧ l'.pc ≠ .writing) : Room l' := by
  refine ⟨by rw [hsize]; exact h.request, ?_, ?_⟩
  · intro hneeds
    rw [hsize, hconf]
    exact h.room (hpc hneeds)
  · intro hor
    exact (hor.elim hindex.1 hindex.2).elim

theorem room_checkIndex (h : Room l) : Room l.checkIndex := by
  unfold Object.checkIndex
  split
  · exact h.leave rfl rfl
  · exact h.leave rfl rfl

/-- After the size check the message fits the ceiling, or `Recreate` works
    under a configuration made for it. -/
theorem room_checkSize (h : Room l) (result : Bool) : Room (l.checkSize result) := by
  unfold Object.checkSize
  split
  · split
    · refine ⟨h.request, fun _ => room_update h.request, ?_⟩
      intro hindex
      obtain hindex | hindex := hindex <;> cases hindex
    · exact h.leave rfl rfl
  · next hle =>
    split
    · refine ⟨h.request, fun _ => room_of_le_ceiling (Nat.le_of_not_lt hle), ?_⟩
      intro hindex
      obtain hindex | hindex := hindex <;> cases hindex
    · exact h.leave rfl rfl

theorem room_opened (h : Room l) {ok : Bool}
    (hroom : ok = true → l.opening = .recreate →
      l.msgSize + MessageInfo.kSize ≤ l.conf.blockBufSize) : Room (l.opened ok) := by
  unfold Object.opened
  split
  · split
    · exact h.leave rfl rfl
    · exact h.leave rfl rfl
  · split
    · exact room_checkIndex h
    · exact h.leave rfl rfl
  · exact room_checkSize h ok
  · split
    · exact h.leave rfl rfl
    · exact h.leave rfl rfl
  · next hopening =>
    split
    · next hok =>
      refine ⟨h.request, fun _ => hroom hok hopening, ?_⟩
      intro hindex
      obtain hindex | hindex := hindex <;> cases hindex
    · exact h.leave rfl rfl

theorem room_failed (h : Room l) : Room (l.opened false) := by
  apply room_opened h
  intro hok
  cases hok

theorem room_removed (h : Room l) {by_ : RemoveBy}
    (hpc : l.pc = .shmgetRemove by_ ∨ l.pc = .shmctlRemove by_) : Room (l.removed by_) := by
  have hneeds : (Pc.shmgetRemove by_).needsRoom l.opening = true →
      l.pc.needsRoom l.opening = true := by
    intro hneeds
    obtain hpc | hpc := hpc <;> rw [hpc] <;> cases by_ <;> exact hneeds
  have hindex : l.pc ≠ .increaseWroteNum ∧ l.pc ≠ .writing := by
    obtain hpc | hpc := hpc <;> rw [hpc] <;> exact ⟨Pc.noConfusion, Pc.noConfusion⟩
  unfold Object.removed
  split
  · exact h.move rfl rfl (fun _ => hneeds rfl) ⟨Pc.noConfusion, Pc.noConfusion⟩
  · split
    · exact h.move rfl rfl hneeds ⟨Pc.noConfusion, Pc.noConfusion⟩
    · exact room_failed (h.move rfl rfl id hindex)
  · exact h.leave rfl rfl

/-- The next step of an operation, which asks for room no earlier than the
    one before. -/
theorem Room.next {l' : Object} {pc : Pc} (h : Room l) (hpc : l.pc = pc)
    (hsize : l'.msgSize = l.msgSize) (hconf : l'.conf = l.conf)
    (hneeds : l'.pc.needsRoom l'.opening = true → pc.needsRoom l.opening = true)
    (hgrant : l'.pc ≠ .increaseWroteNum) (hwriting : l'.pc ≠ .writing) : Room l' := by
  apply h.move hsize hconf _ ⟨hgrant, hwriting⟩
  rw [hpc]
  exact hneeds

theorem Room.withState (h : Room l) {f : Nat → Kernel × Object}
    (hf : ∀ k, l.state = some k → Room (f k).2) : Room (withState g l f).2 := by
  apply @withState_rec g l f (fun r => Room r.2)
  · exact hf
  · exact fun _ => h.leave rfl rfl

theorem Room.withBlocks (h : Room l) {f : Nat → Kernel × Object} (hf : ∀ k, Room (f k).2) :
    Room (withBlocks g l f).2 := by
  apply @withBlocks_rec g l f (fun r => Room r.2)
  · exact fun k _ => hf k
  · exact fun _ => h.leave rfl rfl

/-! ### Calls -/

/-- The request is new, so the room of the old one says nothing. -/
theorem room_acquireBlockToWrite {msgSize : Nat}
    (hrequest : msgSize + MessageInfo.kSize ≤ messageSizeMore + messageInfoSize) :
    Room ((Step.acquireBlockToWrite msgSize).effect g l).2 := by
  have hleave : ∀ {l' : Object}, l'.msgSize = msgSize → l'.pc.needsRoom l'.opening = false →
      Room l' := by
    intro l' hsize hneeds
    have hnew : Room { l' with pc := .idle } := by
      refine ⟨?_, nofun, nofun⟩
      rw [hsize]
      exact hrequest
    exact hnew.leave rfl hneeds
  dsimp only [Step.effect]
  split
  · exact hleave rfl rfl
  · unfold Object.callInit
    split
    · exact hleave rfl rfl
    · exact hleave rfl rfl

theorem room_acquireBlockToRead (h : Room l) (hpc : l.pc = .idle) (index : Nat) :
    Room ((Step.acquireBlockToRead index).effect g l).2 := by
  have hread : Room { l with op := .acquireBlockToRead, index := index } := by
    apply h.leave
    · rfl
    · show l.pc.needsRoom l.opening = false
      rw [hpc]
      rfl
  dsimp only [Step.effect]
  split
  · exact room_checkIndex hread
  · unfold Object.callInit
    split
    · exact h.leave rfl rfl
    · exact h.leave rfl rfl

theorem room_needRemap (h : Room l) : Room (Step.needRemap.effect g l).2 := by
  apply h.withState
  intro k _
  split
  · exact h.leave rfl rfl
  split
  · exact room_checkSize h true
  · exact h.leave rfl rfl

theorem room_reset (h : Room l) {by_ : ResetBy} (hpc : l.pc = .reset by_) :
    Room ((Step.reset by_).effect g l).2 := by
  have hreset : ∀ {l' : Object}, l'.msgSize = l.msgSize → l'.conf = l.conf →
      l'.pc = by_.next → l'.opening = l.opening → Room l' := by
    intro l' hsize hconf hnext hopening
    apply h.next hpc hsize hconf
    · rw [hnext, hopening]
      cases by_ <;> exact fun hneeds => hneeds
    · rw [hnext]
      cases by_ <;> nofun
    · rw [hnext]
      cases by_ <;> nofun
  dsimp only [Step.effect]
  split
  · exact hreset rfl rfl rfl rfl
  · exact hreset rfl rfl rfl rfl

/-! ### `OpenOrCreate` and `OpenOnly` -/

/-- `OpenOrCreate` goes on under the configuration it has. -/
theorem room_loadCeilingCreate (hL : Layout g l) (h : Room l) (hpc : l.pc = .loadCeilingCreate) :
    Room (Step.loadCeilingCreate.effect g l).2 := by
  obtain ⟨hconf, hstate⟩ := loadCeilingCreate_conf hL hpc
  apply h.withState
  intro k hk
  obtain rfl : l.shmid = k := Option.some.inj (hstate.symm.trans hk)
  exact h.next hpc rfl hconf id nofun nofun

/-- An object that is too small is recreated, and the condition says for how
    much. -/
theorem room_loadCeilingOpen (hL : Layout g l) (h : Room l) (hpc : l.pc = .loadCeilingOpen)
    (hrecreate : l.opening = .recreate → l.msgSize + MessageInfo.kSize ≤
      (ShmConf.update (g.shms l.shmid).ceilingMsgSize).blockBufSize) :
    Room (Step.loadCeilingOpen.effect g l).2 := by
  have hstate : l.state = some l.shmid := by
    have hL := hL.pc
    unfold PcInv at hL
    rw [hpc] at hL
    exact hL.2.2
  apply h.withState
  intro k hk
  obtain rfl : l.shmid = k := Option.some.inj (hstate.symm.trans hk)
  refine ⟨h.request, ?_, nofun⟩
  intro hneeds
  exact hrecreate (of_decide_eq_true hneeds)

theorem room_increaseReferenceCounts (h : Room l) (hpc : l.pc = .increaseReferenceCounts) :
    Room (Step.increaseReferenceCounts.effect g l).2 := by
  apply h.withState
  intro k _
  apply room_opened
  · apply h.move
    · rfl
    · rfl
    · exact id
    · show l.pc ≠ _ ∧ l.pc ≠ _
      rw [hpc]
      exact ⟨nofun, nofun⟩
  · intro _ hopening
    have hopening : l.opening = .recreate := hopening
    apply h.room
    rw [hpc, hopening]
    rfl

theorem room_shmatOpenFail (h : Room l) (hpc : l.pc = .shmatOpen) :
    Room (Step.shmatOpenFail.effect g l).2 := by
  apply room_failed
  apply h.leave
  · rfl
  · show l.pc.needsRoom l.opening = false
    rw [hpc]
    rfl

/-! ### Blocks -/

/-- The block that is granted is one of the `blockNum` there are. -/
theorem room_tryLockForWrite (h : Room l) (hpc : l.pc = .tryLockForWrite) :
    Room (Step.tryLockForWrite.effect g l).2 := by
  apply h.withBlocks
  intro k
  have hroom : l.msgSize + MessageInfo.kSize ≤ l.conf.blockBufSize := by
    apply h.room
    rw [hpc]
    rfl
  exact ⟨h.request, fun _ => hroom, fun _ => wrapIndex_lt l.conf.blockNum_pos l.tryIdx⟩

theorem room_increaseWroteNum (h : Room l) (hpc : l.pc = .increaseWroteNum) :
    Room (Step.increaseWroteNum.effect g l).2 := by
  apply h.withState
  intro k _
  have hroom : l.msgSize + MessageInfo.kSize ≤ l.conf.blockBufSize := by
    apply h.room
    rw [hpc]
    rfl
  exact ⟨h.request, fun _ => hroom, fun _ => h.index (Or.inl hpc)⟩

/-- **Step lemma**. -/
theorem room_step (b : Step) (hL : Layout g l) (h : Room l) (hg : b.gate g l)
    (hok : KeepsRoom b g l) : Room (b.effect g l).2 := by
  have hpc := hg.1
  cases b with
  | acquireBlockToWrite msgSize => exact room_acquireBlockToWrite (hok.request msgSize rfl)
  | acquireBlockToRead index => exact room_acquireBlockToRead h hpc index
  | destroy =>
    dsimp only [Step.effect]
    split
    · exact h.leave rfl rfl
    · exact h
  | needRemap => exact room_needRemap h
  | setNeedRemap =>
    apply h.withState
    intro k _
    exact h.next hpc rfl rfl (fun _ => rfl) nofun nofun
  | reset by_ => exact room_reset h hpc
  -- the steps of `OpenOrCreate`, which keep the configuration
  | shmgetCreate | shmgetEinval | shmatCreate | newState | newBlocks =>
    exact h.next hpc rfl rfl id nofun nofun
  | shmgetEexist | shmatCreateFail | shmatOpen => exact h.leave rfl rfl
  | shmgetCreateFail | rmidCreate | shmgetOpenFail => exact room_failed h
  | loadCeilingCreate => exact room_loadCeilingCreate hL h hpc
  | shmgetOpen =>
    dsimp only [Step.effect]
    split
    · exact h.leave rfl rfl
    · exact h
  | shmatOpenFail => exact room_shmatOpenFail h hpc
  | loadCeilingOpen => exact room_loadCeilingOpen hL h hpc (hok.recreate rfl)
  | increaseReferenceCounts => exact room_increaseReferenceCounts h hpc
  | shmgetRemove by_ =>
    dsimp only [Step.effect]
    split
    · refine h.next hpc rfl rfl ?_ nofun nofun
      cases by_ <;> exact id
    · exact h
  | shmgetRemoveFail by_ => exact room_removed h (Or.inl hpc)
  | shmctlRemove by_ | shmctlRemoveFail by_ => exact room_removed h (Or.inr hpc)
  | wroteNum =>
    apply h.withState
    intro k _
    exact h.next hpc rfl rfl id nofun nofun
  | tryLockForWrite => exact room_tryLockForWrite h hpc
  | tryLockForWriteFail =>
    apply h.withBlocks
    intro k
    exact ⟨h.request, h.room, h.index⟩
  | increaseWroteNum => exact room_increaseWroteNum h hpc
  | releaseWrittenBlock | releaseReadBlock =>
    dsimp only [Step.effect]
    split
    · exact h.withBlocks fun _ => h.leave rfl rfl
    · exact h.leave rfl rfl
  | tryLockForRead | tryLockForReadFail => exact h.withBlocks fun _ => h.leave rfl rfl
  | decreaseReferenceCounts => exact h.withState fun _ _ => h.leave rfl rfl
  | referenceCounts =>
    apply h.withState
    intro k _
    dsimp only
    split
    · exact h.leave rfl rfl
    · exact h.leave rfl rfl

end steps

/-! ## Section 4: Granted blocks -/

section runs
variable {Pid : Type}

/-- What a granted write must find: the buffer of the block, in the segment
    attached, with room for payload and `MessageInfo`, and no other block's
    buffer and no header in its way. -/
structure HasRoom (s : Global Kernel Object Pid) (p : Pid) (k off : Nat) : Prop where
  attached : Attached s p k
  addr     : (s.loc p).blockBufAddr (s.loc p).index = some ⟨k, off⟩
  room     : (s.loc p).msgSize + MessageInfo.kSize ≤ (s.loc p).conf.blockBufSize
  inside   : off + (s.loc p).conf.blockBufSize ≤ (s.shared.shms k).size
  apart    : BuffersApart s k

theorem room_reachable [DecidableEq Pid] {s : Global Kernel Object Pid}
    (h : (component.parallelOk KeepsRoom).Reachable s) (p : Pid) :
    Layout s.shared (s.loc p) ∧ Room (s.loc p) := by
  have hrg := layout_relyGuarantee (fun b g l (hb : KeepsRoom b g l) => hb.ceiling)
    room_new fun b g l hL hX hg hb => room_step b hL hX hg hb
  exact (hrg.reachable h).2 p

/-- **Run lemma**: whenever `AcquireBlockToWrite` has returned true, the
    block it granted has room, in every run that keeps the condition. -/
theorem acquireBlockToWrite_hasRoom [DecidableEq Pid] {s : Global Kernel Object Pid}
    (h : (component.parallelOk KeepsRoom).Reachable s) (p : Pid)
    (hpc : (s.loc p).pc = .writing) : ∃ k off, HasRoom s p k off := by
  have hall := room_reachable h
  obtain ⟨hL, hroom⟩ := hall p
  have hinit : (s.loc p).init = true := by
    have hpcInv := hL.pc
    unfold PcInv at hpcInv
    rw [hpc] at hpcInv
    exact hpcInv
  obtain ⟨k, hk⟩ := hL.base.mapped hinit
  have hindex := hroom.index (Or.inr hpc)
  refine ⟨k, (s.loc p).conf.bufOffset (s.loc p).index, ⟨hinit, hk.state_eq⟩,
    hk.addr_eq _ hindex, hroom.room (by rw [hpc]; rfl), ?_, buffersApart (fun q => (hall q).1) k⟩
  show _ ≤ (s.shared.shms k).conf.managedShmSize
  rw [← hk.conf_eq]
  exact ShmConf.bufOffset_add_le _ hindex

/-- One writer and one small message. -/
def smallSteps : List (Unit × Step) :=
  stepsOf () ([Step.acquireBlockToWrite 100] ++ createSteps ++ [Step.needRemap] ++ searchSteps)

/-- A run that meets the condition and ends in a granted write. -/
theorem acquireBlockToWrite_hasRoom_small :
    ∃ k off, HasRoom ((component.parallelOk KeepsRoom).exec
      (initial fun _ => .writeOnly) smallSteps) () k off := by
  apply acquireBlockToWrite_hasRoom
  · apply System.reachable_exec
    · exact initial_init _
    · decide +kernel
  · decide +kernel

/-- One writer and one message of 32 MiB + 1001 bytes: the recreated
    segment has the largest tier, whose buffers are one byte short. -/
def largeSteps : List (Unit × Step) :=
  stepsOf () ([Step.acquireBlockToWrite 33555433] ++ createSteps ++ [Step.needRemap] ++
    recreateSteps ++ createSteps ++ searchSteps)

/-- Without the condition a write is granted that has no room. -/
theorem acquireBlockToWrite_short : ∃ s : Global Kernel Object Unit, channel.Reachable s ∧
    (s.loc ()).pc = .writing ∧ ¬ ∃ k off, HasRoom s () k off := by
  refine ⟨channel.exec (initial fun _ => .writeOnly) largeSteps, ?_, ?_, ?_⟩
  · exact System.reachable_exec _ (initial_init _) largeSteps (by decide +kernel)
  · decide +kernel
  · intro hroom
    obtain ⟨k, off, h⟩ := hroom
    exact absurd h.room (by decide +kernel)

end runs

end CyberRT.Transport.Shm.Segment
