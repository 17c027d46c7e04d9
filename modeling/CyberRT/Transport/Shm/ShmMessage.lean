import CyberRT.Message.MessageTraits
import CyberRT.Transport.ListenerCalls
import CyberRT.Transport.MessageInfoHash
import CyberRT.Transport.Shm.ReadGrant

/-! # A message through shared memory

    `Transmit` puts payload and `MessageInfo` into a block one behind the
    other and their sizes into its header. `ReadMessage` finds the
    `MessageInfo` by these sizes and hands the block to the handler of the
    channel; the adapter that `AddListener` has wrapped around a listener
    parses the payload.

    Memory is the bytes of every mapping, headers included. An access
    outside of a mapping is `none`. The lock words and the `State` are with
    the `Segment` objects. -/

namespace CyberRT.Transport.Shm

open CyberRT.Framework CyberRT.Message

/-! ## Section 1: Memory -/

/-- The bytes of the mappings, by `shmid`. -/
abbrev Contents : Type := Nat → List UInt8

namespace Contents

def load (c : Contents) (k off len : Nat) : Option (List UInt8) := Buffer.read (c k) off len

def store (c : Contents) (k off : Nat) (bs : List UInt8) : Option Contents :=
  (Buffer.write (c k) off bs).map (Function.update c k)

/-- A function that works on the bytes of one mapping. -/
def within (c : Contents) (k : Nat) (f : List UInt8 → Option (Bool × List UInt8)) :
    Option (Bool × Contents) :=
  (f (c k)).map fun r => (r.1, Function.update c k r.2)

variable {c c' : Contents} {k off i len : Nat} {bs : List UInt8}

theorem within_write (c : Contents) (k off : Nat) (bs : List UInt8) :
    (c.within k fun bytes => (Buffer.write bytes off bs).map fun bytes => (true, bytes)) =
      (c.store k off bs).map fun c => (true, c) := by
  rw [within, store, Option.map_map, Option.map_map]
  rfl

theorem load_of_store (h : c.store k off bs = some c') : c'.load k off bs.length = some bs := by
  obtain ⟨bytes, hwrite, rfl⟩ := Option.map_eq_some_iff.mp h
  rw [load, Function.update_self]
  exact Buffer.read_of_write hwrite

theorem load_of_store_of_disjoint (h : c.store k off bs = some c')
    (hdisjoint : i + len ≤ off ∨ off + bs.length ≤ i) : c'.load k i len = c.load k i len := by
  obtain ⟨bytes, hwrite, rfl⟩ := Option.map_eq_some_iff.mp h
  rw [load, Function.update_self]
  exact Buffer.read_of_write_of_disjoint hwrite hdisjoint

theorem exists_store (c : Contents) (k off : Nat) (bs : List UInt8)
    (h : off + bs.length ≤ (c k).length) :
    ∃ c', c.store k off bs = some c' ∧ (c' k).length = (c k).length := by
  have hwrite : ∃ bytes, Buffer.write (c k) off bs = some bytes := ⟨_, Buffer.write_of_le h⟩
  obtain ⟨bytes, hbytes⟩ := hwrite
  refine ⟨Function.update c k bytes, by rw [store, hbytes]; rfl, ?_⟩
  rw [Function.update_self]
  exact Buffer.length_of_write hbytes

end Contents

/-! ## Section 2: Transmitter and dispatcher -/

/-- `WritableBlock` and `ReadableBlock`. A pointer to a header is the `shmid`
    of the block array, the index tells which header. -/
structure BlockHandle where
  index : Nat
  block : Nat
  buf   : Segment.Addr
  deriving DecidableEq

/-- What `AcquireBlockToWrite` or `AcquireBlockToRead` has filled in. -/
def Segment.Object.handle (l : Segment.Object) : Option BlockHandle :=
  match l.blocks, l.blockBufAddr l.index with
  | some k, some addr => some ⟨l.index, k, addr⟩
  | _, _              => none

/-- The offsets of `msg_size_` and `msg_info_size_` in a header. -/
def msgSizeOffset (index : Nat) : Nat := ShmConf.blockOffset index + 16
def msgInfoSizeOffset (index : Nat) : Nat := ShmConf.blockOffset index + 24

/-- An `int` converted to `size_t`. -/
def toSizeT (x : Int) : Nat := (x % 2 ^ 64).toNat

section transmission
variable {M : Type} (T : MessageTraits M) (hash : Identity → UInt64)

/-- `Transmit` with its block acquired; `notified` is what `Notify` returns. -/
def transmit (c : Contents) (wb : BlockHandle) (msg : M) (msgInfo : HashedMessageInfo)
    (notified : Bool) : Option (Bool × Contents) := do
  let msgSize := toSizeT (T.byteSize msg)
  -- the room for the payload is taken from the payload itself
  let (ok, c) ← c.within wb.buf.shmid fun bytes =>
    T.serializeToArray msg bytes wb.buf.offset (toInt32 msgSize)
  if !ok then return (false, c)
  let c ← c.store wb.block (msgSizeOffset wb.index) (leBytes 8 msgSize)
  let (ok, c) ← c.within wb.buf.shmid fun bytes =>
    msgInfo.serializeToArray bytes (wb.buf.offset + msgSize) MessageInfo.kSize
  if !ok then return (false, c)
  let c ← c.store wb.block (msgInfoSizeOffset wb.index) (leBytes 8 MessageInfo.kSize)
  return (notified, c)

/-- A listener's call. -/
structure HeardMessage (M : Type) where
  listener : Nat
  msg      : M
  msgInfo  : HashedMessageInfo

/-- `listener_adapter`: the calls of its listener. `fresh` is a message just
    made. -/
def listenerAdapter (fresh : M) (c : Contents) (rb : BlockHandle) (msgInfo : HashedMessageInfo)
    (listener : Nat) : Option (List (HeardMessage M)) := do
  let msgSize ← (c.load rb.block (msgSizeOffset rb.index) 8).map ofLeBytes
  let (ok, msg) ← T.parseFromArray fresh (c rb.buf.shmid) rb.buf.offset (toInt32 msgSize)
  if !ok then return []
  return [⟨listener, msg, msgInfo⟩]

/-- `OnMessage`, with the handler of the channel. -/
def onMessage (fresh : M) (c : Contents) (handler : ListenerHandler) (rb : BlockHandle)
    (msgInfo : HashedMessageInfo) : Option (List (HeardMessage M)) :=
  ((handler.run msgInfo.senderId.hashValue.toNat).mapM
    (listenerAdapter T fresh c rb msgInfo)).map List.flatten

/-- `ReadMessage` with its block acquired: the calls of listeners. -/
def readMessage (fresh : M) (c : Contents) (handler : ListenerHandler) (rb : BlockHandle) :
    Option (List (HeardMessage M)) := do
  let msgSize ← (c.load rb.block (msgSizeOffset rb.index) 8).map ofLeBytes
  let msgInfoSize ← (c.load rb.block (msgInfoSizeOffset rb.index) 8).map ofLeBytes
  let (ok, msgInfo) ← HashedMessageInfo.deserializeFromArray hash ⟨.unset, 0, .unset⟩
    (c rb.buf.shmid) (rb.buf.offset + msgSize) msgInfoSize
  if !ok then return []
  onMessage T fresh c handler rb msgInfo

end transmission

/-! ## Section 3: One block -/

/-- A message lies in the block. -/
structure Carries (c : Contents) (b : BlockHandle) (payload : List UInt8) (info : MessageInfo) :
    Prop where
  msgSize     : c.load b.block (msgSizeOffset b.index) 8 = some (leBytes 8 payload.length)
  msgInfoSize : c.load b.block (msgInfoSizeOffset b.index) 8 = some (leBytes 8 MessageInfo.kSize)
  content     : c.load b.buf.shmid b.buf.offset payload.length = some payload
  msgInfo     : c.load b.buf.shmid (b.buf.offset + payload.length) MessageInfo.kSize =
    some info.serializeTo

/-- Nobody has written to the header, or to the first bytes of the buffer. -/
structure Unwritten (c c' : Contents) (b : BlockHandle) (size : Nat) : Prop where
  header : ∀ i len, ShmConf.blockOffset b.index ≤ i →
    i + len ≤ ShmConf.blockOffset b.index + ShmConf.sizeofBlock →
      c'.load b.block i len = c.load b.block i len
  buf    : ∀ i len, b.buf.offset ≤ i → i + len ≤ b.buf.offset + size →
    c'.load b.buf.shmid i len = c.load b.buf.shmid i len

/-- The buffer lies in the mapping of the header, behind the header. -/
structure BlockHandle.Sound (b : BlockHandle) : Prop where
  shmid  : b.buf.shmid = b.block
  behind : ShmConf.blockOffset b.index + ShmConf.sizeofBlock ≤ b.buf.offset

variable {c c' : Contents} {b : BlockHandle} {payload : List UInt8} {info : MessageInfo}

theorem Carries.of_unwritten (h : Carries c b payload info)
    (hkept : Unwritten c c' b (payload.length + MessageInfo.kSize)) :
    Carries c' b payload info := by
  constructor
  · rw [hkept.header _ _ (by unfold msgSizeOffset; omega)
      (by unfold msgSizeOffset ShmConf.sizeofBlock; omega)]
    exact h.msgSize
  · rw [hkept.header _ _ (by unfold msgInfoSizeOffset; omega)
      (by unfold msgInfoSizeOffset ShmConf.sizeofBlock; omega)]
    exact h.msgInfoSize
  · rw [hkept.buf _ _ (by omega) (by omega)]
    exact h.content
  · rw [hkept.buf _ _ (by omega) (by omega)]
    exact h.msgInfo

section transmit
variable {M : Type} {T : MessageTraits M} {msg : M} {msgInfo : HashedMessageInfo}
  {notified ok : Bool}

/-- The four stores of a `Transmit`. -/
theorem transmit_eq (c : Contents) (b : BlockHandle) (msg : M) (msgInfo : HashedMessageInfo)
    (notified : Bool) (hlen : (T.content msg).length < 2 ^ 31) :
    transmit T c b msg msgInfo notified =
      ((c.store b.buf.shmid b.buf.offset (T.content msg)).bind fun c =>
        (c.store b.block (msgSizeOffset b.index) (leBytes 8 (T.content msg).length)).bind fun c =>
          (c.store b.buf.shmid (b.buf.offset + (T.content msg).length)
            msgInfo.serializeTo).bind fun c =>
              (c.store b.block (msgInfoSizeOffset b.index)
                (leBytes 8 MessageInfo.kSize)).bind fun c => some (notified, c)) := by
  have hsize : T.byteSize msg = (T.content msg).length := toInt32_of_lt hlen
  have hmsgSize : toSizeT (T.byteSize msg) = (T.content msg).length := by
    rw [hsize, toSizeT]
    omega
  have hcontent : (c.within b.buf.shmid fun bytes => T.serializeToArray msg bytes b.buf.offset
      (toInt32 (T.content msg).length)) =
        (c.store b.buf.shmid b.buf.offset (T.content msg)).map fun c => (true, c) := by
    rw [← Contents.within_write]
    congr 1
    funext bytes
    exact if_neg (by omega)
  have hmsgInfo : ∀ c : Contents, (c.within b.buf.shmid fun bytes => msgInfo.serializeToArray bytes
      (b.buf.offset + (T.content msg).length) MessageInfo.kSize) =
        (c.store b.buf.shmid (b.buf.offset + (T.content msg).length) msgInfo.serializeTo).map
          fun c => (true, c) := by
    intro c
    rw [← Contents.within_write]
    congr 1
    funext bytes
    exact msgInfo.serializeToArray_eq bytes _ (Nat.le_refl _)
  simp only [transmit, hmsgSize, hcontent, hmsgInfo, Option.bind_eq_bind, Option.bind_map]
  rfl

/-- A `Transmit` into a mapping with room returns what `Notify` returns. -/
theorem transmit_of_room (hb : b.Sound) (hlen : (T.content msg).length < 2 ^ 31)
    (hroom : b.buf.offset + (T.content msg).length + MessageInfo.kSize ≤ (c b.block).length)
    (msgInfo : HashedMessageInfo) (notified : Bool) :
    ∃ c', transmit T c b msg msgInfo notified = some (notified, c') := by
  have hbehind := hb.behind
  unfold ShmConf.sizeofBlock at hbehind
  have hinfo : msgInfo.serializeTo.length = MessageInfo.kSize := by
    rw [HashedMessageInfo.serializeTo_eq, MessageInfo.serializeTo_length]
  rw [transmit_eq c b msg msgInfo notified hlen, hb.shmid]
  -- no store changes the length of the mapping
  obtain ⟨c₁, h₁, hlen₁⟩ := Contents.exists_store c b.block b.buf.offset (T.content msg)
    (by omega)
  obtain ⟨c₂, h₂, hlen₂⟩ := Contents.exists_store c₁ b.block (msgSizeOffset b.index)
    (leBytes 8 (T.content msg).length)
    (by rw [leBytes_length]; unfold msgSizeOffset; omega)
  obtain ⟨c₃, h₃, hlen₃⟩ := Contents.exists_store c₂ b.block
    (b.buf.offset + (T.content msg).length) msgInfo.serializeTo (by omega)
  obtain ⟨c₄, h₄, -⟩ := Contents.exists_store c₃ b.block (msgInfoSizeOffset b.index)
    (leBytes 8 MessageInfo.kSize)
    (by rw [leBytes_length]; unfold msgInfoSizeOffset; omega)
  refine ⟨c₄, ?_⟩
  rw [h₁, Option.bind_some, h₂, Option.bind_some, h₃, Option.bind_some, h₄, Option.bind_some]

/-- **Transmit**: the message lies in the block. -/
theorem carries_of_transmit (hb : b.Sound) (hlen : (T.content msg).length < 2 ^ 31)
    (h : transmit T c b msg msgInfo notified = some (ok, c')) :
    Carries c' b (T.content msg) msgInfo.plain := by
  have hbehind := hb.behind
  unfold ShmConf.sizeofBlock at hbehind
  have hinfo : msgInfo.serializeTo.length = MessageInfo.kSize := by
    rw [HashedMessageInfo.serializeTo_eq, MessageInfo.serializeTo_length]
  rw [transmit_eq c b msg msgInfo notified hlen, hb.shmid] at h
  obtain ⟨c₁, h₁, h⟩ := Option.bind_eq_some_iff.mp h
  obtain ⟨c₂, h₂, h⟩ := Option.bind_eq_some_iff.mp h
  obtain ⟨c₃, h₃, h⟩ := Option.bind_eq_some_iff.mp h
  obtain ⟨c₄, h₄, h⟩ := Option.bind_eq_some_iff.mp h
  cases h
  have hsizes : (leBytes 8 (T.content msg).length).length = 8 ∧
      (leBytes 8 MessageInfo.kSize).length = 8 := ⟨leBytes_length _ _, leBytes_length _ _⟩
  -- each load is led back over the stores behind its own
  constructor
  · rw [Contents.load_of_store_of_disjoint h₄
        (by unfold msgSizeOffset msgInfoSizeOffset; omega),
      Contents.load_of_store_of_disjoint h₃ (by unfold msgSizeOffset; omega)]
    exact Contents.load_of_store h₂
  · exact Contents.load_of_store h₄
  · rw [hb.shmid, Contents.load_of_store_of_disjoint h₄ (by unfold msgInfoSizeOffset; omega),
      Contents.load_of_store_of_disjoint h₃ (by omega),
      Contents.load_of_store_of_disjoint h₂ (by unfold msgSizeOffset; omega)]
    exact Contents.load_of_store h₁
  · rw [hb.shmid, Contents.load_of_store_of_disjoint h₄ (by unfold msgInfoSizeOffset; omega),
      ← hinfo]
    exact Contents.load_of_store h₃

end transmit

section read
variable {M : Type} {T : MessageTraits M} {hash : Identity → UInt64}

/-- The adapter of a message kept as a string: an empty payload is not
    parsed, and the listener not called. -/
theorem listenerAdapter_of_carries (K : T.KeepsString) (h : Carries c b payload info)
    (hlen : payload.length < 2 ^ 31) (fresh : M) (msgInfo : HashedMessageInfo) (listener : Nat) :
    listenerAdapter T fresh c b msgInfo listener =
      some (if payload = [] then [] else [⟨listener, K.assign fresh payload, msgInfo⟩]) := by
  have hsize : ofLeBytes (leBytes 8 payload.length) = payload.length :=
    ofLeBytes_leBytes_of_lt (by omega)
  have hcontent : Buffer.read (c b.buf.shmid) b.buf.offset payload.length = some payload :=
    h.content
  unfold listenerAdapter
  rw [h.msgSize]
  simp only [Option.map_some, hsize, Option.bind_eq_bind, Option.bind_some, toInt32_of_lt hlen,
    K.parse, parseString]
  by_cases hempty : payload = []
  · subst hempty
    rfl
  · have hpos := List.length_pos_iff.mpr hempty
    rw [if_neg (by omega), if_neg hempty, Int.toNat_natCast, hcontent]
    rfl

variable (hash) in
/-- **ReadMessage**: all listeners of the sender are called with the message,
    or none of them. -/
theorem readMessage_of_carries (K : T.KeepsString) (h : Carries c b payload info)
    (hlen : payload.length < 2 ^ 31) (fresh : M) (handler : ListenerHandler) :
    readMessage T hash fresh c handler b =
      some (if payload = [] then []
        else (handler.run (hash info.senderId).toNat).map fun listener =>
          ⟨listener, K.assign fresh payload, .ofPlain hash info⟩) := by
  have hsize : ofLeBytes (leBytes 8 payload.length) = payload.length :=
    ofLeBytes_leBytes_of_lt (by omega)
  have hinfoSize : ofLeBytes (leBytes 8 MessageInfo.kSize) = MessageInfo.kSize :=
    ofLeBytes_leBytes_of_lt (by decide)
  have hinfo := HashedMessageInfo.deserializeFromArray_of_read hash ⟨.unset, 0, .unset⟩
    (h.msgInfo : Buffer.read _ _ _ = _)
  unfold readMessage
  rw [h.msgSize, h.msgInfoSize]
  simp only [Option.map_some, hsize, hinfoSize, Option.bind_eq_bind, Option.bind_some, hinfo]
  show onMessage T fresh c handler b (.ofPlain hash info) = _
  unfold onMessage
  rw [funext (listenerAdapter_of_carries K h hlen fresh _)]
  have hcalls := List.mapM_pure (m := Option)
    (l := handler.run (HashedMessageInfo.ofPlain hash info).senderId.hashValue.toNat)
    (f := fun listener => if payload = [] then []
      else [(⟨listener, K.assign fresh payload, .ofPlain hash info⟩ : HeardMessage M)])
  simp only [Option.pure_def] at hcalls
  rw [hcalls, Option.map_some]
  by_cases hempty : payload = []
  · simp [hempty]
  · simp only [if_neg hempty, ← List.flatMap_def]
    exact congrArg some (List.flatMap_pure_eq_map _ _)

end read

/-! ## Section 4: The announced block -/

namespace Segment

/-- A writer has found its block. -/
def Pc.found : Pc → Bool
  | .increaseWroteNum | .writing => true
  | _ => false

/-- **Invariant**: the block a writer has found is one of those the object
    has laid out. -/
def Granted (l : Object) : Prop := l.pc.found = true → l.index < l.conf.blockNum

theorem granted_of_pc {l : Object} (h : l.pc.found = false) : Granted l := by
  intro hfound
  rw [h] at hfound
  cases hfound

theorem granted_checkIndex (l : Object) : Granted l.checkIndex := by
  unfold Object.checkIndex
  split <;> exact granted_of_pc rfl

theorem granted_checkSize (l : Object) (result : Bool) : Granted (l.checkSize result) := by
  unfold Object.checkSize
  split <;> split <;> exact granted_of_pc rfl

theorem granted_opened (l : Object) (ok : Bool) : Granted (l.opened ok) := by
  unfold Object.opened
  split
  · split <;> exact granted_of_pc rfl
  · split
    · exact granted_checkIndex l
    · exact granted_of_pc rfl
  · exact granted_checkSize l ok
  · split <;> exact granted_of_pc rfl
  · split <;> exact granted_of_pc rfl

theorem granted_callInit (l : Object) : Granted l.callInit := by
  unfold Object.callInit
  split <;> exact granted_of_pc rfl

theorem granted_removed (l : Object) (by_ : RemoveBy) : Granted (l.removed by_) := by
  unfold Object.removed
  split
  · exact granted_of_pc rfl
  · split
    · exact granted_of_pc rfl
    · exact granted_opened _ _
  · exact granted_of_pc rfl

/-- **Step lemma**. -/
theorem granted_step (b : Step) {g : Kernel} {l : Object} (h : Granted l) (hg : b.gate g l) :
    Granted (b.effect g l).2 := by
  have hpc := hg.1
  have hstate : ∀ f : Nat → Kernel × Object, (∀ k, Granted (f k).2) →
      Granted (withState g l f).2 := by
    intro f hf
    apply @withState_rec g l f (fun r => Granted r.2)
    · exact fun k _ => hf k
    · exact fun _ => granted_of_pc rfl
  have hblocks : ∀ f : Nat → Kernel × Object, (∀ k, Granted (f k).2) →
      Granted (withBlocks g l f).2 := by
    intro f hf
    apply @withBlocks_rec g l f (fun r => Granted r.2)
    · exact fun k _ => hf k
    · exact fun _ => granted_of_pc rfl
  cases b with
  | acquireBlockToWrite msgSize =>
    dsimp only [Step.effect]
    split
    · exact granted_of_pc rfl
    · exact granted_callInit _
  | acquireBlockToRead index =>
    dsimp only [Step.effect]
    split
    · exact granted_checkIndex _
    · exact granted_callInit _
  | destroy =>
    dsimp only [Step.effect]
    split
    · exact granted_of_pc rfl
    · exact h
  | needRemap =>
    apply hstate
    intro k
    split
    · exact granted_of_pc rfl
    split
    · exact granted_checkSize l true
    · exact granted_of_pc rfl
  | reset by_ =>
    dsimp only [Step.effect]
    split <;> cases by_ <;> exact granted_of_pc rfl
  | shmgetCreate | shmgetEexist | shmgetEinval | shmatCreate | shmatCreateFail | newState
  | newBlocks | shmatOpen => exact granted_of_pc rfl
  | setNeedRemap | loadCeilingCreate | loadCeilingOpen | wroteNum | decreaseReferenceCounts =>
    exact hstate _ fun _ => granted_of_pc rfl
  | shmgetCreateFail | rmidCreate | shmgetOpenFail | shmatOpenFail => exact granted_opened _ _
  | shmgetOpen | shmgetRemove by_ =>
    dsimp only [Step.effect]
    split
    · exact granted_of_pc rfl
    · exact h
  | increaseReferenceCounts => exact hstate _ fun _ => granted_opened _ _
  | shmgetRemoveFail by_ | shmctlRemove by_ | shmctlRemoveFail by_ => exact granted_removed _ _
  | tryLockForWrite =>
    exact hblocks _ fun _ _ => wrapIndex_lt (ShmConf.blockNum_pos _) _
  | tryLockForWriteFail =>
    exact hblocks _ fun _ => granted_of_pc (by rw [hpc]; rfl)
  | increaseWroteNum => exact hstate _ fun _ _ => h (by rw [hpc]; rfl)
  | releaseWrittenBlock | releaseReadBlock =>
    dsimp only [Step.effect]
    split
    · exact hblocks _ fun _ => granted_of_pc rfl
    · exact granted_of_pc rfl
  | tryLockForRead | tryLockForReadFail => exact hblocks _ fun _ => granted_of_pc rfl
  | referenceCounts =>
    apply hstate
    intro k
    split <;> exact granted_of_pc rfl

theorem Evolves.trans {g₁ g₂ g₃ : Kernel} (h : Evolves g₁ g₂) (h' : Evolves g₂ g₃) :
    Evolves g₁ g₃ where
  next_le    := Nat.le_trans h.next_le h'.next_le
  conf_eq    := by
    intro k hk
    rw [h'.conf_eq k (Nat.lt_of_lt_of_le hk h.next_le), h.conf_eq k hk]
  ceiling_eq := by
    intro k hk hceiling
    have hnext := Nat.lt_of_lt_of_le hk h.next_le
    rw [h'.ceiling_eq k hnext, h.ceiling_eq k hk hceiling]
    rw [h.ceiling_eq k hk hceiling, h.conf_eq k hk, hceiling]

section runs
variable {Pid : Type} [DecidableEq Pid] {s s' : Global Kernel Object Pid}

/-- The layout and the blocks of writers along every run that loads the
    ceilings of constructed `State`s. -/
theorem granted_reachable (h : (component.parallelOk LoadsCeiling).Reachable s) (p : Pid) :
    Layout s.shared (s.loc p) ∧ Granted (s.loc p) :=
  ((layout_relyGuarantee (fun _ _ _ hb => hb) (fun _ => granted_of_pc rfl)
    fun b _ _ _ hX hg _ => granted_step b hX hg).reachable h).2 p

theorem evolves_run (hs : (component.parallelOk LoadsCeiling).Reachable s)
    {as : List (Pid × Step)} (h : (component.parallelOk LoadsCeiling).Run s as s') :
    Evolves s.shared s'.shared := by
  induction h with
  | nil s => exact .refl _
  | cons a as hstep _ ih =>
    have hmove := move_step a.2 (granted_reachable hs a.1).1 hstep.1.1
    have hnext := ih (.step a hs hstep)
    obtain ⟨-, rfl⟩ := hstep
    exact hmove.evolves.trans hnext

/-- What a writer holds. -/
theorem handle_of_writing (hs : (component.parallelOk LoadsCeiling).Reachable s) {p : Pid}
    (hp : (s.loc p).pc = .writing) {wb : BlockHandle} (hwb : (s.loc p).handle = some wb) :
    wb.block < s.shared.next ∧ wb.index < (s.shared.shms wb.block).conf.blockNum ∧
      wb.buf = ⟨wb.block, (s.shared.shms wb.block).conf.bufOffset wb.index⟩ := by
  obtain ⟨hL, hgranted⟩ := granted_reachable hs p
  have hinit := hL.pc
  unfold PcInv at hinit
  rw [hp] at hinit
  obtain ⟨k, hk⟩ := hL.base.mapped hinit
  have hindex := hgranted (by rw [hp]; rfl)
  have haddr := hk.addr_eq _ hindex
  rw [Object.handle, hk.blocks_eq, haddr] at hwb
  cases hwb
  rw [hk.conf_eq] at hindex ⊢
  exact ⟨hk.shmid_lt, hindex, rfl⟩

/-- **The announced block**: a reader that holds the header a writer held
    holds the same buffer. -/
theorem handle_of_reading (hs : (component.parallelOk LoadsCeiling).Reachable s)
    {as : List (Pid × Step)} (hrun : (component.parallelOk LoadsCeiling).Run s as s') {p q : Pid}
    (hp : (s.loc p).pc = .writing) (hq : (s'.loc q).pc = .reading) {wb rb : BlockHandle}
    (hwb : (s.loc p).handle = some wb) (hrb : (s'.loc q).handle = some rb)
    (hblock : rb.block = wb.block) (hindex : rb.index = wb.index) : rb = wb ∧ wb.Sound := by
  obtain ⟨hlt, hwrote, hbuf⟩ := handle_of_writing hs hp hwb
  have hL := (granted_reachable (hs.of_run hrun) q).1
  have hinit := hL.pc
  unfold PcInv at hinit
  rw [hq] at hinit
  obtain ⟨k, hk⟩ := hL.base.mapped hinit
  -- the mapping has kept its configuration since the writer was in it
  have hconf := (evolves_run hs hrun).conf_eq _ hlt
  unfold Object.handle at hrb
  rw [hk.blocks_eq] at hrb
  rcases haddr : (s'.loc q).blockBufAddr (s'.loc q).index with _ | addr
  · simp [haddr] at hrb
  · simp only [haddr, Option.some.injEq] at hrb
    subst hrb
    dsimp only at hblock hindex
    subst hblock
    have hconf' := hk.conf_eq.trans hconf
    have hread := hk.addr_eq (s'.loc q).index (by rw [hconf', hindex]; exact hwrote)
    rw [haddr, hconf', hindex, ← hbuf] at hread
    obtain ⟨index, block, buf⟩ := wb
    obtain rfl : addr = buf := Option.some.inj hread
    dsimp only at *
    refine ⟨by rw [hindex], by rw [hbuf], ?_⟩
    rw [hbuf]
    exact ShmConf.header_le_bufOffset _ hwrote _

end runs

end Segment

/-! ## Section 5: Round trip -/

section heard
variable {M : Type} {T : MessageTraits M} {msg : M} {msgInfo : HashedMessageInfo}
  {hash : Identity → UInt64} {handler : ListenerHandler} {key : ListenerKey} {listener : Nat}

/-- The listener is called exactly once, with an equal payload and an equal
    `MessageInfo`. -/
def HeardOnce (T : MessageTraits M) (listener : Nat) (msg : M) (msgInfo : HashedMessageInfo)
    (calls : Option (List (HeardMessage M))) : Prop :=
  ∃ cs heard, calls = some cs ∧ cs.filter (·.listener = listener) = [heard] ∧
    T.content heard.msg = T.content msg ∧ heard.msgInfo.eq msgInfo = true

/-- **Round trip** through a block, for a listener of all senders or of the
    one that sends. -/
theorem heardOnce_iff (K : T.KeepsString) (h : Carries c b (T.content msg) msgInfo.plain)
    (hlen : (T.content msg).length < 2 ^ 31) (fresh : M)
    (hnew : ∀ sender, listener ∉ handler.run sender)
    (hsender : ∀ oppoId ∈ key.oppoId, oppoId = msgInfo.senderId.hashValue.toNat) :
    HeardOnce T listener msg msgInfo
      (readMessage T hash fresh c (handler.connect key listener) b) ↔
        T.content msg ≠ [] ∧
          (key.oppoId = none ∨ hash msgInfo.senderId.bytes = msgInfo.senderId.hashValue) := by
  have hread := readMessage_of_carries hash K h hlen fresh (handler.connect key listener)
  have hcalls := ListenerHandler.filter_run_connect key
    (hash msgInfo.senderId.bytes).toNat (hnew (hash msgInfo.senderId.bytes).toNat)
  by_cases hempty : T.content msg = []
  · rw [if_pos hempty] at hread
    constructor
    · rintro ⟨cs, heard, hcs, hheard, -⟩
      cases hread.symm.trans hcs
      cases hheard
    · exact fun h => absurd hempty h.1
  rw [if_neg hempty] at hread
  -- the key of the listener is that of the sender it hears
  have hhears : (key.oppoId = none ∨ key.oppoId = some (hash msgInfo.senderId.bytes).toNat) ↔
      (key.oppoId = none ∨ hash msgInfo.senderId.bytes = msgInfo.senderId.hashValue) := by
    rcases hoppo : key.oppoId with _ | oppoId
    · simp
    · rw [hsender oppoId hoppo, ← UInt64.toNat_inj]
      simp [eq_comm]
  rw [← hhears]
  have hheard := congrArg (List.map fun listener => (⟨listener, K.assign fresh (T.content msg),
    .ofPlain hash msgInfo.plain⟩ : HeardMessage M)) hcalls
  constructor
  · rintro ⟨cs, heard, hcs, hone, -⟩
    refine ⟨hempty, ?_⟩
    by_contra hdeaf
    cases hread.symm.trans hcs
    rw [List.filter_map] at hone
    rw [if_neg hdeaf] at hheard
    cases hheard.symm.trans hone
  · rintro ⟨-, hhear⟩
    rw [if_pos hhear] at hheard
    refine ⟨_, ⟨listener, K.assign fresh (T.content msg), .ofPlain hash msgInfo.plain⟩, hread, ?_,
      K.content_assign _ _, HashedMessageInfo.eq_iff.mpr rfl⟩
    rw [List.filter_map]
    exact hheard

end heard

open Segment in
/-- **Messages through shared memory**: in a run whose objects load the
    ceilings of constructed `State`s, a message that was transmitted through
    a block and read from it reaches the listener exactly once and as it was
    sent, if and only if it is not empty and a listener of this sender only
    is registered under the hash of the sender's bytes. -/
theorem transmit_heardOnce {Pid : Type} [DecidableEq Pid] {s s' : Global Kernel Object Pid}
    (hs : (component.parallelOk LoadsCeiling).Reachable s) {as : List (Pid × Step)}
    (hrun : (component.parallelOk LoadsCeiling).Run s as s') {p q : Pid}
    (hp : (s.loc p).pc = .writing) (hq : (s'.loc q).pc = .reading) {wb rb : BlockHandle}
    (hwb : (s.loc p).handle = some wb) (hrb : (s'.loc q).handle = some rb)
    (hblock : rb.block = wb.block) (hindex : rb.index = wb.index) (hash : Identity → UInt64)
    {handler : ListenerHandler} {key : ListenerKey} {listener : Nat}
    (hnew : ∀ sender, listener ∉ handler.run sender) {msgInfo : HashedMessageInfo}
    (hsender : ∀ oppoId ∈ key.oppoId, oppoId = msgInfo.senderId.hashValue.toNat)
    (c c' c'' : Contents) (notified : Bool) :
    (∀ msg fresh : RawMessage, msg.message.length ≤ messageSizeMore →
      transmit RawMessage.traits c wb msg msgInfo notified = some (true, c') →
      Unwritten c' c'' wb (msg.message.length + MessageInfo.kSize) →
        (HeardOnce RawMessage.traits listener msg msgInfo
          (readMessage RawMessage.traits hash fresh c'' (handler.connect key listener) rb) ↔
            msg.message ≠ [] ∧ (key.oppoId = none ∨
              hash msgInfo.senderId.bytes = msgInfo.senderId.hashValue))) ∧
    (∀ msg fresh : PyMessageWrap, msg.data.length ≤ messageSizeMore →
      transmit PyMessageWrap.traits c wb msg msgInfo notified = some (true, c') →
      Unwritten c' c'' wb (msg.data.length + MessageInfo.kSize) →
        (HeardOnce PyMessageWrap.traits listener msg msgInfo
          (readMessage PyMessageWrap.traits hash fresh c'' (handler.connect key listener) rb) ↔
            msg.data ≠ [] ∧ (key.oppoId = none ∨
              hash msgInfo.senderId.bytes = msgInfo.senderId.hashValue))) := by
  obtain ⟨rfl, hsound⟩ := handle_of_reading hs hrun hp hq hwb hrb hblock hindex
  unfold messageSizeMore
  constructor
  · intro msg fresh hlen htransmit hkept
    have hlt : (RawMessage.traits.content msg).length < 2 ^ 31 :=
      Nat.lt_of_le_of_lt hlen (by decide)
    have hcarries := (carries_of_transmit hsound hlt htransmit).of_unwritten hkept
    exact heardOnce_iff RawMessage.keepsString hcarries hlt fresh hnew hsender
  · intro msg fresh hlen htransmit hkept
    have hlt : (PyMessageWrap.traits.content msg).length < 2 ^ 31 :=
      Nat.lt_of_le_of_lt hlen (by decide)
    have hcarries := (carries_of_transmit hsound hlt htransmit).of_unwritten hkept
    exact heardOnce_iff PyMessageWrap.keepsString hcarries hlt fresh hnew hsender

/-! ### Block 0 -/

section block0
open Segment

/-- The writer makes the segment and is granted block 0. -/
def grantSteps : List (Bool × Step) :=
  stepsOf true ([Step.acquireBlockToWrite 1] ++ createSteps ++ [Step.needRemap] ++ searchSteps)

/-- The writer releases the block, the reader opens the segment and is
    granted it. -/
def readSteps : List (Bool × Step) :=
  stepsOf true [Step.releaseWrittenBlock] ++
  stepsOf false ([Step.acquireBlockToRead 0] ++ openSteps ++ [Step.needRemap, Step.tryLockForRead])

def block0 : BlockHandle := ⟨0, 0, ⟨0, 16416⟩⟩

def zeros : Contents := fun _ => List.replicate 20000 0

theorem block0_sound : block0.Sound := ⟨rfl, by decide⟩

theorem block0_room {n : Nat} (h : 16416 + n + MessageInfo.kSize ≤ 20000) :
    16416 + n + MessageInfo.kSize ≤ (zeros 0).length := by
  rw [zeros, List.length_replicate]
  exact h

def senderInfo : HashedMessageInfo :=
  ⟨.new HashedMessageInfo.stdHash true HashedMessageInfo.senderBytes, 7, .unset⟩

/-- Payload [7] is heard by a listener of all senders. -/
theorem transmit_heardOnce_oneByte : ∃ c',
    transmit RawMessage.traits zeros block0 ⟨[7], 0⟩ senderInfo true = some (true, c') ∧
    HeardOnce RawMessage.traits 10 ⟨[7], 0⟩ senderInfo
      (readMessage RawMessage.traits HashedMessageInfo.stdHash ⟨[], 0⟩ c'
        ((ListenerHandler.new 0).connect ⟨1, none⟩ 10) block0) := by
  obtain ⟨c', htransmit⟩ : ∃ c',
      transmit RawMessage.traits zeros block0 ⟨[7], 0⟩ senderInfo true = some (true, c') := by
    apply transmit_of_room block0_sound
    · decide
    · exact block0_room (by decide)
  refine ⟨c', htransmit, ?_⟩
  have hs : (component.parallelOk LoadsCeiling).Reachable
      ((component.parallelOk LoadsCeiling).exec (Segment.initial modes) grantSteps) :=
    System.reachable_exec (component.parallelOk LoadsCeiling) (Segment.initial_init modes)
      grantSteps (by decide +kernel)
  have hrun := System.run_exec (component.parallelOk LoadsCeiling)
    ((component.parallelOk LoadsCeiling).exec (Segment.initial modes) grantSteps) readSteps
    (by decide +kernel)
  have hp : (((component.parallelOk LoadsCeiling).exec (Segment.initial modes)
      grantSteps).loc true).handle = some block0 := by decide +kernel
  have hq : (((component.parallelOk LoadsCeiling).exec
      ((component.parallelOk LoadsCeiling).exec (Segment.initial modes) grantSteps) readSteps).loc
        false).handle = some block0 := by decide +kernel
  exact ((transmit_heardOnce hs hrun (by decide +kernel) (by decide +kernel) hp hq rfl rfl
    HashedMessageInfo.stdHash (fun _ hin => by cases hin) (by decide) zeros c' c' true).1
    ⟨[7], 0⟩ ⟨[], 0⟩ (by decide) htransmit ⟨fun _ _ _ _ => rfl, fun _ _ _ _ => rfl⟩).mpr
    ⟨by decide, .inl rfl⟩

/-- The writer and then the reader hold block 0. An empty message is
    transmitted through it, and nobody hears of it. -/
theorem transmit_emptyUnheard :
    ((channel.exec (Segment.initial modes) grantSteps).loc true).handle = some block0 ∧
    ((channel.exec (Segment.initial modes) (grantSteps ++ readSteps)).loc false).handle =
      some block0 ∧
    ∃ c', transmit RawMessage.traits zeros block0 ⟨[], 0⟩ senderInfo true = some (true, c') ∧
      readMessage RawMessage.traits HashedMessageInfo.stdHash ⟨[], 0⟩ c'
        ((ListenerHandler.new 0).connect ⟨1, none⟩ 10) block0 = some [] := by
  refine ⟨by decide +kernel, by decide +kernel, ?_⟩
  obtain ⟨c', htransmit⟩ : ∃ c',
      transmit RawMessage.traits zeros block0 ⟨[], 0⟩ senderInfo true = some (true, c') := by
    apply transmit_of_room block0_sound
    · decide
    · exact block0_room (by decide)
  have hcarries := carries_of_transmit block0_sound (by decide) htransmit
  exact ⟨c', htransmit, readMessage_of_carries _ RawMessage.keepsString hcarries (by decide) _ _⟩

end block0

end CyberRT.Transport.Shm
