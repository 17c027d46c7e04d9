import CyberRT.Transport.DeliveryOrder
import CyberRT.Transport.Shm.ReadableInfo

/-! # Shared memory under the multicast notifier

    All channels of one host, with the default notifier. `Notify` sends the
    `ReadableInfo` as one datagram to a group; the one thread of each
    dispatcher takes datagrams from its socket, drops those that are no
    `ReadableInfo`, that come from another host or are about a channel it has
    no segment for, and reads the block of any other.

    * Transmitters, blocks and the reading of a block are those of
      `Delivery`, a copy for each channel id. Its queues take no part.
    * The group is open: `listen` may be given any bytes. A network that
      loses, repeats and reorders datagrams and does not make up any is a
      restriction of the runs.

    `sent` (the datagrams of this host), `released` (the messages written and
    released) and `received` (the announcements a dispatcher has taken from
    its socket) are history. -/

namespace CyberRT.Transport.Multicast

open CyberRT.Framework CyberRT.Transport.Delivery
open CyberRT.Transport.Shm.ConditionNotifier (ReadableInfo)

variable {Tid Did : Type}

/-! ## Section 1: Datagrams -/

/-- `Listen`: `recvfrom` cuts off what does not fit into the buffer. -/
def receive (datagram : List UInt8) : Option ReadableInfo :=
  ReadableInfo.deserializeFrom (datagram.take 32)

theorem receive_serializeTo (info : ReadableInfo) : receive info.serializeTo = some info := by
  have hfits : info.serializeTo.take 32 = info.serializeTo := by
    apply List.take_of_length_le
    rw [ReadableInfo.serializeTo_length]
    decide
  rw [receive, hfits, ReadableInfo.deserializeFrom_serializeTo]

/-- `Listen` accepts what `Notify` may send and nothing else. -/
theorem receive_eq_some_iff (datagram : List UInt8) (info : ReadableInfo) :
    receive datagram = some info ↔ datagram = info.serializeTo := by
  constructor
  · intro h
    have hbytes := ReadableInfo.serializeTo_of_deserializeFrom h
    have hlength : (datagram.take 32).length = ReadableInfo.kSize := by
      rw [← hbytes]
      exact info.serializeTo_length
    have hshort : datagram.length ≤ 32 := by
      rw [List.length_take, ReadableInfo.kSize] at hlength
      omega
    rw [List.take_of_length_le hshort] at hbytes
    exact hbytes.symm
  · intro h
    rw [h]
    exact receive_serializeTo info

/-! ## Section 2: Model -/

/-- A datagram and, as history, what it announces. -/
structure Sent (Tid : Type) where
  datagram  : List UInt8
  channelId : UInt64
  info      : Delivery.ReadableInfo Tid
  deriving DecidableEq

/-- `segments` are the channels of `segments_`, `reading` is the channel whose
    block the thread reads. -/
structure State (Tid Did : Type) where
  channels : UInt64 → Delivery.State Tid Did
  segments : Did → UInt64 → Bool
  reading  : Did → Option UInt64
  sent     : List (Sent Tid)
  released : UInt64 → List (Msg Tid)
  received : UInt64 → Did → List (Delivery.ReadableInfo Tid)

inductive Label (Tid Did : Type) where
  | channel (channelId : UInt64) (a : Delivery.Label Tid Did)
  | addSegment (d : Did) (channelId : UInt64)
  | listen (d : Did) (datagram : List UInt8) (info : Delivery.ReadableInfo Tid)

/-- `listen` is not a step of a channel here. -/
def ofChannel : Delivery.Label Tid Did → Bool
  | .listen _ => false
  | _         => true

/-- The thread is through with the datagram. -/
def finishes : Delivery.Label Tid Did → Option Did
  | .acquireReadFail d | .lockBehind d | .releaseReadBlock d => some d
  | _ => none

section model
variable [DecidableEq Tid] [DecidableEq Did]

/-- The datagram a step of the channel sends. -/
def sentBy (hostId channelId : UInt64) (s : Delivery.State Tid Did) :
    Delivery.Label Tid Did → List (Sent Tid)
  | .notify t =>
    [{ datagram  := ReadableInfo.serializeTo ⟨hostId, UInt32.ofNat (s.tx t).index, channelId⟩
       channelId := channelId
       info      := s.info t }]
  | _ => []

/-- The message whose block a step of the channel releases. -/
def releasedBy (s : Delivery.State Tid Did) : Delivery.Label Tid Did → List (Msg Tid)
  | .releaseWrittenBlock t => [⟨t, (s.tx t).seq⟩]
  | _ => []

/-- The dispatcher turns to the block of an announcement. -/
def take (s : Delivery.State Tid Did) (d : Did) (info : Delivery.ReadableInfo Tid) :
    Delivery.State Tid Did :=
  s.setRx d { s.rx d with pc := .acquire, info := some info }

/-- What the thread makes of a `ReadableInfo` of this host. -/
def State.accept (s : State Tid Did) (d : Did) (channelId : UInt64)
    (info : Delivery.ReadableInfo Tid) : State Tid Did :=
  { s with
    channels := Function.update s.channels channelId (take (s.channels channelId) d info)
    reading  := Function.update s.reading d (some channelId)
    received := Function.update s.received channelId
      (Function.update (s.received channelId) d (s.received channelId d ++ [info])) }

def multicast (hostId : UInt64) : System (State Tid Did) (Label Tid Did) where
  init s := (∀ c, s.channels c = Delivery.initial) ∧ (∀ d, s.reading d = none) ∧ s.sent = [] ∧
    (∀ c, s.released c = []) ∧ ∀ c d, s.received c d = []
  action
    | .channel c a =>
      { gate   := fun s => ofChannel a = true ∧ (delivery.action a).gate (s.channels c)
        effect := fun s =>
          { s with
            channels := Function.update s.channels c ((delivery.action a).effect (s.channels c))
            reading  := fun d => if finishes a = some d then none else s.reading d
            sent     := s.sent ++ sentBy hostId c (s.channels c) a
            released := Function.update s.released c
              (s.released c ++ releasedBy (s.channels c) a) } }
    | .addSegment d c =>
      { gate   := fun _ => True
        effect := fun s =>
          { s with
            segments := Function.update s.segments d (Function.update (s.segments d) c true) } }
    | .listen d datagram info =>
      { gate   := fun s => s.reading d = none
        effect := fun s =>
          match receive datagram with
          | none => s
          | some readableInfo =>
            if readableInfo.hostId = hostId ∧ s.segments d readableInfo.channelId = true then
              s.accept d readableInfo.channelId
                { info with blockIndex := readableInfo.blockIndex.toNat }
            else s }

instance decidableGate (hostId : UInt64) :
    ∀ (a : Label Tid Did) (s : State Tid Did), Decidable (((multicast hostId).action a).gate s)
  | .channel c a, s  =>
    inferInstanceAs (Decidable (ofChannel a = true ∧ (delivery.action a).gate (s.channels c)))
  | .addSegment _ _, _ => inferInstanceAs (Decidable True)
  | .listen d _ _, s => inferInstanceAs (Decidable (s.reading d = none))

/-- The network makes up no datagram. -/
def Honest (s : State Tid Did) : Label Tid Did → Prop
  | .listen _ datagram info => ∃ x ∈ s.sent, x.datagram = datagram ∧ x.info = info
  | _ => True

instance decidableHonest (s : State Tid Did) : ∀ a, Decidable (Honest s a)
  | .listen _ datagram info =>
    inferInstanceAs (Decidable (∃ x ∈ s.sent, x.datagram = datagram ∧ x.info = info))
  | .channel _ _ | .addSegment _ _ => inferInstanceAs (Decidable True)

end model

def initial : State Tid Did where
  channels := fun _ => Delivery.initial
  segments := fun _ _ => false
  reading  := fun _ => none
  sent     := []
  released := fun _ => []
  received := fun _ _ => []

theorem initial_init [DecidableEq Tid] [DecidableEq Did] (hostId : UInt64) :
    (multicast hostId).init (initial : State Tid Did) :=
  ⟨fun _ => rfl, fun _ => rfl, rfl, fun _ => rfl, fun _ _ => rfl⟩

/-! ## Section 3: Blocks -/

section blocks
variable {b b' : Delivery.State Tid Did} {released : List (Msg Tid)}

/-- Block indexes fit into a `ReadableInfo`. -/
def Small (b : Delivery.State Tid Did) : Prop := ∀ t, (b.tx t).index < 2 ^ 32

/-- Block `i` of segment `k` has the bytes of the message. -/
def Holds (b : Delivery.State Tid Did) (k i : Nat) (m : Msg Tid) : Prop :=
  (b.segs k).content i = some m ∧ (b.segs k).intact i = true

/-- What a block holds was released before, or its transmitter is about to
    release it. -/
def Kept (b : Delivery.State Tid Did) (released : List (Msg Tid)) : Prop :=
  ∀ k i m, Holds b k i m →
    m ∈ released ∨ ∃ t, (b.tx t).pc = .releaseWrittenBlock ∧ (b.tx t).Writes k i

/-- In one segment something else than a message changes. -/
theorem holds_of_update {segs : Nat → Seg Tid} {k₀ : Nat} {g : Seg Tid} {k i : Nat} {m : Msg Tid}
    (h : (Function.update segs k₀ g k).content i = some m ∧
      (Function.update segs k₀ g k).intact i = true)
    (hcontent : g.content = (segs k₀).content)
    (hintact : ∀ i, g.intact i = true → (segs k₀).intact i = true) :
    (segs k).content i = some m ∧ (segs k).intact i = true := by
  by_cases hk : k = k₀
  · rw [hk, Function.update_self] at h
    rw [hk, ← hcontent]
    exact ⟨h.1, hintact i h.2⟩
  · rw [Function.update_of_ne hk] at h
    exact h

/-- A dispatcher moves. -/
theorem Kept.congr (h : Kept b released) (htx : b'.tx = b.tx)
    (hholds : ∀ k i m, Holds b' k i m → Holds b k i m) : Kept b' released := by
  intro k i m hm
  rw [htx]
  exact h k i m (hholds k i m hm)

/-- What a dispatcher finds in an intact block it has locked was released. -/
theorem Kept.read [Fintype Tid] [Fintype Did] {d : Did} {m : Msg Tid} (h : Kept b released)
    (ha : AttachInv b) (hlock : LockInv b) (hpc : (b.rx d).pc = .onMessage)
    (hm : Holds b ((b.rx d).seg.getD 0) (b.rx d).index m) : m ∈ released := by
  have hseg : (b.rx d).seg ≠ none := by
    apply ha.rx_seg d
    · rw [hpc]
      decide
    · rw [hpc]
      decide
  have hreads : (b.rx d).Reads ((b.rx d).seg.getD 0) (b.rx d).index :=
    ⟨by rw [hpc]; rfl, seg_getD hseg, rfl⟩
  rcases h _ _ m hm with hreleased | ⟨t, -, hw⟩
  · exact hreleased
  · -- a writer and a reader of one block
    have hnone := (hlock _ _).exclusive (tally_pos hw)
    exact absurd hreads (tally_eq_zero_iff.mp hnone d)

variable [DecidableEq Tid]

/-- A transmitter that has no message in a block moves. -/
theorem Kept.other (h : Kept b released) {t : Tid} {l : Transmitter} {k i : Nat} {m : Msg Tid}
    (hm : Holds b k i m) (hpc : (b.tx t).pc ≠ .releaseWrittenBlock)
    (htx : b'.tx = Function.update b.tx t l) :
    m ∈ released ∨ ∃ u, (b'.tx u).pc = .releaseWrittenBlock ∧ (b'.tx u).Writes k i := by
  rcases h k i m hm with hreleased | ⟨u, hu, hw⟩
  · exact .inl hreleased
  · have hut : u ≠ t := by
      rintro rfl
      exact hpc hu
    have hsame : b'.tx u = b.tx u := by rw [htx, Function.update_of_ne hut]
    exact .inr ⟨u, hsame ▸ hu, hsame ▸ hw⟩

theorem Kept.move (h : Kept b released) {t : Tid} {l : Transmitter} {pc : TxPc}
    (hpc : (b.tx t).pc = pc) (hne : pc ≠ .releaseWrittenBlock)
    (htx : b'.tx = Function.update b.tx t l)
    (hholds : ∀ k i m, Holds b' k i m → Holds b k i m) : Kept b' released := by
  intro k i m hm
  exact h.other (hholds k i m hm) (hpc ▸ hne) htx

/-- A transmitter writes its message into its block. -/
theorem Kept.write (h : Kept b released) {t : Tid} {l : Transmitter} {g : Seg Tid} {k₀ i₀ : Nat}
    (hpc : (b.tx t).pc = .serialize) (htx : b'.tx = Function.update b.tx t l)
    (hsegs : b'.segs = Function.update b.segs k₀ g)
    (hg : ∀ i, i ≠ i₀ → g.content i = (b.segs k₀).content i ∧ g.intact i = (b.segs k₀).intact i)
    (hl : l.pc = .releaseWrittenBlock) (hw : l.Writes k₀ i₀) : Kept b' released := by
  have hpc' : (b.tx t).pc ≠ .releaseWrittenBlock := by
    rw [hpc]
    decide
  have hself : b'.tx t = l := by rw [htx, Function.update_self]
  intro k i m hm
  unfold Holds at hm
  rw [hsegs] at hm
  by_cases hk : k = k₀
  · rw [hk, Function.update_self] at hm
    rw [hk]
    by_cases hi : i = i₀
    · rw [hi]
      exact .inr ⟨t, hself ▸ hl, hself ▸ hw⟩
    · obtain ⟨hcontent, hintact⟩ := hg i hi
      rw [hcontent, hintact] at hm
      exact h.other hm hpc' htx
  · rw [Function.update_of_ne hk] at hm
    exact h.other hm hpc' htx

variable [DecidableEq Did]

theorem small_step (a : Delivery.Label Tid Did) (h : Small b) :
    Small ((delivery.action a).effect b) := by
  have hset : ∀ {t : Tid} {l : Transmitter}, l.index < 2 ^ 32 →
      ∀ u, (Function.update b.tx t l u).index < 2 ^ 32 := by
    intro t l hl u
    by_cases hu : u = t
    · rw [hu, Function.update_self]
      exact hl
    · rw [Function.update_of_ne hu]
      exact h u
  cases a with
  | tryLockForWrite t =>
    apply hset
    exact Nat.lt_trans (Shm.wrapIndex_lt (Shm.ShmConf.blockNum_pos _) _) (Shm.ShmConf.blockNum_lt _)
  | transmit t | create t msgSize | attach t | acquireFail t | wroteNum t | tryLockForWriteFail t
  | increaseWroteNum t | serialize t | serializeFail t | releaseWrittenBlock t | releaseFailed t
  | notify t => exact hset (h t)
  | listen d | attachRead d | checkIndex d | acquireReadFail d | tryLockForRead d | lockBehind d
  | onMessage d | releaseReadBlock d => exact h

/-- A message is released with its block still holding it. -/
theorem kept_release {t : Tid} (hcontent : ContentInv b) (h : Kept b released)
    (hpc : (b.tx t).pc = .releaseWrittenBlock) :
    Kept ((delivery.action (.releaseWrittenBlock t)).effect b)
      (released ++ [⟨t, (b.tx t).seq⟩]) := by
  intro k i m hm
  have hm : Holds b k i m := holds_of_update hm rfl fun _ => id
  rcases h k i m hm with hreleased | ⟨u, hu, hw⟩
  · exact .inl (List.mem_append_left _ hreleased)
  · by_cases hut : u = t
    · rw [hut] at hw
      have hown := (hcontent.writer t).content hpc k i hw
      obtain rfl := Option.some.inj (hm.1.symm.trans hown)
      exact .inl (List.mem_append_right _ List.mem_cons_self)
    · have hstays : ((delivery.action (.releaseWrittenBlock t)).effect b).tx u = b.tx u :=
        Function.update_of_ne hut _ _
      exact .inr ⟨u, hstays ▸ hu, hstays ▸ hw⟩

theorem kept_create {t : Tid} (msgSize : Nat) (h : Kept b released)
    (hpc : (b.tx t).pc = .acquire) :
    Kept ((delivery.action (.create t msgSize)).effect b) released := by
  have hpc' : (b.tx t).pc ≠ .releaseWrittenBlock := by
    rw [hpc]
    decide
  intro k i m hm
  by_cases hk : k = b.next
  · have hfresh : ((delivery.action (.create t msgSize)).effect b).segs k =
        .fresh (.update msgSize) := by
      rw [hk]
      exact Function.update_self _ _ _
    rw [Holds, hfresh] at hm
    cases hm.1
  · have hsame : ((delivery.action (.create t msgSize)).effect b).segs k = b.segs k :=
      Function.update_of_ne hk _ _
    rw [Holds, hsame] at hm
    exact h.other hm hpc' rfl

/-- A block that is not intact any more. -/
theorem spoilt {intact : Nat → Bool} {i₀ : Nat} (i : Nat)
    (h : Function.update intact i₀ false i = true) : intact i = true := by
  by_cases hi : i = i₀
  · rw [hi, Function.update_self] at h
    cases h
  · rw [Function.update_of_ne hi] at h
    exact h

/-- **Step lemma**, block contents. -/
theorem kept_step (a : Delivery.Label Tid Did) (ha : AttachInv b) (hcontent : ContentInv b)
    (h : Kept b released) (hg : (delivery.action a).gate b) :
    Kept ((delivery.action a).effect b) (released ++ releasedBy b a) := by
  have hgrow : ∀ {b' : Delivery.State Tid Did}, Kept b' released →
      Kept b' (released ++ releasedBy b a) := by
    intro b' h' k i m hm
    exact (h' k i m hm).imp_left (List.mem_append_left _)
  cases a with
  | releaseWrittenBlock t => exact kept_release hcontent h hg
  | create t msgSize => exact hgrow (kept_create msgSize h hg)
  | serialize t =>
    have hpc : (b.tx t).pc = .serialize := hg
    have hw := writes_own ha hpc rfl (by decide) (by decide)
    refine hgrow (h.write hpc rfl rfl ?_ rfl ⟨rfl, hw.2.1, rfl⟩)
    exact fun i hi => ⟨Function.update_of_ne hi _ _, Function.update_of_ne hi _ _⟩
  | serializeFail t =>
    refine hgrow (h.move hg (by decide) rfl fun _ _ _ hm => holds_of_update hm rfl ?_)
    exact spoilt
  | transmit t | acquireFail t | tryLockForWriteFail t | notify t =>
    exact hgrow (h.move hg (by decide) rfl fun _ _ _ => id)
  | attach t | wroteNum t => exact hgrow (h.move hg.1 (by decide) rfl fun _ _ _ => id)
  | tryLockForWrite t =>
    exact hgrow (h.move hg.1 (by decide) rfl fun _ _ _ hm => holds_of_update hm rfl fun _ => id)
  | increaseWroteNum t | releaseFailed t =>
    exact hgrow (h.move hg (by decide) rfl fun _ _ _ hm => holds_of_update hm rfl fun _ => id)
  | listen d | attachRead d | checkIndex d | acquireReadFail d | onMessage d =>
    exact hgrow (h.congr rfl fun _ _ _ => id)
  | tryLockForRead d | releaseReadBlock d =>
    exact hgrow (h.congr rfl fun _ _ _ hm => holds_of_update hm rfl fun _ => id)
  | lockBehind d =>
    refine hgrow (h.congr rfl fun _ _ _ hm => holds_of_update hm rfl ?_)
    exact spoilt

/-- What `OnMessage` hands over on top of the messages before it is in the block just read. -/
theorem mem_handedOver_onMessage {d e : Did} {o : HandOver Tid}
    (ho : o ∈ ((delivery.action (.onMessage e)).effect b).handedOver d) :
    o ∈ b.handedOver d ∨
      (o.intact = true → Holds b ((b.rx e).seg.getD 0) (b.rx e).index o.message) := by
  change o ∈ Function.update b.handedOver e _ d at ho
  by_cases hd : d = e
  · rw [hd, Function.update_self] at ho
    rcases List.mem_append.mp ho with hold | hnew
    · rw [hd]
      exact Or.inl hold
    · split at hnew
      · next info message hinfo hmessage =>
        obtain rfl := List.mem_singleton.mp hnew
        exact Or.inr fun hintact => ⟨hmessage, hintact⟩
      -- a block that does not parse
      · cases hnew
  · rw [Function.update_of_ne hd] at ho
    exact Or.inl ho

variable [Fintype Tid] [Fintype Did]

theorem handed_step (a : Delivery.Label Tid Did) (ha : AttachInv b) (hlock : LockInv b)
    (h : Kept b released) (hg : (delivery.action a).gate b)
    (hhanded : ∀ d, ∀ o ∈ b.handedOver d, o.intact = true → o.message ∈ released) (d : Did) :
    ∀ o ∈ ((delivery.action a).effect b).handedOver d,
      o.intact = true → o.message ∈ released := by
  cases a with
  | onMessage e =>
    intro o ho hintact
    rcases mem_handedOver_onMessage ho with hold | hmessage
    · exact hhanded d o hold hintact
    · exact h.read ha hlock hg (hmessage hintact)
  | transmit t | create t msgSize | attach t | acquireFail t | wroteNum t | tryLockForWrite t
  | tryLockForWriteFail t | increaseWroteNum t | serialize t | serializeFail t
  | releaseWrittenBlock t | releaseFailed t | notify t | listen e | attachRead e | checkIndex e
  | acquireReadFail e | tryLockForRead e | lockBehind e | releaseReadBlock e => exact hhanded d

end blocks

/-! ## Section 4: Channels -/

section channels
variable [Fintype Tid] [Fintype Did] {b : Delivery.State Tid Did} {released : List (Msg Tid)}

/-- What every channel keeps, whatever the dispatchers are sent. -/
structure ChannelInv (b : Delivery.State Tid Did) (released : List (Msg Tid)) : Prop where
  attach  : AttachInv b
  lock    : LockInv b
  content : ContentInv b
  order   : OrderInv b
  small   : Small b
  kept    : Kept b released
  handed  : ∀ d, ∀ o ∈ b.handedOver d, o.intact = true → o.message ∈ released

/-- **Step lemma**, an announcement from the network. -/
theorem ChannelInv.take [DecidableEq Did] (h : ChannelInv b released) {d : Did}
    (hpc : (b.rx d).pc = .listen) (info : Delivery.ReadableInfo Tid) :
    ChannelInv (take b d info) released where
  attach  := h.attach.setRx (h.attach.rx_lt d) fun _ hne => absurd rfl hne
  lock    := by
    apply h.lock.setRx
    intro k i
    exact iff_of_false (not_reads rfl k i) (not_reads (not_reading hpc rfl) k i)
  content :=
    ⟨fun x hx => ⟨(h.content.announced x hx).seg_lt, (h.content.announced x hx).write⟩, fun t =>
      ⟨(h.content.writer t).write, (h.content.writer t).content, fun hnotify =>
        ⟨((h.content.writer t).pending hnotify).seg_lt,
          ((h.content.writer t).pending hnotify).write⟩⟩⟩
  order   := h.order.congr rfl fun _ => Nat.le_refl _
  small   := h.small
  kept    := h.kept.congr rfl fun _ _ _ => id
  handed  := h.handed

end channels

section steps
variable [DecidableEq Tid] [DecidableEq Did] {b : Delivery.State Tid Did}
  {released : List (Msg Tid)}

/-- A dispatcher that has a block has taken it up before. -/
theorem rx_step {a : Delivery.Label Tid Did} (ha : ofChannel a = true)
    (hg : (delivery.action a).gate b) {d : Did}
    (h : (((delivery.action a).effect b).rx d).pc ≠ .listen) :
    (b.rx d).pc ≠ .listen ∧ finishes a ≠ some d := by
  -- the dispatcher `e` moves from `pc`
  have hmove : ∀ {e : Did} {pc : RxPc} {l : Dispatcher Tid}, (b.rx e).pc = pc → pc ≠ .listen →
      (Function.update b.rx e l d).pc ≠ .listen → (b.rx d).pc ≠ .listen := by
    intro e pc l hpc hne hafter
    by_cases hd : d = e
    · rw [hd, hpc]
      exact hne
    · rw [Function.update_of_ne hd] at hafter
      exact hafter
  -- the dispatcher `e` goes back to `Listen`
  have hleave : ∀ {e : Did} {l : Dispatcher Tid}, l.pc = .listen →
      (Function.update b.rx e l d).pc ≠ .listen →
      (b.rx d).pc ≠ .listen ∧ some e ≠ some d := by
    intro e l hl hafter
    have hd : d ≠ e := by
      rintro rfl
      rw [Function.update_self] at hafter
      exact hafter hl
    rw [Function.update_of_ne hd] at hafter
    exact ⟨hafter, fun heq => hd (Option.some.inj heq).symm⟩
  cases a with
  | listen e => cases ha
  | attachRead e =>
    have hnone : finishes (.attachRead e : Delivery.Label Tid Did) ≠ some d := nofun
    rcases hg.1 with hpc | hpc
    · exact ⟨hmove hpc (by decide) h, hnone⟩
    · exact ⟨hmove hpc (by decide) h, hnone⟩
  | checkIndex e | tryLockForRead e =>
    exact ⟨hmove hg.1 (by decide) h, Option.some_ne_none d ∘ Eq.symm⟩
  | onMessage e => exact ⟨hmove hg (by decide) h, Option.some_ne_none d ∘ Eq.symm⟩
  | acquireReadFail e | lockBehind e | releaseReadBlock e => exact hleave rfl h
  | transmit t | create t msgSize | attach t | acquireFail t | wroteNum t | tryLockForWrite t
  | tryLockForWriteFail t | increaseWroteNum t | serialize t | serializeFail t
  | releaseWrittenBlock t | releaseFailed t | notify t =>
    exact ⟨h, Option.some_ne_none d ∘ Eq.symm⟩

theorem finishes_busy {a : Delivery.Label Tid Did} (hg : (delivery.action a).gate b) {d : Did}
    (h : finishes a = some d) : (b.rx d).pc ≠ .listen := by
  cases a with
  | acquireReadFail e =>
    obtain rfl := Option.some.inj h
    intro hpc
    rcases hg with hacquire | hlock
    · cases hacquire.symm.trans hpc
    · cases hlock.symm.trans hpc
  | lockBehind e =>
    obtain rfl := Option.some.inj h
    intro hpc
    cases hg.1.symm.trans hpc
  | releaseReadBlock e =>
    obtain rfl := Option.some.inj h
    intro hpc
    have hrelease : (b.rx e).pc = .releaseReadBlock := hg
    cases hrelease.symm.trans hpc
  | transmit t | create t msgSize | attach t | acquireFail t | wroteNum t | tryLockForWrite t
  | tryLockForWriteFail t | increaseWroteNum t | serialize t | serializeFail t
  | releaseWrittenBlock t | releaseFailed t | notify t | listen e | attachRead e | checkIndex e
  | tryLockForRead e | onMessage e => cases h

variable [Fintype Tid] [Fintype Did]

/-- **Step lemma**, a step of the channel. -/
theorem ChannelInv.step (h : ChannelInv b released) (a : Delivery.Label Tid Did)
    (hg : (delivery.action a).gate b) :
    ChannelInv ((delivery.action a).effect b) (released ++ releasedBy b a) where
  attach  := attach_step a h.attach hg
  lock    := lock_step a h.attach h.lock hg
  content := content_step a h.attach h.lock h.content hg
  order   := order_step a h.order hg
  small   := small_step a h.small
  kept    := kept_step a h.attach h.content h.kept hg
  handed  := fun d o ho hintact =>
    List.mem_append_left _ (handed_step a h.attach h.lock h.kept hg h.handed d o ho hintact)

theorem channel_initial : ChannelInv (Delivery.initial : Delivery.State Tid Did) [] where
  attach  := (Delivery.inv_init _ Delivery.initial_init).attach
  lock    := (Delivery.inv_init _ Delivery.initial_init).lock
  content := (Delivery.inv_init _ Delivery.initial_init).content
  order   := (Delivery.inv_init _ Delivery.initial_init).order
  small   := fun _ => Nat.two_pow_pos 32
  kept    := fun _ _ _ hm => by cases hm.1
  handed  := fun _ _ ho => by cases ho

end steps

/-! ## Section 5: Runs -/

section runs
variable [Fintype Tid] [Fintype Did] {hostId : UInt64} {s : State Tid Did}

/-- The invariant of the channels of a host. -/
structure Inv (s : State Tid Did) : Prop where
  channel : ∀ c, ChannelInv (s.channels c) (s.released c)
  reading : ∀ c d, ((s.channels c).rx d).pc ≠ .listen → s.reading d = some c

theorem Inv.idle (h : Inv s) {d : Did} (hd : s.reading d = none) (c : UInt64) :
    ((s.channels c).rx d).pc = .listen := by
  by_contra hpc
  cases hd.symm.trans (h.reading c d hpc)

variable [DecidableEq Did]

theorem inv_accept (h : Inv s) {d : Did} (hd : s.reading d = none) (c : UInt64)
    (info : Delivery.ReadableInfo Tid) : Inv (s.accept d c info) := by
  constructor
  · intro c'
    show ChannelInv (Function.update s.channels c _ c') _
    by_cases hc : c' = c
    · rw [hc, Function.update_self]
      exact (h.channel c).take (h.idle hd c) info
    · rw [Function.update_of_ne hc]
      exact h.channel c'
  · intro c' e hpc
    change ((Function.update s.channels c _ c').rx e).pc ≠ .listen at hpc
    show Function.update s.reading d (some c) e = some c'
    by_cases he : e = d
    · rw [he, Function.update_self]
      by_cases hc : c' = c
      · rw [hc]
      · rw [Function.update_of_ne hc, he] at hpc
        exact absurd (h.idle hd c') hpc
    · rw [Function.update_of_ne he]
      apply h.reading c' e
      by_cases hc : c' = c
      · have hsame : (take (s.channels c) d info).rx e = (s.channels c).rx e :=
          Function.update_of_ne he _ _
        rw [hc, Function.update_self, hsame] at hpc
        rw [hc]
        exact hpc
      · rw [Function.update_of_ne hc] at hpc
        exact hpc

variable [DecidableEq Tid]

theorem inv_channel (h : Inv s) (c : UInt64) (a : Delivery.Label Tid Did)
    (hg : ((multicast hostId).action (.channel c a)).gate s) :
    Inv (((multicast hostId).action (.channel c a)).effect s) := by
  obtain ⟨hof, hg⟩ := hg
  constructor
  · intro c'
    show ChannelInv (Function.update s.channels c _ c') (Function.update s.released c _ c')
    by_cases hc : c' = c
    · rw [hc, Function.update_self, Function.update_self]
      exact (h.channel c).step a hg
    · rw [Function.update_of_ne hc, Function.update_of_ne hc]
      exact h.channel c'
  · intro c' d hpc
    change ((Function.update s.channels c _ c').rx d).pc ≠ .listen at hpc
    -- the dispatcher has not come to this block just now, nor has it left it
    have hbefore : ((s.channels c').rx d).pc ≠ .listen ∧ (c' = c → finishes a ≠ some d) := by
      by_cases hc : c' = c
      · rw [hc, Function.update_self] at hpc
        obtain ⟨hold, hstays⟩ := rx_step hof hg hpc
        rw [hc]
        exact ⟨hold, fun _ => hstays⟩
      · rw [Function.update_of_ne hc] at hpc
        exact ⟨hpc, fun heq => absurd heq hc⟩
    have hreading := h.reading c' d hbefore.1
    show (if finishes a = some d then none else s.reading d) = some c'
    split
    · next hfinishes =>
      -- it reads a block of one channel at a time
      have hbusy := h.reading c d (finishes_busy hg hfinishes)
      obtain rfl := Option.some.inj (hreading.symm.trans hbusy)
      exact absurd hfinishes (hbefore.2 rfl)
    · exact hreading

/-- **Step lemma**. -/
theorem inv_step (s : State Tid Did) (a : Label Tid Did) (h : Inv s)
    (hg : ((multicast hostId).action a).gate s) : Inv (((multicast hostId).action a).effect s) := by
  cases a with
  | channel c a => exact inv_channel h c a hg
  | addSegment d c => exact ⟨h.channel, h.reading⟩
  | listen d datagram info =>
    dsimp only [multicast]
    split
    · exact h
    · split
      · exact inv_accept h hg _ _
      · exact h

theorem inv_init (hi : (multicast hostId).init s) : Inv s := by
  obtain ⟨hchannels, -, -, hreleased, -⟩ := hi
  constructor
  · intro c
    rw [hchannels, hreleased]
    exact channel_initial
  · intro c d hpc
    rw [hchannels] at hpc
    exact absurd rfl hpc

theorem inv_reachable (h : (multicast hostId).Reachable s) : Inv s :=
  System.invariant (fun _ => inv_init) inv_step h

end runs

end CyberRT.Transport.Multicast
