import CyberRT.Transport.HybridTransmitter
import CyberRT.Transport.ListenerCalls

/-! # The hybrid receiver

    `HybridReceiver` has one receiver for each mode of its configuration and
    one table of transmitters for each mode. The receivers add the listener
    to the dispatcher of their class, once for each opposite: a dispatcher
    has one `ListenerHandler` for the channel, which all readers of the
    channel in this process share.

    * A call holds the mutex from the point where it uses the tables, and a
      handler does a `Connect` or a `Disconnect` under its lock, so a call is
      one step.
    * The other readers of the process connect and disconnect what they like,
      under ids and with listeners of their own. They have the message type
      of this one: another type is refused with an error.
    * A task of `ReceiveHistoryMsg` listens on a channel of its own, so what
      it receives is no part of this.

    Unlike `HybridTransmitter::Enable`, `Enable` asks whether the opposite is
    new. `Enable()` adds the listener for all senders, in every mode, beside
    what was added for single opposites. Shown: for a message of a
    transmitter in the table of a mode, the dispatcher of this mode calls the
    listener once, and no other dispatcher calls it; but while `Enable()`
    stands, every dispatcher calls it once more, for any message
    (`heard_eq`). -/

namespace CyberRT.Transport.HybridReceiver

open CyberRT.Framework HybridTransmitter
open Function (update)

/-! ## Section 1: Dispatchers -/

/-- A dispatcher as far as one channel goes. -/
structure Dispatcher where
  isShutdown : Bool
  handler    : Option ListenerHandler

namespace Dispatcher

variable (d : Dispatcher)

def addListener (messageType : Nat) (key : ListenerKey) (listener : Nat) : Dispatcher :=
  if d.isShutdown then d
  else
    match d.handler with
    | some handler =>
      if handler.messageType = messageType then
        { d with handler := some (handler.connect key listener) }
      else d
    | none =>
      { d with handler := some ((ListenerHandler.new messageType).connect key listener) }

def removeListener (key : ListenerKey) : Dispatcher :=
  if d.isShutdown then d else { d with handler := d.handler.map (·.disconnect key) }

/-- The listeners that are called for a message of `sender`. -/
def onMessage (sender : Nat) : List Nat :=
  if d.isShutdown then []
  else
    match d.handler with
    | some handler => handler.run sender
    | none         => []

end Dispatcher

/-! ## Section 2: State -/

/-- The listener of the receiver and the message type of the channel, beside
    what a transmitter has too. The `switch` of `InitReceivers` is that of
    `InitTransmitters`. -/
structure ReceiverConf extends Conf where
  listener    : Nat
  messageType : Nat

/-- Under which key a dispatcher knows the listener for an opposite. -/
def ReceiverConf.key (c : ReceiverConf) (opposite : RoleAttributes) : ListenerKey :=
  ⟨c.attr.id.toNat, some opposite.id.toNat⟩

/-- And for all senders. -/
def ReceiverConf.selfKey (c : ReceiverConf) : ListenerKey := ⟨c.attr.id.toNat, none⟩

/-- `transmitters` are the tables, in the order of insertion, `enabled` the
    flag of the receiver of each mode, `histories` the tasks that were started
    for the history of an opposite. `joined` and `standing` are history: the
    opposites enabled and not disabled since, and whether `Enable()` was
    called and `Disable()` not since. -/
structure State where
  alive        : Bool
  transmitters : OptionalMode → List RoleAttributes
  enabled      : OptionalMode → Bool
  dispatchers  : TransmitterClass → Dispatcher
  histories    : List RoleAttributes
  joined       : Finset UInt64
  standing     : Bool

namespace State

/-- `count(id) > 0` in the table of a mode. -/
def Has (s : State) (mode : OptionalMode) (id : UInt64) : Prop :=
  id ∈ (s.transmitters mode).map (·.id)

instance (s : State) (mode : OptionalMode) (id : UInt64) : Decidable (s.Has mode id) :=
  inferInstanceAs (Decidable (_ ∈ _))

/-- `Enable(opposite_attr)` of a receiver below. -/
def addListener (c : ReceiverConf) (s : State) (mode : OptionalMode) (opposite : RoleAttributes) :
    State :=
  { s with
    dispatchers := update s.dispatchers (transmitterClass mode)
      ((s.dispatchers (transmitterClass mode)).addListener c.messageType (c.key opposite)
        c.listener) }

/-- `Disable(opposite_attr)` of a receiver below. -/
def removeListener (c : ReceiverConf) (s : State) (mode : OptionalMode)
    (opposite : RoleAttributes) : State :=
  { s with
    dispatchers := update s.dispatchers (transmitterClass mode)
      ((s.dispatchers (transmitterClass mode)).removeListener (c.key opposite)) }

def receiveHistoryMsg (s : State) (opposite : RoleAttributes) : State :=
  if opposite.qosProfile.durability ≠ .transientLocal then s
  else { s with histories := s.histories ++ [opposite] }

def enable (c : ReceiverConf) (s : State) (opposite : RoleAttributes) : State :=
  let relation := c.getRelation opposite
  if relation = .noRelation then s
  else
    let mode := c.mappingTable relation
    if s.Has mode opposite.id then s
    else
      let s := { s with
        transmitters := update s.transmitters mode (s.transmitters mode ++ [opposite]) }
      let s := s.addListener c mode opposite
      s.receiveHistoryMsg opposite

def disable (c : ReceiverConf) (s : State) (opposite : RoleAttributes) : State :=
  let relation := c.getRelation opposite
  if relation = .noRelation then s
  else
    let mode := c.mappingTable relation
    if s.Has mode opposite.id then
      let s := { s with
        transmitters := update s.transmitters mode
          ((s.transmitters mode).filter (·.id ≠ opposite.id)) }
      s.removeListener c mode opposite
    else s

/-- `Enable()` of a receiver below. -/
def enableMode (c : ReceiverConf) (s : State) (mode : OptionalMode) : State :=
  if s.enabled mode then s
  else
    { s with
      enabled     := update s.enabled mode true
      dispatchers := update s.dispatchers (transmitterClass mode)
        ((s.dispatchers (transmitterClass mode)).addListener c.messageType c.selfKey
          c.listener) }

/-- `Disable()` of a receiver below, which its destructor calls. -/
def disableMode (c : ReceiverConf) (s : State) (mode : OptionalMode) : State :=
  if s.enabled mode then
    { s with
      enabled     := update s.enabled mode false
      dispatchers := update s.dispatchers (transmitterClass mode)
        ((s.dispatchers (transmitterClass mode)).removeListener c.selfKey) }
  else s

/-- `Enable()`. -/
def enableAll (c : ReceiverConf) (s : State) : State := c.modes.foldl (·.enableMode c ·) s

/-- `Disable()`. -/
def disableAll (c : ReceiverConf) (s : State) : State := c.modes.foldl (·.disableMode c ·) s

/-- `ClearTransmitters` for one table. -/
def clearMode (c : ReceiverConf) (s : State) (mode : OptionalMode) : State :=
  (s.transmitters mode).foldl (fun s opposite => s.removeListener c mode opposite) s

def clearTransmitters (c : ReceiverConf) (s : State) : State :=
  let s := [OptionalMode.hybrid, .intra, .shm, .rtps].foldl (·.clearMode c ·) s
  { s with transmitters := fun _ => [] }

/-- The destructor. `ClearReceivers` destroys the receivers below. -/
def destroy (c : ReceiverConf) (s : State) : State :=
  { (s.clearTransmitters c).disableAll c with alive := false, joined := ∅, standing := false }

/-- The history variable of an `Enable`. -/
def join (c : ReceiverConf) (s : State) (opposite : RoleAttributes) : State :=
  if c.getRelation opposite = .noRelation then s
  else { s with joined := insert opposite.id s.joined }

/-- The history variable of a `Disable`. -/
def leave (c : ReceiverConf) (s : State) (opposite : RoleAttributes) : State :=
  if c.getRelation opposite = .noRelation then s
  else { s with joined := s.joined.erase opposite.id }

end State

inductive Label where
  | enable (opposite : RoleAttributes)
  | disable (opposite : RoleAttributes)
  | enableAll
  | disableAll
  | destroy
  /-- Another reader of the process adds a listener. -/
  | otherAdds (k : TransmitterClass) (key : ListenerKey) (listener : Nat)
  | otherRemoves (k : TransmitterClass) (key : ListenerKey)
  /-- `Shutdown` of a dispatcher -/
  | shutdown (k : TransmitterClass)

/-- The calls of one hybrid receiver among those of the other readers. -/
def hybridReceiver (c : ReceiverConf) : System State Label where
  init := fun s =>
    s.alive = true ∧ (∀ mode, s.transmitters mode = []) ∧ (∀ mode, s.enabled mode = false) ∧
      (∀ k, s.dispatchers k = ⟨false, none⟩) ∧ s.histories = [] ∧ s.joined = ∅ ∧
      s.standing = false
  action := fun
    | .enable opposite =>
      { gate   := fun s => s.alive = true
        effect := fun s => (s.join c opposite).enable c opposite }
    | .disable opposite =>
      { gate   := fun s => s.alive = true
        effect := fun s => (s.leave c opposite).disable c opposite }
    | .enableAll =>
      { gate   := fun s => s.alive = true
        effect := fun s => { s.enableAll c with standing := true } }
    | .disableAll =>
      { gate   := fun s => s.alive = true
        effect := fun s => { s.disableAll c with standing := false } }
    | .destroy =>
      { gate   := fun s => s.alive = true
        effect := fun s => s.destroy c }
    | .otherAdds k key listener =>
      { gate   := fun _ => key.selfId ≠ c.attr.id.toNat ∧ listener ≠ c.listener
        effect := fun s =>
          { s with
            dispatchers := update s.dispatchers k
              ((s.dispatchers k).addListener c.messageType key listener) } }
    | .otherRemoves k key =>
      { gate   := fun _ => key.selfId ≠ c.attr.id.toNat
        effect := fun s =>
          { s with
            dispatchers := update s.dispatchers k ((s.dispatchers k).removeListener key) } }
    | .shutdown k =>
      { gate   := fun _ => True
        effect := fun s =>
          { s with
            dispatchers := update s.dispatchers k { s.dispatchers k with isShutdown := true } } }

/-! ## Section 3: One reader among others -/

section reader
variable {h : ListenerHandler} {own cb : Nat} {conns : List (ListenerKey × Slot)}
  {ids : Option Nat → Prop}

/-- The keys of the connections of one reader. -/
def ownKeys (own : Nat) (conns : List (ListenerKey × Slot)) : List ListenerKey :=
  (conns.filter (·.1.selfId = own)).map (·.1)

/-- In a handler with these connections the reader `own` has one for each
    of `ids`, a sender or all senders, and its listener is `cb`. -/
structure Owns (h : ListenerHandler) (own cb : Nat) (conns : List (ListenerKey × Slot))
    (ids : Option Nat → Prop) : Prop where
  tracks     : h.Tracks conns
  listener   : ∀ c ∈ conns, c.2.cb = cb ↔ c.1.selfId = own
  nodup      : (ownKeys own conns).Nodup
  mem        : ∀ key, key ∈ ownKeys own conns ↔ ∃ id, ids id ∧ key = ⟨own, id⟩
  remembered : ∀ c ∈ conns, c.1.selfId = own → (h.slotOf c.1).isSome

theorem ownKeys_append (own : Nat) (conns conns' : List (ListenerKey × Slot)) :
    ownKeys own (conns ++ conns') = ownKeys own conns ++ ownKeys own conns' := by
  rw [ownKeys, List.filter_append, List.map_append]
  rfl

theorem mem_ownKeys {key : ListenerKey} :
    key ∈ ownKeys own conns ↔ key.selfId = own ∧ ∃ c ∈ conns, c.1 = key := by
  simp only [ownKeys, List.mem_map, List.mem_filter, decide_eq_true_eq]
  constructor
  · rintro ⟨c, ⟨hc, hself⟩, rfl⟩
    exact ⟨hself, c, hc, rfl⟩
  · rintro ⟨hself, c, hc, rfl⟩
    exact ⟨c, ⟨hc, hself⟩, rfl⟩

/-- The reader has one connection under each key. -/
theorem Owns.eq_of_key (ho : Owns h own cb conns ids) {c c' : ListenerKey × Slot}
    (hc : c ∈ conns) (hc' : c' ∈ conns) (hself : c.1.selfId = own) (hkey : c'.1 = c.1) :
    c' = c := by
  have hin : ∀ d ∈ conns, d.1.selfId = own → d ∈ conns.filter (·.1.selfId = own) :=
    fun d hd hself => List.mem_filter.mpr ⟨hd, decide_eq_true hself⟩
  exact List.inj_on_of_nodup_map ho.nodup (hin c' hc' (hkey ▸ hself)) (hin c hc hself) hkey

theorem Owns.remembered_connect (ho : Owns h own cb conns ids) (key : ListenerKey)
    (listener : Nat) : ∀ c ∈ conns ++ [(key, ⟨h.nextSlot, listener, true⟩)],
      c.1.selfId = own → ((h.connect key listener).slotOf c.1).isSome := by
  intro c hc hself
  rw [ListenerHandler.slotOf_connect]
  split
  · rfl
  · next hne =>
    rcases List.mem_append.mp hc with hold | hnew
    · exact ho.remembered c hold hself
    · exact absurd (congrArg Prod.fst (List.mem_singleton.mp hnew)) hne

/-- A connection of another reader. -/
theorem Owns.connect_other (ho : Owns h own cb conns ids) {key : ListenerKey} {listener : Nat}
    (hself : key.selfId ≠ own) (hcb : listener ≠ cb) :
    ∃ conns', Owns (h.connect key listener) own cb conns' ids := by
  have hkeys : ownKeys own (conns ++ [(key, ⟨h.nextSlot, listener, true⟩)]) =
      ownKeys own conns := by
    rw [ownKeys_append]
    simp [ownKeys, hself]
  refine ⟨_, ho.tracks.connect key listener, ?_, ?_, ?_, ?_⟩
  · intro c hc
    rcases List.mem_append.mp hc with hold | hnew
    · exact ho.listener c hold
    · rw [List.mem_singleton.mp hnew]
      exact iff_of_false hcb hself
  · rw [hkeys]
    exact ho.nodup
  · rw [hkeys]
    exact ho.mem
  · exact ho.remembered_connect key listener

/-- The reader connects its listener for a sender it has none for, or for
    all. -/
theorem Owns.connect_own (ho : Owns h own cb conns ids) (id : Option Nat) (hnew : ¬ ids id) :
    ∃ conns', Owns (h.connect ⟨own, id⟩ cb) own cb conns' fun i => i = id ∨ ids i := by
  have hkeys : ownKeys own (conns ++ [(⟨own, id⟩, ⟨h.nextSlot, cb, true⟩)]) =
      ownKeys own conns ++ [⟨own, id⟩] := by
    rw [ownKeys_append]
    simp [ownKeys]
  refine ⟨_, ho.tracks.connect ⟨own, id⟩ cb, ?_, ?_, ?_, ?_⟩
  · intro c hc
    rcases List.mem_append.mp hc with hold | hnew
    · exact ho.listener c hold
    · rw [List.mem_singleton.mp hnew]
      exact iff_of_true rfl rfl
  · rw [hkeys, List.nodup_append]
    refine ⟨ho.nodup, List.nodup_singleton _, ?_⟩
    intro key hkey key' hkey'
    rw [List.mem_singleton.mp hkey']
    rintro rfl
    obtain ⟨id', hid', heq⟩ := (ho.mem _).mp hkey
    cases heq
    exact hnew hid'
  · intro key
    rw [hkeys, List.mem_append, ho.mem, List.mem_singleton]
    constructor
    · rintro (⟨id', hid', rfl⟩ | rfl)
      · exact ⟨id', .inr hid', rfl⟩
      · exact ⟨id, .inl rfl, rfl⟩
    · rintro ⟨id', rfl | hid', rfl⟩
      · exact .inr rfl
      · exact .inl ⟨id', hid', rfl⟩
  · exact ho.remembered_connect ⟨own, id⟩ cb

/-- What a `Disconnect` leaves of the reader's connections. -/
theorem Owns.disconnect (ho : Owns h own cb conns ids) (key : ListenerKey)
    {ids' : Option Nat → Prop}
    (hids : ∀ id, ids' id ↔ ids id ∧ (⟨own, id⟩ : ListenerKey) ≠ key) :
    ∃ conns', Owns (h.disconnect key) own cb conns' ids' := by
  -- the maps remember all connections of the reader
  have hgone : ∀ c ∈ conns, c.1.selfId = own → (h.slotOf key ≠ some c.2.ptr ↔ c.1 ≠ key) := by
    intro c hc hself
    refine ⟨fun hkeep hkey => hkeep ?_, ho.tracks.slotOf_ne hc⟩
    obtain ⟨ptr, hptr⟩ := Option.isSome_iff_exists.mp (ho.remembered c hc hself)
    rw [hkey] at hptr
    obtain ⟨c', hc', hkey', rfl⟩ := ho.tracks.handle key ptr hptr
    rw [hptr, ho.eq_of_key hc hc' hself (hkey'.trans hkey.symm)]
  have hsub : ∀ c ∈ conns.filter fun c => h.slotOf key ≠ some c.2.ptr, c ∈ conns :=
    fun c hc => (List.mem_filter.mp hc).1
  refine ⟨_, ho.tracks.disconnect key, fun c hc => ho.listener c (hsub c hc), ?_, ?_, ?_⟩
  · exact ho.nodup.sublist ((List.filter_sublist.filter _).map _)
  · intro key'
    rw [mem_ownKeys]
    constructor
    · rintro ⟨hself, c, hc, rfl⟩
      obtain ⟨hin, hkeep⟩ := List.mem_filter.mp hc
      obtain ⟨id, hid, hkey⟩ := (ho.mem c.1).mp (mem_ownKeys.mpr ⟨hself, c, hin, rfl⟩)
      have hne := (hgone c hin hself).mp (of_decide_eq_true hkeep)
      exact ⟨id, (hids id).mpr ⟨hid, hkey ▸ hne⟩, hkey⟩
    · rintro ⟨id, hid, rfl⟩
      obtain ⟨hold, hne⟩ := (hids id).mp hid
      obtain ⟨hself, c, hc, hkey⟩ := mem_ownKeys.mp ((ho.mem _).mpr ⟨id, hold, rfl⟩)
      have hkeep := (hgone c hc (by rw [hkey])).mpr (hkey ▸ hne)
      exact ⟨hself, c, List.mem_filter.mpr ⟨hc, decide_eq_true hkeep⟩, hkey⟩
  · intro c hc hself
    have hne := (hgone c (hsub c hc) hself).mp (of_decide_eq_true (List.mem_filter.mp hc).2)
    rw [ListenerHandler.slotOf_disconnect, if_neg hne]
    exact ho.remembered c (hsub c hc) hself

/-- **One call**: the listener is called once for a message of one of its
    senders and not for another, and once more if it listens to all. -/
theorem Owns.count_run (ho : Owns h own cb conns ids) (sender : Nat) [Decidable (ids none)]
    [Decidable (ids (some sender))] : (h.run sender).count cb =
      (if ids none then 1 else 0) + if ids (some sender) then 1 else 0 := by
  have hcount : ∀ oppoId,
      (ListenerHandler.listeners (conns.map fun c => (c.1, c.2.cb)) oppoId).count cb =
        (ownKeys own conns).count ⟨own, oppoId⟩ := by
    intro oppoId
    rw [ListenerHandler.listeners, ownKeys, List.filter_map, List.map_map, List.count, List.count,
      List.countP_map, List.countP_map, List.countP_filter, List.countP_filter]
    refine List.countP_congr fun c hc => ?_
    have hown := ho.listener c hc
    obtain ⟨⟨selfId, oppo⟩, slot⟩ := c
    simp only [Function.comp_apply, beq_iff_eq, Bool.and_eq_true, decide_eq_true_eq,
      ListenerKey.mk.injEq] at hown ⊢
    rw [hown]
    tauto
  have hmem : ∀ id, (⟨own, id⟩ : ListenerKey) ∈ ownKeys own conns ↔ ids id := by
    intro id
    rw [ho.mem]
    constructor
    · rintro ⟨id', hid, heq⟩
      cases heq
      exact hid
    · exact fun hid => ⟨id, hid, rfl⟩
  rw [ho.tracks.run, List.count_append, hcount, hcount, ho.nodup.count, ho.nodup.count]
  simp only [hmem]

end reader

/-! ## Section 4: One dispatcher -/

section dispatcher
variable {c : ReceiverConf} {d : Dispatcher} {ids ids' : Option Nat → Prop}

/-- The reader listens to `ids` at this dispatcher. -/
structure Listens (c : ReceiverConf) (d : Dispatcher) (ids : Option Nat → Prop) : Prop where
  typed : ∀ h ∈ d.handler, h.messageType = c.messageType
  owns  : d.isShutdown = false → ∃ conns, Owns (d.handler.getD (.new c.messageType))
    c.attr.id.toNat c.listener conns ids

theorem listens_new (c : ReceiverConf) : Listens c ⟨false, none⟩ fun _ => False where
  typed := by
    intro h hh
    cases hh
  owns  := by
    intro _
    refine ⟨[], ListenerHandler.tracks_new _, ?_, List.nodup_nil, ?_, ?_⟩
    · intro c hc
      cases hc
    · intro key
      constructor
      · intro hin
        cases hin
      · rintro ⟨id, hid, -⟩
        exact hid.elim
    · intro c hc
      cases hc

theorem Listens.shutdown (h : Listens c d ids) (ids' : Option Nat → Prop) :
    Listens c { d with isShutdown := true } ids' where
  typed := h.typed
  owns  := by
    intro hup
    cases hup

/-- `AddListener` connects, to a new handler if the channel has none. -/
theorem Listens.addListener_eq (h : Listens c d ids) (key : ListenerKey) (listener : Nat)
    (hup : d.isShutdown = false) : d.addListener c.messageType key listener =
      { d with
        handler := some ((d.handler.getD (.new c.messageType)).connect key listener) } := by
  rw [Dispatcher.addListener, hup]
  cases hhandler : d.handler with
  | none         => rfl
  | some handler =>
    have htyped := h.typed handler hhandler
    simp only [htyped, Bool.false_eq_true, ↓reduceIte, Option.getD_some]

theorem Listens.messageType (h : Listens c d ids) :
    (d.handler.getD (.new c.messageType)).messageType = c.messageType := by
  cases hhandler : d.handler with
  | none         => rfl
  | some handler => exact h.typed handler hhandler

/-- `AddListener`, by what it makes of the connections. -/
theorem Listens.addListener (h : Listens c d ids) {key : ListenerKey} {listener : Nat}
    (howns : ∀ handler conns, Owns handler c.attr.id.toNat c.listener conns ids →
      ∃ conns', Owns (handler.connect key listener) c.attr.id.toNat c.listener conns' ids') :
    Listens c (d.addListener c.messageType key listener) ids' := by
  by_cases hup : d.isShutdown = false
  · rw [h.addListener_eq key listener hup]
    refine ⟨?_, fun _ => ?_⟩
    · intro handler hhandler
      cases hhandler
      rw [ListenerHandler.messageType_connect]
      exact h.messageType
    · obtain ⟨conns, ho⟩ := h.owns hup
      exact howns _ conns ho
  · have hdown : d.isShutdown = true := (Bool.not_eq_false _).mp hup
    have hsame : d.addListener c.messageType key listener = d := if_pos hdown
    rw [hsame]
    exact ⟨h.typed, fun hno => absurd hno hup⟩

theorem Listens.removeListener (h : Listens c d ids) (key : ListenerKey)
    (hids : ∀ id, ids' id ↔ ids id ∧ (⟨c.attr.id.toNat, id⟩ : ListenerKey) ≠ key) :
    Listens c (d.removeListener key) ids' := by
  by_cases hup : d.isShutdown = false
  · have hremoved : d.removeListener key =
        { d with handler := d.handler.map (·.disconnect key) } := by
      rw [Dispatcher.removeListener, hup]
      rfl
    rw [hremoved]
    refine ⟨?_, fun _ => ?_⟩
    · intro handler hhandler
      obtain ⟨handler', hhandler', rfl⟩ := Option.map_eq_some_iff.mp hhandler
      rw [ListenerHandler.messageType_disconnect]
      exact h.typed handler' hhandler'
    · obtain ⟨conns, ho⟩ := h.owns hup
      cases hhandler : d.handler with
      | some handler =>
        rw [hhandler] at ho
        exact ho.disconnect key hids
      | none =>
        -- nobody has connected yet
        rw [hhandler] at ho
        have hslot : ∀ key' : ListenerKey,
            (ListenerHandler.new c.messageType).slotOf key' = none := by
          rintro ⟨selfId, _ | oppoId⟩ <;> rfl
        refine ⟨conns, ho.tracks, ho.listener, ho.nodup, fun key' => ?_, ho.remembered⟩
        rw [ho.mem]
        refine exists_congr fun id => and_congr_left fun _ => ?_
        have hnone : ¬ ids id := by
          intro hid
          obtain ⟨hself, c', hc', hkey⟩ := mem_ownKeys.mp ((ho.mem _).mpr ⟨id, hid, rfl⟩)
          have hsome := ho.remembered c' hc' (by rw [hkey])
          simp [Option.getD, hslot] at hsome
        exact iff_of_false hnone fun hid => hnone ((hids id).mp hid).1
  · have hdown : d.isShutdown = true := (Bool.not_eq_false _).mp hup
    have hsame : d.removeListener key = d := if_pos hdown
    rw [hsame]
    exact ⟨h.typed, fun hno => absurd hno hup⟩

theorem Listens.count_onMessage (h : Listens c d ids) (sender : Nat) [Decidable (ids none)]
    [Decidable (ids (some sender))] : (d.onMessage sender).count c.listener =
      if d.isShutdown = false then
        (if ids none then 1 else 0) + if ids (some sender) then 1 else 0
      else 0 := by
  by_cases hup : d.isShutdown = false
  · obtain ⟨conns, ho⟩ := h.owns hup
    have hrun : d.onMessage sender = (d.handler.getD (.new c.messageType)).run sender := by
      rw [Dispatcher.onMessage, hup]
      cases d.handler <;> rfl
    rw [hrun, ho.count_run, if_pos hup]
  · have hdown : d.isShutdown = true := (Bool.not_eq_false _).mp hup
    have hnobody : d.onMessage sender = [] := if_pos hdown
    rw [hnobody, if_neg hup]
    rfl

end dispatcher

/-! ## Section 5: Runs -/

/-- The mode whose receiver is of this class. -/
def mode : TransmitterClass → OptionalMode
  | .intra => .intra
  | .shm   => .shm
  | .rtps  => .rtps

/-- No relation is mapped to `HYBRID`, which is no way to send a message. -/
def Plain (c : Conf) : Prop :=
  ∀ relation, relation ≠ .noRelation → c.mappingTable relation ≠ .hybrid

theorem mode_transmitterClass {m : OptionalMode} (h : m ≠ .hybrid) :
    mode (transmitterClass m) = m := by
  cases m with
  | hybrid => exact absurd rfl h
  | intra  => rfl
  | shm    => rfl
  | rtps   => rfl

theorem transmitterClass_mode (k : TransmitterClass) : transmitterClass (mode k) = k := by
  cases k <;> rfl

section runs
variable {c : ReceiverConf} {s : State} {opposite : RoleAttributes}

/-- The ids in a table, as dispatchers have them. -/
def Ids (l : List RoleAttributes) (id : Nat) : Prop := ∃ o ∈ l, o.id.toNat = id

/-- Whom the receiver of a mode listens to: the opposites in its table, and
    to all if it is enabled. -/
def Senders (l : List RoleAttributes) (enabled : Bool) : Option Nat → Prop
  | none    => enabled = true
  | some id => Ids l id

/-- The dispatchers have the opposites of the tables for senders. -/
structure Inv (c : ReceiverConf) (s : State) : Prop where
  listens : ∀ k, Listens c (s.dispatchers k)
    (Senders (s.transmitters (mode k)) (s.enabled (mode k)))
  hybrid  : s.transmitters .hybrid = []

theorem Listens.congr {d : Dispatcher} {ids ids' : Option Nat → Prop} (h : Listens c d ids)
    (hids : ∀ id, ids' id ↔ ids id) : Listens c d ids' := by
  rwa [funext fun id => propext (hids id)]

theorem has_iff {m : OptionalMode} {id : UInt64} :
    s.Has m id ↔ Ids (s.transmitters m) id.toNat := by
  rw [State.Has, List.mem_map]
  exact exists_congr fun o => and_congr_right fun _ => UInt64.toNat_inj.symm

@[simp] theorem receiveHistoryMsg_dispatchers (s : State) (opposite : RoleAttributes) :
    (s.receiveHistoryMsg opposite).dispatchers = s.dispatchers := by
  unfold State.receiveHistoryMsg
  split <;> rfl

@[simp] theorem receiveHistoryMsg_transmitters (s : State) (opposite : RoleAttributes) :
    (s.receiveHistoryMsg opposite).transmitters = s.transmitters := by
  unfold State.receiveHistoryMsg
  split <;> rfl

@[simp] theorem receiveHistoryMsg_enabled (s : State) (opposite : RoleAttributes) :
    (s.receiveHistoryMsg opposite).enabled = s.enabled := by
  unfold State.receiveHistoryMsg
  split <;> rfl

/-- `Enable` of an opposite that is related and new. -/
theorem enable_new (hrel : c.getRelation opposite ≠ .noRelation)
    (hnew : ¬ s.Has (c.modeOf opposite) opposite.id) : s.enable c opposite =
      (({ s with
        transmitters := update s.transmitters (c.modeOf opposite)
          (s.transmitters (c.modeOf opposite) ++ [opposite]) } : State).addListener c
            (c.modeOf opposite) opposite).receiveHistoryMsg opposite := by
  rw [State.enable, if_neg hrel]
  exact if_neg hnew

theorem disable_known (hrel : c.getRelation opposite ≠ .noRelation)
    (hknown : s.Has (c.modeOf opposite) opposite.id) : s.disable c opposite =
      ({ s with
        transmitters := update s.transmitters (c.modeOf opposite)
          ((s.transmitters (c.modeOf opposite)).filter (·.id ≠ opposite.id)) } :
        State).removeListener c (c.modeOf opposite) opposite := by
  rw [State.disable, if_neg hrel]
  exact if_pos hknown

/-- `Enable` of an opposite that is not, or that is there already. -/
theorem enable_same (h : c.getRelation opposite = .noRelation ∨
    s.Has (c.modeOf opposite) opposite.id) : s.enable c opposite = s := by
  by_cases hrel : c.getRelation opposite = .noRelation
  · exact if_pos hrel
  · rw [State.enable, if_neg hrel]
    exact if_pos (h.resolve_left hrel)

theorem disable_same (h : c.getRelation opposite = .noRelation ∨
    ¬ s.Has (c.modeOf opposite) opposite.id) : s.disable c opposite = s := by
  by_cases hrel : c.getRelation opposite = .noRelation
  · exact if_pos hrel
  · rw [State.disable, if_neg hrel]
    exact if_neg (h.resolve_left hrel)

/-- A call changes one table, or one flag, and the dispatcher of its class. -/
theorem Inv.setMode (h : Inv c s) {s' : State} {m : OptionalMode} (hm : m ≠ .hybrid)
    (l : List RoleAttributes) (enabled : Bool) {d : Dispatcher}
    (htables : s'.transmitters = update s.transmitters m l)
    (henabled : s'.enabled = update s.enabled m enabled)
    (hdispatchers : s'.dispatchers = update s.dispatchers (transmitterClass m) d)
    (hlistens : Listens c d (Senders l enabled)) : Inv c s' where
  listens := by
    intro k
    rw [htables, henabled, hdispatchers]
    by_cases hk : k = transmitterClass m
    · subst hk
      rw [Function.update_self, mode_transmitterClass hm, Function.update_self,
        Function.update_self]
      exact hlistens
    · have hne : mode k ≠ m := by
        rintro rfl
        exact hk (transmitterClass_mode k).symm
      rw [Function.update_of_ne hk, Function.update_of_ne hne, Function.update_of_ne hne]
      exact h.listens k
  hybrid  := by
    rw [htables, Function.update_of_ne hm.symm]
    exact h.hybrid

theorem Inv.listens_mode (h : Inv c s) {m : OptionalMode} (hm : m ≠ .hybrid) :
    Listens c (s.dispatchers (transmitterClass m))
      (Senders (s.transmitters m) (s.enabled m)) := by
  have hl := h.listens (transmitterClass m)
  rwa [mode_transmitterClass hm] at hl

theorem ids_append_iff {l : List RoleAttributes} {o : RoleAttributes} {id : Nat} :
    Ids (l ++ [o]) id ↔ id = o.id.toNat ∨ Ids l id := by
  constructor
  · rintro ⟨o', ho', rfl⟩
    rcases List.mem_append.mp ho' with hold | hin
    · exact .inr ⟨o', hold, rfl⟩
    · exact .inl (by rw [List.mem_singleton.mp hin])
  · rintro (rfl | ⟨o', ho', rfl⟩)
    · exact ⟨o, List.mem_append_right _ (.head _), rfl⟩
    · exact ⟨o', List.mem_append_left _ ho', rfl⟩

theorem not_ids_nil (id : Nat) : ¬ Ids [] id := by
  rintro ⟨o, ho, -⟩
  cases ho

theorem Inv.enable (hc : Plain c.toConf) (h : Inv c s) (opposite : RoleAttributes) :
    Inv c (s.enable c opposite) := by
  by_cases hsame : c.getRelation opposite = .noRelation ∨ s.Has (c.modeOf opposite) opposite.id
  · rw [enable_same hsame]
    exact h
  · obtain ⟨hrel, hnew⟩ := not_or.mp hsame
    have hm : c.modeOf opposite ≠ .hybrid := hc _ hrel
    rw [enable_new hrel hnew]
    have hflag := Function.update_eq_self (c.modeOf opposite) s.enabled
    refine h.setMode hm (s.transmitters (c.modeOf opposite) ++ [opposite])
      (s.enabled (c.modeOf opposite))
      (d := (s.dispatchers (transmitterClass (c.modeOf opposite))).addListener c.messageType
        (c.key opposite) c.listener) (receiveHistoryMsg_transmitters _ _)
      ((receiveHistoryMsg_enabled _ _).trans hflag.symm) (receiveHistoryMsg_dispatchers _ _) ?_
    refine ((h.listens_mode hm).addListener fun handler conns ho =>
      ho.connect_own (some opposite.id.toNat) (has_iff.not.mp hnew)).congr fun id => ?_
    cases id with
    | none    => exact (or_iff_right (Option.some_ne_none _).symm).symm
    | some id =>
      rw [Option.some.injEq]
      exact ids_append_iff

theorem key_ne_iff (c : ReceiverConf) (o : RoleAttributes) (id : Nat) :
    (⟨c.attr.id.toNat, some id⟩ : ListenerKey) ≠ c.key o ↔ o.id.toNat ≠ id := by
  simp only [ReceiverConf.key, ne_eq, ListenerKey.mk.injEq, true_and, Option.some.injEq, eq_comm]

/-- `Disable` of an opposite leaves the connection for all. -/
theorem senders_key_iff (c : ReceiverConf) (o : RoleAttributes) {l l' : List RoleAttributes}
    {enabled : Bool} (hids : ∀ id, Ids l' id ↔ Ids l id ∧ o.id.toNat ≠ id) (id : Option Nat) :
    Senders l' enabled id ↔ Senders l enabled id ∧
      (⟨c.attr.id.toNat, id⟩ : ListenerKey) ≠ c.key o := by
  cases id with
  | none =>
    refine (and_iff_left ?_).symm
    intro heq
    cases heq
  | some id =>
    rw [key_ne_iff]
    exact hids id

theorem Inv.disable (hc : Plain c.toConf) (h : Inv c s) (opposite : RoleAttributes) :
    Inv c (s.disable c opposite) := by
  by_cases hsame : c.getRelation opposite = .noRelation ∨ ¬ s.Has (c.modeOf opposite) opposite.id
  · rw [disable_same hsame]
    exact h
  · obtain ⟨hrel, hknown⟩ := not_or.mp hsame
    have hm : c.modeOf opposite ≠ .hybrid := hc _ hrel
    rw [disable_known hrel (not_not.mp hknown)]
    have hflag := Function.update_eq_self (c.modeOf opposite) s.enabled
    refine h.setMode hm _ (s.enabled (c.modeOf opposite)) rfl hflag.symm rfl
      ((h.listens_mode hm).removeListener _ (senders_key_iff c opposite fun id => ?_))
    constructor
    · rintro ⟨o, ho, rfl⟩
      obtain ⟨hold, hne⟩ := List.mem_filter.mp ho
      refine ⟨⟨o, hold, rfl⟩, fun heq => of_decide_eq_true hne ?_⟩
      exact UInt64.toNat_inj.mp heq.symm
    · rintro ⟨⟨o, ho, rfl⟩, hne⟩
      refine ⟨o, List.mem_filter.mpr ⟨ho, decide_eq_true fun heq => hne ?_⟩, rfl⟩
      rw [heq]

/-- What the calls without an opposite leave alone. -/
structure Same (s s' : State) : Prop where
  alive        : s'.alive = s.alive
  transmitters : s'.transmitters = s.transmitters
  joined       : s'.joined = s.joined
  standing     : s'.standing = s.standing

theorem Same.foldl {f : State → OptionalMode → State} (hf : ∀ s m, Same s (f s m))
    (modes : List OptionalMode) (s : State) : Same s (modes.foldl f s) := by
  induction modes generalizing s with
  | nil => exact ⟨rfl, rfl, rfl, rfl⟩
  | cons m modes ih =>
    have hfirst := hf s m
    have hrest := ih (f s m)
    exact ⟨hrest.alive.trans hfirst.alive, hrest.transmitters.trans hfirst.transmitters,
      hrest.joined.trans hfirst.joined, hrest.standing.trans hfirst.standing⟩

theorem same_enableMode (s : State) (m : OptionalMode) : Same s (s.enableMode c m) := by
  unfold State.enableMode
  split
  · exact ⟨rfl, rfl, rfl, rfl⟩
  · exact ⟨rfl, rfl, rfl, rfl⟩

theorem same_disableMode (s : State) (m : OptionalMode) : Same s (s.disableMode c m) := by
  unfold State.disableMode
  split
  · exact ⟨rfl, rfl, rfl, rfl⟩
  · exact ⟨rfl, rfl, rfl, rfl⟩

theorem same_enableAll (s : State) : Same s (s.enableAll c) := .foldl same_enableMode c.modes s

theorem same_disableAll (s : State) : Same s (s.disableAll c) := .foldl same_disableMode c.modes s

/-- The flags behind a call for some modes. -/
theorem foldl_enabled {f : State → OptionalMode → State} (flag : Bool)
    (hf : ∀ s m, (f s m).enabled = update s.enabled m flag) (modes : List OptionalMode)
    (s : State) (m : OptionalMode) :
    (modes.foldl f s).enabled m = if m ∈ modes then flag else s.enabled m := by
  induction modes generalizing s with
  | nil => rfl
  | cons m' modes ih =>
    rw [List.foldl_cons, ih, hf]
    by_cases hm : m ∈ modes
    · rw [if_pos hm, if_pos (List.mem_cons_of_mem _ hm)]
    · rw [if_neg hm]
      by_cases heq : m = m'
      · rw [heq, Function.update_self, if_pos List.mem_cons_self]
      · rw [Function.update_of_ne heq, if_neg fun hin => (List.mem_cons.mp hin).elim heq hm]

theorem enableMode_enabled (s : State) (m : OptionalMode) :
    (s.enableMode c m).enabled = update s.enabled m true := by
  unfold State.enableMode
  split
  · next hflag => rw [← hflag, Function.update_eq_self]
  · rfl

theorem disableMode_enabled (s : State) (m : OptionalMode) :
    (s.disableMode c m).enabled = update s.enabled m false := by
  unfold State.disableMode
  split
  · rfl
  · next hflag => rw [← (Bool.not_eq_true _).mp hflag, Function.update_eq_self]

theorem Inv.enableMode (h : Inv c s) {m : OptionalMode} (hm : m ≠ .hybrid) :
    Inv c (s.enableMode c m) := by
  unfold State.enableMode
  split
  · exact h
  · next hflag =>
    have htable := Function.update_eq_self m s.transmitters
    refine h.setMode hm (s.transmitters m) true htable.symm rfl rfl ?_
    refine ((h.listens_mode hm).addListener fun handler conns ho =>
      ho.connect_own none hflag).congr fun id => ?_
    cases id with
    | none    => exact iff_of_true rfl (.inl rfl)
    | some id => exact (or_iff_right (Option.some_ne_none id)).symm

theorem Inv.disableMode (h : Inv c s) {m : OptionalMode} (hm : m ≠ .hybrid) :
    Inv c (s.disableMode c m) := by
  unfold State.disableMode
  split
  · have htable := Function.update_eq_self m s.transmitters
    refine h.setMode hm (s.transmitters m) false htable.symm rfl rfl
      ((h.listens_mode hm).removeListener _ fun id => ?_)
    cases id with
    | none    => exact iff_of_false Bool.false_ne_true fun hin => hin.2 rfl
    | some id =>
      refine (and_iff_left ?_).symm
      intro heq
      cases heq
  · exact h

theorem Inv.foldl {f : State → OptionalMode → State}
    (hf : ∀ s m, m ≠ .hybrid → Inv c s → Inv c (f s m)) {modes : List OptionalMode}
    (hmodes : .hybrid ∉ modes) (h : Inv c s) : Inv c (modes.foldl f s) := by
  induction modes generalizing s with
  | nil => exact h
  | cons m modes ih =>
    rw [List.mem_cons, not_or] at hmodes
    exact ih hmodes.2 (hf s m (Ne.symm hmodes.1) h)

/-- There is no receiver for `HYBRID`. -/
theorem hybrid_not_mem (hc : Plain c.toConf) : .hybrid ∉ c.modes := by
  intro hin
  have hconfigured := of_decide_eq_true (List.mem_filter.mp hin).2
  rcases hconfigured with hsame | hproc | hhost
  · exact hc .sameProc (by decide) hsame.symm
  · exact hc .diffProc (by decide) hproc.symm
  · exact hc .diffHost (by decide) hhost.symm

theorem Inv.enableAll (hc : Plain c.toConf) (h : Inv c s) : Inv c (s.enableAll c) :=
  h.foldl (fun _ _ hm hs => hs.enableMode hm) (hybrid_not_mem hc)

theorem Inv.disableAll (hc : Plain c.toConf) (h : Inv c s) : Inv c (s.disableAll c) :=
  h.foldl (fun _ _ hm hs => hs.disableMode hm) (hybrid_not_mem hc)

/-- The listeners of some opposites are removed, one after another. -/
theorem removeAll {m : OptionalMode} (l : List RoleAttributes)
    {ids : Option Nat → Prop}
    (hlistens : Listens c (s.dispatchers (transmitterClass m)) ids) :
    let s' := l.foldl (fun s opposite => s.removeListener c m opposite) s
    s'.transmitters = s.transmitters ∧
    (∀ k, k ≠ transmitterClass m → s'.dispatchers k = s.dispatchers k) ∧
    Listens c (s'.dispatchers (transmitterClass m)) fun id => ids id ∧ ¬ Senders l false id := by
  induction l generalizing s ids with
  | nil =>
    refine ⟨rfl, fun _ _ => rfl, hlistens.congr fun id => and_iff_left ?_⟩
    cases id with
    | none    => exact Bool.false_ne_true
    | some id => exact not_ids_nil id
  | cons o l ih =>
    have hfirst : Listens c ((s.removeListener c m o).dispatchers (transmitterClass m))
        fun id => ids id ∧ (⟨c.attr.id.toNat, id⟩ : ListenerKey) ≠ c.key o := by
      show Listens c (update s.dispatchers _ _ _) _
      rw [Function.update_self]
      exact hlistens.removeListener _ fun id => Iff.rfl
    obtain ⟨htables, hothers, hrest⟩ := ih hfirst
    refine ⟨htables, fun k hk => ?_, hrest.congr fun id => ?_⟩
    · rw [List.foldl_cons, hothers k hk]
      exact Function.update_of_ne hk ..
    · rw [and_assoc]
      refine and_congr_right fun _ => ?_
      cases id with
      | none    =>
        refine iff_of_true Bool.false_ne_true ⟨?_, Bool.false_ne_true⟩
        intro heq
        cases heq
      | some id =>
        rw [key_ne_iff]
        constructor
        · intro hnot
          refine ⟨fun heq => hnot ⟨o, .head _, heq⟩, ?_⟩
          rintro ⟨o', ho', heq⟩
          exact hnot ⟨o', .tail _ ho', heq⟩
        · rintro ⟨hne, hnot⟩ ⟨o', ho', heq⟩
          rcases List.mem_cons.mp ho' with rfl | hin
          · exact hne heq
          · exact hnot ⟨o', hin, heq⟩

@[simp] theorem clearMode_enabled (s : State) (m : OptionalMode) :
    (s.clearMode c m).enabled = s.enabled := by
  unfold State.clearMode
  generalize s.transmitters m = l
  induction l generalizing s with
  | nil => rfl
  | cons o l ih => exact ih (s.removeListener c m o)

@[simp] theorem clearTransmitters_enabled (s : State) :
    (s.clearTransmitters c).enabled = s.enabled := by
  simp only [State.clearTransmitters, List.foldl_cons, List.foldl_nil, clearMode_enabled]

/-- What is left of a table when some modes are cleared. -/
def State.rest (s : State) (modes : List OptionalMode) (m : OptionalMode) : List RoleAttributes :=
  if m ∈ modes then [] else s.transmitters m

theorem rest_append {m m' : OptionalMode} (hne : m' ≠ m) (s : State) (modes : List OptionalMode) :
    s.rest (modes ++ [m]) m' = s.rest modes m' := by
  unfold State.rest
  simp only [List.mem_append, List.mem_singleton, or_iff_left hne]

theorem rest_of_mem {m : OptionalMode} {modes : List OptionalMode} (hm : m ∈ modes) (s : State) :
    s.rest modes m = [] := if_pos hm

/-- The tables of some modes are cleared, the others are as they were. -/
structure Cleared (c : ReceiverConf) (s s' : State) (modes : List OptionalMode) : Prop where
  transmitters : s'.transmitters = s.transmitters
  listens      : ∀ k, Listens c (s'.dispatchers k)
    (Senders (s.rest modes (mode k)) (s.enabled (mode k)))

theorem Inv.clearMode (h : Inv c s) (m : OptionalMode) {s' : State} {modes : List OptionalMode}
    (hcleared : Cleared c s s' modes) : Cleared c s (s'.clearMode c m) (modes ++ [m]) := by
  by_cases hm : m = .hybrid
  · subst hm
    have hsame : s'.clearMode c .hybrid = s' := by
      rw [State.clearMode, hcleared.transmitters, h.hybrid]
      rfl
    rw [hsame]
    refine ⟨hcleared.transmitters, fun k => ?_⟩
    have hne : mode k ≠ .hybrid := by cases k <;> exact OptionalMode.noConfusion
    rw [rest_append hne]
    exact hcleared.listens k
  · have hlistens := hcleared.listens (transmitterClass m)
    rw [mode_transmitterClass hm] at hlistens
    obtain ⟨htables, hothers, hrest⟩ := removeAll (s'.transmitters m) hlistens
    refine ⟨htables.trans hcleared.transmitters, fun k => ?_⟩
    by_cases hk : k = transmitterClass m
    · subst hk
      refine hrest.congr fun id => ?_
      rw [mode_transmitterClass hm, hcleared.transmitters,
        rest_of_mem (List.mem_append_right _ (List.mem_singleton_self m))]
      cases id with
      | none    => exact (and_iff_left Bool.false_ne_true).symm
      | some id =>
        refine iff_of_false (not_ids_nil id) ?_
        rintro ⟨hin, hnot⟩
        by_cases hmode : m ∈ modes
        · rw [rest_of_mem hmode] at hin
          exact not_ids_nil id hin
        · rw [State.rest, if_neg hmode] at hin
          exact hnot hin
    · show Listens c ((s'.clearMode c m).dispatchers k) _
      have hne : mode k ≠ m := by
        rintro rfl
        exact hk (transmitterClass_mode k).symm
      rw [State.clearMode, hothers k hk, rest_append hne]
      exact hcleared.listens k

theorem Inv.clearTransmitters (h : Inv c s) : Inv c (s.clearTransmitters c) where
  listens := by
    have h₀ : Cleared c s s [] := ⟨rfl, h.listens⟩
    have h₄ := h.clearMode .rtps (h.clearMode .shm (h.clearMode .intra (h.clearMode .hybrid h₀)))
    intro k
    have hall : mode k ∈ [] ++ [OptionalMode.hybrid] ++ [.intra] ++ [.shm] ++ [.rtps] := by
      cases k <;> decide
    have hlistens := h₄.listens k
    rw [rest_of_mem hall] at hlistens
    rw [clearTransmitters_enabled]
    exact hlistens
  hybrid  := rfl

/-- Neither the tables nor the flags of the receivers below change. -/
theorem Inv.congr (h : Inv c s) {s' : State} (htables : s'.transmitters = s.transmitters)
    (hflags : s'.enabled = s.enabled) (hdispatchers : s'.dispatchers = s.dispatchers) :
    Inv c s' := by
  constructor
  · rw [htables, hflags, hdispatchers]
    exact h.listens
  · rw [htables]
    exact h.hybrid

/-- One dispatcher changes. -/
theorem Inv.setDispatcher (h : Inv c s) {k : TransmitterClass} {d : Dispatcher}
    (hlistens : Listens c d (Senders (s.transmitters (mode k)) (s.enabled (mode k)))) :
    Inv c { s with dispatchers := update s.dispatchers k d } where
  listens := by
    intro k'
    by_cases hk : k' = k
    · subst hk
      show Listens c (update s.dispatchers k' d k') _
      rw [Function.update_self]
      exact hlistens
    · show Listens c (update s.dispatchers k d k') _
      rw [Function.update_of_ne hk]
      exact h.listens k'
  hybrid  := h.hybrid

theorem inv_step (hc : Plain c.toConf) (s : State) (a : Label) (h : Inv c s)
    (hgate : ((hybridReceiver c).action a).gate s) :
    Inv c (((hybridReceiver c).action a).effect s) := by
  cases a with
  | enable opposite =>
    have hjoin : Inv c (s.join c opposite) := by
      unfold State.join
      split
      · exact h
      · exact ⟨h.listens, h.hybrid⟩
    exact hjoin.enable hc opposite
  | disable opposite =>
    have hleave : Inv c (s.leave c opposite) := by
      unfold State.leave
      split
      · exact h
      · exact ⟨h.listens, h.hybrid⟩
    exact hleave.disable hc opposite
  | enableAll => exact (h.enableAll hc).congr rfl rfl rfl
  | disableAll => exact (h.disableAll hc).congr rfl rfl rfl
  | destroy => exact (h.clearTransmitters.disableAll hc).congr rfl rfl rfl
  | otherAdds k key listener =>
    apply h.setDispatcher
    exact (h.listens k).addListener fun _ _ ho => ho.connect_other hgate.1 hgate.2
  | otherRemoves k key =>
    apply h.setDispatcher
    refine (h.listens k).removeListener key fun id => (and_iff_left ?_).symm
    intro heq
    exact hgate (congrArg ListenerKey.selfId heq).symm
  | shutdown k => exact h.setDispatcher ((h.listens k).shutdown _)

theorem inv_reachable (hc : Plain c.toConf) (h : (hybridReceiver c).Reachable s) : Inv c s := by
  refine System.invariant (fun s hs => ?_) (inv_step hc) h
  obtain ⟨-, htables, hflags, hdispatchers, -, -⟩ := hs
  refine ⟨fun k => ?_, htables _⟩
  rw [hdispatchers, htables, hflags]
  refine (listens_new c).congr fun id => iff_of_false ?_ not_false
  cases id with
  | none    => exact Bool.false_ne_true
  | some id => exact not_ids_nil id

/-- What can be told of the flags. The tables are empty behind the
    destructor. -/
structure Flagged (c : ReceiverConf) (s : State) : Prop where
  enabled : ∀ m, s.enabled m = true ↔ s.standing = true ∧ m ∈ c.modes
  dead    : s.alive = false → s.standing = false ∧ ∀ m, s.transmitters m = []

/-- A call with an opposite. -/
theorem Flagged.congr (h : Flagged c s) {s' : State} (halive : s'.alive = s.alive)
    (hup : s.alive = true) (henabled : s'.enabled = s.enabled)
    (hstanding : s'.standing = s.standing) : Flagged c s' := by
  constructor
  · rw [henabled, hstanding]
    exact h.enabled
  · intro hdead
    rw [halive, hup] at hdead
    cases hdead

theorem enable_flags (s : State) (opposite : RoleAttributes) :
    ((s.join c opposite).enable c opposite).alive = s.alive ∧
      ((s.join c opposite).enable c opposite).enabled = s.enabled ∧
      ((s.join c opposite).enable c opposite).standing = s.standing := by
  have hjoin : (s.join c opposite).alive = s.alive ∧ (s.join c opposite).enabled = s.enabled ∧
      (s.join c opposite).standing = s.standing := by
    unfold State.join
    split
    · exact ⟨rfl, rfl, rfl⟩
    · exact ⟨rfl, rfl, rfl⟩
  unfold State.enable State.receiveHistoryMsg State.addListener
  dsimp only
  split
  · exact hjoin
  · split
    · exact hjoin
    · split
      · exact hjoin
      · exact hjoin

theorem disable_flags (s : State) (opposite : RoleAttributes) :
    ((s.leave c opposite).disable c opposite).alive = s.alive ∧
      ((s.leave c opposite).disable c opposite).enabled = s.enabled ∧
      ((s.leave c opposite).disable c opposite).standing = s.standing := by
  have hleave : (s.leave c opposite).alive = s.alive ∧
      (s.leave c opposite).enabled = s.enabled ∧
      (s.leave c opposite).standing = s.standing := by
    unfold State.leave
    split
    · exact ⟨rfl, rfl, rfl⟩
    · exact ⟨rfl, rfl, rfl⟩
  unfold State.disable State.removeListener
  dsimp only
  split
  · exact hleave
  · split
    · exact hleave
    · exact hleave

/-- The flags are down behind `Disable()`. -/
theorem disableAll_enabled (h : ∀ m, s.enabled m = true → m ∈ c.modes) (m : OptionalMode) :
    (s.disableAll c).enabled m = false := by
  rw [State.disableAll, foldl_enabled false disableMode_enabled]
  split
  · rfl
  · next hm => exact (Bool.not_eq_true _).mp fun hflag => hm (h m hflag)

theorem flagged_step (s : State) (a : Label) (h : Flagged c s)
    (hgate : ((hybridReceiver c).action a).gate s) :
    Flagged c (((hybridReceiver c).action a).effect s) := by
  have hmodes : ∀ m, s.enabled m = true → m ∈ c.modes := fun m hm => ((h.enabled m).mp hm).2
  cases a with
  | enable opposite =>
    obtain ⟨halive, henabled, hstanding⟩ := enable_flags (c := c) s opposite
    exact h.congr halive hgate henabled hstanding
  | disable opposite =>
    obtain ⟨halive, henabled, hstanding⟩ := disable_flags (c := c) s opposite
    exact h.congr halive hgate henabled hstanding
  | enableAll =>
    refine ⟨fun m => ?_, fun hdead => ?_⟩
    · show (s.enableAll c).enabled m = true ↔ true = true ∧ m ∈ c.modes
      rw [State.enableAll, foldl_enabled true enableMode_enabled]
      by_cases hm : m ∈ c.modes
      · rw [if_pos hm]
        exact iff_of_true rfl ⟨rfl, hm⟩
      · rw [if_neg hm]
        exact iff_of_false (fun hflag => hm (hmodes m hflag)) fun hin => hm hin.2
    · have halive : (s.enableAll c).alive = true := (same_enableAll s).alive.trans hgate
      exact absurd (halive.symm.trans hdead) (by decide)
  | disableAll =>
    refine ⟨fun m => ?_, fun hdead => ?_⟩
    · show (s.disableAll c).enabled m = true ↔ false = true ∧ m ∈ c.modes
      rw [disableAll_enabled hmodes]
      exact iff_of_false Bool.false_ne_true fun hin => Bool.false_ne_true hin.1
    · have halive : (s.disableAll c).alive = true := (same_disableAll s).alive.trans hgate
      exact absurd (halive.symm.trans hdead) (by decide)
  | destroy =>
    have hflags : ∀ m, (s.destroy c).enabled m = false := by
      refine disableAll_enabled fun m hm => hmodes m ?_
      rwa [clearTransmitters_enabled] at hm
    refine ⟨fun m => ?_, fun _ => ⟨rfl, fun m => ?_⟩⟩
    · show (s.destroy c).enabled m = true ↔ false = true ∧ m ∈ c.modes
      rw [hflags]
      exact iff_of_false Bool.false_ne_true fun hin => Bool.false_ne_true hin.1
    · exact congrFun (same_disableAll (s.clearTransmitters c)).transmitters m
  | otherAdds k key listener => exact ⟨h.enabled, h.dead⟩
  | otherRemoves k key => exact ⟨h.enabled, h.dead⟩
  | shutdown k => exact ⟨h.enabled, h.dead⟩

theorem flagged_reachable (h : (hybridReceiver c).Reachable s) : Flagged c s := by
  refine System.invariant (fun s hs => ?_) flagged_step h
  obtain ⟨halive, -, hflags, -, -, -, hstanding⟩ := hs
  constructor
  · intro m
    rw [hflags, hstanding]
    exact iff_of_false Bool.false_ne_true fun hin => Bool.false_ne_true hin.1
  · intro hdead
    rw [halive] at hdead
    cases hdead

instance (l : List RoleAttributes) (id : Nat) : Decidable (Ids l id) :=
  inferInstanceAs (Decidable (∃ o ∈ l, _))

/-- How often the dispatcher of class `k` calls the listener for a message
    of `sender`. -/
def State.heard (c : ReceiverConf) (s : State) (k : TransmitterClass) (sender : Nat) : Nat :=
  ((s.dispatchers k).onMessage sender).count c.listener

instance (l : List RoleAttributes) (enabled : Bool) :
    ∀ id, Decidable (Senders l enabled id)
  | none    => inferInstanceAs (Decidable (enabled = true))
  | some id => inferInstanceAs (Decidable (Ids l id))

/-- **Once**: a dispatcher that is up calls the listener once for a message
    of an opposite in the table of its mode, and once more for any message
    while `Enable()` stands. -/
theorem heard_eq (hc : Plain c.toConf) (h : (hybridReceiver c).Reachable s)
    (k : TransmitterClass) (sender : Nat) : s.heard c k sender =
      if (s.dispatchers k).isShutdown = false then
        (if s.standing = true ∧ mode k ∈ c.modes then 1 else 0) +
          if Ids (s.transmitters (mode k)) sender then 1 else 0
      else 0 := by
  rw [State.heard, ((inv_reachable hc h).listens k).count_onMessage sender]
  refine if_congr Iff.rfl ?_ rfl
  have hflag := (flagged_reachable h).enabled (mode k)
  exact congrArg₂ (· + ·) (if_congr hflag rfl rfl) (if_congr Iff.rfl rfl rfl)

end runs

end CyberRT.Transport.HybridReceiver
