import Mathlib.Logic.Function.Basic

/-! # The listeners of a channel

    A `ListenerHandler` has one signal for the listeners of all senders, and
    one for the listeners of each sender, with the connections by which a
    listener's slot is found again. Every method is one step.

    Slots are objects: `ptr` is the identity of one, and `nextSlot` that of
    the next one the handler makes. -/

namespace CyberRT.Transport

/-! ## Section 1: Signals -/

structure Slot where
  ptr       : Nat
  cb        : Nat
  connected : Bool
  deriving DecidableEq

structure Signal where
  slots : List Slot
  deriving DecidableEq

namespace Signal

def connect (s : Signal) (ptr cb : Nat) : Signal := ⟨s.slots ++ [⟨ptr, cb, true⟩]⟩

def clearDisconnectedSlots (s : Signal) : Signal := ⟨s.slots.filter (·.connected)⟩

/-- `Disconnect` of the connection that has the slot `ptr`. -/
def disconnect (s : Signal) (ptr : Nat) : Signal :=
  let slots := s.slots.map fun slot =>
    if slot.ptr = ptr then { slot with connected := false } else slot
  if s.slots.any (·.ptr = ptr) then clearDisconnectedSlots ⟨slots⟩ else s

/-- `operator()`: the callbacks that are called. -/
def call (s : Signal) : List Nat := (s.slots.filter (·.connected)).map (·.cb)

/-- A callback has a connected slot. -/
def Holds (s : Signal) (ptr cb : Nat) : Prop := ⟨ptr, cb, true⟩ ∈ s.slots

instance (s : Signal) (ptr cb : Nat) : Decidable (s.Holds ptr cb) :=
  inferInstanceAs (Decidable (_ ∈ _))

variable {s : Signal} {ptr ptr' cb cb' : Nat}

theorem holds_connect : (s.connect ptr cb).Holds ptr cb :=
  List.mem_append_right _ (.head _)

theorem Holds.connect (h : s.Holds ptr cb) : (s.connect ptr' cb').Holds ptr cb :=
  List.mem_append_left _ h

/-- The other slots stay. -/
theorem Holds.disconnect (h : s.Holds ptr cb) (hne : ptr ≠ ptr') :
    (s.disconnect ptr').Holds ptr cb := by
  unfold Signal.disconnect
  dsimp only
  split
  · refine List.mem_filter.mpr ⟨List.mem_map.mpr ⟨_, h, if_neg hne⟩, rfl⟩
  · exact h

theorem Holds.mem_call (h : s.Holds ptr cb) : cb ∈ s.call :=
  List.mem_map.mpr ⟨_, List.mem_filter.mpr ⟨h, rfl⟩, rfl⟩

end Signal

/-! ## Section 2: Handlers -/

/-- `messageType` stands for the template argument. -/
structure ListenerHandler where
  messageType  : Nat
  signal       : Signal
  signalConns  : Nat → Option Nat
  signals      : Nat → Option Signal
  signalsConns : Nat → Nat → Option Nat
  nextSlot     : Nat

/-- Who listens: `self_attr.id()`, and `opposite_attr.id()` if it is given. -/
structure ListenerKey where
  selfId : Nat
  oppoId : Option Nat
  deriving DecidableEq

namespace ListenerHandler

def new (messageType : Nat) : ListenerHandler where
  messageType  := messageType
  signal       := ⟨[]⟩
  signalConns  := fun _ => none
  signals      := fun _ => none
  signalsConns := fun _ _ => none
  nextSlot     := 0

variable (h : ListenerHandler)

/-- `Connect(self_id, listener)`. -/
def connectSelf (selfId listener : Nat) : ListenerHandler :=
  { h with
    signal      := h.signal.connect h.nextSlot listener
    signalConns := Function.update h.signalConns selfId (some h.nextSlot)
    nextSlot    := h.nextSlot + 1 }

/-- `Connect(self_id, oppo_id, listener)`. The new slot is connected. -/
def connectOppo (selfId oppoId listener : Nat) : ListenerHandler :=
  let signal := (h.signals oppoId).getD ⟨[]⟩
  { h with
    signals      := Function.update h.signals oppoId (some (signal.connect h.nextSlot listener))
    signalsConns := Function.update h.signalsConns oppoId
      (Function.update (h.signalsConns oppoId) selfId (some h.nextSlot))
    nextSlot     := h.nextSlot + 1 }

/-- `Disconnect(self_id)`. -/
def disconnectSelf (selfId : Nat) : ListenerHandler :=
  match h.signalConns selfId with
  | none     => h
  | some ptr =>
    { h with
      signal      := h.signal.disconnect ptr
      signalConns := Function.update h.signalConns selfId none }

/-- `Disconnect(self_id, oppo_id)`. -/
def disconnectOppo (selfId oppoId : Nat) : ListenerHandler :=
  match h.signalsConns oppoId selfId with
  | none     => h
  | some ptr =>
    { h with
      signals      := Function.update h.signals oppoId ((h.signals oppoId).map (·.disconnect ptr))
      signalsConns := Function.update h.signalsConns oppoId
        (Function.update (h.signalsConns oppoId) selfId none) }

/-- The overloads of `Connect`. -/
def connect (key : ListenerKey) (listener : Nat) : ListenerHandler :=
  match key.oppoId with
  | none        => h.connectSelf key.selfId listener
  | some oppoId => h.connectOppo key.selfId oppoId listener

/-- The overloads of `Disconnect`. -/
def disconnect (key : ListenerKey) : ListenerHandler :=
  match key.oppoId with
  | none        => h.disconnectSelf key.selfId
  | some oppoId => h.disconnectOppo key.selfId oppoId

/-- `Run`, for a message of `sender`: the listeners that are called. -/
def run (sender : Nat) : List Nat :=
  h.signal.call ++ match h.signals sender with
    | none        => []
    | some signal => signal.call

/-! ## Section 3: Connected listeners -/

/-- The slot of a listener, by its connection. -/
def slotOf (key : ListenerKey) : Option Nat :=
  match key.oppoId with
  | none        => h.signalConns key.selfId
  | some oppoId => h.signalsConns oppoId key.selfId

/-- The signal of a listener. -/
def signalOf (key : ListenerKey) : Option Signal :=
  match key.oppoId with
  | none        => some h.signal
  | some oppoId => h.signals oppoId

/-- The listener has a connected slot and a connection to it. -/
def Connected (key : ListenerKey) (listener : Nat) : Prop :=
  ∃ ptr ∈ h.slotOf key, ∃ signal ∈ h.signalOf key, signal.Holds ptr listener

/-- **Invariant**: connections have slots of their own. -/
structure Sound : Prop where
  bound  : ∀ key, ∀ ptr ∈ h.slotOf key, ptr < h.nextSlot
  unique : ∀ key key', ∀ ptr ∈ h.slotOf key, ptr ∈ h.slotOf key' → key = key'

variable {h} {key key' : ListenerKey} {listener listener' : Nat}

/-- A connected listener is called for the messages it listens to. -/
theorem Connected.mem_run (hc : h.Connected key listener) {sender : Nat}
    (hsender : ∀ oppoId ∈ key.oppoId, oppoId = sender) : listener ∈ h.run sender := by
  obtain ⟨ptr, _, signal, hsignal, hholds⟩ := hc
  unfold run
  rw [List.mem_append]
  cases hkey : key.oppoId with
  | none =>
    left
    simp only [signalOf, hkey, Option.mem_def, Option.some.injEq] at hsignal
    exact hsignal ▸ hholds.mem_call
  | some oppoId =>
    right
    simp only [signalOf, hkey, Option.mem_def] at hsignal
    rw [← hsender oppoId hkey, hsignal]
    exact hholds.mem_call

@[simp] theorem messageType_connect (key : ListenerKey) (listener : Nat) :
    (h.connect key listener).messageType = h.messageType := by
  unfold connect
  split <;> rfl

@[simp] theorem messageType_disconnect (key : ListenerKey) :
    (h.disconnect key).messageType = h.messageType := by
  unfold disconnect disconnectSelf disconnectOppo
  split <;> split <;> rfl

theorem nextSlot_connect (key : ListenerKey) (listener : Nat) :
    (h.connect key listener).nextSlot = h.nextSlot + 1 := by
  unfold connect
  split <;> rfl

theorem nextSlot_disconnect (key : ListenerKey) :
    (h.disconnect key).nextSlot = h.nextSlot := by
  unfold disconnect disconnectSelf disconnectOppo
  split <;> split <;> rfl

/-- `Connect` makes a connection to a new slot. -/
theorem slotOf_connect (key key' : ListenerKey) (listener : Nat) :
    (h.connect key listener).slotOf key' =
      if key' = key then some h.nextSlot else h.slotOf key' := by
  obtain ⟨selfId, oppoId⟩ := key
  obtain ⟨selfId', oppoId'⟩ := key'
  cases oppoId with
  | none =>
    cases oppoId' with
    | none => by_cases hself : selfId' = selfId <;> simp [connect, connectSelf, slotOf, hself]
    | some oppoId' => simp [connect, connectSelf, slotOf]
  | some oppoId =>
    cases oppoId' with
    | none => simp [connect, connectOppo, slotOf]
    | some oppoId' =>
      by_cases hoppo : oppoId' = oppoId
      · subst hoppo
        by_cases hself : selfId' = selfId <;> simp [connect, connectOppo, slotOf, hself]
      · simp [connect, connectOppo, slotOf, hoppo]

/-- `Disconnect` drops the connection. -/
theorem slotOf_disconnect (key key' : ListenerKey) :
    (h.disconnect key).slotOf key' = if key' = key then none else h.slotOf key' := by
  obtain ⟨selfId, oppoId⟩ := key
  obtain ⟨selfId', oppoId'⟩ := key'
  cases oppoId with
  | none =>
    cases hptr : h.signalConns selfId with
    | none =>
      -- there is no connection to take away
      have hsame : h.disconnect ⟨selfId, none⟩ = h := by simp [disconnect, disconnectSelf, hptr]
      rw [hsame]
      split
      · next heq =>
        cases heq
        exact hptr
      · rfl
    | some ptr =>
      cases oppoId' with
      | none =>
        by_cases hself : selfId' = selfId <;>
          simp [disconnect, disconnectSelf, slotOf, hself, hptr]
      | some oppoId' => simp [disconnect, disconnectSelf, slotOf, hptr]
  | some oppoId =>
    cases hptr : h.signalsConns oppoId selfId with
    | none =>
      -- neither is there one to that sender
      have hsame : h.disconnect ⟨selfId, some oppoId⟩ = h := by
        simp [disconnect, disconnectOppo, hptr]
      rw [hsame]
      split
      · next heq =>
        cases heq
        exact hptr
      · rfl
    | some ptr =>
      cases oppoId' with
      | none => simp [disconnect, disconnectOppo, slotOf, hptr]
      | some oppoId' =>
        by_cases hoppo : oppoId' = oppoId
        · subst hoppo
          by_cases hself : selfId' = selfId <;>
            simp [disconnect, disconnectOppo, slotOf, hself, hptr]
        · simp [disconnect, disconnectOppo, slotOf, hoppo, hptr]

/-- `Connect` takes no slot away. -/
theorem signalOf_connect (key key' : ListenerKey) (listener : Nat) {signal : Signal}
    (hsignal : signal ∈ h.signalOf key') :
    ∃ signal' ∈ (h.connect key listener).signalOf key',
      ∀ ptr cb, signal.Holds ptr cb → signal'.Holds ptr cb := by
  obtain ⟨selfId, oppoId⟩ := key
  obtain ⟨selfId', oppoId'⟩ := key'
  cases oppoId with
  | none =>
    cases oppoId' with
    | none =>
      cases hsignal
      exact ⟨_, rfl, fun _ _ hholds => hholds.connect⟩
    | some oppoId' => exact ⟨signal, hsignal, fun _ _ hholds => hholds⟩
  | some oppoId =>
    cases oppoId' with
    | none => exact ⟨signal, hsignal, fun _ _ hholds => hholds⟩
    | some oppoId' =>
      by_cases hoppo : oppoId' = oppoId
      · subst hoppo
        have hsome : h.signals oppoId' = some signal := hsignal
        -- the signal of the sender has one slot more
        refine ⟨signal.connect h.nextSlot listener, ?_, fun _ _ hholds => hholds.connect⟩
        simp [connect, connectOppo, signalOf, hsome]
      · refine ⟨signal, ?_, fun _ _ hholds => hholds⟩
        have hsome : h.signals oppoId' = some signal := hsignal
        simp [connect, connectOppo, signalOf, hoppo, hsome]

/-- `Disconnect` takes the slot of its connection away. -/
theorem signalOf_disconnect (key key' : ListenerKey) {signal : Signal}
    (hsignal : signal ∈ h.signalOf key') :
    ∃ signal' ∈ (h.disconnect key).signalOf key',
      ∀ ptr cb, signal.Holds ptr cb → ptr ∉ h.slotOf key → signal'.Holds ptr cb := by
  obtain ⟨selfId, oppoId⟩ := key
  obtain ⟨selfId', oppoId'⟩ := key'
  -- a slot that is not the one taken away stays
  have hne : ∀ {ptr ptr' : Nat} {o : Option Nat}, o = some ptr' → ptr ∉ o → ptr ≠ ptr' := by
    rintro ptr ptr' o rfl hnot rfl
    exact hnot rfl
  cases oppoId with
  | none =>
    cases hptr : h.signalConns selfId with
    | none =>
      have hsame : h.disconnect ⟨selfId, none⟩ = h := by simp [disconnect, disconnectSelf, hptr]
      rw [hsame]
      exact ⟨signal, hsignal, fun _ _ hholds _ => hholds⟩
    | some ptr' =>
      cases oppoId' with
      | none =>
        cases hsignal
        refine ⟨h.signal.disconnect ptr', ?_, fun _ _ hholds hnot =>
          hholds.disconnect (hne hptr hnot)⟩
        simp [disconnect, disconnectSelf, signalOf, hptr]
      | some oppoId' =>
        have hsome : h.signals oppoId' = some signal := hsignal
        refine ⟨signal, ?_, fun _ _ hholds _ => hholds⟩
        simp [disconnect, disconnectSelf, signalOf, hptr, hsome]
  | some oppoId =>
    cases hptr : h.signalsConns oppoId selfId with
    | none =>
      have hsame : h.disconnect ⟨selfId, some oppoId⟩ = h := by
        simp [disconnect, disconnectOppo, hptr]
      rw [hsame]
      exact ⟨signal, hsignal, fun _ _ hholds _ => hholds⟩
    | some ptr' =>
      cases oppoId' with
      | none =>
        refine ⟨signal, ?_, fun _ _ hholds _ => hholds⟩
        simpa [disconnect, disconnectOppo, signalOf, hptr] using hsignal
      | some oppoId' =>
        have hsome : h.signals oppoId' = some signal := hsignal
        by_cases hoppo : oppoId' = oppoId
        · subst hoppo
          refine ⟨signal.disconnect ptr', ?_, fun _ _ hholds hnot =>
            hholds.disconnect (hne hptr hnot)⟩
          simp [disconnect, disconnectOppo, signalOf, hptr, hsome]
        · refine ⟨signal, ?_, fun _ _ hholds _ => hholds⟩
          simp [disconnect, disconnectOppo, signalOf, hptr, hoppo, hsome]

theorem sound_new (messageType : Nat) : (new messageType).Sound where
  bound  := by
    rintro ⟨selfId, _ | oppoId⟩ ptr hptr <;> cases hptr
  unique := by
    rintro ⟨selfId, _ | oppoId⟩ key' ptr hptr <;> cases hptr

theorem Sound.connect (hs : h.Sound) (key : ListenerKey) (listener : Nat) :
    (h.connect key listener).Sound := by
  constructor
  · intro key' ptr hptr
    rw [slotOf_connect] at hptr
    rw [nextSlot_connect]
    split at hptr
    · cases hptr
      exact Nat.lt_succ_self _
    · exact Nat.lt_succ_of_lt (hs.bound key' ptr hptr)
  · intro key₁ key₂ ptr h₁ h₂
    rw [slotOf_connect] at h₁ h₂
    -- an old slot is not the new one
    have hold : ∀ key', ptr ∈ h.slotOf key' → ptr ≠ h.nextSlot :=
      fun key' hin => Nat.ne_of_lt (hs.bound key' ptr hin)
    split at h₁
    · next heq₁ =>
      cases h₁
      split at h₂
      · next heq₂ => exact heq₁.trans heq₂.symm
      · exact absurd rfl (hold key₂ h₂)
    · split at h₂
      · cases h₂
        exact absurd rfl (hold key₁ h₁)
      · exact hs.unique key₁ key₂ ptr h₁ h₂

theorem Sound.disconnect (hs : h.Sound) (key : ListenerKey) : (h.disconnect key).Sound := by
  have hold : ∀ key', ∀ ptr ∈ (h.disconnect key).slotOf key', ptr ∈ h.slotOf key' := by
    intro key' ptr hptr
    rw [slotOf_disconnect] at hptr
    split at hptr
    · cases hptr
    · exact hptr
  constructor
  · intro key' ptr hptr
    rw [nextSlot_disconnect]
    exact hs.bound key' ptr (hold key' ptr hptr)
  · intro key₁ key₂ ptr h₁ h₂
    exact hs.unique key₁ key₂ ptr (hold key₁ ptr h₁) (hold key₂ ptr h₂)

/-- A listener is connected behind its `Connect`. -/
theorem connected_connect (key : ListenerKey) (listener : Nat) :
    (h.connect key listener).Connected key listener := by
  have hslot : (h.connect key listener).slotOf key = some h.nextSlot := by
    rw [slotOf_connect, if_pos rfl]
  obtain ⟨selfId, oppoId⟩ := key
  cases oppoId with
  | none => exact ⟨h.nextSlot, hslot, _, rfl, Signal.holds_connect⟩
  | some oppoId =>
    refine ⟨h.nextSlot, hslot, ((h.signals oppoId).getD ⟨[]⟩).connect h.nextSlot listener, ?_,
      Signal.holds_connect⟩
    simp [connect, connectOppo, signalOf]

/-- Another `Connect` leaves it connected. -/
theorem Connected.connect (hc : h.Connected key listener) (hne : key ≠ key') :
    (h.connect key' listener').Connected key listener := by
  obtain ⟨ptr, hptr, signal, hsignal, hholds⟩ := hc
  obtain ⟨signal', hsignal', hkeep⟩ := signalOf_connect key' key listener' hsignal
  refine ⟨ptr, ?_, signal', hsignal', hkeep ptr listener hholds⟩
  rwa [slotOf_connect, if_neg hne]

/-- Another `Disconnect` leaves it connected. -/
theorem Connected.disconnect (hs : h.Sound) (hc : h.Connected key listener) (hne : key ≠ key') :
    (h.disconnect key').Connected key listener := by
  obtain ⟨ptr, hptr, signal, hsignal, hholds⟩ := hc
  obtain ⟨signal', hsignal', hkeep⟩ := signalOf_disconnect key' key hsignal
  refine ⟨ptr, ?_, signal', hsignal', hkeep ptr listener hholds fun hin => ?_⟩
  · rwa [slotOf_disconnect, if_neg hne]
  · exact hne (hs.unique key key' ptr hptr hin)

end ListenerHandler

end CyberRT.Transport
