import Mathlib.Data.List.Induction
import Mathlib.Data.List.Nodup
import CyberRT.Transport.ListenerHandler

/-! # Who is called

    Over any sequence of calls of a `ListenerHandler`, `Run` should call the
    listeners that are connected and no others. The handler remembers one
    connection for each key: a listener that connects again under its old
    ids takes the place of its first connection in the maps, but both slots
    stay in the signal. `Disconnect` finds the later one only. -/

namespace CyberRT.Transport

/-! ## Section 1: Calls -/

inductive Call where
  | connect (key : ListenerKey) (listener : Nat)
  | disconnect (key : ListenerKey)
  | run (sender : Nat)
  deriving DecidableEq

namespace ListenerHandler

/-- The handler behind a `Run`: both signals have cleared their slots. -/
def ran (h : ListenerHandler) (sender : Nat) : ListenerHandler :=
  { h with
    signal  := h.signal.clearDisconnectedSlots
    signals := Function.update h.signals sender
      ((h.signals sender).map Signal.clearDisconnectedSlots) }

def perform (h : ListenerHandler) : Call → ListenerHandler
  | .connect key listener => h.connect key listener
  | .disconnect key       => h.disconnect key
  | .run sender           => h.ran sender

/-- The handler after these calls. -/
def after (messageType : Nat) (calls : List Call) : ListenerHandler :=
  calls.foldl perform (new messageType)

/-- **Abstract listeners**: a call of `Connect` adds one, a call of
    `Disconnect` takes away those that were added under its ids. -/
def register (conns : List (ListenerKey × Nat)) : Call → List (ListenerKey × Nat)
  | .connect key listener => conns ++ [(key, listener)]
  | .disconnect key       => conns.filter (·.1 ≠ key)
  | .run _                => conns

def connectedAfter (calls : List Call) : List (ListenerKey × Nat) := calls.foldl register []

/-- The listeners of a key's general or opposite id. -/
def listeners (conns : List (ListenerKey × Nat)) (oppoId : Option Nat) : List Nat :=
  (conns.filter (·.1.oppoId = oppoId)).map (·.2)

/-- A `Run` at any point would call the listeners that are connected. -/
def RunsConnected (messageType : Nat) (calls : List Call) : Prop :=
  ∀ before, before <+: calls → ∀ sender,
    (after messageType before).run sender =
      listeners (connectedAfter before) none ++ listeners (connectedAfter before) (some sender)

/-- **Condition**: no `Disconnect` has two connections to look for. -/
def DisconnectsOne (calls : List Call) : Prop :=
  ∀ before key, before ++ [.disconnect key] <+: calls →
    ((connectedAfter before).filter (·.1 = key)).length ≤ 1

theorem after_concat (messageType : Nat) (calls : List Call) (c : Call) :
    after messageType (calls ++ [c]) = (after messageType calls).perform c :=
  List.foldl_concat ..

theorem connectedAfter_concat (calls : List Call) (c : Call) :
    connectedAfter (calls ++ [c]) = register (connectedAfter calls) c :=
  List.foldl_concat ..

/-! ## Section 2: Slots -/

/-- The slots of one of the signals. -/
def slotsFor (h : ListenerHandler) : Option Nat → List Slot
  | none        => h.signal.slots
  | some oppoId => ((h.signals oppoId).map Signal.slots).getD []

variable {h : ListenerHandler} {key : ListenerKey}

theorem run_eq (sender : Nat) :
    h.run sender = Signal.call ⟨h.slotsFor none⟩ ++ Signal.call ⟨h.slotsFor (some sender)⟩ := by
  cases hsignal : h.signals sender <;> simp [run, slotsFor, Signal.call, hsignal]

theorem slotsFor_connect (key : ListenerKey) (listener : Nat) (oppoId : Option Nat) :
    (h.connect key listener).slotsFor oppoId =
      if oppoId = key.oppoId then h.slotsFor oppoId ++ [⟨h.nextSlot, listener, true⟩]
      else h.slotsFor oppoId := by
  obtain ⟨selfId, keyOppo⟩ := key
  rcases keyOppo with _ | keyOppo <;> rcases oppoId with _ | oppoId
  · rfl
  · rfl
  · rfl
  · by_cases heq : oppoId = keyOppo
    · subst heq
      cases hsignal : h.signals oppoId <;>
        simp [connect, connectOppo, slotsFor, Signal.connect, hsignal]
    · simp [connect, connectOppo, slotsFor, heq]

/-- **One more listener**: a listener that nobody has connected is called
    once for the messages it listens to, and for no others. -/
theorem filter_run_connect {listener : Nat} (key : ListenerKey) (sender : Nat)
    (hnew : listener ∉ h.run sender) :
    ((h.connect key listener).run sender).filter (· = listener) =
      if key.oppoId = none ∨ key.oppoId = some sender then [listener] else [] := by
  have hcall : ∀ slots : List Slot, Signal.call ⟨slots ++ [⟨h.nextSlot, listener, true⟩]⟩ =
      Signal.call ⟨slots⟩ ++ [listener] := by
    intro slots
    simp [Signal.call]
  rw [run_eq, List.mem_append, not_or] at hnew
  have hothers : ∀ oppoId, listener ∉ Signal.call ⟨h.slotsFor oppoId⟩ →
      (Signal.call ⟨h.slotsFor oppoId⟩).filter (· = listener) = [] := by
    intro oppoId hnot
    simp only [List.filter_eq_nil_iff, decide_eq_true_eq]
    rintro _ hin rfl
    exact hnot hin
  rw [run_eq, List.filter_append, slotsFor_connect, slotsFor_connect]
  rcases hoppo : key.oppoId with _ | oppoId
  · simp [hcall, hothers _ hnew.1, hothers _ hnew.2]
  · by_cases heq : sender = oppoId
    · simp [hcall, heq, hothers _ hnew.1, heq ▸ hothers _ hnew.2]
    · simp [heq, Ne.symm heq, hothers _ hnew.1, hothers _ hnew.2]

theorem slotsFor_disconnect (key : ListenerKey) (oppoId : Option Nat) :
    (h.disconnect key).slotsFor oppoId =
      if oppoId = key.oppoId then
        match h.slotOf key with
        | none     => h.slotsFor oppoId
        | some ptr => (Signal.disconnect ⟨h.slotsFor oppoId⟩ ptr).slots
      else h.slotsFor oppoId := by
  obtain ⟨selfId, keyOppo⟩ := key
  -- by what the key listens to, what the maps remember, and whose slots
  rcases keyOppo with _ | keyOppo
  · rcases hptr : h.signalConns selfId with _ | ptr <;> rcases oppoId with _ | oppoId <;>
      simp [disconnect, disconnectSelf, slotOf, slotsFor, hptr]
  · rcases hptr : h.signalsConns keyOppo selfId with _ | ptr <;> rcases oppoId with _ | oppoId
    · simp [disconnect, disconnectOppo, slotsFor, hptr]
    · simp [disconnect, disconnectOppo, slotOf, slotsFor, hptr]
    · simp [disconnect, disconnectOppo, slotsFor, hptr]
    · by_cases heq : oppoId = keyOppo
      · subst heq
        cases hsignal : h.signals oppoId <;>
          simp [disconnect, disconnectOppo, slotOf, slotsFor, hptr, hsignal, Signal.disconnect]
      · simp [disconnect, disconnectOppo, slotsFor, hptr, heq]

theorem slotsFor_ran (sender : Nat) (oppoId : Option Nat)
    (hconnected : ∀ oppoId, ∀ slot ∈ h.slotsFor oppoId, slot.connected = true) :
    (h.ran sender).slotsFor oppoId = h.slotsFor oppoId := by
  have hkeep : ∀ oppoId, (h.slotsFor oppoId).filter (·.connected) = h.slotsFor oppoId :=
    fun oppoId => List.filter_eq_self.mpr (hconnected oppoId)
  rcases oppoId with _ | oppoId
  · exact hkeep none
  · by_cases heq : oppoId = sender
    · subst heq
      have hsame := hkeep (some oppoId)
      cases hsignal : h.signals oppoId <;>
        simp_all [ran, slotsFor, Signal.clearDisconnectedSlots]
    · simp [ran, slotsFor, heq]

/-- `Disconnect` of a connection clears its slot. -/
theorem disconnect_slots {slots : List Slot} (ptr : Nat)
    (hconnected : ∀ slot ∈ slots, slot.connected = true) :
    (Signal.disconnect ⟨slots⟩ ptr).slots = slots.filter (·.ptr ≠ ptr) := by
  have hcleared : (slots.map fun slot =>
      if slot.ptr = ptr then { slot with connected := false } else slot).filter (·.connected) =
        slots.filter (·.ptr ≠ ptr) := by
    induction slots with
    | nil => rfl
    | cons slot slots ih =>
      have hhead := hconnected slot (.head _)
      have htail := ih fun slot hin => hconnected slot (.tail _ hin)
      by_cases heq : slot.ptr = ptr
      · simp [heq, htail]
      · simp [heq, hhead, htail]
  unfold Signal.disconnect
  split
  · exact hcleared
  · next hnone =>
    symm
    rw [List.filter_eq_self]
    intro slot hin
    simp only [List.any_eq_true, decide_eq_true_eq, not_exists, not_and] at hnone
    exact decide_eq_true (hnone slot hin)

/-! ## Section 3: Connections -/

/-- **Invariant**: the slots of the signals belong to these connections, and
    the maps remember some of them. -/
structure Tracks (h : ListenerHandler) (conns : List (ListenerKey × Slot)) : Prop where
  slots     : ∀ oppoId, h.slotsFor oppoId = (conns.filter (·.1.oppoId = oppoId)).map (·.2)
  fresh     : ∀ c ∈ conns, c.2.ptr < h.nextSlot
  nodup     : (conns.map (·.2.ptr)).Nodup
  connected : ∀ c ∈ conns, c.2.connected = true
  handle    : ∀ key, ∀ ptr ∈ h.slotOf key, ∃ c ∈ conns, c.1 = key ∧ c.2.ptr = ptr

variable {conns : List (ListenerKey × Slot)}

theorem tracks_new (messageType : Nat) : (new messageType).Tracks [] where
  slots     := by rintro (_ | oppoId) <;> rfl
  fresh     := nofun
  nodup     := List.nodup_nil
  connected := nofun
  handle    := by rintro ⟨selfId, _ | oppoId⟩ ptr hptr <;> cases hptr

theorem Tracks.slots_connected (ht : h.Tracks conns) (oppoId : Option Nat) :
    ∀ slot ∈ h.slotsFor oppoId, slot.connected = true := by
  intro slot hin
  rw [ht.slots oppoId, List.mem_map] at hin
  obtain ⟨c, hc, rfl⟩ := hin
  exact ht.connected c (List.mem_filter.mp hc).1

/-- A slot belongs to one connection. -/
theorem Tracks.eq_of_ptr (ht : h.Tracks conns) {c c' : ListenerKey × Slot} (hc : c ∈ conns)
    (hc' : c' ∈ conns) (hptr : c.2.ptr = c'.2.ptr) : c = c' :=
  List.inj_on_of_nodup_map ht.nodup hc hc' hptr

/-- What a `Run` calls. -/
theorem Tracks.run (ht : h.Tracks conns) (sender : Nat) :
    h.run sender =
      listeners (conns.map fun c => (c.1, c.2.cb)) none ++
        listeners (conns.map fun c => (c.1, c.2.cb)) (some sender) := by
  have hcall : ∀ oppoId, Signal.call ⟨h.slotsFor oppoId⟩ =
      listeners (conns.map fun c => (c.1, c.2.cb)) oppoId := by
    intro oppoId
    have hall := List.filter_eq_self.mpr (ht.slots_connected oppoId)
    rw [Signal.call, hall, ht.slots oppoId, listeners, List.filter_map, List.map_map,
      List.map_map]
    rfl
  rw [run_eq, hcall, hcall]

theorem Tracks.connect (ht : h.Tracks conns) (key : ListenerKey) (listener : Nat) :
    (h.connect key listener).Tracks (conns ++ [(key, ⟨h.nextSlot, listener, true⟩)]) := by
  constructor
  · intro oppoId
    rw [slotsFor_connect, List.filter_append, List.map_append, ht.slots oppoId]
    by_cases heq : oppoId = key.oppoId
    · subst heq
      simp
    · simp [heq, Ne.symm heq]
  · intro c hc
    rw [nextSlot_connect]
    rcases List.mem_append.mp hc with hold | hnew
    · exact Nat.lt_succ_of_lt (ht.fresh c hold)
    · rw [List.mem_singleton.mp hnew]
      exact Nat.lt_succ_self _
  · -- the pointer is a fresh one
    rw [List.map_append, List.nodup_append]
    refine ⟨ht.nodup, List.nodup_singleton _, ?_⟩
    intro ptr hptr ptr' hptr'
    obtain ⟨c, hc, rfl⟩ := List.mem_map.mp hptr
    rw [List.map_singleton, List.mem_singleton] at hptr'
    rw [hptr']
    exact Nat.ne_of_lt (ht.fresh c hc)
  · intro c hc
    rcases List.mem_append.mp hc with hold | hnew
    · exact ht.connected c hold
    · rw [List.mem_singleton.mp hnew]
  · intro key' ptr hptr
    rw [slotOf_connect] at hptr
    split at hptr
    · next heq =>
      cases hptr
      exact ⟨_, List.mem_append_right _ (.head _), heq.symm, rfl⟩
    · obtain ⟨c, hc, hkey, heq⟩ := ht.handle key' ptr hptr
      exact ⟨c, List.mem_append_left _ hc, hkey, heq⟩

/-- The connection that the maps remember for a key was made under it. -/
theorem Tracks.slotOf_ne (ht : h.Tracks conns) {c : ListenerKey × Slot} (hc : c ∈ conns)
    (hne : c.1 ≠ key) : h.slotOf key ≠ some c.2.ptr := by
  intro hptr
  obtain ⟨c', hc', hkey, heq⟩ := ht.handle key _ hptr
  exact hne (ht.eq_of_ptr hc' hc heq ▸ hkey)

/-- `Disconnect` takes the connection away that the maps remember. -/
theorem Tracks.disconnect (ht : h.Tracks conns) (key : ListenerKey) :
    (h.disconnect key).Tracks (conns.filter fun c => h.slotOf key ≠ some c.2.ptr) := by
  constructor
  · intro oppoId
    rw [slotsFor_disconnect]
    by_cases heq : oppoId = key.oppoId
    · rw [if_pos heq]
      rcases hptr : h.slotOf key with _ | ptr
      · simp [ht.slots oppoId]
      · show (Signal.disconnect ⟨h.slotsFor oppoId⟩ ptr).slots = _
        rw [disconnect_slots ptr (ht.slots_connected oppoId), ht.slots oppoId, List.filter_map,
          List.filter_filter, List.filter_filter]
        congr 1
        apply List.filter_congr
        intro c _
        simp [Bool.and_comm, eq_comm]
    · -- no slot of another sender was made under the key
      rw [if_neg heq, ht.slots oppoId, List.filter_filter]
      congr 1
      apply List.filter_congr
      intro c hc
      by_cases hoppo : c.1.oppoId = oppoId
      · have hne : c.1 ≠ key := fun hkey => heq (by rw [← hoppo, hkey])
        simp [hoppo, ht.slotOf_ne hc hne]
      · simp [hoppo]
  · intro c hc
    rw [nextSlot_disconnect]
    exact ht.fresh c (List.mem_filter.mp hc).1
  · exact ht.nodup.sublist (List.filter_sublist.map _)
  · exact fun c hc => ht.connected c (List.mem_filter.mp hc).1
  · intro key' ptr hptr
    rw [slotOf_disconnect] at hptr
    split at hptr
    · cases hptr
    · next hne =>
      obtain ⟨c, hc, rfl, heq⟩ := ht.handle key' ptr hptr
      exact ⟨c, List.mem_filter.mpr ⟨hc, decide_eq_true (ht.slotOf_ne hc hne)⟩, rfl, heq⟩

theorem Tracks.ran (ht : h.Tracks conns) (sender : Nat) : (h.ran sender).Tracks conns where
  slots     := fun oppoId => (slotsFor_ran sender oppoId ht.slots_connected).trans (ht.slots oppoId)
  fresh     := ht.fresh
  nodup     := ht.nodup
  connected := ht.connected
  handle    := ht.handle

/-! ## Section 4: Runs -/

/-- In every run the slots can be traced to connections. -/
theorem tracks_after (messageType : Nat) (calls : List Call) :
    ∃ conns, (after messageType calls).Tracks conns := by
  induction calls using List.reverseRecOn with
  | nil => exact ⟨[], tracks_new messageType⟩
  | append_singleton calls c ih =>
    obtain ⟨conns, ht⟩ := ih
    rw [after_concat]
    cases c with
    | connect key listener => exact ⟨_, ht.connect key listener⟩
    | disconnect key => exact ⟨_, ht.disconnect key⟩
    | run sender => exact ⟨_, ht.ran sender⟩

theorem DisconnectsOne.of_earlier {calls calls' : List Call} (h : DisconnectsOne calls)
    (hpre : calls' <+: calls) : DisconnectsOne calls' :=
  fun before key hbefore => h before key (hbefore.trans hpre)

theorem mem_unique {α : Type} {l : List α} (hlength : l.length ≤ 1) {a b : α} (ha : a ∈ l)
    (hb : b ∈ l) : a = b := by
  rcases l with _ | ⟨c, _ | ⟨d, l⟩⟩
  · cases ha
  · rw [List.mem_singleton.mp ha, List.mem_singleton.mp hb]
  · exact absurd hlength (by simp)

/-- **Refinement**: while no `Disconnect` has two connections to look for,
    the connections are the abstract ones, and the maps remember one of
    every key. -/
theorem DisconnectsOne.agrees {calls : List Call} (messageType : Nat)
    (hone : DisconnectsOne calls) :
    ∃ conns, (after messageType calls).Tracks conns ∧
      conns.map (fun c => (c.1, c.2.cb)) = connectedAfter calls ∧
      ∀ c ∈ conns, ((after messageType calls).slotOf c.1).isSome := by
  induction calls using List.reverseRecOn with
  | nil => exact ⟨[], tracks_new messageType, rfl, nofun⟩
  | append_singleton calls c ih =>
    obtain ⟨conns, ht, hconns, hhandle⟩ := ih (hone.of_earlier (List.prefix_append _ _))
    rw [after_concat, connectedAfter_concat, ← hconns]
    cases c with
    | connect key listener =>
      refine ⟨_, ht.connect key listener, by simp [register], ?_⟩
      intro c hc
      show ((ListenerHandler.connect _ key listener).slotOf c.1).isSome
      rw [slotOf_connect]
      split
      · rfl
      · next hne =>
        rcases List.mem_append.mp hc with hold | hnew
        · exact hhandle c hold
        · exact absurd (congrArg Prod.fst (List.mem_singleton.mp hnew)) hne
    | disconnect key =>
      have hfew := hone calls key (List.prefix_refl _)
      rw [← hconns, List.filter_map, List.length_map] at hfew
      -- the connection that the maps remember is the only one of the key
      have hgone : ∀ c ∈ conns,
          ((after messageType calls).slotOf key ≠ some c.2.ptr ↔ c.1 ≠ key) := by
        intro c hc
        refine ⟨fun hkeep hkey => hkeep ?_, ht.slotOf_ne hc⟩
        obtain ⟨ptr, hptr⟩ := Option.isSome_iff_exists.mp (hhandle c hc)
        rw [hkey] at hptr
        obtain ⟨c', hc', hkey', rfl⟩ := ht.handle key ptr hptr
        have hsame : c = c' := mem_unique hfew
          (List.mem_filter.mpr ⟨hc, decide_eq_true hkey⟩)
          (List.mem_filter.mpr ⟨hc', decide_eq_true hkey'⟩)
        rw [hptr, hsame]
      refine ⟨_, ht.disconnect key, ?_, ?_⟩
      · rw [register, List.filter_map]
        congr 1
        apply List.filter_congr
        intro c hc
        exact decide_eq_decide.mpr (hgone c hc)
      · intro c hc
        obtain ⟨hin, hkeep⟩ := List.mem_filter.mp hc
        show ((ListenerHandler.disconnect _ key).slotOf c.1).isSome
        rw [slotOf_disconnect, if_neg ((hgone c hin).mp (of_decide_eq_true hkeep))]
        exact hhandle c hin
    | run sender => exact ⟨_, ht.ran sender, rfl, hhandle⟩

/-- Who hears a message is counted by connections. -/
theorem length_listeners (conns : List (ListenerKey × Nat)) (sender : Nat) :
    (listeners conns none ++ listeners conns (some sender)).length =
      conns.countP fun c => c.1.oppoId = none ∨ c.1.oppoId = some sender := by
  simp only [listeners, List.length_append, List.length_map, ← List.countP_eq_length_filter]
  induction conns with
  | nil => rfl
  | cons c conns ih =>
    simp only [List.countP_cons, ← ih]
    rcases hoppo : c.1.oppoId with _ | oppoId
    · simp
      omega
    · by_cases heq : oppoId = sender <;> simp [heq]
      omega

/-- A `Disconnect` takes one connection away at most. -/
theorem Tracks.length_forgotten (ht : h.Tracks conns) (key : ListenerKey) :
    (conns.filter fun c => !decide (h.slotOf key ≠ some c.2.ptr)).length ≤ 1 := by
  rcases hptr : h.slotOf key with _ | ptr
  · simp
  · obtain ⟨c, hc, -, rfl⟩ := ht.handle key ptr hptr
    have hsub : (conns.filter fun c' => !decide (some c.2.ptr ≠ some c'.2.ptr)) ⊆ [c] := by
      intro c' hc'
      simp only [List.mem_filter, Bool.not_eq_true', decide_eq_false_iff_not, not_not,
        Option.some.injEq] at hc'
      exact List.mem_singleton.mpr (ht.eq_of_ptr hc'.1 hc hc'.2.symm)
    exact (ht.nodup.of_map.filter _).length_le_of_subset hsub

/-- A `Disconnect` silences one listener at most. -/
theorem Tracks.run_disconnect (ht : h.Tracks conns) (key : ListenerKey) (sender : Nat) :
    (h.run sender).length ≤ ((h.disconnect key).run sender).length + 1 := by
  rw [ht.run, (ht.disconnect key).run, length_listeners, length_listeners, List.countP_map,
    List.countP_map, List.countP_eq_countP_filter_add conns _
      (fun c => h.slotOf key ≠ some c.2.ptr)]
  exact Nat.add_le_add_left (Nat.le_trans List.countP_le_length (ht.length_forgotten key)) _

/-- A `Disconnect` should silence all listeners of the key. -/
theorem length_register_disconnect (conns : List (ListenerKey × Nat)) (key : ListenerKey)
    {sender : Nat} (hsender : ∀ oppoId ∈ key.oppoId, oppoId = sender) :
    (listeners conns none ++ listeners conns (some sender)).length =
      (listeners (register conns (.disconnect key)) none ++
        listeners (register conns (.disconnect key)) (some sender)).length +
      (conns.filter (·.1 = key)).length := by
  rw [length_listeners, length_listeners, List.countP_eq_countP_filter_add conns _ (·.1 ≠ key)]
  have hheard : ∀ c ∈ conns.filter (·.1 = key),
      decide (c.1.oppoId = none ∨ c.1.oppoId = some sender) = true := by
    intro c hc
    rw [of_decide_eq_true (List.mem_filter.mp hc).2, decide_eq_true_eq]
    rcases hoppo : key.oppoId with _ | oppoId
    · exact .inl rfl
    · exact .inr (congrArg some (hsender oppoId hoppo))
  have hsilent : (conns.filter fun c => !decide (c.1 ≠ key)) =
      conns.filter (·.1 = key) := by
    apply List.filter_congr
    simp
  rw [hsilent, List.countP_eq_length.mpr hheard]
  rfl

/-- **Listeners**: `Run` calls those that are connected and no others, at
    every point of a sequence of calls, if and only if no `Disconnect` has
    two connections to look for. -/
theorem run_connected_iff (messageType : Nat) (calls : List Call) :
    RunsConnected messageType calls ↔ DisconnectsOne calls := by
  constructor
  · intro h before key hpre
    obtain ⟨conns, ht⟩ := tracks_after messageType before
    -- a message all listeners of the key would hear
    obtain ⟨sender, hsender⟩ : ∃ sender, ∀ oppoId ∈ key.oppoId, oppoId = sender :=
      ⟨key.oppoId.getD 0, fun oppoId hin => by rw [Option.mem_def.mp hin]; rfl⟩
    have hbefore := h before ((List.prefix_append _ _).trans hpre) sender
    have hbehind := h _ hpre sender
    rw [after_concat, connectedAfter_concat] at hbehind
    have hactual : _ ≤ ((perform _ (.disconnect key)).run sender).length + 1 :=
      ht.run_disconnect key sender
    -- one listener fewer at most, and it should be all of the key
    rw [hbefore, hbehind, length_register_disconnect _ key hsender] at hactual
    omega
  · intro hone before hpre sender
    obtain ⟨conns, ht, hconns, -⟩ := (hone.of_earlier hpre).agrees messageType
    rw [ht.run, hconns]

/-- Two listeners connect under one id, and the id is disconnected. -/
theorem run_staleListener :
    ¬ RunsConnected 0
      [.connect ⟨1, none⟩ 10, .connect ⟨1, none⟩ 20, .disconnect ⟨1, none⟩] ∧
    (after 0
      [.connect ⟨1, none⟩ 10, .connect ⟨1, none⟩ 20, .disconnect ⟨1, none⟩]).run 5 = [10] := by
  refine ⟨fun h => ?_, by decide⟩
  exact absurd (h _ (List.prefix_refl _) 5) (by decide)

end ListenerHandler

end CyberRT.Transport
