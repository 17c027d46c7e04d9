import Mathlib.Data.List.Basic
import CyberRT.Framework.System

/-! # Signals and their emissions

    `Signal` keeps a list of slots, each a callback with a flag. An emission
    copies the list, calls the slots of the copy whose flag is still set
    when their turn comes, and then clears the list of slots whose flag is
    not set. No lock is held while a callback runs, and a callback may
    connect, disconnect and emit on the same signal again.

    What a callback does is open: as long as one runs, or no emission is
    under way, any of the operations may come next. The emissions under way
    are a stack, the innermost first.

    Slots are objects: a number is the identity of one, and `next` that of
    the next one, so the order of the numbers is the order of connection.
    History are `disconnected`, the slots that were disconnected, `calls`,
    all slots called, `returned`, the emissions that have returned, and in
    an emission what was connected at its start, the slots whose turn has
    come, each with whether it was still connected then, and those called.

    Shown for every nesting: an emission calls, in the order of connection
    and once each, the slots that were connected when it started and not
    disconnected before their turn; nobody calls a disconnected slot; and
    the list holds the slots connected and not disconnected. -/

namespace CyberRT.Base.Signal

open CyberRT.Framework Function

/-! ## Section 1: State -/

/-- An emission: `rest` is `local` from the next slot on, `running` the slot
    whose callback runs. -/
structure Emission where
  snapshot : List Nat
  rest     : List Nat
  running  : Option Nat
  turns    : List (Nat × Bool)
  called   : List Nat
  deriving DecidableEq

/-- The signal, with the flag and the callback of each slot: a callback may
    be an empty function. -/
structure State where
  slots        : List Nat
  connected    : Nat → Bool
  hasCb        : Nat → Bool
  next         : Nat
  emissions    : List Emission
  disconnected : List Nat
  calls        : List Nat
  returned     : List Emission

namespace State

/-- The slots connected and not disconnected, in the order of connection. -/
def alive (s : State) : List Nat := (List.range s.next).filter fun p => p ∉ s.disconnected

/-! ## Section 2: Operations -/

def clearDisconnectedSlots (s : State) : State :=
  { s with slots := s.slots.filter fun slot => s.connected slot }

def connect (s : State) (hasCb : Bool) : State :=
  { s with
    slots     := s.slots ++ [s.next]
    connected := update s.connected s.next true
    hasCb     := update s.hasCb s.next hasCb
    next      := s.next + 1 }

/-- `conn.HasSlot(slot)`; a connection has a slot of this signal or none of
    them. -/
def hasSlot (conn : Option Nat) (slot : Nat) : Bool := decide (conn = some slot)

def disconnect (s : State) (conn : Option Nat) : State :=
  let find := s.slots.any (hasSlot conn)
  let s' := { s with
    connected := fun slot =>
      if slot ∈ s.slots ∧ hasSlot conn slot = true then false else s.connected slot
    disconnected := conn.toList ++ s.disconnected }
  if find then s'.clearDisconnectedSlots else s'

def disconnectAllSlots (s : State) : State :=
  { s with
    connected    := fun slot => if slot ∈ s.slots then false else s.connected slot
    slots        := []
    disconnected := List.range s.next }

/-- The start of `operator()`. -/
def emit (s : State) : State :=
  { s with
    emissions :=
      { snapshot := s.alive, rest := s.slots, running := none, turns := [], called := [] } ::
        s.emissions }

/-- `(*slot)(args...)` for the next slot of the copy. An empty function
    returns at once. -/
def turn (s : State) (e : Emission) (slot : Nat) (rest : List Nat) : State :=
  -- the flag counts now, not when the list was copied
  let call := s.connected slot
  let e' : Emission := { e with
    rest    := rest
    running := if call && s.hasCb slot then some slot else none
    turns   := e.turns ++ [(slot, decide (slot ∉ s.disconnected))]
    called  := if call then e.called ++ [slot] else e.called }
  { s with
    emissions := e' :: s.emissions.tail
    calls     := if call then s.calls ++ [slot] else s.calls }

def callbackReturns (s : State) (e : Emission) : State :=
  { s with emissions := { e with running := none } :: s.emissions.tail }

/-- The end of `operator()`, behind the loop. -/
def finish (s : State) (e : Emission) : State :=
  let s := s.clearDisconnectedSlots
  { s with emissions := s.emissions.tail, returned := s.returned ++ [e] }

/-- Code of the user runs: outside of every emission or in a callback. -/
def userRuns (s : State) : Prop := ∀ e ∈ s.emissions.head?, e.running ≠ none

instance (s : State) : Decidable s.userRuns :=
  inferInstanceAs (Decidable (∀ e ∈ s.emissions.head?, e.running ≠ none))

def initial : State where
  slots        := []
  connected    := fun _ => false
  hasCb        := fun _ => false
  next         := 0
  emissions    := []
  disconnected := []
  calls        := []
  returned     := []

end State

/-- The operations, and the steps of the innermost emission. -/
inductive Label where
  | connect (hasCb : Bool)
  | disconnect (conn : Option Nat)
  | disconnectAllSlots
  | emit
  | turn (e : Emission) (slot : Nat) (rest : List Nat)
  | callbackReturns (e : Emission)
  | finish (e : Emission)

def signal : System State Label where
  init := fun s => s = State.initial
  action := fun
    | .connect hasCb =>
      { gate   := fun s => s.userRuns
        effect := fun s => s.connect hasCb }
    | .disconnect conn =>
      { gate   := fun s => s.userRuns ∧ ∀ slot ∈ conn, slot < s.next
        effect := fun s => s.disconnect conn }
    | .disconnectAllSlots =>
      { gate   := fun s => s.userRuns
        effect := fun s => s.disconnectAllSlots }
    | .emit =>
      { gate   := fun s => s.userRuns
        effect := fun s => s.emit }
    | .turn e slot rest =>
      { gate   := fun s => s.emissions.head? = some e ∧ e.running = none ∧ e.rest = slot :: rest
        effect := fun s => s.turn e slot rest }
    | .callbackReturns e =>
      { gate   := fun s => s.emissions.head? = some e ∧ e.running ≠ none
        effect := fun s => s.callbackReturns e }
    | .finish e =>
      { gate   := fun s => s.emissions.head? = some e ∧ e.running = none ∧ e.rest = []
        effect := fun s => s.finish e }

instance : ∀ (a : Label) (s : State), Decidable ((signal.action a).gate s)
  | .connect _,          s => inferInstanceAs (Decidable s.userRuns)
  | .disconnect _,       _ => inferInstanceAs (Decidable (_ ∧ ∀ slot ∈ _, _))
  | .disconnectAllSlots, s => inferInstanceAs (Decidable s.userRuns)
  | .emit,               s => inferInstanceAs (Decidable s.userRuns)
  | .turn _ _ _,         _ => inferInstanceAs (Decidable (_ ∧ _ ∧ _))
  | .callbackReturns _,  _ => inferInstanceAs (Decidable (_ ∧ _))
  | .finish _,           _ => inferInstanceAs (Decidable (_ ∧ _ ∧ _))

/-! ## Section 3: Specification -/

/-- What holds of an emission under way: the turns made and those to come
    are the slots connected at the start, in the order of connection and
    once each, and the slots called are those that were not disconnected
    when their turn came. -/
structure Emission.Sound (e : Emission) : Prop where
  turns  : e.turns.map Prod.fst ++ e.rest = e.snapshot
  called : e.called = (e.turns.filter Prod.snd).map Prod.fst
  order  : e.snapshot.Pairwise (· < ·)

/-- An emission that has returned called exactly the slots it had to. -/
structure Emission.Complete (e : Emission) : Prop where
  turns  : e.turns.map Prod.fst = e.snapshot
  called : e.called = (e.turns.filter Prod.snd).map Prod.fst
  order  : e.snapshot.Pairwise (· < ·)

/-! ## Section 4: Invariant -/

namespace State

/-- The list is exact, the flags say who is disconnected, and every emission
    is sound. -/
structure Inv (s : State) : Prop where
  slots        : s.slots = s.alive
  flags        : ∀ p, p < s.next → (s.connected p = true ↔ p ∉ s.disconnected)
  disconnected : ∀ p ∈ s.disconnected, p < s.next
  emissions    : ∀ e ∈ s.emissions, e.Sound ∧ ∀ p ∈ e.snapshot, p < s.next
  returned     : ∀ e ∈ s.returned, e.Complete

variable {s : State}

theorem mem_alive {p : Nat} : p ∈ s.alive ↔ p < s.next ∧ p ∉ s.disconnected := by
  simp [alive]

/-- The slots are in the order of connection. -/
theorem alive_sorted (s : State) : s.alive.Pairwise (· < ·) :=
  List.Pairwise.filter _ List.pairwise_lt_range

theorem Inv.flag {p : Nat} (h : s.Inv) (hp : p ∈ s.slots) : s.connected p = true := by
  rw [h.slots] at hp
  obtain ⟨hlt, hnot⟩ := mem_alive.mp hp
  exact (h.flags p hlt).mpr hnot

/-- Clearing finds nothing to clear. -/
theorem Inv.clear (h : s.Inv) : s.clearDisconnectedSlots = s := by
  unfold clearDisconnectedSlots
  rw [List.filter_eq_self.mpr fun p hp => h.flag hp]

/-! ## Section 5: Operations -/

theorem Inv.connect (h : s.Inv) (hasCb : Bool) : (s.connect hasCb).Inv where
  slots := by
    -- the number has not been given out, so nobody has disconnected it
    have hnew : s.next ∉ s.disconnected := fun hin => Nat.lt_irrefl _ (h.disconnected _ hin)
    unfold alive State.connect
    simp only
    rw [h.slots, List.range_succ, List.filter_append, List.filter_singleton]
    simp [alive, hnew]
  flags := by
    intro p hp
    by_cases hnew : p = s.next
    · subst hnew
      have hnotin : s.next ∉ s.disconnected := fun hin => Nat.lt_irrefl _ (h.disconnected _ hin)
      simp [State.connect, hnotin]
    · have hlt : p < s.next := by
        simp only [State.connect] at hp
        omega
      simpa [State.connect, hnew] using h.flags p hlt
  disconnected := fun p hp => Nat.lt_succ_of_lt (h.disconnected p hp)
  emissions := fun e he => ⟨(h.emissions e he).1, fun p hp =>
    Nat.lt_succ_of_lt ((h.emissions e he).2 p hp)⟩
  returned := h.returned

theorem disconnect_fields (s : State) (conn : Option Nat) :
    (s.disconnect conn).next = s.next ∧ (s.disconnect conn).emissions = s.emissions ∧
      (s.disconnect conn).returned = s.returned ∧
      (s.disconnect conn).disconnected = conn.toList ++ s.disconnected ∧
      (s.disconnect conn).connected = fun slot =>
        if slot ∈ s.slots ∧ hasSlot conn slot = true then false else s.connected slot := by
  unfold State.disconnect
  dsimp only
  split <;> exact ⟨rfl, rfl, rfl, rfl, rfl⟩

/-- `Disconnect` takes the slot of the connection out of the list. -/
theorem Inv.disconnect_slots (h : s.Inv) (conn : Option Nat) :
    (s.disconnect conn).slots = s.slots.filter fun p => conn ≠ some p := by
  unfold State.disconnect
  dsimp only
  split
  · -- what is cleared is what has just lost its flag
    refine List.filter_congr fun p hp => ?_
    simp only [hp, true_and, hasSlot, decide_eq_true_eq]
    by_cases hconn : conn = some p
    · simp [hconn]
    · simp [hconn, h.flag hp]
  · rename_i hfind
    -- no slot of the list is that of the connection
    refine (List.filter_eq_self.mpr fun p hp => ?_).symm
    have hnot : ¬ hasSlot conn p = true := fun hhas => hfind (List.any_eq_true.mpr ⟨p, hp, hhas⟩)
    simpa [hasSlot] using hnot

theorem Inv.disconnect (h : s.Inv) {conn : Option Nat} (hconn : ∀ p ∈ conn, p < s.next) :
    (s.disconnect conn).Inv := by
  obtain ⟨hnext, hemissions, hreturned, hdisc, hflags⟩ := disconnect_fields s conn
  have hmem : ∀ p, p ∈ conn.toList ↔ conn = some p := fun p => by simp
  refine ⟨?_, fun p hp => ?_, fun p hp => ?_, ?_, ?_⟩
  · rw [h.disconnect_slots, h.slots, alive, alive, hnext, hdisc, List.filter_filter]
    refine List.filter_congr fun p _ => ?_
    simp [hmem, Bool.decide_and]
  · rw [hnext] at hp
    rw [hflags, hdisc]
    simp only [List.mem_append, hmem, not_or, hasSlot, decide_eq_true_eq]
    by_cases hc : conn = some p
    · by_cases hin : p ∈ s.slots
      · simp [hc, hin]
      · -- the slot is not in the list, so it was disconnected before
        have hgone : s.connected p ≠ true := fun hcon =>
          hin (h.slots ▸ mem_alive.mpr ⟨hp, (h.flags p hp).mp hcon⟩)
        simp [hc, hin, hgone]
    · simp [hc, h.flags p hp]
  · rw [hnext]
    rw [hdisc, List.mem_append, hmem] at hp
    rcases hp with hp | hp
    · exact hconn p hp
    · exact h.disconnected p hp
  · rw [hemissions, hnext]
    exact h.emissions
  · rw [hreturned]
    exact h.returned

theorem Inv.disconnectAllSlots (h : s.Inv) : s.disconnectAllSlots.Inv where
  slots := by
    unfold alive State.disconnectAllSlots
    refine (List.filter_eq_nil_iff.mpr fun p hp => ?_).symm
    simpa using hp
  flags := by
    intro p hp
    have hp : p < s.next := hp
    -- a slot that is not in the list was disconnected before
    have hgone : p ∉ s.slots → s.connected p = false := fun hin =>
      Bool.eq_false_iff.mpr fun hcon =>
        hin (h.slots ▸ mem_alive.mpr ⟨hp, (h.flags p hp).mp hcon⟩)
    simpa [State.disconnectAllSlots, hp] using hgone
  disconnected := fun p hp => List.mem_range.mp hp
  emissions := h.emissions
  returned := h.returned

/-! ## Section 6: Emissions -/

theorem Inv.emit (h : s.Inv) : s.emit.Inv where
  slots        := h.slots
  flags        := h.flags
  disconnected := h.disconnected
  emissions    := by
    intro e he
    rcases List.mem_cons.mp he with rfl | he
    · -- the copy is the list, and the list is exact
      exact ⟨⟨h.slots, rfl, s.alive_sorted⟩, fun p hp => (mem_alive.mp hp).1⟩
    · exact h.emissions e he
  returned     := h.returned

theorem mem_of_head {e : Emission} (he : s.emissions.head? = some e) : e ∈ s.emissions :=
  List.mem_of_mem_head? he

/-- The turn of a slot: it is called if it is still connected. -/
theorem Inv.turn {e : Emission} {slot : Nat} {rest : List Nat} (h : s.Inv)
    (he : s.emissions.head? = some e) (hrest : e.rest = slot :: rest) :
    (s.turn e slot rest).Inv where
  slots        := h.slots
  flags        := h.flags
  disconnected := h.disconnected
  emissions    := by
    intro e' he'
    rcases List.mem_cons.mp he' with rfl | he'
    · obtain ⟨hsound, hbound⟩ := h.emissions e (mem_of_head he)
      have hturns := hsound.turns
      rw [hrest] at hturns
      have hin : slot ∈ e.snapshot := by
        rw [← hturns]
        simp
      -- the flag of the slot says whether it was disconnected
      have hflag := h.flags slot (hbound slot hin)
      refine ⟨⟨?_, ?_, hsound.order⟩, hbound⟩
      · simp [← hturns]
      · simp only [List.filter_append, List.map_append, ← hsound.called]
        by_cases hcon : s.connected slot = true
        · simp [hcon, hflag.mp hcon]
        · have hdisc : slot ∈ s.disconnected := by
            by_contra hnot
            exact hcon (hflag.mpr hnot)
          simp [hcon, hdisc]
    · exact h.emissions e' (List.mem_of_mem_tail he')
  returned     := h.returned

theorem Inv.callbackReturns {e : Emission} (h : s.Inv) (he : s.emissions.head? = some e) :
    (s.callbackReturns e).Inv where
  slots        := h.slots
  flags        := h.flags
  disconnected := h.disconnected
  emissions    := by
    intro e' he'
    rcases List.mem_cons.mp he' with rfl | he'
    · obtain ⟨hsound, hbound⟩ := h.emissions e (mem_of_head he)
      exact ⟨⟨hsound.turns, hsound.called, hsound.order⟩, hbound⟩
    · exact h.emissions e' (List.mem_of_mem_tail he')
  returned     := h.returned

theorem Inv.finish {e : Emission} (h : s.Inv) (he : s.emissions.head? = some e)
    (hrest : e.rest = []) : (s.finish e).Inv := by
  unfold State.finish
  rw [h.clear]
  refine ⟨h.slots, h.flags, h.disconnected, fun e' he' => ?_, fun e' he' => ?_⟩
  · exact h.emissions e' (List.mem_of_mem_tail he')
  · rcases List.mem_append.mp he' with he' | he'
    · exact h.returned e' he'
    · obtain rfl := List.mem_singleton.mp he'
      obtain ⟨hsound, _⟩ := h.emissions e' (mem_of_head he)
      have hturns := hsound.turns
      rw [hrest, List.append_nil] at hturns
      exact ⟨hturns, hsound.called, hsound.order⟩

theorem inv_initial : initial.Inv where
  slots        := rfl
  flags        := fun _ hp => absurd hp (Nat.not_lt_zero _)
  disconnected := fun _ hp => nomatch hp
  emissions    := fun _ he => nomatch he
  returned     := fun _ he => nomatch he

end State

/-! ## Section 7: Runs -/

theorem inv_step (s : State) (a : Label) (h : s.Inv) (hg : (signal.action a).gate s) :
    ((signal.action a).effect s).Inv := by
  cases a with
  | connect hasCb       => exact h.connect hasCb
  | disconnect conn     => exact h.disconnect hg.2
  | disconnectAllSlots  => exact h.disconnectAllSlots
  | emit                => exact h.emit
  | turn e slot rest    => exact h.turn hg.1 hg.2.2
  | callbackReturns e   => exact h.callbackReturns hg.1
  | finish e            => exact h.finish hg.1 hg.2.2

theorem inv_reachable {s : State} (h : signal.Reachable s) : s.Inv :=
  System.invariant (fun _ hs => hs ▸ State.inv_initial) inv_step h

/-- A slot that was disconnected stays so, and is not called. -/
theorem silent_step {p : Nat} (s : State) (a : Label) (h : s.Inv) (hp : p ∈ s.disconnected)
    (hg : (signal.action a).gate s) :
    p ∈ ((signal.action a).effect s).disconnected ∧
      ((signal.action a).effect s).calls.count p = s.calls.count p := by
  cases a with
  | connect hasCb => exact ⟨hp, rfl⟩
  | disconnect conn =>
    change p ∈ (s.disconnect conn).disconnected ∧ (s.disconnect conn).calls.count p = _
    rw [(State.disconnect_fields s conn).2.2.2.1]
    refine ⟨List.mem_append_right _ hp, ?_⟩
    unfold State.disconnect
    dsimp only
    split <;> rfl
  | disconnectAllSlots => exact ⟨List.mem_range.mpr (h.disconnected p hp), rfl⟩
  | emit => exact ⟨hp, rfl⟩
  | turn e slot rest =>
    refine ⟨hp, ?_⟩
    change (if s.connected slot then s.calls ++ [slot] else s.calls).count p = _
    split
    · -- the slot that is called is not the disconnected one
      rename_i hcon
      have hne : slot ≠ p := by
        rintro rfl
        exact (h.flags slot (h.disconnected slot hp)).mp hcon hp
      rw [List.count_append, List.count_singleton, if_neg (by simpa using hne), Nat.add_zero]
    · rfl
  | callbackReturns e => exact ⟨hp, rfl⟩
  | finish e => exact ⟨hp, rfl⟩

theorem silent_run {p : Nat} {s s' : State} {as : List Label} (h : signal.Run s as s')
    (hs : s.Inv) (hp : p ∈ s.disconnected) : s'.calls.count p = s.calls.count p := by
  induction h with
  | nil s => rfl
  | cons a as hstep _ ih =>
    obtain ⟨hg, rfl⟩ := hstep
    obtain ⟨hstays, hcount⟩ := silent_step _ a hs hp hg
    rw [ih (inv_step _ a hs hg) hstays, hcount]

/-- In every state that operations and emissions, nested to any depth, lead
    to: the list holds the slots connected and not disconnected, in the
    order of connection; every emission that has returned called exactly the
    slots it had to; and nobody calls a disconnected slot from then on. -/
theorem emission_calls {s : State} (h : signal.Reachable s) :
    s.slots = s.alive ∧ (∀ e ∈ s.returned, e.Complete) ∧
      ∀ p ∈ s.disconnected, ∀ as s', signal.Run s as s' → s'.calls.count p = s.calls.count p :=
  ⟨(inv_reachable h).slots, (inv_reachable h).returned,
    fun _ hp _ _ hrun => silent_run hrun (inv_reachable h) hp⟩

/-- The callback of the first of two slots disconnects the second one,
    connects a third one and emits; the outer emission then passes over the
    second slot and does not see the third one. -/
def nestedEmission : List Label :=
  let outer : Emission := ⟨[0, 1], [1], some 0, [(0, true)], [0]⟩
  let inner : Emission := ⟨[0, 2], [2], some 0, [(0, true)], [0]⟩
  let innerEnd : Emission := ⟨[0, 2], [], some 2, [(0, true), (2, true)], [0, 2]⟩
  [.connect true, .connect true, .emit, .turn ⟨[0, 1], [0, 1], none, [], []⟩ 0 [1],
    .disconnect (some 1), .connect true, .emit, .turn ⟨[0, 2], [0, 2], none, [], []⟩ 0 [2],
    .callbackReturns inner, .turn { inner with running := none } 2 [],
    .callbackReturns innerEnd, .finish { innerEnd with running := none },
    .callbackReturns outer, .turn { outer with running := none } 1 [],
    .finish ⟨[0, 1], [], none, [(0, true), (1, false)], [0]⟩]

def afterNested : State := signal.exec State.initial nestedEmission

theorem emission_calls_nested :
    (afterNested.returned.map Emission.called = [[0, 2], [0]] ∧ afterNested.slots = [0, 2]) ∧
      afterNested.slots = afterNested.alive ∧ (∀ e ∈ afterNested.returned, e.Complete) ∧
      ∀ p ∈ afterNested.disconnected, ∀ as s', signal.Run afterNested as s' →
        s'.calls.count p = afterNested.calls.count p :=
  ⟨⟨by decide, by decide⟩,
    emission_calls (System.reachable_exec signal rfl nestedEmission (by decide))⟩

end CyberRT.Base.Signal
