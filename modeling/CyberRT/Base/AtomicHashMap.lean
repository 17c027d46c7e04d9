import CyberRT.Framework.System
import Mathlib.Algebra.Group.Int.Defs

/-! # The atomic hash map

    `AtomicHashMap` hangs its entries into buckets, each a linked list in the
    order of the keys. `Set` looks for the key and either exchanges the value
    pointer of its entry or links a new entry in, both with a
    compare-and-swap; entries are never taken out. The value that `Set`
    replaces is deleted at once.

    Every load, store, compare-and-swap and deletion is one step. Memory is
    reused: an allocation gives any address that is free at that moment. A
    key of an integral type is its integer, which is what `<` compares. -/

namespace CyberRT.Base.AtomicHashMap

open CyberRT.Framework

/-! ## Section 1: State -/

/-- The index of a key's bucket, `key & (TableSize - 1)` on `uint64_t`. -/
def index (k : Nat) (key : Int) : Fin (2 ^ k) :=
  ⟨(key % 2 ^ 64).toNat &&& (2 ^ k - 1), Nat.and_lt_two_pow _ (Nat.sub_one_lt (by simp))⟩

/-- An entry of a list. Addresses of entries and of values are numbers. -/
structure Entry where
  key      : Int
  valuePtr : Nat
  next     : Option Nat
  deriving DecidableEq

/-- The operation a thread carries out: `Has`, `Get` of the value's pointer
    or of a copy of the value, and `Set`. -/
inductive Op (V : Type) where
  | has
  | get
  | getCopy
  | set (v : V)
  deriving DecidableEq

/-- Where a thread stands, named by the next step. -/
inductive Pc where
  | idle
  | newEntry
  | walkLoad
  | walkCompare
  | getLoad
  | getCopy
  | setLoadValue
  | setCasValue
  | setStoreNext
  | setCasNext
  | deleteOldValue
  | deleteNewEntry
  | deleteNewValue
  deriving DecidableEq

/-- Local variables of one thread. The walk's `prev` is no entry when it is
    the head of the bucket. `value` and `copied` are what `Get` found and
    copied. `setBefore` and `seen` are history: whether a `Set` of the key had
    completed when the call began, and the value that was current under the
    key when `Get` loaded the pointer. -/
structure Local (V : Type) where
  pc        : Pc
  op        : Op V
  key       : Int
  prev      : Option Nat
  target    : Option Nat
  newEntry  : Nat
  newValue  : Nat
  oldValue  : Nat
  value     : Option Nat
  copied    : Option V
  ret       : Option Bool
  setBefore : Bool
  seen      : Option V

/-- The map. `table` has the first entry of each bucket. `lastSet`, `started`
    and `completed` are history: the pointer of the last `Set` of a key that
    took effect, and the keys of which a `Set` has begun and returned. -/
structure State (k : Nat) (Tid V : Type) where
  table     : Fin (2 ^ k) → Option Nat
  entries   : Nat → Entry
  allocated : Nat → Bool
  values    : Nat → Option V
  loc       : Tid → Local V
  lastSet   : Int → Option Nat
  started   : Int → Bool
  completed : Int → Bool

/-! ## Section 2: Model -/

section model
variable {k : Nat} {Tid V : Type} [DecidableEq Tid]

def State.setLoc (s : State k Tid V) (t : Tid) (l : Local V) : State k Tid V :=
  { s with loc := Function.update s.loc t l }

/-- The link of an entry. -/
def State.next (s : State k Tid V) (a : Nat) : Option Nat := (s.entries a).next

/-- The link behind `prev` in the bucket of the key. -/
def State.link (s : State k Tid V) (key : Int) : Option Nat → Option Nat
  | none   => s.table (index k key)
  | some a => s.next a

/-- The link behind `prev` is set. -/
def State.setLink (s : State k Tid V) (key : Int) (v : Option Nat) : Option Nat → State k Tid V
  | none   => { s with table := Function.update s.table (index k key) v }
  | some a => { s with entries := Function.update s.entries a { s.entries a with next := v } }

inductive Label (Tid V : Type) where
  | call (t : Tid) (op : Op V) (key : Int)
  | newEntry (t : Tid) (v : V) (entry entryValue value : Nat)
  | walkLoad (t : Tid)
  | walkOn (t : Tid) (a : Nat)
  | found (t : Tid) (a : Nat)
  | missed (t : Tid)
  | getLoad (t : Tid) (a : Nat)
  | getCopy (t : Tid) (p : Nat)
  | setLoadValue (t : Tid) (a : Nat)
  | setCasValue (t : Tid) (a : Nat)
  | setCasValueFail (t : Tid) (a : Nat)
  | setStoreNext (t : Tid)
  | setCasNext (t : Tid)
  | setCasNextFail (t : Tid)
  | deleteOldValue (t : Tid)
  | deleteNewEntry (t : Tid)
  | deleteNewValue (t : Tid)

/-- Where an operation goes on from the entry of its key. -/
def Op.found {V : Type} : Op V → Pc
  | .has           => .idle
  | .get | .getCopy => .getLoad
  | .set _         => .setLoadValue

/-- Where an operation goes on when there is none. -/
def Op.missed {V : Type} : Op V → Pc
  | .has | .get | .getCopy => .idle
  | .set _ => .setStoreNext

/-- What is returned at the end of the walk, if it is the end of the call. -/
def Op.ret {V : Type} (b : Bool) : Op V → Option Bool
  | .has           => some b
  | .get | .getCopy => if b then none else some false
  | .set _         => none

/-- The map with `2 ^ k` buckets, without entries, and the threads that use
    it. -/
def atomicHashMap (k : Nat) : System (State k Tid V) (Label Tid V) where
  init := fun s =>
    (∀ b, s.table b = none) ∧ (∀ a, s.allocated a = false) ∧ (∀ p, s.values p = none) ∧
    (∀ t, (s.loc t).pc = .idle ∧ (s.loc t).ret = none) ∧ (∀ key, s.started key = false) ∧
    ∀ key, s.completed key = false
  action := fun
    | .call t op key =>
      { gate   := fun s => (s.loc t).pc = .idle
        effect := fun s =>
          let l : Local V := { s.loc t with
            op        := op
            key       := key
            prev      := none
            value     := none
            copied    := none
            ret       := none
            setBefore := s.completed key }
          match op with
          | .set _ =>
            { s.setLoc t { l with pc := .newEntry } with
              started := Function.update s.started key true }
          | _ => s.setLoc t { l with pc := .walkLoad } }
    | .newEntry t v entry entryValue value =>
      -- the entry with a value of its own, and the value for an exchange
      { gate   := fun s => (s.loc t).pc = .newEntry ∧ (s.loc t).op = .set v ∧
          s.allocated entry = false ∧ s.values entryValue = none ∧ s.values value = none ∧
          entryValue ≠ value
        effect := fun s =>
          { s.setLoc t { s.loc t with pc := .walkLoad, newEntry := entry, newValue := value } with
            allocated := Function.update s.allocated entry true
            entries   := Function.update s.entries entry ⟨(s.loc t).key, entryValue, none⟩
            values    := Function.update (Function.update s.values entryValue (some v)) value
              (some v) } }
    | .walkLoad t =>
      { gate   := fun s => (s.loc t).pc = .walkLoad
        effect := fun s =>
          let l := s.loc t
          s.setLoc t { l with pc := .walkCompare, target := s.link l.key l.prev } }
    | .walkOn t a =>
      { gate   := fun s => (s.loc t).pc = .walkCompare ∧ (s.loc t).target = some a ∧
          (s.entries a).key < (s.loc t).key
        effect := fun s => s.setLoc t { s.loc t with pc := .walkLoad, prev := some a } }
    | .found t a =>
      { gate   := fun s => (s.loc t).pc = .walkCompare ∧ (s.loc t).target = some a ∧
          (s.entries a).key = (s.loc t).key
        effect := fun s =>
          let l := s.loc t
          s.setLoc t { l with pc := l.op.found, ret := l.op.ret true } }
    | .missed t =>
      { gate   := fun s => (s.loc t).pc = .walkCompare ∧
          ∀ a ∈ (s.loc t).target, (s.loc t).key < (s.entries a).key
        effect := fun s =>
          let l := s.loc t
          s.setLoc t { l with pc := l.op.missed, ret := l.op.ret false } }
    | .getLoad t a =>
      { gate   := fun s => (s.loc t).pc = .getLoad ∧ (s.loc t).target = some a
        effect := fun s =>
          let l := s.loc t
          let p := (s.entries a).valuePtr
          match l.op with
          | .getCopy =>
            s.setLoc t { l with
              pc := .getCopy, value := some p, seen := (s.lastSet l.key).bind s.values }
          | _ => s.setLoc t { l with pc := .idle, value := some p, ret := some true } }
    | .getCopy t p =>
      { gate   := fun s => (s.loc t).pc = .getCopy ∧ (s.loc t).value = some p
        effect := fun s =>
          s.setLoc t { s.loc t with pc := .idle, copied := s.values p, ret := some true } }
    | .setLoadValue t a =>
      { gate   := fun s => (s.loc t).pc = .setLoadValue ∧ (s.loc t).target = some a
        effect := fun s =>
          s.setLoc t { s.loc t with pc := .setCasValue, oldValue := (s.entries a).valuePtr } }
    | .setCasValue t a =>
      { gate   := fun s => (s.loc t).pc = .setCasValue ∧ (s.loc t).target = some a ∧
          (s.entries a).valuePtr = (s.loc t).oldValue
        effect := fun s =>
          let l := s.loc t
          { s.setLoc t { l with pc := .deleteOldValue } with
            entries := Function.update s.entries a { s.entries a with valuePtr := l.newValue }
            lastSet := Function.update s.lastSet l.key (some l.newValue) } }
    | .setCasValueFail t a =>
      { gate   := fun s => (s.loc t).pc = .setCasValue ∧ (s.loc t).target = some a ∧
          (s.entries a).valuePtr ≠ (s.loc t).oldValue
        effect := fun s => s.setLoc t { s.loc t with pc := .walkLoad, prev := none } }
    | .setStoreNext t =>
      { gate   := fun s => (s.loc t).pc = .setStoreNext
        effect := fun s =>
          let l := s.loc t
          { s.setLoc t { l with pc := .setCasNext } with
            entries := Function.update s.entries l.newEntry
              { s.entries l.newEntry with next := l.target } } }
    | .setCasNext t =>
      { gate   := fun s => (s.loc t).pc = .setCasNext ∧
          s.link (s.loc t).key (s.loc t).prev = (s.loc t).target
        effect := fun s =>
          let l := s.loc t
          let s' := s.setLink l.key (some l.newEntry) l.prev
          { s'.setLoc t { l with pc := .deleteNewValue } with
            lastSet := Function.update s.lastSet l.key
              (some (s.entries l.newEntry).valuePtr) } }
    | .setCasNextFail t =>
      { gate   := fun s => (s.loc t).pc = .setCasNext ∧
          s.link (s.loc t).key (s.loc t).prev ≠ (s.loc t).target
        effect := fun s => s.setLoc t { s.loc t with pc := .walkLoad, prev := none } }
    | .deleteOldValue t =>
      { gate   := fun s => (s.loc t).pc = .deleteOldValue
        effect := fun s =>
          { s.setLoc t { s.loc t with pc := .deleteNewEntry } with
            values := Function.update s.values (s.loc t).oldValue none } }
    | .deleteNewEntry t =>
      -- the entry takes its value along
      { gate   := fun s => (s.loc t).pc = .deleteNewEntry
        effect := fun s =>
          let l := s.loc t
          { s.setLoc t { l with pc := .idle } with
            values    := Function.update s.values (s.entries l.newEntry).valuePtr none
            allocated := Function.update s.allocated l.newEntry false
            completed := Function.update s.completed l.key true } }
    | .deleteNewValue t =>
      { gate   := fun s => (s.loc t).pc = .deleteNewValue
        effect := fun s =>
          let l := s.loc t
          { s.setLoc t { l with pc := .idle } with
            values    := Function.update s.values l.newValue none
            completed := Function.update s.completed l.key true } }

instance decidableGate [DecidableEq V] (s : State k Tid V) :
    ∀ a : Label Tid V, Decidable (((atomicHashMap k).action a).gate s)
  | .call t _ _ => inferInstanceAs (Decidable ((s.loc t).pc = .idle))
  | .newEntry t v entry entryValue value =>
    inferInstanceAs (Decidable ((s.loc t).pc = .newEntry ∧ (s.loc t).op = .set v ∧
      s.allocated entry = false ∧ s.values entryValue = none ∧ s.values value = none ∧
      entryValue ≠ value))
  | .walkLoad t => inferInstanceAs (Decidable ((s.loc t).pc = .walkLoad))
  | .walkOn t a =>
    inferInstanceAs (Decidable ((s.loc t).pc = .walkCompare ∧ (s.loc t).target = some a ∧
      (s.entries a).key < (s.loc t).key))
  | .found t a =>
    inferInstanceAs (Decidable ((s.loc t).pc = .walkCompare ∧ (s.loc t).target = some a ∧
      (s.entries a).key = (s.loc t).key))
  | .missed t =>
    inferInstanceAs (Decidable ((s.loc t).pc = .walkCompare ∧
      ∀ a ∈ (s.loc t).target, (s.loc t).key < (s.entries a).key))
  | .getLoad t a =>
    inferInstanceAs (Decidable ((s.loc t).pc = .getLoad ∧ (s.loc t).target = some a))
  | .getCopy t p =>
    inferInstanceAs (Decidable ((s.loc t).pc = .getCopy ∧ (s.loc t).value = some p))
  | .setLoadValue t a =>
    inferInstanceAs (Decidable ((s.loc t).pc = .setLoadValue ∧ (s.loc t).target = some a))
  | .setCasValue t a =>
    inferInstanceAs (Decidable ((s.loc t).pc = .setCasValue ∧ (s.loc t).target = some a ∧
      (s.entries a).valuePtr = (s.loc t).oldValue))
  | .setCasValueFail t a =>
    inferInstanceAs (Decidable ((s.loc t).pc = .setCasValue ∧ (s.loc t).target = some a ∧
      (s.entries a).valuePtr ≠ (s.loc t).oldValue))
  | .setStoreNext t => inferInstanceAs (Decidable ((s.loc t).pc = .setStoreNext))
  | .setCasNext t =>
    inferInstanceAs (Decidable ((s.loc t).pc = .setCasNext ∧
      s.link (s.loc t).key (s.loc t).prev = (s.loc t).target))
  | .setCasNextFail t =>
    inferInstanceAs (Decidable ((s.loc t).pc = .setCasNext ∧
      s.link (s.loc t).key (s.loc t).prev ≠ (s.loc t).target))
  | .deleteOldValue t => inferInstanceAs (Decidable ((s.loc t).pc = .deleteOldValue))
  | .deleteNewEntry t => inferInstanceAs (Decidable ((s.loc t).pc = .deleteNewEntry))
  | .deleteNewValue t => inferInstanceAs (Decidable ((s.loc t).pc = .deleteNewValue))

/-- The map after construction, with every thread outside. -/
def initial : State k Tid V where
  table     := fun _ => none
  entries   := fun _ => ⟨0, 0, none⟩
  allocated := fun _ => false
  values    := fun _ => none
  loc       := fun _ => ⟨.idle, .has, 0, none, none, 0, 0, 0, none, none, none, false, none⟩
  lastSet   := fun _ => none
  started   := fun _ => false
  completed := fun _ => false

theorem initial_init : (atomicHashMap k).init (initial : State k Tid V) := by
  simp [atomicHashMap, initial]

/-! ## Section 3: Small lemmas -/

@[simp] theorem setLoc_table (s : State k Tid V) (t : Tid) (l : Local V) :
    (s.setLoc t l).table = s.table := rfl

@[simp] theorem setLoc_entries (s : State k Tid V) (t : Tid) (l : Local V) :
    (s.setLoc t l).entries = s.entries := rfl

@[simp] theorem setLoc_allocated (s : State k Tid V) (t : Tid) (l : Local V) :
    (s.setLoc t l).allocated = s.allocated := rfl

@[simp] theorem setLoc_values (s : State k Tid V) (t : Tid) (l : Local V) :
    (s.setLoc t l).values = s.values := rfl

@[simp] theorem setLoc_lastSet (s : State k Tid V) (t : Tid) (l : Local V) :
    (s.setLoc t l).lastSet = s.lastSet := rfl

@[simp] theorem setLoc_started (s : State k Tid V) (t : Tid) (l : Local V) :
    (s.setLoc t l).started = s.started := rfl

@[simp] theorem setLoc_completed (s : State k Tid V) (t : Tid) (l : Local V) :
    (s.setLoc t l).completed = s.completed := rfl

@[simp] theorem setLoc_loc (s : State k Tid V) (t : Tid) (l : Local V) :
    (s.setLoc t l).loc = Function.update s.loc t l := rfl

omit [DecidableEq Tid] in
/-- A link is all that `setLink` writes. -/
theorem setLink_entries (s : State k Tid V) (key : Int) (v prev : Option Nat) (a : Nat) :
    ((s.setLink key v prev).entries a).key = (s.entries a).key ∧
    ((s.setLink key v prev).entries a).valuePtr = (s.entries a).valuePtr := by
  cases prev with
  | none => exact ⟨rfl, rfl⟩
  | some b =>
    simp only [State.setLink]
    by_cases hab : a = b
    · simp [hab]
    · simp [Function.update_of_ne hab]

omit [DecidableEq Tid] in
theorem setLink_rest (s : State k Tid V) (key : Int) (v prev : Option Nat) :
    (s.setLink key v prev).allocated = s.allocated ∧
    (s.setLink key v prev).values = s.values ∧
    (s.setLink key v prev).lastSet = s.lastSet ∧
    (s.setLink key v prev).started = s.started ∧
    (s.setLink key v prev).completed = s.completed ∧
    (s.setLink key v prev).loc = s.loc := by
  cases prev <;> exact ⟨rfl, rfl, rfl, rfl, rfl, rfl⟩

omit [DecidableEq Tid] in
theorem next_setLink (s : State k Tid V) (key : Int) (v : Option Nat) (a : Nat) :
    (s.setLink key v (some a)).next = Function.update s.next a v := by
  funext x
  simp only [State.setLink, State.next]
  by_cases hx : x = a
  · simp [hx]
  · simp [Function.update_of_ne hx, State.next]

omit [DecidableEq Tid] in
theorem next_setLink_of_ne (s : State k Tid V) (key : Int) (v : Option Nat) {a : Nat}
    {prev : Option Nat} (h : some a ≠ prev) : (s.setLink key v prev).next a = s.next a := by
  cases prev with
  | none => rfl
  | some b =>
    have hab : a ≠ b := fun heq => h (congrArg some heq)
    rw [next_setLink, Function.update_of_ne hab]

end model

end CyberRT.Base.AtomicHashMap
