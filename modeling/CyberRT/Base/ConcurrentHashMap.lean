import Mathlib.Logic.Function.Basic

/-! # The concurrent hash map

    `ConcurrentHashMap<K, V, TableSize>`: a table of buckets, each a list of
    entries under a lock of its own. `Has`, `Get` and `Set` look at one
    bucket under its lock, so each is one step for the other threads. No
    caller can erase an entry. -/

namespace CyberRT.Base

open Function

universe u v

/-! ## Section 1: Buckets -/

/-- `Bucket::data_`. -/
abbrev Bucket (K : Type u) (V : Type v) := List (K × V)

namespace Bucket

variable {K : Type u} {V : Type v} [DecidableEq K]

/-- `find_entry_for`. -/
def findEntryFor (data : Bucket K V) (key : K) : Option (K × V) :=
  data.find? fun item => decide (item.1 = key)

def has (data : Bucket K V) (key : K) : Bool := (data.findEntryFor key).isSome

/-- What `Get` writes to `*value`, if it returns true. -/
def get (data : Bucket K V) (key : K) : Option V := (data.findEntryFor key).map Prod.snd

/-- `Insert` overwrites the entry it finds; otherwise it goes behind the
    last one. -/
def insert : Bucket K V → K → V → Bucket K V
  | [],           key, value => [(key, value)]
  | item :: data, key, value =>
    if item.1 = key then (item.1, value) :: data else item :: insert data key value

@[simp] theorem get_nil (key : K) : get ([] : Bucket K V) key = none := rfl

theorem get_cons (item : K × V) (data : Bucket K V) (key : K) :
    get (item :: data) key = if item.1 = key then some item.2 else get data key := by
  unfold get findEntryFor
  by_cases h : item.1 = key
  · simp [h]
  · simp [h]

/-- `Has` and `Get` find the same entries. -/
theorem has_eq (data : Bucket K V) (key : K) : has data key = (get data key).isSome := by
  rw [has, get, Option.isSome_map]

@[simp] theorem get_insert_self (data : Bucket K V) (key : K) (value : V) :
    get (insert data key value) key = some value := by
  induction data with
  | nil => simp [insert, get_cons]
  | cons item data ih =>
    by_cases h : item.1 = key
    · simp [insert, h, get_cons]
    · simp [insert, h, get_cons, ih]

@[simp] theorem get_insert_of_ne (data : Bucket K V) {key key' : K} (hne : key' ≠ key)
    (value : V) : get (insert data key value) key' = get data key' := by
  induction data with
  | nil => simp [insert, get_cons, hne.symm]
  | cons item data ih =>
    by_cases h : item.1 = key
    · simp [insert, h, get_cons, hne.symm]
    · simp [insert, h, get_cons, ih]

end Bucket

/-! ## Section 2: The table -/

/-- `table_`, by index, with `TableSize`, a power of two, in the type. -/
structure ConcurrentHashMap (V : Type v) (tableSize : UInt64) where
  table : UInt64 → Bucket UInt64 V

namespace ConcurrentHashMap

variable {V : Type v} {tableSize : UInt64}

def empty : ConcurrentHashMap V tableSize := ⟨fun _ => []⟩

/-- `key & mode_num_`. -/
def index (tableSize key : UInt64) : UInt64 := key &&& (tableSize - 1)

def has (m : ConcurrentHashMap V tableSize) (key : UInt64) : Bool :=
  (m.table (index tableSize key)).has key

def get (m : ConcurrentHashMap V tableSize) (key : UInt64) : Option V :=
  (m.table (index tableSize key)).get key

def set (m : ConcurrentHashMap V tableSize) (key : UInt64) (value : V) :
    ConcurrentHashMap V tableSize :=
  let i := index tableSize key
  ⟨update m.table i ((m.table i).insert key value)⟩

@[simp] theorem get_empty (key : UInt64) :
    (empty : ConcurrentHashMap V tableSize).get key = none := rfl

theorem has_eq (m : ConcurrentHashMap V tableSize) (key : UInt64) :
    m.has key = (m.get key).isSome := Bucket.has_eq _ _

@[simp] theorem get_set_self (m : ConcurrentHashMap V tableSize) (key : UInt64) (value : V) :
    (m.set key value).get key = some value := by
  simp [get, set]

/-- Other entries keep their values, in the same bucket and in others. -/
@[simp] theorem get_set_of_ne (m : ConcurrentHashMap V tableSize) {key key' : UInt64}
    (hne : key' ≠ key) (value : V) : (m.set key value).get key' = m.get key' := by
  by_cases h : index tableSize key' = index tableSize key
  · -- two keys of one bucket
    simp [get, set, h, hne]
  · simp [get, set, h]

end ConcurrentHashMap

end CyberRT.Base
