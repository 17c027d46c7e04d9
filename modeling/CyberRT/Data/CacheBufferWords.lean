import CyberRT.Framework.Loop
import CyberRT.Data.ChannelBuffer

/-! # The cache buffer in 64-bit words

    `CacheBuffer` with the `uint64_t` counters of the source: they wrap, and
    a remainder by a capacity of 0 has no result. `FetchMulti` is a loop
    over positions, which ends when one is past the tail.

    The words hold the unbounded counters as long as these fit: up to
    `2 ^ 64 - 1` values. The size is right even after that; what is found
    where is not (`cacheBuffer_overflows`). -/

namespace CyberRT.Data

open CyberRT.Framework

/-! ## Section 1: Model -/

/-- `CacheBuffer` as it is stored. -/
structure CacheBuffer64 (T : Type) where
  head     : UInt64
  tail     : UInt64
  capacity : UInt64
  buffer   : UInt64 → T

namespace CacheBuffer64

variable {T : Type}

/-- `CacheBuffer(size)`. -/
def new [Inhabited T] (size : UInt64) : CacheBuffer64 T := ⟨0, 0, size + 1, fun _ => default⟩

def getIndex (w : CacheBuffer64 T) (pos : UInt64) : Option UInt64 :=
  if w.capacity = 0 then none else some (pos % w.capacity)

/-- `at(pos)`. -/
def get (w : CacheBuffer64 T) (pos : UInt64) : Option T := (w.getIndex pos).map w.buffer

/-- `Head()`. -/
def first (w : CacheBuffer64 T) : UInt64 := w.head + 1

def size (w : CacheBuffer64 T) : UInt64 := w.tail - w.head

def empty (w : CacheBuffer64 T) : Bool := w.tail = 0

def full (w : CacheBuffer64 T) : Bool := w.capacity - 1 = w.tail - w.head

/-- `Fill` without a fusion callback. -/
def fill (w : CacheBuffer64 T) (value : T) : Option (CacheBuffer64 T) :=
  if w.full then
    (w.getIndex w.head).map fun i =>
      { w with
        buffer := Function.update w.buffer i value
        head   := w.head + 1
        tail   := w.tail + 1 }
  else
    (w.getIndex (w.tail + 1)).map fun i =>
      { w with
        buffer := Function.update w.buffer i value
        tail   := w.tail + 1 }

/-- The calls of `Fill` with the values of a log, in turn. -/
def fillAll (w : CacheBuffer64 T) (log : List T) : Option (CacheBuffer64 T) := log.foldlM fill w

/-- `ChannelBuffer::Fetch`: the position read and the value there. -/
def fetch (w : CacheBuffer64 T) (index : UInt64) : Option (UInt64 × T) :=
  if w.empty then none
  else if index = 0 then (w.get w.tail).map (w.tail, ·)
  else if index = w.tail + 1 then none
  else if index < w.first then (w.get w.tail).map (w.tail, ·)
  else (w.get index).map (index, ·)

/-- One pass of `FetchMulti`: the index and what `vec` holds. -/
def fetchPass (w : CacheBuffer64 T) (m : UInt64 × List T) :
    (UInt64 × List T) ⊕ Option (List T) :=
  if m.1 ≤ w.tail then
    match w.get m.1 with
    | some value => .inl (m.1 + 1, m.2 ++ [value])
    | none       => .inr none
  else .inr (some m.2)

/-- `ChannelBuffer::FetchMulti`, if it returns after that many passes: the
    result and what `vec` holds then. -/
def fetchMulti (w : CacheBuffer64 T) (passes : Nat) (fetchSize : UInt64) (vec : List T) :
    Option (Bool × List T) :=
  if w.empty then some (false, vec)
  else
    let num := if fetchSize < w.size then fetchSize else w.size -- `std::min`
    (loop w.fetchPass passes (w.tail - num + 1, vec)).join.map (true, ·)

/-! ## Section 2: The words hold the counters -/

/-- The words of `w` hold the counters of `b`, and the cells agree. -/
structure Stores (w : CacheBuffer64 T) (b : CacheBuffer T) : Prop where
  head     : w.head.toNat = b.head
  tail     : w.tail.toNat = b.tail
  capacity : w.capacity.toNat = b.capacity
  buffer   : ∀ i, i.toNat < b.capacity → w.buffer i = b.buffer i.toNat

theorem toNat_succ {a : UInt64} (h : a.toNat + 1 < 2 ^ 64) : (a + 1).toNat = a.toNat + 1 := by
  rw [UInt64.toNat_add]
  exact Nat.mod_eq_of_lt h

theorem stores_new [Inhabited T] {size : UInt64} (h : size.toNat + 1 < 2 ^ 64) :
    Stores (new size : CacheBuffer64 T) (CacheBuffer.new size.toNat) :=
  ⟨rfl, rfl, toNat_succ h, fun _ _ => rfl⟩

section stores
variable {size : Nat} {log : List T} {w : CacheBuffer64 T} {b : CacheBuffer T}

theorem Stores.getIndex (h : Stores w b) (hb : b.Keeps size log) {pos : UInt64} {p : Nat}
    (hpos : pos.toNat = p) :
    ∃ i, w.getIndex pos = some i ∧ i.toNat = b.getIndex p ∧ i.toNat < b.capacity := by
  have hcapacity := h.capacity
  have hne : w.capacity ≠ 0 := by
    intro hzero
    rw [hzero, hb.capacity] at hcapacity
    cases hcapacity
  have hmod : (pos % w.capacity).toNat = b.getIndex p := by
    rw [UInt64.toNat_mod, hpos, hcapacity]
    rfl
  refine ⟨pos % w.capacity, if_neg hne, hmod, ?_⟩
  rw [hmod]
  exact Nat.mod_lt _ (by rw [hb.capacity]; exact Nat.succ_pos size)

theorem Stores.get (h : Stores w b) (hb : b.Keeps size log) {pos : UInt64} {p : Nat}
    (hpos : pos.toNat = p) : w.get pos = some (b.get p) := by
  obtain ⟨i, hi, hindex, hlt⟩ := h.getIndex hb hpos
  unfold CacheBuffer64.get CacheBuffer.get
  rw [hi, Option.map_some, h.buffer i hlt, hindex]

theorem Stores.toNat_size (h : Stores w b) (hb : b.Keeps size log) : w.size.toNat = b.size := by
  have hle : w.head ≤ w.tail := by
    rw [UInt64.le_iff_toNat_le, h.head, h.tail, hb.head, hb.tail]
    exact Nat.sub_le _ _
  unfold CacheBuffer64.size CacheBuffer.size
  rw [UInt64.toNat_sub_of_le _ _ hle, h.head, h.tail]

theorem Stores.toNat_first (h : Stores w b) (hroom : b.head + 1 < 2 ^ 64) :
    w.first.toNat = b.first := by
  unfold CacheBuffer64.first CacheBuffer.first
  rw [toNat_succ (by rw [h.head]; exact hroom), h.head]

theorem Stores.empty (h : Stores w b) : w.empty = b.empty := by
  have hiff : w.tail = 0 ↔ b.tail = 0 := by
    rw [← UInt64.toNat_inj, h.tail]
    rfl
  exact decide_eq_decide.mpr hiff

theorem Stores.full (h : Stores w b) (hb : b.Keeps size log) : w.full = b.full := by
  have hone : (1 : UInt64) ≤ w.capacity := by
    rw [UInt64.le_iff_toNat_le, h.capacity, hb.capacity]
    exact Nat.succ_le_succ (Nat.zero_le size)
  have hiff : w.capacity - 1 = w.size ↔ b.capacity - 1 = b.size := by
    rw [← UInt64.toNat_inj, UInt64.toNat_sub_of_le _ _ hone, h.capacity, h.toNat_size hb]
    rfl
  exact decide_eq_decide.mpr hiff

/-- Writing the cell of a position. -/
theorem Stores.update (h : Stores w b) {i j : UInt64} (value : T) (hlt : j.toNat < b.capacity) :
    Function.update w.buffer i value j = Function.update b.buffer i.toNat value j.toNat := by
  by_cases hij : j = i
  · subst hij
    rw [Function.update_self, Function.update_self]
  · have hne : j.toNat ≠ i.toNat := fun heq => hij (UInt64.toNat_inj.mp heq)
    rw [Function.update_of_ne hij, Function.update_of_ne hne]
    exact h.buffer j hlt

/-- **Fill**: the words go on holding the counters while the tail fits. -/
theorem Stores.fill (h : Stores w b) (hb : b.Keeps size log) (hroom : b.tail + 1 < 2 ^ 64)
    (value : T) : ∃ w', w.fill value = some w' ∧ Stores w' (b.fill value) := by
  have hle : b.head ≤ b.tail := by
    rw [hb.head, hb.tail]
    exact Nat.sub_le _ _
  have htail : (w.tail + 1).toNat = b.tail + 1 := by
    rw [toNat_succ (by rw [h.tail]; exact hroom), h.tail]
  have hhead : (w.head + 1).toNat = b.head + 1 := by
    rw [toNat_succ (by rw [h.head]; omega), h.head]
  unfold CacheBuffer64.fill CacheBuffer.fill
  rw [h.full hb]
  by_cases hfull : b.full = true
  · obtain ⟨i, hi, hindex, -⟩ := h.getIndex hb h.head
    rw [if_pos hfull, if_pos hfull, hi, ← hindex]
    exact ⟨_, rfl, hhead, htail, h.capacity, fun j hj => h.update value hj⟩
  · obtain ⟨i, hi, hindex, -⟩ := h.getIndex hb htail
    rw [if_neg hfull, if_neg hfull, hi, ← hindex]
    exact ⟨_, rfl, h.head, htail, h.capacity, fun j hj => h.update value hj⟩

/-- **Fetch**: a reader whose position fits fetches what the unbounded
    counters say. -/
theorem Stores.fetch (h : Stores w b) (hb : b.Keeps size log) (hroom : b.tail + 1 < 2 ^ 64)
    (index : UInt64) :
    (w.fetch index).map (fun r => (r.1.toNat, r.2)) = b.fetch index.toNat := by
  have hle : b.head ≤ b.tail := by
    rw [hb.head, hb.tail]
    exact Nat.sub_le _ _
  have hzero : index = 0 ↔ index.toNat = 0 := by
    rw [← UInt64.toNat_inj]
    rfl
  have hnext : index = w.tail + 1 ↔ index.toNat = b.tail + 1 := by
    rw [← UInt64.toNat_inj, toNat_succ (by rw [h.tail]; exact hroom), h.tail]
  have hover : index < w.first ↔ index.toNat < b.first := by
    rw [UInt64.lt_iff_toNat_lt, h.toNat_first (by omega)]
  unfold CacheBuffer64.fetch CacheBuffer.fetch
  rw [h.empty, h.get hb h.tail, h.get hb (rfl : index.toNat = _)]
  simp only [hzero, hnext, hover]
  split
  · rfl
  split
  · exact congrArg (fun p => some (p, b.get b.tail)) h.tail
  split
  · rfl
  split
  · exact congrArg (fun p => some (p, b.get b.tail)) h.tail
  · rfl

end stores

theorem fillAll_append (w : CacheBuffer64 T) (log log' : List T) :
    w.fillAll (log ++ log') = (w.fillAll log).bind fun w' => w'.fillAll log' :=
  List.foldlM_append

theorem fillAll_concat (w : CacheBuffer64 T) (log : List T) (value : T) :
    w.fillAll (log ++ [value]) = (w.fillAll log).bind fun w' => w'.fill value := by
  rw [fillAll_append]
  exact Option.bind_congr fun w' _ => bind_pure (w'.fill value)

/-- **Run**: as long as the tail fits, the words hold the counters of a
    buffer that keeps the log. -/
theorem fillAll_stores [Inhabited T] {size : UInt64} (hsize : size.toNat + 1 < 2 ^ 64)
    {log : List T} (hlog : log.length < 2 ^ 64) :
    ∃ w b, (new size).fillAll log = some w ∧ Stores w b ∧
      CacheBuffer.Keeps size.toNat log b := by
  induction log using List.reverseRecOn with
  | nil => exact ⟨_, _, rfl, stores_new hsize, CacheBuffer.keeps_new size.toNat⟩
  | append_singleton log value ih =>
    rw [List.length_append, List.length_singleton] at hlog
    obtain ⟨w, b, hfill, hstores, hkeeps⟩ := ih (by omega)
    obtain ⟨w', hw', hstores'⟩ := hstores.fill hkeeps (by rw [hkeeps.tail]; exact hlog) value
    refine ⟨w', b.fill value, ?_, hstores', hkeeps.fill value⟩
    rw [fillAll_concat, hfill]
    exact hw'

/-! ## Section 3: Any number of fills

    Tail and head wrap alike, so their difference does not notice. -/

/-- The counters after `n` fills. -/
structure Counts (size : UInt64) (n : Nat) (w : CacheBuffer64 T) : Prop where
  capacity : w.capacity = size + 1
  tail     : w.tail = .ofNat n
  size     : w.tail - w.head = .ofNat (min n size.toNat)

section counts
variable {size : UInt64} {n : Nat} {w : CacheBuffer64 T}

theorem Counts.full_iff (h : Counts size n w) : w.full = true ↔ size.toNat ≤ n := by
  have hlt := size.toNat_lt
  unfold full
  rw [decide_eq_true_iff, h.capacity, h.size, UInt64.add_sub_cancel, ← UInt64.toNat_inj,
    UInt64.toNat_ofNat_of_lt' (Nat.lt_of_le_of_lt (Nat.min_le_right n _) hlt)]
  omega

theorem Counts.fill (h : Counts size n w) (hsize : size + 1 ≠ 0) (value : T) :
    ∃ w', w.fill value = some w' ∧ Counts size (n + 1) w' := by
  have htail : w.tail + 1 = .ofNat (n + 1) := by
    rw [h.tail, UInt64.ofNat_add]
    rfl
  have hindex : ∀ pos, w.getIndex pos = some (pos % w.capacity) := fun pos =>
    if_neg (by rw [h.capacity]; exact hsize)
  unfold CacheBuffer64.fill
  rw [hindex, hindex]
  by_cases hfull : w.full = true
  · have hle := h.full_iff.mp hfull
    rw [if_pos hfull]
    refine ⟨_, rfl, h.capacity, htail, ?_⟩
    have hsub : w.tail + 1 - (w.head + 1) = w.tail - w.head := by grind
    show w.tail + 1 - (w.head + 1) = _
    rw [hsub, h.size, Nat.min_eq_right hle, Nat.min_eq_right (by omega)]
  · have hlt : n < size.toNat := by
      rw [h.full_iff] at hfull
      omega
    rw [if_neg hfull]
    refine ⟨_, rfl, h.capacity, htail, ?_⟩
    have hsub : w.tail + 1 - w.head = w.tail - w.head + 1 := by grind
    show w.tail + 1 - w.head = _
    rw [hsub, h.size, Nat.min_eq_left (by omega), Nat.min_eq_left hlt]
    exact (UInt64.ofNat_add n 1).symm

/-- A full buffer writes the cell of its head. -/
theorem fill_of_full (hcapacity : w.capacity ≠ 0) (hfull : w.capacity - 1 = w.tail - w.head)
    (value : T) :
    w.fill value = some ⟨w.head + 1, w.tail + 1, w.capacity,
      Function.update w.buffer (w.head % w.capacity) value⟩ := by
  have hindex : w.getIndex w.head = some (w.head % w.capacity) := if_neg hcapacity
  have hfull' : w.full = true := decide_eq_true hfull
  unfold CacheBuffer64.fill
  rw [if_pos hfull', hindex]
  rfl

end counts

/-- **Run**: every fill of a buffer with a cell succeeds. -/
theorem fillAll_counts [Inhabited T] (size : UInt64) (hsize : size + 1 ≠ 0) (log : List T) :
    ∃ w, (new size).fillAll log = some w ∧ Counts size log.length w := by
  induction log using List.reverseRecOn with
  | nil =>
    refine ⟨_, rfl, rfl, rfl, ?_⟩
    rw [List.length_nil, Nat.zero_min]
    exact UInt64.sub_self 0
  | append_singleton log value ih =>
    obtain ⟨w, hfill, hcounts⟩ := ih
    obtain ⟨w', hw', hcounts'⟩ := hcounts.fill hsize value
    refine ⟨w', ?_, by rw [List.length_append]; exact hcounts'⟩
    rw [fillAll_concat, hfill]
    exact hw'

/-! ## Section 4: FetchMulti -/

section fetchMulti
variable {size num : Nat} {log : List T} {w : CacheBuffer64 T} {b : CacheBuffer T}

/-- The loop before its pass `j`, when it fetches the last `num` values. -/
def fetchState (log : List T) (num : Nat) (vec : List T) (j : Nat) : UInt64 × List T :=
  (.ofNat (log.length - num + 1 + j), vec ++ (log.drop (log.length - num)).take j)

/-- A pass that finds a position in the window appends its value. -/
theorem Stores.fetchPass (h : Stores w b) (hb : b.Keeps size log)
    (hroom : log.length + 1 < 2 ^ 64) (hnum : num ≤ min log.length size) (vec : List T) {j : Nat}
    (hj : j < num) :
    w.fetchPass (fetchState log num vec j) = .inl (fetchState log num vec (j + 1)) := by
  have hpos : (UInt64.ofNat (log.length - num + 1 + j)).toNat = log.length - num + 1 + j :=
    UInt64.toNat_ofNat_of_lt' (by show _ < 2 ^ 64; omega)
  have hle : UInt64.ofNat (log.length - num + 1 + j) ≤ w.tail := by
    rw [UInt64.le_iff_toNat_le, hpos, h.tail, hb.tail]
    omega
  have hvalue : (log.drop (log.length - num))[j]? = some (b.get (log.length - num + 1 + j)) := by
    have hget := hb.get (p := log.length - num + 1 + j)
      (by unfold CacheBuffer.first; rw [hb.head]; omega) (by rw [hb.tail]; omega)
    rw [List.getElem?_drop, ← hget]
    congr 1
    omega
  unfold CacheBuffer64.fetchPass fetchState
  rw [if_pos hle, h.get hb hpos]
  show Sum.inl (UInt64.ofNat _ + 1, _ ++ _ ++ [_]) = Sum.inl (_, vec ++ _)
  rw [List.take_add_one, hvalue, List.append_assoc, ← Nat.add_assoc, UInt64.ofNat_add _ 1]
  rfl

/-- The pass after the tail returns. -/
theorem Stores.fetchPass_last (h : Stores w b) (hb : b.Keeps size log)
    (hroom : log.length + 1 < 2 ^ 64) (hnum : num ≤ min log.length size) (vec : List T) :
    w.fetchPass (fetchState log num vec num) =
      .inr (some (vec ++ log.drop (log.length - num))) := by
  have hpos : (UInt64.ofNat (log.length - num + 1 + num)).toNat = log.length + 1 := by
    rw [show log.length - num + 1 + num = log.length + 1 by omega]
    exact UInt64.toNat_ofNat_of_lt' hroom
  have hgt : ¬ UInt64.ofNat (log.length - num + 1 + num) ≤ w.tail := by
    rw [UInt64.le_iff_toNat_le, hpos, h.tail, hb.tail]
    omega
  unfold CacheBuffer64.fetchPass fetchState
  rw [if_neg hgt, List.take_of_length_le (by rw [List.length_drop]; omega)]

theorem fetchMulti_of_nonempty (hne : w.empty = false) (passes : Nat) (fetchSize : UInt64)
    (vec : List T) :
    w.fetchMulti passes fetchSize vec =
      (loop w.fetchPass passes
        (w.tail - (if fetchSize < w.size then fetchSize else w.size) + 1, vec)).join.map
        (true, ·) := by
  unfold CacheBuffer64.fetchMulti
  rw [hne]
  rfl

/-- **FetchMulti**: the last values, in the order they were filled in. -/
theorem Stores.fetchMulti (h : Stores w b) (hb : b.Keeps size log)
    (hroom : log.length + 1 < 2 ^ 64) (hne : w.empty = false) (fetchSize : UInt64)
    (vec : List T) {passes : Nat} (hpasses : w.size.toNat < passes) :
    w.fetchMulti passes fetchSize vec =
      some (true, vec ++ log.drop (log.length - min w.size.toNat fetchSize.toNat)) := by
  have hsize : w.size.toNat = min log.length size := by
    rw [h.toNat_size hb, CacheBuffer.size, hb.tail, hb.head]
    omega
  obtain ⟨num, hword⟩ : ∃ num, num = if fetchSize < w.size then fetchSize else w.size := ⟨_, rfl⟩
  have hmin : min w.size.toNat fetchSize.toNat = num.toNat := by
    by_cases hlt : fetchSize < w.size
    · rw [hword, if_pos hlt]
      exact Nat.min_eq_right (Nat.le_of_lt (UInt64.lt_iff_toNat_lt.mp hlt))
    · rw [hword, if_neg hlt]
      exact Nat.min_eq_left (UInt64.le_iff_toNat_le.mp (UInt64.not_lt.mp hlt))
  have hnum : num.toNat ≤ min log.length size := by omega
  have hstart : (w.tail - num + 1, vec) = fetchState log num.toNat vec 0 := by
    have hle : num ≤ w.tail := by
      rw [UInt64.le_iff_toNat_le, h.tail, hb.tail]
      omega
    have hfirst : (w.tail - num).toNat = log.length - num.toNat := by
      rw [UInt64.toNat_sub_of_le _ _ hle, h.tail, hb.tail]
    unfold fetchState
    rw [List.take_zero, List.append_nil, Nat.add_zero, UInt64.ofNat_add _ 1, ← hfirst,
      UInt64.ofNat_toNat]
    rfl
  have hloop := (loop_of_states (fetchState log num.toNat vec)
    (fun j hj => h.fetchPass hb hroom hnum vec hj) (h.fetchPass_last hb hroom hnum vec)
    (show num.toNat < passes by omega)).1
  rw [fetchMulti_of_nonempty hne, ← hword, hmin, hstart, hloop]
  rfl

/-- No position is past the largest word. -/
theorem fetchMulti_never (hcapacity : w.capacity ≠ 0) (htail : w.tail.toNat = 2 ^ 64 - 1)
    (passes : Nat) (fetchSize : UInt64) (vec : List T) :
    w.fetchMulti passes fetchSize vec = none := by
  have hgo : ∀ m : UInt64 × List T, True → ∃ m', w.fetchPass m = .inl m' ∧ True := by
    intro m _
    have hle : m.1 ≤ w.tail := by
      rw [UInt64.le_iff_toNat_le, htail]
      exact Nat.le_pred_of_lt m.1.toNat_lt
    have hget : w.get m.1 = some (w.buffer (m.1 % w.capacity)) := by
      unfold CacheBuffer64.get CacheBuffer64.getIndex
      rw [if_neg hcapacity]
      rfl
    refine ⟨(m.1 + 1, m.2 ++ [w.buffer (m.1 % w.capacity)]), ?_, trivial⟩
    unfold CacheBuffer64.fetchPass
    rw [if_pos hle, hget]
  have hne : w.empty = false := by
    refine decide_eq_false fun hzero => ?_
    rw [hzero] at htail
    cases htail
  rw [fetchMulti_of_nonempty hne, loop_never hgo trivial]
  rfl

end fetchMulti

/-! ## Section 5: The ring -/

/-- **Ring**: the size counts the last values for any number of fills;
    while the tail fits, every position in the window holds its value, and
    while the position after it fits too, `FetchMulti` appends the last
    values in order. -/
theorem cacheBuffer_ring [Inhabited T] (size : UInt64) (hone : 1 ≤ size)
    (hsize : size.toNat + 1 < 2 ^ 64) (log : List T) :
    ∃ w, (new size).fillAll log = some w ∧
      w.size.toNat = min log.length size.toNat ∧
      (log.length < 2 ^ 64 → ∀ i, w.first ≤ i → i ≤ w.tail →
        ∃ value, log[i.toNat - 1]? = some value ∧ w.get i = some value) ∧
      (log.length + 1 < 2 ^ 64 → w.empty = false → ∀ k vec passes, w.size.toNat < passes →
        w.fetchMulti passes k vec =
          some (true, vec ++ log.drop (log.length - min k.toNat w.size.toNat))) := by
  have hcapacity : size + 1 ≠ 0 := by
    intro hzero
    have hsucc := toNat_succ hsize
    rw [hzero] at hsucc
    cases hsucc
  obtain ⟨w, hfill, hcounts⟩ := fillAll_counts size hcapacity log
  refine ⟨w, hfill, ?_, ?_, ?_⟩
  · have hlt := size.toNat_lt
    unfold CacheBuffer64.size
    rw [hcounts.size]
    exact UInt64.toNat_ofNat_of_lt' (Nat.lt_of_le_of_lt (Nat.min_le_right ..) hlt)
  · intro hlog i hfirst htail
    obtain ⟨w', b, hfill', hstores, hkeeps⟩ := fillAll_stores hsize hlog
    obtain rfl : w = w' := Option.some.inj (hfill.symm.trans hfill')
    refine ⟨b.get i.toNat, hkeeps.get ?_ ?_, hstores.get hkeeps rfl⟩
    · -- with a size of 0 the head could be the largest word
      have hpos : 1 ≤ size.toNat := UInt64.le_iff_toNat_le.mp hone
      rw [← hstores.toNat_first (by rw [hkeeps.head]; omega)]
      exact UInt64.le_iff_toNat_le.mp hfirst
    · rw [← hstores.tail]
      exact UInt64.le_iff_toNat_le.mp htail
  · intro hlog hne k vec passes hpasses
    obtain ⟨w', b, hfill', hstores, hkeeps⟩ := fillAll_stores hsize (Nat.lt_of_succ_lt hlog)
    obtain rfl : w = w' := Option.some.inj (hfill.symm.trans hfill')
    rw [hstores.fetchMulti hkeeps hlog hne k vec hpasses, Nat.min_comm]

/-- A buffer of two that has been filled five times. -/
theorem cacheBuffer_ring_two :
    ∃ w, (new 2 : CacheBuffer64 Nat).fillAll [5, 6, 7, 8, 9] = some w ∧ w.size.toNat = 2 ∧
      w.fetchMulti 3 10 [1] = some (true, [1, 8, 9]) := by
  obtain ⟨w, hfill, hsize, -, hfetch⟩ :=
    cacheBuffer_ring (T := Nat) 2 (by decide) (by decide) [5, 6, 7, 8, 9]
  have hne : w.empty = false := by
    obtain rfl := Option.some.inj hfill
    decide
  refine ⟨w, hfill, hsize, ?_⟩
  have hmulti := hfetch (by decide) hne 10 [1] 3 (by rw [hsize]; decide)
  rw [hsize] at hmulti
  exact hmulti

/-! ### Past the words -/

/-- A buffer whose tail is the largest word. -/
theorem fillAll_last {log : List Nat} (hlog : log.length = 2 ^ 64 - 1) :
    ∃ w, (new 1).fillAll log = some w ∧ w.empty = false ∧
      ∀ passes k vec, w.fetchMulti passes k vec = none := by
  obtain ⟨w, hfill, hcounts⟩ := fillAll_counts 1 (by decide) log
  have htail : w.tail.toNat = 2 ^ 64 - 1 := by
    rw [hcounts.tail, hlog]
    rfl
  refine ⟨w, hfill, ?_, ?_⟩
  · refine decide_eq_false fun hzero => ?_
    rw [hzero] at htail
    cases htail
  · exact fetchMulti_never (by rw [hcounts.capacity]; decide) htail

/-- A buffer whose tail has come round to 2, and its fill after that. -/
theorem fillAll_wrapped (log : List Nat) (hlog : log.length = 2 ^ 64 + 2) (value : Nat) :
    ∃ w, (new 2).fillAll (log ++ [value]) = some w ∧ w.first = 2 ∧ w.tail = 3 ∧
      w.get 3 = some value := by
  obtain ⟨w, hfill, hcounts⟩ := fillAll_counts 2 (by decide) log
  have htail : w.tail = 2 := by
    rw [hcounts.tail, hlog]
    rfl
  have hcapacity : w.capacity = 3 := hcounts.capacity
  have hsize : w.tail - w.head = 2 := by
    rw [hcounts.size, hlog]
    rfl
  have hhead : w.head = 0 := by grind
  have hfull : w.capacity - 1 = w.tail - w.head := by
    rw [hcapacity, hsize]
    rfl
  refine ⟨⟨w.head + 1, w.tail + 1, w.capacity,
    Function.update w.buffer (w.head % w.capacity) value⟩, ?_, ?_, ?_, ?_⟩
  · rw [fillAll_concat, hfill]
    exact fill_of_full (by rw [hcapacity]; decide) hfull value
  · show w.head + 1 + 1 = 2
    rw [hhead]
    rfl
  · show w.tail + 1 = 3
    rw [htail]
    rfl
  · -- the cell of position 3 is the cell of the head, 0
    unfold CacheBuffer64.get CacheBuffer64.getIndex
    rw [hcapacity, hhead]
    have hcell : (3 % 3 : UInt64) = 0 % 3 := by decide
    show some (Function.update w.buffer (0 % 3) value (3 % 3)) = some value
    rw [hcell, Function.update_self]

/-- **Overflow**: a size of `2 ^ 64 - 1` has no cell to fill, `FetchMulti`
    does not return after `2 ^ 64 - 1` fills, and the third position is
    filled again after `2 ^ 64` more. -/
theorem cacheBuffer_overflows :
    (new 0xFFFFFFFFFFFFFFFF : CacheBuffer64 Nat).fillAll [0] = none ∧
    (∃ w, (new 1 : CacheBuffer64 Nat).fillAll (List.replicate (2 ^ 64 - 1) 0) = some w ∧
      w.empty = false ∧ ∀ passes k vec, w.fetchMulti passes k vec = none) ∧
    (∃ w, (new 2 : CacheBuffer64 Nat).fillAll (List.replicate (2 ^ 64 + 2) 0 ++ [1]) = some w ∧
      w.first ≤ 3 ∧ 3 ≤ w.tail ∧ w.get 3 = some 1 ∧
      (List.replicate (2 ^ 64 + 2) 0 ++ [1])[3 - 1]? = some 0) := by
  refine ⟨by decide, fillAll_last List.length_replicate, ?_⟩
  obtain ⟨w, hfill, hfirst, htail, hget⟩ := fillAll_wrapped
    (List.replicate (2 ^ 64 + 2) 0) List.length_replicate 1
  refine ⟨w, hfill, by rw [hfirst]; decide, by rw [htail]; decide, hget, ?_⟩
  rw [List.getElem?_append_left (by rw [List.length_replicate]; decide), List.getElem?_replicate,
    if_pos (by decide)]

end CacheBuffer64

end CyberRT.Data
