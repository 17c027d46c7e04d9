import Mathlib.Algebra.Order.Ring.Int
import Mathlib.Data.List.Chain
import Mathlib.Data.Set.Function

/-! # Unix time and GPS time

    Unix time counts the seconds from 1970-1-1 without leap seconds, GPS
    time those from 1980-1-6 with them. Both conversions search the table of
    leap seconds from the newest entry on: one compares the time itself, the
    other the time it would return.

    Section 2 says what the conversions are for, over all integers and any
    table. Section 3 is the code, with the overflow of its integer types: it
    computes Section 2 wherever it is defined. -/

namespace CyberRT.Common.TimeConversion

/-! ## Section 1: The table of leap seconds -/

/-- The seconds Unix time is ahead of GPS time, without leap seconds. -/
def unixGpsDiff : Int := 315964800

def oneMillion : Int := 1000000
def oneBillion : Int := 1000000000

/-- From `unixTime` on, an `int32_t`, there have been `leapSeconds`. Leap
    seconds are inserted after the GPS epoch. -/
structure LeapSecond where
  unixTime    : Int
  leapSeconds : Int
  diff_nonneg : 0 ≤ unixGpsDiff - leapSeconds := by decide
  epoch       : unixGpsDiff - leapSeconds ≤ unixTime := by decide
  int32       : unixTime < 2 ^ 31 := by decide
  deriving DecidableEq

namespace LeapSecond

/-- Unix time minus GPS time while the entry is in force. -/
def offset (e : LeapSecond) : Int := unixGpsDiff - e.leapSeconds

/-- The GPS second from which on the entry is in force. -/
def gpsTime (e : LeapSecond) : Int := e.unixTime - e.offset

/-- The leap second itself, the GPS second before that. -/
def inserted (e : LeapSecond) : Int := e.gpsTime - 1

/-- Each entry is one leap second more than the one before it. -/
def Follows (e older : LeapSecond) : Prop :=
  older.unixTime < e.unixTime ∧ e.leapSeconds = older.leapSeconds + 1

instance (e older : LeapSecond) : Decidable (e.Follows older) := instDecidableAnd

theorem offset_nonneg (e : LeapSecond) : 0 ≤ e.offset := e.diff_nonneg

theorem offset_le_unixTime (e : LeapSecond) : e.offset ≤ e.unixTime := e.epoch

theorem Follows.offset {e older : LeapSecond} (h : e.Follows older) :
    older.offset = e.offset + 1 := by
  unfold LeapSecond.offset
  rw [h.2]
  omega

end LeapSecond

/-- `LEAP_SECONDS`, the newest entry first. -/
structure LeapTable where
  newest : LeapSecond
  older  : List LeapSecond
  chain  : (newest :: older).IsChain LeapSecond.Follows

def LeapTable.entries (table : LeapTable) : List LeapSecond := table.newest :: table.older

def leapSeconds : LeapTable where
  newest := { unixTime := 1483228800, leapSeconds := 18 } -- 2017-01-01
  older  := [
    { unixTime := 1435708800, leapSeconds := 17 },        -- 2015-07-01
    { unixTime := 1341100800, leapSeconds := 16 },        -- 2012-07-01
    { unixTime := 1230768000, leapSeconds := 15 },        -- 2009-01-01
    { unixTime := 1136073600, leapSeconds := 14 }]        -- 2006-01-01
  chain  := by decide

/-! ## Section 2: The two times

    `gpsOf` and `unixOf` over all integers, with what holds of them for any
    table. A time is covered if some entry is in force at it. -/

def gpsOf : List LeapSecond → Int → Int
  | [],        _ => 0
  | e :: rest, t => if e.unixTime ≤ t then t - e.offset else gpsOf rest t

def unixOf : List LeapSecond → Int → Int
  | [],        _ => 0
  | e :: rest, g => if e.gpsTime ≤ g then g + e.offset else unixOf rest g

/-- The Unix times of a table. -/
def unixTimes (es : List LeapSecond) : Set Int := {t | ∃ e ∈ es, e.unixTime ≤ t}

/-- The GPS times of a table. -/
def gpsTimes (es : List LeapSecond) : Set Int := {g | ∃ e ∈ es, e.gpsTime ≤ g}

section exact
variable {e : LeapSecond} {es : List LeapSecond}

theorem mem_unixTimes_older {t : Int} (ht : t ∈ unixTimes (e :: es)) (hlt : t < e.unixTime) :
    t ∈ unixTimes es := by
  obtain ⟨e', he', hle⟩ := ht
  rcases List.mem_cons.mp he' with rfl | hmem
  · omega
  · exact ⟨e', hmem, hle⟩

theorem mem_gpsTimes_older {g : Int} (hg : g ∈ gpsTimes (e :: es)) (hlt : g < e.gpsTime) :
    g ∈ gpsTimes es := by
  obtain ⟨e', he', hle⟩ := hg
  rcases List.mem_cons.mp he' with rfl | hmem
  · omega
  · exact ⟨e', hmem, hle⟩

/-- The older entries take more off than a newer one. -/
theorem gpsOf_older_lt (hchain : (e :: es).IsChain LeapSecond.Follows) {t : Int}
    (ht : t ∈ unixTimes es) : gpsOf es t < t - e.offset := by
  induction es generalizing e with
  | nil =>
    obtain ⟨e', he', -⟩ := ht
    cases he'
  | cons e' es ih =>
    obtain ⟨hfollows, hrest⟩ := List.isChain_cons_cons.mp hchain
    have hoffset := hfollows.offset
    unfold gpsOf
    split
    · omega
    · next hlt =>
      have hih := ih hrest (mem_unixTimes_older ht (by omega))
      omega

/-- Before an entry is in force, GPS time is before the entry's. -/
theorem gpsOf_older_lt_gpsTime (hchain : (e :: es).IsChain LeapSecond.Follows) {t : Int}
    (ht : t ∈ unixTimes es) (hlt : t < e.unixTime) : gpsOf es t < e.gpsTime := by
  have hgps := gpsOf_older_lt hchain ht
  unfold LeapSecond.gpsTime
  omega

/-- No GPS time is later than the newest entry makes it. -/
theorem gpsOf_le (hchain : (e :: es).IsChain LeapSecond.Follows) {t : Int}
    (ht : t ∈ unixTimes (e :: es)) : gpsOf (e :: es) t ≤ t - e.offset := by
  unfold gpsOf
  split
  · exact Int.le_refl _
  · next hlt => exact Int.le_of_lt (gpsOf_older_lt hchain (mem_unixTimes_older ht (by omega)))

/-- GPS time counts every Unix second. -/
theorem gpsOf_lt_gpsOf (hchain : es.IsChain LeapSecond.Follows) {a b : Int}
    (ha : a ∈ unixTimes es) (hb : b ∈ unixTimes es) (hab : a < b) : gpsOf es a < gpsOf es b := by
  induction es with
  | nil =>
    obtain ⟨e, he, -⟩ := ha
    cases he
  | cons e es ih =>
    unfold gpsOf
    by_cases hea : e.unixTime ≤ a
    · rw [if_pos hea, if_pos (by omega)]
      omega
    · have ha' := mem_unixTimes_older ha (by omega)
      rw [if_neg hea]
      by_cases heb : e.unixTime ≤ b
      · -- `e` comes into force between `a` and `b`
        have hlt := gpsOf_older_lt hchain ha'
        rw [if_pos heb]
        omega
      · rw [if_neg heb]
        exact ih hchain.tail ha' (mem_unixTimes_older hb (by omega))

theorem gpsOf_mem (hchain : es.IsChain LeapSecond.Follows) {t : Int} (ht : t ∈ unixTimes es) :
    gpsOf es t ∈ gpsTimes es := by
  induction es with
  | nil =>
    obtain ⟨e, he, -⟩ := ht
    cases he
  | cons e es ih =>
    unfold gpsOf
    split
    · next hle => exact ⟨e, List.mem_cons_self, by unfold LeapSecond.gpsTime; omega⟩
    · next hlt =>
      obtain ⟨e', he', hle⟩ := ih hchain.tail (mem_unixTimes_older ht (by omega))
      exact ⟨e', List.mem_cons_of_mem _ he', hle⟩

/-- **Round trip**: the two searches stop at the same entry. -/
theorem leftInvOn_unixOf (hchain : es.IsChain LeapSecond.Follows) :
    Set.LeftInvOn (unixOf es) (gpsOf es) (unixTimes es) := by
  induction es with
  | nil =>
    rintro t ⟨e, he, -⟩
    cases he
  | cons e es ih =>
    intro t ht
    unfold gpsOf unixOf
    by_cases he : e.unixTime ≤ t
    · rw [if_pos he, if_pos (by unfold LeapSecond.gpsTime; omega)]
      omega
    · have ht' := mem_unixTimes_older ht (by omega)
      have hlt := gpsOf_older_lt_gpsTime hchain ht' (by omega)
      rw [if_neg he, if_neg (by omega)]
      exact ih hchain.tail ht'

/-- Before an entry is in force, Unix time is not after the entry's, and
    reaches it in the leap second. -/
theorem unixOf_older_le (hchain : (e :: es).IsChain LeapSecond.Follows) {g : Int}
    (hg : g ∈ gpsTimes es) (hlt : g < e.gpsTime) :
    unixOf es g ≤ e.unixTime ∧ (unixOf es g = e.unixTime ↔ g = e.inserted) := by
  induction es generalizing e with
  | nil =>
    obtain ⟨e', he', -⟩ := hg
    cases he'
  | cons e' es ih =>
    obtain ⟨hfollows, hrest⟩ := List.isChain_cons_cons.mp hchain
    have hoffset := hfollows.offset
    have hlater := hfollows.1
    unfold unixOf LeapSecond.inserted
    unfold LeapSecond.gpsTime at hlt ⊢
    split
    · omega
    · next hbefore =>
      -- the entry in force is older than `e'`, and `e'` is before `e`
      obtain ⟨hle, -⟩ := ih hrest (mem_gpsTimes_older hg (by unfold LeapSecond.gpsTime; omega))
        (by unfold LeapSecond.gpsTime; omega)
      omega

theorem gpsTime_older_lt (hchain : (e :: es).IsChain LeapSecond.Follows) {e' : LeapSecond}
    (he' : e' ∈ es) : e'.gpsTime < e.gpsTime := by
  induction es generalizing e with
  | nil => cases he'
  | cons e₁ es ih =>
    obtain ⟨hfollows, hrest⟩ := List.isChain_cons_cons.mp hchain
    have hoffset := hfollows.offset
    have hlater := hfollows.1
    have hlt : e₁.gpsTime < e.gpsTime := by
      unfold LeapSecond.gpsTime
      omega
    rcases List.mem_cons.mp he' with rfl | hmem
    · exact hlt
    · exact Int.lt_trans (ih hrest hmem) hlt

/-- **Standing still**: Unix time does not go back, and two GPS seconds are
    one Unix second only as a leap second and its successor. -/
theorem unixOf_le_unixOf (hchain : es.IsChain LeapSecond.Follows) {a b : Int}
    (ha : a ∈ gpsTimes es) (hab : a < b) :
    unixOf es a ≤ unixOf es b ∧
      (unixOf es a = unixOf es b ↔ b = a + 1 ∧ ∃ e ∈ es, a = e.inserted) := by
  induction es with
  | nil =>
    obtain ⟨e, he, -⟩ := ha
    cases he
  | cons e es ih =>
    unfold unixOf
    by_cases hea : e.gpsTime ≤ a
    · -- no leap second comes after the newest entry
      rw [if_pos hea, if_pos (by omega)]
      refine ⟨by omega, fun heq => by omega, ?_⟩
      rintro ⟨-, e', he', rfl⟩
      have hle : e'.gpsTime ≤ e.gpsTime := by
        rcases List.mem_cons.mp he' with rfl | hmem
        · exact Int.le_refl _
        · exact Int.le_of_lt (gpsTime_older_lt hchain hmem)
      unfold LeapSecond.inserted at hea
      omega
    · have ha' := mem_gpsTimes_older ha (by omega)
      rw [if_neg hea]
      by_cases heb : e.gpsTime ≤ b
      · -- `e` comes into force between `a` and `b`
        obtain ⟨hle, heq⟩ := unixOf_older_le hchain ha' (by omega)
        have hgps : e.gpsTime = e.unixTime - e.offset := rfl
        have hinserted : e.inserted = e.gpsTime - 1 := rfl
        rw [if_pos heb]
        refine ⟨by omega, ?_, ?_⟩
        · intro hsame
          have hins := heq.mp (by omega)
          exact ⟨by omega, e, List.mem_cons_self, hins⟩
        · rintro ⟨hsucc, -⟩
          have hunix := heq.mpr (by omega)
          omega
      · rw [if_neg heb]
        obtain ⟨hle, heq⟩ := ih hchain.tail ha'
        refine ⟨hle, heq.trans (and_congr_right fun hb => ?_)⟩
        constructor
        · rintro ⟨e', he', hins⟩
          exact ⟨e', List.mem_cons_of_mem _ he', hins⟩
        · rintro ⟨e', he', hins⟩
          rcases List.mem_cons.mp he' with rfl | hmem
          · unfold LeapSecond.inserted at hins
            omega
          · exact ⟨e', hmem, hins⟩

end exact

/-! ### Finer units

    A conversion of whole seconds, applied to a time with a fraction. -/

def scaledOf (f : Int → Int) (scale t : Int) : Int := f (t / scale) * scale + t % scale

section scaled
variable {f g : Int → Int} {scale : Int}

theorem scaledOf_one (t : Int) : scaledOf f 1 t = f t := by
  unfold scaledOf
  rw [Int.ediv_one, Int.emod_one, Int.mul_one, Int.add_zero]

theorem scaledOf_ediv (hscale : 0 < scale) (t : Int) :
    scaledOf f scale t / scale = f (t / scale) := by
  have hlt := Int.emod_lt_of_pos t hscale
  have hnonneg := Int.emod_nonneg t (Int.ne_of_gt hscale)
  unfold scaledOf
  rw [Int.add_comm, Int.add_mul_ediv_right _ _ (Int.ne_of_gt hscale),
    Int.ediv_eq_zero_of_lt hnonneg hlt, Int.zero_add]

theorem scaledOf_emod (t : Int) : scaledOf f scale t % scale = t % scale := by
  unfold scaledOf
  rw [Int.add_comm, Int.add_mul_emod_self_right, Int.emod_emod]

/-- The fraction is carried along. -/
theorem scaledOf_scaledOf (hscale : 0 < scale) {t : Int} (h : g (f (t / scale)) = t / scale) :
    scaledOf g scale (scaledOf f scale t) = t := by
  have hdiv := scaledOf_ediv (f := f) hscale t
  have hmod : scaledOf f scale t % scale = t % scale := scaledOf_emod t
  show g (scaledOf f scale t / scale) * scale + scaledOf f scale t % scale = t
  rw [hdiv, hmod, h, Int.mul_comm]
  exact Int.mul_ediv_add_emod t scale

/-- Whole seconds apart, or a fraction of one second apart. -/
theorem scaledOf_lt_scaledOf (hscale : 0 < scale) {a b : Int}
    (hf : a / scale < b / scale → f (a / scale) < f (b / scale)) (hab : a < b) :
    scaledOf f scale a < scaledOf f scale b := by
  have hamod := Int.emod_lt_of_pos a hscale
  have hbmod := Int.emod_nonneg b (Int.ne_of_gt hscale)
  have ha' := Int.mul_ediv_add_emod a scale
  have hb' := Int.mul_ediv_add_emod b scale
  have hle : a / scale ≤ b / scale := Int.ediv_le_ediv hscale (Int.le_of_lt hab)
  unfold scaledOf
  rcases Int.le_iff_eq_or_lt.mp hle with heq | hlt
  · rw [heq] at ha' ⊢
    omega
  · have hseconds : f (a / scale) + 1 ≤ f (b / scale) := hf hlt
    have hmul : (f (a / scale) + 1) * scale ≤ f (b / scale) * scale :=
      Int.mul_le_mul_of_nonneg_right hseconds (Int.le_of_lt hscale)
    rw [Int.add_mul, Int.one_mul] at hmul
    omega

end scaled

/-! ## Section 3: The code -/

/-- The integer types the conversions are called at. -/
inductive IntType where
  | int64
  | uint64
  deriving DecidableEq

namespace IntType

def Holds : IntType → Int → Prop
  | int64,  x => -2 ^ 63 ≤ x ∧ x < 2 ^ 63
  | uint64, x => 0 ≤ x ∧ x < 2 ^ 64

instance (x : Int) : Decidable (int64.Holds x) := instDecidableAnd

/-- What an operation gives whose exact result is `x`: signed overflow has
    no result, unsigned overflow wraps. -/
def result : IntType → Int → Option Int
  | int64,  x => if int64.Holds x then some x else none
  | uint64, x => some (x % 2 ^ 64)

theorem result_of_holds {ty : IntType} {x : Int} (h : ty.Holds x) : ty.result x = some x := by
  cases ty with
  | int64  => exact if_pos h
  | uint64 =>
    obtain ⟨hnonneg, hlt⟩ := h
    show some (x % 2 ^ 64) = some x
    rw [Int.emod_eq_of_lt hnonneg hlt]

end IntType

/-- `UnixToGpsSeconds<T>` from an entry on. -/
def unixToGpsIn (ty : IntType) : List LeapSecond → Int → Option Int
  | [],        _           => some 0
  | e :: rest, unixSeconds =>
    if e.unixTime ≤ unixSeconds then ty.result (unixSeconds - (unixGpsDiff - e.leapSeconds))
    else unixToGpsIn ty rest unixSeconds

/-- `GpsToUnixSeconds<T>` from an entry on: every entry is added first. -/
def gpsToUnixIn (ty : IntType) : List LeapSecond → Int → Option Int
  | [],        _          => some 0
  | e :: rest, gpsSeconds => do
    let result ← ty.result (gpsSeconds + (unixGpsDiff - e.leapSeconds))
    if e.unixTime ≤ result then some result else gpsToUnixIn ty rest gpsSeconds

/-- `convert(t / scale) * scale + t % scale`. -/
def scaled (ty : IntType) (convert : Int → Option Int) (scale t : Int) : Option Int := do
  let seconds ← convert (t.tdiv scale)
  let whole ← ty.result (seconds * scale)
  ty.result (whole + t.tmod scale)

def unixToGpsSeconds (ty : IntType) (unixSeconds : Int) : Option Int :=
  unixToGpsIn ty leapSeconds.entries unixSeconds

def unixToGpsMicroseconds (unixMicroseconds : Int) : Option Int :=
  scaled .int64 (unixToGpsSeconds .int64) oneMillion unixMicroseconds

def unixToGpsNanoseconds (unixNanoseconds : Int) : Option Int :=
  scaled .int64 (unixToGpsSeconds .int64) oneBillion unixNanoseconds

def gpsToUnixSeconds (ty : IntType) (gpsSeconds : Int) : Option Int :=
  gpsToUnixIn ty leapSeconds.entries gpsSeconds

/-- Both overloads, at `int64_t` and at `uint64_t`. -/
def gpsToUnixMicroseconds (ty : IntType) (gpsMicroseconds : Int) : Option Int :=
  scaled ty (gpsToUnixSeconds ty) oneMillion gpsMicroseconds

/-- Both overloads, at `int64_t` and at `uint64_t`. -/
def gpsToUnixNanoseconds (ty : IntType) (gpsNanoseconds : Int) : Option Int :=
  scaled ty (gpsToUnixSeconds ty) oneBillion gpsNanoseconds

-- the seconds around a leap second, as the source tabulates them
example : gpsToUnixSeconds .int64 914803213 = some 1230767999 ∧
    gpsToUnixSeconds .int64 914803214 = some 1230768000 ∧
    gpsToUnixSeconds .int64 914803215 = some 1230768000 := by decide

/-! ## Section 4: The code computes the two times -/

section refines
variable {ty : IntType} {e : LeapSecond} {es : List LeapSecond}

theorem IntType.Holds.of_le {x y : Int} (h : ty.Holds y) (hx : 0 ≤ x) (hle : x ≤ y) :
    ty.Holds x := by
  cases ty <;> unfold IntType.Holds at h ⊢ <;> omega

theorem LeapSecond.holds_unixTime (e : LeapSecond) : ty.Holds e.unixTime := by
  have hdiff := e.diff_nonneg
  have hepoch := e.epoch
  have hint := e.int32
  cases ty <;> unfold IntType.Holds <;> omega

theorem unixToGpsIn_eq {t : Int} (ht : t ∈ unixTimes es) (hholds : ty.Holds t) :
    unixToGpsIn ty es t = some (gpsOf es t) := by
  induction es with
  | nil =>
    obtain ⟨e, he, -⟩ := ht
    cases he
  | cons e es ih =>
    unfold unixToGpsIn gpsOf
    split
    · have hnonneg := e.offset_nonneg
      have hepoch := e.offset_le_unixTime
      exact IntType.result_of_holds (hholds.of_le (x := t - e.offset) (by omega) (by omega))
    · next hlt => exact ih (mem_unixTimes_older ht (by omega))

/-- An entry whose sum does not overflow is compared by its GPS time. -/
theorem gpsToUnixIn_cons {g : Int} (hholds : ty.Holds (g + e.offset)) :
    gpsToUnixIn ty (e :: es) g =
      if e.gpsTime ≤ g then some (g + e.offset) else gpsToUnixIn ty es g := by
  have hresult : ty.result (g + (unixGpsDiff - e.leapSeconds)) = some (g + e.offset) :=
    IntType.result_of_holds hholds
  have hiff : e.unixTime ≤ g + e.offset ↔ e.gpsTime ≤ g := by
    unfold LeapSecond.gpsTime
    omega
  rw [gpsToUnixIn, hresult]
  exact if_congr hiff rfl rfl

/-- Only the newest entry, the one that adds least, can overflow. -/
theorem gpsToUnixIn_eq (hchain : (e :: es).IsChain LeapSecond.Follows) {g : Int} (hg : 0 ≤ g)
    (hholds : ty.Holds (g + e.offset)) :
    gpsToUnixIn ty (e :: es) g = some (unixOf (e :: es) g) := by
  rw [gpsToUnixIn_cons hholds]
  unfold unixOf
  by_cases he : e.gpsTime ≤ g
  · rw [if_pos he, if_pos he]
  · rw [if_neg he, if_neg he]
    induction es generalizing e with
    | nil => rfl
    | cons e' es ih =>
      obtain ⟨hfollows, hrest⟩ := List.isChain_cons_cons.mp hchain
      have hoffset := hfollows.offset
      have hnonneg := e'.offset_nonneg
      have hholds' : ty.Holds (g + e'.offset) := by
        unfold LeapSecond.gpsTime at he
        exact e.holds_unixTime.of_le (by omega) (by omega)
      rw [gpsToUnixIn_cons hholds']
      unfold unixOf
      by_cases he' : e'.gpsTime ≤ g
      · rw [if_pos he', if_pos he']
      · rw [if_neg he', if_neg he']
        exact ih hrest hholds' he'

theorem scaled_eq {convert : Int → Option Int} {f : Int → Int} {scale t : Int} (hscale : 0 < scale)
    (ht : 0 ≤ t) (hconvert : convert (t / scale) = some (f (t / scale)))
    (hnonneg : 0 ≤ f (t / scale)) (hholds : ty.Holds (scaledOf f scale t)) :
    scaled ty convert scale t = some (scaledOf f scale t) := by
  have hmod := Int.emod_nonneg t (Int.ne_of_gt hscale)
  have hmul : 0 ≤ f (t / scale) * scale := Int.mul_nonneg hnonneg (Int.le_of_lt hscale)
  have hwhole : ty.Holds (f (t / scale) * scale) :=
    hholds.of_le hmul (by unfold scaledOf; omega)
  unfold scaled
  rw [Int.tdiv_eq_ediv_of_nonneg ht, Int.tmod_eq_emod_of_nonneg ht, hconvert, Option.bind_eq_bind,
    Option.bind_some, IntType.result_of_holds hwhole]
  exact IntType.result_of_holds hholds

end refines

/-! ## Section 5: The three units -/

inductive TimeUnit where
  | seconds
  | microseconds
  | nanoseconds
  deriving DecidableEq

namespace TimeUnit

def perSecond : TimeUnit → Int
  | seconds      => 1
  | microseconds => oneMillion
  | nanoseconds  => oneBillion

/-- `UnixToGps*`. -/
def unixToGps : TimeUnit → Int → Option Int
  | seconds,      t => unixToGpsSeconds .int64 t
  | microseconds, t => unixToGpsMicroseconds t
  | nanoseconds,  t => unixToGpsNanoseconds t

/-- `GpsToUnix*`. -/
def gpsToUnix (ty : IntType) : TimeUnit → Int → Option Int
  | seconds,      g => gpsToUnixSeconds ty g
  | microseconds, g => gpsToUnixMicroseconds ty g
  | nanoseconds,  g => gpsToUnixNanoseconds ty g

theorem perSecond_pos (u : TimeUnit) : 0 < u.perSecond := by cases u <;> decide

end TimeUnit

/-- The times the source's table covers. -/
theorem mem_unixTimes_leapSeconds {t : Int} :
    t ∈ unixTimes leapSeconds.entries ↔ 1136073600 ≤ t := by
  constructor
  · rintro ⟨e, he, hle⟩
    have hfirst : ∀ e ∈ leapSeconds.entries, 1136073600 ≤ e.unixTime := by decide
    exact Int.le_trans (hfirst e he) hle
  · intro hle
    exact ⟨{ unixTime := 1136073600, leapSeconds := 14 }, by decide, hle⟩

theorem mem_gpsTimes_leapSeconds {g : Int} :
    g ∈ gpsTimes leapSeconds.entries ↔ 820108814 ≤ g := by
  constructor
  · rintro ⟨e, he, hle⟩
    have hfirst : ∀ e ∈ leapSeconds.entries, 820108814 ≤ e.gpsTime := by decide
    exact Int.le_trans (hfirst e he) hle
  · intro hle
    exact ⟨{ unixTime := 1136073600, leapSeconds := 14 }, by decide, hle⟩

section units
variable {ty : IntType} {u : TimeUnit} {t : Int}

/-- A time with a fraction is covered if its whole seconds are. -/
theorem ediv_mem_unixTimes (hfirst : 1136073600 * u.perSecond ≤ t) :
    t / u.perSecond ∈ unixTimes leapSeconds.entries :=
  mem_unixTimes_leapSeconds.mpr ((Int.le_ediv_iff_mul_le u.perSecond_pos).mpr hfirst)

/-- The GPS time is not negative and not after the Unix time. -/
theorem gpsOf_bounds (hfirst : 1136073600 * u.perSecond ≤ t) :
    0 ≤ gpsOf leapSeconds.entries (t / u.perSecond) ∧
      gpsOf leapSeconds.entries (t / u.perSecond) + leapSeconds.newest.offset ≤
        t / u.perSecond := by
  have hmem := ediv_mem_unixTimes hfirst
  have hgps := mem_gpsTimes_leapSeconds.mp (gpsOf_mem leapSeconds.chain hmem)
  have hle := gpsOf_le leapSeconds.chain hmem
  unfold LeapTable.entries at hgps ⊢
  omega

/-- The GPS time of a covered time fits where the time does. -/
theorem holds_scaledOf (ht : ty.Holds t) (hfirst : 1136073600 * u.perSecond ≤ t) :
    0 ≤ scaledOf (gpsOf leapSeconds.entries) u.perSecond t ∧
      ty.Holds (scaledOf (gpsOf leapSeconds.entries) u.perSecond t) := by
  have hpos := u.perSecond_pos
  have hmod := Int.emod_nonneg t (Int.ne_of_gt hpos)
  have ht' := Int.mul_ediv_add_emod t u.perSecond
  obtain ⟨hnonneg, hle⟩ := gpsOf_bounds hfirst
  have hoffset := leapSeconds.newest.offset_nonneg
  have hmul : 0 ≤ gpsOf leapSeconds.entries (t / u.perSecond) * u.perSecond :=
    Int.mul_nonneg hnonneg (Int.le_of_lt hpos)
  have hmul' : gpsOf leapSeconds.entries (t / u.perSecond) * u.perSecond ≤
      t / u.perSecond * u.perSecond :=
    Int.mul_le_mul_of_nonneg_right (by omega) (Int.le_of_lt hpos)
  rw [Int.mul_comm (t / u.perSecond)] at hmul'
  have hscaled : 0 ≤ scaledOf (gpsOf leapSeconds.entries) u.perSecond t := by
    unfold scaledOf
    omega
  exact ⟨hscaled, ht.of_le hscaled (by unfold scaledOf; omega)⟩

/-- `UnixToGps*` is defined from the first entry on. -/
theorem unixToGps_eq (ht : IntType.int64.Holds t) (hfirst : 1136073600 * u.perSecond ≤ t) :
    u.unixToGps t = some (scaledOf (gpsOf leapSeconds.entries) u.perSecond t) := by
  have hpos := u.perSecond_pos
  have hnonneg : 0 ≤ t := by
    have hmul : 0 ≤ 1136073600 * u.perSecond := by omega
    omega
  have hseconds : unixToGpsSeconds .int64 (t / u.perSecond) =
      some (gpsOf leapSeconds.entries (t / u.perSecond)) :=
    unixToGpsIn_eq (ediv_mem_unixTimes hfirst)
      (ht.of_le (Int.ediv_nonneg hnonneg (by omega)) (Int.ediv_le_self _ hnonneg))
  obtain ⟨hgps, -⟩ := gpsOf_bounds hfirst
  obtain ⟨-, hholds⟩ := holds_scaledOf ht hfirst
  cases u with
  | seconds      =>
    rw [show TimeUnit.seconds.perSecond = 1 from rfl, Int.ediv_one] at hseconds
    show unixToGpsSeconds .int64 t = some (scaledOf _ 1 t)
    rw [scaledOf_one, hseconds]
  | microseconds => exact scaled_eq hpos hnonneg hseconds hgps hholds
  | nanoseconds  => exact scaled_eq hpos hnonneg hseconds hgps hholds

/-- `GpsToUnix*` is defined where the newest entry does not overflow. -/
theorem gpsToUnix_eq {g : Int} (hg : 0 ≤ g)
    (hnewest : ty.Holds (g / u.perSecond + leapSeconds.newest.offset))
    (hnonneg : 0 ≤ unixOf leapSeconds.entries (g / u.perSecond))
    (hholds : ty.Holds (scaledOf (unixOf leapSeconds.entries) u.perSecond g)) :
    u.gpsToUnix ty g = some (scaledOf (unixOf leapSeconds.entries) u.perSecond g) := by
  have hpos := u.perSecond_pos
  have hseconds : gpsToUnixSeconds ty (g / u.perSecond) =
      some (unixOf leapSeconds.entries (g / u.perSecond)) :=
    gpsToUnixIn_eq leapSeconds.chain (Int.ediv_nonneg hg (by omega)) hnewest
  cases u with
  | seconds      =>
    rw [show TimeUnit.seconds.perSecond = 1 from rfl, Int.ediv_one] at hseconds
    show gpsToUnixSeconds ty g = some (scaledOf _ 1 g)
    rw [scaledOf_one, hseconds]
  | microseconds => exact scaled_eq hpos hg hseconds hnonneg hholds
  | nanoseconds  => exact scaled_eq hpos hg hseconds hnonneg hholds

/-- **Round trip** of the code, in every unit and overload. -/
theorem gpsToUnix_unixToGps (ht : ty.Holds t) (hfirst : 1136073600 * u.perSecond ≤ t) :
    u.gpsToUnix ty (scaledOf (gpsOf leapSeconds.entries) u.perSecond t) = some t := by
  have hpos := u.perSecond_pos
  have hmem := ediv_mem_unixTimes hfirst
  have hback : unixOf leapSeconds.entries (gpsOf leapSeconds.entries (t / u.perSecond)) =
      t / u.perSecond := leftInvOn_unixOf leapSeconds.chain hmem
  have hseconds := mem_unixTimes_leapSeconds.mp hmem
  obtain ⟨hgps, hle⟩ := gpsOf_bounds hfirst
  obtain ⟨hscaled, -⟩ := holds_scaledOf ht hfirst
  have hoffset := leapSeconds.newest.offset_nonneg
  have hunix : scaledOf (unixOf leapSeconds.entries) u.perSecond
      (scaledOf (gpsOf leapSeconds.entries) u.perSecond t) = t := scaledOf_scaledOf hpos hback
  have hdiv := scaledOf_ediv (f := gpsOf leapSeconds.entries) hpos t
  have hself : t / u.perSecond ≤ t := Int.ediv_le_self _ (by
    have hmul : 0 ≤ 1136073600 * u.perSecond := by omega
    omega)
  rw [gpsToUnix_eq hscaled (by rw [hdiv]; exact ht.of_le (by omega) (by omega))
    (by rw [hdiv, hback]; omega) (by rw [hunix]; exact ht), hunix]

/-- The `uint64_t` overloads take a covered time back as well. -/
theorem gpsToUnix_uint64 {g : Int} (ht : IntType.int64.Holds t)
    (hfirst : 1136073600 * u.perSecond ≤ t) (hg : u.unixToGps t = some g) :
    u.gpsToUnix .uint64 g = some t := by
  have hpos := u.perSecond_pos
  have hlt := ht.2
  have ht' : IntType.uint64.Holds t := ⟨by omega, by omega⟩
  rw [unixToGps_eq ht hfirst, Option.some_inj] at hg
  rw [← hg]
  exact gpsToUnix_unixToGps ht' hfirst

/-- Where `GpsToUnixSeconds` is defined, and what it returns. -/
theorem gpsToUnixSeconds_eq_some {g x : Int} (hfirst : 820108814 ≤ g) :
    gpsToUnixSeconds .int64 g = some x ↔
      IntType.int64.Holds (g + leapSeconds.newest.offset) ∧
        x = unixOf leapSeconds.entries g := by
  by_cases hholds : IntType.int64.Holds (g + leapSeconds.newest.offset)
  · have heq : gpsToUnixSeconds .int64 g = some (unixOf leapSeconds.entries g) :=
      gpsToUnixIn_eq leapSeconds.chain (by omega) hholds
    rw [heq, and_iff_right hholds, Option.some_inj]
    exact eq_comm
  · have hnone : gpsToUnixSeconds .int64 g = none := by
      unfold gpsToUnixSeconds LeapTable.entries
      rw [gpsToUnixIn, show IntType.int64.result (g + (unixGpsDiff -
        leapSeconds.newest.leapSeconds)) = none from if_neg hholds]
      rfl
    rw [hnone]
    exact iff_of_false (by simp) (fun h => hholds h.1)

end units

/-- An entry comes into force one GPS second after its leap second. -/
theorem unixToGpsSeconds_unixTime : ∀ e ∈ leapSeconds.entries,
    unixToGpsSeconds .int64 e.unixTime = some (e.inserted + 1) := by decide

/-- **Conversions**: from the first entry on they are inverse in every unit
    and Unix to GPS time strictly increases; GPS to Unix time does not go
    back, and joins a leap second with its successor only. -/
theorem unix_gps_conversions :
    (∀ (u : TimeUnit) (t : Int), IntType.int64.Holds t → 1136073600 * u.perSecond ≤ t →
      ∃ g, u.unixToGps t = some g ∧ IntType.int64.Holds g ∧ u.gpsToUnix .int64 g = some t) ∧
    (∀ (u : TimeUnit) (a b : Int), IntType.int64.Holds a → IntType.int64.Holds b →
      1136073600 * u.perSecond ≤ a → a < b →
      ∃ x y, u.unixToGps a = some x ∧ u.unixToGps b = some y ∧ x < y) ∧
    ∃ first, unixToGpsSeconds .int64 1136073600 = some first ∧
      (∀ g, IntType.int64.Holds g → first ≤ g →
        ((∃ x, gpsToUnixSeconds .int64 g = some x) ↔
          IntType.int64.Holds (g + leapSeconds.newest.offset))) ∧
      ∀ a b x y, IntType.int64.Holds a → IntType.int64.Holds b → first ≤ a → a < b →
        gpsToUnixSeconds .int64 a = some x → gpsToUnixSeconds .int64 b = some y →
        x ≤ y ∧ (x = y ↔ b = a + 1 ∧ ∃ e ∈ leapSeconds.entries, a = e.inserted) := by
  refine ⟨?_, ?_, 820108814, by decide, ?_, ?_⟩
  · intro u t ht hfirst
    exact ⟨_, unixToGps_eq ht hfirst, (holds_scaledOf ht hfirst).2, gpsToUnix_unixToGps ht hfirst⟩
  · intro u a b ha hb hfirst hab
    have hfirst' : 1136073600 * u.perSecond ≤ b := by omega
    have hseconds := gpsOf_lt_gpsOf leapSeconds.chain (ediv_mem_unixTimes hfirst)
      (ediv_mem_unixTimes hfirst')
    exact ⟨_, _, unixToGps_eq ha hfirst, unixToGps_eq hb hfirst',
      scaledOf_lt_scaledOf u.perSecond_pos hseconds hab⟩
  · intro g hg hfirst
    constructor
    · rintro ⟨x, hx⟩
      exact ((gpsToUnixSeconds_eq_some hfirst).mp hx).1
    · intro hholds
      exact ⟨_, (gpsToUnixSeconds_eq_some hfirst).mpr ⟨hholds, rfl⟩⟩
  · intro a b x y ha hb hfirst hab hx hy
    obtain ⟨-, rfl⟩ := (gpsToUnixSeconds_eq_some hfirst).mp hx
    obtain ⟨-, rfl⟩ := (gpsToUnixSeconds_eq_some (by omega)).mp hy
    exact unixOf_le_unixOf leapSeconds.chain (mem_gpsTimes_leapSeconds.mpr hfirst) hab

/-- At the leap second of 2009, to the microsecond before it and over it. -/
theorem unix_gps_conversions_2009 :
    (∃ g, TimeUnit.microseconds.unixToGps 1230767999999999 = some g ∧ IntType.int64.Holds g ∧
      TimeUnit.microseconds.gpsToUnix .int64 g = some 1230767999999999) ∧
    (∃ x y, TimeUnit.nanoseconds.unixToGps 1230767999999999999 = some x ∧
      TimeUnit.nanoseconds.unixToGps 1230768000000000000 = some y ∧ x < y) ∧
    gpsToUnixSeconds .int64 914803214 = some 1230768000 ∧
    gpsToUnixSeconds .int64 914803215 = some 1230768000 ∧
    ∃ e ∈ leapSeconds.entries, 914803214 = e.inserted := by
  obtain ⟨hround, hmono, first, hfirst, -, hgps⟩ := unix_gps_conversions
  refine ⟨hround _ _ (by decide) (by decide), hmono _ _ _ (by decide) (by decide) (by decide)
    (by decide), by decide, by decide, ?_⟩
  have hle : first ≤ 914803214 := by
    have heq : some first = some 820108814 := hfirst.symm
    rw [Option.some.inj heq]
    decide
  exact ((hgps 914803214 914803215 1230768000 1230768000 (by decide) (by decide) hle (by decide)
    (by decide) (by decide)).2.mp rfl).2

end CyberRT.Common.TimeConversion
