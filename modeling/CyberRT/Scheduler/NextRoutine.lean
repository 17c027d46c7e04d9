import Mathlib.Data.List.TakeWhile
import CyberRT.Croutine.CRoutine
import CyberRT.Scheduler.ClassicContext
import CyberRT.Scheduler.SchedulerChoreography

/-! # The choice of the next routine

    `NextRoutine` of the two policies as one call: it goes through the run
    queue, tries to acquire each routine, updates its state, and returns the
    first one that is ready; the others are released again. The classic
    context goes through its priorities from high to low and notes when the
    next sleeping routine wakes up; the choreography context goes through
    one queue that is kept in the order of the priorities.

    What the call finds is arbitrary: the queues, in which a routine may
    stand more than once, the routines' states, flags, locks and wake times,
    and the readings of the clock, one for each place of the queue.

    Both policies obey one law (`nextRoutine_law`). -/

namespace CyberRT.Scheduler.NextRoutine

open CyberRT.Croutine Function

/-! ## Section 1: Routines -/

/-- What `NextRoutine` looks at: state and update flag, `wake_time_`, and
    `lock_`. -/
structure Routine where
  cr       : CRoutine
  wakeTime : Int
  locked   : Bool
  deriving DecidableEq

namespace Routine

def acquire (r : Routine) : Routine := { r with locked := true }

def release (r : Routine) : Routine := { r with locked := false }

/-- `UpdateState`, when the clock shows `now`. -/
def updateState (r : Routine) (now : Int) : Routine :=
  { r with cr := r.cr.updateState (decide (now > r.wakeTime)) }

end Routine

variable {Rid C : Type} [DecidableEq Rid]

/-! ## Section 2: The scan -/

/-- The loop over a queue, with the number of places passed before. `note`
    is what is done about a routine that is not ready. -/
def scan (now : Nat → Int) (note : C → Routine → C) :
    Nat → List Rid → (Rid → Routine) → C → Option Rid × (Rid → Routine) × C
  | _,   [],        routines, c => (none, routines, c)
  | pos, r :: rest, routines, c =>
    -- another processor runs the routine: `Acquire` fails
    if (routines r).locked then scan now note (pos + 1) rest routines c
    else
      let cr := (routines r).acquire.updateState (now pos)
      if cr.cr.state = .ready then (some r, update routines r cr, c)
      -- released, with what `UpdateState` made of it
      else scan now note (pos + 1) rest (update routines r cr.release) (note c cr)

/-! ## Section 3: The classic context -/

/-- `need_sleep_` and `wake_time_`. -/
structure Sleep where
  needSleep : Bool
  wakeTime  : Int
  deriving DecidableEq

/-- A routine that still sleeps is taken into account. -/
def Sleep.note (c : Sleep) (r : Routine) : Sleep :=
  if r.cr.state = .sleep then
    if c.needSleep = false ∨ c.wakeTime > r.wakeTime then ⟨true, r.wakeTime⟩ else c
  else c

structure ClassicContext (Rid : Type) where
  stop       : Bool
  multiPriRq : Nat → List Rid
  sleep      : Sleep

namespace ClassicContext

/-- The loop over the priorities below `i`, downwards. -/
def scanFrom (now : Nat → Int) (rq : Nat → List Rid) :
    Nat → Nat → (Rid → Routine) → Sleep → Option Rid × (Rid → Routine) × Sleep
  | 0,     _,   routines, c => (none, routines, c)
  | i + 1, pos, routines, c =>
    match scan now Sleep.note pos (rq i) routines c with
    | (some r, routines, c) => (some r, routines, c)
    | (none,   routines, c) => scanFrom now rq i (pos + (rq i).length) routines c

def nextRoutine (now : Nat → Int) (ctx : ClassicContext Rid) (routines : Rid → Routine) :
    Option Rid × (Rid → Routine) × ClassicContext Rid :=
  if ctx.stop then (none, routines, ctx)
  else
    let (ret, routines, sleep) := scanFrom now ctx.multiPriRq maxPrio 0 routines ctx.sleep
    (ret, routines, { ctx with sleep := sleep })

/-- The routines of the priorities below `i` with their priorities, as the
    loop meets them. -/
def entriesBelow (rq : Nat → List Rid) : Nat → List (Nat × Rid)
  | 0     => []
  | i + 1 => (rq i).map (fun r => (i, r)) ++ entriesBelow rq i

def entries (ctx : ClassicContext Rid) : List (Nat × Rid) := entriesBelow ctx.multiPriRq maxPrio

end ClassicContext

/-! ## Section 4: The choreography context -/

/-- The order of `std::greater`. -/
def Decreasing (entries : List (Nat × Rid)) : Prop := entries.Pairwise fun x y => y.1 ≤ x.1

omit [DecidableEq Rid] in
/-- `Enqueue` keeps the order. -/
theorem decreasing_enqueue {ctx : SchedulerChoreography.ChoreographyContext Rid}
    (h : Decreasing ctx.crQueue) (prio : Nat) (r : Rid) :
    Decreasing (ctx.enqueue prio r).crQueue := by
  have hsplit :=
    List.takeWhile_append_dropWhile (p := fun x => decide (prio ≤ x.1)) (l := ctx.crQueue)
  unfold Decreasing at h ⊢
  rw [← hsplit, List.pairwise_append] at h
  obtain ⟨hfront, hback, hcross⟩ := h
  refine List.pairwise_append.mpr ⟨hfront, List.pairwise_cons.mpr ⟨?_, hback⟩, ?_⟩
  · -- the first one behind the new entry has a lower priority
    intro y hy
    cases hdrop : ctx.crQueue.dropWhile fun x => decide (prio ≤ x.1) with
    | nil =>
      rw [hdrop] at hy
      cases hy
    | cons z zs =>
      have hz := List.head?_dropWhile_not (fun x => decide (prio ≤ x.1)) ctx.crQueue
      rw [hdrop] at hy hback hz
      have hlow : z.1 < prio := by simpa using hz
      rcases List.mem_cons.mp hy with rfl | hy
      · exact Nat.le_of_lt hlow
      · exact Nat.le_trans ((List.pairwise_cons.mp hback).1 y hy) (Nat.le_of_lt hlow)
  · intro x hx y hy
    rcases List.mem_cons.mp hy with rfl | hy
    · have hprio := List.mem_takeWhile_imp (p := fun x : Nat × Rid => decide (prio ≤ x.1)) hx
      exact of_decide_eq_true hprio
    · exact hcross x hx y hy

/-- `cr_queue_`, a multimap in the order of decreasing priority. -/
structure CrQueue (Rid : Type) where
  entries    : List (Nat × Rid)
  decreasing : Decreasing entries

/-- `emplace`, behind the entries of the same priority. -/
def CrQueue.emplace (q : CrQueue Rid) (prio : Nat) (r : Rid) : CrQueue Rid where
  entries    :=
    (SchedulerChoreography.ChoreographyContext.enqueue ⟨q.entries, false⟩ prio r).crQueue
  decreasing := decreasing_enqueue q.decreasing prio r

structure ChoreographyContext (Rid : Type) where
  stop     : Bool
  crQueue  : CrQueue Rid
  notified : Bool

namespace ChoreographyContext

def enqueue (ctx : ChoreographyContext Rid) (prio : Nat) (r : Rid) : ChoreographyContext Rid :=
  { ctx with crQueue := ctx.crQueue.emplace prio r }

def nextRoutine (now : Nat → Int) (ctx : ChoreographyContext Rid) (routines : Rid → Routine) :
    Option Rid × (Rid → Routine) × ChoreographyContext Rid :=
  if ctx.stop then (none, routines, ctx)
  else
    match scan now (fun c _ => c) 0 (ctx.crQueue.entries.map Prod.snd) routines () with
    | (some r, routines, _) => (some r, routines, ctx)
    -- `notified_` is cleared only when nothing was found
    | (none,   routines, _) => (none, routines, { ctx with notified := false })

end ChoreographyContext

/-! ## Section 5: The law -/

/-- A routine that nobody has acquired and that `UpdateState` makes ready
    when the clock shows `now`. -/
def Ready (now : Int) (r : Routine) : Prop :=
  r.locked = false ∧ (r.updateState now).cr.state = .ready

/-- No routine of the queue is ready at its place; `pos` places come before
    the queue. -/
def NoneReady (now : Nat → Int) (routines : Rid → Routine) (pos : Nat) (order : List Rid) : Prop :=
  ∀ k r, order[k]? = some r → ¬ Ready (now (pos + k)) (routines r)

/-- What a scan of the queue `order` returns and leaves behind: the first
    routine that is ready, which alone is newly acquired, the routines that
    were not passed being untouched; or nothing, if none is ready. -/
def Picks (now : Nat → Int) (pos : Nat) (order : List Rid) (before after : Rid → Routine) :
    Option Rid → Prop
  | some r =>
    (∃ pre post, order = pre ++ r :: post ∧ NoneReady now before pos pre ∧
      Ready (now (pos + pre.length)) (before r) ∧
      ∀ r', r' ∉ pre → r' ≠ r → after r' = before r') ∧
    (after r).cr.state = .ready ∧
    ∀ r', (after r').locked = (decide (r' = r) || (before r').locked)
  | none => NoneReady now before pos order ∧ ∀ r, (after r).locked = (before r).locked

/-- The law of `NextRoutine`: the queue is in the order of decreasing
    priority, the first routine that is ready is picked, and none is picked
    exactly if none is ready. -/
structure Law (now : Nat → Int) (entries : List (Nat × Rid)) (before after : Rid → Routine)
    (ret : Option Rid) : Prop where
  decreasing : Decreasing entries
  picks      : Picks now 0 (entries.map Prod.snd) before after ret
  none_iff   : ret = none ↔ NoneReady now before 0 (entries.map Prod.snd)

/-- What the classic context knows after an empty scan about the routines
    that still sleep. -/
def SleepNoted (order : List Rid) (before after : Rid → Routine) (c : Sleep) : Prop :=
  ∀ r ∈ order, (before r).locked = false → (after r).cr.state = .sleep →
    c.needSleep = true ∧ c.wakeTime ≤ (after r).wakeTime

/-! ## Section 6: One place -/

/-- Once `UpdateState` has not made a routine ready, it makes it ready later
    exactly if it would have done so without the first attempt. -/
theorem updateState_again (cr : CRoutine) (early late : Bool)
    (h : (cr.updateState early).state ≠ .ready) :
    ((cr.updateState early).updateState late).state = .ready ↔
      (cr.updateState late).state = .ready := by
  obtain ⟨state, updated⟩ := cr
  -- a waiting routine whose flag was consumed is ready already
  cases state <;> cases updated <;> cases early <;> cases late <;>
    first | decide | exact absurd rfl h

/-- A routine that was passed is ready at a later place exactly if it was
    before. -/
theorem ready_passed {r : Routine} {now later : Int} (hlocked : r.locked = false)
    (h : (r.acquire.updateState now).cr.state ≠ .ready) :
    Ready later (r.acquire.updateState now).release ↔ Ready later r := by
  have hagain := updateState_again r.cr (decide (now > r.wakeTime)) (decide (later > r.wakeTime)) h
  constructor
  · rintro ⟨_, hready⟩
    exact ⟨hlocked, hagain.mp hready⟩
  · rintro ⟨_, hready⟩
    exact ⟨rfl, hagain.mpr hready⟩

omit [DecidableEq Rid] in
theorem noneReady_nil (now : Nat → Int) (routines : Rid → Routine) (pos : Nat) :
    NoneReady now routines pos [] := fun k r h => by simp at h

omit [DecidableEq Rid] in
theorem noneReady_cons {now : Nat → Int} {routines : Rid → Routine} {pos : Nat} {r : Rid}
    {order : List Rid} (hhead : ¬ Ready (now pos) (routines r))
    (htail : NoneReady now routines (pos + 1) order) : NoneReady now routines pos (r :: order) := by
  intro k r' hk
  cases k with
  | zero =>
    obtain rfl : r = r' := by simpa using hk
    exact hhead
  | succ k =>
    have hready := htail k r' (by simpa using hk)
    rwa [Nat.add_assoc, Nat.add_comm 1 k] at hready

/-- `NoneReady` does not see that a routine was passed. -/
theorem noneReady_passed {now : Nat → Int} {routines : Rid → Routine} {r : Rid} {t : Int}
    (hlocked : (routines r).locked = false)
    (h : ((routines r).acquire.updateState t).cr.state ≠ .ready) {pos : Nat} {order : List Rid}
    (hnone : NoneReady now
      (update routines r ((routines r).acquire.updateState t).release) pos order) :
    NoneReady now routines pos order := by
  intro k r' hk hready
  refine hnone k r' hk ?_
  by_cases hr : r' = r
  · -- the same routine once more
    subst hr
    rw [update_self]
    exact (ready_passed hlocked h).mpr hready
  · rw [update_of_ne hr]
    exact hready

/-! ## Section 7: The scan -/

section Scan

variable {now : Nat → Int} {note : C → Routine → C} {pos : Nat} {r : Rid} {rest : List Rid}
  {before after : Rid → Routine} {c : C} {ret : Option Rid}

/-- The routine as it is when it is passed. -/
def passed (routines : Rid → Routine) (r : Rid) (t : Int) : Rid → Routine :=
  update routines r ((routines r).acquire.updateState t).release

theorem passed_locked (hlocked : (before r).locked = false) (t : Int) (r' : Rid) :
    (passed before r t r').locked = (before r').locked := by
  unfold passed
  by_cases hr : r' = r
  · subst hr
    rw [update_self, hlocked]
    rfl
  · rw [update_of_ne hr]

theorem passed_of_ne {r' : Rid} (hr : r' ≠ r) (t : Int) : passed before r t r' = before r' :=
  update_of_ne hr _ _

omit [DecidableEq Rid] in
/-- The three things that can happen at a place of the queue. -/
theorem place_cases (routines : Rid → Routine) (r : Rid) (t : Int) :
    (routines r).locked = true ∨ Ready t (routines r) ∨
      ((routines r).locked = false ∧
        ((routines r).acquire.updateState t).cr.state ≠ .ready) := by
  cases hlocked : (routines r).locked with
  | true => exact .inl rfl
  | false =>
    by_cases hready : ((routines r).acquire.updateState t).cr.state = .ready
    · exact .inr (.inl ⟨hlocked, hready⟩)
    · exact .inr (.inr ⟨rfl, hready⟩)

theorem scan_locked (hlocked : (before r).locked = true) :
    scan now note pos (r :: rest) before c = scan now note (pos + 1) rest before c := by
  rw [scan, if_pos hlocked]

theorem scan_ready (hready : Ready (now pos) (before r)) :
    scan now note pos (r :: rest) before c =
      (some r, update before r ((before r).acquire.updateState (now pos)), c) := by
  rw [scan, if_neg (by simp [hready.1])]
  exact if_pos hready.2

theorem scan_passed (hlocked : (before r).locked = false)
    (hnot : ((before r).acquire.updateState (now pos)).cr.state ≠ .ready) :
    scan now note pos (r :: rest) before c =
      scan now note (pos + 1) rest (passed before r (now pos))
        (note c ((before r).acquire.updateState (now pos))) := by
  rw [scan, if_neg (by simp [hlocked])]
  exact if_neg hnot

/-- A routine that another processor has acquired is skipped. -/
theorem Picks.skip (hlocked : (before r).locked = true)
    (h : Picks now (pos + 1) rest before after ret) :
    Picks now pos (r :: rest) before after ret := by
  have hhead : ¬ Ready (now pos) (before r) := fun hready => by simp [hready.1] at hlocked
  cases ret with
  | none => exact ⟨noneReady_cons hhead h.1, h.2⟩
  | some r' =>
    obtain ⟨⟨pre, post, horder, hnone, hready, huntouched⟩, hstate, hlocks⟩ := h
    have horder' : r :: rest = r :: pre ++ r' :: post := by rw [horder, List.cons_append]
    refine ⟨⟨r :: pre, post, horder', noneReady_cons hhead hnone, ?_, ?_⟩, hstate, hlocks⟩
    · rwa [List.length_cons, Nat.add_comm pre.length 1, ← Nat.add_assoc]
    · intro x hx hne
      exact huntouched x (fun hin => hx (List.mem_cons_of_mem r hin)) hne

/-- A routine that is ready is the one. -/
theorem Picks.here (hready : Ready (now pos) (before r)) :
    Picks now pos (r :: rest) before
      (update before r ((before r).acquire.updateState (now pos))) (some r) := by
  refine ⟨⟨[], rest, rfl, noneReady_nil now before pos, hready, ?_⟩, ?_, ?_⟩
  · intro x _ hne
    exact update_of_ne hne _ _
  · rw [update_self]
    exact hready.2
  · intro x
    by_cases hx : x = r
    · subst hx
      rw [update_self]
      simp [Routine.updateState, Routine.acquire]
    · rw [update_of_ne hx]
      simp [hx]

/-- A routine that is not ready is released and passed. -/
theorem Picks.pass (hlocked : (before r).locked = false)
    (hnot : ((before r).acquire.updateState (now pos)).cr.state ≠ .ready)
    (h : Picks now (pos + 1) rest (passed before r (now pos)) after ret) :
    Picks now pos (r :: rest) before after ret := by
  have hhead : ¬ Ready (now pos) (before r) := fun hready => hnot hready.2
  cases ret with
  | none =>
    exact ⟨noneReady_cons hhead (noneReady_passed hlocked hnot h.1),
      fun x => (h.2 x).trans (passed_locked hlocked _ x)⟩
  | some r' =>
    obtain ⟨⟨pre, post, horder, hnone, hready, huntouched⟩, hstate, hlocks⟩ := h
    refine ⟨⟨r :: pre, post, by rw [horder]; rfl,
      noneReady_cons hhead (noneReady_passed hlocked hnot hnone), ?_, ?_⟩, hstate, fun x => ?_⟩
    · rw [List.length_cons, Nat.add_comm pre.length 1, ← Nat.add_assoc]
      by_cases hr : r' = r
      · -- the queue holds the routine twice
        subst hr
        rw [passed, update_self] at hready
        exact (ready_passed hlocked hnot).mp hready
      · rwa [passed_of_ne hr] at hready
    · intro x hx hne
      have hxr : x ≠ r := fun hxr => hx (hxr ▸ List.mem_cons_self)
      rw [huntouched x (fun hin => hx (List.mem_cons_of_mem r hin)) hne, passed_of_ne hxr]
    · rw [hlocks x, passed_locked hlocked]

/-- What a scan does to the routines. -/
theorem scan_picks (now : Nat → Int) (note : C → Routine → C) (pos : Nat) (order : List Rid)
    (before : Rid → Routine) (c : C) :
    Picks now pos order before (scan now note pos order before c).2.1
      (scan now note pos order before c).1 := by
  induction order generalizing pos before c with
  | nil => exact ⟨noneReady_nil now before pos, fun _ => rfl⟩
  | cons r rest ih =>
    rcases place_cases before r (now pos) with hlocked | hready | ⟨hlocked, hnot⟩
    · rw [scan_locked hlocked]
      exact (ih (pos + 1) before c).skip hlocked
    · rw [scan_ready hready]
      exact Picks.here hready
    · rw [scan_passed hlocked hnot]
      exact (ih (pos + 1) _ _).pass hlocked hnot

/-- Nothing is picked exactly if no routine is ready. -/
theorem Picks.none_iff (h : Picks now pos rest before after ret) :
    ret = none ↔ NoneReady now before pos rest := by
  cases ret with
  | none => exact ⟨fun _ => h.1, fun _ => rfl⟩
  | some r' =>
    obtain ⟨⟨pre, post, horder, _, hready, _⟩, _⟩ := h
    refine ⟨fun hno => (nomatch hno), fun hnone => ?_⟩
    exact absurd hready (hnone pre.length r' (by simp [horder]))

theorem Picks.law {entries : List (Nat × Rid)} (hdecreasing : Decreasing entries)
    (h : Picks now 0 (entries.map Prod.snd) before after ret) :
    Law now entries before after ret :=
  ⟨hdecreasing, h, h.none_iff⟩

/-- A scan of two queues, one behind the other. -/
theorem scan_append (now : Nat → Int) (note : C → Routine → C) (pos : Nat) (l l' : List Rid)
    (before : Rid → Routine) (c : C) :
    scan now note pos (l ++ l') before c =
      match scan now note pos l before c with
      | (some r, routines, c) => (some r, routines, c)
      | (none,   routines, c) => scan now note (pos + l.length) l' routines c := by
  induction l generalizing pos before c with
  | nil => rfl
  | cons r l ih =>
    -- both sides do the same at the first place
    have hpos : pos + (r :: l).length = pos + 1 + l.length := by
      rw [List.length_cons]
      omega
    rw [List.cons_append, hpos]
    rcases place_cases before r (now pos) with hlocked | hready | ⟨hlocked, hnot⟩
    · rw [scan_locked hlocked, scan_locked hlocked, ih]
    · rw [scan_ready hready, scan_ready hready]
    · rw [scan_passed hlocked hnot, scan_passed hlocked hnot, ih]

/-- The routines that do not stand in the queue are untouched. -/
theorem scan_untouched {r' : Rid} (hr : r' ∉ rest) :
    (scan now note pos rest before c).2.1 r' = before r' := by
  induction rest generalizing pos before c with
  | nil => rfl
  | cons r rest ih =>
    have hne : r' ≠ r := fun h => hr (h ▸ List.mem_cons_self)
    have hrest : r' ∉ rest := fun h => hr (List.mem_cons_of_mem r h)
    rcases place_cases before r (now pos) with hlocked | hready | ⟨hlocked, hnot⟩
    · rw [scan_locked hlocked, ih hrest]
    · rw [scan_ready hready]
      exact update_of_ne hne _ _
    · rw [scan_passed hlocked hnot, ih hrest, passed_of_ne hne]

end Scan

/-! ## Section 8: The classic context -/

/-- The context knows of a routine that wakes up at `t`. -/
def Sleep.Covers (c : Sleep) (t : Int) : Prop := c.needSleep = true ∧ c.wakeTime ≤ t

theorem Sleep.Covers.note {c : Sleep} {t : Int} (h : c.Covers t) (r : Routine) :
    (c.note r).Covers t := by
  obtain ⟨hneed, hle⟩ := h
  unfold Sleep.note
  split
  · split
    · rename_i hlater
      rcases hlater with hno | hlater
      · rw [hneed] at hno
        cases hno
      · exact ⟨rfl, by simp only; omega⟩
    · exact ⟨hneed, hle⟩
  · exact ⟨hneed, hle⟩

/-- A routine that sleeps is covered once it was noted. -/
theorem Sleep.covers_note (c : Sleep) {r : Routine} (hr : r.cr.state = .sleep) :
    (c.note r).Covers r.wakeTime := by
  unfold Sleep.note
  rw [if_pos hr]
  split
  · exact ⟨rfl, Int.le_refl _⟩
  · rename_i hnot
    rw [not_or, Bool.not_eq_false] at hnot
    exact ⟨hnot.1, by omega⟩

theorem scan_covers {now : Nat → Int} {pos : Nat} {order : List Rid} {before : Rid → Routine}
    {c : Sleep} {t : Int} (h : c.Covers t) :
    (scan now Sleep.note pos order before c).2.2.Covers t := by
  induction order generalizing pos before c with
  | nil => exact h
  | cons r rest ih =>
    rcases place_cases before r (now pos) with hlocked | hready | ⟨hlocked, hnot⟩
    · rw [scan_locked hlocked]
      exact ih h
    · rw [scan_ready hready]
      exact h
    · rw [scan_passed hlocked hnot]
      exact ih (h.note _)

/-- A scan that finds nothing notes all routines that still sleep. -/
theorem scan_sleepNoted (now : Nat → Int) (pos : Nat) (order : List Rid) (before : Rid → Routine)
    (c : Sleep) (hnone : (scan now Sleep.note pos order before c).1 = none) :
    SleepNoted order before (scan now Sleep.note pos order before c).2.1
      (scan now Sleep.note pos order before c).2.2 := by
  induction order generalizing pos before c with
  | nil =>
    intro r hr
    cases hr
  | cons r rest ih =>
    intro r' hin hfree hsleep
    rcases place_cases before r (now pos) with hlocked | hready | ⟨hlocked, hnot⟩
    · -- the routine in question was free, so it is another one
      rw [scan_locked hlocked] at hnone hsleep ⊢
      have hne : r' ≠ r := fun h => by
        rw [h, hlocked] at hfree
        cases hfree
      exact ih (pos + 1) before c hnone r' (List.mem_of_ne_of_mem hne hin) hfree hsleep
    · rw [scan_ready hready] at hnone
      cases hnone
    · rw [scan_passed hlocked hnot] at hnone hsleep ⊢
      by_cases hrest : r' ∈ rest
      · -- what it was noted with before does not matter
        exact ih (pos + 1) _ _ hnone r' hrest ((passed_locked hlocked _ r').trans hfree) hsleep
      · -- this was the last place of the routine
        obtain rfl : r' = r := (List.mem_cons.mp hin).resolve_right hrest
        rw [scan_untouched hrest] at hsleep ⊢
        rw [passed, update_self] at hsleep ⊢
        exact scan_covers (Sleep.covers_note c hsleep)

namespace ClassicContext

/-- The loop over the priorities is a scan of all queues. -/
theorem scanFrom_eq (now : Nat → Int) (rq : Nat → List Rid) (i pos : Nat)
    (before : Rid → Routine) (c : Sleep) :
    scanFrom now rq i pos before c =
      scan now Sleep.note pos ((entriesBelow rq i).map Prod.snd) before c := by
  induction i generalizing pos before c with
  | zero => rfl
  | succ i ih =>
    have hentries : (entriesBelow rq (i + 1)).map Prod.snd =
        rq i ++ (entriesBelow rq i).map Prod.snd := by
      simp [entriesBelow, comp_def]
    rw [hentries, scan_append, scanFrom]
    cases hscan : scan now Sleep.note pos (rq i) before c with
    | mk ret rest =>
      obtain ⟨routines, c'⟩ := rest
      cases ret with
      | none   => exact ih _ _ _
      | some r => rfl

omit [DecidableEq Rid] in
theorem entriesBelow_lt (rq : Nat → List Rid) (i : Nat) :
    ∀ x ∈ entriesBelow rq i, x.1 < i := by
  induction i with
  | zero =>
    intro x hx
    cases hx
  | succ i ih =>
    intro x hx
    rcases List.mem_append.mp hx with hx | hx
    · obtain ⟨r, _, rfl⟩ := List.mem_map.mp hx
      exact Nat.lt_succ_self i
    · exact Nat.lt_succ_of_lt (ih x hx)

omit [DecidableEq Rid] in
/-- The queues are met in the order of decreasing priority. -/
theorem entriesBelow_decreasing (rq : Nat → List Rid) (i : Nat) :
    Decreasing (entriesBelow rq i) := by
  induction i with
  | zero => exact .nil
  | succ i ih =>
    -- one priority in front of all lower ones
    refine List.pairwise_append.mpr ⟨?_, ih, fun x hx y hy => ?_⟩
    · exact List.pairwise_map.mpr (List.pairwise_of_forall fun _ _ => Nat.le_refl i)
    · obtain ⟨r, _, rfl⟩ := List.mem_map.mp hx
      exact Nat.le_of_lt (entriesBelow_lt rq i y hy)

theorem law_nextRoutine (now : Nat → Int) (ctx : ClassicContext Rid) (before : Rid → Routine)
    (hstop : ctx.stop = false) :
    Law now ctx.entries before (ctx.nextRoutine now before).2.1 (ctx.nextRoutine now before).1 ∧
      ((ctx.nextRoutine now before).1 = none →
        SleepNoted (ctx.entries.map Prod.snd) before (ctx.nextRoutine now before).2.1
          (ctx.nextRoutine now before).2.2.sleep) := by
  have heq : ctx.nextRoutine now before =
      ((scan now Sleep.note 0 (ctx.entries.map Prod.snd) before ctx.sleep).1,
        (scan now Sleep.note 0 (ctx.entries.map Prod.snd) before ctx.sleep).2.1,
        { ctx with
          sleep := (scan now Sleep.note 0 (ctx.entries.map Prod.snd) before ctx.sleep).2.2 }) := by
    unfold nextRoutine
    rw [if_neg (by simp [hstop]), scanFrom_eq]
    rfl
  rw [heq]
  exact ⟨(scan_picks _ _ _ _ _ _).law (entriesBelow_decreasing _ _), scan_sleepNoted _ _ _ _ _⟩

end ClassicContext

/-! ## Section 9: The choreography context -/

namespace ChoreographyContext

theorem law_nextRoutine (now : Nat → Int) (ctx : ChoreographyContext Rid) (before : Rid → Routine)
    (hstop : ctx.stop = false) :
    Law now ctx.crQueue.entries before (ctx.nextRoutine now before).2.1
      (ctx.nextRoutine now before).1 := by
  have hpicks :=
    scan_picks now (fun (c : Unit) _ => c) 0 (ctx.crQueue.entries.map Prod.snd) before ()
  unfold nextRoutine
  rw [if_neg (by simp [hstop])]
  cases hscan : scan now (fun (c : Unit) _ => c) 0 (ctx.crQueue.entries.map Prod.snd) before () with
  | mk ret rest =>
    rw [hscan] at hpicks
    cases ret with
    | none   => exact hpicks.law ctx.crQueue.decreasing
    | some r => exact hpicks.law ctx.crQueue.decreasing

end ChoreographyContext

/-! ## Section 10: Both policies -/

/-- `NextRoutine` of either policy, on any queues and any routines: the
    first routine in the order of priorities that nobody has acquired and
    that becomes ready is returned, and alone left acquired; nothing is
    returned exactly if there is none, and then the classic context knows
    when the first of the sleeping routines wakes up. -/
theorem nextRoutine_law (now : Nat → Int) (before : Rid → Routine) (classic : ClassicContext Rid)
    (choreography : ChoreographyContext Rid) (hclassic : classic.stop = false)
    (hchoreography : choreography.stop = false) :
    (Law now classic.entries before (classic.nextRoutine now before).2.1
        (classic.nextRoutine now before).1 ∧
      ((classic.nextRoutine now before).1 = none →
        SleepNoted (classic.entries.map Prod.snd) before (classic.nextRoutine now before).2.1
          (classic.nextRoutine now before).2.2.sleep)) ∧
    Law now choreography.crQueue.entries before (choreography.nextRoutine now before).2.1
      (choreography.nextRoutine now before).1 :=
  ⟨classic.law_nextRoutine now before hclassic,
    choreography.law_nextRoutine now before hchoreography⟩

/-- A routine that sleeps until 5, one that has data, and one that another
    processor has acquired. -/
def threeRoutines : Nat → Routine
  | 0 => ⟨⟨.sleep, true⟩, 5, false⟩
  | 1 => ⟨⟨.dataWait, false⟩, 0, false⟩
  | _ => ⟨⟨.ready, true⟩, 0, true⟩

def classicQueues : ClassicContext Nat :=
  ⟨false, fun i => if i = 5 then [2, 0] else if i = 3 then [1] else [], ⟨false, 0⟩⟩

def choreographyQueue : ChoreographyContext Nat :=
  ((⟨false, ⟨[], .nil⟩, true⟩ : ChoreographyContext Nat).enqueue 5 0).enqueue 7 2

theorem nextRoutine_law_example :
    ((classicQueues.nextRoutine (fun _ => 3) threeRoutines).1 = some 1 ∧
      (choreographyQueue.nextRoutine (fun _ => 3) threeRoutines).1 = none) ∧
    (Law (fun _ => 3) classicQueues.entries threeRoutines
        (classicQueues.nextRoutine (fun _ => 3) threeRoutines).2.1
        (classicQueues.nextRoutine (fun _ => 3) threeRoutines).1 ∧
      ((classicQueues.nextRoutine (fun _ => 3) threeRoutines).1 = none →
        SleepNoted (classicQueues.entries.map Prod.snd) threeRoutines
          (classicQueues.nextRoutine (fun _ => 3) threeRoutines).2.1
          (classicQueues.nextRoutine (fun _ => 3) threeRoutines).2.2.sleep)) ∧
    Law (fun _ => 3) choreographyQueue.crQueue.entries threeRoutines
      (choreographyQueue.nextRoutine (fun _ => 3) threeRoutines).2.1
      (choreographyQueue.nextRoutine (fun _ => 3) threeRoutines).1 :=
  ⟨⟨by decide, by decide⟩,
    nextRoutine_law (fun _ => 3) threeRoutines classicQueues choreographyQueue rfl rfl⟩

end CyberRT.Scheduler.NextRoutine
