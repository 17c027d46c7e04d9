import CyberRT.Croutine.CRoutine
import CyberRT.Croutine.RoutineContext
import CyberRT.Framework.System

/-! # Resuming and yielding

    Any number of threads resume any number of routines and yield from them,
    each time through `ctx_swap` on the memory they share.

    * A routine is constructed on a context of the pool, and the context may
      be used for another one after it is destroyed.
    * A routine runs on one thread at a time (`Acquire`), not always on the
      same. The gates ask for that, and for room on the stack that a call of
      `ctx_swap` leaves.
    * Between the switches a thread does what it likes to its registers and
      to the memory, but for the saved frames and the cells of those that
      are suspended.

    A switch is one step: it works on the stack of the caller and on two
    cells, which no other thread uses meanwhile.

    Shown: who is switched to goes on where he left (`resume_goesOn`,
    `yield_goesOn`), and a routine whose function has returned is switched to
    no more. `CRoutineEntry` would have nowhere to return to. -/

namespace CyberRT.Croutine.ContextSwitches

open CyberRT.Framework

/-! ## Section 1: State -/

/-- Who a stack belongs to: a thread outside all routines, or a routine. -/
inductive Party (Tid Rid : Type) where
  | main (t : Tid)
  | routine (r : Rid)
  deriving DecidableEq

/-- Stacks and cells for all of them; a routine's are in its context. -/
structure Layout (Tid Rid : Type) extends Stacks (Party Tid Rid) where
  size_routine : ∀ r, size (.routine r) = stackSize
  cell_routine : ∀ r, cell (.routine r) = stack (.routine r) + BitVec.ofNat 64 stackSize

/-- The memory, the registers of each thread, `current_routine_` of each
    thread and the routine on each context. History: where each suspended
    party left (`left`), and whether the function of a routine has returned
    (`returned`). -/
structure State (Reg Tid Rid : Type) where
  mem       : AddressSpace
  regs      : Tid → Reg → BitVec 64
  current   : Tid → Option Rid
  routines  : Rid → Option CRoutine
  forceStop : Rid → Bool
  left      : Party Tid Rid → Option Continuation
  returned  : Rid → Bool

inductive Label (Reg Tid Rid : Type) where
  /-- `CRoutine(func)` at the address `this` -/
  | construct (r : Rid) (this : BitVec 64)
  /-- `~CRoutine` -/
  | destroy (r : Rid)
  /-- `Resume`, up to the switch -/
  | resume (t : Tid) (r : Rid)
  /-- `Resume` of a routine that was stopped -/
  | resumeStopped (r : Rid)
  /-- The switch of `Yield`, and the end of `Resume` -/
  | yield (t : Tid)
  /-- `set_state` by the routine itself, as in `Yield(state)` -/
  | setState (t : Tid) (state : RoutineState)
  /-- `func_` returns to `CRoutineEntry`: `Yield(FINISHED)` begins -/
  | funcReturns (t : Tid)
  /-- Any other code of a thread -/
  | work (t : Tid) (regs : Reg → BitVec 64) (mem : AddressSpace)
  | updateState (r : Rid) (expired : Bool)
  | setUpdateFlag (r : Rid)
  /-- `Stop` -/
  | stop (r : Rid)

section system
variable {Reg Tid Rid : Type} [DecidableEq Tid] [DecidableEq Rid]

namespace State

/-- What thread `t` executes on. -/
def machine (s : State Reg Tid Rid) (t : Tid) : Machine Reg := ⟨s.regs t, s.mem⟩

/-- No thread executes on the stack of `p`, though it is one in use. -/
def Suspended (s : State Reg Tid Rid) : Party Tid Rid → Prop
  | .main t    => s.current t ≠ none
  | .routine r => s.routines r ≠ none ∧ ∀ t, s.current t ≠ some r

/-- `f` is applied to the routine on `r`. -/
def modify (s : State Reg Tid Rid) (r : Rid) (f : CRoutine → CRoutine) : State Reg Tid Rid :=
  { s with routines := Function.update s.routines r ((s.routines r).map f) }

/-- `ctx_swap` by thread `t`: `p` leaves and `q` comes. -/
def swap (arch : Arch Reg) (s : State Reg Tid Rid) (t : Tid) (p q : Party Tid Rid)
    (current : Option Rid) : State Reg Tid Rid :=
  { s with
    mem     := (arch.switch.code (s.machine t)).mem
    regs    := Function.update s.regs t (arch.switch.code (s.machine t)).regs
    current := Function.update s.current t current
    left    := Function.update (Function.update s.left q none) p
      (some (arch.switch.caller (s.machine t))) }

end State

/-- The routines of a process. `entry` is the address of `CRoutineEntry`. -/
def routines (arch : Arch Reg) (layout : Layout Tid Rid) (entry : BitVec 64) :
    System (State Reg Tid Rid) (Label Reg Tid Rid) where
  init := fun s =>
    (∀ t, s.current t = none) ∧ (∀ r, s.routines r = none) ∧ ∀ p, s.left p = none
  action
    | .construct r this =>
      { gate   := fun s => s.routines r = none
        effect := fun s =>
          { s with
            mem       := makeContext arch s.mem entry this (layout.stack (.routine r))
            routines  := Function.update s.routines r (some .new)
            forceStop := Function.update s.forceStop r false
            returned  := Function.update s.returned r false
            left      := Function.update s.left (.routine r)
              (some (freshContinuation arch entry this (layout.stack (.routine r)))) } }
    | .destroy r =>
      { gate   := fun s => ∀ t, s.current t ≠ some r
        effect := fun s =>
          { s with
            routines := Function.update s.routines r none
            left     := Function.update s.left (.routine r) none } }
    | .resume t r =>
      { gate   := fun s => s.current t = none ∧ (∀ t', s.current t' ≠ some r) ∧
          (∃ cr, s.routines r = some cr ∧ cr.state = .ready) ∧ s.forceStop r = false ∧
          Calls arch.switch layout.toStacks (s.machine t) (.main t) (.routine r)
        effect := fun s => s.swap arch t (.main t) (.routine r) (some r) }
    | .resumeStopped r =>
      { gate   := fun s => s.forceStop r = true ∧ ∀ t, s.current t ≠ some r
        effect := fun s => s.modify r (·.setState .finished) }
    | .yield t =>
      { gate   := fun s => ∃ r, s.current t = some r ∧
          Calls arch.switch layout.toStacks (s.machine t) (.routine r) (.main t)
        effect := fun s =>
          match s.current t with
          | some r => s.swap arch t (.routine r) (.main t) none
          | none   => s }
    | .setState t state =>
      { gate   := fun s => ∃ r, s.current t = some r ∧ s.returned r = false
        effect := fun s =>
          match s.current t with
          | some r => s.modify r (·.setState state)
          | none   => s }
    | .funcReturns t =>
      { gate   := fun s => ∃ r, s.current t = some r ∧ s.returned r = false
        effect := fun s =>
          match s.current t with
          | some r =>
            { s.modify r (·.setState .finished) with
              returned := Function.update s.returned r true }
          | none   => s }
    | .work t regs mem =>
      { gate   := fun s => ∀ p, s.Suspended p → Spared arch.switch layout.toStacks s.mem mem p
        effect := fun s => { s with mem := mem, regs := Function.update s.regs t regs } }
    | .updateState r expired =>
      { gate   := fun _ => True
        effect := fun s => s.modify r (·.updateState expired) }
    | .setUpdateFlag r =>
      { gate   := fun _ => True
        effect := fun s => s.modify r CRoutine.setUpdateFlag }
    | .stop r =>
      { gate   := fun _ => True
        effect := fun s => { s with forceStop := Function.update s.forceStop r true } }

/-! ## Section 2: What is suspended goes on where it left -/

section suspended
variable {arch : Arch Reg} {layout : Layout Tid Rid} {entry : BitVec 64}
  {s : State Reg Tid Rid} {p : Party Tid Rid} {t : Tid} {r : Rid}

/-- A suspended party has a frame that holds where it left. -/
def Kept (arch : Arch Reg) (layout : Layout Tid Rid) (s : State Reg Tid Rid)
    (p : Party Tid Rid) : Prop :=
  ∃ k, s.left p = some k ∧ Left arch.switch layout.toStacks s.mem p k

/-- What holds in every reachable state. -/
structure Inv (arch : Arch Reg) (layout : Layout Tid Rid) (s : State Reg Tid Rid) : Prop where
  kept      : ∀ p, s.Suspended p → Kept arch layout s p
  inUse     : ∀ t r, s.current t = some r → s.routines r ≠ none
  oneThread : ∀ t t' r, s.current t = some r → s.current t' = some r → t = t'

omit [DecidableEq Tid] [DecidableEq Rid] in
/-- A step that leaves the stacks alone. -/
theorem Inv.frame (h : Inv arch layout s) {s' : State Reg Tid Rid} (hmem : s'.mem = s.mem)
    (hcurrent : s'.current = s.current) (hleft : s'.left = s.left)
    (hroutines : ∀ r, s'.routines r ≠ none ↔ s.routines r ≠ none) : Inv arch layout s' where
  kept      := by
    intro p hp
    have hp' : s.Suspended p := by
      cases p with
      | main t    =>
        have hin : s'.current t ≠ none := hp
        rwa [hcurrent] at hin
      | routine r =>
        obtain ⟨hr, hnobody⟩ := hp
        rw [hcurrent] at hnobody
        exact ⟨(hroutines r).mp hr, hnobody⟩
    obtain ⟨k, hk, hstack⟩ := h.kept p hp'
    exact ⟨k, by rw [hleft]; exact hk, by rw [hmem]; exact hstack⟩
  inUse     := by
    intro t r htr
    rw [hcurrent] at htr
    exact (hroutines r).mpr (h.inUse t r htr)
  oneThread := by
    rw [hcurrent]
    exact h.oneThread

omit [DecidableEq Tid] [DecidableEq Rid] in
theorem main_ne_routine (t : Tid) (r : Rid) : Party.main t ≠ Party.routine r := by
  intro h
  cases h

omit [DecidableEq Tid] in
theorem modify_routines (s : State Reg Tid Rid) (r r' : Rid) (f : CRoutine → CRoutine) :
    (s.modify r f).routines r' ≠ none ↔ s.routines r' ≠ none := by
  by_cases hr : r' = r
  · subst hr
    simp only [State.modify, Function.update_self, ne_eq, Option.map_eq_none_iff]
  · simp only [State.modify, Function.update_of_ne hr]

omit [DecidableEq Tid] in
theorem Inv.modify (h : Inv arch layout s) (r : Rid) (f : CRoutine → CRoutine) :
    Inv arch layout (s.modify r f) :=
  h.frame rfl rfl rfl (modify_routines s r · f)

/-- **Switch**: `p`, on which thread `t` executes, hands over to `q`. -/
theorem Inv.swap (h : Inv arch layout s) {q : Party Tid Rid} {current : Option Rid} (hpq : p ≠ q)
    (hq : s.Suspended q) (hcalls : Calls arch.switch layout.toStacks (s.machine t) p q)
    (hothers : ∀ p', p' ≠ p → (s.swap arch t p q current).Suspended p' → p' ≠ q ∧ s.Suspended p')
    (hinUse : ∀ r, current = some r → s.routines r ≠ none)
    (halone : ∀ r, current = some r → ∀ t', s.current t' ≠ some r) :
    Inv arch layout (s.swap arch t p q current) where
  kept      := by
    intro p' hp'
    obtain ⟨k, hk, hleft⟩ := h.kept q hq
    by_cases hp : p' = p
    · subst hp
      exact ⟨_, Function.update_self .., hcalls.left arch.lawful hpq hleft⟩
    · obtain ⟨hne, hsuspended⟩ := hothers p' hp hp'
      obtain ⟨k', hk', hleft'⟩ := h.kept p' hsuspended
      refine ⟨k', ?_, hcalls.others arch.lawful hpq hleft hp hleft'⟩
      exact (Function.update_of_ne hp ..).trans ((Function.update_of_ne hne ..).trans hk')
  inUse     := by
    intro t' r htr
    rcases update_cases htr with ⟨-, hcurrent⟩ | ⟨-, hbefore⟩
    · exact hinUse r hcurrent
    · exact h.inUse t' r hbefore
  oneThread := by
    intro t₁ t₂ r h₁ h₂
    rcases update_cases h₁ with ⟨ht₁, hc₁⟩ | ⟨-, hb₁⟩
    · rcases update_cases h₂ with ⟨ht₂, -⟩ | ⟨-, hb₂⟩
      · rw [ht₁, ht₂]
      · exact absurd hb₂ (halone r hc₁ t₂)
    · rcases update_cases h₂ with ⟨-, hc₂⟩ | ⟨-, hb₂⟩
      · exact absurd hb₁ (halone r hc₂ t₁)
      · exact h.oneThread t₁ t₂ r hb₁ hb₂

/-- The switch of `Resume`. -/
theorem Inv.resume (h : Inv arch layout s) (hmain : s.current t = none)
    (hfree : ∀ t', s.current t' ≠ some r) (hr : s.routines r ≠ none)
    (hcalls : Calls arch.switch layout.toStacks (s.machine t) (.main t) (.routine r)) :
    Inv arch layout (s.swap arch t (.main t) (.routine r) (some r)) := by
  refine h.swap (main_ne_routine t r) ⟨hr, hfree⟩ hcalls ?_ ?_ ?_
  · intro p' hp' hsuspended
    cases p' with
    | main t' =>
      have ht : t' ≠ t := fun he => hp' (congrArg Party.main he)
      refine ⟨main_ne_routine t' r, ?_⟩
      have hstays : (Function.update s.current t (some r)) t' ≠ none := hsuspended
      rwa [Function.update_of_ne ht] at hstays
    | routine r' =>
      obtain ⟨hr', hnobody⟩ := hsuspended
      have hrr : r' ≠ r := by
        rintro rfl
        exact hnobody t (Function.update_self ..)
      refine ⟨fun he => hrr (Party.routine.inj he), hr', fun t' ht' => ?_⟩
      by_cases ht : t' = t
      · rw [ht, hmain] at ht'
        cases ht'
      · exact hnobody t' ((Function.update_of_ne ht ..).trans ht')
  · rintro r' ⟨⟩
    exact hr
  · rintro r' ⟨⟩
    exact hfree

/-- The switch of `Yield`. -/
theorem Inv.yield (h : Inv arch layout s) (hcurrent : s.current t = some r)
    (hcalls : Calls arch.switch layout.toStacks (s.machine t) (.routine r) (.main t)) :
    Inv arch layout (s.swap arch t (.routine r) (.main t) none) := by
  have hin : s.Suspended (.main t) := by
    show s.current t ≠ none
    rw [hcurrent]
    exact Option.some_ne_none r
  refine h.swap (main_ne_routine t r).symm hin hcalls ?_ ?_ ?_
  · intro p' hp' hsuspended
    cases p' with
    | main t' =>
      have hstays : (Function.update s.current t none) t' ≠ none := hsuspended
      have ht : t' ≠ t := by
        rintro rfl
        exact hstays (Function.update_self ..)
      rw [Function.update_of_ne ht] at hstays
      exact ⟨fun he => ht (Party.main.inj he), hstays⟩
    | routine r' =>
      obtain ⟨hr', hnobody⟩ := hsuspended
      refine ⟨(main_ne_routine t r').symm, hr', fun t' ht' => ?_⟩
      by_cases ht : t' = t
      · rw [ht, hcurrent] at ht'
        exact hp' (congrArg Party.routine (Option.some.inj ht').symm)
      · exact hnobody t' ((Function.update_of_ne ht ..).trans ht')
  · rintro r' ⟨⟩
  · rintro r' ⟨⟩

/-- `MakeContext` for a routine that is not in use yet. -/
theorem Inv.construct (h : Inv arch layout s) (hr : s.routines r = none) (this : BitVec 64) :
    Inv arch layout (((routines arch layout entry).action (.construct r this)).effect s) := by
  have hnobody : ∀ t, s.current t ≠ some r := fun t ht => h.inUse t r ht hr
  have hcell := layout.cell_routine r
  have hstacks : ∀ p', p' ≠ .routine r → Apart (layout.stack (.routine r)) stackSize
      (layout.stack p') (layout.size p') := by
    intro p' hp'
    rw [← layout.size_routine r]
    exact layout.stacks_apart _ _ hp'.symm
  have hcells : ∀ p', Apart (layout.stack (.routine r)) stackSize (layout.cell p') 8 := by
    intro p'
    rw [← layout.size_routine r]
    exact layout.stack_cell _ _
  refine ⟨?_, ?_, h.oneThread⟩
  · intro p' hp'
    by_cases hp : p' = .routine r
    · subst hp
      exact ⟨_, Function.update_self .., left_makeContext rfl (layout.size_routine r) hcell⟩
    · have hbefore : s.Suspended p' := by
        cases p' with
        | main t     => exact hp'
        | routine r' =>
          obtain ⟨hr', hothers⟩ := hp'
          have hne : r' ≠ r := fun he => hp (congrArg Party.routine he)
          exact ⟨by rwa [← Function.update_of_ne hne (some CRoutine.new) s.routines], hothers⟩
      obtain ⟨k, hk, hleft⟩ := h.kept p' hbefore
      refine ⟨k, (Function.update_of_ne hp ..).trans hk, hleft.stays arch.lawful ⟨?_, ?_⟩⟩
      · refine same_makeContext (hcells p') ?_
        rw [← hcell]
        exact layout.cells_apart _ _ (Ne.symm hp)
      · refine same_makeContext ((hstacks p' hp).inside_right hleft.onStack) ?_
        rw [← hcell]
        exact (layout.stack_cell p' (.routine r)).symm.inside_right hleft.onStack
  · intro t r' htr
    by_cases hne : r' = r
    · exact absurd htr (hne ▸ hnobody t)
    · exact fun hnone => h.inUse t r' htr ((Function.update_of_ne hne ..).symm.trans hnone)

/-- Destroying a routine that does not run. -/
theorem Inv.destroy (h : Inv arch layout s) (hnobody : ∀ t, s.current t ≠ some r) :
    Inv arch layout (((routines arch layout entry).action (.destroy r)).effect s) := by
  have hne : ∀ r', (Function.update s.routines r none) r' ≠ none → r' ≠ r := by
    rintro r' hr' rfl
    exact hr' (Function.update_self ..)
  refine ⟨?_, ?_, h.oneThread⟩
  · intro p' hp'
    have hbefore : p' ≠ .routine r ∧ s.Suspended p' := by
      cases p' with
      | main t     => exact ⟨main_ne_routine t r, hp'⟩
      | routine r' =>
        obtain ⟨hr', hothers⟩ := hp'
        refine ⟨fun he => hne r' hr' (Party.routine.inj he), ?_, hothers⟩
        rwa [← Function.update_of_ne (hne r' hr') none s.routines]
    obtain ⟨k, hk, hleft⟩ := h.kept p' hbefore.2
    exact ⟨k, (Function.update_of_ne hbefore.1 ..).trans hk, hleft⟩
  · intro t r' htr
    have hr' : r' ≠ r := fun he => hnobody t (he ▸ htr)
    exact fun hnone => h.inUse t r' htr ((Function.update_of_ne hr' ..).symm.trans hnone)

theorem Inv.step (h : Inv arch layout s) (a : Label Reg Tid Rid)
    (hgate : ((routines arch layout entry).action a).gate s) :
    Inv arch layout (((routines arch layout entry).action a).effect s) := by
  cases a with
  | construct r this => exact h.construct hgate this
  | destroy r => exact h.destroy hgate
  | resume t r =>
    obtain ⟨hmain, hfree, ⟨cr, hcr, -⟩, -, hcalls⟩ := hgate
    exact h.resume hmain hfree (by rw [hcr]; exact Option.some_ne_none cr) hcalls
  | resumeStopped r => exact h.modify r _
  | yield t =>
    obtain ⟨r, hcurrent, hcalls⟩ := hgate
    have heffect : ((routines arch layout entry).action (.yield t)).effect s =
        s.swap arch t (.routine r) (.main t) none := by simp only [routines, hcurrent]
    rw [heffect]
    exact h.yield hcurrent hcalls
  | setState t state =>
    obtain ⟨r, hcurrent, -⟩ := hgate
    have heffect : ((routines arch layout entry).action (.setState t state)).effect s =
        s.modify r (·.setState state) := by simp only [routines, hcurrent]
    rw [heffect]
    exact h.modify r _
  | funcReturns t =>
    obtain ⟨r, hcurrent, -⟩ := hgate
    have heffect : ((routines arch layout entry).action (.funcReturns t)).effect s =
        { s.modify r (·.setState .finished) with
          returned := Function.update s.returned r true } := by simp only [routines, hcurrent]
    rw [heffect]
    exact (h.modify r (·.setState .finished)).frame rfl rfl rfl fun _ => Iff.rfl
  | work t regs mem =>
    refine ⟨fun p hp => ?_, h.inUse, h.oneThread⟩
    obtain ⟨k, hk, hleft⟩ := h.kept p hp
    exact ⟨k, hk, hleft.stays arch.lawful (hgate p hp)⟩
  | updateState r expired => exact h.modify r _
  | setUpdateFlag r => exact h.modify r _
  | stop r => exact h.frame rfl rfl rfl fun _ => Iff.rfl

theorem inv_reachable (h : (routines arch layout entry).Reachable s) : Inv arch layout s := by
  refine System.invariant (fun s hs => ?_) (fun s a hi hg => hi.step a hg) h
  obtain ⟨hcurrent, hroutines, -⟩ := hs
  refine ⟨?_, fun t r htr => ?_, fun t t' r htr => ?_⟩
  · intro p hp
    cases p with
    | main t    => exact absurd (hcurrent t) hp
    | routine r => exact absurd (hroutines r) hp.1
  · rw [hcurrent t] at htr
    cases htr
  · rw [hcurrent t] at htr
    cases htr

end suspended

/-! ## Section 3: A function that has returned -/

section returned
variable {arch : Arch Reg} {layout : Layout Tid Rid} {entry : BitVec 64}
  {s : State Reg Tid Rid}

/-- A routine whose function has returned is `FINISHED`. -/
def ReturnedFinished (s : State Reg Tid Rid) : Prop :=
  ∀ r cr, s.routines r = some cr → s.returned r = true → cr.state = .finished

theorem updateState_finished {cr : CRoutine} (h : cr.state = .finished) (expired : Bool) :
    (cr.updateState expired).state = .finished := by
  obtain ⟨state, updated⟩ := cr
  cases h
  cases updated <;> rfl

omit [DecidableEq Tid] in
/-- What happens to a single routine. -/
theorem ReturnedFinished.modify (h : ReturnedFinished s) {r : Rid} {f : CRoutine → CRoutine}
    (hf : s.returned r = true → ∀ cr, cr.state = .finished → (f cr).state = .finished) :
    ReturnedFinished (s.modify r f) := by
  intro r' cr' hcr' hreturned
  by_cases hr : r' = r
  · subst hr
    simp only [State.modify, Function.update_self, Option.map_eq_some_iff] at hcr'
    obtain ⟨cr, hcr, rfl⟩ := hcr'
    exact hf hreturned cr (h r' cr hcr hreturned)
  · simp only [State.modify, Function.update_of_ne hr] at hcr'
    exact h r' cr' hcr' hreturned

omit [DecidableEq Tid] in
theorem ReturnedFinished.funcReturns (h : ReturnedFinished s) (r : Rid) :
    ReturnedFinished { s.modify r (·.setState .finished) with
      returned := Function.update s.returned r true } := by
  intro r' cr' hcr' hreturned
  by_cases hr : r' = r
  · subst hr
    simp only [State.modify, Function.update_self, Option.map_eq_some_iff] at hcr'
    obtain ⟨cr, -, rfl⟩ := hcr'
    rfl
  · simp only [State.modify, Function.update_of_ne hr] at hcr' hreturned
    exact h r' cr' hcr' hreturned

theorem returnedFinished_step (s : State Reg Tid Rid) (a : Label Reg Tid Rid)
    (h : ReturnedFinished s) (hgate : ((routines arch layout entry).action a).gate s) :
    ReturnedFinished (((routines arch layout entry).action a).effect s) := by
  cases a with
  | construct r this =>
    intro r' cr hcr hreturned
    by_cases hr : r' = r
    · subst hr
      simp only [routines, Function.update_self] at hreturned
      cases hreturned
    · simp only [routines, Function.update_of_ne hr] at hcr hreturned
      exact h r' cr hcr hreturned
  | destroy r =>
    intro r' cr hcr hreturned
    by_cases hr : r' = r
    · subst hr
      simp only [routines, Function.update_self] at hcr
      cases hcr
    · simp only [routines, Function.update_of_ne hr] at hcr
      exact h r' cr hcr hreturned
  | resume t r => exact h
  | resumeStopped r => exact h.modify fun _ _ _ => rfl
  | yield t =>
    obtain ⟨r, hcurrent, -⟩ := hgate
    simp only [routines, hcurrent]
    exact h
  | setState t state =>
    obtain ⟨r, hcurrent, hrunning⟩ := hgate
    simp only [routines, hcurrent]
    refine h.modify fun hreturned => ?_
    rw [hrunning] at hreturned
    cases hreturned
  | funcReturns t =>
    obtain ⟨r, hcurrent, -⟩ := hgate
    simp only [routines, hcurrent]
    exact h.funcReturns r
  | work t regs mem => exact h
  | updateState r expired => exact h.modify fun _ cr hcr => updateState_finished hcr expired
  | setUpdateFlag r => exact h.modify fun _ _ hcr => hcr
  | stop r => exact h

theorem returnedFinished_reachable (h : (routines arch layout entry).Reachable s) :
    ReturnedFinished s := by
  refine System.invariant (fun s hs r cr hcr => ?_) returnedFinished_step h
  rw [hs.2.1 r] at hcr
  cases hcr

end returned

/-! ## Section 4: Every switch -/

section switches
variable {arch : Arch Reg} {layout : Layout Tid Rid} {entry : BitVec 64}
  {s s' : State Reg Tid Rid} {t : Tid} {r : Rid}

/-- What the code of the switch leaves is what the thread executes on next. -/
theorem machine_swap (p q : Party Tid Rid) (current : Option Rid) :
    (s.swap arch t p q current).machine t = arch.switch.code (s.machine t) := by
  simp only [State.machine, State.swap, Function.update_self]

/-- The party that comes goes on where it left. -/
theorem Inv.goesOn (h : Inv arch layout s) {p q : Party Tid Rid} (hpq : p ≠ q)
    (hq : s.Suspended q) (hcalls : Calls arch.switch layout.toStacks (s.machine t) p q)
    (current : Option Rid) :
    s.left q = some (arch.switch.current ((s.swap arch t p q current).machine t)) := by
  obtain ⟨k, hk, hleft⟩ := h.kept q hq
  rw [hk, machine_swap, hcalls.found arch.lawful hpq hleft]

theorem resume_goesOn (h : (routines arch layout entry).Reachable s)
    (hstep : (routines arch layout entry).step s (.resume t r) s') :
    s.left (.routine r) = some (arch.switch.current (s'.machine t)) ∧ s.returned r = false := by
  obtain ⟨⟨-, hfree, ⟨cr, hcr, hready⟩, -, hcalls⟩, rfl⟩ := hstep
  constructor
  · have hr : s.routines r ≠ none := by
      rw [hcr]
      exact Option.some_ne_none cr
    exact (inv_reachable h).goesOn (main_ne_routine t r) ⟨hr, hfree⟩ hcalls (some r)
  · by_contra hreturned
    have hfinished := returnedFinished_reachable h r cr hcr (Bool.not_eq_false _ ▸ hreturned)
    rw [hready] at hfinished
    cases hfinished

theorem yield_goesOn (h : (routines arch layout entry).Reachable s)
    (hstep : (routines arch layout entry).step s (.yield t) s') :
    s.left (.main t) = some (arch.switch.current (s'.machine t)) := by
  obtain ⟨⟨r, hcurrent, hcalls⟩, rfl⟩ := hstep
  have hmain : s.Suspended (.main t) := by
    show s.current t ≠ none
    rw [hcurrent]
    exact Option.some_ne_none r
  have heffect : ((routines arch layout entry).action (.yield t)).effect s =
      s.swap arch t (.routine r) (.main t) none := by simp only [routines, hcurrent]
  rw [heffect]
  exact (inv_reachable h).goesOn (main_ne_routine t r).symm hmain hcalls none

end switches

end system

/-! ## Section 5: A small process -/

/-- One thread and one context. -/
def smallLayout : Layout Unit Unit where
  stack
    | .main _    => 0x10000
    | .routine _ => 0x400000
  size
    | .main _    => 0x1000
    | .routine _ => stackSize
  cell
    | .main _    => 0x20000
    | .routine _ => 0x400000 + BitVec.ofNat 64 stackSize
  stacks_apart := by
    intro p q hpq x hx hx'
    unfold Within stackSize at *
    cases p <;> cases q <;> first | exact absurd rfl hpq | (simp only at hx hx'; bv_omega)
  cells_apart := by
    intro p q hpq x hx hx'
    unfold Within stackSize at *
    cases p <;> cases q <;> first | exact absurd rfl hpq | (simp only at hx hx'; bv_omega)
  stack_cell := by
    intro p q x hx hx'
    unfold Within stackSize at *
    cases p <;> cases q <;> simp only at hx hx' <;> bv_omega
  size_routine := fun _ => rfl
  cell_routine := fun _ => rfl

section small
variable {Reg : Type} (arch : Arch Reg) (regs : Reg → BitVec 64)

/-- A process without routines. -/
def smallInitial : State Reg Unit Unit where
  mem       := fun _ => 0
  regs      := fun _ _ => 0
  current   := fun _ => none
  routines  := fun _ => none
  forceStop := fun _ => false
  left      := fun _ => none
  returned  := fun _ => false

/-- The memory once the routine at `0x6000` is constructed; `CRoutineEntry`
    is at `0x5000`. -/
def smallMem : AddressSpace :=
  makeContext arch (fun _ => 0) 0x5000 0x6000 (smallLayout.stack (.routine ()))

/-- The routine is constructed and the thread sets its registers. -/
def smallState : State Reg Unit Unit :=
  (routines arch smallLayout 0x5000).exec smallInitial
    [.construct () 0x6000, .work () regs (smallMem arch)]

theorem smallState_reachable :
    (routines arch smallLayout 0x5000).Reachable (smallState arch regs) := by
  refine System.reachable_exec _ ?_ _ ⟨?_, ?_, trivial⟩
  · exact ⟨fun _ => rfl, fun _ => rfl, fun _ => rfl⟩
  · exact (rfl : smallInitial.routines () = none)
  · intro p _
    exact ⟨AddressSpace.Same.refl _ _ _, AddressSpace.Same.refl _ _ _⟩

theorem smallState_left : (smallState arch regs).left (.routine ()) =
    some (freshContinuation arch 0x5000 0x6000 (smallLayout.stack (.routine ()))) := by
  simp only [smallState, System.exec, routines, Function.update_self]

/-- The thread resumes the routine for the first time. -/
theorem smallState_resume
    (hcalls : Calls arch.switch smallLayout.toStacks ⟨regs, smallMem arch⟩ (.main ())
      (.routine ())) :
    (routines arch smallLayout 0x5000).step (smallState arch regs) (.resume () ())
      ((smallState arch regs).swap arch () (.main ()) (.routine ()) (some ())) := by
  refine ⟨⟨rfl, ?_, ⟨.new, ?_, rfl⟩, ?_, ?_⟩, rfl⟩
  · intro t ht
    cases ht
  · simp only [smallState, System.exec, routines, Function.update_self]
  · simp only [smallState, System.exec, routines, Function.update_self]
  · simpa only [State.machine, smallState, System.exec, routines, Function.update_self] using hcalls

end small

/-! ## Section 6: The two processors -/

/-- The registers with which a thread calls `ctx_swap` to resume the routine
    of the small process. -/
def x86_64_regs : X86_64.Reg → BitVec 64
  | .rdi => 0x20000
  | .rsi => 0x400000 + BitVec.ofNat 64 stackSize
  | .rsp => 0x10800
  | _    => 0

def aarch64_regs : AArch64.Reg → BitVec 64
  | .x0 => 0x20000
  | .x1 => 0x400000 + BitVec.ofNat 64 stackSize
  | .sp => 0x10800
  | _   => 0

theorem x86_64_calls : Calls X86_64.switch smallLayout.toStacks ⟨x86_64_regs, smallMem x86_64⟩
    (.main ()) (.routine ()) := by
  refine ⟨rfl, rfl, ?_⟩
  rw [X86_64.frame_eq]
  show (0x10800 - 56 - 0x10000 : BitVec 64).toNat + 64 ≤ 0x1000
  decide

theorem aarch64_calls : Calls AArch64.switch smallLayout.toStacks ⟨aarch64_regs, smallMem aarch64⟩
    (.main ()) (.routine ()) := by
  refine ⟨rfl, rfl, ?_⟩
  rw [AArch64.frame_eq]
  show (0x10800 - 176 - 0x10000 : BitVec 64).toNat + 176 ≤ 0x1000
  decide

/-- **x86-64**: a thread that resumes a routine goes on exactly where that
    routine last left, on whichever thread it ran, or at `CRoutineEntry` with
    the routine as its argument; a yield goes on where the thread called
    `ctx_swap` to resume. A routine that is resumed has not returned. -/
theorem x86_64_goesOn {Tid Rid : Type} [DecidableEq Tid] [DecidableEq Rid]
    (layout : Layout Tid Rid) (entry : BitVec 64) {s s' : State X86_64.Reg Tid Rid}
    (h : (routines x86_64 layout entry).Reachable s) (t : Tid) :
    (∀ r, (routines x86_64 layout entry).step s (.resume t r) s' →
      s.left (.routine r) = some (X86_64.switch.current (s'.machine t)) ∧ s.returned r = false) ∧
    ((routines x86_64 layout entry).step s (.yield t) s' →
      s.left (.main t) = some (X86_64.switch.current (s'.machine t))) := by
  constructor
  · intro r hstep
    exact resume_goesOn h hstep
  · exact yield_goesOn h

/-- The first time, a routine goes on at its entry. -/
theorem x86_64_goesOn_first : ∃ s s',
    (routines x86_64 smallLayout 0x5000).step s (.resume () ()) s' ∧
    X86_64.switch.current (s'.machine ()) = ⟨[0, 0, 0, 0, 0, 0, 0x6000], 0x5000, 0x5ffff8⟩ := by
  have hreachable := smallState_reachable x86_64 x86_64_regs
  have hstep := smallState_resume x86_64 x86_64_regs x86_64_calls
  obtain ⟨hleft, -⟩ := (x86_64_goesOn smallLayout 0x5000 hreachable ()).1 () hstep
  rw [smallState_left] at hleft
  exact ⟨_, _, hstep, (Option.some.inj hleft).symm.trans rfl⟩

/-- **AArch64**: the same, with the registers `x19` to `x29` and `d8` to
    `d15`. -/
theorem aarch64_goesOn {Tid Rid : Type} [DecidableEq Tid] [DecidableEq Rid]
    (layout : Layout Tid Rid) (entry : BitVec 64) {s s' : State AArch64.Reg Tid Rid}
    (h : (routines aarch64 layout entry).Reachable s) (t : Tid) :
    (∀ r, (routines aarch64 layout entry).step s (.resume t r) s' →
      s.left (.routine r) = some (AArch64.switch.current (s'.machine t)) ∧ s.returned r = false) ∧
    ((routines aarch64 layout entry).step s (.yield t) s' →
      s.left (.main t) = some (AArch64.switch.current (s'.machine t))) := by
  constructor
  · intro r hstep
    exact resume_goesOn h hstep
  · exact yield_goesOn h

theorem aarch64_goesOn_first : ∃ s s',
    (routines aarch64 smallLayout 0x5000).step s (.resume () ()) s' ∧
    AArch64.switch.current (s'.machine ()) =
      ⟨List.replicate 20 0 ++ [0x6000], 0x5000, 0x600000⟩ := by
  have hreachable := smallState_reachable aarch64 aarch64_regs
  have hstep := smallState_resume aarch64 aarch64_regs aarch64_calls
  obtain ⟨hleft, -⟩ := (aarch64_goesOn smallLayout 0x5000 hreachable ()).1 () hstep
  rw [smallState_left] at hleft
  exact ⟨_, _, hstep, (Option.some.inj hleft).symm.trans rfl⟩

end CyberRT.Croutine.ContextSwitches
