import Mathlib.Algebra.GroupWithZero.Nat
import Mathlib.Logic.Function.Basic

/-! # Gated transition systems

    The machinery every concurrent component below is modelled with.

    * **Gated actions**: a gate (when may the step be taken) and an effect
      (what the step does), both functions of the shared state.
    * **Systems**: an initial predicate and one gated action per label. An
      interleaving of several threads is a sequence of labels.
    * **Invariants**: the induction over reachable states, stated once.
    * **Progress**: a rank that one party's steps lower and no other step
      raises.
    * **Executions**: a list of labels run from a state, for concrete runs.
    * **Moments**: a state along an execution that meets a predicate.
    * **Restriction**: the runs of a system all of whose steps meet a
      condition on the state before the step.
    * **Projection**: the runs of a system seen as runs of another one that
      has part of its state. -/

namespace CyberRT.Framework

universe u v

variable {σ : Type u} {α : Type v}

/-! ## Section 1: Systems -/

/-- One kind of step: when it may be taken and what it does. -/
structure GatedAction (σ : Type u) where
  gate   : σ → Prop
  effect : σ → σ

/-- A system of gated actions, one per label. -/
structure System (σ : Type u) (α : Type v) where
  init   : σ → Prop
  action : α → GatedAction σ

namespace System

/-- The step labelled `a` leads from `s` to `s'`. -/
def step (sys : System σ α) (s : σ) (a : α) (s' : σ) : Prop :=
  (sys.action a).gate s ∧ s' = (sys.action a).effect s

/-- The states some run from an initial state ends in. -/
inductive Reachable (sys : System σ α) : σ → Prop where
  | init : ∀ {s}, sys.init s → Reachable sys s
  | step : ∀ {s s'} a, Reachable sys s → sys.step s a s' → Reachable sys s'

/-! ## Section 2: Invariants -/

/-- **Invariant rule**: what holds initially and is preserved by every
    step holds in every reachable state. -/
theorem invariant {sys : System σ α} {P : σ → Prop}
    (hinit : ∀ s, sys.init s → P s)
    (hstep : ∀ s a, P s → (sys.action a).gate s → P ((sys.action a).effect s))
    {s : σ} (h : sys.Reachable s) : P s := by
  induction h with
  | init hi => exact hinit _ hi
  | step a _ hs ih =>
    obtain ⟨hg, rfl⟩ := hs
    exact hstep _ a ih hg

/-! ## Section 3: Runs -/

/-- `Run sys s as s'`: the labels `as`, in turn, lead from `s` to `s'`. -/
inductive Run (sys : System σ α) : σ → List α → σ → Prop where
  | nil  : ∀ s, Run sys s [] s
  | cons : ∀ {s s' s''} a as, sys.step s a s' → Run sys s' as s'' → Run sys s (a :: as) s''

/-- **Run rule**: a predicate preserved by the allowed labels is carried
    along every run of them. -/
theorem Run.invariant {sys : System σ α} {P : σ → Prop} {ok : α → Prop}
    (hstep : ∀ s a, ok a → P s → (sys.action a).gate s → P ((sys.action a).effect s))
    {s s' : σ} {as : List α} (h : sys.Run s as s') (hok : ∀ a ∈ as, ok a) (hP : P s) :
    P s' := by
  induction h with
  | nil s => exact hP
  | cons a as hs _ ih =>
    obtain ⟨hg, rfl⟩ := hs
    have ha : ok a := hok a (by simp)
    exact ih (fun b hb => hok b (by simp [hb])) (hstep _ a ha hP hg)

/-- The run rule for a predicate that every label preserves. -/
theorem Run.preserves {sys : System σ α} {P : σ → Prop}
    (hstep : ∀ s a, P s → (sys.action a).gate s → P ((sys.action a).effect s))
    {s s' : σ} {as : List α} (h : sys.Run s as s') (hP : P s) : P s' := by
  have hall : ∀ s a, True → P s → (sys.action a).gate s → P ((sys.action a).effect s) :=
    fun s a _ => hstep s a
  exact h.invariant hall (fun _ _ => trivial) hP

/-- **Progress rule**: a rank that every `own` step lowers and no other step
    raises, until the goal is reached, bounds the number of `own` steps. -/
theorem Run.progress {sys : System σ α} {P goal : σ → Prop} {rank : σ → Nat} {own : α → Bool}
    (hP : ∀ s a, P s → (sys.action a).gate s → P ((sys.action a).effect s))
    (hgoal : ∀ s a, goal s → (sys.action a).gate s → goal ((sys.action a).effect s))
    (hrank : ∀ s a, P s → ¬ goal s → (sys.action a).gate s →
      rank ((sys.action a).effect s) + (if own a then 1 else 0) ≤ rank s)
    {s s' : σ} {as : List α} (h : sys.Run s as s') (hs : P s) :
    goal s' ∨ rank s' + as.countP own ≤ rank s := by
  induction h with
  | nil s => exact .inr (by simp)
  | @cons s _ _ a as hstep hrun ih =>
    obtain ⟨hg, rfl⟩ := hstep
    cases ih (hP _ a hs hg) with
    | inl hreached => exact .inl hreached
    | inr hle =>
      by_cases hdone : goal s
      · -- what was reached before the step stays reached
        exact .inl (hrun.preserves hgoal (hgoal _ a hdone hg))
      · have hlower := hrank _ a hs hdone hg
        rw [List.countP_cons]
        exact .inr (by omega)

theorem Run.append {sys : System σ α} {s s' s'' : σ} {as bs : List α}
    (h₁ : sys.Run s as s') (h₂ : sys.Run s' bs s'') : sys.Run s (as ++ bs) s'' := by
  induction h₁ with
  | nil s => exact h₂
  | cons a as hs _ ih => exact .cons a (as ++ bs) hs (ih h₂)

/-! ## Section 4: Executions of concrete label lists -/

/-- Most of the concrete runs are of two threads, `0` and `1`. -/
instance (priority := 2000) : NeZero 2 := ⟨Nat.succ_ne_zero 1⟩

/-- The state the labels `as` lead to, their gates taken for granted. -/
def exec (sys : System σ α) : σ → List α → σ
  | s, []      => s
  | s, a :: as => exec sys ((sys.action a).effect s) as

/-- Every gate along the labels `as` is open. -/
def Admits (sys : System σ α) : σ → List α → Prop
  | _, []      => True
  | s, a :: as => (sys.action a).gate s ∧ Admits sys ((sys.action a).effect s) as

instance decidableAdmits (sys : System σ α) [h : ∀ a s, Decidable ((sys.action a).gate s)] :
    ∀ (s : σ) (as : List α), Decidable (sys.Admits s as)
  | _, []      => .isTrue trivial
  | s, a :: as =>
    have := decidableAdmits sys ((sys.action a).effect s) as
    inferInstanceAs (Decidable (_ ∧ _))

theorem run_exec (sys : System σ α) (s : σ) (as : List α) (h : sys.Admits s as) :
    sys.Run s as (sys.exec s as) := by
  induction as generalizing s with
  | nil => exact .nil s
  | cons a as ih => exact .cons a as ⟨h.1, rfl⟩ (ih _ h.2)

theorem Reachable.of_run {sys : System σ α} {s s' : σ} {as : List α}
    (hs : sys.Reachable s) (h : sys.Run s as s') : sys.Reachable s' := by
  induction h with
  | nil s => exact hs
  | cons a as hstep _ ih => exact ih (.step a hs hstep)

/-- An admitted list of labels from an initial state ends in a reachable state. -/
theorem reachable_exec (sys : System σ α) {s : σ} (hi : sys.init s) (as : List α)
    (h : sys.Admits s as) : sys.Reachable (sys.exec s as) :=
  .of_run (.init hi) (run_exec sys s as h)

/-! ## Section 5: Moments -/

/-- Some state along the labels `as` meets `P`, the first one and the last
    one included. -/
def Passes (sys : System σ α) (P : σ → Prop) : σ → List α → Prop
  | s, []      => P s
  | s, a :: as => P s ∨ Passes sys P ((sys.action a).effect s) as

instance decidablePasses (sys : System σ α) (P : σ → Prop) [h : DecidablePred P] :
    ∀ (s : σ) (as : List α), Decidable (sys.Passes P s as)
  | s, []      => h s
  | s, a :: as =>
    have := decidablePasses sys P ((sys.action a).effect s) as
    inferInstanceAs (Decidable (_ ∨ _))

/-- **Moment rule**: what the allowed labels keep up to a state that meets
    `goal`, and what is lost at the end, tells that there was such a state. -/
theorem Admits.passes {sys : System σ α} {P goal : σ → Prop} {ok : α → Prop}
    (hstep : ∀ s a, ok a → P s → (sys.action a).gate s → goal s ∨ P ((sys.action a).effect s))
    {s : σ} {as : List α} (h : sys.Admits s as) (hok : ∀ a ∈ as, ok a) (hP : P s)
    (hend : ¬ P (sys.exec s as)) : sys.Passes goal s as := by
  induction as generalizing s with
  | nil => exact absurd hP hend
  | cons a as ih =>
    have ha : ok a := hok a (by simp)
    rcases hstep s a ha hP h.1 with hgoal | hkept
    · exact .inl hgoal
    · exact .inr (ih h.2 (fun b hb => hok b (by simp [hb])) hkept hend)

/-! ## Section 6: Restriction -/

/-- The runs of `sys` all of whose steps meet `ok`, a condition on the
    state before the step and the label of the step. -/
def restrict (sys : System σ α) (ok : σ → α → Prop) : System σ α where
  init   := sys.init
  action := fun a =>
    { gate   := fun s => (sys.action a).gate s ∧ ok s a
      effect := (sys.action a).effect }

instance decidableRestrict (sys : System σ α) (ok : σ → α → Prop)
    [hsys : ∀ a s, Decidable ((sys.action a).gate s)] [hok : ∀ s a, Decidable (ok s a)] (a : α)
    (s : σ) : Decidable (((sys.restrict ok).action a).gate s) :=
  have := hsys a s
  have := hok s a
  inferInstanceAs (Decidable (_ ∧ _))

/-- Labels that always meet the condition. -/
theorem admits_restrict {sys : System σ α} {ok : σ → α → Prop} {s : σ} {as : List α}
    (h : sys.Admits s as) (hok : ∀ a ∈ as, ∀ s, ok s a) : (sys.restrict ok).Admits s as := by
  induction as generalizing s with
  | nil => trivial
  | cons a as ih =>
    exact ⟨⟨h.1, hok a List.mem_cons_self s⟩, ih h.2 fun b hb => hok b (List.mem_cons_of_mem a hb)⟩

/-- The labels lead through the same states. -/
@[simp] theorem exec_restrict (sys : System σ α) (ok : σ → α → Prop) (s : σ) (as : List α) :
    (sys.restrict ok).exec s as = sys.exec s as := by
  induction as generalizing s with
  | nil => rfl
  | cons a as ih => exact ih _

@[simp] theorem passes_restrict (sys : System σ α) (ok : σ → α → Prop) (P : σ → Prop) (s : σ)
    (as : List α) : (sys.restrict ok).Passes P s as ↔ sys.Passes P s as := by
  induction as generalizing s with
  | nil => exact Iff.rfl
  | cons a as ih => exact or_congr Iff.rfl (ih _)

/-- **Exactness rule**: if a step keeps `P` exactly when it meets `ok`, then
    `P` holds all along a run exactly when all steps of the run meet `ok`.
    `I` is what holds along every run. -/
theorem always_iff_admits_restrict {sys : System σ α} {I P : σ → Prop} {ok : σ → α → Prop}
    (hI : ∀ s a, I s → (sys.action a).gate s → I ((sys.action a).effect s))
    (hP : ∀ s a, I s → P s → (sys.action a).gate s → (P ((sys.action a).effect s) ↔ ok s a))
    {s : σ} {as : List α} (h : sys.Admits s as) (hIs : I s) (hPs : P s) :
    (∀ bs, bs <+: as → P (sys.exec s bs)) ↔ (sys.restrict ok).Admits s as := by
  induction as generalizing s with
  | nil =>
    constructor
    · intro _
      trivial
    · intro _ bs hbs
      rw [List.prefix_nil.mp hbs]
      exact hPs
  | cons a as ih =>
    have hIa := hI s a hIs h.1
    constructor
    · intro hall
      have hPa : P ((sys.action a).effect s) :=
        hall [a] (List.cons_prefix_cons.mpr ⟨rfl, List.nil_prefix⟩)
      have hrest : ∀ bs, bs <+: as → P (sys.exec ((sys.action a).effect s) bs) :=
        fun bs hbs => hall (a :: bs) (List.cons_prefix_cons.mpr ⟨rfl, hbs⟩)
      exact ⟨⟨h.1, (hP s a hIs hPs h.1).mp hPa⟩, (ih h.2 hIa hPa).mp hrest⟩
    · rintro ⟨⟨_, hok⟩, hrest⟩ bs hbs
      have hPa : P ((sys.action a).effect s) := (hP s a hIs hPs h.1).mpr hok
      cases bs with
      | nil => exact hPs
      | cons b bs =>
        obtain ⟨hb, htail⟩ := List.cons_prefix_cons.mp hbs
        subst hb
        exact (ih h.2 hIa hPa).mpr hrest bs htail

/-- A restricted run is a run. -/
theorem Reachable.of_restrict {sys : System σ α} {ok : σ → α → Prop} {s : σ}
    (h : (sys.restrict ok).Reachable s) : sys.Reachable s := by
  induction h with
  | init hi => exact .init hi
  | step a _ hs ih => exact .step a ih ⟨hs.1.1, hs.2⟩

theorem Run.of_restrict {sys : System σ α} {ok : σ → α → Prop} {s s' : σ} {as : List α}
    (h : (sys.restrict ok).Run s as s') : sys.Run s as s' := by
  induction h with
  | nil s => exact .nil s
  | cons a as hs _ ih => exact .cons a as ⟨hs.1.1, hs.2⟩ ih

/-! ## Section 7: Projection -/

/-- **Projection rule**: if the labels in the domain of `g` are steps of
    `sys'` on what `f` shows of the state, and the other labels do not change
    what `f` shows, then runs of `sys` are runs of `sys'`. -/
theorem Run.project {τ : Type u} {β : Type v} {sys : System σ α} {sys' : System τ β} {f : σ → τ}
    {g : α → Option β}
    (hstutter : ∀ s a, g a = none → (sys.action a).gate s → f ((sys.action a).effect s) = f s)
    (hstep : ∀ s a b, g a = some b → (sys.action a).gate s →
      sys'.step (f s) b (f ((sys.action a).effect s)))
    {s s' : σ} {as : List α} (h : sys.Run s as s') :
    sys'.Run (f s) (as.filterMap g) (f s') := by
  induction h with
  | nil s => exact .nil (f s)
  | @cons s _ _ a as hs _ ih =>
    obtain ⟨hg, rfl⟩ := hs
    cases hb : g a with
    | none =>
      rw [List.filterMap_cons_none hb, ← hstutter s a hb hg]
      exact ih
    | some b =>
      rw [List.filterMap_cons_some hb]
      exact .cons b _ (hstep s a b hb hg) ih

end System

/-! ## Section 8: Threads -/

/-- Where a thread stands after thread `t` has gone to `pc`. -/
theorem update_cases {Tid : Type u} {Pc : Type v} [DecidableEq Tid] {threads : Tid → Pc}
    {t t' : Tid} {pc pc' : Pc} (h : Function.update threads t pc t' = pc') :
    (t' = t ∧ pc = pc') ∨ (t' ≠ t ∧ threads t' = pc') := by
  by_cases ht : t' = t
  · subst ht
    rw [Function.update_self] at h
    exact .inl ⟨rfl, h⟩
  · rw [Function.update_of_ne ht] at h
    exact .inr ⟨ht, h⟩

/-- A thread stays where it is when one that stands elsewhere moves. -/
theorem update_stays {Tid : Type u} {Pc : Type v} [DecidableEq Tid] {threads : Tid → Pc}
    {t t' : Tid} {pc pc₀ pc' : Pc} (h : threads t' = pc') (hpc : threads t = pc₀)
    (hne : pc₀ ≠ pc') : Function.update threads t pc t' = pc' := by
  have ht : t' ≠ t := by
    rintro rfl
    exact hne (hpc.symm.trans h)
  rw [Function.update_of_ne ht]
  exact h

end CyberRT.Framework
