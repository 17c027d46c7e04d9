import CyberRT.Base.AtomicHashMapLists
import CyberRT.Framework.Ownership
import Mathlib.Data.Fintype.Basic
import Mathlib.Logic.Equiv.Basic

/-! # The values of the atomic hash map

    `Get` with a copy loads the pointer of the value first and copies what it
    points to later. `Set` deletes the value it has replaced without asking
    whether somebody still reads it: the race that a comment in `Get` speaks
    of. -/

namespace CyberRT.Base.AtomicHashMap

open CyberRT.Framework

variable {k : Nat} {Tid V : Type}

/-! ## Section 1: Claims on values -/

/-- What a `Set` has of its own: the value in its new entry, the value for an
    exchange, and the value it has exchanged. -/
inductive Part where
  | newEntry
  | newValue
  | oldValue
  deriving DecidableEq

/-- Who has the pointer of a value: an entry of a list, or a `Set`. -/
inductive Claim (Tid : Type) where
  | published (a : Nat)
  | own (t : Tid) (part : Part)
  deriving DecidableEq

/-- The `Set` has its value for an exchange. -/
def Local.holdsValue (l : Local V) : Bool :=
  match l.pc with
  | .walkLoad | .walkCompare => l.op.sets
  | .setLoadValue | .setCasValue | .setStoreNext | .setCasNext | .deleteNewValue => true
  | _ => false

def Local.Claims (entries : Nat → Entry) (l : Local V) : Part → Nat → Prop
  | .newEntry, p => l.owns = true ∧ (entries l.newEntry).valuePtr = p
  | .newValue, p => l.holdsValue = true ∧ l.newValue = p
  | .oldValue, p => l.pc = .deleteOldValue ∧ l.oldValue = p

def Claims (s : State k Tid V) (lists : Fin (2 ^ k) → List Nat) : Claim Tid → Nat → Prop
  | .published a, p => (∃ b, a ∈ lists b) ∧ (s.entries a).valuePtr = p
  | .own t part, p  => (s.loc t).Claims s.entries part p

/-- The object has not been deleted. -/
def State.Live (s : State k Tid V) (p : Nat) : Prop := s.values p ≠ none

/-- The pointer can be loaded, or could until a `Set` exchanged it. -/
def Shared (s : State k Tid V) (lists : Fin (2 ^ k) → List Nat) (p : Nat) : Prop :=
  (∃ a, Claims s lists (.published a) p) ∨ ∃ t, Claims s lists (.own t .oldValue) p

/-- A `Get` that is about to copy finds the value that it has seen. -/
def Reading (s : State k Tid V) (lists : Fin (2 ^ k) → List Nat) (l : Local V) : Prop :=
  l.pc = .getCopy → ∀ p ∈ l.value, s.Live p ∧ s.values p = l.seen ∧ Shared s lists p

/-- Every pointer is that of a live object that nobody else has, and what
    `Get` has loaded is still there. -/
structure Memory (s : State k Tid V) (lists : Fin (2 ^ k) → List Nat) : Prop where
  owned   : Owned (Claims s lists) s.Live
  readers : ∀ u, Reading s lists (s.loc u)

theorem memory_init [DecidableEq Tid] {s : State k Tid V} (h : (atomicHashMap k).init s) :
    Memory s fun _ => [] := by
  obtain ⟨-, -, -, hidle, -⟩ := h
  have hnone : ∀ c p, ¬ Claims s (fun _ => []) c p := by
    intro c p
    cases c with
    | published a => simp [Claims]
    | own t part =>
      cases part <;> simp [Claims, Local.Claims, Local.owns, Local.holdsValue, hidle t]
  refine ⟨⟨fun hc => absurd hc (hnone _ _), fun hc => absurd hc (hnone _ _)⟩, ?_⟩
  intro u hpc
  simp [hidle u] at hpc

/-! ## Section 2: Steps -/

section steps
variable [DecidableEq Tid] {s s' : State k Tid V} {lists lists' : Fin (2 ^ k) → List Nat}
  {t : Tid} {l : Local V}

omit [DecidableEq Tid] in
theorem Reading.mono (h : Reading s lists l)
    (hkept : ∀ p, l.pc = .getCopy → l.value = some p → Shared s lists p →
      s'.values p = s.values p ∧ Shared s' lists' p) : Reading s' lists' l := by
  intro hpc p hp
  obtain ⟨hlive, hseen, hshared⟩ := h hpc p hp
  obtain ⟨hvalue, hshared'⟩ := hkept p hpc hp hshared
  refine ⟨?_, hvalue.trans hseen, hshared'⟩
  simpa [State.Live, hvalue] using hlive

omit [DecidableEq Tid] in
/-- Claims depend on the value of the new entry alone. -/
theorem Local.claims_congr {entries entries' : Nat → Entry} (l : Local V)
    (hptr : l.owns = true → (entries' l.newEntry).valuePtr = (entries l.newEntry).valuePtr)
    (part : Part) (p : Nat) : l.Claims entries' part p ↔ l.Claims entries part p := by
  cases part with
  | newEntry => exact and_congr_right fun hown => by rw [hptr hown]
  | newValue => exact Iff.rfl
  | oldValue => exact Iff.rfl

/-- What is shared stays so, if what the entries have does and the thread
    that moves has exchanged nothing. -/
theorem Shared.mono {p : Nat} (h : Shared s lists p)
    (hloc : s'.loc = Function.update s.loc t l) (hpc : (s.loc t).pc ≠ .deleteOldValue)
    (hpublished : ∀ a, Claims s lists (.published a) p → Shared s' lists' p) :
    Shared s' lists' p := by
  rcases h with ⟨a, ha⟩ | ⟨u, hu⟩
  · exact hpublished a ha
  · have hut : u ≠ t := fun heq => hpc (heq ▸ hu.1)
    refine .inr ⟨u, ?_⟩
    simp only [Claims, Local.Claims, hloc, Function.update_of_ne hut]
    exact hu

/-- **Step rule** of one thread. -/
theorem Memory.of_step (h : Memory s lists) (howned : Owned (Claims s' lists') s'.Live)
    (hloc : s'.loc = Function.update s.loc t l)
    (hkept : ∀ u p, u ≠ t → (s.loc u).pc = .getCopy → (s.loc u).value = some p →
      Shared s lists p → s'.values p = s.values p ∧ Shared s' lists' p)
    (hself : Reading s' lists' l) : Memory s' lists' := by
  refine ⟨howned, fun u => ?_⟩
  by_cases hu : u = t
  · rw [hu, hloc, Function.update_self]
    exact hself
  · rw [hloc, Function.update_of_ne hu]
    exact (h.readers u).mono fun p => hkept u p hu

/-- **Frame**: the values stay where they are. -/
theorem Memory.frame (h : Memory s lists) (hvalues : s'.values = s.values)
    (hentries : ∀ a, (s'.entries a).valuePtr = (s.entries a).valuePtr)
    (hloc : s'.loc = Function.update s.loc t l) (hpc : (s.loc t).pc ≠ .deleteOldValue)
    (hclaims : ∀ part p, l.Claims s.entries part p → (s.loc t).Claims s.entries part p)
    (hself : Reading s lists l) : Memory s' lists := by
  have hparts : ∀ (l : Local V) part p, l.Claims s'.entries part p ↔ l.Claims s.entries part p :=
    fun l => l.claims_congr fun _ => hentries _
  have hclaims' : ∀ c p, Claims s' lists c p → Claims s lists c p := by
    intro c p hc
    cases c with
    | published a => exact ⟨hc.1, (hentries a).symm.trans hc.2⟩
    | own u part =>
      have hu : (s'.loc u).Claims s.entries part p := (hparts _ _ _).mp hc
      by_cases hut : u = t
      · subst hut
        rw [hloc, Function.update_self] at hu
        exact hclaims part p hu
      · rwa [hloc, Function.update_of_ne hut] at hu
  have hshared : ∀ p, Shared s lists p → Shared s' lists p := fun p hp =>
    hp.mono hloc hpc fun a ha => .inl ⟨a, ha.1, (hentries a).trans ha.2⟩
  have hlive : s'.Live = s.Live := by
    funext p
    simp [State.Live, hvalues]
  refine h.of_step ?_ hloc (fun u p _ _ _ hp => ⟨congrFun hvalues p, hshared p hp⟩) ?_
  · rw [hlive]
    exact h.owned.move (Equiv.refl _) hclaims'
  · exact hself.mono fun p _ _ hp => ⟨congrFun hvalues p, hshared p hp⟩

/-- The frame of a step that is the thread's own affair. -/
theorem Memory.setLoc (h : Memory s lists) (hpc : (s.loc t).pc ≠ .deleteOldValue)
    (hclaims : ∀ part p, l.Claims s.entries part p → (s.loc t).Claims s.entries part p)
    (hself : Reading s lists l) : Memory (s.setLoc t l) lists :=
  have hloc : (s.setLoc t l).loc = Function.update s.loc t l := rfl
  h.frame rfl (fun _ => rfl) hloc hpc hclaims hself

omit [DecidableEq Tid] in
/-- Claims that are kept, by what they depend on. -/
theorem Local.Claims.mono {l l' : Local V} {entries : Nat → Entry}
    (hnewEntry : l.owns = true → l'.owns = true ∧ l'.newEntry = l.newEntry)
    (hnewValue : l.holdsValue = true → l'.holdsValue = true ∧ l'.newValue = l.newValue)
    (holdValue : l.pc ≠ .deleteOldValue) :
    ∀ part p, l.Claims entries part p → l'.Claims entries part p := by
  intro part p hc
  cases part with
  | newEntry =>
    obtain ⟨hown, hsame⟩ := hnewEntry hc.1
    exact ⟨hown, hsame ▸ hc.2⟩
  | newValue =>
    obtain ⟨hhas, hsame⟩ := hnewValue hc.1
    exact ⟨hhas, hsame.trans hc.2⟩
  | oldValue => exact absurd hc.1 holdValue

/-- Two objects are allocated for a `Set`. -/
theorem Memory.step_newEntry (h : Memory s lists) (hinv : InvOn s lists) {v : V}
    {entry entryValue value : Nat}
    (hg : ((atomicHashMap k).action (.newEntry t v entry entryValue value)).gate s) :
    Memory (((atomicHashMap k).action (.newEntry t v entry entryValue value)).effect s) lists := by
  obtain ⟨hpc, hop, hfree, hdeadEntry, hdeadValue, hne⟩ := hg
  have hlisted : ∀ b, ∀ a ∈ lists b, a ≠ entry := by
    rintro b a ha rfl
    simp [hinv.inOrder.allocated b a ha] at hfree
  have howned : ∀ u, (s.loc u).owns = true → (s.loc u).newEntry ≠ entry := by
    rintro u hown rfl
    simp [(hinv.fresh u hown).allocated] at hfree
  -- the new objects lie where none was
  have hvalues : ∀ p, s.Live p →
      Function.update (Function.update s.values entryValue (some v)) value (some v) p =
        s.values p := by
    intro p hlive
    have hp : p ≠ value := by
      rintro rfl
      exact hlive hdeadValue
    have hp' : p ≠ entryValue := by
      rintro rfl
      exact hlive hdeadEntry
    rw [Function.update_of_ne hp, Function.update_of_ne hp']
  have hclaims : ∀ c p,
      Claims (((atomicHashMap k).action (.newEntry t v entry entryValue value)).effect s) lists
        c p →
      Claims s lists c p ∨ (c = .own t .newEntry ∧ p = entryValue) ∨
        (c = .own t .newValue ∧ p = value) := by
    intro c p hc
    cases c with
    | published a =>
      obtain ⟨⟨b, ha⟩, hp⟩ := hc
      refine .inl ⟨⟨b, ha⟩, ?_⟩
      simpa [atomicHashMap, hlisted b a ha] using hp
    | own u part =>
      by_cases hu : u = t
      · subst hu
        cases part with
        | newEntry => exact .inr (.inl ⟨rfl, by simpa [atomicHashMap] using hc.2.symm⟩)
        | newValue => exact .inr (.inr ⟨rfl, by simpa [atomicHashMap] using hc.2.symm⟩)
        | oldValue => simp [Claims, Local.Claims, atomicHashMap] at hc
      · have hother : ((((atomicHashMap k).action
            (.newEntry t v entry entryValue value)).effect s).loc u) = s.loc u :=
          Function.update_of_ne hu _ _
        simp only [Claims, hother] at hc
        refine .inl (((s.loc u).claims_congr ?_ part p).mp hc)
        intro hown
        simp [atomicHashMap, howned u hown]
  have hshared : ∀ p, Shared s lists p →
      Shared (((atomicHashMap k).action (.newEntry t v entry entryValue value)).effect s)
        lists p := by
    refine fun p hp => hp.mono (t := t) rfl (by simp [hpc]) ?_
    rintro a ⟨⟨b, ha⟩, hp⟩
    refine .inl ⟨a, ⟨b, ha⟩, ?_⟩
    simpa [atomicHashMap, hlisted b a ha] using hp
  refine h.of_step (t := t) (h.owned.allocate hclaims ?_ ?_ ?_) rfl ?_ (by simp [Reading])
  · rintro c p (⟨-, rfl⟩ | ⟨-, rfl⟩)
    · simp [State.Live, hdeadEntry]
    · simp [State.Live, hdeadValue]
  · -- the two objects are different ones
    rintro c c' p (⟨rfl, hp⟩ | ⟨rfl, hp⟩) (⟨rfl, hp'⟩ | ⟨rfl, hp'⟩)
    · rfl
    · exact absurd (hp.symm.trans hp') hne
    · exact absurd (hp'.symm.trans hp) hne
    · rfl
  · rintro c p (hold | ⟨-, rfl⟩ | ⟨-, rfl⟩)
    · have hlive := h.owned.live hold
      exact fun hnone => hlive ((hvalues p hlive).symm.trans hnone)
    · simp [State.Live, atomicHashMap, Function.update_of_ne hne]
    · simp [State.Live, atomicHashMap]
  · intro u p _ hcopy hp hpshared
    exact ⟨hvalues p (h.readers u hcopy p hp).1, hshared p hpshared⟩

/-- An exchange: the entry takes the value of the `Set`, and the `Set` the
    one of the entry. -/
theorem Memory.step_setCasValue (h : Memory s lists) (hinv : InvOn s lists) {a : Nat}
    (hg : ((atomicHashMap k).action (.setCasValue t a)).gate s) :
    Memory (((atomicHashMap k).action (.setCasValue t a)).effect s) lists := by
  obtain ⟨hpc, htarget, hold⟩ := hg
  have hthread := hinv.threads t
  simp only [ThreadInv, hpc, htarget] at hthread
  obtain ⟨_, ⟨rfl⟩, hmem, hkey⟩ := hthread
  have howned : ∀ u, (s.loc u).owns = true → (s.loc u).newEntry ≠ a := by
    rintro u hown rfl
    exact (hinv.fresh u hown).unlinked _ hmem
  have hother : ∀ u, u ≠ t →
      ((((atomicHashMap k).action (.setCasValue t a)).effect s).loc u) = s.loc u :=
    fun u hu => Function.update_of_ne hu _ _
  -- the entry now has what the `Set` had, and the `Set` what the entry had
  let σ : Equiv.Perm (Claim Tid) :=
    (Equiv.swap (Claim.own t .oldValue) (Claim.own t .newValue)).trans
      (Equiv.swap (Claim.published a) (Claim.own t .newValue))
  have hclaims : ∀ c p,
      Claims (((atomicHashMap k).action (.setCasValue t a)).effect s) lists c p →
      Claims s lists (σ c) p := by
    intro c p hc
    cases c with
    | published x =>
      obtain ⟨hx, hp⟩ := hc
      by_cases hxa : x = a
      · subst hxa
        have hσ : σ (.published x) = .own t .newValue := by
          simp [σ, Equiv.swap_apply_of_ne_of_ne]
        rw [hσ]
        refine ⟨by simp [Local.holdsValue, hpc], ?_⟩
        simpa [atomicHashMap] using hp
      · have hσ : σ (.published x) = .published x := by
          simp [σ, Equiv.swap_apply_of_ne_of_ne, hxa]
        rw [hσ]
        refine ⟨hx, ?_⟩
        simpa [atomicHashMap, hxa] using hp
    | own u part =>
      by_cases hu : u = t
      · subst hu
        cases part with
        | newEntry =>
          have hσ : σ (.own u .newEntry) = .own u .newEntry := by
            simp [σ, Equiv.swap_apply_of_ne_of_ne]
          have hown : (s.loc u).owns = true := by simp [Local.owns, hpc]
          rw [hσ]
          refine ⟨hown, ?_⟩
          simpa [atomicHashMap, howned u hown] using hc.2
        | newValue => simp [Claims, Local.Claims, Local.holdsValue, atomicHashMap] at hc
        | oldValue =>
          have hσ : σ (.own u .oldValue) = .published a := by simp [σ]
          rw [hσ]
          refine ⟨⟨_, hmem⟩, ?_⟩
          rw [hold]
          simpa [atomicHashMap] using hc.2
      · have hσ : σ (.own u part) = .own u part := by
          simp [σ, Equiv.swap_apply_of_ne_of_ne, hu]
        rw [hσ]
        simp only [Claims, hother u hu] at hc
        refine ((s.loc u).claims_congr ?_ part p).mp hc
        intro hown
        simp [atomicHashMap, howned u hown]
  have hshared : ∀ p, Shared s lists p →
      Shared (((atomicHashMap k).action (.setCasValue t a)).effect s) lists p := by
    refine fun p hp => hp.mono (t := t) rfl (by simp [hpc]) ?_
    rintro x ⟨hx, hp⟩
    by_cases hxa : x = a
    · -- what the entry had is what the `Set` is going to delete
      refine .inr ⟨t, ?_⟩
      subst hxa
      simp [Claims, Local.Claims, atomicHashMap, ← hold, hp]
    · refine .inl ⟨x, hx, ?_⟩
      simpa [atomicHashMap, hxa] using hp
  exact h.of_step (t := t) (h.owned.move σ hclaims) rfl
    (fun u p _ _ _ hp => ⟨rfl, hshared p hp⟩) (by simp [Reading])

/-- The value of the new entry is published with it. -/
theorem Memory.step_setCasNext (h : Memory s lists)
    (hg : ((atomicHashMap k).action (.setCasNext t)).gate s)
    (hold : ∀ b, ∀ a ∈ lists b, a ∈ lists' b)
    (hnew : ∀ b, ∀ a ∈ lists' b, a ∈ lists b ∨ a = (s.loc t).newEntry) :
    Memory (((atomicHashMap k).action (.setCasNext t)).effect s) lists' := by
  obtain ⟨hpc, -⟩ := hg
  have hrest := setLink_rest s (s.loc t).key (some (s.loc t).newEntry) (s.loc t).prev
  have hptr : ∀ x, ((((atomicHashMap k).action (.setCasNext t)).effect s).entries x).valuePtr =
      (s.entries x).valuePtr := fun x => (setLink_entries s _ _ _ x).2
  have hvalues : (((atomicHashMap k).action (.setCasNext t)).effect s).values = s.values :=
    hrest.2.1
  have hloc : (((atomicHashMap k).action (.setCasNext t)).effect s).loc =
      Function.update s.loc t { s.loc t with pc := .deleteNewValue } :=
    congrArg (Function.update · t _) hrest.2.2.2.2.2
  have hown : (s.loc t).owns = true := by simp [Local.owns, hpc]
  -- the value stays in the entry, which is no longer the thread's own
  let σ : Equiv.Perm (Claim Tid) :=
    Equiv.swap (Claim.published (s.loc t).newEntry) (Claim.own t .newEntry)
  have hclaims : ∀ c p,
      Claims (((atomicHashMap k).action (.setCasNext t)).effect s) lists' c p →
      Claims s lists (σ c) p := by
    intro c p hc
    cases c with
    | published x =>
      obtain ⟨⟨b, hx⟩, hp⟩ := hc
      rw [hptr] at hp
      by_cases hxa : x = (s.loc t).newEntry
      · have hσ : σ (.published x) = .own t .newEntry := by simp [σ, hxa]
        rw [hσ]
        exact ⟨hown, hxa ▸ hp⟩
      · have hσ : σ (.published x) = .published x := by
          simp [σ, Equiv.swap_apply_of_ne_of_ne, hxa]
        rw [hσ]
        exact ⟨⟨b, (hnew b x hx).resolve_right hxa⟩, hp⟩
    | own u part =>
      by_cases hu : u = t
      · subst hu
        simp only [Claims, hloc, Function.update_self] at hc
        cases part with
        | newEntry => simp [Local.Claims, Local.owns] at hc
        | newValue =>
          have hσ : σ (.own u .newValue) = .own u .newValue := by
            simp [σ, Equiv.swap_apply_of_ne_of_ne]
          rw [hσ]
          exact ⟨by simp [Local.holdsValue, hpc], hc.2⟩
        | oldValue => simp [Local.Claims] at hc
      · have hσ : σ (.own u part) = .own u part := by
          simp [σ, Equiv.swap_apply_of_ne_of_ne, hu]
        rw [hσ]
        simp only [Claims, hloc, Function.update_of_ne hu] at hc
        exact ((s.loc u).claims_congr (fun _ => hptr _) part p).mp hc
  have hshared : ∀ p, Shared s lists p →
      Shared (((atomicHashMap k).action (.setCasNext t)).effect s) lists' p := by
    refine fun p hp => hp.mono hloc (by simp [hpc]) ?_
    rintro x ⟨⟨b, hx⟩, hp⟩
    exact .inl ⟨x, ⟨b, hold b x hx⟩, (hptr x).trans hp⟩
  have hlive : (((atomicHashMap k).action (.setCasNext t)).effect s).Live = s.Live := by
    funext p
    simp [State.Live, hvalues]
  refine h.of_step ?_ hloc (fun u p _ _ _ hp => ⟨congrFun hvalues p, hshared p hp⟩)
    (by simp [Reading])
  rw [hlive]
  exact h.owned.move σ hclaims

/-- **Deletion** of a value that the thread has of its own and that nobody
    is about to copy. -/
theorem Memory.delete (h : Memory s lists) {part : Part} {freed : Nat}
    (hgone : (s.loc t).Claims s.entries part freed)
    (hentries : s'.entries = s.entries) (hvalues : s'.values = Function.update s.values freed none)
    (hloc : s'.loc = Function.update s.loc t l) (hpc : l.pc ≠ .getCopy)
    (hclaims : ∀ x p, l.Claims s.entries x p → (s.loc t).Claims s.entries x p ∧ x ≠ part)
    (hold : ∀ p, (s.loc t).Claims s.entries .oldValue p → p = freed)
    (hread : ∀ u p, (s.loc u).pc = .getCopy → (s.loc u).value = some p → Shared s lists p →
      p ≠ freed) : Memory s' lists := by
  have hclaims' : ∀ c p, Claims s' lists c p → Claims s lists c p ∧ c ≠ .own t part := by
    intro c p hc
    cases c with
    | published a =>
      rw [Claims, hentries] at hc
      exact ⟨hc, by simp⟩
    | own u x =>
      rw [Claims, hloc, hentries] at hc
      by_cases hu : u = t
      · subst hu
        rw [Function.update_self] at hc
        obtain ⟨hbefore, hne⟩ := hclaims x p hc
        exact ⟨hbefore, by simpa using hne⟩
      · rw [Function.update_of_ne hu] at hc
        exact ⟨hc, by simp [hu]⟩
  have hkept : ∀ p, p ≠ freed → s'.values p = s.values p := by
    intro p hp
    rw [hvalues, Function.update_of_ne hp]
  have hclaim : Claims s lists (.own t part) freed := hgone
  refine h.of_step (h.owned.free hclaim hclaims' ?_) hloc ?_
    (fun hcopy => absurd hcopy hpc)
  · intro p hp hlive
    simpa [State.Live, hkept p hp] using hlive
  · intro u p _ hcopy hp hshared
    have hne := hread u p hcopy hp hshared
    refine ⟨hkept p hne, ?_⟩
    rcases hshared with ⟨a, ha⟩ | ⟨w, hw⟩
    · refine .inl ⟨a, ?_⟩
      rw [Claims, hentries]
      exact ha
    · -- the thread itself could only have retired what it frees
      have hwt : w ≠ t := by
        rintro rfl
        exact hne (hold p hw)
      refine .inr ⟨w, ?_⟩
      rw [Claims, hloc, hentries, Function.update_of_ne hwt]
      exact hw

omit [DecidableEq Tid] in
/-- What only one thread has is not shared. -/
theorem Memory.not_shared (h : Memory s lists) {part : Part} {p : Nat} (hpart : part ≠ .oldValue)
    (hown : (s.loc t).Claims s.entries part p) : ¬ Shared s lists p := by
  have hclaim : Claims s lists (.own t part) p := hown
  rintro (⟨a, ha⟩ | ⟨u, hu⟩)
  · have := h.owned.alone ha hclaim
    simp at this
  · have heq := h.owned.alone hu hclaim
    simp only [Claim.own.injEq] at heq
    exact hpart heq.2.symm

end steps

/-! ## Section 3: The condition -/

/-- The condition: a `Set` deletes the value it has replaced when no `Get`
    that has loaded its pointer is still about to copy it. -/
def Unread (s : State k Tid V) : Label Tid V → Prop
  | .deleteOldValue t =>
    ∀ u, (s.loc u).pc = .getCopy → (s.loc u).value ≠ some (s.loc t).oldValue
  | _ => True

instance decidableUnread [Fintype Tid] (s : State k Tid V) :
    ∀ a : Label Tid V, Decidable (Unread s a)
  | .deleteOldValue t =>
    inferInstanceAs (Decidable (∀ u, (s.loc u).pc = .getCopy →
      (s.loc u).value ≠ some (s.loc t).oldValue))
  | .call .. | .newEntry .. | .walkLoad _ | .walkOn .. | .found .. | .missed _ | .getLoad ..
  | .getCopy .. | .setLoadValue .. | .setCasValue .. | .setCasValueFail .. | .setStoreNext _
  | .setCasNext _ | .setCasNextFail _ | .deleteNewEntry _ | .deleteNewValue _ => .isTrue trivial

section condition
variable [DecidableEq Tid] {s : State k Tid V} {lists : Fin (2 ^ k) → List Nat} {t : Tid}

theorem Memory.step_deleteOldValue (h : Memory s lists)
    (hg : ((atomicHashMap k).action (.deleteOldValue t)).gate s)
    (hunread : Unread s (.deleteOldValue t)) :
    Memory (((atomicHashMap k).action (.deleteOldValue t)).effect s) lists := by
  have hpc : (s.loc t).pc = .deleteOldValue := hg
  have hloc : (((atomicHashMap k).action (.deleteOldValue t)).effect s).loc =
      Function.update s.loc t { s.loc t with pc := .deleteNewEntry } := rfl
  have hgone : (s.loc t).Claims s.entries .oldValue (s.loc t).oldValue := ⟨hpc, rfl⟩
  refine h.delete hgone rfl rfl hloc (by simp) ?_ (fun p hp => hp.2.symm) ?_
  · intro x p hc
    cases x with
    | newEntry => exact ⟨⟨by simp [Local.owns, hpc], hc.2⟩, by simp⟩
    | newValue => simp [Local.Claims, Local.holdsValue] at hc
    | oldValue => simp [Local.Claims] at hc
  · -- here the condition is needed
    rintro u p hcopy hp - rfl
    exact hunread u hcopy hp

theorem Memory.step_deleteNewEntry (h : Memory s lists)
    (hg : ((atomicHashMap k).action (.deleteNewEntry t)).gate s) :
    Memory (((atomicHashMap k).action (.deleteNewEntry t)).effect s) lists := by
  have hpc : (s.loc t).pc = .deleteNewEntry := hg
  have hloc : (((atomicHashMap k).action (.deleteNewEntry t)).effect s).loc =
      Function.update s.loc t { s.loc t with pc := .idle } := rfl
  have hgone : (s.loc t).Claims s.entries .newEntry (s.entries (s.loc t).newEntry).valuePtr :=
    ⟨by simp [Local.owns, hpc], rfl⟩
  refine h.delete hgone rfl rfl hloc (by simp) ?_ ?_ ?_
  · intro x p hc
    cases x <;> simp [Local.Claims, Local.owns, Local.holdsValue] at hc
  · intro p hp
    simp [Local.Claims, hpc] at hp
  · rintro u p - - hshared rfl
    exact h.not_shared (by simp) hgone hshared

theorem Memory.step_deleteNewValue (h : Memory s lists)
    (hg : ((atomicHashMap k).action (.deleteNewValue t)).gate s) :
    Memory (((atomicHashMap k).action (.deleteNewValue t)).effect s) lists := by
  have hpc : (s.loc t).pc = .deleteNewValue := hg
  have hloc : (((atomicHashMap k).action (.deleteNewValue t)).effect s).loc =
      Function.update s.loc t { s.loc t with pc := .idle } := rfl
  have hgone : (s.loc t).Claims s.entries .newValue (s.loc t).newValue :=
    ⟨by simp [Local.holdsValue, hpc], rfl⟩
  refine h.delete hgone rfl rfl hloc (by simp) ?_ ?_ ?_
  · intro x p hc
    cases x <;> simp [Local.Claims, Local.owns, Local.holdsValue] at hc
  · intro p hp
    simp [Local.Claims, hpc] at hp
  · rintro u p - - hshared rfl
    exact h.not_shared (by simp) hgone hshared

/-- `Get` loads a pointer that an entry has. -/
theorem Memory.step_getLoad (h : Memory s lists) (hinv : InvOn s lists) {a : Nat}
    (hg : ((atomicHashMap k).action (.getLoad t a)).gate s) :
    Memory (((atomicHashMap k).action (.getLoad t a)).effect s) lists := by
  obtain ⟨hpc, htarget⟩ := hg
  have hthread := hinv.threads t
  simp only [ThreadInv, hpc, htarget] at hthread
  obtain ⟨_, ⟨rfl⟩, hmem, hkey⟩ := hthread
  have hlast := (hinv.inOrder.set _ a hmem).2
  rw [hkey] at hlast
  have hclaim : Claims s lists (.published a) (s.entries a).valuePtr := ⟨⟨_, hmem⟩, rfl⟩
  simp only [atomicHashMap]
  split
  · apply h.setLoc (by simp [hpc])
    · apply Local.Claims.mono <;> simp [Local.owns, Local.holdsValue]
    · -- what the entry has is what the last `Set` of the key gave it
      rintro - p ⟨rfl⟩
      exact ⟨h.owned.live hclaim, by simp [hlast], .inl ⟨a, hclaim⟩⟩
  · apply h.setLoc (by simp [hpc])
    · apply Local.Claims.mono <;> simp [Local.owns, Local.holdsValue]
    · simp [Reading]

/-- **Every step** that meets the condition keeps the values where they are
    needed. -/
theorem Memory.step (h : Memory s lists) (hinv : InvOn s lists) (a : Label Tid V)
    (hg : ((atomicHashMap k).action a).gate s) (hunread : Unread s a) :
    ∃ lists', InvOn (((atomicHashMap k).action a).effect s) lists' ∧
      Memory (((atomicHashMap k).action a).effect s) lists' := by
  have hsame : Kept s lists a →
      Memory (((atomicHashMap k).action a).effect s) lists →
      ∃ lists', InvOn (((atomicHashMap k).action a).effect s) lists' ∧
        Memory (((atomicHashMap k).action a).effect s) lists' :=
    fun hstep hmemory => ⟨lists, hstep.1, hmemory⟩
  cases a with
  | call t op key =>
    have hpc : (s.loc t).pc = .idle := hg
    refine hsame hinv.step_call ?_
    cases op
    all_goals
      refine h.frame (t := t) rfl (fun _ => rfl) rfl (by simp [hpc]) ?_ (by simp [Reading])
      apply Local.Claims.mono <;> simp [Local.owns, Local.holdsValue, Op.sets]
  | newEntry t v entry entryValue value =>
    exact hsame (hinv.step_newEntry hg) (h.step_newEntry hinv hg)
  | walkLoad t =>
    have hpc : (s.loc t).pc = .walkLoad := hg
    refine hsame (hinv.step_walkLoad hg) (h.setLoc (by simp [hpc]) ?_ (by simp [Reading]))
    apply Local.Claims.mono <;> simp [Local.owns, Local.holdsValue, hpc]
  | walkOn t a =>
    have hpc := hg.1
    refine hsame (hinv.step_walkOn hg) (h.setLoc (by simp [hpc]) ?_ (by simp [Reading]))
    apply Local.Claims.mono <;> simp [Local.owns, Local.holdsValue, hpc]
  | found t a =>
    have hpc := hg.1
    refine hsame (hinv.step_found hg) (h.setLoc (by simp [hpc]) ?_ ?_)
    · apply Local.Claims.mono <;> cases hop : (s.loc t).op <;>
        simp [Local.owns, Local.holdsValue, Op.found, Op.sets, hpc, hop]
    · cases hop : (s.loc t).op <;> simp [Reading, Op.found]
  | missed t =>
    have hpc := hg.1
    refine hsame (hinv.step_missed hg) (h.setLoc (by simp [hpc]) ?_ ?_)
    · apply Local.Claims.mono <;> cases hop : (s.loc t).op <;>
        simp [Local.owns, Local.holdsValue, Op.missed, Op.sets, hpc, hop]
    · cases hop : (s.loc t).op <;> simp [Reading, Op.missed]
  | getLoad t a => exact hsame (hinv.step_getLoad hg) (h.step_getLoad hinv hg)
  | getCopy t p =>
    have hpc := hg.1
    refine hsame (hinv.step_getCopy hg) (h.setLoc (by simp [hpc]) ?_ (by simp [Reading]))
    apply Local.Claims.mono <;> simp [Local.owns, Local.holdsValue]
  | setLoadValue t a =>
    have hpc := hg.1
    refine hsame (hinv.step_setLoadValue hg) (h.setLoc (by simp [hpc]) ?_ (by simp [Reading]))
    apply Local.Claims.mono <;> simp [Local.owns, Local.holdsValue, hpc]
  | setCasValue t a => exact hsame (hinv.step_setCasValue hg) (h.step_setCasValue hinv hg)
  | setCasValueFail t a =>
    have hpc := hg.1
    refine hsame (hinv.retry (.inl hpc)) (h.setLoc (by simp [hpc]) ?_ (by simp [Reading]))
    apply Local.Claims.mono <;> simp [Local.owns, Local.holdsValue, hpc]
  | setStoreNext t =>
    have hpc : (s.loc t).pc = .setStoreNext := hg
    refine hsame (hinv.step_setStoreNext hg) ?_
    refine h.frame (t := t) rfl ?_ rfl (by simp [hpc]) ?_ (by simp [Reading])
    · intro a
      by_cases ha : a = (s.loc t).newEntry <;> simp [atomicHashMap, ha]
    · apply Local.Claims.mono <;> simp [Local.owns, Local.holdsValue, hpc]
  | setCasNext t =>
    obtain ⟨lists', hinv', hext, hnew⟩ := hinv.step_setCasNext hg
    exact ⟨lists', hinv', h.step_setCasNext hg (fun b _ ha => (hext.sublist b).subset ha) hnew⟩
  | setCasNextFail t =>
    have hpc := hg.1
    refine hsame (hinv.retry (.inr hpc)) (h.setLoc (by simp [hpc]) ?_ (by simp [Reading]))
    apply Local.Claims.mono <;> simp [Local.owns, Local.holdsValue, hpc]
  | deleteOldValue t =>
    exact hsame (hinv.step_deleteOldValue hg) (h.step_deleteOldValue hg hunread)
  | deleteNewEntry t => exact hsame (hinv.step_deleteNewEntry hg) (h.step_deleteNewEntry hg)
  | deleteNewValue t => exact hsame (hinv.step_deleteNewValue hg) (h.step_deleteNewValue hg)

theorem memory_reachable (h : ((atomicHashMap k).restrict Unread).Reachable s) :
    ∃ lists, InvOn s lists ∧ Memory s lists := by
  apply System.invariant (P := fun s => ∃ lists, InvOn s lists ∧ Memory s lists) _ _ h
  · exact fun s hi => ⟨_, invOn_init hi, memory_init hi⟩
  · rintro s a ⟨lists, hinv, hmemory⟩ ⟨hg, hunread⟩
    exact hmemory.step hinv a hg hunread

/-! ## Section 4: Copies -/

/-- **No retired value**: in every run that meets the condition the object
    that `Get` copies has not been deleted, and what is copied is the value
    that was current under the key when `Get` loaded the pointer. -/
theorem getCopy_current (s s' : State k Tid V)
    (h : ((atomicHashMap k).restrict Unread).Reachable s) (t : Tid) (p : Nat)
    (hs : (atomicHashMap k).step s (.getCopy t p) s') :
    ∃ v, s.values p = some v ∧ (s.loc t).seen = some v ∧ (s'.loc t).copied = some v := by
  obtain ⟨lists, -, hmemory⟩ := memory_reachable h
  obtain ⟨⟨hpc, hvalue⟩, rfl⟩ := hs
  obtain ⟨hlive, hseen, -⟩ := hmemory.readers t hpc p hvalue
  obtain ⟨v, hv⟩ := Option.ne_none_iff_exists'.mp hlive
  exact ⟨v, hv, hseen.symm.trans hv, by simp [atomicHashMap, hv]⟩

end condition

/-- Thread 0 has set a key, and thread 1 loads the pointer of the value. -/
def setAndLoad : List (Label (Fin 2) Nat) :=
  [.call 0 (.set 7) 3, .newEntry 0 7 0 0 1, .walkLoad 0, .missed 0, .setStoreNext 0,
    .setCasNext 0, .deleteNewValue 0,
    .call 1 .getCopy 3, .walkLoad 1, .found 1 0, .getLoad 1 0]

/-- Thread 0 replaces the value and is about to delete it. -/
def replace : List (Label (Fin 2) Nat) :=
  [.call 0 (.set 8) 3, .newEntry 0 8 1 2 3, .walkLoad 0, .found 0 0, .setLoadValue 0 0,
    .setCasValue 0 0]

/-- Thread 1 copies before the deletion. -/
theorem getCopy_current_inTime :
    ∃ s s' : State 1 (Fin 2) Nat, (atomicHashMap 1).step s (.getCopy 1 0) s' ∧
      ∃ v, s.values 0 = some v ∧ (s.loc 1).seen = some v ∧ (s'.loc 1).copied = some v := by
  let as := setAndLoad ++ replace
  have hreach : ((atomicHashMap 1).restrict Unread).Reachable
      (((atomicHashMap 1).restrict Unread).exec initial as) :=
    System.reachable_exec ((atomicHashMap 1).restrict Unread) initial_init as (by decide)
  have hs : (atomicHashMap 1).step (((atomicHashMap 1).restrict Unread).exec initial as)
      (.getCopy 1 0) _ := ⟨by decide, rfl⟩
  exact ⟨_, _, hs, getCopy_current _ _ hreach 1 0 hs⟩

/-- Thread 1 copies after the deletion: the object is gone. -/
theorem getCopy_deleted :
    ∃ s : State 1 (Fin 2) Nat, (atomicHashMap 1).Reachable s ∧
      ((atomicHashMap 1).action (.getCopy 1 0)).gate s ∧ s.values 0 = none := by
  let as := setAndLoad ++ replace ++ [.deleteOldValue 0]
  have hreach : (atomicHashMap 1).Reachable ((atomicHashMap 1).exec initial as) :=
    System.reachable_exec _ initial_init as (by decide)
  exact ⟨_, hreach, by decide, by decide⟩

end CyberRT.Base.AtomicHashMap
