import CyberRT.Transport.Shm.SegmentLayout

/-! # How a Segment object counts itself

    `OpenOrCreate` and `OpenOnly` count the object in at their end, and
    `Destroy` counts it out. Between the two the object may be in the middle
    of `Destroy`, of `Remap` or of `Recreate`; the last two let go of the
    segment without counting the object out.

    * **Standing**: where an object is counted and what it has mapped, read
      off its members and its place.
    * **Changes**: what a step can do to the counts, the registered segment
      and the standing of the object that takes it. -/

namespace CyberRT.Transport.Shm.Segment

open CyberRT.Framework

/-! ## Section 1: Standing -/

/-- A counted object that is not initialised any more. -/
def Pc.keepsCount : Pc → Bool
  | .setNeedRemap | .reset .remap | .reset .recreate | .decreaseReferenceCounts => true
  | _ => false

/-- The object has mapped the segment it is about to be counted in. -/
def Pc.pending : Pc → Bool
  | .newState | .loadCeilingCreate | .newBlocks | .loadCeilingOpen
  | .increaseReferenceCounts => true
  | _ => false

/-- The caller of `Remove`, inside of it. -/
def Pc.removes : Pc → Option RemoveBy
  | .shmgetRemove by_ | .shmctlRemove by_ => some by_
  | _ => none

namespace Object

/-- The segment whose count includes the object. -/
def counted (l : Object) : Option Nat :=
  if l.init = true ∨ l.pc.keepsCount = true then l.state else none

/-- The segment the object has mapped. -/
def mapped (l : Object) : Option Nat :=
  match l.managedShm with
  | .attached k => some k
  | _           => none

/-- The segment the object is about to remove. -/
def removing (g : Kernel) (l : Object) : Option (RemoveBy × Nat) :=
  match l.pc with
  | .shmgetRemove by_ => g.key.map fun k => (by_, k)
  | .shmctlRemove by_ => some (by_, l.shmid)
  | _                 => none

variable {l l' : Object} {g : Kernel}

theorem counted_of_init (h : l.init = true) : l.counted = l.state := if_pos (.inl h)

theorem counted_of_keepsCount (h : l.pc.keepsCount = true) : l.counted = l.state :=
  if_pos (.inr h)

theorem counted_eq_ite (h : l.pc.keepsCount = false) :
    l.counted = if l.init = true then l.state else none := by
  simp only [counted, h, Bool.false_eq_true, or_false]

theorem counted_eq_none (hinit : l.init = false) (hpc : l.pc.keepsCount = false) :
    l.counted = none := by
  rw [counted_eq_ite hpc, hinit]
  rfl

theorem mapped_congr (h : l'.managedShm = l.managedShm) : l'.mapped = l.mapped := by
  unfold mapped
  rw [h]

theorem removing_eq_none (h : l.pc.removes = none) : l.removing g = none := by
  unfold removing
  cases hpc : l.pc with
  | shmgetRemove | shmctlRemove =>
    rw [hpc] at h
    cases h
  | _ => rfl

end Object

/-- What is known of an object at its place. -/
def Place (g : Kernel) (l : Object) : Prop :=
  match l.pc with
  | .idle | .crashed => True
  | .needRemap | .wroteNum | .tryLockForWrite | .increaseWroteNum | .writing
  | .tryLockForRead | .reading => l.init = true
  | .setNeedRemap | .reset .remap | .decreaseReferenceCounts
  | .shmgetRemove .destroy | .shmctlRemove .destroy => l.init = false
  | .reset .recreate | .reset .einval | .shmgetCreate | .rmidCreate
  | .shmgetRemove .recreate | .shmgetRemove .einval
  | .shmctlRemove .recreate | .shmctlRemove .einval => l.init = false ∧ l.opening ≠ .remap
  | .shmatCreate => (l.init = false ∧ l.opening ≠ .remap) ∧ l.shmid < g.next
  | .newState => l.init = false ∧ l.shmid < g.next ∧ l.mapped = some l.shmid
  | .loadCeilingCreate | .newBlocks | .loadCeilingOpen | .increaseReferenceCounts =>
    l.init = false ∧ ∃ k < g.next, l.state = some k ∧ l.mapped = some k
  -- `Remap` has let go of its segment
  | .shmgetOpen => l.init = false ∧ (l.opening = .remap → l.state = none)
  | .shmatOpen => (l.init = false ∧ (l.opening = .remap → l.state = none)) ∧ l.shmid < g.next
  | .referenceCounts => l.init = false ∧ ∀ k, l.state = some k → l.mapped = some k

/-- **Invariant**: a counted object has mapped the segment. -/
structure Standing (g : Kernel) (l : Object) : Prop where
  counted : ∀ k, l.counted = some k → l.mapped = some k ∧ k < g.next
  place   : Place g l

/-- Inside of `Remove`. -/
theorem Place.removes {g : Kernel} {l : Object} {by_ : RemoveBy} (h : Place g l)
    (hpc : l.pc.removes = some by_) :
    l.init = false ∧ (by_ ≠ .destroy → l.opening ≠ .remap) := by
  unfold Place at h
  cases hat : l.pc with
  | shmgetRemove b | shmctlRemove b =>
    rw [hat] at h hpc
    cases hpc
    cases by_ with
    | destroy => exact ⟨h, fun hne => absurd rfl hne⟩
    | recreate | einval => exact ⟨h.1, fun _ => h.2⟩
  | _ =>
    rw [hat] at hpc
    cases hpc

/-- About to let go of the segment. -/
theorem Place.reset {g : Kernel} {l : Object} {by_ : ResetBy} (h : Place g l)
    (hpc : l.pc = .reset by_) : l.init = false ∧ (by_ ≠ .remap → l.opening ≠ .remap) := by
  unfold Place at h
  rw [hpc] at h
  cases by_ with
  | remap => exact ⟨h, fun hne => absurd rfl hne⟩
  | recreate | einval => exact ⟨h.1, fun _ => h.2⟩

theorem Standing.stable {g g' : Kernel} {l : Object} (h : Standing g l) (hnext : g.next ≤ g'.next) :
    Standing g' l := by
  refine ⟨fun k hk => ⟨(h.counted k hk).1, Nat.lt_of_lt_of_le (h.counted k hk).2 hnext⟩, ?_⟩
  have hplace := h.place
  unfold Place at hplace ⊢
  cases hpc : l.pc with
  | shmatCreate | shmatOpen =>
    rw [hpc] at hplace
    exact ⟨hplace.1, Nat.lt_of_lt_of_le hplace.2 hnext⟩
  | newState =>
    rw [hpc] at hplace
    exact ⟨hplace.1, Nat.lt_of_lt_of_le hplace.2.1 hnext, hplace.2.2⟩
  | loadCeilingCreate | newBlocks | loadCeilingOpen | increaseReferenceCounts =>
    rw [hpc] at hplace
    obtain ⟨hinit, k, hk, hstate⟩ := hplace
    exact ⟨hinit, k, Nat.lt_of_lt_of_le hk hnext, hstate⟩
  | reset by_ | shmgetRemove by_ | shmctlRemove by_ =>
    rw [hpc] at hplace
    cases by_ <;> exact hplace
  | _ =>
    rw [hpc] at hplace
    exact hplace

/-- The object has come to a place outside of `Remove`, and its count says
    whether it is initialised. -/
structure Lands (l l' : Object) : Prop where
  place      : ∀ g, Place g l'
  counted    : l'.counted = if l.init = true then l.state else none
  managedShm : l'.managedShm = l.managedShm
  pending    : l'.pc.pending = false
  removes    : l'.pc.removes = none

section lands

variable {l : Object}

theorem lands_idle (l : Object) : Lands l (l.goto .idle) := by
  refine ⟨fun _ => trivial, ?_, rfl, rfl, rfl⟩
  cases hinit : l.init with
  | true => exact Object.counted_of_init hinit
  | false => exact Object.counted_eq_none hinit rfl

/-- A place an initialised object goes on from. -/
theorem lands_goto (hinit : l.init = true) (pc : Pc) (hplace : ∀ g, Place g (l.goto pc))
    (hpending : pc.pending = false) (hremoves : pc.removes = none) : Lands l (l.goto pc) := by
  refine ⟨hplace, ?_, rfl, hpending, hremoves⟩
  rw [if_pos hinit]
  exact Object.counted_of_init hinit

/-- A place an object goes to that is not initialised. -/
theorem lands_off {l' : Object} (hinit : l.init = false) (hinit' : l'.init = false)
    (hpc : l'.pc.keepsCount = false) (hplace : ∀ g, Place g l')
    (hmanaged : l'.managedShm = l.managedShm) (hpending : l'.pc.pending = false)
    (hremoves : l'.pc.removes = none) : Lands l l' := by
  refine ⟨hplace, ?_, hmanaged, hpending, hremoves⟩
  rw [hinit]
  exact Object.counted_eq_none hinit' hpc

theorem checkIndex_lands (hinit : l.init = true) : Lands l l.checkIndex := by
  unfold Object.checkIndex
  split
  · exact lands_goto hinit _ (fun _ => hinit) rfl rfl
  · exact lands_idle l

theorem checkSize_lands {result : Bool} (hresult : result = l.init)
    (hstate : l.init = false → l.state = none) : Lands l (l.checkSize result) := by
  unfold Object.checkSize
  split
  · split
    · next k hk =>
      -- `Recreate` begins, with the object still counted
      have hinit : l.init = true := by
        cases hinit : l.init with
        | true => rfl
        | false =>
          rw [hstate hinit] at hk
          cases hk
      exact ⟨fun _ => rfl, (if_pos hinit).symm, rfl, rfl, rfl⟩
    · next hnone =>
      refine ⟨fun _ => trivial, ?_, rfl, rfl, rfl⟩
      rw [hnone, ite_self]
      exact Object.counted_eq_none rfl rfl
  · split
    · next hok =>
      have hinit : l.init = true := hresult.symm.trans hok
      exact lands_goto hinit _ (fun _ => hinit) rfl rfl
    · exact lands_idle l

theorem opened_lands {ok : Bool} (hok : ok = l.init)
    (hremap : l.init = false → l.opening = .remap → l.state = none) : Lands l (l.opened ok) := by
  have hgoto : ∀ pc, (∀ g, l.init = true → Place g (l.goto pc)) → pc.pending = false →
      pc.removes = none → Lands l (if ok = true then l.goto pc else l.goto .idle) := by
    intro pc hplace hpending hremoves
    split
    · next h =>
      have hinit : l.init = true := hok.symm.trans h
      exact lands_goto hinit pc (fun g => hplace g hinit) hpending hremoves
    · exact lands_idle l
  unfold Object.opened
  split
  · exact hgoto .needRemap (fun _ hinit => hinit) rfl rfl
  · split
    · next h => exact checkIndex_lands (hok.symm.trans h)
    · exact lands_idle l
  · next hopening _ => exact checkSize_lands hok fun hinit => hremap hinit hopening
  · exact hgoto .tryLockForRead (fun _ hinit => hinit) rfl rfl
  · exact hgoto .wroteNum (fun _ hinit => hinit) rfl rfl

theorem callInit_lands (hinit : l.init = false) : Lands l l.callInit := by
  unfold Object.callInit
  split
  · exact lands_off hinit hinit rfl (fun _ => ⟨hinit, nofun⟩) rfl rfl rfl
  · exact lands_off hinit hinit rfl (fun _ => ⟨hinit, nofun⟩) rfl rfl rfl

theorem removed_lands (hinit : l.init = false) {by_ : RemoveBy}
    (hopening : by_ ≠ .destroy → l.opening ≠ .remap) : Lands l (l.removed by_) := by
  cases by_ with
  | recreate =>
    have hplace : l.init = false ∧ l.opening ≠ .remap := ⟨hinit, hopening nofun⟩
    exact lands_off hinit hinit rfl (fun _ => hplace) rfl rfl rfl
  | einval =>
    have hplace : l.init = false ∧ l.opening ≠ .remap := ⟨hinit, hopening nofun⟩
    unfold Object.removed
    dsimp only
    split
    · exact lands_off hinit hinit rfl (fun _ => hplace) rfl rfl rfl
    · have hlands := @opened_lands { l with retry := l.retry + 1 } false hinit.symm
        fun _ hremap => absurd hremap hplace.2
      exact ⟨hlands.place, hlands.counted, hlands.managedShm, hlands.pending, hlands.removes⟩
  | destroy => exact lands_idle l

theorem Lands.of_same {m l' : Object} (h : Lands m l') (hinit : m.init = l.init)
    (hstate : m.state = l.state) (hmanaged : m.managedShm = l.managedShm) : Lands l l' := by
  refine ⟨h.place, ?_, h.managedShm.trans hmanaged, h.pending, h.removes⟩
  rw [h.counted, hinit, hstate]

/-- Where an object lands it keeps its standing. -/
theorem Lands.standing {l' : Object} (h : Lands l l') {g : Kernel}
    (hcounted : ∀ k, l.init = true → l.state = some k → l.mapped = some k ∧ k < g.next) :
    Standing g l' := by
  refine ⟨fun k hk => ?_, h.place g⟩
  rw [h.counted] at hk
  split at hk
  · next hinit =>
    rw [Object.mapped_congr h.managedShm]
    exact hcounted k hinit hk
  · cases hk

end lands

/-! ## Section 2: Steps and standing -/

section steps

variable {g : Kernel} {l : Object}

/-- The registered segment and the counts are as they were. -/
def SameCounts (g g' : Kernel) : Prop :=
  g'.key = g.key ∧ ∀ k, (g'.shms k).referenceCount = (g.shms k).referenceCount

/-- Only the count of `k` has changed, to `n`. -/
def CountsTo (g g' : Kernel) (k n : Nat) : Prop :=
  g'.key = g.key ∧ (g'.shms k).referenceCount = n ∧
    ∀ j, j ≠ k → (g'.shms j).referenceCount = (g.shms j).referenceCount

theorem sameCounts_modify (g : Kernel) (k : Nat) (f : SharedMemory → SharedMemory)
    (hf : (f (g.shms k)).referenceCount = (g.shms k).referenceCount) :
    SameCounts g (g.modify k f) := by
  refine ⟨rfl, fun j => ?_⟩
  show (Function.update g.shms k _ j).referenceCount = _
  by_cases hj : j = k
  · rw [hj, Function.update_self, hf]
  · rw [Function.update_of_ne hj]

theorem countsTo_modify (g : Kernel) (k : Nat) (f : SharedMemory → SharedMemory) :
    CountsTo g (g.modify k f) k (f (g.shms k)).referenceCount := by
  refine ⟨rfl, ?_, fun j hj => ?_⟩
  · show (Function.update g.shms k _ k).referenceCount = _
    rw [Function.update_self]
  · show (Function.update g.shms k _ j).referenceCount = _
    rw [Function.update_of_ne hj]

/-- What a step can do to the counts, to the registered segment, and to the
    standing of the object that takes it. -/
inductive Change (g : Kernel) (l : Object) (g' : Kernel) (l' : Object) : Step → Prop where
  | stay (b : Step) (hg : SameCounts g g') (hcounted : l'.counted = l.counted)
      (hmapped : ∀ k, l'.mapped = some k → l.mapped = some k)
      (hpending : l.pc.pending = true → l'.pc.pending = true)
      (hrecreates : ∀ k, g.key = some k → l.removing g = some (.recreate, k) →
        l'.removing g' = some (.recreate, k))
      (hdestroys : ∀ k, l'.removing g' = some (.destroy, k) →
        l.removing g = some (.destroy, k)) : Change g l g' l' b
  | create (b : Step) (hkey : g.key = none) (hg : g' = g.create l.conf)
      (hcounted : l.counted = none) (hcounted' : l'.counted = none)
      (hmapped : l'.mapped = l.mapped) (hpending : l.pc.pending = false)
      (hremoving : l'.removing g' = none) : Change g l g' l' b
  | attach (b : Step) (hg : SameCounts g g') (hcounted : l.counted = none)
      (hcounted' : l'.counted = none) (hpending : l'.pc.pending = true)
      (hremoving : l.removing g = none) (hremoving' : l'.removing g' = none) : Change g l g' l' b
  | construct (k : Nat) (hk : k = l.shmid) (hg : CountsTo g g' k 0)
      (hcounted : l.counted = none) (hcounted' : l'.counted = none)
      (hmapped : l'.mapped = l.mapped) (hpending : l'.pc.pending = true)
      (hremoving : l.removing g = none) (hremoving' : l'.removing g' = none) :
      Change g l g' l' .newState
  | countIn (k : Nat) (hk : l.state = some k)
      (hg : CountsTo g g' k (((g.shms k).referenceCount + 1) % 2 ^ 32))
      (hcounted : l.counted = none) (hcounted' : l'.counted = some k)
      (hmapped : l.mapped = some k) (hmapped' : l'.mapped = some k)
      (hremoving : l.removing g = none) (hremoving' : l'.removing g' = none) :
      Change g l g' l' .increaseReferenceCounts
  | countOut (b : Step) (k : Nat) (hg : CountsTo g g' k ((g.shms k).referenceCount - 1))
      (hcounted : l.counted = some k) (hcounted' : l'.counted = none)
      (hmapped : l'.mapped = l.mapped) (hpending : l.pc.pending = false)
      (hremoving : l.removing g = none) (hremoving' : l'.removing g' = none) : Change g l g' l' b
  | leave (by_ : ResetBy) (hg : SameCounts g g') (hcounted : l.counted ≠ none → by_ ≠ .einval)
      (hcounted' : l'.counted = none) (hmapped : l'.mapped = none)
      (hpending : l.pc.pending = false) (hremoving : l.removing g = none)
      (hrecreates : by_ = .recreate → ∀ k, g.key = some k →
        l'.removing g' = some (.recreate, k))
      (hdestroys : ∀ k, l'.removing g' ≠ some (.destroy, k)) : Change g l g' l' (.reset by_)
  | unregister (b : Step) (k : Nat) (hg : g' = g.rmid k) (hcounted : l'.counted = l.counted)
      (hmapped : l'.mapped = l.mapped) (hpending : l.pc.pending = false)
      (hremoving : ∀ j, l.removing g = some (.recreate, j) → j = k)
      (hremoving' : l'.removing g' = none) : Change g l g' l' b
  | zero (k : Nat) (hk : l.state = some k) (hmapped : l.mapped = some k)
      (hzero : (g.shms k).referenceCount = 0) (hg : g' = g)
      (hcounted : l'.counted = l.counted) (hmapped' : l'.mapped = l.mapped)
      (hpending : l.pc.pending = false) (hremoving : l.removing g = none)
      (hremoving' : ∀ by_ j, l'.removing g' = some (by_, j) → by_ = .destroy ∧ g.key = some j) :
      Change g l g' l' .referenceCounts

/-- The object that took the step stands well, and the step is one of the
    changes. -/
structure Outcome (g : Kernel) (l : Object) (g' : Kernel) (l' : Object) (b : Step) : Prop where
  standing : Standing g' l'
  change   : Change g l g' l' b

theorem Lands.outcome {g' : Kernel} {l' : Object} {b : Step} (h : Lands l l') (hs : Standing g l)
    (hg : SameCounts g g') (hnext : g.next ≤ g'.next)
    (hcounted : l.counted = if l.init = true then l.state else none)
    (hpending : l.pc.pending = false)
    (hrecreates : ∀ k, g.key = some k → l.removing g ≠ some (.recreate, k)) :
    Outcome g l g' l' b := by
  have hstanding : Standing g l' := h.standing fun k hinit hk =>
    hs.counted k ((Object.counted_of_init hinit).trans hk)
  refine ⟨hstanding.stable hnext, .stay b hg (h.counted.trans hcounted.symm) ?_ ?_ ?_ ?_⟩
  · rw [Object.mapped_congr h.managedShm]
    exact fun _ hk => hk
  · rw [hpending]
    nofun
  · exact fun k hk hrem => absurd hrem (hrecreates k hk)
  · rw [Object.removing_eq_none h.removes]
    nofun

/-- An initialised object goes on. -/
theorem Lands.goesOn {g' : Kernel} {l' : Object} {b : Step} (h : Lands l l') (hs : Standing g l)
    (hg : SameCounts g g') (hnext : g.next ≤ g'.next) (hinit : l.init = true)
    (hpending : l.pc.pending = false) (hremoves : l.pc.removes = none) :
    Outcome g l g' l' b := by
  refine h.outcome hs hg hnext ?_ hpending ?_
  · rw [if_pos hinit]
    exact Object.counted_of_init hinit
  · rw [Object.removing_eq_none hremoves]
    nofun

/-- An object that is neither initialised nor counted goes on. -/
theorem Lands.goesOff {g' : Kernel} {l' : Object} {b : Step} (h : Lands l l') (hs : Standing g l)
    (hg : SameCounts g g') (hnext : g.next ≤ g'.next) (hinit : l.init = false)
    (hkeeps : l.pc.keepsCount = false) (hpending : l.pc.pending = false)
    (hrecreates : ∀ k, g.key = some k → l.removing g ≠ some (.recreate, k)) :
    Outcome g l g' l' b := by
  refine h.outcome hs hg hnext ?_ hpending hrecreates
  rw [hinit]
  exact Object.counted_eq_none hinit hkeeps

/-- An object that is not counted. -/
theorem Standing.off {l' : Object} (hcounted : l'.counted = none) (hplace : Place g l') :
    Standing g l' := by
  refine ⟨fun k hk => ?_, hplace⟩
  rw [hcounted] at hk
  cases hk

/-- A counted object goes on, and stays counted. -/
theorem Standing.keeps {g' : Kernel} {l' : Object} (h : Standing g l) (b : Step)
    (hg : SameCounts g g') (hnext : g.next ≤ g'.next) (hcounted : l'.counted = l.counted)
    (hmanaged : l'.managedShm = l.managedShm) (hplace : Place g' l')
    (hpending : l.pc.pending = false) (hremoves : l.pc.removes = none)
    (hremoves' : l'.pc.removes = none) : Outcome g l g' l' b := by
  refine ⟨⟨fun k hk => ?_, hplace⟩, .stay b hg hcounted ?_ ?_ ?_ ?_⟩
  · rw [hcounted] at hk
    obtain ⟨hmapped, hlt⟩ := h.counted k hk
    rw [Object.mapped_congr hmanaged]
    exact ⟨hmapped, Nat.lt_of_lt_of_le hlt hnext⟩
  · rw [Object.mapped_congr hmanaged]
    exact fun _ hk => hk
  · rw [hpending]
    nofun
  · rw [Object.removing_eq_none hremoves]
    nofun
  · rw [Object.removing_eq_none hremoves']
    nofun

/-- An object that has mapped its segment goes on towards its count. -/
theorem Standing.pends {g' : Kernel} {l' : Object} (b : Step) (hg : SameCounts g g')
    (hcounted : l.counted = none) (hcounted' : l'.counted = none)
    (hmanaged : l'.managedShm = l.managedShm) (hplace : Place g' l')
    (hpending' : l'.pc.pending = true) (hremoves : l.pc.removes = none)
    (hremoves' : l'.pc.removes = none) : Outcome g l g' l' b := by
  refine ⟨.off hcounted' hplace, .stay b hg (hcounted'.trans hcounted.symm) ?_ ?_ ?_ ?_⟩
  · rw [Object.mapped_congr hmanaged]
    exact fun _ hk => hk
  · exact fun _ => hpending'
  · rw [Object.removing_eq_none hremoves]
    nofun
  · rw [Object.removing_eq_none hremoves']
    nofun

/-- **Condition**: the `Remove` of a `Recreate` fails only when there is
    nothing for it to remove. -/
structure Removes (b : Step) (g : Kernel) (l : Object) : Prop where
  shmget : b = .shmgetRemoveFail .recreate → g.key = none
  shmctl : b = .shmctlRemoveFail .recreate → g.key ≠ some l.shmid

theorem SameCounts.refl (g : Kernel) : SameCounts g g := ⟨rfl, fun _ => rfl⟩

/-! ## Section 3: The operations -/

/-- The object neither opens a segment nor removes one. -/
def Pc.plain (pc : Pc) : Prop := pc.pending = false ∧ pc.removes = none

/-- An initialised object goes to another place. -/
theorem outcome_goto {g' : Kernel} (b : Step) (h : Standing g l) (hg : SameCounts g g')
    (hnext : g.next ≤ g'.next) (hinit : l.init = true) (hplain : l.pc.plain) (pc : Pc)
    (hplace : ∀ g, Place g (l.goto pc)) (hplain' : pc.plain) : Outcome g l g' (l.goto pc) b :=
  (lands_goto hinit pc hplace hplain'.1 hplain'.2).goesOn h hg hnext hinit hplain.1 hplain.2

/-- An access through `state_`. -/
theorem outcome_withState {b : Step} {f : Nat → Kernel × Object}
    (hsome : ∀ k, l.state = some k → Outcome g l (f k).1 (f k).2 b)
    (hnone : l.state = none → Outcome g l g (l.goto .crashed) b) :
    Outcome g l (withState g l f).1 (withState g l f).2 b := by
  apply @withState_rec g l f (fun r => Outcome g l r.1 r.2 b)
  · exact hsome
  · exact hnone

/-- An access of an initialised object through `blocks_`. -/
theorem outcome_withBlocks {b : Step} {f : Nat → Kernel × Object} (h : Standing g l)
    (hinit : l.init = true) (hplain : l.pc.plain) (hsome : ∀ k, Outcome g l (f k).1 (f k).2 b) :
    Outcome g l (withBlocks g l f).1 (withBlocks g l f).2 b := by
  apply @withBlocks_rec g l f (fun r => Outcome g l r.1 r.2 b)
  · exact fun k _ => hsome k
  · exact fun _ => outcome_goto b h (.refl g) (Nat.le_refl _) hinit hplain .crashed
      (fun _ => trivial) ⟨rfl, rfl⟩

theorem sameCounts_setLockNum (g : Kernel) (k i : Nat) (word : Int) :
    SameCounts g (setLockNum g k i word) := sameCounts_modify g k _ rfl

/-- `AcquireBlockToWrite` and `AcquireBlockToRead` from their start on. -/
theorem outcome_acquire {b : Step} {m l' : Object} (h : Standing g l) (hpc : l.pc = .idle)
    (hm : m.init = l.init ∧ m.state = l.state ∧ m.managedShm = l.managedShm)
    (hlands : Lands m l') : Outcome g l g l' b := by
  refine (hlands.of_same hm.1 hm.2.1 hm.2.2).outcome h (.refl g) (Nat.le_refl _) ?_ ?_ ?_
  · exact Object.counted_eq_ite (congrArg Pc.keepsCount hpc)
  · exact congrArg Pc.pending hpc
  · rw [Object.removing_eq_none (congrArg Pc.removes hpc)]
    nofun

/-- `Remap` or `Recreate` begins, or `Destroy` does; or the call goes on
    with the segment it has. -/
theorem outcome_needRemap (h : Standing g l) (hpc : l.pc = .needRemap) (hinit : l.init = true) :
    Outcome g l (Step.effect .needRemap g l).1 (Step.effect .needRemap g l).2 .needRemap := by
  have hplain : l.pc.plain := ⟨congrArg Pc.pending hpc, congrArg Pc.removes hpc⟩
  apply outcome_withState
  · intro k hk
    split
    · -- the object stays counted
      exact h.keeps _ (.refl g) (Nat.le_refl _) (Object.counted_of_init hinit).symm rfl rfl
        hplain.1 hplain.2 rfl
    · split
      · have hlands : Lands l (l.checkSize true) := checkSize_lands hinit.symm fun hoff => by
          rw [hinit] at hoff
          cases hoff
        exact hlands.goesOn h (.refl g) (Nat.le_refl _) hinit hplain.1 hplain.2
      · exact outcome_goto _ h (.refl g) (Nat.le_refl _) hinit hplain .tryLockForRead
          (fun _ => hinit) ⟨rfl, rfl⟩
  · exact fun _ => outcome_goto _ h (.refl g) (Nat.le_refl _) hinit hplain .crashed
      (fun _ => trivial) ⟨rfl, rfl⟩

theorem outcome_setNeedRemap (h : Standing g l) (hpc : l.pc = .setNeedRemap)
    (hinit : l.init = false) :
    Outcome g l (Step.effect .setNeedRemap g l).1 (Step.effect .setNeedRemap g l).2
      .setNeedRemap := by
  have hpend : l.pc.pending = false := congrArg Pc.pending hpc
  have hrem : l.pc.removes = none := congrArg Pc.removes hpc
  have hcounted : l.counted = l.state :=
    Object.counted_of_keepsCount (congrArg Pc.keepsCount hpc)
  apply outcome_withState
  · intro k _
    refine h.keeps _ (sameCounts_modify g k (fun m => { m with needRemap := true }) rfl)
      (Nat.le_refl _) ?_ rfl ⟨hinit, nofun⟩ hpend hrem rfl
    rw [hcounted]
    exact Object.counted_of_keepsCount rfl
  · intro hnone
    refine h.keeps _ (.refl g) (Nat.le_refl _) ?_ rfl trivial hpend hrem rfl
    rw [hcounted, hnone]
    exact Object.counted_eq_none hinit rfl

/-- `Reset` lets go of the segment; a counted object is not counted out. -/
theorem outcome_reset (by_ : ResetBy) (h : Standing g l) (hpc : l.pc = .reset by_) :
    Outcome g l (Step.effect (.reset by_) g l).1 (Step.effect (.reset by_) g l).2
      (.reset by_) := by
  obtain ⟨hinit, hopening⟩ := h.place.reset hpc
  have hpend : l.pc.pending = false := congrArg Pc.pending hpc
  have hrem : l.removing g = none := Object.removing_eq_none (congrArg Pc.removes hpc)
  have hcounted : l.counted ≠ none → by_ ≠ .einval := by
    rintro hcounted rfl
    exact hcounted (Object.counted_eq_none hinit (congrArg Pc.keepsCount hpc))
  -- with and without `shmdt`
  have hreset : ∀ g' l', SameCounts g g' → l'.init = false → l'.state = none →
      l'.managedShm = .null → l'.opening = l.opening → l'.pc = by_.next →
      Outcome g l g' l' (.reset by_) := by
    intro g' l' hg hinit' hstate' hmanaged hopening' hnext
    have hcounted' : l'.counted = none := by
      unfold Object.counted
      rw [hstate', ite_self]
    have hmapped : l'.mapped = none := by
      unfold Object.mapped
      rw [hmanaged]
    refine ⟨.off hcounted' ?_, .leave by_ hg hcounted hcounted' hmapped hpend hrem ?_ ?_⟩
    · unfold Place
      rw [hnext]
      cases by_ with
      | remap => exact ⟨hinit', fun _ => hstate'⟩
      | recreate | einval =>
        refine ⟨hinit', ?_⟩
        rw [hopening']
        exact hopening nofun
    · -- `Recreate` goes on to remove what is registered
      rintro rfl k hk
      unfold Object.removing
      rw [hnext, hg.1, hk]
      rfl
    · intro k
      unfold Object.removing
      rw [hnext]
      cases by_ with
      | remap => nofun
      | recreate | einval =>
        show Option.map _ g'.key ≠ _
        cases g'.key <;> nofun
  dsimp only [Step.effect]
  split
  · exact hreset _ _ (sameCounts_modify g _ (fun m => { m with nattch := m.nattch - 1 }) rfl)
      hinit rfl rfl rfl rfl
  · exact hreset _ _ (.refl g) hinit rfl rfl rfl rfl

/-- `OpenOrCreate` or `OpenOnly` fails, or goes on without the kernel. -/
theorem outcome_off {l' : Object} (b : Step) (h : Standing g l) (hlands : Lands l l')
    (hinit : l.init = false) (hkeeps : l.pc.keepsCount = false) (hplain : l.pc.plain) :
    Outcome g l g l' b := by
  refine hlands.goesOff h (.refl g) (Nat.le_refl _) hinit hkeeps hplain.1 ?_
  rw [Object.removing_eq_none hplain.2]
  nofun

/-- `shmat`: the object maps a segment it is not counted in yet. -/
theorem outcome_attach {l' : Object} (b : Step) (hinit : l.init = false)
    (hkeeps : l.pc.keepsCount = false) (hrem : l.pc.removes = none) (hinit' : l'.init = false)
    (hkeeps' : l'.pc.keepsCount = false) (hpend' : l'.pc.pending = true)
    (hrem' : l'.pc.removes = none) (hplace : Place g l') :
    Outcome g l (g.shmat l.shmid) l' b := by
  have hcounted : l.counted = none := Object.counted_eq_none hinit hkeeps
  have hcounted' : l'.counted = none := Object.counted_eq_none hinit' hkeeps'
  have hstanding : Standing g l' := .off hcounted' hplace
  exact ⟨hstanding.stable (Nat.le_refl _),
    .attach _ (sameCounts_modify g l.shmid (fun m => { m with nattch := m.nattch + 1 }) rfl)
      hcounted hcounted' hpend' (Object.removing_eq_none hrem) (Object.removing_eq_none hrem')⟩

/-- A failed `shmat` maps nothing. -/
theorem outcome_shmatFail {l' : Object} (b : Step) (hinit : l.init = false)
    (hkeeps : l.pc.keepsCount = false) (hplain : l.pc.plain) (hcounted' : l'.counted = none)
    (hmanaged : l'.managedShm = .failed) (hrem' : l'.pc.removes = none) (hplace : Place g l') :
    Outcome g l g l' b := by
  have hcounted : l.counted = none := Object.counted_eq_none hinit hkeeps
  refine ⟨.off hcounted' hplace, .stay b (.refl g) (hcounted'.trans hcounted.symm) ?_ ?_ ?_ ?_⟩
  · unfold Object.mapped
    rw [hmanaged]
    nofun
  · rw [hplain.1]
    nofun
  · rw [Object.removing_eq_none hplain.2]
    nofun
  · rw [Object.removing_eq_none hrem']
    nofun

theorem outcome_shmatOpenFail (hpc : l.pc = .shmatOpen)
    (hinit : l.init = false) (hopening : l.opening = .remap → l.state = none) :
    Outcome g l g (Step.effect .shmatOpenFail g l).2 .shmatOpenFail := by
  have hlands : Lands { l with managedShm := .failed }
      (({ l with managedShm := .failed } : Object).opened false) :=
    opened_lands hinit.symm fun _ => hopening
  refine outcome_shmatFail _ hinit (congrArg Pc.keepsCount hpc)
    ⟨congrArg Pc.pending hpc, congrArg Pc.removes hpc⟩ ?_ hlands.managedShm hlands.removes
    (hlands.place g)
  refine hlands.counted.trans ?_
  show (if l.init = true then l.state else none) = none
  rw [hinit]
  rfl

/-- `IncreaseReferenceCounts`. -/
theorem outcome_increase {k : Nat} (hpc : l.pc = .increaseReferenceCounts)
    (hinit : l.init = false) (hlt : k < g.next) (hk : l.state = some k)
    (hmapped : l.mapped = some k) :
    Outcome g l (Step.effect .increaseReferenceCounts g l).1
      (Step.effect .increaseReferenceCounts g l).2 .increaseReferenceCounts := by
  have hcounted : l.counted = none := Object.counted_eq_none hinit (congrArg Pc.keepsCount hpc)
  have hlands : Lands { l with init := true } (({ l with init := true } : Object).opened true) :=
    opened_lands rfl nofun
  have hcounted' : (({ l with init := true } : Object).opened true).counted = some k :=
    hlands.counted.trans hk
  have hmapped' : (({ l with init := true } : Object).opened true).mapped = some k :=
    (Object.mapped_congr hlands.managedShm).trans hmapped
  apply outcome_withState
  · intro j hj
    obtain rfl : k = j := Option.some.inj (hk.symm.trans hj)
    refine ⟨⟨fun i hi => ?_, hlands.place _⟩,
      .countIn k hk (countsTo_modify g k _) hcounted hcounted' hmapped hmapped'
        (Object.removing_eq_none (congrArg Pc.removes hpc))
        (Object.removing_eq_none hlands.removes)⟩
    obtain rfl : k = i := Option.some.inj (hcounted'.symm.trans hi)
    exact ⟨hmapped', hlt⟩
  · exact fun hnone => absurd (hnone.symm.trans hk) nofun

/-- `DecreaseReferenceCounts`: a count of zero stays zero. -/
theorem outcome_decrease (h : Standing g l) (hpc : l.pc = .decreaseReferenceCounts)
    (hinit : l.init = false) :
    Outcome g l (Step.effect .decreaseReferenceCounts g l).1
      (Step.effect .decreaseReferenceCounts g l).2 .decreaseReferenceCounts := by
  have hpend : l.pc.pending = false := congrArg Pc.pending hpc
  have hrem : l.pc.removes = none := congrArg Pc.removes hpc
  have hcounted : l.counted = l.state :=
    Object.counted_of_keepsCount (congrArg Pc.keepsCount hpc)
  apply outcome_withState
  · intro k hk
    have hcounted' : (l.goto .referenceCounts).counted = none := Object.counted_eq_none hinit rfl
    have hmapped : ∀ j, l.state = some j → l.mapped = some j := fun j hj =>
      (h.counted j (hcounted.trans hj)).1
    exact ⟨.off hcounted' ⟨hinit, hmapped⟩,
      .countOut _ k (countsTo_modify g k _) (hcounted.trans hk) hcounted' rfl hpend
        (Object.removing_eq_none hrem) rfl⟩
  · intro hnone
    refine h.keeps _ (.refl g) (Nat.le_refl _) ?_ rfl trivial hpend hrem rfl
    rw [hcounted, hnone]
    exact Object.counted_eq_none hinit rfl

/-- `Destroy` looks at the count. -/
theorem outcome_referenceCounts (h : Standing g l) (hpc : l.pc = .referenceCounts)
    (hinit : l.init = false) (hmapped : ∀ k, l.state = some k → l.mapped = some k) :
    Outcome g l (Step.effect .referenceCounts g l).1 (Step.effect .referenceCounts g l).2
      .referenceCounts := by
  have hplain : l.pc.plain := ⟨congrArg Pc.pending hpc, congrArg Pc.removes hpc⟩
  have hkeeps : l.pc.keepsCount = false := congrArg Pc.keepsCount hpc
  apply outcome_withState
  · intro k hk
    dsimp only
    split
    · next hzero =>
      have hcounted' : (l.goto (.shmgetRemove .destroy)).counted = none :=
        Object.counted_eq_none hinit rfl
      have hcounted : l.counted = none := Object.counted_eq_none hinit hkeeps
      refine ⟨.off hcounted' hinit,
        .zero k hk (hmapped k hk) hzero rfl (hcounted'.trans hcounted.symm) rfl hplain.1
          (Object.removing_eq_none hplain.2) ?_⟩
      -- the segment that is registered now would be removed, whichever it is
      intro by_ j hj
      obtain ⟨i, hi, hpair⟩ := Option.map_eq_some_iff.mp
        (show g.key.map (fun k => (RemoveBy.destroy, k)) = some (by_, j) from hj)
      cases hpair
      exact ⟨rfl, hi⟩
    · exact outcome_off _ h (lands_idle l) hinit hkeeps hplain
  · intro _
    have hlands : Lands l (l.goto .crashed) :=
      lands_off hinit hinit rfl (fun _ => trivial) rfl rfl rfl
    exact outcome_off _ h hlands hinit hkeeps hplain

/-- `shmget` of `Remove`. -/
theorem outcome_shmgetRemove (by_ : RemoveBy) (h : Standing g l) (hpc : l.pc = .shmgetRemove by_)
    (hkey : g.key ≠ none) :
    Outcome g l (Step.effect (.shmgetRemove by_) g l).1 (Step.effect (.shmgetRemove by_) g l).2
      (.shmgetRemove by_) := by
  obtain ⟨hinit, hopening⟩ := h.place.removes (congrArg Pc.removes hpc)
  have hcounted : l.counted = none := Object.counted_eq_none hinit (congrArg Pc.keepsCount hpc)
  dsimp only [Step.effect]
  split
  · next k hk =>
    have hcounted' : ({ l with shmid := k, pc := .shmctlRemove by_ } : Object).counted = none :=
      Object.counted_eq_none hinit rfl
    -- it is the registered segment it is about to remove, before and after
    have hremoving : l.removing g = some (by_, k) := by
      unfold Object.removing
      rw [hpc, hk]
      rfl
    have hremoving' : ({ l with shmid := k, pc := .shmctlRemove by_ } : Object).removing g =
        some (by_, k) := rfl
    refine ⟨.off hcounted' ?_, .stay _ (.refl g) (hcounted'.trans hcounted.symm) (fun _ hj => hj)
      ?_ ?_ ?_⟩
    · cases by_ with
      | destroy => exact hinit
      | recreate | einval => exact ⟨hinit, hopening nofun⟩
    · rw [hpc]
      nofun
    · exact fun j _ hj => hremoving'.trans (hremoving.symm.trans hj)
    · exact fun j hj => hremoving.trans (hremoving'.symm.trans hj)
  · next hnone => exact absurd hnone hkey

/-- `Remove` fails. Unless it was the one of `Destroy` or of the creation
    loop, there was nothing to remove. -/
theorem outcome_removeFail {by_ : RemoveBy} (b : Step) (h : Standing g l)
    (hpc : l.pc = .shmgetRemove by_ ∨ l.pc = .shmctlRemove by_)
    (hrecreates : ∀ k, g.key = some k → l.removing g ≠ some (.recreate, k)) :
    Outcome g l g (l.removed by_) b := by
  have hpend : l.pc.pending = false := by rcases hpc with hpc | hpc <;> rw [hpc] <;> rfl
  have hkeeps : l.pc.keepsCount = false := by rcases hpc with hpc | hpc <;> rw [hpc] <;> rfl
  have hrem : l.pc.removes = some by_ := by rcases hpc with hpc | hpc <;> rw [hpc] <;> rfl
  obtain ⟨hinit, hopening⟩ := h.place.removes hrem
  exact (removed_lands hinit hopening).goesOff h (.refl g) (Nat.le_refl _) hinit hkeeps hpend
    hrecreates

/-- `IPC_RMID` of the segment at `shmid`. -/
theorem outcome_rmid {l' : Object} (b : Step) (hlands : Lands l l') (hinit : l.init = false)
    (hkeeps : l.pc.keepsCount = false) (hpend : l.pc.pending = false)
    (hremoving : ∀ j, l.removing g = some (.recreate, j) → j = l.shmid) :
    Outcome g l (g.rmid l.shmid) l' b := by
  have hstanding : Standing g l' := hlands.standing fun k hon _ => by
    rw [hinit] at hon
    cases hon
  exact ⟨hstanding.stable (Nat.le_refl _), .unregister _ l.shmid rfl
    (hlands.counted.trans (Object.counted_eq_ite hkeeps).symm)
    (Object.mapped_congr hlands.managedShm) hpend hremoving
    (Object.removing_eq_none hlands.removes)⟩

theorem outcome_shmctlRemove (by_ : RemoveBy) (h : Standing g l)
    (hpc : l.pc = .shmctlRemove by_) :
    Outcome g l (g.rmid l.shmid) (l.removed by_) (.shmctlRemove by_) := by
  obtain ⟨hinit, hopening⟩ := h.place.removes (congrArg Pc.removes hpc)
  refine outcome_rmid _ (removed_lands hinit hopening) hinit (congrArg Pc.keepsCount hpc)
    (congrArg Pc.pending hpc) ?_
  intro j hj
  have hpair : some (by_, l.shmid) = some (RemoveBy.recreate, j) := by
    rw [← hj, Object.removing, hpc]
  cases hpair
  rfl

/-! ## Section 4: Steps -/

/-! ### Calls -/

theorem outcome_acquireBlockToWrite (h : Standing g l) (hpc : l.pc = .idle) (msgSize : Nat) :
    Outcome g l (Step.effect (.acquireBlockToWrite msgSize) g l).1
      (Step.effect (.acquireBlockToWrite msgSize) g l).2 (.acquireBlockToWrite msgSize) := by
  let m : Object := { l with op := .acquireBlockToWrite, msgSize := msgSize }
  refine outcome_acquire (m := m) h hpc ⟨rfl, rfl, rfl⟩ ?_
  show Lands m (if l.init = true then m.goto .needRemap else m.callInit)
  split
  · next hinit => exact lands_goto (l := m) hinit .needRemap (fun _ => hinit) rfl rfl
  · next hinit => exact callInit_lands (l := m) (eq_false_of_ne_true hinit)

theorem outcome_acquireBlockToRead (h : Standing g l) (hpc : l.pc = .idle) (index : Nat) :
    Outcome g l (Step.effect (.acquireBlockToRead index) g l).1
      (Step.effect (.acquireBlockToRead index) g l).2 (.acquireBlockToRead index) := by
  let m : Object := { l with op := .acquireBlockToRead, index := index }
  refine outcome_acquire (m := m) h hpc ⟨rfl, rfl, rfl⟩ ?_
  show Lands m (if l.init = true then m.checkIndex else m.callInit)
  split
  · next hinit => exact checkIndex_lands (l := m) hinit
  · next hinit => exact callInit_lands (l := m) (eq_false_of_ne_true hinit)

theorem outcome_destroy (h : Standing g l) (hpc : l.pc = .idle) :
    Outcome g l (Step.effect .destroy g l).1 (Step.effect .destroy g l).2 .destroy := by
  show Outcome g l g (if l.init = true then _ else _) _
  split
  · next hinit =>
    exact h.keeps _ (.refl g) (Nat.le_refl _) (Object.counted_of_init hinit).symm rfl rfl
      (congrArg Pc.pending hpc) (congrArg Pc.removes hpc) rfl
  · exact ⟨h, .stay _ (.refl g) rfl (fun _ hk => hk) id (fun _ _ hrem => hrem)
      fun _ hrem => hrem⟩

/-! ### `OpenOrCreate` -/

theorem outcome_shmgetCreate (hpc : l.pc = .shmgetCreate) (hkey : g.key = none)
    (hinit : l.init = false) (hopening : l.opening ≠ .remap) :
    Outcome g l (Step.effect .shmgetCreate g l).1 (Step.effect .shmgetCreate g l).2
      .shmgetCreate := by
  have hcounted : l.counted = none := Object.counted_eq_none hinit (congrArg Pc.keepsCount hpc)
  have hcounted' : ({ l with shmid := g.next, pc := .shmatCreate } : Object).counted = none :=
    Object.counted_eq_none hinit rfl
  exact ⟨.off hcounted' ⟨⟨hinit, hopening⟩, Nat.lt_succ_self _⟩,
    .create _ hkey rfl hcounted hcounted' rfl (congrArg Pc.pending hpc) rfl⟩

/-- `shmget` finds another segment under the key, and `OpenOrCreate` opens
    or removes it. -/
theorem outcome_shmgetFound {pc : Pc} (b : Step) (h : Standing g l) (hpc : l.pc = .shmgetCreate)
    (hinit : l.init = false) (hplace : ∀ g, Place g (l.goto pc)) (hkeeps : pc.keepsCount = false)
    (hplain : pc.plain) : Outcome g l g (l.goto pc) b := by
  have hlands : Lands l (l.goto pc) :=
    lands_off hinit hinit hkeeps hplace rfl hplain.1 hplain.2
  exact outcome_off b h hlands hinit (congrArg Pc.keepsCount hpc)
    ⟨congrArg Pc.pending hpc, congrArg Pc.removes hpc⟩

/-- A step of `OpenOrCreate` or `OpenOnly` that fails before the segment is
    attached. -/
theorem outcome_opened {pc : Pc} (b : Step) (h : Standing g l) (hpc : l.pc = pc)
    (hkeeps : pc.keepsCount = false) (hplain : pc.plain) (hinit : l.init = false)
    (hremap : l.opening = .remap → l.state = none) : Outcome g l g (l.opened false) b := by
  have hlands : Lands l (l.opened false) := opened_lands hinit.symm fun _ => hremap
  rw [← hpc] at hkeeps hplain
  exact outcome_off b h hlands hinit hkeeps hplain

theorem outcome_rmidCreate (hpc : l.pc = .rmidCreate) (hinit : l.init = false)
    (hopening : l.opening ≠ .remap) :
    Outcome g l (Step.effect .rmidCreate g l).1 (Step.effect .rmidCreate g l).2 .rmidCreate := by
  have hlands : Lands l (l.opened false) :=
    opened_lands hinit.symm fun _ hremap => absurd hremap hopening
  refine outcome_rmid _ hlands hinit (congrArg Pc.keepsCount hpc) (congrArg Pc.pending hpc) ?_
  rw [Object.removing_eq_none (congrArg Pc.removes hpc)]
  nofun

theorem outcome_newState (hpc : l.pc = .newState) (hinit : l.init = false)
    (hlt : l.shmid < g.next) (hmapped : l.mapped = some l.shmid) :
    Outcome g l (Step.effect .newState g l).1 (Step.effect .newState g l).2 .newState := by
  have hcounted : l.counted = none := Object.counted_eq_none hinit (congrArg Pc.keepsCount hpc)
  have hcounted' : ({ l with state := some l.shmid, pc := .loadCeilingCreate } : Object).counted =
      none := Object.counted_eq_none hinit rfl
  exact ⟨.off hcounted' ⟨hinit, l.shmid, hlt, rfl, hmapped⟩,
    .construct l.shmid rfl (countsTo_modify g l.shmid _) hcounted hcounted' rfl rfl
      (Object.removing_eq_none (congrArg Pc.removes hpc)) rfl⟩

theorem outcome_newBlocks (hpc : l.pc = .newBlocks)
    (hplace : l.init = false ∧ ∃ k < g.next, l.state = some k ∧ l.mapped = some k) :
    Outcome g l (Step.effect .newBlocks g l).1 (Step.effect .newBlocks g l).2 .newBlocks := by
  have hcounted : l.counted = none :=
    Object.counted_eq_none hplace.1 (congrArg Pc.keepsCount hpc)
  have hcounted' : ((l.layOut l.shmid).goto .increaseReferenceCounts).counted = none :=
    Object.counted_eq_none hplace.1 rfl
  exact Standing.pends _ (sameCounts_modify g l.shmid (fun m => { m with lockNum := _ }) rfl)
    hcounted hcounted' rfl hplace rfl (congrArg Pc.removes hpc) rfl

/-! ### `OpenOnly` -/

theorem outcome_shmgetOpen (hkey : KeyInv g) (h : Standing g l) (hpc : l.pc = .shmgetOpen)
    (hplace : l.init = false ∧ (l.opening = .remap → l.state = none)) (hfound : g.key ≠ none) :
    Outcome g l (Step.effect .shmgetOpen g l).1 (Step.effect .shmgetOpen g l).2 .shmgetOpen := by
  have hcounted : l.counted = none :=
    Object.counted_eq_none hplace.1 (congrArg Pc.keepsCount hpc)
  dsimp only [Step.effect]
  split
  · next k hk =>
    have hcounted' : ({ l with shmid := k, pc := .shmatOpen } : Object).counted = none :=
      Object.counted_eq_none hplace.1 rfl
    exact h.keeps _ (.refl g) (Nat.le_refl _) (hcounted'.trans hcounted.symm) rfl
      ⟨hplace, hkey k hk⟩ (congrArg Pc.pending hpc) (congrArg Pc.removes hpc) rfl
  · next hnone => exact absurd hnone hfound

/-- The ceiling is loaded, here or in `OpenOrCreate`: the count is still to
    come. -/
theorem outcome_loadCeiling {b : Step} {f : Nat → Object} (hkeeps : l.pc.keepsCount = false)
    (hrem : l.pc.removes = none)
    (hplace : l.init = false ∧ ∃ k < g.next, l.state = some k ∧ l.mapped = some k)
    (hf : ∀ k, (f k).init = false ∧ (f k).managedShm = l.managedShm ∧ Place g (f k) ∧
      (f k).pc.keepsCount = false ∧ (f k).pc.pending = true ∧ (f k).pc.removes = none) :
    Outcome g l (withState g l fun k => (g, f k)).1 (withState g l fun k => (g, f k)).2 b := by
  obtain ⟨hinit, k, _, hk, _⟩ := hplace
  have hcounted : l.counted = none := Object.counted_eq_none hinit hkeeps
  apply outcome_withState
  · intro j _
    obtain ⟨hinit', hmanaged, hplace', hkeeps', hpend', hrem'⟩ := hf j
    exact Standing.pends _ (.refl g) hcounted (Object.counted_eq_none hinit' hkeeps') hmanaged
      hplace' hpend' hrem hrem'
  · exact fun hnone => absurd (hnone.symm.trans hk) nofun

/-! ### `Remove` -/

theorem outcome_shmgetRemoveFail (by_ : RemoveBy) (h : Standing g l)
    (hpc : l.pc = .shmgetRemove by_) (hok : by_ = .recreate → g.key = none) :
    Outcome g l g (l.removed by_) (.shmgetRemoveFail by_) := by
  refine outcome_removeFail _ h (.inl hpc) fun k hk hremoving => ?_
  have hpair : some (by_, k) = some (RemoveBy.recreate, k) := by
    rw [← hremoving, Object.removing, hpc, hk]
    rfl
  cases hpair
  rw [hok rfl] at hk
  cases hk

theorem outcome_shmctlRemoveFail (by_ : RemoveBy) (h : Standing g l)
    (hpc : l.pc = .shmctlRemove by_) (hok : by_ = .recreate → g.key ≠ some l.shmid) :
    Outcome g l g (l.removed by_) (.shmctlRemoveFail by_) := by
  refine outcome_removeFail _ h (.inr hpc) fun k hk hremoving => ?_
  have hpair : some (by_, l.shmid) = some (RemoveBy.recreate, k) := by
    rw [← hremoving, Object.removing, hpc]
  cases hpair
  exact hok rfl hk

/-! ### Blocks

    The object stays initialised, and the counts are not touched. -/

section blocks
variable (h : Standing g l) (hinit : l.init = true) (hplain : l.pc.plain)
include h hinit hplain

/-- Without a `State` the object crashes. -/
theorem outcome_crashed (b : Step) : Outcome g l g (l.goto .crashed) b :=
  outcome_goto b h (.refl g) (Nat.le_refl _) hinit hplain .crashed (fun _ => trivial) ⟨rfl, rfl⟩

theorem outcome_wroteNum :
    Outcome g l (Step.effect .wroteNum g l).1 (Step.effect .wroteNum g l).2 .wroteNum := by
  have hlands : ∀ n, Lands l { l with tryIdx := n, pc := .tryLockForWrite } := fun n =>
    ⟨fun _ => hinit, by rw [if_pos hinit]; exact Object.counted_of_init hinit, rfl, rfl, rfl⟩
  apply outcome_withState
  · exact fun k _ => (hlands _).goesOn h (.refl g) (Nat.le_refl _) hinit hplain.1 hplain.2
  · exact fun _ => outcome_crashed h hinit hplain _

theorem outcome_tryLockForWrite :
    Outcome g l (Step.effect .tryLockForWrite g l).1 (Step.effect .tryLockForWrite g l).2
      .tryLockForWrite := by
  have hlands : Lands l { l with index := l.tryIndex, pc := .increaseWroteNum } :=
    ⟨fun _ => hinit, by rw [if_pos hinit]; exact Object.counted_of_init hinit, rfl, rfl, rfl⟩
  apply outcome_withBlocks h hinit hplain
  exact fun k => hlands.goesOn h (sameCounts_setLockNum g k _ _) (Nat.le_refl _) hinit hplain.1
    hplain.2

theorem outcome_tryLockForWriteFail (hpc : l.pc = .tryLockForWrite) :
    Outcome g l (Step.effect .tryLockForWriteFail g l).1 (Step.effect .tryLockForWriteFail g l).2
      .tryLockForWriteFail := by
  let m : Object := { l with tryIdx := (l.tryIndex + 1) % 2 ^ 32 }
  have hm : m.pc = .tryLockForWrite := hpc
  have hplace : ∀ g, Place g m := fun g => by
    unfold Place
    rw [hm]
    exact hinit
  have hlands : Lands l m :=
    ⟨hplace, by rw [if_pos hinit]; exact Object.counted_of_init hinit, rfl, hplain.1, hplain.2⟩
  apply outcome_withBlocks h hinit hplain
  exact fun k => hlands.goesOn h (.refl g) (Nat.le_refl _) hinit hplain.1 hplain.2

theorem outcome_increaseWroteNum :
    Outcome g l (Step.effect .increaseWroteNum g l).1 (Step.effect .increaseWroteNum g l).2
      .increaseWroteNum := by
  apply outcome_withState
  · intro k _
    have hsame : SameCounts g
        (g.modify k fun m => { m with wroteNum := (m.wroteNum + 1) % 2 ^ 32 }) :=
      sameCounts_modify g k _ rfl
    exact outcome_goto _ h hsame (Nat.le_refl _) hinit hplain .writing (fun _ => hinit)
      ⟨rfl, rfl⟩
  · exact fun _ => outcome_crashed h hinit hplain _

/-- The lock word of a block is stored, if the block is one of those there
    are, and the call returns. -/
theorem outcome_release (b : Step) (word : Nat → Int) :
    let r := if l.index < l.conf.blockNum then
        withBlocks g l fun k => (setLockNum g k l.index (word k), l.goto .idle)
      else (g, l.goto .idle)
    Outcome g l r.1 r.2 b := by
  have hidle : ∀ g', SameCounts g g' → g.next ≤ g'.next → Outcome g l g' (l.goto .idle) b :=
    fun g' hg hnext =>
      outcome_goto b h hg hnext hinit hplain .idle (fun _ => trivial) ⟨rfl, rfl⟩
  dsimp only
  split
  · apply outcome_withBlocks h hinit hplain
    exact fun k => hidle _ (sameCounts_setLockNum g k _ _) (Nat.le_refl _)
  · exact hidle g (.refl g) (Nat.le_refl _)

end blocks

/-- **Step lemma**, standing and change. -/
theorem outcome_step (b : Step) (hkey : KeyInv g) (h : Standing g l) (hg : b.gate g l)
    (hok : Removes b g l) : Outcome g l (b.effect g l).1 (b.effect g l).2 b := by
  obtain ⟨hpc, hguard⟩ := hg
  have hplace := h.place
  unfold Place at hplace
  rw [hpc] at hplace
  have hpend : l.pc.pending = b.pc.pending := congrArg Pc.pending hpc
  have hrem : l.pc.removes = b.pc.removes := congrArg Pc.removes hpc
  have hkeeps : l.pc.keepsCount = b.pc.keepsCount := congrArg Pc.keepsCount hpc
  cases b with
  -- the calls, up to the first step that touches a segment
  | acquireBlockToWrite msgSize => exact outcome_acquireBlockToWrite h hpc msgSize
  | acquireBlockToRead index => exact outcome_acquireBlockToRead h hpc index
  | destroy => exact outcome_destroy h hpc
  | needRemap => exact outcome_needRemap h hpc hplace
  | setNeedRemap => exact outcome_setNeedRemap h hpc hplace
  | reset by_ => exact outcome_reset by_ h hpc
  -- `OpenOrCreate`
  | shmgetCreate => exact outcome_shmgetCreate hpc hguard hplace.1 hplace.2
  | shmgetEexist =>
    obtain ⟨hinit, hopening⟩ := hplace
    exact outcome_shmgetFound _ h hpc hinit
      (fun _ => ⟨hinit, fun hremap => absurd hremap hopening⟩) rfl ⟨rfl, rfl⟩
  | shmgetEinval => exact outcome_shmgetFound _ h hpc hplace.1 (fun _ => hplace) rfl ⟨rfl, rfl⟩
  | shmgetCreateFail =>
    exact outcome_opened _ h hpc rfl ⟨rfl, rfl⟩ hplace.1 fun hremap => absurd hremap hplace.2
  | shmatCreate =>
    obtain ⟨⟨hinit, _⟩, hlt⟩ := hplace
    exact outcome_attach _ hinit hkeeps hrem hinit rfl rfl rfl ⟨hinit, hlt, rfl⟩
  | shmatCreateFail =>
    obtain ⟨hopen, _⟩ := hplace
    exact outcome_shmatFail _ hopen.1 hkeeps ⟨hpend, hrem⟩ (Object.counted_eq_none hopen.1 rfl) rfl
      rfl hopen
  | rmidCreate => exact outcome_rmidCreate hpc hplace.1 hplace.2
  | newState => exact outcome_newState hpc hplace.1 hplace.2.1 hplace.2.2
  | newBlocks => exact outcome_newBlocks hpc hplace
  -- `OpenOnly`
  | shmgetOpen => exact outcome_shmgetOpen hkey h hpc hplace hguard
  | shmgetOpenFail => exact outcome_opened _ h hpc rfl ⟨rfl, rfl⟩ hplace.1 hplace.2
  | shmatOpen =>
    obtain ⟨⟨hinit, _⟩, hlt⟩ := hplace
    exact outcome_attach _ hinit hkeeps hrem hinit rfl rfl rfl ⟨hinit, l.shmid, hlt, rfl, rfl⟩
  | shmatOpenFail => exact outcome_shmatOpenFail hpc hplace.1.1 hplace.1.2
  | loadCeilingCreate | loadCeilingOpen =>
    exact outcome_loadCeiling hkeeps hrem hplace fun _ =>
      ⟨hplace.1, rfl, hplace, rfl, rfl, rfl⟩
  | increaseReferenceCounts =>
    obtain ⟨hinit, k, hlt, hk, hmapped⟩ := hplace
    exact outcome_increase hpc hinit hlt hk hmapped
  -- `Remove`
  | shmgetRemove by_ => exact outcome_shmgetRemove by_ h hpc hguard
  | shmgetRemoveFail by_ =>
    exact outcome_shmgetRemoveFail by_ h hpc fun hby => hok.shmget (by rw [hby])
  | shmctlRemove by_ => exact outcome_shmctlRemove by_ h hpc
  | shmctlRemoveFail by_ =>
    exact outcome_shmctlRemoveFail by_ h hpc fun hby => hok.shmctl (by rw [hby])
  -- the rest of `Destroy`
  | decreaseReferenceCounts => exact outcome_decrease h hpc hplace
  | referenceCounts => exact outcome_referenceCounts h hpc hplace.1 hplace.2
  -- blocks
  | wroteNum => exact outcome_wroteNum h hplace ⟨hpend, hrem⟩
  | tryLockForWrite => exact outcome_tryLockForWrite h hplace ⟨hpend, hrem⟩
  | tryLockForWriteFail => exact outcome_tryLockForWriteFail h hplace ⟨hpend, hrem⟩ hpc
  | increaseWroteNum => exact outcome_increaseWroteNum h hplace ⟨hpend, hrem⟩
  | tryLockForRead =>
    have hinit : l.init = true := hplace
    apply outcome_withBlocks h hinit ⟨hpend, hrem⟩
    exact fun k => outcome_goto _ h (sameCounts_setLockNum g k _ _) (Nat.le_refl _) hinit
      ⟨hpend, hrem⟩ .reading (fun _ => hinit) ⟨rfl, rfl⟩
  | tryLockForReadFail =>
    have hinit : l.init = true := hplace
    apply outcome_withBlocks h hinit ⟨hpend, hrem⟩
    exact fun k => outcome_goto _ h (.refl g) (Nat.le_refl _) hinit ⟨hpend, hrem⟩ .idle
      (fun _ => trivial) ⟨rfl, rfl⟩
  | releaseWrittenBlock | releaseReadBlock => exact outcome_release h hplace ⟨hpend, hrem⟩ _ _

end steps

end CyberRT.Transport.Shm.Segment
