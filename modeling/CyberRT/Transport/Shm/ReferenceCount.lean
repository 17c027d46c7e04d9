import CyberRT.Framework.Tally
import CyberRT.Transport.Shm.ReadGrant
import CyberRT.Transport.Shm.SegmentCounts

/-! # Reference counts of segments

    `Remap` and `Recreate` let go of a segment without `Destroy`'s
    `DecreaseReferenceCounts`, so that its count stays too high for the
    objects that are still attached. And nothing makes the decrement of
    `Destroy`, the look at the count and `Remove` one: an object that is
    attached in between loses its segment.

    As long as objects are counted in the registered segment only, after its
    `State` was constructed and with nobody about to remove it, a segment is
    let go of only when it goes away with that, and `Destroy` finds no count
    but that of the registered segment zero, the counts are right. -/

namespace CyberRT.Transport.Shm.Segment

open CyberRT.Framework

variable {Pid : Type}

/-! ## Section 1: Property and condition -/

/-- The object is initialised and attached to segment `k`. -/
def AttachedTo (k : Nat) (l : Object) : Prop := l.init = true ∧ l.state = some k

instance (k : Nat) : DecidablePred (AttachedTo k) := fun l =>
  inferInstanceAs (Decidable (l.init = true ∧ l.state = some k))

/-- The count of segment `k` includes the object. -/
def CountedOn (k : Nat) (l : Object) : Prop := l.counted = some k

instance (k : Nat) : DecidablePred (CountedOn k) := fun l =>
  inferInstanceAs (Decidable (l.counted = some k))

/-- No segment is being opened, created, remapped, recreated or destroyed. -/
def Pc.settled : Pc → Bool
  | .idle | .needRemap | .wroteNum | .tryLockForWrite | .increaseWroteNum | .writing
  | .tryLockForRead | .reading | .crashed => true
  | _ => false

/-- The segment is registered, or some object has it mapped. -/
def Alive (s : Global Kernel Object Pid) (k : Nat) : Prop :=
  s.shared.key = some k ∨ ∃ p, (s.loc p).mapped = some k

/-- **Property**: with no operation in progress the count of a segment is
    the number of the objects attached to it. -/
def CountsAttached [Fintype Pid] (s : Global Kernel Object Pid) : Prop :=
  (∀ p, (s.loc p).pc.settled = true) → ∀ k, Alive s k →
    (s.shared.shms k).referenceCount = tally (AttachedTo k) s.loc

/-- **Property**: `Destroy` removes the registered segment only when no
    other object is attached to it. -/
def RemovesUnattached (s : Global Kernel Object Pid) : Prop :=
  ∀ p, (s.loc p).pc = .shmctlRemove .destroy → s.shared.key = some (s.loc p).shmid →
    ∀ q, q ≠ p → ¬ AttachedTo (s.loc p).shmid (s.loc q)

/-- **Condition** on the steps. -/
def Careful (s : Global Kernel Object Pid) : Pid × Step → Prop
  -- the segment is registered and nobody is about to remove it
  | (p, .increaseReferenceCounts) => ∀ k ∈ (s.loc p).state,
      s.shared.key = some k ∧ (s.shared.shms k).referenceCount + 1 < 2 ^ 32 ∧
        ∀ q, ∀ r ∈ (s.loc q).removing s.shared, r.2 ≠ k
  -- nobody was counted before the `State` is constructed
  | (p, .newState) => ∀ q, ¬ CountedOn (s.loc p).shmid (s.loc q)
  -- the segment goes away, at once or with the `Remove` of `Recreate`
  | (p, .reset .remap) => ∀ k ∈ (s.loc p).mapped,
      (∀ q, q ≠ p → (s.loc q).mapped ≠ some k) ∧ s.shared.key ≠ some k
  | (p, .reset .recreate) => ∀ k ∈ (s.loc p).mapped, ∀ q, q ≠ p → (s.loc q).mapped ≠ some k
  | (_, .shmgetRemoveFail .recreate) => s.shared.key = none
  | (p, .shmctlRemoveFail .recreate) => s.shared.key ≠ some (s.loc p).shmid
  -- it is the registered segment that nobody is counted in any more
  | (p, .referenceCounts) => ∀ k ∈ (s.loc p).state, (s.shared.shms k).referenceCount = 0 →
      ∀ j ∈ s.shared.key, j = k
  | _ => True

instance decidableCareful [Fintype Pid] [DecidableEq Pid] (s : Global Kernel Object Pid) :
    ∀ a : Pid × Step, Decidable (Careful s a)
  | (p, .increaseReferenceCounts) =>
    inferInstanceAs (Decidable (∀ k ∈ (s.loc p).state, _ ∧ _ ∧
      ∀ q, ∀ r ∈ (s.loc q).removing s.shared, r.2 ≠ k))
  | (p, .newState) => inferInstanceAs (Decidable (∀ q, ¬ CountedOn (s.loc p).shmid (s.loc q)))
  | (p, .reset .remap) =>
    inferInstanceAs (Decidable (∀ k ∈ (s.loc p).mapped,
      (∀ q, q ≠ p → (s.loc q).mapped ≠ some k) ∧ _))
  | (p, .reset .recreate) =>
    inferInstanceAs (Decidable (∀ k ∈ (s.loc p).mapped, ∀ q, q ≠ p → (s.loc q).mapped ≠ some k))
  | (_, .shmgetRemoveFail .recreate) => inferInstanceAs (Decidable (s.shared.key = none))
  | (p, .shmctlRemoveFail .recreate) =>
    inferInstanceAs (Decidable (s.shared.key ≠ some (s.loc p).shmid))
  | (p, .referenceCounts) =>
    inferInstanceAs (Decidable (∀ k ∈ (s.loc p).state, (s.shared.shms k).referenceCount = 0 →
      ∀ j ∈ s.shared.key, j = k))
  | (_, .acquireBlockToWrite _) | (_, .acquireBlockToRead _) | (_, .destroy) | (_, .needRemap)
  | (_, .setNeedRemap) | (_, .reset .einval) | (_, .shmgetCreate) | (_, .shmgetEexist)
  | (_, .shmgetEinval) | (_, .shmgetCreateFail) | (_, .shmatCreate) | (_, .shmatCreateFail)
  | (_, .rmidCreate) | (_, .loadCeilingCreate) | (_, .newBlocks) | (_, .shmgetOpen)
  | (_, .shmgetOpenFail) | (_, .shmatOpen) | (_, .shmatOpenFail) | (_, .loadCeilingOpen)
  | (_, .shmgetRemove _) | (_, .shmgetRemoveFail .einval) | (_, .shmgetRemoveFail .destroy)
  | (_, .shmctlRemove _) | (_, .shmctlRemoveFail .einval) | (_, .shmctlRemoveFail .destroy)
  | (_, .wroteNum) | (_, .tryLockForWrite) | (_, .tryLockForWriteFail) | (_, .increaseWroteNum)
  | (_, .releaseWrittenBlock) | (_, .tryLockForRead) | (_, .tryLockForReadFail)
  | (_, .releaseReadBlock) | (_, .decreaseReferenceCounts) => .isTrue trivial

theorem Careful.removes {s : Global Kernel Object Pid} {p : Pid} {b : Step}
    (h : Careful s (p, b)) : Removes b s.shared (s.loc p) where
  shmget := by
    rintro rfl
    exact h
  shmctl := by
    rintro rfl
    exact h

/-! ## Section 2: Invariant -/

section invariant

variable {s : Global Kernel Object Pid}

/-- The count of `k` is right. -/
def Exact [Fintype Pid] (s : Global Kernel Object Pid) (k : Nat) : Prop :=
  (s.shared.shms k).referenceCount = tally (CountedOn k) s.loc

/-- `Remap` or `Recreate` has let go of `k`: nobody is counted in it any
    more, and if it is still registered it is about to be removed. -/
structure GivenUp (s : Global Kernel Object Pid) (k : Nat) : Prop where
  pending  : ∀ q, (s.loc q).mapped = some k → (s.loc q).pc.pending = true
  removing : s.shared.key = some k → ∃ q, (s.loc q).removing s.shared = some (.recreate, k)

/-- **Invariant**: counts are right except for segments that were given up,
    and nobody is counted in the segment `Destroy` is about to remove. -/
structure Counting [Fintype Pid] (s : Global Kernel Object Pid) : Prop where
  key      : KeyInv s.shared
  standing : ∀ p, Standing s.shared (s.loc p)
  counts   : ∀ k, Exact s k ∨ GivenUp s k
  destroys : ∀ q k, (s.loc q).removing s.shared = some (.destroy, k) → s.shared.key = some k →
    ∀ r, ¬ CountedOn k (s.loc r)

variable {p : Pid} {g' : Kernel} {l' : Object} {k : Nat}

/-- What is about to be removed depends on the registered segment alone. -/
theorem removing_congr {g g' : Kernel} (l : Object) (h : g'.key = g.key) :
    l.removing g' = l.removing g := by
  unfold Object.removing
  rw [h]

/-- An object that has mapped a segment that was given up is about to be
    counted in. -/
theorem GivenUp.not_mapped (h : GivenUp s k) (hpending : (s.loc p).pc.pending = false) :
    (s.loc p).mapped ≠ some k := by
  intro hk
  rw [h.pending p hk] at hpending
  cases hpending

/-- The mapping that stays is not that of a segment that was given up. -/
theorem GivenUp.pending_of_mapped (h : GivenUp s k) (hmapped : l'.mapped = (s.loc p).mapped)
    (hpending : (s.loc p).pc.pending = false) :
    l'.mapped = some k → l'.pc.pending = true := by
  rw [hmapped]
  exact fun heq => absurd heq (h.not_mapped hpending)

/-- An object that is not about to remove anything. -/
theorem not_removing (hremoving : (s.loc p).removing s.shared = none) :
    (s.loc p).removing s.shared = some (.recreate, k) → g'.key = some k →
      l'.removing g' = some (.recreate, k) := by
  rw [hremoving]
  nofun

variable [DecidableEq Pid]

/-- What holds of the object that moved and of all others. -/
theorem forall_update {P : Object → Prop} (hp : P l')
    (hothers : ∀ q, q ≠ p → P (s.loc q)) (q : Pid) : P (Function.update s.loc p l' q) := by
  by_cases hq : q = p
  · rw [hq, Function.update_self]
    exact hp
  · rw [Function.update_of_ne hq]
    exact hothers q hq

theorem nobody_counted (hl : ¬ CountedOn k l') (hothers : ∀ q, ¬ CountedOn k (s.loc q)) (r : Pid) :
    ¬ CountedOn k (Function.update s.loc p l' r) :=
  forall_update (P := fun l => ¬ CountedOn k l) hl (fun q _ => hothers q) r

/-- The state after `p` has moved. -/
def after (s : Global Kernel Object Pid) (p : Pid) (g' : Kernel) (l' : Object) :
    Global Kernel Object Pid := ⟨g', Function.update s.loc p l'⟩

theorem Exact.after [Fintype Pid] (h : Exact s k)
    (hcount : (g'.shms k).referenceCount = (s.shared.shms k).referenceCount)
    (hcounted : CountedOn k l' ↔ CountedOn k (s.loc p)) : Exact (after s p g' l') k := by
  show (g'.shms k).referenceCount = tally _ (Function.update s.loc p l')
  rw [hcount, tally_update_of_iff hcounted]
  exact h

/-- A segment stays given up as long as nobody else maps it and whoever is
    about to remove it is. -/
theorem GivenUp.after (h : GivenUp s k)
    (hmapped : l'.mapped = some k → l'.pc.pending = true)
    (hkey : g'.key = some k → s.shared.key = some k)
    (hremoving : (s.loc p).removing s.shared = some (.recreate, k) → g'.key = some k →
      l'.removing g' = some (.recreate, k)) : GivenUp (after s p g' l') k := by
  constructor
  · exact forall_update (P := fun l => l.mapped = some k → l.pc.pending = true) hmapped
      fun q _ => h.pending q
  · intro hk
    have hk : g'.key = some k := hk
    obtain ⟨q, hq⟩ := h.removing (hkey hk)
    by_cases hqp : q = p
    · subst hqp
      refine ⟨q, ?_⟩
      show (Function.update s.loc q l' q).removing g' = _
      rw [Function.update_self]
      exact hremoving hq hk
    · refine ⟨q, ?_⟩
      show (Function.update s.loc p l' q).removing g' = _
      rw [Function.update_of_ne hqp, removing_congr _ (hk.trans (hkey hk).symm)]
      exact hq

/-! ## Section 3: Steps -/

theorem not_countedOn {l : Object} (hnone : l.counted = none) (j : Nat) : ¬ CountedOn j l := by
  intro hj
  exact absurd (hnone.symm.trans hj) nofun

theorem countedOn_iff_of_none {l m : Object} (hl : l.counted = none) (hm : m.counted = none)
    (j : Nat) : CountedOn j l ↔ CountedOn j m :=
  iff_of_false (not_countedOn hl j) (not_countedOn hm j)

section counts
variable [Fintype Pid] {j : Nat}

/-- A step that neither counts the object in or out of segment `j` nor lets
    go of it. -/
theorem Counting.keeps (h : Counting s)
    (hcount : (g'.shms j).referenceCount = (s.shared.shms j).referenceCount)
    (hcounted : CountedOn j l' ↔ CountedOn j (s.loc p))
    (hmapped : GivenUp s j → l'.mapped = some j → l'.pc.pending = true)
    (hkey : g'.key = some j → s.shared.key = some j)
    (hremoving : (s.loc p).removing s.shared = some (.recreate, j) → g'.key = some j →
      l'.removing g' = some (.recreate, j)) :
    Exact (after s p g' l') j ∨ GivenUp (after s p g' l') j :=
  (h.counts j).imp (fun hexact => hexact.after hcount hcounted)
    (fun hgiven => hgiven.after (hmapped hgiven) hkey hremoving)

theorem counts_create (h : Counting s) (hcounted : (s.loc p).counted = none)
    (hcounted' : l'.counted = none) (hmapped : l'.mapped = (s.loc p).mapped)
    (hpending : (s.loc p).pc.pending = false) (conf : ShmConf) :
    Exact (after s p (s.shared.create conf) l') j ∨
      GivenUp (after s p (s.shared.create conf) l') j := by
  by_cases hj : j = s.shared.next
  · -- a new segment
    subst hj
    have hnobody : ∀ q, ¬ CountedOn s.shared.next (s.loc q) :=
      fun q hq => Nat.lt_irrefl _ ((h.standing q).counted _ hq).2
    refine .inl ?_
    show (Function.update s.shared.shms s.shared.next _ s.shared.next).referenceCount =
      tally (CountedOn s.shared.next) (Function.update s.loc p l')
    rw [Function.update_self,
      tally_eq_zero_iff.mpr (nobody_counted (not_countedOn hcounted' _) hnobody)]
    rfl
  · have hcount : ((s.shared.create conf).shms j).referenceCount =
        (s.shared.shms j).referenceCount :=
      congrArg SharedMemory.referenceCount (Function.update_of_ne hj _ _)
    have hkey : (s.shared.create conf).key ≠ some j :=
      fun heq => hj (Option.some.inj heq).symm
    exact h.keeps hcount (countedOn_iff_of_none hcounted' hcounted j)
      (fun hgiven => hgiven.pending_of_mapped hmapped hpending) (fun heq => absurd heq hkey)
      (fun _ heq => absurd heq hkey)

/-- The count of a segment whose `State` is constructed starts at zero, and
    nobody was counted before. -/
theorem counts_construct (h : Counting s) (hg : CountsTo s.shared g' k 0)
    (hcounted : (s.loc p).counted = none) (hcounted' : l'.counted = none)
    (hpending : l'.pc.pending = true) (hremoving : (s.loc p).removing s.shared = none)
    (hok : ∀ q, ¬ CountedOn k (s.loc q)) :
    Exact (after s p g' l') j ∨ GivenUp (after s p g' l') j := by
  by_cases hj : j = k
  · subst hj
    refine .inl ?_
    show (g'.shms j).referenceCount = tally (CountedOn j) (Function.update s.loc p l')
    rw [hg.2.1, tally_eq_zero_iff.mpr (nobody_counted (not_countedOn hcounted' j) hok)]
  · apply h.keeps (hg.2.2 j hj) (countedOn_iff_of_none hcounted' hcounted j)
    · exact fun _ _ => hpending
    · rw [hg.1]
      exact id
    · exact not_removing hremoving

theorem counts_countIn (h : Counting s)
    (hg : CountsTo s.shared g' k (((s.shared.shms k).referenceCount + 1) % 2 ^ 32))
    (hcounted : (s.loc p).counted = none) (hcounted' : l'.counted = some k)
    (hmapped' : l'.mapped = some k) (hremoving : (s.loc p).removing s.shared = none)
    (hkey : s.shared.key = some k) (hroom : (s.shared.shms k).referenceCount + 1 < 2 ^ 32)
    (hsafe : ∀ q, ∀ r ∈ (s.loc q).removing s.shared, r.2 ≠ k) :
    Exact (after s p g' l') j ∨ GivenUp (after s p g' l') j := by
  by_cases hj : j = k
  · subst hj
    cases h.counts j with
    | inl hexact =>
      have hexact : (s.shared.shms j).referenceCount = tally (CountedOn j) s.loc := hexact
      refine .inl ?_
      show (g'.shms j).referenceCount = tally (CountedOn j) (Function.update s.loc p l')
      rw [hg.2.1, Nat.mod_eq_of_lt hroom, tally_update_enter (not_countedOn hcounted j) hcounted',
        hexact]
    | inr hgiven =>
      -- it would be about to be removed
      obtain ⟨q, hq⟩ := hgiven.removing hkey
      exact absurd rfl (hsafe q _ hq)
  · have hne : some k ≠ some j := fun heq => hj (Option.some.inj heq).symm
    apply h.keeps (hg.2.2 j hj)
    · unfold CountedOn
      rw [hcounted, hcounted']
      exact ⟨fun heq => absurd heq hne, nofun⟩
    · rw [hmapped']
      exact fun _ heq => absurd heq hne
    · rw [hg.1]
      exact id
    · exact not_removing hremoving

theorem counts_countOut (h : Counting s)
    (hg : CountsTo s.shared g' k ((s.shared.shms k).referenceCount - 1))
    (hcounted : (s.loc p).counted = some k) (hcounted' : l'.counted = none)
    (hmapped : l'.mapped = (s.loc p).mapped) (hpending : (s.loc p).pc.pending = false)
    (hremoving : (s.loc p).removing s.shared = none) :
    Exact (after s p g' l') j ∨ GivenUp (after s p g' l') j := by
  by_cases hj : j = k
  · subst hj
    cases h.counts j with
    | inl hexact =>
      have hexact : (s.shared.shms j).referenceCount = tally (CountedOn j) s.loc := hexact
      have hleave : tally (CountedOn j) (Function.update s.loc p l') + 1 =
          tally (CountedOn j) s.loc := tally_update_leave hcounted (not_countedOn hcounted' j)
      refine .inl ?_
      show (g'.shms j).referenceCount = tally (CountedOn j) (Function.update s.loc p l')
      rw [hg.2.1, hexact]
      omega
    | inr hgiven =>
      exact absurd ((h.standing p).counted j hcounted).1 (hgiven.not_mapped hpending)
  · have hne : some k ≠ some j := fun heq => hj (Option.some.inj heq).symm
    apply h.keeps (hg.2.2 j hj)
    · unfold CountedOn
      rw [hcounted, hcounted']
      exact ⟨nofun, fun heq => absurd heq hne⟩
    · exact fun hgiven => hgiven.pending_of_mapped hmapped hpending
    · rw [hg.1]
      exact id
    · exact not_removing hremoving

/-- An object that was counted lets go of its segment: the segment goes away,
    or is given up. -/
theorem counts_leave (h : Counting s) (by_ : ResetBy) (hg : SameCounts s.shared g')
    (hcounted : (s.loc p).counted ≠ none → by_ ≠ .einval) (hcounted' : l'.counted = none)
    (hmapped : l'.mapped = none) (hremoving : (s.loc p).removing s.shared = none)
    (hrecreates : by_ = .recreate → ∀ k, s.shared.key = some k →
      l'.removing g' = some (.recreate, k)) (hok : Careful s (p, .reset by_)) :
    Exact (after s p g' l') j ∨ GivenUp (after s p g' l') j := by
  have hgone : ∀ {i}, l'.mapped = some i → l'.pc.pending = true := by
    rw [hmapped]
    nofun
  by_cases hj : CountedOn j (s.loc p)
  · have hmine : (s.loc p).mapped = some j := ((h.standing p).counted j hj).1
    have hby : by_ ≠ .einval := hcounted fun hnone => not_countedOn hnone j hj
    refine .inr ⟨?_, fun hkey => ?_⟩
    · refine forall_update (P := fun l => l.mapped = some j → l.pc.pending = true) hgone ?_
      intro q hq hother
      cases by_ with
      | remap => exact absurd hother ((hok j hmine).1 q hq)
      | recreate => exact absurd hother (hok j hmine q hq)
      | einval => exact absurd rfl hby
    · have hkey : g'.key = some j := hkey
      rw [hg.1] at hkey
      cases by_ with
      | remap => exact absurd hkey (hok j hmine).2
      | recreate =>
        refine ⟨p, ?_⟩
        show (Function.update s.loc p l' p).removing g' = _
        rw [Function.update_self]
        exact hrecreates rfl j hkey
      | einval => exact absurd rfl hby
  · apply h.keeps (hg.2 j)
    · exact iff_of_false (not_countedOn hcounted' j) hj
    · exact fun _ => hgone
    · rw [hg.1]
      exact id
    · exact not_removing hremoving

theorem counts_unregister (h : Counting s) (hcounted : l'.counted = (s.loc p).counted)
    (hmapped : l'.mapped = (s.loc p).mapped) (hpending : (s.loc p).pc.pending = false)
    (hremoving : ∀ j, (s.loc p).removing s.shared = some (.recreate, j) → j = k) :
    Exact (after s p (s.shared.rmid k) l') j ∨ GivenUp (after s p (s.shared.rmid k) l') j := by
  have hcount : ((s.shared.rmid k).shms j).referenceCount = (s.shared.shms j).referenceCount :=
    (sameCounts_modify s.shared k (fun m => { m with removed := true }) rfl).2 j
  have hkey : (s.shared.rmid k).key = some j → s.shared.key = some j ∧ j ≠ k := by
    intro hj
    have hj : (if s.shared.key = some k then none else s.shared.key) = some j := hj
    split at hj
    · cases hj
    · next hne => exact ⟨hj, fun heq => hne (heq ▸ hj)⟩
  apply h.keeps hcount
  · unfold CountedOn
    rw [hcounted]
  · exact fun hgiven => hgiven.pending_of_mapped hmapped hpending
  · exact fun hj => (hkey hj).1
  · exact fun hrem hj => absurd (hremoving j hrem) (hkey hj).2

/-- **Step lemma**, counts. -/
theorem counts_change {b : Step} (h : Counting s)
    (hchange : Change s.shared (s.loc p) g' l' b) (hok : Careful s (p, b)) (j : Nat) :
    Exact (after s p g' l') j ∨ GivenUp (after s p g' l') j := by
  cases hchange with
  | stay _ hg hcounted hmapped hpending hrecreates _ =>
    apply h.keeps (hg.2 j)
    · unfold CountedOn
      rw [hcounted]
    · exact fun hgiven hj => hpending (hgiven.pending p (hmapped j hj))
    · rw [hg.1]
      exact id
    · intro hrem hkey
      rw [hg.1] at hkey
      exact hrecreates j hkey hrem
  | create _ _ hg hcounted hcounted' hmapped hpending _ =>
    subst hg
    exact counts_create h hcounted hcounted' hmapped hpending _
  | attach _ hg hcounted hcounted' hpending hremoving _ =>
    apply h.keeps (hg.2 j) (countedOn_iff_of_none hcounted' hcounted j)
    · exact fun _ _ => hpending
    · rw [hg.1]
      exact id
    · exact not_removing hremoving
  | construct k hk hg hcounted hcounted' _ hpending hremoving _ =>
    subst hk
    exact counts_construct h hg hcounted hcounted' hpending hremoving hok
  | countIn k hk hg hcounted hcounted' _ hmapped' hremoving _ =>
    obtain ⟨hkey, hroom, hsafe⟩ := hok k hk
    exact counts_countIn h hg hcounted hcounted' hmapped' hremoving hkey hroom hsafe
  | countOut _ k hg hcounted hcounted' hmapped hpending hremoving _ =>
    exact counts_countOut h hg hcounted hcounted' hmapped hpending hremoving
  | leave by_ hg hcounted hcounted' hmapped _ hremoving hrecreates _ =>
    exact counts_leave h by_ hg hcounted hcounted' hmapped hremoving hrecreates hok
  | unregister _ k hg hcounted hmapped hpending hremoving _ =>
    subst hg
    exact counts_unregister h hcounted hmapped hpending hremoving
  | zero k _ _ _ hg hcounted hmapped' hpending hremoving _ =>
    subst hg
    apply h.keeps rfl
    · unfold CountedOn
      rw [hcounted]
    · exact fun hgiven => hgiven.pending_of_mapped hmapped' hpending
    · exact id
    · exact not_removing hremoving

end counts

/-- **Step lemma**, removals. -/
theorem destroys_change [Fintype Pid] {b : Step} (h : Counting s)
    (hchange : Change s.shared (s.loc p) g' l' b) (hok : Careful s (p, b)) (q : Pid) (k : Nat)
    (hremoves : ((after s p g' l').loc q).removing g' = some (.destroy, k))
    (hkey : g'.key = some k) (r : Pid) : ¬ CountedOn k ((after s p g' l').loc r) := by
  have hremoves : (Function.update s.loc p l' q).removing g' = some (.destroy, k) := hremoves
  -- whoever is about to remove the segment was so before, and nobody is counted since
  have hold : g'.key = s.shared.key → (l'.removing g' = some (.destroy, k) →
      (s.loc p).removing s.shared = some (.destroy, k)) →
      (CountedOn k l' → CountedOn k (s.loc p)) → ¬ CountedOn k ((after s p g' l').loc r) := by
    intro hsame hmine hcounted
    rw [hsame] at hkey
    have hbefore : ∃ q, (s.loc q).removing s.shared = some (.destroy, k) := by
      by_cases hqp : q = p
      · rw [hqp, Function.update_self] at hremoves
        exact ⟨p, hmine hremoves⟩
      · rw [Function.update_of_ne hqp, removing_congr _ hsame] at hremoves
        exact ⟨q, hremoves⟩
    obtain ⟨q', hq'⟩ := hbefore
    have hnobody := h.destroys q' k hq' hkey
    exact nobody_counted (fun hl => hnobody p (hcounted hl)) hnobody r
  cases hchange with
  | stay _ hg hcounted _ _ _ hdestroys =>
    refine hold hg.1 (hdestroys k) ?_
    unfold CountedOn
    rw [hcounted]
    exact id
  | create _ _ hg _ hcounted' =>
    subst hg
    obtain rfl : s.shared.next = k := Option.some.inj hkey
    refine nobody_counted (not_countedOn hcounted' _) (fun q hq => ?_) r
    exact Nat.lt_irrefl _ ((h.standing q).counted _ hq).2
  | attach _ hg _ hcounted' _ _ hremoving' =>
    refine hold hg.1 ?_ fun hl => absurd hl (not_countedOn hcounted' k)
    rw [hremoving']
    nofun
  | construct i _ hg _ hcounted' _ _ _ hremoving' =>
    refine hold hg.1 ?_ fun hl => absurd hl (not_countedOn hcounted' k)
    rw [hremoving']
    nofun
  | countIn i hi hg _ _ _ _ _ hremoving' =>
    obtain ⟨hregistered, _, hsafe⟩ := hok i hi
    obtain rfl : i = k := Option.some.inj (hregistered.symm.trans (hg.1.symm.trans hkey))
    by_cases hqp : q = p
    · rw [hqp, Function.update_self, hremoving'] at hremoves
      cases hremoves
    · rw [Function.update_of_ne hqp, removing_congr _ hg.1] at hremoves
      exact absurd rfl (hsafe q _ hremoves)
  | countOut _ i hg _ hcounted' _ _ _ hremoving' =>
    refine hold hg.1 ?_ fun hl => absurd hl (not_countedOn hcounted' k)
    rw [hremoving']
    nofun
  | leave by_ hg _ hcounted' _ _ _ _ hdestroys =>
    exact hold hg.1 (fun hmine => absurd hmine (hdestroys k))
      fun hl => absurd hl (not_countedOn hcounted' k)
  | unregister _ i hg hcounted _ _ _ hremoving' =>
    subst hg
    have hkey' : (if s.shared.key = some i then none else s.shared.key) = some k := hkey
    split at hkey'
    · cases hkey'
    · refine hold (hkey.trans hkey'.symm) ?_ ?_
      · rw [hremoving']
        nofun
      · unfold CountedOn
        rw [hcounted]
        exact id
  | zero i hi hmapped hzero hg hcounted _ hpending _ hremoving' =>
    subst hg
    have hsame : CountedOn k l' → CountedOn k (s.loc p) := by
      unfold CountedOn
      rw [hcounted]
      exact id
    -- the count of the registered segment is zero, and it is right
    obtain rfl : k = i := hok i hi hzero k hkey
    have hnobody : ∀ q, ¬ CountedOn k (s.loc q) := by
      cases h.counts k with
      | inl hexact =>
        have hexact : (s.shared.shms k).referenceCount = tally (CountedOn k) s.loc := hexact
        exact tally_eq_zero_iff.mp (hexact.symm.trans hzero)
      | inr hgiven => exact absurd hmapped (hgiven.not_mapped hpending)
    exact nobody_counted (fun hl => hnobody p (hsame hl)) hnobody r

/-- **Run lemma**, counting. -/
theorem counting_reachable [Fintype Pid]
    (h : ((@channel Pid _).restrict Careful).Reachable s) : Counting s := by
  refine System.invariant ?_ ?_ h
  · rintro s ⟨hkey, hnew⟩
    have hkey : s.shared.key = none := hkey
    have hnew : ∀ p, s.loc p = .new (s.loc p).mode := hnew
    have hplain : ∀ q, (s.loc q).counted = none ∧ (s.loc q).mapped = none := by
      intro q
      rw [hnew q]
      exact ⟨rfl, rfl⟩
    refine ⟨?_, fun q => ?_, fun k => .inr ⟨fun q hq => ?_, fun hk => ?_⟩, ?_⟩
    · intro k hk
      rw [hkey] at hk
      cases hk
    · refine .off (hplain q).1 ?_
      rw [hnew q]
      trivial
    · exact absurd ((hplain q).2.symm.trans hq) nofun
    · rw [hkey] at hk
      cases hk
    · intro q k _ hk
      rw [hkey] at hk
      cases hk
  · rintro s ⟨p, b⟩ hs ⟨hg, hok⟩
    have hout : Outcome s.shared (s.loc p) (b.effect s.shared (s.loc p)).1
        (b.effect s.shared (s.loc p)).2 b :=
      outcome_step b hs.key (hs.standing p) hg hok.removes
    have htouch : Touch s.shared (s.loc p) (b.effect s.shared (s.loc p)).1 := touch_step b hg
    exact ⟨htouch.key hs.key,
      forall_update (P := Standing _) hout.standing fun q _ =>
        (hs.standing q).stable htouch.next_le,
      counts_change hs hout.change hok, destroys_change hs hout.change hok⟩

/-! ## Section 4: Main result -/

/-- An object outside of the operations is counted where it is attached. -/
theorem countedOn_iff {l : Object} (hpc : l.pc.settled = true) :
    CountedOn k l ↔ AttachedTo k l := by
  have hkeeps : l.pc.keepsCount = false := by
    cases hat : l.pc with
    | setNeedRemap | reset | decreaseReferenceCounts =>
      rw [hat] at hpc
      cases hpc
    | _ => rfl
  unfold CountedOn AttachedTo
  rw [Object.counted_eq_ite hkeeps]
  cases l.init with
  | true => exact ⟨fun hk => ⟨rfl, hk⟩, fun hk => hk.2⟩
  | false => exact ⟨nofun, fun hk => absurd hk.1 nofun⟩

/-- Outside of the operations no object is about to be counted, or about to
    remove a segment. -/
theorem settled_cases {l : Object} (hpc : l.pc.settled = true) :
    l.pc.pending = false ∧ l.pc.removes = none := by
  cases hat : l.pc with
  | newState | loadCeilingCreate | newBlocks | loadCeilingOpen | increaseReferenceCounts
  | shmgetRemove | shmctlRemove =>
    rw [hat] at hpc
    cases hpc
  | _ => exact ⟨rfl, rfl⟩

/-- **Main result**: in every run whose steps meet the condition the counts
    are right and `Destroy` removes no segment another object is attached
    to. -/
theorem segment_counted [Fintype Pid]
    (h : ((@channel Pid _).restrict Careful).Reachable s) :
    CountsAttached s ∧ RemovesUnattached s := by
  have hs := counting_reachable h
  constructor
  · intro hsettled k halive
    have hiff : ∀ p, CountedOn k (s.loc p) ↔ AttachedTo k (s.loc p) := fun p =>
      countedOn_iff (hsettled p)
    rw [← tally_congr hiff]
    cases hs.counts k with
    | inl hexact => exact hexact
    | inr hgiven =>
      -- nothing maps the segment, and nothing would remove it
      cases halive with
      | inl hkey =>
        obtain ⟨q, hq⟩ := hgiven.removing hkey
        rw [Object.removing_eq_none (settled_cases (hsettled q)).2] at hq
        cases hq
      | inr hmapped =>
        obtain ⟨p, hp⟩ := hmapped
        exact absurd hp (hgiven.not_mapped (settled_cases (hsettled p)).1)
  · intro p hpc hkey q hq hattached
    have hremoving : (s.loc p).removing s.shared = some (.destroy, (s.loc p).shmid) := by
      rw [Object.removing, hpc]
    refine hs.destroys p _ hremoving hkey q ?_
    exact (Object.counted_of_init hattached.1).trans hattached.2

end invariant

/-! ## Section 5: Runs -/

/-- The writer creates the segment, the reader opens it, and the writer
    recreates it for a message of 20000 bytes. -/
def leakedSteps : List (Bool × Step) :=
  stepsOf true ([Step.acquireBlockToWrite 100] ++ createSteps ++ [Step.needRemap] ++
    searchSteps ++ [Step.releaseWrittenBlock]) ++
  stepsOf false ([Step.acquireBlockToRead 0] ++ openSteps ++
    [Step.needRemap, Step.tryLockForRead, Step.releaseReadBlock]) ++
  stepsOf true ([Step.acquireBlockToWrite 20000, Step.needRemap] ++ recreateSteps ++ createSteps)

/-- The writer's `Destroy` finds the count zero before the reader opens the
    segment, and removes it afterwards. -/
def lateOpenSteps : List (Bool × Step) :=
  stepsOf true ([Step.acquireBlockToWrite 100] ++ createSteps ++ [Step.needRemap] ++
    searchSteps ++ [Step.releaseWrittenBlock, Step.destroy, Step.decreaseReferenceCounts,
      Step.referenceCounts]) ++
  stepsOf false ([Step.acquireBlockToRead 0] ++ openSteps) ++
  stepsOf true [Step.shmgetRemove .destroy]

/-- The count of the first segment is 2 with one object attached, and the
    segment of the reader is removed. -/
theorem segment_miscounted :
    (¬ ∀ s : Global Kernel Object Bool, channel.Reachable s → CountsAttached s) ∧
    ¬ ∀ s : Global Kernel Object Bool, channel.Reachable s → RemovesUnattached s := by
  constructor
  · intro h
    let s := channel.exec (initial modes) leakedSteps
    have hs : channel.Reachable s :=
      System.reachable_exec _ (initial_init _) leakedSteps (by decide +kernel)
    have hsettled : ∀ p, (s.loc p).pc.settled = true := by decide +kernel
    have halive : Alive s 0 := .inr ⟨false, by decide +kernel⟩
    have hcount := h s hs hsettled 0 halive
    revert hcount
    decide +kernel
  · intro h
    let s := channel.exec (initial modes) lateOpenSteps
    have hs : channel.Reachable s :=
      System.reachable_exec _ (initial_init _) lateOpenSteps (by decide +kernel)
    exact h s hs true (by decide +kernel) (by decide +kernel) false (by decide)
      (by decide +kernel)

/-- The writer recreates the segment before the reader opens it, and both
    are destroyed, the writer last. -/
def inTurnSteps : List (Bool × Step) :=
  stepsOf true ([Step.acquireBlockToWrite 100] ++ createSteps ++ [Step.needRemap] ++
    searchSteps ++ [Step.releaseWrittenBlock, Step.acquireBlockToWrite 20000, Step.needRemap] ++
    recreateSteps ++ createSteps ++ searchSteps ++ [Step.releaseWrittenBlock]) ++
  stepsOf false ([Step.acquireBlockToRead 0] ++ openSteps ++
    [Step.needRemap, Step.tryLockForRead, Step.releaseReadBlock, Step.destroy,
      Step.decreaseReferenceCounts, Step.referenceCounts]) ++
  stepsOf true [Step.destroy, Step.decreaseReferenceCounts, Step.referenceCounts,
    Step.shmgetRemove .destroy]

theorem segment_counted_inTurn :
    CountsAttached ((channel.restrict Careful).exec (initial modes) inTurnSteps) ∧
      RemovesUnattached ((channel.restrict Careful).exec (initial modes) inTurnSteps) := by
  refine segment_counted (System.reachable_exec (channel.restrict Careful) ?_ inTurnSteps ?_)
  · exact initial_init modes
  · decide +kernel

end CyberRT.Transport.Shm.Segment
