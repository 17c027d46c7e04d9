import CyberRT.Base.AtomicHashMap
import CyberRT.Framework.Chain

/-! # The lists of the atomic hash map

    Each bucket is a list in the strict order of its keys. A walk stands
    behind an entry of a smaller key that stays in the list, and so a link
    that is found unchanged is the place where the new entry belongs. -/

namespace CyberRT.Base.AtomicHashMap

open CyberRT.Framework

variable {k : Nat} {Tid V : Type}

/-! ## Section 1: Invariant -/

/-- The entry `a` is that of the key. -/
def Holds (s : State k Tid V) (lists : Fin (2 ^ k) → List Nat) (key : Int) (a : Nat) : Prop :=
  a ∈ lists (index k key) ∧ (s.entries a).key = key

/-- The entries of each bucket in their order. -/
structure Lists (s : State k Tid V) (lists : Fin (2 ^ k) → List Nat) : Prop where
  chain     : ∀ b, Chain s.next (s.table b) (lists b) none
  sorted    : ∀ b, (lists b).Pairwise fun a a' => (s.entries a).key < (s.entries a').key
  bucket    : ∀ b, ∀ a ∈ lists b, index k (s.entries a).key = b
  allocated : ∀ b, ∀ a ∈ lists b, s.allocated a = true
  set       : ∀ b, ∀ a ∈ lists b, s.started (s.entries a).key = true ∧
    s.lastSet (s.entries a).key = some (s.entries a).valuePtr
  completed : ∀ key, s.completed key = true → ∃ a, Holds s lists key a

/-- The walk stands behind an entry of a smaller key, or at the head. -/
def Behind (s : State k Tid V) (lists : Fin (2 ^ k) → List Nat) (l : Local V) : Prop :=
  ∀ a ∈ l.prev, a ∈ lists (index k l.key) ∧ (s.entries a).key < l.key

/-- The walk has found what comes behind its key. -/
def Before (s : State k Tid V) (lists : Fin (2 ^ k) → List Nat) (l : Local V) : Prop :=
  ∀ a ∈ l.target, a ∈ lists (index k l.key) ∧ l.key < (s.entries a).key

/-- What a thread's local variables know about the map. -/
def ThreadInv (s : State k Tid V) (lists : Fin (2 ^ k) → List Nat) (l : Local V) : Prop :=
  match l.pc with
  | .newEntry => s.started l.key = true ∧ l.prev = none
  | .walkLoad => Behind s lists l
  | .walkCompare => Behind s lists l ∧ (∀ a ∈ l.target, a ∈ lists (index k l.key)) ∧
    (l.setBefore = true → ∃ a, l.target = some a ∧ (s.entries a).key ≤ l.key)
  | .getLoad | .setLoadValue | .setCasValue => ∃ a, l.target = some a ∧ Holds s lists l.key a
  | .setStoreNext => Behind s lists l ∧ Before s lists l
  | .setCasNext => Behind s lists l ∧ Before s lists l ∧ s.next l.newEntry = l.target
  | .getCopy | .deleteOldValue | .deleteNewEntry | .deleteNewValue =>
    ∃ a, Holds s lists l.key a
  | .idle => (l.ret = some false → l.setBefore = false) ∧
    (l.ret = some true → s.started l.key = true)

def Op.sets : Op V → Bool
  | .set _ => true
  | _ => false

/-- The thread has a new entry that nobody else knows. -/
def Local.owns (l : Local V) : Bool :=
  match l.pc with
  | .walkLoad | .walkCompare => l.op.sets
  | .setLoadValue | .setCasValue | .setStoreNext | .setCasNext | .deleteOldValue
  | .deleteNewEntry => true
  | _ => false

/-- A new entry. -/
structure Fresh (s : State k Tid V) (lists : Fin (2 ^ k) → List Nat) (l : Local V) : Prop where
  allocated : s.allocated l.newEntry = true
  key       : (s.entries l.newEntry).key = l.key
  started   : s.started l.key = true
  unlinked  : ∀ b, l.newEntry ∉ lists b

/-- The invariant, with the lists it speaks of. -/
structure InvOn (s : State k Tid V) (lists : Fin (2 ^ k) → List Nat) : Prop where
  inOrder : Lists s lists
  threads : ∀ t, ThreadInv s lists (s.loc t)
  running : ∀ t, (s.loc t).pc ≠ .idle → (s.loc t).ret = none ∧
    ((s.loc t).setBefore = true → ∃ a, Holds s lists (s.loc t).key a)
  fresh   : ∀ t, (s.loc t).owns = true → Fresh s lists (s.loc t)
  apart   : ∀ t u, t ≠ u → (s.loc t).owns = true → (s.loc u).owns = true →
    (s.loc t).newEntry ≠ (s.loc u).newEntry

theorem invOn_init [DecidableEq Tid] {s : State k Tid V} (h : (atomicHashMap k).init s) :
    InvOn s fun _ => [] := by
  obtain ⟨htable, -, -, hidle, -, hcompleted⟩ := h
  have hnone : ∀ t, (s.loc t).owns = false := fun t => by simp [Local.owns, hidle t]
  constructor
  case inOrder => constructor <;> simp [htable, hcompleted]
  case threads =>
    intro t
    simp [ThreadInv, hidle t]
  case running =>
    intro t hpc
    exact absurd (hidle t).1 hpc
  case fresh =>
    intro t howns
    simp [hnone] at howns
  case apart =>
    intro t u _ howns
    simp [hnone] at howns

/-! ## Section 2: What stays -/

/-- What is in the lists stays there, in its order. -/
structure Extends (s : State k Tid V) (lists : Fin (2 ^ k) → List Nat) (s' : State k Tid V)
    (lists' : Fin (2 ^ k) → List Nat) : Prop where
  sublist : ∀ b, (lists b).Sublist (lists' b)
  key     : ∀ b, ∀ a ∈ lists b, (s'.entries a).key = (s.entries a).key
  started : ∀ key, s.started key = true → s'.started key = true

namespace Extends

variable {s s' s'' : State k Tid V} {lists lists' lists'' : Fin (2 ^ k) → List Nat}
  {l : Local V} {key : Int} {a : Nat}

theorem refl (s : State k Tid V) (lists : Fin (2 ^ k) → List Nat) : Extends s lists s lists :=
  ⟨fun _ => .refl _, fun _ _ _ => rfl, fun _ h => h⟩

theorem trans (h : Extends s lists s' lists') (h' : Extends s' lists' s'' lists'') :
    Extends s lists s'' lists'' where
  sublist b := (h.sublist b).trans (h'.sublist b)
  key b a ha := (h'.key b a ((h.sublist b).subset ha)).trans (h.key b a ha)
  started key hkey := h'.started key (h.started key hkey)

theorem holds (h : Extends s lists s' lists') (ha : Holds s lists key a) :
    Holds s' lists' key a :=
  ⟨(h.sublist _).subset ha.1, (h.key _ a ha.1).trans ha.2⟩

theorem exists_holds (h : Extends s lists s' lists') (ha : ∃ a, Holds s lists key a) :
    ∃ a, Holds s' lists' key a := by
  obtain ⟨a, ha⟩ := ha
  exact ⟨a, h.holds ha⟩

theorem behind (h : Extends s lists s' lists') (hl : Behind s lists l) : Behind s' lists' l := by
  intro a ha
  obtain ⟨hmem, hlt⟩ := hl a ha
  refine ⟨(h.sublist _).subset hmem, ?_⟩
  rw [h.key _ a hmem]
  exact hlt

theorem before (h : Extends s lists s' lists') (hl : Before s lists l) : Before s' lists' l := by
  intro a ha
  obtain ⟨hmem, hlt⟩ := hl a ha
  refine ⟨(h.sublist _).subset hmem, ?_⟩
  rw [h.key _ a hmem]
  exact hlt

/-- What a thread knows stays true while its new entry is left alone. -/
theorem threadInv (h : Extends s lists s' lists') (hl : ThreadInv s lists l)
    (hnext : l.owns = true → s'.next l.newEntry = s.next l.newEntry) :
    ThreadInv s' lists' l := by
  cases hpc : l.pc <;> simp only [ThreadInv, hpc] at hl ⊢
  case idle => exact ⟨hl.1, fun hret => h.started _ (hl.2 hret)⟩
  case newEntry => exact ⟨h.started _ hl.1, hl.2⟩
  case walkLoad => exact h.behind hl
  case walkCompare =>
    obtain ⟨hbehind, hmem, hfind⟩ := hl
    refine ⟨h.behind hbehind, fun a ha => (h.sublist _).subset (hmem a ha), ?_⟩
    intro hset
    obtain ⟨a, ha, hle⟩ := hfind hset
    refine ⟨a, ha, ?_⟩
    rw [h.key _ a (hmem a ha)]
    exact hle
  case getLoad | setLoadValue | setCasValue =>
    obtain ⟨a, ha, hholds⟩ := hl
    exact ⟨a, ha, h.holds hholds⟩
  case setStoreNext => exact ⟨h.behind hl.1, h.before hl.2⟩
  case setCasNext =>
    obtain ⟨hbehind, hbefore, hlink⟩ := hl
    refine ⟨h.behind hbehind, h.before hbefore, ?_⟩
    rw [hnext (by simp [Local.owns, hpc]), hlink]
  case getCopy | deleteOldValue | deleteNewEntry | deleteNewValue => exact h.exists_holds hl

end Extends

/-- **Step rule** of one thread: the lists only grow, the new entries of the
    others are left alone, and what the thread itself knows holds again. -/
theorem InvOn.of_step [DecidableEq Tid] {s s' : State k Tid V}
    {lists lists' : Fin (2 ^ k) → List Nat} {t : Tid} {l : Local V} (h : InvOn s lists)
    (hext : Extends s lists s' lists') (hlists : Lists s' lists')
    (hloc : s'.loc = Function.update s.loc t l)
    (hothers : ∀ u, u ≠ t → (s.loc u).owns = true → Fresh s' lists' (s.loc u) ∧
      s'.next (s.loc u).newEntry = s.next (s.loc u).newEntry)
    (hthread : ThreadInv s' lists' l)
    (hrunning : l.pc ≠ .idle → l.ret = none ∧
      (l.setBefore = true → ∃ a, Holds s' lists' l.key a))
    (hfresh : l.owns = true → Fresh s' lists' l ∧
      ∀ u, u ≠ t → (s.loc u).owns = true → l.newEntry ≠ (s.loc u).newEntry) :
    InvOn s' lists' := by
  have hself : s'.loc t = l := by rw [hloc, Function.update_self]
  have hother : ∀ u, u ≠ t → s'.loc u = s.loc u := by
    intro u hu
    rw [hloc, Function.update_of_ne hu]
  constructor
  case inOrder => exact hlists
  case threads =>
    intro u
    by_cases hu : u = t
    · rw [hu, hself]
      exact hthread
    · rw [hother u hu]
      exact hext.threadInv (h.threads u) fun howns => (hothers u hu howns).2
  case running =>
    intro u hpc
    by_cases hu : u = t
    · rw [hu, hself] at hpc ⊢
      exact hrunning hpc
    · rw [hother u hu] at hpc ⊢
      obtain ⟨hret, hset⟩ := h.running u hpc
      exact ⟨hret, fun hdone => hext.exists_holds (hset hdone)⟩
  case fresh =>
    intro u howns
    by_cases hu : u = t
    · rw [hu, hself] at howns ⊢
      exact (hfresh howns).1
    · rw [hother u hu] at howns ⊢
      exact (hothers u hu howns).1
  case apart =>
    intro u v huv hu hv
    by_cases hut : u = t
    · subst hut
      rw [hself] at hu ⊢
      rw [hother v huv.symm] at hv ⊢
      exact (hfresh hu).2 v huv.symm hv
    · rw [hother u hut] at hu ⊢
      by_cases hvt : v = t
      · rw [hvt, hself] at hv ⊢
        exact ((hfresh hv).2 u hut hu).symm
      · rw [hother v hvt] at hv ⊢
        exact h.apart u v huv hu hv

/-! ## Section 3: Order -/

namespace Lists

variable {s s' : State k Tid V} {lists : Fin (2 ^ k) → List Nat}

/-- A key has one entry. -/
theorem unique (h : Lists s lists) {b b' : Fin (2 ^ k)} {a a' : Nat} (ha : a ∈ lists b)
    (ha' : a' ∈ lists b') (hkey : (s.entries a).key = (s.entries a').key) : a = a' := by
  have hb : b = b' := by rw [← h.bucket b a ha, hkey, h.bucket b' a' ha']
  subst hb
  have hsorted : ((lists b).map fun x => (s.entries x).key).Pairwise (· < ·) :=
    List.pairwise_map.mpr (h.sorted b)
  exact List.inj_on_of_nodup_map (hsorted.imp Int.ne_of_lt) ha ha' hkey

/-- **Place of the walk**: the entries up to `prev` have smaller keys, and
    the link behind `prev` leads to the others. -/
theorem split (h : Lists s lists) {l : Local V} (hl : Behind s lists l) :
    ∃ pre suf, lists (index k l.key) = pre ++ suf ∧
      Chain s.next (s.link l.key l.prev) suf none ∧
      (∀ a ∈ pre, (s.entries a).key < l.key) ∧
      (l.prev = none ∧ pre = [] ∨ ∃ p m, l.prev = some p ∧ pre = m ++ [p]) := by
  have hchain := h.chain (index k l.key)
  cases hprev : l.prev with
  | none => exact ⟨[], lists (index k l.key), rfl, hchain, by simp, by simp⟩
  | some p =>
    obtain ⟨hmem, hlt⟩ := hl p hprev
    obtain ⟨m, suf, heq⟩ := List.append_of_mem hmem
    have hsorted := h.sorted (index k l.key)
    rw [heq] at hchain hsorted
    obtain ⟨mid, -, hmid⟩ := Chain.append_iff.mp hchain
    refine ⟨m ++ [p], suf, by simp [heq], hmid.2, ?_, .inr ⟨p, m, rfl, rfl⟩⟩
    -- what stands before `prev` has smaller keys still
    intro a ha
    rcases List.mem_append.mp ha with ha | ha
    · have hap := (List.pairwise_append.mp hsorted).2.2 a ha p List.mem_cons_self
      omega
    · rw [List.mem_singleton.mp ha]
      exact hlt

/-- What the walk loads is the first entry behind `prev`, and an entry of
    the key is not before it. -/
theorem link_spec (h : Lists s lists) {l : Local V} (hl : Behind s lists l) :
    (∀ a ∈ s.link l.key l.prev, a ∈ lists (index k l.key)) ∧
    ∀ a, Holds s lists l.key a →
      ∃ x, s.link l.key l.prev = some x ∧ (s.entries x).key ≤ l.key := by
  obtain ⟨pre, suf, heq, hchain, hpre, -⟩ := h.split hl
  have hsorted := h.sorted (index k l.key)
  rw [heq] at hsorted ⊢
  constructor
  · intro a ha
    rw [Option.mem_def.mp ha] at hchain
    obtain ⟨rest, rfl, -⟩ := hchain.cons_of_some
    simp
  · -- the entry of the key stands behind those of smaller keys
    rintro a ⟨hmem, hkey⟩
    rw [heq] at hmem
    have hsuf : a ∈ suf := by
      rcases List.mem_append.mp hmem with ha | ha
      · have := hpre a ha
        omega
      · exact ha
    cases suf with
    | nil => simp at hsuf
    | cons x rest =>
      refine ⟨x, hchain.1, ?_⟩
      rcases List.mem_cons.mp hsuf with rfl | hrest
      · omega
      · have hx := (List.pairwise_cons.mp (List.pairwise_append.mp hsorted).2.1).1 a hrest
        omega

/-- **Frame**: keys and links of the entries stay, and so does what the
    history says. -/
theorem frame (h : Lists s lists) (htable : s'.table = s.table)
    (hkey : ∀ b, ∀ a ∈ lists b, (s'.entries a).key = (s.entries a).key ∧ s'.next a = s.next a)
    (hallocated : ∀ b, ∀ a ∈ lists b, s'.allocated a = true)
    (hset : ∀ b, ∀ a ∈ lists b, s'.started (s.entries a).key = true ∧
      s'.lastSet (s.entries a).key = some (s'.entries a).valuePtr)
    (hcompleted : ∀ key, s'.completed key = true →
      s.completed key = true ∨ ∃ a, Holds s lists key a) :
    Lists s' lists := by
  constructor
  case chain =>
    intro b
    rw [htable]
    exact (h.chain b).congr fun a ha => (hkey b a ha).2
  case sorted =>
    intro b
    apply (h.sorted b).imp_of_mem
    intro a a' ha ha' hlt
    rw [(hkey b a ha).1, (hkey b a' ha').1]
    exact hlt
  case bucket =>
    intro b a ha
    rw [(hkey b a ha).1]
    exact h.bucket b a ha
  case allocated => exact hallocated
  case set =>
    intro b a ha
    rw [(hkey b a ha).1]
    exact hset b a ha
  case completed =>
    intro key hdone
    have hholds : ∃ a, Holds s lists key a := by
      rcases hcompleted key hdone with hbefore | hnow
      · exact h.completed key hbefore
      · exact hnow
    obtain ⟨a, hmem, ha⟩ := hholds
    exact ⟨a, hmem, (hkey _ a hmem).1.trans ha⟩

/-- The frame of steps that leave the entries of the lists alone. -/
theorem frame_of_entries (h : Lists s lists) (htable : s'.table = s.table)
    (hentries : ∀ b, ∀ a ∈ lists b, s'.entries a = s.entries a)
    (hallocated : ∀ b, ∀ a ∈ lists b, s'.allocated a = true)
    (hstarted : ∀ key, s.started key = true → s'.started key = true)
    (hlastSet : s'.lastSet = s.lastSet)
    (hcompleted : ∀ key, s'.completed key = true →
      s.completed key = true ∨ ∃ a, Holds s lists key a) :
    Lists s' lists ∧ Extends s lists s' lists := by
  constructor
  · refine h.frame htable ?_ hallocated ?_ hcompleted
    · intro b a ha
      simp [State.next, hentries b a ha]
    · intro b a ha
      obtain ⟨hset, hlast⟩ := h.set b a ha
      rw [hlastSet, hentries b a ha]
      exact ⟨hstarted _ hset, hlast⟩
  · refine ⟨fun _ => .refl _, ?_, hstarted⟩
    intro b a ha
    rw [hentries b a ha]

/-- **Linking in**: an entry that is linked to what comes behind the walk's
    `prev`, where larger keys come, is linked in behind `prev`. -/
theorem insert (h : Lists s lists) {l : Local V} (hl : Behind s lists l)
    (hbefore : Before s lists l) (hnext : s.next l.newEntry = l.target)
    (hlink : s.link l.key l.prev = l.target) (hfresh : Fresh s lists l) :
    ∃ new, (lists (index k l.key)).Sublist new ∧
      (∀ a, a ∈ new ↔ a ∈ lists (index k l.key) ∨ a = l.newEntry) ∧
      (∀ b, Chain (s.setLink l.key (some l.newEntry) l.prev).next
        ((s.setLink l.key (some l.newEntry) l.prev).table b)
        (Function.update lists (index k l.key) new b) none) ∧
      new.Pairwise fun a a' => (s.entries a).key < (s.entries a').key := by
  obtain ⟨pre, suf, heq, hchain, hpre, hprev⟩ := h.split hl
  have hsorted := h.sorted (index k l.key)
  have hall := h.chain (index k l.key)
  have hunlinked := hfresh.unlinked (index k l.key)
  rw [heq] at hsorted hall hunlinked
  refine ⟨pre ++ l.newEntry :: suf, ?_, ?_, ?_, ?_⟩
  · rw [heq]
    exact (List.Sublist.refl pre).append (List.sublist_cons_self _ _)
  · intro a
    simp only [heq, List.mem_append, List.mem_cons]
    tauto
  · intro b
    by_cases hb : b = index k l.key
    · subst hb
      rw [Function.update_self]
      -- the link that is written is the head of the bucket or that of `prev`
      rcases hprev with ⟨hnone, rfl⟩ | ⟨p, m, hp, rfl⟩
      · rw [hnone] at hchain hlink ⊢
        refine ⟨by simp [State.setLink], ?_⟩
        have hbehind : s.next l.newEntry = s.link l.key none := by rw [hnext, hlink]
        rw [← hbehind] at hchain
        exact hchain
      · rw [hp] at hlink ⊢
        rw [next_setLink]
        have hbehind : s.next l.newEntry = s.next p := by rw [hnext, ← hlink]; rfl
        simp only [List.append_assoc, List.singleton_append] at hall hunlinked ⊢
        exact hall.insert hunlinked hbehind
    · rw [Function.update_of_ne hb]
      -- the other buckets share neither the head nor `prev`
      rcases hprev with ⟨hnone, -⟩ | ⟨p, m, hp, -⟩
      · rw [hnone]
        simp only [State.setLink, Function.update_of_ne hb]
        exact h.chain b
      · rw [hp, next_setLink]
        apply (h.chain b).update
        intro hmem
        apply hb
        rw [← h.bucket b p hmem, h.bucket _ p (hl p hp).1]
  · rw [List.pairwise_append, List.pairwise_cons]
    obtain ⟨hfront, hback, hacross⟩ := List.pairwise_append.mp hsorted
    -- the first entry behind the link has a larger key, and so have the rest
    have hsuf : ∀ a ∈ suf, l.key < (s.entries a).key := by
      intro a ha
      cases suf with
      | nil => simp at ha
      | cons x rest =>
        have hx := (hbefore x (hlink ▸ hchain.1)).2
        rcases List.mem_cons.mp ha with rfl | hrest
        · exact hx
        · have := (List.pairwise_cons.mp hback).1 a hrest
          omega
    refine ⟨hfront, ⟨?_, hback⟩, ?_⟩
    · intro a ha
      rw [hfresh.key]
      exact hsuf a ha
    · intro a ha a' ha'
      rcases List.mem_cons.mp ha' with rfl | ha'
      · rw [hfresh.key]
        exact hpre a ha
      · exact hacross a ha a' ha'

end Lists

/-! ## Section 4: Steps -/

section steps
variable [DecidableEq Tid] {s s' : State k Tid V} {lists : Fin (2 ^ k) → List Nat} {t : Tid}
  {l : Local V}

omit [DecidableEq Tid] in
theorem Fresh.frame (h : Fresh s lists l) (hallocated : s'.allocated l.newEntry = true)
    (hentry : (s'.entries l.newEntry).key = (s.entries l.newEntry).key)
    (hstarted : ∀ key, s.started key = true → s'.started key = true) : Fresh s' lists l :=
  ⟨hallocated, hentry.trans h.key, hstarted _ h.started, h.unlinked⟩

/-- **Frame** of a call that goes on: the entries stay as they are. -/
theorem InvOn.goes_on (h : InvOn s lists) (htable : s'.table = s.table)
    (hentries : s'.entries = s.entries) (hstarted : s'.started = s.started)
    (hlastSet : s'.lastSet = s.lastSet) (hloc : s'.loc = Function.update s.loc t l)
    (hallocated : ∀ a, s.allocated a = true → s'.allocated a = true ∨
      ((s.loc t).owns = true ∧ l.owns = false ∧ a = (s.loc t).newEntry))
    (hcompleted : ∀ key, s'.completed key = true →
      s.completed key = true ∨ ∃ a, Holds s lists key a)
    (hpc : (s.loc t).pc ≠ .idle) (hkey : l.key = (s.loc t).key)
    (hbefore : l.setBefore = (s.loc t).setBefore) (hnew : l.newEntry = (s.loc t).newEntry)
    (hret : l.pc ≠ .idle → l.ret = none) (howns : l.owns = true → (s.loc t).owns = true)
    (hthread : ThreadInv s lists l) : InvOn s' lists ∧ Extends s lists s' lists := by
  have hmono : ∀ key, s.started key = true → s'.started key = true := by
    rw [hstarted]
    exact fun _ hkey => hkey
  have hlisted : ∀ b, ∀ a ∈ lists b, s'.allocated a = true := by
    intro b a ha
    rcases hallocated a (h.inOrder.allocated b a ha) with hstill | ⟨hown, -, rfl⟩
    · exact hstill
    · exact absurd ha ((h.fresh t hown).unlinked b)
  obtain ⟨hlists, hext⟩ := h.inOrder.frame_of_entries htable
    (fun b a _ => by rw [hentries]) hlisted hmono hlastSet hcompleted
  refine ⟨h.of_step hext hlists hloc ?_ ?_ ?_ ?_, hext⟩
  · -- an entry that is freed is the thread's own, and the others have others
    intro u hu hown
    have hfresh := h.fresh u hown
    refine ⟨hfresh.frame ?_ (by rw [hentries]) hmono, by simp [State.next, hentries]⟩
    rcases hallocated _ hfresh.allocated with hstill | ⟨hown', -, heq⟩
    · exact hstill
    · exact absurd heq (h.apart u t hu hown hown')
  · exact hext.threadInv hthread fun _ => by simp [State.next, hentries]
  · intro hgoes
    refine ⟨hret hgoes, fun hset => ?_⟩
    rw [hkey]
    exact hext.exists_holds ((h.running t hpc).2 (hbefore ▸ hset))
  · intro hown
    have hfresh := h.fresh t (howns hown)
    rw [hnew]
    refine ⟨?_, fun u hu hown' => h.apart t u hu.symm (howns hown) hown'⟩
    refine ⟨?_, ?_, ?_, ?_⟩
    · rw [hnew]
      rcases hallocated _ hfresh.allocated with hstill | ⟨-, hnone, -⟩
      · exact hstill
      · simp [hown] at hnone
    · rw [hnew, hkey, hentries]
      exact hfresh.key
    · rw [hkey]
      exact hmono _ hfresh.started
    · rw [hnew]
      exact hfresh.unlinked

/-- The frame of a step that is the thread's own affair. -/
theorem InvOn.setLoc (h : InvOn s lists) (hpc : (s.loc t).pc ≠ .idle)
    (hkey : l.key = (s.loc t).key) (hbefore : l.setBefore = (s.loc t).setBefore)
    (hnew : l.newEntry = (s.loc t).newEntry) (hret : l.pc ≠ .idle → l.ret = none)
    (howns : l.owns = true → (s.loc t).owns = true) (hthread : ThreadInv s lists l) :
    InvOn (s.setLoc t l) lists ∧ Extends s lists (s.setLoc t l) lists :=
  have hloc : (s.setLoc t l).loc = Function.update s.loc t l := rfl
  h.goes_on rfl rfl rfl rfl hloc (fun _ ha => .inl ha) (fun _ hdone => .inl hdone) hpc hkey
    hbefore hnew hret howns hthread

/-- A call begins. -/
theorem InvOn.begins (h : InvOn s lists) (htable : s'.table = s.table)
    (hentries : s'.entries = s.entries) (hallocated : s'.allocated = s.allocated)
    (hlastSet : s'.lastSet = s.lastSet) (hcompleted : s'.completed = s.completed)
    (hloc : s'.loc = Function.update s.loc t l)
    (hstarted : ∀ key, s.started key = true → s'.started key = true)
    (hset : l.setBefore = s.completed l.key) (hret : l.ret = none) (howns : l.owns = false)
    (hthread : ThreadInv s' lists l) : InvOn s' lists ∧ Extends s lists s' lists := by
  obtain ⟨hlists, hext⟩ := h.inOrder.frame_of_entries htable
    (fun b a _ => by rw [hentries])
    (fun b a ha => by rw [hallocated]; exact h.inOrder.allocated b a ha) hstarted hlastSet
    (fun _ hdone => .inl (hcompleted ▸ hdone))
  refine ⟨h.of_step hext hlists hloc ?_ hthread ?_ (by simp [howns]), hext⟩
  · intro u hu hown
    have hfresh := h.fresh u hown
    exact ⟨hfresh.frame (by rw [hallocated]; exact hfresh.allocated) (by rw [hentries]) hstarted,
      by simp [State.next, hentries]⟩
  · intro _
    exact ⟨hret, fun hdone => hext.exists_holds (h.inOrder.completed _ (hset ▸ hdone))⟩

/-- The step keeps the invariant and the lists as they are. -/
abbrev Kept (s : State k Tid V) (lists : Fin (2 ^ k) → List Nat) (a : Label Tid V) : Prop :=
  InvOn (((atomicHashMap k).action a).effect s) lists ∧
    Extends s lists (((atomicHashMap k).action a).effect s) lists

/-- A `Set` gets its new entry. -/
theorem InvOn.step_newEntry (h : InvOn s lists) {v : V} {entry entryValue value : Nat}
    (hg : ((atomicHashMap k).action (.newEntry t v entry entryValue value)).gate s) :
    Kept s lists (.newEntry t v entry entryValue value) := by
  obtain ⟨hpc, hop, hfree, -, -, -⟩ := hg
  have hthread := h.threads t
  simp only [ThreadInv, hpc] at hthread
  obtain ⟨hstarted, hprev⟩ := hthread
  -- whatever is known already is allocated, so it is not the new entry
  have hne : ∀ a, s.allocated a = true → a ≠ entry := by
    rintro a ha rfl
    simp [hfree] at ha
  have hlisted : ∀ b, ∀ a ∈ lists b, a ≠ entry := fun b a ha =>
    hne a (h.inOrder.allocated b a ha)
  have hframe : Lists (((atomicHashMap k).action
      (.newEntry t v entry entryValue value)).effect s) lists ∧
      Extends s lists (((atomicHashMap k).action
        (.newEntry t v entry entryValue value)).effect s) lists :=
    h.inOrder.frame_of_entries rfl
      (fun b a ha => Function.update_of_ne (hlisted b a ha) _ _)
      (fun b a ha => (Function.update_of_ne (hlisted b a ha) _ _).trans
        (h.inOrder.allocated b a ha))
      (fun _ hkey => hkey) rfl (fun _ hdone => .inl hdone)
  obtain ⟨hlists, hext⟩ := hframe
  refine ⟨h.of_step (t := t) hext hlists rfl ?_ ?_ ?_ ?_, hext⟩
  · intro u hu hown
    have hfresh := h.fresh u hown
    have hother := hne _ hfresh.allocated
    refine ⟨hfresh.frame ?_ ?_ fun _ hkey => hkey, ?_⟩
    · exact (Function.update_of_ne hother _ _).trans hfresh.allocated
    · exact congrArg Entry.key (Function.update_of_ne hother _ _)
    · exact congrArg Entry.next (Function.update_of_ne hother _ _)
  · simp [ThreadInv, Behind, hprev]
  · intro _
    obtain ⟨hret, hset⟩ := h.running t (by simp [hpc])
    exact ⟨hret, fun hdone => hext.exists_holds (hset hdone)⟩
  · intro _
    refine ⟨⟨?_, ?_, hstarted, fun b hmem => hlisted b entry hmem rfl⟩, ?_⟩
    · simp [atomicHashMap]
    · simp [atomicHashMap]
    · intro u hu hown
      exact (hne _ (h.fresh u hown).allocated).symm

/-- A `Set` exchanges the value of the entry of its key. -/
theorem InvOn.step_setCasValue (h : InvOn s lists) {a : Nat}
    (hg : ((atomicHashMap k).action (.setCasValue t a)).gate s) :
    Kept s lists (.setCasValue t a) := by
  obtain ⟨hpc, htarget, -⟩ := hg
  have hthread := h.threads t
  simp only [ThreadInv, hpc, htarget] at hthread
  obtain ⟨_, ⟨rfl⟩, hholds⟩ := hthread
  have hkeys : ∀ x, (Function.update s.entries a
      { s.entries a with valuePtr := (s.loc t).newValue } x).key = (s.entries x).key := by
    intro x
    by_cases hx : x = a
    · simp [hx]
    · simp [hx]
  have hnexts : ∀ x, (Function.update s.entries a
      { s.entries a with valuePtr := (s.loc t).newValue } x).next = (s.entries x).next := by
    intro x
    by_cases hx : x = a
    · simp [hx]
    · simp [hx]
  have hlists : Lists (((atomicHashMap k).action (.setCasValue t a)).effect s) lists := by
    refine h.inOrder.frame rfl (fun _ x _ => ⟨hkeys x, hnexts x⟩) h.inOrder.allocated ?_
      fun _ hdone => .inl hdone
    intro b x hx
    obtain ⟨hset, hlast⟩ := h.inOrder.set b x hx
    refine ⟨hset, ?_⟩
    by_cases hxa : x = a
    · simp [atomicHashMap, hxa, hholds.2]
    · -- another entry of the bucket has another key
      have hother : (s.entries x).key ≠ (s.loc t).key := by
        rw [← hholds.2]
        exact fun hkey => hxa (h.inOrder.unique hx hholds.1 hkey)
      simp [atomicHashMap, hxa, hother, hlast]
  have hext : Extends s lists (((atomicHashMap k).action (.setCasValue t a)).effect s) lists :=
    ⟨fun _ => .refl _, fun _ x _ => hkeys x, fun _ hkey => hkey⟩
  refine ⟨h.of_step (t := t) hext hlists rfl ?_ ?_ ?_ ?_, hext⟩
  · intro u hu hown
    exact ⟨(h.fresh u hown).frame (h.fresh u hown).allocated (hkeys _) fun _ hkey => hkey,
      hnexts _⟩
  · exact ⟨a, hext.holds hholds⟩
  · intro _
    exact ⟨(h.running t (by simp [hpc])).1, fun _ => ⟨a, hext.holds hholds⟩⟩
  · intro _
    have hown : (s.loc t).owns = true := by simp [Local.owns, hpc]
    have hfresh := h.fresh t hown
    exact ⟨⟨hfresh.allocated, (hkeys _).trans hfresh.key, hfresh.started, hfresh.unlinked⟩,
      fun u hu hown' => h.apart t u hu.symm hown hown'⟩

/-- A `Set` links its new entry to what comes behind. -/
theorem InvOn.step_setStoreNext (h : InvOn s lists)
    (hg : ((atomicHashMap k).action (.setStoreNext t)).gate s) :
    Kept s lists (.setStoreNext t) := by
  have hpc : (s.loc t).pc = .setStoreNext := hg
  have hthread := h.threads t
  simp only [ThreadInv, hpc] at hthread
  have hown : (s.loc t).owns = true := by simp [Local.owns, hpc]
  have hfresh := h.fresh t hown
  have hlisted : ∀ b, ∀ a ∈ lists b, a ≠ (s.loc t).newEntry := by
    rintro b a ha rfl
    exact hfresh.unlinked b ha
  have hframe : Lists (((atomicHashMap k).action (.setStoreNext t)).effect s) lists ∧
      Extends s lists (((atomicHashMap k).action (.setStoreNext t)).effect s) lists :=
    h.inOrder.frame_of_entries rfl
      (fun b a ha => Function.update_of_ne (hlisted b a ha) _ _) h.inOrder.allocated
      (fun _ hkey => hkey) rfl (fun _ hdone => .inl hdone)
  obtain ⟨hlists, hext⟩ := hframe
  refine ⟨h.of_step (t := t) hext hlists rfl ?_ ?_ ?_ ?_, hext⟩
  · intro u hu hown'
    have hother := h.apart u t hu hown' hown
    refine ⟨(h.fresh u hown').frame (h.fresh u hown').allocated ?_ fun _ hkey => hkey, ?_⟩
    · exact congrArg Entry.key (Function.update_of_ne hother _ _)
    · exact congrArg Entry.next (Function.update_of_ne hother _ _)
  · refine ⟨hext.behind hthread.1, hext.before hthread.2, ?_⟩
    simp [atomicHashMap, State.next]
  · intro _
    obtain ⟨hret, hset⟩ := h.running t (by simp [hpc])
    exact ⟨hret, fun hdone => hext.exists_holds (hset hdone)⟩
  · intro _
    refine ⟨⟨hfresh.allocated, ?_, hfresh.started, hfresh.unlinked⟩,
      fun u hu hown' => h.apart t u hu.symm hown hown'⟩
    simp [atomicHashMap, hfresh.key]

/-- A `Set` links its new entry in. -/
theorem InvOn.step_setCasNext (h : InvOn s lists)
    (hg : ((atomicHashMap k).action (.setCasNext t)).gate s) :
    ∃ lists', InvOn (((atomicHashMap k).action (.setCasNext t)).effect s) lists' ∧
      Extends s lists (((atomicHashMap k).action (.setCasNext t)).effect s) lists' ∧
      ∀ b, ∀ a ∈ lists' b, a ∈ lists b ∨ a = (s.loc t).newEntry := by
  obtain ⟨hpc, hlink⟩ := hg
  have hthread := h.threads t
  simp only [ThreadInv, hpc] at hthread
  obtain ⟨hbehind, hbefore, hnext⟩ := hthread
  have hown : (s.loc t).owns = true := by simp [Local.owns, hpc]
  have hfresh := h.fresh t hown
  obtain ⟨new, hsub, hmem, hchain, hsorted⟩ :=
    h.inOrder.insert hbehind hbefore hnext hlink hfresh
  let lists' := Function.update lists (index k (s.loc t).key) new
  have hrest := setLink_rest s (s.loc t).key (some (s.loc t).newEntry) (s.loc t).prev
  have hentries := setLink_entries s (s.loc t).key (some (s.loc t).newEntry) (s.loc t).prev
  -- there has been no entry of the key
  have habsent : ∀ a, ¬ Holds s lists (s.loc t).key a := by
    intro a ha
    obtain ⟨x, hx, hle⟩ := (h.inOrder.link_spec hbehind).2 a ha
    have := (hbefore x (hlink ▸ hx)).2
    omega
  have hmem' : ∀ b a, a ∈ lists' b ↔
      a ∈ lists b ∨ (b = index k (s.loc t).key ∧ a = (s.loc t).newEntry) := by
    intro b a
    by_cases hb : b = index k (s.loc t).key
    · simp [lists', hb, hmem]
    · simp [lists', hb]
  have hsub' : ∀ b, (lists b).Sublist (lists' b) := by
    intro b
    by_cases hb : b = index k (s.loc t).key
    · simpa [lists', hb] using hsub
    · simp [lists', hb]
  have hext : Extends s lists (((atomicHashMap k).action (.setCasNext t)).effect s) lists' := by
    refine ⟨hsub', fun _ x _ => (hentries x).1, ?_⟩
    intro key hkey
    exact hrest.2.2.2.1 ▸ hkey
  have hlists : Lists (((atomicHashMap k).action (.setCasNext t)).effect s) lists' := by
    constructor
    case chain => exact hchain
    case sorted =>
      intro b
      have hold : (lists' b).Pairwise fun a a' => (s.entries a).key < (s.entries a').key := by
        by_cases hb : b = index k (s.loc t).key
        · simpa [lists', hb] using hsorted
        · simpa [lists', hb] using h.inOrder.sorted b
      apply hold.imp
      intro a a' hlt
      exact (hentries a).1 ▸ (hentries a').1 ▸ hlt
    case bucket =>
      intro b a ha
      refine (congrArg (index k) (hentries a).1).trans ?_
      rcases (hmem' b a).mp ha with hold | ⟨rfl, rfl⟩
      · exact h.inOrder.bucket b a hold
      · rw [hfresh.key]
    case allocated =>
      intro b a ha
      refine (congrFun hrest.1 a).trans ?_
      rcases (hmem' b a).mp ha with hold | ⟨-, rfl⟩
      · exact h.inOrder.allocated b a hold
      · exact hfresh.allocated
    case set =>
      intro b a ha
      have hset : s.started (s.entries a).key = true ∧
          Function.update s.lastSet (s.loc t).key (some (s.entries (s.loc t).newEntry).valuePtr)
            (s.entries a).key = some (s.entries a).valuePtr := by
        rcases (hmem' b a).mp ha with hold | ⟨-, rfl⟩
        · -- the history of the other keys is not touched
          have hother : (s.entries a).key ≠ (s.loc t).key := by
            intro hkey
            refine habsent a ⟨?_, hkey⟩
            rw [← hkey, h.inOrder.bucket b a hold]
            exact hold
          rw [Function.update_of_ne hother]
          exact h.inOrder.set b a hold
        · rw [hfresh.key, Function.update_self]
          exact ⟨hfresh.started, rfl⟩
      rw [← (hentries a).1, ← (hentries a).2] at hset
      exact ⟨(congrFun hrest.2.2.2.1 _).trans hset.1, hset.2⟩
    case completed =>
      intro key hdone
      have hbefore : s.completed key = true := hrest.2.2.2.2.1 ▸ hdone
      exact hext.exists_holds (h.inOrder.completed key hbefore)
  have hloc : (((atomicHashMap k).action (.setCasNext t)).effect s).loc =
      Function.update s.loc t { s.loc t with pc := .deleteNewValue } :=
    congrArg (Function.update · t _) hrest.2.2.2.2.2
  have hholds : Holds (((atomicHashMap k).action (.setCasNext t)).effect s) lists'
      (s.loc t).key (s.loc t).newEntry :=
    ⟨(hmem' _ _).mpr (.inr ⟨rfl, rfl⟩), (hentries _).1.trans hfresh.key⟩
  have hret : (s.loc t).ret = none := (h.running t (by simp [hpc])).1
  refine ⟨lists', h.of_step hext hlists hloc ?_ ⟨_, hholds⟩
    (fun _ => ⟨hret, fun _ => ⟨_, hholds⟩⟩) ?_, hext, ?_⟩
  · intro u hu hown'
    have hother := h.fresh u hown'
    have hunlinked : ∀ b, (s.loc u).newEntry ∉ lists' b := by
      intro b hb
      rcases (hmem' b _).mp hb with hold | ⟨-, heq⟩
      · exact hother.unlinked b hold
      · exact h.apart u t hu hown' hown heq
    constructor
    · exact ⟨(congrFun hrest.1 _).trans hother.allocated, (hentries _).1.trans hother.key,
        (congrFun hrest.2.2.2.1 _).trans hother.started, hunlinked⟩
    · -- the link that is written is that of an entry in the list
      refine next_setLink_of_ne s _ _ ?_
      intro hprev
      exact hother.unlinked _ (hbehind _ hprev.symm).1
  · simp [Local.owns]
  · intro b a ha
    exact ((hmem' b a).mp ha).imp_right And.right

theorem InvOn.step_deleteOldValue (h : InvOn s lists)
    (hg : ((atomicHashMap k).action (.deleteOldValue t)).gate s) :
    Kept s lists (.deleteOldValue t) := by
  have hpc : (s.loc t).pc = .deleteOldValue := hg
  have hidle : (s.loc t).pc ≠ .idle := by simp [hpc]
  have hthread := h.threads t
  simp only [ThreadInv, hpc] at hthread
  have hret := (h.running t hidle).1
  have hloc : (((atomicHashMap k).action (.deleteOldValue t)).effect s).loc =
      Function.update s.loc t { s.loc t with pc := .deleteNewEntry } := rfl
  exact h.goes_on rfl rfl rfl rfl hloc (fun _ ha => .inl ha) (fun _ hdone => .inl hdone)
    hidle rfl rfl rfl (fun _ => hret) (fun _ => by simp [Local.owns, hpc]) hthread

/-- A `Set` that exchanged a value returns. -/
theorem InvOn.step_deleteNewEntry (h : InvOn s lists)
    (hg : ((atomicHashMap k).action (.deleteNewEntry t)).gate s) :
    Kept s lists (.deleteNewEntry t) := by
  have hpc : (s.loc t).pc = .deleteNewEntry := hg
  have hidle : (s.loc t).pc ≠ .idle := by simp [hpc]
  have hthread := h.threads t
  simp only [ThreadInv, hpc] at hthread
  have hret := (h.running t hidle).1
  have hloc : (((atomicHashMap k).action (.deleteNewEntry t)).effect s).loc =
      Function.update s.loc t { s.loc t with pc := .idle } := rfl
  refine h.goes_on rfl rfl rfl rfl hloc ?_ ?_ hidle rfl rfl rfl (fun _ => hret)
    (by simp [Local.owns]) (by simp [ThreadInv, hret])
  · -- the entry that is freed was never linked in
    intro a ha
    by_cases hown : a = (s.loc t).newEntry
    · exact .inr ⟨by simp [Local.owns, hpc], rfl, hown⟩
    · exact .inl ((Function.update_of_ne hown _ _).trans ha)
  · intro key hdone
    by_cases hkey : key = (s.loc t).key
    · exact .inr (hkey ▸ hthread)
    · exact .inl ((Function.update_of_ne hkey _ _).symm.trans hdone)

/-- A `Set` that linked its entry in returns. -/
theorem InvOn.step_deleteNewValue (h : InvOn s lists)
    (hg : ((atomicHashMap k).action (.deleteNewValue t)).gate s) :
    Kept s lists (.deleteNewValue t) := by
  have hpc : (s.loc t).pc = .deleteNewValue := hg
  have hidle : (s.loc t).pc ≠ .idle := by simp [hpc]
  have hthread := h.threads t
  simp only [ThreadInv, hpc] at hthread
  have hret := (h.running t hidle).1
  have hloc : (((atomicHashMap k).action (.deleteNewValue t)).effect s).loc =
      Function.update s.loc t { s.loc t with pc := .idle } := rfl
  refine h.goes_on rfl rfl rfl rfl hloc (fun _ ha => .inl ha) ?_ hidle rfl rfl rfl
    (fun _ => hret) (by simp [Local.owns]) (by simp [ThreadInv, hret])
  intro key hdone
  by_cases hkey : key = (s.loc t).key
  · exact .inr (hkey ▸ hthread)
  · exact .inl ((Function.update_of_ne hkey _ _).symm.trans hdone)

/-- A call begins. -/
theorem InvOn.step_call (h : InvOn s lists) {op : Op V} {key : Int} :
    Kept s lists (.call t op key) := by
  cases op with
  | set v =>
    refine h.begins (t := t) rfl rfl rfl rfl rfl rfl ?_ rfl rfl (by simp [Local.owns])
      (by simp [ThreadInv, atomicHashMap])
    intro x hx
    by_cases hkey : x = key
    · simp [atomicHashMap, hkey]
    · simp [atomicHashMap, hkey, hx]
  | has | get | getCopy =>
    exact h.begins (t := t) rfl rfl rfl rfl rfl rfl (fun _ hx => hx) rfl rfl
      (by simp [Local.owns, Op.sets]) (by simp [ThreadInv, Behind])

/-- The walk loads the link behind `prev`. -/
theorem InvOn.step_walkLoad (h : InvOn s lists)
    (hg : ((atomicHashMap k).action (.walkLoad t)).gate s) :
    Kept s lists (.walkLoad t) := by
  have hpc : (s.loc t).pc = .walkLoad := hg
  have hidle : (s.loc t).pc ≠ .idle := by simp [hpc]
  have hthread := h.threads t
  simp only [ThreadInv, hpc] at hthread
  obtain ⟨hmem, hfind⟩ := h.inOrder.link_spec hthread
  refine h.setLoc hidle rfl rfl rfl (fun _ => (h.running t hidle).1)
    (by simp [Local.owns, hpc]) ⟨hthread, hmem, ?_⟩
  intro hset
  obtain ⟨a, ha⟩ := (h.running t hidle).2 hset
  exact hfind a ha

/-- The walk goes on behind an entry of a smaller key. -/
theorem InvOn.step_walkOn (h : InvOn s lists) {a : Nat}
    (hg : ((atomicHashMap k).action (.walkOn t a)).gate s) :
    Kept s lists (.walkOn t a) := by
  obtain ⟨hpc, htarget, hlt⟩ := hg
  have hidle : (s.loc t).pc ≠ .idle := by simp [hpc]
  have hthread := h.threads t
  simp only [ThreadInv, hpc, htarget] at hthread
  refine h.setLoc hidle rfl rfl rfl (fun _ => (h.running t hidle).1)
    (by simp [Local.owns, hpc]) ?_
  simp only [ThreadInv, Behind]
  rintro y ⟨rfl⟩
  exact ⟨hthread.2.1 _ rfl, hlt⟩

/-- The walk has found the entry of its key. -/
theorem InvOn.step_found (h : InvOn s lists) {a : Nat}
    (hg : ((atomicHashMap k).action (.found t a)).gate s) :
    Kept s lists (.found t a) := by
  obtain ⟨hpc, htarget, hkey⟩ := hg
  have hidle : (s.loc t).pc ≠ .idle := by simp [hpc]
  have hthread := h.threads t
  simp only [ThreadInv, hpc, htarget] at hthread
  have hmem := hthread.2.1 a rfl
  refine h.setLoc hidle rfl rfl rfl ?_ ?_ ?_
  · cases hop : (s.loc t).op <;> simp [Op.found, Op.ret]
  · cases hop : (s.loc t).op <;> simp [Local.owns, Op.found, Op.sets, hpc, hop]
  · cases hop : (s.loc t).op
    case has =>
      have hset := (h.inOrder.set _ a hmem).1
      rw [hkey] at hset
      simp [ThreadInv, Op.found, Op.ret, hset]
    all_goals exact ⟨a, htarget, hmem, hkey⟩

/-- The walk has found where its key is missing. -/
theorem InvOn.step_missed (h : InvOn s lists)
    (hg : ((atomicHashMap k).action (.missed t)).gate s) :
    Kept s lists (.missed t) := by
  obtain ⟨hpc, hgt⟩ := hg
  have hidle : (s.loc t).pc ≠ .idle := by simp [hpc]
  have hthread := h.threads t
  simp only [ThreadInv, hpc] at hthread
  obtain ⟨hbehind, hmem, hfind⟩ := hthread
  -- the entry that a finished `Set` left would have been found
  have hunset : (s.loc t).setBefore = false := by
    cases hset : (s.loc t).setBefore with
    | false => rfl
    | true =>
      obtain ⟨a, ha, hle⟩ := hfind hset
      have := hgt a ha
      omega
  refine h.setLoc hidle rfl rfl rfl ?_ ?_ ?_
  · cases hop : (s.loc t).op <;> simp [Op.missed, Op.ret]
  · cases hop : (s.loc t).op <;> simp [Local.owns, Op.missed, Op.sets, hpc, hop]
  · cases hop : (s.loc t).op
    case set => exact ⟨hbehind, fun a ha => ⟨hmem a ha, hgt a ha⟩⟩
    all_goals simp [ThreadInv, Op.missed, Op.ret, hunset]

/-- `Get` loads the pointer of the value. -/
theorem InvOn.step_getLoad (h : InvOn s lists) {a : Nat}
    (hg : ((atomicHashMap k).action (.getLoad t a)).gate s) :
    Kept s lists (.getLoad t a) := by
  obtain ⟨hpc, -⟩ := hg
  have hidle : (s.loc t).pc ≠ .idle := by simp [hpc]
  have hthread := h.threads t
  simp only [ThreadInv, hpc] at hthread
  obtain ⟨x, -, hholds⟩ := hthread
  have hset := (h.inOrder.set _ x hholds.1).1
  rw [hholds.2] at hset
  simp only [Kept, atomicHashMap]
  split
  · exact h.setLoc hidle rfl rfl rfl (fun _ => (h.running t hidle).1) (by simp [Local.owns])
      ⟨x, hholds⟩
  · exact h.setLoc hidle rfl rfl rfl (by simp) (by simp [Local.owns])
      (by simp [ThreadInv, hset])

/-- `Get` copies the value. -/
theorem InvOn.step_getCopy (h : InvOn s lists) {p : Nat}
    (hg : ((atomicHashMap k).action (.getCopy t p)).gate s) :
    Kept s lists (.getCopy t p) := by
  obtain ⟨hpc, -⟩ := hg
  have hidle : (s.loc t).pc ≠ .idle := by simp [hpc]
  have hthread := h.threads t
  simp only [ThreadInv, hpc] at hthread
  obtain ⟨x, hholds⟩ := hthread
  have hset := (h.inOrder.set _ x hholds.1).1
  rw [hholds.2] at hset
  exact h.setLoc hidle rfl rfl rfl (by simp) (by simp [Local.owns]) (by simp [ThreadInv, hset])

/-- `Set` loads the pointer it is to exchange. -/
theorem InvOn.step_setLoadValue (h : InvOn s lists) {a : Nat}
    (hg : ((atomicHashMap k).action (.setLoadValue t a)).gate s) :
    Kept s lists (.setLoadValue t a) := by
  obtain ⟨hpc, -⟩ := hg
  have hidle : (s.loc t).pc ≠ .idle := by simp [hpc]
  have hthread := h.threads t
  simp only [ThreadInv, hpc] at hthread
  exact h.setLoc hidle rfl rfl rfl (fun _ => (h.running t hidle).1) (by simp [Local.owns, hpc])
    hthread

/-- A compare-and-swap failed, and the walk begins again. -/
theorem InvOn.retry (h : InvOn s lists)
    (hpc : (s.loc t).pc = .setCasValue ∨ (s.loc t).pc = .setCasNext) :
    InvOn (s.setLoc t { s.loc t with pc := .walkLoad, prev := none }) lists ∧
    Extends s lists (s.setLoc t { s.loc t with pc := .walkLoad, prev := none }) lists := by
  have hidle : (s.loc t).pc ≠ .idle := by
    rcases hpc with hpc | hpc <;> simp [hpc]
  have hown : (s.loc t).owns = true := by
    rcases hpc with hpc | hpc <;> simp [Local.owns, hpc]
  exact h.setLoc hidle rfl rfl rfl (fun _ => (h.running t hidle).1) (fun _ => hown)
    (by simp [ThreadInv, Behind])

/-- **Every step** keeps the invariant, the lists only grow, and what is new
    in them has been linked in by the step. -/
theorem InvOn.step (h : InvOn s lists) (a : Label Tid V)
    (hg : ((atomicHashMap k).action a).gate s) :
    ∃ lists', InvOn (((atomicHashMap k).action a).effect s) lists' ∧
      Extends s lists (((atomicHashMap k).action a).effect s) lists' ∧
      ∀ b, ∀ x ∈ lists' b, x ∈ lists b ∨ ∃ t, a = .setCasNext t ∧ x = (s.loc t).newEntry := by
  have hsame : Kept s lists a →
      ∃ lists', InvOn (((atomicHashMap k).action a).effect s) lists' ∧
        Extends s lists (((atomicHashMap k).action a).effect s) lists' ∧
        ∀ b, ∀ x ∈ lists' b, x ∈ lists b ∨ ∃ t, a = .setCasNext t ∧ x = (s.loc t).newEntry :=
    fun hstep => ⟨lists, hstep.1, hstep.2, fun _ _ hx => .inl hx⟩
  cases a with
  | call t op key => exact hsame h.step_call
  | newEntry t v entry entryValue value => exact hsame (h.step_newEntry hg)
  | walkLoad t => exact hsame (h.step_walkLoad hg)
  | walkOn t a => exact hsame (h.step_walkOn hg)
  | found t a => exact hsame (h.step_found hg)
  | missed t => exact hsame (h.step_missed hg)
  | getLoad t a => exact hsame (h.step_getLoad hg)
  | getCopy t p => exact hsame (h.step_getCopy hg)
  | setLoadValue t a => exact hsame (h.step_setLoadValue hg)
  | setCasValue t a => exact hsame (h.step_setCasValue hg)
  | setCasValueFail t a => exact hsame (h.retry (.inl hg.1))
  | setStoreNext t => exact hsame (h.step_setStoreNext hg)
  | setCasNext t =>
    obtain ⟨lists', hinv, hext, hnew⟩ := h.step_setCasNext hg
    exact ⟨lists', hinv, hext, fun b x hx => (hnew b x hx).imp_right fun heq => ⟨t, rfl, heq⟩⟩
  | setCasNextFail t => exact hsame (h.retry (.inr hg.1))
  | deleteOldValue t => exact hsame (h.step_deleteOldValue hg)
  | deleteNewEntry t => exact hsame (h.step_deleteNewEntry hg)
  | deleteNewValue t => exact hsame (h.step_deleteNewValue hg)

/-- **Invariant** of every reachable state. -/
theorem invOn_reachable (h : (atomicHashMap k).Reachable s) : ∃ lists, InvOn s lists := by
  apply System.invariant (P := fun s => ∃ lists, InvOn s lists) _ _ h
  · exact fun s hi => ⟨_, invOn_init hi⟩
  · rintro s a ⟨lists, hinv⟩ hg
    obtain ⟨lists', hinv', -⟩ := hinv.step a hg
    exact ⟨lists', hinv'⟩

/-- Along a run the lists only grow. -/
theorem InvOn.run {as : List (Label Tid V)} (h : InvOn s lists)
    (hrun : (atomicHashMap k).Run s as s') :
    ∃ lists', InvOn s' lists' ∧ Extends s lists s' lists' := by
  induction hrun generalizing lists with
  | nil s => exact ⟨lists, h, .refl s lists⟩
  | cons a as hs _ ih =>
    -- the lists after the first step are those the rest begins with
    obtain ⟨hg, rfl⟩ := hs
    obtain ⟨mid, hmid, hext, -⟩ := h.step a hg
    obtain ⟨lists', hinv', hext'⟩ := ih hmid
    exact ⟨lists', hinv', hext.trans hext'⟩

end steps

/-! ## Section 5: The map -/

section map
variable [DecidableEq Tid] {s : State k Tid V}

/-- The entries that a walk along the links of the bucket meets. -/
def State.Bucket (s : State k Tid V) (b : Fin (2 ^ k)) (l : List Nat) : Prop :=
  Chain s.next (s.table b) l none

omit [DecidableEq Tid] in
theorem State.Bucket.eq {lists : Fin (2 ^ k) → List Nat} {b : Fin (2 ^ k)} {l : List Nat}
    (hl : s.Bucket b l) (h : Lists s lists) : l = lists b := hl.unique (h.chain b)

/-- The pointer that `Get` loads is that of the last `Set` of its key. -/
theorem InvOn.getLoad_value {lists : Fin (2 ^ k) → List Nat} (h : InvOn s lists) {t : Tid}
    {a : Nat} {s' : State k Tid V} (hs : (atomicHashMap k).step s (.getLoad t a) s') :
    (s'.loc t).key = (s.loc t).key ∧ (s'.loc t).value = s.lastSet (s.loc t).key := by
  obtain ⟨⟨hpc, htarget⟩, rfl⟩ := hs
  have hthread := h.threads t
  simp only [ThreadInv, hpc, htarget] at hthread
  obtain ⟨_, ⟨rfl⟩, hmem, hkey⟩ := hthread
  have hlast := (h.inOrder.set _ a hmem).2
  rw [hkey] at hlast
  simp only [atomicHashMap]
  split <;> simp [hlast]

/-- **A concurrent map**: in every reachable state each bucket is a list in
    strict order of keys that belong to it; the entries of a bucket stay in
    it on every run from there; a key has one entry; a call of `Has` or `Get`
    that fails began when no `Set` of its key had completed, one that succeeds
    finds a `Set` of the key begun, and the pointer that `Get` loads is that
    of the last `Set` of the key that took effect. -/
theorem atomicHashMap_correct (s : State k Tid V) (h : (atomicHashMap k).Reachable s) :
    (∀ b, ∃ l, s.Bucket b l ∧ (l.Pairwise fun a a' => (s.entries a).key < (s.entries a').key) ∧
      ∀ a ∈ l, index k (s.entries a).key = b) ∧
    (∀ b l as s', s.Bucket b l → (atomicHashMap k).Run s as s' →
      ∃ l', s'.Bucket b l' ∧ l.Sublist l' ∧ ∀ a ∈ l, (s'.entries a).key = (s.entries a).key) ∧
    (∀ b b' l l' a a', s.Bucket b l → s.Bucket b' l' → a ∈ l → a' ∈ l' →
      (s.entries a).key = (s.entries a').key → a = a') ∧
    (∀ t, (s.loc t).pc = .idle →
      ((s.loc t).ret = some false → (s.loc t).setBefore = false) ∧
      ((s.loc t).ret = some true → s.started (s.loc t).key = true)) ∧
    ∀ t a s', (atomicHashMap k).step s (.getLoad t a) s' →
      (s'.loc t).key = (s.loc t).key ∧ (s'.loc t).value = s.lastSet (s.loc t).key := by
  obtain ⟨lists, hinv⟩ := invOn_reachable h
  have hlists := hinv.inOrder
  refine ⟨?_, ?_, ?_, ?_, fun t a s' => hinv.getLoad_value⟩
  · exact fun b => ⟨lists b, hlists.chain b, hlists.sorted b, hlists.bucket b⟩
  · intro b l as s' hl hrun
    obtain ⟨lists', hinv', hext⟩ := hinv.run hrun
    obtain rfl := hl.eq hlists
    exact ⟨lists' b, hinv'.inOrder.chain b, hext.sublist b, hext.key b⟩
  · intro b b' l l' a a' hl hl' ha ha' hkey
    rw [hl.eq hlists] at ha
    rw [hl'.eq hlists] at ha'
    exact hlists.unique ha ha' hkey
  · intro t hpc
    have hthread := hinv.threads t
    simp only [ThreadInv, hpc] at hthread
    exact hthread

/-- Two threads set keys of one bucket; the second finds that the head has
    changed under it, and its `Get` loads what it has set. -/
theorem atomicHashMap_correct_race :
    ∃ s : State 1 (Fin 2) Nat, (atomicHashMap 1).Reachable s ∧
      (s.loc 1).ret = some true ∧ s.started (s.loc 1).key = true := by
  let as : List (Label (Fin 2) Nat) :=
    [.call 0 (.set 7) 3, .newEntry 0 7 0 0 1, .walkLoad 0, .missed 0, .setStoreNext 0,
      .call 1 (.set 8) 1, .newEntry 1 8 1 2 3, .walkLoad 1, .missed 1, .setStoreNext 1,
      .setCasNext 0, .setCasNextFail 1, .walkLoad 1, .missed 1, .setStoreNext 1, .setCasNext 1,
      .deleteNewValue 1, .call 1 .get 1, .walkLoad 1, .found 1 1, .getLoad 1 1]
  have hreach : (atomicHashMap 1).Reachable ((atomicHashMap 1).exec initial as) :=
    System.reachable_exec _ initial_init as (by decide)
  have hret : (((atomicHashMap 1).exec initial as).loc 1).ret = some true := by decide
  have hmap := atomicHashMap_correct _ hreach
  exact ⟨_, hreach, hret, (hmap.2.2.2.1 1 (by decide)).2 hret⟩

end map

end CyberRT.Base.AtomicHashMap
