import Mathlib.Data.Fintype.Card
import CyberRT.Base.ObjectPool

/-! # Who holds the nodes of the pool

    Each node is on the free list, handed out once, or being released by one
    thread. The tag orders the heads: a snapshot with the tag of now is the
    head of now, and the link read from its first node is still there, since
    only a thread that releases a node writes its link. -/

namespace CyberRT.Base.ObjectPool

open CyberRT.Framework

variable {capacity : Nat} {Tid : Type}

/-! ## Section 1: Invariant -/

/-- The node that the thread is releasing. -/
def State.releasing (s : State capacity Tid) (t : Tid) : Option (Fin capacity) :=
  (s.loc t).pc.releasing

/-- Where the nodes are, the free ones in the order of the list. -/
structure Partition (s : State capacity Tid) (free : List (Fin capacity)) : Prop where
  chain          : Chain s.next s.freeHead.node free none
  net            : s.freeHead.net = (capacity : Int) - free.length
  one_holder     : s.handedOut.Nodup
  one_releaser   : ∀ t u n, s.releasing t = some n → s.releasing u = some n → t = u
  free_out       : ∀ n ∈ free, n ∉ s.handedOut
  free_releasing : ∀ n ∈ free, ∀ t, s.releasing t ≠ some n
  out_releasing  : ∀ n ∈ s.handedOut, ∀ t, s.releasing t ≠ some n
  all            : ∀ n, n ∈ free ∨ n ∈ s.handedOut ∨ ∃ t, s.releasing t = some n

/-- A head of now or of an earlier moment. -/
structure Old (s : State capacity Tid) (h : Head capacity) : Prop where
  le      : h.count ≤ s.freeHead.count
  current : h.count = s.freeHead.count → h = s.freeHead

/-- What a thread's local variables know about the pool. -/
def Snapshot (s : State capacity Tid) (l : Local capacity) : Prop :=
  match l.pc with
  | .findNext | .releaseNext _ => Old s l.oldHead
  | .findCas n =>
    Old s l.oldHead ∧ l.oldHead.node = some n ∧
    l.newHead.count = l.oldHead.count + 1 ∧ l.newHead.net = l.oldHead.net + 1 ∧
    (l.oldHead.count = s.freeHead.count → l.newHead.node = s.next n)
  | .releaseCas n =>
    Old s l.oldHead ∧ l.newHead = ⟨l.oldHead.count + 1, l.oldHead.net - 1, some n⟩ ∧
    s.next n = l.oldHead.node
  | _ => True

/-- **Invariant**. -/
structure Inv (s : State capacity Tid) : Prop where
  nodes     : ∃ free, Partition s free
  snapshots : ∀ t, Snapshot s (s.loc t)

/-! ## Section 2: The arena -/

/-- The links of the constructor run through the arena from any node on. -/
theorem chain_arena (next : Fin capacity → Option (Fin capacity))
    (hnext : ∀ i, next i = arena capacity (i + 1)) (k : Nat) (hk : k ≤ capacity) :
    Chain next (arena capacity k) ((List.finRange capacity).drop k) none := by
  induction hrest : capacity - k generalizing k with
  | zero =>
    have hend : k = capacity := by omega
    rw [List.drop_of_length_le (by simp [hend])]
    simp [arena, hend]
  | succ r ih =>
    have hlt : k < capacity := by omega
    rw [List.drop_eq_getElem_cons (by simpa using hlt)]
    refine ⟨by simp [arena, hlt], ?_⟩
    have htail := ih (k + 1) (by omega) (by omega)
    rwa [hnext, List.getElem_finRange]

theorem inv_init [DecidableEq Tid] {s : State capacity Tid} (h : (objectPool capacity).init s) :
    Inv s := by
  obtain ⟨hhead, hnext, hout, hidle⟩ := h
  have hnone : ∀ t n, s.releasing t ≠ some n := by
    intro t n
    simp [State.releasing, hidle t, Pc.releasing]
  constructor
  · refine ⟨List.finRange capacity, ?_⟩
    constructor
    case chain =>
      rw [hhead]
      exact chain_arena s.next hnext 0 (by omega)
    case net => simp [hhead]
    case one_holder => simp [hout]
    case one_releaser => exact fun t u n ht => absurd ht (hnone t n)
    case free_out => simp [hout]
    case free_releasing => exact fun n _ t => hnone t n
    case out_releasing => simp [hout]
    case all => simp
  · intro t
    simp [Snapshot, hidle t]

/-! ## Section 3: Frame lemmas -/

section frame
variable {s s' : State capacity Tid} {l : Local capacity} {free : List (Fin capacity)}

/-- Nothing moves. -/
theorem Partition.congr (h : Partition s free) (hhead : s'.freeHead = s.freeHead)
    (hnext : ∀ n ∈ free, s'.next n = s.next n) (hout : s'.handedOut = s.handedOut)
    (hreleasing : ∀ t, s'.releasing t = s.releasing t) : Partition s' free := by
  constructor
  case chain =>
    rw [hhead]
    exact h.chain.congr hnext
  case net =>
    rw [hhead]
    exact h.net
  case one_holder =>
    rw [hout]
    exact h.one_holder
  all_goals simp only [hout, hreleasing]
  case one_releaser => exact h.one_releaser
  case free_out => exact h.free_out
  case free_releasing => exact h.free_releasing
  case out_releasing => exact h.out_releasing
  case all => exact h.all

theorem Old.frame {head : Head capacity} (h : Old s head)
    (hhead : s'.freeHead = s.freeHead ∨ s.freeHead.count < s'.freeHead.count) : Old s' head := by
  obtain ⟨hle, hcurrent⟩ := h
  rcases hhead with hsame | hless
  · constructor <;> rwa [hsame]
  · exact ⟨by omega, by omega⟩

/-- A thread's snapshot stays true when the tag grows, and when links change
    that it does not rely on. -/
theorem Snapshot.frame (h : Snapshot s l)
    (hhead : s'.freeHead = s.freeHead ∨ s.freeHead.count < s'.freeHead.count)
    (hfind : ∀ n, l.pc = .findCas n → l.oldHead = s.freeHead → s'.next n = s.next n)
    (hrelease : ∀ n, l.pc = .releaseCas n → s'.next n = s.next n) : Snapshot s' l := by
  unfold Snapshot at h ⊢
  cases hpc : l.pc with
  | findNext | releaseNext n =>
    simp only [hpc] at h ⊢
    exact h.frame hhead
  | findCas n =>
    simp only [hpc] at h ⊢
    obtain ⟨hold, hnode, hcount, hnet, hlink⟩ := h
    refine ⟨hold.frame hhead, hnode, hcount, hnet, ?_⟩
    intro hnow
    rcases hhead with hsame | hless
    · rw [hsame] at hnow
      rw [hfind n hpc (hold.current hnow)]
      exact hlink hnow
    · have hle := hold.le
      omega
  | releaseCas n =>
    simp only [hpc] at h ⊢
    obtain ⟨hold, hnew, hlink⟩ := h
    refine ⟨hold.frame hhead, hnew, ?_⟩
    rw [hrelease n hpc]
    exact hlink
  | _ => trivial

end frame

/-! ## Section 4: Steps -/

section steps
variable [DecidableEq Tid] {s s' : State capacity Tid} {t : Tid} {l : Local capacity}
variable {n : Fin capacity}

omit [DecidableEq Tid] in
theorem old_now (s : State capacity Tid) : Old s s.freeHead := ⟨Nat.le_refl _, fun _ => rfl⟩

/-- What the threads release after thread `t` has moved. -/
theorem releasing_of_loc (hloc : s'.loc = Function.update s.loc t l) (u : Tid) :
    s'.releasing u = if u = t then l.pc.releasing else s.releasing u := by
  unfold State.releasing
  rw [hloc]
  by_cases hu : u = t
  · rw [if_pos hu, hu, Function.update_self]
  · rw [if_neg hu, Function.update_of_ne hu]

theorem releasing_stays (hloc : s'.loc = Function.update s.loc t l)
    (hsame : l.pc.releasing = s.releasing t) (u : Tid) : s'.releasing u = s.releasing u := by
  rw [releasing_of_loc hloc]
  split
  · next hu => rw [hu, hsame]
  · rfl

/-- The thread that moves knows something new; the others' snapshots are
    those of before. -/
theorem snapshots_of_loc (hloc : s'.loc = Function.update s.loc t l) (hown : Snapshot s' l)
    (hothers : ∀ u, u ≠ t → Snapshot s' (s.loc u)) (u : Tid) : Snapshot s' (s'.loc u) := by
  rw [hloc]
  by_cases hu : u = t
  · rwa [hu, Function.update_self]
  · rw [Function.update_of_ne hu]
    exact hothers u hu

/-- A thread writes local variables only. -/
theorem Inv.setLoc (h : Inv s) (hsame : l.pc.releasing = s.releasing t) (hown : Snapshot s l) :
    Inv (s.setLoc t l) := by
  obtain ⟨free, hnodes⟩ := h.nodes
  constructor
  · exact ⟨free, hnodes.congr rfl (fun _ _ => rfl) rfl (releasing_stays rfl hsame)⟩
  · apply snapshots_of_loc (s := s) rfl
    · exact hown.frame (.inl rfl) (fun _ _ _ => rfl) (fun _ _ => rfl)
    · exact fun u _ => (h.snapshots u).frame (.inl rfl) (fun _ _ _ => rfl) (fun _ _ => rfl)

omit [DecidableEq Tid] in
/-- The first free node is handed out. -/
theorem Partition.take {rest : List (Fin capacity)} (h : Partition s (n :: rest))
    (hnode : s'.freeHead.node = s.next n) (hnet : s'.freeHead.net = s.freeHead.net + 1)
    (hnext : s'.next = s.next) (hout : s'.handedOut = n :: s.handedOut)
    (hreleasing : ∀ u, s'.releasing u = s.releasing u) : Partition s' rest := by
  have hfresh : n ∉ rest := (List.nodup_cons.mp h.chain.nodup).1
  constructor
  case chain =>
    rw [hnode, hnext]
    exact h.chain.2
  case net =>
    have hold := h.net
    rw [List.length_cons] at hold
    omega
  case one_holder =>
    rw [hout]
    exact List.nodup_cons.mpr ⟨h.free_out n List.mem_cons_self, h.one_holder⟩
  all_goals simp only [hout, hreleasing]
  case one_releaser => exact h.one_releaser
  case free_out =>
    intro m hm
    rw [List.mem_cons, not_or]
    refine ⟨?_, h.free_out m (List.mem_cons_of_mem n hm)⟩
    rintro rfl
    exact hfresh hm
  case free_releasing => exact fun m hm => h.free_releasing m (List.mem_cons_of_mem n hm)
  case out_releasing =>
    intro m hm
    rcases List.mem_cons.mp hm with rfl | hm
    · exact h.free_releasing m List.mem_cons_self
    · exact h.out_releasing m hm
  case all =>
    intro m
    have hm := h.all m
    rw [List.mem_cons] at hm ⊢
    tauto

theorem Inv.findCas (h : Inv s) (hpc : (s.loc t).pc = .findCas n)
    (hcurrent : s.freeHead = (s.loc t).oldHead) :
    Inv (((objectPool capacity).action (.findCas t n)).effect s) := by
  obtain ⟨free, hnodes⟩ := h.nodes
  have hsnapshot := h.snapshots t
  simp only [Snapshot, hpc] at hsnapshot
  obtain ⟨-, hnode, hcount, hnet, hlink⟩ := hsnapshot
  rw [← hcurrent] at hnode hcount hnet hlink
  -- the head has not moved since it was loaded, so its node is still in front
  obtain ⟨rest, rfl, -⟩ : ∃ rest, free = n :: rest ∧ _ := by
    have hchain := hnodes.chain
    rw [hnode] at hchain
    exact hchain.cons_of_some
  constructor
  · refine ⟨rest, hnodes.take (hlink rfl) hnet rfl rfl ?_⟩
    apply releasing_stays rfl
    simp [State.releasing, hpc, Pc.releasing]
  · apply snapshots_of_loc (s := s) rfl
    · trivial
    · intro u _
      apply (h.snapshots u).frame
      · right
        -- the count of the head has grown, so older loads are stale
        show s.freeHead.count < (s.loc t).newHead.count
        omega
      · exact fun _ _ _ => rfl
      · exact fun _ _ => rfl

/-- A holder begins to release its node. -/
theorem Inv.release (h : Inv s) (hpc : (s.loc t).pc = .idle) (hn : n ∈ s.handedOut) :
    Inv (((objectPool capacity).action (.release t n)).effect s) := by
  obtain ⟨free, hnodes⟩ := h.nodes
  have hreleasing : ∀ u, (((objectPool capacity).action (.release t n)).effect s).releasing u =
      if u = t then some n else s.releasing u :=
    releasing_of_loc (l := { s.loc t with pc := .releaseLoad n }) rfl
  have hidle : s.releasing t = none := by simp [State.releasing, hpc, Pc.releasing]
  -- a node that is out is released by nobody
  have hothers : ∀ u, s.releasing u ≠ some n := hnodes.out_releasing n hn
  constructor
  · refine ⟨free, ?_⟩
    constructor
    case chain => exact hnodes.chain
    case net => exact hnodes.net
    case one_holder => exact hnodes.one_holder.erase n
    case free_out =>
      intro m hm hout
      exact hnodes.free_out m hm (List.mem_of_mem_erase hout)
    all_goals simp only [hreleasing]
    case one_releaser =>
      intro u v m hu hv
      split at hu <;> split at hv
      · next hut hvt => rw [hut, hvt]
      · exact absurd (hu ▸ hv) (hothers v)
      · exact absurd (hv ▸ hu) (hothers u)
      · exact hnodes.one_releaser u v m hu hv
    case free_releasing =>
      intro m hm u hu
      split at hu
      · obtain rfl : n = m := Option.some.inj hu
        exact hnodes.free_out n hm hn
      · exact hnodes.free_releasing m hm u hu
    case out_releasing =>
      intro m hm u hu
      obtain ⟨hne, hm'⟩ := (List.Nodup.mem_erase_iff hnodes.one_holder).mp hm
      split at hu
      · exact hne (Option.some.inj hu).symm
      · exact hnodes.out_releasing m hm' u hu
    case all =>
      intro m
      by_cases hm : m = n
      · exact .inr (.inr ⟨t, by simp [hm]⟩)
      · rcases hnodes.all m with hfree | hout | ⟨u, hu⟩
        · exact .inl hfree
        · exact .inr (.inl ((List.Nodup.mem_erase_iff hnodes.one_holder).mpr ⟨hm, hout⟩))
        · have hut : u ≠ t := by
            rintro rfl
            simp [hidle] at hu
          exact .inr (.inr ⟨u, by simp [hut, hu]⟩)
  · apply snapshots_of_loc (s := s) rfl
    · trivial
    · exact fun u _ => (h.snapshots u).frame (.inl rfl) (fun _ _ _ => rfl) (fun _ _ => rfl)

/-- The link of a node that is being released is written: it is on nobody's
    way. -/
theorem Inv.releaseNext (h : Inv s) (hpc : (s.loc t).pc = .releaseNext n) :
    Inv (((objectPool capacity).action (.releaseNext t n)).effect s) := by
  obtain ⟨free, hnodes⟩ := h.nodes
  have hsnapshot := h.snapshots t
  simp only [Snapshot, hpc] at hsnapshot
  have hmine : s.releasing t = some n := by simp [State.releasing, hpc, Pc.releasing]
  constructor
  · refine ⟨free, hnodes.congr rfl ?_ rfl (releasing_stays rfl hmine.symm)⟩
    intro m hm
    apply Function.update_of_ne
    rintro rfl
    exact hnodes.free_releasing m hm t hmine
  · apply snapshots_of_loc (s := s) rfl
    · refine ⟨hsnapshot.frame (.inl rfl), rfl, ?_⟩
      exact Function.update_self _ _ _
    · intro u hu
      have hhead : (((objectPool capacity).action (.releaseNext t n)).effect s).freeHead =
          s.freeHead := rfl
      apply (h.snapshots u).frame (.inl hhead)
      · -- the first free node is not being released
        intro m hm hcurrent
        have hfind := h.snapshots u
        simp only [Snapshot, hm] at hfind
        have hchain := hnodes.chain
        rw [← hcurrent, hfind.2.1] at hchain
        obtain ⟨rest, rfl, -⟩ := hchain.cons_of_some
        apply Function.update_of_ne
        rintro rfl
        exact hnodes.free_releasing m List.mem_cons_self t hmine
      · intro m hm
        apply Function.update_of_ne
        rintro rfl
        have htheirs : s.releasing u = some m := by simp [State.releasing, hm, Pc.releasing]
        exact hu (hnodes.one_releaser u t m htheirs hmine)

/-- The node is in front of the free list. -/
theorem Inv.releaseCas (h : Inv s) (hpc : (s.loc t).pc = .releaseCas n)
    (hcurrent : s.freeHead = (s.loc t).oldHead) :
    Inv (((objectPool capacity).action (.releaseCas t n)).effect s) := by
  obtain ⟨free, hnodes⟩ := h.nodes
  have hsnapshot := h.snapshots t
  simp only [Snapshot, hpc] at hsnapshot
  obtain ⟨-, hnew, hlink⟩ := hsnapshot
  rw [← hcurrent] at hnew hlink
  have hmine : s.releasing t = some n := by simp [State.releasing, hpc, Pc.releasing]
  have hreleasing : ∀ u, (((objectPool capacity).action (.releaseCas t n)).effect s).releasing u =
      if u = t then none else s.releasing u :=
    releasing_of_loc (l := { s.loc t with pc := .idle }) rfl
  have hhead : (((objectPool capacity).action (.releaseCas t n)).effect s).freeHead =
      ⟨s.freeHead.count + 1, s.freeHead.net - 1, some n⟩ := hnew
  constructor
  · refine ⟨n :: free, ?_⟩
    constructor
    case chain =>
      rw [hhead]
      refine ⟨rfl, ?_⟩
      -- the node was linked to the head before the exchange
      show Chain s.next (s.next n) free none
      rw [hlink]
      exact hnodes.chain
    case net =>
      have hold := hnodes.net
      rw [hhead, List.length_cons]
      show s.freeHead.net - 1 = _
      omega
    case one_holder => exact hnodes.one_holder
    case free_out =>
      intro m hm hout
      rcases List.mem_cons.mp hm with rfl | hm
      · exact hnodes.out_releasing m hout t hmine
      · exact hnodes.free_out m hm hout
    all_goals simp only [hreleasing]
    case one_releaser =>
      intro u v m hu hv
      split at hu <;> split at hv
      · next hut hvt => rw [hut, hvt]
      · simp at hu
      · simp at hv
      · exact hnodes.one_releaser u v m hu hv
    case free_releasing =>
      intro m hm u hu
      split at hu
      · simp at hu
      · next hut =>
        rcases List.mem_cons.mp hm with rfl | hm
        · exact hut (hnodes.one_releaser u t m hu hmine)
        · exact hnodes.free_releasing m hm u hu
    case out_releasing =>
      intro m hm u hu
      split at hu
      · simp at hu
      · exact hnodes.out_releasing m hm u hu
    case all =>
      intro m
      rcases hnodes.all m with hfree | hout | ⟨u, hu⟩
      · exact .inl (List.mem_cons_of_mem n hfree)
      · exact .inr (.inl hout)
      · by_cases hut : u = t
        · -- the node that this thread was putting back is in the list now
          obtain rfl : n = m := by
            rw [hut, hmine] at hu
            exact Option.some.inj hu
          exact .inl List.mem_cons_self
        · exact .inr (.inr ⟨u, by simp [hut, hu]⟩)
  · apply snapshots_of_loc (s := s) rfl
    · trivial
    · intro u _
      apply (h.snapshots u).frame
      · right
        rw [hhead]
        exact Nat.lt_succ_self _
      · exact fun _ _ _ => rfl
      · exact fun _ _ => rfl

/-- **Step lemma**. -/
theorem Inv.step (h : Inv s) (a : Label capacity Tid)
    (hg : ((objectPool capacity).action a).gate s) :
    Inv (((objectPool capacity).action a).effect s) := by
  cases a with
  | find t | findLoad t =>
    have hpc := hg
    dsimp only [objectPool] at hpc
    apply h.setLoc
    · simp [State.releasing, hpc, Pc.releasing]
    · simp [Snapshot, old_now]
  | findCasFail t n | releaseLoad t n | releaseCasFail t n =>
    have hpc := hg
    dsimp only [objectPool] at hpc
    apply h.setLoc
    · simp [State.releasing, hpc, Pc.releasing]
    · simp [Snapshot, old_now]
  | findEmpty t =>
    apply h.setLoc
    · simp [State.releasing, hg.1, Pc.releasing]
    · simp [Snapshot]
  | findNext t n =>
    obtain ⟨hpc, hnode⟩ := hg
    have hsnapshot := h.snapshots t
    simp only [Snapshot, hpc] at hsnapshot
    apply h.setLoc
    · simp [State.releasing, hpc, Pc.releasing]
    · simp [Snapshot, hsnapshot, hnode]
  | findCas t n => exact h.findCas hg.1 hg.2
  | release t n => exact h.release hg.1 hg.2
  | releaseNext t n => exact h.releaseNext hg
  | releaseCas t n => exact h.releaseCas hg.1 hg.2

/-- **Run lemma**. -/
theorem inv_reachable (h : (objectPool capacity).Reachable s) : Inv s := by
  apply System.invariant _ _ h
  · intro s hi
    exact inv_init hi
  · intro s a hinv hg
    exact hinv.step a hg

end steps

/-! ## Section 5: Failed calls -/

section failure
variable [DecidableEq Tid] {s : State capacity Tid} {t : Tid} {as : List (Label capacity Tid)}

/-- The free list has no node. -/
def FreeEmpty (s : State capacity Tid) : Prop := s.freeHead.node = none

/-- `FindFreeHead` called by `t` in the state, and the steps of all threads
    up to a state in which it has returned false. -/
structure FailedFind (t : Tid) (s : State capacity Tid) (as : List (Label capacity Tid)) :
    Prop where
  gate  : (s.loc t).pc = .idle
  steps : (objectPool capacity).Admits (((objectPool capacity).action (.find t)).effect s) as
  one   : ∀ a ∈ as, a ≠ .find t ∧ ∀ n, a ≠ .release t n
  ret   : (((objectPool capacity).exec
    (((objectPool capacity).action (.find t)).effect s) as).loc t).ret = some false

/-- The thread is inside `FindFreeHead` with no empty snapshot, or back from
    it with success. -/
def Finding (l : Local capacity) : Prop :=
  match l.pc with
  | .findLoad | .findCas _ => l.ret = none
  | .findNext => l.ret = none ∧ l.oldHead.node ≠ none
  | .idle => l.ret = some true
  | _ => False

theorem finding_step (hcall : Finding (s.loc t)) (a : Label capacity Tid)
    (hone : a ≠ .find t ∧ ∀ n, a ≠ .release t n)
    (hg : ((objectPool capacity).action a).gate s) :
    FreeEmpty s ∨ Finding ((((objectPool capacity).action a).effect s).loc t) := by
  by_cases ht : a.thread = t
  swap
  · right
    rwa [loc_of_thread_ne ht]
  cases a with
  | find u => exact absurd (ht ▸ rfl) hone.1
  | release u n => exact absurd (ht ▸ rfl) (hone.2 n)
  | findLoad u | findCasFail u n =>
    -- the head that is loaded here may be the empty one
    obtain rfl : u = t := ht
    by_cases hempty : s.freeHead.node = none
    · exact .inl hempty
    · right
      have hpc := hg
      dsimp only [objectPool] at hpc
      simp only [Finding, hpc] at hcall
      simp [objectPool, Finding, hcall, hempty]
  | findEmpty u =>
    obtain rfl : u = t := ht
    simp [Finding, hg.1, hg.2] at hcall
  | findNext u n =>
    obtain rfl : u = t := ht
    simp only [Finding, hg.1] at hcall
    right
    simp [objectPool, Finding, hcall.1]
  | findCas u n =>
    obtain rfl : u = t := ht
    right
    simp [objectPool, Finding]
  | releaseLoad u n | releaseNext u n | releaseCasFail u n =>
    -- no step of `FindFreeHead`
    obtain rfl : u = t := ht
    have hpc := hg
    dsimp only [objectPool] at hpc
    simp [Finding, hpc] at hcall
  | releaseCas u n =>
    obtain rfl : u = t := ht
    simp [Finding, hg.1] at hcall

/-- **FindFreeHead fails only when the free list is empty**. -/
theorem FailedFind.empty (h : FailedFind t s as) :
    (objectPool capacity).Passes FreeEmpty
      (((objectPool capacity).action (.find t)).effect s) as := by
  apply System.Admits.passes (P := fun s => Finding (s.loc t)) _ h.steps h.one
  · simp [objectPool, Finding]
  · intro hcall
    have hret := h.ret
    unfold Finding at hcall
    split at hcall <;> simp_all
  · intro s a hone hcall hg
    exact finding_step hcall a hone hg

end failure

/-! ## Section 6: One holder -/

/-- What the chain leaves out is counted by `net`. -/
theorem Partition.net_eq {s : State capacity Tid} {free : List (Fin capacity)}
    (h : Partition s free) :
    s.freeHead.net = (Finset.univ.filter fun n => n ∉ free).card := by
  have hfree : (Finset.univ.filter fun n => n ∈ free).card = free.length := by
    rw [← List.toFinset_card_of_nodup h.chain.nodup]
    congr 1
    ext n
    simp
  have hall := Finset.card_filter_add_card_filter_not (s := Finset.univ)
    (fun n : Fin capacity => n ∈ free)
  rw [Finset.card_univ, Fintype.card_fin] at hall
  rw [h.net]
  omega

/-- **One holder**: in every reachable state the free list has no cycle and
    ends, each node is on it, handed out once or released by one thread, and
    `net` counts those that are not on it; from there on a `FindFreeHead`
    fails only if the free list was empty at some moment of the call. -/
theorem objectPool_oneHolder [DecidableEq Tid] (capacity : Nat) (s : State capacity Tid)
    (h : (objectPool capacity).Reachable s) :
    (∃ free, Partition s free ∧ free.Nodup ∧
      s.freeHead.net = (Finset.univ.filter fun n => n ∉ free).card) ∧
    ∀ t as, FailedFind t s as → (objectPool capacity).Passes FreeEmpty
      (((objectPool capacity).action (.find t)).effect s) as := by
  obtain ⟨free, hnodes⟩ := (inv_reachable h).nodes
  exact ⟨⟨free, hnodes, hnodes.chain.nodup, hnodes.net_eq⟩, fun t as hfailed => hfailed.empty⟩

/-- Thread 0 loads the head; thread 1 takes both nodes and releases the first
    one; thread 0 holds the same node with an old tag, and tries again. -/
theorem objectPool_oneHolder_sameNode :
    ∃ s : State 2 (Fin 2), (objectPool 2).Reachable s ∧ s.handedOut = [0, 1] ∧
      (∃ free, Partition s free ∧ free.Nodup ∧
        s.freeHead.net = (Finset.univ.filter fun n => n ∉ free).card) := by
  let as : List (Label 2 (Fin 2)) :=
    [.find 0, .findLoad 0, .findNext 0 0,
      .find 1, .findLoad 1, .findNext 1 0, .findCas 1 0,
      .find 1, .findLoad 1, .findNext 1 1, .findCas 1 1,
      .release 1 0, .releaseLoad 1 0, .releaseNext 1 0, .releaseCas 1 0,
      .findCasFail 0 0, .findNext 0 0, .findCas 0 0]
  have hreach : (objectPool 2).Reachable ((objectPool 2).exec initial as) :=
    System.reachable_exec _ initial_init as (by decide)
  exact ⟨_, hreach, by decide, (objectPool_oneHolder 2 _ hreach).1⟩

end CyberRT.Base.ObjectPool
