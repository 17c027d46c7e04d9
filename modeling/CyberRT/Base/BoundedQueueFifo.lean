import CyberRT.Base.BoundedQueue

/-! # The bounded queue is a FIFO queue

    The inductive invariant says, for every position between the three
    counters, who owns it and what its slot holds:

    * `[1, head]`: dequeued;
    * `(head, commit)`: committed, the slot holds the element;
    * `[commit, tail)`: reserved, each by one producer of its own.

    Each thread's local snapshots are tied to the counters by
    `ThreadInv`. The counters only grow, so a snapshot that is still
    current at the compare-and-swap was current all along. -/

namespace CyberRT.Base.BoundedQueue

open CyberRT.Framework

variable {Tid T : Type}

/-! ## Section 1: Invariant -/

/-- The thread has reserved a position and not committed it yet. -/
def Reserving (l : Local T) : Prop := l.pc = .enqWrite ∨ l.pc = .enqCasCommit

/-- What a producer knows about the position it has reserved. -/
structure Reserved (s : State Tid T) (l : Local T) : Prop where
  newTail_eq : l.newTail = l.oldTail + 1
  commit_le  : s.commit ≤ l.oldTail
  lt_tail    : l.oldTail < s.tail
  element_eq : s.enqueued[l.oldTail - 1]? = some l.element

/-- What a thread's local variables know about the shared state. -/
def ThreadInv (size : Nat) (s : State Tid T) (l : Local T) : Prop :=
  match l.pc with
  | .enqLoadHead   => l.oldTail ≤ s.tail
  | .enqCasTail    => l.newTail = l.oldTail + 1 ∧ l.oldTail ≤ s.tail ∧
                      (s.tail = l.oldTail → l.newTail ≤ s.head + size + 1)
  | .enqWrite      => Reserved s l
  | .enqCasCommit  => Reserved s l ∧ s.pool (getIndex size l.oldTail) = l.element
  | .deqLoadCommit => l.oldHead ≤ s.head
  | .deqRead       => l.newHead = l.oldHead + 1 ∧ l.oldHead ≤ s.head ∧
                      (s.head = l.oldHead → l.newHead < s.commit)
  | .deqCasHead    => l.newHead = l.oldHead + 1 ∧ l.oldHead ≤ s.head ∧
                      (s.head = l.oldHead → l.newHead < s.commit ∧
                        s.enqueued[l.newHead - 1]? = some l.out)
  | _              => True

/-- The invariant of the queue. -/
structure Inv (size : Nat) (s : State Tid T) : Prop where
  head_lt_commit  : s.head + 1 ≤ s.commit
  commit_le_tail  : s.commit ≤ s.tail
  tail_le         : s.tail ≤ s.head + size + 1
  enqueued_length : s.enqueued.length + 1 = s.tail
  dequeued_eq     : s.dequeued = s.enqueued.take s.head
  slot            : ∀ k, s.head < k → k < s.commit →
                      s.enqueued[k - 1]? = some (s.pool (getIndex size k))
  threads         : ∀ t, ThreadInv size s (s.loc t)
  reserved_ne     : ∀ t u, t ≠ u → Reserving (s.loc t) → Reserving (s.loc u) →
                      (s.loc t).oldTail ≠ (s.loc u).oldTail

/-! ## Section 2: Frame lemmas -/

section frame
variable {size : Nat} {s s' : State Tid T} {l : Local T}

theorem ThreadInv.reserved (h : ThreadInv size s l) (hr : Reserving l) : Reserved s l := by
  rcases hr with hpc | hpc
  · simpa [ThreadInv, hpc] using h
  · have := h
    simp only [ThreadInv, hpc] at this
    exact this.1

/-- Growing counters and an extended history keep what an idle-standing
    thread knows, as long as its own reservation stays uncommitted and its
    own slot unwritten. -/
theorem ThreadInv.frame (h : ThreadInv size s l)
    (hhead : s.head ≤ s'.head) (hcommit : s.commit ≤ s'.commit) (htail : s.tail ≤ s'.tail)
    (henq : ∀ (i : Nat) x, s.enqueued[i]? = some x → s'.enqueued[i]? = some x)
    (hres : Reserving l → s'.commit ≤ l.oldTail)
    (hpool : l.pc = .enqCasCommit →
      s'.pool (getIndex size l.oldTail) = s.pool (getIndex size l.oldTail)) :
    ThreadInv size s' l := by
  have hreserved : Reserving l → Reserved s l → Reserved s' l := fun hr hl =>
    ⟨hl.newTail_eq, hres hr, Nat.lt_of_lt_of_le hl.lt_tail htail, henq _ _ hl.element_eq⟩
  unfold ThreadInv at *
  cases hpc : l.pc <;> simp only [hpc] at h ⊢
  case enqLoadHead => omega
  case enqCasTail => exact ⟨h.1, by omega, fun _ => by have := h.2.2 (by omega); omega⟩
  case enqWrite => exact hreserved (Or.inl hpc) h
  case enqCasCommit => exact ⟨hreserved (Or.inr hpc) h.1, by rw [hpool hpc, h.2]⟩
  case deqLoadCommit => omega
  case deqRead => exact ⟨h.1, by omega, fun _ => by have := h.2.2 (by omega); omega⟩
  case deqCasHead =>
    refine ⟨h.1, by omega, fun _ => ?_⟩
    obtain ⟨hlt, hout⟩ := h.2.2 (by omega)
    exact ⟨by omega, henq _ _ hout⟩

/-- What a thread knows does not depend on other threads' local variables. -/
theorem ThreadInv.setLoc [DecidableEq Tid] (h : ThreadInv size s l) (t : Tid) (l' : Local T) :
    ThreadInv size (s.setLoc t l') l :=
  h.frame (Nat.le_refl _) (Nat.le_refl _) (Nat.le_refl _) (fun _ _ h => h)
    (fun hr => (h.reserved hr).commit_le) (fun _ => rfl)

end frame

/-! ## Section 3: The steps -/

section steps
variable {size : Nat} {s : State Tid T} [DecidableEq Tid]

/-- Two threads' reservations stay apart when one thread's local variables
    change and claim no new position. -/
theorem Inv.reserved_ne_setLoc (h : Inv size s) (t : Tid) (l : Local T)
    (hres : Reserving l → Reserving (s.loc t) ∧ l.oldTail = (s.loc t).oldTail) (u v : Tid)
    (huv : u ≠ v) (hru : Reserving ((s.setLoc t l).loc u))
    (hrv : Reserving ((s.setLoc t l).loc v)) :
    ((s.setLoc t l).loc u).oldTail ≠ ((s.setLoc t l).loc v).oldTail := by
  have hold : ∀ w, Reserving ((s.setLoc t l).loc w) →
      Reserving (s.loc w) ∧ ((s.setLoc t l).loc w).oldTail = (s.loc w).oldTail := by
    intro w hw
    by_cases hwt : w = t
    · subst hwt
      rw [setLoc_loc_self] at hw ⊢
      exact hres hw
    · rw [setLoc_loc_ne _ _ _ _ hwt] at hw ⊢
      exact ⟨hw, rfl⟩
  obtain ⟨hu, hu'⟩ := hold u hru
  obtain ⟨hv, hv'⟩ := hold v hrv
  rw [hu', hv']
  exact h.reserved_ne u v huv hu hv

/-- A step that only changes one thread's local variables keeps the
    invariant, if the new ones satisfy theirs and claim no new position. -/
theorem Inv.setLoc (h : Inv size s) (t : Tid) (l : Local T) (hl : ThreadInv size s l)
    (hres : Reserving l → Reserving (s.loc t) ∧ l.oldTail = (s.loc t).oldTail) :
    Inv size (s.setLoc t l) where
  head_lt_commit  := h.head_lt_commit
  commit_le_tail  := h.commit_le_tail
  tail_le         := h.tail_le
  enqueued_length := h.enqueued_length
  dequeued_eq     := h.dequeued_eq
  slot            := h.slot
  threads         := by
    intro u
    by_cases hu : u = t
    · subst hu; rw [setLoc_loc_self]; exact hl.setLoc u l
    · rw [setLoc_loc_ne _ _ _ _ hu]; exact (h.threads u).setLoc t l
  reserved_ne     := h.reserved_ne_setLoc t l hres

/-- Reserving a position: the `tail_` compare-and-swap succeeds. -/
theorem Inv.enqCasTail (h : Inv size s) (t : Tid) (hpc : (s.loc t).pc = .enqCasTail)
    (htail : s.tail = (s.loc t).oldTail) :
    Inv size { s.setLoc t { s.loc t with pc := .enqWrite } with
      tail     := (s.loc t).newTail
      enqueued := s.enqueued ++ [(s.loc t).element] } := by
  have ht := h.threads t
  simp only [ThreadInv, hpc] at ht
  obtain ⟨hnew, _, hroom⟩ := ht
  have hroom := hroom htail
  have hlen := h.enqueued_length
  have hcommit := h.commit_le_tail
  have hhead := h.head_lt_commit
  have hext : ∀ (i : Nat) x, s.enqueued[i]? = some x →
      (s.enqueued ++ [(s.loc t).element])[i]? = some x := fun i x hx =>
    List.getElem?_append_left (List.getElem?_eq_some_iff.mp hx).1 ▸ hx
  -- the position just reserved lies behind every other reservation
  have hfresh : ∀ u, Reserving (s.loc u) → (s.loc u).oldTail < (s.loc t).oldTail := fun u hu => by
    have := ((h.threads u).reserved hu).lt_tail
    omega
  have hle' : s.commit ≤ (s.loc t).newTail := by omega
  have htail' : s.tail ≤ (s.loc t).newTail := by omega
  refine ⟨hhead, hle', hroom, ?_, ?_, ?_, ?_, ?_⟩
  · show (s.enqueued ++ [(s.loc t).element]).length + 1 = _
    rw [List.length_append, List.length_singleton, hlen, htail, hnew]
  · show s.dequeued = (s.enqueued ++ [(s.loc t).element]).take s.head
    rw [List.take_append_of_le_length (by omega), h.dequeued_eq]
  · intro k hk hk'
    exact hext _ _ (h.slot k hk hk')
  · intro u
    by_cases hu : u = t
    · subst hu
      show ThreadInv size _ ((s.setLoc u _).loc u)
      rw [setLoc_loc_self]
      have hle : s.commit ≤ (s.loc u).oldTail := by omega
      have hlt : (s.loc u).oldTail < (s.loc u).newTail := by omega
      refine ⟨hnew, hle, hlt, ?_⟩
      show (s.enqueued ++ [(s.loc u).element])[(s.loc u).oldTail - 1]? = some (s.loc u).element
      rw [show (s.loc u).oldTail - 1 = s.enqueued.length from by omega]
      simp
    · show ThreadInv size _ ((s.setLoc t _).loc u)
      rw [setLoc_loc_ne _ _ _ _ hu]
      exact (h.threads u).frame (Nat.le_refl _) (Nat.le_refl _) htail' hext
        (fun hr => ((h.threads u).reserved hr).commit_le) (fun _ => rfl)
  · intro u v huv hru hrv
    have hloc : ∀ w, w ≠ t → (s.setLoc t { s.loc t with pc := .enqWrite }).loc w = s.loc w :=
      fun w hw => setLoc_loc_ne _ _ _ _ hw
    have hself : ((s.setLoc t { s.loc t with pc := .enqWrite }).loc t).oldTail =
        (s.loc t).oldTail := by rw [setLoc_loc_self]
    show ((s.setLoc t _).loc u).oldTail ≠ ((s.setLoc t _).loc v).oldTail
    change Reserving ((s.setLoc t _).loc u) at hru
    change Reserving ((s.setLoc t _).loc v) at hrv
    by_cases hu : u = t
    · subst hu
      rw [hloc v (Ne.symm huv)] at hrv ⊢
      rw [hself]
      exact Nat.ne_of_gt (hfresh v hrv)
    · rw [hloc u hu] at hru ⊢
      by_cases hv : v = t
      · subst hv
        rw [hself]
        exact Nat.ne_of_lt (hfresh u hru)
      · rw [hloc v hv] at hrv ⊢
        exact h.reserved_ne u v huv hru hrv

/-- Writing the reserved slot touches no committed element and no other
    producer's slot: all of them lie in one window of less than a lap. -/
theorem Inv.enqWrite (h : Inv size s) (t : Tid) (hpc : (s.loc t).pc = .enqWrite) :
    Inv size { s.setLoc t { s.loc t with pc := .enqCasCommit } with
      pool := Function.update s.pool (getIndex size (s.loc t).oldTail) (s.loc t).element } := by
  have hres := (h.threads t).reserved (Or.inl hpc)
  have hle := h.tail_le
  have hhead := h.head_lt_commit
  have hother : ∀ k, s.head < k → k < s.tail → k ≠ (s.loc t).oldTail →
      getIndex size k ≠ getIndex size (s.loc t).oldTail := by
    intro k hk hk' hne
    rw [getIndex_eq_mod, getIndex_eq_mod]
    have := hres.commit_le
    have := hres.lt_tail
    exact @Ring.mod_ne_of_window _ (s.head + 1) _ _ hk
      (by simp only [poolSize]; omega) (by omega) (by simp only [poolSize]; omega) hne
  refine ⟨hhead, h.commit_le_tail, hle, h.enqueued_length, h.dequeued_eq, ?_, ?_, ?_⟩
  · intro k hk hk'
    change k < s.commit at hk'
    have := hres.commit_le
    have := h.commit_le_tail
    show s.enqueued[k - 1]? = some (Function.update s.pool _ _ (getIndex size k))
    rw [Function.update_of_ne (hother k hk (by omega) (by omega))]
    exact h.slot k hk hk'
  · intro u
    by_cases hu : u = t
    · subst hu
      show ThreadInv size _ ((s.setLoc u _).loc u)
      rw [setLoc_loc_self]
      exact ⟨⟨hres.newTail_eq, hres.commit_le, hres.lt_tail, hres.element_eq⟩,
        Function.update_self _ _ _⟩
    · show ThreadInv size _ ((s.setLoc t _).loc u)
      rw [setLoc_loc_ne _ _ _ _ hu]
      refine (h.threads u).frame (Nat.le_refl _) (Nat.le_refl _) (Nat.le_refl _) (fun _ _ h => h)
        (fun hr => ((h.threads u).reserved hr).commit_le) (fun hpcu => ?_)
      have hru : Reserving (s.loc u) := Or.inr hpcu
      have hresu := (h.threads u).reserved hru
      have := hresu.commit_le
      exact Function.update_of_ne
        (hother _ (by omega) hresu.lt_tail (h.reserved_ne u t hu hru (Or.inl hpc))) _ _
  · exact h.reserved_ne_setLoc t _ (fun _ => ⟨Or.inl hpc, rfl⟩)

/-- Committing: the producer of the oldest reservation publishes it. -/
theorem Inv.enqCasCommit (h : Inv size s) (t : Tid) (hpc : (s.loc t).pc = .enqCasCommit)
    (hcommit : s.commit = (s.loc t).oldTail) :
    Inv size { s.setLoc t { s.loc t with pc := .enqNotify } with
      commit := (s.loc t).newTail } := by
  have ht := h.threads t
  simp only [ThreadInv, hpc] at ht
  obtain ⟨hres, hslot⟩ := ht
  have hnew := hres.newTail_eq
  have hlt := hres.lt_tail
  have hhead := h.head_lt_commit
  have hhead' : s.head + 1 ≤ (s.loc t).newTail := by omega
  have htail' : (s.loc t).newTail ≤ s.tail := by omega
  have hcommit' : s.commit ≤ (s.loc t).newTail := by omega
  refine ⟨hhead', htail', h.tail_le, h.enqueued_length, h.dequeued_eq, ?_, ?_, ?_⟩
  · intro k hk hk'
    change k < (s.loc t).newTail at hk'
    by_cases hkc : k = (s.loc t).oldTail
    · show s.enqueued[k - 1]? = some (s.pool (getIndex size k))
      rw [hkc, hslot, hres.element_eq]
    · exact h.slot k hk (by omega)
  · intro u
    by_cases hu : u = t
    · subst hu
      show ThreadInv size _ ((s.setLoc u _).loc u)
      rw [setLoc_loc_self]
      trivial
    · show ThreadInv size _ ((s.setLoc t _).loc u)
      rw [setLoc_loc_ne _ _ _ _ hu]
      refine (h.threads u).frame (Nat.le_refl _) hcommit' (Nat.le_refl _)
        (fun _ _ h => h) (fun hr => ?_) (fun _ => rfl)
      have hle := ((h.threads u).reserved hr).commit_le
      have hne := h.reserved_ne u t hu hr (Or.inr hpc)
      show (s.loc t).newTail ≤ (s.loc u).oldTail
      omega
  · exact h.reserved_ne_setLoc t _ (fun hr => by rcases hr with hr | hr <;> cases hr)

/-- Dequeuing: the `head_` compare-and-swap succeeds. -/
theorem Inv.deqCasHead (h : Inv size s) (t : Tid) (hpc : (s.loc t).pc = .deqCasHead)
    (hhead : s.head = (s.loc t).oldHead) :
    Inv size { s.setLoc t { s.loc t with pc := .idle, ret := some true } with
      head     := (s.loc t).newHead
      dequeued := s.dequeued ++ [(s.loc t).out] } := by
  have ht := h.threads t
  simp only [ThreadInv, hpc] at ht
  obtain ⟨hnew, _, hcur⟩ := ht
  obtain ⟨hlt, hout⟩ := hcur hhead
  have hle := h.tail_le
  have hle' : s.tail ≤ (s.loc t).newHead + size + 1 := by omega
  have hhead' : s.head ≤ (s.loc t).newHead := by omega
  refine ⟨hlt, h.commit_le_tail, hle', h.enqueued_length, ?_, ?_, ?_, ?_⟩
  · show s.dequeued ++ [(s.loc t).out] = s.enqueued.take (s.loc t).newHead
    have hnew' : (s.loc t).newHead = s.head + 1 := by omega
    rw [show (s.loc t).newHead - 1 = s.head from by omega] at hout
    rw [h.dequeued_eq, hnew', List.take_add_one, hout]; rfl
  · intro k hk hk'
    change (s.loc t).newHead < k at hk
    exact h.slot k (by omega) hk'
  · intro u
    by_cases hu : u = t
    · subst hu
      show ThreadInv size _ ((s.setLoc u _).loc u)
      rw [setLoc_loc_self]
      trivial
    · show ThreadInv size _ ((s.setLoc t _).loc u)
      rw [setLoc_loc_ne _ _ _ _ hu]
      exact (h.threads u).frame hhead' (Nat.le_refl _) (Nat.le_refl _)
        (fun _ _ h => h) (fun hr => ((h.threads u).reserved hr).commit_le) (fun _ => rfl)
  · exact h.reserved_ne_setLoc t _ (fun hr => by rcases hr with hr | hr <;> cases hr)

/-- **Step lemma**: every step keeps the invariant. -/
theorem Inv.step [Inhabited T] (h : Inv size s) (a : Label Tid T)
    (hg : ((boundedQueue size).action a).gate s) :
    Inv size (((boundedQueue size).action a).effect s) := by
  cases a with
  | callEnqueue t x =>
    exact h.setLoc t _ trivial (fun hr => by rcases hr with hr | hr <;> cases hr)
  | callDequeue t out =>
    exact h.setLoc t _ trivial (fun hr => by rcases hr with hr | hr <;> cases hr)
  | enqLoadTail t =>
    exact h.setLoc t _ (Nat.le_refl s.tail) (fun hr => by rcases hr with hr | hr <;> cases hr)
  | enqLoadHead t =>
    have hpc : (s.loc t).pc = .enqLoadHead := hg
    have ht := h.threads t
    simp only [ThreadInv, hpc] at ht
    have hle := h.tail_le
    dsimp only [boundedQueue]
    split
    · exact h.setLoc t _ trivial (fun hr => by rcases hr with hr | hr <;> cases hr)
    · rename_i hfull
      refine h.setLoc t _ ⟨rfl, ht, fun hcur => ?_⟩
        (fun hr => by rcases hr with hr | hr <;> cases hr)
      -- the snapshot is current: the ring had room when `head_` was read
      rw [getIndex_eq_mod, getIndex_eq_mod] at hfull
      change s.tail = (s.loc t).oldTail at hcur
      show (s.loc t).oldTail + 1 ≤ s.head + size + 1
      have := Ring.lt_lap_of_mod_ne (n := poolSize size) (a := s.head)
        (b := (s.loc t).oldTail + 1) (by simp only [poolSize]; omega) hfull
      simp only [poolSize] at this
      omega
  | enqCasTail t => exact h.enqCasTail t hg.1 hg.2
  | enqCasTailFail t =>
    exact h.setLoc t _ (Nat.le_refl s.tail) (fun hr => by rcases hr with hr | hr <;> cases hr)
  | enqWrite t => exact h.enqWrite t hg
  | enqCasCommit t => exact h.enqCasCommit t hg.1 hg.2
  | enqCasCommitFail t => exact h
  | enqNotify t =>
    exact h.setLoc t _ trivial (fun hr => by rcases hr with hr | hr <;> cases hr)
  | deqLoadHead t =>
    exact h.setLoc t _ (Nat.le_refl s.head) (fun hr => by rcases hr with hr | hr <;> cases hr)
  | deqLoadCommit t =>
    have hpc : (s.loc t).pc = .deqLoadCommit := hg
    have ht := h.threads t
    simp only [ThreadInv, hpc] at ht
    have hhead := h.head_lt_commit
    dsimp only [boundedQueue]
    split
    · exact h.setLoc t _ trivial (fun hr => by rcases hr with hr | hr <;> cases hr)
    · rename_i hempty
      refine h.setLoc t _ ⟨rfl, ht, fun hcur => ?_⟩
        (fun hr => by rcases hr with hr | hr <;> cases hr)
      change s.head = (s.loc t).oldHead at hcur
      show (s.loc t).oldHead + 1 < s.commit
      omega
  | deqRead t =>
    have hpc : (s.loc t).pc = .deqRead := hg
    have ht := h.threads t
    simp only [ThreadInv, hpc] at ht
    obtain ⟨hnew, hle, hcur⟩ := ht
    refine h.setLoc t _ ⟨hnew, hle, fun hcur' => ?_⟩
      (fun hr => by rcases hr with hr | hr <;> cases hr)
    have hlt := hcur hcur'
    change s.head = (s.loc t).oldHead at hcur'
    have hlt' : s.head < (s.loc t).newHead := by omega
    exact ⟨hlt, h.slot _ hlt' hlt⟩
  | deqCasHead t => exact h.deqCasHead t hg.1 hg.2
  | deqCasHeadFail t =>
    exact h.setLoc t _ (Nat.le_refl s.head) (fun hr => by rcases hr with hr | hr <;> cases hr)

end steps

/-! ## Section 4: FIFO -/

/-- No thread is about to overwrite a slot whose element is still queued:
    every other position of that slot was dequeued. -/
def NoOverwrite (size : Nat) (s : State Tid T) : Prop :=
  ∀ t, (s.loc t).pc = .enqWrite → ∀ k, k < s.tail → k ≠ (s.loc t).oldTail →
    getIndex size k = getIndex size (s.loc t).oldTail → k ≤ s.head

theorem Inv.noOverwrite {size : Nat} {s : State Tid T} (h : Inv size s) :
    NoOverwrite size s := by
  intro t hpc k hk hne hidx
  by_contra hlive
  have hres := (h.threads t).reserved (Or.inl hpc)
  have hle := h.tail_le
  have hhead := h.head_lt_commit
  have hcommit := hres.commit_le
  have hlt := hres.lt_tail
  rw [getIndex_eq_mod, getIndex_eq_mod] at hidx
  exact @Ring.mod_ne_of_window (poolSize size) (s.head + 1) _ _ (by omega)
    (by simp only [poolSize]; omega) (by omega) (by simp only [poolSize]; omega) hne hidx

section fifo
variable {size : Nat} {s : State Tid T} [DecidableEq Tid] [Inhabited T]

theorem inv_init (h : (boundedQueue size : System (State Tid T) (Label Tid T)).init s) :
    Inv size s := by
  obtain ⟨hhead, htail, hcommit, _, hidle, henq, hdeq⟩ := h
  refine ⟨by omega, by omega, by omega, by simp [henq, htail], by simp [henq, hdeq],
    fun k hk hk' => by omega, fun t => ?_, fun t u _ ht _ => ?_⟩
  · simp [ThreadInv, hidle t]
  · rcases ht with ht | ht <;> rw [hidle t] at ht <;> cases ht

/-- **Run lemma**: the invariant holds in every reachable state. -/
theorem inv_reachable (h : (boundedQueue size : System (State Tid T) (Label Tid T)).Reachable s) :
    Inv size s :=
  System.invariant (fun _ hi => inv_init hi) (fun _ a hinv hg => hinv.step a hg) h

/-- What makes the ring a FIFO queue, in one state. -/
structure Fifo (size : Nat) (s : State Tid T) : Prop where
  head_lt_commit  : s.head + 1 ≤ s.commit
  commit_le_tail  : s.commit ≤ s.tail
  tail_le         : s.tail ≤ s.head + size + 1
  noOverwrite     : NoOverwrite size s
  dequeued_prefix : s.dequeued <+: s.enqueued
  dequeued_length : s.dequeued.length = s.head
  enqueued_length : s.enqueued.length + 1 = s.tail

/-- **FIFO**: in every reachable state the counters are ordered, no queued
    element's slot is overwritten, and what was dequeued is a prefix of
    what was enqueued, all of it committed before. -/
theorem boundedQueue_fifo (size : Nat) (s : State Tid T)
    (h : (boundedQueue size : System (State Tid T) (Label Tid T)).Reachable s) : Fifo size s := by
  have hinv := inv_reachable h
  have hlen := hinv.enqueued_length
  have hhead := hinv.head_lt_commit
  have hcommit := hinv.commit_le_tail
  refine ⟨hhead, hcommit, hinv.tail_le, hinv.noOverwrite, ?_, ?_, hlen⟩
  · rw [hinv.dequeued_eq]
    exact List.take_prefix _ _
  · rw [hinv.dequeued_eq, List.length_take]
    omega

/-- Thread `true` enqueues 7 while thread `false` waits to dequeue it. -/
def oneElement : List (Label Bool Nat) :=
  [.callEnqueue true 7, .callDequeue false 0, .enqLoadTail true, .deqLoadHead false,
    .enqLoadHead true, .enqCasTail true, .enqWrite true, .enqCasCommit true,
    .deqLoadCommit false, .deqRead false, .enqNotify true, .deqCasHead false]

theorem boundedQueue_fifo_oneElement :
    ((boundedQueue 1).exec initial oneElement).dequeued = [7] ∧
      Fifo 1 ((boundedQueue 1).exec initial oneElement) :=
  ⟨rfl, boundedQueue_fifo 1 _
    (System.reachable_exec _ (initial_init 1) oneElement (by decide))⟩

/-! ## Section 5: Committed elements -/

/-- The element is that of a committed position, so it is in the queue or
    was dequeued. -/
def Committed (s : State Tid T) (x : T) : Prop :=
  ∃ p, 0 < p ∧ p < s.commit ∧ s.enqueued[p - 1]? = some x

/-- What is committed stays so. -/
theorem Committed.step {x : T} (hc : Committed s x) (h : Inv size s) (a : Label Tid T)
    (hg : ((boundedQueue size).action a).gate s) :
    Committed (((boundedQueue size).action a).effect s) x := by
  obtain ⟨p, hpos, hp, hx⟩ := hc
  cases a with
  | enqCasTail t =>
    refine ⟨p, hpos, hp, ?_⟩
    show (s.enqueued ++ [(s.loc t).element])[p - 1]? = some x
    rw [List.getElem?_append_left (List.getElem?_eq_some_iff.mp hx).1]
    exact hx
  | enqCasCommit t =>
    obtain ⟨hpc, hcommit⟩ := hg
    have hnew := ((h.threads t).reserved (.inr hpc)).newTail_eq
    have hp' : p < (s.loc t).newTail := by omega
    exact ⟨p, hpos, hp', hx⟩
  | enqLoadHead t | deqLoadCommit t =>
    simp only [boundedQueue]
    split <;> exact ⟨p, hpos, hp, hx⟩
  | _ => exact ⟨p, hpos, hp, hx⟩

/-- The element is in the slot of a committed position, or was dequeued. -/
def QueuedOrTaken (size : Nat) (s : State Tid T) (x : T) : Prop :=
  (∃ p, s.head < p ∧ p < s.commit ∧ s.pool (getIndex size p) = x) ∨ x ∈ s.dequeued

omit [DecidableEq Tid] [Inhabited T] in
theorem Committed.queuedOrTaken {x : T} (hc : Committed s x) (h : Inv size s) :
    QueuedOrTaken size s x := by
  obtain ⟨p, hpos, hp, hx⟩ := hc
  by_cases hhead : s.head < p
  · have hslot := h.slot p hhead hp
    rw [hx] at hslot
    exact .inl ⟨p, hhead, hp, (Option.some.inj hslot).symm⟩
  · right
    rw [h.dequeued_eq]
    apply List.mem_of_getElem? (i := p - 1)
    rw [List.getElem?_take_of_lt (by omega)]
    exact hx

end fifo

end CyberRT.Base.BoundedQueue
