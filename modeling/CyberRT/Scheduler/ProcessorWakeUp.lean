import CyberRT.Scheduler.ClassicContext
import Mathlib.Data.Fintype.Card

/-! # Wake-up of the processors of a classic group

    `Wait` blocks without a predicate, and no notifier takes the group's
    mutex. A notification that arrives after a processor has passed the
    routine in its scan, and before it blocks, wakes nobody. The same holds
    of a stop flag that is set after `Wait` has checked it, and of a routine
    that a scanning processor still holds when its flag is raised.

    Apart from these moments no wake-up is lost: for every routine that can
    run, some processor is still going to examine it before it can block, or
    some call is still going to notify. -/

namespace CyberRT.Scheduler

open CyberRT.Framework CyberRT.Croutine

variable {Pid Cid Rid : Type}

/-! ## Section 1: Lost wake-ups -/

/-- The routine can run: it is `READY`, or waits with its flag raised. -/
def Runnable (cr : CRoutine) : Prop :=
  cr.state = .ready ∨ CRoutine.waits cr.state = true ∧ cr.Raised

/-- The routine is in one of the run queues below priority `k`. -/
def Below (rq : Nat → List Rid) (k : Nat) (r : Rid) : Prop := ∃ i, i < k ∧ r ∈ rq i

/-- All processors block in the untimed wait and no call is in progress,
    although a routine can run or a context is stopped. -/
structure LostWakeUp (s : State Pid Cid Rid) : Prop where
  blocked : ∀ p, (s.processors p).pc = .blocked
  idle    : ∀ c, s.callers c = .idle
  work    : (∃ r, Below s.rq maxPrio r ∧ s.locked r = false ∧ Runnable (s.routines r)) ∨
              ∃ p, (s.processors p).stop = true

/-- The processor will not enter the untimed wait at the end of its scan. -/
def Processor.Excused (x : Processor Rid) : Prop := x.needSleep = true ∨ x.stop = true

/-- The processor examines `r` before it can enter the untimed wait, or
    does not enter it. -/
def Ahead (rq : Nat → List Rid) (x : Processor Rid) (r : Rid) : Prop :=
  match x.pc with
  | .run | .nextRoutine | .resume _ | .resumed _ | .timedBlocked | .exited => True
  | .scanFrom k                              => x.Excused ∨ Below rq k r
  | .scan i rest                             => x.Excused ∨ r ∈ rest ∨ Below rq i r
  | .update i rest r' | .becomeReady i rest r' =>
      x.Excused ∨ r = r' ∨ r ∈ rest ∨ Below rq i r
  | .notReady i rest _ | .release i rest _   => x.Excused ∨ r ∈ rest ∨ Below rq i r
  | .wait                                    => x.Excused
  | .block                                   => x.needSleep = true
  | .blocked                                 => False

/-- The processor has acquired `r`. -/
def ProcessorPc.holds (r : Rid) : ProcessorPc Rid → Prop
  | .update _ _ r' | .becomeReady _ _ r' | .notReady _ _ r' | .release _ _ r' => r' = r
  | .resume r' | .resumed r' => r' = r
  | _ => False

/-- The processor has found that `r` is not to be run, and holds it still. -/
def ProcessorPc.dismisses (r : Rid) : ProcessorPc Rid → Prop
  | .notReady _ _ r' | .release _ _ r' => r' = r
  | _ => False

/-! ## Section 2: The moments in which a wake-up is lost -/

/-- `c` notifies for `r` when nobody waits for it and every processor has
    passed `r`. -/
structure MissesNotify (s : State Pid Cid Rid) (c : Cid) (r : Rid) : Prop where
  queued      : Below s.rq maxPrio r
  runnable    : Runnable (s.routines r)
  nobodyWaits : ∀ p, (s.processors p).pc.waiting = false
  nobodyAhead : ∀ p, ¬ Ahead s.rq (s.processors p) r
  last        : ∀ c', s.callers c' = .notify r → c' = c

/-- `p`, the last one to examine `r`, skips it because another processor
    that has dismissed `r` holds it still. -/
structure MissesHeld (s : State Pid Cid Rid) (p : Pid) (r : Rid) : Prop where
  queued      : Below s.rq maxPrio r
  runnable    : Runnable (s.routines r)
  held        : ∃ q, (s.processors q).pc.dismisses r
  nobodyAhead : ∀ q, q ≠ p → ¬ Ahead s.rq (s.processors q) r
  notExcused  : ¬ (s.processors p).Excused
  noCall      : ∀ c, s.callers c ≠ .notify r

/-- `c` notifies for the stop of `p` while `p` is between the stop check of
    its `Wait` and the untimed wait. -/
structure MissesStop (s : State Pid Cid Rid) (c : Cid) (p : Pid) : Prop where
  blocking  : (s.processors p).pc = .block
  untimed   : (s.processors p).needSleep = false
  last      : ∀ c', s.callers c' = .notifyAll p → c' = c

/-- The condition on the steps of a run under which no wake-up is lost. -/
def Heard (s : State Pid Cid Rid) : Label Pid Cid Rid → Prop
  | .acquireFail p _ _ r => ¬ MissesHeld s p r
  | .notifyOne c r _     => ¬ MissesNotify s c r
  | .notifyAll c p       => ¬ MissesStop s c p
  | _                    => True

/-! ## Section 3: Invariant -/

/-- Somebody will examine `r`, or notify for it. -/
def Hope (s : State Pid Cid Rid) (r : Rid) : Prop :=
  (∃ p, Ahead s.rq (s.processors p) r) ∨ ∃ c, s.callers c = .notify r

/-- The processor is in the untimed wait, or can only enter it. -/
def Processor.Sleeping (x : Processor Rid) : Prop :=
  x.pc = .blocked ∨ x.pc = .block ∧ x.needSleep = false

structure Inv (s : State Pid Cid Rid) : Prop where
  hope : ∀ r, Below s.rq maxPrio r → Runnable (s.routines r) → Hope s r
  stop : ∀ p, (s.processors p).stop = true → (s.processors p).Sleeping →
           ∃ c, s.callers c = .notifyAll p
  held : ∀ r, s.locked r = true → ∃ p, (s.processors p).pc.holds r

theorem Inv.not_lostWakeUp {s : State Pid Cid Rid} (h : Inv s) : ¬ LostWakeUp s := by
  rintro ⟨hblocked, hidle, ⟨r, hqueued, _, hrun⟩ | ⟨p, hstop⟩⟩
  · rcases h.hope r hqueued hrun with ⟨p, hp⟩ | ⟨c, hc⟩
    · rw [Ahead, hblocked p] at hp
      exact hp
    · rw [hidle c] at hc
      cases hc
  · obtain ⟨c, hc⟩ := h.stop p hstop (Or.inl (hblocked p))
    rw [hidle c] at hc
    cases hc

/-! ## Section 4: What a processor is ahead of -/

section ahead
variable {rq rq' : Nat → List Rid} {x : Processor Rid} {r : Rid}

theorem below_succ {k : Nat} : Below rq (k + 1) r ↔ r ∈ rq k ∨ Below rq k r := by
  constructor
  · rintro ⟨i, hi, hr⟩
    rcases Nat.lt_succ_iff_lt_or_eq.mp hi with hlt | rfl
    · exact Or.inr ⟨i, hlt, hr⟩
    · exact Or.inl hr
  · rintro (hr | ⟨i, hi, hr⟩)
    · exact ⟨k, Nat.lt_succ_self k, hr⟩
    · exact ⟨i, Nat.lt_succ_of_lt hi, hr⟩

theorem not_below_zero : ¬ Below rq 0 r := by
  rintro ⟨i, hi, _⟩
  exact absurd hi (Nat.not_lt_zero i)

theorem Below.mono {k : Nat} (h : Below rq k r) (hrq : ∀ i, rq i ⊆ rq' i) : Below rq' k r := by
  obtain ⟨i, hi, hr⟩ := h
  exact ⟨i, hi, hrq i hr⟩

/-- Queues that grow and a context that is stopped leave the processor ahead. -/
theorem Ahead.mono {y : Processor Rid} (h : Ahead rq x r) (hrq : ∀ i, rq i ⊆ rq' i)
    (hpc : y.pc = x.pc) (hsleep : y.needSleep = x.needSleep)
    (hstop : x.stop = true → y.stop = true) : Ahead rq' y r := by
  have hexcused : x.Excused → y.Excused := by
    rintro (hx | hx)
    · exact Or.inl (by rw [hsleep, hx])
    · exact Or.inr (hstop hx)
  have hbelow : ∀ k, Below rq k r → Below rq' k r := fun k hk => hk.mono hrq
  unfold Ahead at *
  rw [hpc]
  cases hx : x.pc <;> simp only [hx] at h ⊢
  case scanFrom k => exact h.imp hexcused (hbelow k)
  case scan i rest => exact h.imp hexcused (Or.imp id (hbelow i))
  case update i rest r' => exact h.imp hexcused (Or.imp id (Or.imp id (hbelow i)))
  case becomeReady i rest r' => exact h.imp hexcused (Or.imp id (Or.imp id (hbelow i)))
  case notReady i rest r' => exact h.imp hexcused (Or.imp id (hbelow i))
  case release i rest r' => exact h.imp hexcused (Or.imp id (hbelow i))
  case wait => exact hexcused h
  case block => rw [hsleep, h]

/-- A processor that leaves the condition wait examines everything again. -/
theorem ahead_woken (h : x.pc.waiting = true) : Ahead rq x.woken r := by
  unfold Processor.woken
  cases hx : x.pc <;> rw [hx] at h <;> first | exact trivial | cases h

theorem woken_pc (h : x.pc.waiting = true) : x.woken.pc = .run := by
  unfold Processor.woken
  cases hx : x.pc <;> rw [hx] at h <;> first | rfl | cases h

theorem not_holds_of_waiting (h : x.pc.waiting = true) : ¬ x.pc.holds r := by
  intro hr
  cases hx : x.pc <;> rw [hx] at h hr <;> first | exact hr | cases h

theorem woken_eq (h : x.pc.waiting = false) : x.woken = x := by
  unfold Processor.woken
  cases hx : x.pc <;> rw [hx] at h <;> first | rfl | cases h

end ahead

/-! ## Section 5: The steps of the processors -/

section processors
variable [DecidableEq Pid] {s : State Pid Cid Rid} {p : Pid} {x : Processor Rid}

/-- A processor's step. Every routine that can run afterwards has the
    processor still ahead, or could run before and hoped for somebody else. -/
theorem Inv.processorStep (h : Inv s) {routines : Rid → CRoutine} {locked : Rid → Bool}
    (hrun : ∀ r, Below s.rq maxPrio r → Runnable (routines r) →
      Ahead s.rq x r ∨
      Runnable (s.routines r) ∧ ¬ Ahead s.rq (s.processors p) r ∨
      (∃ q, q ≠ p ∧ Ahead s.rq (s.processors q) r) ∨ ∃ c, s.callers c = .notify r)
    (hstop : x.stop = true → x.Sleeping →
      (s.processors p).stop = true ∧ (s.processors p).Sleeping)
    (hheld : ∀ r, locked r = true →
      x.pc.holds r ∨ s.locked r = true ∧ ¬ (s.processors p).pc.holds r) :
    Inv { s.setProcessor p x with routines := routines, locked := locked } := by
  have hother : ∀ q, q ≠ p → Function.update s.processors p x q = s.processors q :=
    fun q hq => Function.update_of_ne hq x s.processors
  have hself : Function.update s.processors p x p = x := Function.update_self p x s.processors
  constructor
  · intro r hqueued hr
    show (∃ q, Ahead s.rq (Function.update s.processors p x q) r) ∨ ∃ c, s.callers c = .notify r
    -- `p` itself, whoever was ahead before, another processor, or a call
    rcases hrun r hqueued hr with hx | ⟨hold, hnot⟩ | ⟨q, hq, hahead⟩ | hcall
    · apply Or.inl
      refine ⟨p, ?_⟩
      rw [hself]
      exact hx
    · rcases h.hope r hqueued hold with ⟨q, hq⟩ | hcall
      · apply Or.inl
        refine ⟨q, ?_⟩
        have hqp : q ≠ p := by
          rintro rfl
          exact hnot hq
        rw [hother q hqp]
        exact hq
      · exact Or.inr hcall
    · apply Or.inl
      refine ⟨q, ?_⟩
      rw [hother q hq]
      exact hahead
    · exact Or.inr hcall
  · intro q
    show (Function.update s.processors p x q).stop = true →
      (Function.update s.processors p x q).Sleeping → _
    by_cases hq : q = p
    · rw [hq, hself]
      intro hs hsleep
      obtain ⟨hs', hsleep'⟩ := hstop hs hsleep
      exact h.stop p hs' hsleep'
    · rw [hother q hq]
      exact h.stop q
  · intro r hr
    show ∃ q, (Function.update s.processors p x q).pc.holds r
    rcases hheld r hr with hx | ⟨hlocked, hnot⟩
    · refine ⟨p, ?_⟩
      rw [hself]
      exact hx
    · obtain ⟨q, hq⟩ := h.held r hlocked
      refine ⟨q, ?_⟩
      have hqp : q ≠ p := by
        rintro rfl
        exact hnot hq
      rw [hother q hqp]
      exact hq

/-- A processor's step that touches no routine: what it was ahead of it is
    still ahead of, and it holds what it held. -/
theorem Inv.setProcessor (h : Inv s)
    (hahead : ∀ r, Below s.rq maxPrio r → Ahead s.rq (s.processors p) r → Ahead s.rq x r)
    (hstop : x.stop = true → x.Sleeping →
      (s.processors p).stop = true ∧ (s.processors p).Sleeping)
    (hheld : ∀ r, (s.processors p).pc.holds r → x.pc.holds r) :
    Inv (s.setProcessor p x) := by
  apply h.processorStep
  · intro r hqueued hr
    by_cases hold : Ahead s.rq (s.processors p) r
    · exact Or.inl (hahead r hqueued hold)
    · exact Or.inr (Or.inl ⟨hr, hold⟩)
  · exact hstop
  · intro r hr
    by_cases hold : (s.processors p).pc.holds r
    · exact Or.inl (hheld r hold)
    · exact Or.inr ⟨hr, hold⟩

/-- A processor that stays out of the condition wait. -/
theorem not_sleeping {pc : ProcessorPc Rid} (hpc : x.pc = pc) (hblocked : pc ≠ .blocked)
    (hblock : pc ≠ .block) : ¬ x.Sleeping := by
  rintro (hx | ⟨hx, _⟩)
  · exact hblocked (by rw [← hpc, hx])
  · exact hblock (by rw [← hpc, hx])

omit [DecidableEq Pid] in
theorem processor_eq {pc : ProcessorPc Rid} (hpc : (s.processors p).pc = pc) :
    { s.processors p with pc := pc } = s.processors p := by
  rw [← hpc]

/-- A processor moves on outside `Wait` and touches no routine. -/
theorem Inv.setPc (h : Inv s) {pc pc' : ProcessorPc Rid} (hpc : (s.processors p).pc = pc)
    (hblocked : pc' ≠ .blocked) (hblock : pc' ≠ .block)
    (hahead : ∀ r, Below s.rq maxPrio r → Ahead s.rq { s.processors p with pc := pc } r →
      Ahead s.rq { s.processors p with pc := pc' } r)
    (hheld : ∀ r, pc.holds r → pc'.holds r) : Inv (s.setPc p pc') := by
  apply h.setProcessor
  · intro r hqueued hr
    rw [← processor_eq hpc] at hr
    exact hahead r hqueued hr
  · exact fun _ hsleep => absurd hsleep (not_sleeping rfl hblocked hblock)
  · intro r hr
    rw [hpc] at hr
    exact hheld r hr

omit [DecidableEq Pid] in
theorem setRoutine_self [DecidableEq Rid] (s : State Pid Cid Rid) (r : Rid) :
    s.setRoutine r (s.routines r) = s := by
  unfold State.setRoutine
  rw [Function.update_eq_self]

omit [DecidableEq Pid] in
/-- A resumed routine stores its state: its processor examines everything
    again afterwards. -/
theorem Inv.setState [DecidableEq Rid] (h : Inv s) {r : Rid}
    (hpc : (s.processors p).pc = .resume r) (cr : CRoutine) : Inv (s.setRoutine r cr) := by
  constructor
  · intro r' _ _
    apply Or.inl
    refine ⟨p, ?_⟩
    show Ahead s.rq (s.processors p) r'
    rw [← processor_eq hpc]
    trivial
  · exact h.stop
  · exact h.held

omit [DecidableEq Pid] in
/-- A processor that goes on with the routine it has acquired. -/
theorem held_goesOn {pc pc' : ProcessorPc Rid} {r : Rid} (hpc : (s.processors p).pc = pc)
    (hholds : ∀ r', pc.holds r' → r = r') (hholds' : pc'.holds r) {r' : Rid}
    (hr' : s.locked r' = true) :
    pc'.holds r' ∨ s.locked r' = true ∧ ¬ (s.processors p).pc.holds r' := by
  by_cases hr : r = r'
  · subst hr
    exact Or.inl hholds'
  · apply Or.inr
    rw [hpc]
    exact ⟨hr', fun hheld => hr (hholds r' hheld)⟩

/-- `UpdateState` has returned: the processor resumes the routine or
    dismisses it. A dismissed routine cannot run. -/
theorem Inv.updated (h : Inv s) [DecidableEq Rid] {i : Nat} {rest : List Rid} {r : Rid}
    {cr : CRoutine} {pc : ProcessorPc Rid} (hpc : (s.processors p).pc = pc)
    (hpc' : pc = .update i rest r ∨ pc = .becomeReady i rest r)
    (hcr : cr.state ≠ .ready → ¬ Runnable cr) :
    Inv ((s.setPc p (afterUpdate cr i rest r)).setRoutine r cr) := by
  have hholds : ∀ r', pc.holds r' → r = r' := by
    rcases hpc' with rfl | rfl
    · exact fun _ hr => hr
    · exact fun _ hr => hr
  have hholds' : (afterUpdate cr i rest r).holds r := by
    unfold afterUpdate
    split
    · rfl
    · rfl
  apply h.processorStep
  · intro r' hqueued hr'
    by_cases hready : cr.state = .ready
    · -- the processor scans everything again after it has run the routine
      apply Or.inl
      unfold afterUpdate
      rw [if_pos hready]
      trivial
    · have hne : r' ≠ r := by
        rintro rfl
        rw [Function.update_self] at hr'
        exact hcr hready hr'
      rw [Function.update_of_ne hne] at hr'
      by_cases hold : Ahead s.rq (s.processors p) r'
      · apply Or.inl
        unfold afterUpdate
        rw [if_neg hready]
        rw [← processor_eq hpc] at hold
        rcases hpc' with rfl | rfl
        · exact hold.imp id (fun hmem => hmem.resolve_left hne)
        · exact hold.imp id (fun hmem => hmem.resolve_left hne)
      · exact Or.inr (Or.inl ⟨hr', hold⟩)
  · intro _ hsleep
    -- after an update the processor is not in the wait
    exfalso
    revert hsleep
    unfold afterUpdate
    split
    · exact not_sleeping rfl (by simp) (by simp)
    · exact not_sleeping rfl (by simp) (by simp)
  · exact fun r' hr' => held_goesOn hpc hholds hholds' hr'

omit [DecidableEq Pid] in
/-- A routine that stays locked when `p` releases one is not held by `p`. -/
theorem still_locked [DecidableEq Rid] {pc : ProcessorPc Rid} {r : Rid}
    (hpc : (s.processors p).pc = pc) (hholds : ∀ r', pc.holds r' → r = r') {r' : Rid}
    (hr' : Function.update s.locked r false r' = true) :
    s.locked r' = true ∧ ¬ (s.processors p).pc.holds r' := by
  by_cases hr : r' = r
  · rw [hr, Function.update_self] at hr'
    cases hr'
  · rw [Function.update_of_ne hr] at hr'
    refine ⟨hr', ?_⟩
    rw [hpc]
    exact fun hheld => hr (hholds r' hheld).symm

/-- A processor skips a routine that is acquired. Unless that misses it, the
    holder will examine everything again or somebody else is ahead of it. -/
theorem Inv.acquireFail (h : Inv s) {i : Nat} {rest : List Rid} {r : Rid}
    (hpc : (s.processors p).pc = .scan i (r :: rest)) (hlocked : s.locked r = true)
    (hheard : ¬ MissesHeld s p r) : Inv (s.setPc p (.scan i rest)) := by
  apply h.processorStep
  · intro r' hqueued hrun
    by_cases hold : Ahead s.rq (s.processors p) r'
    · rw [← processor_eq hpc] at hold
      rcases hold with hexcused | hmem | hbelow
      · exact Or.inl (Or.inl hexcused)
      · rcases List.mem_cons.mp hmem with rfl | hrest
        · by_cases hexcused : (s.processors p).Excused
          · exact Or.inl (Or.inl hexcused)
          by_cases hother : ∃ q, q ≠ p ∧ Ahead s.rq (s.processors q) r'
          · exact Or.inr (Or.inr (Or.inl hother))
          by_cases hcall : ∃ c, s.callers c = .notify r'
          · exact Or.inr (Or.inr (Or.inr hcall))
          -- nobody else would look at the routine: the case the condition excludes
          exfalso
          apply hheard
          refine ⟨hqueued, hrun, ?_, fun q hq hahead => hother ⟨q, hq, hahead⟩, hexcused,
            fun c hc => hcall ⟨c, hc⟩⟩
          -- whoever holds the routine is past its `UpdateState`
          obtain ⟨q, hq⟩ := h.held r' hlocked
          refine ⟨q, ?_⟩
          have hqp : q ≠ p := by
            rintro rfl
            rw [hpc] at hq
            exact hq
          have hnot : ¬ Ahead s.rq (s.processors q) r' := fun ha => hother ⟨q, hqp, ha⟩
          unfold Ahead at hnot
          cases hqpc : (s.processors q).pc <;> rw [hqpc] at hq <;> simp only [hqpc] at hnot
          case update => exact absurd (Or.inr (Or.inl hq.symm)) hnot
          case becomeReady => exact absurd (Or.inr (Or.inl hq.symm)) hnot
          case notReady => exact hq
          case release => exact hq
          all_goals first | exact absurd trivial hnot | exact absurd hq id
        · exact Or.inl (Or.inr (Or.inl hrest))
      · exact Or.inl (Or.inr (Or.inr hbelow))
    · exact Or.inr (Or.inl ⟨hrun, hold⟩)
  · exact fun _ hsleep => absurd hsleep (not_sleeping rfl (by simp) (by simp))
  · intro r' hr'
    apply Or.inr
    rw [hpc]
    exact ⟨hr', id⟩

/-- A processor has acquired the routine it was at: it updates it next. -/
theorem Inv.acquire [DecidableEq Rid] (h : Inv s) {i : Nat} {rest : List Rid} {r : Rid}
    (hpc : (s.processors p).pc = .scan i (r :: rest)) :
    Inv ((s.setPc p (.update i rest r)).setLocked r true) := by
  apply h.processorStep
  · intro r' _ hrun
    by_cases hold : Ahead s.rq (s.processors p) r'
    · rw [← processor_eq hpc] at hold
      rcases hold with hold | hold | hold
      · exact Or.inl (Or.inl hold)
      · rcases List.mem_cons.mp hold with hmem | hmem
        · exact Or.inl (Or.inr (Or.inl hmem))
        · exact Or.inl (Or.inr (Or.inr (Or.inl hmem)))
      · exact Or.inl (Or.inr (Or.inr (Or.inr hold)))
    · exact Or.inr (Or.inl ⟨hrun, hold⟩)
  · exact fun _ hsleep => absurd hsleep (not_sleeping rfl (by simp) (by simp))
  · intro r' hr'
    by_cases hr : r' = r
    · exact Or.inl hr.symm
    · rw [Function.update_of_ne hr] at hr'
      apply Or.inr
      rw [hpc]
      exact ⟨hr', id⟩

/-- Past its wake time the routine is resumed, and then everything is
    examined again. -/
theorem Inv.wakeSleep [DecidableEq Rid] (h : Inv s) {i : Nat} {rest : List Rid} {r : Rid}
    (hpc : (s.processors p).pc = .update i rest r) (cr : CRoutine) :
    Inv ((s.setPc p (.resume r)).setRoutine r cr) := by
  apply h.processorStep
  · exact fun _ _ _ => Or.inl trivial
  · exact fun _ hsleep => absurd hsleep (not_sleeping rfl (by simp) (by simp))
  · intro r' hr'
    apply held_goesOn hpc (fun _ hr => hr)
    · rfl
    · exact hr'

/-- The flag is taken down by a processor that has still to see whether the
    routine waits. -/
theorem Inv.raised [DecidableEq Rid] (h : Inv s) {i : Nat} {rest : List Rid} {r : Rid}
    (hpc : (s.processors p).pc = .update i rest r) (cr : CRoutine) :
    Inv ((s.setPc p (.becomeReady i rest r)).setRoutine r cr) := by
  apply h.processorStep
  · intro r' _ hrun
    by_cases hr : r' = r
    · exact Or.inl (Or.inr (Or.inl hr))
    · rw [Function.update_of_ne hr] at hrun
      by_cases hold : Ahead s.rq (s.processors p) r'
      · rw [← processor_eq hpc] at hold
        exact Or.inl hold
      · exact Or.inr (Or.inl ⟨hrun, hold⟩)
  · exact fun _ hsleep => absurd hsleep (not_sleeping rfl (by simp) (by simp))
  · intro r' hr'
    apply held_goesOn hpc (fun _ hr => hr)
    · rfl
    · exact hr'

/-- The flag was down and `UpdateState` leaves the routine as it is. -/
theorem Inv.notRaised [DecidableEq Rid] (h : Inv s) {i : Nat} {rest : List Rid} {r : Rid}
    (hpc : (s.processors p).pc = .update i rest r) (hraised : ¬ (s.routines r).Raised) :
    Inv (s.setPc p (afterUpdate (s.routines r) i rest r)) := by
  have hstep : Inv ((s.setPc p (afterUpdate (s.routines r) i rest r)).setRoutine r
      (s.routines r)) := by
    apply h.updated hpc (Or.inl rfl)
    intro hready hrun
    rcases hrun with hrun | hrun
    · exact hready hrun
    · exact hraised hrun.2
  have hsame := setRoutine_self (s.setPc p (afterUpdate (s.routines r) i rest r)) r
  exact hsame ▸ hstep

theorem Inv.checkSleep (h : Inv s) {i : Nat} {rest : List Rid} {r : Rid}
    (hpc : (s.processors p).pc = .notReady i rest r) (needSleep : Bool) :
    Inv (s.setProcessor p { s.processors p with
      pc := .release i rest r, needSleep := (s.processors p).needSleep || needSleep }) := by
  apply h.setProcessor
  · intro r' _ hr'
    rw [← processor_eq hpc] at hr'
    rcases hr' with (hsleep | hstop) | hr'
    · apply Or.inl
      apply Or.inl
      show ((s.processors p).needSleep || needSleep) = true
      rw [hsleep]
      rfl
    · exact Or.inl (Or.inr hstop)
    · exact Or.inr hr'
  · exact fun _ hsleep => absurd hsleep (not_sleeping rfl (by simp) (by simp))
  · intro r' hr'
    rw [hpc] at hr'
    exact hr'

/-- A routine that is dismissed is released. -/
theorem Inv.release [DecidableEq Rid] (h : Inv s) {i : Nat} {rest : List Rid} {r : Rid}
    (hpc : (s.processors p).pc = .release i rest r) :
    Inv ((s.setPc p (.scan i rest)).setLocked r false) := by
  apply h.processorStep
  · intro r' _ hrun
    by_cases hold : Ahead s.rq (s.processors p) r'
    · rw [← processor_eq hpc] at hold
      exact Or.inl hold
    · exact Or.inr (Or.inl ⟨hrun, hold⟩)
  · exact fun _ hsleep => absurd hsleep (not_sleeping rfl (by simp) (by simp))
  · exact fun r' hr' => Or.inr (still_locked hpc (fun _ hr => hr) hr')

/-- `Wait` of a context that was not shut down when it looked. -/
theorem Inv.wait (h : Inv s) (hpc : (s.processors p).pc = .wait)
    (hstop : ¬ (s.processors p).stop = true) : Inv (s.setPc p .block) := by
  apply h.setProcessor
  · intro r _ hr
    rw [← processor_eq hpc] at hr
    exact Or.resolve_right hr hstop
  · intro hs
    exact absurd hs hstop
  · intro r hr
    rw [hpc] at hr
    exact hr

/-- The untimed wait: the processor is ahead of no routine. -/
theorem Inv.block (h : Inv s) (hpc : (s.processors p).pc = .block)
    (huntimed : ¬ (s.processors p).needSleep = true) : Inv (s.setPc p .blocked) := by
  apply h.setProcessor
  · intro r _ hr
    rw [← processor_eq hpc] at hr
    exact absurd hr huntimed
  · intro hstop _
    exact ⟨hstop, Or.inr ⟨hpc, Bool.eq_false_iff.mpr huntimed⟩⟩
  · intro r hr
    rw [hpc] at hr
    exact hr

/-- The loop flag of a processor plays no part. -/
theorem Inv.setRunning (h : Inv s) (running : Bool) :
    Inv (s.setProcessor p { s.processors p with running := running }) := by
  apply h.setProcessor
  · exact fun _ _ hr => hr.mono (fun _ => List.Subset.refl _) rfl rfl id
  · exact fun hstop hsleep => ⟨hstop, hsleep⟩
  · exact fun _ hr => hr

end processors

/-! ## Section 6: The steps of the callers -/

section callers
variable [DecidableEq Cid] {s : State Pid Cid Rid} {c : Cid} {pc : CallerPc Pid Rid}

/-- A call's step before its notification. A routine that can run now is
    notified for next, or could run before. -/
theorem Inv.callerStep (h : Inv s) {idCr : Rid → Bool} {rq : Nat → List Rid}
    {routines : Rid → CRoutine} (hnotify : ∀ r, s.callers c ≠ .notify r)
    (hnotifyAll : ∀ p, s.callers c ≠ .notifyAll p) (hrq : ∀ i, s.rq i ⊆ rq i)
    (hrun : ∀ r, Below rq maxPrio r → Runnable (routines r) →
      pc = .notify r ∨ Below s.rq maxPrio r ∧ Runnable (s.routines r)) :
    Inv { s.setCaller c pc with idCr := idCr, rq := rq, routines := routines } := by
  constructor
  · intro r hqueued hr
    show (∃ p, Ahead rq (s.processors p) r) ∨ ∃ c', Function.update s.callers c pc c' = .notify r
    rcases hrun r hqueued hr with hpc | ⟨hold, hr'⟩
    · apply Or.inr
      refine ⟨c, ?_⟩
      rw [Function.update_self, hpc]
    · rcases h.hope r hold hr' with ⟨p, hp⟩ | ⟨c', hc'⟩
      · exact Or.inl ⟨p, hp.mono hrq rfl rfl id⟩
      · exact Or.inr ⟨c', update_stays hc' rfl (hnotify r)⟩
  · intro p hstop hsleep
    obtain ⟨c', hc'⟩ := h.stop p hstop hsleep
    exact ⟨c', update_stays hc' rfl (hnotifyAll p)⟩
  · exact h.held

/-- A call's step before its notification that touches at most the registry. -/
theorem Inv.setCaller (h : Inv s) {pc₀ : CallerPc Pid Rid} (hpc : s.callers c = pc₀)
    (hnotify : ∀ r, pc₀ ≠ .notify r) (hnotifyAll : ∀ p, pc₀ ≠ .notifyAll p)
    (idCr : Rid → Bool) : Inv { s.setCaller c pc with idCr := idCr } := by
  apply h.callerStep
  · rw [hpc]
    exact hnotify
  · rw [hpc]
    exact hnotifyAll
  · exact fun _ => List.Subset.refl _
  · exact fun _ hqueued hr => Or.inr ⟨hqueued, hr⟩

/-- The routine is queued; its notification is still to come. -/
theorem Inv.insert (h : Inv s) {r : Rid} {prio : Nat} {i : Nat}
    (hpc : s.callers c = .insert r prio) :
    Inv { s.setCaller c (.notify r) with rq := Function.update s.rq i (s.rq i ++ [r]) } := by
  have hmem : ∀ j r', r' ∈ Function.update s.rq i (s.rq i ++ [r]) j → r' = r ∨ r' ∈ s.rq j := by
    intro j r' hr'
    by_cases hj : j = i
    · rw [hj, Function.update_self] at hr'
      rw [hj]
      rcases List.mem_append.mp hr' with hold | hnew
      · exact Or.inr hold
      · exact Or.inl (List.mem_singleton.mp hnew)
    · rw [Function.update_of_ne hj] at hr'
      exact Or.inr hr'
  apply h.callerStep
  · intro r' hc
    rw [hpc] at hc
    cases hc
  · intro p hc
    rw [hpc] at hc
    cases hc
  · intro j r' hr'
    by_cases hj : j = i
    · rw [hj] at hr' ⊢
      rw [Function.update_self]
      exact List.mem_append_left _ hr'
    · rw [Function.update_of_ne hj]
      exact hr'
  · rintro r' ⟨j, hj, hr'⟩ hrun
    rcases hmem j r' hr' with rfl | hold
    · exact Or.inl rfl
    · exact Or.inr ⟨⟨j, hj, hold⟩, hrun⟩

/-- The flag is raised; the notification is still to come. -/
theorem Inv.setUpdateFlag [DecidableEq Rid] (h : Inv s) {r : Rid}
    (hpc : s.callers c = .setUpdateFlag r) :
    Inv ((s.setCaller c (.notify r)).setRoutine r (s.routines r).setUpdateFlag) := by
  apply h.callerStep
  · intro r' hc
    rw [hpc] at hc
    cases hc
  · intro p hc
    rw [hpc] at hc
    cases hc
  · exact fun _ => List.Subset.refl _
  · intro r' hqueued hrun
    by_cases hr : r' = r
    · exact Or.inl (by rw [hr])
    · rw [Function.update_of_ne hr] at hrun
      exact Or.inr ⟨hqueued, hrun⟩

/-- `notify_one`: the processor it wakes examines everything again. If it
    wakes none, somebody is ahead of the routine. -/
theorem Inv.notifyOne (h : Inv s) {r : Rid} (hpc : s.callers c = .notify r)
    (hheard : ¬ MissesNotify s c r) (hnone : ∀ p, (s.processors p).pc.waiting = false) :
    Inv (s.setCaller c .idle) := by
  constructor
  · intro r' hqueued hr
    show (∃ p, Ahead s.rq (s.processors p) r') ∨
      ∃ c', Function.update s.callers c .idle c' = .notify r'
    by_cases hahead : ∃ p, Ahead s.rq (s.processors p) r'
    · exact Or.inl hahead
    by_cases hcall : ∃ c', c' ≠ c ∧ s.callers c' = .notify r'
    · obtain ⟨c', hne, hc'⟩ := hcall
      exact Or.inr ⟨c', by rw [Function.update_of_ne hne, hc']⟩
    exfalso
    rcases h.hope r' hqueued hr with hp | ⟨c', hc'⟩
    · exact hahead hp
    · have hc : c' = c := Classical.byContradiction fun hne => hcall ⟨c', hne, hc'⟩
      rw [hc, hpc] at hc'
      cases hc'
      apply hheard
      exact ⟨hqueued, hr, hnone, fun p hp => hahead ⟨p, hp⟩,
        fun c' hc' => Classical.byContradiction fun hne => hcall ⟨c', hne, hc'⟩⟩
  · intro p hstop hsleep
    obtain ⟨c', hc'⟩ := h.stop p hstop hsleep
    exact ⟨c', update_stays hc' hpc nofun⟩
  · exact h.held

/-- `notify_all`: no stopped processor is left asleep. -/
theorem Inv.notifyAll (h : Inv s) {p : Pid} (hpc : s.callers c = .notifyAll p)
    (hheard : ¬ MissesStop s c p) :
    Inv { s.setCaller c .idle with processors := fun q => (s.processors q).woken } := by
  constructor
  · intro r hqueued hr
    show (∃ q, Ahead s.rq (s.processors q).woken r) ∨
      ∃ c', Function.update s.callers c .idle c' = .notify r
    rcases h.hope r hqueued hr with ⟨q, hq⟩ | ⟨c', hc'⟩
    · apply Or.inl
      refine ⟨q, ?_⟩
      -- a processor in the wait is woken and starts over
      cases hwait : (s.processors q).pc.waiting
      · rw [woken_eq hwait]
        exact hq
      · exact ahead_woken hwait
    · exact Or.inr ⟨c', update_stays hc' hpc nofun⟩
  · intro q
    show (s.processors q).woken.stop = true → (s.processors q).woken.Sleeping →
      ∃ c', Function.update s.callers c .idle c' = .notifyAll q
    intro hstop hsleep
    cases hwait : (s.processors q).pc.waiting
    · rw [woken_eq hwait] at hstop hsleep
      by_cases hcall : ∃ c', c' ≠ c ∧ s.callers c' = .notifyAll q
      · obtain ⟨c', hne, hc'⟩ := hcall
        exact ⟨c', by rw [Function.update_of_ne hne, hc']⟩
      · -- the call was the last to notify `q`, so `q` was not about to block
        exfalso
        have hlast : ∀ c', s.callers c' = .notifyAll q → c' = c :=
          fun c' hc' => Classical.byContradiction fun hne => hcall ⟨c', hne, hc'⟩
        obtain ⟨c', hc'⟩ := h.stop q hstop hsleep
        rw [hlast c' hc', hpc] at hc'
        cases hc'
        rcases hsleep with hblocked | ⟨hblock, huntimed⟩
        · rw [hblocked] at hwait
          cases hwait
        · exact hheard ⟨hblock, huntimed, hlast⟩
    · exact absurd hsleep (not_sleeping (woken_pc hwait) (by simp) (by simp))
  · intro r hr
    obtain ⟨q, hq⟩ := h.held r hr
    refine ⟨q, ?_⟩
    show (s.processors q).woken.pc.holds r
    cases hwait : (s.processors q).pc.waiting
    · rw [woken_eq hwait]
      exact hq
    · exact absurd hq (not_holds_of_waiting hwait)

variable [DecidableEq Pid]

/-- Waking one waiting processor: there is hope for every routine. -/
theorem Inv.wakeOne (h : Inv s) {r : Rid} {p : Pid} (hpc : s.callers c = .notify r)
    (hwait : (s.processors p).pc.waiting = true) :
    Inv ((s.setCaller c .idle).setProcessor p (s.processors p).woken) := by
  have hself : Function.update s.processors p (s.processors p).woken p =
      (s.processors p).woken := Function.update_self _ _ _
  constructor
  · intro r' _ _
    apply Or.inl
    refine ⟨p, ?_⟩
    show Ahead s.rq (Function.update s.processors p (s.processors p).woken p) r'
    rw [hself]
    exact ahead_woken hwait
  · intro q
    show (Function.update s.processors p _ q).stop = true →
      (Function.update s.processors p _ q).Sleeping →
      ∃ c', Function.update s.callers c .idle c' = .notifyAll q
    by_cases hq : q = p
    · rw [hq, hself]
      intro _ hsleep
      exact absurd hsleep (not_sleeping (woken_pc hwait) (by simp) (by simp))
    · rw [Function.update_of_ne hq]
      intro hstop hsleep
      obtain ⟨c', hc'⟩ := h.stop q hstop hsleep
      exact ⟨c', update_stays hc' hpc nofun⟩
  · intro r' hr'
    obtain ⟨q, hq⟩ := h.held r' hr'
    refine ⟨q, ?_⟩
    show (Function.update s.processors p _ q).pc.holds r'
    have hqp : q ≠ p := by
      rintro rfl
      exact not_holds_of_waiting hwait hq
    rw [Function.update_of_ne hqp]
    exact hq

/-- The stop flag is set; its notification is still to come. -/
theorem Inv.exchange (h : Inv s) {p : Pid} (hpc : s.callers c = .exchange p) :
    Inv ((s.setCaller c (.notifyAll p)).setProcessor p
      { s.processors p with stop := true }) := by
  constructor
  · intro r hqueued hr
    show (∃ q, Ahead s.rq (Function.update s.processors p _ q) r) ∨
      ∃ c', Function.update s.callers c (.notifyAll p) c' = .notify r
    rcases h.hope r hqueued hr with ⟨q, hq⟩ | ⟨c', hc'⟩
    · apply Or.inl
      refine ⟨q, ?_⟩
      by_cases hqp : q = p
      · subst hqp
        rw [Function.update_self]
        exact hq.mono (fun _ => List.Subset.refl _) rfl rfl (fun _ => rfl)
      · rw [Function.update_of_ne hqp]
        exact hq
    · exact Or.inr ⟨c', update_stays hc' hpc nofun⟩
  · intro q
    show (Function.update s.processors p _ q).stop = true →
      (Function.update s.processors p _ q).Sleeping →
      ∃ c', Function.update s.callers c (.notifyAll p) c' = .notifyAll q
    by_cases hqp : q = p
    · intro _ _
      refine ⟨c, ?_⟩
      rw [Function.update_self, hqp]
    · rw [Function.update_of_ne hqp]
      intro hstop hsleep
      obtain ⟨c', hc'⟩ := h.stop q hstop hsleep
      exact ⟨c', update_stays hc' hpc nofun⟩
  · intro r hr
    obtain ⟨q, hq⟩ := h.held r hr
    refine ⟨q, ?_⟩
    show (Function.update s.processors p _ q).pc.holds r
    by_cases hqp : q = p
    · subst hqp
      rw [Function.update_self]
      exact hq
    · rw [Function.update_of_ne hqp]
      exact hq

end callers

/-! ## Section 7: The step lemma -/

section step
variable [DecidableEq Pid] [DecidableEq Cid] [DecidableEq Rid] {s : State Pid Cid Rid}

/-- **Step lemma**: every step in which no notification is missed keeps the
    invariant. -/
theorem Inv.step (h : Inv s) (a : Label Pid Cid Rid) (hg : (classicGroup.action a).gate s)
    (hheard : Heard s a) : Inv ((classicGroup.action a).effect s) := by
  cases a with
  | run p =>
    dsimp only [classicGroup]
    split
    · exact h.setPc hg (by simp) (by simp) (fun _ _ _ => trivial) (fun _ hr => hr)
    · exact h.setPc hg (by simp) (by simp) (fun _ _ _ => trivial) (fun _ hr => hr)
  | nextRoutine p =>
    dsimp only [classicGroup]
    split
    · rename_i hstop
      exact h.setPc hg (by simp) (by simp) (fun _ _ _ => Or.inr hstop) (fun _ hr => hr)
    · -- nothing is examined yet: what is queued is ahead
      exact h.setPc hg (by simp) (by simp) (fun _ hq _ => Or.inr hq) (fun _ hr => hr)
  | lockQueue p k =>
    apply h.setPc hg (by simp) (by simp)
    · intro r _ hr
      exact Or.imp id below_succ.mp hr
    · exact fun _ hr => hr
  | unlockQueue p i =>
    apply h.setPc hg (by simp) (by simp)
    · -- the rest of the queue is empty
      rintro r _ (hr | hr | hr)
      · exact Or.inl hr
      · cases hr
      · exact Or.inr hr
    · exact fun _ hr => hr
  | scanned p =>
    apply h.setPc hg (by simp) (by simp)
    · rintro r _ (hr | hr)
      · exact hr
      · exact absurd hr not_below_zero
    · exact fun _ hr => hr
  | acquire p i rest r => exact h.acquire hg.1
  | acquireFail p i rest r => exact h.acquireFail hg.1 hg.2 hheard
  | wakeSleep p i rest r => exact h.wakeSleep hg.1 _
  | testAndSet p i rest r =>
    dsimp only [classicGroup]
    split
    · exact h.raised hg _
    · next hraised => exact h.notRaised hg hraised
  | becomeReady p i rest r =>
    apply h.updated hg (Or.inr rfl)
    intro hready hrun
    rcases hrun with hrun | hrun
    · exact hready hrun
    · rw [CRoutine.becomeReady_not_waits] at hrun
      cases hrun.1
  | checkSleep p i rest r => exact h.checkSleep hg _
  | release p i rest r => exact h.release hg
  | setState p r state => exact h.setState hg _
  | swapOut p r =>
    exact h.setPc hg (by simp) (by simp) (fun _ _ _ => trivial) (fun _ hr => hr)
  | releaseResumed p r =>
    apply h.processorStep
    · exact fun _ _ _ => Or.inl trivial
    · exact fun _ hsleep => absurd hsleep (not_sleeping rfl (by simp) (by simp))
    · exact fun r' hr' => Or.inr (still_locked hg (fun _ hr => hr) hr')
  | wait p =>
    dsimp only [classicGroup]
    split
    · exact h.setPc hg (by simp) (by simp) (fun _ _ _ => trivial) (fun _ hr => hr)
    · next hstop => exact h.wait hg hstop
  | block p =>
    dsimp only [classicGroup]
    split
    · exact h.setPc hg (by simp) (by simp) (fun _ _ _ => trivial) (fun _ hr => hr)
    · next huntimed => exact h.block hg huntimed
  | wake p =>
    apply h.setProcessor
    · exact fun _ _ _ => ahead_woken hg
    · exact fun _ hsleep => absurd hsleep (not_sleeping (woken_pc hg) (by simp) (by simp))
    · exact fun _ hr => absurd hr (not_holds_of_waiting hg)
  | dispatchTask c r prio => exact h.setCaller hg (by simp) (by simp) s.idCr
  | register c r prio =>
    dsimp only [classicGroup]
    split
    · exact h.setCaller hg (by simp) (by simp) s.idCr
    · exact h.setCaller hg (by simp) (by simp) _
  | insert c r prio => exact h.insert hg.1
  | notifyProcessor c r =>
    dsimp only [classicGroup]
    split
    · exact h
    · exact h.setCaller hg (by simp) (by simp) s.idCr
  | find c r =>
    dsimp only [classicGroup]
    split
    · exact h.setCaller hg (by simp) (by simp) s.idCr
    · exact h.setCaller hg (by simp) (by simp) s.idCr
  | checkDataWait c r =>
    dsimp only [classicGroup]
    split
    · exact h.setCaller hg (by simp) (by simp) s.idCr
    · exact h.setCaller hg (by simp) (by simp) s.idCr
  | checkIoWait c r =>
    dsimp only [classicGroup]
    split
    · exact h.setCaller hg (by simp) (by simp) s.idCr
    · exact h.setCaller hg (by simp) (by simp) s.idCr
  | setUpdateFlag c r => exact h.setUpdateFlag hg
  | notifyOne c r p =>
    obtain ⟨hpc, hwait⟩ := hg
    cases p with
    | none => exact h.notifyOne hpc hheard hwait
    | some p => exact h.wakeOne hpc hwait
  | schedulerStop =>
    constructor
    · exact h.hope
    · exact h.stop
    · exact h.held
  | stop c p => exact (h.setRunning false).setCaller hg (by simp) (by simp) s.idCr
  | shutdown c p => exact h.setCaller hg (by simp) (by simp) s.idCr
  | exchange c p => exact h.exchange hg
  | notifyAll c p => exact h.notifyAll hg hheard

end step

/-! ## Section 8: Runs -/

section runs
variable [DecidableEq Pid] [DecidableEq Cid] [DecidableEq Rid] {s : State Pid Cid Rid}

theorem inv_init (h : (classicGroup : System (State Pid Cid Rid) (Label Pid Cid Rid)).init s) :
    Inv s := by
  obtain ⟨_, _, hrq, _, hlocked, hprocessors, _⟩ := h
  constructor
  · rintro r ⟨i, _, hr⟩
    rw [hrq] at hr
    cases hr
  · intro p hstop
    rw [hprocessors] at hstop
    cases hstop
  · intro r hr
    rw [hlocked] at hr
    cases hr

/-- **Run lemma**: the invariant holds along every run in which no
    notification is missed. -/
theorem inv_reachable
    (h : ((classicGroup : System (State Pid Cid Rid) (Label Pid Cid Rid)).restrict
      Heard).Reachable s) : Inv s := by
  apply System.invariant _ _ h
  · intro s hi
    exact inv_init hi
  · intro s a hinv hg
    exact hinv.step a hg.1 hg.2

/-- **No lost wake-up**: in a run in which no notification is missed, the
    processors never all block while a routine can run or a context is
    stopped. -/
theorem classicGroup_not_lostWakeUp (s : State Pid Cid Rid)
    (h : ((classicGroup : System (State Pid Cid Rid) (Label Pid Cid Rid)).restrict
      Heard).Reachable s) : ¬ LostWakeUp s :=
  (inv_reachable h).not_lostWakeUp

end runs

/-! ## Section 9: Two runs of one processor -/

section decidable

instance (cr : CRoutine) : Decidable (Runnable cr) := inferInstanceAs (Decidable (_ ∨ _ ∧ _))

instance (x : Processor Rid) : Decidable x.Excused := inferInstanceAs (Decidable (_ ∨ _))

instance [DecidableEq Rid] (rq : Nat → List Rid) (k : Nat) (r : Rid) : Decidable (Below rq k r) :=
  inferInstanceAs (Decidable (∃ i, i < k ∧ r ∈ rq i))

instance [DecidableEq Rid] (rq : Nat → List Rid) (x : Processor Rid) (r : Rid) :
    Decidable (Ahead rq x r) := by
  unfold Ahead
  split <;> infer_instance

instance [DecidableEq Rid] (r : Rid) : ∀ pc : ProcessorPc Rid, Decidable (pc.dismisses r)
  | .notReady _ _ r' | .release _ _ r' => inferInstanceAs (Decidable (r' = r))
  | .run | .nextRoutine | .scanFrom _ | .scan _ _ | .update _ _ _ | .becomeReady _ _ _
  | .resume _ | .resumed _ | .wait | .block | .blocked | .timedBlocked | .exited => .isFalse id

variable {s : State Unit Unit Unit}

instance (c r : Unit) : Decidable (MissesNotify s c r) :=
  decidable_of_iff
    (Below s.rq maxPrio r ∧ Runnable (s.routines r) ∧
      (∀ p, (s.processors p).pc.waiting = false) ∧ (∀ p, ¬ Ahead s.rq (s.processors p) r) ∧
      ∀ c', s.callers c' = .notify r → c' = c)
    ⟨fun ⟨h₁, h₂, h₃, h₄, h₅⟩ => ⟨h₁, h₂, h₃, h₄, h₅⟩,
      fun h => ⟨h.queued, h.runnable, h.nobodyWaits, h.nobodyAhead, h.last⟩⟩

instance (p r : Unit) : Decidable (MissesHeld s p r) :=
  decidable_of_iff
    (Below s.rq maxPrio r ∧ Runnable (s.routines r) ∧
      (∃ q, (s.processors q).pc.dismisses r) ∧
      (∀ q, q ≠ p → ¬ Ahead s.rq (s.processors q) r) ∧ ¬ (s.processors p).Excused ∧
      ∀ c, s.callers c ≠ .notify r)
    ⟨fun ⟨h₁, h₂, h₃, h₄, h₅, h₆⟩ => ⟨h₁, h₂, h₃, h₄, h₅, h₆⟩,
      fun h => ⟨h.queued, h.runnable, h.held, h.nobodyAhead, h.notExcused, h.noCall⟩⟩

instance (c p : Unit) : Decidable (MissesStop s c p) :=
  decidable_of_iff
    ((s.processors p).pc = .block ∧ (s.processors p).needSleep = false ∧
      ∀ c', s.callers c' = .notifyAll p → c' = c)
    ⟨fun ⟨h₁, h₂, h₃⟩ => ⟨h₁, h₂, h₃⟩, fun h => ⟨h.blocking, h.untimed, h.last⟩⟩

instance decidableHeard (s : State Unit Unit Unit) (a : Label Unit Unit Unit) :
    Decidable (Heard s a) := by
  cases a <;> unfold Heard <;> infer_instance

instance decidableGate (a : Label Unit Unit Unit) (s : State Unit Unit Unit) :
    Decidable ((classicGroup.action a).gate s) := by
  cases a with
  | notifyOne c r p => cases p <;> (dsimp only [classicGroup]; infer_instance)
  | _ => dsimp only [classicGroup]; infer_instance

end decidable

/-- One processor and one caller, nothing dispatched. -/
def initial : State Unit Unit Unit where
  stop       := false
  idCr       := fun _ => false
  rq         := fun _ => []
  routines   := fun _ => .new
  locked     := fun _ => false
  processors := fun _ => ⟨.run, true, false, false⟩
  callers    := fun _ => .idle

theorem initial_init : classicGroup.init initial :=
  ⟨rfl, fun _ => rfl, fun _ => rfl, fun _ => rfl, fun _ => rfl, fun _ => rfl, fun _ => rfl⟩

/-- A scan of empty queues, up to `Wait`'s stop check. -/
def fruitlessScan : List (Label Unit Unit Unit) :=
  [.run (), .nextRoutine ()] ++
  (List.range maxPrio).reverse.flatMap (fun k => [.lockQueue () k, .unlockQueue () k]) ++
  [.scanned (), .wait ()]

/-- The processor blocks, and then a routine is dispatched. -/
def dispatchBlocked : List (Label Unit Unit Unit) :=
  fruitlessScan ++ [.block (), .dispatchTask () () 0, .register () () 0, .insert () () 0,
    .notifyOne () () (some ())]

/-- A routine is dispatched before the processor blocks. -/
def dispatchBlocking : List (Label Unit Unit Unit) :=
  fruitlessScan ++ [.dispatchTask () () 0, .register () () 0, .insert () () 0,
    .notifyOne () () none, .block ()]

theorem classicGroup_dispatchBlocked :
    (((classicGroup.restrict Heard).exec initial dispatchBlocked).processors ()).pc = .run ∧
      ¬ LostWakeUp ((classicGroup.restrict Heard).exec initial dispatchBlocked) :=
  ⟨by decide +kernel, classicGroup_not_lostWakeUp _
    (System.reachable_exec (classicGroup.restrict Heard) initial_init dispatchBlocked
      (by decide +kernel))⟩

/-- The only processor blocks although the dispatched routine is `READY`. -/
theorem classicGroup_dispatchBlocking :
    ¬ ∀ s : State Unit Unit Unit, classicGroup.Reachable s → ¬ LostWakeUp s := by
  intro h
  apply h (classicGroup.exec initial dispatchBlocking)
  · exact System.reachable_exec _ initial_init dispatchBlocking (by decide +kernel)
  · constructor
    · decide +kernel
    · decide +kernel
    · exact Or.inl ⟨(), by decide +kernel⟩

end CyberRT.Scheduler
