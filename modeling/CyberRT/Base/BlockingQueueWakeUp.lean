import CyberRT.Base.BlockingQueue
import CyberRT.Framework.Tally

/-! # Whether waiting calls are woken up

    `EmptyWait` waits without looking at the queue or at the flag again, so
    a notification between the failed attempt and the wait is lost. It also
    goes to any waiter, of either kind, and `Dequeue` sends none.

    What a blocked `WaitDequeue` needs is that every committed element is
    left to a notification that is still to come or to a `WaitDequeue` that
    is awake. What a blocked `WaitEnqueue` needs is the same of every free
    place. -/

namespace CyberRT.Base.BlockingQueue

open CyberRT.Framework CyberRT.Base

/-! ## Section 1: Counts -/

section counts
variable {Tid T : Type}

/-- The call is neither blocked nor in an attempt. -/
def WaitPc.awake : WaitPc → Bool
  | .testFlag | .lock | .wait | .relock | .unlock => true
  | _ => false

/-- The thread has committed an element and is about to notify. -/
def Notifying (x : Waiter T × BoundedQueue.Local T) : Prop := x.2.pc = .enqNotify

/-- The attempt of a `WaitDequeue` has taken no element yet. -/
def takes (l : BoundedQueue.Local T) : Bool :=
  match l.pc with
  | .deqLoadHead | .deqLoadCommit | .deqRead | .deqCasHead => true
  | .idle => l.ret ≠ some true
  | _ => false

/-- The attempt of a `WaitEnqueue` has reserved no place yet. -/
def puts (l : BoundedQueue.Local T) : Bool :=
  match l.pc with
  | .enqLoadTail | .enqLoadHead | .enqCasTail => true
  | .idle => l.ret ≠ some true
  | _ => false

/-- A `WaitDequeue` that is not blocked and still looks for an element. -/
def Taking (x : Waiter T × BoundedQueue.Local T) : Prop :=
  x.1.attempt.isDequeue = true ∧
    (x.1.pc.awake = true ∨ (x.1.pc = .attempt ∧ takes x.2 = true))

/-- A `WaitEnqueue` that is not blocked and still looks for a place. -/
def Putting (x : Waiter T × BoundedQueue.Local T) : Prop :=
  x.1.attempt.isEnqueue = true ∧
    (x.1.pc.awake = true ∨ (x.1.pc = .attempt ∧ puts x.2 = true))

instance : DecidablePred (Notifying (T := T)) :=
  fun _ => inferInstanceAs (Decidable (_ = _))

instance : DecidablePred (Taking (T := T)) :=
  fun _ => inferInstanceAs (Decidable (_ ∧ _))

instance : DecidablePred (Putting (T := T)) :=
  fun _ => inferInstanceAs (Decidable (_ ∧ _))

/-- Each thread in its waiting call and in the queue. -/
def State.threads (s : State Tid T) (t : Tid) : Waiter T × BoundedQueue.Local T :=
  (s.waiters t, s.queue.loc t)

/-- The number of committed elements in the queue. -/
def State.elements (s : State Tid T) : Nat := s.queue.commit - s.queue.head - 1

/-- The number of places that are not reserved. -/
def State.places (size : Nat) (s : State Tid T) : Nat := s.queue.head + size + 1 - s.queue.tail

variable [Fintype Tid]

def State.notifying (s : State Tid T) : Nat := tally Notifying s.threads

def State.taking (s : State Tid T) : Nat := tally Taking s.threads

def State.putting (s : State Tid T) : Nat := tally Putting s.threads

end counts

/-! ## Section 2: The condition -/

section condition
variable {Tid T : Type}

/-- Some `WaitDequeue` is blocked. -/
def State.dequeueBlocked (s : State Tid T) : Prop :=
  ∃ t, (s.waiters t).pc = .blocked ∧ (s.waiters t).attempt.isDequeue = true

/-- Some `WaitEnqueue` is blocked. -/
def State.enqueueBlocked (s : State Tid T) : Prop :=
  ∃ t, (s.waiters t).pc = .blocked ∧ (s.waiters t).attempt.isEnqueue = true

variable [Fintype Tid]

/-- The condition: when a call blocks, when a notification goes to a waiter
    of the other kind, and when a `Dequeue` frees a place, somebody is left
    for each element and each place that a blocked call waits for. With the
    flag set a call blocks only if a `BreakAllWait` has yet to notify. -/
def LeavesNone (size : Nat) (s : State Tid T) : Label Tid T → Prop
  | .wait t =>
    if s.breakAllWait then
      ∃ u, (s.waiters u).pc = .notifyAll
    else
      ((s.waiters t).attempt.isDequeue = true → s.elements < s.notifying + s.taking) ∧
      ((s.waiters t).attempt.isEnqueue = true → s.places size < s.notifying + s.putting)
  | .notifyOne _ (some w) =>
    s.breakAllWait = false →
      ((s.waiters w).attempt.isEnqueue = true → s.dequeueBlocked →
        s.elements < s.notifying + s.taking) ∧
      ((s.waiters w).attempt.isDequeue = true → s.enqueueBlocked →
        s.places size < s.notifying + s.putting)
  | .queue (.deqCasHead _) =>
    s.breakAllWait = false → s.enqueueBlocked → s.places size < s.notifying + s.putting
  | _ => True

instance [DecidableEq Tid] (s : State Tid T) : Decidable s.dequeueBlocked :=
  inferInstanceAs (Decidable (∃ _, _))

instance [DecidableEq Tid] (s : State Tid T) : Decidable s.enqueueBlocked :=
  inferInstanceAs (Decidable (∃ _, _))

instance decidableLeavesNone [DecidableEq Tid] (size : Nat) (s : State Tid T) :
    ∀ a : Label Tid T, Decidable (LeavesNone size s a)
  | .wait t =>
    inferInstanceAs (Decidable (if s.breakAllWait then ∃ u, (s.waiters u).pc = .notifyAll else
      ((s.waiters t).attempt.isDequeue = true → s.elements < s.notifying + s.taking) ∧
      ((s.waiters t).attempt.isEnqueue = true → s.places size < s.notifying + s.putting)))
  | .notifyOne _ (some w) =>
    inferInstanceAs (Decidable (s.breakAllWait = false →
      ((s.waiters w).attempt.isEnqueue = true → s.dequeueBlocked →
        s.elements < s.notifying + s.taking) ∧
      ((s.waiters w).attempt.isDequeue = true → s.enqueueBlocked →
        s.places size < s.notifying + s.putting)))
  | .queue (.deqCasHead _) =>
    inferInstanceAs (Decidable (s.breakAllWait = false → s.enqueueBlocked →
      s.places size < s.notifying + s.putting))
  | .queue (.callEnqueue _ _) | .queue (.callDequeue _ _) | .queue (.enqLoadTail _)
  | .queue (.enqLoadHead _) | .queue (.enqCasTail _) | .queue (.enqCasTailFail _)
  | .queue (.enqWrite _) | .queue (.enqCasCommit _) | .queue (.enqCasCommitFail _)
  | .queue (.enqNotify _) | .queue (.deqLoadHead _) | .queue (.deqLoadCommit _)
  | .queue (.deqRead _) | .queue (.deqCasHeadFail _) | .notifyOne _ none | .waitEnqueue _ _
  | .waitDequeue _ _ | .breakAllWait _ | .testFlag _ | .attempted _ | .lock _ | .relock _
  | .unlock _ | .setFlag _ | .notifyAll _ => .isTrue trivial

end condition

/-! ## Section 3: Invariant -/

section invariant
variable {Tid T : Type} [Fintype Tid]

/-- Outside of an attempt a waiting call is not inside the queue. -/
def Placed (x : Waiter T × BoundedQueue.Local T) : Prop :=
  x.1.pc ≠ .outside → x.1.pc ≠ .attempt → x.2.pc = .idle

/-- **Invariant** of the runs that meet the condition. -/
structure Inv (size : Nat) (s : State Tid T) : Prop where
  queue    : BoundedQueue.Inv size s.queue
  placed   : ∀ t, Placed (s.threads t)
  elements : s.breakAllWait = false → s.dequeueBlocked → s.elements ≤ s.notifying + s.taking
  places   : s.breakAllWait = false → s.enqueueBlocked → s.places size ≤ s.notifying + s.putting
  broken   : s.breakAllWait = true → (∃ t, (s.waiters t).pc = .blocked) →
    ∃ u, (s.waiters u).pc = .notifyAll

variable {size : Nat} {s s' : State Tid T} {t : Tid}

theorem inv_init [DecidableEq Tid] [Inhabited T]
    (h : (blockingQueue size : System (State Tid T) (Label Tid T)).init s) : Inv size s := by
  obtain ⟨hqueue, hflag, -, hout⟩ := h
  have hnone : ∀ t, (s.waiters t).pc ≠ .blocked := by simp [hout]
  constructor
  case queue => exact BoundedQueue.inv_init hqueue
  case placed =>
    intro t hpc
    exact absurd (hout t) hpc
  case elements =>
    rintro - ⟨t, hpc, -⟩
    exact absurd hpc (hnone t)
  case places =>
    rintro - ⟨t, hpc, -⟩
    exact absurd hpc (hnone t)
  case broken =>
    intro hbroken
    simp [hflag] at hbroken

/-- A step after which nobody is blocked who was not. -/
theorem Inv.next (h : Inv size s) (hqueue : BoundedQueue.Inv size s'.queue)
    (hflag : s'.breakAllWait = s.breakAllWait) (hplaced : ∀ u, Placed (s'.threads u))
    (hblocked : ∀ u, (s'.waiters u).pc = .blocked → s'.waiters u = s.waiters u)
    (hall : ∀ u, (s.waiters u).pc = .notifyAll → (s'.waiters u).pc = .notifyAll)
    (helements : s.breakAllWait = false → s.dequeueBlocked →
      s.elements ≤ s.notifying + s.taking → s'.elements ≤ s'.notifying + s'.taking)
    (hplaces : s.breakAllWait = false → s.enqueueBlocked →
      s.places size ≤ s.notifying + s.putting → s'.places size ≤ s'.notifying + s'.putting) :
    Inv size s' := by
  have hwas : ∀ u, (s'.waiters u).pc = .blocked → (s.waiters u).pc = .blocked := by
    intro u hu
    rwa [← hblocked u hu]
  constructor
  case queue => exact hqueue
  case placed => exact hplaced
  case elements =>
    rintro hopen ⟨u, hu, hkind⟩
    rw [hflag] at hopen
    rw [hblocked u hu] at hkind
    have hwaits : s.dequeueBlocked := ⟨u, hwas u hu, hkind⟩
    exact helements hopen hwaits (h.elements hopen hwaits)
  case places =>
    rintro hopen ⟨u, hu, hkind⟩
    rw [hflag] at hopen
    rw [hblocked u hu] at hkind
    have hwaits : s.enqueueBlocked := ⟨u, hwas u hu, hkind⟩
    exact hplaces hopen hwaits (h.places hopen hwaits)
  case broken =>
    rintro hbroken ⟨u, hu⟩
    rw [hflag] at hbroken
    obtain ⟨v, hv⟩ := h.broken hbroken ⟨u, hwas u hu⟩
    exact ⟨v, hall v hv⟩

omit [Fintype Tid] in
theorem waiters_of_threads (hother : ∀ u, u ≠ t → s'.threads u = s.threads u) (u : Tid)
    (hu : u ≠ t) : s'.waiters u = s.waiters u := congrArg Prod.fst (hother u hu)

theorem placed_of_threads (h : Inv size s) (hother : ∀ u, u ≠ t → s'.threads u = s.threads u)
    (hplaced : Placed (s'.threads t)) (u : Tid) : Placed (s'.threads u) := by
  by_cases hu : u = t
  · rwa [hu]
  · rw [hother u hu]
    exact h.placed u

/-- A step of one thread that neither blocks nor was about to notify all. -/
theorem Inv.of_one (h : Inv size s) (hother : ∀ u, u ≠ t → s'.threads u = s.threads u)
    (hqueue : BoundedQueue.Inv size s'.queue) (hflag : s'.breakAllWait = s.breakAllWait)
    (hplaced : Placed (s'.threads t))
    (hblocked : (s'.waiters t).pc = .blocked → s'.waiters t = s.waiters t)
    (hall : (s.waiters t).pc = .notifyAll → (s'.waiters t).pc = .notifyAll)
    (helements : s.breakAllWait = false → s.dequeueBlocked →
      s.elements ≤ s.notifying + s.taking → s'.elements ≤ s'.notifying + s'.taking)
    (hplaces : s.breakAllWait = false → s.enqueueBlocked →
      s.places size ≤ s.notifying + s.putting → s'.places size ≤ s'.notifying + s'.putting) :
    Inv size s' := by
  apply h.next hqueue hflag (placed_of_threads h hother hplaced) _ _ helements hplaces
  · intro u hu
    by_cases hut : u = t
    · subst hut
      exact hblocked hu
    · exact waiters_of_threads hother u hut
  · intro u hu
    by_cases hut : u = t
    · subst hut
      exact hall hu
    · rwa [waiters_of_threads hother u hut]

/-- A step of one thread that changes no position and leaves no kind of
    thread, while the flag is not set. -/
theorem Inv.calm (h : Inv size s) (hother : ∀ u, u ≠ t → s'.threads u = s.threads u)
    (hqueue : BoundedQueue.Inv size s'.queue) (hhead : s'.queue.head = s.queue.head)
    (htail : s'.queue.tail = s.queue.tail) (hcommit : s'.queue.commit = s.queue.commit)
    (hflag : s'.breakAllWait = s.breakAllWait) (hplaced : Placed (s'.threads t))
    (hblocked : (s'.waiters t).pc = .blocked → s'.waiters t = s.waiters t)
    (hall : (s.waiters t).pc = .notifyAll → (s'.waiters t).pc = .notifyAll)
    (hnotifying : Notifying (s.threads t) → Notifying (s'.threads t))
    (htaking : s.breakAllWait = false → Taking (s.threads t) → Taking (s'.threads t))
    (hputting : s.breakAllWait = false → Putting (s.threads t) → Putting (s'.threads t)) :
    Inv size s' := by
  have hn : s.notifying ≤ s'.notifying := tally_mono_of_one hother hnotifying
  apply h.of_one hother hqueue hflag hplaced hblocked hall
  · intro hopen _ hle
    have ht : s.taking ≤ s'.taking := tally_mono_of_one hother (htaking hopen)
    unfold State.elements at hle ⊢
    rw [hcommit, hhead]
    omega
  · intro hopen _ hle
    have hp : s.putting ≤ s'.putting := tally_mono_of_one hother (hputting hopen)
    unfold State.places at hle ⊢
    rw [htail, hhead]
    omega

end invariant

/-! ## Section 4: Steps of the queue -/

section queue
variable {Tid T : Type} [DecidableEq Tid] [Inhabited T] {size : Nat}

/-- The steps at which a position moves. -/
def Moving : BoundedQueue.Label Tid T → Prop
  | .enqCasTail _ | .enqCasCommit _ | .deqCasHead _ => True
  | _ => False

theorem positions_stay (size : Nat) (q : BoundedQueue.State Tid T) (a : BoundedQueue.Label Tid T)
    (ha : ¬ Moving a) :
    let q' := ((BoundedQueue.boundedQueue size).action a).effect q
    q'.head = q.head ∧ q'.tail = q.tail ∧ q'.commit = q.commit := by
  cases a with
  | enqLoadHead t | deqLoadCommit t =>
    dsimp only [BoundedQueue.boundedQueue]
    split <;> simp
  | enqCasTail t | enqCasCommit t | deqCasHead t => exact absurd trivial ha
  | _ => simp [BoundedQueue.boundedQueue]

/-- Inside an operation, a thread that moves no position goes on looking for
    its element or place. -/
theorem looks_on (q : BoundedQueue.State Tid T) (a : BoundedQueue.Label Tid T)
    (hg : ((BoundedQueue.boundedQueue size).action a).gate q) (ha : ¬ Moving a)
    (hinside : (q.loc a.thread).pc ≠ .idle) (hnotify : (q.loc a.thread).pc ≠ .enqNotify) :
    let l := q.loc a.thread
    let l' := (((BoundedQueue.boundedQueue size).action a).effect q).loc a.thread
    (takes l = true → takes l' = true) ∧ (puts l = true → puts l' = true) := by
  cases a with
  | callEnqueue t x | callDequeue t x => exact absurd hg hinside
  | enqNotify t => exact absurd hg hnotify
  | enqCasTail t | enqCasCommit t | deqCasHead t => exact absurd trivial ha
  | enqCasCommitFail t => exact ⟨id, id⟩
  | enqLoadHead t | deqLoadCommit t =>
    have hpc := hg
    dsimp only [BoundedQueue.boundedQueue] at hpc
    simp only [BoundedQueue.boundedQueue, BoundedQueue.Label.thread]
    split <;> simp [takes, puts, hpc]
  | enqLoadTail t | enqCasTailFail t | enqWrite t | deqLoadHead t | deqRead t
  | deqCasHeadFail t =>
    have hpc := hg
    dsimp only [BoundedQueue.boundedQueue] at hpc
    simp [BoundedQueue.boundedQueue, BoundedQueue.Label.thread, takes, puts, hpc]

variable [Fintype Tid] {s : State Tid T} {t : Tid}

/-- The state after the queue inside has taken a step. -/
def State.after (size : Nat) (s : State Tid T) (a : BoundedQueue.Label Tid T) : State Tid T :=
  { s with queue := ((BoundedQueue.boundedQueue size).action a).effect s.queue }

omit [Fintype Tid] in
theorem threads_after (a : BoundedQueue.Label Tid T) (u : Tid) (hu : u ≠ a.thread) :
    (s.after size a).threads u = s.threads u := by
  have hloc : (((BoundedQueue.boundedQueue size).action a).effect s.queue).loc u =
      s.queue.loc u := BoundedQueue.loc_of_thread_ne hu.symm
  simp [State.threads, State.after, hloc]

omit [DecidableEq Tid] [Inhabited T] in
/-- A thread inside an operation stands in no place where it waits. -/
theorem Inv.outside_or_attempt (h : Inv size s) (hinside : (s.queue.loc t).pc ≠ .idle) :
    (s.waiters t).pc = .outside ∨ (s.waiters t).pc = .attempt := by
  by_contra hwaits
  rw [not_or] at hwaits
  exact hinside (h.placed t hwaits.1 hwaits.2)

/-- An operation goes on and moves no position. -/
theorem Inv.goOn (h : Inv size s) (a : BoundedQueue.Label Tid T)
    (hg : ((BoundedQueue.boundedQueue size).action a).gate s.queue) (ha : ¬ Moving a)
    (hinside : (s.queue.loc a.thread).pc ≠ .idle)
    (hnotify : (s.queue.loc a.thread).pc ≠ .enqNotify) : Inv size (s.after size a) := by
  obtain ⟨hhead, htail, hcommit⟩ := positions_stay size s.queue a ha
  obtain ⟨htakes, hputs⟩ := looks_on s.queue a hg ha hinside hnotify
  have hwhere := h.outside_or_attempt hinside
  apply h.calm (threads_after a) (h.queue.step a hg) hhead htail hcommit rfl
  · intro hout hattempt
    exact absurd hwhere (by simp only [not_or]; exact ⟨hout, hattempt⟩)
  · exact fun _ => rfl
  · exact id
  · exact fun hn => absurd hn hnotify
  · rintro - ⟨hkind, hawake⟩
    refine ⟨hkind, hawake.imp id fun hattempt => ⟨hattempt.1, htakes hattempt.2⟩⟩
  · rintro - ⟨hkind, hawake⟩
    refine ⟨hkind, hawake.imp id fun hattempt => ⟨hattempt.1, hputs hattempt.2⟩⟩

/-- A call from outside: nobody counts on the thread. -/
theorem Inv.call (h : Inv size s) (a : BoundedQueue.Label Tid T)
    (hg : ((BoundedQueue.boundedQueue size).action a).gate s.queue) (ha : ¬ Moving a)
    (hidle : (s.queue.loc a.thread).pc = .idle) (hout : (s.waiters a.thread).pc = .outside) :
    Inv size (s.after size a) := by
  obtain ⟨hhead, htail, hcommit⟩ := positions_stay size s.queue a ha
  apply h.calm (threads_after a) (h.queue.step a hg) hhead htail hcommit rfl
  · exact fun hnot => absurd hout hnot
  · exact fun _ => rfl
  · exact id
  · intro hn
    simp [Notifying, State.threads, hidle] at hn
  · intro _ ht
    simp [Taking, State.threads, hout, WaitPc.awake] at ht
  · intro _ hp
    simp [Putting, State.threads, hout, WaitPc.awake] at hp

theorem notifying_after (size : Nat) (s : State Tid T) (a : BoundedQueue.Label Tid T)
    (hnotify : (s.queue.loc a.thread).pc ≠ .enqNotify) :
    s.notifying ≤ (s.after size a).notifying :=
  tally_mono_of_one (threads_after a) fun hn => absurd hn hnotify

theorem taking_after (size : Nat) (s : State Tid T) (a : BoundedQueue.Label Tid T)
    (hnone : takes (s.queue.loc a.thread) = false) : s.taking ≤ (s.after size a).taking := by
  apply tally_mono_of_one (threads_after a)
  rintro ⟨hkind, hawake⟩
  refine ⟨hkind, hawake.imp id fun hattempt => ?_⟩
  simp [State.threads, hnone] at hattempt

theorem putting_after (size : Nat) (s : State Tid T) (a : BoundedQueue.Label Tid T)
    (hnone : puts (s.queue.loc a.thread) = false) : s.putting ≤ (s.after size a).putting := by
  apply tally_mono_of_one (threads_after a)
  rintro ⟨hkind, hawake⟩
  refine ⟨hkind, hawake.imp id fun hattempt => ?_⟩
  simp [State.threads, hnone] at hattempt

/-- At most the thread of the step has found what it looks for. -/
theorem taking_after_le (size : Nat) (s : State Tid T) (a : BoundedQueue.Label Tid T) :
    s.taking ≤ (s.after size a).taking + 1 := by
  apply tally_le_succ a.thread
  intro u hu
  rw [threads_after a u hu]
  exact id

theorem putting_after_le (size : Nat) (s : State Tid T) (a : BoundedQueue.Label Tid T) :
    s.putting ≤ (s.after size a).putting + 1 := by
  apply tally_le_succ a.thread
  intro u hu
  rw [threads_after a u hu]
  exact id

/-- A step inside an operation: whether the thread waits does not change. -/
theorem Inv.of_after (h : Inv size s) (a : BoundedQueue.Label Tid T)
    (hg : ((BoundedQueue.boundedQueue size).action a).gate s.queue)
    (hinside : (s.queue.loc a.thread).pc ≠ .idle)
    (helements : s.breakAllWait = false → s.dequeueBlocked →
      s.elements ≤ s.notifying + s.taking →
      (s.after size a).elements ≤ (s.after size a).notifying + (s.after size a).taking)
    (hplaces : s.breakAllWait = false → s.enqueueBlocked →
      s.places size ≤ s.notifying + s.putting →
      (s.after size a).places size ≤ (s.after size a).notifying + (s.after size a).putting) :
    Inv size (s.after size a) := by
  have hwhere := h.outside_or_attempt hinside
  apply h.of_one (threads_after a) (h.queue.step a hg) rfl _ _ _ helements hplaces
  · intro hout hattempt
    exact absurd hwhere (by simp only [not_or]; exact ⟨hout, hattempt⟩)
  · exact fun _ => rfl
  · exact id

/-- A reservation takes a place, and at most one thread that looks for it. -/
theorem Inv.enqCasTail (h : Inv size s) (hpc : (s.queue.loc t).pc = .enqCasTail)
    (htail : s.queue.tail = (s.queue.loc t).oldTail) :
    Inv size (s.after size (.enqCasTail t)) := by
  have ht := h.queue.threads t
  simp only [BoundedQueue.ThreadInv, hpc] at ht
  have hn := notifying_after size s (.enqCasTail t)
    (by simp [BoundedQueue.Label.thread, hpc])
  -- a thread in an attempt to enqueue is no `WaitDequeue`
  have hw := taking_after size s (.enqCasTail t)
    (by simp [takes, BoundedQueue.Label.thread, hpc])
  have hp := putting_after_le size s (.enqCasTail t)
  apply h.of_after (.enqCasTail t) ⟨hpc, htail⟩
  · simp [BoundedQueue.Label.thread, hpc]
  · intro _ _ hle
    have helements : (s.after size (.enqCasTail t)).elements = s.elements := rfl
    omega
  · intro _ _ hle
    have hplaces : (s.after size (.enqCasTail t)).places size =
        s.queue.head + size + 1 - (s.queue.loc t).newTail := rfl
    unfold State.places at hle
    omega

/-- A commit adds an element, and a notification to come. -/
theorem Inv.enqCasCommit (h : Inv size s) (hpc : (s.queue.loc t).pc = .enqCasCommit)
    (hcommit : s.queue.commit = (s.queue.loc t).oldTail) :
    Inv size (s.after size (.enqCasCommit t)) := by
  have hres := (h.queue.threads t).reserved (.inr hpc)
  have hnew := hres.newTail_eq
  have hn : s.notifying + 1 ≤ (s.after size (.enqCasCommit t)).notifying := by
    apply succ_tally_le (t := t)
    · simp [Notifying, State.threads, hpc]
    · simp [Notifying, State.threads, State.after, BoundedQueue.boundedQueue]
    · intro u hu
      have hut : u ≠ t := by
        rintro rfl
        simp [Notifying, State.threads, hpc] at hu
      rwa [threads_after (.enqCasCommit t) u hut]
  have hw := taking_after size s (.enqCasCommit t)
    (by simp [takes, BoundedQueue.Label.thread, hpc])
  have hp := putting_after size s (.enqCasCommit t)
    (by simp [puts, BoundedQueue.Label.thread, hpc])
  apply h.of_after (.enqCasCommit t) ⟨hpc, hcommit⟩
  · simp [BoundedQueue.Label.thread, hpc]
  · intro _ _ hle
    have helements : (s.after size (.enqCasCommit t)).elements =
        (s.queue.loc t).newTail - s.queue.head - 1 := rfl
    unfold State.elements at hle
    omega
  · intro _ _ hle
    have hplaces : (s.after size (.enqCasCommit t)).places size = s.places size := rfl
    omega

/-- A `Dequeue` takes an element and frees a place. -/
theorem Inv.deqCasHead (h : Inv size s) (hpc : (s.queue.loc t).pc = .deqCasHead)
    (hhead : s.queue.head = (s.queue.loc t).oldHead)
    (hok : s.breakAllWait = false → s.enqueueBlocked →
      s.places size < s.notifying + s.putting) :
    Inv size (s.after size (.deqCasHead t)) := by
  have ht := h.queue.threads t
  simp only [BoundedQueue.ThreadInv, hpc] at ht
  have hn := notifying_after size s (.deqCasHead t)
    (by simp [BoundedQueue.Label.thread, hpc])
  have hw := taking_after_le size s (.deqCasHead t)
  have hp := putting_after size s (.deqCasHead t)
    (by simp [puts, BoundedQueue.Label.thread, hpc])
  apply h.of_after (.deqCasHead t) ⟨hpc, hhead⟩
  · simp [BoundedQueue.Label.thread, hpc]
  · intro _ _ hle
    have helements : (s.after size (.deqCasHead t)).elements =
        s.queue.commit - (s.queue.loc t).newHead - 1 := rfl
    unfold State.elements at hle
    omega
  · intro hopen hwaits _
    have hless := hok hopen hwaits
    have hplaces : (s.after size (.deqCasHead t)).places size =
        (s.queue.loc t).newHead + size + 1 - s.queue.tail := rfl
    unfold State.places at hless
    omega

/-- Every step of the queue that the system passes on. -/
theorem Inv.queueStep (h : Inv size s) (a : BoundedQueue.Label Tid T)
    (hg : ((BoundedQueue.boundedQueue size).action a).gate s.queue) (hpassed : Passed s a)
    (hok : LeavesNone size s (.queue a)) : Inv size (s.after size a) := by
  cases a with
  | callEnqueue t x => exact h.call _ hg (by simp [Moving]) hg hpassed
  | callDequeue t out => exact h.call _ hg (by simp [Moving]) hg hpassed
  | enqCasTail t => exact h.enqCasTail hg.1 hg.2
  | enqCasCommit t => exact h.enqCasCommit hg.1 hg.2
  | deqCasHead t => exact h.deqCasHead hg.1 hg.2 hok
  | enqNotify t => exact absurd hpassed not_false
  | enqLoadTail t | enqLoadHead t | enqCasTailFail t | enqWrite t | enqCasCommitFail t
  | deqLoadHead t | deqLoadCommit t | deqRead t | deqCasHeadFail t =>
    have hpc := hg
    dsimp only [BoundedQueue.boundedQueue] at hpc
    apply h.goOn _ hg <;> simp [Moving, BoundedQueue.Label.thread, hpc]

end queue

/-! ## Section 5: Steps of the waiting calls -/

section waiting
variable {Tid T : Type} [DecidableEq Tid] [Fintype Tid] {size : Nat}
variable {s s' : State Tid T} {t : Tid} {w : Waiter T}

omit [Fintype Tid] in
theorem threads_of_waiters (hwaiters : s'.waiters = Function.update s.waiters t w)
    (hloc : ∀ u, u ≠ t → s'.queue.loc u = s.queue.loc u) (u : Tid) (hu : u ≠ t) :
    s'.threads u = s.threads u := by
  simp [State.threads, hwaiters, hloc u hu, hu]

/-- A thread moves in its waiting call and is neither blocked nor about to
    notify all. -/
theorem Inv.moveWaiter (h : Inv size s) (hwaiters : s'.waiters = Function.update s.waiters t w)
    (hqueue : s'.queue = s.queue) (hflag : s'.breakAllWait = s.breakAllWait)
    (hplaced : Placed (w, s.queue.loc t)) (hblocked : w.pc ≠ .blocked)
    (hall : (s.waiters t).pc ≠ .notifyAll)
    (htaking : s.breakAllWait = false → Taking (s.threads t) → Taking (w, s.queue.loc t))
    (hputting : s.breakAllWait = false → Putting (s.threads t) → Putting (w, s.queue.loc t)) :
    Inv size s' := by
  have hself : s'.waiters t = w := by rw [hwaiters, Function.update_self]
  have hthread : s'.threads t = (w, s.queue.loc t) := by
    rw [State.threads, hself, hqueue]
  have hother := threads_of_waiters hwaiters fun u _ => by rw [hqueue]
  apply h.calm hother (hqueue ▸ h.queue) (by rw [hqueue]) (by rw [hqueue]) (by rw [hqueue]) hflag
  · rwa [hthread]
  · rw [hself]
    exact fun hpc => absurd hpc hblocked
  · exact fun hpc => absurd hpc hall
  · rw [hthread]
    exact id
  · rwa [hthread]
  · rwa [hthread]

/-- A thread that goes on with its call outside of the queue. -/
theorem Inv.awake (h : Inv size s) {pc : WaitPc}
    (hwaiters : s'.waiters = Function.update s.waiters t { s.waiters t with pc := pc })
    (hqueue : s'.queue = s.queue) (hflag : s'.breakAllWait = s.breakAllWait)
    (hidle : (s.queue.loc t).pc = .idle) (hawake : pc.awake = true)
    (hall : (s.waiters t).pc ≠ .notifyAll) : Inv size s' := by
  apply h.moveWaiter hwaiters hqueue hflag
  · exact fun _ _ => hidle
  · rintro rfl
    cases hawake
  · exact hall
  · exact fun _ ht => ⟨ht.1, .inl hawake⟩
  · exact fun _ hp => ⟨hp.1, .inl hawake⟩

/-- A waiting call returns. -/
theorem Inv.leave (h : Inv size s) {ret : Option Bool} (hall : (s.waiters t).pc ≠ .notifyAll)
    (htaking : s.breakAllWait = false → ¬ Taking (s.threads t))
    (hputting : s.breakAllWait = false → ¬ Putting (s.threads t)) :
    Inv size (s.setWaiter t { s.waiters t with pc := .outside, ret := ret }) :=
  h.moveWaiter rfl rfl rfl (fun hout => absurd rfl hout) (by simp) hall
    (fun hopen ht => absurd ht (htaking hopen)) (fun hopen hp => absurd hp (hputting hopen))

/-- A thread that nobody counts on moves. -/
theorem Inv.uncounted (h : Inv size s) (hout : (s.waiters t).pc = .outside)
    (hwaiters : s'.waiters = Function.update s.waiters t w)
    (hqueue : s'.queue = s.queue) (hflag : s'.breakAllWait = s.breakAllWait)
    (hidle : (s.queue.loc t).pc = .idle) (hblocked : w.pc ≠ .blocked) : Inv size s' := by
  apply h.moveWaiter hwaiters hqueue hflag
  · exact fun _ _ => hidle
  · exact hblocked
  · simp [hout]
  · intro _ ht
    simp [Taking, State.threads, hout, WaitPc.awake] at ht
  · intro _ hp
    simp [Putting, State.threads, hout, WaitPc.awake] at hp

/-- A call blocks: it leaves what it waits for to others. -/
theorem Inv.wait (h : Inv size s) (hpc : (s.waiters t).pc = .wait)
    (hok : LeavesNone size s (.wait t))
    (hwaiters : s'.waiters = Function.update s.waiters t { s.waiters t with pc := .blocked })
    (hqueue : s'.queue = s.queue) (hflag : s'.breakAllWait = s.breakAllWait) : Inv size s' := by
  have hself : s'.waiters t = { s.waiters t with pc := .blocked } := by
    rw [hwaiters, Function.update_self]
  have hother := threads_of_waiters hwaiters fun u _ => by rw [hqueue]
  have hidle : (s.queue.loc t).pc = .idle :=
    h.placed t (by simp [State.threads, hpc]) (by simp [State.threads, hpc])
  have hn : s.notifying ≤ s'.notifying := by
    apply tally_mono_of_one hother
    simp [Notifying, State.threads, hidle]
  have hstays {u : Tid} (hu : u ≠ t) : s'.waiters u = s.waiters u :=
    waiters_of_threads hother u hu
  constructor
  case queue => exact hqueue ▸ h.queue
  case placed =>
    apply placed_of_threads h hother
    intro _ _
    rw [State.threads, hqueue]
    exact hidle
  case elements =>
    rintro hopen ⟨v, hv, hkind⟩
    rw [hflag] at hopen
    simp only [LeavesNone, hopen, Bool.false_eq_true, if_false] at hok
    have helements : s'.elements = s.elements := by
      unfold State.elements
      rw [hqueue]
    by_cases hblocks : (s.waiters t).attempt.isDequeue = true
    · -- the call itself is counted no longer, so the condition has to be strict
      have hless := hok.1 hblocks
      have hle : s.taking ≤ s'.taking + 1 := by
        apply tally_le_succ t
        intro u hu
        rw [hother u hu]
        exact id
      omega
    · -- another call was blocked before
      have hle : s.taking ≤ s'.taking :=
        tally_mono_of_one hother fun hcounted => absurd hcounted.1 hblocks
      have hvt : v ≠ t := by
        rintro rfl
        rw [hself] at hkind
        exact hblocks hkind
      rw [hstays hvt] at hv hkind
      have hwas := h.elements hopen ⟨v, hv, hkind⟩
      omega
  case places =>
    rintro hopen ⟨v, hv, hkind⟩
    rw [hflag] at hopen
    simp only [LeavesNone, hopen, Bool.false_eq_true, if_false] at hok
    have hplaces : s'.places size = s.places size := by
      unfold State.places
      rw [hqueue]
    by_cases hblocks : (s.waiters t).attempt.isEnqueue = true
    · -- the call itself is counted no longer, so the condition has to be strict
      have hless := hok.2 hblocks
      have hle : s.putting ≤ s'.putting + 1 := by
        apply tally_le_succ t
        intro u hu
        rw [hother u hu]
        exact id
      omega
    · -- another call was blocked before
      have hle : s.putting ≤ s'.putting :=
        tally_mono_of_one hother fun hcounted => absurd hcounted.1 hblocks
      have hvt : v ≠ t := by
        rintro rfl
        rw [hself] at hkind
        exact hblocks hkind
      rw [hstays hvt] at hv hkind
      have hwas := h.places hopen ⟨v, hv, hkind⟩
      omega
  case broken =>
    -- whoever breaks all waits has not notified yet
    rintro hbroken -
    rw [hflag] at hbroken
    simp only [LeavesNone, hbroken, if_true] at hok
    obtain ⟨v, hv⟩ := hok
    have hvt : v ≠ t := by
      rintro rfl
      simp [hpc] at hv
    exact ⟨v, by rwa [hstays hvt]⟩

/-- A notification finds nobody: nothing is asked for. -/
theorem Inv.notifyNobody [Inhabited T] (h : Inv size s)
    (hpc : (s.queue.loc t).pc = .enqNotify) (hnobody : ∀ w, (s.waiters w).pc ≠ .blocked) :
    Inv size (s.after size (.enqNotify t)) := by
  have hwhere := h.outside_or_attempt (t := t) (by simp [hpc])
  have hother : ∀ u, u ≠ t → (s.after size (.enqNotify t)).threads u = s.threads u :=
    threads_after (.enqNotify t)
  apply h.of_one hother (h.queue.step (.enqNotify t) hpc) rfl
  · intro hout hattempt
    exact absurd hwhere (by simp only [not_or]; exact ⟨hout, hattempt⟩)
  · exact fun _ => rfl
  · exact id
  · rintro - ⟨u, hu, -⟩
    exact absurd hu (hnobody u)
  · rintro - ⟨u, hu, -⟩
    exact absurd hu (hnobody u)

/-- A notification wakes a blocked call up: one more is awake for what it
    waits for. -/
theorem Inv.notifyOne [Inhabited T] (h : Inv size s) {v : Tid}
    (hpc : (s.queue.loc t).pc = .enqNotify) (hblocked : (s.waiters v).pc = .blocked)
    (hok : LeavesNone size s (.notifyOne t (some v)))
    (hwaiters : s'.waiters = Function.update s.waiters v { s.waiters v with pc := .relock })
    (hqueue : s'.queue = ((BoundedQueue.boundedQueue size).action (.enqNotify t)).effect s.queue)
    (hflag : s'.breakAllWait = s.breakAllWait) : Inv size s' := by
  have hidle : (s.queue.loc v).pc = .idle :=
    h.placed v (by simp [State.threads, hblocked]) (by simp [State.threads, hblocked])
  have hvt : v ≠ t := by
    rintro rfl
    simp [hpc] at hidle
  have hrest {u : Tid} (hut : u ≠ t) (huv : u ≠ v) : s'.threads u = s.threads u := by
    simp [State.threads, hwaiters, hqueue, BoundedQueue.boundedQueue, hut, huv]
  have hwoken : s'.threads v = ({ s.waiters v with pc := .relock }, s.queue.loc v) := by
    simp [State.threads, hwaiters, hqueue, BoundedQueue.boundedQueue, hvt]
  have hnotifier : s'.threads t =
      (s.waiters t, { s.queue.loc t with pc := .idle, ret := some true }) := by
    simp [State.threads, hwaiters, hqueue, BoundedQueue.boundedQueue, hvt.symm]
  -- the two threads that move were not among those that look for something
  have hwhere := h.outside_or_attempt (t := t) (by simp [hpc])
  have hstays {P : Waiter T × BoundedQueue.Local T → Prop} (ht : ¬ P (s.threads t))
      (hv : ¬ P (s.threads v)) (u : Tid) (hu : P (s.threads u)) : P (s'.threads u) := by
    have hut : u ≠ t := by
      rintro rfl
      exact ht hu
    have huv : u ≠ v := by
      rintro rfl
      exact hv hu
    rwa [hrest hut huv]
  have htaking : ¬ Taking (s.threads t) ∧ ¬ Taking (s.threads v) := by
    constructor
    · rcases hwhere with hout | hattempt
      · simp [Taking, State.threads, hout, WaitPc.awake]
      · simp [Taking, State.threads, hattempt, WaitPc.awake, takes, hpc]
    · simp [Taking, State.threads, hblocked, WaitPc.awake]
  have hputting : ¬ Putting (s.threads t) ∧ ¬ Putting (s.threads v) := by
    constructor
    · rcases hwhere with hout | hattempt
      · simp [Putting, State.threads, hout, WaitPc.awake]
      · simp [Putting, State.threads, hattempt, WaitPc.awake, puts, hpc]
    · simp [Putting, State.threads, hblocked, WaitPc.awake]
  have hn : s.notifying ≤ s'.notifying + 1 := by
    apply tally_le_succ t
    intro u hut hu
    have huv : u ≠ v := by
      rintro rfl
      simp [Notifying, State.threads, hidle] at hu
    rwa [hrest hut huv]
  have hw : s.taking ≤ s'.taking := tally_mono (hstays htaking.1 htaking.2)
  have hp : s.putting ≤ s'.putting := tally_mono (hstays hputting.1 hputting.2)
  have hkept : ∀ u, u ≠ v → s'.waiters u = s.waiters u := by
    intro u hu
    rw [hwaiters, Function.update_of_ne hu]
  apply h.next
  · rw [hqueue]
    exact h.queue.step (.enqNotify t) hpc
  · exact hflag
  · intro u
    by_cases huv : u = v
    · rw [huv, hwoken]
      exact fun _ _ => hidle
    · by_cases hut : u = t
      · rw [hut, hnotifier]
        exact fun _ _ => rfl
      · rw [hrest hut huv]
        exact h.placed u
  · intro u hu
    apply hkept
    rintro rfl
    simp [hwaiters] at hu
  · intro u hu
    rwa [hkept]
    rintro rfl
    simp [hblocked] at hu
  · intro hopen hwaits hle
    have helements : s'.elements = s.elements := by
      unfold State.elements
      rw [hqueue]
      rfl
    cases hkind : (s.waiters v).attempt with
    | dequeue =>
      -- the call woken is counted from now on
      have hone : s.taking + 1 ≤ s'.taking := by
        apply succ_tally_le htaking.2 _ (hstays htaking.1 htaking.2)
        rw [hwoken]
        simp [Taking, hkind, Attempt.isDequeue, WaitPc.awake]
      omega
    | enqueue x =>
      -- a call of the other kind was woken: by the condition one more is awake
      have hless := (hok hopen).1 (by simp [hkind, Attempt.isEnqueue]) hwaits
      omega
  · intro hopen hwaits hle
    have hplaces : s'.places size = s.places size := by
      unfold State.places
      rw [hqueue]
      rfl
    cases hkind : (s.waiters v).attempt with
    | enqueue x =>
      have hone : s.putting + 1 ≤ s'.putting := by
        apply succ_tally_le hputting.2 _ (hstays hputting.1 hputting.2)
        rw [hwoken]
        simp [Putting, hkind, Attempt.isEnqueue, WaitPc.awake]
      omega
    | dequeue =>
      have hless := (hok hopen).2 (by simp [hkind, Attempt.isDequeue]) hwaits
      omega

/-- All blocked calls are notified. -/
theorem Inv.notifyAll (h : Inv size s)
    (hwaiters : s'.waiters = Function.update (fun u => (s.waiters u).wake) t
      { s.waiters t with pc := .outside })
    (hqueue : s'.queue = s.queue) : Inv size s' := by
  have hnobody : ∀ u, (s'.waiters u).pc ≠ .blocked := by
    intro u
    rw [hwaiters]
    by_cases hu : u = t
    · simp [hu]
    · rw [Function.update_of_ne hu]
      unfold Waiter.wake
      split
      · simp
      · assumption
  constructor
  case queue => exact hqueue ▸ h.queue
  case placed =>
    intro u hout hattempt
    have hplaced := h.placed u
    simp only [State.threads, hqueue, hwaiters] at hout hattempt hplaced ⊢
    by_cases hu : u = t
    · simp [hu] at hout
    · rw [Function.update_of_ne hu] at hout hattempt
      unfold Waiter.wake at hout hattempt
      split at hout
      · next hblocked => exact hplaced (by simp [hblocked]) (by simp [hblocked])
      · next hnot =>
        rw [if_neg hnot] at hattempt
        exact hplaced hout hattempt
  case elements =>
    rintro - ⟨u, hu, -⟩
    exact absurd hu (hnobody u)
  case places =>
    rintro - ⟨u, hu, -⟩
    exact absurd hu (hnobody u)
  case broken =>
    rintro - ⟨u, hu⟩
    exact absurd hu (hnobody u)

/-- The flag is set by a call that has yet to notify. -/
theorem Inv.setFlag (h : Inv size s) (hpc : (s.waiters t).pc = .setFlag)
    (hwaiters : s'.waiters = Function.update s.waiters t { s.waiters t with pc := .notifyAll })
    (hqueue : s'.queue = s.queue) (hflag : s'.breakAllWait = true) : Inv size s' := by
  have hother := threads_of_waiters hwaiters fun u _ => by rw [hqueue]
  constructor
  case queue => exact hqueue ▸ h.queue
  case placed =>
    apply placed_of_threads h hother
    intro _ _
    simp only [State.threads, hqueue]
    exact h.placed t (by simp [State.threads, hpc]) (by simp [State.threads, hpc])
  case elements =>
    intro hopen
    simp [hflag] at hopen
  case places =>
    intro hopen
    simp [hflag] at hopen
  case broken => exact fun _ _ => ⟨t, by simp [hwaiters]⟩

/-- A `WaitDequeue` is called with the caller's `*element`. -/
theorem Inv.waitDequeue (h : Inv size s) {out : T} (hout : (s.waiters t).pc = .outside)
    (hidle : (s.queue.loc t).pc = .idle)
    (hwaiters : s'.waiters = Function.update s.waiters t ⟨.testFlag, .dequeue, none⟩)
    (hqueue : s'.queue = s.queue.setLoc t { s.queue.loc t with out := out })
    (hflag : s'.breakAllWait = s.breakAllWait) : Inv size s' := by
  have hother : ∀ u, u ≠ t → s'.threads u = s.threads u := by
    apply threads_of_waiters hwaiters
    intro u hu
    rw [hqueue, BoundedQueue.setLoc_loc_ne _ _ _ _ hu]
  have hself : s'.waiters t = ⟨.testFlag, .dequeue, none⟩ := by rw [hwaiters, Function.update_self]
  apply h.calm hother _ _ _ _ hflag
  · exact fun _ _ => by simp [State.threads, hqueue, hidle]
  · simp [hself]
  · simp [hout]
  · simp [Notifying, State.threads, hidle]
  · intro _ ht
    simp [Taking, State.threads, hout, WaitPc.awake] at ht
  · intro _ hp
    simp [Putting, State.threads, hout, WaitPc.awake] at hp
  · rw [hqueue]
    exact inv_out h.queue out hidle
  all_goals simp [hqueue]

/-- An attempt begins. -/
theorem Inv.attempt [Inhabited T] (h : Inv size s) {out : T} (hpc : (s.waiters t).pc = .testFlag)
    (hwaiters : s'.waiters = Function.update s.waiters t { s.waiters t with pc := .attempt })
    (hqueue : s'.queue = ((BoundedQueue.boundedQueue size).action
      ((s.waiters t).attempt.call t out)).effect s.queue)
    (hflag : s'.breakAllWait = s.breakAllWait) : Inv size s' := by
  have hidle : (s.queue.loc t).pc = .idle :=
    h.placed t (by simp [State.threads, hpc]) (by simp [State.threads, hpc])
  have hother : ∀ u, u ≠ t → s'.threads u = s.threads u := by
    apply threads_of_waiters hwaiters
    intro u hu
    rw [hqueue]
    apply BoundedQueue.loc_of_thread_ne
    cases (s.waiters t).attempt <;> exact hu.symm
  have hself : s'.waiters t = { s.waiters t with pc := .attempt } := by
    rw [hwaiters, Function.update_self]
  apply h.calm hother _ _ _ _ hflag
  · intro _ hattempt
    simp [State.threads, hself] at hattempt
  · simp [hself]
  · simp [hpc]
  · simp [Notifying, State.threads, hidle]
  · -- the call is counted as before, for it is still to take what it waits for
    rintro - ⟨hkind, -⟩
    cases hattempt : (s.waiters t).attempt with
    | enqueue x => simp [State.threads, hattempt, Attempt.isDequeue] at hkind
    | dequeue =>
      simp [Taking, State.threads, hself, hqueue, hattempt, Attempt.isDequeue, Attempt.call,
        BoundedQueue.boundedQueue, takes]
  · rintro - ⟨hkind, -⟩
    cases hattempt : (s.waiters t).attempt with
    | enqueue x =>
      simp [Putting, State.threads, hself, hqueue, hattempt, Attempt.isEnqueue, Attempt.call,
        BoundedQueue.boundedQueue, puts]
    | dequeue => simp [State.threads, hattempt, Attempt.isEnqueue] at hkind
  · rw [hqueue]
    exact inv_call h.queue t _ out
  all_goals
    rw [hqueue]
    cases (s.waiters t).attempt <;> simp [Attempt.call, BoundedQueue.boundedQueue]

/-- **Step lemma**. -/
theorem Inv.step [Inhabited T] (h : Inv size s) (a : Label Tid T)
    (hg : ((blockingQueue size).action a).gate s) (hok : LeavesNone size s a) :
    Inv size (((blockingQueue size).action a).effect s) := by
  have hidle {t : Tid} {pc : WaitPc} (hpc : (s.waiters t).pc = pc) (hout : pc ≠ .outside)
      (hattempt : pc ≠ .attempt) : (s.queue.loc t).pc = .idle :=
    h.placed t (by rwa [State.threads, hpc]) (by rwa [State.threads, hpc])
  cases a with
  | queue a => exact h.queueStep a hg.1 hg.2 hok
  | notifyOne t woken =>
    cases woken with
    | none => exact h.notifyNobody hg.1 hg.2
    | some v =>
      have hblocked : (s.waiters v).pc = .blocked := hg.2
      have hwaiters : (((blockingQueue size).action (.notifyOne t (some v))).effect s).waiters =
          Function.update s.waiters v { s.waiters v with pc := .relock } := by
        simp [blockingQueue, Waiter.wake, hblocked]
      exact h.notifyOne hg.1 hblocked hok hwaiters rfl rfl
  | waitEnqueue t x => exact h.uncounted hg.1 rfl rfl rfl hg.2 (by simp)
  | waitDequeue t out => exact h.waitDequeue hg.1 hg.2 rfl rfl rfl
  | breakAllWait t => exact h.uncounted hg.1 rfl rfl rfl hg.2 (by simp)
  | testFlag t =>
    have hpc : (s.waiters t).pc = .testFlag := hg
    by_cases hbroken : s.breakAllWait = true
    · -- the call returns false
      have heffect : ((blockingQueue size).action (.testFlag t)).effect s =
          s.setWaiter t { s.waiters t with pc := .outside, ret := some false } := if_pos hbroken
      rw [heffect]
      apply h.leave
      · simp [hpc]
      · simp [hbroken]
      · simp [hbroken]
    · have heffect : ((blockingQueue size).action (.testFlag t)).effect s = _ := if_neg hbroken
      rw [heffect]
      exact h.attempt hpc rfl rfl rfl
  | attempted t =>
    obtain ⟨hpc, hback⟩ := hg
    by_cases htrue : (s.queue.loc t).ret = some true
    · have heffect : ((blockingQueue size).action (.attempted t)).effect s =
          s.setWaiter t { s.waiters t with pc := .outside, ret := some true } := if_pos htrue
      rw [heffect]
      apply h.leave
      · simp [hpc]
      · simp [Taking, State.threads, hpc, WaitPc.awake, takes, hback, htrue]
      · simp [Putting, State.threads, hpc, WaitPc.awake, puts, hback, htrue]
    · have heffect : ((blockingQueue size).action (.attempted t)).effect s =
          s.setWaiter t { s.waiters t with pc := .lock } := if_neg htrue
      rw [heffect]
      -- the attempt has failed, and the call goes to sleep
      exact h.awake rfl rfl rfl hback rfl (by simp [hpc])
  | lock t => exact h.awake rfl rfl rfl (hidle hg.1 (by simp) (by simp)) rfl (by simp [hg.1])
  | wait t => exact h.wait hg hok rfl rfl rfl
  | relock t => exact h.awake rfl rfl rfl (hidle hg.1 (by simp) (by simp)) rfl (by simp [hg.1])
  | unlock t =>
    have hpc : (s.waiters t).pc = .unlock := hg
    exact h.awake rfl rfl rfl (hidle hpc (by simp) (by simp)) rfl (by simp [hpc])
  | setFlag t => exact h.setFlag hg rfl rfl rfl
  | notifyAll t => exact h.notifyAll rfl rfl

/-- **Run lemma**. -/
theorem inv_reachable [Inhabited T]
    (h : ((blockingQueue size).restrict (LeavesNone size)).Reachable s) : Inv size s := by
  apply System.invariant _ _ h
  · intro s hi
    exact inv_init hi
  · intro s a hinv hg
    exact hinv.step a hg.1 hg.2

end waiting

/-! ## Section 6: Nobody is forgotten -/

section forgotten
variable {Tid T : Type}

/-- No call is in progress that is not blocked. -/
def Quiescent (s : State Tid T) : Prop :=
  ∀ t, (s.waiters t).pc = .blocked ∨
    ((s.waiters t).pc = .outside ∧ (s.queue.loc t).pc = .idle)

/-- What a blocked call tells about the queue. The flag is set before
    `BreakAllWait` returns and stays set. -/
structure NobodyForgotten (size : Nat) (s : State Tid T) : Prop where
  dequeue : s.dequeueBlocked → s.queue.head + 1 = s.queue.commit
  enqueue : s.enqueueBlocked → s.queue.tail = s.queue.head + size + 1
  broken  : (∃ t, (s.waiters t).pc = .blocked) → s.breakAllWait = false

variable [Fintype Tid] {size : Nat} {s : State Tid T}

/-- Nobody is left to take care of anything. -/
theorem Inv.nobody (h : Inv size s) (hq : Quiescent s) :
    s.notifying = 0 ∧ s.taking = 0 ∧ s.putting = 0 := by
  refine ⟨?_, ?_, ?_⟩ <;> apply tally_eq_zero_iff.mpr <;> intro t hcounted <;>
    rcases hq t with hblocked | ⟨hout, hidle⟩
  · have hidle := h.placed t (by simp [State.threads, hblocked]) (by simp [State.threads, hblocked])
    rw [Notifying, hidle] at hcounted
    cases hcounted
  · simp [Notifying, State.threads, hidle] at hcounted
  · simp [Taking, State.threads, hblocked, WaitPc.awake] at hcounted
  · simp [Taking, State.threads, hout, WaitPc.awake] at hcounted
  · simp [Putting, State.threads, hblocked, WaitPc.awake] at hcounted
  · simp [Putting, State.threads, hout, WaitPc.awake] at hcounted

/-- **Wake-up**: in the runs that meet the condition, when no call but
    blocked ones is in progress, a `WaitDequeue` is blocked only while the
    queue is empty, a `WaitEnqueue` only while it is full, and no call after
    `BreakAllWait`. -/
theorem blockingQueue_wakesUp [DecidableEq Tid] [Inhabited T] (size : Nat) (s : State Tid T)
    (h : ((blockingQueue size).restrict (LeavesNone size)).Reachable s) (hq : Quiescent s) :
    NobodyForgotten size s := by
  have hinv := inv_reachable h
  obtain ⟨hn, hw, hp⟩ := hinv.nobody hq
  have hbroken : (∃ t, (s.waiters t).pc = .blocked) → s.breakAllWait = false := by
    intro hblocked
    rw [← Bool.not_eq_true]
    intro hset
    -- a `BreakAllWait` that has yet to notify is in progress
    obtain ⟨u, hu⟩ := hinv.broken hset hblocked
    rcases hq u with hu' | ⟨hu', -⟩ <;> simp [hu] at hu'
  constructor
  case dequeue =>
    rintro ⟨t, hpc, hkind⟩
    have hle := hinv.elements (hbroken ⟨t, hpc⟩) ⟨t, hpc, hkind⟩
    have hhead := hinv.queue.head_lt_commit
    unfold State.elements at hle
    omega
  case enqueue =>
    rintro ⟨t, hpc, hkind⟩
    have hle := hinv.places (hbroken ⟨t, hpc⟩) ⟨t, hpc, hkind⟩
    have htail := hinv.queue.tail_le
    unfold State.places at hle
    omega
  case broken => exact hbroken

end forgotten

/-- Thread 0 calls `WaitDequeue` on an empty queue and fails. -/
def dequeueFails : List (Label (Fin 2) Nat) :=
  [.waitDequeue 0 0, .testFlag 0, .queue (.deqLoadHead 0), .queue (.deqLoadCommit 0), .attempted 0]

/-- Thread 1 enqueues 7 and notifies nobody. -/
def enqueueUnheard : List (Label (Fin 2) Nat) :=
  [.queue (.callEnqueue 1 7), .queue (.enqLoadTail 1), .queue (.enqLoadHead 1),
    .queue (.enqCasTail 1), .queue (.enqWrite 1), .queue (.enqCasCommit 1), .notifyOne 1 none]

/-- Thread 0 calls `WaitEnqueue` on a full queue and fails. -/
def enqueueFails : List (Label (Fin 2) Nat) :=
  [.waitEnqueue 0 8, .testFlag 0, .queue (.enqLoadTail 0), .queue (.enqLoadHead 0), .attempted 0]

/-- Thread 1 dequeues. -/
def dequeueSilent : List (Label (Fin 2) Nat) :=
  [.queue (.callDequeue 1 0), .queue (.deqLoadHead 1), .queue (.deqLoadCommit 1),
    .queue (.deqRead 1), .queue (.deqCasHead 1)]

/-- Thread 0 goes to sleep in `EmptyWait`. -/
def blocks : List (Label (Fin 2) Nat) := [.lock 0, .wait 0]

instance {Tid T : Type} [Fintype Tid] (s : State Tid T) : Decidable (Quiescent s) :=
  inferInstanceAs (Decidable (∀ _, _))

theorem blockingQueue_wakesUp_emptyQueue :
    ∃ s : State (Fin 2) Nat, ((blockingQueue 1).restrict (LeavesNone 1)).Reachable s ∧
      s.dequeueBlocked ∧ NobodyForgotten 1 s := by
  have hreach : ((blockingQueue 1).restrict (LeavesNone 1)).Reachable
      (((blockingQueue 1).restrict (LeavesNone 1)).exec initial (dequeueFails ++ blocks)) :=
    System.reachable_exec ((blockingQueue 1).restrict (LeavesNone 1)) (initial_init 1) _ (by decide)
  exact ⟨_, hreach, by decide, blockingQueue_wakesUp 1 _ hreach (by decide)⟩

/-- The notification comes between the failed attempt and the wait; a
    `Dequeue` notifies nobody; the flag is set and all are notified between
    the failed attempt and the wait. -/
theorem blockingQueue_forgets :
    (∃ s : State (Fin 2) Nat, (blockingQueue 1).Reachable s ∧ Quiescent s ∧
      s.dequeueBlocked ∧ s.elements = 1) ∧
    (∃ s : State (Fin 2) Nat, (blockingQueue 1).Reachable s ∧ Quiescent s ∧
      s.enqueueBlocked ∧ s.places 1 = 1) ∧
    (∃ s : State (Fin 2) Nat, (blockingQueue 1).Reachable s ∧ Quiescent s ∧
      s.dequeueBlocked ∧ s.breakAllWait = true) := by
  have hreach : ∀ as : List (Label (Fin 2) Nat), (blockingQueue 1).Admits initial as →
      (blockingQueue 1).Reachable ((blockingQueue 1).exec initial as) :=
    fun as h => System.reachable_exec _ (initial_init 1) as h
  refine ⟨⟨_, hreach (dequeueFails ++ enqueueUnheard ++ blocks) (by decide), ?_⟩,
    ⟨_, hreach (enqueueUnheard ++ enqueueFails ++ blocks ++ dequeueSilent) (by decide), ?_⟩,
    ⟨_, hreach (dequeueFails ++ [.breakAllWait 1, .setFlag 1, .notifyAll 1] ++ blocks)
      (by decide), ?_⟩⟩ <;> decide

end CyberRT.Base.BlockingQueue
