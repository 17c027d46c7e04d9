import Mathlib.Data.Fintype.Card
import CyberRT.Base.BoundedQueueFifo

/-! # The bounded queue with waiting calls

    `WaitEnqueue` and `WaitDequeue` try the operation of the queue in a loop
    and call `EmptyWait` of the wait strategy after a failure, until
    `break_all_wait_` is set. `BlockWaitStrategy` waits there on a condition
    variable. `Enqueue` notifies one waiter when it has committed, `Dequeue`
    notifies nobody, and `BreakAllWait` sets the flag and notifies all.

    The steps of the operations are those of the bounded queue. Taking the
    lock, blocking (which gives the lock free) and notifying are steps of
    their own. A waiter that is notified takes the lock again before it goes
    on, and no waiter wakes up without a notification. -/

namespace CyberRT.Base.BlockingQueue

open CyberRT.Framework CyberRT.Base

/-! ## Section 1: State -/

/-- Where a thread stands in a waiting call, named by the next step. In
    `attempt` it is inside `Enqueue` or `Dequeue`. -/
inductive WaitPc where
  | outside
  | testFlag
  | attempt
  | lock
  | wait
  | blocked
  | relock
  | unlock
  | setFlag
  | notifyAll
  deriving DecidableEq

/-- The operation a waiting call tries. -/
inductive Attempt (T : Type) where
  | enqueue (x : T)
  | dequeue

/-- A thread in a waiting call. `ret` is what the last one returned. -/
structure Waiter (T : Type) where
  pc      : WaitPc
  attempt : Attempt T
  ret     : Option Bool

structure State (Tid T : Type) where
  queue        : BoundedQueue.State Tid T
  breakAllWait : Bool
  mutex        : Option Tid
  waiters      : Tid → Waiter T

def Attempt.isEnqueue {T : Type} : Attempt T → Bool
  | .enqueue _ => true
  | .dequeue   => false

def Attempt.isDequeue {T : Type} : Attempt T → Bool
  | .enqueue _ => false
  | .dequeue   => true

/-! ## Section 2: Model -/

section model
variable {Tid T : Type} [DecidableEq Tid]

def State.setWaiter (s : State Tid T) (t : Tid) (w : Waiter T) : State Tid T :=
  { s with waiters := Function.update s.waiters t w }

/-- A notification reaches the thread. -/
def Waiter.wake (w : Waiter T) : Waiter T :=
  if w.pc = .blocked then { w with pc := .relock } else w

/-- The queue's steps that `queue` stands for: `NotifyOne` is a label of its
    own, and a call is made from outside the waiting calls. -/
def Passed (s : State Tid T) : BoundedQueue.Label Tid T → Prop
  | .callEnqueue t _ | .callDequeue t _ => (s.waiters t).pc = .outside
  | .enqNotify _ => False
  | _ => True

inductive Label (Tid T : Type) where
  | queue (a : BoundedQueue.Label Tid T)
  | notifyOne (t : Tid) (woken : Option Tid)
  | waitEnqueue (t : Tid) (x : T)
  | waitDequeue (t : Tid) (out : T)
  | breakAllWait (t : Tid)
  | testFlag (t : Tid)
  | attempted (t : Tid)
  | lock (t : Tid)
  | wait (t : Tid)
  | relock (t : Tid)
  | unlock (t : Tid)
  | setFlag (t : Tid)
  | notifyAll (t : Tid)

/-- The step that begins the attempt of a waiting call. -/
def Attempt.call (t : Tid) (out : T) : Attempt T → BoundedQueue.Label Tid T
  | .enqueue x => .callEnqueue t x
  | .dequeue   => .callDequeue t out

/-- The queue after `Init(size, new BlockWaitStrategy())` and the threads
    that use it. -/
def blockingQueue (size : Nat) [Inhabited T] : System (State Tid T) (Label Tid T) where
  init := fun s =>
    (BoundedQueue.boundedQueue size).init s.queue ∧ s.breakAllWait = false ∧ s.mutex = none ∧
    ∀ t, (s.waiters t).pc = .outside
  action := fun
    | .queue a =>
      { gate   := fun s => ((BoundedQueue.boundedQueue size).action a).gate s.queue ∧ Passed s a
        effect := fun s =>
          { s with queue := ((BoundedQueue.boundedQueue size).action a).effect s.queue } }
    | .notifyOne t woken =>
      -- some waiter wakes up if there is one
      { gate   := fun s => (s.queue.loc t).pc = .enqNotify ∧
          (match woken with
          | some w => (s.waiters w).pc = .blocked
          | none   => ∀ w, (s.waiters w).pc ≠ .blocked)
        effect := fun s =>
          { s with
            queue   := ((BoundedQueue.boundedQueue size).action (.enqNotify t)).effect s.queue
            waiters := match woken with
              | some w => Function.update s.waiters w (s.waiters w).wake
              | none   => s.waiters } }
    | .waitEnqueue t x =>
      { gate   := fun s => (s.waiters t).pc = .outside ∧ (s.queue.loc t).pc = .idle
        effect := fun s => s.setWaiter t ⟨.testFlag, .enqueue x, none⟩ }
    | .waitDequeue t out =>
      { gate   := fun s => (s.waiters t).pc = .outside ∧ (s.queue.loc t).pc = .idle
        effect := fun s =>
          { s.setWaiter t ⟨.testFlag, .dequeue, none⟩ with
            queue := s.queue.setLoc t { s.queue.loc t with out := out } } }
    | .breakAllWait t =>
      { gate   := fun s => (s.waiters t).pc = .outside ∧ (s.queue.loc t).pc = .idle
        effect := fun s => s.setWaiter t { s.waiters t with pc := .setFlag } }
    | .testFlag t =>
      { gate   := fun s => (s.waiters t).pc = .testFlag
        effect := fun s =>
          let w := s.waiters t
          if s.breakAllWait then
            s.setWaiter t { w with pc := .outside, ret := some false }
          else
            { s.setWaiter t { w with pc := .attempt } with
              queue := ((BoundedQueue.boundedQueue size).action
                (w.attempt.call t (s.queue.loc t).out)).effect s.queue } }
    | .attempted t =>
      { gate   := fun s => (s.waiters t).pc = .attempt ∧ (s.queue.loc t).pc = .idle
        effect := fun s =>
          if (s.queue.loc t).ret = some true then
            s.setWaiter t { s.waiters t with pc := .outside, ret := some true }
          else
            s.setWaiter t { s.waiters t with pc := .lock } }
    | .lock t =>
      { gate   := fun s => (s.waiters t).pc = .lock ∧ s.mutex = none
        effect := fun s =>
          { s.setWaiter t { s.waiters t with pc := .wait } with mutex := some t } }
    | .wait t =>
      { gate   := fun s => (s.waiters t).pc = .wait
        effect := fun s =>
          { s.setWaiter t { s.waiters t with pc := .blocked } with mutex := none } }
    | .relock t =>
      { gate   := fun s => (s.waiters t).pc = .relock ∧ s.mutex = none
        effect := fun s =>
          { s.setWaiter t { s.waiters t with pc := .unlock } with mutex := some t } }
    | .unlock t =>
      -- `EmptyWait` returns true, and the call tries again
      { gate   := fun s => (s.waiters t).pc = .unlock
        effect := fun s =>
          { s.setWaiter t { s.waiters t with pc := .testFlag } with mutex := none } }
    | .setFlag t =>
      { gate   := fun s => (s.waiters t).pc = .setFlag
        effect := fun s =>
          { s.setWaiter t { s.waiters t with pc := .notifyAll } with breakAllWait := true } }
    | .notifyAll t =>
      { gate   := fun s => (s.waiters t).pc = .notifyAll
        effect := fun s =>
          { s with
            waiters := Function.update (fun u => (s.waiters u).wake) t
              { s.waiters t with pc := .outside } } }

instance decidablePassed (s : State Tid T) : ∀ a, Decidable (Passed s a)
  | .callEnqueue t _ | .callDequeue t _ =>
    inferInstanceAs (Decidable ((s.waiters t).pc = .outside))
  | .enqNotify _ => .isFalse not_false
  | .enqLoadTail _ | .enqLoadHead _ | .enqCasTail _ | .enqCasTailFail _ | .enqWrite _
  | .enqCasCommit _ | .enqCasCommitFail _ | .deqLoadHead _ | .deqLoadCommit _ | .deqRead _
  | .deqCasHead _ | .deqCasHeadFail _ => .isTrue trivial

instance decidableGate (size : Nat) [Inhabited T] [Fintype Tid] (s : State Tid T) :
    ∀ a : Label Tid T, Decidable (((blockingQueue size).action a).gate s)
  | .queue a             => inferInstanceAs (Decidable (_ ∧ Passed s a))
  | .notifyOne t (some w) =>
    inferInstanceAs (Decidable ((s.queue.loc t).pc = .enqNotify ∧ (s.waiters w).pc = .blocked))
  | .notifyOne t none    =>
    inferInstanceAs (Decidable ((s.queue.loc t).pc = .enqNotify ∧
      ∀ w, (s.waiters w).pc ≠ .blocked))
  | .waitEnqueue t _ | .waitDequeue t _ | .breakAllWait t =>
    inferInstanceAs (Decidable ((s.waiters t).pc = .outside ∧ (s.queue.loc t).pc = .idle))
  | .testFlag t          => inferInstanceAs (Decidable ((s.waiters t).pc = .testFlag))
  | .attempted t         =>
    inferInstanceAs (Decidable ((s.waiters t).pc = .attempt ∧ (s.queue.loc t).pc = .idle))
  | .lock t              => inferInstanceAs (Decidable ((s.waiters t).pc = .lock ∧ s.mutex = none))
  | .wait t              => inferInstanceAs (Decidable ((s.waiters t).pc = .wait))
  | .relock t            =>
    inferInstanceAs (Decidable ((s.waiters t).pc = .relock ∧ s.mutex = none))
  | .unlock t            => inferInstanceAs (Decidable ((s.waiters t).pc = .unlock))
  | .setFlag t           => inferInstanceAs (Decidable ((s.waiters t).pc = .setFlag))
  | .notifyAll t         => inferInstanceAs (Decidable ((s.waiters t).pc = .notifyAll))

/-- The state `Init` leaves, with every thread outside the queue. -/
def initial [Inhabited T] : State Tid T where
  queue        := BoundedQueue.initial
  breakAllWait := false
  mutex        := none
  waiters      := fun _ => ⟨.outside, .dequeue, none⟩

theorem initial_init (size : Nat) [Inhabited T] :
    (blockingQueue size).init (initial : State Tid T) :=
  ⟨BoundedQueue.initial_init size, rfl, rfl, fun _ => rfl⟩

/-! ## Section 3: Small lemmas -/

@[simp] theorem setWaiter_queue (s : State Tid T) (t : Tid) (w : Waiter T) :
    (s.setWaiter t w).queue = s.queue := rfl

@[simp] theorem setWaiter_breakAllWait (s : State Tid T) (t : Tid) (w : Waiter T) :
    (s.setWaiter t w).breakAllWait = s.breakAllWait := rfl

@[simp] theorem setWaiter_waiters (s : State Tid T) (t : Tid) (w : Waiter T) :
    (s.setWaiter t w).waiters = Function.update s.waiters t w := rfl

/-- Whatever happens, the queue inside takes one of its own steps or none. -/
theorem queue_step {size : Nat} [Inhabited T] {P : BoundedQueue.State Tid T → Prop}
    (hstep : ∀ q a, P q → ((BoundedQueue.boundedQueue size).action a).gate q →
      P (((BoundedQueue.boundedQueue size).action a).effect q))
    (hcall : ∀ q t (attempt : Attempt T) out, P q →
      P (((BoundedQueue.boundedQueue size).action (attempt.call t out)).effect q))
    (hout : ∀ q t out, (q.loc t).pc = .idle → P q → P (q.setLoc t { q.loc t with out := out }))
    {s : State Tid T} (h : P s.queue) (a : Label Tid T)
    (hg : ((blockingQueue size).action a).gate s) :
    P ((((blockingQueue size).action a).effect s).queue) := by
  cases a with
  | queue a => exact hstep _ a h hg.1
  | notifyOne t woken => exact hstep _ (.enqNotify t) h hg.1
  | waitDequeue t out => exact hout _ t out hg.2 h
  | testFlag t =>
    simp only [blockingQueue]
    split
    · exact h
    · exact hcall _ t _ _ h
  | attempted t =>
    simp only [blockingQueue]
    split <;> exact h
  | _ => exact h

section invariant
variable {size : Nat} {q : BoundedQueue.State Tid T} {s : State Tid T} {x : T}

theorem inv_call [Inhabited T] (h : BoundedQueue.Inv size q) (t : Tid) (attempt : Attempt T)
    (out : T) : BoundedQueue.Inv size
      (((BoundedQueue.boundedQueue size).action (attempt.call t out)).effect q) := by
  cases attempt <;> exact h.setLoc t _ trivial (by simp [BoundedQueue.Reserving])

theorem inv_out (h : BoundedQueue.Inv size q) {t : Tid} (out : T)
    (hidle : (q.loc t).pc = .idle) :
    BoundedQueue.Inv size (q.setLoc t { q.loc t with out := out }) := by
  apply h.setLoc
  · simp [BoundedQueue.ThreadInv, hidle]
  · simp [BoundedQueue.Reserving, hidle]

theorem inv_step [Inhabited T] (h : BoundedQueue.Inv size s.queue) (a : Label Tid T)
    (hg : ((blockingQueue size).action a).gate s) :
    BoundedQueue.Inv size (((blockingQueue size).action a).effect s).queue := by
  apply queue_step _ _ _ h a hg
  · exact fun q b hq hb => hq.step b hb
  · exact fun q t attempt out hq => inv_call hq t attempt out
  · exact fun q t out hidle hq => inv_out hq out hidle

theorem committed_step [Inhabited T] (h : BoundedQueue.Inv size s.queue)
    (hc : BoundedQueue.Committed s.queue x) (a : Label Tid T)
    (hg : ((blockingQueue size).action a).gate s) :
    BoundedQueue.Committed (((blockingQueue size).action a).effect s).queue x := by
  have hkept : BoundedQueue.Inv size (((blockingQueue size).action a).effect s).queue ∧
      BoundedQueue.Committed (((blockingQueue size).action a).effect s).queue x := by
    apply queue_step (P := fun q => BoundedQueue.Inv size q ∧ BoundedQueue.Committed q x) _ _ _
      ⟨h, hc⟩ a hg
    · exact fun q b hq hb => ⟨hq.1.step b hb, hq.2.step hq.1 b hb⟩
    · exact fun q t attempt out hq =>
        ⟨inv_call hq.1 t attempt out, by cases attempt <;> exact hq.2⟩
    · exact fun q t out hidle hq => ⟨inv_out hq.1 out hidle, hq.2⟩
  exact hkept.2

end invariant

/-- The thread that takes the step. -/
def Label.thread : Label Tid T → Tid
  | .queue a => a.thread
  | .notifyOne t _ | .waitEnqueue t _ | .waitDequeue t _ | .breakAllWait t | .testFlag t
  | .attempted t | .lock t | .wait t | .relock t | .unlock t | .setFlag t | .notifyAll t => t

/-- A thread outside of the waiting calls is not touched by others. -/
theorem outside_of_thread_ne {size : Nat} [Inhabited T] {s : State Tid T} {t : Tid}
    (hout : (s.waiters t).pc = .outside) (a : Label Tid T)
    (hg : ((blockingQueue size).action a).gate s) (hne : a.thread ≠ t) :
    let s' := ((blockingQueue size).action a).effect s
    s'.waiters t = s.waiters t ∧ s'.queue.loc t = s.queue.loc t := by
  have hne' : t ≠ a.thread := hne.symm
  cases a with
  | queue a => exact ⟨rfl, BoundedQueue.loc_of_thread_ne hne⟩
  | notifyOne u woken =>
    have hloc : (((BoundedQueue.boundedQueue size).action (.enqNotify u)).effect s.queue).loc t =
        s.queue.loc t := BoundedQueue.loc_of_thread_ne hne
    refine ⟨?_, hloc⟩
    cases woken with
    | none => rfl
    | some w =>
      have hw : t ≠ w := by
        rintro rfl
        simp [hg.2] at hout
      simp [blockingQueue, hw]
  | waitDequeue u out =>
    simp only [Label.thread] at hne'
    simp [blockingQueue, hne']
  | testFlag u =>
    simp only [Label.thread] at hne'
    simp only [blockingQueue]
    split
    · simp [hne']
    · refine ⟨by simp [hne'], BoundedQueue.loc_of_thread_ne ?_⟩
      cases (s.waiters u).attempt <;> exact hne
  | attempted u =>
    simp only [Label.thread] at hne'
    simp only [blockingQueue]
    split <;> simp [hne']
  | notifyAll u =>
    simp only [Label.thread] at hne'
    simp [blockingQueue, hne', Waiter.wake, hout]
  | waitEnqueue u x | breakAllWait u | lock u | wait u | relock u | unlock u | setFlag u =>
    simp only [Label.thread] at hne'
    simp [blockingQueue, hne']

end model

end CyberRT.Base.BlockingQueue
