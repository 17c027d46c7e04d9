import CyberRT.Framework.System
import CyberRT.Framework.Ring

/-! # The lock-free bounded queue

    `BoundedQueue` is a multi-producer multi-consumer ring with three
    counters. A producer reserves a position by advancing `tail_`, writes
    its slot and then advances `commit_` in reservation order; a consumer
    reads the slot after `head_` and claims it by advancing `head_`.

    Every atomic load, compare-and-swap and slot access is one step, the
    counters are unbounded, and a weak compare-and-swap may fail without a
    reason. -/

namespace CyberRT.Base.BoundedQueue

open CyberRT.Framework

/-! ## Section 1: Model -/

/-- Program counters of `Enqueue` and `Dequeue`, named by the next step. -/
inductive Pc where
  | idle
  | enqLoadTail
  | enqLoadHead
  | enqCasTail
  | enqWrite
  | enqCasCommit
  | enqNotify
  | deqLoadHead
  | deqLoadCommit
  | deqRead
  | deqCasHead
  deriving DecidableEq

/-- Local variables of one thread. `out` is what the consumer's `*element`
    holds and `ret` what the last call returned. -/
structure Local (T : Type) where
  pc      : Pc
  element : T
  out     : T
  oldTail : Nat
  newTail : Nat
  oldHead : Nat
  newHead : Nat
  ret     : Option Bool

/-- Shared state. `enqueued` and `dequeued` are history: the elements of
    the `tail_` advances and the elements returned by the `head_` advances,
    both in order. -/
structure State (Tid T : Type) where
  head     : Nat
  tail     : Nat
  commit   : Nat
  pool     : Nat → T
  loc      : Tid → Local T
  enqueued : List T
  dequeued : List T

/-- `pool_size_` after `Init(size)`: head and tail each occupy a space. -/
def poolSize (size : Nat) : Nat := size + 2

/-- `GetIndex`. -/
def getIndex (size num : Nat) : Nat := num - (num / poolSize size) * poolSize size

variable {Tid T : Type} [DecidableEq Tid]

/-- Functional update of one thread's local variables. -/
def State.setLoc (s : State Tid T) (t : Tid) (l : Local T) : State Tid T :=
  { s with loc := Function.update s.loc t l }

inductive Label (Tid T : Type) where
  | callEnqueue (t : Tid) (x : T)
  | callDequeue (t : Tid) (out : T)
  | enqLoadTail (t : Tid)
  | enqLoadHead (t : Tid)
  | enqCasTail (t : Tid)
  | enqCasTailFail (t : Tid)
  | enqWrite (t : Tid)
  | enqCasCommit (t : Tid)
  | enqCasCommitFail (t : Tid)
  | enqNotify (t : Tid)
  | deqLoadHead (t : Tid)
  | deqLoadCommit (t : Tid)
  | deqRead (t : Tid)
  | deqCasHead (t : Tid)
  | deqCasHeadFail (t : Tid)

/-- The thread that takes the step. -/
def Label.thread {Tid T : Type} : Label Tid T → Tid
  | .callEnqueue t _ | .callDequeue t _ | .enqLoadTail t | .enqLoadHead t | .enqCasTail t
  | .enqCasTailFail t | .enqWrite t | .enqCasCommit t | .enqCasCommitFail t | .enqNotify t
  | .deqLoadHead t | .deqLoadCommit t | .deqRead t | .deqCasHead t | .deqCasHeadFail t => t

/-- The queue after `Init(size)` and the threads that use it. -/
def boundedQueue (size : Nat) [Inhabited T] : System (State Tid T) (Label Tid T) where
  init := fun s =>
    s.head = 0 ∧ s.tail = 1 ∧ s.commit = 1 ∧ (∀ i, s.pool i = default) ∧
    (∀ t, (s.loc t).pc = .idle) ∧ s.enqueued = [] ∧ s.dequeued = []
  action := fun
    | .callEnqueue t x =>
      { gate   := fun s => (s.loc t).pc = .idle
        effect := fun s =>
          s.setLoc t { s.loc t with pc := .enqLoadTail, element := x, ret := none } }
    | .callDequeue t out =>
      { gate   := fun s => (s.loc t).pc = .idle
        effect := fun s =>
          s.setLoc t { s.loc t with pc := .deqLoadHead, out := out, ret := none } }
    | .enqLoadTail t =>
      { gate   := fun s => (s.loc t).pc = .enqLoadTail
        effect := fun s =>
          s.setLoc t { s.loc t with pc := .enqLoadHead, oldTail := s.tail } }
    | .enqLoadHead t =>
      { gate   := fun s => (s.loc t).pc = .enqLoadHead
        effect := fun s =>
          let newTail := (s.loc t).oldTail + 1
          if getIndex size newTail = getIndex size s.head then
            s.setLoc t { s.loc t with pc := .idle, newTail := newTail, ret := some false }
          else
            s.setLoc t { s.loc t with pc := .enqCasTail, newTail := newTail } }
    | .enqCasTail t =>
      { gate   := fun s => (s.loc t).pc = .enqCasTail ∧ s.tail = (s.loc t).oldTail
        effect := fun s =>
          { s.setLoc t { s.loc t with pc := .enqWrite } with
            tail     := (s.loc t).newTail
            enqueued := s.enqueued ++ [(s.loc t).element] } }
    | .enqCasTailFail t =>
      { gate   := fun s => (s.loc t).pc = .enqCasTail
        effect := fun s =>
          s.setLoc t { s.loc t with pc := .enqLoadHead, oldTail := s.tail } }
    | .enqWrite t =>
      { gate   := fun s => (s.loc t).pc = .enqWrite
        effect := fun s =>
          { s.setLoc t { s.loc t with pc := .enqCasCommit } with
            pool := Function.update s.pool (getIndex size (s.loc t).oldTail)
              (s.loc t).element } }
    | .enqCasCommit t =>
      { gate   := fun s => (s.loc t).pc = .enqCasCommit ∧ s.commit = (s.loc t).oldTail
        effect := fun s =>
          { s.setLoc t { s.loc t with pc := .enqNotify } with
            commit := (s.loc t).newTail } }
    | .enqCasCommitFail t =>
      { gate   := fun s => (s.loc t).pc = .enqCasCommit
        effect := fun s => s }
    | .enqNotify t =>
      { gate   := fun s => (s.loc t).pc = .enqNotify
        effect := fun s => s.setLoc t { s.loc t with pc := .idle, ret := some true } }
    | .deqLoadHead t =>
      { gate   := fun s => (s.loc t).pc = .deqLoadHead
        effect := fun s =>
          s.setLoc t { s.loc t with pc := .deqLoadCommit, oldHead := s.head } }
    | .deqLoadCommit t =>
      { gate   := fun s => (s.loc t).pc = .deqLoadCommit
        effect := fun s =>
          let newHead := (s.loc t).oldHead + 1
          if newHead = s.commit then
            s.setLoc t { s.loc t with pc := .idle, newHead := newHead, ret := some false }
          else
            s.setLoc t { s.loc t with pc := .deqRead, newHead := newHead } }
    | .deqRead t =>
      { gate   := fun s => (s.loc t).pc = .deqRead
        effect := fun s =>
          s.setLoc t { s.loc t with
            pc := .deqCasHead, out := s.pool (getIndex size (s.loc t).newHead) } }
    | .deqCasHead t =>
      { gate   := fun s => (s.loc t).pc = .deqCasHead ∧ s.head = (s.loc t).oldHead
        effect := fun s =>
          { s.setLoc t { s.loc t with pc := .idle, ret := some true } with
            head     := (s.loc t).newHead
            dequeued := s.dequeued ++ [(s.loc t).out] } }
    | .deqCasHeadFail t =>
      { gate   := fun s => (s.loc t).pc = .deqCasHead
        effect := fun s =>
          s.setLoc t { s.loc t with pc := .deqLoadCommit, oldHead := s.head } }

/-- Gates of the queue can be evaluated. -/
instance decidableGate (size : Nat) [Inhabited T] (s : State Tid T) :
    ∀ a : Label Tid T, Decidable (((boundedQueue size).action a).gate s)
  | .callEnqueue t _     => inferInstanceAs (Decidable ((s.loc t).pc = .idle))
  | .callDequeue t _     => inferInstanceAs (Decidable ((s.loc t).pc = .idle))
  | .enqLoadTail t       => inferInstanceAs (Decidable ((s.loc t).pc = .enqLoadTail))
  | .enqLoadHead t       => inferInstanceAs (Decidable ((s.loc t).pc = .enqLoadHead))
  | .enqCasTail t        =>
    inferInstanceAs (Decidable ((s.loc t).pc = .enqCasTail ∧ s.tail = (s.loc t).oldTail))
  | .enqCasTailFail t    => inferInstanceAs (Decidable ((s.loc t).pc = .enqCasTail))
  | .enqWrite t          => inferInstanceAs (Decidable ((s.loc t).pc = .enqWrite))
  | .enqCasCommit t      =>
    inferInstanceAs (Decidable ((s.loc t).pc = .enqCasCommit ∧ s.commit = (s.loc t).oldTail))
  | .enqCasCommitFail t  => inferInstanceAs (Decidable ((s.loc t).pc = .enqCasCommit))
  | .enqNotify t         => inferInstanceAs (Decidable ((s.loc t).pc = .enqNotify))
  | .deqLoadHead t       => inferInstanceAs (Decidable ((s.loc t).pc = .deqLoadHead))
  | .deqLoadCommit t     => inferInstanceAs (Decidable ((s.loc t).pc = .deqLoadCommit))
  | .deqRead t           => inferInstanceAs (Decidable ((s.loc t).pc = .deqRead))
  | .deqCasHead t        =>
    inferInstanceAs (Decidable ((s.loc t).pc = .deqCasHead ∧ s.head = (s.loc t).oldHead))
  | .deqCasHeadFail t    => inferInstanceAs (Decidable ((s.loc t).pc = .deqCasHead))

/-- The state `Init` leaves, with every thread outside the queue. -/
def initial [Inhabited T] : State Tid T where
  head     := 0
  tail     := 1
  commit   := 1
  pool     := fun _ => default
  loc      := fun _ => ⟨.idle, default, default, 0, 0, 0, 0, none⟩
  enqueued := []
  dequeued := []

theorem initial_init (size : Nat) [Inhabited T] :
    (boundedQueue size).init (initial : State Tid T) := by
  refine ⟨rfl, rfl, rfl, fun _ => rfl, fun _ => rfl, rfl, rfl⟩

/-! ## Section 2: Small lemmas -/

theorem getIndex_eq_mod (size num : Nat) : getIndex size num = num % poolSize size := by
  unfold getIndex
  rw [Nat.mul_comm]
  exact (Nat.mod_eq_sub_mul_div).symm

@[simp] theorem setLoc_head (s : State Tid T) (t : Tid) (l : Local T) :
    (s.setLoc t l).head = s.head := rfl

@[simp] theorem setLoc_tail (s : State Tid T) (t : Tid) (l : Local T) :
    (s.setLoc t l).tail = s.tail := rfl

@[simp] theorem setLoc_commit (s : State Tid T) (t : Tid) (l : Local T) :
    (s.setLoc t l).commit = s.commit := rfl

@[simp] theorem setLoc_pool (s : State Tid T) (t : Tid) (l : Local T) :
    (s.setLoc t l).pool = s.pool := rfl

@[simp] theorem setLoc_enqueued (s : State Tid T) (t : Tid) (l : Local T) :
    (s.setLoc t l).enqueued = s.enqueued := rfl

@[simp] theorem setLoc_dequeued (s : State Tid T) (t : Tid) (l : Local T) :
    (s.setLoc t l).dequeued = s.dequeued := rfl

@[simp] theorem setLoc_loc_self (s : State Tid T) (t : Tid) (l : Local T) :
    (s.setLoc t l).loc t = l := by
  simp [State.setLoc]

@[simp] theorem setLoc_loc_ne (s : State Tid T) (t u : Tid) (l : Local T) (h : u ≠ t) :
    (s.setLoc t l).loc u = s.loc u := by
  simp [State.setLoc, h]

/-- A thread's local variables are its own. -/
theorem loc_of_thread_ne [Inhabited T] {size : Nat} {s : State Tid T} {t : Tid} {a : Label Tid T}
    (h : a.thread ≠ t) :
    (((boundedQueue size).action a).effect s).loc t = s.loc t := by
  have hne : t ≠ a.thread := fun ht => h ht.symm
  cases a with
  | enqLoadHead u | deqLoadCommit u =>
    simp only [boundedQueue]
    split <;> exact setLoc_loc_ne s u t _ hne
  | enqCasCommitFail u => rfl
  | _ u => exact setLoc_loc_ne s u t _ hne

end CyberRT.Base.BoundedQueue
