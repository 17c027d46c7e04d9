import CyberRT.Framework.Chain
import CyberRT.Framework.System

/-! # The concurrent object pool

    `CCObjectPool` keeps its free nodes in a linked list whose head is one
    wide atomic word: the first node, the number of nodes that are out and a
    tag that counts the changes. `FindFreeHead` takes the first node off and
    `ReleaseObject` puts a node in front, both with a compare-and-swap of the
    whole word.

    A thread may hold an old head, and the link it has read from its first
    node may have changed since. The tag tells: whoever swaps has the head
    of now, and so what it has read is still true.

    Every load, link access and compare-and-swap is one step, the tag is
    unbounded, and a weak compare-and-swap may fail without a reason. The
    object in a node is not part of the model. -/

namespace CyberRT.Base.ObjectPool

open CyberRT.Framework

/-! ## Section 1: State -/

/-- `Head`. -/
structure Head (capacity : Nat) where
  count : Nat
  net   : Int
  node  : Option (Fin capacity)
  deriving DecidableEq

/-- Where a thread stands in `FindFreeHead` or `ReleaseObject`, named by the
    next step. The node is the one it takes off or releases. -/
inductive Pc (capacity : Nat) where
  | idle
  | findLoad
  | findNext
  | findCas (n : Fin capacity)
  | releaseLoad (n : Fin capacity)
  | releaseNext (n : Fin capacity)
  | releaseCas (n : Fin capacity)
  deriving DecidableEq

/-- Local variables of one thread. `ret` is what its last `FindFreeHead`
    returned. -/
structure Local (capacity : Nat) where
  pc      : Pc capacity
  oldHead : Head capacity
  newHead : Head capacity
  ret     : Option Bool

/-- The pool. `handedOut` is history: the nodes that `FindFreeHead` returned
    and that nobody has begun to release, one entry for each holder. -/
structure State (capacity : Nat) (Tid : Type) where
  freeHead  : Head capacity
  next      : Fin capacity → Option (Fin capacity)
  handedOut : List (Fin capacity)
  loc       : Tid → Local capacity

/-- The node of the arena with the index, if there is one. -/
def arena (capacity i : Nat) : Option (Fin capacity) :=
  if h : i < capacity then some ⟨i, h⟩ else none

/-- The node that a thread inside `ReleaseObject` releases. -/
def Pc.releasing {capacity : Nat} : Pc capacity → Option (Fin capacity)
  | .releaseLoad n | .releaseNext n | .releaseCas n => some n
  | _ => none

/-! ## Section 2: Model -/

section model
variable {capacity : Nat} {Tid : Type} [DecidableEq Tid]

def State.setLoc (s : State capacity Tid) (t : Tid) (l : Local capacity) : State capacity Tid :=
  { s with loc := Function.update s.loc t l }

inductive Label (capacity : Nat) (Tid : Type) where
  | find (t : Tid)
  | findLoad (t : Tid)
  | findEmpty (t : Tid)
  | findNext (t : Tid) (n : Fin capacity)
  | findCas (t : Tid) (n : Fin capacity)
  | findCasFail (t : Tid) (n : Fin capacity)
  | release (t : Tid) (n : Fin capacity)
  | releaseLoad (t : Tid) (n : Fin capacity)
  | releaseNext (t : Tid) (n : Fin capacity)
  | releaseCas (t : Tid) (n : Fin capacity)
  | releaseCasFail (t : Tid) (n : Fin capacity)

/-- The pool after construction and the threads that use it. A node is
    released by any thread, once for each holder. -/
def objectPool (capacity : Nat) : System (State capacity Tid) (Label capacity Tid) where
  init := fun s =>
    s.freeHead = ⟨0, 0, arena capacity 0⟩ ∧ (∀ i, s.next i = arena capacity (i + 1)) ∧
    s.handedOut = [] ∧ ∀ t, (s.loc t).pc = .idle
  action := fun
    | .find t =>
      { gate   := fun s => (s.loc t).pc = .idle
        effect := fun s => s.setLoc t { s.loc t with pc := .findLoad, ret := none } }
    | .findLoad t =>
      { gate   := fun s => (s.loc t).pc = .findLoad
        effect := fun s => s.setLoc t { s.loc t with pc := .findNext, oldHead := s.freeHead } }
    | .findEmpty t =>
      { gate   := fun s => (s.loc t).pc = .findNext ∧ (s.loc t).oldHead.node = none
        effect := fun s => s.setLoc t { s.loc t with pc := .idle, ret := some false } }
    | .findNext t n =>
      { gate   := fun s => (s.loc t).pc = .findNext ∧ (s.loc t).oldHead.node = some n
        effect := fun s =>
          let oldHead := (s.loc t).oldHead
          s.setLoc t { s.loc t with
            pc      := .findCas n
            newHead := ⟨oldHead.count + 1, oldHead.net + 1, s.next n⟩ } }
    | .findCas t n =>
      { gate   := fun s => (s.loc t).pc = .findCas n ∧ s.freeHead = (s.loc t).oldHead
        effect := fun s =>
          { s.setLoc t { s.loc t with pc := .idle, ret := some true } with
            freeHead  := (s.loc t).newHead
            handedOut := n :: s.handedOut } }
    | .findCasFail t n =>
      { gate   := fun s => (s.loc t).pc = .findCas n
        effect := fun s => s.setLoc t { s.loc t with pc := .findNext, oldHead := s.freeHead } }
    | .release t n =>
      { gate   := fun s => (s.loc t).pc = .idle ∧ n ∈ s.handedOut
        effect := fun s =>
          { s.setLoc t { s.loc t with pc := .releaseLoad n } with
            handedOut := s.handedOut.erase n } }
    | .releaseLoad t n =>
      { gate   := fun s => (s.loc t).pc = .releaseLoad n
        effect := fun s =>
          s.setLoc t { s.loc t with pc := .releaseNext n, oldHead := s.freeHead } }
    | .releaseNext t n =>
      { gate   := fun s => (s.loc t).pc = .releaseNext n
        effect := fun s =>
          let oldHead := (s.loc t).oldHead
          { s.setLoc t { s.loc t with
              pc      := .releaseCas n
              newHead := ⟨oldHead.count + 1, oldHead.net - 1, some n⟩ } with
            next := Function.update s.next n oldHead.node } }
    | .releaseCas t n =>
      { gate   := fun s => (s.loc t).pc = .releaseCas n ∧ s.freeHead = (s.loc t).oldHead
        effect := fun s =>
          { s.setLoc t { s.loc t with pc := .idle } with freeHead := (s.loc t).newHead } }
    | .releaseCasFail t n =>
      { gate   := fun s => (s.loc t).pc = .releaseCas n
        effect := fun s =>
          s.setLoc t { s.loc t with pc := .releaseNext n, oldHead := s.freeHead } }

instance decidableGate (s : State capacity Tid) :
    ∀ a : Label capacity Tid, Decidable (((objectPool capacity).action a).gate s)
  | .find t             => inferInstanceAs (Decidable ((s.loc t).pc = .idle))
  | .findLoad t         => inferInstanceAs (Decidable ((s.loc t).pc = .findLoad))
  | .findEmpty t        =>
    inferInstanceAs (Decidable ((s.loc t).pc = .findNext ∧ (s.loc t).oldHead.node = none))
  | .findNext t n       =>
    inferInstanceAs (Decidable ((s.loc t).pc = .findNext ∧ (s.loc t).oldHead.node = some n))
  | .findCas t n        =>
    inferInstanceAs (Decidable ((s.loc t).pc = .findCas n ∧ s.freeHead = (s.loc t).oldHead))
  | .findCasFail t n    => inferInstanceAs (Decidable ((s.loc t).pc = .findCas n))
  | .release t n        => inferInstanceAs (Decidable ((s.loc t).pc = .idle ∧ n ∈ s.handedOut))
  | .releaseLoad t n    => inferInstanceAs (Decidable ((s.loc t).pc = .releaseLoad n))
  | .releaseNext t n    => inferInstanceAs (Decidable ((s.loc t).pc = .releaseNext n))
  | .releaseCas t n     =>
    inferInstanceAs (Decidable ((s.loc t).pc = .releaseCas n ∧ s.freeHead = (s.loc t).oldHead))
  | .releaseCasFail t n => inferInstanceAs (Decidable ((s.loc t).pc = .releaseCas n))

/-- The pool after construction, with every thread outside. -/
def initial : State capacity Tid where
  freeHead  := ⟨0, 0, arena capacity 0⟩
  next      := fun i => arena capacity (i + 1)
  handedOut := []
  loc       := fun _ => ⟨.idle, ⟨0, 0, none⟩, ⟨0, 0, none⟩, none⟩

theorem initial_init : (objectPool capacity).init (initial : State capacity Tid) :=
  ⟨rfl, fun _ => rfl, rfl, fun _ => rfl⟩

/-! ## Section 3: Small lemmas -/

@[simp] theorem setLoc_freeHead (s : State capacity Tid) (t : Tid) (l : Local capacity) :
    (s.setLoc t l).freeHead = s.freeHead := rfl

@[simp] theorem setLoc_next (s : State capacity Tid) (t : Tid) (l : Local capacity) :
    (s.setLoc t l).next = s.next := rfl

@[simp] theorem setLoc_handedOut (s : State capacity Tid) (t : Tid) (l : Local capacity) :
    (s.setLoc t l).handedOut = s.handedOut := rfl

@[simp] theorem setLoc_loc (s : State capacity Tid) (t : Tid) (l : Local capacity) :
    (s.setLoc t l).loc = Function.update s.loc t l := rfl

/-- The thread that takes the step. -/
def Label.thread : Label capacity Tid → Tid
  | .find t | .findLoad t | .findEmpty t | .findNext t _ | .findCas t _ | .findCasFail t _
  | .release t _ | .releaseLoad t _ | .releaseNext t _ | .releaseCas t _
  | .releaseCasFail t _ => t

/-- A thread's local variables are its own. -/
theorem loc_of_thread_ne {s : State capacity Tid} {t : Tid} {a : Label capacity Tid}
    (h : a.thread ≠ t) : (((objectPool capacity).action a).effect s).loc t = s.loc t := by
  have hne : t ≠ a.thread := fun ht => h ht.symm
  cases a <;> exact Function.update_of_ne hne _ _

end model

end CyberRT.Base.ObjectPool
