import CyberRT.Framework.System

/-! # The unbounded queue

    `UnboundedQueue` is a linked list with a dummy node in front. `Enqueue`
    advances `tail_` to its new node with a compare-and-swap and then links
    the old tail to it; `Dequeue` advances `head_` to the next node and
    copies its data. A node counts the two pointers that leave it behind:
    whoever has advanced one of them releases the node, and the release that
    finds the count at zero deletes it.

    Every load, compare-and-swap, access to a node and step of `release` is
    one step. Nodes are told apart for good, but pointers are compared by
    address, and a deleted node gives its address back. `Size` is one load. -/

namespace CyberRT.Base.UnboundedQueue

open CyberRT.Framework

/-! ## Section 1: State -/

/-- `Node`. `deletions` is history. -/
structure Node (T : Type) where
  address   : Nat
  data      : T
  refCount  : Nat
  next      : Option Nat
  deletions : Nat

/-- The call that a `release` is part of. -/
inductive Call where
  | enqueue
  | dequeue
  deriving DecidableEq

/-- Where a thread stands in `Enqueue` or `Dequeue`, named by the next step,
    with its pointers. `position` is history: which head advance is its own. -/
inductive Pc where
  | idle
  | newNode
  | loadTail (node : Nat)
  | casTail (node oldTail : Nat)
  | linkNext (node oldTail : Nat)
  | addSize
  | loadHead
  | readNext (oldHead : Nat)
  | casHead (oldHead headNext : Nat)
  | readData (oldHead headNext position : Nat)
  | subSize (oldHead : Nat)
  | releaseSub (node : Nat) (call : Call)
  | releaseLoad (node : Nat) (call : Call)
  | deleteThis (node : Nat) (call : Call)
  deriving DecidableEq

/-- Local variables of one thread. `element` is the argument of `Enqueue` or
    what the consumer's `*element` holds, `ret` what the last `Dequeue`
    returned and `size` what the last `Size` returned. -/
structure Local (T : Type) where
  pc      : Pc
  element : T
  ret     : Option Bool
  size    : Option Nat

/-- Shared state. The nodes below `made` have been made. The last four
    fields are history: the calls of `Enqueue` that have started, the nodes
    `tail_` has pointed to, the elements of its advances, and for each
    advance of `head_` the element that its call has copied. -/
structure State (Tid T : Type) where
  nodes    : Nat → Node T
  made     : Nat
  head     : Nat
  tail     : Nat
  size     : Nat
  loc      : Tid → Local T
  started  : Nat
  tails    : List Nat
  enqueued : List T
  dequeued : List (Option T)

def Node.isDeleted {T : Type} (x : Node T) : Bool := x.deletions ≠ 0

/-- `fetch_add(1)` of a `size_t`. -/
def fetchAdd (n : Nat) : Nat := (n + 1) % 2 ^ 64

/-- `fetch_sub(1)` of a `size_t`. -/
def fetchSub (n : Nat) : Nat := (n + (2 ^ 64 - 1)) % 2 ^ 64

/-- `fetch_sub(1)` of a `uint32_t`. -/
def fetchSub32 (n : Nat) : Nat := (n + (2 ^ 32 - 1)) % 2 ^ 32

/-- What follows `release`. -/
def Call.after : Call → Pc
  | .enqueue => .addSize
  | .dequeue => .idle

/-- What the call returns when `release` is over. -/
def Call.ret : Call → Option Bool
  | .enqueue => none
  | .dequeue => some true

/-! ## Section 2: Model -/

section model
variable {Tid T : Type} [DecidableEq Tid]

def State.setLoc (s : State Tid T) (t : Tid) (l : Local T) : State Tid T :=
  { s with loc := Function.update s.loc t l }

def State.setNode (s : State Tid T) (n : Nat) (x : Node T) : State Tid T :=
  { s with nodes := Function.update s.nodes n x }

def State.setPc (s : State Tid T) (t : Tid) (pc : Pc) : State Tid T :=
  s.setLoc t { s.loc t with pc := pc }

/-- The pointers have one address. -/
def State.sameAddress (s : State Tid T) (n m : Nat) : Prop :=
  (s.nodes n).address = (s.nodes m).address

/-- No node that has not been deleted is at the address. -/
def State.freeAddress (s : State Tid T) (address : Nat) : Prop :=
  ∀ n < s.made, (s.nodes n).isDeleted = false → (s.nodes n).address ≠ address

inductive Label (Tid T : Type) where
  | callEnqueue (t : Tid) (x : T)
  | newNode (t : Tid) (address : Nat)
  | loadTail (t : Tid) (node : Nat)
  | casTail (t : Tid) (node oldTail : Nat)
  | casTailFail (t : Tid) (node oldTail : Nat)
  | linkNext (t : Tid) (node oldTail : Nat)
  | addSize (t : Tid)
  | callDequeue (t : Tid) (out : T)
  | loadHead (t : Tid)
  | readNext (t : Tid) (oldHead : Nat)
  | casHead (t : Tid) (oldHead headNext : Nat)
  | casHeadFail (t : Tid) (oldHead headNext : Nat)
  | readData (t : Tid) (oldHead headNext position : Nat)
  | subSize (t : Tid) (oldHead : Nat)
  | releaseSub (t : Tid) (node : Nat) (call : Call)
  | releaseLoad (t : Tid) (node : Nat) (call : Call)
  | deleteThis (t : Tid) (node : Nat) (call : Call)
  | size (t : Tid)

/-- The queue after construction and the threads that use it. -/
def unboundedQueue [Inhabited T] : System (State Tid T) (Label Tid T) where
  init := fun s =>
    s.nodes 0 = ⟨0, default, 2, none, 0⟩ ∧
    (∀ n, 0 < n → (s.nodes n).next = none ∧ (s.nodes n).deletions = 0 ∧
      (s.nodes n).refCount = 0) ∧
    s.made = 1 ∧ s.head = 0 ∧ s.tail = 0 ∧ s.size = 0 ∧
    (∀ t, (s.loc t).pc = .idle ∧ (s.loc t).size = none) ∧
    s.started = 0 ∧ s.tails = [0] ∧ s.enqueued = [] ∧ s.dequeued = []
  action := fun
    | .callEnqueue t x =>
      { gate   := fun s => (s.loc t).pc = .idle
        effect := fun s =>
          { s.setLoc t { s.loc t with pc := .newNode, element := x, ret := none } with
            started := s.started + 1 } }
    | .newNode t address =>
      -- the allocator may hand out the address of a node that was deleted
      { gate   := fun s => (s.loc t).pc = .newNode ∧ s.freeAddress address
        effect := fun s =>
          { (s.setPc t (.loadTail s.made)).setNode s.made
              ⟨address, (s.loc t).element, 2, none, 0⟩ with
            made := s.made + 1 } }
    | .loadTail t node =>
      { gate   := fun s => (s.loc t).pc = .loadTail node
        effect := fun s => s.setPc t (.casTail node s.tail) }
    | .casTail t node oldTail =>
      { gate   := fun s => (s.loc t).pc = .casTail node oldTail ∧ s.sameAddress s.tail oldTail
        -- `old_tail` has the address of the tail, whichever node it once was
        effect := fun s =>
          { s.setPc t (.linkNext node s.tail) with
            tail     := node
            tails    := s.tails ++ [node]
            enqueued := s.enqueued ++ [(s.loc t).element] } }
    | .casTailFail t node oldTail =>
      { gate   := fun s => (s.loc t).pc = .casTail node oldTail ∧ ¬ s.sameAddress s.tail oldTail
        effect := fun s => s.setPc t (.casTail node s.tail) }
    | .linkNext t node oldTail =>
      { gate   := fun s => (s.loc t).pc = .linkNext node oldTail
        -- only now can the node be reached from `head_`
        effect := fun s =>
          (s.setPc t (.releaseSub oldTail .enqueue)).setNode oldTail
            { s.nodes oldTail with next := some node } }
    | .addSize t =>
      { gate   := fun s => (s.loc t).pc = .addSize
        effect := fun s => { s.setPc t .idle with size := fetchAdd s.size } }
    | .callDequeue t out =>
      { gate   := fun s => (s.loc t).pc = .idle
        effect := fun s =>
          s.setLoc t { s.loc t with pc := .loadHead, element := out, ret := none } }
    | .loadHead t =>
      { gate   := fun s => (s.loc t).pc = .loadHead
        effect := fun s => s.setPc t (.readNext s.head) }
    | .readNext t oldHead =>
      { gate   := fun s => (s.loc t).pc = .readNext oldHead
        effect := fun s =>
          match (s.nodes oldHead).next with
          -- also when an `Enqueue` has not linked its node yet
          | none          => s.setLoc t { s.loc t with pc := .idle, ret := some false }
          | some headNext => s.setPc t (.casHead oldHead headNext) }
    | .casHead t oldHead headNext =>
      { gate   := fun s =>
          (s.loc t).pc = .casHead oldHead headNext ∧ s.sameAddress s.head oldHead
        effect := fun s =>
          { s.setPc t (.readData s.head headNext s.dequeued.length) with
            head     := headNext
            dequeued := s.dequeued ++ [none] } }
    | .casHeadFail t oldHead headNext =>
      { gate   := fun s =>
          (s.loc t).pc = .casHead oldHead headNext ∧ ¬ s.sameAddress s.head oldHead
        effect := fun s => s.setPc t (.readNext s.head) }
    | .readData t oldHead headNext position =>
      { gate   := fun s => (s.loc t).pc = .readData oldHead headNext position
        -- nobody holds `head_next` for this read
        effect := fun s =>
          let x := (s.nodes headNext).data
          { s.setLoc t { s.loc t with pc := .subSize oldHead, element := x } with
            dequeued := s.dequeued.set position (some x) } }
    | .subSize t oldHead =>
      { gate   := fun s => (s.loc t).pc = .subSize oldHead
        effect := fun s =>
          { s.setPc t (.releaseSub oldHead .dequeue) with size := fetchSub s.size } }
    | .releaseSub t node call =>
      { gate   := fun s => (s.loc t).pc = .releaseSub node call
        effect := fun s =>
          (s.setPc t (.releaseLoad node call)).setNode node
            { s.nodes node with refCount := fetchSub32 (s.nodes node).refCount } }
    | .releaseLoad t node call =>
      { gate   := fun s => (s.loc t).pc = .releaseLoad node call
        -- the count is loaded again, others may have lowered it meanwhile
        effect := fun s =>
          if (s.nodes node).refCount = 0 then s.setPc t (.deleteThis node call)
          else s.setLoc t { s.loc t with pc := call.after, ret := call.ret } }
    | .deleteThis t node call =>
      { gate   := fun s => (s.loc t).pc = .deleteThis node call
        effect := fun s =>
          (s.setLoc t { s.loc t with pc := call.after, ret := call.ret }).setNode node
            { s.nodes node with deletions := (s.nodes node).deletions + 1 } }
    | .size t =>
      { gate   := fun s => (s.loc t).pc = .idle
        effect := fun s => s.setLoc t { s.loc t with size := some s.size } }

instance decidableSameAddress (s : State Tid T) (n m : Nat) : Decidable (s.sameAddress n m) :=
  inferInstanceAs (Decidable ((s.nodes n).address = (s.nodes m).address))

instance decidableFreeAddress (s : State Tid T) (address : Nat) :
    Decidable (s.freeAddress address) :=
  inferInstanceAs (Decidable (∀ n < s.made, _))

/-- Gates of the queue can be evaluated. -/
instance decidableGate [Inhabited T] (a : Label Tid T) (s : State Tid T) :
    Decidable ((unboundedQueue.action a).gate s) :=
  match a with
  | .callEnqueue t _       => inferInstanceAs (Decidable ((s.loc t).pc = .idle))
  | .newNode t address     =>
    inferInstanceAs (Decidable ((s.loc t).pc = .newNode ∧ s.freeAddress address))
  | .loadTail t node       => inferInstanceAs (Decidable ((s.loc t).pc = .loadTail node))
  | .casTail t node old    =>
    inferInstanceAs (Decidable ((s.loc t).pc = .casTail node old ∧ s.sameAddress s.tail old))
  | .casTailFail t node old =>
    inferInstanceAs (Decidable ((s.loc t).pc = .casTail node old ∧ ¬ s.sameAddress s.tail old))
  | .linkNext t node old   => inferInstanceAs (Decidable ((s.loc t).pc = .linkNext node old))
  | .addSize t             => inferInstanceAs (Decidable ((s.loc t).pc = .addSize))
  | .callDequeue t _       => inferInstanceAs (Decidable ((s.loc t).pc = .idle))
  | .loadHead t            => inferInstanceAs (Decidable ((s.loc t).pc = .loadHead))
  | .readNext t old        => inferInstanceAs (Decidable ((s.loc t).pc = .readNext old))
  | .casHead t old next    =>
    inferInstanceAs (Decidable ((s.loc t).pc = .casHead old next ∧ s.sameAddress s.head old))
  | .casHeadFail t old next =>
    inferInstanceAs (Decidable ((s.loc t).pc = .casHead old next ∧ ¬ s.sameAddress s.head old))
  | .readData t old next k => inferInstanceAs (Decidable ((s.loc t).pc = .readData old next k))
  | .subSize t old         => inferInstanceAs (Decidable ((s.loc t).pc = .subSize old))
  | .releaseSub t n call   => inferInstanceAs (Decidable ((s.loc t).pc = .releaseSub n call))
  | .releaseLoad t n call  => inferInstanceAs (Decidable ((s.loc t).pc = .releaseLoad n call))
  | .deleteThis t n call   => inferInstanceAs (Decidable ((s.loc t).pc = .deleteThis n call))
  | .size t                => inferInstanceAs (Decidable ((s.loc t).pc = .idle))

/-- The state the constructor leaves, with every thread outside the queue. -/
def initial [Inhabited T] : State Tid T where
  nodes    := fun n => ⟨0, default, if n = 0 then 2 else 0, none, 0⟩
  made     := 1
  head     := 0
  tail     := 0
  size     := 0
  loc      := fun _ => ⟨.idle, default, none, none⟩
  started  := 0
  tails    := [0]
  enqueued := []
  dequeued := []

theorem initial_init [Inhabited T] : unboundedQueue.init (initial : State Tid T) := by
  refine ⟨rfl, ?_, rfl, rfl, rfl, rfl, fun _ => ⟨rfl, rfl⟩, rfl, rfl, rfl, rfl⟩
  intro n hn
  exact ⟨rfl, rfl, if_neg (Nat.ne_of_gt hn)⟩

end model

end CyberRT.Base.UnboundedQueue
