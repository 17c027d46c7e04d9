import CyberRT.Base.BoundedQueueFifo
import CyberRT.Base.UnboundedQueue
import CyberRT.Framework.Tally

/-! # The sizes of the queues

    `BoundedQueue::Size` subtracts two counters that it loads one after the
    other, in an order that the language leaves open; other threads move them
    in between. `UnboundedQueue::Size` loads one counter, to which `Enqueue`
    adds after its element can be taken, and from which `Dequeue` subtracts.
    All of it is unsigned. -/

namespace CyberRT.Base

open CyberRT.Framework

variable {Tid T : Type}

/-! ## Section 1: The bounded queue with Size -/

namespace BoundedQueue

/-- Where a thread stands in `Size`, with the counter it has loaded. -/
inductive SizePc where
  | idle
  | loadHead (tail : Nat)
  | loadTail (head : Nat)
  deriving DecidableEq

/-- A thread's `Size`; `ret` is what the last call returned. -/
structure SizeLocal where
  pc  : SizePc
  ret : Option Nat

structure SizedState (Tid T : Type) where
  queue : State Tid T
  sizes : Tid → SizeLocal

/-- `tail_ - head_ - 1` in `uint64_t`. -/
def sizeValue (tail head : Nat) : Nat := (((tail : Int) - head - 1) % 2 ^ 64).toNat

inductive SizedLabel (Tid T : Type) where
  | queue (a : Label Tid T)
  | tailFirst (t : Tid)
  | headFirst (t : Tid)
  | thenHead (t : Tid) (tail : Nat)
  | thenTail (t : Tid) (head : Nat)

section model
variable [DecidableEq Tid] [Inhabited T]

def SizedState.setSize (s : SizedState Tid T) (t : Tid) (l : SizeLocal) : SizedState Tid T :=
  { s with sizes := Function.update s.sizes t l }

/-- The queue and the calls of `Size`, by threads that are not in another
    call. -/
def sizedQueue (size : Nat) : System (SizedState Tid T) (SizedLabel Tid T) where
  init := fun s => (boundedQueue size).init s.queue ∧ ∀ t, s.sizes t = ⟨.idle, none⟩
  action := fun
    | .queue a =>
      { gate   := fun s =>
          ((boundedQueue size).action a).gate s.queue ∧ (s.sizes a.thread).pc = .idle
        effect := fun s => { s with queue := ((boundedQueue size).action a).effect s.queue } }
    | .tailFirst t =>
      { gate   := fun s => (s.queue.loc t).pc = .idle ∧ (s.sizes t).pc = .idle
        effect := fun s => s.setSize t { s.sizes t with pc := .loadHead s.queue.tail } }
    | .headFirst t =>
      { gate   := fun s => (s.queue.loc t).pc = .idle ∧ (s.sizes t).pc = .idle
        effect := fun s => s.setSize t { s.sizes t with pc := .loadTail s.queue.head } }
    | .thenHead t tail =>
      { gate   := fun s => (s.sizes t).pc = .loadHead tail
        effect := fun s => s.setSize t ⟨.idle, some (sizeValue tail s.queue.head)⟩ }
    | .thenTail t head =>
      { gate   := fun s => (s.sizes t).pc = .loadTail head
        effect := fun s => s.setSize t ⟨.idle, some (sizeValue s.queue.tail head)⟩ }

instance decidableSizedGate (size : Nat) (a : SizedLabel Tid T) (s : SizedState Tid T) :
    Decidable (((sizedQueue size).action a).gate s) :=
  match a with
  | .queue a         =>
    inferInstanceAs (Decidable
      (((boundedQueue size).action a).gate s.queue ∧ (s.sizes a.thread).pc = .idle))
  | .tailFirst t     =>
    inferInstanceAs (Decidable ((s.queue.loc t).pc = .idle ∧ (s.sizes t).pc = .idle))
  | .headFirst t     =>
    inferInstanceAs (Decidable ((s.queue.loc t).pc = .idle ∧ (s.sizes t).pc = .idle))
  | .thenHead t tail => inferInstanceAs (Decidable ((s.sizes t).pc = .loadHead tail))
  | .thenTail t head => inferInstanceAs (Decidable ((s.sizes t).pc = .loadTail head))

def sizedInitial : SizedState Tid T := ⟨initial, fun _ => ⟨.idle, none⟩⟩

theorem sizedInitial_init (size : Nat) :
    (sizedQueue size).init (sizedInitial : SizedState Tid T) :=
  ⟨initial_init size, fun _ => rfl⟩

end model

/-! ## Section 2: The range of the bounded size -/

/-- The counters are in the range of the one that a pending `Size` has
    loaded: `head_` has not come up to the tail it knows, and `tail_` is no
    further than a full queue behind the head it knows. -/
def SizePc.InRange (size head tail : Nat) : SizePc → Prop
  | .idle          => True
  | .loadHead tail₀ => head < tail₀
  | .loadTail head₀ => tail ≤ head₀ + size + 1

instance decidableInRange (size head tail : Nat) :
    ∀ pc, Decidable (SizePc.InRange size head tail pc)
  | .idle           => .isTrue trivial
  | .loadHead tail₀ => inferInstanceAs (Decidable (head < tail₀))
  | .loadTail head₀ => inferInstanceAs (Decidable (tail ≤ head₀ + size + 1))

/-- **Condition** on the steps: the advance of a counter stays in the range
    of every pending `Size`. -/
def KeepsRange (size : Nat) (s : SizedState Tid T) : SizedLabel Tid T → Prop
  | .queue (.deqCasHead t) =>
    ∀ u, (s.sizes u).pc.InRange size (s.queue.loc t).newHead s.queue.tail
  | .queue (.enqCasTail t) =>
    ∀ u, (s.sizes u).pc.InRange size s.queue.head (s.queue.loc t).newTail
  | _ => True

/-- What a pending `Size` has loaded is a value of an earlier moment. -/
def SizePc.Old (head tail : Nat) : SizePc → Prop
  | .idle           => True
  | .loadHead tail₀ => tail₀ ≤ tail
  | .loadTail head₀ => head₀ ≤ head

/-- **Invariant**. -/
structure SizedInv (size : Nat) (s : SizedState Tid T) : Prop where
  queue : Inv size s.queue
  old   : ∀ t, (s.sizes t).pc.Old s.queue.head s.queue.tail
  range : ∀ t, (s.sizes t).pc.InRange size s.queue.head s.queue.tail
  ret   : ∀ t v, (s.sizes t).ret = some v → v ≤ size

theorem sizeValue_le {size tail head : Nat} (hlt : head < tail) (hle : tail ≤ head + size + 1) :
    sizeValue tail head ≤ size := by
  unfold sizeValue
  omega

section steps
variable [DecidableEq Tid] [Inhabited T] {size : Nat} {s : SizedState Tid T}

omit [Inhabited T] in
/-- **Frame rule**: a thread takes a step of `Size`. -/
theorem SizedInv.setSize (h : SizedInv size s) (t : Tid) (l : SizeLocal)
    (hold : l.pc.Old s.queue.head s.queue.tail)
    (hrange : l.pc.InRange size s.queue.head s.queue.tail)
    (hret : ∀ v, l.ret = some v → v ≤ size) : SizedInv size (s.setSize t l) := by
  have hall : ∀ u, (Function.update s.sizes t l u).pc.Old s.queue.head s.queue.tail ∧
      (Function.update s.sizes t l u).pc.InRange size s.queue.head s.queue.tail ∧
      ∀ v, (Function.update s.sizes t l u).ret = some v → v ≤ size := by
    intro u
    by_cases hu : u = t
    · rw [hu, Function.update_self]
      exact ⟨hold, hrange, hret⟩
    · rw [Function.update_of_ne hu]
      exact ⟨h.old u, h.range u, h.ret u⟩
  exact ⟨h.queue, fun u => (hall u).1, fun u => (hall u).2.1, fun u => (hall u).2.2⟩

omit [DecidableEq Tid] [Inhabited T] in
/-- **Frame rule**: the queue takes a step. -/
theorem SizedInv.setQueue {q : State Tid T} (h : SizedInv size s) (hq : Inv size q)
    (hhead : s.queue.head ≤ q.head) (htail : s.queue.tail ≤ q.tail)
    (hrange : ∀ u, (s.sizes u).pc.InRange size q.head q.tail) :
    SizedInv size { s with queue := q } := by
  refine ⟨hq, ?_, hrange, h.ret⟩
  intro u
  have hold := h.old u
  show (s.sizes u).pc.Old q.head q.tail
  cases hpc : (s.sizes u).pc <;> rw [hpc] at hold <;> unfold SizePc.Old at *
  case idle     => trivial
  case loadHead => omega
  case loadTail => omega

/-- Only two steps move the counters of the queue. -/
theorem counters_same {a : Label Tid T} {q : State Tid T} (hcas : ∀ t, a ≠ .enqCasTail t)
    (hcas' : ∀ t, a ≠ .deqCasHead t) :
    (((boundedQueue size).action a).effect q).head = q.head ∧
      (((boundedQueue size).action a).effect q).tail = q.tail := by
  cases a with
  | enqCasTail t => exact absurd rfl (hcas t)
  | deqCasHead t => exact absurd rfl (hcas' t)
  | enqLoadHead t =>
    dsimp only [boundedQueue]
    split <;> exact ⟨rfl, rfl⟩
  | deqLoadCommit t =>
    dsimp only [boundedQueue]
    split <;> exact ⟨rfl, rfl⟩
  | _ => exact ⟨rfl, rfl⟩

/-- **Step lemma**. -/
theorem sizedInv_step (a : SizedLabel Tid T) (h : SizedInv size s)
    (hg : ((sizedQueue size).action a).gate s) (hok : KeepsRange size s a) :
    SizedInv size (((sizedQueue size).action a).effect s) := by
  have hqueue := h.queue
  have hlt := hqueue.head_lt_commit
  have hle := hqueue.commit_le_tail
  have hfull := hqueue.tail_le
  cases a with
  | tailFirst t =>
    exact h.setSize t _ (Nat.le_refl _) (show s.queue.head < s.queue.tail by omega) (h.ret t)
  | headFirst t => exact h.setSize t _ (Nat.le_refl _) hfull (h.ret t)
  | thenHead t tail₀ =>
    have hold := h.old t
    have hrange := h.range t
    rw [show (s.sizes t).pc = .loadHead tail₀ from hg] at hold hrange
    -- the tail it knows is an old one, and `head_` has not come up to it
    have htail : tail₀ ≤ s.queue.tail := hold
    have hvalue : sizeValue tail₀ s.queue.head ≤ size := sizeValue_le hrange (by omega)
    apply h.setSize t ⟨.idle, _⟩ trivial trivial
    intro v hv
    rw [← Option.some.inj hv]
    exact hvalue
  | thenTail t head₀ =>
    have hold := h.old t
    have hrange := h.range t
    rw [show (s.sizes t).pc = .loadTail head₀ from hg] at hold hrange
    -- the head it knows is an old one, and `tail_` is not too far from it
    have hhead : head₀ ≤ s.queue.head := hold
    have hvalue : sizeValue s.queue.tail head₀ ≤ size := sizeValue_le (by omega) hrange
    apply h.setSize t ⟨.idle, _⟩ trivial trivial
    intro v hv
    rw [← Option.some.inj hv]
    exact hvalue
  | queue a =>
    have hq := hqueue.step a hg.1
    -- the steps that move a counter are those the condition is about
    by_cases hcas : ∃ t, a = .enqCasTail t
    · obtain ⟨t, rfl⟩ := hcas
      have hthread := hqueue.threads t
      simp only [ThreadInv, hg.1.1] at hthread
      have hnew := hthread.1
      have hnow := hg.1.2
      exact h.setQueue hq (Nat.le_refl _) (show s.queue.tail ≤ (s.queue.loc t).newTail by omega) hok
    by_cases hcas' : ∃ t, a = .deqCasHead t
    · obtain ⟨t, rfl⟩ := hcas'
      have hthread := hqueue.threads t
      simp only [ThreadInv, hg.1.1] at hthread
      have hnew := hthread.1
      have hnow := hg.1.2
      exact h.setQueue hq (show s.queue.head ≤ (s.queue.loc t).newHead by omega) (Nat.le_refl _) hok
    have hne : ∀ t, a ≠ .enqCasTail t := fun t ht => hcas ⟨t, ht⟩
    have hne' : ∀ t, a ≠ .deqCasHead t := fun t ht => hcas' ⟨t, ht⟩
    have hhead : (((boundedQueue size).action a).effect s.queue).head = s.queue.head :=
      (counters_same hne hne').1
    have htail : (((boundedQueue size).action a).effect s.queue).tail = s.queue.tail :=
      (counters_same hne hne').2
    apply h.setQueue hq (Nat.le_of_eq hhead.symm) (Nat.le_of_eq htail.symm)
    intro u
    rw [hhead, htail]
    exact h.range u

/-- **Run lemma**. -/
theorem sizedInv_reachable (h : ((sizedQueue size).restrict (KeepsRange size)).Reachable s) :
    SizedInv size s := by
  apply System.invariant _ _ h
  · intro s hi
    obtain ⟨hqueue, hidle⟩ := hi
    refine ⟨inv_init hqueue, ?_, ?_, ?_⟩
    · intro t
      rw [hidle t]
      trivial
    · intro t
      rw [hidle t]
      trivial
    · intro t v hv
      rw [hidle t] at hv
      cases hv
  · intro s a hinv hg
    exact sizedInv_step a hinv hg.1 hg.2

end steps

end BoundedQueue

/-! ## Section 3: The unbounded size -/

namespace UnboundedQueue

/-- What a call still has to do for `size_`: it will advance `tail_` and add,
    it has advanced `tail_` and will add, or it has advanced `head_` and will
    subtract. -/
inductive Stage where
  | entering
  | adding
  | taking
  deriving DecidableEq

def Call.stage : Call → Option Stage
  | .enqueue => some .adding
  | .dequeue => none

def Pc.stage : Pc → Option Stage
  | .newNode | .loadTail _ | .casTail _ _ => some .entering
  | .linkNext _ _ | .addSize => some .adding
  | .readData _ _ _ | .subSize _ => some .taking
  | .releaseSub _ call | .releaseLoad _ call | .deleteThis _ call => call.stage
  | .idle | .loadHead | .readNext _ | .casHead _ _ => none

@[simp] theorem stage_after (call : Call) : call.after.stage = call.stage := by
  cases call <;> rfl

/-- `size_` is what was added without what was subtracted. The numbers are
    `size_`, the advances of `tail_` and of `head_`, the started calls of
    `Enqueue`, and the calls at each stage. -/
structure Numbers (size tails heads started entering adding taking : Nat) : Prop where
  adding_le  : adding ≤ tails
  taking_le  : taking ≤ heads
  ordered    : heads + adding ≤ tails + taking
  size_eq    : size = (tails + taking - (heads + adding)) % 2 ^ 64
  started_le : tails + entering ≤ started

namespace Numbers

variable {size tails heads started entering adding taking : Nat}

theorem size_le (h : Numbers size tails heads started entering adding taking) :
    size ≤ started := by
  obtain ⟨hadding, htaking, hordered, hsize, hstarted⟩ := h
  have hmod := Nat.mod_le (tails + taking - (heads + adding)) (2 ^ 64)
  omega

theorem enter (h : Numbers size tails heads started entering adding taking) :
    Numbers size tails heads (started + 1) (entering + 1) adding taking := by
  obtain ⟨hadding, htaking, hordered, hsize, hstarted⟩ := h
  exact ⟨hadding, htaking, hordered, hsize, by omega⟩

theorem advanceTail (h : Numbers size tails heads started (entering + 1) adding taking) :
    Numbers size (tails + 1) heads started entering (adding + 1) taking := by
  obtain ⟨hadding, htaking, hordered, hsize, hstarted⟩ := h
  constructor <;> omega

theorem add (h : Numbers size tails heads started entering (adding + 1) taking) :
    Numbers (fetchAdd size) tails heads started entering adding taking := by
  obtain ⟨hadding, htaking, hordered, hsize, hstarted⟩ := h
  unfold fetchAdd
  constructor <;> omega

theorem advanceHead (h : Numbers size tails heads started entering adding taking) :
    Numbers size tails (heads + 1) started entering adding (taking + 1) := by
  obtain ⟨hadding, htaking, hordered, hsize, hstarted⟩ := h
  constructor <;> omega

/-- Something that was added is left. -/
theorem subtract (h : Numbers size tails heads started entering adding (taking + 1))
    (hleft : heads + adding < tails + (taking + 1)) :
    Numbers (fetchSub size) tails heads started entering adding taking := by
  obtain ⟨hadding, htaking, hordered, hsize, hstarted⟩ := h
  unfold fetchSub
  constructor <;> omega

end Numbers

section counts
variable [Fintype Tid] {s s' : State Tid T} {t : Tid} {l : Local T}

/-- How many calls are at the stage. -/
def State.stages (s : State Tid T) (x : Stage) : Nat :=
  tally (fun l : Local T => l.pc.stage = some x) s.loc

/-- **Condition** on the steps: when a `Dequeue` subtracts, the `Enqueue`s
    that have their element in the queue and have not added yet are fewer
    than the elements in the queue and the `Dequeue`s that have taken one and
    not subtracted yet. -/
def AddsInTime (s : State Tid T) : Label Tid T → Prop
  | .subSize _ _ =>
    s.dequeued.length + s.stages .adding < s.enqueued.length + s.stages .taking
  | _ => True

def State.Numbers (s : State Tid T) : Prop :=
  UnboundedQueue.Numbers s.size s.enqueued.length s.dequeued.length s.started
    (s.stages .entering) (s.stages .adding) (s.stages .taking)

/-- **Invariant**. -/
structure SizeInv (s : State Tid T) : Prop where
  numbers : s.Numbers
  ret     : ∀ t v, (s.loc t).size = some v → v ≤ s.started

variable [DecidableEq Tid]

/-- **One thread moves**. -/
theorem stages_move (hloc : s'.loc = Function.update s.loc t l) (x : Stage) :
    s'.stages x + (if (s.loc t).pc.stage = some x then 1 else 0) =
      s.stages x + (if l.pc.stage = some x then 1 else 0) := by
  unfold State.stages
  rw [hloc]
  exact tally_update (fun l : Local T => l.pc.stage = some x) s.loc t l

/-- **Frame rule**: one thread moves. -/
theorem SizeInv.frame (h : SizeInv s) (hloc : s'.loc = Function.update s.loc t l)
    (hstarted : s.started ≤ s'.started) (hl : ∀ v, l.size = some v → v ≤ s.started)
    (hnumbers : s'.Numbers) : SizeInv s' := by
  refine ⟨hnumbers, ?_⟩
  intro u v hv
  apply Nat.le_trans _ hstarted
  rw [hloc] at hv
  by_cases hu : u = t
  · rw [hu, Function.update_self] at hv
    exact hl v hv
  · rw [Function.update_of_ne hu] at hv
    exact h.ret u v hv

/-- A step at one stage. -/
theorem SizeInv.stay (h : SizeInv s) (hloc : s'.loc = Function.update s.loc t l)
    (hstage : l.pc.stage = (s.loc t).pc.stage) (henq : s'.enqueued = s.enqueued)
    (hdeq : s'.dequeued.length = s.dequeued.length) (hsize : s'.size = s.size)
    (hstarted : s'.started = s.started) (hl : ∀ v, l.size = some v → v ≤ s.started) :
    SizeInv s' := by
  have hsame : ∀ x, s'.stages x = s.stages x := by
    intro x
    have hmove := stages_move hloc x
    rw [hstage] at hmove
    omega
  apply h.frame hloc (Nat.le_of_eq hstarted.symm) hl
  unfold State.Numbers
  rw [hsame, hsame, hsame, henq, hdeq, hsize, hstarted]
  exact h.numbers

variable [Inhabited T]

/-- **Step lemma**. -/
theorem sizeInv_step (a : Label Tid T) (h : SizeInv s) (hg : (unboundedQueue.action a).gate s)
    (hok : AddsInTime s a) : SizeInv ((unboundedQueue.action a).effect s) := by
  have hnumbers : Numbers _ _ _ _ _ _ _ := h.numbers
  cases a with
  | callEnqueue t x =>
    set s' := (unboundedQueue.action (.callEnqueue t x)).effect s
    have hloc : s'.loc =
        Function.update s.loc t { s.loc t with pc := .newNode, element := x, ret := none } := rfl
    have hmove := stages_move hloc
    simp only [show (s.loc t).pc = .idle from hg, Pc.stage, reduceCtorEq, if_false,
      Option.some.injEq] at hmove
    have hentering : s'.stages .entering = s.stages .entering + 1 := hmove .entering
    have hadding : s'.stages .adding = s.stages .adding := hmove .adding
    have htaking : s'.stages .taking = s.stages .taking := hmove .taking
    apply h.frame hloc (Nat.le_succ _) (h.ret t)
    unfold State.Numbers
    rw [hentering, hadding, htaking]
    exact hnumbers.enter
  | casTail t node oldTail =>
    set s' := (unboundedQueue.action (.casTail t node oldTail)).effect s
    have hloc : s'.loc = Function.update s.loc t { s.loc t with pc := .linkNext node s.tail } := rfl
    have hmove := stages_move hloc
    simp only [hg.1, Pc.stage, Option.some.injEq] at hmove
    have hentering : s.stages .entering = s'.stages .entering + 1 := (hmove .entering).symm
    have hadding : s'.stages .adding = s.stages .adding + 1 := hmove .adding
    have htaking : s'.stages .taking = s.stages .taking := hmove .taking
    have henq : s'.enqueued.length = s.enqueued.length + 1 := List.length_append
    apply h.frame hloc (Nat.le_refl _) (h.ret t)
    unfold State.Numbers
    rw [hentering] at hnumbers
    rw [hadding, htaking, henq]
    exact hnumbers.advanceTail
  | addSize t =>
    set s' := (unboundedQueue.action (.addSize t)).effect s
    have hloc : s'.loc = Function.update s.loc t { s.loc t with pc := .idle } := rfl
    have hmove := stages_move hloc
    simp only [show (s.loc t).pc = .addSize from hg, Pc.stage, reduceCtorEq, if_false,
      Option.some.injEq] at hmove
    have hentering : s'.stages .entering = s.stages .entering := hmove .entering
    have hadding : s.stages .adding = s'.stages .adding + 1 := (hmove .adding).symm
    have htaking : s'.stages .taking = s.stages .taking := hmove .taking
    apply h.frame hloc (Nat.le_refl _) (h.ret t)
    unfold State.Numbers
    rw [hadding] at hnumbers
    rw [hentering, htaking]
    exact hnumbers.add
  | casHead t oldHead headNext =>
    set s' := (unboundedQueue.action (.casHead t oldHead headNext)).effect s
    have hloc : s'.loc = Function.update s.loc t
        { s.loc t with pc := .readData s.head headNext s.dequeued.length } := rfl
    have hmove := stages_move hloc
    simp only [hg.1, Pc.stage, reduceCtorEq, if_false, Option.some.injEq] at hmove
    have hentering : s'.stages .entering = s.stages .entering := hmove .entering
    have hadding : s'.stages .adding = s.stages .adding := hmove .adding
    have htaking : s'.stages .taking = s.stages .taking + 1 := hmove .taking
    have hdeq : s'.dequeued.length = s.dequeued.length + 1 := List.length_append
    apply h.frame hloc (Nat.le_refl _) (h.ret t)
    unfold State.Numbers
    rw [hentering, hadding, htaking, hdeq]
    exact hnumbers.advanceHead
  | subSize t oldHead =>
    set s' : State Tid T :=
      { s.setPc t (.releaseSub oldHead .dequeue) with size := fetchSub s.size }
    have hloc : s'.loc =
        Function.update s.loc t { s.loc t with pc := .releaseSub oldHead .dequeue } := rfl
    have hmove := stages_move hloc
    simp only [show (s.loc t).pc = .subSize oldHead from hg, Pc.stage, Call.stage, reduceCtorEq,
      if_false, Option.some.injEq] at hmove
    have hentering : s'.stages .entering = s.stages .entering := hmove .entering
    have hadding : s'.stages .adding = s.stages .adding := hmove .adding
    have htaking : s.stages .taking = s'.stages .taking + 1 := (hmove .taking).symm
    -- `size_` is not zero, so the subtraction does not wrap
    have hleft : s.dequeued.length + s.stages .adding < s.enqueued.length + s.stages .taking := hok
    apply h.frame hloc (Nat.le_refl _) (h.ret t)
    unfold State.Numbers
    rw [htaking] at hnumbers hleft
    rw [hentering, hadding]
    exact hnumbers.subtract hleft
  | size t =>
    -- it loads `size_`
    have hl : ∀ v, some s.size = some v → v ≤ s.started := by
      intro v hv
      rw [← Option.some.inj hv]
      exact hnumbers.size_le
    exact h.stay (t := t) rfl rfl rfl rfl rfl rfl hl
  | releaseLoad t node call =>
    dsimp only [unboundedQueue]
    split
    · exact h.stay (t := t) rfl (by rw [hg]; rfl) rfl rfl rfl rfl (h.ret t)
    · exact h.stay (t := t) rfl (by rw [hg]; exact stage_after call) rfl rfl rfl rfl (h.ret t)
  | deleteThis t node call =>
    exact h.stay (t := t) rfl (by rw [hg]; exact stage_after call) rfl rfl rfl rfl (h.ret t)
  | readNext t oldHead =>
    dsimp only [unboundedQueue]
    split
    · exact h.stay (t := t) rfl (by rw [hg]; rfl) rfl rfl rfl rfl (h.ret t)
    · exact h.stay (t := t) rfl (by rw [hg]; rfl) rfl rfl rfl rfl (h.ret t)
  | readData t oldHead headNext k =>
    exact h.stay (t := t) rfl (by rw [hg]; rfl) rfl List.length_set rfl rfl (h.ret t)
  | newNode t address | casTailFail t node old | casHeadFail t old next =>
    exact h.stay (t := t) rfl (by rw [hg.1]; rfl) rfl rfl rfl rfl (h.ret t)
  | loadTail t node | linkNext t node old | callDequeue t out | loadHead t
  | releaseSub t node call =>
    exact h.stay (t := t) rfl (by rw [hg]; rfl) rfl rfl rfl rfl (h.ret t)

/-- **Run lemma**. -/
theorem sizeInv_reachable (h : (unboundedQueue.restrict AddsInTime).Reachable s) : SizeInv s := by
  apply System.invariant _ _ h
  · intro s hi
    obtain ⟨_, _, _, _, _, hsize, hidle, hstarted, _, henq, hdeq⟩ := hi
    have hnone : ∀ x, s.stages x = 0 := by
      intro x
      apply tally_eq_zero_iff.mpr
      intro t
      simp [(hidle t).1, Pc.stage]
    constructor
    case numbers =>
      unfold State.Numbers
      rw [hnone, hnone, hnone, hsize, hstarted, henq, hdeq]
      simp only [List.length_nil]
      constructor <;> omega
    case ret =>
      intro t v hv
      rw [(hidle t).2] at hv
      cases hv
  · intro s a hinv hg
    exact sizeInv_step a hinv hg.1 hg.2

end counts

end UnboundedQueue

/-! ## Section 4: The range of both sizes -/

section sizes
variable [Fintype Tid] [DecidableEq Tid] [Inhabited T]

/-- **Range**: in every run whose steps meet the conditions, what `Size` of
    the bounded queue returns is at most the size given to `Init`, and what
    `Size` of the unbounded queue returns is at most the number of calls of
    `Enqueue` that have started. -/
theorem sizes_inRange :
    (∀ (size : Nat) (s : BoundedQueue.SizedState Tid T),
      ((BoundedQueue.sizedQueue size).restrict (BoundedQueue.KeepsRange size)).Reachable s →
        ∀ t v, (s.sizes t).ret = some v → v ≤ size) ∧
    ∀ s : UnboundedQueue.State Tid T,
      (UnboundedQueue.unboundedQueue.restrict UnboundedQueue.AddsInTime).Reachable s →
        s.size ≤ s.started ∧ ∀ t v, (s.loc t).size = some v → v ≤ s.started := by
  constructor
  · intro size s h
    exact (BoundedQueue.sizedInv_reachable h).ret
  · intro s h
    have hinv := UnboundedQueue.sizeInv_reachable h
    exact ⟨hinv.numbers.size_le, hinv.ret⟩

end sizes

namespace BoundedQueue

instance decidableKeepsRange [Fintype Tid] (size : Nat) (s : SizedState Tid T) :
    ∀ a, Decidable (KeepsRange size s a)
  | .queue (.deqCasHead t) => inferInstanceAs (Decidable
      (∀ u, (s.sizes u).pc.InRange size (s.queue.loc t).newHead s.queue.tail))
  | .queue (.enqCasTail t) => inferInstanceAs (Decidable
      (∀ u, (s.sizes u).pc.InRange size s.queue.head (s.queue.loc t).newTail))
  | .queue (.callEnqueue ..) | .queue (.callDequeue ..) | .queue (.enqLoadTail _)
  | .queue (.enqLoadHead _) | .queue (.enqCasTailFail _) | .queue (.enqWrite _)
  | .queue (.enqCasCommit _) | .queue (.enqCasCommitFail _) | .queue (.enqNotify _)
  | .queue (.deqLoadHead _) | .queue (.deqLoadCommit _) | .queue (.deqRead _)
  | .queue (.deqCasHeadFail _) | .tailFirst _ | .headFirst _ | .thenHead .. | .thenTail .. =>
    .isTrue trivial

/-- An `Enqueue` and a `Dequeue` of it, by one thread. -/
def throughQueue (t : Bool) : List (SizedLabel Bool Nat) :=
  [.callEnqueue t 7, .enqLoadTail t, .enqLoadHead t, .enqCasTail t, .enqWrite t, .enqCasCommit t,
    .enqNotify t, .callDequeue t 0, .deqLoadHead t, .deqLoadCommit t, .deqRead t,
    .deqCasHead t].map .queue

/-- Another `Enqueue` up to the advance of `tail_`. -/
def enqueueNext (t : Bool) : List (SizedLabel Bool Nat) :=
  [.callEnqueue t 8, .enqLoadTail t, .enqLoadHead t, .enqCasTail t].map .queue

/-- `Size` loads `tail_` behind an element and `head_` when it is gone. -/
def sizeBehind : List (SizedLabel Bool Nat) :=
  [.tailFirst true] ++ throughQueue false ++ [.thenHead true 1]

/-- `Size` loads `head_` first, and an element goes and another one comes. -/
def sizeAhead : List (SizedLabel Bool Nat) :=
  [.headFirst true] ++ throughQueue false ++ enqueueNext false ++ [.thenTail true 0]

/-- `Size` is called around an `Enqueue`. -/
def sizeOfOne : List (SizedLabel Bool Nat) :=
  [.headFirst true] ++ enqueueNext false ++ [.thenTail true 0]

end BoundedQueue

namespace UnboundedQueue

instance decidableAddsInTime [Fintype Tid] (s : State Tid T) : ∀ a, Decidable (AddsInTime s a)
  | .subSize _ _ => inferInstanceAs (Decidable
      (s.dequeued.length + s.stages .adding < s.enqueued.length + s.stages .taking))
  | .callEnqueue .. | .newNode .. | .loadTail .. | .casTail .. | .casTailFail .. | .linkNext ..
  | .addSize .. | .callDequeue .. | .loadHead .. | .readNext .. | .casHead .. | .casHeadFail ..
  | .readData .. | .releaseSub .. | .releaseLoad .. | .deleteThis .. | .size .. => .isTrue trivial

/-- An `Enqueue` by the first thread up to its `release`. -/
def enqueueLinked : List (Label Bool Nat) :=
  [.callEnqueue false 7, .newNode false 1, .loadTail false 1, .casTail false 1 0,
    .linkNext false 1 0]

/-- A `Dequeue` of its element, and a `Size`, by the other thread. -/
def dequeueAndSize : List (Label Bool Nat) :=
  [.callDequeue true 0, .loadHead true, .readNext true 0, .casHead true 0 1, .readData true 0 1 0,
    .subSize true 0, .releaseSub true 0 .dequeue, .releaseLoad true 0 .dequeue, .size true]

/-- The element is taken before `Enqueue` adds. -/
def takenEarly : List (Label Bool Nat) := enqueueLinked ++ dequeueAndSize

/-- `Enqueue` ends and `Size` is called. -/
def sizeAfterEnqueue : List (Label Bool Nat) :=
  enqueueLinked ++ [.releaseSub false 0 .enqueue, .releaseLoad false 0 .enqueue, .addSize false,
    .size true]

end UnboundedQueue

/-- Both queues with one element. -/
theorem sizes_inRange_one :
    (∀ t v, ((((BoundedQueue.sizedQueue 1).restrict (BoundedQueue.KeepsRange 1)).exec
      BoundedQueue.sizedInitial BoundedQueue.sizeOfOne).sizes t).ret = some v → v ≤ 1) ∧
    (((BoundedQueue.sizedQueue 1).exec BoundedQueue.sizedInitial
      BoundedQueue.sizeOfOne).sizes true).ret = some 1 ∧
    ((UnboundedQueue.unboundedQueue.restrict UnboundedQueue.AddsInTime).exec
      UnboundedQueue.initial UnboundedQueue.sizeAfterEnqueue).size ≤ 1 ∧
    ((UnboundedQueue.unboundedQueue.exec UnboundedQueue.initial
      UnboundedQueue.sizeAfterEnqueue).loc true).size = some 1 := by
  have hbounded := System.reachable_exec
    ((BoundedQueue.sizedQueue 1).restrict (BoundedQueue.KeepsRange 1))
    (BoundedQueue.sizedInitial_init 1) BoundedQueue.sizeOfOne (by decide)
  have hunbounded := System.reachable_exec
    (UnboundedQueue.unboundedQueue.restrict UnboundedQueue.AddsInTime)
    UnboundedQueue.initial_init UnboundedQueue.sizeAfterEnqueue (by decide)
  exact ⟨sizes_inRange.1 1 _ hbounded, by decide, (sizes_inRange.2 _ hunbounded).1, by decide⟩

/-- All of them return more than that: 2 in a queue of size 1, or nearly 2 ^ 64. -/
theorem sizes_outOfRange :
    (∃ s, (BoundedQueue.sizedQueue 1).Reachable s ∧
      s = (BoundedQueue.sizedQueue 1).exec BoundedQueue.sizedInitial BoundedQueue.sizeBehind ∧
      (s.sizes true).ret = some (2 ^ 64 - 1)) ∧
    (∃ s, (BoundedQueue.sizedQueue 1).Reachable s ∧
      s = (BoundedQueue.sizedQueue 1).exec BoundedQueue.sizedInitial BoundedQueue.sizeAhead ∧
      (s.sizes true).ret = some 2) ∧
    ∃ s, UnboundedQueue.unboundedQueue.Reachable s ∧
      s = UnboundedQueue.unboundedQueue.exec UnboundedQueue.initial UnboundedQueue.takenEarly ∧
      s.started = 1 ∧ (s.loc true).size = some (2 ^ 64 - 1) := by
  refine ⟨⟨_, System.reachable_exec _ (BoundedQueue.sizedInitial_init 1) _ ?_, rfl, ?_⟩,
    ⟨_, System.reachable_exec _ (BoundedQueue.sizedInitial_init 1) _ ?_, rfl, ?_⟩,
    ⟨_, System.reachable_exec _ UnboundedQueue.initial_init _ ?_, rfl, ?_, ?_⟩⟩ <;> decide

end CyberRT.Base
