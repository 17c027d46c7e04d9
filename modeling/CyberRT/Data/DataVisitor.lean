import CyberRT.Framework.System
import CyberRT.Data.ChannelBuffer

/-! # The single-channel data visitor

    Any number of threads call `DataDispatcher::Dispatch` on the channel of
    one visitor, which polls with `TryFetch`. `Dispatch` looks at the
    shutdown flag, copies the buffers registered for the channel, fills
    them one after the other, each under its mutex, and notifies. Here the
    steps on the visitor's own buffer are kept; a `Fill` or a `Fetch` is one
    step, because of the mutex.

    `dispatched` (the messages in the order they were filled in) and
    `fetched` are history. -/

namespace CyberRT.Data.DataVisitor

open CyberRT.Framework

/-! ## Section 1: Model -/

/-- Where a thread stands in `Dispatch`, named by the next step. -/
inductive DispatchPc (M : Type) where
  | idle
  | checkShutdown (msg : M)
  | find (msg : M)
  | fill (msg : M)
  | notify
  deriving DecidableEq

/-- `registered`: the constructor has added the buffer to the dispatcher.
    `m0` and `ret` are what the last `TryFetch` left and returned. -/
structure State (Did M : Type) where
  isShutdown   : Bool
  registered   : Bool
  buffer       : CacheBuffer M
  dispatchers  : Did → DispatchPc M
  nextMsgIndex : Nat
  m0           : M
  ret          : Option Bool
  dispatched   : List M
  fetched      : List (Fetched M)

section model
variable {Did M : Type}

def State.setDispatcher [DecidableEq Did] (s : State Did M) (d : Did) (pc : DispatchPc M) :
    State Did M :=
  { s with dispatchers := Function.update s.dispatchers d pc }

/-- `TryFetch`. -/
def State.tryFetch (s : State Did M) : State Did M :=
  match s.buffer.fetch s.nextMsgIndex with
  | none            => { s with ret := some false }
  | some (index, m) =>
    { s with
      nextMsgIndex := index + 1
      m0           := m
      ret          := some true
      fetched      := s.fetched ++ [⟨index, m, s.dispatched.length⟩] }

inductive Label (Did M : Type) where
  | addBuffer
  | shutdown
  | dispatch (d : Did) (msg : M)
  | checkShutdown (d : Did) (msg : M)
  | find (d : Did) (msg : M)
  | fill (d : Did) (msg : M)
  | notify (d : Did)
  | tryFetch

variable [DecidableEq Did]

/-- One visitor and the threads that dispatch on its channel. -/
def dataVisitor [Inhabited M] (queueSize : Nat) : System (State Did M) (Label Did M) where
  init := fun s =>
    s.isShutdown = false ∧ s.registered = false ∧ s.buffer = .new queueSize ∧
    (∀ d, s.dispatchers d = .idle) ∧ s.nextMsgIndex = 0 ∧ s.dispatched = [] ∧ s.fetched = []
  action := fun
    | .addBuffer =>
      { gate   := fun s => s.registered = false
        effect := fun s => { s with registered := true } }
    | .shutdown =>
      { gate   := fun _ => True
        effect := fun s => { s with isShutdown := true } }
    | .dispatch d msg =>
      { gate   := fun s => s.dispatchers d = .idle
        effect := fun s => s.setDispatcher d (.checkShutdown msg) }
    | .checkShutdown d msg =>
      { gate   := fun s => s.dispatchers d = .checkShutdown msg
        effect := fun s =>
          if s.isShutdown then s.setDispatcher d .idle else s.setDispatcher d (.find msg) }
    | .find d msg =>
      -- a buffer registered later is not in the copy
      { gate   := fun s => s.dispatchers d = .find msg
        effect := fun s =>
          if s.registered then s.setDispatcher d (.fill msg) else s.setDispatcher d .idle }
    | .fill d msg =>
      { gate   := fun s => s.dispatchers d = .fill msg
        effect := fun s =>
          { s.setDispatcher d .notify with
            buffer     := s.buffer.fill msg
            dispatched := s.dispatched ++ [msg] } }
    | .notify d =>
      { gate   := fun s => s.dispatchers d = .notify
        effect := fun s => s.setDispatcher d .idle }
    | .tryFetch =>
      { gate   := fun s => s.registered = true
        effect := State.tryFetch }

instance decidableGate [Inhabited M] [DecidableEq M] (queueSize : Nat) (a : Label Did M)
    (s : State Did M) : Decidable (((dataVisitor queueSize).action a).gate s) :=
  match a with
  | .addBuffer | .tryFetch | .dispatch _ _ | .checkShutdown _ _ | .find _ _ | .fill _ _
  | .notify _ => inferInstanceAs (Decidable (_ = _))
  | .shutdown => inferInstanceAs (Decidable True)

end model

/-! ## Section 2: Invariant -/

section invariant
variable {Did M : Type} {queueSize : Nat} {s : State Did M}

/-- **Invariant**: the buffer keeps the last messages dispatched, and the
    visitor reads it from its own index. -/
structure Inv (queueSize : Nat) (s : State Did M) : Prop where
  keeps : CacheBuffer.Keeps queueSize s.dispatched s.buffer
  reads : Reads queueSize s.dispatched s.nextMsgIndex s.fetched

theorem Inv.tryFetch (h : Inv queueSize s) (hsize : 1 ≤ queueSize) :
    Inv queueSize s.tryFetch := by
  unfold State.tryFetch
  split
  · exact ⟨h.keeps, h.reads⟩
  · next index m hfetch => exact ⟨h.keeps, h.reads.fetch h.keeps hsize hfetch⟩

theorem Inv.refused (h : Inv queueSize s) :
    s.tryFetch.ret = some false ↔ s.dispatched.length = lastPosition s.fetched := by
  rw [← h.reads.fetch_none_iff h.keeps]
  unfold State.tryFetch
  split
  · next hfetch => exact iff_of_true rfl hfetch
  · next index m hfetch =>
    rw [hfetch]
    exact iff_of_false nofun nofun

variable [DecidableEq Did] [Inhabited M]

theorem inv_init (hi : (dataVisitor queueSize).init s) : Inv queueSize s := by
  obtain ⟨_, _, hbuffer, _, hindex, hdispatched, hfetched⟩ := hi
  refine ⟨?_, ?_⟩
  · rw [hbuffer, hdispatched]
    exact CacheBuffer.keeps_new queueSize
  · rw [hindex, hfetched]
    exact reads_nil _ _

/-- **Step lemma**. -/
theorem Inv.step (hsize : 1 ≤ queueSize) (a : Label Did M) (h : Inv queueSize s) :
    Inv queueSize (((dataVisitor queueSize).action a).effect s) := by
  cases a with
  | addBuffer => exact ⟨h.keeps, h.reads⟩
  | shutdown => exact ⟨h.keeps, h.reads⟩
  | dispatch d msg => exact ⟨h.keeps, h.reads⟩
  | checkShutdown d msg =>
    simp only [dataVisitor]
    split
    · exact ⟨h.keeps, h.reads⟩
    · exact ⟨h.keeps, h.reads⟩
  | find d msg =>
    simp only [dataVisitor]
    split
    · exact ⟨h.keeps, h.reads⟩
    · exact ⟨h.keeps, h.reads⟩
  | fill d msg => exact ⟨h.keeps.fill msg, h.reads.append msg⟩
  | notify d => exact ⟨h.keeps, h.reads⟩
  | tryFetch => exact h.tryFetch hsize

/-- **Run lemma**. -/
theorem inv_reachable (hsize : 1 ≤ queueSize) (h : (dataVisitor queueSize).Reachable s) :
    Inv queueSize s :=
  System.invariant (fun _ => inv_init) (fun _ a hinv _ => hinv.step hsize a) h

/-! ## Section 3: Delivery -/

/-- What the visitor has got, and when its next `TryFetch` returns false. -/
structure Delivers (queueSize : Nat) (s : State Did M) : Prop where
  delivered  : Delivered queueSize s.dispatched s.fetched
  increasing : (s.fetched.map Fetched.position).Pairwise (· < ·)
  refused    : ∀ s', (dataVisitor queueSize).step s .tryFetch s' →
    (s'.ret = some false ↔ s.dispatched.length = lastPosition s.fetched)

/-- **Main result**: the messages fetched are the ones dispatched at
    increasing positions, the newest one first, then one after the other
    as long as at most `queue_size` are unfetched and otherwise the newest
    one again; and `TryFetch` returns false only when there is nothing new. -/
theorem tryFetch_delivers (hsize : 1 ≤ queueSize)
    (h : (dataVisitor queueSize).Reachable s) : Delivers queueSize s := by
  have hinv := inv_reachable hsize h
  refine ⟨hinv.reads.delivered, hinv.reads.delivered.increasing, ?_⟩
  intro s' hstep
  obtain ⟨_, rfl⟩ := hstep
  exact hinv.refused

end invariant

/-! ## Section 4: An overrun -/

def initial (queueSize : Nat) : State Unit Nat where
  isShutdown   := false
  registered   := false
  buffer       := .new queueSize
  dispatchers  := fun _ => .idle
  nextMsgIndex := 0
  m0           := 0
  ret          := none
  dispatched   := []
  fetched      := []

theorem initial_init (queueSize : Nat) : (dataVisitor queueSize).init (initial queueSize) :=
  ⟨rfl, rfl, rfl, fun _ => rfl, rfl, rfl, rfl⟩

/-- One Dispatch call of the only dispatching thread. -/
def dispatchOnce (msg : Nat) : List (Label Unit Nat) :=
  [.dispatch () msg, .checkShutdown () msg, .find () msg, .fill () msg, .notify ()]

/-- The second of three messages is overwritten before it is fetched. -/
def threeMessages : List (Label Unit Nat) :=
  [.addBuffer] ++ dispatchOnce 10 ++ [.tryFetch] ++ dispatchOnce 20 ++ dispatchOnce 30 ++
    [.tryFetch, .tryFetch]

theorem tryFetch_delivers_threeMessages :
    Delivers 1 ((dataVisitor 1).exec (initial 1) threeMessages) ∧
      ((dataVisitor 1).exec (initial 1) threeMessages).fetched.map Fetched.message = [10, 30] :=
  ⟨tryFetch_delivers (by decide)
    (System.reachable_exec _ (initial_init 1) threeMessages (by decide)), by decide⟩

end CyberRT.Data.DataVisitor
