import Mathlib.Data.Fin.VecNotation
import Mathlib.Data.Fintype.Basic
import CyberRT.Framework.System
import CyberRT.Data.ChannelBuffer

/-! # Fusion of the latest messages

    `AllLatest` installs a callback on the buffer of `M0`. Instead of
    keeping the message, the callback puts it together with the latest
    message of every other channel and fills the tuple into a buffer of its
    own, which a fused `DataVisitor` reads.

    The templates for two, three and four channels differ in the number of
    other channels only: here these are the elements of a finite type.
    `dispatched`, `fused` (the tuples filled in) and `fetched` are history. -/

namespace CyberRT.Data.Fusion

open CyberRT.Framework

/-! ## Section 1: Model -/

section model
variable {ι : Type} {M0 : Type} {M : ι → Type}

/-- All values of a family, if each has one. -/
def allSome [Fintype ι] (f : ∀ i, Option (M i)) : Option (∀ i, M i) :=
  if h : ∀ i, (f i).isSome then some fun i => (f i).get (h i) else none

/-- A message dispatched on the channel of `M0` or on another one. -/
inductive Dispatch (M0 : Type) (M : ι → Type) where
  | m0 (m : M0)
  | other (i : ι) (m : M i)

/-- A fused visitor: the buffers of its channels, the buffer of the
    fusion, and what its last `TryFetch` left and returned. -/
structure State (M0 : Type) (M : ι → Type) where
  bufferM0     : CacheBuffer M0
  buffers      : ∀ i, CacheBuffer (M i)
  bufferFusion : CacheBuffer (M0 × ∀ i, M i)
  nextMsgIndex : Nat
  fusionData   : Option (M0 × ∀ i, M i)
  ret          : Option Bool
  dispatched   : List (Dispatch M0 M)
  fused        : List (M0 × ∀ i, M i)
  fetched      : List (Fetched (M0 × ∀ i, M i))

/-- The fusion callback on the buffer of `M0`. -/
def State.fusionCallback [Fintype ι] (s : State M0 M) (m0 : M0) : State M0 M :=
  match allSome fun i => (s.buffers i).latest with
  | none        => s
  | some others =>
    { s with
      bufferFusion := s.bufferFusion.fill (m0, others)
      fused        := s.fused ++ [(m0, others)] }

/-- `Fill` of the channel's buffer: the buffer of `M0` has the callback. -/
def State.fill [Fintype ι] [DecidableEq ι] (s : State M0 M) : Dispatch M0 M → State M0 M
  | .m0 m      => s.fusionCallback m
  | .other i m => { s with buffers := Function.update s.buffers i ((s.buffers i).fill m) }

/-- `TryFetch`: `Fusion` reads the fusion's buffer. -/
def State.tryFetch (s : State M0 M) : State M0 M :=
  match s.bufferFusion.fetch s.nextMsgIndex with
  | none               => { s with ret := some false }
  | some (index, data) =>
    { s with
      nextMsgIndex := index + 1
      fusionData   := some data
      ret          := some true
      fetched      := s.fetched ++ [⟨index, data, s.fused.length⟩] }

inductive Label (M0 : Type) (M : ι → Type) where
  | dispatch (d : Dispatch M0 M)
  | tryFetch

/-- A fused visitor with the given queue sizes, and its dispatches. -/
def allLatest [Fintype ι] [DecidableEq ι] [Inhabited M0] [∀ i, Inhabited (M i)]
    (queueSize0 : Nat) (queueSizes : ι → Nat) : System (State M0 M) (Label M0 M) where
  init := fun s =>
    s.bufferM0 = .new queueSize0 ∧ (∀ i, s.buffers i = .new (queueSizes i)) ∧
    s.bufferFusion = .new (s.bufferM0.capacity - 1) ∧ s.nextMsgIndex = 0 ∧
    s.dispatched = [] ∧ s.fused = [] ∧ s.fetched = []
  action := fun
    | .dispatch d =>
      { gate   := fun _ => True
        effect := fun s => { s.fill d with dispatched := s.dispatched ++ [d] } }
    | .tryFetch =>
      { gate   := fun _ => True
        effect := State.tryFetch }

end model

/-! ## Section 2: What should be fused -/

section spec
variable {ι : Type} {M0 : Type} {M : ι → Type} [DecidableEq ι]

/-- The message of a dispatch, if it was on channel `i`. -/
def Dispatch.on (i : ι) : Dispatch M0 M → Option (M i)
  | .m0 _      => none
  | .other j m => if h : j = i then some (h ▸ m) else none

/-- The messages dispatched on channel `i`. -/
def sent (ds : List (Dispatch M0 M)) (i : ι) : List (M i) := ds.filterMap (Dispatch.on i)

/-- The tuple one more dispatch makes after the dispatches `past`: an `M0`
    message with the latest message of each other channel. -/
def tupleOf [Fintype ι] (past : List (Dispatch M0 M)) :
    Dispatch M0 M → Option (M0 × ∀ i, M i)
  | .m0 m      => (allSome fun i => (sent past i).getLast?).map (m, ·)
  | .other _ _ => none

/-- The tuples of the dispatches `ds` that come after `past`. -/
def tuples [Fintype ι] (past : List (Dispatch M0 M)) :
    List (Dispatch M0 M) → List (M0 × ∀ i, M i)
  | []      => []
  | d :: ds => (tupleOf past d).toList ++ tuples (past ++ [d]) ds

theorem tuples_concat [Fintype ι] (past ds : List (Dispatch M0 M)) (d : Dispatch M0 M) :
    tuples past (ds ++ [d]) = tuples past ds ++ (tupleOf (past ++ ds) d).toList := by
  induction ds generalizing past with
  | nil => simp [tuples]
  | cons e ds ih =>
    have hassoc : past ++ [e] ++ ds = past ++ e :: ds := by simp
    rw [List.cons_append, tuples, tuples, ih, hassoc, List.append_assoc]

theorem sent_concat (ds : List (Dispatch M0 M)) (d : Dispatch M0 M) (i : ι) :
    sent (ds ++ [d]) i = sent ds i ++ (d.on i).toList := by
  unfold sent
  rw [List.filterMap_append]
  cases h : d.on i with
  | none => simp [h]
  | some m => simp [h]

end spec

/-! ## Section 3: Invariant -/

section invariant
variable {ι : Type} {M0 : Type} {M : ι → Type} [Fintype ι] [DecidableEq ι]
  {queueSize0 : Nat} {queueSizes : ι → Nat} {s : State M0 M}

/-- **Invariant**: each buffer keeps the last messages of its channel, the
    fusion's buffer the last tuples, and the visitor reads these. -/
structure Inv (queueSize0 : Nat) (queueSizes : ι → Nat) (s : State M0 M) : Prop where
  keeps  : ∀ i, CacheBuffer.Keeps (queueSizes i) (sent s.dispatched i) (s.buffers i)
  fused  : s.fused = tuples [] s.dispatched
  fusion : CacheBuffer.Keeps queueSize0 s.fused s.bufferFusion
  reads  : Reads queueSize0 s.fused s.nextMsgIndex s.fetched

/-- The callback fuses what `tupleOf` says. -/
theorem Inv.callback (h : Inv queueSize0 queueSizes s) (hsizes : ∀ i, 1 ≤ queueSizes i) (m : M0) :
    Inv queueSize0 queueSizes
      { s.fusionCallback m with dispatched := s.dispatched ++ [.m0 m] } := by
  have hlatest : (fun i => (s.buffers i).latest) = fun i => (sent s.dispatched i).getLast? :=
    funext fun i => (h.keeps i).latest (hsizes i)
  have hkeeps : ∀ i, CacheBuffer.Keeps (queueSizes i) (sent (s.dispatched ++ [.m0 m]) i)
      (s.buffers i) := by
    intro i
    rw [sent_concat, show Dispatch.on i (.m0 m : Dispatch M0 M) = none from rfl, Option.toList_none,
      List.append_nil]
    exact h.keeps i
  have htuples := tuples_concat [] s.dispatched (.m0 m : Dispatch M0 M)
  rw [List.nil_append, tupleOf, ← hlatest, ← h.fused] at htuples
  unfold State.fusionCallback
  split
  · next hnone =>
    rw [hnone] at htuples
    exact ⟨hkeeps, by rw [htuples]; simp, h.fusion, h.reads⟩
  · next others hsome =>
    rw [hsome] at htuples
    exact ⟨hkeeps, htuples.symm, h.fusion.fill _, h.reads.append _⟩

theorem Inv.other (h : Inv queueSize0 queueSizes s) (i : ι) (m : M i) :
    Inv queueSize0 queueSizes
      { s.fill (.other i m) with dispatched := s.dispatched ++ [.other i m] } := by
  refine ⟨?_, ?_, h.fusion, h.reads⟩
  · intro j
    show CacheBuffer.Keeps _ (sent (s.dispatched ++ [.other i m]) j)
      (Function.update s.buffers i _ j)
    rw [sent_concat]
    by_cases hj : j = i
    · subst hj
      rw [Function.update_self, Dispatch.on, dif_pos rfl]
      exact (h.keeps j).fill m
    · rw [Function.update_of_ne hj, Dispatch.on, dif_neg (Ne.symm hj), Option.toList_none,
        List.append_nil]
      exact h.keeps j
  · show s.fused = tuples [] (s.dispatched ++ [.other i m])
    rw [tuples_concat, ← h.fused]
    exact (List.append_nil _).symm

theorem Inv.tryFetch (h : Inv queueSize0 queueSizes s) (hsize : 1 ≤ queueSize0) :
    Inv queueSize0 queueSizes s.tryFetch := by
  unfold State.tryFetch
  split
  · exact ⟨h.keeps, h.fused, h.fusion, h.reads⟩
  · next index data hfetch =>
    exact ⟨h.keeps, h.fused, h.fusion, h.reads.fetch h.fusion hsize hfetch⟩

theorem Inv.refused (h : Inv queueSize0 queueSizes s) :
    s.tryFetch.ret = some false ↔ s.fused.length = lastPosition s.fetched := by
  rw [← h.reads.fetch_none_iff h.fusion]
  unfold State.tryFetch
  split
  · next hfetch => exact iff_of_true rfl hfetch
  · next index data hfetch =>
    rw [hfetch]
    exact iff_of_false nofun nofun

variable [Inhabited M0] [∀ i, Inhabited (M i)]

theorem inv_init (hi : (allLatest queueSize0 queueSizes).init s) :
    Inv queueSize0 queueSizes s := by
  obtain ⟨hm0, hbuffers, hfusion, hindex, hdispatched, hfused, hfetched⟩ := hi
  have hcapacity : s.bufferM0.capacity - 1 = queueSize0 := by
    rw [hm0]
    rfl
  refine ⟨?_, ?_, ?_, ?_⟩
  · intro i
    rw [hbuffers i, hdispatched]
    exact CacheBuffer.keeps_new _
  · rw [hfused, hdispatched]
    rfl
  · rw [hfusion, hfused, hcapacity]
    exact CacheBuffer.keeps_new _
  · rw [hindex, hfetched]
    exact reads_nil _ _

/-- **Run lemma**. -/
theorem inv_reachable (hsize : 1 ≤ queueSize0) (hsizes : ∀ i, 1 ≤ queueSizes i)
    (h : (allLatest queueSize0 queueSizes).Reachable s) : Inv queueSize0 queueSizes s := by
  apply System.invariant (fun _ => inv_init) _ h
  intro s a hinv _
  cases a with
  | dispatch d =>
    cases d with
    | m0 m => exact hinv.callback hsizes m
    | other i m => exact hinv.other i m
  | tryFetch => exact hinv.tryFetch hsize

/-! ## Section 4: Fusion -/

/-- What was fused, what the visitor has got of it, and when its next
    `TryFetch` returns false. -/
structure FusesLatest (queueSize0 : Nat) (s : State M0 M) : Prop where
  fused      : s.fused = tuples [] s.dispatched
  delivered  : Delivered queueSize0 s.fused s.fetched
  increasing : (s.fetched.map Fetched.position).Pairwise (· < ·)
  refused    : s.tryFetch.ret = some false ↔ s.fused.length = lastPosition s.fetched

/-- **Main result**: one tuple for each `M0` message that finds a message
    on every other channel, made of the latest of these; the visitor gets
    the newest tuple first, then one after the other as long as at most
    `queue_size` of `M0` are unfetched and otherwise the newest one again. -/
theorem allLatest_fuses (hsize : 1 ≤ queueSize0) (hsizes : ∀ i, 1 ≤ queueSizes i)
    (h : (allLatest queueSize0 queueSizes).Reachable s) : FusesLatest queueSize0 s := by
  have hinv := inv_reachable hsize hsizes h
  exact ⟨hinv.fused, hinv.reads.delivered, hinv.reads.delivered.increasing, hinv.refused⟩

end invariant

/-! ## Section 5: Three channels -/

/-- A visitor of three channels of numbers, with queues of one message. -/
def initial : State Nat fun _ : Fin 2 => Nat where
  bufferM0     := .new 1
  buffers      := fun _ => .new 1
  bufferFusion := .new 1
  nextMsgIndex := 0
  fusionData   := none
  ret          := none
  dispatched   := []
  fused        := []
  fetched      := []

theorem initial_init : (allLatest 1 fun _ : Fin 2 => 1).init initial :=
  ⟨rfl, fun _ => rfl, rfl, rfl, rfl, rfl, rfl⟩

/-- The first `M0` message finds no message on channel 1, the second finds
    one on both; what comes on channel 0 afterwards fuses nothing. -/
def fuseOnce : List (Label Nat fun _ : Fin 2 => Nat) :=
  [.dispatch (.other 0 10), .dispatch (.m0 1), .dispatch (.other 0 11), .dispatch (.other 1 20),
    .dispatch (.m0 2), .dispatch (.other 0 12), .tryFetch]

theorem allLatest_fuses_once :
    FusesLatest 1 ((allLatest 1 fun _ : Fin 2 => 1).exec initial fuseOnce) ∧
      ((allLatest 1 fun _ : Fin 2 => 1).exec initial fuseOnce).fetched.map Fetched.message =
        [(2, ![11, 20])] := by
  have hreach : (allLatest 1 fun _ : Fin 2 => 1).Reachable
      ((allLatest 1 fun _ : Fin 2 => 1).exec initial fuseOnce) :=
    System.reachable_exec _ initial_init fuseOnce ⟨trivial, trivial, trivial, trivial, trivial,
      trivial, trivial, trivial⟩
  exact ⟨allLatest_fuses (by decide) (fun _ => by decide) hreach, by decide⟩

end CyberRT.Data.Fusion
