import CyberRT.Croutine.RoutineFactory
import CyberRT.Data.Fusion.AllLatest

/-! # Yields in a message callback

    The loop of `CreateRoutineFactory` with a callback that yields as often
    as it likes, with a state or, as `cyber::Yield` does, without one.
    `DATA_WAIT` is stored before the fetch, for a fetch that fails. The
    callback runs in it too, until the routine is resumed for the first time.

    * The visitor is any: the templates for one to four channels differ in
      their `TryFetch` only.
    * Any thread may dispatch on a channel of the visitor, and any may call
      `NotifyTask` for the routine.

    A plain yield keeps the state. The first one of a callback therefore puts
    the routine to sleep, unless its update flag is raised
    (`yield_fallsAsleep`). Shown: the routine can go on after each plain
    yield exactly if there is no other first one (`yield_runnable_iff`). -/

namespace CyberRT.Croutine.CallbackYield

open CyberRT.Framework CyberRT.Data

/-! ## Section 1: State -/

/-- What the loop and `Dispatch` use of a `DataVisitor`: `TryFetch`, the
    `Fill` of a message on one of its channels, and whether its notifier is
    registered for that channel. -/
structure Visitor (V M : Type) where
  tryFetch : V → Option V
  fill     : V → M → V
  notifies : M → Bool

/-- A visitor on a single channel. -/
def singleChannel (M : Type) [Inhabited M] : Visitor (CacheBuffer M × Nat) M where
  tryFetch := fun v => (v.1.fetch v.2).map fun x => (v.1, x.1 + 1)
  fill     := fun v msg => (v.1.fill msg, v.2)
  notifies := fun _ => true

/-- A visitor that fuses several channels: it is notified for that of `M0`. -/
def allLatest {ι : Type} [Fintype ι] [DecidableEq ι] (M0 : Type) (M : ι → Type) [Inhabited M0]
    [∀ i, Inhabited (M i)] : Visitor (Fusion.State M0 M) (Fusion.Dispatch M0 M) where
  tryFetch := fun v => if v.tryFetch.ret = some true then some v.tryFetch else none
  fill     := Fusion.State.fill
  notifies := fun
    | .m0 _      => true
    | .other _ _ => false

/-- The routine with its visitor, and the threads that dispatch or notify.
    History: whether the routine was last swapped out by a plain yield of the
    callback (`yielded`), and whether it has been resumed in this callback
    (`resumed`). -/
structure State (V Did M : Type) where
  data        : V
  reader      : Reader
  dispatchers : Did → DispatchPc M
  yielded     : Bool
  resumed     : Bool

inductive Label (Did M : Type) where
  -- `Dispatch`, `NotifyTask` and `NotifyProcessor`
  | dispatch (d : Did) (msg : M)
  | fill (d : Did) (msg : M)
  | notifyTask (d : Did)
  | checkDataWait (d : Did)
  | checkIoWait (d : Did)
  | setUpdateFlag (d : Did)
  | notify (d : Did)
  -- the routine
  | setDataWait
  | tryFetch
  | callbackYield
  | callbackYieldState (state : RoutineState)
  | callbackReturn
  | yieldReady
  | swapOut
  -- `UpdateState` and `Resume`
  | wakeUp
  | testAndSet
  | becomeReady
  | resume

/-! ## Section 2: Model -/

section model
variable {V Did M : Type} [DecidableEq Did]

def State.setDispatcher (s : State V Did M) (d : Did) (pc : DispatchPc M) : State V Did M :=
  { s with dispatchers := Function.update s.dispatchers d pc }

/-- One routine of `CreateRoutineFactory` and the threads around it. -/
def callbackRoutine (visitor : Visitor V M) (v₀ : V) : System (State V Did M) (Label Did M) where
  init := fun s =>
    s.data = v₀ ∧ s.reader = ⟨.suspended, .new, false⟩ ∧ (∀ d, s.dispatchers d = .idle) ∧
    s.yielded = false ∧ s.resumed = false
  action := fun
    | .dispatch d msg =>
      { gate   := fun s => s.dispatchers d = .idle
        effect := fun s => s.setDispatcher d (.fill msg) }
    | .fill d msg =>
      { gate   := fun s => s.dispatchers d = .fill msg
        effect := fun s =>
          { s.setDispatcher d (if visitor.notifies msg then .checkDataWait else .idle) with
            data := visitor.fill s.data msg } }
    | .notifyTask d =>
      { gate   := fun s => s.dispatchers d = .idle
        effect := fun s => s.setDispatcher d .checkDataWait }
    | .checkDataWait d =>
      { gate   := fun s => s.dispatchers d = .checkDataWait
        effect := fun s =>
          if s.reader.cr.state = .dataWait then s.setDispatcher d .setUpdateFlag
          else s.setDispatcher d .checkIoWait }
    | .checkIoWait d =>
      { gate   := fun s => s.dispatchers d = .checkIoWait
        effect := fun s =>
          if s.reader.cr.state = .ioWait then s.setDispatcher d .setUpdateFlag
          else s.setDispatcher d .notify }
    | .setUpdateFlag d =>
      { gate   := fun s => s.dispatchers d = .setUpdateFlag
        effect := fun s =>
          { s.setDispatcher d .notify with
            reader := { s.reader with cr := s.reader.cr.setUpdateFlag } } }
    | .notify d =>
      { gate   := fun s => s.dispatchers d = .notify
        effect := fun s => s.setDispatcher d .idle }
    | .setDataWait =>
      { gate   := fun s => s.reader.pc = .setDataWait
        effect := fun s =>
          { s with reader := { s.reader with
              pc := .tryFetch, cr := s.reader.cr.setState .dataWait } } }
    | .tryFetch =>
      { gate   := fun s => s.reader.pc = .tryFetch
        effect := fun s =>
          match visitor.tryFetch s.data with
          -- the callback starts in the state that was set for a failed fetch
          | some v =>
            { s with data := v, reader := { s.reader with pc := .callback }, resumed := false }
          | none   =>
            { s with
              reader  := { s.reader with pc := .swapOut, inCallback := false }
              yielded := false } }
    | .callbackYield =>
      { gate   := fun s => s.reader.pc = .callback
        effect := fun s =>
          { s with
            reader  := { s.reader with pc := .swapOut, inCallback := true }
            yielded := true } }
    | .callbackYieldState state =>
      { gate   := fun s => s.reader.pc = .callback
        effect := fun s => { s with reader := s.reader.yield state, yielded := false } }
    | .callbackReturn =>
      { gate   := fun s => s.reader.pc = .callback
        effect := fun s => { s with reader := { s.reader with pc := .yieldReady } } }
    | .yieldReady =>
      { gate   := fun s => s.reader.pc = .yieldReady
        effect := fun s =>
          { s with
            reader  := ⟨.swapOut, s.reader.cr.setState .ready, false⟩
            yielded := false } }
    | .swapOut =>
      { gate   := fun s => s.reader.pc = .swapOut
        effect := fun s => { s with reader := { s.reader with pc := .suspended } } }
    | .wakeUp =>
      { gate   := fun s => s.reader.pc = .suspended ∧ s.reader.cr.state = .sleep
        effect := fun s =>
          { s with reader := { s.reader with
              pc := .resuming, cr := s.reader.cr.setState .ready } } }
    | .testAndSet =>
      { gate   := fun s => s.reader.pc = .suspended
        effect := fun s =>
          -- a flag that is raised is taken down, whatever the state
          if s.reader.cr.Raised then
            { s with reader := { s.reader with pc := .updating, cr := s.reader.cr.testAndSet } }
          else
            { s with reader := s.reader.released } }
    | .becomeReady =>
      { gate   := fun s => s.reader.pc = .updating
        effect := fun s =>
          { s with reader :=
              ({ s.reader with cr := s.reader.cr.becomeReady } : Reader).released } }
    | .resume =>
      { gate   := fun s => s.reader.pc = .resuming
        effect := fun s =>
          { s with
            reader  := { s.reader with
              pc := if s.reader.inCallback then .callback else .setDataWait }
            resumed := s.reader.inCallback } }

instance decidableGate [DecidableEq M] (visitor : Visitor V M) (v₀ : V) (a : Label Did M)
    (s : State V Did M) : Decidable (((callbackRoutine visitor v₀).action a).gate s) :=
  match a with
  | .dispatch _ _ | .fill _ _ | .notifyTask _ | .checkDataWait _ | .checkIoWait _
  | .setUpdateFlag _ | .notify _ | .setDataWait | .tryFetch | .callbackYield
  | .callbackYieldState _ | .callbackReturn | .yieldReady | .swapOut | .testAndSet
  | .becomeReady | .resume => inferInstanceAs (Decidable (_ = _))
  | .wakeUp => inferInstanceAs (Decidable (_ ∧ _))

/-- The routine just created, all threads elsewhere. -/
def initial (v₀ : V) : State V Did M where
  data        := v₀
  reader      := ⟨.suspended, .new, false⟩
  dispatchers := fun _ => .idle
  yielded     := false
  resumed     := false

theorem initial_init (visitor : Visitor V M) (v₀ : V) :
    (callbackRoutine visitor v₀).init (initial v₀ : State V Did M) :=
  ⟨rfl, rfl, fun _ => rfl, rfl, rfl⟩

end model

/-! ## Section 3: A single channel -/

section singleChannel
variable {Did M : Type} [DecidableEq Did] [Inhabited M]

/-- The reader routine of a single-channel visitor. -/
def State.toReader (s : State (CacheBuffer M × Nat) Did M) : Croutine.State Did M where
  buffer       := s.data.1
  nextMsgIndex := s.data.2
  reader       := s.reader
  dispatchers  := s.dispatchers

def ofReader : Croutine.Label Did M → Label Did M
  | .dispatch d msg  => .dispatch d msg
  | .fill d msg      => .fill d msg
  | .checkDataWait d => .checkDataWait d
  | .checkIoWait d   => .checkIoWait d
  | .setUpdateFlag d => .setUpdateFlag d
  | .notify d        => .notify d
  | .setDataWait     => .setDataWait
  | .tryFetch        => .tryFetch
  | .callbackSleep   => .callbackYieldState .sleep
  | .callbackYield   => .callbackYield
  | .callbackIoWait  => .callbackYieldState .ioWait
  | .callbackReturn  => .callbackReturn
  | .yieldReady      => .yieldReady
  | .swapOut         => .swapOut
  | .wakeUp          => .wakeUp
  | .testAndSet      => .testAndSet
  | .becomeReady     => .becomeReady
  | .resume          => .resume

/-- **Refinement**: on a single channel the steps of the reader routine are
    steps of the loop here. -/
theorem step_toReader (queueSize : Nat) (v₀ : CacheBuffer M × Nat)
    (s : State (CacheBuffer M × Nat) Did M) (a : Croutine.Label Did M) :
    (((callbackRoutine (singleChannel M) v₀).action (ofReader a)).gate s ↔
        ((readerRoutine queueSize).action a).gate s.toReader) ∧
      State.toReader (((callbackRoutine (singleChannel M) v₀).action (ofReader a)).effect s) =
        ((readerRoutine queueSize).action a).effect s.toReader := by
  cases a with
  | checkDataWait d =>
    refine ⟨Iff.rfl, ?_⟩
    by_cases hstate : s.reader.cr.state = .dataWait <;>
      simp [callbackRoutine, readerRoutine, ofReader, State.toReader, hstate,
        State.setDispatcher, Croutine.State.setDispatcher]
  | checkIoWait d =>
    refine ⟨Iff.rfl, ?_⟩
    by_cases hstate : s.reader.cr.state = .ioWait <;>
      simp [callbackRoutine, readerRoutine, ofReader, State.toReader, hstate,
        State.setDispatcher, Croutine.State.setDispatcher]
  | testAndSet =>
    refine ⟨Iff.rfl, ?_⟩
    by_cases hraised : s.reader.cr.Raised <;>
      simp [callbackRoutine, readerRoutine, ofReader, State.toReader, hraised]
  | tryFetch =>
    refine ⟨Iff.rfl, ?_⟩
    cases hfetch : s.data.1.fetch s.data.2 <;>
      simp [callbackRoutine, readerRoutine, ofReader, State.toReader, singleChannel, hfetch]
  | _ => exact ⟨Iff.rfl, rfl⟩

end singleChannel

/-! ## Section 4: Runnable routines -/

section runnable
variable {V Did M : Type}

/-- After a plain yield in the callback the next `UpdateState` finds the
    routine `READY`, with the state and the flag as they are. -/
def State.Runnable (s : State V Did M) : Prop :=
  s.yielded = true → s.reader.pc = .swapOut ∨ s.reader.pc = .suspended →
    (s.reader.cr.updateState false).state = .ready

/-- No callback begins with a plain yield while the update flag is down. -/
def YieldsAgainOrRaised (s : State V Did M) : Label Did M → Prop
  | .callbackYield => s.resumed = true ∨ s.reader.cr.Raised
  | _ => True

instance decidableYieldsAgainOrRaised (s : State V Did M) :
    ∀ a : Label Did M, Decidable (YieldsAgainOrRaised s a)
  | .callbackYield => inferInstanceAs (Decidable (s.resumed = true ∨ s.reader.cr.Raised))
  | .dispatch .. | .fill .. | .notifyTask _ | .checkDataWait _ | .checkIoWait _
  | .setUpdateFlag _ | .notify _ | .setDataWait | .tryFetch | .callbackYieldState _
  | .callbackReturn | .yieldReady | .swapOut | .wakeUp | .testAndSet | .becomeReady
  | .resume => .isTrue trivial

/-- What the loop has made of the routine's state. -/
structure Inv (s : State V Did M) : Prop where
  fetching : s.reader.pc = .tryFetch → s.reader.cr.state = .dataWait
  callback : s.reader.pc = .callback →
    s.reader.cr.state = if s.resumed then .ready else .dataWait
  resuming : s.reader.pc = .resuming → s.reader.cr.state = .ready
  yielded  : s.yielded = true → s.reader.cr.state = .ready ∨ s.reader.cr.state = .dataWait

theorem updateState_ready_iff (cr : CRoutine) :
    (cr.updateState false).state = .ready ↔
      cr.state = .ready ∨ CRoutine.waits cr.state = true ∧ cr.Raised := by
  cases cr with
  | mk state updated => cases state <;> cases updated <;> decide

/-- The flag raised does not put a routine to sleep. -/
theorem updateState_setUpdateFlag {cr : CRoutine} (h : (cr.updateState false).state = .ready) :
    (cr.setUpdateFlag.updateState false).state = .ready := by
  rw [updateState_ready_iff] at h ⊢
  rcases h with hready | ⟨hwaits, _⟩
  · exact Or.inl hready
  · exact Or.inr ⟨hwaits, cr.setUpdateFlag_raised⟩

/-- A routine in the hands of a processor, or back in its loop. -/
theorem runnable_of_pc {s : State V Did M} (pc : ReaderPc) (hpc : s.reader.pc = pc)
    (hin : pc ≠ .swapOut ∧ pc ≠ .suspended) : s.Runnable := by
  intro _ hout
  rw [hpc] at hout
  rcases hout with hout | hout
  · exact absurd hout hin.1
  · exact absurd hout hin.2

/-- A routine that was swapped out in another way. -/
theorem runnable_of_not_yielded {s : State V Did M} (h : s.yielded = false) : s.Runnable := by
  intro hyielded
  rw [h] at hyielded
  cases hyielded

theorem runnable_released {s : State V Did M} (h : s.Runnable) (hpc : s.reader.pc = .suspended)
    (hraised : ¬ s.reader.cr.Raised) : State.Runnable { s with reader := s.reader.released } := by
  intro hyielded hout
  have hready := (updateState_ready_iff _).mp (h hyielded (Or.inr hpc))
  have hstate := hready.resolve_right fun hand => hraised hand.2
  rw [Reader.released, if_pos hstate] at hout
  rcases hout with hout | hout <;> cases hout

/-- The routine stands at none of the places the invariant is about. -/
theorem Inv.elsewhere {s : State V Did M} (pc : ReaderPc) (hpc : s.reader.pc = pc)
    (hpcs : pc ≠ .tryFetch ∧ pc ≠ .callback ∧ pc ≠ .resuming)
    (hyielded : s.yielded = true → s.reader.cr.state = .ready ∨ s.reader.cr.state = .dataWait) :
    Inv s where
  fetching := fun hat => absurd (hpc.symm.trans hat) hpcs.1
  callback := fun hat => absurd (hpc.symm.trans hat) hpcs.2.1
  resuming := fun hat => absurd (hpc.symm.trans hat) hpcs.2.2
  yielded  := hyielded

/-- A routine that is released is resumed only if it is `READY`. -/
theorem Inv.released {s : State V Did M} (x : Reader)
    (hyielded : s.yielded = true → x.cr.state = .ready ∨ x.cr.state = .dataWait) :
    Inv { s with reader := x.released } := by
  unfold Reader.released
  split
  · next hready =>
    exact
      { fetching := fun hpc => nomatch hpc
        callback := fun hpc => nomatch hpc
        resuming := fun _ => hready
        yielded  := hyielded }
  · exact .elsewhere .suspended rfl (by decide) hyielded

/-- In the callback the routine is `READY` if it was resumed there. -/
theorem Inv.ready_or_dataWait {s : State V Did M} (h : Inv s) (hpc : s.reader.pc = .callback) :
    s.reader.cr.state = .ready ∨ s.reader.cr.state = .dataWait := by
  rw [h.callback hpc]
  by_cases hresumed : s.resumed = true
  · exact Or.inl (if_pos hresumed)
  · exact Or.inr (if_neg hresumed)

theorem becomeReady_ready {cr : CRoutine} (h : cr.state = .ready ∨ cr.state = .dataWait) :
    cr.becomeReady.state = .ready := by
  rcases h with h | h <;> simp [CRoutine.becomeReady, CRoutine.waits, h]

variable [DecidableEq Did] {visitor : Visitor V M} {v₀ : V}

/-- The steps of one `UpdateState`, without another thread in between. -/
def updateSteps (s : State V Did M) : List (Label Did M) :=
  if s.reader.cr.Raised then [.testAndSet, .becomeReady] else [.testAndSet]

/-- A runnable routine is resumed by the next `UpdateState`, in its callback. -/
theorem State.Runnable.resumes {s : State V Did M} (h : s.Runnable) (hyielded : s.yielded = true)
    (hpc : s.reader.pc = .suspended) :
    (callbackRoutine visitor v₀).Admits s (updateSteps s) ∧
      ((callbackRoutine visitor v₀).exec s (updateSteps s)).reader.pc = .resuming := by
  have hready := (updateState_ready_iff _).mp (h hyielded (Or.inr hpc))
  by_cases hraised : s.reader.cr.Raised
  · have hstate : s.reader.cr.testAndSet.becomeReady.state = .ready := by
      unfold CRoutine.becomeReady
      split
      · rfl
      · next hwaits => exact hready.resolve_right fun hand => hwaits hand.1
    simp [updateSteps, hraised, System.Admits, System.exec, callbackRoutine, hpc, Reader.released,
      hstate]
  · have hstate := hready.resolve_right fun hand => hraised hand.2
    simp [updateSteps, hraised, System.Admits, System.exec, callbackRoutine, hpc, Reader.released,
      hstate]

/-! ## Section 5: Steps -/

theorem inv_init {s : State V Did M} (h : (callbackRoutine visitor v₀).init s) : Inv s := by
  obtain ⟨_, hreader, _, hyielded, _⟩ := h
  have hpc : s.reader.pc = .suspended := by rw [hreader]
  refine .elsewhere .suspended hpc (by decide) fun hy => ?_
  rw [hyielded] at hy
  cases hy

/-- **Step lemma** for the invariant. -/
theorem inv_step (s : State V Did M) (a : Label Did M) (h : Inv s)
    (hg : ((callbackRoutine visitor v₀).action a).gate s) :
    Inv (((callbackRoutine visitor v₀).action a).effect s) := by
  cases a with
  | dispatch | fill | notifyTask | notify | setUpdateFlag =>
    exact ⟨h.fetching, h.callback, h.resuming, h.yielded⟩
  | checkDataWait | checkIoWait =>
    simp only [callbackRoutine]
    split <;> exact ⟨h.fetching, h.callback, h.resuming, h.yielded⟩
  | setDataWait =>
    exact
      { fetching := fun _ => rfl
        callback := fun hpc => nomatch hpc
        resuming := fun hpc => nomatch hpc
        yielded  := fun _ => Or.inr rfl }
  | tryFetch =>
    simp only [callbackRoutine]
    split
    · exact
        { fetching := fun hpc => nomatch hpc
          callback := fun _ => h.fetching hg
          resuming := fun hpc => nomatch hpc
          yielded  := h.yielded }
    · exact .elsewhere .swapOut rfl (by decide) fun hy => nomatch hy
  | callbackYield =>
    exact .elsewhere .swapOut rfl (by decide) fun _ => h.ready_or_dataWait hg
  | callbackReturn => exact .elsewhere .yieldReady rfl (by decide) h.yielded
  | swapOut => exact .elsewhere .suspended rfl (by decide) h.yielded
  | callbackYieldState | yieldReady =>
    exact .elsewhere .swapOut rfl (by decide) fun hy => nomatch hy
  | wakeUp =>
    exact
      { fetching := fun hpc => nomatch hpc
        callback := fun hpc => nomatch hpc
        resuming := fun _ => rfl
        yielded  := fun _ => Or.inl rfl }
  | testAndSet =>
    simp only [callbackRoutine]
    split
    · exact .elsewhere .updating rfl (by decide) h.yielded
    · exact .released s.reader h.yielded
  | becomeReady =>
    exact .released _ fun hyielded => Or.inl (becomeReady_ready (h.yielded hyielded))
  | resume =>
    have hready := h.resuming hg
    simp only [callbackRoutine]
    constructor
    · intro hpc
      simp only at hpc
      split at hpc <;> cases hpc
    · intro hpc
      have hin : s.reader.inCallback = true := by
        by_contra hout
        simp [hout] at hpc
      rw [hin, if_pos rfl]
      exact hready
    · intro hpc
      simp only at hpc
      split at hpc <;> cases hpc
    · exact fun _ => Or.inl hready

/-- A plain yield keeps the routine runnable exactly if it is no first one,
    or finds the flag raised. -/
theorem runnable_callbackYield {s : State V Did M} (h : Inv s) (hpc : s.reader.pc = .callback) :
    State.Runnable (((callbackRoutine visitor v₀).action .callbackYield).effect s) ↔
      YieldsAgainOrRaised s (.callbackYield : Label Did M) := by
  have hstate := h.callback hpc
  have hrunnable : State.Runnable (((callbackRoutine visitor v₀).action .callbackYield).effect s) ↔
      (s.reader.cr.updateState false).state = .ready :=
    ⟨fun hr => hr rfl (Or.inl rfl), fun hr _ _ => hr⟩
  rw [hrunnable, updateState_ready_iff]
  simp only [YieldsAgainOrRaised]
  by_cases hresumed : s.resumed = true
  · rw [if_pos hresumed] at hstate
    exact iff_of_true (Or.inl hstate) (Or.inl hresumed)
  · rw [if_neg hresumed] at hstate
    simp [hstate, hresumed, CRoutine.waits]

/-- **Step lemma**: only a plain yield can stop a routine from being runnable. -/
theorem runnable_step (s : State V Did M) (a : Label Did M) (h : Inv s) (hs : s.Runnable)
    (hg : ((callbackRoutine visitor v₀).action a).gate s) :
    State.Runnable (((callbackRoutine visitor v₀).action a).effect s) ↔
      YieldsAgainOrRaised s a := by
  cases a with
  | callbackYield => exact runnable_callbackYield h hg
  | dispatch | fill | notifyTask | notify => exact iff_of_true hs trivial
  | checkDataWait | checkIoWait =>
    refine iff_of_true ?_ trivial
    simp only [callbackRoutine]
    split <;> exact hs
  | setUpdateFlag =>
    exact iff_of_true (fun hy hpc => updateState_setUpdateFlag (hs hy hpc)) trivial
  | setDataWait => exact iff_of_true (runnable_of_pc .tryFetch rfl (by decide)) trivial
  | callbackReturn => exact iff_of_true (runnable_of_pc .yieldReady rfl (by decide)) trivial
  | wakeUp => exact iff_of_true (runnable_of_pc .resuming rfl (by decide)) trivial
  | tryFetch =>
    refine iff_of_true ?_ trivial
    simp only [callbackRoutine]
    split
    · exact runnable_of_pc .callback rfl (by decide)
    · exact runnable_of_not_yielded rfl
  | callbackYieldState | yieldReady =>
    exact iff_of_true (runnable_of_not_yielded rfl) trivial
  | swapOut => exact iff_of_true (fun hy _ => hs hy (Or.inl hg)) trivial
  | testAndSet =>
    refine iff_of_true ?_ trivial
    simp only [callbackRoutine]
    split
    · exact runnable_of_pc .updating rfl (by decide)
    · next hraised => exact runnable_released hs hg hraised
  | becomeReady =>
    refine iff_of_true ?_ trivial
    intro hyielded hout
    have hready := becomeReady_ready (h.yielded hyielded)
    simp only [callbackRoutine, Reader.released, if_pos hready] at hout
    rcases hout with hout | hout <;> cases hout
  | resume =>
    refine iff_of_true (runnable_of_pc _ rfl ?_) trivial
    simp only [callbackRoutine]
    split <;> decide

/-! ## Section 6: Runs -/

/-- **Plain yields**: along a run the routine stays runnable after every plain
    yield in a callback, exactly if every such yield comes after the
    callback was resumed, or finds the update flag raised. -/
theorem yield_runnable_iff {s : State V Did M} {as : List (Label Did M)}
    (hinit : (callbackRoutine visitor v₀).init s)
    (h : (callbackRoutine visitor v₀).Admits s as) :
    (∀ bs, bs <+: as → ((callbackRoutine visitor v₀).exec s bs).Runnable) ↔
      ((callbackRoutine visitor v₀).restrict YieldsAgainOrRaised).Admits s as := by
  have hnot : s.yielded = false := hinit.2.2.2.1
  exact System.always_iff_admits_restrict inv_step runnable_step h (inv_init hinit)
    (runnable_of_not_yielded hnot)

/-- The flag is raised during the callback, which then yields twice. -/
def yieldsTwice : List (Label Unit Nat) :=
  [.dispatch () 7, .fill () 7, .checkDataWait (), .checkIoWait (), .notify (),
    .testAndSet, .resume, .setDataWait, .tryFetch,
    .notifyTask (), .checkDataWait (), .setUpdateFlag (), .notify (),
    .callbackYield, .swapOut, .testAndSet, .becomeReady, .resume,
    .callbackYield, .swapOut, .testAndSet, .resume, .callbackReturn]

def newReader : State (CacheBuffer Nat × Nat) Unit Nat := initial (.new 2, 0)

theorem yield_runnable_twice :
    (callbackRoutine (singleChannel Nat) (.new 2, 0)).Admits newReader yieldsTwice ∧
      ∀ bs, bs <+: yieldsTwice →
        ((callbackRoutine (singleChannel Nat) (.new 2, 0)).exec newReader bs).Runnable :=
  ⟨by decide, (yield_runnable_iff (initial_init _ _) (by decide)).mpr (by decide)⟩

/-- A message is fetched and its callback yields. -/
def yieldsOnce : List (Label Unit Nat) :=
  [.dispatch () 7, .fill () 7, .checkDataWait (), .checkIoWait (), .notify (),
    .testAndSet, .resume, .setDataWait, .tryFetch, .callbackYield, .swapOut]

def afterYield : State (CacheBuffer Nat × Nat) Unit Nat :=
  (callbackRoutine (singleChannel Nat) (.new 2, 0)).exec newReader yieldsOnce

/-- The routine is swapped out in its callback, in `DATA_WAIT`, and
    `UpdateState` leaves it there. -/
theorem yield_fallsAsleep :
    (callbackRoutine (singleChannel Nat) (.new 2, 0)).Admits newReader yieldsOnce ∧
      afterYield.reader = ⟨.suspended, ⟨.dataWait, true⟩, true⟩ ∧
      ((callbackRoutine (singleChannel Nat) (.new 2, 0)).exec afterYield
        [.testAndSet]).reader = afterYield.reader ∧
      ¬ afterYield.Runnable := by
  refine ⟨by decide, rfl, rfl, fun h => ?_⟩
  have hready := h rfl (Or.inr rfl)
  exact absurd hready (by decide)

end runnable

end CyberRT.Croutine.CallbackYield
