import CyberRT.Croutine.RoutineFactory

/-! # Wake-up of a reader routine

    The routine stores `DATA_WAIT` before it fetches. So a message that
    `TryFetch` does not see is filled in after the store, and its
    notification, which comes after the fill, finds the routine waiting and
    raises the flag. A callback that yields without a state would come
    back here with `DATA_WAIT` from before: it is left out. -/

namespace CyberRT.Croutine

open CyberRT.Framework CyberRT.Data

variable {Did M : Type}

/-! ## Section 1: Lost wake-ups -/

/-- The visitor's buffer holds an unfetched message: `TryFetch` would
    return true. -/
def State.Unread (s : State Did M) : Prop := s.buffer.fetch s.nextMsgIndex ≠ none

/-- The routine is suspended in `DATA_WAIT` with its update flag not raised. -/
def Reader.Asleep (x : Reader) : Prop :=
  x.pc = .suspended ∧ x.cr.state = .dataWait ∧ ¬ x.cr.Raised

/-- The thread is between its fill and the end of its notification. -/
def DispatchPc.Notifying : DispatchPc M → Prop
  | .idle | .fill _ => False
  | _ => True

/-- Unread data, the routine asleep, and nobody is going to wake it. -/
def LeftAsleep (s : State Did M) : Prop :=
  s.Unread ∧ s.reader.Asleep ∧ ∀ d, ¬ (s.dispatchers d).Notifying

/-- The callback runs through or yields with a state: no plain `Yield`. -/
def NoPlainYield (_ : State Did M) : Label Did M → Prop
  | .callbackYield => False
  | _ => True

instance (s : State Did M) (a : Label Did M) : Decidable (NoPlainYield s a) := by
  unfold NoPlainYield
  split <;> infer_instance

/-! ## Section 2: Invariant -/

/-- The thread has yet to load the routine's state, or has found it waiting
    and has yet to raise its flag. -/
def DispatchPc.Pending : DispatchPc M → Prop
  | .checkDataWait | .setUpdateFlag => True
  | _ => False

/-- The routine swapped out, or about to be, in `DATA_WAIT`. -/
def Reader.Waits (x : Reader) : Prop :=
  (x.pc = .swapOut ∨ x.pc = .suspended) ∧ x.cr.state = .dataWait

/-- **Invariant**: a waiting routine with unread data is going to be woken. -/
def Woken (s : State Did M) : Prop :=
  s.reader.Waits → s.Unread → s.reader.cr.Raised ∨ ∃ d, (s.dispatchers d).Pending

theorem Woken.not_leftAsleep {s : State Did M} (h : Woken s) : ¬ LeftAsleep s := by
  intro hleft
  obtain ⟨hunread, hasleep, hquiet⟩ := hleft
  rcases h ⟨Or.inr hasleep.1, hasleep.2.1⟩ hunread with hraised | hpending
  · exact hasleep.2.2 hraised
  · obtain ⟨d, hd⟩ := hpending
    apply hquiet d
    cases hpc : s.dispatchers d with
    | checkDataWait => trivial
    | setUpdateFlag => trivial
    | _ =>
      rw [hpc] at hd
      cases hd

/-- The routine moves to where it does not wait. -/
theorem woken_of_not_waits {s : State Did M} (h : ¬ s.reader.Waits) : Woken s :=
  fun hwaits => absurd hwaits h

/-- The thread is going to raise the flag. -/
theorem woken_of_pending {s : State Did M} {d : Did} (hd : (s.dispatchers d).Pending) : Woken s :=
  fun _ _ => Or.inr ⟨d, hd⟩

section steps
variable [DecidableEq Did] {s : State Did M}

/-- A dispatching thread that has loaded the routine's state moves on. -/
theorem Woken.setDispatcher (h : Woken s) {d : Did} (hd : ¬ (s.dispatchers d).Pending)
    (pc : DispatchPc M) : Woken (s.setDispatcher d pc) := by
  intro hwaits hunread
  rcases h hwaits hunread with hraised | hpending
  · exact Or.inl hraised
  · obtain ⟨e, he⟩ := hpending
    have hne : e ≠ d := by
      intro heq
      rw [heq] at he
      exact hd he
    refine Or.inr ⟨e, ?_⟩
    show (Function.update s.dispatchers d pc e).Pending
    rw [Function.update_of_ne hne]
    exact he

theorem pending_setDispatcher (s : State Did M) (d : Did) {pc : DispatchPc M} (h : pc.Pending) :
    ((s.setDispatcher d pc).dispatchers d).Pending := by
  show (Function.update s.dispatchers d pc d).Pending
  rw [Function.update_self]
  exact h

/-- A routine that is released after `UpdateState` waits only if it waited. -/
theorem Reader.released_waits {x : Reader} (h : x.released.Waits) : x.cr.state = .dataWait := by
  unfold Reader.released at h
  split at h
  · obtain ⟨hpc, _⟩ := h
    rcases hpc with hpc | hpc <;> cases hpc
  · exact h.2

variable [Inhabited M] {queueSize : Nat}

/-- The fetch that fails leaves nothing unread. -/
theorem woken_tryFetch : Woken (((readerRoutine queueSize).action .tryFetch).effect s) := by
  simp only [readerRoutine]
  split
  · apply woken_of_not_waits
    intro hwaits
    rcases hwaits.1 with hpc | hpc <;> cases hpc
  · next hnone =>
    intro _ hunread
    exact absurd hnone hunread

theorem Woken.testAndSet (h : Woken s) (hpc : s.reader.pc = .suspended) :
    Woken (((readerRoutine queueSize).action .testAndSet).effect s) := by
  simp only [readerRoutine]
  split
  · apply woken_of_not_waits
    intro hwaits
    rcases hwaits.1 with hpc | hpc <;> cases hpc
  · next hraised =>
    intro hwaits hunread
    have hstate := Reader.released_waits hwaits
    rcases h ⟨Or.inr hpc, hstate⟩ hunread with hraised' | hpending
    · exact absurd hraised' hraised
    · exact Or.inr hpending

theorem woken_becomeReady :
    Woken (((readerRoutine queueSize).action .becomeReady).effect s) := by
  apply woken_of_not_waits
  intro hwaits
  exact s.reader.cr.becomeReady_state_ne_dataWait (Reader.released_waits hwaits)

/-- **Step lemma**. -/
theorem Woken.step (a : Label Did M) (h : Woken s)
    (hg : ((readerRoutine queueSize).action a).gate s) (hok : NoPlainYield s a) :
    Woken (((readerRoutine queueSize).action a).effect s) := by
  have hnot {pc : DispatchPc M} {d : Did} (hd : s.dispatchers d = pc) (hpc : ¬ pc.Pending) :
      ¬ (s.dispatchers d).Pending := by
    rw [hd]
    exact hpc
  cases a with
  | dispatch d msg => exact h.setDispatcher (hnot hg id) _
  | fill d msg => exact woken_of_pending (d := d) (pending_setDispatcher s d trivial)
  | checkDataWait d =>
    simp only [readerRoutine]
    split
    · exact woken_of_pending (d := d) (pending_setDispatcher s d trivial)
    · next hstate => exact woken_of_not_waits fun hwaits => hstate hwaits.2
  | checkIoWait d =>
    simp only [readerRoutine]
    split
    · exact h.setDispatcher (hnot hg id) _
    · exact h.setDispatcher (hnot hg id) _
  | setUpdateFlag d => exact fun _ _ => Or.inl s.reader.cr.setUpdateFlag_raised
  | notify d => exact h.setDispatcher (hnot hg id) _
  | tryFetch => exact woken_tryFetch
  | testAndSet => exact h.testAndSet hg
  | becomeReady => exact woken_becomeReady
  | swapOut =>
    have hpc : s.reader.pc = .swapOut := hg
    exact fun hwaits hunread => h ⟨Or.inl hpc, hwaits.2⟩ hunread
  | callbackYield => exact hok.elim
  | callbackSleep => exact woken_of_not_waits fun hwaits => nomatch hwaits.2
  | callbackIoWait => exact woken_of_not_waits fun hwaits => nomatch hwaits.2
  | yieldReady => exact woken_of_not_waits fun hwaits => nomatch hwaits.2
  | setDataWait => exact woken_of_not_waits fun hwaits => nomatch hwaits.1
  | callbackReturn => exact woken_of_not_waits fun hwaits => nomatch hwaits.1
  | wakeUp => exact woken_of_not_waits fun hwaits => nomatch hwaits.1
  | resume =>
    apply woken_of_not_waits
    intro hwaits
    have hpc : (if s.reader.inCallback = true then ReaderPc.callback else .setDataWait) = .swapOut ∨
        (if s.reader.inCallback = true then ReaderPc.callback else .setDataWait) = .suspended :=
      hwaits.1
    split at hpc
    · nomatch hpc
    · nomatch hpc

/-- **Main result**: a reader routine is never left asleep on unread data. -/
theorem reader_not_leftAsleep
    (h : ((readerRoutine queueSize).restrict NoPlainYield).Reachable s) : ¬ LeftAsleep s := by
  have hwoken : Woken s := by
    apply System.invariant _ _ h
    · intro s hi
      apply woken_of_not_waits
      intro hwaits
      rw [hi.2.2.1] at hwaits
      nomatch hwaits.2
    · intro s a hs hg
      exact hs.step a hg.1 hg.2
  exact hwoken.not_leftAsleep

end steps

/-! ## Section 3: One message -/

def initial (queueSize : Nat) : State Unit Nat where
  buffer       := .new queueSize
  nextMsgIndex := 0
  reader       := ⟨.suspended, .new, false⟩
  dispatchers  := fun _ => .idle

theorem initial_init (queueSize : Nat) : (readerRoutine queueSize).init (initial queueSize) :=
  ⟨rfl, rfl, rfl, fun _ => rfl⟩

/-- The routine finds nothing and waits; then a message comes. -/
def oneMessage : List (Label Unit Nat) :=
  [.testAndSet, .resume, .setDataWait, .tryFetch, .swapOut, .dispatch () 7, .fill () 7,
    .checkDataWait (), .setUpdateFlag (), .notify ()]

theorem reader_not_leftAsleep_oneMessage :
    ¬ LeftAsleep ((readerRoutine 1).exec (initial 1) oneMessage) := by
  have hreach : ((readerRoutine 1).restrict NoPlainYield).Reachable
      (((readerRoutine 1).restrict NoPlainYield).exec (initial 1) oneMessage) :=
    System.reachable_exec ((readerRoutine 1).restrict NoPlainYield) (initial_init 1) oneMessage
      (by decide)
  exact reader_not_leftAsleep hreach

end CyberRT.Croutine
