import CyberRT.Io.PollHandler

/-! # Wake-up of a blocked routine

    The request is left with the poller before the routine stores `IO_WAIT`.
    An event that comes in between finds the routine in another state, and
    `ResponseCallback` notifies nobody. Nor does it if `Unblock` has cleared
    the flag, or if another `Block` has taken the place of the handler's
    routine before it failed. -/

namespace CyberRT.Io.PollHandler

open CyberRT.Framework CyberRT.Croutine

variable {Cid : Type}

/-! ## Section 1: Lost wake-ups -/

/-- The routine is going to be suspended in `IO_WAIT`, or is it already. -/
def Routine.Waits (x : Routine) : Prop :=
  x.pc = .setState ∨ ((x.pc = .swapOut ∨ x.pc = .suspended) ∧ x.cr.state = .ioWait)

instance (x : Routine) : Decidable x.Waits := inferInstanceAs (Decidable (_ ∨ _))

/-- The response to the current `Block` has been delivered, its routine is
    suspended in `IO_WAIT` with its update flag not raised, and no callback is
    in progress. -/
def LeftAsleep (s : State Cid) : Prop :=
  ∃ c, s.current = some c ∧ s.delivered = true ∧ (s.routines c).pc = .suspended ∧
    (s.routines c).cr.state = .ioWait ∧ ¬ (s.routines c).cr.Raised ∧
    s.pollerPc.inCallback = false

/-- The response is there, and the routine has yet to be notified. -/
def State.Owed (s : State Cid) (c : Cid) : Prop :=
  s.delivered = true ∧ (s.routines c).Waits ∧ ¬ (s.routines c).cr.Raised

instance (s : State Cid) (c : Cid) : Decidable (s.Owed c) := inferInstanceAs (Decidable (_ ∧ _))

section condition
variable [DecidableEq Cid]

/-- The condition: as long as the routine of the current `Block` has to be
    notified, the callback finds the handler blocking, loads this routine and
    no other, and looks at its state after the store of `IO_WAIT`. -/
def Timely (s : State Cid) : Label Cid → Prop
  | .testBlocking _ => ∀ c ∈ s.current, s.Owed c → s.isBlocking = true
  | .testRoutine _  => ∀ c ∈ s.current, s.Owed c → s.routine.isSome
  | .loadRoutine c' => ∀ c ∈ s.current, s.Owed c → c' = c
  | .testState _    => ∀ c ∈ s.current, s.Owed c → (s.routines c).pc ≠ .setState
  | .loadId c'      => ∀ c ∈ s.current, s.Owed c → c' = c
  | _ => True

instance decidableTimely (s : State Cid) : ∀ a : Label Cid, Decidable (Timely s a)
  | .testBlocking _ =>
    inferInstanceAs (Decidable (∀ c ∈ s.current, s.Owed c → s.isBlocking = true))
  | .testRoutine _ =>
    inferInstanceAs (Decidable (∀ c ∈ s.current, s.Owed c → s.routine.isSome))
  | .loadRoutine c' => inferInstanceAs (Decidable (∀ c ∈ s.current, s.Owed c → c' = c))
  | .testState _ =>
    inferInstanceAs (Decidable (∀ c ∈ s.current, s.Owed c → (s.routines c).pc ≠ .setState))
  | .loadId c' => inferInstanceAs (Decidable (∀ c ∈ s.current, s.Owed c → c' = c))
  | .check .. | .checkOutside | .exchange _ | .register _ | .registerFails _ | .setState _
  | .swapOut _ | .readResponse _ | .endBlock _ | .testAndSet _ | .becomeReady _ | .resume _
  | .unblock | .unregister | .handleChanges | .report _ | .respond _ | .storeResponse _
  | .checkDataWait _ | .checkIoWait _ | .setUpdateFlag _ => .isTrue trivial

end condition

/-! ## Section 2: Invariant -/

/-- The callback is going to notify the routine, of which it is told whether
    it has stored `IO_WAIT`. -/
def PollerPc.Serves (pc : PollerPc Cid) (c : Cid) (stored : Prop) : Prop :=
  match pc with
  | .idle | .respond _ => False
  | .testBlocking _ | .testRoutine _ | .storeResponse _ | .loadRoutine => True
  | .testState c' => c' = c
  | .loadId => stored
  | .checkDataWait c' | .checkIoWait c' | .setUpdateFlag c' => c' = c ∧ stored

/-- **Invariant**: a routine that has to be notified is going to be. -/
def Woken (s : State Cid) : Prop :=
  ∀ c, s.current = some c → s.Owed c →
    s.pollerPc.Serves c ((s.routines c).pc ≠ .setState)

theorem PollerPc.Serves.mono {pc : PollerPc Cid} {c : Cid} {p q : Prop} (h : pc.Serves c p)
    (hpq : p → q) : pc.Serves c q := by
  unfold PollerPc.Serves at h ⊢
  split <;> simp_all

theorem PollerPc.Serves.inCallback {pc : PollerPc Cid} {c : Cid} {p : Prop}
    (h : pc.Serves c p) : pc.inCallback = true := by
  cases pc <;> simp_all [PollerPc.Serves, PollerPc.inCallback]

theorem Woken.not_leftAsleep {s : State Cid} (h : Woken s) : ¬ LeftAsleep s := by
  rintro ⟨c, hcurrent, hdelivered, hpc, hstate, hraised, hquiet⟩
  have howed : s.Owed c := ⟨hdelivered, .inr ⟨.inr hpc, hstate⟩, hraised⟩
  have hbusy := (h c hcurrent howed).inCallback
  rw [hquiet] at hbusy
  cases hbusy

section steps
variable [DecidableEq Cid] {s s' : State Cid} {c : Cid} {x : Routine}

/-- A step of one routine that makes it wait no more than it did. -/
theorem Woken.setRoutine (h : Woken s) (hrest : s'.delivered = s.delivered ∧
      s'.pollerPc = s.pollerPc ∧ s'.routines = Function.update s.routines c x)
    (hcurrent : ∀ u, s'.current = some u → s.current = some u)
    (hwaits : s'.current = some c → x.Waits → ¬ x.cr.Raised →
      (s.routines c).Waits ∧ ¬ (s.routines c).cr.Raised)
    (hstored : x.Waits → (s.routines c).pc ≠ .setState → x.pc ≠ .setState) : Woken s' := by
  obtain ⟨hdelivered, hpoller, hroutines⟩ := hrest
  intro u hu howed
  obtain ⟨hdone, hwait, hraised⟩ := howed
  rw [hdelivered] at hdone
  rw [hpoller]
  by_cases huc : u = c
  · subst huc
    rw [hroutines, Function.update_self] at hwait hraised ⊢
    obtain ⟨hwait', hraised'⟩ := hwaits hu hwait hraised
    exact (h u (hcurrent u hu) ⟨hdone, hwait', hraised'⟩).mono (hstored hwait)
  · rw [hroutines, Function.update_of_ne huc] at hwait hraised ⊢
    exact h u (hcurrent u hu) ⟨hdone, hwait, hraised⟩

/-- A step of a routine that does not wait afterwards. -/
theorem Woken.setAwake (h : Woken s) (hrest : s'.delivered = s.delivered ∧
      s'.pollerPc = s.pollerPc ∧ s'.routines = Function.update s.routines c x)
    (hcurrent : ∀ u, s'.current = some u → s.current = some u) (hawake : ¬ x.Waits) : Woken s' :=
  h.setRoutine hrest hcurrent (fun _ hwait => absurd hwait hawake)
    fun hwait => absurd hwait hawake

omit [DecidableEq Cid] in
/-- A step of the poller's thread. -/
theorem Woken.setPoller (h : ∀ c, s.current = some c → s.Owed c →
      s'.pollerPc.Serves c ((s.routines c).pc ≠ .setState))
    (hrest : s'.delivered = s.delivered ∧ s'.current = s.current ∧ s'.routines = s.routines) :
    Woken s' := by
  obtain ⟨hdelivered, hcurrent, hroutines⟩ := hrest
  intro u hu howed
  rw [hcurrent] at hu
  rw [hroutines]
  refine h u hu ?_
  simpa [State.Owed, hdelivered, hroutines] using howed

/-- The routine waits in `IO_WAIT` once it has stored it. -/
theorem Routine.Waits.ioWait (h : x.Waits) (hpc : x.pc ≠ .setState) : x.cr.state = .ioWait := by
  rcases h with hset | hwait
  · exact absurd hset hpc
  · exact hwait.2

theorem Woken.step_testAndSet (h : Woken s) (hg : (pollHandler.action (.testAndSet c)).gate s) :
    Woken ((pollHandler.action (.testAndSet c)).effect s) := by
  have hpc : (s.routines c).pc = .suspended := hg
  by_cases hraised : (s.routines c).cr.Raised
  · refine h.setAwake (c := c) ⟨rfl, rfl, rfl⟩ (fun _ hu => hu) ?_
    simp [Routine.Waits, hraised]
  · refine h.setRoutine (c := c) ⟨rfl, rfl, rfl⟩ (fun _ hu => hu) ?_ (by simp [hraised])
    intro _ hwait _
    refine ⟨.inr ⟨.inr hpc, ?_⟩, hraised⟩
    exact hwait.ioWait (by simp [hraised])

theorem Woken.step_resume (h : Woken s) :
    Woken ((pollHandler.action (.resume c)).effect s) := by
  refine h.setAwake (c := c) ⟨rfl, rfl, rfl⟩ ?_ (by simp [Routine.Waits])
  intro u hu
  dsimp only [pollHandler] at hu
  split at hu
  · cases hu
  · exact hu

omit [DecidableEq Cid] in
/-- What the callback has come to serves the routine that has to be notified. -/
theorem Woken.serves (h : Woken s) {pc : PollerPc Cid} (hpc : s.pollerPc = pc)
    (hcurrent : s.current = some c) (howed : s.Owed c) :
    pc.Serves c ((s.routines c).pc ≠ .setState) := by
  rw [← hpc]
  exact h c hcurrent howed

/-- A routine that has stored `IO_WAIT` and still waits is found in it. -/
theorem Woken.step_testState (h : Woken s) (hg : (pollHandler.action (.testState c)).gate s)
    (htimely : Timely s (.testState c)) :
    Woken ((pollHandler.action (.testState c)).effect s) := by
  refine Woken.setPoller (s := s) (fun u hu howed => ?_) ⟨rfl, rfl, rfl⟩
  obtain rfl : c = u := h.serves hg hu howed
  have hstored := htimely c hu howed
  simp [pollHandler, State.setPoller, howed.2.1.ioWait hstored, PollerPc.Serves, hstored]

theorem Woken.step_loadId (h : Woken s) (hg : (pollHandler.action (.loadId c)).gate s)
    (htimely : Timely s (.loadId c)) : Woken ((pollHandler.action (.loadId c)).effect s) := by
  refine Woken.setPoller (s := s) (fun u hu howed => ?_) ⟨rfl, rfl, rfl⟩
  exact ⟨htimely u hu howed, h.serves hg.1 hu howed⟩

theorem Woken.step_checkDataWait (h : Woken s)
    (hg : (pollHandler.action (.checkDataWait c)).gate s) :
    Woken ((pollHandler.action (.checkDataWait c)).effect s) := by
  refine Woken.setPoller (s := s) (fun u hu howed => ?_) ⟨rfl, rfl, rfl⟩
  have hserves := h.serves hg hu howed
  simp only [pollHandler, State.setPoller]
  split <;> exact hserves

theorem Woken.step_checkIoWait (h : Woken s) (hg : (pollHandler.action (.checkIoWait c)).gate s) :
    Woken ((pollHandler.action (.checkIoWait c)).effect s) := by
  refine Woken.setPoller (s := s) (fun u hu howed => ?_) ⟨rfl, rfl, rfl⟩
  obtain ⟨rfl, hstored⟩ := h.serves hg hu howed
  simp [pollHandler, State.setPoller, howed.2.1.ioWait hstored, PollerPc.Serves, hstored]

/-- The flag is raised. -/
theorem Woken.step_setUpdateFlag (h : Woken s)
    (hg : (pollHandler.action (.setUpdateFlag c)).gate s) :
    Woken ((pollHandler.action (.setUpdateFlag c)).effect s) := by
  intro u hu howed
  by_cases huc : u = c
  · subst huc
    refine absurd ?_ howed.2.2
    simp [pollHandler, State.setRoutine]
  · -- the callback notifies the routine it serves
    have hother : (((pollHandler.action (.setUpdateFlag c)).effect s).routines u) =
        s.routines u := Function.update_of_ne huc _ _
    have howed' : s.Owed u := ⟨howed.1, hother ▸ howed.2⟩
    obtain ⟨heq, -⟩ := h.serves hg hu howed'
    exact absurd heq.symm huc

omit [DecidableEq Cid] in
/-- While no callback is in progress nobody has to be notified. -/
theorem Woken.not_owed (h : Woken s) (hquiet : s.pollerPc.inCallback = false)
    (hcurrent : s.current = some c) : ¬ s.Owed c := by
  intro howed
  have hbusy := (h c hcurrent howed).inCallback
  simp [hquiet] at hbusy

theorem Woken.step_respond (h : Woken s) {rsp : BitVec 32}
    (hg : (pollHandler.action (.respond rsp)).gate s) :
    Woken ((pollHandler.action (.respond rsp)).effect s) := by
  have hpc : s.pollerPc = .respond rsp := hg
  dsimp only [pollHandler]
  split
  · exact fun _ _ _ => trivial
  · intro u hu howed
    exact absurd howed (h.not_owed (by simp [hpc, PollerPc.inCallback]) hu)

/-- **Step lemma**. -/
theorem Woken.step (h : Woken s) (a : Label Cid) (hg : (pollHandler.action a).gate s)
    (htimely : Timely s a) : Woken ((pollHandler.action a).effect s) := by
  cases a with
  | check c isRead =>
    exact h.setAwake (c := c) ⟨rfl, rfl, rfl⟩ (fun _ hu => hu) (by simp [Routine.Waits])
  | checkOutside => exact h
  | exchange c =>
    dsimp only [pollHandler]
    split
    · exact h.setAwake (c := c) ⟨rfl, rfl, rfl⟩ (fun _ hu => hu) (by simp [Routine.Waits])
    · exact h.setAwake (c := c) ⟨rfl, rfl, rfl⟩ (fun _ hu => hu) (by simp [Routine.Waits])
  | register c =>
    -- nothing has been delivered to the new `Block`
    rintro u - ⟨hdelivered, -⟩
    simp [pollHandler] at hdelivered
  | registerFails c =>
    exact h.setAwake (c := c) ⟨rfl, rfl, rfl⟩ (fun _ hu => hu) (by simp [Routine.Waits])
  | setState c =>
    have hpc : (s.routines c).pc = .setState := hg
    refine h.setRoutine (c := c) ⟨rfl, rfl, rfl⟩ (fun _ hu => hu) ?_ (by simp [hpc])
    exact fun _ _ hraised => ⟨.inl hpc, hraised⟩
  | swapOut c =>
    have hpc : (s.routines c).pc = .swapOut := hg
    refine h.setRoutine (c := c) ⟨rfl, rfl, rfl⟩ (fun _ hu => hu) ?_ (by simp)
    exact fun _ hwait hraised => ⟨.inr ⟨.inl hpc, hwait.ioWait (by simp)⟩, hraised⟩
  | readResponse c =>
    exact h.setAwake (c := c) ⟨rfl, rfl, rfl⟩ (fun _ hu => hu) (by simp [Routine.Waits])
  | endBlock c =>
    exact h.setAwake (c := c) ⟨rfl, rfl, rfl⟩ (fun _ hu => hu) (by simp [Routine.Waits])
  | testAndSet c => exact h.step_testAndSet hg
  | becomeReady c =>
    refine h.setAwake (c := c) ⟨rfl, rfl, rfl⟩ (fun _ hu => hu) ?_
    intro hwait
    have hstate := hwait.ioWait (by simp)
    have hready := (s.routines c).cr.becomeReady_not_waits
    rw [hstate] at hready
    cases hready
  | resume c => exact h.step_resume
  | unblock => exact h
  | unregister =>
    dsimp only [pollHandler]
    split
    · exact h
    · exact h
  | handleChanges => exact h
  -- the poller is between two callbacks and owes nobody a wake-up
  | report rsp =>
    intro u hu howed
    exact absurd howed (h.not_owed (by simp [hg.1, PollerPc.inCallback]) hu)
  | respond rsp => exact h.step_respond hg
  | testBlocking rsp =>
    refine Woken.setPoller (s := s) (fun u hu howed => ?_) ⟨rfl, rfl, rfl⟩
    -- by the condition the callback serves whoever is owed
    simp [pollHandler, State.setPoller, htimely u hu howed, PollerPc.Serves]
  | testRoutine rsp =>
    refine Woken.setPoller (s := s) (fun u hu howed => ?_) ⟨rfl, rfl, rfl⟩
    simp [pollHandler, State.setPoller, htimely u hu howed, PollerPc.Serves]
  | storeResponse rsp =>
    exact Woken.setPoller (s := s) (fun _ _ _ => trivial) ⟨rfl, rfl, rfl⟩
  | loadRoutine c =>
    exact Woken.setPoller (s := s) (fun u hu howed => htimely u hu howed) ⟨rfl, rfl, rfl⟩
  | testState c => exact h.step_testState hg htimely
  | loadId c => exact h.step_loadId hg htimely
  | checkDataWait c => exact h.step_checkDataWait hg
  | checkIoWait c => exact h.step_checkIoWait hg
  | setUpdateFlag c => exact h.step_setUpdateFlag hg

/-! ## Section 3: Blocked routines -/

/-- **No lost wake-up** in any run all of whose callbacks are timely. -/
theorem pollHandler_not_leftAsleep (s : State Cid)
    (h : (pollHandler.restrict Timely).Reachable s) : ¬ LeftAsleep s := by
  have hwoken : Woken s := by
    apply System.invariant _ _ h
    · intro s hi u hu
      simp [hi.2.2.2.2.2.2.2.1] at hu
    · intro s a hs hg
      exact hs.step a hg.1 hg.2
  exact hwoken.not_leftAsleep

end steps

/-- Routine 0 registers a request, and the poller arms the fd. -/
def registered : List (Label (Fin 2)) :=
  [.check 0 true, .exchange 0, .register 0, .handleChanges]

/-- The event comes when the routine is suspended. -/
theorem pollHandler_not_leftAsleep_late :
    ∃ s : State (Fin 2), (pollHandler.restrict Timely).Reachable s ∧
      (s.routines 0).cr.Raised ∧ ¬ LeftAsleep s := by
  let as : List (Label (Fin 2)) := registered ++
    [.setState 0, .swapOut 0, .report 1, .respond 1, .testBlocking 1, .testRoutine 1,
      .storeResponse 1, .loadRoutine 0, .testState 0, .loadId 0, .checkDataWait 0, .checkIoWait 0,
      .setUpdateFlag 0]
  have hreach : (pollHandler.restrict Timely).Reachable
      ((pollHandler.restrict Timely).exec initial as) :=
    System.reachable_exec (pollHandler.restrict Timely) initial_init as (by decide)
  exact ⟨_, hreach, by decide, pollHandler_not_leftAsleep _ hreach⟩

/-- The event comes before the routine has stored `IO_WAIT`. -/
theorem pollHandler_leftAsleep : ∃ s : State (Fin 2), pollHandler.Reachable s ∧ LeftAsleep s := by
  let as : List (Label (Fin 2)) := registered ++
    [.report 1, .respond 1, .testBlocking 1, .testRoutine 1, .storeResponse 1, .loadRoutine 0,
      .testState 0, .setState 0, .swapOut 0]
  have hreach : pollHandler.Reachable (pollHandler.exec initial as) :=
    System.reachable_exec pollHandler initial_init as (by decide)
  exact ⟨_, hreach, 0, by decide⟩

/-- The event comes between the two halves of `Unblock`. -/
theorem pollHandler_leftAsleep_unblock :
    ∃ s : State (Fin 2), pollHandler.Reachable s ∧ LeftAsleep s := by
  let as : List (Label (Fin 2)) := registered ++
    [.setState 0, .swapOut 0, .unblock, .report 1, .respond 1, .testBlocking 1]
  have hreach : pollHandler.Reachable (pollHandler.exec initial as) :=
    System.reachable_exec pollHandler initial_init as (by decide)
  exact ⟨_, hreach, 0, by decide⟩

/-- Routine 1 tries to block, fails, and stays the handler's routine. -/
theorem pollHandler_leftAsleep_otherRoutine :
    ∃ s : State (Fin 2), pollHandler.Reachable s ∧ LeftAsleep s := by
  let as : List (Label (Fin 2)) := registered ++
    [.setState 0, .swapOut 0, .check 1 true, .exchange 1, .report 1, .respond 1, .testBlocking 1,
      .testRoutine 1, .storeResponse 1, .loadRoutine 1, .testState 1]
  have hreach : pollHandler.Reachable (pollHandler.exec initial as) :=
    System.reachable_exec pollHandler initial_init as (by decide)
  exact ⟨_, hreach, 0, by decide⟩

end CyberRT.Io.PollHandler
