import CyberRT.Croutine.DataPlaneDelivery
import CyberRT.Croutine.ReaderWakeUp

/-! # Setting up a reader on a busy channel

    `CreateTask` dispatches the routine before it registers the
    notification. In between, the routine may find its buffer empty and
    wait, while a `Dispatch` fills the buffer and passes over the callback:
    the reader is then left asleep on unread data. This lasts until the
    first `Dispatch` that looks up the channel after the registration, and
    never comes back: from then on the invariant of a single reader holds,
    whatever is dispatched, set up and removed around it. -/

namespace CyberRT.Croutine.DataPlane

open CyberRT.Framework CyberRT.Data

variable {Did K R M : Type}

/-! ## Section 1: Lost wake-ups -/

/-- `TryFetch` would return true. -/
def Endpoint.Unread (e : Endpoint Did M) : Prop := e.buffer.fetch e.nextMsgIndex ≠ none

/-- The thread is on its way to the routine of `r`: it is going to look up
    the notifiers of its channel, or `r` is among the ones still to call, or
    it is about to load the routine's state or to raise its flag. -/
def DispatchPc.Notifies (conf : R → VisitorConfig K) (r : R) : DispatchPc K R M → Prop
  | .idle | .isShutdown _ _ | .findBuffers _ _ => False
  | .lock k _ _ _ | .fill k _ _ _ | .release k _ _ _ | .findNotifiers k =>
    (conf r).channelId = k
  | .callback _ r' rest | .call _ r' rest | .findTask _ r' rest | .checkDataWait _ r' rest
  | .setUpdateFlag _ r' rest => r ∈ r' :: rest
  | .checkIoWait _ _ rest | .notify _ _ rest => r ∈ rest

instance [DecidableEq K] [DecidableEq R] (conf : R → VisitorConfig K) (r : R) :
    (pc : DispatchPc K R M) → Decidable (pc.Notifies conf r)
  | .idle | .isShutdown _ _ | .findBuffers _ _ => inferInstanceAs (Decidable False)
  | .lock _ _ _ _ | .fill _ _ _ _ | .release _ _ _ _ | .findNotifiers _ =>
    inferInstanceAs (Decidable (_ = _))
  | .callback _ _ _ | .call _ _ _ | .findTask _ _ _ | .checkDataWait _ _ _
  | .setUpdateFlag _ _ _ => inferInstanceAs (Decidable (r ∈ _ :: _))
  | .checkIoWait _ _ _ | .notify _ _ _ => inferInstanceAs (Decidable (r ∈ _))

/-- Unread data, the routine in the scheduler and asleep, and nobody is
    going to wake it. -/
def LeftAsleep (conf : R → VisitorConfig K) (s : State Did K R M) (r : R) : Prop :=
  (s.endpoints r).stage.inRegistry = true ∧ (s.endpoints r).Unread ∧
    (s.endpoints r).reader.Asleep ∧ ∀ d, ¬ (s.dispatchers d).Notifies conf r

/-- The callbacks run through or yield with a state: no plain `Yield`. -/
def NoPlainYield (s : State Did K R M) : Label Did K R M → Prop
  | .routine r a => Croutine.NoPlainYield (s.endpoints r).view a
  | _            => True

instance (s : State Did K R M) : (a : Label Did K R M) → Decidable (NoPlainYield s a)
  | .routine r a => inferInstanceAs (Decidable (Croutine.NoPlainYield (s.endpoints r).view a))
  | .addBuffer _ | .addNotifier _ | .dispatchTask _ | .assignCallback _
  | .registerNotifyCallback _ | .removeTask _ | .destroy _ | .shutdown | .dispatch _ _ _
  | .advance _ => inferInstanceAs (Decidable True)

/-- Nor is there a race for a callback. -/
def Orderly (s : State Did K R M) (a : Label Did K R M) : Prop := NoRace s a ∧ NoPlainYield s a

instance (s : State Did K R M) (a : Label Did K R M) : Decidable (Orderly s a) :=
  inferInstanceAs (Decidable (_ ∧ _))

/-! ## Section 2: One reader -/

/-- A waiting routine with unread data is going to be woken; `called` says
    that some thread is on its way to it. -/
def Endpoint.Awake (e : Endpoint Did M) (called : Prop) : Prop :=
  e.reader.Waits → e.Unread → e.reader.cr.Raised ∨ called

theorem Endpoint.Awake.mono {e : Endpoint Did M} {called called' : Prop} (h : e.Awake called)
    (himp : called → called') : e.Awake called' :=
  fun hwaits hunread => (h hwaits hunread).imp_right himp

theorem awake_of_called {e : Endpoint Did M} {called : Prop} (h : called) : e.Awake called :=
  fun _ _ => Or.inr h

section routine
variable [DecidableEq Did] [Inhabited M] {queueSize : Nat}

/-- A step of the routine is one next to threads that do nothing. -/
theorem routine_view (e : Endpoint Did M) {a : Croutine.Label Did M} (ha : ofRoutine a = true) :
    ((readerRoutine queueSize).action a).effect e.view = (e.routine queueSize a).view := by
  cases a
  case tryFetch | testAndSet =>
    simp only [readerRoutine, Endpoint.routine, Endpoint.view]
    split
    · rfl
    · rfl
  all_goals first
    | exact absurd ha Bool.false_ne_true
    | rfl

/-- **Routine**: the single reader's step lemma. -/
theorem Endpoint.Awake.routine {e : Endpoint Did M} {called : Prop} (h : e.Awake called)
    {a : Croutine.Label Did M} (ha : ofRoutine a = true)
    (hg : ((readerRoutine queueSize).action a).gate e.view)
    (hok : Croutine.NoPlainYield e.view a) : (e.routine queueSize a).Awake called := by
  intro hwaits hunread
  by_cases hcalled : called
  · exact Or.inr hcalled
  · -- nobody is on the way: the single reader without dispatching threads
    have hwoken : Woken e.view := by
      intro hwaits hunread
      rcases h hwaits hunread with hraised | hcalled'
      · exact Or.inl hraised
      · exact absurd hcalled' hcalled
    have hstep := hwoken.step a hg hok
    rw [routine_view e ha] at hstep
    rcases hstep hwaits hunread with hraised | hpending
    · exact Or.inl hraised
    · obtain ⟨_, hpending⟩ := hpending
      exact hpending.elim

end routine

/-! ## Section 3: Invariant -/

section invariant
variable {conf : R → VisitorConfig K} {s : State Did K R M} {r : R} {d : Did}

/-- Some thread is on its way to the routine of `r`. -/
def Called (conf : R → VisitorConfig K) (s : State Did K R M) (r : R) : Prop :=
  ∃ d, (s.dispatchers d).Notifies conf r

/-- The buffers that are left are of the dispatch's channel. -/
def DispatchPc.Addressed (conf : R → VisitorConfig K) : DispatchPc K R M → Prop
  | .lock k _ r rest | .fill k _ r rest | .release k _ r rest =>
    ∀ r' ∈ r :: rest, (conf r').channelId = k
  | _ => True

/-- **Invariant**, of the readers that have been announced a message since
    their notification is registered. -/
structure Heard (conf : R → VisitorConfig K) (s : State Did K R M) : Prop where
  notifiers : ∀ r, (s.endpoints r).stage.hasNotifier = true →
    r ∈ s.notifiesMap.entries (conf r).channelId
  addressed : ∀ d, (s.dispatchers d).Addressed conf
  announced : ∀ r, (s.endpoints r).announced = true →
    (s.endpoints r).stage.hasCallback = true
  awake     : ∀ r, (s.endpoints r).announced = true →
    (s.endpoints r).stage.inRegistry = true → (s.endpoints r).Awake (Called conf s r)

theorem hasNotifier_of_hasCallback {stage : Stage} (h : stage.hasCallback = true) :
    stage.hasNotifier = true := by
  cases stage
  all_goals first
    | rfl
    | exact absurd h Bool.false_ne_true

/-! ### The loops of `Dispatch` and `Notify` -/

@[simp] theorem notifies_nextBuffer (k : K) (msg : M) (rest : List R) :
    (DispatchPc.nextBuffer k msg rest).Notifies conf r ↔ (conf r).channelId = k := by
  rcases rest with _ | ⟨r', rest⟩
  · exact Iff.rfl
  · exact Iff.rfl

@[simp] theorem notifies_nextNotifier (k : K) (rest : List R) :
    (DispatchPc.nextNotifier k rest : DispatchPc K R M).Notifies conf r ↔ r ∈ rest := by
  rcases rest with _ | ⟨r', rest⟩
  · exact ⟨fun hno => hno.elim, fun hmem => absurd hmem List.not_mem_nil⟩
  · exact Iff.rfl

theorem addressed_nextBuffer {k : K} {msg : M} {rest : List R}
    (h : ∀ r ∈ rest, (conf r).channelId = k) :
    (DispatchPc.nextBuffer k msg rest).Addressed conf := by
  rcases rest with _ | ⟨r', rest⟩
  · trivial
  · exact h

theorem addressed_nextNotifier (k : K) (rest : List R) :
    (DispatchPc.nextNotifier k rest : DispatchPc K R M).Addressed conf := by
  rcases rest with _ | ⟨r', rest⟩
  · trivial
  · trivial

/-! ### Threads and readers -/

variable [DecidableEq Did]

theorem called_setDispatcher {pc : DispatchPc K R M} (h : pc.Notifies conf r) :
    Called conf (s.setDispatcher d pc) r := by
  refine ⟨d, ?_⟩
  show (Function.update s.dispatchers d pc d).Notifies conf r
  rw [Function.update_self]
  exact h

/-- Thread `d` is still on its way where it was, or was not. -/
theorem Called.setDispatcher {pc : DispatchPc K R M} (h : Called conf s r)
    (hpc : (s.dispatchers d).Notifies conf r → pc.Notifies conf r) :
    Called conf (s.setDispatcher d pc) r := by
  obtain ⟨d', hd'⟩ := h
  by_cases hd : d' = d
  · subst hd
    exact called_setDispatcher (hpc hd')
  · refine ⟨d', ?_⟩
    show (Function.update s.dispatchers d pc d').Notifies conf r
    rw [Function.update_of_ne hd]
    exact hd'

theorem addressed_setDispatcher {pc : DispatchPc K R M}
    (h : ∀ d, (s.dispatchers d).Addressed conf) (hpc : pc.Addressed conf) (d' : Did) :
    ((s.setDispatcher d pc).dispatchers d').Addressed conf := by
  show (Function.update s.dispatchers d pc d').Addressed conf
  by_cases hd : d' = d
  · subst hd
    rw [Function.update_self]
    exact hpc
  · rw [Function.update_of_ne hd]
    exact h d'

/-- **Thread step**: thread `d` goes to `pc`, and either keeps each
    announced reader as it is and stays on its way to it, or is on its way
    to it now, or has woken it or found it not waiting. -/
theorem Heard.move (h : Heard conf s) {endpoints : R → Endpoint Did M} {pc : DispatchPc K R M}
    (haddressed : pc.Addressed conf)
    (hstage : ∀ r, (endpoints r).stage = (s.endpoints r).stage)
    (hnew : ∀ r, (endpoints r).announced = true → (s.endpoints r).announced = true ∨
      (endpoints r).stage = .registerNotifyCallback ∧ pc.Notifies conf r)
    (hawake : ∀ r, (s.endpoints r).announced = true →
      (s.endpoints r).stage.inRegistry = true →
      (s.endpoints r).Awake (Called conf s r) →
      (endpoints r).Awake (Called conf (s.setDispatcher d pc) r)) :
    Heard conf { s.setDispatcher d pc with endpoints := endpoints } := by
  refine ⟨?_, addressed_setDispatcher h.addressed haddressed, ?_, ?_⟩
  · intro r hnotifier
    rw [hstage r] at hnotifier
    exact h.notifiers r hnotifier
  · intro r hannounced
    rcases hnew r hannounced with hold | ⟨hregistered, _⟩
    · show (endpoints r).stage.hasCallback = true
      rw [hstage r]
      exact h.announced r hold
    · show (endpoints r).stage.hasCallback = true
      rw [hregistered]
      rfl
  · intro r hannounced hregistry
    rcases hnew r hannounced with hold | ⟨_, hnotifies⟩
    · rw [hstage r] at hregistry
      exact hawake r hold hregistry (h.awake r hold hregistry)
    · have hcalled : Called conf (s.setDispatcher d pc) r := called_setDispatcher hnotifies
      exact awake_of_called hcalled

/-- The thread steps that change no reader. -/
theorem Heard.setDispatcher (h : Heard conf s) {pc : DispatchPc K R M}
    (haddressed : pc.Addressed conf)
    (hpc : ∀ r, (s.endpoints r).announced = true → (s.endpoints r).stage.inRegistry = true →
      (s.dispatchers d).Notifies conf r → pc.Notifies conf r) :
    Heard conf (s.setDispatcher d pc) := by
  apply h.move haddressed (fun _ => rfl) (fun _ hannounced => Or.inl hannounced)
  intro r hannounced hregistry hawake
  exact hawake.mono fun hcalled => hcalled.setDispatcher (hpc r hannounced hregistry)

variable [DecidableEq R]

/-- The thread steps that change one reader. -/
theorem Heard.setEndpoint (h : Heard conf s) {e : Endpoint Did M} {pc : DispatchPc K R M}
    (haddressed : pc.Addressed conf) (hstage : e.stage = (s.endpoints r).stage)
    (hannounced : e.announced = (s.endpoints r).announced)
    (hpc : ∀ r', (s.dispatchers d).Notifies conf r' → r' ≠ r → pc.Notifies conf r')
    (hawake : (s.endpoints r).Awake (Called conf s r) →
      e.Awake (Called conf (s.setDispatcher d pc) r)) :
    Heard conf ((s.setEndpoint r e).setDispatcher d pc) := by
  show Heard conf { s.setDispatcher d pc with endpoints := Function.update s.endpoints r e }
  apply h.move haddressed
  · intro r'
    by_cases hr : r' = r
    · subst hr
      rw [Function.update_self]
      exact hstage
    · rw [Function.update_of_ne hr]
  · intro r' hnew
    by_cases hr : r' = r
    · subst hr
      rw [Function.update_self, hannounced] at hnew
      exact Or.inl hnew
    · rw [Function.update_of_ne hr] at hnew
      exact Or.inl hnew
  · intro r' _ _ hold
    by_cases hr : r' = r
    · subst hr
      rw [Function.update_self]
      exact hawake hold
    · rw [Function.update_of_ne hr]
      exact hold.mono fun hcalled => hcalled.setDispatcher fun hnotifies => hpc r' hnotifies hr

/-! ### The thread steps -/

variable [DecidableEq K]

omit [DecidableEq R] in
/-- **Lookup**: a reader that is announced a message now has its buffer in
    the copy, so the thread is on its way to it. -/
theorem Heard.find (h : Heard conf s) {k : K} {msg : M} {pc : DispatchPc K R M}
    (haddressed : pc.Addressed conf)
    (hold : ∀ r, ¬ (s.dispatchers d).Notifies conf r)
    (hpc : ∀ r, (conf r).channelId = k → (s.endpoints r).stage.hasBuffer = true →
      pc.Notifies conf r) :
    Heard conf ((s.markDue conf d k msg).setDispatcher d pc) := by
  apply h.move haddressed
  · intro r
    simp only [State.markDue]
    split
    · rfl
    · rfl
  · intro r hannounced
    simp only [State.markDue] at hannounced ⊢
    split at hannounced
    · next hdue =>
      rw [if_pos hdue]
      rcases Bool.or_eq_true_iff.mp hannounced with hbefore | hnow
      · exact Or.inl hbefore
      · exact Or.inr ⟨of_decide_eq_true hnow, hpc r hdue.1 hdue.2⟩
    · exact Or.inl hannounced
  · intro r _ _ hawake
    have hmove : (s.endpoints r).Awake (Called conf (s.setDispatcher d pc) r) :=
      hawake.mono fun hcalled => hcalled.setDispatcher fun hnotifies => absurd hnotifies (hold r)
    simp only [State.markDue]
    split
    · exact hmove
    · exact hmove

omit [DecidableEq R] [DecidableEq K] in
/-- The thread goes on and changes no reader. -/
theorem Heard.goOn (h : Heard conf s) {pc pc' : DispatchPc K R M} (hpc : s.dispatchers d = pc)
    (haddressed : pc'.Addressed conf)
    (hon : ∀ r, (s.endpoints r).announced = true → (s.endpoints r).stage.inRegistry = true →
      pc.Notifies conf r → pc'.Notifies conf r) : Heard conf (s.setDispatcher d pc') := by
  rw [← hpc] at hon
  exact h.setDispatcher haddressed hon

theorem Heard.findBuffers (h : Heard conf s) (hmapped : Mapped conf s) {k : K} {msg : M}
    (hpc : s.dispatchers d = .findBuffers k msg) : Heard conf (s.advance conf d) := by
  have hold : ∀ r, ¬ (s.dispatchers d).Notifies conf r := by
    intro r hnotifies
    rw [hpc] at hnotifies
    exact hnotifies
  simp only [State.advance, hpc]
  split
  · next hentry =>
    -- no entry: the buffer of no reader is in the map
    apply h.find
    · trivial
    · exact hold
    · intro r hk hbuffer
      have hmem := hmapped.mem_of_hasBuffer hbuffer
      rw [hk, ChannelMap.entries_of_none hentry] at hmem
      exact absurd hmem List.not_mem_nil
  · next buffers hentry =>
    apply h.find _ hold
    · intro r hk _
      exact (notifies_nextBuffer k msg buffers).mpr hk
    · apply addressed_nextBuffer
      intro r hr
      rw [← ChannelMap.entries_of_some hentry] at hr
      exact hmapped.mem hr

theorem Heard.lock (h : Heard conf s) {k : K} {msg : M} {rest : List R}
    (hpc : s.dispatchers d = .lock k msg r rest) : Heard conf (s.advance conf d) := by
  have haddressed := h.addressed d
  rw [hpc] at haddressed
  simp only [State.advance, hpc]
  split
  · apply h.setEndpoint
    · exact haddressed
    · rfl
    · rfl
    · intro r' hnotifies _
      rw [hpc] at hnotifies
      exact hnotifies
    · intro hawake
      apply hawake.mono
      intro hcalled
      apply hcalled.setDispatcher
      intro hnotifies
      rw [hpc] at hnotifies
      exact hnotifies
  · apply h.goOn hpc
    · exact addressed_nextBuffer fun r' hr' => haddressed r' (List.mem_cons_of_mem r hr')
    · intro r' _ _ hnotifies
      exact (notifies_nextBuffer k msg rest).mpr hnotifies

/-- The thread that has filled the buffer is going to notify. -/
theorem Heard.fill (h : Heard conf s) {k : K} {msg : M} {rest : List R}
    (hpc : s.dispatchers d = .fill k msg r rest) : Heard conf (s.advance conf d) := by
  have haddressed := h.addressed d
  rw [hpc] at haddressed
  simp only [State.advance, hpc]
  apply h.setEndpoint
  · exact haddressed
  · rfl
  · rfl
  · intro r' hnotifies _
    rw [hpc] at hnotifies
    exact hnotifies
  · intro _
    apply awake_of_called
    exact called_setDispatcher (haddressed r List.mem_cons_self)

theorem Heard.release (h : Heard conf s) {k : K} {msg : M} {rest : List R}
    (hpc : s.dispatchers d = .release k msg r rest) : Heard conf (s.advance conf d) := by
  have haddressed := h.addressed d
  rw [hpc] at haddressed
  have hon : ∀ r', (s.dispatchers d).Notifies conf r' →
      (DispatchPc.nextBuffer k msg rest).Notifies conf r' := by
    intro r' hnotifies
    rw [hpc] at hnotifies
    exact (notifies_nextBuffer k msg rest).mpr hnotifies
  simp only [State.advance, hpc]
  apply h.setEndpoint
  · exact addressed_nextBuffer fun r' hr' => haddressed r' (List.mem_cons_of_mem r hr')
  · rfl
  · rfl
  · intro r' hnotifies _
    exact hon r' hnotifies
  · intro hawake
    exact hawake.mono fun hcalled => hcalled.setDispatcher (hon r)

/-- The notifiers of the readers announced to are in the map. -/
theorem Heard.findNotifiers (h : Heard conf s) {k : K}
    (hpc : s.dispatchers d = .findNotifiers k) : Heard conf (s.advance conf d) := by
  have hmem {r : R} (hannounced : (s.endpoints r).announced = true)
      (hk : (conf r).channelId = k) : r ∈ s.notifiesMap.entries k := by
    rw [← hk]
    exact h.notifiers r (hasNotifier_of_hasCallback (h.announced r hannounced))
  simp only [State.advance, hpc]
  split
  · next hentry =>
    apply h.goOn hpc
    · trivial
    · intro r hannounced _ hnotifies
      have hr := hmem hannounced hnotifies
      rw [ChannelMap.entries_of_none hentry] at hr
      exact absurd hr List.not_mem_nil
  · next notifiers hentry =>
    apply h.goOn hpc (addressed_nextNotifier k notifiers)
    intro r hannounced _ hnotifies
    have hr := hmem hannounced hnotifies
    rw [ChannelMap.entries_of_some hentry] at hr
    exact (notifies_nextNotifier k notifiers).mpr hr

omit [DecidableEq R] [DecidableEq K] in
/-- What is passed over is no reader to wake. -/
theorem Heard.passOver (h : Heard conf s) {k : K} {rest : List R} {pc : DispatchPc K R M}
    (hpc : s.dispatchers d = pc) (hwas : ∀ r', pc.Notifies conf r' → r' ∈ r :: rest)
    (hno : (s.endpoints r).announced = true → (s.endpoints r).stage.inRegistry = true → False) :
    Heard conf (s.setDispatcher d (.nextNotifier k rest)) := by
  apply h.goOn hpc (addressed_nextNotifier k rest)
  intro r' hannounced hregistry hnotifies
  rw [notifies_nextNotifier]
  rcases List.mem_cons.mp (hwas r' hnotifies) with heq | hrest
  · subst heq
    exact (hno hannounced hregistry).elim
  · exact hrest

theorem Heard.callback (h : Heard conf s) {k : K} {rest : List R}
    (hpc : s.dispatchers d = .callback k r rest) : Heard conf (s.advance conf d) := by
  simp only [State.advance, hpc]
  split
  · exact h.goOn hpc trivial fun r' _ _ hnotifies => hnotifies
  · next hcallback =>
    apply h.passOver hpc (fun r' hnotifies => hnotifies)
    intro hannounced _
    exact hcallback (h.announced r hannounced)

theorem Heard.findTask (h : Heard conf s) {k : K} {rest : List R}
    (hpc : s.dispatchers d = .findTask k r rest) : Heard conf (s.advance conf d) := by
  simp only [State.advance, hpc]
  split
  · exact h.goOn hpc trivial fun r' _ _ hnotifies => hnotifies
  · next hgone =>
    apply h.passOver hpc (fun r' hnotifies => hnotifies)
    intro _ hregistry
    exact hgone hregistry

/-- A routine that does not wait needs no flag. -/
theorem Heard.checkDataWait (h : Heard conf s) {k : K} {rest : List R}
    (hpc : s.dispatchers d = .checkDataWait k r rest) : Heard conf (s.advance conf d) := by
  simp only [State.advance, hpc]
  split
  · exact h.goOn hpc trivial fun r' _ _ hnotifies => hnotifies
  · next hstate =>
    apply h.move
    · trivial
    · exact fun _ => rfl
    · exact fun _ hannounced => Or.inl hannounced
    · intro r' _ _ hawake hwaits hunread
      have hne : r' ≠ r := by
        intro heq
        rw [heq] at hwaits
        exact hstate hwaits.2
      have hkept : (s.endpoints r').Awake
          (Called conf (s.setDispatcher d (.checkIoWait k r rest)) r') := by
        apply hawake.mono
        intro hcalled
        apply hcalled.setDispatcher
        intro hnotifies
        rw [hpc] at hnotifies
        rcases List.mem_cons.mp hnotifies with heq | hrest
        · exact absurd heq hne
        · exact hrest
      exact hkept hwaits hunread

theorem Heard.checkIoWait (h : Heard conf s) {k : K} {rest : List R}
    (hpc : s.dispatchers d = .checkIoWait k r rest) : Heard conf (s.advance conf d) := by
  simp only [State.advance, hpc]
  split
  · exact h.goOn hpc trivial fun r' _ _ hnotifies => List.mem_cons_of_mem r hnotifies
  · exact h.goOn hpc trivial fun r' _ _ hnotifies => hnotifies

theorem Heard.setUpdateFlag (h : Heard conf s) {k : K} {rest : List R}
    (hpc : s.dispatchers d = .setUpdateFlag k r rest) : Heard conf (s.advance conf d) := by
  simp only [State.advance, hpc]
  apply h.setEndpoint
  · trivial
  · rfl
  · rfl
  · intro r' hnotifies hne
    rw [hpc] at hnotifies
    rcases List.mem_cons.mp hnotifies with heq | hrest
    · exact absurd heq hne
    · exact hrest
  · intro _ _ _
    exact Or.inl (s.endpoints r).reader.cr.setUpdateFlag_raised

/-- **Step of a thread in `Dispatch`**. -/
theorem Heard.advance (h : Heard conf s) (hmapped : Mapped conf s) (d : Did) :
    Heard conf (s.advance conf d) := by
  rcases hpc : s.dispatchers d with _ | ⟨k, msg⟩ | ⟨k, msg⟩ | ⟨k, msg, r, rest⟩ |
    ⟨k, msg, r, rest⟩ | ⟨k, msg, r, rest⟩ | k | ⟨k, r, rest⟩ | ⟨k, r, rest⟩ | ⟨k, r, rest⟩ |
    ⟨k, r, rest⟩ | ⟨k, r, rest⟩ | ⟨k, r, rest⟩ | ⟨k, r, rest⟩
  case idle =>
    simp only [State.advance, hpc]
    exact h
  case isShutdown =>
    simp only [State.advance, hpc]
    split
    all_goals exact h.goOn hpc trivial fun r _ _ hnotifies => hnotifies.elim
  case findBuffers => exact h.findBuffers hmapped hpc
  case lock => exact h.lock hpc
  case fill => exact h.fill hpc
  case release => exact h.release hpc
  case findNotifiers => exact h.findNotifiers hpc
  case callback => exact h.callback hpc
  case call =>
    simp only [State.advance, hpc]
    exact h.goOn hpc trivial fun r' _ _ hnotifies => hnotifies
  case findTask => exact h.findTask hpc
  case checkDataWait => exact h.checkDataWait hpc
  case checkIoWait => exact h.checkIoWait hpc
  case setUpdateFlag => exact h.setUpdateFlag hpc
  case notify =>
    simp only [State.advance, hpc]
    apply h.goOn hpc (addressed_nextNotifier k rest)
    intro r' _ _ hnotifies
    exact (notifies_nextNotifier k rest).mpr hnotifies

/-! ### Setting up the readers -/

omit [DecidableEq Did] [DecidableEq K] in
/-- A reader goes on to another stage. -/
theorem Heard.setStage (h : Heard conf s) {stage : Stage}
    (hnotifier : stage.hasNotifier = true → r ∈ s.notifiesMap.entries (conf r).channelId)
    (hcallback : (s.endpoints r).stage.hasCallback = true → stage.hasCallback = true)
    (hregistry : (s.endpoints r).stage.hasCallback = true → stage.inRegistry = true →
      (s.endpoints r).stage.inRegistry = true) : Heard conf (s.setStage r stage) := by
  have hset : ∀ r', (s.setStage r stage).endpoints r' =
      if r' = r then { s.endpoints r with stage := stage } else s.endpoints r' := by
    intro r'
    show Function.update s.endpoints r { s.endpoints r with stage := stage } r' = _
    rw [Function.update_apply]
  refine ⟨?_, h.addressed, ?_, ?_⟩
  · intro r' hr'
    rw [hset] at hr'
    split at hr'
    · next heq =>
      subst heq
      exact hnotifier hr'
    · exact h.notifiers r' hr'
  · intro r' hannounced
    rw [hset] at hannounced ⊢
    split
    · next heq =>
      subst heq
      rw [if_pos rfl] at hannounced
      exact hcallback (h.announced r' hannounced)
    · next hne =>
      rw [if_neg hne] at hannounced
      exact h.announced r' hannounced
  · intro r' hannounced hin
    rw [hset] at hannounced hin ⊢
    split
    · next heq =>
      subst heq
      rw [if_pos rfl] at hannounced hin
      exact h.awake r' hannounced (hregistry (h.announced r' hannounced) hin)
    · next hne =>
      rw [if_neg hne] at hannounced hin
      exact h.awake r' hannounced hin

omit [DecidableEq Did] [DecidableEq K] in
theorem Heard.setStage_of_eq (h : Heard conf s) {stage before : Stage}
    (hstage : (s.endpoints r).stage = before)
    (hnotifier : stage.hasNotifier = true → before.hasNotifier = true)
    (hcallback : before.hasCallback = true → stage.hasCallback = true)
    (hregistry : before.hasCallback = true → stage.inRegistry = true →
      before.inRegistry = true) : Heard conf (s.setStage r stage) := by
  rw [← hstage] at hnotifier hcallback hregistry
  exact h.setStage (fun hstage' => h.notifiers r (hnotifier hstage')) hcallback hregistry

omit [DecidableEq Did] in
/-- **AddNotifier**. -/
theorem Heard.addNotifier (h : Heard conf s) (hstage : (s.endpoints r).stage = .addBuffer) :
    Heard conf { s.setStage r .addNotifier with
      notifiesMap := s.notifiesMap.add (conf r).channelId r } := by
  -- the notifier may go in first
  have hadd : Heard conf { s with notifiesMap := s.notifiesMap.add (conf r).channelId r } := by
    refine ⟨?_, h.addressed, h.announced, h.awake⟩
    intro r' hr'
    show r' ∈ (s.notifiesMap.add (conf r).channelId r).entries (conf r').channelId
    have hmem := h.notifiers r' hr'
    rw [ChannelMap.entries_add]
    split
    · next heq =>
      rw [← heq]
      exact List.mem_append_left _ hmem
    · exact hmem
  have hmem : r ∈ (s.notifiesMap.add (conf r).channelId r).entries (conf r).channelId := by
    rw [ChannelMap.entries_add, if_pos rfl]
    exact List.mem_append_right _ List.mem_cons_self
  apply hadd.setStage
  · intro _
    exact hmem
  · intro hcallback
    have hnot : (s.endpoints r).stage.hasCallback = true := hcallback
    rw [hstage] at hnot
    exact absurd hnot Bool.false_ne_true
  · intro _ hregistry
    exact absurd hregistry Bool.false_ne_true

variable [Inhabited M]

omit [DecidableEq K] in
/-- **Step of a routine**. -/
theorem Heard.routine (h : Heard conf s) {a : Croutine.Label Did M} (ha : ofRoutine a = true)
    (hg : ((readerRoutine (conf r).queueSize).action a).gate (s.endpoints r).view)
    (hok : Croutine.NoPlainYield (s.endpoints r).view a) :
    Heard conf (s.setEndpoint r ((s.endpoints r).routine (conf r).queueSize a)) := by
  have hset : ∀ r', (s.setEndpoint r
      ((s.endpoints r).routine (conf r).queueSize a)).endpoints r' =
      if r' = r then (s.endpoints r).routine (conf r).queueSize a else s.endpoints r' := by
    intro r'
    show Function.update s.endpoints r _ r' = _
    rw [Function.update_apply]
  have hstage : ∀ r', ((s.setEndpoint r
      ((s.endpoints r).routine (conf r).queueSize a)).endpoints r').stage =
      (s.endpoints r').stage := by
    intro r'
    rw [hset]
    split
    · next heq =>
      subst heq
      rfl
    · rfl
  have hannounce : ∀ r', ((s.setEndpoint r
      ((s.endpoints r).routine (conf r).queueSize a)).endpoints r').announced =
      (s.endpoints r').announced := by
    intro r'
    rw [hset]
    split
    · next heq =>
      subst heq
      rfl
    · rfl
  refine ⟨?_, h.addressed, ?_, ?_⟩
  · intro r' hr'
    rw [hstage] at hr'
    exact h.notifiers r' hr'
  · intro r' hannounced
    rw [hannounce] at hannounced
    rw [hstage]
    exact h.announced r' hannounced
  · intro r' hannounced hregistry
    rw [hannounce] at hannounced
    rw [hstage] at hregistry
    have hawake := h.awake r' hannounced hregistry
    rw [hset]
    split
    · next heq =>
      subst heq
      exact hawake.routine ha hg hok
    · exact hawake

/-- **Step lemma**. -/
theorem Heard.step (hmapped : Mapped conf s) (a : Label Did K R M) (h : Heard conf s)
    (hg : ((dataPlane conf).action a).gate s) (hok : NoPlainYield s a) :
    Heard conf (((dataPlane conf).action a).effect s) := by
  rcases a with r | r | r | r | r | r | r | ⟨r, a⟩ | _ | ⟨d, k, msg⟩ | d
  case addBuffer =>
    have hset : Heard conf (s.setStage r .addBuffer) :=
      h.setStage_of_eq hg (by decide) (by decide) (by decide)
    exact ⟨hset.notifiers, hset.addressed, hset.announced, hset.awake⟩
  case addNotifier => exact h.addNotifier hg
  case dispatchTask => exact h.setStage_of_eq hg (by decide) (by decide) (by decide)
  case assignCallback => exact h.setStage_of_eq hg (by decide) (by decide) (by decide)
  case registerNotifyCallback => exact h.setStage_of_eq hg (by decide) (by decide) (by decide)
  case removeTask => exact h.setStage_of_eq hg.1 (by decide) (by decide) (by decide)
  case destroy => exact h.setStage_of_eq hg (by decide) (by decide) (by decide)
  case routine => exact h.routine hg.2.1 hg.2.2 hok
  case shutdown => exact ⟨h.notifiers, h.addressed, h.announced, h.awake⟩
  case dispatch =>
    have hidle : s.dispatchers d = .idle := hg
    show Heard conf (s.setDispatcher d (.isShutdown k msg))
    apply h.setDispatcher
    · trivial
    · intro r _ _ hnotifies
      rw [hidle] at hnotifies
      exact hnotifies.elim
  case advance => exact h.advance hmapped d

theorem heard_init (hi : (dataPlane conf).init s) : Heard conf s := by
  obtain ⟨_, _, _, hendpoints, hidle⟩ := hi
  refine ⟨?_, ?_, ?_, ?_⟩
  · intro r hr
    rw [hendpoints r] at hr
    exact absurd hr Bool.false_ne_true
  · intro d
    rw [hidle d]
    trivial
  · intro r hr
    rw [hendpoints r] at hr
    exact absurd hr Bool.false_ne_true
  · intro r hr
    rw [hendpoints r] at hr
    exact absurd hr Bool.false_ne_true

/-- **Run lemma**. -/
theorem heard_reachable (h : ((dataPlane conf).restrict Orderly).Reachable s) : Heard conf s := by
  have hboth : Inv conf s ∧ Heard conf s := by
    apply System.invariant _ _ h
    · intro s hi
      exact ⟨inv_init hi, heard_init hi⟩
    · intro s a hs hg
      exact ⟨hs.1.step a hg.1, hs.2.step hs.1.mapped a hg.1 hg.2.2⟩
  exact hboth.2

/-! ## Section 4: The start-up window -/

/-- **Main result**: a reader is left asleep on unread data only as long as
    no `Dispatch` has looked up its channel since its notification is
    registered. -/
theorem dataPlane_leftAsleep (h : ((dataPlane conf).restrict Orderly).Reachable s)
    (hleft : LeftAsleep conf s r) : (s.endpoints r).announced = false := by
  obtain ⟨hregistry, hunread, hasleep, hquiet⟩ := hleft
  by_contra hannounced
  have hawake := (heard_reachable h).awake r (Bool.of_not_eq_false hannounced) hregistry
  rcases hawake ⟨Or.inr hasleep.1, hasleep.2.1⟩ hunread with hraised | hcalled
  · exact hasleep.2.2 hraised
  · obtain ⟨d, hd⟩ := hcalled
    exact hquiet d hd

end invariant

/-- The routine finds nothing and waits; then a message is filled in and
    its notification comes too early. -/
def startUp : List (Label (Fin 2) Nat Bool Nat) :=
  [.addBuffer false, .addNotifier false, .dispatchTask false] ++
    [.testAndSet, .resume, .setDataWait, .tryFetch, .swapOut].map (.routine false) ++
    .dispatch 0 7 10 :: List.replicate 7 (.advance 0) ++
      [.assignCallback false, .registerNotifyCallback false]

theorem dataPlane_leftAsleep_startUp :
    LeftAsleep sameChannel ((dataPlane sameChannel).exec initial startUp) false ∧
      (((dataPlane sameChannel).exec initial startUp).endpoints false).announced = false := by
  have hreach : ((dataPlane sameChannel).restrict Orderly).Reachable
      (((dataPlane sameChannel).restrict Orderly).exec initial startUp) :=
    System.reachable_exec ((dataPlane sameChannel).restrict Orderly) initial_init startUp
      (by decide)
  rw [System.exec_restrict] at hreach
  have hleft : LeftAsleep sameChannel ((dataPlane sameChannel).exec initial startUp) false := by
    refine ⟨by decide, ?_, ⟨by decide, by decide, by decide⟩, by decide⟩
    unfold Endpoint.Unread
    decide
  exact ⟨hleft, dataPlane_leftAsleep hreach hleft⟩

end CyberRT.Croutine.DataPlane
