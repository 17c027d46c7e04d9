import CyberRT.Base.AtomicRwLockGuards
import CyberRT.Transport.ListenerHandler

/-! # Calls from a listener's callback

    Any number of threads call `Connect`, `Disconnect` and `Run` on one
    handler, and so may the callbacks of its listeners. Each thread has a
    stack of calls. A call takes the lock with the guard of its depth, one
    load or compare-and-swap at a time.

    `Run` calls the listeners of all senders without the lock and those of
    the sender with it. The lock is not recursive, and a reader waits for a
    writer that has announced itself.

    * An emission calls the slots that are there at its start, each if it is
      still connected when its turn comes.
    * The two signals are guarded by mutexes of their own, so that what is
      done to one of them is one step.

    A listener of the sender that calls `Connect` or `Disconnect` waits for
    its own thread (`disconnect_ownCallback`); one that calls `Run` waits for
    a writer that waits for it (`run_behindWriter`), and neither ever gets on
    (`selfBlocked_forever`). Shown: no thread ever waits so exactly if no
    callback asks for the lock at a wrong time (`reentrant_iff`). -/

namespace CyberRT.Transport.ListenerReentrancy

open CyberRT.Framework CyberRT.Base CyberRT.Base.AtomicRwLock

/-! ## Section 1: State -/

/-- A method with its arguments. -/
inductive Op where
  | connect (key : ListenerKey) (listener : Nat)
  | disconnect (key : ListenerKey)
  | run (sender : Nat)
  deriving DecidableEq

/-- Where a call stands: named by its next step, or in a callback of an
    emission, with the slots whose turn is to come. `locked` tells the
    emission to the sender's listeners. In `lock` it takes its guard, until
    it goes on with it. -/
inductive CallPc where
  | enter
  | emit (locked : Bool) (slots : List Nat)
  | callback (locked : Bool) (slots : List Nat)
  | lock (connection : Option Nat)
  | unlock
  deriving DecidableEq

/-- A callback is in progress, and may call. -/
def CallPc.inCallback : CallPc → Bool
  | .callback _ _ => true
  | _             => false

structure Call where
  op : Op
  pc : CallPc
  deriving DecidableEq

/-- The innermost call of a thread comes first. -/
structure State (T : Type) where
  lock    : AtomicRwLock.State (T × Nat)
  handler : ListenerHandler
  calls   : T → List Call

/-- The method takes the lock for reading. -/
def Op.reads : Op → Bool
  | .run _ => true
  | _      => false

/-- `Connect(self_id, listener)` connects to the signal before it locks. -/
def Op.start : Op → CallPc
  | .connect ⟨_, none⟩ _ | .run _ => .enter
  | _ => .lock none

/-- What is done under the lock for writing. -/
def Op.store (op : Op) (connection : Option Nat) (h : ListenerHandler) : ListenerHandler :=
  match op with
  | .connect ⟨selfId, none⟩ _ =>
    { h with signalConns := Function.update h.signalConns selfId connection }
  | .connect ⟨selfId, some oppoId⟩ listener => h.connectOppo selfId oppoId listener
  | .disconnect key => h.disconnect key
  | .run _ => h

/-- `signal_.Connect`. -/
def connectSignal (listener : Nat) (h : ListenerHandler) : ListenerHandler :=
  { h with signal := h.signal.connect h.nextSlot listener, nextSlot := h.nextSlot + 1 }

/-- The two halves of `Connect(self_id, listener)`, nothing in between. -/
theorem store_connectSignal (h : ListenerHandler) (selfId listener : Nat) :
    (Op.connect ⟨selfId, none⟩ listener).store (some h.nextSlot) (connectSignal listener h) =
      h.connectSelf selfId listener := rfl

/-- The signal of an emission. -/
def signalOf (h : ListenerHandler) (locked : Bool) (sender : Nat) : Option Signal :=
  if locked then h.signals sender else some h.signal

/-- The slot is connected, so that its callback is called. -/
def connected (h : ListenerHandler) (locked : Bool) (sender slot : Nat) : Bool :=
  (signalOf h locked sender).any fun signal =>
    signal.slots.any fun x => x.ptr = slot && x.connected

/-- The end of an emission. -/
def clear (h : ListenerHandler) (locked : Bool) (sender : Nat) : ListenerHandler :=
  if locked then
    let signal := (h.signals sender).map Signal.clearDisconnectedSlots
    { h with signals := Function.update h.signals sender signal }
  else
    { h with signal := h.signal.clearDisconnectedSlots }

def slotsOf (signal : Signal) : List Nat := signal.slots.map Slot.ptr

/-! ## Section 2: Model -/

section model
variable {T : Type}

/-- The steps of `ReadLock` and of `WriteLock`, as the method needs them. -/
def Op.locksBy (op : Op) : AtomicRwLock.Label (T × Nat) → Bool
  | .readLock _ | .readLoad _ | .readCheck _ | .readReload _ | .readCas _ | .readCasFail _ =>
    op.reads
  | .writeLock _ | .writeAnnounce _ | .writeCas _ | .writeCasFail _ | .writeWithdraw _ =>
    !op.reads
  | .readUnlock _ | .writeUnlock _ => false

def Op.unlockLabel (op : Op) (g : T × Nat) : AtomicRwLock.Label (T × Nat) :=
  if op.reads then .readUnlock g else .writeUnlock g

/-- The guard of the thread's innermost call. -/
def State.guard (s : State T) (t : T) : T × Nat := (t, (s.calls t).length)

/-- The thread may call: it is outside of the handler, or in a callback. -/
def State.Calls (s : State T) (t : T) : Prop :=
  ∀ c ∈ (s.calls t).head?, c.pc.inCallback = true

instance (s : State T) (t : T) : Decidable (s.Calls t) :=
  inferInstanceAs (Decidable (∀ c ∈ _, _))

/-- The innermost call of the thread. -/
def State.At (s : State T) (t : T) (op : Op) (pc : CallPc) : Prop :=
  (s.calls t).head? = some ⟨op, pc⟩

instance (s : State T) (t : T) (op : Op) (pc : CallPc) : Decidable (s.At t op pc) :=
  inferInstanceAs (Decidable (_ = _))

inductive Label (T : Type) where
  | call (t : T) (op : Op)
  | connectSignal (t : T) (selfId listener : Nat)
  | emit (t : T) (sender : Nat)
  | turn (t : T) (sender : Nat) (locked : Bool) (slot : Nat) (slots : List Nat)
  | callbackReturns (t : T) (sender : Nat) (locked : Bool) (slots : List Nat)
  | emitted (t : T) (sender : Nat) (locked : Bool)
  | lock (t : T) (op : Op) (connection : Option Nat) (a : AtomicRwLock.Label (T × Nat))
  | store (t : T) (op : Op) (connection : Option Nat)
  | find (t : T) (sender : Nat)
  | unlock (t : T) (op : Op)

variable [DecidableEq T]

/-- The innermost call goes on to `pc`. -/
def State.goOn (s : State T) (t : T) (op : Op) (pc : CallPc) : State T :=
  { s with calls := Function.update s.calls t (⟨op, pc⟩ :: (s.calls t).tail) }

/-- The threads that use a handler. -/
def listenerHandler (messageType : Nat) : System (State T) (Label T) where
  init := fun s =>
    (atomicRwLock true).init s.lock ∧ s.handler = .new messageType ∧ ∀ t, s.calls t = []
  action := fun
    | .call t op =>
      { gate   := fun s => s.Calls t
        effect := fun s =>
          { s with calls := Function.update s.calls t (⟨op, op.start⟩ :: s.calls t) } }
    | .connectSignal t selfId listener =>
      { gate   := fun s => s.At t (.connect ⟨selfId, none⟩ listener) .enter
        effect := fun s =>
          { s.goOn t (.connect ⟨selfId, none⟩ listener) (.lock (some s.handler.nextSlot)) with
            handler := ListenerReentrancy.connectSignal listener s.handler } }
    | .emit t sender =>
      { gate   := fun s => s.At t (.run sender) .enter
        effect := fun s => s.goOn t (.run sender) (.emit false (slotsOf s.handler.signal)) }
    | .turn t sender locked slot slots =>
      { gate   := fun s => s.At t (.run sender) (.emit locked (slot :: slots))
        effect := fun s =>
          -- a slot that was disconnected meanwhile is passed over
          s.goOn t (.run sender)
            (if connected s.handler locked sender slot then .callback locked slots
              else .emit locked slots) }
    | .callbackReturns t sender locked slots =>
      { gate   := fun s => s.At t (.run sender) (.callback locked slots)
        effect := fun s => s.goOn t (.run sender) (.emit locked slots) }
    | .emitted t sender locked =>
      { gate   := fun s => s.At t (.run sender) (.emit locked [])
        effect := fun s =>
          { s.goOn t (.run sender) (if locked then .unlock else .lock none) with
            handler := clear s.handler locked sender } }
    | .lock t op connection a =>
      { gate   := fun s =>
          s.At t op (.lock connection) ∧ a.thread = s.guard t ∧ op.locksBy a = true ∧
            ((atomicRwLock true).action a).gate s.lock
        effect := fun s => { s with lock := ((atomicRwLock true).action a).effect s.lock } }
    | .store t op connection =>
      { gate   := fun s =>
          s.At t op (.lock connection) ∧ (s.lock.loc (s.guard t)).pc = .writeHeld
        effect := fun s =>
          { s.goOn t op .unlock with handler := op.store connection s.handler } }
    | .find t sender =>
      { gate   := fun s =>
          s.At t (.run sender) (.lock none) ∧ (s.lock.loc (s.guard t)).pc = .readHeld
        effect := fun s =>
          s.goOn t (.run sender)
            (match s.handler.signals sender with
              -- nobody listens to this sender
              | none        => .unlock
              | some signal => .emit true (slotsOf signal)) }
    | .unlock t op =>
      { gate   := fun s =>
          s.At t op .unlock ∧ ((atomicRwLock true).action (op.unlockLabel (s.guard t))).gate s.lock
        effect := fun s =>
          { s with
            lock  := ((atomicRwLock true).action (op.unlockLabel (s.guard t))).effect s.lock
            calls := Function.update s.calls t (s.calls t).tail } }

instance decidableGate (messageType : Nat) (a : Label T) (s : State T) :
    Decidable (((listenerHandler messageType).action a).gate s) :=
  match a with
  | .call t _ => inferInstanceAs (Decidable (s.Calls t))
  | .connectSignal t selfId listener =>
    inferInstanceAs (Decidable (s.At t (.connect ⟨selfId, none⟩ listener) .enter))
  | .emit t sender => inferInstanceAs (Decidable (s.At t (.run sender) .enter))
  | .turn t sender locked slot slots =>
    inferInstanceAs (Decidable (s.At t (.run sender) (.emit locked (slot :: slots))))
  | .callbackReturns t sender locked slots =>
    inferInstanceAs (Decidable (s.At t (.run sender) (.callback locked slots)))
  | .emitted t sender locked =>
    inferInstanceAs (Decidable (s.At t (.run sender) (.emit locked [])))
  | .lock t op connection a =>
    have := AtomicRwLock.decidableGate true s.lock a
    inferInstanceAs (Decidable (s.At t op (.lock connection) ∧ a.thread = s.guard t ∧
      op.locksBy a = true ∧ ((atomicRwLock true).action a).gate s.lock))
  | .store t op connection =>
    inferInstanceAs (Decidable
      (s.At t op (.lock connection) ∧ (s.lock.loc (s.guard t)).pc = .writeHeld))
  | .find t sender =>
    inferInstanceAs (Decidable
      (s.At t (.run sender) (.lock none) ∧ (s.lock.loc (s.guard t)).pc = .readHeld))
  | .unlock t op =>
    have := AtomicRwLock.decidableGate true s.lock (op.unlockLabel (s.guard t))
    inferInstanceAs (Decidable (s.At t op .unlock ∧
      ((atomicRwLock true).action (op.unlockLabel (s.guard t))).gate s.lock))

/-- No listeners, and nobody in a call. -/
def initial (messageType : Nat) : State T where
  lock    := ⟨0, 0, fun _ => ⟨.idle, 0, 0⟩⟩
  handler := .new messageType
  calls   := fun _ => []

theorem initial_init (messageType : Nat) :
    (listenerHandler messageType).init (initial messageType : State T) :=
  ⟨⟨rfl, rfl, fun _ => rfl⟩, rfl, fun _ => rfl⟩

end model

/-! ## Section 3: Threads that wait for themselves -/

section blocked
variable {T : Type}

/-- In `ReadLock`, not past its look at the announced writers. -/
def waitsToRead : AtomicRwLock.Pc → Bool
  | .readLoad | .readCheck | .readReload => true
  | _ => false

/-- In `WriteLock`, and not let in. -/
def waitsToWrite : AtomicRwLock.Pc → Bool
  | .writeAnnounce | .writeCas => true
  | _ => false

/-- In a callback that `Run` calls with the lock held. -/
def Call.holds (c : Call) : Bool :=
  match c.pc with
  | .callback true _ => true
  | _ => false

/-- The thread is a holder of the lock, by a call further out. -/
def State.Holds (s : State T) (t : T) : Prop := ∃ c ∈ s.calls t, c.holds = true

instance (s : State T) (t : T) : Decidable (s.Holds t) :=
  inferInstanceAs (Decidable (∃ c ∈ s.calls t, c.holds = true))

/-- Where the guard of the thread's innermost call stands. -/
def State.lockPc (s : State T) (t : T) : AtomicRwLock.Pc := (s.lock.loc (s.guard t)).pc

/-- A holder at `pc` is in its own way: it waits to write, or it waits to
    read behind `waitNum` writers. -/
def Stuck (pc : AtomicRwLock.Pc) (waitNum : Nat) : Prop :=
  waitsToWrite pc = true ∨ waitsToRead pc = true ∧ 0 < waitNum

instance (pc : AtomicRwLock.Pc) (waitNum : Nat) : Decidable (Stuck pc waitNum) :=
  inferInstanceAs (Decidable (_ ∨ _))

/-- The thread waits for the lock, and is itself a holder that keeps the lock
    from it or from the writer it waits for. -/
def SelfBlocked (s : State T) (t : T) : Prop :=
  s.Holds t ∧ Stuck (s.lockPc t) s.lock.writeLockWaitNum

instance (s : State T) (t : T) : Decidable (SelfBlocked s t) :=
  inferInstanceAs (Decidable (_ ∧ _))

/-- No thread stands in its own way. -/
def Reentrant (s : State T) : Prop := ∀ t, ¬ SelfBlocked s t

/-- A thread in a callback under the lock does not begin to wait for writing,
    nor for reading while a writer is announced; and no writer announces
    itself while such a thread waits for reading. -/
def Careful (s : State T) : Label T → Prop
  | .lock t _ _ (.writeLock _) => ¬ s.Holds t
  | .lock t _ _ (.readLock _) | .lock t _ _ (.readCasFail _) =>
    s.Holds t → s.lock.writeLockWaitNum = 0
  | .lock _ _ _ (.writeAnnounce _) => ∀ u, s.Holds u → waitsToRead (s.lockPc u) = false
  | _ => True

instance decidableCareful [Fintype T] (s : State T) : ∀ a : Label T, Decidable (Careful s a)
  | .lock t _ _ (.writeLock _) => inferInstanceAs (Decidable (¬ s.Holds t))
  | .lock t _ _ (.readLock _) | .lock t _ _ (.readCasFail _) =>
    inferInstanceAs (Decidable (s.Holds t → s.lock.writeLockWaitNum = 0))
  | .lock _ _ _ (.writeAnnounce _) =>
    inferInstanceAs (Decidable (∀ u, s.Holds u → waitsToRead (s.lockPc u) = false))
  | .lock _ _ _ (.readLoad _) | .lock _ _ _ (.readCheck _) | .lock _ _ _ (.readReload _)
  | .lock _ _ _ (.readCas _) | .lock _ _ _ (.readUnlock _) | .lock _ _ _ (.writeCas _)
  | .lock _ _ _ (.writeCasFail _) | .lock _ _ _ (.writeWithdraw _) | .lock _ _ _ (.writeUnlock _)
  | .call .. | .connectSignal .. | .emit .. | .turn .. | .callbackReturns .. | .emitted ..
  | .store .. | .find .. | .unlock .. => .isTrue trivial

/-! ## Section 4: Guards and calls -/

/-- What the guard of a call has done, by where the call stands. -/
def Call.Fits (c : Call) (pc : AtomicRwLock.Pc) : Prop :=
  match c.pc with
  | .enter | .emit false _ | .callback false _ => pc = .idle
  | .emit true _ | .callback true _ => pc = .readHeld
  | .lock _ => True
  | .unlock => pc = .readHeld ∨ pc = .writeHeld

/-- The guards of a stack of calls, by their depths. -/
def Fits (pcs : Nat → AtomicRwLock.Pc) : List Call → Prop
  | []      => True
  | c :: cs => c.Fits (pcs (cs.length + 1)) ∧ Fits pcs cs

/-- **Invariant**: each call has its guard, the calls further out are in
    their callbacks, and the guards of no call are unused. -/
structure Inv (s : State T) : Prop where
  fits  : ∀ t, Fits (fun d => (s.lock.loc (t, d)).pc) (s.calls t)
  lower : ∀ t, ∀ c ∈ (s.calls t).tail, c.pc.inCallback = true
  free  : ∀ t d, (s.calls t).length < d → (s.lock.loc (t, d)).pc = .idle

theorem Fits.congr {pcs pcs' : Nat → AtomicRwLock.Pc} {cs : List Call} (h : Fits pcs cs)
    (hsame : ∀ d ≤ cs.length, pcs' d = pcs d) : Fits pcs' cs := by
  induction cs with
  | nil => trivial
  | cons c cs ih =>
    obtain ⟨hc, hcs⟩ := h
    refine ⟨?_, ih hcs fun d hd => hsame d (Nat.le_succ_of_le hd)⟩
    rw [hsame (cs.length + 1) (Nat.le_refl _)]
    exact hc

/-- A call under the lock has a guard that reads. -/
theorem Fits.exists_reads {pcs : Nat → AtomicRwLock.Pc} {cs : List Call} (h : Fits pcs cs)
    {c : Call} (hc : c ∈ cs) (hholds : c.holds = true) :
    ∃ d ≤ cs.length, pcs d = .readHeld := by
  induction cs with
  | nil => cases hc
  | cons c' cs ih =>
    rcases List.mem_cons.mp hc with heq | htail
    · -- the innermost call is the one under the lock
      subst heq
      refine ⟨cs.length + 1, Nat.le_refl _, ?_⟩
      have hfits := h.1
      unfold Call.holds at hholds
      unfold Call.Fits at hfits
      split at hholds
      · next hpc =>
        rw [hpc] at hfits
        exact hfits
      · cases hholds
    · obtain ⟨d, hd, hreads⟩ := ih h.2 htail
      exact ⟨d, Nat.le_succ_of_le hd, hreads⟩

theorem not_stuck_of_settled {pc : AtomicRwLock.Pc}
    (h : pc = .idle ∨ pc = .readHeld ∨ pc = .writeHeld) (waitNum : Nat) : ¬ Stuck pc waitNum := by
  rcases h with rfl | rfl | rfl <;> simp [Stuck, waitsToRead, waitsToWrite]

theorem Stuck.mono {pc : AtomicRwLock.Pc} {n m : Nat} (h : Stuck pc n) (hle : n ≤ m) :
    Stuck pc m :=
  h.imp_right fun hreads => ⟨hreads.1, Nat.lt_of_lt_of_le hreads.2 hle⟩

/-- Only in `lock` a call waits. -/
theorem Call.Fits.settled {c : Call} {pc : AtomicRwLock.Pc} (h : c.Fits pc)
    (hlock : ∀ connection, c.pc ≠ .lock connection) :
    pc = .idle ∨ pc = .readHeld ∨ pc = .writeHeld := by
  unfold Call.Fits at h
  split at h
  · exact Or.inl h
  · exact Or.inl h
  · exact Or.inl h
  · exact Or.inr (Or.inl h)
  · exact Or.inr (Or.inl h)
  · next hpc => exact absurd hpc (hlock _)
  · exact Or.inr h

/-- Nor does it in a callback. -/
theorem Call.Fits.settled_of_callback {c : Call} {pc : AtomicRwLock.Pc} (h : c.Fits pc)
    (hcallback : c.pc.inCallback = true) : pc = .idle ∨ pc = .readHeld ∨ pc = .writeHeld := by
  apply h.settled
  intro connection hpc
  rw [hpc] at hcallback
  cases hcallback

theorem fits_start (op : Op) {pc : AtomicRwLock.Pc} (h : pc = .idle) :
    Call.Fits ⟨op, op.start⟩ pc := by
  have hstart : op.start = .enter ∨ op.start = .lock none := by
    unfold Op.start
    split
    · exact Or.inl rfl
    · exact Or.inl rfl
    · exact Or.inr rfl
  unfold Call.Fits
  rcases hstart with hstart | hstart <;> rw [hstart]
  · exact h
  · trivial

theorem State.At.exists_calls {s : State T} {t : T} {op : Op} {pc : CallPc} (h : s.At t op pc) :
    ∃ cs, s.calls t = ⟨op, pc⟩ :: cs := by
  unfold State.At at h
  cases hcalls : s.calls t with
  | nil =>
    rw [hcalls] at h
    cases h
  | cons c cs =>
    rw [hcalls] at h
    cases h
    exact ⟨cs, rfl⟩

/-- The guard of the innermost call fits it. -/
theorem Inv.fits_at {s : State T} (h : Inv s) {t : T} {op : Op} {pc : CallPc}
    (hat : s.At t op pc) : Call.Fits ⟨op, pc⟩ (s.lockPc t) := by
  obtain ⟨cs, hcalls⟩ := hat.exists_calls
  have hfits := h.fits t
  rw [hcalls] at hfits
  unfold State.lockPc State.guard
  rw [hcalls]
  exact hfits.1

end blocked

/-! ## Section 5: Steps keep the guards -/

section steps
variable {T : Type} [DecidableEq T] {messageType : Nat} {s s' : State T} {t : T}

/-- One thread changes its stack and its guards. -/
theorem Inv.move (h : Inv s) {cs : List Call} (hcalls : s'.calls = Function.update s.calls t cs)
    (hother : ∀ u d, u ≠ t → s'.lock.loc (u, d) = s.lock.loc (u, d))
    (hfits : Fits (fun d => (s'.lock.loc (t, d)).pc) cs)
    (hlower : ∀ c ∈ cs.tail, c.pc.inCallback = true)
    (hfree : ∀ d, cs.length < d → (s'.lock.loc (t, d)).pc = .idle) : Inv s' := by
  constructor
  · intro u
    by_cases hu : u = t
    · subst hu
      rw [hcalls, Function.update_self]
      exact hfits
    · rw [hcalls, Function.update_of_ne hu]
      exact (h.fits u).congr fun d _ => by rw [hother u d hu]
  · intro u
    by_cases hu : u = t
    · subst hu
      rw [hcalls, Function.update_self]
      exact hlower
    · rw [hcalls, Function.update_of_ne hu]
      exact h.lower u
  · intro u d
    by_cases hu : u = t
    · subst hu
      rw [hcalls, Function.update_self]
      exact hfree d
    · rw [hcalls, Function.update_of_ne hu, hother u d hu]
      exact h.free u d

/-- The innermost call goes on, and its guard stays. -/
theorem Inv.goOn (h : Inv s) {op : Op} {pc pc' : CallPc} (hat : s.At t op pc)
    (hcalls : s'.calls = (s.goOn t op pc').calls) (hlock : s'.lock = s.lock)
    (hfits : Call.Fits ⟨op, pc'⟩ (s.lockPc t)) : Inv s' := by
  obtain ⟨cs, hcs⟩ := hat.exists_calls
  have hguard : s.guard t = (t, cs.length + 1) := by simp [State.guard, hcs]
  have hlower := h.lower t
  have hall := h.fits t
  have hfree := h.free t
  rw [hcs] at hlower hall hfree
  refine h.move hcalls (fun u d _ => by rw [hlock]) ?_ ?_ ?_
  · rw [hcs, hlock]
    refine ⟨?_, hall.2⟩
    rw [State.lockPc, hguard] at hfits
    exact hfits
  · rw [hcs]
    exact hlower
  · rw [hcs, hlock]
    exact hfree

theorem inv_init (h : (listenerHandler messageType).init s) : Inv s := by
  obtain ⟨hlock, _, hcalls⟩ := h
  constructor
  · intro t
    rw [hcalls t]
    trivial
  · intro t c hc
    rw [hcalls t] at hc
    cases hc
  · exact fun t d _ => hlock.2.2 (t, d)

theorem Inv.call (h : Inv s) (hg : s.Calls t) (op : Op)
    (hcalls : s'.calls = Function.update s.calls t (⟨op, op.start⟩ :: s.calls t))
    (hlock : s'.lock = s.lock) : Inv s' := by
  have hidle := h.free t ((s.calls t).length + 1) (Nat.lt_succ_self _)
  refine h.move hcalls (fun u d _ => by rw [hlock]) ?_ ?_ ?_
  · rw [hlock]
    refine ⟨?_, h.fits t⟩
    -- the guard of the new depth has not been used
    exact fits_start op hidle
  · intro c hc
    cases hcs : s.calls t with
    | nil =>
      rw [List.tail_cons, hcs] at hc
      cases hc
    | cons c' cs =>
      rw [List.tail_cons, hcs] at hc
      -- the call that was innermost is in its callback, or it could not call
      rcases List.mem_cons.mp hc with heq | htail
      · subst heq
        exact hg c (by rw [hcs]; rfl)
      · exact h.lower t c (by rw [hcs]; exact htail)
  · rw [hlock]
    intro d hd
    exact h.free t d (Nat.lt_of_succ_lt hd)

omit [DecidableEq T] in
theorem ne_depth {d d' : Nat} (h : d ≠ d') : (t, d) ≠ (t, d') :=
  fun heq => h (congrArg Prod.snd heq)

omit [DecidableEq T] in
theorem unlockLabel_thread (op : Op) (g : T × Nat) : (op.unlockLabel g).thread = g := by
  unfold Op.unlockLabel
  split <;> rfl

/-- A step by a guard of thread `t` leaves the guards of the others. -/
theorem other_stays {a : AtomicRwLock.Label (T × Nat)} (ha : a.thread = s.guard t) {u : T}
    (hu : u ≠ t) (d : Nat) :
    (((atomicRwLock true).action a).effect s.lock).loc (u, d) = s.lock.loc (u, d) := by
  apply effect_loc_of_ne
  rw [ha]
  exact fun heq => hu (congrArg Prod.fst heq)

/-- A step on the lock by the guard of the innermost call. -/
theorem Inv.lockStep (h : Inv s) {op : Op} {connection : Option Nat}
    (hat : s.At t op (.lock connection)) {a : AtomicRwLock.Label (T × Nat)}
    (ha : a.thread = s.guard t) :
    Inv { s with lock := ((atomicRwLock true).action a).effect s.lock } := by
  obtain ⟨cs, hcs⟩ := hat.exists_calls
  have hguard : a.thread = (t, cs.length + 1) := by simp [ha, State.guard, hcs]
  have hstays : ∀ g, g ≠ (t, cs.length + 1) →
      (((atomicRwLock true).action a).effect s.lock).loc g = s.lock.loc g := by
    intro g hg
    apply effect_loc_of_ne
    rw [hguard]
    exact hg
  have hall := h.fits t
  have hlower := h.lower t
  have hfree := h.free t
  rw [hcs] at hall hlower hfree
  have hcalls : s.calls = Function.update s.calls t (⟨op, .lock connection⟩ :: cs) := by
    rw [← hcs, Function.update_eq_self]
  refine h.move (t := t) hcalls ?_ ?_ hlower ?_
  · intro u d hu
    exact hstays _ fun heq => hu (congrArg Prod.fst heq)
  · refine ⟨trivial, hall.2.congr fun d hd => ?_⟩
    rw [hstays _ (ne_depth (Nat.lt_succ_of_le hd).ne)]
  · intro d hd
    simp only
    rw [hstays _ (ne_depth hd.ne')]
    exact hfree d hd

/-- The innermost call returns. -/
theorem Inv.unlock (h : Inv s) {op : Op} (hat : s.At t op .unlock) :
    Inv (((listenerHandler messageType).action (.unlock t op)).effect s) := by
  obtain ⟨cs, hcs⟩ := hat.exists_calls
  have hguard : s.guard t = (t, cs.length + 1) := by simp [State.guard, hcs]
  have hthread : (op.unlockLabel (s.guard t)).thread = (t, cs.length + 1) := by
    rw [unlockLabel_thread, hguard]
  have hstays : ∀ g, g ≠ (t, cs.length + 1) → (((atomicRwLock true).action
      (op.unlockLabel (s.guard t))).effect s.lock).loc g = s.lock.loc g := by
    intro g hg
    apply effect_loc_of_ne
    rw [hthread]
    exact hg
  have hidle : ((((atomicRwLock true).action (op.unlockLabel (s.guard t))).effect s.lock).loc
      (t, cs.length + 1)).pc = .idle := by
    rw [← hguard]
    unfold Op.unlockLabel
    split <;> simp [atomicRwLock]
  have hall := h.fits t
  have hlower := h.lower t
  have hfree := h.free t
  rw [hcs] at hall hlower hfree
  have hcalls : (((listenerHandler messageType).action (.unlock t op)).effect s).calls =
      Function.update s.calls t cs := by
    simp only [listenerHandler, hcs, List.tail_cons]
  refine h.move (t := t) hcalls ?_ ?_ ?_ ?_
  · intro u d hu
    exact hstays _ fun heq => hu (congrArg Prod.fst heq)
  · refine hall.2.congr fun d hd => ?_
    simp only [listenerHandler]
    rw [hstays _ (ne_depth (Nat.lt_succ_of_le hd).ne)]
  · exact fun c hc => hlower c (List.mem_of_mem_tail hc)
  · intro d hd
    simp only [listenerHandler]
    by_cases hdepth : d = cs.length + 1
    · -- the depth that was left
      rw [hdepth]
      exact hidle
    · rw [hstays _ (ne_depth hdepth)]
      exact hfree d (by simp only [List.length_cons]; omega)

/-- **Step lemma** for the invariant. -/
theorem inv_step (s : State T) (a : Label T) (h : Inv s)
    (hg : ((listenerHandler messageType).action a).gate s) :
    Inv (((listenerHandler messageType).action a).effect s) := by
  cases a with
  | call t op => exact h.call hg op rfl rfl
  | connectSignal t selfId listener => exact h.goOn hg rfl rfl trivial
  | emit t sender =>
    have hfits := h.fits_at hg
    exact h.goOn hg rfl rfl hfits
  | turn t sender locked slot slots =>
    have hfits := h.fits_at hg
    refine h.goOn hg rfl rfl ?_
    cases locked <;> split <;> exact hfits
  | callbackReturns t sender locked slots =>
    have hfits := h.fits_at hg
    refine h.goOn hg rfl rfl ?_
    cases locked <;> exact hfits
  | emitted t sender locked =>
    have hfits := h.fits_at hg
    refine h.goOn hg rfl rfl ?_
    cases locked
    · trivial
    · exact Or.inl hfits
  | lock t op connection a => exact h.lockStep hg.1 hg.2.1
  | store t op connection => exact h.goOn hg.1 rfl rfl (Or.inr hg.2)
  | find t sender =>
    refine h.goOn hg.1 rfl rfl ?_
    split
    · exact Or.inl hg.2
    · exact hg.2
  | unlock t op => exact h.unlock hg.1

/-! ## Section 6: Steps and waiting -/

/-- One thread changes its stack and its guards, no writer announces itself,
    and the thread does not stand in its own way. -/
theorem Reentrant.move (h : Reentrant s) {cs : List Call}
    (hcalls : s'.calls = Function.update s.calls t cs)
    (hother : ∀ u d, u ≠ t → s'.lock.loc (u, d) = s.lock.loc (u, d))
    (hwait : s'.lock.writeLockWaitNum ≤ s.lock.writeLockWaitNum) (ht : ¬ SelfBlocked s' t) :
    Reentrant s' := by
  intro u hu
  by_cases hut : u = t
  · subst hut
    exact ht hu
  · -- another thread: where it stands is as before, with no more writers
    have hsame : s'.calls u = s.calls u := by rw [hcalls, Function.update_of_ne hut]
    apply h u
    unfold SelfBlocked State.Holds State.lockPc State.guard at hu ⊢
    rw [hsame, hother u _ hut] at hu
    exact ⟨hu.1, hu.2.mono hwait⟩

/-- A step of a call that does not wait. -/
theorem Reentrant.goOn (h : Reentrant s) {op : Op} {pc pc' : CallPc} (hat : s.At t op pc)
    (hcalls : s'.calls = (s.goOn t op pc').calls) (hlock : s'.lock = s.lock)
    (hsettled : s.lockPc t = .idle ∨ s.lockPc t = .readHeld ∨ s.lockPc t = .writeHeld) :
    Reentrant s' := by
  obtain ⟨cs, hcs⟩ := hat.exists_calls
  refine h.move hcalls (fun u d _ => by rw [hlock]) (by rw [hlock]) fun hblocked => ?_
  have hpc : s'.lockPc t = s.lockPc t := by
    simp [State.lockPc, State.guard, hcalls, hlock, State.goOn, hcs]
  have hstuck := hblocked.2
  rw [hpc] at hstuck
  exact not_stuck_of_settled hsettled _ hstuck

theorem Reentrant.unlock (h : Reentrant s) (hinv : Inv s) {op : Op} (hat : s.At t op .unlock) :
    Reentrant (((listenerHandler messageType).action (.unlock t op)).effect s) := by
  obtain ⟨cs, hcs⟩ := hat.exists_calls
  have hinv' : Inv (((listenerHandler messageType).action (.unlock t op)).effect s) :=
    hinv.unlock hat
  have hcalls : (((listenerHandler messageType).action (.unlock t op)).effect s).calls =
      Function.update s.calls t cs := by
    simp only [listenerHandler, hcs, List.tail_cons]
  refine h.move hcalls ?_ ?_ ?_
  · exact fun u d hu => other_stays (unlockLabel_thread op _) hu d
  · simp only [listenerHandler, Op.unlockLabel]
    split <;> exact Nat.le_refl _
  · intro hblocked
    obtain ⟨⟨c, hc, _⟩, hstuck⟩ := hblocked
    rw [hcalls, Function.update_self] at hc
    cases cs with
    | nil => cases hc
    | cons c' cs =>
      -- the call further out is in its callback, with a guard that has settled
      have hat' : State.At (((listenerHandler messageType).action (.unlock t op)).effect s) t
          c'.op c'.pc := by
        unfold State.At
        rw [hcalls, Function.update_self]
        rfl
      have hcallback : c'.pc.inCallback = true := by
        apply hinv.lower t
        rw [hcs]
        exact List.mem_cons_self
      exact not_stuck_of_settled ((hinv'.fits_at hat').settled_of_callback hcallback) _ hstuck

/-- A step on the lock by which no writer announces itself. -/
theorem Reentrant.lockStep (h : Reentrant s) {a : AtomicRwLock.Label (T × Nat)}
    (ha : a.thread = s.guard t)
    (hwait : (((atomicRwLock true).action a).effect s.lock).writeLockWaitNum ≤
      s.lock.writeLockWaitNum)
    (hfree : s.Holds t → ¬ Stuck
      ((((atomicRwLock true).action a).effect s.lock).loc (s.guard t)).pc
      (((atomicRwLock true).action a).effect s.lock).writeLockWaitNum) :
    Reentrant { s with lock := ((atomicRwLock true).action a).effect s.lock } := by
  refine h.move (t := t) (Function.update_eq_self t s.calls).symm ?_ hwait ?_
  · exact fun u d hu => other_stays ha hu d
  · exact fun hblocked => hfree hblocked.1 hblocked.2

/-- It leaves nobody in his own way exactly if the thread that takes it is not. -/
theorem reentrant_lockStep (h : Reentrant s) {a : AtomicRwLock.Label (T × Nat)}
    (ha : a.thread = s.guard t) (pc : AtomicRwLock.Pc)
    (hpc : ((((atomicRwLock true).action a).effect s.lock).loc (s.guard t)).pc = pc)
    (hwait : (((atomicRwLock true).action a).effect s.lock).writeLockWaitNum =
      s.lock.writeLockWaitNum) :
    Reentrant { s with lock := ((atomicRwLock true).action a).effect s.lock } ↔
      (s.Holds t → ¬ Stuck pc s.lock.writeLockWaitNum) := by
  subst hpc
  rw [← hwait]
  constructor
  · exact fun hall hholds hstuck => hall t ⟨hholds, hstuck⟩
  · exact h.lockStep ha (Nat.le_of_eq hwait)

omit [DecidableEq T] in
/-- A thread that may go on where it stands may do so at a place with no more
    in its way. -/
theorem Reentrant.not_stuck (h : Reentrant s) {pc pc' : AtomicRwLock.Pc}
    (hpc : (s.lock.loc (s.guard t)).pc = pc)
    (hmore : Stuck pc' s.lock.writeLockWaitNum → Stuck pc s.lock.writeLockWaitNum) :
    s.Holds t → ¬ Stuck pc' s.lock.writeLockWaitNum := by
  subst hpc
  exact fun hholds hstuck => h t ⟨hholds, hmore hstuck⟩

/-- A writer that announces itself stops the readers that hold the lock. -/
theorem reentrant_writeAnnounce (h : Reentrant s)
    (hpc : (s.lock.loc (s.guard t)).pc = .writeAnnounce) :
    Reentrant { s with
        lock := ((atomicRwLock true).action (.writeAnnounce (s.guard t))).effect s.lock } ↔
      ∀ u, s.Holds u → waitsToRead (s.lockPc u) = false := by
  have hself : ¬ s.Holds t :=
    fun hholds => h t ⟨hholds, by rw [State.lockPc, hpc]; exact Or.inl rfl⟩
  have hother : ∀ u, u ≠ t → State.lockPc { s with
      lock := ((atomicRwLock true).action (.writeAnnounce (s.guard t))).effect s.lock } u =
      s.lockPc u := by
    intro u hu
    have hstays := other_stays (a := .writeAnnounce (s.guard t)) rfl hu (s.calls u).length
    exact congrArg Local.pc hstays
  constructor
  · intro hall u hholds
    by_contra hwaits
    have hu : u ≠ t := by
      rintro rfl
      exact hself hholds
    apply hall u
    refine ⟨hholds, Or.inr ⟨?_, Nat.succ_pos _⟩⟩
    rw [hother u hu]
    exact (Bool.not_eq_false _).mp hwaits
  · intro hreads u hblocked
    obtain ⟨hholds, hstuck⟩ := hblocked
    have hu : u ≠ t := by
      rintro rfl
      exact hself hholds
    rw [hother u hu] at hstuck
    rcases hstuck with hwrites | ⟨hwaits, _⟩
    · exact h u ⟨hholds, Or.inl hwrites⟩
    · rw [hreads u hholds] at hwaits
      cases hwaits

/-- The steps on the lock. -/
theorem reentrant_lock (h : Reentrant s) {op : Op} {connection : Option Nat}
    {a : AtomicRwLock.Label (T × Nat)} (ha : a.thread = s.guard t)
    (hlocks : op.locksBy a = true) (hg : ((atomicRwLock true).action a).gate s.lock) :
    Reentrant { s with lock := ((atomicRwLock true).action a).effect s.lock } ↔
      Careful s (.lock t op connection a) := by
  cases a with
  | readLock g =>
    obtain rfl : g = s.guard t := ha
    refine (reentrant_lockStep h rfl .readLoad (by simp [atomicRwLock]) rfl).trans ?_
    simp [Stuck, waitsToRead, waitsToWrite, Careful]
  | readLoad g =>
    obtain rfl : g = s.guard t := ha
    refine (reentrant_lockStep h rfl .readCheck (by simp [atomicRwLock]) rfl).trans ?_
    exact iff_of_true (h.not_stuck hg id) trivial
  | readCheck g =>
    obtain rfl : g = s.guard t := ha
    -- sent back, it waits as before; let through, it no longer does
    refine iff_of_true ?_ trivial
    by_cases hshut : (s.lock.loc (s.guard t)).lockNum < rwLockFree ∨
        (true = true ∧ 0 < s.lock.writeLockWaitNum)
    · refine (reentrant_lockStep h rfl .readReload ?_ ?_).mpr (h.not_stuck hg id)
      · rw [readCheck_shut hshut, setLoc_self]
      · rw [readCheck_shut hshut, setLoc_writeLockWaitNum]
    · refine (reentrant_lockStep h rfl .readCas ?_ ?_).mpr (h.not_stuck hg ?_)
      · rw [readCheck_open hshut, setLoc_self]
      · rw [readCheck_open hshut, setLoc_writeLockWaitNum]
      · simp [Stuck, waitsToRead, waitsToWrite]
  | readReload g =>
    obtain rfl : g = s.guard t := ha
    refine (reentrant_lockStep h rfl .readCheck (by simp [atomicRwLock]) rfl).trans ?_
    exact iff_of_true (h.not_stuck hg id) trivial
  | readCas g =>
    obtain rfl : g = s.guard t := ha
    refine (reentrant_lockStep h rfl .readHeld (by simp [atomicRwLock]) rfl).trans ?_
    exact iff_of_true (fun _ => not_stuck_of_settled (Or.inr (Or.inl rfl)) _) trivial
  | readCasFail g =>
    obtain rfl : g = s.guard t := ha
    refine (reentrant_lockStep h rfl .readCheck (by simp [atomicRwLock]) rfl).trans ?_
    simp [Stuck, waitsToRead, waitsToWrite, Careful]
  | writeLock g =>
    obtain rfl : g = s.guard t := ha
    refine (reentrant_lockStep h rfl .writeAnnounce (by simp [atomicRwLock]) rfl).trans ?_
    simp [Stuck, waitsToRead, waitsToWrite, Careful]
  | writeAnnounce g =>
    obtain rfl : g = s.guard t := ha
    exact reentrant_writeAnnounce h hg
  | writeCas g =>
    obtain rfl : g = s.guard t := ha
    refine (reentrant_lockStep h rfl .writeWithdraw (by simp [atomicRwLock]) rfl).trans ?_
    refine iff_of_true (fun _ => ?_) trivial
    simp [Stuck, waitsToRead, waitsToWrite]
  | writeCasFail g =>
    obtain rfl : g = s.guard t := ha
    have hpc : (s.lock.loc (s.guard t)).pc = .writeCas := hg
    refine (reentrant_lockStep h rfl .writeCas (by simp [atomicRwLock, hpc]) rfl).trans ?_
    exact iff_of_true (h.not_stuck hg id) trivial
  | writeWithdraw g =>
    obtain rfl : g = s.guard t := ha
    refine iff_of_true (h.lockStep rfl (Nat.sub_le _ _) fun _ => ?_) trivial
    apply not_stuck_of_settled
    simp [atomicRwLock]
  | readUnlock g | writeUnlock g => cases hlocks

/-- **Step lemma**: only a step on the lock can put a thread in its own way. -/
theorem reentrant_step (s : State T) (a : Label T) (hinv : Inv s) (h : Reentrant s)
    (hg : ((listenerHandler messageType).action a).gate s) :
    Reentrant (((listenerHandler messageType).action a).effect s) ↔ Careful s a := by
  cases a with
  | lock t op connection a => exact reentrant_lock h hg.2.1 hg.2.2.1 hg.2.2.2
  | unlock t op => exact iff_of_true (h.unlock hinv hg.1) trivial
  | call t op =>
    refine iff_of_true (h.move (t := t) rfl (fun _ _ _ => rfl) (Nat.le_refl _) ?_) trivial
    -- the guard of the new call has not begun to wait
    intro hblocked
    have hidle := hinv.free t ((s.calls t).length + 1) (Nat.lt_succ_self _)
    have hstuck := hblocked.2
    simp only [State.lockPc, State.guard, listenerHandler, Function.update_self,
      List.length_cons, hidle] at hstuck
    exact not_stuck_of_settled (Or.inl rfl) _ hstuck
  | connectSignal t selfId listener | emit t sender =>
    refine iff_of_true (h.goOn hg rfl rfl ((hinv.fits_at hg).settled ?_)) trivial
    exact fun _ hpc => nomatch hpc
  | turn t sender locked slot slots | callbackReturns t sender locked slots
  | emitted t sender locked =>
    refine iff_of_true (h.goOn hg rfl rfl ((hinv.fits_at hg).settled ?_)) trivial
    exact fun _ hpc => nomatch hpc
  | store t op connection =>
    exact iff_of_true (h.goOn hg.1 rfl rfl (Or.inr (Or.inr hg.2))) trivial
  | find t sender => exact iff_of_true (h.goOn hg.1 rfl rfl (Or.inr (Or.inl hg.2))) trivial

/-! ## Section 7: No way out -/

/-- A guard that is stuck stays so as long as somebody reads. -/
theorem Stuck.step {l : AtomicRwLock.State (T × Nat)} {a : AtomicRwLock.Label (T × Nat)}
    (h : Stuck (l.loc a.thread).pc l.writeLockWaitNum) (hword : 0 < l.lockNum)
    (hg : ((atomicRwLock true).action a).gate l) :
    Stuck ((((atomicRwLock true).action a).effect l).loc a.thread).pc
      (((atomicRwLock true).action a).effect l).writeLockWaitNum := by
  have hat : ∀ {g : T × Nat} {pc : AtomicRwLock.Pc}, (l.loc g).pc = pc →
      Stuck (l.loc g).pc l.writeLockWaitNum → Stuck pc l.writeLockWaitNum := by
    intro g pc hpc hstuck
    exact hpc ▸ hstuck
  cases a with
  | readLock g | writeLock g => exact absurd (hat hg h) (not_stuck_of_settled (Or.inl rfl) _)
  | readUnlock g =>
    exact absurd (hat hg h) (not_stuck_of_settled (Or.inr (Or.inl rfl)) _)
  | writeUnlock g =>
    exact absurd (hat hg h) (not_stuck_of_settled (Or.inr (Or.inr rfl)) _)
  | readLoad g | readReload g =>
    have hstuck := hat hg h
    simp only [atomicRwLock, AtomicRwLock.Label.thread, setLoc_self, setLoc_writeLockWaitNum]
    exact hstuck
  | readCheck g =>
    -- behind an announced writer the reader is sent back
    have hstuck := hat hg h
    have hwait : 0 < l.writeLockWaitNum := by
      rcases hstuck with hwrites | ⟨_, hwait⟩
      · cases hwrites
      · exact hwait
    rw [readCheck_shut (Or.inr ⟨rfl, hwait⟩)]
    simp only [AtomicRwLock.Label.thread, setLoc_self, setLoc_writeLockWaitNum]
    exact hstuck
  | readCas g =>
    have hstuck := hat hg.1 h
    simp [Stuck, waitsToRead, waitsToWrite] at hstuck
  | readCasFail g =>
    have hstuck := hat hg h
    simp [Stuck, waitsToRead, waitsToWrite] at hstuck
  | writeAnnounce g =>
    refine Or.inl ?_
    simp [atomicRwLock, AtomicRwLock.Label.thread, waitsToWrite]
  | writeCasFail g =>
    have hstuck := hat hg h
    have hpc : (l.loc g).pc = .writeCas := hg
    simp only [atomicRwLock, AtomicRwLock.Label.thread, setLoc_self, setLoc_writeLockWaitNum, hpc]
    exact hstuck
  -- the lock word is not free, with a reader inside
  | writeCas g => exact absurd hg.2 (Int.ne_of_gt hword)
  | writeWithdraw g =>
    have hstuck := hat hg h
    simp [Stuck, waitsToRead, waitsToWrite] at hstuck

theorem lock_reachable (h : (listenerHandler messageType).Reachable s) :
    (atomicRwLock true).Reachable s.lock := by
  induction h with
  | init hi => exact .init hi.1
  | step a _ hstep ih =>
    obtain ⟨hg, rfl⟩ := hstep
    cases a with
    | lock t op connection a => exact .step a ih ⟨hg.2.2.2, rfl⟩
    | unlock t op => exact .step _ ih ⟨hg.2, rfl⟩
    | _ => exact ih

theorem inv_reachable (h : (listenerHandler messageType).Reachable s) : Inv s :=
  System.invariant (fun _ hi => inv_init hi) inv_step h

omit [DecidableEq T] in
/-- What the other threads do leaves the thread where it is. -/
theorem SelfBlocked.frame (h : SelfBlocked s t) (hcalls : s'.calls t = s.calls t)
    (hloc : ∀ d, s'.lock.loc (t, d) = s.lock.loc (t, d))
    (hwait : s.lock.writeLockWaitNum ≤ s'.lock.writeLockWaitNum) : SelfBlocked s' t := by
  unfold SelfBlocked State.Holds State.lockPc State.guard at h ⊢
  rw [hcalls, hloc]
  exact ⟨h.1, h.2.mono hwait⟩

/-- A call that goes on is one of another thread. -/
theorem SelfBlocked.goOn (h : SelfBlocked s t) {u : T} {op : Op} {pc' : CallPc}
    (hcalls : s'.calls = (s.goOn u op pc').calls) (hlock : s'.lock = s.lock)
    (hsettled : s.lockPc u = .idle ∨ s.lockPc u = .readHeld ∨ s.lockPc u = .writeHeld) :
    SelfBlocked s' t := by
  by_cases hu : t = u
  · subst hu
    exact absurd h.2 (not_stuck_of_settled hsettled _)
  · refine h.frame ?_ (fun d => by rw [hlock]) (by rw [hlock])
    rw [hcalls]
    exact Function.update_of_ne hu _ _

/-- A holder has a guard that reads, and so keeps all writers out. -/
theorem SelfBlocked.keepsOut (h : SelfBlocked s t) (hinv : Inv s)
    (hlock : (atomicRwLock true).Reachable s.lock) :
    0 < s.lock.lockNum ∧ ∀ g, (s.lock.loc g).pc.writes = false := by
  obtain ⟨⟨c, hc, hholds⟩, _⟩ := h
  obtain ⟨d, _, hreads⟩ := (hinv.fits t).exists_reads hc hholds
  exact reads_excludes hlock (t := (t, d)) (by rw [hreads]; rfl)

/-- **Step lemma**: a thread in its own way stays there. -/
theorem SelfBlocked.step (h : SelfBlocked s t) (hreach : (listenerHandler messageType).Reachable s)
    (a : Label T) (hg : ((listenerHandler messageType).action a).gate s) :
    SelfBlocked (((listenerHandler messageType).action a).effect s) t := by
  have hinv := inv_reachable hreach
  obtain ⟨hword, hwriters⟩ := h.keepsOut hinv (lock_reachable hreach)
  cases a with
  | lock u op connection a =>
    obtain ⟨_, ha, _, hlock⟩ := hg
    have hwait : s.lock.writeLockWaitNum ≤
        (((atomicRwLock true).action a).effect s.lock).writeLockWaitNum := by
      apply writeLockWaitNum_le
      intro heq
      -- no writer is in, to withdraw
      rw [heq] at hlock
      have hwithdraw : (s.lock.loc a.thread).pc = .writeWithdraw := hlock
      have hout := hwriters a.thread
      rw [hwithdraw] at hout
      cases hout
    by_cases hu : t = u
    · subst hu
      refine ⟨h.1, ?_⟩
      have hstuck : Stuck (s.lock.loc a.thread).pc s.lock.writeLockWaitNum := by
        rw [ha]
        exact h.2
      have hstays := hstuck.step hword hlock
      rw [ha] at hstays
      exact hstays
    · exact h.frame rfl (fun d => other_stays ha hu d) hwait
  | unlock u op =>
    by_cases hu : t = u
    · subst hu
      refine absurd h.2 (not_stuck_of_settled ((hinv.fits_at hg.1).settled ?_) _)
      exact fun _ hpc => nomatch hpc
    · refine h.frame (Function.update_of_ne hu _ _)
        (fun d => other_stays (unlockLabel_thread op _) hu d) ?_
      apply writeLockWaitNum_le
      unfold Op.unlockLabel
      split <;> exact fun heq => nomatch heq
  | call u op =>
    by_cases hu : t = u
    · subst hu
      obtain ⟨⟨c, hc, _⟩, hstuck⟩ := h
      cases hcs : s.calls t with
      | nil =>
        rw [hcs] at hc
        cases hc
      | cons c' cs =>
        -- who may call is in a callback, and waits for nothing
        have hhead : (s.calls t).head? = some c' := by rw [hcs]; rfl
        have hat : s.At t c'.op c'.pc := hhead
        have hsettled := (hinv.fits_at hat).settled_of_callback (hg c' hhead)
        exact absurd hstuck (not_stuck_of_settled hsettled _)
    · exact h.frame (Function.update_of_ne hu _ _) (fun _ => rfl) (Nat.le_refl _)
  | connectSignal u selfId listener | emit u sender =>
    refine h.goOn rfl rfl ((hinv.fits_at hg).settled ?_)
    exact fun _ hpc => nomatch hpc
  | turn u sender locked slot slots | callbackReturns u sender locked slots
  | emitted u sender locked =>
    refine h.goOn rfl rfl ((hinv.fits_at hg).settled ?_)
    exact fun _ hpc => nomatch hpc
  | store u op connection => exact h.goOn rfl rfl (Or.inr (Or.inr hg.2))
  | find u sender => exact h.goOn rfl rfl (Or.inr (Or.inl hg.2))

/-- **No way out**: whatever the threads do, it waits for ever. -/
theorem selfBlocked_forever {as : List (Label T)} (h : SelfBlocked s t)
    (hreach : (listenerHandler messageType).Reachable s)
    (hadmits : (listenerHandler messageType).Admits s as) :
    SelfBlocked ((listenerHandler messageType).exec s as) t := by
  induction as generalizing s with
  | nil => exact h
  | cons a as ih =>
    exact ih (h.step hreach a hadmits.1) (.step a hreach ⟨hadmits.1, rfl⟩) hadmits.2

/-! ## Section 8: Runs -/

/-- In every run, with any listeners, callbacks and threads, no thread ever
    waits for the lock in its own way exactly if every step on the lock is
    careful. -/
theorem reentrant_iff (messageType : Nat) {as : List (Label T)}
    (hinit : (listenerHandler messageType).init s)
    (h : (listenerHandler messageType).Admits s as) :
    (∀ bs, bs <+: as → Reentrant ((listenerHandler messageType).exec s bs)) ↔
      ((listenerHandler messageType).restrict Careful).Admits s as := by
  have hstart : Reentrant s := by
    intro t hblocked
    obtain ⟨⟨c, hc, _⟩, _⟩ := hblocked
    rw [hinit.2.2 t] at hc
    cases hc
  exact System.always_iff_admits_restrict inv_step reentrant_step h (inv_init hinit) hstart

end steps

/-- Steps of a call on the lock. -/
def locks (t : Bool) (op : Op) (connection : Option Nat)
    (as : List (AtomicRwLock.Label (Bool × Nat))) : List (Label Bool) :=
  as.map (Label.lock t op connection)

/-- `ReadLock` by a `Run` at depth `d`, at the first try. -/
def readLocks (t : Bool) (d sender : Nat) : List (Label Bool) :=
  locks t (.run sender) none
    [.readLock (t, d), .readLoad (t, d), .readCheck (t, d), .readCas (t, d)]

/-- The part of a call from the lock for writing on, at the first try. -/
def writes (t : Bool) (d : Nat) (op : Op) (connection : Option Nat) : List (Label Bool) :=
  [locks t op connection
      [.writeLock (t, d), .writeAnnounce (t, d), .writeCas (t, d), .writeWithdraw (t, d)],
    [.store t op connection, .unlock t op]].flatten

/-- `Run` for sender 7, with no listeners of all senders, up to its lock. -/
def runs (t : Bool) : List (Label Bool) := [.call t (.run 7), .emit t 7, .emitted t 7 false]

/-- A listener of sender 7 connects. -/
def connects : List (Label Bool) :=
  .call false (.connect ⟨1, some 7⟩ 5) :: writes false 1 (.connect ⟨1, some 7⟩ 5) none

/-- A `Run` that is in the callback of this listener. -/
def inCallback : List (Label Bool) :=
  [connects, runs false, readLocks false 1 7, [.find false 7, .turn false 7 true 0 []]].flatten

/-- A listener of all senders disconnects a listener in its callback; one of
    the sender calls `Run`. -/
def carefulCallbacks : List (Label Bool) :=
  [connects,
    [.call false (.connect ⟨2, none⟩ 6), .connectSignal false 2 6],
    writes false 1 (.connect ⟨2, none⟩ 6) (some 1),
    [.call false (.run 7), .emit false 7, .turn false 7 false 1 []],
    .call false (.disconnect ⟨2, none⟩) :: writes false 2 (.disconnect ⟨2, none⟩) none,
    [.callbackReturns false 7 false [], .emitted false 7 false],
    readLocks false 1 7,
    [.find false 7, .turn false 7 true 0 []],
    runs false,
    readLocks false 2 7].flatten

theorem reentrant_carefulCallbacks :
    (listenerHandler 0).Admits (initial 0) carefulCallbacks ∧
      ∀ bs, bs <+: carefulCallbacks → Reentrant ((listenerHandler 0).exec (initial 0) bs) := by
  have hadmits : (listenerHandler 0).Admits (initial 0) carefulCallbacks := by decide
  exact ⟨hadmits, (reentrant_iff 0 (initial_init 0) hadmits).mpr (by decide)⟩

/-- The listener disconnects itself. -/
def ownDisconnect : List (Label Bool) :=
  [inCallback,
    [.call false (.disconnect ⟨1, some 7⟩)],
    locks false (.disconnect ⟨1, some 7⟩) none [.writeLock (false, 2)]].flatten

/-- The thread waits to write while it reads. -/
theorem disconnect_ownCallback :
    (listenerHandler 0).Admits (initial 0) ownDisconnect ∧
      SelfBlocked ((listenerHandler 0).exec (initial 0) ownDisconnect) false ∧
      ¬ Reentrant ((listenerHandler 0).exec (initial 0) ownDisconnect) := by
  have hblocked : SelfBlocked ((listenerHandler 0).exec (initial 0) ownDisconnect) false := by
    decide
  exact ⟨by decide, hblocked, fun h => h false hblocked⟩

/-- The listener calls `Run` after another thread has come to disconnect. -/
def runBehindWriter : List (Label Bool) :=
  [inCallback,
    [.call true (.disconnect ⟨3, some 7⟩)],
    locks true (.disconnect ⟨3, some 7⟩) none [.writeLock (true, 1), .writeAnnounce (true, 1)],
    runs false,
    locks false (.run 7) none [.readLock (false, 2)]].flatten

/-- The thread waits to read behind a writer that waits for it. -/
theorem run_behindWriter :
    (listenerHandler 0).Admits (initial 0) runBehindWriter ∧
      SelfBlocked ((listenerHandler 0).exec (initial 0) runBehindWriter) false ∧
      ¬ Reentrant ((listenerHandler 0).exec (initial 0) runBehindWriter) := by
  have hblocked : SelfBlocked ((listenerHandler 0).exec (initial 0) runBehindWriter) false := by
    decide
  exact ⟨by decide, hblocked, fun h => h false hblocked⟩

end CyberRT.Transport.ListenerReentrancy
