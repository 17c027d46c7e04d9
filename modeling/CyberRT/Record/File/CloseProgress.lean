import CyberRT.Record.File.WriterThreads
import CyberRT.Record.RecordWire

/-! # Does `Close` return?

    `Close` clears `is_writing_` and notifies outside `flush_mutex_`. The
    flush thread may have evaluated the predicate of its wait before, and
    block only after the notification: then nobody wakes it, and `Close`
    waits in `join` for good. A run in which the last notification never
    falls between the flush thread's test and its wait is free of this.

    None of this depends on what the writes do. So the system here has, beside
    the writer's steps, those of a section write that fails: `WriteHeader`,
    `WriteChannel`, `WriteIndex` and `WriteChunk` then return early, and
    their callers go on. -/

namespace CyberRT.Record

open CyberRT.Framework

variable {P : Protobuf} {given : Header} {s : State}

/-! ## Section 1: Writes that fail -/

/-- The caller's write fails and leaves `file`. -/
def State.callerFails (given : Header) (s : State) (file : FileImage) : State :=
  match s.caller with
  | .headerWrite last =>
    { s with
      file   := file
      header := s.headerToWrite given last
      mutex  := none
      caller := if last then .closed else .idle }
  | .channelWrite _ => { s with file := file, mutex := none, caller := .idle }
  | .indexWrite =>
    { s with
      file   := file
      index  := s.indexToWrite
      header := { s.header with indexPosition := .ofNat s.file.pos }
      mutex  := none
      caller := .setComplete }
  | _ => s

/-- One of the two writes of `WriteChunk` fails and leaves `file`. -/
def State.flusherFails (s : State) (file : FileImage) : State :=
  { s with file := file, mutex := none, flusher := .clear }

inductive IoLabel where
  | step (a : Label)
  | callerFails (file : FileImage)
  | flusherFails (file : FileImage)
  deriving DecidableEq

/-- The writer over a file whose writes may fail. -/
def failingWriter (P : Protobuf) (given : Header) : System State IoLabel where
  init   := (recordFileWriter P given).init
  action := fun
    | .step a => (recordFileWriter P given).action a
    | .callerFails file =>
      { gate   := fun s => s.caller.inFile = true
        effect := fun s => s.callerFails given file }
    | .flusherFails file =>
      { gate   := fun s => s.flusher.inFile = true
        effect := fun s => s.flusherFails file }

instance decidableIoGate (P : Protobuf) (given : Header) :
    ∀ (a : IoLabel) (s : State), Decidable (((failingWriter P given).action a).gate s)
  | .step a, s         => decidableGate P given a s
  | .callerFails _, s  => inferInstanceAs (Decidable (s.caller.inFile = true))
  | .flusherFails _, s => inferInstanceAs (Decidable (s.flusher.inFile = true))

/-- A blocked flush thread goes on only when it is notified. -/
def OnlyNotified (_ : State) (a : IoLabel) : Prop := a ≠ .step .spurious

instance (s : State) (a : IoLabel) : Decidable (OnlyNotified s a) :=
  inferInstanceAs (Decidable (a ≠ _))

/-- The writer without spurious wake-ups. -/
def notifiedWriter (P : Protobuf) (given : Header) : System State IoLabel :=
  (failingWriter P given).restrict OnlyNotified

instance decidableNotifiedGate (P : Protobuf) (given : Header) (a : IoLabel) (s : State) :
    Decidable (((notifiedWriter P given).action a).gate s) :=
  System.decidableRestrict (failingWriter P given) OnlyNotified a s

/-- **Property**: `Close` waits for the flush thread, in `join` or for an
    empty `chunk_flush_`, and the flush thread is blocked in its wait. The
    only thread that notifies is the one in `Close`. -/
def Hung (s : State) : Prop :=
  s.flusher = .blocked ∧
    (s.caller = .join ∨
      (s.caller = .waitFlush ∨ s.caller = .waitLast) ∧ s.chunkFlush.empty = false)

instance (s : State) : Decidable (Hung s) := inferInstanceAs (Decidable (_ ∧ _))

/-- **Condition**: when `Close` notifies, the flush thread does not stand
    between its test and its wait. -/
def NotifiesInTime (s : State) (a : IoLabel) : Prop :=
  a = .step .notifyAll → s.flusher ≠ .block

instance (s : State) (a : IoLabel) : Decidable (NotifiesInTime s a) :=
  inferInstanceAs (Decidable (_ → _))

/-! ## Section 2: A hung writer stays so -/

/-- No step is left to a hung writer. -/
theorem Hung.stuck (h : Hung s) (a : IoLabel) :
    ¬ ((notifiedWriter P given).action a).gate s := by
  obtain ⟨hflusher, hcaller⟩ := h
  rintro ⟨hg, hnotified⟩
  have hnot : s.caller.inFile = false := by
    obtain hjoin | ⟨hwait | hwait, _⟩ := hcaller
    · rw [hjoin]; rfl
    · rw [hwait]; rfl
    · rw [hwait]; rfl
  cases a with
  | callerFails file => exact absurd (hg.symm.trans hnot) nofun
  | flusherFails file =>
    have hin : s.flusher.inFile = true := hg
    rw [hflusher] at hin
    cases hin
  | step a =>
    cases a with
    | spurious => exact hnotified rfl
    -- the flush thread stands elsewhere
    | loop | test | block | checkWriting | checkEmpty | clear | unlock =>
      exact absurd (hflusher.symm.trans hg) nofun
    | lock | relock | chunkLock | chunkHeader | chunkBody =>
      exact absurd (hflusher.symm.trans hg.1) nofun
    -- the polls find `chunk_flush_` as it is
    | waitFlush | waitLast =>
      obtain hjoin | ⟨_, hfull⟩ := hcaller
      · exact absurd (hjoin.symm.trans hg.1) nofun
      · exact absurd (hfull.symm.trans hg.2) nofun
    | join => exact absurd (hflusher.symm.trans hg.2) nofun
    -- the caller stands elsewhere
    | writeHeader | writeChannel _ | close | swap _ | notify _ | swapUnlock _ | stop | notifyAll
    | setComplete =>
      obtain hjoin | ⟨hwait | hwait, _⟩ := hcaller
      · exact absurd (hjoin.symm.trans hg) nofun
      · exact absurd (hwait.symm.trans hg) nofun
      · exact absurd (hwait.symm.trans hg) nofun
    | writeMessage _ | headerLock _ | headerWrite _ | channelLock _ | channelWrite _ | swapLock _
    | indexLock | indexWrite =>
      obtain hjoin | ⟨hwait | hwait, _⟩ := hcaller
      · exact absurd (hjoin.symm.trans hg.1) nofun
      · exact absurd (hwait.symm.trans hg.1) nofun
      · exact absurd (hwait.symm.trans hg.1) nofun

/-- A notification that comes too early leads to a hung writer in one more
    step. -/
theorem hung_of_early (hcaller : s.caller = .notifyAll) (hflusher : s.flusher = .block) :
    ∃ s', (notifiedWriter P given).Run s [.step .notifyAll, .step .block] s' ∧ Hung s' := by
  have hnotified : s.flusher.notified = .block := by
    rw [hflusher]
    rfl
  refine ⟨_, .cons _ _ ⟨⟨hcaller, nofun⟩, rfl⟩ (.cons _ _ ⟨⟨hnotified, nofun⟩, rfl⟩ (.nil _)), ?_⟩
  exact ⟨rfl, .inl rfl⟩

/-! ## Section 3: What a waiting flush thread waits for -/

/-- The flush thread has decided to wait, or waits. -/
def FlushPc.waiting : FlushPc → Bool
  | .block | .blocked => true
  | _ => false

/-- **Invariant**: a flush thread that waits has nothing to write or is
    about to be notified, and has not been told to stop yet. -/
structure Waits (flushEmpty : Bool) (caller : CallerPc) (flusher : FlushPc) : Prop where
  block   : flusher = .block → flushEmpty = true
  blocked : flusher = .blocked → flushEmpty = true ∨ ∃ last, caller = .notify last
  stopped : flusher.waiting = true → caller.stopped = true → caller = .notifyAll

def State.Waits (s : State) : Prop := Record.Waits s.chunkFlush.empty s.caller s.flusher

namespace Waits

variable {e e' : Bool} {c c' : CallerPc} {f f' : FlushPc}

theorem of_not_waiting (h : f.waiting = false) : Waits e c f where
  block   := fun hf => by rw [hf] at h; cases h
  blocked := fun hf => by rw [hf] at h; cases h
  stopped := fun hf => by rw [hf] at h; cases h

/-- The caller moves on, from elsewhere than the notification of a swap. -/
theorem setCaller (h : Waits e c f) (hnotify : ∀ last, c ≠ .notify last)
    (hstopped : c'.stopped = false ∨ c' = .notifyAll) : Waits e c' f where
  block   := h.block
  blocked := fun hf =>
    (h.blocked hf).imp id fun ⟨last, hc⟩ => absurd hc (hnotify last)
  stopped := fun _ hstop => by
    obtain hrun | heq := hstopped
    · exact absurd (hrun.symm.trans hstop) nofun
    · exact heq

/-- A notification in time leaves nobody waiting. -/
theorem notified (hne : f ≠ .block) : Waits e c f.notified := by
  apply of_not_waiting
  cases f with
  | block => exact absurd rfl hne
  | _ => rfl

end Waits

/-- The flush thread does not stand before its wait while the caller is in
    the critical section of a swap. -/
theorem not_block_of_swapping (ht : s.Threads) (hc : s.caller.swapping = true) :
    s.flusher ≠ .block := by
  intro hblock
  have hheld := ht.flush
  rw [hc] at hheld
  have hout := hheld.exclusive
  rw [hblock] at hout
  cases hout

/-- A flush thread that was joined does not wait. -/
theorem waits_of_joined {e : Bool} {c : CallerPc} (ht : s.Threads)
    (hc : s.caller.joined = true) : Waits e c s.flusher := by
  apply Waits.of_not_waiting
  rw [ht.joined hc]
  rfl

/-- **Step lemma** for the steps of the writer. -/
theorem waits_step (a : Label) (ht : s.Threads) (h : s.Waits)
    (hg : ((recordFileWriter P given).action a).gate s)
    (hnotified : a ≠ .spurious) (htime : a = .notifyAll → s.flusher ≠ .block) :
    (((recordFileWriter P given).action a).effect s).Waits := by
  unfold State.Waits at h
  cases a with
  | spurious => exact absurd rfl hnotified
  | writeHeader | writeChannel c | close =>
    rw [show s.caller = _ from hg] at h
    exact h.setCaller nofun (.inl rfl)
  | writeMessage m =>
    rw [hg.1] at h
    show Waits _ (if _ then _ else _) _
    split
    · exact h.setCaller nofun (.inl rfl)
    · exact h.setCaller nofun (.inl rfl)
  | headerLock last | headerWrite last =>
    have hc := hg.1
    cases last with
    | false =>
      rw [hc] at h
      exact h.setCaller nofun (.inl rfl)
    | true =>
      -- the last header is written after the join
      have hjoined : s.caller.joined = true := by
        rw [hc]
        rfl
      show Waits _ _ s.flusher
      exact waits_of_joined ht hjoined
  | channelLock c | channelWrite c | swapLock last =>
    rw [hg.1] at h
    exact h.setCaller nofun (.inl rfl)
  | swap last =>
    have hblock : s.flusher ≠ .block := by
      apply not_block_of_swapping ht
      rw [show s.caller = _ from hg]
      rfl
    exact ⟨fun hf => absurd hf hblock, fun _ => .inr ⟨last, rfl⟩, nofun⟩
  | notify last =>
    have hblock : s.flusher ≠ .block := by
      apply not_block_of_swapping ht
      rw [show s.caller = _ from hg]
      rfl
    exact Waits.notified hblock
  | swapUnlock last =>
    rw [show s.caller = _ from hg] at h
    show Waits _ (if _ then _ else _) _
    split
    · exact h.setCaller nofun (.inl rfl)
    · exact h.setCaller nofun (.inl rfl)
  | waitFlush | waitLast =>
    rw [hg.1] at h
    exact h.setCaller nofun (.inl rfl)
  | stop =>
    rw [show s.caller = _ from hg] at h
    exact h.setCaller nofun (.inr rfl)
  | notifyAll => exact Waits.notified (htime rfl)
  | join =>
    apply Waits.of_not_waiting
    show s.flusher.waiting = false
    rw [hg.2]
    rfl
  | indexLock | indexWrite =>
    apply waits_of_joined ht
    rw [hg.1]
    rfl
  | setComplete =>
    apply waits_of_joined ht
    rw [show s.caller = _ from hg]
    rfl
  | loop =>
    show Waits _ _ (if _ then _ else _)
    split
    · exact .of_not_waiting rfl
    · exact .of_not_waiting rfl
  | test =>
    show Waits _ _ (if _ then _ else _)
    by_cases htest : (s.chunkFlush.empty && s.isWriting) = true
    · rw [if_pos htest]
      obtain ⟨hempty, hwriting⟩ := (Bool.and_eq_true _ _).mp htest
      -- it decides to wait: nothing to write, and `Close` has not stopped it
      refine ⟨fun _ => hempty, nofun, fun _ hstop => ?_⟩
      have hrun := ht.stopped
      rw [hwriting] at hrun
      exact absurd (hrun.symm.trans hstop) nofun
    · rw [if_neg htest]
      exact .of_not_waiting rfl
  | block =>
    rw [show s.flusher = _ from hg] at h
    exact ⟨nofun, fun _ => .inl (h.block rfl), fun _ => h.stopped rfl⟩
  | checkWriting =>
    show State.Waits (if _ then _ else _)
    split
    · exact Waits.of_not_waiting rfl
    · exact Waits.of_not_waiting rfl
  | checkEmpty =>
    show State.Waits (if _ then _ else _)
    split
    · exact Waits.of_not_waiting rfl
    · exact Waits.of_not_waiting rfl
  | lock | relock | chunkLock | chunkHeader | chunkBody | clear | unlock =>
    exact Waits.of_not_waiting rfl

/-- A failing write of the caller: the locks, and what the flush thread
    waits for. -/
theorem callerFails_step (file : FileImage) (ht : s.Threads) (h : s.Waits) :
    (s.callerFails given file).Threads ∧ (s.callerFails given file).Waits := by
  unfold State.callerFails
  split
  · next last hc =>
    unfold State.Waits at h
    unfold State.Threads at ht
    rw [hc] at ht h
    cases last with
    | false =>
      exact ⟨ht.setCaller ht.flush ht.file.callerUnlock rfl rfl, h.setCaller nofun (.inl rfl)⟩
    | true =>
      refine ⟨ht.setCaller ht.flush ht.file.callerUnlock rfl rfl, ?_⟩
      apply Waits.of_not_waiting
      show s.flusher.waiting = false
      rw [ht.joined rfl]
      rfl
  · next c hc =>
    unfold State.Waits at h
    unfold State.Threads at ht
    rw [hc] at ht h
    exact ⟨ht.setCaller ht.flush ht.file.callerUnlock rfl rfl, h.setCaller nofun (.inl rfl)⟩
  · next hc =>
    unfold State.Threads at ht
    rw [hc] at ht
    refine ⟨ht.setCaller ht.flush ht.file.callerUnlock rfl rfl, ?_⟩
    apply Waits.of_not_waiting
    show s.flusher.waiting = false
    rw [ht.joined rfl]
    rfl
  · exact ⟨ht, h⟩

/-- A failing write of the flush thread. -/
theorem flusherFails_step (file : FileImage) (ht : s.Threads) (hg : s.flusher.inFile = true) :
    (s.flusherFails file).Threads ∧ (s.flusherFails file).Waits := by
  refine ⟨?_, Waits.of_not_waiting rfl⟩
  have hlocked : s.flusher.locked = true := by
    cases hf : s.flusher with
    | chunkHeader | chunkBody => rfl
    | _ => rw [hf] at hg; cases hg
  have hne : s.flusher ≠ .done := by
    intro hdone
    rw [hdone] at hg
    cases hg
  unfold State.Threads at ht
  have hflush := ht.flush
  have hfile := ht.file
  rw [hlocked] at hflush
  rw [hg] at hfile
  exact ht.setFlusher hne hflush hfile.flusherUnlock nofun

/-- **Run lemma**: in a run whose last notification is in time, a waiting
    flush thread has nothing to wait for but the caller's next move. -/
theorem waits_reachable
    (h : ((notifiedWriter P given).restrict NotifiesInTime).Reachable s) :
    s.Threads ∧ s.Waits := by
  apply System.invariant _ _ h
  · intro s hi
    have hi' : (recordFileWriter P given).init s := hi
    refine ⟨threads_init hi', ?_⟩
    obtain ⟨_, _, _, _, _, hf⟩ := hi'
    apply Waits.of_not_waiting
    rw [hf]
    rfl
  · intro s a ih hg
    obtain ⟨⟨hg, hnotified⟩, htime⟩ := hg
    cases a with
    | step a =>
      refine ⟨threads_step a ih.1 hg, waits_step a ih.1 ih.2 hg ?_ ?_⟩
      · exact fun ha => hnotified (congrArg IoLabel.step ha)
      · exact fun ha => htime (congrArg IoLabel.step ha)
    | callerFails file => exact callerFails_step file ih.1 ih.2
    | flusherFails file => exact flusherFails_step file ih.1 hg

/-! ## Section 4: `Close` -/

/-- **Main result**: `Close` does not hang in a run whose last notification
    is in time. -/
theorem close_not_hung (P : Protobuf) (given : Header) (s : State)
    (h : ((notifiedWriter P given).restrict NotifiesInTime).Reachable s) : ¬ Hung s := by
  have hw : s.Waits := (waits_reachable h).2
  unfold State.Waits at hw
  rintro ⟨hflusher, hcaller⟩
  rw [hflusher] at hw
  obtain hjoin | ⟨hwait, hfull⟩ := hcaller
  · -- at the join, only a thread still to be notified could wait
    rw [hjoin] at hw
    exact absurd (hw.stopped rfl rfl) nofun
  · rw [hfull] at hw
    obtain hempty | ⟨last, hnotify⟩ := hw.blocked rfl
    · cases hempty
    · obtain hc | hc := hwait
      · exact absurd (hc.symm.trans hnotify) nofun
      · exact absurd (hc.symm.trans hnotify) nofun

/-- `WriteHeader`, one message, and `Close` up to its notification; the
    flush thread has written the message. -/
def closeUntilStop : List Label :=
  [.writeHeader, .headerLock false, .headerWrite false, .writeMessage ⟨[97], 1, [1, 2]⟩, .close,
   .waitFlush, .swapLock true, .swap true, .notify true, .swapUnlock true, .loop, .lock, .test,
   .checkWriting, .checkEmpty, .chunkLock, .chunkHeader, .chunkBody, .clear, .unlock, .waitLast]

/-- The flush thread waits before it is told to stop. -/
def waitThenStop : List IoLabel :=
  (closeUntilStop ++ [Label.loop, .lock, .test, .block, .stop, .notifyAll, .relock, .test,
    .checkWriting, .join]).map .step

/-- The flush thread is told to stop between its test and its wait. -/
def stopThenWait : List IoLabel :=
  (closeUntilStop ++ [Label.loop, .lock, .test, .stop, .notifyAll, .block]).map .step

theorem close_not_hung_waitThenStop :
    ¬ Hung (((notifiedWriter Wire.protobuf .default).restrict NotifiesInTime).exec initial
      waitThenStop) :=
  close_not_hung Wire.protobuf .default _
    (System.reachable_exec ((notifiedWriter Wire.protobuf .default).restrict NotifiesInTime)
      (initial_init Wire.protobuf .default) waitThenStop (by decide +kernel))

/-- `Close` waits for a thread that nobody wakes. -/
theorem close_hung_stopThenWait :
    ¬ ∀ s, (notifiedWriter Wire.protobuf .default).Reachable s → ¬ Hung s := by
  intro h
  apply h ((notifiedWriter Wire.protobuf .default).exec initial stopThenWait)
  · exact System.reachable_exec (notifiedWriter Wire.protobuf .default)
      (initial_init Wire.protobuf .default) stopThenWait (by decide +kernel)
  · decide +kernel

end CyberRT.Record
