import CyberRT.Logger.AsyncLogger

/-! # The two buffers of the asynchronous logger

    * **Turns**: how the logger thread goes on when it has `mutex_`.
    * **Buffers**: what was accepted is what was handed over, the rest of the
      flushing buffer and the active buffer, in this order.
    * **Files**: the log file object of a module holds what was handed over
      of the module, in this order. -/

namespace CyberRT.Logger

open CyberRT.Framework

variable {cfg : Config} {s : State}

/-! ## Section 1: Turns -/

theorem Buffer.needsFlushOrWrite_eq_false {buf : Buffer} :
    buf.needsFlushOrWrite = false ↔ buf.flush = false ∧ buf.messages = [] := by
  simp [Buffer.needsFlushOrWrite]

/-- The thread waits, swaps the buffers, or leaves its loop. -/
inductive Turn (s : State) : State → Prop where
  | wait : s.active.flush = false → s.active.messages = [] → s.state = .running →
      Turn s { s with logger := .waiting }
  | swap : Turn s s.swap
  | exit : s.active.flush = false → s.active.messages = [] → s.state ≠ .running →
      Turn s { s with logger := .exited }

theorem turn_waitLoop (s : State) : Turn s s.waitLoop := by
  unfold State.waitLoop
  split
  · next h =>
    obtain ⟨hflush, hmessages⟩ := Buffer.needsFlushOrWrite_eq_false.mp h.1
    exact .wait hflush hmessages h.2
  · exact .swap

theorem turn_loop (s : State) : Turn s s.loop := by
  unfold State.loop
  split
  · exact turn_waitLoop s
  · next h =>
    obtain ⟨hstate, hneeds⟩ := not_or.mp h
    obtain ⟨hflush, hmessages⟩ := Buffer.needsFlushOrWrite_eq_false.mp (eq_false_of_ne_true hneeds)
    exact .exit hflush hmessages hstate

/-! ## Section 2: Buffers -/

/-- What the logger thread has not handed over yet of the buffer it is at. -/
def State.rest (s : State) : List Msg :=
  match s.logger with
  | .output i => s.flushing.messages.drop i
  | _         => []

/-- The accepted messages that were not handed over. -/
def State.unwritten (s : State) : List Msg := s.rest ++ s.active.messages

/-- The logger thread is at the flushing buffer. -/
def LoggerPc.busy : LoggerPc → Bool
  | .output _ | .clear => true
  | _ => false

theorem State.rest_eq_nil (h : s.logger.busy = false) : s.rest = [] := by
  unfold State.rest
  cases hpc : s.logger with
  | output i =>
    rw [hpc] at h
    cases h
  | _ => rfl

/-- **Invariant**: no message is lost or duplicated between `Write` and the
    log file objects. -/
structure Buffers (s : State) : Prop where
  flow    : s.accepted = s.output ++ s.unwritten
  idle    : s.logger.busy = false → s.flushing.messages = [] ∧ s.flushing.flush = false
  unborn  : s.logger = .unborn → s.state = .initted ∧ s.accepted = []
  born    : s.logger ≠ .unborn → s.state ≠ .initted
  exited  : s.logger = .exited → s.state = .stopped ∧ s.active.messages = []
  checked : ∀ a b, s.stopper = .checked a b → a = true ∧ b = true

namespace Buffers

/-- A step that leaves the buffers and the logger thread as they are. -/
theorem congr (h : Buffers s) {s' : State} (hstate : s'.state = s.state)
    (hactive : s'.active.messages = s.active.messages) (hflushing : s'.flushing = s.flushing)
    (hlogger : s'.logger = s.logger) (hstopper : s'.stopper = s.stopper)
    (haccepted : s'.accepted = s.accepted) (houtput : s'.output = s.output) : Buffers s' where
  flow    := by
    rw [haccepted, houtput, h.flow]
    unfold State.unwritten State.rest
    rw [hlogger, hflushing, hactive]
  idle    := by
    rw [hlogger, hflushing]
    exact h.idle
  unborn  := by
    rw [hlogger, hstate, haccepted]
    exact h.unborn
  born    := by
    rw [hlogger, hstate]
    exact h.born
  exited  := by
    rw [hlogger, hstate, hactive]
    exact h.exited
  checked := by
    rw [hstopper]
    exact h.checked

theorem requestFlush (h : Buffers s) : Buffers s.requestFlush :=
  h.congr rfl rfl rfl rfl rfl rfl rfl

theorem flushLoop (h : Buffers s) (f origFlushCount n : Nat) :
    Buffers (s.flushLoop f origFlushCount n) := by
  unfold State.flushLoop
  split <;> exact h.congr rfl rfl rfl rfl rfl rfl rfl

theorem write (h : Buffers s) (forceFlush : Bool) (ts : Int) (message : List UInt8)
    (messageLen : Nat) : Buffers (s.write cfg forceFlush ts message messageLen) := by
  unfold State.write
  split
  · exact h
  · split
    · exact h
    · next hrunning =>
      have hstate : s.state = .running := not_not.mp hrunning
      constructor
      · -- the message goes to the end of both lists
        show s.accepted ++ [_] = s.output ++ (s.rest ++ (s.active.messages ++ [_]))
        rw [h.flow, State.unwritten, List.append_assoc, List.append_assoc]
      · exact h.idle
      · intro hpc
        have hinit := (h.unborn hpc).1
        rw [hstate] at hinit
        cases hinit
      · exact h.born
      · intro hpc
        have hstopped := (h.exited hpc).1
        rw [hstate] at hstopped
        cases hstopped
      · exact h.checked

/-- The thread has `mutex_`, and is not at the flushing buffer. -/
theorem turn (h : Buffers s) (hbusy : s.logger.busy = false) (hborn : s.logger ≠ .unborn)
    {s' : State} (hturn : Turn s s') : Buffers s' := by
  obtain ⟨hmessages, _⟩ := h.idle hbusy
  have hrest : s.rest = [] := State.rest_eq_nil hbusy
  have hflow : s.accepted = s.output ++ s.active.messages := by
    rw [h.flow, State.unwritten, hrest, List.nil_append]
  cases hturn with
  | wait _ _ hstate =>
    exact ⟨hflow, fun _ => h.idle hbusy, nofun, fun _ => h.born hborn, nofun, h.checked⟩
  | swap =>
    refine ⟨?_, nofun, nofun, fun _ => h.born hborn, nofun, h.checked⟩
    -- the whole of the active buffer is to be handed over, and the other one is empty
    show s.accepted = s.output ++ (s.active.messages ++ s.flushing.messages)
    rw [hmessages, List.append_nil]
    exact hflow
  | exit _ hactive hstate =>
    refine ⟨hflow, fun _ => h.idle hbusy, nofun, fun _ => h.born hborn, fun _ => ⟨?_, hactive⟩,
      h.checked⟩
    cases hrun : s.state with
    | initted => exact absurd hrun (h.born hborn)
    | running => exact absurd hrun hstate
    | stopped => rfl

theorem outputMsg (h : Buffers s) {i : Nat} {msg : Msg} (hpc : s.logger = .output i)
    (hmsg : s.flushing.messages[i]? = some msg) : Buffers (s.outputMsg cfg i msg) := by
  obtain ⟨hi, hget⟩ := List.getElem?_eq_some_iff.mp hmsg
  have hrest : s.rest = s.flushing.messages.drop i := by rw [State.rest, hpc]
  refine ⟨?_, nofun, nofun, fun _ => h.born (by rw [hpc]; nofun), nofun, h.checked⟩
  -- what is cut out of the message at `i` is in front of the rest
  show s.accepted = (s.output ++ [msg]) ++
    ((s.flushing.messages.set i _).drop (i + 1) ++ s.active.messages)
  rw [List.drop_set_of_lt (Nat.lt_succ_self i), h.flow, State.unwritten, hrest,
    List.drop_eq_getElem_cons hi, hget]
  simp only [List.cons_append, List.append_assoc, List.nil_append]

theorem flushFiles (h : Buffers s) {i : Nat} (hpc : s.logger = .output i)
    (hend : s.flushing.messages[i]? = none) : Buffers s.flushFiles := by
  have hrest : s.rest = [] := by
    rw [State.rest, hpc]
    exact List.drop_eq_nil_of_le (List.getElem?_eq_none_iff.mp hend)
  have hflow : s.accepted = s.output ++ s.active.messages := by
    rw [h.flow, State.unwritten, hrest, List.nil_append]
  have hborn : s.logger ≠ .unborn := by
    rw [hpc]
    nofun
  unfold State.flushFiles
  split <;> exact ⟨hflow, nofun, nofun, fun _ => h.born hborn, nofun, h.checked⟩

theorem clear (h : Buffers s) (hpc : s.logger = .clear) :
    Buffers { s with flushing := s.flushing.clear, logger := .relock } := by
  have hrest : s.rest = [] := by rw [State.rest, hpc]
  refine ⟨?_, fun _ => ⟨rfl, rfl⟩, nofun, fun _ => h.born (by rw [hpc]; nofun), nofun, h.checked⟩
  show s.accepted = s.output ++ s.active.messages
  rw [h.flow, State.unwritten, hrest, List.nil_append]

end Buffers

/-- **Step lemma**, buffers. -/
theorem buffers_step (a : Label) (h : Buffers s) (hg : ((asyncLogger cfg).action a).gate s) :
    Buffers (((asyncLogger cfg).action a).effect s) := by
  cases a with
  | start =>
    have hstate : s.state = .initted := hg
    have hpc : s.logger = .unborn := by
      by_contra hborn
      exact h.born hborn hstate
    have hrest : s.rest = [] := State.rest_eq_nil (by rw [hpc]; rfl)
    refine ⟨?_, fun _ => h.idle (by rw [hpc]; rfl), nofun, nofun, nofun, h.checked⟩
    show s.accepted = s.output ++ s.active.messages
    rw [h.flow, State.unwritten, hrest, List.nil_append]
  | write forceFlush ts message messageLen => exact h.write forceFlush ts message messageLen
  | flush f =>
    show Buffers (if _ then _ else _)
    split
    · exact h.congr rfl rfl rfl rfl rfl rfl rfl
    · exact h.flushLoop f _ _
  | flushWake f origFlushCount n => exact h.flushLoop f origFlushCount n
  | stop =>
    obtain ⟨_, hstate⟩ := hg
    have hborn : s.logger ≠ .unborn := fun hpc => by
      have hinit := (h.unborn hpc).1
      rw [hstate] at hinit
      cases hinit
    exact ⟨h.flow, h.idle, fun hpc => absurd hpc hborn, nofun,
      fun hpc => ⟨rfl, (h.exited hpc).2⟩, nofun⟩
  | join =>
    obtain ⟨_, hpc⟩ := hg
    refine ⟨h.flow, h.idle, h.unborn, h.born, h.exited, fun a b hchecked => ?_⟩
    cases hchecked
    -- the logger thread has left both buffers empty
    obtain ⟨hmessages, _⟩ := h.idle (by rw [hpc]; rfl)
    exact ⟨List.isEmpty_iff.mpr (h.exited hpc).2, List.isEmpty_iff.mpr hmessages⟩
  | enter =>
    have hpc : s.logger = .started := hg
    exact h.turn (by rw [hpc]; rfl) (by rw [hpc]; nofun) (turn_loop s)
  | wake =>
    have hpc : s.logger = .waiting := hg
    exact h.turn (by rw [hpc]; rfl) (by rw [hpc]; nofun) (turn_waitLoop s)
  | timeout =>
    have hpc : s.requestFlush.logger = .waiting := hg
    exact h.requestFlush.turn (by rw [hpc]; rfl) (by rw [hpc]; nofun) (turn_waitLoop _)
  | output i msg => exact h.outputMsg hg.1 hg.2
  | flushFiles i => exact h.flushFiles hg.1 hg.2
  | clear => exact h.clear hg
  | relock =>
    have hpc : s.logger = .relock := hg
    have hcount : Buffers { s with flushCount := s.flushCount + 1 } :=
      h.congr rfl rfl rfl rfl rfl rfl rfl
    exact hcount.turn (by rw [hpc]; rfl) (by rw [hpc]; nofun) (turn_loop _)

/-- **Run lemma**, buffers. -/
theorem buffers_reachable (h : (asyncLogger cfg).Reachable s) : Buffers s := by
  refine System.invariant ?_ (fun s a => buffers_step a) h
  rintro s ⟨hstate, hactive, hflushing, _, _, hpc, _, hstopper, haccepted, houtput⟩
  constructor
  · rw [haccepted, houtput, State.unwritten, State.rest_eq_nil (by rw [hpc]; rfl), hactive]
    rfl
  · rw [hflushing]
    exact fun _ => ⟨rfl, rfl⟩
  · exact fun _ => ⟨hstate, haccepted⟩
  · exact fun hborn => absurd hpc hborn
  · rw [hpc]
    nofun
  · rw [hstopper]
    nofun

/-! ## Section 3: Files -/

/-- What a list of messages comes to for a module. -/
def entries (cfg : Config) (moduleName : List UInt8) (messages : List Msg) : List Entry :=
  (messages.filter fun msg => msg.moduleName cfg = moduleName).map (·.entry cfg)

theorem entries_append (moduleName : List UInt8) (xs ys : List Msg) :
    entries cfg moduleName (xs ++ ys) = entries cfg moduleName xs ++ entries cfg moduleName ys := by
  unfold entries
  rw [List.filter_append, List.map_append]

theorem entries_self (msg : Msg) : entries cfg (msg.moduleName cfg) [msg] = [msg.entry cfg] := by
  simp [entries]

theorem entries_of_ne {msg : Msg} {moduleName : List UInt8}
    (hne : msg.moduleName cfg ≠ moduleName) : entries cfg moduleName [msg] = [] := by
  simp [entries, hne]

/-- The messages of a prefix come first. -/
theorem prefix_entries_take (moduleName : List UInt8) (n : Nat) (messages : List Msg) :
    entries cfg moduleName (messages.take n) <+: entries cfg moduleName messages :=
  ((List.take_prefix n messages).filter _).map _

@[simp] theorem LogFileObject.writes_write (file : LogFileObject) (entry : Entry) :
    (file.write entry).writes = file.writes ++ [entry] := by
  unfold LogFileObject.write
  dsimp only
  split <;> rfl

/-- The part of a log file object that was flushed grows. -/
theorem LogFileObject.flushed_le_write {file : LogFileObject} {entry : Entry} {k : Nat}
    (h : k ≤ file.flushed) (hk : k ≤ file.writes.length) : k ≤ (file.write entry).flushed := by
  unfold LogFileObject.write
  dsimp only
  split
  · show k ≤ (file.writes ++ [entry]).length
    rw [List.length_append]
    omega
  · exact h

namespace State

variable {i : Nat} {msg : Msg}

theorem file_outputMsg_self :
    (s.outputMsg cfg i msg).file (msg.moduleName cfg) =
      (s.file (msg.moduleName cfg)).write (msg.entry cfg) := by
  show (Function.update s.moduleLoggerMap (msg.moduleName cfg) _ (msg.moduleName cfg)).getD .new = _
  rw [Function.update_self]
  rfl

theorem file_outputMsg_of_ne {moduleName : List UInt8} (hne : msg.moduleName cfg ≠ moduleName) :
    (s.outputMsg cfg i msg).file moduleName = s.file moduleName := by
  show (Function.update s.moduleLoggerMap (msg.moduleName cfg) _ moduleName).getD .new = _
  rw [Function.update_of_ne (Ne.symm hne)]
  rfl

theorem file_flushFiles (moduleName : List UInt8) :
    s.flushFiles.file moduleName =
      if s.flushing.flush = true then (s.file moduleName).flush else s.file moduleName := by
  unfold State.flushFiles
  split
  · show ((s.moduleLoggerMap moduleName).map _).getD .new =
      ((s.moduleLoggerMap moduleName).getD _).flush
    -- a module without a file object has nothing to flush
    cases s.moduleLoggerMap moduleName with
    | none => rfl
    | some file => rfl
  · rfl

theorem writes_flushFiles (moduleName : List UInt8) :
    (s.flushFiles.file moduleName).writes = (s.file moduleName).writes := by
  rw [file_flushFiles]
  split <;> rfl

end State

/-- **Invariant**: the log file objects hold what was handed over. -/
def Files (cfg : Config) (s : State) : Prop :=
  ∀ moduleName, (s.file moduleName).writes = entries cfg moduleName s.output

theorem Files.outputMsg (h : Files cfg s) (i : Nat) (msg : Msg) :
    Files cfg (s.outputMsg cfg i msg) := by
  intro moduleName
  show _ = entries cfg moduleName (s.output ++ [msg])
  rw [entries_append, ← h moduleName]
  by_cases hm : msg.moduleName cfg = moduleName
  · subst hm
    rw [State.file_outputMsg_self, LogFileObject.writes_write, entries_self]
  · rw [State.file_outputMsg_of_ne hm, entries_of_ne hm, List.append_nil]

theorem Files.turn (h : Files cfg s) {s' : State} (hturn : Turn s s') : Files cfg s' := by
  cases hturn with
  | wait | swap | exit => exact h

/-- **Step lemma**, files. -/
theorem files_step (a : Label) (h : Files cfg s) :
    Files cfg (((asyncLogger cfg).action a).effect s) := by
  cases a with
  | write forceFlush ts message messageLen =>
    show Files cfg (s.write cfg forceFlush ts message messageLen)
    unfold State.write
    split
    · exact h
    · split <;> exact h
  | flush f =>
    show Files cfg (if _ then _ else _)
    split
    · exact h
    · unfold State.flushLoop
      split <;> exact h
  | flushWake f origFlushCount n =>
    show Files cfg (s.flushLoop f origFlushCount n)
    unfold State.flushLoop
    split <;> exact h
  | enter => exact h.turn (turn_loop s)
  | wake => exact h.turn (turn_waitLoop s)
  | timeout => exact Files.turn (s := s.requestFlush) h (turn_waitLoop _)
  | relock => exact Files.turn (s := { s with flushCount := s.flushCount + 1 }) h (turn_loop _)
  | output i msg => exact h.outputMsg i msg
  | flushFiles i =>
    intro moduleName
    refine (State.writes_flushFiles moduleName).trans ((h moduleName).trans ?_)
    show _ = entries cfg moduleName s.flushFiles.output
    unfold State.flushFiles
    split <;> rfl
  | start | stop | join | clear => exact h

/-- **Run lemma**, files. -/
theorem files_reachable (h : (asyncLogger cfg).Reachable s) : Files cfg s := by
  refine System.invariant ?_ (fun s a hs _ => files_step a hs) h
  rintro s ⟨_, _, _, _, hmap, _, _, _, _, houtput⟩ moduleName
  rw [State.file, hmap, houtput]
  rfl

end CyberRT.Logger
