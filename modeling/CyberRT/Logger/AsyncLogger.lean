import CyberRT.Framework.System

/-! # Asynchronous logger

    `Write` adds a message to the active buffer; the logger thread swaps the
    two buffers and hands the messages of the other one to the log file
    objects of their modules. `Flush` waits until the thread has gone round
    twice, `Stop` until it has left its loop.

    Every section that holds `mutex_` is one step, and so is every message
    the logger thread hands over outside of it. A wait on a condition
    variable may end at any time. There is one `Stop`, and any number of
    `Write`s and `Flush`es; `accepted` and `output` are history: the messages
    added to a buffer, and those handed over, as they were added. -/

namespace CyberRT.Logger

open CyberRT.Framework

/-! ## Section 1: Buffers -/

structure Msg where
  ts      : Int
  message : List UInt8
  level   : Int
  deriving DecidableEq

structure Buffer where
  messages : List Msg
  size     : Int32
  flush    : Bool
  deriving DecidableEq

/-- The values the source leaves to its surroundings. -/
structure Config where
  maxBufferBytes : Int32
  sizeofMsg      : Nat
  processGroup   : List UInt8

/-- `max_buffer_bytes_`, as the constructor sets it. -/
def Config.maxBytes (cfg : Config) : Int32 :=
  if cfg.maxBufferBytes ≤ 0 then 2 * 1024 * 1024 else cfg.maxBufferBytes

namespace Buffer

def empty : Buffer := ⟨[], 0, false⟩

def clear (_ : Buffer) : Buffer := ⟨[], 0, false⟩

def add (cfg : Config) (buf : Buffer) (msg : Msg) (forceFlush : Bool) : Buffer where
  messages := buf.messages ++ [msg]
  size     := buf.size + (Int32.ofNat cfg.sizeofMsg + Int32.ofNat msg.message.length)
  flush    := buf.flush || forceFlush

def needsFlushOrWrite (buf : Buffer) : Bool := buf.flush || !buf.messages.isEmpty

/-- `BufferFull`: the bytes are divided evenly into the two buffers. -/
def full (cfg : Config) (buf : Buffer) : Bool := decide (cfg.maxBytes / 2 < buf.size)

end Buffer

/-- The level `Write` reads off the first character of the message. -/
def levelOf (c : UInt8) : Int :=
  if c = 70 then 3        -- 'F'
  else if c = 69 then 2   -- 'E'
  else if c = 87 then 1   -- 'W'
  else if c = 73 then 0   -- 'I'
  else -1

/-! ## Section 2: Log file objects -/

/-- What is cut out of a message: the first '[' and what follows it up to
    the next ']'. -/
def findBrackets (logMessage : List UInt8) : Option (Nat × Nat) :=
  match logMessage.findIdx? (· = 91) with
  | none      => none
  | some lpos =>
    match (logMessage.drop lpos).findIdx? (· = 93) with
    | none   => none
    | some d => some (lpos, lpos + d)

/-- `FindModuleName`: the message without the module name, and the module. -/
def findModuleName (cfg : Config) (logMessage : List UInt8) : List UInt8 × List UInt8 :=
  let (logMessage, moduleName) := match findBrackets logMessage with
    | none              => (logMessage, [])
    | some (lpos, rpos) =>
      (logMessage.take lpos ++ logMessage.drop (rpos + 1),
        (logMessage.drop (lpos + 1)).take (rpos - lpos - 1))
  if moduleName = [] then (logMessage, cfg.processGroup) else (logMessage, moduleName)

/-- The arguments of `LogFileObject::Write`. -/
structure Entry where
  shouldFlush : Bool
  ts          : Int
  message     : List UInt8
  deriving DecidableEq

/-- What was written to a log file object, and how much of it was written
    before it was last flushed. -/
structure LogFileObject where
  writes  : List Entry
  flushed : Nat
  deriving DecidableEq

namespace LogFileObject

def new : LogFileObject := ⟨[], 0⟩

def flush (file : LogFileObject) : LogFileObject := { file with flushed := file.writes.length }

def write (file : LogFileObject) (entry : Entry) : LogFileObject :=
  let file := { file with writes := file.writes ++ [entry] }
  if entry.shouldFlush then file.flush else file

end LogFileObject

def Msg.moduleName (cfg : Config) (msg : Msg) : List UInt8 := (findModuleName cfg msg.message).2

def Msg.entry (cfg : Config) (msg : Msg) : Entry :=
  ⟨decide (msg.level > 0), msg.ts, (findModuleName cfg msg.message).1⟩

/-! ## Section 3: State -/

inductive RunState where
  | initted | running | stopped
  deriving DecidableEq

/-- Where the logger thread stands: it has not been made, it is about to
    lock `mutex_` for the first time, it waits, it is about to hand over the
    message at `i`, to clear the buffer, to lock `mutex_` again, or it has
    left `RunThread`. -/
inductive LoggerPc where
  | unborn
  | started
  | waiting
  | output (i : Nat)
  | clear
  | relock
  | exited
  deriving DecidableEq

/-- A call of `Flush`: `n` is the number of messages accepted before it,
    `running` whether it has returned while the state was `RUNNING`. -/
inductive FlusherPc where
  | idle
  | waiting (origFlushCount n : Nat)
  | returned (n : Nat) (running : Bool)
  deriving DecidableEq

/-- The call of `Stop`, and the values of its two checks. -/
inductive StopperPc where
  | idle
  | joining
  | checked (active flushing : Bool)
  deriving DecidableEq

/-- `flushCount` has 64 bits, "enough to never worry about overflow". -/
structure State where
  state           : RunState
  active          : Buffer
  flushing        : Buffer
  flushCount      : Nat
  moduleLoggerMap : List UInt8 → Option LogFileObject
  logger          : LoggerPc
  flushers        : Nat → FlusherPc
  stopper         : StopperPc
  accepted        : List Msg
  output          : List Msg

namespace State

variable (s : State)

/-- The log file object of a module. -/
def file (moduleName : List UInt8) : LogFileObject :=
  (s.moduleLoggerMap moduleName).getD .new

/-! ## Section 4: Operations -/

def swap : State :=
  { s with active := s.flushing, flushing := s.active, logger := .output 0 }

/-- The inner loop of `RunThread`, up to its next wait. -/
def waitLoop : State :=
  if s.active.needsFlushOrWrite = false ∧ s.state = .running then { s with logger := .waiting }
  else s.swap

/-- The outer loop of `RunThread`. -/
def loop : State :=
  if s.state = .running ∨ s.active.needsFlushOrWrite = true then s.waitLoop
  else { s with logger := .exited }

def requestFlush : State := { s with active := { s.active with flush := true } }

def setFlusher (f : Nat) (pc : FlusherPc) : State :=
  { s with flushers := Function.update s.flushers f pc }

/-- `Write`: `message` are the bytes the pointer leads to. -/
def write (cfg : Config) (forceFlush : Bool) (ts : Int) (message : List UInt8) (messageLen : Nat) :
    State :=
  -- the message is dropped
  if s.active.full cfg = true then s
  else if s.state ≠ .running then s
  else
    let msg : Msg := ⟨ts, message.take messageLen, levelOf (message.headD 0)⟩
    { s with active := s.active.add cfg msg forceFlush, accepted := s.accepted ++ [msg] }

/-- The loop of `Flush`, up to its next wait. -/
def flushLoop (f origFlushCount n : Nat) : State :=
  if s.flushCount < origFlushCount + 2 ∧ s.state = .running then
    s.requestFlush.setFlusher f (.waiting origFlushCount n)
  else s.setFlusher f (.returned n (decide (s.state = .running)))

/-- One message of the loop over the flushing buffer. -/
def outputMsg (cfg : Config) (i : Nat) (msg : Msg) : State :=
  let (message, moduleName) := findModuleName cfg msg.message
  let fileobject := (s.file moduleName).write ⟨decide (msg.level > 0), msg.ts, message⟩
  { s with
    -- the name is cut out of the buffered message itself
    flushing := { s.flushing with messages := s.flushing.messages.set i { msg with message } }
    moduleLoggerMap := Function.update s.moduleLoggerMap moduleName (some fileobject)
    logger := .output (i + 1)
    output := s.output ++ [msg] }

/-- The end of the loop over the flushing buffer. -/
def flushFiles : State :=
  if s.flushing.flush = true then
    { s with moduleLoggerMap := fun m => (s.moduleLoggerMap m).map .flush, logger := .clear }
  else { s with logger := .clear }

end State

/-! ## Section 5: Model -/

inductive Label where
  | start
  | write (forceFlush : Bool) (ts : Int) (message : List UInt8) (messageLen : Nat)
  | flush (f : Nat)
  | flushWake (f origFlushCount n : Nat)
  | stop
  | join
  | enter
  | wake
  | timeout
  | output (i : Nat) (msg : Msg)
  | flushFiles (i : Nat)
  | clear
  | relock

/-- The steps of `RunThread`. -/
def Label.isLogger : Label → Bool
  | .enter | .wake | .timeout | .output _ _ | .flushFiles _ | .clear | .relock => true
  | _ => false

def asyncLogger (cfg : Config) : System State Label where
  init := fun s =>
    s.state = .initted ∧ s.active = .empty ∧ s.flushing = .empty ∧ s.flushCount = 0 ∧
    (∀ m, s.moduleLoggerMap m = none) ∧ s.logger = .unborn ∧ (∀ f, s.flushers f = .idle) ∧
    s.stopper = .idle ∧ s.accepted = [] ∧ s.output = []
  action := fun
    -- a failed `CHECK` ends the process
    | .start =>
      { gate   := fun s => s.state = .initted
        effect := fun s => { s with state := .running, logger := .started } }
    | .write forceFlush ts message messageLen =>
      { gate   := fun _ => True
        effect := fun s => s.write cfg forceFlush ts message messageLen }
    | .flush f =>
      { gate   := fun s => s.flushers f = .idle
        effect := fun s =>
          if s.state ≠ .running then s.setFlusher f (.returned s.accepted.length false)
          else s.flushLoop f s.flushCount s.accepted.length }
    | .flushWake f origFlushCount n =>
      { gate   := fun s => s.flushers f = .waiting origFlushCount n
        effect := fun s => s.flushLoop f origFlushCount n }
    | .stop =>
      { gate   := fun s => s.stopper = .idle ∧ s.state = .running
        effect := fun s => { s with state := .stopped, stopper := .joining } }
    | .join =>
      { gate   := fun s => s.stopper = .joining ∧ s.logger = .exited
        effect := fun s =>
          { s with
            stopper := .checked s.active.messages.isEmpty s.flushing.messages.isEmpty } }
    | .enter =>
      { gate   := fun s => s.logger = .started
        effect := fun s => s.loop }
    | .wake =>
      { gate   := fun s => s.logger = .waiting
        effect := fun s => s.waitLoop }
    | .timeout =>
      { gate   := fun s => s.logger = .waiting
        effect := fun s => s.requestFlush.waitLoop }
    | .output i msg =>
      { gate   := fun s => s.logger = .output i ∧ s.flushing.messages[i]? = some msg
        effect := fun s => s.outputMsg cfg i msg }
    | .flushFiles i =>
      { gate   := fun s => s.logger = .output i ∧ s.flushing.messages[i]? = none
        effect := fun s => s.flushFiles }
    | .clear =>
      { gate   := fun s => s.logger = .clear
        effect := fun s => { s with flushing := s.flushing.clear, logger := .relock } }
    | .relock =>
      { gate   := fun s => s.logger = .relock
        effect := fun s => { s with flushCount := s.flushCount + 1 }.loop }

instance decidableGate (cfg : Config) :
    ∀ (a : Label) (s : State), Decidable (((asyncLogger cfg).action a).gate s)
  | .start, s           => inferInstanceAs (Decidable (s.state = _))
  | .write _ _ _ _, _   => inferInstanceAs (Decidable True)
  | .flush f, s         => inferInstanceAs (Decidable (s.flushers f = _))
  | .flushWake f _ _, s => inferInstanceAs (Decidable (s.flushers f = _))
  | .stop, s            => inferInstanceAs (Decidable (s.stopper = _ ∧ s.state = _))
  | .join, s            => inferInstanceAs (Decidable (s.stopper = _ ∧ s.logger = _))
  | .enter, s           => inferInstanceAs (Decidable (s.logger = _))
  | .wake, s            => inferInstanceAs (Decidable (s.logger = _))
  | .timeout, s         => inferInstanceAs (Decidable (s.logger = _))
  | .output i msg, s    =>
    inferInstanceAs (Decidable (s.logger = _ ∧ s.flushing.messages[i]? = some msg))
  | .flushFiles i, s    =>
    inferInstanceAs (Decidable (s.logger = _ ∧ s.flushing.messages[i]? = none))
  | .clear, s           => inferInstanceAs (Decidable (s.logger = _))
  | .relock, s          => inferInstanceAs (Decidable (s.logger = _))

end CyberRT.Logger
