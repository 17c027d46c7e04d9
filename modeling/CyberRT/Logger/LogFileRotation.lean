import CyberRT.Framework.System
import CyberRT.Logger.AsyncLogger
import Mathlib.Algebra.Order.BigOperators.Group.List
import Mathlib.Algebra.Order.Ring.Nat

/-! # Log files of one log file object

    `LogFileObject::Write` opens a new file when there is none, when the
    current one has reached `max_log_size` megabytes and after a fork. The
    file's name ends in the time of the message, to the second, and is
    opened with `O_EXCL`; after a failure the next 31 messages are dropped
    before it is tried again. Once the disk is full, messages are dropped
    until the next flush is due.

    * Every call holds `lock_`, so it is one step. `stop_writing` is shared
      by all objects and set and cleared by the others at any time.
    * What `fwrite` has taken counts as written; `flushed` is the part of it
      that was handed to the system with success.
    * The rest is buffered. `fflush`, `fclose`, and an `fwrite` that fills the
      buffer, hand it to the system, which may refuse it, in part or all of
      it. What it refuses is gone, and nobody looks at the error.
    * The symbolic link to the newest file is left out, and what the other
      process writes into the file after a fork.

    `closed` (the files before the current one), `accepted` (the messages
    counted as written), `lost` (those of them that the system refused) and
    `unlinked` (the names removed from the directory) are history. -/

namespace CyberRT.Logger.LogFileRotation

open CyberRT.Framework

/-! ## Section 1: Files -/

/-- What is written with one `fwrite`; a message the disk had no room for
    may be there in part. -/
inductive Piece where
  | header (text : String)
  | line (entry : Entry)
  | torn (bytes : List UInt8)
  deriving DecidableEq

namespace Piece

/-- What `file_length_` counts of it. -/
def counted : Piece → Nat
  | .header text => text.utf8ByteSize
  | .line entry  => entry.message.length
  | .torn _      => 0

def entry? : Piece → Option Entry
  | .line entry => some entry
  | _           => none

def bytes : Piece → List UInt8
  | .header text => text.toUTF8.toList
  | .line entry  => entry.message
  | .torn bytes  => bytes

end Piece

/-- How much of the buffer the system took before it refused the rest: whole
    pieces, and bytes of the next one. -/
structure Refusal where
  pieces : Nat
  bytes  : Nat
  deriving DecidableEq

structure File where
  name    : String
  pieces  : List Piece
  flushed : Nat
  deriving DecidableEq

namespace File

def fwrite (file : File) (piece : Piece) : File := { file with pieces := file.pieces ++ [piece] }

def fflush (file : File) : File := { file with flushed := file.pieces.length }

/-- The messages in the file, whole ones only. -/
def entries (file : File) : List Entry := file.pieces.filterMap Piece.entry?

def unflushed (file : File) : List Piece := file.pieces.drop file.flushed

/-- What becomes of the pieces when the buffer is handed to the system. -/
def passOn (file : File) : Option Refusal → File
  | none         => file
  | some refusal =>
    { file with
      pieces := file.pieces.take (file.flushed + refusal.pieces) ++
        ((file.pieces.drop (file.flushed + refusal.pieces)).head?.map fun piece =>
          Piece.torn (piece.bytes.take refusal.bytes)).toList }

/-- The messages that are gone then. -/
def refused (file : File) : Option Refusal → List Entry
  | none         => []
  | some refusal => (file.pieces.drop (file.flushed + refusal.pieces)).filterMap Piece.entry?

def counted (pieces : List Piece) : Nat := (pieces.map Piece.counted).sum

end File

/-- `struct tm`. -/
structure Tm where
  year : Int
  mon  : Int
  mday : Int
  hour : Int
  min  : Int
  sec  : Int

/-- `setfill('0')` and `setw(2)`. -/
def setw2 (n : Int) : String :=
  if (toString n).length < 2 then "0" ++ toString n else toString n

def timePidString (tm : Tm) (pid : Int) : String :=
  toString (1900 + tm.year) ++ setw2 (1 + tm.mon) ++ setw2 tm.mday ++ "-" ++ setw2 tm.hour ++
    setw2 tm.min ++ setw2 tm.sec ++ "." ++ toString pid

def fileHeaderString (tm : Tm) (hostName : String) : String :=
  "Log file created at: " ++ toString (1900 + tm.year) ++ "/" ++ setw2 (1 + tm.mon) ++ "/" ++
    setw2 tm.mday ++ " " ++ setw2 tm.hour ++ ":" ++ setw2 tm.min ++ ":" ++ setw2 tm.sec ++ "\n" ++
    "Running on machine: " ++ hostName ++ "\n" ++
    "Log line format: [IWEF]mmdd hh:mm:ss.uuuuuu " ++ "threadid file:line] msg" ++ "\n"

/-- The values the source leaves to its surroundings. -/
structure Config where
  maxLogSizeFlag : Int
  logDirFlag     : String
  hostName       : String
  localtime      : Int → Tm
  /-- an entry of `LC_LOG_SEVERITY_NAMES` -/
  severityName   : String

namespace Config

def maxLogSize (cfg : Config) : Nat :=
  if 0 < cfg.maxLogSizeFlag then cfg.maxLogSizeFlag.toNat else 1

def getLoggingDirectories (cfg : Config) : List String :=
  if cfg.logDirFlag ≠ "" then [cfg.logDirFlag] else ["./"]

def header (cfg : Config) (timestamp : Int) : String :=
  fileHeaderString (cfg.localtime timestamp) cfg.hostName

end Config

/-- What the system answers during one `Write`. -/
structure Env where
  pidHasChanged : Bool
  mainThreadPid : Int
  /-- whether a file of this name can be created, if there is none -/
  creatable     : String → Bool
  /-- `ENOSPC`, and how much of the message was written before -/
  noSpace       : Option Nat
  /-- the two readings of `CycleClock_Now` -/
  now           : Int
  flushNow      : Int
  /-- what the system says to `fclose`, to the `fwrite` of the header and of
      the message, and to `fflush` -/
  closing       : Option Refusal
  heading       : Option Refusal
  writing       : Option Refusal
  flushing      : Option Refusal

/-! ## Section 2: Calls -/

structure State where
  baseFilename      : String
  filenameExtension : String
  file              : Option File
  fileLength        : Nat
  bytesSinceFlush   : Nat
  rolloverAttempt   : Nat
  nextFlushTime     : Int
  stopWriting       : Bool
  onDisk            : List String
  closed            : List File
  accepted          : List Entry
  lost              : List Entry
  unlinked          : List String

namespace State

/-- `LogFileObject::LogFileObject`. -/
def initial (baseFilename : String) (stopWriting : Bool) (onDisk : List String) : State where
  baseFilename      := baseFilename
  filenameExtension := ""
  file              := none
  fileLength        := 0
  bytesSinceFlush   := 0
  rolloverAttempt   := 31
  nextFlushTime     := 0
  stopWriting       := stopWriting
  onDisk            := onDisk
  closed            := []
  accepted          := []
  lost              := []
  unlinked          := []

/-- All files, in the order they were opened. -/
def files (s : State) : List File := s.closed ++ s.file.toList

/-- The buffer is handed to the system. -/
def passOn (s : State) (refusal : Option Refusal) : State :=
  { s with
    file := s.file.map (·.passOn refusal)
    lost := s.lost ++ s.file.toList.flatMap (·.refused refusal) }

def fclose (s : State) (refusal : Option Refusal) : State :=
  { s.passOn refusal with
    file   := none
    closed := s.closed ++ ((s.passOn refusal).file.map File.fflush).toList }

/-- It depends on the buffer whether something is handed to the system. -/
def fwrite (s : State) (piece : Piece) (refusal : Option Refusal) : State :=
  ({ s with file := s.file.map (·.fwrite piece) } : State).passOn refusal

def count (s : State) (n : Nat) : State :=
  { s with
    fileLength      := (s.fileLength + n) % 2 ^ 32
    bytesSinceFlush := (s.bytesSinceFlush + n) % 2 ^ 32 }

def flushUnlocked (s : State) (now : Int) (refusal : Option Refusal) : State :=
  if s.file = none then { s with nextFlushTime := now + 2000000 }
  else
    { s.passOn refusal with
      file            := (s.passOn refusal).file.map File.fflush
      bytesSinceFlush := 0
      nextFlushTime   := now + 2000000 }

/-- `SetBasename` and `SetExtension` get rid of the old file; the lengths
    stay. -/
def getRid (s : State) (refusal : Option Refusal) : State :=
  if s.file = none then s else { s.fclose refusal with rolloverAttempt := 31 }

def setBasename (s : State) (basename : String) (refusal : Option Refusal) : State :=
  if s.baseFilename ≠ basename then { s.getRid refusal with baseFilename := basename } else s

def setExtension (s : State) (ext : String) (refusal : Option Refusal) : State :=
  if s.filenameExtension ≠ ext then { s.getRid refusal with filenameExtension := ext } else s

/-- `Write`, the test of the length and of the process. -/
def rollOver (cfg : Config) (s : State) (env : Env) : State :=
  if cfg.maxLogSize ≤ s.fileLength / 2 ^ 20 ∨ env.pidHasChanged = true then
    { s.fclose env.closing with fileLength := 0, bytesSinceFlush := 0, rolloverAttempt := 31 }
  else s

/-- The name a file is created under in the directory `dir`. -/
def filename (cfg : Config) (s : State) (timestamp pid : Int) (dir : String) : String :=
  dir ++ "/" ++ s.baseFilename ++ ".log." ++ cfg.severityName ++ "." ++ s.filenameExtension ++
    timePidString (cfg.localtime timestamp) pid

def fdopen (s : State) (name : String) : State :=
  { s with file := some ⟨name, [], 0⟩, onDisk := name :: s.onDisk }

/-- `CreateLogfile`: `O_EXCL` fails on a name that is there. -/
def createLogfile (s : State) (creatable : String → Bool) (name : String) : Option State :=
  if name ∈ s.onDisk ∨ creatable name = false then none else some (s.fdopen name)

/-- The directories in turn, up to the first one it works in. -/
def createIn (s : State) (creatable : String → Bool) : List String → Option State
  | []            => none
  | name :: names =>
    match s.createLogfile creatable name with
    | some s' => some s'
    | none    => createIn s creatable names

def tryDirs (cfg : Config) (s : State) (timestamp : Int) (env : Env) : Option State :=
  s.createIn env.creatable
    (cfg.getLoggingDirectories.map (s.filename cfg timestamp env.mainThreadPid))

/-- `Write`, "If there's no destination file, make one before outputting". -/
def makeOne (cfg : Config) (s : State) (timestamp : Int) (env : Env) : State :=
  if s.file ≠ none then s
  else if (s.rolloverAttempt + 1) % 2 ^ 32 ≠ 32 then
    { s with rolloverAttempt := (s.rolloverAttempt + 1) % 2 ^ 32 }
  else
    match State.tryDirs cfg { s with rolloverAttempt := 0 } timestamp env with
    | none   => { s with rolloverAttempt := 0 }
    | some s =>
      (s.fwrite (.header (cfg.header timestamp)) env.heading).count
        (cfg.header timestamp).utf8ByteSize

def line (s : State) (entry : Entry) (refusal : Option Refusal) : State :=
  { (s.fwrite (.line entry) refusal).count entry.message.length with
    accepted := s.accepted ++ [entry] }

/-- `Write`, "Write to LOG file". -/
def output (s : State) (entry : Entry) (env : Env) : State :=
  if s.file = none then s
  else if s.stopWriting = true then
    if s.nextFlushTime ≤ env.now then { s with stopWriting := false } else s
  else
    match env.noSpace with
    | some n =>
      { s.fwrite (.torn (entry.message.take n)) env.writing with stopWriting := true }
    | none   =>
      if entry.shouldFlush = true ∨ 1000000 ≤ (s.line entry env.writing).bytesSinceFlush ∨
          s.nextFlushTime ≤ env.now then
        (s.line entry env.writing).flushUnlocked env.flushNow env.flushing
      else s.line entry env.writing

/-- `Write`. We don't log if the base name is empty. -/
def write (cfg : Config) (s : State) (entry : Entry) (env : Env) : State :=
  if s.baseFilename = "" then s
  else ((s.rollOver cfg env).makeOne cfg entry.ts env).output entry env

end State

inductive Label where
  | setBasename (basename : String) (refusal : Option Refusal)
  | setExtension (ext : String) (refusal : Option Refusal)
  | flush (now : Int) (refusal : Option Refusal)
  | write (entry : Entry) (env : Env)
  /-- another object finds the disk full, or tries again -/
  | others (stopWriting : Bool)
  /-- another process creates a file, or removes one -/
  | appear (name : String)
  | unlink (name : String)

/-- One log file object. A message's length is an `int`. -/
def logFile (cfg : Config) : System State Label where
  init s := ∃ baseFilename stopWriting onDisk, s = .initial baseFilename stopWriting onDisk
  action
    | .setBasename basename refusal => ⟨fun _ => True, fun s => s.setBasename basename refusal⟩
    | .setExtension ext refusal     => ⟨fun _ => True, fun s => s.setExtension ext refusal⟩
    | .flush now refusal            => ⟨fun _ => True, fun s => s.flushUnlocked now refusal⟩
    | .write entry env              =>
      ⟨fun _ => entry.message.length < 2 ^ 31, fun s => s.write cfg entry env⟩
    | .others stopWriting           =>
      ⟨fun _ => True, fun s => { s with stopWriting := stopWriting }⟩
    | .appear name                  =>
      ⟨fun _ => True, fun s => { s with onDisk := name :: s.onDisk }⟩
    | .unlink name                  =>
      ⟨fun _ => True, fun s =>
        { s with onDisk := s.onDisk.filter (· ≠ name), unlinked := name :: s.unlinked }⟩

instance decidableGate (cfg : Config) :
    ∀ (a : Label) (s : State), Decidable (((logFile cfg).action a).gate s)
  | .write entry _, _ => inferInstanceAs (Decidable (entry.message.length < 2 ^ 31))
  | .setBasename _ _, _ | .setExtension _ _, _ | .flush _ _, _ | .others _, _ | .appear _, _
  | .unlink _, _ => inferInstanceAs (Decidable True)

/-! ## Section 3: Pieces -/

namespace File

theorem entries_fwrite (file : File) (piece : Piece) :
    (file.fwrite piece).entries = file.entries ++ piece.entry?.toList := by
  simp only [entries, fwrite, List.filterMap_append]
  cases h : piece.entry? <;> simp [h]

theorem unflushed_fflush (file : File) : file.fflush.unflushed = [] := List.drop_length

/-- What is written is not flushed yet. -/
theorem unflushed_fwrite {file : File} (h : file.flushed ≤ file.pieces.length) (piece : Piece) :
    (file.fwrite piece).unflushed = file.unflushed ++ [piece] :=
  List.drop_append_of_le_length h

section passOn
variable (file : File) (refusal : Option Refusal)

theorem passOn_name : (file.passOn refusal).name = file.name := by
  cases refusal <;> rfl

theorem passOn_flushed : (file.passOn refusal).flushed = file.flushed := by
  cases refusal <;> rfl

/-- What the refusal leaves of the first piece that is gone. -/
def remnant (refusal : Refusal) : List Piece :=
  ((file.pieces.drop (file.flushed + refusal.pieces)).head?.map fun piece =>
    Piece.torn (piece.bytes.take refusal.bytes)).toList

theorem passOn_some (refusal : Refusal) : (file.passOn (some refusal)).pieces =
    file.pieces.take (file.flushed + refusal.pieces) ++ file.remnant refusal := rfl

theorem remnant_cases (refusal : Refusal) :
    (file.remnant refusal = [] ∧ file.pieces.length ≤ file.flushed + refusal.pieces) ∨
      (∃ bytes, file.remnant refusal = [.torn bytes]) ∧
        file.flushed + refusal.pieces < file.pieces.length := by
  rcases hrest : file.pieces.drop (file.flushed + refusal.pieces) with _ | ⟨piece, rest⟩
  · refine .inl ⟨?_, List.drop_eq_nil_iff.mp hrest⟩
    rw [remnant, hrest]
    rfl
  · refine .inr ⟨⟨piece.bytes.take refusal.bytes, ?_⟩, ?_⟩
    · rw [remnant, hrest]
      rfl
    · apply Nat.lt_of_not_le
      intro hle
      rw [List.drop_eq_nil_iff.mpr hle] at hrest
      cases hrest

/-- Every message is in the file still, or it is gone. -/
theorem entries_passOn : (file.passOn refusal).entries ++ file.refused refusal = file.entries := by
  cases refusal with
  | none => exact List.append_nil _
  | some refusal =>
    have hremnant : (file.remnant refusal).filterMap Piece.entry? = [] := by
      rcases file.remnant_cases refusal with ⟨hnil, -⟩ | ⟨⟨bytes, htorn⟩, -⟩
      · rw [hnil]
        rfl
      · rw [htorn]
        rfl
    rw [entries, passOn_some, List.filterMap_append, hremnant, List.append_nil, refused,
      ← List.filterMap_append, List.take_append_drop, entries]

variable {file}

theorem within_passOn (h : file.flushed ≤ file.pieces.length) :
    (file.passOn refusal).flushed ≤ (file.passOn refusal).pieces.length := by
  cases refusal with
  | none => exact h
  | some refusal =>
    rw [passOn_flushed, passOn_some, List.length_append, List.length_take]
    omega

theorem unflushed_passOn_some (h : file.flushed ≤ file.pieces.length) (refusal : Refusal) :
    (file.passOn (some refusal)).unflushed =
      file.unflushed.take refusal.pieces ++ file.remnant refusal := by
  have hlength : file.flushed ≤ (file.pieces.take (file.flushed + refusal.pieces)).length := by
    rw [List.length_take]
    omega
  rw [unflushed, passOn_some, passOn_flushed, List.drop_append_of_le_length hlength,
    List.drop_take, Nat.add_sub_cancel_left, unflushed]

end passOn

/-! ## Section 4: Files -/

/-- What was to be flushed at once is flushed, or gone. -/
structure Flushed (file : File) : Prop where
  within : file.flushed ≤ file.pieces.length
  forced : ∀ entry, .line entry ∈ file.unflushed → entry.shouldFlush = false

namespace Flushed

theorem of_fflush (file : File) : file.fflush.Flushed := by
  refine ⟨Nat.le_refl _, ?_⟩
  intro entry hentry
  rw [unflushed_fflush] at hentry
  cases hentry

theorem fwrite {file : File} (h : file.Flushed) {piece : Piece}
    (hforced : ∀ entry, piece = .line entry → entry.shouldFlush = false) :
    (file.fwrite piece).Flushed := by
  constructor
  · rw [File.fwrite, List.length_append]
    exact Nat.le_add_right_of_le h.within
  · intro entry hentry
    rw [unflushed_fwrite h.within, List.mem_append, List.mem_singleton] at hentry
    rcases hentry with hold | hnew
    · exact h.forced entry hold
    · exact hforced entry hnew.symm

theorem passOn {file : File} (h : file.Flushed) (refusal : Option Refusal) :
    (file.passOn refusal).Flushed := by
  refine ⟨within_passOn refusal h.within, ?_⟩
  cases refusal with
  | none => exact h.forced
  | some refusal =>
    intro entry hentry
    rw [unflushed_passOn_some h.within, List.mem_append] at hentry
    rcases hentry with htaken | hremnant
    · exact h.forced entry (List.mem_of_mem_take htaken)
    · rcases file.remnant_cases refusal with ⟨hnil, -⟩ | ⟨⟨bytes, htorn⟩, -⟩
      · rw [hnil] at hremnant
        cases hremnant
      · rw [htorn] at hremnant
        cases List.mem_singleton.mp hremnant

end Flushed

end File

/-- `max_log_size` in bytes. -/
def Config.maxBytes (cfg : Config) : Nat := cfg.maxLogSize * 2 ^ 20

/-- The names a file may not be created under again, unless they were
    removed. -/
structure Named (names onDisk unlinked : List String) : Prop where
  distinct : names.Pairwise fun a b => a = b → a ∈ unlinked
  present  : ∀ a ∈ names, a ∈ onDisk ∨ a ∈ unlinked

namespace Named
variable {names onDisk unlinked : List String}

theorem create (h : Named names onDisk unlinked) {name : String} (hname : name ∉ onDisk) :
    Named (names ++ [name]) (name :: onDisk) unlinked := by
  constructor
  · rw [List.pairwise_append]
    refine ⟨h.distinct, List.pairwise_singleton _ _, ?_⟩
    intro a ha b hb hab
    rw [List.mem_singleton] at hb
    rcases h.present a ha with hdisk | hunlinked
    · rw [hab, hb] at hdisk
      exact absurd hdisk hname
    · exact hunlinked
  · intro a ha
    rcases List.mem_append.mp ha with hold | hnew
    · exact (h.present a hold).imp_left (List.mem_cons_of_mem _)
    · rw [List.mem_singleton] at hnew
      exact .inl (hnew ▸ List.mem_cons_self)

theorem appear (h : Named names onDisk unlinked) (name : String) :
    Named names (name :: onDisk) unlinked :=
  ⟨h.distinct, fun a ha => (h.present a ha).imp_left (List.mem_cons_of_mem _)⟩

theorem unlink (h : Named names onDisk unlinked) (name : String) :
    Named names (onDisk.filter (· ≠ name)) (name :: unlinked) := by
  constructor
  · exact h.distinct.imp fun hab he => List.mem_cons_of_mem _ (hab he)
  · intro a ha
    by_cases hname : a = name
    · exact .inr (hname ▸ List.mem_cons_self)
    · rcases h.present a ha with hdisk | hunlinked
      · exact .inl (List.mem_filter.mpr ⟨hdisk, decide_eq_true hname⟩)
      · exact .inr (List.mem_cons_of_mem _ hunlinked)

end Named

/-! ## Section 5: Messages -/

/-- **Invariant** of the messages. -/
structure Inv (cfg : Config) (s : State) : Prop where
  order   : (s.files.flatMap File.entries).Sublist s.accepted
  whole   : (s.files.flatMap File.entries ++ s.lost).Perm s.accepted
  flushed : ∀ f ∈ s.files, f.Flushed
  named   : Named (s.files.map File.name) s.onDisk s.unlinked
  attempt : s.rolloverAttempt < 32
  tried   : s.file = none → s.rolloverAttempt ≠ 31 → s.fileLength < cfg.maxBytes

section messages
variable {cfg : Config} {s s' : State}

theorem files_of_some {f : File} (h : s.file = some f) : s.files = s.closed ++ [f] := by
  rw [State.files, h]
  rfl

theorem files_of_none (h : s.file = none) : s.files = s.closed := by
  rw [State.files, h]
  exact List.append_nil _

theorem Inv.current (h : Inv cfg s) {f : File} (hf : s.file = some f) : f.Flushed := by
  apply h.flushed
  rw [files_of_some hf]
  exact List.mem_append_right _ (List.mem_singleton_self f)

/-- Where nothing is lost the files have exactly the messages accepted. -/
theorem Inv.entries_eq (h : Inv cfg s) (hlost : s.lost = []) :
    s.files.flatMap File.entries = s.accepted := by
  apply h.order.eq_of_length
  have hlength := h.whole.length_eq
  rw [hlost, List.append_nil] at hlength
  exact hlength

/-- The files stay. -/
theorem Inv.congr (h : Inv cfg s) (hfiles : s'.files = s.files)
    (haccepted : s'.accepted = s.accepted) (hlost : s'.lost = s.lost)
    (hdisk : s'.onDisk = s.onDisk) (hunlinked : s'.unlinked = s.unlinked)
    (hattempt : s'.rolloverAttempt < 32)
    (htried : s'.file = none → s'.rolloverAttempt ≠ 31 → s'.fileLength < cfg.maxBytes) :
    Inv cfg s' := by
  refine ⟨?_, ?_, ?_, ?_, hattempt, htried⟩
  · rw [hfiles, haccepted]
    exact h.order
  · rw [hfiles, haccepted, hlost]
    exact h.whole
  · rw [hfiles]
    exact h.flushed
  · rw [hfiles, hdisk, hunlinked]
    exact h.named

/-- The last file changes: the messages `new` come to it, and `gone` are
    refused. -/
theorem Inv.change (h : Inv cfg s) {closed : List File} {f g : File} (new gone : List Entry)
    (hfiles : s.files = closed ++ [f]) (hfiles' : s'.files = closed ++ [g])
    (hname : g.name = f.name) (hflushed : g.Flushed)
    (haccepted : s'.accepted = s.accepted ++ new) (hlost : s'.lost.Perm (s.lost ++ gone))
    (hentries : g.entries ++ gone = f.entries ++ new) (hdisk : s'.onDisk = s.onDisk)
    (hunlinked : s'.unlinked = s.unlinked) (hattempt : s'.rolloverAttempt < 32)
    (htried : s'.file = none → s'.rolloverAttempt ≠ 31 → s'.fileLength < cfg.maxBytes) :
    Inv cfg s' := by
  have hold : s.files.flatMap File.entries = closed.flatMap File.entries ++ f.entries := by
    rw [hfiles, List.flatMap_append, List.flatMap_singleton]
  have hnow : s'.files.flatMap File.entries = closed.flatMap File.entries ++ g.entries := by
    rw [hfiles', List.flatMap_append, List.flatMap_singleton]
  refine ⟨?_, ?_, ?_, ?_, hattempt, htried⟩
  · have hinitial : g.entries.Sublist (f.entries ++ new) :=
      hentries ▸ List.sublist_append_left _ _
    have horder := h.order
    rw [hold] at horder
    rw [hnow, haccepted]
    apply (hinitial.append_left _).trans
    rw [← List.append_assoc]
    exact horder.append_right new
  · rw [List.perm_iff_count]
    intro entry
    have hwhole := h.whole.count_eq entry
    have hcount := congrArg (List.count entry) hentries
    have hgone := hlost.count_eq entry
    rw [hold] at hwhole
    rw [hnow, haccepted]
    simp only [List.count_append] at hwhole hcount hgone ⊢
    omega
  · intro x hx
    rw [hfiles', List.mem_append, List.mem_singleton] at hx
    rcases hx with hx | hx
    · apply h.flushed
      rw [hfiles]
      exact List.mem_append_left _ hx
    · rw [hx]
      exact hflushed
  · have hnamed := h.named
    rw [hfiles, List.map_append, List.map_singleton] at hnamed
    rw [hfiles', hdisk, hunlinked, List.map_append, List.map_singleton, hname]
    exact hnamed

theorem passOn_file {f : File} (hf : s.file = some f) (refusal : Option Refusal) :
    (s.passOn refusal).file = some (f.passOn refusal) := by
  rw [State.passOn, hf]
  rfl

theorem passOn_lost {f : File} (hf : s.file = some f) (refusal : Option Refusal) :
    (s.passOn refusal).lost = s.lost ++ f.refused refusal := by
  rw [State.passOn, hf]
  simp

theorem fwrite_file {f : File} (hf : s.file = some f) (piece : Piece)
    (refusal : Option Refusal) :
    (s.fwrite piece refusal).file = some ((f.fwrite piece).passOn refusal) := by
  rw [State.fwrite, State.passOn, hf]
  rfl

theorem fwrite_lost {f : File} (hf : s.file = some f) (piece : Piece)
    (refusal : Option Refusal) :
    (s.fwrite piece refusal).lost = s.lost ++ (f.fwrite piece).refused refusal := by
  rw [State.fwrite, State.passOn, hf]
  simp

theorem files_fclose_none (hf : s.file = none) (refusal : Option Refusal) :
    (s.fclose refusal).files = s.files ∧ (s.fclose refusal).lost = s.lost := by
  have hlost : (s.fclose refusal).lost = s.lost := by
    simp [State.fclose, State.passOn, hf]
  refine ⟨?_, hlost⟩
  rw [files_of_none hf, files_of_none rfl]
  simp [State.fclose, State.passOn, hf]

theorem files_fclose_some {f : File} (hf : s.file = some f) (refusal : Option Refusal) :
    (s.fclose refusal).files = s.closed ++ [(f.passOn refusal).fflush] ∧
      (s.fclose refusal).lost = s.lost ++ f.refused refusal := by
  refine ⟨?_, passOn_lost hf refusal⟩
  rw [files_of_none rfl, State.fclose, passOn_file hf]
  rfl

/-- The current file, if there is one, is closed, and the next `Write` is to
    open another. -/
theorem Inv.fclose (h : Inv cfg s) (refusal : Option Refusal)
    (hfiles : s'.files = (s.fclose refusal).files) (hlost : s'.lost = (s.fclose refusal).lost)
    (haccepted : s'.accepted = s.accepted) (hdisk : s'.onDisk = s.onDisk)
    (hunlinked : s'.unlinked = s.unlinked) (hattempt : s'.rolloverAttempt = 31) :
    Inv cfg s' := by
  have hlt : s'.rolloverAttempt < 32 := by
    rw [hattempt]
    decide
  have htried : s'.file = none → s'.rolloverAttempt ≠ 31 → s'.fileLength < cfg.maxBytes :=
    fun _ hne => absurd hattempt hne
  rcases hf : s.file with _ | f
  · obtain ⟨hsame, hkept⟩ := files_fclose_none hf refusal
    exact h.congr (hfiles.trans hsame) haccepted (hlost.trans hkept) hdisk hunlinked hlt htried
  · obtain ⟨hclosed, hgone⟩ := files_fclose_some hf refusal
    refine h.change [] (f.refused refusal) (files_of_some hf) (hfiles.trans hclosed)
      (f.passOn_name refusal) (.of_fflush _) ?_ (.of_eq (hlost.trans hgone)) ?_ hdisk hunlinked hlt
      htried
    · rw [haccepted, List.append_nil]
    · rw [List.append_nil]
      exact f.entries_passOn refusal

theorem createLogfile_eq_some {creatable : String → Bool} {name : String}
    (h : s.createLogfile creatable name = some s') :
    name ∉ s.onDisk ∧ s' = s.fdopen name := by
  rw [State.createLogfile] at h
  split at h
  · cases h
  · next hfree => exact ⟨fun hmem => hfree (.inl hmem), (Option.some.inj h).symm⟩

/-- The new file has a name that was not there. -/
theorem createIn_eq_some {creatable : String → Bool} {names : List String}
    (h : s.createIn creatable names = some s') :
    ∃ name, name ∉ s.onDisk ∧ s' = s.fdopen name := by
  induction names with
  | nil => cases h
  | cons name names ih =>
    rw [State.createIn] at h
    split at h
    · next hcreated =>
      cases h
      exact ⟨name, createLogfile_eq_some hcreated⟩
    · exact ih h

theorem maxLogSize_pos (cfg : Config) : 0 < cfg.maxLogSize := by
  rw [Config.maxLogSize]
  split
  · omega
  · decide

theorem maxBytes_ge (cfg : Config) : 2 ^ 20 ≤ cfg.maxBytes := by
  have hpos := maxLogSize_pos cfg
  rw [Config.maxBytes]
  omega

/-- Whatever the lengths were, there is room now. -/
theorem rollOver_length (cfg : Config) (s : State) (env : Env) :
    (s.rollOver cfg env).fileLength < cfg.maxBytes := by
  have hmax := maxBytes_ge cfg
  rw [State.rollOver]
  split
  · show 0 < cfg.maxBytes
    omega
  · next hstays =>
    have hbelow : s.fileLength / 2 ^ 20 < cfg.maxLogSize :=
      Nat.lt_of_not_le fun hle => hstays (.inl hle)
    rw [Config.maxBytes]
    omega

theorem Inv.rollOver (h : Inv cfg s) (env : Env) : Inv cfg (s.rollOver cfg env) := by
  rw [State.rollOver]
  split
  · exact h.fclose env.closing rfl rfl rfl rfl rfl rfl
  · exact h

/-- A new file has its header, or what the system took of it. -/
def newFile (name text : String) (refusal : Option Refusal) : File :=
  (File.fwrite ⟨name, [], 0⟩ (.header text)).passOn refusal

theorem newFile_entries (name text : String) (refusal : Option Refusal) :
    (newFile name text refusal).entries = [] ∧
      (File.fwrite ⟨name, [], 0⟩ (.header text)).refused refusal = [] :=
  List.append_eq_nil_iff.mp
    ((File.fwrite ⟨name, [], 0⟩ (.header text)).entries_passOn refusal)

theorem newFile_flushed (name text : String) (refusal : Option Refusal) :
    (newFile name text refusal).Flushed := by
  apply File.Flushed.passOn
  refine ⟨Nat.zero_le _, ?_⟩
  intro entry hentry
  cases List.mem_singleton.mp hentry

/-- The state with a new file. -/
theorem Inv.created (h : Inv cfg s) (name text : String) (refusal : Option Refusal)
    (hname : name ∉ s.onDisk) (hfiles : s'.files = s.files ++ [newFile name text refusal])
    (haccepted : s'.accepted = s.accepted) (hlost : s'.lost = s.lost)
    (hdisk : s'.onDisk = name :: s.onDisk) (hunlinked : s'.unlinked = s.unlinked)
    (hattempt : s'.rolloverAttempt = 0) (hfile : s'.file ≠ none) : Inv cfg s' := by
  have hentries : s'.files.flatMap File.entries = s.files.flatMap File.entries := by
    rw [hfiles, List.flatMap_append, List.flatMap_singleton, (newFile_entries name text refusal).1,
      List.append_nil]
  refine ⟨?_, ?_, ?_, ?_, ?_, fun hnone => absurd hnone hfile⟩
  · rw [hentries, haccepted]
    exact h.order
  · rw [hentries, haccepted, hlost]
    exact h.whole
  · intro x hx
    rw [hfiles, List.mem_append, List.mem_singleton] at hx
    rcases hx with hold | hnew
    · exact h.flushed x hold
    · rw [hnew]
      exact newFile_flushed name text refusal
  · rw [hfiles, hdisk, hunlinked, List.map_append, List.map_singleton, newFile,
      File.passOn_name]
    exact h.named.create hname
  · rw [hattempt]
    decide

/-- What `Write` has before it comes to the message: the file it had, one more
    attempt, or a new file. -/
inductive Makes (cfg : Config) (s : State) (timestamp : Int) (env : Env) (s' : State) : Prop where
  | there (hfile : s.file ≠ none) (hsame : s' = s)
  | waits (attempt : Nat) (hfile : s.file = none) (hlt : attempt < 32)
      (hsame : s' = { s with rolloverAttempt := attempt })
  | opens (name : String) (hfile : s.file = none) (hname : name ∉ s.onDisk)
      (hsame : s' = ((({ s with rolloverAttempt := 0 } : State).fdopen name).fwrite
        (.header (cfg.header timestamp)) env.heading).count (cfg.header timestamp).utf8ByteSize)

theorem makes_makeOne (hattempt : s.rolloverAttempt < 32) (timestamp : Int) (env : Env) :
    Makes cfg s timestamp env (s.makeOne cfg timestamp env) := by
  rw [State.makeOne]
  split
  · next hfile => exact .there hfile rfl
  next hfile =>
  rw [Classical.not_not] at hfile
  split
  · exact .waits _ hfile (by omega) rfl
  split
  · exact .waits 0 hfile (by decide) rfl
  · next t hcreated =>
    obtain ⟨name, hname, rfl⟩ := createIn_eq_some hcreated
    exact .opens name hfile hname rfl

theorem created_file (s : State) (name text : String) (refusal : Option Refusal) (n : Nat) :
    (((({ s with rolloverAttempt := 0 } : State).fdopen name).fwrite (.header text)
      refusal).count n).file = some (newFile name text refusal) := rfl

theorem created_lost (s : State) (name text : String) (refusal : Option Refusal) (n : Nat) :
    (((({ s with rolloverAttempt := 0 } : State).fdopen name).fwrite (.header text)
      refusal).count n).lost = s.lost := by
  have hnew : (({ s with rolloverAttempt := 0 } : State).fdopen name).file =
      some ⟨name, [], 0⟩ := rfl
  have hlost := fwrite_lost hnew (.header text) refusal
  rw [(newFile_entries name text refusal).2, List.append_nil] at hlost
  exact hlost

/-- A file is there already, or it is made, or the message is dropped. -/
theorem Inv.makeOne (h : Inv cfg s) (hbelow : s.fileLength < cfg.maxBytes) (timestamp : Int)
    (env : Env) : Inv cfg (s.makeOne cfg timestamp env) := by
  have hmakes : Makes cfg s timestamp env (s.makeOne cfg timestamp env) :=
    makes_makeOne h.attempt timestamp env
  rcases hmakes with
    ⟨hfile, hsame⟩ | ⟨attempt, hfile, hlt, hsame⟩ | ⟨name, hfile, hname, hsame⟩
  · rw [hsame]
    exact h
  · rw [hsame]
    exact h.congr rfl rfl rfl rfl rfl hlt fun _ _ => hbelow
  · rw [hsame]
    refine h.created name (cfg.header timestamp) env.heading hname ?_ rfl (created_lost _ _ _ _ _)
      rfl rfl rfl (Option.some_ne_none _)
    rw [files_of_none hfile, files_of_some (created_file _ _ _ _ _)]
    rfl

/-- Something is added to the current file. -/
theorem Inv.fwrite (h : Inv cfg s) {f : File} (hf : s.file = some f) {piece : Piece}
    (refusal : Option Refusal)
    (hforced : ∀ entry, piece = .line entry → entry.shouldFlush = false)
    (hfile : s'.file = (s.fwrite piece refusal).file) (hclosed : s'.closed = s.closed)
    (haccepted : s'.accepted = s.accepted ++ piece.entry?.toList)
    (hlost : s'.lost = (s.fwrite piece refusal).lost) (hdisk : s'.onDisk = s.onDisk)
    (hunlinked : s'.unlinked = s.unlinked) (hattempt : s'.rolloverAttempt = s.rolloverAttempt) :
    Inv cfg s' := by
  have hsome := hfile.trans (fwrite_file hf piece refusal)
  have hfiles' : s'.files = s.closed ++ [(f.fwrite piece).passOn refusal] := by
    rw [files_of_some hsome, hclosed]
  refine h.change piece.entry?.toList _ (files_of_some hf) hfiles' ?_ ?_ haccepted
    (.of_eq (hlost.trans (fwrite_lost hf piece refusal))) ?_ hdisk hunlinked
    (hattempt ▸ h.attempt) ?_
  · exact File.passOn_name _ refusal
  · exact ((h.current hf).fwrite hforced).passOn refusal
  · rw [File.entries_passOn, File.entries_fwrite]
  · intro hnone
    rw [hsome] at hnone
    cases hnone

theorem flushUnlocked_some {f : File} (hf : s.file = some f) (now : Int)
    (refusal : Option Refusal) : s.flushUnlocked now refusal =
      { s.passOn refusal with
        file            := some (f.passOn refusal).fflush
        bytesSinceFlush := 0
        nextFlushTime   := now + 2000000 } := by
  rw [State.flushUnlocked, if_neg (by rw [hf]; exact Option.some_ne_none f), passOn_file hf]
  rfl

theorem flushUnlocked_none (hf : s.file = none) (now : Int) (refusal : Option Refusal) :
    s.flushUnlocked now refusal = { s with nextFlushTime := now + 2000000 } := by
  rw [State.flushUnlocked, if_pos hf]

theorem Inv.flushUnlocked (h : Inv cfg s) (now : Int) (refusal : Option Refusal) :
    Inv cfg (s.flushUnlocked now refusal) := by
  rcases hf : s.file with _ | f
  · rw [flushUnlocked_none hf]
    exact h.congr rfl rfl rfl rfl rfl h.attempt h.tried
  · rw [flushUnlocked_some hf]
    refine h.change [] (f.refused refusal) (files_of_some hf) (files_of_some rfl)
      (f.passOn_name refusal) (.of_fflush _) (List.append_nil _).symm
      (.of_eq (passOn_lost hf refusal)) ?_ rfl rfl h.attempt ?_
    · rw [List.append_nil]
      exact f.entries_passOn refusal
    · intro hnone
      cases hnone

/-- A message that is flushed at once. What is to be flushed need not be
    before. -/
theorem Inv.line_flushUnlocked (h : Inv cfg s) {f : File} (hf : s.file = some f) (entry : Entry)
    (writing flushing : Option Refusal) (now : Int) :
    Inv cfg ((s.line entry writing).flushUnlocked now flushing) := by
  have hfile : (s.line entry writing).file = some ((f.fwrite (.line entry)).passOn writing) :=
    fwrite_file hf _ _
  have hlost : (s.line entry writing).lost =
      s.lost ++ (f.fwrite (.line entry)).refused writing := fwrite_lost hf _ _
  rw [flushUnlocked_some hfile]
  -- the second refusal takes what is before the first one
  refine h.change [entry] (((f.fwrite (.line entry)).passOn writing).refused flushing ++
      (f.fwrite (.line entry)).refused writing) (files_of_some hf)
    (files_of_some rfl) ?_ (.of_fflush _) rfl ?_ ?_ rfl rfl h.attempt ?_
  · exact (File.passOn_name _ flushing).trans (File.passOn_name _ writing)
  · have hboth := passOn_lost hfile flushing
    rw [hlost, List.append_assoc] at hboth
    exact (List.Perm.of_eq hboth).trans (.append_left _ List.perm_append_comm)
  · rw [← List.append_assoc]
    show (((f.fwrite (.line entry)).passOn writing).passOn flushing).entries ++ _ ++ _ = _
    rw [File.entries_passOn, File.entries_passOn, File.entries_fwrite]
    rfl
  · intro hnone
    cases hnone

/-- The message is written, or there is no room for it. -/
theorem Inv.output (h : Inv cfg s) (entry : Entry) (env : Env) :
    Inv cfg (s.output entry env) := by
  rw [State.output]
  split
  · exact h
  next hfile =>
  obtain ⟨f, hf⟩ := Option.ne_none_iff_exists'.mp hfile
  split
  · split
    · exact h.congr rfl rfl rfl rfl rfl h.attempt h.tried
    · exact h
  split
  · refine h.fwrite hf env.writing ?_ rfl rfl (List.append_nil _).symm rfl rfl rfl rfl
    intro entry' hentry
    cases hentry
  split
  · exact h.line_flushUnlocked hf entry env.writing env.flushing env.flushNow
  · next hno =>
    refine h.fwrite hf env.writing ?_ rfl rfl rfl rfl rfl rfl rfl
    intro entry' hentry
    cases hentry
    exact Bool.eq_false_iff.mpr fun hforced => hno (.inl hforced)

theorem Inv.write (h : Inv cfg s) (entry : Entry) (env : Env) :
    Inv cfg (s.write cfg entry env) := by
  rw [State.write]
  split
  · exact h
  · exact ((h.rollOver env).makeOne (rollOver_length cfg s env) entry.ts env).output entry env

theorem Inv.getRid (h : Inv cfg s) (refusal : Option Refusal) : Inv cfg (s.getRid refusal) := by
  rw [State.getRid]
  split
  · exact h
  · exact h.fclose refusal rfl rfl rfl rfl rfl rfl

/-- **Step lemma**. -/
theorem Inv.step (h : Inv cfg s) (a : Label) : Inv cfg (((logFile cfg).action a).effect s) := by
  cases a with
  | setBasename basename refusal =>
    show Inv cfg (s.setBasename basename refusal)
    rw [State.setBasename]
    have hrid := h.getRid refusal
    split
    · exact hrid.congr rfl rfl rfl rfl rfl hrid.attempt hrid.tried
    · exact h
  | setExtension ext refusal =>
    show Inv cfg (s.setExtension ext refusal)
    rw [State.setExtension]
    have hrid := h.getRid refusal
    split
    · exact hrid.congr rfl rfl rfl rfl rfl hrid.attempt hrid.tried
    · exact h
  | flush now refusal => exact h.flushUnlocked now refusal
  | write entry env => exact h.write entry env
  | others stopWriting => exact h.congr rfl rfl rfl rfl rfl h.attempt h.tried
  | appear name => exact ⟨h.order, h.whole, h.flushed, h.named.appear name, h.attempt, h.tried⟩
  | unlink name => exact ⟨h.order, h.whole, h.flushed, h.named.unlink name, h.attempt, h.tried⟩

theorem inv_init (hi : (logFile cfg).init s) : Inv cfg s := by
  obtain ⟨baseFilename, stopWriting, onDisk, rfl⟩ := hi
  have hattempt : 31 < 32 := by decide
  refine ⟨.refl [], .refl [], ?_, ⟨.nil, ?_⟩, hattempt, fun _ htried => absurd rfl htried⟩
  · intro f hf
    cases hf
  · intro name hname
    cases hname

/-- **Run lemma**. -/
theorem inv_reachable (h : (logFile cfg).Reachable s) : Inv cfg s :=
  System.invariant (fun _ => inv_init) (fun _ a hs _ => hs.step a) h

end messages

/-- A host with its clock at noon. -/
def noon : Config where
  maxLogSizeFlag := 1
  logDirFlag     := ""
  hostName       := "pi"
  localtime      := fun _ => ⟨124, 4, 1, 12, 0, 0⟩
  severityName   := "info"

/-- Nothing is in the way. -/
def Env.free : Env := ⟨false, 77, fun _ => true, none, 0, 0, none, none, none, none⟩

end CyberRT.Logger.LogFileRotation
