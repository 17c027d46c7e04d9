import CyberRT.Logger.LogFileRotation
import CyberRT.Logger.LoggerBuffers

/-! # What becomes of the messages

    * **Dropped**: a failure to open a file costs the message and the 31
      after it, whatever else is called meanwhile. A file that reaches its
      maximal length within the second it was opened in is such a failure:
      the name of the next one is there already.
    * **Kept**: where nothing is in the way, every other message is kept.
    * **Refinement**: a log file object that nothing is in the way of, and
      whose buffer the system takes, is one as the asynchronous logger takes
      it to be.

    None of this depends on the maximal length, nor on that of the header. -/

namespace CyberRT.Logger.LogFileRotation

open CyberRT.Framework

/-! ## Section 1: Messages to be dropped -/

theorem flushUnlocked_file (s : State) (now : Int) (refusal : Option Refusal) :
    (s.flushUnlocked now refusal).file = s.file.map fun f => (f.passOn refusal).fflush := by
  rcases hf : s.file with _ | f
  · rw [flushUnlocked_none hf]
    exact hf
  · rw [flushUnlocked_some hf]
    rfl

theorem flushUnlocked_accepted (s : State) (now : Int) (refusal : Option Refusal) :
    (s.flushUnlocked now refusal).accepted = s.accepted := by
  rw [State.flushUnlocked]
  split
  · rfl
  · rfl

/-- How many messages are dropped before a file is opened. -/
def State.owed (s : State) : Nat := if s.file = none then 31 - s.rolloverAttempt else 0

def Label.messages : Label → List Entry
  | .write entry _ => [entry]
  | _              => []

def written (as : List Label) : List Entry := as.flatMap Label.messages

/-- Some directory has no file of the name yet, and one can be created. -/
def State.Creatable (cfg : Config) (s : State) (timestamp : Int) (env : Env) : Prop :=
  ∃ dir ∈ cfg.getLoggingDirectories,
    s.filename cfg timestamp env.mainThreadPid dir ∉ s.onDisk ∧
      env.creatable (s.filename cfg timestamp env.mainThreadPid dir) = true

/-- A `Write` is to open a file. -/
def State.IsToOpen (cfg : Config) (s : State) (env : Env) : Prop :=
  (s.file = none ∧ s.owed = 0) ∨ cfg.maxLogSize ≤ s.fileLength / 2 ^ 20 ∨ env.pidHasChanged = true

/-- No fork has been noticed. -/
def SamePid (_ : State) : Label → Prop
  | .write _ env => env.pidHasChanged = false
  | _            => True

/-- Nothing is in the way of a message. -/
def Works (cfg : Config) (s : State) : Label → Prop
  | .write entry env => s.baseFilename ≠ "" ∧ env.pidHasChanged = false ∧ env.noSpace = none ∧
      s.stopWriting = false ∧ (s.IsToOpen cfg env → s.Creatable cfg entry.ts env)
  | _ => True

instance decidableCreatable (cfg : Config) (s : State) (timestamp : Int) (env : Env) :
    Decidable (s.Creatable cfg timestamp env) :=
  inferInstanceAs (Decidable (∃ dir ∈ cfg.getLoggingDirectories, _ ∧ _))

instance decidableIsToOpen (cfg : Config) (s : State) (env : Env) :
    Decidable (s.IsToOpen cfg env) := inferInstanceAs (Decidable ((_ ∧ _) ∨ _ ∨ _))

instance decidableWorks (cfg : Config) (s : State) : ∀ a, Decidable (Works cfg s a)
  | .write _ _ => inferInstanceAs (Decidable (_ ∧ _ ∧ _ ∧ _ ∧ (_ → _)))
  | .setBasename _ _ | .setExtension _ _ | .flush _ _ | .others _ | .appear _ | .unlink _ =>
    inferInstanceAs (Decidable True)

section steps
variable {cfg : Config} {s s' : State}

theorem owed_of_none (h : s.file = none) : s.owed = 31 - s.rolloverAttempt := if_pos h

theorem owed_of_ne (h : s.file ≠ none) : s.owed = 0 := if_neg h

theorem file_of_owed (h : 0 < s.owed) : s.file = none := by
  by_contra hfile
  rw [owed_of_ne hfile] at h
  exact Nat.lt_irrefl 0 h

/-- Messages to be dropped only count the attempts. -/
theorem write_owed (h : Inv cfg s) (howed : 0 < s.owed) (hbase : s.baseFilename ≠ "")
    (entry : Entry) {env : Env} (hpid : env.pidHasChanged = false) :
    (s.write cfg entry env).accepted = s.accepted ∧
      (s.write cfg entry env).owed = s.owed - 1 := by
  have hnone := file_of_owed howed
  rw [owed_of_none hnone] at howed ⊢
  have hlength := h.tried hnone (by omega)
  have hrollOver : s.rollOver cfg env = s := by
    rw [State.rollOver, if_neg]
    rintro (hlong | hforked)
    · rw [Config.maxBytes] at hlength
      omega
    · rw [hpid] at hforked
      cases hforked
  have hmakeOne : s.makeOne cfg entry.ts env =
      { s with rolloverAttempt := s.rolloverAttempt + 1 } := by
    have hnext : (s.rolloverAttempt + 1) % 2 ^ 32 = s.rolloverAttempt + 1 := by omega
    rw [State.makeOne, if_neg (not_not_intro hnone), hnext, if_pos (by omega)]
  have hwrite : s.write cfg entry env = { s with rolloverAttempt := s.rolloverAttempt + 1 } := by
    rw [State.write, if_neg hbase, hrollOver, hmakeOne, State.output]
    exact if_pos hnone
  rw [hwrite]
  refine ⟨rfl, (owed_of_none ?_).trans (Nat.sub_sub 31 s.rolloverAttempt 1).symm⟩
  exact hnone

/-- The directories in turn: none of them works. -/
theorem createIn_eq_none_iff {creatable : String → Bool} {names : List String} :
    s.createIn creatable names = none ↔
      ∀ name ∈ names, name ∈ s.onDisk ∨ creatable name = false := by
  induction names with
  | nil =>
    constructor
    · intro _ name hname
      cases hname
    · intro _
      rfl
  | cons name names ih =>
    rw [State.createIn, List.forall_mem_cons, State.createLogfile]
    by_cases hname : name ∈ s.onDisk ∨ creatable name = false
    · rw [if_pos hname]
      exact ih.trans (and_iff_right hname).symm
    · rw [if_neg hname]
      constructor
      · intro hsome
        cases hsome
      · intro hall
        exact absurd hall.1 hname

theorem tryDirs_eq_none_iff {timestamp : Int} {env : Env} :
    s.tryDirs cfg timestamp env = none ↔ ¬ s.Creatable cfg timestamp env := by
  rw [State.tryDirs, createIn_eq_none_iff, List.forall_mem_map, State.Creatable]
  constructor
  · rintro hall ⟨dir, hdir, hfree, hcreatable⟩
    rcases hall dir hdir with hdisk | hfalse
    · exact hfree hdisk
    · rw [hcreatable] at hfalse
      cases hfalse
  · intro hno dir hdir
    by_contra hfree
    rw [not_or, Bool.not_eq_false] at hfree
    exact hno ⟨dir, hdir, hfree⟩

/-- What `Write` comes to the message with, if it is to open a file. -/
structure Opens (cfg : Config) (s : State) (env : Env) (t : State) : Prop where
  rolled   : t = s.rollOver cfg env
  file     : t.file = none
  attempt  : t.rolloverAttempt = 31
  accepted : t.accepted = s.accepted
  stop     : t.stopWriting = s.stopWriting
  names    : ∀ timestamp, t.Creatable cfg timestamp env ↔ s.Creatable cfg timestamp env

theorem opens_rollOver (h : Inv cfg s) {env : Env} (hopen : s.IsToOpen cfg env) :
    Opens cfg s env (s.rollOver cfg env) := by
  by_cases hrolls : cfg.maxLogSize ≤ s.fileLength / 2 ^ 20 ∨ env.pidHasChanged = true
  · refine ⟨rfl, ?_, ?_, ?_, ?_, ?_⟩
    all_goals simp only [State.rollOver, if_pos hrolls]
    · rfl
    · rfl
    · rfl
    · exact fun timestamp => Iff.rfl
  · have hsame : s.rollOver cfg env = s := if_neg hrolls
    obtain ⟨hfile, howed⟩ := hopen.resolve_right hrolls
    have hattempt := h.attempt
    rw [owed_of_none hfile] at howed
    rw [hsame]
    exact ⟨hsame.symm, hfile, by omega, rfl, rfl, fun timestamp => Iff.rfl⟩

/-- The 32nd attempt. -/
theorem attempt_eq (hattempt : s.rolloverAttempt = 31) :
    ¬ (s.rolloverAttempt + 1) % 2 ^ 32 ≠ 32 := by
  rw [hattempt]
  decide

/-- A `Write` that is to open a file and cannot: the message is dropped, and
    so are the next 31. -/
theorem write_failed {t : State} {env : Env} (ht : Opens cfg s env t)
    (hbase : s.baseFilename ≠ "") {entry : Entry} (hno : ¬ s.Creatable cfg entry.ts env) :
    (s.write cfg entry env).accepted = s.accepted ∧ (s.write cfg entry env).owed = 31 := by
  have hnone : State.tryDirs cfg { t with rolloverAttempt := 0 } entry.ts env = none :=
    tryDirs_eq_none_iff.mpr fun hc => hno ((ht.names entry.ts).mp hc)
  have hmakeOne : t.makeOne cfg entry.ts env = { t with rolloverAttempt := 0 } := by
    rw [State.makeOne, if_neg (not_not_intro ht.file), if_neg (attempt_eq ht.attempt), hnone]
  have hwrite : s.write cfg entry env = { t with rolloverAttempt := 0 } := by
    rw [State.write, if_neg hbase, ← ht.rolled, hmakeOne, State.output]
    exact if_pos ht.file
  rw [hwrite]
  exact ⟨ht.accepted, owed_of_none ht.file⟩

/-- What `Write` comes to the message with, if nothing is in the way. -/
theorem made_works (h : Inv cfg s) (howed : s.owed = 0) {entry : Entry} {env : Env}
    (hok : Works cfg s (.write entry env)) :
    ∃ f, ((s.rollOver cfg env).makeOne cfg entry.ts env).file = some f ∧
      ((s.rollOver cfg env).makeOne cfg entry.ts env).accepted = s.accepted ∧
      ((s.rollOver cfg env).makeOne cfg entry.ts env).stopWriting = false := by
  obtain ⟨-, -, -, hstop, hcreatable⟩ := hok
  by_cases hopen : s.IsToOpen cfg env
  · have hopens := opens_rollOver h hopen
    have htries : ∃ t, State.tryDirs cfg
        { s.rollOver cfg env with rolloverAttempt := 0 } entry.ts env = some t := by
      rw [← Option.ne_none_iff_exists']
      intro hnone
      exact tryDirs_eq_none_iff.mp hnone ((hopens.names entry.ts).mpr (hcreatable hopen))
    obtain ⟨t, ht⟩ := htries
    obtain ⟨name, -, rfl⟩ := createIn_eq_some ht
    rw [State.makeOne, if_neg (not_not_intro hopens.file), if_neg (attempt_eq hopens.attempt), ht]
    exact ⟨_, rfl, hopens.accepted, hopens.stop.trans hstop⟩
  · rw [State.IsToOpen, not_or] at hopen
    have hfile : s.file ≠ none := fun hnone => hopen.1 ⟨hnone, howed⟩
    have hsame : s.rollOver cfg env = s := if_neg hopen.2
    obtain ⟨f, hf⟩ := Option.ne_none_iff_exists'.mp hfile
    rw [hsame, State.makeOne, if_pos hfile]
    exact ⟨f, hf, rfl, hstop⟩

theorem output_works {f : File} (hf : s.file = some f) (hstop : s.stopWriting = false)
    (entry : Entry) {env : Env} (hspace : env.noSpace = none) : s.output entry env =
      if entry.shouldFlush = true ∨ 1000000 ≤ (s.line entry env.writing).bytesSinceFlush ∨
          s.nextFlushTime ≤ env.now then
        (s.line entry env.writing).flushUnlocked env.flushNow env.flushing
      else s.line entry env.writing := by
  have hfile : s.file ≠ none := Option.ne_none_iff_exists'.mpr ⟨f, hf⟩
  have hstops : ¬ s.stopWriting = true := by
    rw [hstop]
    exact Bool.false_ne_true
  rw [State.output, if_neg hfile, if_neg hstops, hspace]

/-- Nothing is in the way: the message is kept. -/
theorem write_works (h : Inv cfg s) (howed : s.owed = 0) {entry : Entry} {env : Env}
    (hok : Works cfg s (.write entry env)) :
    (s.write cfg entry env).accepted = s.accepted ++ [entry] ∧
      (s.write cfg entry env).owed = 0 := by
  obtain ⟨f, hf, haccepted, hstop⟩ := made_works h howed hok
  rw [State.write, if_neg hok.1, output_works hf hstop entry hok.2.2.1]
  generalize (s.rollOver cfg env).makeOne cfg entry.ts env = t at hf haccepted ⊢
  have hgrows : (t.line entry env.writing).file ≠ none :=
    Option.ne_none_iff_exists'.mpr ⟨_, fwrite_file hf (.line entry) env.writing⟩
  split
  · refine ⟨?_, owed_of_ne fun hnone => ?_⟩
    · rw [flushUnlocked_accepted, State.line, haccepted]
    · rw [flushUnlocked_file] at hnone
      exact hgrows (Option.map_eq_none_iff.mp hnone)
  · exact ⟨congrArg (· ++ [entry]) haccepted, owed_of_ne hgrows⟩

/-! ## Section 2: Runs -/

/-- Getting rid of a file makes the next `Write` open one. -/
theorem getRid_owed (s : State) (refusal : Option Refusal) : (s.getRid refusal).owed = s.owed := by
  rw [State.getRid]
  split
  · rfl
  · next hfile =>
    rw [owed_of_ne hfile]
    exact owed_of_none rfl

theorem getRid_accepted (s : State) (refusal : Option Refusal) :
    (s.getRid refusal).accepted = s.accepted := by
  rw [State.getRid]
  split
  · rfl
  · rfl

theorem owed_congr (hfile : s'.file = s.file) (hattempt : s'.rolloverAttempt = s.rolloverAttempt) :
    s'.owed = s.owed := by
  rw [State.owed, State.owed, hfile, hattempt]

/-- Only a `Write` adds messages and counts attempts. -/
theorem others_step (cfg : Config) (s : State) (a : Label) (hnone : a.messages = []) :
    (((logFile cfg).action a).effect s).accepted = s.accepted ∧
      (((logFile cfg).action a).effect s).owed = s.owed := by
  cases a with
  | setBasename basename refusal =>
    show (s.setBasename basename refusal).accepted = _ ∧ (s.setBasename basename refusal).owed = _
    rw [State.setBasename]
    split
    · exact ⟨getRid_accepted s refusal, (owed_congr rfl rfl).trans (getRid_owed s refusal)⟩
    · exact ⟨rfl, rfl⟩
  | setExtension ext refusal =>
    show (s.setExtension ext refusal).accepted = _ ∧ (s.setExtension ext refusal).owed = _
    rw [State.setExtension]
    split
    · exact ⟨getRid_accepted s refusal, (owed_congr rfl rfl).trans (getRid_owed s refusal)⟩
    · exact ⟨rfl, rfl⟩
  | flush now refusal =>
    refine ⟨flushUnlocked_accepted s now refusal, ?_⟩
    by_cases hfile : s.file = none
    · show (s.flushUnlocked now refusal).owed = s.owed
      rw [flushUnlocked_none hfile]
      exact owed_congr rfl rfl
    · have hflushed : (s.flushUnlocked now refusal).file ≠ none := by
        rw [flushUnlocked_file]
        exact fun hnone => hfile (Option.map_eq_none_iff.mp hnone)
      exact (owed_of_ne hflushed).trans (owed_of_ne hfile).symm
  | write entry env => cases hnone
  | others stopWriting => exact ⟨rfl, owed_congr rfl rfl⟩
  | appear name => exact ⟨rfl, owed_congr rfl rfl⟩
  | unlink name => exact ⟨rfl, owed_congr rfl rfl⟩

/-- A message that is to be dropped. -/
theorem waits_step (h : Inv cfg s) (a : Label) (hsame : SamePid s a)
    (howed : a.messages.length ≤ s.owed) :
    (((logFile cfg).action a).effect s).accepted = s.accepted ∧
      s.owed ≤ (((logFile cfg).action a).effect s).owed + a.messages.length := by
  by_cases hnone : a.messages = []
  · obtain ⟨haccepted, hsteady⟩ := others_step cfg s a hnone
    exact ⟨haccepted, hsteady ▸ Nat.le_add_right _ _⟩
  cases a with
  | write entry env =>
    show (s.write cfg entry env).accepted = s.accepted ∧ s.owed ≤ (s.write cfg entry env).owed + 1
    by_cases hbase : s.baseFilename = ""
    · rw [State.write, if_pos hbase]
      exact ⟨rfl, Nat.le_succ _⟩
    · obtain ⟨haccepted, hleft⟩ := write_owed h howed hbase entry hsame
      exact ⟨haccepted, by omega⟩
  | setBasename _ _ | setExtension _ _ | flush _ _ | others _ | appear _ | unlink _ =>
    exact absurd rfl hnone

/-- Nothing is in the way. -/
theorem works_step (h : Inv cfg s) (a : Label) (hok : Works cfg s a) :
    (((logFile cfg).action a).effect s).accepted = s.accepted ++ a.messages.drop s.owed ∧
      (((logFile cfg).action a).effect s).owed = s.owed - a.messages.length := by
  by_cases hnone : a.messages = []
  · obtain ⟨haccepted, hsteady⟩ := others_step cfg s a hnone
    rw [haccepted, hsteady, hnone, List.drop_nil, List.append_nil]
    exact ⟨rfl, rfl⟩
  cases a with
  | write entry env =>
    show (s.write cfg entry env).accepted = s.accepted ++ [entry].drop s.owed ∧
      (s.write cfg entry env).owed = s.owed - 1
    rcases Nat.eq_zero_or_pos s.owed with hzero | hpos
    · rw [hzero]
      exact write_works h hzero hok
    · rw [List.drop_of_length_le hpos, List.append_nil]
      exact write_owed h hpos hok.1 entry hok.2.1
  | setBasename _ _ | setExtension _ _ | flush _ _ | others _ | appear _ | unlink _ =>
    exact absurd rfl hnone

/-- **Run lemma** for messages that are to be dropped. -/
theorem waits_run {as : List Label} (h : Inv cfg s)
    (hadmits : ((logFile cfg).restrict SamePid).Admits s as)
    (howed : (written as).length ≤ s.owed) : ((logFile cfg).exec s as).accepted = s.accepted := by
  induction as generalizing s with
  | nil => rfl
  | cons a as ih =>
    obtain ⟨⟨hg, hsame⟩, hrest⟩ := hadmits
    have hlength : (written (a :: as)).length = a.messages.length + (written as).length :=
      List.length_append
    obtain ⟨haccepted, hleft⟩ := waits_step h a hsame (by omega)
    have hinv := h.step a
    exact (ih hinv hrest (by omega)).trans haccepted

/-- **Run lemma** where nothing is in the way. -/
theorem works_run {as : List Label} (h : Inv cfg s)
    (hadmits : ((logFile cfg).restrict (Works cfg)).Admits s as) :
    ((logFile cfg).exec s as).accepted = s.accepted ++ (written as).drop s.owed := by
  induction as generalizing s with
  | nil =>
    show s.accepted = s.accepted ++ [].drop s.owed
    rw [List.drop_nil, List.append_nil]
  | cons a as ih =>
    obtain ⟨⟨hg, hok⟩, hrest⟩ := hadmits
    obtain ⟨haccepted, hleft⟩ := works_step h a hok
    have hinv := h.step a
    have hnext : ((logFile cfg).exec s (a :: as)).accepted =
        (((logFile cfg).action a).effect s).accepted ++
          (written as).drop (((logFile cfg).action a).effect s).owed := ih hinv hrest
    have hdrop : (written (a :: as)).drop s.owed =
        a.messages.drop s.owed ++ (written as).drop (s.owed - a.messages.length) := List.drop_append
    rw [hnext, haccepted, hleft, hdrop, List.append_assoc]

end steps

/-! ## Section 3: Dropped and kept -/

/-- What becomes of the messages from here on. -/
structure Drops (cfg : Config) (s : State) : Prop where
  /-- a failure to open a file costs this message, and the next 31 are to be dropped -/
  failed : ∀ entry env, s.baseFilename ≠ "" → s.IsToOpen cfg env → ¬ s.Creatable cfg entry.ts env →
    (s.write cfg entry env).accepted = s.accepted ∧ (s.write cfg entry env).owed = 31
  /-- those to be dropped are, whatever is called and whatever happens -/
  waits  : ∀ as, ((logFile cfg).restrict SamePid).Admits s as → (written as).length ≤ s.owed →
    ((logFile cfg).exec s as).accepted = s.accepted
  /-- the others are not, where nothing is in the way -/
  works  : ∀ as, ((logFile cfg).restrict (Works cfg)).Admits s as →
    ((logFile cfg).exec s as).accepted = s.accepted ++ (written as).drop s.owed

/-- **Main result**. -/
theorem logFile_drops (cfg : Config) {s : State} (h : (logFile cfg).Reachable s) :
    Drops cfg s := by
  have hinv := inv_reachable h
  refine ⟨?_, ?_, ?_⟩
  · intro entry env hbase hopen hno
    exact write_failed (opens_rollOver hinv hopen) hbase hno
  · intro as hadmits howed
    exact waits_run hinv hadmits howed
  · intro as hadmits
    exact works_run hinv hadmits

/-- Another process has the name. -/
theorem logFile_drops_nameTaken : ∃ s, Drops noon s ∧ s.owed = 31 := by
  have hinit : (logFile noon).init
      (.initial "planning" false [".//planning.log.info.20240501-120000.77"]) := ⟨_, _, _, rfl⟩
  have hreachable := System.reachable_exec (logFile noon) hinit
    [.write ⟨true, 0, [104]⟩ .free] (by decide)
  exact ⟨_, logFile_drops noon hreachable, by decide +kernel⟩

/-- **Same second**: a file is full within the second it was opened in.
    Unless somebody has removed it meanwhile, the message that would have
    gone to the next file is dropped and the 31 after it as well. -/
theorem logFile_sameSecond (cfg : Config) {s : State} (h : (logFile cfg).Reachable s) {f : File}
    (hf : s.file = some f) (hfull : cfg.maxLogSize ≤ s.fileLength / 2 ^ 20) (hbase : s.baseFilename ≠ "")
    {entry : Entry} {env : Env}
    (hname : ∀ dir ∈ cfg.getLoggingDirectories,
      s.filename cfg entry.ts env.mainThreadPid dir = f.name)
    (hthere : f.name ∉ s.unlinked) {as : List Label}
    (hadmits : ((logFile cfg).restrict SamePid).Admits s (.write entry env :: as))
    (hnext : (written as).length ≤ 31) :
    ((logFile cfg).exec s (.write entry env :: as)).accepted = s.accepted := by
  have hinv := inv_reachable h
  have hdisk : f.name ∈ s.onDisk := by
    have hfile : f.name ∈ s.files.map File.name := by
      rw [files_of_some hf]
      exact List.mem_map_of_mem (List.mem_append_right _ (List.mem_singleton_self f))
    exact (hinv.named.present _ hfile).resolve_right hthere
  have hno : ¬ s.Creatable cfg entry.ts env := by
    rintro ⟨dir, hdir, hfree, -⟩
    rw [hname dir hdir] at hfree
    exact hfree hdisk
  have hopen : s.IsToOpen cfg env := .inr (.inl hfull)
  obtain ⟨haccepted, howed⟩ := write_failed (opens_rollOver hinv hopen) hbase hno
  have hstep := hinv.step (.write entry env)
  have hwaits : (written as).length ≤ (s.write cfg entry env).owed := by
    rw [howed]
    exact hnext
  exact (waits_run hstep hadmits.2 hwaits).trans haccepted

/-- After a first message. -/
def firstWritten (message : List UInt8) : State :=
  (State.initial "planning" false []).write noon ⟨true, 0, message⟩ .free

theorem firstWritten_file (message : List UInt8) : ∃ f, (firstWritten message).file = some f ∧
    f.name = (firstWritten message).filename noon 0 77 "./" :=
  ⟨_, rfl, rfl⟩

theorem firstWritten_full {message : List UInt8} (hlen : message.length = 2 ^ 20) :
    noon.maxLogSize ≤ (firstWritten message).fileLength / 2 ^ 20 := by
  have hfileLength : (firstWritten message).fileLength =
    ((0 + (noon.header 0).utf8ByteSize) % 2 ^ 32 + message.length) % 2 ^ 32 := rfl
  have hheader : (noon.header 0).utf8ByteSize < 1000000 := by decide +kernel
  show 1 ≤ _
  rw [hfileLength, hlen]
  omega

/-- A message of a megabyte, and two more within the second. -/
theorem logFile_sameSecond_megabyte : ∃ s, s.accepted.length = 1 ∧ ((logFile noon).exec s
    [.write ⟨true, 0, [104]⟩ .free, .write ⟨true, 0, [105]⟩ .free]).accepted = s.accepted := by
  have hlen : (List.replicate (2 ^ 20) (104 : UInt8)).length = 2 ^ 20 := List.length_replicate
  generalize List.replicate (2 ^ 20) (104 : UInt8) = message at hlen
  have hinit : (logFile noon).init (.initial "planning" false []) := ⟨_, _, _, rfl⟩
  have hgate : message.length < 2 ^ 31 := by omega
  have hreachable : (logFile noon).Reachable (firstWritten message) :=
    .step (.write ⟨true, 0, message⟩ .free) (.init hinit) ⟨hgate, rfl⟩
  obtain ⟨f, hf, hname⟩ := firstWritten_file message
  refine ⟨firstWritten message, rfl, ?_⟩
  apply logFile_sameSecond noon hreachable hf (firstWritten_full hlen)
  · show "planning" ≠ ""
    decide
  · intro dir hdir
    rw [List.mem_singleton.mp hdir]
    exact hname.symm
  · intro hunlinked
    cases hunlinked
  · have hshort : [(104 : UInt8)].length < 2 ^ 31 ∧ [(105 : UInt8)].length < 2 ^ 31 := by decide
    exact ⟨⟨hshort.1, rfl⟩, ⟨hshort.2, rfl⟩, trivial⟩
  · show 1 ≤ 31
    decide

/-! ## Section 4: Refinement -/

/-- What the system refuses meanwhile. -/
def Label.refusals : Label → List Refusal
  | .setBasename _ refusal  => refusal.toList
  | .setExtension _ refusal => refusal.toList
  | .flush _ refusal        => refusal.toList
  | .write _ env            =>
    env.closing.toList ++ env.heading.toList ++ env.writing.toList ++ env.flushing.toList
  | _                       => []

/-- Nothing is in the way of a message, and the system takes what is in the
    buffer. -/
def Takes (cfg : Config) (s : State) (a : Label) : Prop := Works cfg s a ∧ a.refusals = []

instance decidableTakes (cfg : Config) (s : State) (a : Label) : Decidable (Takes cfg s a) :=
  inferInstanceAs (Decidable (_ ∧ _))

/-- The messages a crash of the process would not cost. -/
def State.flushedEntries (s : State) : List Entry :=
  s.closed.flatMap File.entries ++
    s.file.toList.flatMap fun f => (f.pieces.take f.flushed).filterMap Piece.entry?

/-- What the asynchronous logger takes a call for. -/
def perform (file : LogFileObject) : Label → LogFileObject
  | .write entry _ => file.write entry
  | .flush _ _     => file.flush
  | _              => file

section refinement
variable {cfg : Config} {s s' : State}

/-- All that is handed to the system during a `Write` is taken. -/
structure Env.Takes (env : Env) : Prop where
  closing  : env.closing = none
  heading  : env.heading = none
  writing  : env.writing = none
  flushing : env.flushing = none

theorem takes_write {entry : Entry} {env : Env} (h : Takes cfg s (.write entry env)) :
    env.Takes := by
  obtain ⟨-, hnone⟩ := h
  simp only [Label.refusals, List.append_eq_nil_iff, Option.toList_eq_nil_iff] at hnone
  exact ⟨hnone.1.1.1, hnone.1.1.2, hnone.1.2, hnone.2⟩

theorem passOn_none (s : State) : s.passOn none = s := by
  have hfile : s.file.map (·.passOn none) = s.file := Option.map_id'
  have hlost : s.lost ++ s.file.toList.flatMap (·.refused none) = s.lost := by
    simp [File.refused]
  rw [State.passOn, hfile, hlost]

theorem fwrite_none (s : State) (piece : Piece) :
    s.fwrite piece none = { s with file := s.file.map (·.fwrite piece) } := passOn_none _

theorem fclose_none (s : State) : s.fclose none =
    { s with file := none, closed := s.closed ++ (s.file.map File.fflush).toList } := by
  rw [State.fclose, passOn_none]

/-- What is flushed is in the files. -/
theorem flushedEntries_within (s : State) : s.flushedEntries <+: s.files.flatMap File.entries := by
  rw [State.flushedEntries, State.files, List.flatMap_append]
  apply (List.prefix_append_right_inj _).mpr
  rcases s.file with _ | f
  · exact List.prefix_rfl
  · simp only [Option.toList_some, List.flatMap_singleton]
    exact (List.take_prefix _ _).filterMap _

theorem flushedEntries_of_none (h : s.file = none) :
    s.flushedEntries = s.files.flatMap File.entries := by
  rw [State.flushedEntries, State.files, h]
  simp only [Option.toList_none, List.flatMap_nil, List.append_nil]

theorem flushedEntries_fflush {f : File} (hfile : s.file = some f.fflush) :
    s.flushedEntries = s.files.flatMap File.entries := by
  rw [State.flushedEntries, State.files, hfile, List.flatMap_append]
  simp only [Option.toList_some, List.flatMap_singleton, File.fflush, List.take_length,
    File.entries]

theorem flushedEntries_congr (hfile : s'.file = s.file) (hclosed : s'.closed = s.closed) :
    s'.flushedEntries = s.flushedEntries := by
  rw [State.flushedEntries, State.flushedEntries, hfile, hclosed]

/-- Nothing is lost from one state to another, and what is flushed stays
    so. -/
structure Goes (s s' : State) : Prop where
  lost    : s'.lost = s.lost
  flushed : s.flushedEntries <+: s'.flushedEntries

theorem Goes.refl (s : State) : Goes s s := ⟨rfl, List.prefix_rfl⟩

theorem Goes.trans {s₁ s₂ s₃ : State} (h₁ : Goes s₁ s₂) (h₂ : Goes s₂ s₃) : Goes s₁ s₃ :=
  ⟨h₂.lost.trans h₁.lost, h₁.flushed.trans h₂.flushed⟩

theorem goes_congr (hfile : s'.file = s.file) (hclosed : s'.closed = s.closed)
    (hlost : s'.lost = s.lost) : Goes s s' := by
  have hflushed := flushedEntries_congr hfile hclosed
  exact ⟨hlost, hflushed ▸ List.prefix_rfl⟩

theorem goes_fclose (hfile : s'.file = none) (hclosed : s'.closed = (s.fclose none).closed)
    (hlost : s'.lost = s.lost) : Goes s s' := by
  refine ⟨hlost, ?_⟩
  have hall : s'.flushedEntries = s.files.flatMap File.entries := by
    rw [flushedEntries_of_none hfile, files_of_none hfile, hclosed, fclose_none, State.files,
      List.flatMap_append, List.flatMap_append]
    rcases s.file with _ | f
    · rfl
    · rfl
  rw [hall]
  exact flushedEntries_within s

/-- What is added is not flushed. -/
theorem goes_fwrite (h : Inv cfg s) (piece : Piece) (hfile : s'.file = (s.fwrite piece none).file)
    (hclosed : s'.closed = s.closed) (hlost : s'.lost = s.lost) : Goes s s' := by
  refine ⟨hlost, ?_⟩
  rw [fwrite_none] at hfile
  rw [State.flushedEntries, State.flushedEntries, hfile, hclosed]
  rcases hf : s.file with _ | f
  · exact List.prefix_rfl
  · simp only [Option.map_some, Option.toList_some, List.flatMap_singleton, File.fwrite]
    have hflushed : (f.pieces ++ [piece]).take f.flushed = f.pieces.take f.flushed :=
      List.take_append_of_le_length (h.current hf).within
    exact hflushed ▸ List.prefix_rfl

theorem goes_rollOver (s : State) {env : Env} (htakes : env.Takes) :
    Goes s (s.rollOver cfg env) := by
  rw [State.rollOver, htakes.closing, fclose_none]
  split
  · exact goes_fclose rfl (by rw [fclose_none]) rfl
  · exact .refl s

theorem goes_makeOne (hattempt : s.rolloverAttempt < 32) (timestamp : Int) (env : Env) :
    Goes s (s.makeOne cfg timestamp env) := by
  have hmakes : Makes cfg s timestamp env (s.makeOne cfg timestamp env) :=
    makes_makeOne hattempt timestamp env
  rcases hmakes with
    ⟨-, hsame⟩ | ⟨attempt, -, -, hsame⟩ | ⟨name, hfile, -, hsame⟩
  · rw [hsame]
    exact .refl s
  · rw [hsame]
    exact goes_congr rfl rfl rfl
  · rw [hsame]
    refine ⟨created_lost _ _ _ _ _, ?_⟩
    rw [flushedEntries_of_none hfile, files_of_none hfile]
    exact List.prefix_append _ _

/-- All that is in the files is flushed. -/
theorem flushUnlocked_all (s : State) (now : Int) :
    (s.flushUnlocked now none).lost = s.lost ∧
      (s.flushUnlocked now none).flushedEntries =
        (s.flushUnlocked now none).files.flatMap File.entries ∧
      (s.flushUnlocked now none).files.flatMap File.entries = s.files.flatMap File.entries := by
  rcases hf : s.file with _ | f
  · rw [flushUnlocked_none hf]
    exact ⟨rfl, flushedEntries_of_none hf, rfl⟩
  · rw [flushUnlocked_some hf, passOn_none]
    refine ⟨rfl, flushedEntries_fflush rfl, ?_⟩
    rw [files_of_some hf, files_of_some rfl, List.flatMap_append, List.flatMap_append]
    rfl

theorem goes_flushUnlocked (s : State) (now : Int) : Goes s (s.flushUnlocked now none) := by
  obtain ⟨hlost, hall, hsame⟩ := flushUnlocked_all s now
  refine ⟨hlost, ?_⟩
  rw [hall, hsame]
  exact flushedEntries_within s

theorem goes_getRid (s : State) : Goes s (s.getRid none) := by
  rw [State.getRid, fclose_none]
  split
  · exact .refl s
  · exact goes_fclose rfl (by rw [fclose_none]) rfl

/-- A message that is kept, and flushed with all before it if it is to be. -/
theorem goes_write (h : Inv cfg s) (howed : s.owed = 0) {entry : Entry} {env : Env}
    (hok : Works cfg s (.write entry env)) (htakes : env.Takes) :
    Goes s (s.write cfg entry env) ∧
      (entry.shouldFlush = true → (s.write cfg entry env).flushedEntries =
        (s.write cfg entry env).files.flatMap File.entries) := by
  obtain ⟨f, hf, -, hstop⟩ := made_works h howed hok
  have hrolled := h.rollOver env
  have hready := hrolled.makeOne (rollOver_length cfg s env) entry.ts env
  have hmade : Goes s ((s.rollOver cfg env).makeOne cfg entry.ts env) :=
    (goes_rollOver s htakes).trans (goes_makeOne hrolled.attempt entry.ts env)
  rw [State.write, if_neg hok.1, output_works hf hstop entry hok.2.2.1, htakes.writing,
    htakes.flushing]
  generalize (s.rollOver cfg env).makeOne cfg entry.ts env = t at hf hready hmade ⊢
  have hline : Goes t (t.line entry none) := by
    refine goes_fwrite hready (.line entry) rfl rfl ?_
    rw [State.line, fwrite_none]
    rfl
  split
  · refine ⟨hmade.trans (hline.trans (goes_flushUnlocked _ _)), fun _ => ?_⟩
    exact (flushUnlocked_all (t.line entry none) env.flushNow).2.1
  · next hno => exact ⟨hmade.trans hline, fun hforced => absurd (.inl hforced) hno⟩

/-- The file as the asynchronous logger has it, and as it is. -/
structure Refines (s : State) (file : LogFileObject) : Prop where
  within  : file.flushed ≤ file.writes.length
  writes  : file.writes = s.files.flatMap File.entries
  flushed : file.writes.take file.flushed <+: s.flushedEntries

/-- The files have the same messages still. -/
theorem Refines.goes {file : LogFileObject} (h : Refines s file) (hgoes : Goes s s')
    (hsame : s'.files.flatMap File.entries = s.files.flatMap File.entries) : Refines s' file :=
  ⟨h.within, h.writes.trans hsame.symm, h.flushed.trans hgoes.flushed⟩

theorem Refines.write {file : LogFileObject} (h : Refines s file) {entry : Entry}
    (hgoes : Goes s s')
    (hflushed : entry.shouldFlush = true → s'.flushedEntries = s'.files.flatMap File.entries)
    (hentries : s'.files.flatMap File.entries = s.files.flatMap File.entries ++ [entry]) :
    Refines s' (file.write entry) := by
  have hwrites : (file.write entry).writes = s'.files.flatMap File.entries := by
    rw [LogFileObject.writes_write, h.writes, hentries]
  by_cases hforced : entry.shouldFlush = true
  · have hfile : file.write entry = ({ file with writes := file.writes ++ [entry] } :
        LogFileObject).flush := if_pos hforced
    refine ⟨?_, hwrites, ?_⟩
    · rw [hfile]
      exact Nat.le_refl _
    · rw [hflushed hforced, ← hwrites]
      exact List.take_prefix _ _
  · have hfile : file.write entry = { file with writes := file.writes ++ [entry] } :=
      if_neg hforced
    refine ⟨?_, hwrites, ?_⟩
    · rw [hfile]
      exact Nat.le_trans h.within (List.prefix_append _ _).length_le
    · rw [hfile]
      show (file.writes ++ [entry]).take file.flushed <+: _
      rw [List.take_append_of_le_length h.within]
      exact h.flushed.trans hgoes.flushed

theorem Refines.flush {file : LogFileObject} (h : Refines s file) (now : Int) :
    Refines (s.flushUnlocked now none) file.flush := by
  obtain ⟨-, hall, hsame⟩ := flushUnlocked_all s now
  refine ⟨Nat.le_refl _, h.writes.trans hsame.symm, ?_⟩
  rw [hall, hsame, ← h.writes]
  exact List.take_prefix _ _

/-- Nothing is lost in a step. -/
theorem goes_step (h : Inv cfg s) (howed : s.owed = 0) (a : Label) (hok : Takes cfg s a) :
    Goes s (((logFile cfg).action a).effect s) := by
  cases a with
  | setBasename basename refusal =>
    obtain rfl := Option.toList_eq_nil_iff.mp hok.2
    show Goes s (s.setBasename basename none)
    rw [State.setBasename]
    split
    · exact (goes_getRid s).trans (goes_congr rfl rfl rfl)
    · exact .refl s
  | setExtension ext refusal =>
    obtain rfl := Option.toList_eq_nil_iff.mp hok.2
    show Goes s (s.setExtension ext none)
    rw [State.setExtension]
    split
    · exact (goes_getRid s).trans (goes_congr rfl rfl rfl)
    · exact .refl s
  | flush now refusal =>
    obtain rfl := Option.toList_eq_nil_iff.mp hok.2
    exact goes_flushUnlocked s now
  | write entry env => exact (goes_write h howed hok.1 (takes_write hok)).1
  | others stopWriting => exact goes_congr rfl rfl rfl
  | appear name => exact goes_congr rfl rfl rfl
  | unlink name => exact goes_congr rfl rfl rfl

/-- **Step lemma**. -/
theorem Refines.step (hinv : Inv cfg s) (howed : s.owed = 0) (hlost : s.lost = [])
    {file : LogFileObject} (h : Refines s file) (a : Label) (hok : Takes cfg s a) :
    Refines (((logFile cfg).action a).effect s) (perform file a) := by
  have hgoes := goes_step hinv howed a hok
  have hentries : (((logFile cfg).action a).effect s).files.flatMap File.entries =
      s.files.flatMap File.entries ++ a.messages := by
    rw [(hinv.step a).entries_eq (hgoes.lost.trans hlost), hinv.entries_eq hlost,
      (works_step hinv a hok.1).1, howed, List.drop_zero]
  cases a with
  | setBasename _ _ | setExtension _ _ | others _ | appear _ | unlink _ =>
    exact h.goes hgoes (hentries.trans (List.append_nil _))
  | flush now refusal =>
    obtain rfl := Option.toList_eq_nil_iff.mp hok.2
    exact h.flush now
  | write entry env =>
    exact h.write hgoes (goes_write hinv howed hok.1 (takes_write hok)).2 hentries

/-- **Run lemma**. -/
theorem Refines.run {as : List Label} (hinv : Inv cfg s) (howed : s.owed = 0)
    (hlost : s.lost = []) (hadmits : ((logFile cfg).restrict (Takes cfg)).Admits s as)
    {file : LogFileObject} (h : Refines s file) :
    Refines ((logFile cfg).exec s as) (as.foldl perform file) := by
  induction as generalizing s file with
  | nil => exact h
  | cons a as ih =>
    obtain ⟨⟨hg, hok⟩, hrest⟩ := hadmits
    obtain ⟨-, hleft⟩ := works_step hinv a hok.1
    rw [howed, Nat.zero_sub] at hleft
    have hkept := (goes_step hinv howed a hok).lost.trans hlost
    exact ih (hinv.step a) hleft hkept hrest (h.step hinv howed hlost a hok)

end refinement

/-- **Refinement**: where nothing is in the way and the system takes what it
    is handed, what the asynchronous logger has of a log file object is what
    is in its files, and what it takes for flushed is. -/
theorem logFile_refines (cfg : Config) {s : State} (hi : (logFile cfg).init s) {as : List Label}
    (hadmits : ((logFile cfg).restrict (Takes cfg)).Admits s as) :
    Refines ((logFile cfg).exec s as) (as.foldl perform .new) := by
  have hinv : Inv cfg s := inv_init hi
  obtain ⟨baseFilename, stopWriting, onDisk, rfl⟩ := hi
  exact .run hinv rfl rfl hadmits ⟨Nat.le_refl 0, rfl, List.nil_prefix⟩

/-- The second message is flushed, the third is not. -/
theorem logFile_refines_twoFiles : ∃ s, s.files.length = 2 ∧
    Refines s ⟨[⟨false, 0, [104]⟩, ⟨true, 1, [105]⟩, ⟨false, 2, [106]⟩], 2⟩ := by
  have hinit : (logFile noon).init (.initial "planning" false []) := ⟨_, _, _, rfl⟩
  have hadmits : ((logFile noon).restrict (Takes noon)).Admits (.initial "planning" false [])
      [.write ⟨false, 0, [104]⟩ .free, .setExtension "b." none, .write ⟨true, 1, [105]⟩ .free,
        .write ⟨false, 2, [106]⟩ .free] := by decide +kernel
  exact ⟨_, by decide +kernel, logFile_refines noon hinit hadmits⟩

end CyberRT.Logger.LogFileRotation
