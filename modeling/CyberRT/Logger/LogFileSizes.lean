import CyberRT.Logger.LogFileRotation

/-! # Sizes of the log files

    `file_length_` and `bytes_since_flush_` count what was given to `fwrite`.
    Where `max_log_size` is below 2 GB they do not come round before the next
    file is opened, and so they bound what is in a file, and what of it may
    still be lost. What is counted need not be there: the system may have
    refused it. -/

namespace CyberRT.Logger.LogFileRotation

open CyberRT.Framework

/-! ## Section 1: Bytes -/

namespace File

theorem counted_append (ps qs : List Piece) : counted (ps ++ qs) = counted ps + counted qs := by
  simp only [counted, List.map_append, List.sum_append]

theorem counted_singleton (p : Piece) : counted [p] = p.counted := by
  simp [counted]

theorem counted_le {ps qs : List Piece} (h : ps.Sublist qs) : counted ps ≤ counted qs :=
  (h.map Piece.counted).sum_le_sum fun _ _ => Nat.zero_le _

theorem counted_fwrite (file : File) (piece : Piece) :
    counted (file.fwrite piece).pieces = counted file.pieces + piece.counted := by
  rw [fwrite, counted_append, counted_singleton]

section passOn
variable (file : File) (refusal : Option Refusal)

theorem counted_remnant (refusal : Refusal) : counted (file.remnant refusal) = 0 := by
  rcases file.remnant_cases refusal with ⟨hnil, -⟩ | ⟨⟨bytes, htorn⟩, -⟩
  · rw [hnil]
    rfl
  · rw [htorn]
    rfl

theorem counted_passOn : counted (file.passOn refusal).pieces ≤ counted file.pieces := by
  cases refusal with
  | none => exact Nat.le_refl _
  | some refusal =>
    rw [passOn_some, counted_append, counted_remnant, Nat.add_zero]
    exact counted_le (List.take_sublist _ _)

theorem counted_dropLast_passOn :
    counted (file.passOn refusal).pieces.dropLast ≤ counted file.pieces.dropLast := by
  cases refusal with
  | none => exact Nat.le_refl _
  | some refusal =>
    rw [passOn_some]
    rcases file.remnant_cases refusal with ⟨hnil, hlong⟩ | ⟨⟨bytes, htorn⟩, hshort⟩
    · rw [hnil, List.append_nil, List.take_of_length_le hlong]
    · rw [htorn, List.dropLast_concat, List.dropLast_eq_take]
      apply counted_le
      apply List.take_sublist_take_left
      omega

variable {file}

theorem counted_unflushed_passOn (h : file.flushed ≤ file.pieces.length) :
    counted (file.passOn refusal).unflushed ≤ counted file.unflushed := by
  cases refusal with
  | none => exact Nat.le_refl _
  | some refusal =>
    rw [unflushed_passOn_some h, counted_append, counted_remnant, Nat.add_zero]
    exact counted_le (List.take_sublist _ _)

end passOn

end File

/-- What is counted of one file. -/
structure File.Sized (cfg : Config) (file : File) : Prop where
  /-- it exceeds the maximum by no more than its last message -/
  below : counted file.pieces.dropLast < cfg.maxBytes
  /-- less than a megabyte is left unflushed -/
  few   : counted file.unflushed < 1000000

namespace File.Sized
variable {cfg : Config} {file : File}

theorem of_fflush (h : counted file.pieces.dropLast < cfg.maxBytes) : file.fflush.Sized cfg := by
  refine ⟨h, ?_⟩
  rw [unflushed_fflush]
  decide

theorem passOn (h : file.Sized cfg) (hwithin : file.flushed ≤ file.pieces.length)
    (refusal : Option Refusal) : (file.passOn refusal).Sized cfg :=
  ⟨Nat.lt_of_le_of_lt (counted_dropLast_passOn file refusal) h.below,
    Nat.lt_of_le_of_lt (counted_unflushed_passOn refusal hwithin) h.few⟩

/-- A piece is added to a file that is below the maximum. -/
theorem fwrite (hwithin : file.flushed ≤ file.pieces.length)
    (hbelow : counted file.pieces < cfg.maxBytes) {piece : Piece}
    (hfew : counted file.unflushed + piece.counted < 1000000) : (file.fwrite piece).Sized cfg := by
  constructor
  · rw [File.fwrite, List.dropLast_concat]
    exact hbelow
  · rw [unflushed_fwrite hwithin, counted_append, counted_singleton]
    exact hfew

end File.Sized

/-! ## Section 2: Invariant -/

/-- **Invariant**. The lengths may count files closed by `SetBasename` as
    well. -/
structure Sizes (cfg : Config) (s : State) : Prop where
  sized  : ∀ f ∈ s.files, f.Sized cfg
  length : ∀ f, s.file = some f → File.counted f.pieces ≤ s.fileLength
  since  : ∀ f, s.file = some f → File.counted f.unflushed ≤ s.bytesSinceFlush
  le     : s.bytesSinceFlush ≤ s.fileLength

section steps
variable {cfg : Config} {s s' : State}

theorem Sizes.current (h : Sizes cfg s) {f : File} (hf : s.file = some f) : f.Sized cfg := by
  apply h.sized
  rw [files_of_some hf]
  exact List.mem_append_right _ (List.mem_singleton_self f)

theorem Sizes.past (h : Sizes cfg s) {f : File} (hf : f ∈ s.closed) : f.Sized cfg :=
  h.sized f (List.mem_append_left _ hf)

/-- No file, or the one there was. -/
theorem Sizes.congr (h : Sizes cfg s) (hfile : s'.file = s.file) (hclosed : s'.closed = s.closed)
    (hlength : s'.fileLength = s.fileLength) (hsince : s'.bytesSinceFlush = s.bytesSinceFlush) :
    Sizes cfg s' := by
  have hfiles : s'.files = s.files := by rw [State.files, State.files, hfile, hclosed]
  refine ⟨?_, ?_, ?_, ?_⟩
  · rw [hfiles]
    exact h.sized
  · rw [hfile, hlength]
    exact h.length
  · rw [hfile, hsince]
    exact h.since
  · rw [hlength, hsince]
    exact h.le

/-- Another current file, or the same one changed. -/
theorem Sizes.change (h : Sizes cfg s) {g : File} (hg : s'.file = some g)
    (hclosed : s'.closed = s.closed) (hsized : g.Sized cfg)
    (hlength : File.counted g.pieces ≤ s'.fileLength)
    (hsince : File.counted g.unflushed ≤ s'.bytesSinceFlush)
    (hle : s'.bytesSinceFlush ≤ s'.fileLength) : Sizes cfg s' := by
  refine ⟨?_, ?_, ?_, hle⟩
  · intro x hx
    rw [files_of_some hg, hclosed, List.mem_append, List.mem_singleton] at hx
    rcases hx with hold | hnew
    · exact h.past hold
    · rw [hnew]
      exact hsized
  · intro x hx
    obtain rfl : g = x := Option.some.inj (hg.symm.trans hx)
    exact hlength
  · intro x hx
    obtain rfl : g = x := Option.some.inj (hg.symm.trans hx)
    exact hsince

/-- The current file, if there is one, is closed. -/
theorem Sizes.fclose (h : Sizes cfg s) (refusal : Option Refusal)
    (hfiles : s'.files = (s.fclose refusal).files) (hfile : s'.file = none)
    (hle : s'.bytesSinceFlush ≤ s'.fileLength) : Sizes cfg s' := by
  refine ⟨?_, ?_, ?_, hle⟩
  · rw [hfiles]
    rcases hf : s.file with _ | f
    · rw [(files_fclose_none hf refusal).1]
      exact h.sized
    · rw [(files_fclose_some hf refusal).1]
      intro x hx
      rw [List.mem_append, List.mem_singleton] at hx
      rcases hx with hold | hnew
      · exact h.past hold
      · rw [hnew]
        apply File.Sized.of_fflush
        exact Nat.lt_of_le_of_lt (f.counted_dropLast_passOn refusal) (h.current hf).below
  · intro f hf
    rw [hfile] at hf
    cases hf
  · intro f hf
    rw [hfile] at hf
    cases hf

theorem Sizes.rollOver (h : Sizes cfg s) (env : Env) : Sizes cfg (s.rollOver cfg env) := by
  rw [State.rollOver]
  split
  · exact h.fclose env.closing rfl rfl (Nat.le_refl 0)
  · exact h

/-- What `Write` has made ready when it comes to the message. -/
structure Ready (cfg : Config) (s : State) : Prop where
  sizes  : Sizes cfg s
  room   : ∀ f, s.file = some f → File.counted f.pieces < cfg.maxBytes
  length : s.fileLength < cfg.maxBytes + 1000000

theorem newFile_counted (name text : String) (refusal : Option Refusal) :
    File.counted (newFile name text refusal).pieces ≤ text.utf8ByteSize ∧
      File.counted (newFile name text refusal).pieces.dropLast = 0 ∧
      File.counted (newFile name text refusal).unflushed ≤ text.utf8ByteSize := by
  have hheader : File.counted (File.fwrite ⟨name, [], 0⟩ (.header text)).pieces =
      text.utf8ByteSize := File.counted_singleton _
  refine ⟨?_, ?_, ?_⟩
  · exact Nat.le_trans (File.counted_passOn _ refusal) (Nat.le_of_eq hheader)
  · exact Nat.le_zero.mp (File.counted_dropLast_passOn _ refusal)
  · exact Nat.le_trans (File.counted_unflushed_passOn refusal (Nat.zero_le _))
      (Nat.le_of_eq hheader)

/-- A file that starts with its header. The header fits and is far from
    wrapping the counters round. -/
theorem Sizes.created (h : Sizes cfg s) (hbelow : s.fileLength < cfg.maxBytes)
    (hmax : cfg.maxLogSize ≤ 2047) {name text : String} (htext : text.utf8ByteSize < 1000000)
    (refusal : Option Refusal) :
    Ready cfg (((({ s with rolloverAttempt := 0 } : State).fdopen name).fwrite
      (.header text) refusal).count text.utf8ByteSize) := by
  have hbytes := maxBytes_ge cfg
  have hle : cfg.maxBytes ≤ 2047 * 2 ^ 20 := Nat.mul_le_mul_right _ hmax
  have hsince := h.le
  obtain ⟨hpieces, hlast, hrest⟩ := newFile_counted name text refusal
  have hfile := created_file s name text refusal text.utf8ByteSize
  generalize ht : ((({ s with rolloverAttempt := 0 } : State).fdopen name).fwrite
    (.header text) refusal).count text.utf8ByteSize = t at hfile ⊢
  have hclosed : t.closed = s.closed := by rw [← ht]; rfl
  have hlength : t.fileLength = s.fileLength + text.utf8ByteSize := by
    rw [← ht]
    show (s.fileLength + text.utf8ByteSize) % 2 ^ 32 = _
    omega
  have hsinceFlush : t.bytesSinceFlush = s.bytesSinceFlush + text.utf8ByteSize := by
    rw [← ht]
    show (s.bytesSinceFlush + text.utf8ByteSize) % 2 ^ 32 = _
    omega
  refine ⟨h.change hfile hclosed ⟨by omega, by omega⟩ (by omega) (by omega) (by omega), ?_, ?_⟩
  · intro f hf
    obtain rfl := Option.some.inj (hfile.symm.trans hf)
    omega
  · omega

/-- A file is there already, or it is made, or the message is dropped. -/
theorem Sizes.makeOne (h : Sizes cfg s) (hattempt : s.rolloverAttempt < 32)
    (hbelow : s.fileLength < cfg.maxBytes) (hmax : cfg.maxLogSize ≤ 2047) {timestamp : Int}
    (hheader : (cfg.header timestamp).utf8ByteSize < 1000000) (env : Env) :
    Ready cfg (s.makeOne cfg timestamp env) := by
  have hready {t : State} (hsizes : Sizes cfg t) (hlength : t.fileLength = s.fileLength) :
      Ready cfg t := by
    refine ⟨hsizes, fun f hf => ?_, by omega⟩
    exact Nat.lt_of_le_of_lt (hsizes.length f hf) (hlength ▸ hbelow)
  have hmakes : Makes cfg s timestamp env (s.makeOne cfg timestamp env) :=
    makes_makeOne hattempt timestamp env
  rcases hmakes with
    ⟨-, hsame⟩ | ⟨attempt, -, -, hsame⟩ | ⟨name, -, -, hsame⟩
  · rw [hsame]
    exact hready h rfl
  · rw [hsame]
    exact hready (h.congr rfl rfl rfl rfl) rfl
  · rw [hsame]
    exact h.created hbelow hmax hheader env.heading

/-- No room on the disk: the message is not counted. -/
theorem Ready.torn (h : Ready cfg s) {f : File} (hf : s.file = some f)
    (hwithin : f.flushed ≤ f.pieces.length) (bytes : List UInt8) (refusal : Option Refusal) :
    Sizes cfg { s.fwrite (.torn bytes) refusal with stopWriting := true } := by
  have hunflushed := File.unflushed_fwrite hwithin (.torn bytes)
  have hcounted : File.counted (f.fwrite (.torn bytes)).unflushed = File.counted f.unflushed := by
    rw [hunflushed, File.counted_append, File.counted_singleton]
    rfl
  have hwithin' : (f.fwrite (.torn bytes)).flushed ≤ (f.fwrite (.torn bytes)).pieces.length := by
    rw [File.fwrite, List.length_append]
    exact Nat.le_add_right_of_le hwithin
  have hsized : (f.fwrite (.torn bytes)).Sized cfg :=
    .fwrite hwithin (h.room f hf) (h.sizes.current hf).few
  refine h.sizes.change (fwrite_file hf (.torn bytes) refusal) rfl
    (hsized.passOn hwithin' refusal) ?_ ?_ h.sizes.le
  · apply Nat.le_trans (File.counted_passOn _ refusal)
    rw [File.counted_fwrite]
    exact h.sizes.length f hf
  · apply Nat.le_trans (File.counted_unflushed_passOn refusal hwithin')
    rw [hcounted]
    exact h.sizes.since f hf

/-- What `fwrite` has of a message, and what is counted then. -/
structure Lined (cfg : Config) (t : State) (g : File) : Prop where
  within : g.flushed ≤ g.pieces.length
  below  : File.counted g.pieces.dropLast < cfg.maxBytes
  length : File.counted g.pieces ≤ t.fileLength
  since  : File.counted g.unflushed ≤ t.bytesSinceFlush
  le     : t.bytesSinceFlush ≤ t.fileLength

theorem Ready.lined (h : Ready cfg s) (hmax : cfg.maxLogSize ≤ 2047) {f : File}
    (hf : s.file = some f) (hwithin : f.flushed ≤ f.pieces.length) {entry : Entry}
    (hlen : entry.message.length < 2 ^ 31) (writing : Option Refusal) :
    Lined cfg (s.line entry writing) ((f.fwrite (.line entry)).passOn writing) := by
  have hbytes : cfg.maxBytes ≤ 2047 * 2 ^ 20 := Nat.mul_le_mul_right _ hmax
  have hlength := h.length
  have hle := h.sizes.le
  have hpieces := h.sizes.length f hf
  have hrest := h.sizes.since f hf
  have hfileLength : (s.line entry writing).fileLength = s.fileLength + entry.message.length := by
    show (s.fileLength + entry.message.length) % 2 ^ 32 = _
    omega
  have hsince : (s.line entry writing).bytesSinceFlush =
      s.bytesSinceFlush + entry.message.length := by
    show (s.bytesSinceFlush + entry.message.length) % 2 ^ 32 = _
    omega
  have hgrown : (f.fwrite (.line entry)).flushed ≤ (f.fwrite (.line entry)).pieces.length := by
    rw [File.fwrite, List.length_append]
    exact Nat.le_add_right_of_le hwithin
  refine ⟨File.within_passOn writing hgrown, ?_, ?_, ?_, by omega⟩
  · apply Nat.lt_of_le_of_lt (File.counted_dropLast_passOn _ writing)
    rw [File.fwrite, List.dropLast_concat]
    exact h.room f hf
  · apply Nat.le_trans (File.counted_passOn _ writing)
    rw [File.counted_fwrite, hfileLength]
    exact Nat.add_le_add_right hpieces _
  · apply Nat.le_trans (File.counted_unflushed_passOn writing hgrown)
    rw [File.unflushed_fwrite hwithin, File.counted_append, File.counted_singleton, hsince]
    exact Nat.add_le_add_right hrest _

theorem Sizes.flush (h : Sizes cfg s) {g : File} (hg : s'.file = some g)
    (hclosed : s'.closed = s.closed) (hlined : Lined cfg s' g) (now : Int)
    (refusal : Option Refusal) : Sizes cfg (s'.flushUnlocked now refusal) := by
  rw [flushUnlocked_some hg]
  refine h.change rfl hclosed (.of_fflush ?_) ?_ ?_ (Nat.zero_le _)
  · exact Nat.lt_of_le_of_lt (g.counted_dropLast_passOn refusal) hlined.below
  · exact Nat.le_trans (g.counted_passOn refusal) hlined.length
  · rw [File.unflushed_fflush]
    exact Nat.le_refl 0

/-- The message is written, or there is no room for it. -/
theorem Ready.output (h : Ready cfg s) (hinv : Inv cfg s) (hmax : cfg.maxLogSize ≤ 2047)
    {entry : Entry} (hlen : entry.message.length < 2 ^ 31) (env : Env) :
    Sizes cfg (s.output entry env) := by
  rw [State.output]
  split
  · exact h.sizes
  next hfile =>
  obtain ⟨f, hf⟩ := Option.ne_none_iff_exists'.mp hfile
  have hwithin := (hinv.current hf).within
  split
  · split
    · exact h.sizes.congr rfl rfl rfl rfl
    · exact h.sizes
  split
  · exact h.torn hf hwithin _ env.writing
  have hlined := h.lined hmax hf hwithin hlen env.writing
  have hline : (s.line entry env.writing).file =
      some ((f.fwrite (.line entry)).passOn env.writing) := fwrite_file hf _ _
  split
  · exact h.sizes.flush hline rfl hlined env.flushNow env.flushing
  · next hno =>
    have hfew : (s.line entry env.writing).bytesSinceFlush < 1000000 :=
      Nat.lt_of_not_le fun hmany => hno (.inr (.inl hmany))
    have hsized : ((f.fwrite (.line entry)).passOn env.writing).Sized cfg :=
      ⟨hlined.below, Nat.lt_of_le_of_lt hlined.since hfew⟩
    exact h.sizes.change hline rfl hsized hlined.length hlined.since hlined.le

theorem Sizes.write (h : Sizes cfg s) (hinv : Inv cfg s) (hmax : cfg.maxLogSize ≤ 2047)
    {entry : Entry} (hheader : (cfg.header entry.ts).utf8ByteSize < 1000000)
    (hlen : entry.message.length < 2 ^ 31) (env : Env) : Sizes cfg (s.write cfg entry env) := by
  rw [State.write]
  split
  · exact h
  · have hbelow := rollOver_length cfg s env
    have hrolled := hinv.rollOver env
    have hready := (h.rollOver env).makeOne hrolled.attempt hbelow hmax hheader env
    exact hready.output (hrolled.makeOne hbelow entry.ts env) hmax hlen env

theorem Sizes.getRid (h : Sizes cfg s) (refusal : Option Refusal) :
    Sizes cfg (s.getRid refusal) := by
  rw [State.getRid]
  split
  · exact h
  · exact h.fclose refusal rfl rfl h.le

theorem Sizes.flushUnlocked (h : Sizes cfg s) (hinv : Inv cfg s) (now : Int)
    (refusal : Option Refusal) : Sizes cfg (s.flushUnlocked now refusal) := by
  rcases hf : s.file with _ | f
  · rw [flushUnlocked_none hf]
    exact h.congr rfl rfl rfl rfl
  · exact h.flush hf rfl ⟨(hinv.current hf).within, (h.current hf).below, h.length f hf,
      h.since f hf, h.le⟩ now refusal

/-- **Step lemma**. -/
theorem Sizes.step (h : Sizes cfg s) (hinv : Inv cfg s) (hmax : cfg.maxLogSize ≤ 2047)
    (hheader : ∀ timestamp, (cfg.header timestamp).utf8ByteSize < 1000000) (a : Label)
    (hg : ((logFile cfg).action a).gate s) : Sizes cfg (((logFile cfg).action a).effect s) := by
  cases a with
  | setBasename basename refusal =>
    show Sizes cfg (s.setBasename basename refusal)
    rw [State.setBasename]
    split
    · exact (h.getRid refusal).congr rfl rfl rfl rfl
    · exact h
  | setExtension ext refusal =>
    show Sizes cfg (s.setExtension ext refusal)
    rw [State.setExtension]
    split
    · exact (h.getRid refusal).congr rfl rfl rfl rfl
    · exact h
  | flush now refusal => exact h.flushUnlocked hinv now refusal
  | write entry env => exact h.write hinv hmax (hheader entry.ts) hg env
  | others stopWriting => exact h.congr rfl rfl rfl rfl
  | appear name => exact h.congr rfl rfl rfl rfl
  | unlink name => exact h.congr rfl rfl rfl rfl

theorem sizes_init (hi : (logFile cfg).init s) : Sizes cfg s := by
  obtain ⟨baseFilename, stopWriting, onDisk, rfl⟩ := hi
  have hnofile {p : File → Prop} : ∀ f, (none : Option File) = some f → p f := by
    intro f hf
    cases hf
  refine ⟨?_, hnofile, hnofile, Nat.le_refl 0⟩
  intro f hf
  cases hf

/-- **Run lemma**. -/
theorem sizes_reachable (hmax : cfg.maxLogSize ≤ 2047)
    (hheader : ∀ timestamp, (cfg.header timestamp).utf8ByteSize < 1000000)
    (h : (logFile cfg).Reachable s) : Sizes cfg s := by
  induction h with
  | init hi => exact sizes_init hi
  | step a hreach hstep ih =>
    obtain ⟨hg, rfl⟩ := hstep
    exact ih.step (inv_reachable hreach) hmax hheader a hg

end steps

/-! ## Section 3: Main result -/

/-- What is kept, whatever is to come. -/
structure Kept (cfg : Config) (s : State) : Prop where
  /-- the messages in the files are as they came, each as a whole -/
  order    : (s.files.flatMap File.entries).Sublist s.accepted
  /-- each accepted message is in one file, or was refused -/
  whole    : (s.files.flatMap File.entries ++ s.lost).Perm s.accepted
  flushed  : ∀ f ∈ s.files, f.Flushed
  sized    : ∀ f ∈ s.files, f.Sized cfg
  /-- no file is written under a name that is there -/
  distinct : (s.files.map File.name).Pairwise fun a b => a = b → a ∈ s.unlinked

/-- **Main result**: over any calls, with the disk full at any time, forks,
    and files created and removed by others, the accepted messages are in
    the files, but for those the system refused to take out of the buffer. -/
theorem logFile_kept (cfg : Config) (hmax : cfg.maxLogSize ≤ 2047)
    (hheader : ∀ timestamp, (cfg.header timestamp).utf8ByteSize < 1000000) {s : State}
    (h : (logFile cfg).Reachable s) : Kept cfg s := by
  have hinv := inv_reachable h
  have hsizes := sizes_reachable hmax hheader h
  exact ⟨hinv.order, hinv.whole, hinv.flushed, hsizes.sized, hinv.named.distinct⟩

theorem noon_header (timestamp : Int) : (noon.header timestamp).utf8ByteSize < 1000000 := by
  show (fileHeaderString ⟨124, 4, 1, 12, 0, 0⟩ "pi").utf8ByteSize < 1000000
  decide +kernel

/-- A new extension starts a new file. The system does not take the second
    message. -/
theorem logFile_kept_newExtension : ∃ s, Kept noon s ∧
    s.files.map File.entries = [[⟨true, 0, [104]⟩], []] ∧ s.lost = [⟨false, 1, [105]⟩] := by
  have hinit : (logFile noon).init (.initial "planning" false []) := ⟨_, _, _, rfl⟩
  have hreachable := System.reachable_exec (logFile noon) hinit
    [.write ⟨true, 0, [104]⟩ .free, .setExtension "b." none, .write ⟨false, 1, [105]⟩ .free,
      .flush 2 (some ⟨1, 0⟩)] (by decide)
  exact ⟨_, logFile_kept noon (by decide) noon_header hreachable, by decide +kernel⟩

end CyberRT.Logger.LogFileRotation
