import CyberRT.Record.File.RecordCounters
import CyberRT.Record.RecordWire
import CyberRT.Record.RecordWriter
import Mathlib.Data.List.Nodup

/-! # The segments of a record hold what was written

    * **Messages**: the segments closed and the one being written hold the
      messages written, one segment after the other.
    * **Channels**: the channels of all messages are in the maps, with what
      was registered first, and in the segment being written.
    * **Paths**: until the index of the files starts again, no two segments
      have one path.

    A segment's file is what a run of its `RecordFileWriter` leaves. -/

namespace CyberRT.Record

open CyberRT.Framework

/-! ## Section 1: Paths -/

theorem segmentPath_inj {file : List Char} {i j : UInt32}
    (h : segmentPath file i = segmentPath file j) : i = j := by
  have hdigits := (List.cons.inj (List.append_cancel_left h)).2
  have hnat := congrArg (Nat.ofDigitChars 10 · 0) hdigits
  simp only [List.leftpad, Nat.ofDigitChars_append, Nat.ofDigitChars_replicate_zero, Nat.mul_zero,
    Nat.ofDigitChars_ten_toDigits] at hnat
  exact UInt32.toNat_inj.mp hnat

/-- Files are split. -/
def Header.Splits (header : Header) : Prop :=
  header.segmentInterval > 0 ∨ header.segmentRawSize > 0

instance (header : Header) : Decidable header.Splits := inferInstanceAs (Decidable (_ ∨ _))

/-- The paths of the first `n` segments. -/
def segmentPaths (header : Header) (file : List Char) (n : Nat) : List (List Char) :=
  if header.Splits then (List.range n).map fun i => segmentPath file (.ofNat i) else [file]

theorem nodup_segmentPaths (header : Header) (file : List Char) {n : Nat} (hn : n ≤ 100000) :
    (segmentPaths header file n).Nodup := by
  unfold segmentPaths
  split
  · refine List.Nodup.map_on (fun i hi j hj h => ?_) List.nodup_range
    have hsize : 100000 < UInt32.size := by decide
    have hi : i < UInt32.size := by have := List.mem_range.mp hi; omega
    have hj : j < UInt32.size := by have := List.mem_range.mp hj; omega
    have hij := congrArg UInt32.toNat (segmentPath_inj h)
    rwa [UInt32.toNat_ofNat_of_lt' hi, UInt32.toNat_ofNat_of_lt' hj] at hij
  · exact List.nodup_singleton file

/-! ## Section 2: Registered channels -/

/-- What was registered first under `name`. -/
def registered (calls : List Call) (name : List UInt8) : Option Channel :=
  (channelsIn calls).find? (·.name = name)

/-- A message's channel is registered before it. -/
def Registered (calls : List Call) : Prop :=
  ∀ pre m post, calls = pre ++ .writeMessage m :: post →
    ∃ c ∈ channelsIn pre, c.name = m.channelName

section registered

variable {calls : List Call}

theorem Registered.of_concat {c : Call} (h : Registered (calls ++ [c])) : Registered calls := by
  intro pre m post hcalls
  exact h pre m (post ++ [c]) (by rw [hcalls, List.append_assoc]; rfl)

theorem Registered.last {m : SingleMessage} (h : Registered (calls ++ [.writeMessage m])) :
    ∃ c, registered calls m.channelName = some c := by
  obtain ⟨c, hc, hname⟩ := h calls m [] rfl
  have hsome : (registered calls m.channelName).isSome := by
    refine List.find?_isSome.mpr ⟨c, hc, ?_⟩
    simpa using hname
  exact Option.isSome_iff_exists.mp hsome

@[simp] theorem channelsIn_concat (calls : List Call) (c : Call) :
    channelsIn (calls ++ [c]) = channelsIn calls ++ c.asChannel.toList := by
  cases c <;> simp [channelsIn, Call.asChannel]

@[simp] theorem callMessages_concat (calls : List Call) (c : Call) :
    callMessages (calls ++ [c]) = callMessages calls ++ c.asMessage.toList := by
  cases c <;> simp [callMessages, Call.asMessage]

@[simp] theorem registered_message (m : SingleMessage) (name : List UInt8) :
    registered (calls ++ [.writeMessage m]) name = registered calls name := by
  simp [registered, Call.asChannel]

/-- A channel is registered once. -/
theorem registered_channel (c : Channel) (name : List UInt8) :
    registered (calls ++ [.writeChannel c]) name =
      (registered calls name).or (if c.name = name then some c else none) := by
  unfold registered
  rw [channelsIn_concat, List.find?_append]
  by_cases hname : c.name = name <;> simp [Call.asChannel, hname]

theorem callMessages_channel (calls : List Call) (c : Channel) :
    callMessages (calls ++ [.writeChannel c]) = callMessages calls := by
  simp [Call.asMessage]

/-- What is registered stays registered. -/
theorem registered_mono {name : List UInt8} {c' : Channel} (c : Channel)
    (h : registered calls name = some c') :
    registered (calls ++ [.writeChannel c]) name = some c' := by
  rw [registered_channel, h]
  rfl

theorem registered_newChannel {c : Channel} (hnone : registered calls c.name = none)
    (name : List UInt8) : registered (calls ++ [.writeChannel c]) name =
      if c.name = name then some c else registered calls name := by
  rw [registered_channel]
  by_cases hname : c.name = name
  · rw [if_pos hname, if_pos hname, ← hname, hnone]
    rfl
  · rw [if_neg hname, if_neg hname, Option.or_none]

/-- No message is written to a channel that is not registered. -/
theorem Registered.numberOf_eq_zero {name : List UInt8} (h : Registered calls)
    (hnone : registered calls name = none) : numberOf (callMessages calls) name = 0 := by
  induction calls using List.reverseRecOn with
  | nil => rfl
  | append_singleton calls c ih =>
    cases c with
    | writeChannel c =>
      rw [registered_channel] at hnone
      rw [callMessages_concat, Call.asMessage, Option.toList_none, List.append_nil]
      exact ih h.of_concat (Option.or_eq_none_iff.mp hnone).1
    | writeMessage m =>
      rw [registered_message] at hnone
      obtain ⟨c, hc⟩ := h.last
      have hne : m.channelName ≠ name := by
        rintro rfl
        rw [hnone] at hc
        cases hc
      have hzero := ih h.of_concat hnone
      rw [callMessages_concat]
      simpa [numberOf, Call.asMessage, hne] using hzero

/-! ## Section 3: What a writer keeps -/

/-- The segments so far, the one being written last. -/
def RecordWriter.segments (w : RecordWriter) : List SegmentFile := w.closed ++ [w.fileWriter]

/-- **Invariant**: what was written is in the segments, and what is known of
    the channels is right. -/
structure Kept (header : Header) (calls : List Call) (w : RecordWriter) : Prop where
  header   : w.header = header
  opened   : w.isOpened = true
  messages : w.segments.flatMap (callMessages ·.calls) = callMessages calls
  covered  : ∀ f ∈ w.segments, ∀ m ∈ callMessages f.calls,
    ∃ c, registered calls m.channelName = some c ∧ c ∈ channelsIn f.calls
  current  : ∀ name c, registered calls name = some c → c ∈ channelsIn w.fileWriter.calls
  numbers  : ∀ name, w.channelMessageNumberMap.find? (·.1 = name) =
    (registered calls name).map fun _ => (name, .ofNat (numberOf (callMessages calls) name))
  known    : ∀ name c, registered calls name = some c → w.channelOf name = c

namespace Kept

variable {header : Header} {w : RecordWriter}

theorem first (header : Header) (file : List Char) : Kept header [] (.openFile header file) where
  header   := rfl
  opened   := rfl
  messages := rfl
  covered  := by
    intro f hf m hm
    cases List.mem_singleton.mp hf
    cases hm
  current  := nofun
  numbers  := fun _ => rfl
  known    := nofun

theorem isNewChannel (h : Kept header calls w) (name : List UInt8) :
    w.isNewChannel name = (registered calls name).isNone := by
  unfold RecordWriter.isNewChannel
  rw [h.numbers, Option.isNone_map]

/-- A channel that is known is not registered again. -/
theorem duplicate (h : Kept header calls w) {c c' : Channel}
    (hc : registered calls c.name = some c') : Kept header (calls ++ [.writeChannel c]) w := by
  have hsame : registered (calls ++ [.writeChannel c]) = registered calls := by
    funext name
    rw [registered_channel]
    by_cases hname : c.name = name
    · rw [← hname, hc]
      rfl
    · rw [if_neg hname, Option.or_none]
  have hmessages := callMessages_channel calls c
  exact
    { header   := h.header
      opened   := h.opened
      messages := hmessages ▸ h.messages
      covered  := hsame ▸ h.covered
      current  := hsame ▸ h.current
      numbers  := hsame ▸ hmessages ▸ h.numbers
      known    := hsame ▸ h.known }

/-- What a call of a new channel changes. -/
theorem writeChannel_new {c : Channel} (hnew : w.isNewChannel c.name = true) :
    w.writeChannel c = { w with
      channelMessageNumberMap := w.channelMessageNumberMap ++ [(c.name, 0)]
      channelMessageTypeMap   := Function.update w.channelMessageTypeMap c.name c.messageType
      channelProtoDescMap     := Function.update w.channelProtoDescMap c.name c.protoDesc
      fileWriter              := w.fileWriter.write (.writeChannel c) } := by
  unfold RecordWriter.writeChannel RecordWriter.onNewChannel
  rw [if_pos hnew, if_pos hnew]
  rfl

/-- A new channel. -/
theorem newChannel (h : Kept header calls w) {c : Channel} (hnone : registered calls c.name = none)
    (hzero : numberOf (callMessages calls) c.name = 0) :
    Kept header (calls ++ [.writeChannel c]) (w.writeChannel c) := by
  have hnew : w.isNewChannel c.name = true := by
    rw [h.isNewChannel, hnone]
    rfl
  have hregistered := registered_newChannel hnone
  have hmessages := callMessages_channel calls c
  rw [writeChannel_new hnew]
  -- the messages there have the channels they had
  have hmem : ∀ f ∈ w.segments, ∀ m ∈ callMessages f.calls,
      ∃ c', registered (calls ++ [.writeChannel c]) m.channelName = some c' ∧
        c' ∈ channelsIn f.calls := by
    intro f hf m hm
    obtain ⟨c', hc', hin⟩ := h.covered f hf m hm
    exact ⟨c', registered_mono c hc', hin⟩
  constructor
  · exact h.header
  · exact h.opened
  · rw [hmessages, ← h.messages]
    simp [RecordWriter.segments, SegmentFile.write, Call.asMessage]
  · intro f hf m hm
    obtain hf | hf := List.mem_append.mp hf
    · exact hmem f (List.mem_append_left _ hf) m hm
    · cases List.mem_singleton.mp hf
      have hm' : m ∈ callMessages w.fileWriter.calls := by
        simpa [SegmentFile.write, Call.asMessage] using hm
      obtain ⟨c', hc', hin⟩ := hmem w.fileWriter (List.mem_append_right _ (.head _)) m hm'
      refine ⟨c', hc', ?_⟩
      simp [SegmentFile.write, hin]
  · intro name c' hc'
    rw [hregistered] at hc'
    by_cases hname : c.name = name
    · rw [if_pos hname] at hc'
      cases hc'
      simp [SegmentFile.write, Call.asChannel]
    · rw [if_neg hname] at hc'
      simp [SegmentFile.write, h.current name c' hc']
  · intro name
    dsimp only
    rw [List.find?_append, h.numbers, hregistered, hmessages]
    by_cases hname : c.name = name
    · subst hname
      simp [hnone, hzero]
    · simp [hname]
  · intro name c' hc'
    rw [hregistered] at hc'
    by_cases hname : c.name = name
    · rw [if_pos hname] at hc'
      cases hc'
      subst hname
      simp [RecordWriter.channelOf]
    · rw [if_neg hname] at hc'
      have hknown := h.known name c' hc'
      simpa [RecordWriter.channelOf, Function.update_of_ne (Ne.symm hname)] using hknown

/-- A message of a channel that is known. -/
theorem newMessage (h : Kept header calls w) (m : SingleMessage) {c : Channel}
    (hc : registered calls m.channelName = some c) :
    Kept header (calls ++ [.writeMessage m]) (w.addMessage m) := by
  have hmessages : callMessages (calls ++ [.writeMessage m]) = callMessages calls ++ [m] := by
    simp [Call.asMessage]
  constructor
  · exact h.header
  · exact h.opened
  · rw [hmessages, ← h.messages]
    simp [RecordWriter.segments, RecordWriter.addMessage, RecordWriter.measure,
      RecordWriter.writeFile, RecordWriter.onNewMessage, SegmentFile.write, Call.asMessage]
  · intro f hf m' hm'
    rw [registered_message]
    obtain hf | hf := List.mem_append.mp hf
    · exact h.covered f (List.mem_append_left _ hf) m' hm'
    · cases List.mem_singleton.mp hf
      have hin : m' ∈ callMessages w.fileWriter.calls ∨ m' = m := by
        simpa [RecordWriter.addMessage, RecordWriter.measure, RecordWriter.writeFile,
          RecordWriter.onNewMessage, SegmentFile.write, Call.asMessage] using hm'
      have hchannels : ∀ c', c' ∈ channelsIn w.fileWriter.calls →
          c' ∈ channelsIn (w.addMessage m).fileWriter.calls := by
        intro c' hin
        exact (channelsIn_concat _ _).symm ▸ List.mem_append_left _ hin
      obtain hin | rfl := hin
      · obtain ⟨c', hc', hin'⟩ := h.covered w.fileWriter (List.mem_append_right _ (.head _)) m' hin
        exact ⟨c', hc', hchannels c' hin'⟩
      · exact ⟨c, hc, hchannels c (h.current _ c hc)⟩
  · intro name c' hc'
    rw [registered_message] at hc'
    exact (channelsIn_concat _ _).symm ▸ List.mem_append_left _ (h.current name c' hc')
  · intro name
    -- counting a message changes no key of the map
    have hkeys : ((fun e : List UInt8 × UInt64 => decide (e.1 = name)) ∘ fun e =>
        if e.1 = m.channelName then (e.1, e.2 + 1) else e) = fun e => decide (e.1 = name) := by
      funext e
      by_cases he : e.1 = m.channelName <;> simp [he]
    show (w.channelMessageNumberMap.map _).find? _ = _
    rw [List.find?_map, hkeys, h.numbers, registered_message, hmessages, numberOf_concat]
    cases registered calls name with
    | none => rfl
    | some c' =>
      by_cases hname : m.channelName = name
      · simp [hname, UInt64.ofNat_add]
      · simp [hname, Ne.symm hname]
  · intro name c' hc'
    rw [registered_message] at hc'
    exact h.known name c' hc'

end Kept

theorem foldl_writeFile (names : List (List UInt8)) (w : RecordWriter) :
    names.foldl (fun w name => w.writeFile (.writeChannel (w.channelOf name))) w =
      { w with
        fileWriter :=
          { w.fileWriter with
            calls := w.fileWriter.calls ++
              names.map fun name => .writeChannel (w.channelOf name) } } := by
  induction names generalizing w with
  | nil => simp
  | cons name names ih =>
    rw [List.foldl_cons, ih]
    simp [RecordWriter.writeFile, SegmentFile.write, RecordWriter.channelOf]

/-- The next segment has all channels that are known. -/
theorem Kept.split {header : Header} {w : RecordWriter} (h : Kept header calls w)
    {names : List (List UInt8)} (hnames : names.Perm w.names) :
    Kept header calls (w.closeSegment.splitOutfile names) := by
  unfold RecordWriter.splitOutfile
  dsimp only
  rw [foldl_writeFile]
  have hnone : ∀ names : List (List UInt8), callMessages (names.map fun name =>
      .writeChannel (w.channelOf name)) = [] := by
    intro names
    simp [callMessages, List.filterMap_map, Function.comp_def, Call.asMessage]
  have hchannels : channelsIn (names.map fun name => .writeChannel (w.channelOf name)) =
      names.map w.channelOf := by
    simp [channelsIn, List.filterMap_map, Function.comp_def, Call.asChannel]
  constructor
  · exact h.header
  · exact h.opened
  · show ((w.closed ++ [w.fileWriter.close]) ++ [_]).flatMap _ = _
    rw [List.flatMap_append, List.flatMap_append, ← h.messages]
    simp only [RecordWriter.segments, List.flatMap_append, List.flatMap_singleton]
    show _ ++ callMessages ([] ++ names.map fun name => .writeChannel (w.channelOf name)) = _
    rw [List.nil_append, hnone, List.append_nil]
    rfl
  · intro f hf m hm
    obtain hf | hf := List.mem_append.mp hf
    · obtain hf | hf := List.mem_append.mp hf
      · exact h.covered f (List.mem_append_left _ hf) m hm
      · cases List.mem_singleton.mp hf
        exact h.covered w.fileWriter (List.mem_append_right _ (.head _)) m hm
    · cases List.mem_singleton.mp hf
      have hm' : m ∈ callMessages (names.map fun name => .writeChannel (w.channelOf name)) := hm
      rw [hnone] at hm'
      cases hm'
  · intro name c hc
    show c ∈ channelsIn (names.map fun name => .writeChannel (w.channelOf name))
    rw [hchannels]
    refine List.mem_map.mpr ⟨name, hnames.mem_iff.mpr ?_, h.known name c hc⟩
    have hfind := h.numbers name
    rw [hc] at hfind
    exact List.mem_map.mpr ⟨_, List.mem_of_find?_eq_some hfind, rfl⟩
  · exact h.numbers
  · exact h.known

section run

variable {order : List (List UInt8) → List (List UInt8)} {header : Header} {file : List Char}

/-- **Step lemma**, one call. -/
theorem Kept.call (horder : ∀ names, (order names).Perm names) {w : RecordWriter} {c : Call}
    (hreg : Registered (calls ++ [c])) (h : Kept header calls w) :
    Kept header (calls ++ [c]) (w.call order c) := by
  cases c with
  | writeChannel c =>
    cases hc : registered calls c.name with
    | some c' =>
      have hold : w.isNewChannel c.name = false := by
        rw [h.isNewChannel, hc]
        rfl
      show Kept header _ (w.writeChannel c)
      unfold RecordWriter.writeChannel
      rw [if_neg (by simp [hold])]
      exact h.duplicate hc
    | none => exact h.newChannel hc (hreg.of_concat.numberOf_eq_zero hc)
  | writeMessage m =>
    obtain ⟨c, hc⟩ := hreg.last
    have hadd := h.newMessage m hc
    show Kept header _ (w.writeMessage order m)
    unfold RecordWriter.writeMessage
    dsimp only
    split
    · exact hadd.split (horder _)
    · exact hadd

/-- **Run lemma**, all calls. -/
theorem kept_run (horder : ∀ names, (order names).Perm names) (header : Header) (file : List Char)
    (hreg : Registered calls) :
    Kept header calls ((RecordWriter.openFile header file).run order calls) := by
  induction calls using List.reverseRecOn with
  | nil => exact .first header file
  | append_singleton calls c ih =>
    unfold RecordWriter.run at ih ⊢
    rw [List.foldl_append]
    exact (ih hreg.of_concat).call horder hreg

/-! ## Section 4: Paths of the segments -/

/-- **Invariant**: the segments have the first paths, and the index is that
    of the next one, as long as it does not start again. -/
structure Numbered (header : Header) (file : List Char) (w : RecordWriter) : Prop where
  sameHeader : w.header = header
  sameFile   : w.file = file
  single     : ¬ header.Splits → w.closed = []
  paths      : w.segments.length ≤ 100000 → w.fileIndex.toNat = w.segments.length ∧
    w.segments.map (·.path) = segmentPaths header file w.segments.length

theorem Numbered.first (header : Header) (file : List Char) :
    Numbered header file (.openFile header file) where
  sameHeader := rfl
  sameFile   := rfl
  single     := fun _ => rfl
  paths      := by
    intro _
    refine ⟨rfl, ?_⟩
    unfold segmentPaths
    split
    · next hsplits => exact congrArg (fun path => [path]) (if_pos hsplits)
    · next hsplits => exact congrArg (fun path => [path]) (if_neg hsplits)

theorem Numbered.of_same {w w' : RecordWriter} (h : Numbered header file w)
    (hheader : w'.header = w.header) (hfile : w'.file = w.file)
    (hindex : w'.fileIndex = w.fileIndex)
    (hclosed : w'.closed = w.closed) (hpath : w'.fileWriter.path = w.fileWriter.path) :
    Numbered header file w' := by
  have hlen : w'.segments.length = w.segments.length := by
    simp [RecordWriter.segments, hclosed]
  have hpaths : w'.segments.map (·.path) = w.segments.map (·.path) := by
    simp [RecordWriter.segments, hclosed, hpath]
  refine ⟨hheader.trans h.sameHeader, hfile.trans h.sameFile, ?_, ?_⟩
  · rw [hclosed]
    exact h.single
  · rw [hlen, hpaths, hindex]
    exact h.paths

theorem Numbered.split {w : RecordWriter} (h : Numbered header file w) (hsplits : header.Splits)
    (names : List (List UInt8)) : Numbered header file (w.closeSegment.splitOutfile names) := by
  unfold RecordWriter.splitOutfile
  dsimp only
  rw [foldl_writeFile]
  refine ⟨h.sameHeader, h.sameFile, fun hnot => absurd hsplits hnot, ?_⟩
  intro hcount
  have hlen : w.segments.length = w.closed.length + 1 := by simp [RecordWriter.segments]
  have hcount' : w.segments.length + 1 ≤ 100000 := by
    rw [hlen]
    have hclosed : w.closed.length + 1 < 100000 := by
      simp [RecordWriter.segments, RecordWriter.closeSegment] at hcount
      omega
    omega
  obtain ⟨hindex, hpaths⟩ := h.paths (by omega)
  -- the index has not reached its last value
  have hnext : ¬ w.fileIndex > 99999 := by
    rw [gt_iff_lt, UInt32.lt_iff_toNat_lt, hindex]
    show ¬ 99999 < w.segments.length
    omega
  have hofNat : w.fileIndex = .ofNat w.segments.length := by
    rw [← hindex, UInt32.ofNat_toNat]
  have hsucc : (w.fileIndex + 1).toNat = w.segments.length + 1 := by
    rw [UInt32.toNat_add, hindex, show (1 : UInt32).toNat = 1 from rfl]
    exact Nat.mod_eq_of_lt (by omega)
  have hsegments : ∀ f : SegmentFile, f.path = segmentPath file w.fileIndex →
      ((w.closed ++ [w.fileWriter.close]) ++ [f]).map (·.path) =
        segmentPaths header file (w.segments.length + 1) := by
    intro f hf
    have hold : (w.closed ++ [w.fileWriter.close]).map (·.path) =
        w.segments.map (·.path) := by
      simp [RecordWriter.segments, SegmentFile.close]
    rw [List.map_append, hold, hpaths, List.map_singleton, hf, hofNat]
    simp [segmentPaths, hsplits, List.range_succ]
  have hclosed : w.closeSegment.fileIndex = w.fileIndex := rfl
  have hlen' : ∀ f : SegmentFile,
      ((w.closed ++ [w.fileWriter.close]) ++ [f]).length = w.segments.length + 1 := by
    intro f
    simp [hlen]
  simp only [RecordWriter.segments, hclosed, if_neg hnext]
  refine ⟨?_, ?_⟩
  · rw [hsucc]
    exact (hlen' _).symm
  · refine (hsegments _ ?_).trans (congrArg (segmentPaths header file) (hlen' _).symm)
    exact congrArg (segmentPath · w.fileIndex) h.sameFile

theorem splits_of_needSplit {w : RecordWriter} {m : SingleMessage} (h : w.needSplit m = true) :
    w.header.Splits := by
  obtain hinterval | hsize := (Bool.or_eq_true _ _).mp h
  · exact .inl (of_decide_eq_true hinterval).1
  · exact .inr (of_decide_eq_true hsize).1

/-- **Step lemma**, paths. -/
theorem Numbered.call {w : RecordWriter} (h : Numbered header file w) (c : Call) :
    Numbered header file (w.call order c) := by
  cases c with
  | writeChannel c =>
    show Numbered header file (w.writeChannel c)
    unfold RecordWriter.writeChannel RecordWriter.onNewChannel
    split
    · exact h.of_same rfl rfl rfl rfl rfl
    · exact h
  | writeMessage m =>
    have hadd : Numbered header file (w.addMessage m) := h.of_same rfl rfl rfl rfl rfl
    show Numbered header file (w.writeMessage order m)
    unfold RecordWriter.writeMessage
    dsimp only
    split
    · next hneed => exact hadd.split (hadd.sameHeader ▸ splits_of_needSplit hneed) _
    · exact hadd

/-- **Run lemma**, paths. -/
theorem numbered_run (header : Header) (file : List Char) (calls : List Call) :
    Numbered header file ((RecordWriter.openFile header file).run order calls) := by
  induction calls using List.reverseRecOn with
  | nil => exact .first header file
  | append_singleton calls c ih =>
    unfold RecordWriter.run at ih ⊢
    rw [List.foldl_append]
    exact ih.call c

end run

end registered

/-! ## Section 5: The file of a segment -/

/-- The calls to a file writer among its steps. -/
def Label.calls : Label → List Call
  | .writeChannel c => [.writeChannel c]
  | .writeMessage m => [.writeMessage m]
  | _ => []

/-- The channel that is being written. -/
def CallerPc.channels : CallerPc → List Channel
  | .channelLock c | .channelWrite c => [c]
  | _ => []

def State.channels (s : State) : List Channel := channelsOf s.blocks ++ s.caller.channels

section file

variable {P : Protobuf} {given : Header} {s : State}

/-- What a step adds to the messages and the channels is what it was called
    with. -/
structure Takes (s : State) (cs : List Call) (s' : State) : Prop where
  written  : s'.written = s.written ++ callMessages cs
  channels : s'.channels = s.channels ++ channelsIn cs

theorem Takes.of_other {s' : State} (hw : s'.written = s.written)
    (hb : channelsOf s'.blocks = channelsOf s.blocks)
    (hc : s'.caller.channels = s.caller.channels) : Takes s [] s' := by
  refine ⟨hw.trans (List.append_nil _).symm, ?_⟩
  unfold State.channels
  rw [hb, hc]
  exact (List.append_nil _).symm

/-- **Step lemma**, calls to a file writer. -/
theorem takes_step (a : Label) (hg : ((recordFileWriter P given).action a).gate s) :
    Takes s a.calls (((recordFileWriter P given).action a).effect s) := by
  cases a with
  | writeChannel c =>
    have hnone : s.caller.channels = [] := by
      rw [show s.caller = .idle from hg]
      rfl
    refine ⟨(List.append_nil _).symm, ?_⟩
    unfold State.channels
    rw [hnone, List.append_nil]
    rfl
  | writeMessage m =>
    have hnone : s.caller.channels = [] := by
      rw [hg.1]
      rfl
    refine ⟨rfl, ?_⟩
    show channelsOf s.blocks ++ CallerPc.channels (if _ then _ else _) = _ ++ []
    rw [List.append_nil, State.channels, hnone]
    split <;> rfl
  -- between the call and the write the channel is held by the caller
  | channelLock c =>
    refine .of_other rfl rfl ?_
    rw [hg.1]
    rfl
  | channelWrite c =>
    refine ⟨(List.append_nil _).symm, ?_⟩
    show channelsOf (s.blocks ++ [.channel c]) ++ [] = _ ++ []
    rw [channelsOf_concat_channel, State.channels, hg.1, List.append_nil, List.append_nil]
    rfl
  | chunkBody => exact .of_other rfl (channelsOf_concat_chunk _ _) rfl
  | writeHeader | close | swap last | notify last | stop | notifyAll | setComplete =>
    refine .of_other rfl rfl ?_
    rw [show s.caller = _ from hg]
    rfl
  | headerLock last | swapLock last | waitFlush | waitLast | join | indexLock | indexWrite =>
    refine .of_other rfl rfl ?_
    rw [hg.1]
    rfl
  | headerWrite last =>
    refine .of_other rfl rfl ?_
    rw [hg.1]
    cases last <;> rfl
  | swapUnlock last =>
    refine .of_other rfl rfl ?_
    rw [show s.caller = _ from hg]
    cases last <;> rfl
  | checkWriting | checkEmpty =>
    show Takes s [] (if _ then _ else _)
    split <;> exact .of_other rfl rfl rfl
  | loop | lock | test | block | spurious | relock | chunkLock | chunkHeader | clear | unlock =>
    exact .of_other rfl rfl rfl

/-- **Run lemma**, calls to a file writer. -/
theorem takes_run {s s' : State} {as : List Label} (h : (recordFileWriter P given).Run s as s') :
    Takes s (as.flatMap Label.calls) s' := by
  induction h with
  | nil s => exact .of_other rfl rfl rfl
  | cons a as hstep _ ih =>
    obtain ⟨hg, rfl⟩ := hstep
    have hfirst := takes_step a hg
    constructor
    · rw [ih.written, hfirst.written, List.append_assoc, List.flatMap_cons]
      simp [callMessages]
    · rw [ih.channels, hfirst.channels, List.append_assoc, List.flatMap_cons]
      simp [channelsIn]

end file

/-- `f` is what some run of the segment's file writer leaves, in which the
    messages stay in order. -/
def SegmentFile.Leaves (P : Protobuf) (seg : SegmentFile) (f : RecordFile) : Prop :=
  ∃ s₀ as s, (recordFileWriter P seg.header).init s₀ ∧ (recordFileWriter P seg.header).Run s₀ as s ∧
    as.flatMap Label.calls = seg.calls ∧ s.caller = .closed ∧ messagesOf s.blocks = s.written ∧
    s.content = f

theorem SegmentFile.Leaves.messages {P : Protobuf} {seg : SegmentFile} {f : RecordFile}
    (h : seg.Leaves P f) : messagesOf f.blocks = callMessages seg.calls := by
  obtain ⟨s₀, as, s, hi, hrun, hcalls, _, horder, rfl⟩ := h
  have htakes := (takes_run hrun).written
  have hfirst : s₀.written = [] := congrArg RecordFileWriter.written hi.1
  show messagesOf s.blocks = _
  rw [horder, htakes, hfirst, hcalls]
  rfl

theorem SegmentFile.Leaves.channels {P : Protobuf} {seg : SegmentFile} {f : RecordFile}
    (h : seg.Leaves P f) : channelsOf f.blocks = channelsIn seg.calls := by
  obtain ⟨s₀, as, s, hi, hrun, hcalls, hclosed, _, rfl⟩ := h
  have htakes := (takes_run hrun).channels
  have hfirst : s₀.channels = [] := by
    unfold State.channels
    rw [show s₀.blocks = [] from congrArg RecordFileWriter.blocks hi.1, hi.2.2.2.2.1]
    rfl
  unfold State.channels at htakes hfirst
  rw [hfirst, hcalls, hclosed] at htakes
  exact (List.append_nil _).symm.trans htakes

theorem mem_channelsOf {blocks : List Block} {c : Channel} :
    c ∈ channelsOf blocks ↔ .channel c ∈ blocks := by
  unfold channelsOf
  rw [List.mem_filterMap]
  constructor
  · rintro ⟨b, hb, hc⟩
    cases b with
    | channel c' =>
      cases hc
      exact hb
    | chunk ms => cases hc
  · exact fun hb => ⟨.channel c, hb, rfl⟩

/-- The messages of the files are those of the segments. -/
theorem messages_of_leaves {P : Protobuf} {segs : List SegmentFile} {files : List RecordFile}
    (h : List.Forall₂ (SegmentFile.Leaves P) segs files) :
    files.flatMap (messagesOf ·.blocks) = segs.flatMap (callMessages ·.calls) := by
  induction h with
  | nil => rfl
  | cons hf _ ih => rw [List.flatMap_cons, List.flatMap_cons, hf.messages, ih]

theorem mem_of_leaves {P : Protobuf} {segs : List SegmentFile} {files : List RecordFile}
    (h : List.Forall₂ (SegmentFile.Leaves P) segs files) {f : RecordFile} (hf : f ∈ files) :
    ∃ seg ∈ segs, seg.Leaves P f := by
  induction h with
  | nil => cases hf
  | cons hleaves _ ih =>
    obtain rfl | hf := List.mem_cons.mp hf
    · exact ⟨_, .head _, hleaves⟩
    · obtain ⟨seg, hseg, hleaves⟩ := ih hf
      exact ⟨seg, .tail _ hseg, hleaves⟩

/-! ## Section 6: Segmentation -/

/-- The begin time of the segment is not after the message that is tested
    against it: the difference of the two does not wrap around. -/
theorem segmentBeginTime_le (w : RecordWriter) (m : SingleMessage) :
    (w.measure m).segmentBeginTime ≤ m.time := by
  unfold RecordWriter.measure
  dsimp only
  generalize (if w.segmentBeginTime = 0 then m.time else w.segmentBeginTime) = beginTime
  by_cases hgt : beginTime > m.time
  · rw [if_pos hgt]
    exact UInt64.le_refl _
  · rw [if_neg hgt]
    exact UInt64.not_lt.mp hgt

/-- `Close` leaves the segments closed. -/
theorem RecordWriter.closed_close {w : RecordWriter} (hopened : w.isOpened = true) :
    w.close.closed = w.closed ++ [w.fileWriter.close] := by
  unfold RecordWriter.close
  rw [if_pos hopened]

/-- **Main result**: the files of the segments, no two of one path, hold the
    messages written in the order in which they were written; each has the
    channels of its messages, as they were registered first; the writer has
    counted all messages, as a `uint64_t` counts; and no difference of times
    wraps around. -/
theorem recordWriter_segments (P : Protobuf) (header : Header) (file : List Char)
    {order : List (List UInt8) → List (List UInt8)} (horder : ∀ names, (order names).Perm names)
    {calls : List Call} (hreg : Registered calls) {w : RecordWriter}
    (hw : ((RecordWriter.openFile header file).run order calls).close = w)
    (hcount : w.closed.length ≤ 100000) {files : List RecordFile}
    (hfiles : List.Forall₂ (SegmentFile.Leaves P) w.closed files) :
    (w.closed.map (·.path)).Nodup ∧
      files.flatMap (messagesOf ·.blocks) = callMessages calls ∧
      (∀ f ∈ files, ∀ m ∈ messagesOf f.blocks,
        ∃ c, registered calls m.channelName = some c ∧ .channel c ∈ f.blocks) ∧
      (∀ name, w.getMessageNumber name =
        .ofNat (numberOf (files.flatMap (messagesOf ·.blocks)) name)) ∧
      ∀ pre m post, calls = pre ++ .writeMessage m :: post →
        (((RecordWriter.openFile header file).run order pre).addMessage m).segmentBeginTime ≤
          m.time := by
  subst hw
  have hkept := kept_run horder header file hreg
  have hnumbered : Numbered header file ((RecordWriter.openFile header file).run order calls) :=
    numbered_run header file calls
  generalize (RecordWriter.openFile header file).run order calls = w at *
  rw [RecordWriter.closed_close hkept.opened] at hcount hfiles
  have hpaths : (w.closed ++ [w.fileWriter.close]).map (·.path) = w.segments.map (·.path) := by
    simp [RecordWriter.segments, SegmentFile.close]
  have hlen : w.segments.length = (w.closed ++ [w.fileWriter.close]).length := by
    simp [RecordWriter.segments]
  have hmessages : files.flatMap (messagesOf ·.blocks) = callMessages calls := by
    rw [messages_of_leaves hfiles, ← hkept.messages, RecordWriter.segments, List.flatMap_append,
      List.flatMap_append]
    rfl
  refine ⟨?_, hmessages, ?_, ?_, fun _ m _ _ => segmentBeginTime_le _ m⟩
  · rw [RecordWriter.closed_close hkept.opened, hpaths,
      (hnumbered.paths (hlen ▸ hcount)).2]
    exact nodup_segmentPaths header file (hlen ▸ hcount)
  · intro f hf m hm
    -- the segment this is the file of
    obtain ⟨seg, hseg, hleaves⟩ := mem_of_leaves hfiles hf
    rw [hleaves.messages] at hm
    have hcovered : ∃ c, registered calls m.channelName = some c ∧ c ∈ channelsIn seg.calls := by
      obtain hin | hin := List.mem_append.mp hseg
      · exact hkept.covered seg (List.mem_append_left _ hin) m hm
      · cases List.mem_singleton.mp hin
        exact hkept.covered w.fileWriter (List.mem_append_right _ (.head _)) m hm
    obtain ⟨c, hc, hin⟩ := hcovered
    exact ⟨c, hc, mem_channelsOf.mp (hleaves.channels ▸ hin)⟩
  · intro name
    have hnumber : w.close.getMessageNumber name = w.getMessageNumber name := by
      unfold RecordWriter.close
      split <;> rfl
    rw [hnumber, hmessages, RecordWriter.getMessageNumber, hkept.numbers]
    cases hname : registered calls name with
    | none =>
      rw [hreg.numberOf_eq_zero hname]
      rfl
    | some c => rfl

/-- Segments of more than one byte are split. -/
def splitAfterByte : Header := { Header.default with segmentRawSize := 1 }

/-- The second segment of a channel with one message: the channel alone. -/
def oneChannelRun : List Label :=
  emptyRun.take 3 ++ [.writeChannel ⟨[97], [98], [99]⟩, .channelLock ⟨[97], [98], [99]⟩,
    .channelWrite ⟨[97], [98], [99]⟩] ++ emptyRun.drop 3

def oneMessageCalls : List Call :=
  [.writeChannel ⟨[97], [98], [99]⟩, .writeMessage ⟨[97], 5, [1, 2]⟩]

theorem oneMessageCalls_registered : Registered oneMessageCalls := by
  intro pre m post hcalls
  unfold oneMessageCalls at hcalls
  cases pre with
  | nil => cases hcalls
  | cons c pre =>
    cases pre with
    | nil =>
      cases hcalls
      exact ⟨⟨[97], [98], [99]⟩, .head _, rfl⟩
    | cons c pre => cases pre <;> cases hcalls

theorem recordWriter_segments_oneMessage :
    let w := ((RecordWriter.openFile splitAfterByte ['r']).run id oneMessageCalls).close
    let files := [oneMessageRun, oneChannelRun].map fun as =>
      ((recordFileWriter Wire.protobuf splitAfterByte).exec initial as).content
    (w.closed.map (·.path)).Nodup ∧
      files.flatMap (messagesOf ·.blocks) = callMessages oneMessageCalls ∧
      (∀ f ∈ files, ∀ m ∈ messagesOf f.blocks,
        ∃ c, registered oneMessageCalls m.channelName = some c ∧ .channel c ∈ f.blocks) ∧
      (∀ name, w.getMessageNumber name =
        .ofNat (numberOf (files.flatMap (messagesOf ·.blocks)) name)) ∧
      ∀ pre m post, oneMessageCalls = pre ++ .writeMessage m :: post →
        (((RecordWriter.openFile splitAfterByte ['r']).run id pre).addMessage m).segmentBeginTime ≤
          m.time := by
  intro w files
  have hfiles : List.Forall₂ (SegmentFile.Leaves Wire.protobuf) w.closed files := by
    have hfirst := System.run_exec (recordFileWriter Wire.protobuf splitAfterByte) initial
      oneMessageRun (by decide +kernel)
    have hsecond := System.run_exec (recordFileWriter Wire.protobuf splitAfterByte) initial
      oneChannelRun (by decide +kernel)
    refine .cons ⟨initial, _, _, initial_init _ _, hfirst, ?_⟩ (.cons ⟨initial, _, _,
      initial_init _ _, hsecond, ?_⟩ .nil)
    · exact ⟨by decide +kernel, by decide +kernel, by decide +kernel, rfl⟩
    · exact ⟨by decide +kernel, by decide +kernel, by decide +kernel, rfl⟩
  exact recordWriter_segments Wire.protobuf splitAfterByte ['r'] (fun _ => .refl _)
    oneMessageCalls_registered rfl (by decide +kernel) hfiles

end CyberRT.Record
