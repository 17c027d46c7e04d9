import CyberRT.Record.RecordViewer
import CyberRT.Record.RecordWindow
import CyberRT.Record.RecordWire
import Mathlib.Algebra.Order.BigOperators.Group.List
import Mathlib.Data.List.Perm.Basic

/-! # The viewer merges its files by time

    * **Readers**: behind each window a reader that is not finished has in
      front of it all messages of its file that are not before the window.
    * **Buffer**: what is in the buffer is ordered by time and before the
      window, so the front of the buffer is the earliest message left.
    * **Messages left**: filling the buffer moves messages from the files to
      the buffer, `Update` takes one of them, and nothing else changes what
      is left to be handed out.

    `Reset` restores the viewer that was created, so a second iteration is
    the first one again. -/

namespace CyberRT.Record

open CyberRT.Framework

variable {P : Protobuf} {b e : UInt64}

/-! ## Section 1: Lists of messages -/

def ByTime (ms : List RecordMessage) : Prop := ms.Pairwise fun x y => x.time ≤ y.time

theorem perm_emplace (m : RecordMessage) (buf : List RecordMessage) :
    (emplace m buf).Perm (m :: buf) := by
  induction buf with
  | nil => exact List.Perm.refl _
  | cons x buf ih =>
    unfold emplace
    split
    · exact List.Perm.refl _
    · exact (ih.cons x).trans (.swap m x buf)

theorem ByTime.emplace {m : RecordMessage} {buf : List RecordMessage} (h : ByTime buf) :
    ByTime (emplace m buf) := by
  induction buf with
  | nil => exact List.pairwise_singleton _ m
  | cons x buf ih =>
    obtain ⟨hx, hbuf⟩ := List.pairwise_cons.mp h
    unfold Record.emplace
    by_cases hlt : m.time < x.time
    · rw [if_pos hlt]
      refine List.pairwise_cons.mpr ⟨?_, h⟩
      refine List.forall_mem_cons.mpr ⟨UInt64.le_of_lt hlt, fun y hy => ?_⟩
      exact UInt64.le_trans (UInt64.le_of_lt hlt) (hx y hy)
    · rw [if_neg hlt]
      refine List.pairwise_cons.mpr ⟨fun y hy => ?_, ih hbuf⟩
      obtain rfl | hin := List.mem_cons.mp ((perm_emplace m buf).mem_iff.mp hy)
      · exact UInt64.not_lt.mp hlt
      · exact hx y hin

/-- The messages of a window. -/
def window (b e : UInt64) (ms : List SingleMessage) : List SingleMessage :=
  ms.filter fun m => b ≤ m.time ∧ m.time ≤ e

theorem mem_window {ms : List SingleMessage} {m : SingleMessage} :
    m ∈ window b e ms ↔ m ∈ ms ∧ b ≤ m.time ∧ m.time ≤ e := by
  simp [window]

/-- When the messages are ordered, reading finds the whole window. -/
theorem inWindow_of_sorted {ms : List SingleMessage}
    (h : ms.Pairwise fun x y => x.time ≤ y.time) : inWindow b e ms = window b e ms := by
  refine (inWindow_eq_filter_iff ms).mpr (h.imp fun hle hgt hin => ?_)
  exact UInt64.not_le.mpr hgt (UInt64.le_trans hle hin.2)

/-- Messages before the window do not count. -/
theorem window_append_of_lt {pre ms : List SingleMessage} (hpre : ∀ x ∈ pre, x.time < b) :
    window b e (pre ++ ms) = window b e ms := by
  have hnil : window b e pre = [] := by
    refine List.filter_eq_nil_iff.mpr fun x hx => ?_
    simp [UInt64.not_le.mpr (hpre x hx)]
  unfold window at hnil ⊢
  rw [List.filter_append, hnil, List.nil_append]

/-- A window is the one up to `t` and the one behind it. -/
theorem window_split {t : UInt64} (ms : List SingleMessage) (hbt : b ≤ t) (hte : t ≤ e)
    (ht : t.toNat + 1 < 2 ^ 64) :
    (window b e ms).Perm (window b t ms ++ window (t + 1) e ms) := by
  have hsucc : (t + 1).toNat = t.toNat + 1 := by
    rw [UInt64.toNat_add]
    exact Nat.mod_eq_of_lt ht
  induction ms with
  | nil => exact List.Perm.refl _
  | cons m ms ih =>
    simp only [UInt64.le_iff_toNat_le] at hbt hte
    unfold window at ih ⊢
    simp only [List.filter_cons, decide_eq_true_eq, UInt64.le_iff_toNat_le, hsucc] at ih ⊢
    by_cases hin : b.toNat ≤ m.time.toNat ∧ m.time.toNat ≤ e.toNat
    · rw [if_pos hin]
      by_cases hle : m.time.toNat ≤ t.toNat
      · rw [if_pos ⟨hin.1, hle⟩, if_neg (by omega)]
        exact ih.cons m
      · rw [if_neg (by omega), if_pos (by omega)]
        exact (ih.cons m).trans List.perm_middle.symm
    · rw [if_neg hin, if_neg (by omega), if_neg (by omega)]
      exact ih

/-! ## Section 2: A reader in a window -/

section readers
variable (flushMode : Bool)

/-- `Reset` undoes the reads of a window. -/
theorem reset_readInto {fuel reads : Nat} {r r' : RecordReader} {buf buf' : List RecordMessage}
    (h : RecordViewer.readInto P flushMode fuel b e reads r buf = some (r', buf')) :
    r'.reset = r.reset := by
  induction reads generalizing r buf with
  | zero => cases h
  | succ reads ih =>
    unfold RecordViewer.readInto at h
    split at h
    · cases h
    · next hread =>
      cases h
      exact RecordReader.reset_readMessage flushMode hread
    · next hread => exact (ih h).trans (RecordReader.reset_readMessage flushMode hread)

/-- **Run lemma**: reading a window into the buffer. What is taken off the
    file is not behind the window. -/
theorem readInto_stands (hP : P.Lawful) (hbe : b ≤ e) {idx : Index} {r : RecordReader} {c : Cursor}
    (h : Stands P idx r c) (hspan : ∀ p ∈ c.parts, p.Spans b e)
    (hheader : Spans b e r.header.beginTime r.header.endTime c.left)
    (hsorted : c.left.Pairwise fun x y => x.time ≤ y.time) {fuel reads : Nat}
    (hfuel : 2 * c.size + 2 ≤ fuel) (hreads : c.left.length + 1 ≤ reads)
    (buf : List RecordMessage) :
    ∃ r' buf' c' pre, RecordViewer.readInto P flushMode fuel b e reads r buf = some (r', buf') ∧
      Stands P idx r' c' ∧ c'.parts <:+ c.parts ∧ c'.size ≤ c.size ∧ c.left = pre ++ c'.left ∧
      (∀ x ∈ pre, x.time ≤ e) ∧
      buf'.Perm (buf ++ (window b e c.left).map RecordMessage.of) ∧
      (ByTime buf → ByTime buf') := by
  induction reads generalizing r c buf with
  | zero => omega
  | succ reads ih =>
    have hcalls : c.size + 1 ≤ fuel := by omega
    obtain ⟨out, r', c', hread, hstands, hout, hparts, hsize⟩ :=
      RecordReader.readMessage_stands flushMode hP h hspan hheader hfuel hcalls
    have hbefore : ∀ pre : List SingleMessage, (∀ x ∈ pre, x.time < b) → ∀ x ∈ pre, x.time ≤ e :=
      fun pre hpre x hx => UInt64.le_trans (UInt64.le_of_lt (hpre x hx)) hbe
    unfold RecordViewer.readInto
    rw [hread]
    generalize hpost : c'.left = post at hout
    cases hout with
    | found pre m _ hleft hpre hb he =>
      have hheader' :=
        RecordReader.header_eq_of_reset (RecordReader.reset_readMessage flushMode hread)
      have hsplit : c.left = (pre ++ [m]) ++ c'.left := by
        rw [hleft, hpost, List.append_assoc]
        rfl
      have hmem : ∀ x ∈ c'.left, x ∈ c.left := fun x hx => hsplit ▸ List.mem_append_right _ hx
      have hbounds : Spans b e r'.header.beginTime r'.header.endTime c'.left := by
        rw [hheader']
        exact hheader.mono hmem
      have hsorted' : c'.left.Pairwise fun x y => x.time ≤ y.time := by
        rw [hsplit] at hsorted
        exact (List.pairwise_append.mp hsorted).2.1
      have hlen : c.left.length = pre.length + 1 + c'.left.length := by
        rw [hsplit, List.length_append, List.length_append, List.length_singleton]
      obtain ⟨r'', buf', c'', pre', hrest, hstands', hparts', hsize', hleft', hpre', hperm,
          htime⟩ :=
        ih hstands (fun p hp => hspan p (hparts.subset hp)) hbounds hsorted' (by omega) (by omega)
          (emplace (.of m) buf)
      refine ⟨r'', buf', c'', pre ++ [m] ++ pre', hrest, hstands', hparts'.trans hparts,
        hsize'.trans hsize, ?_, ?_, ?_, fun hbuf => htime hbuf.emplace⟩
      · rw [hsplit, hleft', List.append_assoc _ pre']
      · refine List.forall_mem_append.mpr ⟨List.forall_mem_append.mpr ⟨hbefore pre hpre, ?_⟩, hpre'⟩
        exact List.forall_mem_singleton.mpr he
      · have hwindow : window b e c.left = m :: window b e c'.left := by
          rw [hsplit, List.append_assoc, window_append_of_lt hpre]
          exact List.filter_cons_of_pos (by simp [hb, he])
        rw [hwindow, List.map_cons]
        exact (hperm.trans ((perm_emplace _ buf).append_right _)).trans List.perm_middle.symm
    | none pre mid post' hleft hpre hhead =>
      -- behind a message beyond the window there is none of it, for the file is ordered
      refine ⟨r', buf, c', pre, rfl, hstands, hparts, hsize, ?_, ?_, ?_, id⟩
      · rw [hleft, hpost]
      · exact hbefore pre fun x hx => hpre x (List.mem_append_left mid hx)
      · have hnil : window b e c.left = [] := by
          rw [← inWindow_of_sorted hsorted, hleft, ← List.append_assoc,
            inWindow_append hpre fun x hx => .inr (hhead x hx)]
          exact inWindow_of_head hhead
        rw [hnil, List.map_nil, List.append_nil]

/-- A file whose messages are ordered by time, and whose times leave room
    for a step of the viewer. -/
structure PartFile.Ordered (P : Protobuf) (f : PartFile) : Prop extends f.WellFormed P where
  ordered : f.messages.Pairwise fun x y => x.time ≤ y.time
  room    : f.header.endTime.toNat + kStepTimeNanoSec.toNat + 1 < 2 ^ 64

/-- Before the window that begins at `curr`: a reader that is finished has no
    message left, one that is not has all messages that are not before
    `curr` in front of it. -/
structure SlotOk (P : Protobuf) (curr : UInt64) (f : PartFile) (s : Slot) : Prop where
  header   : s.reader.header = f.header
  finished : s.finished = true → f.header.endTime < curr
  running  : s.finished = false → ∃ c pre, Stands P f.index s.reader c ∧ c.parts <:+ f.parts ∧
    c.size ≤ f.parts.length ∧ f.messages = pre ++ c.left ∧ ∀ x ∈ pre, x.time < curr

theorem SlotOk.finish {curr : UInt64} {f : PartFile} {s : Slot} (h : SlotOk P curr f s) :
    SlotOk P curr f (RecordViewer.Slot.finish curr s) := by
  unfold RecordViewer.Slot.finish
  split
  · next hcond =>
    obtain ⟨_, hlt⟩ := (Bool.and_eq_true _ _).mp hcond
    refine ⟨h.header, fun _ => ?_, nofun⟩
    rw [← h.header]
    exact of_decide_eq_true hlt
  · exact h

/-- The reads of one window by all readers. -/
theorem readSlots_ok (hP : P.Lawful) (hbe : b ≤ e) (he : e.toNat + 1 < 2 ^ 64) {fuel : Nat}
    {files : List PartFile} {slots : List Slot} (hfiles : ∀ f ∈ files, f.Ordered P)
    (hfuel : ∀ f ∈ files, 2 * f.parts.length + f.messages.length + 2 ≤ fuel)
    (h : List.Forall₂ (SlotOk P b) files slots) (buf : List RecordMessage) :
    ∃ slots' buf', RecordViewer.readSlots P flushMode fuel b e slots buf = some (slots', buf') ∧
      List.Forall₂ (SlotOk P (e + 1)) files slots' ∧
      buf'.Perm (buf ++ (window b e (files.flatMap PartFile.messages)).map RecordMessage.of) ∧
      (ByTime buf → ByTime buf') := by
  have hnext : ∀ t : UInt64, t ≤ e → t < e + 1 := by
    intro t ht
    rw [UInt64.lt_iff_toNat_lt, UInt64.toNat_add, show (1 : UInt64).toNat = 1 from rfl,
      Nat.mod_eq_of_lt he]
    exact Nat.lt_succ_of_le (UInt64.le_iff_toNat_le.mp ht)
  induction h generalizing buf with
  | nil =>
    refine ⟨[], buf, rfl, .nil, ?_, id⟩
    rw [show window b e (List.flatMap PartFile.messages []) = [] from rfl, List.map_nil,
      List.append_nil]
  | @cons f s files slots hs _ ih =>
    obtain ⟨hf, hfiles⟩ := List.forall_mem_cons.mp hfiles
    obtain ⟨hfuel₀, hfuel⟩ := List.forall_mem_cons.mp hfuel
    have hwindow : window b e ((f :: files).flatMap PartFile.messages) =
        window b e f.messages ++ window b e (files.flatMap PartFile.messages) := by
      rw [List.flatMap_cons, window, List.filter_append]
      rfl
    rw [hwindow, List.map_append]
    unfold RecordViewer.readSlots
    cases hfin : s.finished with
    | true =>
      -- all its messages are before the window
      have hlt := hs.finished hfin
      have hnil : window b e f.messages = [] := by
        refine List.filter_eq_nil_iff.mpr fun x hx => ?_
        have hearly : x.time < b := (hf.spans_header (e := e)).early hlt x hx
        simp [UInt64.not_le.mpr hearly]
      obtain ⟨slots', buf', hread, hok, hperm, htime⟩ := ih hfiles hfuel buf
      refine ⟨s :: slots', buf', ?_, .cons ⟨hs.header, fun _ => ?_, ?_⟩ hok, ?_, htime⟩
      · rw [if_pos rfl, hread]
        rfl
      · exact hnext _ (UInt64.le_trans (UInt64.le_of_lt hlt) hbe)
      · rw [hfin]
        nofun
      · rw [hnil]
        exact hperm
    | false =>
      -- what is left has the whole window, for the messages before it are read
      obtain ⟨c, pre, hstands, hparts, hsize, hleft, hpre⟩ := hs.running hfin
      have hsorted : c.left.Pairwise fun x y => x.time ≤ y.time := by
        have hall := hf.ordered
        rw [hleft] at hall
        exact (List.pairwise_append.mp hall).2.1
      have hbounds : Spans b e s.reader.header.beginTime s.reader.header.endTime c.left := by
        rw [hs.header]
        have hheader := hf.spans_header (b := b) (e := e)
        rw [hleft] at hheader
        exact hheader.mono fun x hx => List.mem_append_right pre hx
      have hlen : c.left.length ≤ f.messages.length := by
        rw [hleft, List.length_append]
        exact Nat.le_add_left _ _
      have hpasses : 2 * c.size + 2 ≤ fuel := by omega
      have hreads : c.left.length < fuel := by omega
      obtain ⟨r', buf₁, c', pre', hread, hstands', hparts', hsize', hleft', hpre', hperm₁,
          htime₁⟩ :=
        readInto_stands flushMode hP hbe hstands (fun p hp => hf.spans p (hparts.subset hp)) hbounds
          hsorted hpasses hreads buf
      have hheader' := RecordReader.header_eq_of_reset (reset_readInto flushMode hread)
      obtain ⟨slots', buf', hrest, hok, hperm, htime⟩ := ih hfiles hfuel buf₁
      refine ⟨{ s with reader := r' } :: slots', buf', ?_, .cons ⟨?_, ?_, fun _ => ?_⟩ hok, ?_,
        fun hbuf => htime (htime₁ hbuf)⟩
      · rw [if_neg nofun, hread]
        dsimp only
        rw [hrest, hfin]
        rfl
      · exact hheader'.trans hs.header
      · exact fun hfin' => absurd (hfin.symm.trans hfin') nofun
      · refine ⟨c', pre ++ pre', hstands', hparts'.trans hparts, hsize'.trans hsize, ?_, ?_⟩
        · rw [hleft, hleft', List.append_assoc]
        · refine List.forall_mem_append.mpr ⟨fun x hx => ?_, fun x hx => hnext _ (hpre' x hx)⟩
          exact hnext _ (UInt64.le_trans (UInt64.le_of_lt (hpre x hx)) hbe)
      · have hsame : window b e f.messages = window b e c.left := by
          rw [hleft, window_append_of_lt hpre]
        rw [hsame, ← List.append_assoc]
        exact hperm.trans (hperm₁.append_right _)

end readers

/-! ## Section 3: FillBuffer -/

/-- The messages of all files. -/
def allMessages (files : List PartFile) : List SingleMessage := files.flatMap PartFile.messages

/-- **Invariant** of the viewer between two steps. -/
structure ViewerOk (P : Protobuf) (files : List PartFile) (v : RecordViewer) : Prop where
  slots  : List.Forall₂ (SlotOk P v.currBeginTime) files v.slots
  byTime : ByTime v.msgBuffer
  before : ∀ m ∈ v.msgBuffer, m.time < v.currBeginTime
  room   : v.endTime.toNat + kStepTimeNanoSec.toNat + 1 < 2 ^ 64

/-- What the viewer has not handed out: its buffer, and in the files the
    messages from its window on. -/
def pending (files : List PartFile) (v : RecordViewer) : List RecordMessage :=
  v.msgBuffer ++ (window v.currBeginTime v.endTime (allMessages files)).map RecordMessage.of

/-- What the loops of the viewer need. -/
structure Enough (files : List PartFile) (endTime : UInt64) (fuel : Nat) : Prop where
  readers  : ∀ f ∈ files, 2 * f.parts.length + f.messages.length + 2 ≤ fuel
  windows  : endTime.toNat + 2 ≤ fuel
  messages : (allMessages files).length + 2 ≤ fuel

/-- Steps of the viewer leave its parameters alone. -/
structure SameParams (v v' : RecordViewer) : Prop where
  beginTime : v'.beginTime = v.beginTime
  endTime   : v'.endTime = v.endTime
  channels  : v'.channels = v.channels

theorem SameParams.trans {v v' v'' : RecordViewer} (h : SameParams v v') (h' : SameParams v' v'') :
    SameParams v v'' :=
  ⟨h'.beginTime.trans h.beginTime, h'.endTime.trans h.endTime, h'.channels.trans h.channels⟩

section viewer
variable (flushMode : Bool) {files : List PartFile} {v : RecordViewer} {fuel : Nat}

/-- The window is not empty and ends where the viewer ends, at the latest. -/
theorem thisEndTime_bounds (hcurr : v.currBeginTime ≤ v.endTime)
    (hroom : v.endTime.toNat + kStepTimeNanoSec.toNat + 1 < 2 ^ 64) :
    v.currBeginTime ≤ v.thisEndTime ∧ v.thisEndTime ≤ v.endTime ∧
      v.thisEndTime.toNat + 1 < 2 ^ 64 := by
  have hle := UInt64.le_iff_toNat_le.mp hcurr
  have hsum : (v.currBeginTime + kStepTimeNanoSec).toNat =
      v.currBeginTime.toNat + kStepTimeNanoSec.toNat := by
    rw [UInt64.toNat_add]
    exact Nat.mod_eq_of_lt (by omega)
  unfold RecordViewer.thisEndTime
  split
  · exact ⟨hcurr, UInt64.le_refl _, by omega⟩
  · next hgt =>
    have hend := UInt64.le_iff_toNat_le.mp (UInt64.not_lt.mp hgt)
    exact ⟨UInt64.le_iff_toNat_le.mpr (by omega), UInt64.not_lt.mp hgt, by omega⟩

/-- **Step lemma**: one window. -/
theorem fillWindow_ok (hP : P.Lawful) (hfiles : ∀ f ∈ files, f.Ordered P)
    (hfuel : Enough files v.endTime fuel) (h : ViewerOk P files v)
    (hcurr : v.currBeginTime ≤ v.endTime) :
    ∃ v', RecordViewer.fillWindow P flushMode fuel v = some v' ∧ ViewerOk P files v' ∧
      SameParams v v' ∧ (pending files v').Perm (pending files v) ∧
      v.currBeginTime.toNat < v'.currBeginTime.toNat := by
  obtain ⟨hbe, hle, hroom⟩ := thisEndTime_bounds hcurr h.room
  have hfinish : List.Forall₂ (SlotOk P v.currBeginTime) files
      (v.slots.map (RecordViewer.Slot.finish v.currBeginTime)) :=
    List.forall₂_map_right_iff.mpr (h.slots.imp fun _ _ hs => hs.finish)
  obtain ⟨slots', buf', hread, hslots, hperm, htime⟩ := readSlots_ok flushMode hP hbe hroom hfiles
    hfuel.readers hfinish v.msgBuffer
  have hsucc : (v.thisEndTime + 1).toNat = v.thisEndTime.toNat + 1 := by
    rw [UInt64.toNat_add]
    exact Nat.mod_eq_of_lt hroom
  have hnext : ∀ t : UInt64, t ≤ v.thisEndTime → t < v.thisEndTime + 1 := by
    intro t ht
    rw [UInt64.lt_iff_toNat_lt, hsucc]
    exact Nat.lt_succ_of_le (UInt64.le_iff_toNat_le.mp ht)
  refine ⟨_, congrArg (Option.map _) hread, ⟨hslots, htime h.byTime, ?_, h.room⟩, ⟨rfl, rfl, rfl⟩,
    ?_, ?_⟩
  · intro m hm
    obtain hold | hnew := List.mem_append.mp (hperm.mem_iff.mp hm)
    · exact hnext _ (UInt64.le_trans (UInt64.le_of_lt (h.before m hold)) hbe)
    · obtain ⟨x, hx, rfl⟩ := List.mem_map.mp hnew
      exact hnext _ (mem_window.mp hx).2.2
  · -- the window goes from the files to the buffer
    have hsplit := (window_split (allMessages files) hbe hle hroom).map RecordMessage.of
    rw [List.map_append] at hsplit
    unfold pending
    refine (hperm.append_right _).trans ?_
    rw [List.append_assoc]
    exact hsplit.symm.append_left _
  · show v.currBeginTime.toNat < (v.thisEndTime + 1).toNat
    have hle' := UInt64.le_iff_toNat_le.mp hbe
    omega

/-- **Run lemma**: the loop of `FillBuffer` ends with a full buffer or behind
    the end of the viewer. -/
theorem fillLoop_ok (hP : P.Lawful) (hfiles : ∀ f ∈ files, f.Ordered P)
    (hfuel : Enough files v.endTime fuel) (h : ViewerOk P files v) {windows : Nat}
    (hpos : 0 < windows) (hwindows : v.endTime.toNat + 2 ≤ windows + v.currBeginTime.toNat) :
    ∃ v', RecordViewer.fillLoop P flushMode fuel windows v = some v' ∧ ViewerOk P files v' ∧
      SameParams v v' ∧ (pending files v').Perm (pending files v) ∧
      (v'.msgBuffer = [] → pending files v' = []) := by
  induction windows generalizing v with
  | zero => omega
  | succ windows ih =>
    unfold RecordViewer.fillLoop
    by_cases hcond : v.currBeginTime ≤ v.endTime ∧ v.msgBuffer.length < kBufferMinSize
    · rw [if_pos hcond]
      have hle := UInt64.le_iff_toNat_le.mp hcond.1
      obtain ⟨v₁, hfill, hok, hsame, hperm, hlt⟩ :=
        fillWindow_ok flushMode hP hfiles hfuel h hcond.1
      rw [hfill]
      obtain ⟨v', hloop, hok', hsame', hperm', hnil⟩ := ih (hsame.endTime ▸ hfuel) hok (by omega)
        (by rw [hsame.endTime]; omega)
      exact ⟨v', hloop, hok', hsame.trans hsame', hperm'.trans hperm, hnil⟩
    · rw [if_neg hcond]
      -- a buffer that is empty is not full: the windows are exhausted
      refine ⟨v, rfl, h, ⟨rfl, rfl, rfl⟩, List.Perm.refl _, fun hnil => ?_⟩
      have hbehind : ¬ v.currBeginTime ≤ v.endTime := by
        intro hle
        refine hcond ⟨hle, ?_⟩
        rw [hnil]
        decide
      have hwindow : window v.currBeginTime v.endTime (allMessages files) = [] := by
        refine List.filter_eq_nil_iff.mpr fun x _ hin => hbehind ?_
        obtain ⟨hb, he⟩ := of_decide_eq_true hin
        exact UInt64.le_trans hb he
      rw [pending, hnil, hwindow]
      rfl

/-! ## Section 4: Update -/

theorem refill_ok (hP : P.Lawful) (hfiles : ∀ f ∈ files, f.Ordered P)
    (hfuel : Enough files v.endTime fuel) (h : ViewerOk P files v) :
    ∃ ok v', RecordViewer.refill P flushMode fuel v = some (ok, v') ∧ ViewerOk P files v' ∧
      SameParams v v' ∧ (pending files v').Perm (pending files v) ∧
      (ok = true ↔ v'.msgBuffer ≠ []) ∧ (ok = false → pending files v' = []) := by
  unfold RecordViewer.refill
  by_cases hempty : v.msgBuffer.isEmpty = true
  · rw [if_pos hempty]
    have hpos : 0 < fuel := by have := hfuel.windows; omega
    have hwindows : v.endTime.toNat + 2 ≤ fuel + v.currBeginTime.toNat := by
      have := hfuel.windows; omega
    obtain ⟨v', hloop, hok, hsame, hperm, hnil⟩ :=
      fillLoop_ok flushMode hP hfiles hfuel h hpos hwindows
    refine ⟨!v'.msgBuffer.isEmpty, v', ?_, hok, hsame, hperm, by simp, fun hfalse => hnil ?_⟩
    · unfold RecordViewer.fillBuffer
      rw [hloop]
      rfl
    · simpa using hfalse
  · rw [if_neg hempty]
    exact ⟨true, v, rfl, h, ⟨rfl, rfl, rfl⟩, List.Perm.refl _,
      iff_of_true rfl (by simpa using hempty), nofun⟩

/-- The front of the buffer is the earliest message left. -/
theorem front_le (h : ViewerOk P files v) {m : RecordMessage} {ms : List RecordMessage}
    (hbuf : v.msgBuffer = m :: ms) :
    ∀ x ∈ pending files { v with msgBuffer := ms }, m.time ≤ x.time := by
  have htime := h.byTime
  rw [hbuf] at htime
  intro x hx
  obtain hin | hin := List.mem_append.mp hx
  · exact (List.pairwise_cons.mp htime).1 x hin
  · obtain ⟨y, hy, rfl⟩ := List.mem_map.mp hin
    have hfirst := h.before m (hbuf ▸ List.mem_cons_self)
    exact UInt64.le_trans (UInt64.le_of_lt hfirst) (mem_window.mp hy).2.1

theorem ViewerOk.pop (h : ViewerOk P files v) {m : RecordMessage} {ms : List RecordMessage}
    (hbuf : v.msgBuffer = m :: ms) : ViewerOk P files { v with msgBuffer := ms } where
  slots  := h.slots
  byTime := by
    have htime := h.byTime
    rw [hbuf] at htime
    exact (List.pairwise_cons.mp htime).2
  before := fun x hx => h.before x (hbuf ▸ List.mem_cons_of_mem m hx)
  room   := h.room

/-- The messages left of the channels asked for. -/
def wanted (files : List PartFile) (v : RecordViewer) : List RecordMessage :=
  (pending files v).filter v.wants

theorem wanted_perm {v v' : RecordViewer} (hsame : SameParams v v')
    (hperm : (pending files v').Perm (pending files v)) :
    (wanted files v').Perm (wanted files v) := by
  have hwants : v'.wants = v.wants := by
    funext m
    unfold RecordViewer.wants
    rw [hsame.channels]
  unfold wanted
  rw [hwants]
  exact hperm.filter _

/-- What a call of `Update` gives: a message that is the earliest of those
    left, or nothing when none is left. -/
inductive Updated (P : Protobuf) (files : List PartFile) (v : RecordViewer) :
    Option RecordMessage → RecordViewer → Prop where
  | found (m : RecordMessage) (v' : RecordViewer) : ViewerOk P files v' → SameParams v v' →
      (wanted files v).Perm (m :: wanted files v') → (∀ x ∈ pending files v', m.time ≤ x.time) →
      (pending files v').length < (pending files v).length → Updated P files v (some m) v'
  | ended (v' : RecordViewer) : SameParams v v' → wanted files v = [] → Updated P files v none v'

/-- **Run lemma**: the loop of `Update`. -/
theorem update_ok (hP : P.Lawful) (hfiles : ∀ f ∈ files, f.Ordered P)
    (hfuel : Enough files v.endTime fuel) (h : ViewerOk P files v) {passes : Nat}
    (hpasses : (pending files v).length < passes) :
    ∃ out v', RecordViewer.update P flushMode fuel passes v = some (out, v') ∧
      Updated P files v out v' := by
  induction passes generalizing v with
  | zero => omega
  | succ passes ih =>
    obtain ⟨ok, v₁, hrefill, hok, hsame, hperm, hfull, hnil⟩ :=
      refill_ok flushMode hP hfiles hfuel h
    have hwanted := wanted_perm hsame hperm
    unfold RecordViewer.update
    rw [hrefill]
    cases ok with
    | false =>
      refine ⟨none, v₁, rfl, .ended v₁ hsame ?_⟩
      rw [wanted, hnil rfl] at hwanted
      exact hwanted.nil_eq.symm
    | true =>
      obtain ⟨m, ms, hbuf⟩ := List.exists_cons_of_ne_nil (hfull.mp rfl)
      let v₂ : RecordViewer := { v₁ with msgBuffer := ms }
      have hpop : pending files v₁ = m :: pending files v₂ := by
        unfold pending
        rw [hbuf]
        rfl
      have hsame₂ : SameParams v v₂ := ⟨hsame.beginTime, hsame.endTime, hsame.channels⟩
      have hlen : (pending files v).length = (pending files v₂).length + 1 := by
        rw [← hperm.length_eq, hpop, List.length_cons]
      have hfront := front_le hok hbuf
      have hok₂ := hok.pop hbuf
      have hwants : v₂.wants = v₁.wants := rfl
      dsimp only [Option.bind_some]
      rw [hbuf]
      dsimp only
      by_cases hwant : v₂.wants m = true
      · rw [if_pos hwant]
        refine ⟨some m, v₂, rfl, .found m v₂ hok₂ hsame₂ ?_ hfront (by omega)⟩
        refine hwanted.symm.trans ?_
        rw [wanted, hpop, ← hwants, List.filter_cons_of_pos hwant]
        exact List.Perm.refl _
      · rw [if_neg hwant]
        -- a message of another channel is dropped, and one less is pending
        have hskip : (wanted files v).Perm (wanted files v₂) := by
          refine hwanted.symm.trans ?_
          rw [wanted, hpop, ← hwants, List.filter_cons_of_neg hwant]
          exact List.Perm.refl _
        obtain ⟨out, v', hupdate, hupdated⟩ := ih (v := v₂) (hsame.endTime ▸ hfuel) hok₂ (by omega)
        refine ⟨out, v', hupdate, ?_⟩
        cases hupdated with
        | found m' _ hok' hsame' hperm' hfront' hlt =>
          exact .found m' v' hok' (hsame₂.trans hsame') (hskip.trans hperm') hfront' (by omega)
        | ended _ hsame' hnone =>
          rw [hnone] at hskip
          exact .ended v' (hsame₂.trans hsame') hskip.eq_nil

/-! ## Section 5: The iterator -/

/-- **Run lemma**: the messages from an iterator on are its own and those
    left, ordered by time. -/
theorem collect_ok (hP : P.Lawful) (hfiles : ∀ f ∈ files, f.Ordered P)
    (hfuel : Enough files v.endTime fuel) (h : ViewerOk P files v) {it : Iterator}
    (hit : it.isEnd = false) (hfront : ∀ x ∈ pending files v, it.messageInstance.time ≤ x.time)
    (hpending : (pending files v).length < fuel) {steps : Nat}
    (hsteps : (pending files v).length + 2 ≤ steps) :
    ∃ out v', RecordViewer.collect P flushMode fuel steps it v = some (out, v') ∧
      out.Perm (it.messageInstance :: wanted files v) ∧ ByTime out := by
  induction steps generalizing v it with
  | zero => omega
  | succ steps ih =>
    obtain ⟨out, v₁, hupdate, hupdated⟩ := update_ok flushMode hP hfiles hfuel h hpending
    unfold RecordViewer.collect RecordViewer.advance
    rw [if_neg (by rw [hit]; nofun), hupdate]
    cases hupdated with
    | ended _ _ hnone =>
      obtain ⟨k, rfl⟩ : ∃ k, steps = k + 1 := ⟨steps - 1, by omega⟩
      refine ⟨[it.messageInstance], v₁, rfl, ?_, List.pairwise_singleton _ _⟩
      rw [hnone]
    | found m _ hok hsame hperm hfront' hlt =>
      let it' : Iterator := { it with index := it.index + 1, messageInstance := m }
      have hit' : it'.isEnd = false := hit
      obtain ⟨out, v', hcollect, hperm', htime⟩ :=
        ih (hsame.endTime ▸ hfuel) hok hit' hfront' (by omega) (by omega)
      refine ⟨it.messageInstance :: out, v', ?_, (hperm'.trans hperm.symm).cons _, ?_⟩
      · dsimp only
        rw [hcollect]
        rfl
      · -- the messages that follow were among those left
        refine List.pairwise_cons.mpr ⟨fun x hx => ?_, htime⟩
        have hin := (hperm'.trans hperm.symm).mem_iff.mp hx
        exact hfront x (List.mem_of_mem_filter hin)

/-! ## Section 6: Reset -/

/-- The slot `Reset` makes of a slot. -/
def Slot.fresh (s : Slot) : Slot := ⟨s.reader.reset, false⟩

theorem fresh_finish (curr : UInt64) (s : Slot) :
    (RecordViewer.Slot.finish curr s).fresh = s.fresh := by
  unfold RecordViewer.Slot.finish
  split <;> rfl

theorem fresh_readSlots {slots slots' : List Slot} {buf buf' : List RecordMessage}
    (h : RecordViewer.readSlots P flushMode fuel b e slots buf = some (slots', buf')) :
    slots'.map Slot.fresh = slots.map Slot.fresh := by
  induction slots generalizing slots' buf buf' with
  | nil =>
    cases h
    rfl
  | cons s slots ih =>
    unfold RecordViewer.readSlots at h
    split at h
    · obtain ⟨x, hx, heq⟩ := Option.map_eq_some_iff.mp h
      cases heq
      rw [List.map_cons, List.map_cons, ih hx]
    · split at h
      · cases h
      · next r' buf₁ hread =>
        obtain ⟨x, hx, heq⟩ := Option.map_eq_some_iff.mp h
        cases heq
        have hreset : ({ s with reader := r' } : Slot).fresh = s.fresh :=
          congrArg (Slot.mk · false) (reset_readInto flushMode hread)
        rw [List.map_cons, List.map_cons, ih hx, hreset]

theorem reset_fillWindow {v v' : RecordViewer}
    (h : RecordViewer.fillWindow P flushMode fuel v = some v') : v'.reset = v.reset := by
  obtain ⟨x, hx, rfl⟩ := Option.map_eq_some_iff.mp h
  have hslots := fresh_readSlots flushMode hx
  rw [List.map_map, show Slot.fresh ∘ RecordViewer.Slot.finish v.currBeginTime = Slot.fresh from
    funext (fresh_finish _)] at hslots
  have heq : x.1.map (fun s : Slot => (⟨s.reader.reset, false⟩ : Slot)) =
      v.slots.map fun s => ⟨s.reader.reset, false⟩ := hslots
  unfold RecordViewer.reset
  dsimp only
  rw [heq]

theorem reset_fillLoop {windows : Nat} {v v' : RecordViewer}
    (h : RecordViewer.fillLoop P flushMode fuel windows v = some v') : v'.reset = v.reset := by
  induction windows generalizing v with
  | zero => cases h
  | succ windows ih =>
    unfold RecordViewer.fillLoop at h
    split at h
    · split at h
      · cases h
      · next hfill => exact (ih h).trans (reset_fillWindow flushMode hfill)
    · cases h
      rfl

theorem reset_refill {v v' : RecordViewer} {ok : Bool}
    (h : RecordViewer.refill P flushMode fuel v = some (ok, v')) : v'.reset = v.reset := by
  unfold RecordViewer.refill at h
  split at h
  · obtain ⟨x, hx, heq⟩ := Option.map_eq_some_iff.mp h
    cases heq
    exact reset_fillLoop flushMode hx
  · cases h
    rfl

theorem reset_update {passes : Nat} {v v' : RecordViewer} {out : Option RecordMessage}
    (h : RecordViewer.update P flushMode fuel passes v = some (out, v')) : v'.reset = v.reset := by
  induction passes generalizing v with
  | zero => cases h
  | succ passes ih =>
    unfold RecordViewer.update at h
    split at h
    · cases h
    · next hrefill =>
      cases h
      exact reset_refill flushMode hrefill
    · next v₁ hrefill =>
      have hreset := reset_refill flushMode hrefill
      split at h
      · cases h
        exact hreset
      · next m ms _ =>
        have hpop : ({ v₁ with msgBuffer := ms } : RecordViewer).reset = v₁.reset := rfl
        dsimp only at h
        split at h
        · cases h
          exact hreset
        · exact (ih h).trans (hpop.trans hreset)

theorem reset_advance {it it' : Iterator} {v v' : RecordViewer}
    (h : RecordViewer.advance P flushMode fuel it v = some (it', v')) : v'.reset = v.reset := by
  unfold RecordViewer.advance at h
  dsimp only at h
  split at h
  · cases h
  · next hupdate =>
    cases h
    exact reset_update flushMode hupdate
  · next hupdate =>
    cases h
    exact reset_update flushMode hupdate

theorem reset_collect {steps : Nat} {it : Iterator} {v v' : RecordViewer}
    {out : List RecordMessage}
    (h : RecordViewer.collect P flushMode fuel steps it v = some (out, v')) :
    v'.reset = v.reset := by
  induction steps generalizing it v out with
  | zero => cases h
  | succ steps ih =>
    unfold RecordViewer.collect at h
    split at h
    · cases h
      rfl
    · split at h
      · cases h
      · next hadvance =>
        obtain ⟨x, hx, heq⟩ := Option.map_eq_some_iff.mp h
        cases heq
        exact (ih hx).trans (reset_advance flushMode hadvance)

theorem reset_iterate {v v' : RecordViewer} {out : List RecordMessage}
    (h : RecordViewer.iterate P flushMode fuel v = some (out, v')) : v'.reset = v.reset := by
  have hidem : v.reset.reset = v.reset := by
    unfold RecordViewer.reset
    dsimp only
    rw [List.map_map]
    rfl
  unfold RecordViewer.iterate RecordViewer.begin at h
  dsimp only at h
  split at h
  · cases h
  · next hbegin =>
    have hcollect := reset_collect flushMode h
    split at hbegin
    · cases hbegin
      exact hcollect.trans hidem
    · split at hbegin
      · cases hbegin
      · next hupdate =>
        cases hbegin
        exact hcollect.trans ((reset_update flushMode hupdate).trans hidem)
      · next hupdate =>
        cases hbegin
        exact hcollect.trans ((reset_update flushMode hupdate).trans hidem)

/-- An iteration begins with a reset. -/
theorem iterate_congr {v v' : RecordViewer} (h : v'.reset = v.reset) :
    RecordViewer.iterate P flushMode fuel v' = RecordViewer.iterate P flushMode fuel v := by
  unfold RecordViewer.iterate RecordViewer.begin
  rw [h]

end viewer

/-! ## Section 7: The constructor -/

theorem foldl_minBegin (headers : List Header) (t : UInt64) :
    headers.foldl (fun t h => if t > h.beginTime then h.beginTime else t) t ≤ t ∧
      ∀ h ∈ headers,
        headers.foldl (fun t h => if t > h.beginTime then h.beginTime else t) t ≤ h.beginTime := by
  induction headers generalizing t with
  | nil => exact ⟨UInt64.le_refl t, nofun⟩
  | cons h headers ih =>
    rw [List.foldl_cons, List.forall_mem_cons]
    by_cases hgt : t > h.beginTime
    · rw [if_pos hgt]
      obtain ⟨hle, hall⟩ := ih h.beginTime
      exact ⟨UInt64.le_trans hle (UInt64.le_of_lt hgt), hle, hall⟩
    · rw [if_neg hgt]
      obtain ⟨hle, hall⟩ := ih t
      exact ⟨hle, UInt64.le_trans hle (UInt64.not_lt.mp hgt), hall⟩

theorem foldl_maxEnd (headers : List Header) (t : UInt64) :
    t ≤ headers.foldl (fun t h => if t < h.endTime then h.endTime else t) t ∧
      ∀ h ∈ headers,
        h.endTime ≤ headers.foldl (fun t h => if t < h.endTime then h.endTime else t) t := by
  induction headers generalizing t with
  | nil => exact ⟨UInt64.le_refl t, nofun⟩
  | cons h headers ih =>
    rw [List.foldl_cons, List.forall_mem_cons]
    by_cases hlt : t < h.endTime
    · rw [if_pos hlt]
      obtain ⟨hle, hall⟩ := ih h.endTime
      exact ⟨UInt64.le_trans (UInt64.le_of_lt hlt) hle, hle, hall⟩
    · rw [if_neg hlt]
      obtain ⟨hle, hall⟩ := ih t
      exact ⟨hle, UInt64.le_trans (UInt64.not_lt.mp hlt) hle, hall⟩

/-- The greatest end time is that of a file, or `0`. -/
theorem foldl_maxEnd_eq (headers : List Header) (t : UInt64) :
    headers.foldl (fun t h => if t < h.endTime then h.endTime else t) t = t ∨
      ∃ h ∈ headers,
        headers.foldl (fun t h => if t < h.endTime then h.endTime else t) t = h.endTime := by
  induction headers generalizing t with
  | nil => exact .inl rfl
  | cons h headers ih =>
    rw [List.foldl_cons]
    by_cases hlt : t < h.endTime
    · rw [if_pos hlt]
      obtain heq | ⟨h', hin, heq⟩ := ih h.endTime
      · exact .inr ⟨h, List.mem_cons_self, heq⟩
      · exact .inr ⟨h', List.mem_cons_of_mem h hin, heq⟩
    · rw [if_neg hlt]
      exact (ih t).imp id fun ⟨h', hin, heq⟩ => ⟨h', List.mem_cons_of_mem h hin, heq⟩

/-- The readers of the files. -/
abbrev ReadersOf (P : Protobuf) (files : List PartFile) (readers : List RecordReader) : Prop :=
  List.Forall₂ (fun f r => Used P (f.bytes P) r) files readers

section create
variable {files : List PartFile} {readers : List RecordReader}

theorem ReadersOf.headers (hP : P.Lawful) (hfiles : ∀ f ∈ files, f.Ordered P)
    (h : ReadersOf P files readers) :
    ((readers.map fun r => (⟨r, false⟩ : Slot)).filter (·.reader.isValid)).map (·.reader.header) =
      files.map PartFile.header := by
  induction h with
  | nil => rfl
  | @cons f r files readers hr _ ih =>
    obtain ⟨hf, hfiles⟩ := List.forall_mem_cons.mp hfiles
    obtain ⟨hstands, hheader⟩ := hf.stands_reset hP hr
    have hvalid : r.isValid = true := hstands.valid
    have hheader : r.header = f.header := hheader
    rw [List.map_cons, List.filter_cons_of_pos (by exact hvalid), List.map_cons, ih hfiles, hheader]
    rfl

/-- `UpdateTime` cuts the window to the times there are: no message is lost,
    and there is room for a step behind the end. -/
theorem create_window (hP : P.Lawful) (hfiles : ∀ f ∈ files, f.Ordered P)
    (h : ReadersOf P files readers) (b e : UInt64) (channels : List (List UInt8)) :
    window (RecordViewer.create readers b e channels).beginTime
        (RecordViewer.create readers b e channels).endTime (allMessages files) =
      window b e (allMessages files) ∧
    (RecordViewer.create readers b e channels).endTime.toNat + kStepTimeNanoSec.toNat + 1 <
      2 ^ 64 := by
  unfold RecordViewer.create RecordViewer.updateTime
  dsimp only
  rw [h.headers hP hfiles]
  let headers := files.map PartFile.header
  obtain ⟨_, hmin⟩ := foldl_minBegin headers 0xFFFFFFFFFFFFFFFF
  obtain ⟨_, hmax⟩ := foldl_maxEnd headers 0
  have hlast := foldl_maxEnd_eq headers 0
  generalize headers.foldl (fun t h => if t > h.beginTime then h.beginTime else t)
    0xFFFFFFFFFFFFFFFF = minBegin at hmin ⊢
  generalize headers.foldl (fun t h => if t < h.endTime then h.endTime else t) 0 = maxEnd
    at hmax hlast ⊢
  constructor
  · refine List.filter_congr fun x hx => ?_
    obtain ⟨f, hf, hin⟩ := List.mem_flatMap.mp hx
    have hheader : f.header ∈ headers := List.mem_map.mpr ⟨f, hf, rfl⟩
    obtain ⟨hfirst, hend⟩ := (hfiles f hf).header (List.ne_nil_of_mem hin)
    -- the times of the file are between the two
    have hge : minBegin ≤ x.time :=
      UInt64.le_trans (hmin _ hheader) (UInt64.le_iff_toNat_le.mpr (hfirst.2 (mem_timesOf hin)))
    have hle : x.time ≤ maxEnd :=
      UInt64.le_trans (UInt64.le_iff_toNat_le.mpr (hend.2 (mem_timesOf hin))) (hmax _ hheader)
    have hbegin : (if b < minBegin then minBegin else b) ≤ x.time ↔ b ≤ x.time := by
      by_cases hlt : b < minBegin
      · rw [if_pos hlt]
        exact iff_of_true hge (UInt64.le_trans (UInt64.le_of_lt hlt) hge)
      · rw [if_neg hlt]
    have hfinish : x.time ≤ (if e > maxEnd then maxEnd else e) ↔ x.time ≤ e := by
      by_cases hgt : e > maxEnd
      · rw [if_pos hgt]
        exact iff_of_true hle (UInt64.le_trans hle (UInt64.le_of_lt hgt))
      · rw [if_neg hgt]
    exact decide_eq_decide.mpr (and_congr hbegin hfinish)
  · have hroom : maxEnd.toNat + kStepTimeNanoSec.toNat + 1 < 2 ^ 64 := by
      obtain rfl | ⟨header, hin, rfl⟩ := hlast
      · decide
      · obtain ⟨f, hf, rfl⟩ := List.mem_map.mp hin
        exact (hfiles f hf).room
    by_cases hgt : e > maxEnd
    · rw [if_pos hgt]
      exact hroom
    · rw [if_neg hgt]
      have hle := UInt64.le_iff_toNat_le.mp (UInt64.not_lt.mp hgt)
      omega

/-- A viewer that was reset has all messages of its window left. -/
theorem viewerOk_reset (hP : P.Lawful) (hfiles : ∀ f ∈ files, f.Ordered P)
    (h : ReadersOf P files readers) (b e : UInt64) (channels : List (List UInt8)) :
    ViewerOk P files (RecordViewer.create readers b e channels).reset where
  slots  := by
    have hslots : (RecordViewer.create readers b e channels).reset.slots =
        readers.map fun r => (⟨r.reset, false⟩ : Slot) := List.map_map
    rw [hslots, List.forall₂_map_right_iff]
    have hall : List.Forall₂ (fun f r => f ∈ files ∧ Used P (f.bytes P) r) files readers :=
      (List.forall₂_and_left files readers).mpr ⟨fun f hf => hf, h⟩
    refine hall.imp fun f r hfr => ?_
    obtain ⟨hstands, hheader⟩ := (hfiles f hfr.1).stands_reset hP hfr.2
    exact ⟨hheader, nofun, fun _ => ⟨_, [], hstands, List.suffix_rfl, Nat.le_refl _, rfl, nofun⟩⟩
  byTime := List.Pairwise.nil
  before := nofun
  room   := (create_window hP hfiles h b e channels).2

/-! ## Section 8: The merge -/

/-- One iteration over a viewer. -/
theorem iterate_ok (hP : P.Lawful) (flushMode : Bool) (hfiles : ∀ f ∈ files, f.Ordered P)
    (h : ReadersOf P files readers) (b e : UInt64) (channels : List (List UInt8)) {fuel : Nat}
    (hfuel : Enough files (RecordViewer.create readers b e channels).endTime fuel) :
    ∃ out v', RecordViewer.iterate P flushMode fuel (RecordViewer.create readers b e channels) =
        some (out, v') ∧
      out.Perm (((window b e (allMessages files)).map RecordMessage.of).filter
        (RecordViewer.create readers b e channels).wants) ∧ ByTime out := by
  let v := (RecordViewer.create readers b e channels).reset
  have hok : ViewerOk P files v := viewerOk_reset hP hfiles h b e channels
  have hpending : pending files v = (window b e (allMessages files)).map RecordMessage.of :=
    congrArg (List.map RecordMessage.of) (create_window hP hfiles h b e channels).1
  have hlen : (pending files v).length + 2 ≤ fuel := by
    have hle := List.length_filter_le (fun m : SingleMessage => decide (b ≤ m.time ∧ m.time ≤ e))
      (allMessages files)
    have hmessages := hfuel.messages
    rw [hpending, List.length_map, window]
    omega
  have hwanted : wanted files v = ((window b e (allMessages files)).map RecordMessage.of).filter
      (RecordViewer.create readers b e channels).wants := by
    rw [wanted, hpending]
    rfl
  rw [← hwanted]
  unfold RecordViewer.iterate RecordViewer.begin
  obtain ⟨k, rfl⟩ : ∃ k, fuel = k + 1 := ⟨fuel - 1, by omega⟩
  dsimp only
  by_cases hvalid : v.isValid = true
  · rw [if_neg (by rw [hvalid]; nofun)]
    have hfuel' : Enough files v.endTime (k + 1) := hfuel
    have hpasses : (pending files v).length < k + 1 := by omega
    obtain ⟨out, v₁, hupdate, hupdated⟩ := update_ok flushMode hP hfiles hfuel' hok hpasses
    rw [hupdate]
    cases hupdated with
    | ended _ _ hnone =>
      refine ⟨[], v₁, rfl, ?_, List.Pairwise.nil⟩
      rw [hnone]
    | found m _ hok₁ hsame hperm hfront hlt =>
      have hsteps : (pending files v₁).length + 2 ≤ k + 1 := by omega
      have hit : Iterator.isEnd ⟨false, 0, m⟩ = false := rfl
      obtain ⟨out, v', hcollect, hperm', htime⟩ := collect_ok flushMode hP hfiles
        (hsame.endTime ▸ hfuel) hok₁ hit hfront (by omega) hsteps
      exact ⟨out, v', hcollect, hperm'.trans hperm.symm, htime⟩
  · -- the window is empty
    rw [if_pos (by simpa using hvalid)]
    refine ⟨[], v, rfl, ?_, List.Pairwise.nil⟩
    have hgt : v.beginTime > v.endTime := by
      simpa [RecordViewer.isValid] using hvalid
    have hnil : pending files v = [] := by
      have hwindow : window v.beginTime v.endTime (allMessages files) = [] := by
        refine List.filter_eq_nil_iff.mpr fun x _ hin => ?_
        obtain ⟨hb, he⟩ := of_decide_eq_true hin
        exact UInt64.not_le.mpr hgt (UInt64.le_trans hb he)
      show [] ++ (window v.beginTime v.endTime (allMessages files)).map RecordMessage.of = []
      rw [hwindow]
      rfl
    rw [wanted, hnil]
    exact List.Perm.refl _

end create

/-- **Main result**: iterating a viewer gives out the messages of all files
    in the window and of the channels asked for, each once and ordered by
    time, and iterating it again gives out the same messages. -/
theorem recordViewer_merges (hP : P.Lawful) (flushMode : Bool) {files : List PartFile}
    {readers sorted : List RecordReader} (hfiles : ∀ f ∈ files, f.Ordered P)
    (hreaders : ReadersOf P files readers) (hsort : Sorts readers sorted) (b e : UInt64)
    (channels : List (List UInt8)) :
    ∃ n, ∀ fuel, n ≤ fuel → ∃ out v v',
      RecordViewer.iterate P flushMode fuel (.create sorted b e channels) = some (out, v) ∧
      out.Perm (((files.flatMap PartFile.messages).filter fun m =>
        (b ≤ m.time ∧ m.time ≤ e) ∧ (channels = [] ∨ m.channelName ∈ channels)).map
          RecordMessage.of) ∧
      ByTime out ∧ RecordViewer.iterate P flushMode fuel v = some (out, v') := by
  -- the files in the order of the sorted readers
  obtain ⟨files', hreaders', hperm⟩ : ∃ files', ReadersOf P files' sorted ∧ files'.Perm files := by
    obtain ⟨files', hforall, hperm⟩ :=
      List.perm_comp_forall₂ hsort.perm (List.Forall₂.flip hreaders)
    exact ⟨files', hforall.flip, hperm⟩
  have hfiles' : ∀ f ∈ files', f.Ordered P := fun f hf => hfiles f (hperm.subset hf)
  let v₀ := RecordViewer.create sorted b e channels
  obtain ⟨n, hn⟩ : ∃ n, ∀ fuel, n ≤ fuel → Enough files' v₀.endTime fuel := by
    refine ⟨(files'.map fun f => 2 * f.parts.length + f.messages.length + 2).sum +
      v₀.endTime.toNat + (allMessages files').length + 2, fun fuel hle => ⟨fun f hf => ?_, ?_, ?_⟩⟩
    · have hsum := List.le_sum_of_mem (List.mem_map.mpr ⟨f, hf, rfl⟩ : _ ∈
        files'.map fun f => 2 * f.parts.length + f.messages.length + 2)
      omega
    · omega
    · omega
  refine ⟨n, fun fuel hle => ?_⟩
  obtain ⟨out, v, hiterate, hout, htime⟩ :=
    iterate_ok hP flushMode hfiles' hreaders' b e channels (hn fuel hle)
  have hreset := reset_iterate flushMode hiterate
  have hagain := (iterate_congr (P := P) flushMode hreset).trans hiterate
  refine ⟨out, v, v, hiterate, hout.trans ?_, htime, hagain⟩
  -- the two filters are one
  have hwants : (window b e (allMessages files')).filter (fun m => v₀.wants (.of m)) =
      (allMessages files').filter fun m =>
        (b ≤ m.time ∧ m.time ≤ e) ∧ (channels = [] ∨ m.channelName ∈ channels) := by
    rw [window, List.filter_filter]
    refine List.filter_congr fun m _ => ?_
    have hwant : v₀.wants (.of m) = decide (channels = [] ∨ m.channelName ∈ channels) := by
      show (channels.isEmpty || channels.contains m.channelName) = _
      cases channels <;> simp
    rw [hwant, Bool.decide_and (_ ∧ _), Bool.and_comm]
  rw [List.filter_map, show (v₀.wants ∘ RecordMessage.of) = fun m => v₀.wants (.of m) from rfl,
    hwants]
  exact ((hperm.flatMap_right _).filter _).map _

/-- A file with one chunk of two messages. -/
def twoMessages (early late : UInt64) : PartFile where
  header := { Header.default with beginTime := early, endTime := late, messageNumber := 2 }
  parts  := [.chunk ⟨early, late, 2, 2⟩ [⟨[97], early, [1]⟩, ⟨[98], late, [2]⟩]]
  index  := ⟨[]⟩

theorem twoMessages_ordered {early late : UInt64} (hle : early ≤ late)
    (hfits : Wire.protobuf.byteSize (.header (twoMessages early late).header) ≤ headerLength)
    (hsizes : ∀ m ∈ (twoMessages early late).sections ++ [.index (twoMessages early late).index],
      Wire.protobuf.byteSize m ≤ intMax)
    (hsmall : ((twoMessages early late).bytes Wire.protobuf).length ≤ int64Max)
    (hroom : late.toNat + kStepTimeNanoSec.toNat + 1 < 2 ^ 64) :
    (twoMessages early late).Ordered Wire.protobuf := by
  have hleast : IsLeast (valuesOf [early.toNat, late.toNat]) early.toNat :=
    ⟨by simp [valuesOf], by simpa [lowerBounds, valuesOf] using UInt64.le_iff_toNat_le.mp hle⟩
  have hgreatest : IsGreatest (valuesOf [early.toNat, late.toNat]) late.toNat :=
    ⟨by simp [valuesOf], by simpa [upperBounds, valuesOf] using UInt64.le_iff_toNat_le.mp hle⟩
  refine ⟨⟨hfits, hsizes, hsmall, ?_, fun _ => ⟨hleast, hgreatest⟩⟩, ?_, hroom⟩
  · intro h ms hms
    cases List.mem_singleton.mp hms
    exact ⟨hleast, hgreatest⟩
  · exact List.pairwise_pair.mpr hle

theorem recordViewer_merges_twoFiles :
    ∃ n, ∀ fuel, n ≤ fuel → ∃ out v v',
      RecordViewer.iterate Wire.protobuf true fuel
        (.create [.openFile Wire.protobuf ((twoMessages 1 4).bytes Wire.protobuf),
          .openFile Wire.protobuf ((twoMessages 2 3).bytes Wire.protobuf)] 0 3 [[97]]) =
            some (out, v) ∧
      out.Perm ((([twoMessages 2 3, twoMessages 1 4].flatMap PartFile.messages).filter fun m =>
        (0 ≤ m.time ∧ m.time ≤ 3) ∧ (([[97]] : List (List UInt8)) = [] ∨
          m.channelName ∈ ([[97]] : List (List UInt8)))).map RecordMessage.of) ∧
      ByTime out ∧ RecordViewer.iterate Wire.protobuf true fuel v = some (out, v') := by
  refine recordViewer_merges Wire.protobuf_lawful true ?_
    (.cons .opened (.cons .opened .nil)) ⟨.swap _ _ _, ?_⟩ 0 3 [[97]]
  · intro f hf
    obtain rfl | rfl : f = twoMessages 2 3 ∨ f = twoMessages 1 4 := by simpa using hf
    · exact twoMessages_ordered (by decide) (by decide +kernel) (by decide +kernel)
        (by decide +kernel) (by decide)
    · exact twoMessages_ordered (by decide) (by decide +kernel) (by decide +kernel)
        (by decide +kernel) (by decide)
  · -- the file that begins at `1` is in front
    exact List.pairwise_pair.mpr (by decide +kernel)

end CyberRT.Record
