import CyberRT.Record.File.RecordFileWriter
import Mathlib.Data.List.Induction

/-! # The two threads of the record file writer

    * **Locks**: who holds `mutex_` and `flush_mutex_`, read off the places
      of the two threads, and how far `Close` has come.
    * **Chunks**: each chunk is what `add` makes of its messages; a chunk
      that is being written stays in `chunk_flush_` and is not empty; from
      the last swap on there is nothing left to add.
    * **Flow**: how one step moves messages between `chunk_active_`,
      `chunk_flush_` and the file. -/

namespace CyberRT.Record

open CyberRT.Framework

variable {P : Protobuf} {given : Header} {s : State}

/-! ## Section 1: Places -/

/-- The caller is in the critical section of a swap. -/
def CallerPc.swapping : CallerPc → Bool
  | .swap _ | .notify _ | .swapUnlock _ => true
  | _ => false

/-- The caller holds `mutex_`. -/
def CallerPc.inFile : CallerPc → Bool
  | .headerWrite _ | .channelWrite _ | .indexWrite => true
  | _ => false

/-- `WriteHeader` has not been called, or has not written yet. -/
def CallerPc.fresh : CallerPc → Bool
  | .opened | .headerLock false | .headerWrite false => true
  | _ => false

/-- `Close` is between its first wait and its swap. -/
def CallerPc.beforeLast : CallerPc → Bool
  | .swapLock true | .swap true => true
  | _ => false

/-- `Close` found `chunk_flush_` empty after its swap. -/
def CallerPc.drained : CallerPc → Bool
  | .stop | .notifyAll | .join | .indexLock | .indexWrite | .setComplete | .headerLock true
  | .headerWrite true | .closed => true
  | _ => false

/-- `Close` has made its swap. -/
def CallerPc.afterLast : CallerPc → Bool
  | .notify true | .swapUnlock true | .waitLast => true
  | pc => pc.drained

/-- `Close` has cleared `is_writing_`. -/
def CallerPc.stopped : CallerPc → Bool
  | .stop => false
  | pc    => pc.drained

/-- `Close` has joined the flush thread. -/
def CallerPc.joined : CallerPc → Bool
  | .notifyAll | .join => false
  | pc => pc.stopped

/-- `Close` has written the index. -/
def CallerPc.indexed : CallerPc → Bool
  | .indexLock | .indexWrite => false
  | pc => pc.joined

/-- The flush thread holds `flush_mutex_`. -/
def FlushPc.locked : FlushPc → Bool
  | .loop | .lock | .blocked | .relock | .done => false
  | _ => true

/-- The flush thread holds `mutex_`. -/
def FlushPc.inFile : FlushPc → Bool
  | .chunkHeader | .chunkBody => true
  | _ => false

/-- The flush thread found `chunk_flush_` not empty and has not cleared it. -/
def FlushPc.writing : FlushPc → Bool
  | .chunkLock | .chunkHeader | .chunkBody | .clear => true
  | _ => false

theorem FlushPc.locked_of_writing {f : FlushPc} (h : f.writing = true) : f.locked = true := by
  cases f with
  | chunkLock | chunkHeader | chunkBody | clear => rfl
  | _ => cases h

theorem CallerPc.joined_of_indexed {c : CallerPc} (h : c.indexed = true) : c.joined = true := by
  cases c with
  | indexLock | indexWrite => rfl
  | _ => exact h

theorem CallerPc.afterLast_of_drained {c : CallerPc} (h : c.drained = true) :
    c.afterLast = true := by
  cases c with
  | notify _ | swapUnlock _ | waitLast => cases h
  | _ => exact h

/-! ## Section 2: Locks -/

/-- A mutex of the two threads: free, or held by the one that is in its
    critical section. -/
inductive Held : Option Owner → Bool → Bool → Prop where
  | free : Held none false false
  | caller : Held (some .caller) true false
  | flusher : Held (some .flusher) false true

namespace Held

variable {m : Option Owner} {c f : Bool}

theorem callerLock (h : Held none c f) : Held (some .caller) true f := by
  cases h
  exact .caller

theorem callerUnlock (h : Held m true f) : Held none false f := by
  cases h
  exact .free

theorem flusherLock (h : Held none c f) : Held (some .flusher) c true := by
  cases h
  exact .flusher

theorem flusherUnlock (h : Held m c true) : Held none c false := by
  cases h
  exact .free

/-- The two critical sections exclude each other. -/
theorem exclusive (h : Held m true f) : f = false := by
  cases h
  rfl

end Held

/-- The locks and the shutdown, read off the places of the two threads. -/
structure Threads (isWriting : Bool) (mutex flushMutex : Option Owner) (caller : CallerPc)
    (flusher : FlushPc) : Prop where
  flush   : Held flushMutex caller.swapping flusher.locked
  file    : Held mutex caller.inFile flusher.inFile
  stopped : caller.stopped = !isWriting
  joined  : caller.joined = true → flusher = .done
  done    : flusher = .done → isWriting = false

def State.Threads (s : State) : Prop :=
  Record.Threads s.isWriting s.mutex s.flushMutex s.caller s.flusher

namespace Threads

variable {isWriting : Bool} {mutex mutex' flushMutex flushMutex' : Option Owner}
  {c c' : CallerPc} {f f' : FlushPc}

/-- The caller moves on, the shutdown as it is. -/
theorem setCaller (h : Threads isWriting mutex flushMutex c f)
    (hflush : Held flushMutex' c'.swapping f.locked) (hfile : Held mutex' c'.inFile f.inFile)
    (hstop : c'.stopped = c.stopped) (hjoin : c'.joined = c.joined) :
    Threads isWriting mutex' flushMutex' c' f where
  flush   := hflush
  file    := hfile
  stopped := hstop ▸ h.stopped
  joined  := hjoin ▸ h.joined
  done    := h.done

/-- The flush thread moves on, and leaves its loop only after `is_writing_`
    was cleared. -/
theorem setFlusher (h : Threads isWriting mutex flushMutex c f) (hne : f ≠ .done)
    (hflush : Held flushMutex' c.swapping f'.locked) (hfile : Held mutex' c.inFile f'.inFile)
    (hdone : f' = .done → isWriting = false) :
    Threads isWriting mutex' flushMutex' c f' where
  flush   := hflush
  file    := hfile
  stopped := h.stopped
  joined  := fun hj => absurd (h.joined hj) hne
  done    := hdone

/-- A notification. -/
theorem notified (h : Threads isWriting mutex flushMutex c f) :
    Threads isWriting mutex flushMutex c f.notified := by
  cases f with
  | blocked => exact h.setFlusher nofun h.flush h.file nofun
  | _ => exact h

end Threads

/-- **Step lemma**, locks. -/
theorem threads_step (a : Label) (h : s.Threads)
    (hg : ((recordFileWriter P given).action a).gate s) :
    (((recordFileWriter P given).action a).effect s).Threads := by
  unfold State.Threads at h
  cases a with
  | writeHeader | writeChannel c | close =>
    rw [show s.caller = _ from hg] at h
    exact h.setCaller h.flush h.file rfl rfl
  | writeMessage m =>
    rw [hg.1] at h
    show Threads _ _ _ (if _ then _ else _) _
    by_cases hneed : (s.addMessage m).needFlush m = true
    · rw [if_pos hneed]
      exact h.setCaller h.flush h.file rfl rfl
    · rw [if_neg hneed]
      exact h.setCaller h.flush h.file rfl rfl
  | headerLock last =>
    rw [hg.1, hg.2] at h
    cases last with
    | false => exact h.setCaller h.flush h.file.callerLock rfl rfl
    | true => exact h.setCaller h.flush h.file.callerLock rfl rfl
  | headerWrite last =>
    rw [hg.1] at h
    cases last with
    | false => exact h.setCaller h.flush h.file.callerUnlock rfl rfl
    | true => exact h.setCaller h.flush h.file.callerUnlock rfl rfl
  | channelLock c =>
    rw [hg.1, hg.2] at h
    exact h.setCaller h.flush h.file.callerLock rfl rfl
  | channelWrite c =>
    rw [hg.1] at h
    exact h.setCaller h.flush h.file.callerUnlock rfl rfl
  | swapLock last =>
    rw [hg.1, hg.2] at h
    exact h.setCaller h.flush.callerLock h.file rfl rfl
  | swap last =>
    rw [show s.caller = _ from hg] at h
    exact h.setCaller h.flush h.file rfl rfl
  -- the notification moves the flusher, and leaves the mutexes alone
  | notify last =>
    rw [show s.caller = _ from hg] at h
    exact h.notified.setCaller h.notified.flush h.notified.file rfl rfl
  | swapUnlock last =>
    rw [show s.caller = _ from hg] at h
    cases last with
    | false => exact h.setCaller h.flush.callerUnlock h.file rfl rfl
    | true => exact h.setCaller h.flush.callerUnlock h.file rfl rfl
  | waitFlush | waitLast =>
    rw [hg.1] at h
    exact h.setCaller h.flush h.file rfl rfl
  | stop =>
    rw [show s.caller = _ from hg] at h
    exact ⟨h.flush, h.file, rfl, nofun, fun _ => rfl⟩
  | notifyAll =>
    rw [show s.caller = _ from hg] at h
    exact h.notified.setCaller h.notified.flush h.notified.file rfl rfl
  | join =>
    rw [hg.1] at h
    exact ⟨h.flush, h.file, h.stopped, fun _ => hg.2, h.done⟩
  | indexLock =>
    rw [hg.1, hg.2] at h
    exact h.setCaller h.flush h.file.callerLock rfl rfl
  | indexWrite =>
    rw [hg.1] at h
    exact h.setCaller h.flush h.file.callerUnlock rfl rfl
  | setComplete =>
    rw [show s.caller = _ from hg] at h
    exact h.setCaller h.flush h.file rfl rfl
  | loop =>
    rw [show s.flusher = _ from hg] at h
    show Threads _ _ _ _ (if _ then _ else _)
    by_cases hw : s.isWriting = true
    · rw [if_pos hw]
      exact h.setFlusher nofun h.flush h.file nofun
    · rw [if_neg hw]
      exact h.setFlusher nofun h.flush h.file fun _ => Bool.eq_false_iff.mpr hw
  | lock | relock =>
    rw [hg.1, hg.2] at h
    exact h.setFlusher nofun h.flush.flusherLock h.file nofun
  | test =>
    rw [show s.flusher = _ from hg] at h
    show Threads _ _ _ _ (if _ then _ else _)
    by_cases hwait : (s.chunkFlush.empty && s.isWriting) = true
    · rw [if_pos hwait]
      exact h.setFlusher nofun h.flush h.file nofun
    · rw [if_neg hwait]
      exact h.setFlusher nofun h.flush h.file nofun
  | block =>
    rw [show s.flusher = _ from hg] at h
    exact h.setFlusher nofun h.flush.flusherUnlock h.file nofun
  | spurious =>
    rw [show s.flusher = _ from hg] at h
    exact h.setFlusher nofun h.flush h.file nofun
  | checkWriting =>
    rw [show s.flusher = _ from hg] at h
    show State.Threads (if _ then _ else _)
    by_cases hw : s.isWriting = true
    · rw [if_pos hw]
      exact h.setFlusher nofun h.flush h.file nofun
    · rw [if_neg hw]
      -- the flusher leaves for good only when the flag is down
      exact h.setFlusher nofun h.flush.flusherUnlock h.file fun _ => Bool.eq_false_iff.mpr hw
  | checkEmpty =>
    rw [show s.flusher = _ from hg] at h
    show State.Threads (if _ then _ else _)
    by_cases he : s.chunkFlush.empty = true
    · rw [if_pos he]
      exact h.setFlusher nofun h.flush.flusherUnlock h.file nofun
    · rw [if_neg he]
      exact h.setFlusher nofun h.flush h.file nofun
  | chunkLock =>
    rw [hg.1, hg.2] at h
    exact h.setFlusher nofun h.flush h.file.flusherLock nofun
  | chunkHeader =>
    rw [hg.1] at h
    exact h.setFlusher nofun h.flush h.file nofun
  | chunkBody =>
    rw [hg.1] at h
    exact h.setFlusher nofun h.flush h.file.flusherUnlock nofun
  | clear =>
    rw [show s.flusher = _ from hg] at h
    exact h.setFlusher nofun h.flush h.file nofun
  | unlock =>
    rw [show s.flusher = _ from hg] at h
    exact h.setFlusher nofun h.flush.flusherUnlock h.file nofun

theorem notified_writing (f : FlushPc) : f.notified.writing = f.writing := by
  cases f <;> rfl

/-! ## Section 3: Chunks -/

namespace Chunk

theorem of_concat (ms : List SingleMessage) (m : SingleMessage) :
    Chunk.of (ms ++ [m]) = (Chunk.of ms).add m := by
  simp [Chunk.of]

@[simp] theorem messages_of (ms : List SingleMessage) : (Chunk.of ms).body.messages = ms := by
  induction ms using List.reverseRecOn with
  | nil => rfl
  | append_singleton ms m ih =>
    rw [of_concat]
    show (Chunk.of ms).body.messages ++ [m] = _
    rw [ih]

theorem messageNumber_of (ms : List SingleMessage) :
    (Chunk.of ms).header.messageNumber = .ofNat ms.length := by
  induction ms using List.reverseRecOn with
  | nil => rfl
  | append_singleton ms m ih =>
    rw [of_concat]
    show (Chunk.of ms).header.messageNumber + 1 = _
    rw [ih]
    simp

/-- The chunk is what `add` makes of its messages, and the repeated field
    holds them. -/
structure Sound (c : Chunk) : Prop where
  of     : c = Chunk.of c.body.messages
  length : c.body.messages.length ≤ intMax

theorem sound_new : Chunk.new.Sound := ⟨rfl, Nat.zero_le _⟩

theorem Sound.add {c : Chunk} (h : c.Sound) (m : SingleMessage)
    (hlt : c.body.messages.length < intMax) : (c.add m).Sound := by
  constructor
  · show c.add m = Chunk.of (c.body.messages ++ [m])
    rw [of_concat, ← h.of]
  · show (c.body.messages ++ [m]).length ≤ intMax
    rw [List.length_append]
    exact hlt

theorem Sound.empty_iff {c : Chunk} (h : c.Sound) : c.empty = true ↔ c.body.messages = [] := by
  have hnum : c.header.messageNumber = .ofNat c.body.messages.length := by
    rw [h.of, messages_of]
    exact messageNumber_of _
  have hlen : c.body.messages.length < UInt64.size := by
    have := h.length
    have hmax : intMax < UInt64.size := by decide
    omega
  -- the counter does not wrap around
  have hzero : UInt64.ofNat c.body.messages.length = 0 ↔ c.body.messages.length = 0 := by
    rw [← UInt64.toNat_inj, UInt64.toNat_ofNat_of_lt' hlen]
    rfl
  rw [Chunk.empty, beq_iff_eq, hnum, hzero, List.length_eq_zero_iff]

end Chunk

/-- What the two chunks hold, by the places of the two threads. -/
structure Chunks (active flush : Chunk) (caller : CallerPc) (flusher : FlushPc) : Prop where
  soundActive : active.Sound
  soundFlush  : flush.Sound
  fresh       : caller.fresh = true → active.body.messages = [] ∧ flush.body.messages = []
  writing     : flusher.writing = true → flush.body.messages ≠ []
  beforeLast  : caller.beforeLast = true → flush.body.messages = []
  afterLast   : caller.afterLast = true → active.body.messages = []
  drained     : caller.drained = true → flush.body.messages = []

def State.Chunks (s : State) : Prop :=
  Record.Chunks s.chunkActive s.chunkFlush s.caller s.flusher

namespace Chunks

variable {active flush : Chunk} {c c' : CallerPc} {f f' : FlushPc}

theorem setCaller (h : Chunks active flush c f) (hfresh : c'.fresh = true → c.fresh = true)
    (hbefore : c'.beforeLast = true → flush.body.messages = [])
    (hafter : c'.afterLast = true → c.afterLast = true)
    (hdrained : c'.drained = true → flush.body.messages = []) : Chunks active flush c' f where
  soundActive := h.soundActive
  soundFlush  := h.soundFlush
  fresh       := fun hc => h.fresh (hfresh hc)
  writing     := h.writing
  beforeLast  := hbefore
  afterLast   := fun hc => h.afterLast (hafter hc)
  drained     := hdrained

/-- The caller moves on outside `Close`. -/
theorem setCallerOut (h : Chunks active flush c f) (hfresh : c'.fresh = true → c.fresh = true)
    (hbefore : c'.beforeLast = false) (hafter : c'.afterLast = false)
    (hdrained : c'.drained = false) : Chunks active flush c' f := by
  apply h.setCaller hfresh
  · rw [hbefore]
    nofun
  · rw [hafter]
    nofun
  · rw [hdrained]
    nofun

theorem setFlusher (h : Chunks active flush c f)
    (hwriting : f'.writing = true → flush.body.messages ≠ []) : Chunks active flush c f' where
  soundActive := h.soundActive
  soundFlush  := h.soundFlush
  fresh       := h.fresh
  writing     := hwriting
  beforeLast  := h.beforeLast
  afterLast   := h.afterLast
  drained     := h.drained

theorem notified (h : Chunks active flush c f) : Chunks active flush c f.notified :=
  h.setFlusher (notified_writing f ▸ h.writing)

end Chunks

/-- **Step lemma**, chunks. -/
theorem chunks_step (a : Label) (ht : s.Threads) (h : s.Chunks)
    (hg : ((recordFileWriter P given).action a).gate s) :
    (((recordFileWriter P given).action a).effect s).Chunks := by
  unfold State.Chunks at h
  cases a with
  | writeHeader =>
    rw [show s.caller = _ from hg] at h
    exact h.setCallerOut id rfl rfl rfl
  | writeChannel c | close =>
    rw [show s.caller = _ from hg] at h
    exact h.setCallerOut nofun rfl rfl rfl
  | writeMessage m =>
    obtain ⟨hpc, hlt⟩ := hg
    rw [hpc] at h
    show Chunks (s.chunkActive.add m) s.chunkFlush (if _ then _ else _) _
    -- the message goes into the active chunk, whose counters follow
    have hadd : Chunks (s.chunkActive.add m) s.chunkFlush .idle s.flusher :=
      ⟨h.soundActive.add m hlt, h.soundFlush, nofun, h.writing, nofun, nofun, nofun⟩
    by_cases hneed : (s.addMessage m).needFlush m = true
    · rw [if_pos hneed]
      exact hadd.setCallerOut nofun rfl rfl rfl
    · rw [if_neg hneed]
      exact hadd
  | headerLock last =>
    rw [hg.1] at h
    cases last with
    | false => exact h.setCallerOut id rfl rfl rfl
    | true => exact h.setCaller nofun nofun id h.drained
  | headerWrite last =>
    rw [hg.1] at h
    cases last with
    | false => exact h.setCallerOut nofun rfl rfl rfl
    | true => exact h.setCaller nofun nofun id h.drained
  | channelLock c | channelWrite c =>
    rw [hg.1] at h
    exact h.setCallerOut nofun rfl rfl rfl
  | swapLock last =>
    rw [hg.1] at h
    cases last with
    | false => exact h.setCallerOut nofun rfl rfl rfl
    | true => exact h.setCaller nofun h.beforeLast id nofun
  | swap last =>
    have hpc : s.caller = .swap last := hg
    unfold State.Threads at ht
    rw [hpc] at h ht
    -- the flush thread is outside its critical section
    have hwriting : s.flusher.writing ≠ true := by
      intro hw
      have hout := ht.flush.exclusive
      rw [FlushPc.locked_of_writing hw] at hout
      cases hout
    show Chunks s.chunkFlush s.chunkActive (.notify last) s.flusher
    cases last with
    | false => exact ⟨h.soundFlush, h.soundActive, nofun, (absurd · hwriting), nofun, nofun, nofun⟩
    | true =>
      exact ⟨h.soundFlush, h.soundActive, nofun, (absurd · hwriting), nofun,
        fun _ => h.beforeLast rfl, nofun⟩
  | notify last =>
    rw [show s.caller = _ from hg] at h
    cases last with
    | false => exact h.notified.setCallerOut nofun rfl rfl rfl
    | true => exact h.notified.setCaller nofun nofun id nofun
  | swapUnlock last =>
    rw [show s.caller = _ from hg] at h
    cases last with
    | false => exact h.setCallerOut nofun rfl rfl rfl
    | true => exact h.setCaller nofun nofun id nofun
  | waitFlush =>
    rw [hg.1] at h
    exact h.setCaller nofun (fun _ => h.soundFlush.empty_iff.mp hg.2) nofun nofun
  | waitLast =>
    rw [hg.1] at h
    exact h.setCaller nofun nofun id (fun _ => h.soundFlush.empty_iff.mp hg.2)
  | stop | setComplete =>
    rw [show s.caller = _ from hg] at h
    exact h.setCaller nofun nofun id h.drained
  | notifyAll =>
    rw [show s.caller = _ from hg] at h
    exact h.notified.setCaller nofun nofun id h.drained
  | join | indexLock | indexWrite =>
    rw [hg.1] at h
    exact h.setCaller nofun nofun id h.drained
  | loop =>
    rw [show s.flusher = _ from hg] at h
    show Chunks _ _ _ (if _ then _ else _)
    by_cases hw : s.isWriting = true
    · rw [if_pos hw]
      exact h.setFlusher nofun
    · rw [if_neg hw]
      exact h.setFlusher nofun
  | lock | relock => exact h.setFlusher nofun
  | test =>
    show Chunks _ _ _ (if _ then _ else _)
    by_cases hwait : (s.chunkFlush.empty && s.isWriting) = true
    · rw [if_pos hwait]
      exact h.setFlusher nofun
    · rw [if_neg hwait]
      exact h.setFlusher nofun
  | block | spurious | unlock => exact h.setFlusher nofun
  | checkWriting =>
    show State.Chunks (if _ then _ else _)
    by_cases hw : s.isWriting = true
    · rw [if_pos hw]
      exact h.setFlusher nofun
    · rw [if_neg hw]
      exact h.setFlusher nofun
  | checkEmpty =>
    show State.Chunks (if _ then _ else _)
    by_cases he : s.chunkFlush.empty = true
    · rw [if_pos he]
      exact h.setFlusher nofun
    · rw [if_neg he]
      -- the chunk to be written has messages
      exact h.setFlusher fun _ => mt h.soundFlush.empty_iff.mpr he
  | chunkLock =>
    rw [hg.1] at h
    exact h.setFlusher h.writing
  | chunkHeader | chunkBody =>
    rw [hg.1] at h
    exact h.setFlusher h.writing
  | clear =>
    exact ⟨h.soundActive, Chunk.sound_new, fun hf => ⟨(h.fresh hf).1, rfl⟩, nofun, fun _ => rfl,
      h.afterLast, fun _ => rfl⟩

/-! ## Section 4: Flow -/

def Block.messages : Block → List SingleMessage
  | .channel _ => []
  | .chunk ms  => ms

/-- The messages in these blocks, in order. -/
def messagesOf (blocks : List Block) : List SingleMessage := blocks.flatMap Block.messages

theorem messagesOf_concat (blocks : List Block) (b : Block) :
    messagesOf (blocks ++ [b]) = messagesOf blocks ++ b.messages := by
  simp [messagesOf]

/-- The messages in `chunk_flush_` that are not in the file. -/
def State.pending (s : State) : List SingleMessage :=
  if s.flusher = .clear then [] else s.chunkFlush.body.messages

def State.active (s : State) : List SingleMessage := s.chunkActive.body.messages

/-- What the step `a` does with messages. -/
inductive Flow (s : State) (a : Label) (s' : State) : Prop where
  | same : s'.written = s.written → messagesOf s'.blocks = messagesOf s.blocks →
      s'.pending = s.pending → s'.active = s.active → Flow s a s'
  | add (m : SingleMessage) : s'.written = s.written ++ [m] →
      messagesOf s'.blocks = messagesOf s.blocks → s'.pending = s.pending →
      s'.active = s.active ++ [m] → Flow s a s'
  | swap (last : Bool) : a = .swap last → s.caller = .swap last → s'.written = s.written →
      messagesOf s'.blocks = messagesOf s.blocks → s'.pending = s.active →
      s'.active = s.pending → Flow s a s'
  | store : s'.written = s.written → messagesOf s'.blocks = messagesOf s.blocks ++ s.pending →
      s'.pending = [] → s'.active = s.active → Flow s a s'

/-- What is pending depends on the flush thread only by whether it stands
    before its `clear`. -/
theorem pending_congr {s s' : State} (hflush : s'.chunkFlush = s.chunkFlush)
    (hclear : s'.flusher = .clear ↔ s.flusher = .clear) : s'.pending = s.pending := by
  unfold State.pending
  simp only [hflush, hclear]

/-- A step that leaves the members alone moves no message. -/
theorem flow_of_members {s s' : State} {a : Label}
    (hs : s'.toRecordFileWriter = s.toRecordFileWriter)
    (hclear : s'.flusher = .clear ↔ s.flusher = .clear) : Flow s a s' := by
  apply Flow.same
  · rw [hs]
  · rw [hs]
  · apply pending_congr _ hclear
    rw [hs]
  · unfold State.active
    rw [hs]

/-- A flush thread's step elsewhere. -/
theorem not_clear {f f' pc : FlushPc} (hpc : f = pc) (hne : pc ≠ .clear) (hne' : f' ≠ .clear) :
    f' = .clear ↔ f = .clear :=
  iff_of_false hne' (hpc ▸ hne)

theorem notified_eq_clear (f : FlushPc) : f.notified = .clear ↔ f = .clear := by
  cases f <;> simp [FlushPc.notified]

/-- The flush thread is outside its critical section at a swap. -/
theorem not_locked_of_swap {last : Bool} (ht : s.Threads) (hpc : s.caller = .swap last) :
    s.flusher.locked = false := by
  unfold State.Threads at ht
  rw [hpc] at ht
  exact ht.flush.exclusive

/-- **Flow lemma**: a step adds a message, swaps the chunks, stores the
    pending ones, or moves none. -/
theorem flow_step (a : Label) (ht : s.Threads)
    (hg : ((recordFileWriter P given).action a).gate s) :
    Flow s a (((recordFileWriter P given).action a).effect s) := by
  cases a with
  | writeMessage m => exact .add m rfl rfl rfl rfl
  | swap last =>
    have hout : s.flusher ≠ .clear := by
      intro hclear
      have hlocked := not_locked_of_swap ht hg
      rw [hclear] at hlocked
      cases hlocked
    exact .swap last rfl hg rfl rfl (if_neg hout) (if_neg hout).symm
  | notify last | notifyAll => exact flow_of_members rfl (notified_eq_clear _)
  | headerWrite last | channelLock c => exact .same rfl rfl rfl rfl
  | channelWrite c =>
    exact .same rfl ((messagesOf_concat s.blocks (.channel c)).trans (List.append_nil _)) rfl rfl
  | indexWrite | setComplete => exact .same rfl rfl rfl rfl
  | chunkHeader =>
    exact .same rfl rfl (pending_congr rfl (not_clear hg.1 nofun nofun)) rfl
  | chunkBody =>
    have hout : s.flusher ≠ .clear := by
      rw [hg.1]
      nofun
    have hpending : s.pending = s.chunkFlush.body.messages := if_neg hout
    refine .store rfl ?_ rfl rfl
    rw [hpending]
    exact messagesOf_concat s.blocks (.chunk s.chunkFlush.body.messages)
  | clear =>
    have hclear : s.flusher = .clear := hg
    have hpending : s.pending = [] := if_pos hclear
    refine .same rfl rfl ?_ rfl
    rw [hpending]
    rfl
  | loop =>
    refine flow_of_members rfl (not_clear hg nofun ?_)
    show (if _ then _ else _) ≠ _
    split <;> nofun
  | test =>
    refine flow_of_members rfl (not_clear hg nofun ?_)
    show (if _ then _ else _) ≠ _
    split <;> nofun
  | lock | relock | chunkLock => exact flow_of_members rfl (not_clear hg.1 nofun nofun)
  | block | spurious | unlock => exact flow_of_members rfl (not_clear hg nofun nofun)
  | checkWriting =>
    show Flow s _ (if _ then _ else _)
    split <;> exact flow_of_members rfl (not_clear hg nofun nofun)
  | checkEmpty =>
    show Flow s _ (if _ then _ else _)
    split <;> exact flow_of_members rfl (not_clear hg nofun nofun)
  | _ => exact flow_of_members rfl Iff.rfl

/-! ## Section 5: Runs -/

theorem threads_init (hi : (recordFileWriter P given).init s) : s.Threads := by
  obtain ⟨_, hw, hm, hf, hc, hfl⟩ := hi
  unfold State.Threads
  rw [hw, hm, hf, hc, hfl]
  exact ⟨.free, .free, rfl, nofun, nofun⟩

theorem chunks_init (hi : (recordFileWriter P given).init s) : s.Chunks := by
  obtain ⟨hs, _, _, _, hc, hfl⟩ := hi
  unfold State.Chunks
  rw [hs, hc, hfl]
  exact ⟨Chunk.sound_new, Chunk.sound_new, fun _ => ⟨rfl, rfl⟩, nofun, nofun, nofun, nofun⟩

/-- **Run lemma**: locks and chunks in every reachable state. -/
theorem threads_reachable (h : (recordFileWriter P given).Reachable s) :
    s.Threads ∧ s.Chunks := by
  apply System.invariant _ _ h
  · intro s hi
    exact ⟨threads_init hi, chunks_init hi⟩
  · intro s a ih hg
    exact ⟨threads_step a ih.1 hg, chunks_step a ih.1 ih.2 hg⟩

/-- Every message handed to `WriteMessage` is in the file or in one of the
    two chunks. -/
theorem written_perm (h : (recordFileWriter P given).Reachable s) :
    s.written.Perm (messagesOf s.blocks ++ s.pending ++ s.active) := by
  induction h with
  | init hi =>
    obtain ⟨hs, _, _, _, _, hfl⟩ := hi
    unfold State.pending State.active
    rw [hs, hfl]
    exact .nil
  | step a hr hstep ih =>
    obtain ⟨hg, rfl⟩ := hstep
    cases flow_step a (threads_reachable hr).1 hg with
    | same hw hb hp ha =>
      rw [hw, hb, hp, ha]
      exact ih
    | add m hw hb hp ha =>
      rw [hw, hb, hp, ha, ← List.append_assoc]
      exact ih.append_right [m]
    | swap _ _ _ hw hb hp ha =>
      rw [hw, hb, hp, ha, List.append_assoc]
      rw [List.append_assoc] at ih
      exact ih.trans (List.perm_append_comm.append_left _)
    | store hw hb hp ha =>
      rw [hw, hb, hp, ha, List.append_nil]
      exact ih

/-- When `Close` has drained the chunks, the file holds every message. -/
theorem written_perm_of_drained (h : (recordFileWriter P given).Reachable s)
    (hc : s.caller.drained = true) : s.written.Perm (messagesOf s.blocks) := by
  have hchunks := (threads_reachable h).2
  have hactive : s.active = [] := hchunks.afterLast (CallerPc.afterLast_of_drained hc)
  have hpending : s.pending = [] := by
    unfold State.pending
    rw [hchunks.drained hc]
    exact ite_self _
  have hperm := written_perm h
  rw [hactive, hpending, List.append_nil, List.append_nil] at hperm
  exact hperm

end CyberRT.Record
