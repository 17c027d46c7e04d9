import CyberRT.Transport.Shm.Block

/-! # Block access is exclusive and messages are not mixed

    The lock word of a block is the number of its readers minus the number
    of its writers, there is at most one writer and no reader beside it.
    While nobody writes a block, it holds the message of its last completed
    write, byte for byte; so whatever a reader copies is that message. -/

namespace CyberRT.Transport.Shm

open CyberRT.Framework

/-! ## Section 1: Bytes of a block -/

section bytes
variable {blk : Block} {off len addr : Nat} {byte : UInt8}

@[simp] theorem bytesAt_length (blk : Block) (off len : Nat) :
    (blk.bytesAt off len).length = len := by
  simp [Block.bytesAt]

theorem bytesAt_succ (blk : Block) (off len : Nat) :
    blk.bytesAt off (len + 1) = blk.bytesAt off len ++ [blk.buf (off + len)] := by
  simp [Block.bytesAt, List.range_succ]

/-- A store behind the bytes leaves them alone. -/
theorem store_bytesAt (h : off + len ≤ addr) :
    (blk.store addr byte).bytesAt off len = blk.bytesAt off len := by
  apply List.map_congr_left
  intro k hk
  have hlt : k < len := List.mem_range.mp hk
  have hne : off + k ≠ addr := by omega
  exact Function.update_of_ne hne byte blk.buf

/-- Copying the next element of `xs` extends the copied prefix. -/
theorem store_bytesAt_take {xs : List UInt8} (hlt : len < xs.length)
    (h : blk.bytesAt off len = xs.take len) :
    (blk.store (off + len) (xs.getD len 0)).bytesAt off (len + 1) = xs.take (len + 1) := by
  have hself : (blk.store (off + len) (xs.getD len 0)).buf (off + len) = xs.getD len 0 :=
    Function.update_self _ _ _
  rw [bytesAt_succ, store_bytesAt (Nat.le_refl _), h, hself, List.take_add_one,
    List.getD_eq_getElem?_getD, List.getElem?_eq_getElem hlt]
  rfl

/-- Reading the next byte of what the block holds extends the prefix read. -/
theorem prefix_snoc_bytesAt {xs ys : List UInt8} (hys : blk.bytesAt off ys.length = ys)
    (hpre : xs <+: ys) (hlt : xs.length < ys.length) :
    xs ++ [blk.buf (off + xs.length)] <+: ys := by
  have htake : ys.take xs.length = xs := (List.prefix_iff_eq_take.mp hpre).symm
  have hget : ys[xs.length]? = some (blk.buf (off + xs.length)) := by
    rw [← hys]
    simp [Block.bytesAt, hlt]
  have hsnoc : ys.take (xs.length + 1) = xs ++ [blk.buf (off + xs.length)] := by
    rw [List.take_add_one, htake, hget]
    rfl
  rw [← hsnoc]
  exact List.take_prefix _ _

end bytes

/-! ## Section 2: Invariant -/

variable {n : Nat} {Tid : Type}

/-- All a reader has read so far comes from the message `m`. -/
structure Seen (m : Message) (l : Local n) : Prop where
  msgSize_eq     : l.pc ≠ .msgSize → l.msgSize = m.payload.length
  msgInfoSize_eq : l.pc ≠ .msgSize → l.pc ≠ .msgInfoSize → l.msgInfoSize = MessageInfo.kSize
  msgInfoBytes   : l.pc = .deserializeFrom → l.msgInfoBytes <+: m.msgInfo.serializeTo
  msgInfo_eq     : l.pc = .onMessage ∨ l.pc = .parseFromArray → l.msgInfo = some m.msgInfo
  payloadSize_eq : l.pc = .parseFromArray → l.payloadSize = m.payload.length
  payload        : l.pc = .parseFromArray → l.payload <+: m.payload

/-- A reader that has read nothing yet. -/
theorem seen_msgSize (m : Message) {l : Local n} (hpc : l.pc = .msgSize) : Seen m l := by
  constructor
  · exact fun h => absurd hpc h
  · exact fun h => absurd hpc h
  · intro h
    rw [hpc] at h
    cases h
  · intro h
    rw [hpc] at h
    rcases h with h | h <;> cases h
  · intro h
    rw [hpc] at h
    cases h
  · intro h
    rw [hpc] at h
    cases h

section seen
variable {m : Message} {blk : Block} {l : Local n}

theorem Seen.readMsgSize (hholds : blk.Holds m) :
    Seen m { l with pc := .msgInfoSize, msgSize := blk.msgSize } := by
  constructor
  · exact fun _ => hholds.msgSize_eq
  · exact fun _ hl => absurd rfl hl
  · exact fun hl => by cases hl
  · exact fun hl => by rcases hl with hl | hl <;> cases hl
  · exact fun hl => by cases hl
  · exact fun hl => by cases hl

theorem Seen.readMsgInfoSize (h : Seen m l) (hpc : l.pc = .msgInfoSize)
    (hsize : blk.msgInfoSize = MessageInfo.kSize) :
    Seen m { l with
      pc := .deserializeFrom, msgInfoSize := blk.msgInfoSize, msgInfoBytes := [] } := by
  constructor
  · exact fun _ => h.msgSize_eq (by rw [hpc]; decide)
  · exact fun _ _ => hsize
  · exact fun _ => List.nil_prefix
  · exact fun hl => by rcases hl with hl | hl <;> cases hl
  · exact fun hl => by cases hl
  · exact fun hl => by cases hl

/-- The next byte is that of the message, for the sizes are. -/
theorem Seen.deserializeByte (h : Seen m l) (hholds : blk.Holds m)
    (hpc : l.pc = .deserializeFrom) (hlt : l.msgInfoBytes.length < l.msgInfoSize) :
    Seen m { l with
      msgInfoBytes := l.msgInfoBytes ++ [blk.buf (l.msgSize + l.msgInfoBytes.length)] } := by
  have hsize := h.msgSize_eq (by rw [hpc]; decide)
  have hinfo := h.msgInfoSize_eq (by rw [hpc]; decide) (by rw [hpc]; decide)
  refine ⟨h.msgSize_eq, h.msgInfoSize_eq, fun _ => ?_, h.msgInfo_eq, h.payloadSize_eq, h.payload⟩
  show l.msgInfoBytes ++ [blk.buf (l.msgSize + _)] <+: _
  rw [hsize]
  apply prefix_snoc_bytesAt
  · rw [MessageInfo.serializeTo_length]
    exact hholds.msgInfo_eq
  · exact h.msgInfoBytes hpc
  · rw [MessageInfo.serializeTo_length, ← hinfo]
    exact hlt

/-- All bytes are read: they are those of the message's `MessageInfo`. -/
theorem Seen.deserializeFrom (h : Seen m l) (hpc : l.pc = .deserializeFrom)
    (hlength : l.msgInfoBytes.length = l.msgInfoSize) :
    Seen m { l with
      pc := .onMessage, msgInfo := MessageInfo.deserializeFrom l.msgInfoBytes } := by
  have hinfo := h.msgInfoSize_eq (by rw [hpc]; decide) (by rw [hpc]; decide)
  have hbytes : l.msgInfoBytes = m.msgInfo.serializeTo := by
    apply (h.msgInfoBytes hpc).eq_of_length
    rw [hlength, hinfo, MessageInfo.serializeTo_length]
  constructor
  · exact fun _ => h.msgSize_eq (by rw [hpc]; decide)
  · exact fun _ _ => hinfo
  · exact fun hl => by cases hl
  · intro _
    show MessageInfo.deserializeFrom l.msgInfoBytes = some m.msgInfo
    rw [hbytes, MessageInfo.deserializeFrom_serializeTo]
  · exact fun hl => by cases hl
  · exact fun hl => by cases hl

theorem Seen.parseMsgSize (h : Seen m l) (hholds : blk.Holds m) (hpc : l.pc = .onMessage) :
    Seen m { l with pc := .parseFromArray, payloadSize := blk.msgSize, payload := [] } := by
  constructor
  · exact fun _ => h.msgSize_eq (by rw [hpc]; decide)
  · exact fun _ _ => h.msgInfoSize_eq (by rw [hpc]; decide) (by rw [hpc]; decide)
  · exact fun hl => by cases hl
  · exact fun _ => h.msgInfo_eq (Or.inl hpc)
  · exact fun _ => hholds.msgSize_eq
  · exact fun _ => List.nil_prefix

theorem Seen.parseByte (h : Seen m l) (hholds : blk.Holds m) (hpc : l.pc = .parseFromArray)
    (hlt : l.payload.length < l.payloadSize) :
    Seen m { l with payload := l.payload ++ [blk.buf l.payload.length] } := by
  refine ⟨h.msgSize_eq, h.msgInfoSize_eq, h.msgInfoBytes, h.msgInfo_eq, h.payloadSize_eq,
    fun _ => ?_⟩
  have hsnoc := prefix_snoc_bytesAt hholds.payload_eq (h.payload hpc)
    (by rw [← h.payloadSize_eq hpc]; exact hlt)
  rw [Nat.zero_add] at hsnoc
  exact hsnoc

/-- The listener has returned. -/
theorem Seen.listener (h : Seen m l) (hpc : l.pc = .parseFromArray) :
    Seen m { l with pc := .onMessage } := by
  constructor
  · exact fun _ => h.msgSize_eq (by rw [hpc]; decide)
  · exact fun _ _ => h.msgInfoSize_eq (by rw [hpc]; decide) (by rw [hpc]; decide)
  · exact fun hl => by cases hl
  · exact fun _ => h.msgInfo_eq (Or.inr hpc)
  · exact fun hl => by cases hl
  · exact fun hl => by cases hl

end seen

/-- How much of its message a writer has stored in its block. -/
def WriterInv (blk : Block) (l : Local n) : Prop :=
  match l.pc with
  | .serializeToArray =>
      l.pos ≤ l.message.payload.length ∧
      blk.bytesAt 0 l.pos = l.message.payload.take l.pos
  | .serializeTo =>
      blk.msgSize = l.message.payload.length ∧
      blk.bytesAt 0 l.message.payload.length = l.message.payload ∧
      l.pos ≤ MessageInfo.kSize ∧
      blk.bytesAt l.message.payload.length l.pos = l.message.msgInfo.serializeTo.take l.pos
  | .releaseWrittenBlock => blk.Holds l.message
  | _ => True

/-- What a reader holds was read since the last of the writes `w`. -/
structure ReaderInv (w : List Message) (l : Local n) : Prop where
  base_eq : l.base = w.length
  seen    : ∀ m, w.getLast? = some m → Seen m l

/-- What a thread's local variables know about its block and the writes of it. -/
structure ThreadInv (blk : Block) (w : List Message) (l : Local n) : Prop where
  writer  : l.pc.writing = true → WriterInv blk l
  reader  : l.pc.reading = true → ReaderInv w l
  lockNum : l.pc = .tryLockForRead → 0 ≤ l.lockNum

section inv
variable [Fintype Tid]

/-- The number of threads that hold the write lock of `b`. -/
def State.writers (s : State n Tid) (b : Fin n) : Nat := tally (Local.Writes b) s.loc

/-- The number of threads that hold a read lock of `b`. -/
def State.readers (s : State n Tid) (b : Fin n) : Nat := tally (Local.Reads b) s.loc

/-- What a listener heard is one completed write. -/
def HeardWritten (s : State n Tid) (h : Heard n) : Prop :=
  0 < h.base → ∃ m, (s.written h.index)[h.base - 1]? = some m ∧
    h.payload = m.payload ∧ h.msgInfo = some m.msgInfo

/-- The invariant of the segment. -/
structure Inv (s : State n Tid) : Prop where
  lockNum_eq : ∀ b, (s.blocks b).lockNum = (s.readers b : Int) - s.writers b
  writers_le : ∀ b, s.writers b ≤ 1
  exclusive  : ∀ b, 0 < s.writers b → s.readers b = 0
  content    : ∀ b, s.writers b = 0 → ∀ m, (s.written b).getLast? = some m →
                 (s.blocks b).Holds m
  threads    : ∀ t, ThreadInv (s.blocks (s.loc t).index) (s.written (s.loc t).index) (s.loc t)
  heard      : ∀ h ∈ s.heard, HeardWritten s h

end inv

/-! ## Section 3: Frame lemmas -/

/-- A thread knows the content of a block it writes and the writes of a
    block it reads, nothing else. -/
theorem ThreadInv.frame {blk blk' : Block} {w w' : List Message} {l : Local n}
    (h : ThreadInv blk w l) (hblk : l.pc.writing = true → blk' = blk)
    (hw : l.pc.reading = true → w' = w) : ThreadInv blk' w' l := by
  constructor
  · intro hpc
    rw [hblk hpc]
    exact h.writer hpc
  · intro hpc
    rw [hw hpc]
    exact h.reader hpc
  · exact h.lockNum

/-- A thread that holds no lock knows nothing but the lock word it loaded. -/
theorem ThreadInv.of_idle {blk : Block} {w : List Message} {l : Local n}
    (hwriting : l.pc.writing = false) (hreading : l.pc.reading = false)
    (hlock : l.pc ≠ .tryLockForRead) : ThreadInv blk w l := by
  constructor
  · intro hpc
    rw [hwriting] at hpc
    cases hpc
  · intro hpc
    rw [hreading] at hpc
    cases hpc
  · intro hpc
    exact absurd hpc hlock

section frame
variable [Fintype Tid] [DecidableEq Tid] {s : State n Tid} {t : Tid} {l : Local n}

/-- A step that changes one thread's local variables and neither what it
    holds nor its block. -/
theorem Inv.setLoc (h : Inv s) (hwriting : l.pc.writing = (s.loc t).pc.writing)
    (hreading : l.pc.reading = (s.loc t).pc.reading)
    (hindex : l.pc.writing = true ∨ l.pc.reading = true → l.index = (s.loc t).index)
    (hl : ThreadInv (s.blocks l.index) (s.written l.index) l) : Inv (s.setLoc t l) := by
  have hwriters : ∀ b, (s.setLoc t l).writers b = s.writers b := by
    intro b
    apply tally_update_of_iff
    unfold Local.Writes
    rw [← hwriting]
    constructor <;> rintro ⟨hpc, hb⟩ <;> exact ⟨hpc, by rw [← hb, hindex (Or.inl hpc)]⟩
  have hreaders : ∀ b, (s.setLoc t l).readers b = s.readers b := by
    intro b
    apply tally_update_of_iff
    unfold Local.Reads
    rw [← hreading]
    constructor <;> rintro ⟨hpc, hb⟩ <;> exact ⟨hpc, by rw [← hb, hindex (Or.inr hpc)]⟩
  constructor
  · intro b
    rw [hwriters, hreaders]
    exact h.lockNum_eq b
  · intro b
    rw [hwriters]
    exact h.writers_le b
  · intro b
    rw [hwriters, hreaders]
    exact h.exclusive b
  · intro b
    rw [hwriters]
    exact h.content b
  · intro u
    by_cases hu : u = t
    · subst hu
      simpa only [State.setLoc, Function.update_self] using hl
    · simpa only [State.setLoc, Function.update_of_ne hu] using h.threads u
  · exact h.heard

/-- A step of a thread on its own block: the lock word stays the number of
    readers minus the number of writers, and what the other holders of the
    block know does not change. -/
theorem Inv.setBlock (h : Inv s) {blk : Block} {w : List Message}
    (hfree : ∀ b, b ≠ l.index → ¬ (s.loc t).Writes b ∧ ¬ (s.loc t).Reads b)
    (hlock : blk.lockNum = ((s.setLoc t l).readers l.index : Int) - (s.setLoc t l).writers l.index)
    (hle : (s.setLoc t l).writers l.index ≤ 1)
    (hexcl : 0 < (s.setLoc t l).writers l.index → (s.setLoc t l).readers l.index = 0)
    (hcontent : (s.setLoc t l).writers l.index = 0 → ∀ m, w.getLast? = some m → blk.Holds m)
    (hl : ThreadInv blk w l)
    (hblk : ∀ u, u ≠ t → (s.loc u).Writes l.index → blk = s.blocks l.index)
    (hw : ∀ u, u ≠ t → (s.loc u).Reads l.index → w = s.written l.index)
    (hpre : ∃ r, w = s.written l.index ++ r) :
    Inv { (s.setLoc t l).setBlock l.index blk with
      written := Function.update s.written l.index w } := by
  -- the thread holds no other block, so the counts of the others stay
  have hwriters : ∀ b, b ≠ l.index → (s.setLoc t l).writers b = s.writers b := by
    intro b hb
    apply tally_update_of_iff
    constructor
    · rintro ⟨_, hb'⟩
      exact absurd hb'.symm hb
    · intro hwr
      exact absurd hwr (hfree b hb).1
  have hreaders : ∀ b, b ≠ l.index → (s.setLoc t l).readers b = s.readers b := by
    intro b hb
    apply tally_update_of_iff
    constructor
    · rintro ⟨_, hb'⟩
      exact absurd hb'.symm hb
    · intro hrd
      exact absurd hrd (hfree b hb).2
  constructor
  · intro b
    show (Function.update s.blocks l.index blk b).lockNum =
      ((s.setLoc t l).readers b : Int) - (s.setLoc t l).writers b
    by_cases hb : b = l.index
    · rw [hb, Function.update_self]
      exact hlock
    · rw [Function.update_of_ne hb, hwriters b hb, hreaders b hb]
      exact h.lockNum_eq b
  · intro b
    show (s.setLoc t l).writers b ≤ 1
    by_cases hb : b = l.index
    · rw [hb]
      exact hle
    · rw [hwriters b hb]
      exact h.writers_le b
  · intro b
    show 0 < (s.setLoc t l).writers b → (s.setLoc t l).readers b = 0
    by_cases hb : b = l.index
    · rw [hb]
      exact hexcl
    · rw [hwriters b hb, hreaders b hb]
      exact h.exclusive b
  · intro b
    show (s.setLoc t l).writers b = 0 →
      ∀ m, (Function.update s.written l.index w b).getLast? = some m →
        (Function.update s.blocks l.index blk b).Holds m
    by_cases hb : b = l.index
    · rw [hb, Function.update_self, Function.update_self]
      exact hcontent
    · rw [Function.update_of_ne hb, Function.update_of_ne hb, hwriters b hb]
      exact h.content b
  · intro u
    show ThreadInv (Function.update s.blocks l.index blk (Function.update s.loc t l u).index)
      (Function.update s.written l.index w (Function.update s.loc t l u).index)
      (Function.update s.loc t l u)
    by_cases hu : u = t
    · rw [hu, Function.update_self, Function.update_self, Function.update_self]
      exact hl
    · rw [Function.update_of_ne hu]
      -- another thread on the block sees what it may rely on unchanged
      by_cases hb : (s.loc u).index = l.index
      · rw [hb, Function.update_self, Function.update_self]
        apply (hb ▸ h.threads u).frame
        · intro hpc
          exact hblk u hu ⟨hpc, hb⟩
        · intro hpc
          exact hw u hu ⟨hpc, hb⟩
      · rw [Function.update_of_ne hb, Function.update_of_ne hb]
        exact h.threads u
  · intro x hx hbase
    obtain ⟨m, hm, hrest⟩ := h.heard x hx hbase
    apply Exists.intro m
    show (Function.update s.written l.index w x.index)[x.base - 1]? = some m ∧ _
    -- completed writes are only added, so what was heard stays true
    by_cases hb : x.index = l.index
    · rw [hb, Function.update_self]
      rw [hb] at hm
      obtain ⟨r, rfl⟩ := hpre
      have hlt := (List.getElem?_eq_some_iff.mp hm).1
      exact ⟨by rw [List.getElem?_append_left hlt, hm], hrest⟩
    · rw [Function.update_of_ne hb]
      exact ⟨hm, hrest⟩

/-- As `Inv.setBlock`, for a step that completes no write. -/
theorem Inv.setBlockOnly (h : Inv s) {blk : Block}
    (hfree : ∀ b, b ≠ l.index → ¬ (s.loc t).Writes b ∧ ¬ (s.loc t).Reads b)
    (hlock : blk.lockNum = ((s.setLoc t l).readers l.index : Int) - (s.setLoc t l).writers l.index)
    (hle : (s.setLoc t l).writers l.index ≤ 1)
    (hexcl : 0 < (s.setLoc t l).writers l.index → (s.setLoc t l).readers l.index = 0)
    (hcontent : (s.setLoc t l).writers l.index = 0 →
      ∀ m, (s.written l.index).getLast? = some m → blk.Holds m)
    (hl : ThreadInv blk (s.written l.index) l)
    (hblk : ∀ u, u ≠ t → (s.loc u).Writes l.index → blk = s.blocks l.index) :
    Inv ((s.setLoc t l).setBlock l.index blk) := by
  have hstep := h.setBlock hfree hlock hle hexcl hcontent hl hblk (fun _ _ _ => rfl)
    ⟨[], by rw [List.append_nil]⟩
  rw [Function.update_eq_self] at hstep
  exact hstep

end frame

/-! ## Section 4: The steps -/

theorem not_holding {l : Local n} (hwriting : l.pc.writing = false)
    (hreading : l.pc.reading = false) (b : Fin n) : ¬ l.Writes b ∧ ¬ l.Reads b := by
  unfold Local.Writes Local.Reads
  rw [hwriting, hreading]
  simp

theorem Pc.not_reading_of_writing {pc : Pc} (h : pc.writing = true) : pc.reading = false := by
  cases pc <;> first | rfl | cases h

theorem Pc.not_writing_of_reading {pc : Pc} (h : pc.reading = true) : pc.writing = false := by
  cases pc <;> first | rfl | cases h

/-- A thread holds locks of its own block only. -/
theorem not_holding_other {l : Local n} {b : Fin n} (hb : b ≠ l.index) :
    ¬ l.Writes b ∧ ¬ l.Reads b :=
  ⟨fun hw => hb hw.2.symm, fun hr => hb hr.2.symm⟩

section steps
variable [Fintype Tid] {s : State n Tid} {t : Tid} {l : Local n}

/-- Nobody reads a block that is being written, and nobody else writes it. -/
theorem Inv.alone (h : Inv s) (hwr : (s.loc t).Writes (s.loc t).index) {u : Tid} (hu : u ≠ t) :
    ¬ (s.loc u).Writes (s.loc t).index ∧ ¬ (s.loc u).Reads (s.loc t).index := by
  constructor
  · intro hwu
    exact hu (eq_of_tally_le_one (h.writers_le _) hwu hwr)
  · intro hru
    have hzero := h.exclusive _ (tally_pos hwr)
    exact tally_eq_zero_iff.mp hzero u hru

/-- Nobody writes a block that is being read. -/
theorem Inv.writers_eq_zero (h : Inv s) {b : Fin n} (hrd : (s.loc t).Reads b) :
    s.writers b = 0 := by
  have hpos := tally_pos hrd
  have hexcl := h.exclusive b
  unfold State.readers at hexcl
  omega

/-- What a reader's block holds. -/
theorem Inv.holds (h : Inv s) (hrd : (s.loc t).pc.reading = true) {m : Message}
    (hm : (s.written (s.loc t).index).getLast? = some m) : (s.blockOf t).Holds m :=
  h.content _ (h.writers_eq_zero ⟨hrd, rfl⟩) m hm

variable [DecidableEq Tid]

/-- A writer's store into its block. -/
theorem Inv.storeStep (h : Inv s) (hwr : (s.loc t).pc.writing = true)
    (hwr' : l.pc.writing = true) (hindex : l.index = (s.loc t).index) {blk : Block}
    (hlock : blk.lockNum = (s.blockOf t).lockNum) (hl : WriterInv blk l) :
    Inv ((s.setLoc t l).setBlock l.index blk) := by
  have hwrites : (s.loc t).Writes (s.loc t).index := ⟨hwr, rfl⟩
  have hwriters : (s.setLoc t l).writers l.index = s.writers l.index := by
    apply tally_update_of_iff
    exact ⟨fun _ => ⟨hwr, hindex.symm⟩, fun _ => ⟨hwr', rfl⟩⟩
  have hreaders : (s.setLoc t l).readers l.index = s.readers l.index := by
    apply tally_update_of_iff
    unfold Local.Reads
    rw [Pc.not_reading_of_writing hwr, Pc.not_reading_of_writing hwr', hindex]
  apply h.setBlockOnly
  · intro b hb
    rw [hindex] at hb
    exact not_holding_other hb
  · rw [hwriters, hreaders, hlock, State.blockOf, ← hindex]
    exact h.lockNum_eq _
  · rw [hwriters]
    exact h.writers_le _
  · rw [hwriters, hreaders]
    exact h.exclusive _
  · intro hzero
    rw [hwriters, hindex] at hzero
    exact absurd hwrites (tally_eq_zero_iff.mp hzero t)
  · constructor
    · exact fun _ => hl
    · intro hr
      rw [Pc.not_reading_of_writing hwr'] at hr
      cases hr
    · intro hpc
      rw [hpc] at hwr'
      cases hwr'
  · intro u hu hwu
    rw [hindex] at hwu
    exact absurd hwu (h.alone hwrites hu).1

/-- A free block is locked for writing. -/
theorem Inv.tryLockForWrite (h : Inv s) {b : Fin n} (hpc : (s.loc t).pc = .tryLockForWrite)
    (hfree : (s.blocks b).lockNum = kRWLockFree) :
    Inv ((s.setLoc t { s.loc t with pc := .increaseWroteNum, index := b }).setBlock b
      { s.blocks b with lockNum := kWriteExclusive }) := by
  have hlock := h.lockNum_eq b
  have hexcl := h.exclusive b
  have hle := h.writers_le b
  rw [hfree] at hlock
  simp only [kRWLockFree] at hlock
  -- the lock word is zero with at most one writer, and then no reader
  have hzero : s.writers b = 0 ∧ s.readers b = 0 := by omega
  have hidle : ∀ c, ¬ (s.loc t).Writes c ∧ ¬ (s.loc t).Reads c := by
    apply not_holding
    · rw [hpc]; rfl
    · rw [hpc]; rfl
  let l : Local n := { s.loc t with pc := .increaseWroteNum, index := b }
  have hwriters : (s.setLoc t l).writers b = 1 := by
    rw [← Nat.zero_add 1, ← hzero.1]
    apply tally_update_enter
    · exact (hidle b).1
    · exact ⟨rfl, rfl⟩
  have hreaders : (s.setLoc t l).readers b = 0 := by
    rw [← hzero.2]
    apply tally_update_of_iff
    constructor
    · intro hr
      cases hr.1
    · intro hr
      exact absurd hr (hidle b).2
  apply @Inv.setBlockOnly _ _ _ _ _ _ l h
  · exact fun c _ => hidle c
  · show kWriteExclusive = ((s.setLoc t l).readers b : Int) - (s.setLoc t l).writers b
    rw [hwriters, hreaders]
    rfl
  · show (s.setLoc t l).writers b ≤ 1
    omega
  · exact fun _ => hreaders
  · intro hw
    change (s.setLoc t l).writers b = 0 at hw
    omega
  · constructor
    · exact fun _ => trivial
    · intro hr
      cases hr
    · intro hr
      cases hr
  · intro u _ hwu
    exact absurd hwu (tally_eq_zero_iff.mp hzero.1 u)

/-- The write lock is released: the message becomes the last completed
    write of the block. -/
theorem Inv.releaseWrittenBlock (h : Inv s) (hpc : (s.loc t).pc = .releaseWrittenBlock) :
    Inv { (s.setLoc t { s.loc t with pc := .idle }).setBlock (s.loc t).index
        { s.blockOf t with lockNum := (s.blockOf t).lockNum + 1 } with
      written := Function.update s.written (s.loc t).index
        (s.written (s.loc t).index ++ [(s.loc t).message]) } := by
  have hwrites : (s.loc t).Writes (s.loc t).index := ⟨by rw [hpc]; rfl, rfl⟩
  -- the writer has filled the block completely
  have hholds : (s.blocks (s.loc t).index).Holds (s.loc t).message := by
    have := (h.threads t).writer hwrites.1
    simpa only [WriterInv, hpc] using this
  have hlock := h.lockNum_eq (s.loc t).index
  have hle := h.writers_le (s.loc t).index
  have hpos : 0 < s.writers (s.loc t).index := tally_pos hwrites
  have hzero := h.exclusive _ hpos
  let l : Local n := { s.loc t with pc := .idle }
  have hwriters : (s.setLoc t l).writers l.index = 0 := by
    have hleave : (s.setLoc t l).writers l.index + 1 = s.writers l.index := by
      apply tally_update_leave
      · exact hwrites
      · exact (not_holding rfl rfl _).1
    change _ = s.writers (s.loc t).index at hleave
    omega
  have hreaders : (s.setLoc t l).readers l.index = 0 := by
    rw [← hzero]
    apply tally_update_of_iff
    constructor
    · intro hr
      exact absurd hr (not_holding rfl rfl _).2
    · intro hr
      exact absurd hr (tally_eq_zero_iff.mp hzero t)
  apply @Inv.setBlock _ _ _ _ _ _ l h
  · exact fun b hb => not_holding_other hb
  · rw [hwriters, hreaders]
    show (s.blocks (s.loc t).index).lockNum + 1 = _
    rw [hlock, hzero]
    omega
  · omega
  · exact fun _ => hreaders
  · intro _ m hm
    rw [List.getLast?_concat] at hm
    cases hm
    exact ⟨hholds.msgSize_eq, hholds.msgInfoSize_eq, hholds.payload_eq, hholds.msgInfo_eq⟩
  · apply ThreadInv.of_idle rfl rfl
    intro hl
    cases hl
  · intro u hu hwu
    exact absurd hwu (h.alone hwrites hu).1
  · intro u hu hru
    exact absurd hru (h.alone hwrites hu).2
  · exact ⟨_, rfl⟩

/-- A read lock is taken: the lock word was not negative, so nobody writes. -/
theorem Inv.tryLockForRead (h : Inv s) (hpc : (s.loc t).pc = .tryLockForRead)
    (hcur : (s.blockOf t).lockNum = (s.loc t).lockNum) :
    Inv ((s.setLoc t { s.loc t with
        pc := .msgSize, base := (s.written (s.loc t).index).length }).setBlock (s.loc t).index
      { s.blockOf t with lockNum := (s.loc t).lockNum + 1 }) := by
  have hnonneg := (h.threads t).lockNum hpc
  have hlock := h.lockNum_eq (s.loc t).index
  have hexcl := h.exclusive (s.loc t).index
  rw [← hcur, State.blockOf] at hnonneg
  -- a writer would make the lock word negative
  have hzero : s.writers (s.loc t).index = 0 := by omega
  have hidle : ∀ c, ¬ (s.loc t).Writes c ∧ ¬ (s.loc t).Reads c := by
    apply not_holding
    · rw [hpc]; rfl
    · rw [hpc]; rfl
  let l : Local n := { s.loc t with
    pc := .msgSize, base := (s.written (s.loc t).index).length }
  have hwriters : (s.setLoc t l).writers l.index = 0 := by
    rw [← hzero]
    apply tally_update_of_iff
    constructor
    · intro hw
      cases hw.1
    · intro hw
      exact absurd hw (hidle _).1
  have hreaders : (s.setLoc t l).readers l.index = s.readers (s.loc t).index + 1 := by
    apply tally_update_enter
    · exact (hidle _).2
    · exact ⟨rfl, rfl⟩
  apply @Inv.setBlockOnly _ _ _ _ _ _ l h
  · exact fun b _ => hidle b
  · rw [hwriters, hreaders]
    show (s.loc t).lockNum + 1 = _
    rw [← hcur, State.blockOf, hlock, hzero]
    omega
  · omega
  · intro hw
    omega
  · intro _ m hm
    have hholds := h.content _ hzero m hm
    exact ⟨hholds.msgSize_eq, hholds.msgInfoSize_eq, hholds.payload_eq, hholds.msgInfo_eq⟩
  · constructor
    · intro hw
      cases hw
    · exact fun _ => ⟨rfl, fun m _ => seen_msgSize m rfl⟩
    · intro hl
      cases hl
  · intro u _ hwu
    exact absurd hwu (tally_eq_zero_iff.mp hzero u)

/-- A read lock is released. -/
theorem Inv.releaseReadBlock (h : Inv s) (hrd : (s.loc t).pc.reading = true) :
    Inv ((s.setLoc t { s.loc t with pc := .idle }).setBlock (s.loc t).index
      { s.blockOf t with lockNum := (s.blockOf t).lockNum - 1 }) := by
  have hreads : (s.loc t).Reads (s.loc t).index := ⟨hrd, rfl⟩
  have hzero := h.writers_eq_zero hreads
  have hlock := h.lockNum_eq (s.loc t).index
  let l : Local n := { s.loc t with pc := .idle }
  have hwriters : (s.setLoc t l).writers l.index = 0 := by
    rw [← hzero]
    apply tally_update_of_iff
    constructor
    · intro hw
      cases hw.1
    · intro hw
      exact absurd hw (tally_eq_zero_iff.mp hzero t)
  have hreaders : (s.setLoc t l).readers l.index + 1 = s.readers (s.loc t).index := by
    apply tally_update_leave
    · exact hreads
    · exact (not_holding rfl rfl _).2
  apply @Inv.setBlockOnly _ _ _ _ _ _ l h
  · exact fun b hb => not_holding_other hb
  · rw [hwriters]
    show (s.blocks (s.loc t).index).lockNum - 1 = _
    rw [hlock, hzero, ← hreaders]
    omega
  · omega
  · intro hw
    omega
  · intro _ m hm
    have hholds := h.content _ hzero m hm
    exact ⟨hholds.msgSize_eq, hholds.msgInfoSize_eq, hholds.payload_eq, hholds.msgInfo_eq⟩
  · apply ThreadInv.of_idle rfl rfl
    intro hl
    cases hl
  · intro u _ hwu
    exact absurd hwu (tally_eq_zero_iff.mp hzero u)

/-- A reader's step: it keeps its lock and what it has read so far. -/
theorem Inv.readStep (h : Inv s) (hrd : (s.loc t).pc.reading = true)
    (hrd' : l.pc.reading = true) (hindex : l.index = (s.loc t).index)
    (hbase : l.base = (s.loc t).base)
    (hseen : ∀ m, (s.blockOf t).Holds m → Seen m (s.loc t) → Seen m l) :
    Inv (s.setLoc t l) := by
  have hr := (h.threads t).reader hrd
  apply h.setLoc
  · rw [Pc.not_writing_of_reading hrd, Pc.not_writing_of_reading hrd']
  · rw [hrd, hrd']
  · exact fun _ => hindex
  · constructor
    · intro hw
      rw [Pc.not_writing_of_reading hrd'] at hw
      cases hw
    · intro _
      rw [hindex]
      constructor
      · rw [hbase, hr.base_eq]
      · intro m hm
        exact hseen m (h.holds hrd hm) (hr.seen m hm)
    · intro hpc
      rw [hpc] at hrd'
      cases hrd'

/-- A step of a thread that holds no lock, before and after. -/
theorem Inv.idleStep (h : Inv s) {pc pc' : Pc} (hpc : (s.loc t).pc = pc) (hpc' : l.pc = pc')
    (hidle : pc.writing = false ∧ pc.reading = false)
    (hidle' : pc'.writing = false ∧ pc'.reading = false)
    (hlock : pc' = .tryLockForRead → 0 ≤ l.lockNum) : Inv (s.setLoc t l) := by
  apply h.setLoc
  · rw [hpc, hpc', hidle.1, hidle'.1]
  · rw [hpc, hpc', hidle.2, hidle'.2]
  · intro hl
    rw [hpc', hidle'.1, hidle'.2] at hl
    rcases hl with hl | hl <;> cases hl
  · constructor
    · intro hw
      rw [hpc', hidle'.1] at hw
      cases hw
    · intro hr
      rw [hpc', hidle'.2] at hr
      cases hr
    · rw [hpc']
      exact hlock

omit [DecidableEq Tid] in
/-- `wrote_num_` is a hint where to search, no invariant rests on it. -/
theorem Inv.setWroteNum (h : Inv s) (k : Nat) : Inv { s with wroteNum := k } :=
  ⟨h.lockNum_eq, h.writers_le, h.exclusive, h.content, h.threads, h.heard⟩

/-- A listener is called with what the reader has copied. -/
theorem Inv.listener (h : Inv s) (hpc : (s.loc t).pc = .parseFromArray)
    (hlen : (s.loc t).payload.length = (s.loc t).payloadSize) :
    Inv { s.setLoc t { s.loc t with pc := .onMessage } with
      heard := s.heard ++ [⟨(s.loc t).index, (s.loc t).base, (s.loc t).payload,
        (s.loc t).msgInfo⟩] } := by
  have hrd : (s.loc t).pc.reading = true := by rw [hpc]; rfl
  have hr := (h.threads t).reader hrd
  have hstep : Inv (s.setLoc t { s.loc t with pc := .onMessage }) := by
    apply h.readStep
    · exact hrd
    · rfl
    · rfl
    · rfl
    · exact fun _ _ hseen => hseen.listener hpc
  have hheard : ∀ x ∈ s.heard ++ [⟨(s.loc t).index, (s.loc t).base, (s.loc t).payload,
      (s.loc t).msgInfo⟩], HeardWritten s x := by
    intro x hx
    rcases List.mem_append.mp hx with hx | hx
    · exact h.heard x hx
    · rw [List.mem_singleton] at hx
      subst hx
      intro hpos
      change 0 < (s.loc t).base at hpos
      rw [hr.base_eq] at hpos
      -- the last write completed before the read lock was taken
      have hlast : (s.written (s.loc t).index).getLast?.isSome :=
        List.getLast?_isSome.mpr (List.ne_nil_of_length_pos hpos)
      obtain ⟨m, hm⟩ := Option.isSome_iff_exists.mp hlast
      have hseen := hr.seen m hm
      have hpayload : (s.loc t).payload = m.payload := by
        apply (hseen.payload hpc).eq_of_length
        rw [hlen, hseen.payloadSize_eq hpc]
      apply Exists.intro m
      refine ⟨?_, hpayload, hseen.msgInfo_eq (Or.inr hpc)⟩
      show (s.written (s.loc t).index)[(s.loc t).base - 1]? = some m
      rw [hr.base_eq, ← List.getLast?_eq_getElem?]
      exact hm
  exact ⟨hstep.lockNum_eq, hstep.writers_le, hstep.exclusive, hstep.content, hstep.threads, hheard⟩

/-- Copying one byte of the payload. -/
theorem Inv.serializeByte (h : Inv s) (hpc : (s.loc t).pc = .serializeToArray)
    (hlt : (s.loc t).pos < (s.loc t).message.payload.length) :
    Inv ((s.setLoc t { s.loc t with pos := (s.loc t).pos + 1 }).setBlock (s.loc t).index
      ((s.blockOf t).store (s.loc t).pos ((s.loc t).message.payload.getD (s.loc t).pos 0))) := by
  have hwr : (s.loc t).pc.writing = true := by rw [hpc]; rfl
  have hinv := (h.threads t).writer hwr
  simp only [WriterInv, hpc] at hinv
  apply @Inv.storeStep _ _ _ _ t { s.loc t with pos := (s.loc t).pos + 1 } _ h hwr hwr rfl
  · rfl
  · simp only [WriterInv, hpc]
    constructor
    · exact hlt
    · have hstore := store_bytesAt_take hlt hinv.2
      rw [Nat.zero_add] at hstore
      exact hstore

/-- Storing the size behind the complete payload. -/
theorem Inv.setMsgSize (h : Inv s) (hpc : (s.loc t).pc = .serializeToArray)
    (hpos : (s.loc t).pos = (s.loc t).message.payload.length) :
    Inv ((s.setLoc t { s.loc t with pc := .serializeTo, pos := 0 }).setBlock (s.loc t).index
      { s.blockOf t with msgSize := (s.loc t).message.payload.length }) := by
  have hwr : (s.loc t).pc.writing = true := by rw [hpc]; rfl
  have hinv := (h.threads t).writer hwr
  simp only [WriterInv, hpc, hpos, List.take_length] at hinv
  apply @Inv.storeStep _ _ _ _ t { s.loc t with pc := .serializeTo, pos := 0 } _ h hwr rfl rfl
  · rfl
  · exact ⟨rfl, hinv.2, Nat.zero_le _, rfl⟩

/-- Copying one byte of the `MessageInfo`, behind the payload. -/
theorem Inv.serializeInfoByte (h : Inv s) (hpc : (s.loc t).pc = .serializeTo)
    (hlt : (s.loc t).pos < MessageInfo.kSize) :
    Inv ((s.setLoc t { s.loc t with pos := (s.loc t).pos + 1 }).setBlock (s.loc t).index
      ((s.blockOf t).store ((s.loc t).message.payload.length + (s.loc t).pos)
        ((s.loc t).message.msgInfo.serializeTo.getD (s.loc t).pos 0))) := by
  have hwr : (s.loc t).pc.writing = true := by rw [hpc]; rfl
  have hinv := (h.threads t).writer hwr
  simp only [WriterInv, hpc] at hinv
  obtain ⟨hsize, hpayload, _, hbytes⟩ := hinv
  apply @Inv.storeStep _ _ _ _ t { s.loc t with pos := (s.loc t).pos + 1 } _ h hwr hwr rfl
  · rfl
  · simp only [WriterInv, hpc]
    refine ⟨hsize, ?_, hlt, ?_⟩
    · rw [store_bytesAt (by omega)]
      exact hpayload
    · apply store_bytesAt_take _ hbytes
      rw [MessageInfo.serializeTo_length]
      exact hlt

/-- Storing the size of the `MessageInfo`: the block holds the message. -/
theorem Inv.setMsgInfoSize (h : Inv s) (hpc : (s.loc t).pc = .serializeTo)
    (hpos : (s.loc t).pos = MessageInfo.kSize) :
    Inv ((s.setLoc t { s.loc t with pc := .releaseWrittenBlock }).setBlock (s.loc t).index
      { s.blockOf t with msgInfoSize := MessageInfo.kSize }) := by
  have hwr : (s.loc t).pc.writing = true := by rw [hpc]; rfl
  have hinv := (h.threads t).writer hwr
  have htake := List.take_length (l := (s.loc t).message.msgInfo.serializeTo)
  rw [MessageInfo.serializeTo_length] at htake
  simp only [WriterInv, hpc, hpos, htake] at hinv
  obtain ⟨hsize, hpayload, _, hbytes⟩ := hinv
  apply @Inv.storeStep _ _ _ _ t { s.loc t with pc := .releaseWrittenBlock } _ h hwr rfl rfl
  · rfl
  · exact ⟨hsize, rfl, hpayload, hbytes⟩

/-- **Step lemma**: every step keeps the invariant. -/
theorem Inv.step [NeZero n] {ceilingMsgSize : Nat} (h : Inv s) (a : Label Tid)
    (hg : ((segment n ceilingMsgSize).action a).gate s) :
    Inv (((segment n ceilingMsgSize).action a).effect s) := by
  cases a with
  | transmit t m => exact h.idleStep hg.1 rfl ⟨rfl, rfl⟩ ⟨rfl, rfl⟩ (fun hl => by cases hl)
  | wroteNum t => exact h.idleStep hg rfl ⟨rfl, rfl⟩ ⟨rfl, rfl⟩ (fun hl => by cases hl)
  | tryLockForWrite t => exact h.tryLockForWrite hg.1 hg.2
  | tryLockForWriteFail t => exact h.idleStep hg hg ⟨rfl, rfl⟩ ⟨rfl, rfl⟩ (fun hl => by cases hl)
  | increaseWroteNum t =>
    have hpc : (s.loc t).pc = .increaseWroteNum := hg
    have hwr : (s.loc t).pc.writing = true := by rw [hpc]; rfl
    apply Inv.setWroteNum
    apply h.setLoc
    · rw [hwr]; rfl
    · rw [Pc.not_reading_of_writing hwr]; rfl
    · exact fun _ => rfl
    · constructor
      · exact fun _ => ⟨Nat.zero_le _, rfl⟩
      · exact fun hl => by cases hl
      · exact fun hl => by cases hl
  | serializeByte t => exact h.serializeByte hg.1 hg.2
  | setMsgSize t => exact h.setMsgSize hg.1 hg.2
  | serializeInfoByte t => exact h.serializeInfoByte hg.1 hg.2
  | setMsgInfoSize t => exact h.setMsgInfoSize hg.1 hg.2
  | releaseWrittenBlock t => exact h.releaseWrittenBlock hg
  | readMessage t index =>
    dsimp only [segment]
    split
    · exact h.idleStep hg rfl ⟨rfl, rfl⟩ ⟨rfl, rfl⟩ (fun hl => by cases hl)
    · exact h
  | loadLockNum t =>
    dsimp only [segment]
    split
    · exact h.idleStep hg rfl ⟨rfl, rfl⟩ ⟨rfl, rfl⟩ (fun hl => by cases hl)
    · rename_i hfree
      exact h.idleStep hg rfl ⟨rfl, rfl⟩ ⟨rfl, rfl⟩ (fun _ => Int.not_lt.mp hfree)
  | tryLockForRead t => exact h.tryLockForRead hg.1 hg.2
  | tryLockForReadFail t =>
    dsimp only [segment]
    split
    · exact h.idleStep hg rfl ⟨rfl, rfl⟩ ⟨rfl, rfl⟩ (fun hl => by cases hl)
    · exact h.idleStep hg rfl ⟨rfl, rfl⟩ ⟨rfl, rfl⟩ (fun hl => by cases hl)
  | msgSize t =>
    have hpc : (s.loc t).pc = .msgSize := hg
    apply h.readStep
    · rw [hpc]; rfl
    · rfl
    · rfl
    · rfl
    · exact fun _ hholds _ => .readMsgSize hholds
  | msgInfoSize t =>
    have hpc : (s.loc t).pc = .msgInfoSize := hg
    dsimp only [segment]
    split
    · next hsize =>
      apply h.readStep
      · rw [hpc]; rfl
      · rfl
      · rfl
      · rfl
      · exact fun _ _ hseen => hseen.readMsgInfoSize hpc hsize
    · next hsize =>
      apply h.readStep
      · rw [hpc]; rfl
      · rfl
      · rfl
      · rfl
      · -- a written block has the size
        exact fun _ hholds _ => absurd hholds.msgInfoSize_eq hsize
  | deserializeByte t =>
    obtain ⟨hpc, hlt⟩ := hg
    have hrd : (s.loc t).pc.reading = true := by rw [hpc]; rfl
    apply h.readStep
    · exact hrd
    · exact hrd
    · rfl
    · rfl
    · exact fun _ hholds hseen => hseen.deserializeByte hholds hpc hlt
  | deserializeFrom t =>
    obtain ⟨hpc, hlength⟩ := hg
    apply h.readStep
    · rw [hpc]; rfl
    · rfl
    · rfl
    · rfl
    · exact fun _ _ hseen => hseen.deserializeFrom hpc hlength
  | parseMsgSize t =>
    have hpc : (s.loc t).pc = .onMessage := hg
    apply h.readStep
    · rw [hpc]; rfl
    · rfl
    · rfl
    · rfl
    · exact fun _ hholds hseen => hseen.parseMsgSize hholds hpc
  | parseByte t =>
    obtain ⟨hpc, hlt⟩ := hg
    have hrd : (s.loc t).pc.reading = true := by rw [hpc]; rfl
    apply h.readStep
    · exact hrd
    · exact hrd
    · rfl
    · rfl
    · exact fun _ hholds hseen => hseen.parseByte hholds hpc hlt
  | listener t => exact h.listener hg.1 hg.2
  | releaseReadBlock t =>
    apply h.releaseReadBlock
    rcases hg with hpc | hpc <;> rw [hpc] <;> rfl

end steps

/-! ## Section 5: Exclusion -/

section exclusion
variable [Fintype Tid] [DecidableEq Tid] [NeZero n] {ceilingMsgSize : Nat} {s : State n Tid}

theorem inv_init
    (h : (segment n ceilingMsgSize : System (State n Tid) (Label Tid)).init s) : Inv s := by
  obtain ⟨_, hfree, _, hidle, hwritten, hheard⟩ := h
  have hnone : ∀ b t, ¬ (s.loc t).Writes b ∧ ¬ (s.loc t).Reads b := by
    intro b t
    apply not_holding
    · rw [hidle t]; rfl
    · rw [hidle t]; rfl
  have hwriters : ∀ b, s.writers b = 0 := fun b => tally_eq_zero_iff.mpr fun t => (hnone b t).1
  have hreaders : ∀ b, s.readers b = 0 := fun b => tally_eq_zero_iff.mpr fun t => (hnone b t).2
  constructor
  · intro b
    rw [hfree, hwriters, hreaders]
    rfl
  · intro b
    rw [hwriters]
    omega
  · intro b _
    exact hreaders b
  · intro b _ m hm
    rw [hwritten] at hm
    cases hm
  · intro t
    apply ThreadInv.of_idle
    · rw [hidle t]; rfl
    · rw [hidle t]; rfl
    · rw [hidle t]
      decide
  · intro x hx
    rw [hheard] at hx
    cases hx

/-- **Run lemma**: the invariant holds in every reachable state. -/
theorem inv_reachable
    (h : (segment n ceilingMsgSize : System (State n Tid) (Label Tid)).Reachable s) : Inv s := by
  apply System.invariant _ _ h
  · intro s hi
    exact inv_init hi
  · intro s a hinv hg
    exact hinv.step a hg

/-- Exclusive access and unmixed messages, in one state. -/
structure Exclusion (s : State n Tid) : Prop where
  write : ∀ b, (s.blocks b).lockNum = kWriteExclusive ↔ s.writers b = 1 ∧ s.readers b = 0
  read  : ∀ b, (s.blocks b).lockNum ≠ kWriteExclusive →
            s.writers b = 0 ∧ (s.blocks b).lockNum = s.readers b
  seen  : ∀ t, (s.loc t).pc.reading = true → 0 < (s.loc t).base →
            ∃ m, (s.written (s.loc t).index)[(s.loc t).base - 1]? = some m ∧ Seen m (s.loc t)
  heard : ∀ h ∈ s.heard, 0 < h.base →
            ∃ m, (s.written h.index)[h.base - 1]? = some m ∧
              h.payload = m.payload ∧ h.msgInfo = some m.msgInfo

/-- **Exclusion**: in every reachable state the lock word tells who holds
    the block, and everything a reader of an already written block has read,
    and everything a listener was called with, is one completed write. -/
theorem segment_exclusion (n ceilingMsgSize : Nat) [NeZero n] (s : State n Tid)
    (h : (segment n ceilingMsgSize : System (State n Tid) (Label Tid)).Reachable s) :
    Exclusion s := by
  have hinv := inv_reachable h
  constructor
  · intro b
    have hlock := hinv.lockNum_eq b
    have hle := hinv.writers_le b
    have hexcl := hinv.exclusive b
    simp only [kWriteExclusive]
    omega
  · intro b hfree
    have hlock := hinv.lockNum_eq b
    have hle := hinv.writers_le b
    have hexcl := hinv.exclusive b
    simp only [kWriteExclusive] at hfree
    omega
  · intro t hrd hpos
    have hr := (hinv.threads t).reader hrd
    rw [hr.base_eq] at hpos ⊢
    have hlast : (s.written (s.loc t).index).getLast?.isSome :=
      List.getLast?_isSome.mpr (List.ne_nil_of_length_pos hpos)
    obtain ⟨m, hm⟩ := Option.isSome_iff_exists.mp hlast
    apply Exists.intro m
    constructor
    · rw [← List.getLast?_eq_getElem?]
      exact hm
    · exact hr.seen m hm
  · exact hinv.heard

end exclusion

/-- Thread `true` transmits the payload `[7]`, then thread `false` takes the
    read lock and a listener parses the message. -/
def oneMessage : List (Label Bool) :=
  [.transmit true ⟨[7], ⟨.zero, 5, .zero⟩⟩, .wroteNum true, .tryLockForWrite true,
    .increaseWroteNum true, .serializeByte true, .setMsgSize true] ++
  List.replicate MessageInfo.kSize (.serializeInfoByte true) ++
  [.setMsgInfoSize true, .releaseWrittenBlock true, .readMessage false 0, .loadLockNum false,
    .tryLockForRead false, .msgSize false, .msgInfoSize false] ++
  List.replicate MessageInfo.kSize (.deserializeByte false) ++
  [.deserializeFrom false, .parseMsgSize false, .parseByte false, .listener false]

theorem segment_exclusion_oneMessage :
    ((segment 1 64).exec initial oneMessage).heard = [⟨0, 1, [7], some ⟨.zero, 5, .zero⟩⟩] ∧
      Exclusion ((segment 1 64).exec initial oneMessage) :=
  ⟨by decide +kernel, segment_exclusion 1 64 _
    (System.reachable_exec _ (initial_init 1 64) oneMessage (by decide +kernel))⟩

end CyberRT.Transport.Shm
