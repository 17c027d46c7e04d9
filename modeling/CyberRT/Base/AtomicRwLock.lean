import CyberRT.Framework.System
import CyberRT.Framework.Tally

/-! # The atomic reader-writer lock

    `AtomicRWLock` keeps the number of readers in `lock_num_`, with -1 for a
    writer, and in `write_lock_wait_num_` the writers that announced
    themselves. In the write-first mode a reader waits while there are any.

    Every load, `fetch_add`, `fetch_sub` and compare-and-swap is one step,
    and a weak compare-and-swap may fail without a reason. Threads use the
    lock through guards, so every lock is followed by its unlock; a thread
    that nests guards counts as one thread for each guard. The counters are
    unbounded, as they never exceed the number of threads. -/

namespace CyberRT.Base.AtomicRwLock

open CyberRT.Framework

/-! ## Section 1: State -/

/-- Where a thread stands, named by the next step. From `writeWithdraw` on
    a writer has the lock. -/
inductive Pc where
  | idle
  | readLoad
  | readCheck
  | readReload
  | readCas
  | readHeld
  | writeAnnounce
  | writeCas
  | writeWithdraw
  | writeHeld
  deriving DecidableEq

/-- Local variables of one thread. -/
structure Local where
  pc         : Pc
  lockNum    : Int
  retryTimes : Nat

structure State (Tid : Type) where
  lockNum          : Int
  writeLockWaitNum : Nat
  loc              : Tid → Local

def rwLockFree : Int := 0
def writeExclusive : Int := -1
def maxRetryTimes : Nat := 5

/-- One more attempt; after `MAX_RETRY_TIMES` of them the thread yields. -/
def retry (retryTimes : Nat) : Nat :=
  if retryTimes + 1 = maxRetryTimes then 0 else retryTimes + 1

/-- The thread holds the lock for reading. -/
def Pc.reads : Pc → Bool
  | .readHeld => true
  | _         => false

/-- The thread holds the lock for writing. -/
def Pc.writes : Pc → Bool
  | .writeWithdraw | .writeHeld => true
  | _ => false

/-- The thread has announced itself in `WriteLock` and not withdrawn. -/
def Pc.announced : Pc → Bool
  | .writeCas | .writeWithdraw => true
  | _ => false

def Pc.inReadLock : Pc → Bool
  | .readLoad | .readCheck | .readReload | .readCas => true
  | _ => false

def Pc.inWriteLock : Pc → Bool
  | .writeAnnounce | .writeCas | .writeWithdraw => true
  | _ => false

/-! ## Section 2: Model -/

inductive Label (Tid : Type) where
  | readLock (t : Tid)
  | readLoad (t : Tid)
  | readCheck (t : Tid)
  | readReload (t : Tid)
  | readCas (t : Tid)
  | readCasFail (t : Tid)
  | readUnlock (t : Tid)
  | writeLock (t : Tid)
  | writeAnnounce (t : Tid)
  | writeCas (t : Tid)
  | writeCasFail (t : Tid)
  | writeWithdraw (t : Tid)
  | writeUnlock (t : Tid)

/-- The thread that takes the step. -/
def Label.thread {Tid : Type} : Label Tid → Tid
  | .readLock t | .readLoad t | .readCheck t | .readReload t | .readCas t | .readCasFail t
  | .readUnlock t | .writeLock t | .writeAnnounce t | .writeCas t | .writeCasFail t
  | .writeWithdraw t | .writeUnlock t => t

variable {Tid : Type} [DecidableEq Tid]

def State.setLoc (s : State Tid) (t : Tid) (l : Local) : State Tid :=
  { s with loc := Function.update s.loc t l }

/-- The lock in one of its two modes and the threads that use it. -/
def atomicRwLock (writeFirst : Bool) : System (State Tid) (Label Tid) where
  init := fun s => s.lockNum = 0 ∧ s.writeLockWaitNum = 0 ∧ ∀ t, (s.loc t).pc = .idle
  action := fun
    | .readLock t =>
      { gate   := fun s => (s.loc t).pc = .idle
        effect := fun s => s.setLoc t { s.loc t with pc := .readLoad, retryTimes := 0 } }
    | .readLoad t =>
      { gate   := fun s => (s.loc t).pc = .readLoad
        effect := fun s => s.setLoc t { s.loc t with pc := .readCheck, lockNum := s.lockNum } }
    | .readCheck t =>
      -- announced writers are looked at in the write-first mode only
      { gate   := fun s => (s.loc t).pc = .readCheck
        effect := fun s =>
          let l := s.loc t
          if l.lockNum < rwLockFree ∨ (writeFirst = true ∧ 0 < s.writeLockWaitNum) then
            s.setLoc t { l with pc := .readReload, retryTimes := retry l.retryTimes }
          else
            s.setLoc t { l with pc := .readCas } }
    | .readReload t =>
      { gate   := fun s => (s.loc t).pc = .readReload
        effect := fun s => s.setLoc t { s.loc t with pc := .readCheck, lockNum := s.lockNum } }
    | .readCas t =>
      { gate   := fun s => (s.loc t).pc = .readCas ∧ s.lockNum = (s.loc t).lockNum
        effect := fun s =>
          { s.setLoc t { s.loc t with pc := .readHeld } with
            lockNum := (s.loc t).lockNum + 1 } }
    | .readCasFail t =>
      { gate   := fun s => (s.loc t).pc = .readCas
        effect := fun s => s.setLoc t { s.loc t with pc := .readCheck, lockNum := s.lockNum } }
    | .readUnlock t =>
      { gate   := fun s => (s.loc t).pc = .readHeld
        effect := fun s =>
          { s.setLoc t { s.loc t with pc := .idle } with lockNum := s.lockNum - 1 } }
    | .writeLock t =>
      { gate   := fun s => (s.loc t).pc = .idle
        effect := fun s => s.setLoc t { s.loc t with pc := .writeAnnounce, retryTimes := 0 } }
    | .writeAnnounce t =>
      { gate   := fun s => (s.loc t).pc = .writeAnnounce
        effect := fun s =>
          { s.setLoc t { s.loc t with pc := .writeCas } with
            writeLockWaitNum := s.writeLockWaitNum + 1 } }
    | .writeCas t =>
      { gate   := fun s => (s.loc t).pc = .writeCas ∧ s.lockNum = rwLockFree
        effect := fun s =>
          { s.setLoc t { s.loc t with pc := .writeWithdraw } with lockNum := writeExclusive } }
    | .writeCasFail t =>
      { gate   := fun s => (s.loc t).pc = .writeCas
        effect := fun s =>
          s.setLoc t { s.loc t with retryTimes := retry (s.loc t).retryTimes } }
    | .writeWithdraw t =>
      { gate   := fun s => (s.loc t).pc = .writeWithdraw
        effect := fun s =>
          { s.setLoc t { s.loc t with pc := .writeHeld } with
            writeLockWaitNum := s.writeLockWaitNum - 1 } }
    | .writeUnlock t =>
      { gate   := fun s => (s.loc t).pc = .writeHeld
        effect := fun s =>
          { s.setLoc t { s.loc t with pc := .idle } with lockNum := s.lockNum + 1 } }

instance decidableGate (writeFirst : Bool) (s : State Tid) :
    ∀ a : Label Tid, Decidable (((atomicRwLock writeFirst).action a).gate s)
  | .readLock t      => inferInstanceAs (Decidable ((s.loc t).pc = .idle))
  | .readLoad t      => inferInstanceAs (Decidable ((s.loc t).pc = .readLoad))
  | .readCheck t     => inferInstanceAs (Decidable ((s.loc t).pc = .readCheck))
  | .readReload t    => inferInstanceAs (Decidable ((s.loc t).pc = .readReload))
  | .readCas t       =>
    inferInstanceAs (Decidable ((s.loc t).pc = .readCas ∧ s.lockNum = (s.loc t).lockNum))
  | .readCasFail t   => inferInstanceAs (Decidable ((s.loc t).pc = .readCas))
  | .readUnlock t    => inferInstanceAs (Decidable ((s.loc t).pc = .readHeld))
  | .writeLock t     => inferInstanceAs (Decidable ((s.loc t).pc = .idle))
  | .writeAnnounce t => inferInstanceAs (Decidable ((s.loc t).pc = .writeAnnounce))
  | .writeCas t      =>
    inferInstanceAs (Decidable ((s.loc t).pc = .writeCas ∧ s.lockNum = rwLockFree))
  | .writeCasFail t  => inferInstanceAs (Decidable ((s.loc t).pc = .writeCas))
  | .writeWithdraw t => inferInstanceAs (Decidable ((s.loc t).pc = .writeWithdraw))
  | .writeUnlock t   => inferInstanceAs (Decidable ((s.loc t).pc = .writeHeld))

/-! ## Section 3: Small lemmas -/

@[simp] theorem setLoc_lockNum (s : State Tid) (t : Tid) (l : Local) :
    (s.setLoc t l).lockNum = s.lockNum := rfl

@[simp] theorem setLoc_writeLockWaitNum (s : State Tid) (t : Tid) (l : Local) :
    (s.setLoc t l).writeLockWaitNum = s.writeLockWaitNum := rfl

@[simp] theorem setLoc_self (s : State Tid) (t : Tid) (l : Local) :
    (s.setLoc t l).loc t = l := by
  simp [State.setLoc]

@[simp] theorem setLoc_of_ne (s : State Tid) {t u : Tid} (l : Local) (h : u ≠ t) :
    (s.setLoc t l).loc u = s.loc u := by
  simp [State.setLoc, h]

/-! ## Section 4: Counts -/

section counts
variable [Fintype Tid]

/-- The number of threads that stand at a place of the kind. -/
def State.standing (s : State Tid) (kind : Pc → Bool) : Nat :=
  tally (fun l => kind l.pc = true) s.loc

def State.readers (s : State Tid) : Nat := s.standing Pc.reads

def State.writers (s : State Tid) : Nat := s.standing Pc.writes

def State.announced (s : State Tid) : Nat := s.standing Pc.announced

variable {kind : Pc → Bool} {s s' : State Tid} {t : Tid} {l : Local}

theorem standing_stay (hloc : s'.loc = Function.update s.loc t l)
    (h : kind l.pc = kind (s.loc t).pc) : s'.standing kind = s.standing kind := by
  unfold State.standing
  rw [hloc]
  apply tally_update_of_iff
  rw [h]

theorem standing_enter (hloc : s'.loc = Function.update s.loc t l)
    (h : kind (s.loc t).pc = false) (h' : kind l.pc = true) :
    s'.standing kind = s.standing kind + 1 := by
  unfold State.standing
  rw [hloc]
  apply tally_update_enter
  · simp [h]
  · exact h'

theorem standing_leave (hloc : s'.loc = Function.update s.loc t l)
    (h : kind (s.loc t).pc = true) (h' : kind l.pc = false) :
    s'.standing kind + 1 = s.standing kind := by
  unfold State.standing
  rw [hloc]
  apply tally_update_leave
  · exact h
  · simp [h']

end counts

/-! ## Section 5: Invariant -/

/-- **Invariant**: the lock word counts the holders, the wait number the
    announced writers, and a reader swaps for no negative number. -/
structure Inv [Fintype Tid] (s : State Tid) : Prop where
  lock      : RwLock s.lockNum s.readers s.writers
  announced : s.writeLockWaitNum = s.announced
  cas       : ∀ t, (s.loc t).pc = .readCas → 0 ≤ (s.loc t).lockNum

section steps
variable [Fintype Tid] {s s' : State Tid} {t : Tid} {l : Local}

theorem inv_init {writeFirst : Bool} (h : (atomicRwLock writeFirst).init s) : Inv s := by
  obtain ⟨hlock, hwait, hidle⟩ := h
  have hnone : ∀ kind : Pc → Bool, kind .idle = false → s.standing kind = 0 := by
    intro kind hkind
    apply tally_eq_zero_iff.mpr
    intro t
    simp [hidle t, hkind]
  constructor
  · unfold State.readers State.writers
    rw [hlock, hnone _ rfl, hnone _ rfl]
    exact .free
  · unfold State.announced
    rw [hwait, hnone _ rfl]
  · intro t hpc
    simp [hidle t] at hpc

/-- A thread that does not stop at a compare-and-swap as a reader. -/
theorem Inv.cas_update (h : Inv s) (hloc : s'.loc = Function.update s.loc t l)
    (hcas : l.pc = .readCas → 0 ≤ l.lockNum) (u : Tid) (hu : (s'.loc u).pc = .readCas) :
    0 ≤ (s'.loc u).lockNum := by
  rw [hloc] at hu ⊢
  by_cases hut : u = t
  · subst hut
    rw [Function.update_self] at hu ⊢
    exact hcas hu
  · rw [Function.update_of_ne hut] at hu ⊢
    exact h.cas u hu

/-- A thread moves to a place of the same kinds. -/
theorem Inv.setLoc (h : Inv s) (hreads : l.pc.reads = (s.loc t).pc.reads)
    (hwrites : l.pc.writes = (s.loc t).pc.writes)
    (hannounced : l.pc.announced = (s.loc t).pc.announced)
    (hcas : l.pc = .readCas → 0 ≤ l.lockNum) : Inv (s.setLoc t l) := by
  have hreaders : (s.setLoc t l).readers = s.readers := standing_stay rfl hreads
  have hwriters : (s.setLoc t l).writers = s.writers := standing_stay rfl hwrites
  have hwaiting : (s.setLoc t l).announced = s.announced := standing_stay rfl hannounced
  constructor
  · rw [hreaders, hwriters]
    exact h.lock
  · rw [hwaiting]
    exact h.announced
  · exact h.cas_update rfl hcas

/-- A reader gets in or out, or a writer out: nobody announces himself. -/
theorem Inv.relock (h : Inv s) (hloc : s'.loc = Function.update s.loc t l)
    (hlock : RwLock s'.lockNum s'.readers s'.writers)
    (hwait : s'.writeLockWaitNum = s.writeLockWaitNum)
    (hannounced : l.pc.announced = (s.loc t).pc.announced) (hcas : l.pc ≠ .readCas) : Inv s' := by
  have hwaiting : s'.announced = s.announced := standing_stay hloc hannounced
  refine ⟨hlock, ?_, h.cas_update hloc fun hpc => absurd hpc hcas⟩
  rw [hwait, hwaiting]
  exact h.announced

/-- What a step writes besides the place of its thread. -/
structure Writes (s s' : State Tid) (t : Tid) (pc : Pc) (lockNum : Int)
    (writeLockWaitNum : Nat) : Prop where
  loc  : s'.loc = Function.update s.loc t { s.loc t with pc := pc }
  lock : s'.lockNum = lockNum
  wait : s'.writeLockWaitNum = writeLockWaitNum

theorem Inv.readCas (h : Inv s) (hpc : (s.loc t).pc = .readCas)
    (hcurrent : s.lockNum = (s.loc t).lockNum)
    (hw : Writes s s' t .readHeld ((s.loc t).lockNum + 1) s.writeLockWaitNum) : Inv s' := by
  have hnonneg : 0 ≤ s.lockNum := hcurrent ▸ h.cas t hpc
  have hin : s'.readers = s.readers + 1 :=
    standing_enter hw.loc (by simp [hpc, Pc.reads]) (by simp [Pc.reads])
  have hwriters : s'.writers = s.writers :=
    standing_stay hw.loc (by simp [hpc, Pc.writes])
  apply h.relock hw.loc _ hw.wait
  · simp [hpc, Pc.announced]
  · simp
  · rw [hw.lock, hin, hwriters, ← hcurrent]
    exact h.lock.lockRead hnonneg

theorem Inv.readUnlock (h : Inv s) (hpc : (s.loc t).pc = .readHeld)
    (hw : Writes s s' t .idle (s.lockNum - 1) s.writeLockWaitNum) : Inv s' := by
  have hout : s'.readers + 1 = s.readers :=
    standing_leave hw.loc (by simp [hpc, Pc.reads]) (by simp [Pc.reads])
  have hwriters : s'.writers = s.writers :=
    standing_stay hw.loc (by simp [hpc, Pc.writes])
  apply h.relock hw.loc _ hw.wait
  · simp [hpc, Pc.announced]
  · simp
  · rw [hw.lock, hwriters]
    apply RwLock.unlockRead
    rw [hout]
    exact h.lock

theorem Inv.writeUnlock (h : Inv s) (hpc : (s.loc t).pc = .writeHeld)
    (hw : Writes s s' t .idle (s.lockNum + 1) s.writeLockWaitNum) : Inv s' := by
  have hreaders : s'.readers = s.readers :=
    standing_stay hw.loc (by simp [hpc, Pc.reads])
  have hout : s'.writers + 1 = s.writers :=
    standing_leave hw.loc (by simp [hpc, Pc.writes]) (by simp [Pc.writes])
  apply h.relock hw.loc _ hw.wait
  · simp [hpc, Pc.announced]
  · simp
  · rw [hw.lock, hreaders]
    apply RwLock.unlockWrite
    rw [hout]
    exact h.lock

/-- A writer gets in. It stays announced until it withdraws. -/
theorem Inv.writeCas (h : Inv s) (hpc : (s.loc t).pc = .writeCas) (hfree : s.lockNum = 0)
    (hw : Writes s s' t .writeWithdraw writeExclusive s.writeLockWaitNum) : Inv s' := by
  have hreaders : s'.readers = s.readers :=
    standing_stay hw.loc (by simp [hpc, Pc.reads])
  have hin : s'.writers = s.writers + 1 :=
    standing_enter hw.loc (by simp [hpc, Pc.writes]) (by simp [Pc.writes])
  apply h.relock hw.loc _ hw.wait
  · simp [hpc, Pc.announced]
  · simp
  · rw [hw.lock, hreaders, hin]
    exact h.lock.lockWrite hfree

/-- The two counters of holders and announced writers do not meet. -/
theorem Inv.reannounce (h : Inv s) {pc : Pc} {n : Nat}
    (hreads : (s.loc t).pc.reads = pc.reads) (hwrites : (s.loc t).pc.writes = pc.writes)
    (hcas : pc ≠ .readCas) (hw : Writes s s' t pc s.lockNum n)
    (hannounced : n = s'.announced) : Inv s' := by
  have hreaders : s'.readers = s.readers := standing_stay hw.loc hreads.symm
  have hwriters : s'.writers = s.writers := standing_stay hw.loc hwrites.symm
  constructor
  · rw [hw.lock, hreaders, hwriters]
    exact h.lock
  · rw [hw.wait]
    exact hannounced
  · exact h.cas_update hw.loc fun hpc => absurd hpc hcas

theorem Inv.writeAnnounce (h : Inv s) (hpc : (s.loc t).pc = .writeAnnounce)
    (hw : Writes s s' t .writeCas s.lockNum (s.writeLockWaitNum + 1)) : Inv s' := by
  have hin : s'.announced = s.announced + 1 :=
    standing_enter hw.loc (by simp [hpc, Pc.announced]) (by simp [Pc.announced])
  apply h.reannounce _ _ _ hw
  · rw [hin, h.announced]
  · simp [hpc, Pc.reads]
  · simp [hpc, Pc.writes]
  · simp

theorem Inv.writeWithdraw (h : Inv s) (hpc : (s.loc t).pc = .writeWithdraw)
    (hw : Writes s s' t .writeHeld s.lockNum (s.writeLockWaitNum - 1)) : Inv s' := by
  have hout : s'.announced + 1 = s.announced :=
    standing_leave hw.loc (by simp [hpc, Pc.announced]) (by simp [Pc.announced])
  apply h.reannounce _ _ _ hw
  · rw [h.announced]
    omega
  · simp [hpc, Pc.reads]
  · simp [hpc, Pc.writes]
  · simp

/-- **Step lemma**. -/
theorem Inv.step {writeFirst : Bool} (h : Inv s) (a : Label Tid)
    (hg : ((atomicRwLock writeFirst).action a).gate s) :
    Inv (((atomicRwLock writeFirst).action a).effect s) := by
  have hat {t : Tid} {pc : Pc} (hpc : (s.loc t).pc = pc) : pc = (s.loc t).pc := hpc.symm
  cases a with
  | readLock t | readLoad t | readReload t | readCasFail t | writeLock t =>
    have hpc := hat hg
    apply h.setLoc <;> simp [← hpc, Pc.reads, Pc.writes, Pc.announced]
  | readCheck t =>
    have hpc := hat hg
    simp only [atomicRwLock]
    split
    · apply h.setLoc <;> simp [← hpc, Pc.reads, Pc.writes, Pc.announced]
    · next hopen =>
      -- the number loaded last is not negative
      have hnonneg : 0 ≤ (s.loc t).lockNum := by
        simp only [rwLockFree] at hopen
        omega
      apply h.setLoc <;> simp [← hpc, hnonneg, Pc.reads, Pc.writes, Pc.announced]
  | writeCasFail t =>
    have hpc := hat hg
    apply h.setLoc <;> simp [← hpc]
  | readCas t => exact h.readCas hg.1 hg.2 ⟨rfl, rfl, rfl⟩
  | readUnlock t => exact h.readUnlock hg ⟨rfl, rfl, rfl⟩
  | writeAnnounce t => exact h.writeAnnounce hg ⟨rfl, rfl, rfl⟩
  | writeCas t => exact h.writeCas hg.1 hg.2 ⟨rfl, rfl, rfl⟩
  | writeWithdraw t => exact h.writeWithdraw hg ⟨rfl, rfl, rfl⟩
  | writeUnlock t => exact h.writeUnlock hg ⟨rfl, rfl, rfl⟩

/-- **Run lemma**. -/
theorem inv_reachable {writeFirst : Bool} (h : (atomicRwLock writeFirst).Reachable s) : Inv s := by
  apply System.invariant _ _ h
  · intro s hi
    exact inv_init hi
  · intro s a hinv hg
    exact hinv.step a hg

end steps

/-! ## Section 6: Readers get in -/

section entry
variable {writeFirst : Bool} {s : State Tid} {t : Tid}

/-- The steps of one thread that is let in, from its look at the lock on. -/
theorem readCheck_enters (hpc : (s.loc t).pc = .readCheck)
    (hloaded : (s.loc t).lockNum = s.lockNum) (hnonneg : 0 ≤ s.lockNum)
    (hwait : s.writeLockWaitNum = 0) :
    (atomicRwLock writeFirst).Admits s [.readCheck t, .readCas t] ∧
      (((atomicRwLock writeFirst).exec s [.readCheck t, .readCas t]).loc t).pc = .readHeld := by
  have hopen : ¬ ((s.loc t).lockNum < rwLockFree ∨
      (writeFirst = true ∧ 0 < s.writeLockWaitNum)) := by
    simp only [rwLockFree]
    omega
  have heffect : ((atomicRwLock writeFirst).action (.readCheck t)).effect s =
      s.setLoc t { s.loc t with pc := .readCas } := if_neg hopen
  constructor
  · refine ⟨hpc, ?_, trivial⟩
    rw [heffect]
    simp [atomicRwLock, hloaded]
  · simp only [System.exec]
    rw [heffect]
    simp [atomicRwLock, State.setLoc]

/-- A run of own steps of `t` that ends with the lock held. -/
def Enters (writeFirst : Bool) (s : State Tid) (t : Tid) : Prop :=
  ∃ as s', (atomicRwLock writeFirst).Run s as s' ∧ (∀ a ∈ as, a.thread = t) ∧
    (s'.loc t).pc = .readHeld

/-- One more step of `t` in front. -/
theorem Enters.cons (a : Label Tid) (ht : a.thread = t)
    (hg : ((atomicRwLock writeFirst).action a).gate s)
    (h : Enters writeFirst (((atomicRwLock writeFirst).action a).effect s) t) :
    Enters writeFirst s t := by
  obtain ⟨as, s', hrun, hown, hheld⟩ := h
  refine ⟨a :: as, s', .cons a as ⟨hg, rfl⟩ hrun, ?_, hheld⟩
  simpa [ht] using hown

/-- From its look at the lock on, with a number just loaded. -/
theorem enters_of_loaded (hpc : (s.loc t).pc = .readCheck)
    (hloaded : (s.loc t).lockNum = s.lockNum) (hnonneg : 0 ≤ s.lockNum)
    (hwait : s.writeLockWaitNum = 0) : Enters writeFirst s t := by
  obtain ⟨hadmits, hread⟩ : (atomicRwLock writeFirst).Admits s [.readCheck t, .readCas t] ∧ _ :=
    readCheck_enters hpc hloaded hnonneg hwait
  refine ⟨_, _, System.run_exec _ s _ hadmits, ?_, hread⟩
  simp [Label.thread]

/-- Wherever in `ReadLock` the thread stands, with no writer announced and
    none inside. -/
theorem enters_of_open (hpc : (s.loc t).pc.inReadLock = true) (hnonneg : 0 ≤ s.lockNum)
    (hwait : s.writeLockWaitNum = 0) : Enters writeFirst s t := by
  have hreload : ∀ s : State Tid, 0 ≤ s.lockNum → s.writeLockWaitNum = 0 →
      Enters writeFirst (s.setLoc t { s.loc t with pc := .readCheck, lockNum := s.lockNum }) t := by
    intro s hnonneg hwait
    apply enters_of_loaded <;> simp [hnonneg, hwait]
  cases hat : (s.loc t).pc with
  | readLoad => exact .cons (.readLoad t) rfl hat (hreload s hnonneg hwait)
  | readReload => exact .cons (.readReload t) rfl hat (hreload s hnonneg hwait)
  | readCas => exact .cons (.readCasFail t) rfl hat (hreload s hnonneg hwait)
  | readCheck =>
    -- a stale number sends the thread once more through a load
    apply Enters.cons (.readCheck t) rfl hat
    simp only [atomicRwLock]
    split
    · apply Enters.cons (.readReload t) rfl (by simp [atomicRwLock])
      apply hreload
      · simpa using hnonneg
      · simpa using hwait
    · apply Enters.cons (.readCasFail t) rfl (by simp [atomicRwLock])
      apply hreload
      · simpa using hnonneg
      · simpa using hwait
  | _ => simp [hat, Pc.inReadLock] at hpc

end entry

/-! ## Section 7: Exclusion -/

/-- What the two counters say. -/
structure Excludes [Fintype Tid] (writeFirst : Bool) (s : State Tid) : Prop where
  written   : s.lockNum = writeExclusive ↔ s.writers = 1 ∧ s.readers = 0
  read      : s.lockNum ≠ writeExclusive → s.lockNum = s.readers
  waiting   : s.writeLockWaitNum = s.announced
  withdrawn : (∀ t, (s.loc t).pc.inWriteLock = false) → s.writeLockWaitNum = 0
  letIn     : (∀ t, (s.loc t).pc.inWriteLock = false) → s.writers = 0 →
    ∀ t, (s.loc t).pc.inReadLock = true → Enters writeFirst s t

omit [DecidableEq Tid] in
/-- No thread inside `WriteLock` has announced itself. -/
theorem announced_eq_zero [Fintype Tid] {s : State Tid}
    (h : ∀ t, (s.loc t).pc.inWriteLock = false) : s.announced = 0 := by
  unfold State.announced State.standing
  rw [tally_eq_zero_iff]
  intro t hann
  have hout := h t
  cases hpc : (s.loc t).pc <;> simp_all [Pc.announced, Pc.inWriteLock]

/-- **Exclusion**: in every reachable state of either mode `lock_num_` is -1
    exactly when one thread writes and none reads and counts the readers
    otherwise, and the wait number counts the announced writers, so that no
    reader is shut out once no thread is inside `WriteLock`. -/
theorem atomicRwLock_excludes [Fintype Tid] (writeFirst : Bool) (s : State Tid)
    (h : (atomicRwLock writeFirst).Reachable s) : Excludes writeFirst s := by
  have hinv := inv_reachable h
  obtain ⟨hword, hle, hexcl⟩ := hinv.lock
  have hwait : (∀ t, (s.loc t).pc.inWriteLock = false) → s.writeLockWaitNum = 0 := by
    intro hout
    rw [hinv.announced]
    exact announced_eq_zero hout
  constructor
  case written =>
    simp only [writeExclusive]
    constructor
    · intro hlock
      omega
    · intro hheld
      omega
  case read =>
    intro hlock
    simp only [writeExclusive] at hlock
    -- a writer excludes readers, so it would make the word -1
    have hnone : s.writers = 0 := by
      by_contra hsome
      have hreaders := hexcl (by omega)
      omega
    omega
  case waiting => exact hinv.announced
  case withdrawn => exact hwait
  case letIn =>
    intro hout hnone t hpc
    have hnonneg : 0 ≤ s.lockNum := by omega
    exact enters_of_open hpc hnonneg (hwait hout)

/-- Thread 0 reads while thread 1 waits announced in `WriteLock`. -/
theorem atomicRwLock_excludes_readAndWait :
    ∃ s : State (Fin 2), (atomicRwLock true).Reachable s ∧ s.lockNum = 1 ∧
      s.writeLockWaitNum = 1 ∧ Excludes true s := by
  let s₀ : State (Fin 2) := ⟨0, 0, fun _ => ⟨.idle, 0, 0⟩⟩
  let as : List (Label (Fin 2)) :=
    [.readLock 0, .readLoad 0, .readCheck 0, .readCas 0, .writeLock 1, .writeAnnounce 1,
      .writeCasFail 1]
  have hreach : (atomicRwLock true).Reachable ((atomicRwLock true).exec s₀ as) :=
    System.reachable_exec _ (by simp [atomicRwLock, s₀]) as (by decide)
  exact ⟨_, hreach, by decide, by decide, atomicRwLock_excludes true _ hreach⟩

end CyberRT.Base.AtomicRwLock
