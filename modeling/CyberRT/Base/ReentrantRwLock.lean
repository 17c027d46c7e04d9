import CyberRT.Framework.System
import CyberRT.Framework.Tally

/-! # The reentrant reader-writer lock

    `ReentrantRWLock` counts like the atomic lock, and keeps the writer's id
    in `write_thread_id_`. The writer may lock again: a write makes
    `lock_num_` one less, a read inside a write leaves it as it is.

    The last `WriteUnlock` of a writer gives the lock free and clears the id
    in two steps. Another writer may come in between and store its own id,
    which the first one then clears.

    Every load, store, `fetch_add`, `fetch_sub` and compare-and-swap is one
    step, on the plain member `write_thread_id_` too, and a weak
    compare-and-swap may fail without a reason. -/

namespace CyberRT.Base.ReentrantRwLock

open CyberRT.Framework

/-! ## Section 1: State -/

/-- What a guard of a thread holds. -/
inductive Guard where
  | read
  | write
  deriving DecidableEq

/-- Where a thread stands, named by the next step. -/
inductive Pc where
  | idle
  | readTest
  | readLoad
  | readCheck
  | readReload
  | readCas
  | readUnlockTest
  | readUnlockSub
  | writeTest
  | writeReenter
  | writeAnnounce
  | writeCas
  | writeStoreId
  | writeWithdraw
  | writeUnlockAdd
  | writeClear
  deriving DecidableEq

/-- Local variables of one thread, and the guards it holds, the innermost
    first. -/
structure Local where
  pc         : Pc
  held       : List Guard
  lockNum    : Int
  retryTimes : Nat

structure State (Tid : Type) where
  writeThreadId    : Option Tid
  writeLockWaitNum : Nat
  lockNum          : Int
  loc              : Tid → Local

def rwLockFree : Int := 0
def writeExclusive : Int := -1
def maxRetryTimes : Nat := 5

/-- One more attempt; after `MAX_RETRY_TIMES` of them the thread yields. -/
def retry (retryTimes : Nat) : Nat :=
  if retryTimes + 1 = maxRetryTimes then 0 else retryTimes + 1

variable {Tid : Type} [DecidableEq Tid]

def State.setLoc (s : State Tid) (t : Tid) (l : Local) : State Tid :=
  { s with loc := Function.update s.loc t l }

/-! ## Section 2: Model -/

inductive Label (Tid : Type) where
  | readLock (t : Tid)
  | readTest (t : Tid)
  | readLoad (t : Tid)
  | readCheck (t : Tid)
  | readReload (t : Tid)
  | readCas (t : Tid)
  | readCasFail (t : Tid)
  | readUnlock (t : Tid)
  | readUnlockTest (t : Tid)
  | readUnlockSub (t : Tid)
  | writeLock (t : Tid)
  | writeTest (t : Tid)
  | writeReenter (t : Tid)
  | writeAnnounce (t : Tid)
  | writeCas (t : Tid)
  | writeCasFail (t : Tid)
  | writeStoreId (t : Tid)
  | writeWithdraw (t : Tid)
  | writeUnlock (t : Tid)
  | writeUnlockAdd (t : Tid)
  | writeClear (t : Tid)

/-- The lock in one of its two modes and the threads that use it. An unlock
    is called for the innermost guard only. -/
def reentrantRwLock (writeFirst : Bool) : System (State Tid) (Label Tid) where
  init := fun s => s.writeThreadId = none ∧ s.writeLockWaitNum = 0 ∧ s.lockNum = 0 ∧
    ∀ t, (s.loc t).pc = .idle ∧ (s.loc t).held = []
  action := fun
    | .readLock t =>
      { gate   := fun s => (s.loc t).pc = .idle
        effect := fun s => s.setLoc t { s.loc t with pc := .readTest } }
    | .readTest t =>
      { gate   := fun s => (s.loc t).pc = .readTest
        effect := fun s =>
          let l := s.loc t
          if s.writeThreadId = some t then
            s.setLoc t { l with pc := .idle, held := .read :: l.held }
          else
            s.setLoc t { l with pc := .readLoad, retryTimes := 0 } }
    | .readLoad t =>
      { gate   := fun s => (s.loc t).pc = .readLoad
        effect := fun s => s.setLoc t { s.loc t with pc := .readCheck, lockNum := s.lockNum } }
    | .readCheck t =>
      -- announced writers are looked at in the write-first mode only
      { gate   := fun s => (s.loc t).pc = .readCheck
        effect := fun s =>
          let l := s.loc t
          if l.lockNum < rwLockFree ∨ (writeFirst = true ∧ 0 < s.writeLockWaitNum) then
            s.setLoc t { l with pc := .readReload, retryTimes := retry l.retryTimes }
          else
            s.setLoc t { l with pc := .readCas } }
    | .readReload t =>
      { gate   := fun s => (s.loc t).pc = .readReload
        effect := fun s => s.setLoc t { s.loc t with pc := .readCheck, lockNum := s.lockNum } }
    | .readCas t =>
      { gate   := fun s => (s.loc t).pc = .readCas ∧ s.lockNum = (s.loc t).lockNum
        effect := fun s =>
          { s.setLoc t { s.loc t with pc := .idle, held := .read :: (s.loc t).held } with
            lockNum := (s.loc t).lockNum + 1 } }
    | .readCasFail t =>
      { gate   := fun s => (s.loc t).pc = .readCas
        effect := fun s => s.setLoc t { s.loc t with pc := .readCheck, lockNum := s.lockNum } }
    | .readUnlock t =>
      { gate   := fun s => (s.loc t).pc = .idle ∧ (s.loc t).held.head? = some .read
        effect := fun s => s.setLoc t { s.loc t with pc := .readUnlockTest } }
    | .readUnlockTest t =>
      { gate   := fun s => (s.loc t).pc = .readUnlockTest
        effect := fun s =>
          let l := s.loc t
          if s.writeThreadId = some t then
            s.setLoc t { l with pc := .idle, held := l.held.tail }
          else
            s.setLoc t { l with pc := .readUnlockSub } }
    | .readUnlockSub t =>
      { gate   := fun s => (s.loc t).pc = .readUnlockSub
        effect := fun s =>
          { s.setLoc t { s.loc t with pc := .idle, held := (s.loc t).held.tail } with
            lockNum := s.lockNum - 1 } }
    | .writeLock t =>
      { gate   := fun s => (s.loc t).pc = .idle
        effect := fun s => s.setLoc t { s.loc t with pc := .writeTest } }
    | .writeTest t =>
      { gate   := fun s => (s.loc t).pc = .writeTest
        effect := fun s =>
          let l := s.loc t
          if s.writeThreadId = some t then
            s.setLoc t { l with pc := .writeReenter }
          else
            s.setLoc t { l with pc := .writeAnnounce, retryTimes := 0 } }
    | .writeReenter t =>
      { gate   := fun s => (s.loc t).pc = .writeReenter
        effect := fun s =>
          { s.setLoc t { s.loc t with pc := .idle, held := .write :: (s.loc t).held } with
            lockNum := s.lockNum - 1 } }
    | .writeAnnounce t =>
      { gate   := fun s => (s.loc t).pc = .writeAnnounce
        effect := fun s =>
          { s.setLoc t { s.loc t with pc := .writeCas } with
            writeLockWaitNum := s.writeLockWaitNum + 1 } }
    | .writeCas t =>
      { gate   := fun s => (s.loc t).pc = .writeCas ∧ s.lockNum = rwLockFree
        effect := fun s =>
          { s.setLoc t { s.loc t with pc := .writeStoreId, held := .write :: (s.loc t).held } with
            lockNum := writeExclusive } }
    | .writeCasFail t =>
      { gate   := fun s => (s.loc t).pc = .writeCas
        effect := fun s =>
          s.setLoc t { s.loc t with retryTimes := retry (s.loc t).retryTimes } }
    | .writeStoreId t =>
      { gate   := fun s => (s.loc t).pc = .writeStoreId
        effect := fun s =>
          { s.setLoc t { s.loc t with pc := .writeWithdraw } with writeThreadId := some t } }
    | .writeWithdraw t =>
      { gate   := fun s => (s.loc t).pc = .writeWithdraw
        effect := fun s =>
          { s.setLoc t { s.loc t with pc := .idle } with
            writeLockWaitNum := s.writeLockWaitNum - 1 } }
    | .writeUnlock t =>
      { gate   := fun s => (s.loc t).pc = .idle ∧ (s.loc t).held.head? = some .write
        effect := fun s => s.setLoc t { s.loc t with pc := .writeUnlockAdd } }
    | .writeUnlockAdd t =>
      { gate   := fun s => (s.loc t).pc = .writeUnlockAdd
        effect := fun s =>
          let pc := if s.lockNum = writeExclusive then .writeClear else .idle
          { s.setLoc t { s.loc t with pc := pc, held := (s.loc t).held.tail } with
            lockNum := s.lockNum + 1 } }
    | .writeClear t =>
      { gate   := fun s => (s.loc t).pc = .writeClear
        effect := fun s =>
          { s.setLoc t { s.loc t with pc := .idle } with writeThreadId := none } }

instance decidableGate (writeFirst : Bool) (s : State Tid) :
    ∀ a : Label Tid, Decidable (((reentrantRwLock writeFirst).action a).gate s)
  | .readLock t       => inferInstanceAs (Decidable ((s.loc t).pc = .idle))
  | .readTest t       => inferInstanceAs (Decidable ((s.loc t).pc = .readTest))
  | .readLoad t       => inferInstanceAs (Decidable ((s.loc t).pc = .readLoad))
  | .readCheck t      => inferInstanceAs (Decidable ((s.loc t).pc = .readCheck))
  | .readReload t     => inferInstanceAs (Decidable ((s.loc t).pc = .readReload))
  | .readCas t        =>
    inferInstanceAs (Decidable ((s.loc t).pc = .readCas ∧ s.lockNum = (s.loc t).lockNum))
  | .readCasFail t    => inferInstanceAs (Decidable ((s.loc t).pc = .readCas))
  | .readUnlock t     =>
    inferInstanceAs (Decidable ((s.loc t).pc = .idle ∧ (s.loc t).held.head? = some .read))
  | .readUnlockTest t => inferInstanceAs (Decidable ((s.loc t).pc = .readUnlockTest))
  | .readUnlockSub t  => inferInstanceAs (Decidable ((s.loc t).pc = .readUnlockSub))
  | .writeLock t      => inferInstanceAs (Decidable ((s.loc t).pc = .idle))
  | .writeTest t      => inferInstanceAs (Decidable ((s.loc t).pc = .writeTest))
  | .writeReenter t   => inferInstanceAs (Decidable ((s.loc t).pc = .writeReenter))
  | .writeAnnounce t  => inferInstanceAs (Decidable ((s.loc t).pc = .writeAnnounce))
  | .writeCas t       =>
    inferInstanceAs (Decidable ((s.loc t).pc = .writeCas ∧ s.lockNum = rwLockFree))
  | .writeCasFail t   => inferInstanceAs (Decidable ((s.loc t).pc = .writeCas))
  | .writeStoreId t   => inferInstanceAs (Decidable ((s.loc t).pc = .writeStoreId))
  | .writeWithdraw t  => inferInstanceAs (Decidable ((s.loc t).pc = .writeWithdraw))
  | .writeUnlock t    =>
    inferInstanceAs (Decidable ((s.loc t).pc = .idle ∧ (s.loc t).held.head? = some .write))
  | .writeUnlockAdd t => inferInstanceAs (Decidable ((s.loc t).pc = .writeUnlockAdd))
  | .writeClear t     => inferInstanceAs (Decidable ((s.loc t).pc = .writeClear))

/-! ## Section 3: Small lemmas -/

@[simp] theorem setLoc_writeThreadId (s : State Tid) (t : Tid) (l : Local) :
    (s.setLoc t l).writeThreadId = s.writeThreadId := rfl

@[simp] theorem setLoc_lockNum (s : State Tid) (t : Tid) (l : Local) :
    (s.setLoc t l).lockNum = s.lockNum := rfl

@[simp] theorem setLoc_loc (s : State Tid) (t : Tid) (l : Local) :
    (s.setLoc t l).loc = Function.update s.loc t l := rfl

/-- The thread is inside a write section. -/
def Local.writes (l : Local) : Prop := .write ∈ l.held

/-- How often the thread has locked for writing. -/
def Local.depth (l : Local) : Nat := l.held.count .write

/-- The writer's next step is to give the lock free. -/
def Local.leaves (l : Local) : Prop := l.pc = .writeUnlockAdd ∧ l.held = [.write]

/-- What a thread has added to `lock_num_`. -/
def Local.weight (l : Local) : Int :=
  if .write ∈ l.held then -(l.depth : Int) else l.held.length

instance (l : Local) : Decidable l.writes := inferInstanceAs (Decidable (_ ∈ _))

instance (l : Local) : Decidable l.leaves := inferInstanceAs (Decidable (_ ∧ _))

section local_lemmas
variable {l l' : Local}

theorem weight_of_writes (h : l.writes) : l.weight = -(l.depth : Int) := if_pos h

theorem weight_of_not_writes (h : ¬ l.writes) : l.weight = l.held.length := if_neg h

theorem depth_pos : 0 < l.depth ↔ l.writes := List.count_pos_iff

theorem weight_neg (h : l.writes) : l.weight < 0 := by
  have := depth_pos.mpr h
  rw [weight_of_writes h]
  omega

theorem weight_nonneg (h : ¬ l.writes) : 0 ≤ l.weight := by
  rw [weight_of_not_writes h]
  omega

theorem held_nil_of_weight (h : l.weight = 0) : l.held = [] := by
  by_cases hw : l.writes
  · have := weight_neg hw
    omega
  · rw [weight_of_not_writes hw] at h
    apply List.eq_nil_of_length_eq_zero
    omega

theorem weight_nil (h : l.held = []) : l.weight = 0 := by
  simp [Local.weight, h]

theorem not_writes_nil (h : l.held = []) : ¬ l.writes := by
  simp [Local.writes, h]

/-- A read more inside a write. -/
theorem weight_read_of_writes (hheld : l'.held = .read :: l.held) (h : l.writes) :
    l'.weight = l.weight := by
  have h' : l'.writes := by
    unfold Local.writes
    rw [hheld]
    exact List.mem_cons_of_mem _ h
  rw [weight_of_writes h, weight_of_writes h']
  simp [Local.depth, hheld]

theorem weight_read (hheld : l'.held = .read :: l.held) (h : ¬ l.writes) :
    l'.weight = l.weight + 1 := by
  have h' : ¬ l'.writes := by
    unfold Local.writes at h ⊢
    simp [hheld, h]
  rw [weight_of_not_writes h, weight_of_not_writes h']
  simp [hheld]

theorem weight_write (hheld : l'.held = .write :: l.held) (h : l.writes ∨ l.held = []) :
    l'.weight = l.weight - 1 := by
  have h' : l'.writes := by simp [Local.writes, hheld]
  rw [weight_of_writes h']
  rcases h with h | h
  · rw [weight_of_writes h]
    simp [Local.depth, hheld]
    omega
  · rw [weight_nil h]
    simp [Local.depth, hheld, h]

end local_lemmas

/-! ## Section 4: Invariant -/

/-- The thread has found another id than its own in `write_thread_id_`. -/
def Pc.outside : Pc → Bool
  | .readLoad | .readCheck | .readReload | .readCas | .readUnlockSub | .writeAnnounce
  | .writeCas => true
  | _ => false

/-- The thread has the lock for writing in the middle of a `WriteLock`. -/
def Pc.inside : Pc → Bool
  | .writeReenter | .writeStoreId | .writeWithdraw => true
  | _ => false

/-- What a thread's place says about the guards it holds. -/
structure Placed (l : Local) : Prop where
  outside : l.pc.outside = true → ¬ l.writes
  inside  : l.pc.inside = true → l.writes
  read    : l.pc = .readUnlockTest ∨ l.pc = .readUnlockSub → l.held.head? = some .read
  write   : l.pc = .writeUnlockAdd → l.held.head? = some .write
  clear   : l.pc = .writeClear → l.held = []
  cas     : l.pc = .readCas → 0 ≤ l.lockNum
  bottom  : l.writes → l.held.getLast? = some .write

/-- **Invariant** of runs in which no id of a holder is cleared by another:
    the counter adds up what the threads have added, a writer is alone, and
    the id is that of the writer unless it has not stored it or is on its way
    out. -/
structure Inv [Fintype Tid] (s : State Tid) : Prop where
  lock   : s.lockNum = total Local.weight s.loc
  alone  : ∀ t u, t ≠ u → (s.loc t).writes → (s.loc u).held = []
  owner  : ∀ t, (s.loc t).writes → (s.loc t).pc ≠ .writeStoreId →
    s.writeThreadId = some t ∨ (s.loc t).leaves
  stored : ∀ t, s.writeThreadId = some t →
    ((s.loc t).writes ∧ (s.loc t).pc ≠ .writeStoreId) ∨ (s.loc t).pc = .writeClear
  placed : ∀ t, Placed (s.loc t)

/-- The condition: the id that a `WriteUnlock` clears is not that of another
    thread that goes on holding the lock. -/
def Undisturbed (s : State Tid) : Label Tid → Prop
  | .writeClear t => ∀ u, s.writeThreadId = some u → u ≠ t → (s.loc u).writes → (s.loc u).leaves
  | _ => True

instance decidableUndisturbed [Fintype Tid] (s : State Tid) :
    ∀ a : Label Tid, Decidable (Undisturbed s a)
  | .writeClear t =>
    inferInstanceAs (Decidable (∀ u, s.writeThreadId = some u → u ≠ t →
      (s.loc u).writes → (s.loc u).leaves))
  | .readLock _ | .readTest _ | .readLoad _ | .readCheck _ | .readReload _ | .readCas _
  | .readCasFail _ | .readUnlock _ | .readUnlockTest _ | .readUnlockSub _ | .writeLock _
  | .writeTest _ | .writeReenter _ | .writeAnnounce _ | .writeCas _ | .writeCasFail _
  | .writeStoreId _ | .writeWithdraw _ | .writeUnlock _ | .writeUnlockAdd _ => .isTrue trivial

section steps
variable [Fintype Tid] {s : State Tid}

theorem inv_init {writeFirst : Bool} (h : (reentrantRwLock writeFirst).init s) : Inv s := by
  obtain ⟨hid, -, hlock, hidle⟩ := h
  have hheld : ∀ t, (s.loc t).held = [] := fun t => (hidle t).2
  constructor
  case lock =>
    rw [hlock, total_of_zero fun t => weight_nil (hheld t)]
  case alone =>
    intro t u _ hw
    exact absurd hw (not_writes_nil (hheld t))
  case owner =>
    intro t hw
    exact absurd hw (not_writes_nil (hheld t))
  case stored =>
    intro t ht
    simp [hid] at ht
  case placed =>
    intro t
    have hnot := not_writes_nil (hheld t)
    constructor <;> simp [(hidle t).1, hheld t, hnot, Pc.outside, Pc.inside]

end steps

section facts
omit [DecidableEq Tid]
variable [Fintype Tid] {s : State Tid} {t : Tid}

/-- The writer's weight is all there is. -/
theorem Inv.lock_of_writes (h : Inv s) (hw : (s.loc t).writes) :
    s.lockNum = -((s.loc t).depth : Int) := by
  rw [h.lock, ← weight_of_writes hw]
  apply total_of_alone
  intro u hu
  exact weight_nil (h.alone t u hu.symm hw)

/-- Nobody writes while the counter is not negative. -/
theorem Inv.no_writer (h : Inv s) (hlock : 0 ≤ s.lockNum) (t : Tid) : ¬ (s.loc t).writes := by
  intro hw
  have hpos := depth_pos.mpr hw
  rw [h.lock_of_writes hw] at hlock
  omega

/-- Nobody is inside a section while the counter is 0. -/
theorem Inv.held_nil (h : Inv s) (hlock : s.lockNum = 0) (t : Tid) : (s.loc t).held = [] := by
  have hnonneg : ∀ u, 0 ≤ (s.loc u).weight := fun u =>
    weight_nonneg (h.no_writer (by omega) u)
  have htotal : total Local.weight s.loc = 0 := by rw [← h.lock, hlock]
  exact held_nil_of_weight (eq_zero_of_total hnonneg htotal t)

/-- The test of the id tells whether the thread writes. -/
theorem Inv.writes_of_id (h : Inv s) (hid : s.writeThreadId = some t)
    (hpc : (s.loc t).pc ≠ .writeClear) : (s.loc t).writes := by
  rcases h.stored t hid with hw | hclear
  · exact hw.1
  · exact absurd hclear hpc

theorem Inv.not_writes_of_id (h : Inv s) (hid : s.writeThreadId ≠ some t)
    (hstore : (s.loc t).pc ≠ .writeStoreId) (hadd : (s.loc t).pc ≠ .writeUnlockAdd) :
    ¬ (s.loc t).writes := by
  intro hw
  rcases h.owner t hw hstore with howner | hleaves
  · exact hid howner
  · exact hadd hleaves.1

end facts

/-! ## Section 5: Steps -/

section steps
variable [Fintype Tid] {s s' : State Tid} {t : Tid} {l : Local}

theorem placed_update (h : Inv s) (hloc : s'.loc = Function.update s.loc t l)
    (hplaced : Placed l) (u : Tid) : Placed (s'.loc u) := by
  rw [hloc]
  by_cases hu : u = t
  · subst hu
    rwa [Function.update_self]
  · rw [Function.update_of_ne hu]
    exact h.placed u

theorem alone_update (h : Inv s) (hloc : s'.loc = Function.update s.loc t l)
    (halone : l.writes → ∀ u, u ≠ t → (s.loc u).held = [])
    (hother : ∀ u, u ≠ t → (s.loc u).writes → l.held = []) (u v : Tid) (huv : u ≠ v)
    (hw : (s'.loc u).writes) : (s'.loc v).held = [] := by
  rw [hloc] at hw ⊢
  by_cases hu : u = t
  · have hv : v ≠ t := by
      rintro rfl
      exact huv hu
    rw [hu, Function.update_self] at hw
    rw [Function.update_of_ne hv]
    exact halone hw v hv
  · rw [Function.update_of_ne hu] at hw
    by_cases hv : v = t
    · rw [hv, Function.update_self]
      exact hother u hu hw
    · rw [Function.update_of_ne hv]
      exact h.alone u v huv hw

/-- A thread moves on; the id stays. -/
theorem Inv.move (h : Inv s) (hloc : s'.loc = Function.update s.loc t l)
    (hid : s'.writeThreadId = s.writeThreadId)
    (hlock : s'.lockNum = s.lockNum - (s.loc t).weight + l.weight)
    (halone : l.writes → ∀ u, u ≠ t → (s.loc u).held = [])
    (hother : ∀ u, u ≠ t → (s.loc u).writes → l.held = [])
    (howner : l.writes → l.pc ≠ .writeStoreId → s.writeThreadId = some t ∨ l.leaves)
    (hstored : s.writeThreadId = some t →
      (l.writes ∧ l.pc ≠ .writeStoreId) ∨ l.pc = .writeClear)
    (hplaced : Placed l) : Inv s' := by
  constructor
  case lock => rw [hlock, hloc, total_update, h.lock]
  case alone => exact alone_update h hloc halone hother
  case owner =>
    intro u hw hpc
    rw [hid]
    rw [hloc] at hw hpc ⊢
    by_cases hu : u = t
    · subst hu
      rw [Function.update_self] at hw hpc ⊢
      exact howner hw hpc
    · rw [Function.update_of_ne hu] at hw hpc ⊢
      exact h.owner u hw hpc
  case stored =>
    intro u hu
    rw [hid] at hu
    rw [hloc]
    by_cases hut : u = t
    · subst hut
      rw [Function.update_self]
      exact hstored hu
    · rw [Function.update_of_ne hut]
      exact h.stored u hu
  case placed => exact placed_update h hloc hplaced

/-- A thread that neither stores nor clears its id keeps its guards. -/
theorem Inv.goOn (h : Inv s) (hloc : s'.loc = Function.update s.loc t l)
    (hid : s'.writeThreadId = s.writeThreadId) (hlock : s'.lockNum = s.lockNum)
    (hheld : l.held = (s.loc t).held) (hstore : (s.loc t).pc ≠ .writeStoreId)
    (hadd : (s.loc t).pc ≠ .writeUnlockAdd) (hclear : (s.loc t).pc ≠ .writeClear)
    (hstore' : l.pc ≠ .writeStoreId) (hplaced : Placed l) : Inv s' := by
  have hwrites : l.writes ↔ (s.loc t).writes := by simp [Local.writes, hheld]
  apply h.move hloc hid
  · have hweight : l.weight = (s.loc t).weight := by simp [Local.weight, Local.depth, hheld]
    rw [hlock, hweight]
    omega
  · intro hw u hu
    exact h.alone t u hu.symm (hwrites.mp hw)
  · intro u hu hw
    rw [hheld]
    exact h.alone u t hu hw
  · intro hw _
    by_contra hnot
    exact h.not_writes_of_id (fun hid => hnot (.inl hid)) hstore hadd (hwrites.mp hw)
  · intro ht
    exact .inl ⟨hwrites.mpr (h.writes_of_id ht hclear), hstore'⟩
  · exact hplaced

/-- A read more or less inside a write. -/
theorem Inv.nest (h : Inv s) (hloc : s'.loc = Function.update s.loc t l)
    (hid : s'.writeThreadId = s.writeThreadId)
    (hlock : s'.lockNum = s.lockNum - (s.loc t).weight + l.weight)
    (howns : s.writeThreadId = some t) (hw : (s.loc t).writes) (hw' : l.writes)
    (hstore : l.pc ≠ .writeStoreId) (hplaced : Placed l) : Inv s' := by
  apply h.move hloc hid hlock
  · intro _ u hu
    exact h.alone t u hu.symm hw
  · intro u hu hwu
    exact absurd hw (not_writes_nil (h.alone u t hu hwu))
  · exact fun _ _ => .inl howns
  · exact fun _ => .inl ⟨hw', hstore⟩
  · exact hplaced

/-- A read more or less where nobody writes. -/
theorem Inv.share (h : Inv s) (hloc : s'.loc = Function.update s.loc t l)
    (hid : s'.writeThreadId = s.writeThreadId)
    (hlock : s'.lockNum = s.lockNum - (s.loc t).weight + l.weight)
    (hnone : ∀ u, ¬ (s.loc u).writes) (hw' : ¬ l.writes) (hclear : (s.loc t).pc ≠ .writeClear)
    (hplaced : Placed l) : Inv s' := by
  apply h.move hloc hid hlock
  · intro hw
    exact absurd hw hw'
  · intro u _ hw
    exact absurd hw (hnone u)
  · intro hw
    exact absurd hw hw'
  · intro ht
    exact absurd (h.writes_of_id ht hclear) (hnone t)
  · exact hplaced

/-- A thread goes to another place with the guards it holds. -/
theorem Placed.go {pc : Pc} {n : Int} {r : Nat} (h : Placed l)
    (hout : pc.outside = true → ¬ l.writes) (hin : pc.inside = true → l.writes)
    (hread : pc = .readUnlockTest ∨ pc = .readUnlockSub → l.held.head? = some .read)
    (hwrite : pc = .writeUnlockAdd → l.held.head? = some .write) (hclear : pc ≠ .writeClear)
    (hcas : pc = .readCas → 0 ≤ n) :
    Placed { pc := pc, held := l.held, lockNum := n, retryTimes := r } where
  outside := hout
  inside  := hin
  read    := hread
  write   := hwrite
  clear   := fun hpc => absurd hpc hclear
  cas     := hcas
  bottom  := h.bottom

/-- A thread is back from a call. -/
theorem Placed.back (hpc : l.pc = .idle) (hbottom : l.writes → l.held.getLast? = some .write) :
    Placed l := by
  constructor
  case bottom => exact hbottom
  all_goals simp [hpc, Pc.outside, Pc.inside]

theorem bottom_cons {g : Guard} {held : List Guard} (h : held.getLast? = some .write) :
    (g :: held).getLast? = some .write := by
  simp [List.getLast?_cons, h]

theorem bottom_tail {g : Guard} {held : List Guard}
    (h : (g :: held).getLast? = some .write) (hmem : Guard.write ∈ held) :
    held.getLast? = some .write := by
  cases held with
  | nil => simp at hmem
  | cons g' rest => simpa [List.getLast?_cons_cons] using h

/-- The innermost guard of a thread that unlocks. -/
theorem held_eq_cons {g : Guard} (h : l.held.head? = some g) : l.held = g :: l.held.tail :=
  (List.cons_head?_tail h).symm

/-! ### Reading -/

theorem Inv.readTest (h : Inv s) (hpc : (s.loc t).pc = .readTest)
    (howns : s.writeThreadId = some t) (hloc : s'.loc = Function.update s.loc t l)
    (hpc' : l.pc = .idle) (hheld : l.held = .read :: (s.loc t).held)
    (hid : s'.writeThreadId = s.writeThreadId) (hlock : s'.lockNum = s.lockNum) : Inv s' := by
  have hw : (s.loc t).writes := h.writes_of_id howns (by simp [hpc])
  have hw' : l.writes := by
    unfold Local.writes
    rw [hheld]
    exact List.mem_cons_of_mem _ hw
  apply h.nest hloc hid _ howns hw hw'
  · simp [hpc']
  · apply Placed.back hpc'
    intro _
    rw [hheld]
    exact bottom_cons ((h.placed t).bottom hw)
  · rw [hlock, weight_read_of_writes hheld hw]
    omega

theorem Inv.readCas (h : Inv s) (hpc : (s.loc t).pc = .readCas)
    (hcurrent : s.lockNum = (s.loc t).lockNum) (hloc : s'.loc = Function.update s.loc t l)
    (hpc' : l.pc = .idle) (hheld : l.held = .read :: (s.loc t).held)
    (hid : s'.writeThreadId = s.writeThreadId) (hlock : s'.lockNum = (s.loc t).lockNum + 1) :
    Inv s' := by
  have hnonneg : 0 ≤ s.lockNum := hcurrent ▸ (h.placed t).cas hpc
  have hnone := h.no_writer hnonneg
  have hnot' : ¬ l.writes := by
    have := hnone t
    unfold Local.writes at this ⊢
    simpa [hheld] using this
  apply h.share hloc hid _ hnone hnot'
  · simp [hpc]
  · exact .back hpc' fun hw => absurd hw hnot'
  · rw [weight_read hheld (hnone t)]
    omega

theorem Inv.readUnlockTest (h : Inv s) (hpc : (s.loc t).pc = .readUnlockTest)
    (howns : s.writeThreadId = some t) (hloc : s'.loc = Function.update s.loc t l)
    (hpc' : l.pc = .idle) (hheld' : l.held = (s.loc t).held.tail)
    (hid : s'.writeThreadId = s.writeThreadId) (hlock : s'.lockNum = s.lockNum) : Inv s' := by
  have hw : (s.loc t).writes := h.writes_of_id howns (by simp [hpc])
  have hheld : (s.loc t).held = .read :: l.held := by
    rw [hheld']
    exact held_eq_cons ((h.placed t).read (.inl hpc))
  have hw' : l.writes := by
    unfold Local.writes at hw ⊢
    simpa [hheld] using hw
  apply h.nest hloc hid _ howns hw hw'
  · simp [hpc']
  · apply Placed.back hpc'
    intro _
    have hbottom := (h.placed t).bottom hw
    rw [hheld] at hbottom
    exact bottom_tail hbottom hw'
  · rw [hlock, weight_read_of_writes hheld hw']
    omega

theorem Inv.readUnlockSub (h : Inv s) (hpc : (s.loc t).pc = .readUnlockSub)
    (hloc : s'.loc = Function.update s.loc t l) (hpc' : l.pc = .idle)
    (hheld' : l.held = (s.loc t).held.tail) (hid : s'.writeThreadId = s.writeThreadId)
    (hlock : s'.lockNum = s.lockNum - 1) : Inv s' := by
  have hheld : (s.loc t).held = .read :: l.held := by
    rw [hheld']
    exact held_eq_cons ((h.placed t).read (.inr hpc))
  have hnot : ¬ (s.loc t).writes := (h.placed t).outside (by simp [hpc, Pc.outside])
  have hnot' : ¬ l.writes := by
    unfold Local.writes at hnot ⊢
    simpa [hheld] using hnot
  -- the guard it holds keeps every writer out
  have hnone : ∀ u, ¬ (s.loc u).writes := by
    intro u hw
    by_cases hu : u = t
    · exact hnot (hu ▸ hw)
    · rw [h.alone u t hu hw] at hheld
      simp at hheld
  apply h.share hloc hid _ hnone hnot'
  · simp [hpc]
  · exact .back hpc' fun hw => absurd hw hnot'
  · rw [hlock, weight_read hheld hnot']
    omega

/-! ### Writing -/

theorem Inv.writeReenter (h : Inv s) (hpc : (s.loc t).pc = .writeReenter)
    (hloc : s'.loc = Function.update s.loc t l) (hpc' : l.pc = .idle)
    (hheld : l.held = .write :: (s.loc t).held) (hid : s'.writeThreadId = s.writeThreadId)
    (hlock : s'.lockNum = s.lockNum - 1) : Inv s' := by
  have hw : (s.loc t).writes := (h.placed t).inside (by simp [hpc, Pc.inside])
  have hw' : l.writes := by simp [Local.writes, hheld]
  have howns : s.writeThreadId = some t := by
    rcases h.owner t hw (by simp [hpc]) with howns | hleaves
    · exact howns
    · simp [Local.leaves, hpc] at hleaves
  apply h.nest hloc hid _ howns hw hw'
  · simp [hpc']
  · apply Placed.back hpc'
    intro _
    rw [hheld]
    exact bottom_cons ((h.placed t).bottom hw)
  · rw [hlock, weight_write hheld (.inl hw)]
    omega

/-- A writer gets in: nobody is inside, and no thread's id is stored but that
    of one that has left. -/
theorem Inv.writeCas (h : Inv s) (hpc : (s.loc t).pc = .writeCas) (hfree : s.lockNum = 0)
    (hloc : s'.loc = Function.update s.loc t l) (hpc' : l.pc = .writeStoreId)
    (hheld : l.held = .write :: (s.loc t).held) (hid : s'.writeThreadId = s.writeThreadId)
    (hlock : s'.lockNum = -1) : Inv s' := by
  have hnil := h.held_nil hfree
  apply h.move hloc hid
  · rw [hlock, hfree, weight_write hheld (.inr (hnil t))]
    omega
  · exact fun _ u _ => hnil u
  · intro u _ hw
    exact absurd hw (not_writes_nil (hnil u))
  · exact fun _ hstore => absurd hpc' hstore
  · intro ht
    have hw := h.writes_of_id ht (by simp [hpc])
    exact absurd hw (not_writes_nil (hnil t))
  · constructor <;> simp [hpc', hheld, hnil t, Local.writes, Pc.outside, Pc.inside]

/-- The writer stores its id over that of a thread that has left. -/
theorem Inv.writeStoreId (h : Inv s) (hpc : (s.loc t).pc = .writeStoreId)
    (hloc : s'.loc = Function.update s.loc t l) (hpc' : l.pc = .writeWithdraw)
    (hheld : l.held = (s.loc t).held) (hid : s'.writeThreadId = some t)
    (hlock : s'.lockNum = s.lockNum) : Inv s' := by
  have hw : (s.loc t).writes := (h.placed t).inside (by simp [hpc, Pc.inside])
  have hw' : l.writes := by
    unfold Local.writes at hw ⊢
    rwa [hheld]
  have hplaced : Placed l := by
    have hbottom := (h.placed t).bottom hw
    constructor <;> simp [hpc', hw', Pc.outside, Pc.inside]
    rwa [hheld]
  -- a writer is alone, so nobody needs the id that it overwrites
  have halone : ∀ u, u ≠ t → (s.loc u).held = [] := fun u hu => h.alone t u hu.symm hw
  constructor
  case lock =>
    have hweight : l.weight = (s.loc t).weight := by simp [Local.weight, Local.depth, hheld]
    rw [hlock, hloc, total_update, hweight, h.lock]
    omega
  case alone =>
    apply alone_update h hloc (fun _ => halone)
    intro u hu hwu
    exact absurd hwu (not_writes_nil (halone u hu))
  case owner =>
    intro u hwu _
    by_cases hu : u = t
    · exact .inl (hu ▸ hid)
    · rw [hloc, Function.update_of_ne hu] at hwu
      exact absurd hwu (not_writes_nil (halone u hu))
  case stored =>
    intro u hu
    obtain rfl : t = u := by simpa [hid] using hu
    rw [hloc, Function.update_self]
    exact .inl ⟨hw', by simp [hpc']⟩
  case placed => exact placed_update h hloc hplaced

/-- One write less, but not the last one. -/
theorem Inv.writeUnlockAdd (h : Inv s) (hpc : (s.loc t).pc = .writeUnlockAdd)
    (hnested : s.lockNum ≠ -1) (hloc : s'.loc = Function.update s.loc t l) (hpc' : l.pc = .idle)
    (hheld' : l.held = (s.loc t).held.tail) (hid : s'.writeThreadId = s.writeThreadId)
    (hlock : s'.lockNum = s.lockNum + 1) : Inv s' := by
  have hheld : (s.loc t).held = .write :: l.held := by
    rw [hheld']
    exact held_eq_cons ((h.placed t).write hpc)
  have hw : (s.loc t).writes := by simp [Local.writes, hheld]
  -- the counter tells that a write is left
  have hw' : l.writes := by
    apply depth_pos.mp
    have hdepth : (s.loc t).depth = l.depth + 1 := by simp [Local.depth, hheld]
    have hword := h.lock_of_writes hw
    omega
  have howns : s.writeThreadId = some t := by
    rcases h.owner t hw (by simp [hpc]) with howns | hleaves
    · exact howns
    · have hnil : l.held = [] := by simpa [hheld'] using congrArg List.tail hleaves.2
      exact absurd hw' (not_writes_nil hnil)
  apply h.nest hloc hid _ howns hw hw'
  · simp [hpc']
  · apply Placed.back hpc'
    intro _
    have hbottom := (h.placed t).bottom hw
    rw [hheld] at hbottom
    exact bottom_tail hbottom hw'
  · rw [hlock, weight_write (l := l) hheld (.inl hw')]
    omega

/-- The last write: from here on the lock is free, and the id is not cleared
    yet. -/
theorem Inv.writeUnlockAdd_last (h : Inv s) (hpc : (s.loc t).pc = .writeUnlockAdd)
    (hlast : s.lockNum = -1) (hloc : s'.loc = Function.update s.loc t l)
    (hpc' : l.pc = .writeClear) (hheld' : l.held = (s.loc t).held.tail)
    (hid : s'.writeThreadId = s.writeThreadId) (hlock : s'.lockNum = s.lockNum + 1) : Inv s' := by
  have hheld : (s.loc t).held = .write :: l.held := by
    rw [hheld']
    exact held_eq_cons ((h.placed t).write hpc)
  have hw : (s.loc t).writes := by simp [Local.writes, hheld]
  have hnot' : ¬ l.writes := by
    intro hw'
    have hpos := depth_pos.mpr hw'
    have hdepth : (s.loc t).depth = l.depth + 1 := by simp [Local.depth, hheld]
    have hword := h.lock_of_writes hw
    omega
  -- a write is at the bottom, so nothing is below it
  have hnil : l.held = [] := by
    have hbottom := (h.placed t).bottom hw
    rw [hheld] at hbottom
    by_contra hsome
    apply hnot'
    rw [List.getLast?_cons] at hbottom
    obtain ⟨g, hg⟩ := Option.isSome_iff_exists.mp (List.getLast?_isSome.mpr hsome)
    have hmem := List.mem_of_getLast? hg
    simp only [hg, Option.getD_some, Option.some.injEq] at hbottom
    rwa [hbottom] at hmem
  apply h.move hloc hid
  · rw [hlock, weight_write (l := l) hheld (.inr hnil)]
    omega
  · exact fun hw' => absurd hw' hnot'
  · exact fun _ _ _ => hnil
  · exact fun hw' => absurd hw' hnot'
  · exact fun _ => .inr hpc'
  · constructor <;> simp [hpc', hnil, hnot', Pc.outside, Pc.inside]

/-- The id is cleared: nobody else keeps the lock with it. -/
theorem Inv.writeClear (h : Inv s) (hpc : (s.loc t).pc = .writeClear)
    (hok : ∀ u, s.writeThreadId = some u → u ≠ t → (s.loc u).writes → (s.loc u).leaves)
    (hloc : s'.loc = Function.update s.loc t l) (hpc' : l.pc = .idle)
    (hheld : l.held = (s.loc t).held) (hid : s'.writeThreadId = none)
    (hlock : s'.lockNum = s.lockNum) : Inv s' := by
  have hnil : l.held = [] := by
    rw [hheld]
    exact (h.placed t).clear hpc
  have hnot' := not_writes_nil hnil
  constructor
  case lock =>
    have hweight : l.weight = (s.loc t).weight := by simp [Local.weight, Local.depth, hheld]
    rw [hlock, hloc, total_update, hweight, h.lock]
    omega
  case alone =>
    apply alone_update h hloc
    · exact fun hw' => absurd hw' hnot'
    · exact fun _ _ _ => hnil
  case owner =>
    intro u hw hstore
    rw [hloc] at hw hstore ⊢
    by_cases hu : u = t
    · rw [hu, Function.update_self] at hw
      exact absurd hw hnot'
    · rw [Function.update_of_ne hu] at hw hstore ⊢
      rcases h.owner u hw hstore with howns | hleaves
      · -- a new writer has stored its id before the old one clears it
        exact .inr (hok u howns hu hw)
      · exact .inr hleaves
  case stored =>
    intro u hu
    simp [hid] at hu
  case placed =>
    apply placed_update h hloc
    exact .back hpc' fun hw' => absurd hw' hnot'

/-! ### All steps -/

/-- A thread goes to another place and writes local variables only. -/
theorem Inv.go {pc : Pc} {n : Int} {r : Nat} (h : Inv s)
    (hstore : (s.loc t).pc ≠ .writeStoreId) (hadd : (s.loc t).pc ≠ .writeUnlockAdd)
    (hclear : (s.loc t).pc ≠ .writeClear) (hstore' : pc ≠ .writeStoreId)
    (hout : pc.outside = true → ¬ (s.loc t).writes) (hin : pc.inside = true → (s.loc t).writes)
    (hread : pc = .readUnlockTest ∨ pc = .readUnlockSub → (s.loc t).held.head? = some .read)
    (hwrite : pc = .writeUnlockAdd → (s.loc t).held.head? = some .write)
    (hclear' : pc ≠ .writeClear) (hcas : pc = .readCas → 0 ≤ n) :
    Inv (s.setLoc t { pc := pc, held := (s.loc t).held, lockNum := n, retryTimes := r }) := by
  have hplaced := (h.placed t).go (r := r) hout hin hread hwrite hclear' hcas
  exact h.goOn rfl rfl rfl rfl hstore hadd hclear hstore' hplaced

/-- **Step lemma**. -/
theorem Inv.step {writeFirst : Bool} (h : Inv s) (a : Label Tid)
    (hg : ((reentrantRwLock writeFirst).action a).gate s) (hok : Undisturbed s a) :
    Inv (((reentrantRwLock writeFirst).action a).effect s) := by
  have hat {t : Tid} {pc : Pc} (hpc : (s.loc t).pc = pc) : pc = (s.loc t).pc := hpc.symm
  cases a with
  | readLock t | writeLock t =>
    have hpc := hat hg
    apply h.go <;> simp [← hpc, Pc.outside, Pc.inside]
  | readUnlock t | writeUnlock t =>
    have hpc := hat hg.1
    apply h.go <;> simp [← hpc, hg.2, Pc.outside, Pc.inside]
  | readLoad t | readReload t | readCasFail t =>
    have hpc := hat hg
    have hnot : ¬ (s.loc t).writes := (h.placed t).outside (hpc ▸ rfl)
    apply h.go <;> simp [← hpc, hnot, Pc.outside, Pc.inside]
  | readTest t =>
    have hpc : (s.loc t).pc = .readTest := hg
    dsimp only [reentrantRwLock]
    split
    · next howns => exact h.readTest hpc howns rfl rfl rfl rfl rfl
    · next howns =>
      have hnot := h.not_writes_of_id howns (by simp [hpc]) (by simp [hpc])
      apply h.go <;> simp [hpc, hnot, Pc.outside, Pc.inside]
  | readCheck t =>
    have hpc : (s.loc t).pc = .readCheck := hg
    have hnot : ¬ (s.loc t).writes := (h.placed t).outside (hpc ▸ rfl)
    dsimp only [reentrantRwLock]
    split
    · apply h.go <;> simp [hpc, hnot, Pc.outside, Pc.inside]
    · next hopen =>
      -- the number loaded last is not negative
      have hnonneg : 0 ≤ (s.loc t).lockNum := by
        simp only [rwLockFree] at hopen
        omega
      apply h.go <;> simp [hpc, hnot, hnonneg, Pc.outside, Pc.inside]
  | readCas t => exact h.readCas hg.1 hg.2 rfl rfl rfl rfl rfl
  | readUnlockTest t =>
    have hpc : (s.loc t).pc = .readUnlockTest := hg
    dsimp only [reentrantRwLock]
    split
    · next howns => exact h.readUnlockTest hpc howns rfl rfl rfl rfl rfl
    · next howns =>
      have hnot := h.not_writes_of_id howns (by simp [hpc]) (by simp [hpc])
      have hhead := (h.placed t).read (.inl hpc)
      apply h.go <;> simp [hpc, hnot, hhead, Pc.outside, Pc.inside]
  | readUnlockSub t => exact h.readUnlockSub hg rfl rfl rfl rfl rfl
  | writeTest t =>
    have hpc : (s.loc t).pc = .writeTest := hg
    dsimp only [reentrantRwLock]
    split
    · next howns =>
      have hw := h.writes_of_id howns (by simp [hpc])
      apply h.go <;> simp [hpc, hw, Pc.outside, Pc.inside]
    · next howns =>
      have hnot := h.not_writes_of_id howns (by simp [hpc]) (by simp [hpc])
      apply h.go <;> simp [hpc, hnot, Pc.outside, Pc.inside]
  | writeReenter t => exact h.writeReenter hg rfl rfl rfl rfl rfl
  | writeAnnounce t =>
    have hpc : (s.loc t).pc = .writeAnnounce := hg
    have hnot : ¬ (s.loc t).writes := (h.placed t).outside (hpc ▸ rfl)
    have hplaced : Placed { s.loc t with pc := .writeCas } := by
      apply (h.placed t).go <;> simp [hnot, Pc.outside, Pc.inside]
    exact h.goOn rfl rfl rfl rfl (by simp [hpc]) (by simp [hpc]) (by simp [hpc]) (by simp) hplaced
  | writeCas t => exact h.writeCas hg.1 hg.2 rfl rfl rfl rfl rfl
  | writeCasFail t =>
    have hpc : (s.loc t).pc = .writeCas := hg
    have hnot : ¬ (s.loc t).writes := (h.placed t).outside (hpc ▸ rfl)
    apply h.go <;> simp [hpc, hnot, Pc.outside, Pc.inside]
  | writeStoreId t => exact h.writeStoreId hg rfl rfl rfl rfl rfl
  | writeWithdraw t =>
    have hpc : (s.loc t).pc = .writeWithdraw := hg
    have hplaced : Placed { s.loc t with pc := .idle } := .back rfl (h.placed t).bottom
    exact h.goOn rfl rfl rfl rfl (by simp [hpc]) (by simp [hpc]) (by simp [hpc]) (by simp) hplaced
  | writeUnlockAdd t =>
    have hpc : (s.loc t).pc = .writeUnlockAdd := hg
    by_cases hlast : s.lockNum = -1
    · exact h.writeUnlockAdd_last hpc hlast rfl (if_pos hlast) rfl rfl rfl
    · exact h.writeUnlockAdd hpc hlast rfl (if_neg hlast) rfl rfl rfl
  | writeClear t => exact h.writeClear hg hok rfl rfl rfl rfl rfl

/-- **Run lemma**. -/
theorem inv_reachable {writeFirst : Bool}
    (h : ((reentrantRwLock writeFirst).restrict Undisturbed).Reachable s) : Inv s := by
  apply System.invariant _ _ h
  · intro s hi
    exact inv_init (show (reentrantRwLock writeFirst).init s from hi)
  · intro s a hinv hg
    exact hinv.step a hg.1 hg.2

end steps

/-! ## Section 6: The lock state -/

/-- What the claimed state says: of a writer between its calls, and of a lock
    nobody uses. -/
structure KeepsState (s : State Tid) : Prop where
  written : ∀ t, (s.loc t).pc = .idle → 0 < (s.loc t).depth →
    s.lockNum = -((s.loc t).depth : Int) ∧ s.writeThreadId = some t ∧
      ∀ u, u ≠ t → (s.loc u).held = []
  unused  : (∀ t, (s.loc t).pc = .idle ∧ (s.loc t).held = []) → s.lockNum = 0

/-- **Lock state**: as long as no `WriteUnlock` clears the id of another
    thread that goes on holding the lock, a writer of depth `n` that is
    between its calls finds `-n` and its own id and is alone, and an unused
    lock is free. -/
theorem reentrantRwLock_keepsState [Fintype Tid] (writeFirst : Bool) (s : State Tid)
    (h : ((reentrantRwLock writeFirst).restrict Undisturbed).Reachable s) : KeepsState s := by
  have hinv := inv_reachable h
  constructor
  case written =>
    intro t hpc hdepth
    have hw := depth_pos.mp hdepth
    have howns : s.writeThreadId = some t := by
      by_contra hnot
      exact hinv.not_writes_of_id hnot (by simp [hpc]) (by simp [hpc]) hw
    exact ⟨hinv.lock_of_writes hw, howns, fun u hu => hinv.alone t u hu.symm hw⟩
  case unused =>
    intro hunused
    rw [hinv.lock, total_of_zero fun t => weight_nil (hunused t).2]

/-- The first thread locks for writing and the second waits in `WriteLock`. -/
def writeAndWait : List (Label (Fin 2)) :=
  [.writeLock 0, .writeTest 0, .writeAnnounce 0, .writeCas 0, .writeStoreId 0, .writeWithdraw 0,
    .writeLock 1, .writeTest 1, .writeAnnounce 1, .writeUnlock 0, .writeUnlockAdd 0]

def unused : State (Fin 2) := ⟨none, 0, 0, fun _ => ⟨.idle, [], 0, 0⟩⟩

theorem init_unused : (reentrantRwLock true).init unused := by
  simp [reentrantRwLock, unused]

/-- The first thread clears its id in time; the second one then writes. -/
theorem reentrantRwLock_keepsState_cleared :
    ∃ s : State (Fin 2), ((reentrantRwLock true).restrict Undisturbed).Reachable s ∧
      (s.loc 1).depth = 1 ∧ KeepsState s := by
  let as := writeAndWait ++
    [.writeClear 0, .writeCas 1, .writeStoreId 1, .writeWithdraw 1]
  have hreach : ((reentrantRwLock true).restrict Undisturbed).Reachable
      (((reentrantRwLock true).restrict Undisturbed).exec unused as) :=
    System.reachable_exec ((reentrantRwLock true).restrict Undisturbed) init_unused as (by decide)
  exact ⟨_, hreach, by decide, reentrantRwLock_keepsState true _ hreach⟩

/-- The first thread clears the id that the second one has stored. -/
theorem reentrantRwLock_idLost :
    ¬ ∀ s : State (Fin 2), (reentrantRwLock true).Reachable s → KeepsState s := by
  let as := writeAndWait ++
    [.writeCas 1, .writeStoreId 1, .writeWithdraw 1, .writeClear 0]
  intro hall
  have hreach : (reentrantRwLock true).Reachable ((reentrantRwLock true).exec unused as) :=
    System.reachable_exec _ init_unused as (by decide)
  have howns := ((hall _ hreach).written 1 (by decide) (by decide)).2.1
  revert howns
  decide

end CyberRT.Base.ReentrantRwLock
