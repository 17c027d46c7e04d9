import CyberRT.Transport.Delivery

/-! # Blocks under announcement

    Who is attached where, what the lock words count, and what becomes of a
    block between the write of a message and the reading of its
    announcement: either it is locked for writing again, or it holds the
    message. -/

namespace CyberRT.Transport.Delivery

open CyberRT.Framework CyberRT.Transport.Shm

variable {Tid Did : Type}

/-! ## Section 1: Attachments -/

/-- Attached segments exist, and whoever is past the acquisition has one. -/
structure Attached (registered : Option Nat) (next : Nat) (tx : Tid → Transmitter)
    (rx : Did → Dispatcher Tid) : Prop where
  registered_lt : ∀ k, registered = some k → k < next
  tx_lt         : ∀ t k, (tx t).seg = some k → k < next
  rx_lt         : ∀ d k, (rx d).seg = some k → k < next
  tx_seg        : ∀ t, (tx t).pc ≠ .idle → (tx t).pc ≠ .acquire → (tx t).seg ≠ none
  rx_seg        : ∀ d, (rx d).pc ≠ .listen → (rx d).pc ≠ .acquire → (rx d).seg ≠ none

def AttachInv (s : State Tid Did) : Prop := Attached s.registered s.next s.tx s.rx

section attach
variable {s : State Tid Did}

theorem Attached.setTx [DecidableEq Tid] {registered : Option Nat} {next : Nat}
    {tx : Tid → Transmitter} {rx : Did → Dispatcher Tid} (h : Attached registered next tx rx)
    {t : Tid} {l : Transmitter} (hlt : ∀ k, l.seg = some k → k < next)
    (hseg : l.pc ≠ .idle → l.pc ≠ .acquire → l.seg ≠ none) :
    Attached registered next (Function.update tx t l) rx := by
  refine ⟨h.registered_lt, ?_, h.rx_lt, ?_, h.rx_seg⟩
  · intro u k
    by_cases hu : u = t
    · rw [hu, Function.update_self]
      exact hlt k
    · rw [Function.update_of_ne hu]
      exact h.tx_lt u k
  · intro u
    by_cases hu : u = t
    · rw [hu, Function.update_self]
      exact hseg
    · rw [Function.update_of_ne hu]
      exact h.tx_seg u

theorem Attached.setRx [DecidableEq Did] {registered : Option Nat} {next : Nat}
    {tx : Tid → Transmitter} {rx : Did → Dispatcher Tid} (h : Attached registered next tx rx)
    {d : Did} {l : Dispatcher Tid} (hlt : ∀ k, l.seg = some k → k < next)
    (hseg : l.pc ≠ .listen → l.pc ≠ .acquire → l.seg ≠ none) :
    Attached registered next tx (Function.update rx d l) := by
  refine ⟨h.registered_lt, h.tx_lt, ?_, h.tx_seg, ?_⟩
  · intro e k
    by_cases he : e = d
    · rw [he, Function.update_self]
      exact hlt k
    · rw [Function.update_of_ne he]
      exact h.rx_lt e k
  · intro e
    by_cases he : e = d
    · rw [he, Function.update_self]
      exact hseg
    · rw [Function.update_of_ne he]
      exact h.rx_seg e

/-- The segment number a holder works with. -/
theorem seg_getD {seg : Option Nat} (h : seg ≠ none) : seg = some (seg.getD 0) := by
  cases seg with
  | none   => exact absurd rfl h
  | some k => rfl

variable [DecidableEq Tid] [DecidableEq Did]

/-- **Step lemma**, attachments. -/
theorem attach_step (a : Label Tid Did) (h : AttachInv s) (hg : (delivery.action a).gate s) :
    AttachInv ((delivery.action a).effect s) := by
  -- a transmitter or a dispatcher that keeps its segment
  have htx : ∀ {t : Tid} {l : Transmitter}, l.seg = (s.tx t).seg →
      (l.pc ≠ .idle → l.pc ≠ .acquire → (s.tx t).seg ≠ none) →
      Attached s.registered s.next (Function.update s.tx t l) s.rx := by
    intro t l hseg hattached
    apply h.setTx
    · rw [hseg]
      exact h.tx_lt t
    · rw [hseg]
      exact hattached
  have hrx : ∀ {d : Did} {l : Dispatcher Tid}, l.seg = (s.rx d).seg →
      (l.pc ≠ .listen → l.pc ≠ .acquire → (s.rx d).seg ≠ none) →
      Attached s.registered s.next s.tx (Function.update s.rx d l) := by
    intro d l hseg hattached
    apply h.setRx
    · rw [hseg]
      exact h.rx_lt d
    · rw [hseg]
      exact hattached
  have hheldTx : ∀ {t : Tid} {pc : TxPc}, (s.tx t).pc = pc → pc ≠ .idle → pc ≠ .acquire →
      (s.tx t).seg ≠ none := by
    intro t pc hpc hidle hacquire
    rw [← hpc] at hidle hacquire
    exact h.tx_seg t hidle hacquire
  have hheldRx : ∀ {d : Did} {pc : RxPc}, (s.rx d).pc = pc → pc ≠ .listen → pc ≠ .acquire →
      (s.rx d).seg ≠ none := by
    intro d pc hpc hlisten hacquire
    rw [← hpc] at hlisten hacquire
    exact h.rx_seg d hlisten hacquire
  cases a with
  | transmit t => exact htx rfl fun _ hne => absurd rfl hne
  | create t msgSize =>
    have hnew : Attached (some s.next) (s.next + 1) s.tx s.rx := by
      refine ⟨?_, ?_, ?_, h.tx_seg, h.rx_seg⟩
      · intro k hk
        obtain rfl : s.next = k := Option.some.inj hk
        exact Nat.lt_succ_self _
      · exact fun u k hk => Nat.lt_succ_of_lt (h.tx_lt u k hk)
      · exact fun d k hk => Nat.lt_succ_of_lt (h.rx_lt d k hk)
    exact hnew.setTx hnew.registered_lt fun _ _ => nofun
  | attach t => exact h.setTx h.registered_lt fun _ _ => hg.2
  | acquireFail t => exact htx rfl fun hne _ => absurd rfl hne
  | wroteNum t => exact htx rfl fun _ _ => hg.2
  | tryLockForWrite t => exact htx rfl fun _ _ => hheldTx hg.1 nofun nofun
  | tryLockForWriteFail t | increaseWroteNum t | serialize t | serializeFail t
  | releaseWrittenBlock t => exact htx rfl fun _ _ => hheldTx hg nofun nofun
  | releaseFailed t | notify t => exact htx rfl fun hne _ => absurd rfl hne
  | listen d => exact hrx rfl fun _ hne => absurd rfl hne
  | attachRead d => exact h.setRx h.registered_lt fun _ _ => hg.2
  | checkIndex d => exact hrx rfl fun _ _ => hg.2.1
  | acquireReadFail d | lockBehind d | releaseReadBlock d =>
    exact hrx rfl fun hne _ => absurd rfl hne
  | tryLockForRead d => exact hrx rfl fun _ _ => hheldRx hg.1 nofun nofun
  | onMessage d => exact hrx rfl fun _ _ => hheldRx hg nofun nofun

end attach

/-! ## Section 2: Locks -/

/-- A transmitter outside its block holds no lock. -/
theorem not_writes {l : Transmitter} (hl : l.pc.writing = false) (k i : Nat) : ¬ l.Writes k i := by
  intro hw
  rw [hw.1] at hl
  cases hl

/-- A dispatcher outside its block holds no lock. -/
theorem not_reads {l : Dispatcher Tid} (hl : l.pc.reading = false) (k i : Nat) :
    ¬ l.Reads k i := by
  intro hr
  rw [hr.1] at hl
  cases hl

theorem writes_unique {l : Transmitter} {k i k' i' : Nat} (h : l.Writes k i) (h' : l.Writes k' i') :
    k' = k ∧ i' = i :=
  ⟨Option.some.inj (h'.2.1.symm.trans h.2.1), h'.2.2.symm.trans h.2.2⟩

theorem reads_unique {l : Dispatcher Tid} {k i k' i' : Nat} (h : l.Reads k i)
    (h' : l.Reads k' i') : k' = k ∧ i' = i :=
  ⟨Option.some.inj (h'.2.1.symm.trans h.2.1), h'.2.2.symm.trans h.2.2⟩

theorem not_writing {l : Transmitter} {pc : TxPc} (hpc : l.pc = pc) (h : pc.writing = false) :
    l.pc.writing = false := by rw [hpc, h]

theorem not_reading {l : Dispatcher Tid} {pc : RxPc} (hpc : l.pc = pc) (h : pc.reading = false) :
    l.pc.reading = false := by rw [hpc, h]

/-- One lock word changes with the number of its holders. -/
theorem lock_update {segs : Nat → Seg Tid} {R W R' W' : Nat → Nat → Nat} {k₀ i₀ : Nat}
    {g : Seg Tid} {word : Int} (h : ∀ k i, RwLock ((segs k).lockNum i) (R k i) (W k i))
    (hg : g.lockNum = Function.update (segs k₀).lockNum i₀ word)
    (hword : RwLock word (R' k₀ i₀) (W' k₀ i₀))
    (hother : ∀ k i, ¬ (k = k₀ ∧ i = i₀) → R' k i = R k i ∧ W' k i = W k i) (k i : Nat) :
    RwLock ((Function.update segs k₀ g k).lockNum i) (R' k i) (W' k i) := by
  by_cases hk : k = k₀
  · rw [hk, Function.update_self, hg]
    by_cases hi : i = i₀
    · rw [hi, Function.update_self]
      exact hword
    · obtain ⟨hR, hW⟩ := hother k₀ i fun heq => hi heq.2
      rw [Function.update_of_ne hi, hR, hW]
      exact h k₀ i
  · obtain ⟨hR, hW⟩ := hother k i fun heq => hk heq.1
    rw [Function.update_of_ne hk, hR, hW]
    exact h k i

section locks
variable [Fintype Tid] [Fintype Did] {s : State Tid Did}

/-- Each lock word counts the holders of its block. -/
def LockInv (s : State Tid Did) : Prop :=
  ∀ k i, RwLock ((s.segs k).lockNum i)
    (tally (Dispatcher.Reads k i) s.rx) (tally (Transmitter.Writes k i) s.tx)

theorem LockInv.setTx [DecidableEq Tid] (h : LockInv s) {t : Tid} {l : Transmitter}
    (hwrites : ∀ k i, l.Writes k i ↔ (s.tx t).Writes k i) : LockInv (s.setTx t l) := by
  intro k i
  show RwLock _ _ (tally (Transmitter.Writes k i) (Function.update s.tx t l))
  rw [tally_update_of_iff (hwrites k i)]
  exact h k i

theorem LockInv.setRx [DecidableEq Did] (h : LockInv s) {d : Did} {l : Dispatcher Tid}
    (hreads : ∀ k i, l.Reads k i ↔ (s.rx d).Reads k i) : LockInv (s.setRx d l) := by
  intro k i
  show RwLock _ (tally (Dispatcher.Reads k i) (Function.update s.rx d l)) _
  rw [tally_update_of_iff (hreads k i)]
  exact h k i

theorem LockInv.setSeg (h : LockInv s) {k : Nat} {g : Seg Tid}
    (hlock : g.lockNum = (s.segs k).lockNum) : LockInv (s.setSeg k g) := by
  intro j i
  show RwLock ((Function.update s.segs k g j).lockNum i) _ _
  by_cases hj : j = k
  · rw [hj, Function.update_self, hlock]
    exact h k i
  · rw [Function.update_of_ne hj]
    exact h j i

section moves
variable {t : Tid} {d : Did} {k i : Nat} {g : Seg Tid}

/-- A transmitter takes the lock of a free block. -/
theorem LockInv.enterTx [DecidableEq Tid] (h : LockInv s) {l : Transmitter}
    (hout : (s.tx t).pc.writing = false) (hl : l.Writes k i) (hfree : (s.segs k).lockNum i = 0)
    (hg : g.lockNum = Function.update (s.segs k).lockNum i (-1)) :
    LockInv ((s.setTx t l).setSeg k g) := by
  apply lock_update h hg
  · show RwLock _ _ (tally _ (Function.update s.tx t l))
    rw [tally_update_enter (not_writes hout k i) hl]
    exact (h k i).lockWrite hfree
  · intro k' i' hne
    refine ⟨rfl, tally_update_of_iff ?_⟩
    exact iff_of_false (fun hw => hne (writes_unique hl hw)) (not_writes hout k' i')

/-- A transmitter releases the lock of its block. -/
theorem LockInv.leaveTx [DecidableEq Tid] (h : LockInv s) {l : Transmitter}
    (hheld : (s.tx t).Writes k i) (hl : l.pc.writing = false)
    (hg : g.lockNum = Function.update (s.segs k).lockNum i ((s.segs k).lockNum i + 1)) :
    LockInv ((s.setTx t l).setSeg k g) := by
  apply lock_update h hg
  · apply RwLock.unlockWrite
    show RwLock _ _ (tally _ (Function.update s.tx t l) + 1)
    rw [tally_update_leave hheld (not_writes hl k i)]
    exact h k i
  · intro k' i' hne
    refine ⟨rfl, tally_update_of_iff ?_⟩
    exact iff_of_false (not_writes hl k' i') fun hw => hne (writes_unique hheld hw)

/-- A dispatcher takes a read lock of a block nobody writes. -/
theorem LockInv.enterRx [DecidableEq Did] (h : LockInv s) {l : Dispatcher Tid}
    (hout : (s.rx d).pc.reading = false) (hl : l.Reads k i) (hfree : 0 ≤ (s.segs k).lockNum i)
    (hg : g.lockNum = Function.update (s.segs k).lockNum i ((s.segs k).lockNum i + 1)) :
    LockInv ((s.setRx d l).setSeg k g) := by
  apply lock_update h hg
  · show RwLock _ (tally _ (Function.update s.rx d l)) _
    rw [tally_update_enter (not_reads hout k i) hl]
    exact (h k i).lockRead hfree
  · intro k' i' hne
    refine ⟨tally_update_of_iff ?_, rfl⟩
    exact iff_of_false (fun hr => hne (reads_unique hl hr)) (not_reads hout k' i')

/-- A dispatcher releases its read lock. -/
theorem LockInv.leaveRx [DecidableEq Did] (h : LockInv s) {l : Dispatcher Tid}
    (hheld : (s.rx d).Reads k i) (hl : l.pc.reading = false)
    (hg : g.lockNum = Function.update (s.segs k).lockNum i ((s.segs k).lockNum i - 1)) :
    LockInv ((s.setRx d l).setSeg k g) := by
  apply lock_update h hg
  · apply RwLock.unlockRead
    show RwLock _ (tally _ (Function.update s.rx d l) + 1) _
    rw [tally_update_leave hheld (not_reads hl k i)]
    exact h k i
  · intro k' i' hne
    refine ⟨tally_update_of_iff ?_, rfl⟩
    exact iff_of_false (not_reads hl k' i') fun hr => hne (reads_unique hheld hr)

end moves

/-- Nobody holds a lock in a segment that does not exist yet. -/
theorem lock_next (ha : AttachInv s) (i : Nat) :
    tally (Dispatcher.Reads s.next i) s.rx = 0 ∧ tally (Transmitter.Writes s.next i) s.tx = 0 := by
  refine ⟨tally_eq_zero_iff.mpr ?_, tally_eq_zero_iff.mpr ?_⟩
  · intro d hd
    exact Nat.lt_irrefl _ (ha.rx_lt d _ hd.2.1)
  · intro t ht
    exact Nat.lt_irrefl _ (ha.tx_lt t _ ht.2.1)

section steps
variable [DecidableEq Tid] [DecidableEq Did]

theorem lock_create {t : Tid} (msgSize : Nat) (ha : AttachInv s) (h : LockInv s)
    (hpc : (s.tx t).pc = .acquire) : LockInv ((delivery.action (.create t msgSize)).effect s) := by
  have hout := not_writing hpc rfl
  have hsame : ∀ k i, tally (Transmitter.Writes k i)
      (Function.update s.tx t { s.tx t with seg := some s.next }) =
      tally (Transmitter.Writes k i) s.tx := by
    intro k i
    apply tally_update_of_iff
    apply iff_of_false
    · exact not_writes (l := { s.tx t with seg := some s.next }) hout k i
    · exact not_writes hout k i
  intro k i
  show RwLock ((Function.update s.segs s.next (Seg.fresh _) k).lockNum i) (tally _ s.rx)
    (tally _ (Function.update s.tx t _))
  rw [hsame]
  by_cases hk : k = s.next
  · rw [hk, Function.update_self]
    obtain ⟨hreads, hwrites⟩ := lock_next ha i
    rw [hreads, hwrites]
    exact .free
  · rw [Function.update_of_ne hk]
    exact h k i

/-- **Step lemma**, lock words. -/
theorem lock_step (a : Label Tid Did) (ha : AttachInv s) (h : LockInv s)
    (hg : (delivery.action a).gate s) : LockInv ((delivery.action a).effect s) := by
  -- a move outside the blocks
  have hout : ∀ {t : Tid} {pc : TxPc} {l : Transmitter}, (s.tx t).pc = pc → pc.writing = false →
      l.pc.writing = false → LockInv (s.setTx t l) := by
    intro t pc l hpc hnot hl
    apply h.setTx
    intro k i
    exact iff_of_false (not_writes hl k i) (not_writes (not_writing hpc hnot) k i)
  have houtRx : ∀ {d : Did} {pc : RxPc} {l : Dispatcher Tid}, (s.rx d).pc = pc →
      pc.reading = false → l.pc.reading = false → LockInv (s.setRx d l) := by
    intro d pc l hpc hnot hl
    apply h.setRx
    intro k i
    exact iff_of_false (not_reads hl k i) (not_reads (not_reading hpc hnot) k i)
  -- a writer that stays in its block
  have hin : ∀ {t : Tid} {pc pc' : TxPc}, (s.tx t).pc = pc → pc.writing = true →
      pc'.writing = true → LockInv (s.setTx t { s.tx t with pc := pc' }) := by
    intro t pc pc' hpc hwriting hwriting'
    apply h.setTx
    intro k i
    show pc'.writing = true ∧ _ ↔ (s.tx t).pc.writing = true ∧ _
    rw [hpc, hwriting, hwriting']
  have hwriter : ∀ {t : Tid} {pc : TxPc}, (s.tx t).pc = pc → pc.writing = true → pc ≠ .idle →
      pc ≠ .acquire → (s.tx t).Writes ((s.tx t).seg.getD 0) (s.tx t).index := by
    intro t pc hpc hwriting hidle hacquire
    rw [← hpc] at hwriting hidle hacquire
    exact ⟨hwriting, seg_getD (ha.tx_seg t hidle hacquire), rfl⟩
  cases a with
  | transmit t => exact hout hg rfl rfl
  | create t msgSize => exact lock_create msgSize ha h hg
  | attach t => exact hout hg.1 rfl (not_writing hg.1 rfl)
  | acquireFail t => exact hout hg rfl rfl
  | wroteNum t => exact hout hg.1 rfl rfl
  | tryLockForWrite t =>
    have hseg : (s.tx t).seg ≠ none := by
      apply ha.tx_seg t
      · rw [hg.1]
        nofun
      · rw [hg.1]
        nofun
    exact h.enterTx (not_writing hg.1 rfl) ⟨rfl, seg_getD hseg, rfl⟩ hg.2 rfl
  | tryLockForWriteFail t => exact hout hg rfl (not_writing hg rfl)
  | increaseWroteNum t => exact (hin hg rfl rfl).setSeg rfl
  | serialize t => exact (hin hg rfl rfl).setSeg rfl
  | serializeFail t => exact (hin hg rfl rfl).setSeg rfl
  | releaseWrittenBlock t => exact h.leaveTx (hwriter hg rfl nofun nofun) rfl rfl
  | releaseFailed t => exact h.leaveTx (hwriter hg rfl nofun nofun) rfl rfl
  | notify t => exact hout hg rfl rfl
  | listen d => exact houtRx hg.1 rfl rfl
  | attachRead d =>
    obtain hpc | hpc := hg.1
    · exact houtRx hpc rfl (not_reading hpc rfl)
    · exact houtRx hpc rfl (not_reading hpc rfl)
  | checkIndex d => exact houtRx hg.1 rfl rfl
  | acquireReadFail d =>
    obtain hpc | hpc := hg
    · exact houtRx hpc rfl rfl
    · exact houtRx hpc rfl rfl
  | tryLockForRead d =>
    have hseg : (s.rx d).seg ≠ none := by
      apply ha.rx_seg d
      · rw [hg.1]
        nofun
      · rw [hg.1]
        nofun
    exact h.enterRx (not_reading hg.1 rfl) ⟨rfl, seg_getD hseg, rfl⟩ hg.2.2 rfl
  | lockBehind d =>
    have hmove : LockInv (s.setRx d { s.rx d with pc := .listen, info := none }) :=
      houtRx hg.1 rfl rfl
    exact hmove.setSeg rfl
  | onMessage d =>
    have hpc : (s.rx d).pc = .onMessage := hg
    have hmove : LockInv (s.setRx d { s.rx d with pc := .releaseReadBlock, info := none }) := by
      apply h.setRx
      intro k i
      show true = true ∧ _ ↔ (s.rx d).pc.reading = true ∧ _
      rw [hpc]
      rfl
    exact hmove
  | releaseReadBlock d =>
    have hpc : (s.rx d).pc = .releaseReadBlock := hg
    have hseg : (s.rx d).seg ≠ none := by
      apply ha.rx_seg d
      · rw [hpc]
        nofun
      · rw [hpc]
        nofun
    have hreading : (s.rx d).pc.reading = true := by
      rw [hpc]
      rfl
    exact h.leaveRx ⟨hreading, seg_getD hseg, rfl⟩ rfl rfl

end steps

end locks

/-! ## Section 3: Announced writes -/

/-- An announced write is over: the block was locked for writing again, or
    it still holds the message announced and nobody writes it. -/
structure InfoInv (s : State Tid Did) (x : ReadableInfo Tid) : Prop where
  seg_lt : x.seg < s.next
  write  : x.write < (s.segs x.seg).writes x.blockIndex ∨
    (x.write = (s.segs x.seg).writes x.blockIndex ∧
      (s.segs x.seg).content x.blockIndex = some x.message ∧
      ∀ t, ¬ (s.tx t).Writes x.seg x.blockIndex)

/-- What a transmitter knows of the block it writes. -/
structure WriterInv (s : State Tid Did) (t : Tid) : Prop where
  write   : ∀ k i, (s.tx t).Writes k i → (s.tx t).write = (s.segs k).writes i
  content : (s.tx t).pc = .releaseWrittenBlock → ∀ k i, (s.tx t).Writes k i →
    (s.segs k).content i = some ⟨t, (s.tx t).seq⟩
  pending : (s.tx t).pc = .notify → InfoInv s (s.info t)

structure ContentInv (s : State Tid Did) : Prop where
  announced : ∀ x ∈ s.announced, InfoInv s x
  writer    : ∀ t, WriterInv s t

/-- A step of transmitter `t` that changes at most the blocks in `B`, where
    nobody else writes and which it has locked before or locks now. -/
structure Touch (B : Nat → Nat → Prop) (t : Tid) (s s' : State Tid Did) : Prop where
  next_le   : s.next ≤ s'.next
  others    : ∀ u, u ≠ t → s'.tx u = s.tx u
  announced : ∀ x ∈ s'.announced, x ∈ s.announced ∨ ((s.tx t).pc = .notify ∧ x = s.info t)
  alone     : ∀ k i, B k i → ∀ u, u ≠ t → ¬ (s.tx u).Writes k i
  frame     : ∀ k i, k < s.next → ¬ B k i →
    (s'.segs k).writes i = (s.segs k).writes i ∧ (s'.segs k).content i = (s.segs k).content i
  newer     : ∀ k i, B k i →
    ((s.tx t).Writes k i ∧ (s.segs k).writes i ≤ (s'.segs k).writes i) ∨
    (s.segs k).writes i < (s'.segs k).writes i
  only      : ∀ k i, (s'.tx t).Writes k i → B k i

section content
variable {s s' : State Tid Did} {t : Tid} {B : Nat → Nat → Prop}

/-- An announcement is either overtaken by the write or not affected. -/
theorem InfoInv.touch [DecidableEq Tid] (ht : Touch B t s s') {x : ReadableInfo Tid}
    (h : InfoInv s x) : InfoInv s' x := by
  refine ⟨Nat.lt_of_lt_of_le h.seg_lt ht.next_le, ?_⟩
  by_cases hx : B x.seg x.blockIndex
  · left
    obtain ⟨hwrites, hle⟩ | hlt := ht.newer _ _ hx
    · obtain hwrite | ⟨_, _, hnone⟩ := h.write
      · omega
      · exact absurd hwrites (hnone t)
    · obtain hwrite | ⟨hwrite, _⟩ := h.write
      · omega
      · omega
  · obtain ⟨hw, hc⟩ := ht.frame _ _ h.seg_lt hx
    rw [hw, hc]
    obtain hwrite | ⟨hwrite, hcontent, hnone⟩ := h.write
    · exact Or.inl hwrite
    · refine Or.inr ⟨hwrite, hcontent, ?_⟩
      intro u hu
      by_cases hut : u = t
      · rw [hut] at hu
        exact hx (ht.only _ _ hu)
      · rw [ht.others u hut] at hu
        exact hnone u hu

/-- **Step lemma**, blocks: what a transmitter must show of its own step. -/
theorem ContentInv.touch [DecidableEq Tid] (h : ContentInv s) (ha : AttachInv s)
    (ht : Touch B t s s') (hown : WriterInv s' t) : ContentInv s' := by
  refine ⟨?_, ?_⟩
  · intro x hx
    obtain hold | ⟨hpc, rfl⟩ := ht.announced x hx
    · exact (h.announced x hold).touch ht
    · exact ((h.writer t).pending hpc).touch ht
  · intro u
    by_cases hu : u = t
    · rw [hu]
      exact hown
    · have hsame := ht.others u hu
      obtain ⟨hwrite, hcontent, hpending⟩ := h.writer u
      have hblock : ∀ k i, (s.tx u).Writes k i →
          (s'.segs k).writes i = (s.segs k).writes i ∧
          (s'.segs k).content i = (s.segs k).content i := by
        intro k i hw
        exact ht.frame k i (ha.tx_lt u k hw.2.1) fun hB => ht.alone k i hB u hu hw
      refine ⟨?_, ?_, ?_⟩
      · intro k i hw
        rw [hsame] at hw ⊢
        rw [(hblock k i hw).1]
        exact hwrite k i hw
      · intro hpc k i hw
        rw [hsame] at hpc hw ⊢
        rw [(hblock k i hw).2]
        exact hcontent hpc k i hw
      · intro hpc
        rw [hsame] at hpc
        have hinfo : s'.info u = s.info u := by
          unfold State.info
          rw [hsame]
        rw [hinfo]
        exact (hpending hpc).touch ht

/-- A transmitter that works on no block knows nothing of one. -/
theorem WriterInv.idle (hpc : (s.tx t).pc.writing = false) (hnotify : (s.tx t).pc ≠ .notify) :
    WriterInv s t := by
  refine ⟨?_, ?_, fun h => absurd h hnotify⟩
  · intro k i hw
    exact absurd hw (not_writes hpc k i)
  · intro _ k i hw
    exact absurd hw (not_writes hpc k i)

variable [DecidableEq Tid]

/-- A transmitter moves outside the blocks. -/
theorem touch_move {l : Transmitter} (htx : s'.tx = Function.update s.tx t l)
    (hl : l.pc.writing = false) (hnext : s.next ≤ s'.next)
    (hannounced : ∀ x ∈ s'.announced, x ∈ s.announced ∨ ((s.tx t).pc = .notify ∧ x = s.info t))
    (hframe : ∀ k < s.next, s'.segs k = s.segs k) : Touch (fun _ _ => False) t s s' := by
  refine ⟨hnext, ?_, hannounced, fun _ _ hB => hB.elim, ?_, fun _ _ hB => hB.elim, ?_⟩
  · intro u hu
    rw [htx, Function.update_of_ne hu]
  · intro k i hk _
    rw [hframe k hk]
    exact ⟨rfl, rfl⟩
  · intro k i hw
    rw [htx, Function.update_self] at hw
    exact not_writes hl k i hw

/-- What a step does to one block, made by a transmitter that is alone
    there and has it locked, or locks it now. -/
structure BlockStep (s s' : State Tid Did) (t : Tid) (l : Transmitter) (g : Seg Tid)
    (k₀ i₀ : Nat) : Prop where
  tx        : s'.tx = Function.update s.tx t l
  segs      : s'.segs = Function.update s.segs k₀ g
  next      : s'.next = s.next
  announced : s'.announced = s.announced
  alone     : ∀ u, u ≠ t → ¬ (s.tx u).Writes k₀ i₀
  frame     : ∀ i, i ≠ i₀ →
    g.writes i = (s.segs k₀).writes i ∧ g.content i = (s.segs k₀).content i
  newer     : ((s.tx t).Writes k₀ i₀ ∧ (s.segs k₀).writes i₀ ≤ g.writes i₀) ∨
    (s.segs k₀).writes i₀ < g.writes i₀

theorem BlockStep.touch {l : Transmitter} {g : Seg Tid} {k₀ i₀ : Nat}
    (h : BlockStep s s' t l g k₀ i₀) (honly : ∀ k i, l.Writes k i → k = k₀ ∧ i = i₀) :
    Touch (fun k i => k = k₀ ∧ i = i₀) t s s' := by
  refine ⟨by rw [h.next], ?_, ?_, ?_, ?_, ?_, ?_⟩
  · intro u hu
    rw [h.tx, Function.update_of_ne hu]
  · intro x hx
    rw [h.announced] at hx
    exact Or.inl hx
  · intro k i hB
    rw [hB.1, hB.2]
    exact h.alone
  · intro k i _ hB
    rw [h.segs]
    by_cases hk : k = k₀
    · have hi : i ≠ i₀ := fun hi => hB ⟨hk, hi⟩
      rw [hk, Function.update_self]
      exact h.frame i hi
    · rw [Function.update_of_ne hk]
      exact ⟨rfl, rfl⟩
  · intro k i hB
    rw [hB.1, hB.2, h.segs, Function.update_self]
    exact h.newer
  · intro k i hw
    rw [h.tx, Function.update_self] at hw
    exact honly k i hw

/-- The transmitter goes on working on the block. -/
theorem ContentInv.work {l : Transmitter} {g : Seg Tid} {k₀ i₀ : Nat} (h : ContentInv s)
    (ha : AttachInv s) (hs : BlockStep s s' t l g k₀ i₀) (hl : l.Writes k₀ i₀)
    (hwrite : l.write = g.writes i₀)
    (hcontent : l.pc = .releaseWrittenBlock → g.content i₀ = some ⟨t, l.seq⟩) :
    ContentInv s' := by
  have htx : s'.tx t = l := by rw [hs.tx, Function.update_self]
  have hg : s'.segs k₀ = g := by rw [hs.segs, Function.update_self]
  apply h.touch ha (hs.touch fun k i hw => writes_unique hl hw)
  refine ⟨?_, ?_, ?_⟩
  · intro k i hw
    rw [htx] at hw ⊢
    obtain ⟨rfl, rfl⟩ := writes_unique hl hw
    rw [hg, hwrite]
  · intro hpc k i hw
    rw [htx] at hpc hw ⊢
    obtain ⟨rfl, rfl⟩ := writes_unique hl hw
    rw [hg]
    exact hcontent hpc
  · intro hpc
    rw [htx] at hpc
    have hwriting := hl.1
    rw [hpc] at hwriting
    cases hwriting

/-- The transmitter leaves the block. -/
theorem ContentInv.leave {l : Transmitter} {g : Seg Tid} {k₀ i₀ : Nat} (h : ContentInv s)
    (ha : AttachInv s) (hs : BlockStep s s' t l g k₀ i₀) (hl : l.pc.writing = false)
    (hpending : l.pc = .notify → InfoInv s' (s'.info t)) : ContentInv s' := by
  have htx : s'.tx t = l := by rw [hs.tx, Function.update_self]
  apply h.touch ha (hs.touch fun k i hw => absurd hw (not_writes hl k i))
  refine ⟨?_, ?_, ?_⟩
  · intro k i hw
    rw [htx] at hw
    exact absurd hw (not_writes hl k i)
  · intro _ k i hw
    rw [htx] at hw
    exact absurd hw (not_writes hl k i)
  · rw [htx]
    exact hpending

end content

section contentSteps
variable {s : State Tid Did} {t : Tid}

/-- The block a writer works on. -/
theorem writes_own (ha : AttachInv s) {pc : TxPc} (hpc : (s.tx t).pc = pc)
    (hwriting : pc.writing = true) (hidle : pc ≠ .idle) (hacquire : pc ≠ .acquire) :
    (s.tx t).Writes ((s.tx t).seg.getD 0) (s.tx t).index := by
  rw [← hpc] at hwriting hidle hacquire
  exact ⟨hwriting, seg_getD (ha.tx_seg t hidle hacquire), rfl⟩

variable [Fintype Tid] [Fintype Did]

theorem alone_of_writes (h : LockInv s) {k i : Nat} (hw : (s.tx t).Writes k i) (u : Tid)
    (hu : u ≠ t) : ¬ (s.tx u).Writes k i :=
  fun hwu => hu (eq_of_tally_le_one (h k i).writers_le hwu hw)

theorem none_of_free (h : LockInv s) {k i : Nat} (hfree : (s.segs k).lockNum i = 0) (u : Tid) :
    ¬ (s.tx u).Writes k i :=
  tally_eq_zero_iff.mp ((h k i).no_writer (by omega)) u

variable [DecidableEq Tid]

/-- A step of a writer within its block. -/
theorem content_work {pc pc' : TxPc} {g : Seg Tid} {s' : State Tid Did} (ha : AttachInv s)
    (hlock : LockInv s) (h : ContentInv s) (hpc : (s.tx t).pc = pc) (hwriting : pc.writing = true)
    (hidle : pc ≠ .idle) (hacquire : pc ≠ .acquire) (hwriting' : pc'.writing = true)
    (htx : s'.tx = Function.update s.tx t { s.tx t with pc := pc' })
    (hsegs : s'.segs = Function.update s.segs ((s.tx t).seg.getD 0) g)
    (hnext : s'.next = s.next) (hannounced : s'.announced = s.announced)
    (hwrites : g.writes = (s.txSeg t).writes)
    (hframe : ∀ i, i ≠ (s.tx t).index → g.content i = (s.txSeg t).content i)
    (hcontent : pc' = .releaseWrittenBlock →
      g.content (s.tx t).index = some ⟨t, (s.tx t).seq⟩) : ContentInv s' := by
  have hw := writes_own ha hpc hwriting hidle hacquire
  apply h.work ha
  · refine ⟨htx, hsegs, hnext, hannounced, alone_of_writes hlock hw, ?_, ?_⟩
    · exact fun i hi => ⟨by rw [hwrites]; rfl, hframe i hi⟩
    · exact Or.inl ⟨hw, by rw [hwrites]; exact Nat.le_refl _⟩
  · exact ⟨hwriting', hw.2.1, rfl⟩
  · rw [hwrites]
    exact (h.writer t).write _ _ hw
  · exact hcontent

/-- A release of the write lock. -/
theorem content_release {pc : TxPc} {l : Transmitter} {g : Seg Tid} {s' : State Tid Did}
    (ha : AttachInv s) (hlock : LockInv s) (h : ContentInv s) (hpc : (s.tx t).pc = pc)
    (hwriting : pc.writing = true) (hidle : pc ≠ .idle) (hacquire : pc ≠ .acquire)
    (hl : l.pc.writing = false) (htx : s'.tx = Function.update s.tx t l)
    (hsegs : s'.segs = Function.update s.segs ((s.tx t).seg.getD 0) g)
    (hnext : s'.next = s.next) (hannounced : s'.announced = s.announced)
    (hwrites : g.writes = (s.txSeg t).writes) (hcontent : g.content = (s.txSeg t).content)
    (hpending : l.pc = .notify → InfoInv s' (s'.info t)) : ContentInv s' := by
  have hw := writes_own ha hpc hwriting hidle hacquire
  apply h.leave ha
  · refine ⟨htx, hsegs, hnext, hannounced, alone_of_writes hlock hw, ?_, ?_⟩
    · exact fun i _ => ⟨by rw [hwrites]; rfl, by rw [hcontent]; rfl⟩
    · exact Or.inl ⟨hw, by rw [hwrites]; exact Nat.le_refl _⟩
  · exact hl
  · exact hpending

variable [DecidableEq Did]

theorem content_tryLockForWrite (ha : AttachInv s) (hlock : LockInv s) (h : ContentInv s)
    (hg : (delivery.action (.tryLockForWrite t)).gate s) :
    ContentInv ((delivery.action (.tryLockForWrite t)).effect s) := by
  have hseg : (s.tx t).seg = some ((s.tx t).seg.getD 0) := by
    apply seg_getD
    apply ha.tx_seg t
    · rw [hg.1]
      nofun
    · rw [hg.1]
      nofun
  have hwrites : Function.update (s.txSeg t).writes (s.tryIndex t)
      ((s.txSeg t).writes (s.tryIndex t) + 1) (s.tryIndex t) =
      (s.txSeg t).writes (s.tryIndex t) + 1 := Function.update_self _ _ _
  apply h.work ha
  · refine ⟨rfl, rfl, rfl, rfl, fun u _ => none_of_free hlock hg.2 u, ?_, ?_⟩
    · exact fun i hi => ⟨Function.update_of_ne hi _ _, rfl⟩
    · right
      show _ < Function.update (s.txSeg t).writes (s.tryIndex t) _ (s.tryIndex t)
      rw [hwrites]
      exact Nat.lt_succ_self _
  · exact ⟨rfl, hseg, rfl⟩
  · exact hwrites.symm
  · exact nofun

/-- A message is announced with the block still holding it. -/
theorem content_releaseWrittenBlock (ha : AttachInv s) (hlock : LockInv s) (h : ContentInv s)
    (hpc : (s.tx t).pc = .releaseWrittenBlock) :
    ContentInv ((delivery.action (.releaseWrittenBlock t)).effect s) := by
  have hw := writes_own ha hpc rfl nofun nofun
  refine content_release ha hlock h hpc rfl nofun nofun rfl rfl rfl rfl rfl rfl rfl ?_
  intro _
  have htx : ((delivery.action (.releaseWrittenBlock t)).effect s).tx t =
      { s.tx t with pc := .notify } := Function.update_self _ _ _
  have hsegs : ((delivery.action (.releaseWrittenBlock t)).effect s).segs ((s.tx t).seg.getD 0) =
      { s.txSeg t with
        lockNum := Function.update (s.txSeg t).lockNum (s.tx t).index
          ((s.txSeg t).lockNum (s.tx t).index + 1) } := Function.update_self _ _ _
  have hinfo : ((delivery.action (.releaseWrittenBlock t)).effect s).info t = s.info t := by
    unfold State.info
    rw [htx]
  rw [hinfo]
  refine ⟨ha.tx_lt t _ hw.2.1, Or.inr ⟨?_, ?_, ?_⟩⟩
  · show (s.tx t).write = Seg.writes (State.segs _ ((s.tx t).seg.getD 0)) (s.tx t).index
    rw [hsegs]
    exact (h.writer t).write _ _ hw
  · show Seg.content (State.segs _ ((s.tx t).seg.getD 0)) (s.tx t).index = _
    rw [hsegs]
    exact (h.writer t).content hpc _ _ hw
  · intro u hwu
    by_cases hu : u = t
    · rw [hu, htx] at hwu
      exact not_writes rfl _ _ hwu
    · have hsame : ((delivery.action (.releaseWrittenBlock t)).effect s).tx u = s.tx u :=
        Function.update_of_ne hu _ _
      rw [hsame] at hwu
      exact alone_of_writes hlock hw u hu hwu

omit [Fintype Tid] [Fintype Did] [DecidableEq Did] in
/-- A transmitter moves outside the blocks: the contents stay as they are. -/
theorem ContentInv.move (h : ContentInv s) (ha : AttachInv s) {t : Tid} {l : Transmitter}
    {s' : State Tid Did} (htx : s'.tx = Function.update s.tx t l) (hl : l.pc.writing = false)
    (hnotify : l.pc ≠ .notify) (hnext : s.next ≤ s'.next)
    (hannounced : ∀ x ∈ s'.announced, x ∈ s.announced ∨ ((s.tx t).pc = .notify ∧ x = s.info t))
    (hframe : ∀ k < s.next, s'.segs k = s.segs k) : ContentInv s' := by
  have hself : s'.tx t = l := by rw [htx, Function.update_self]
  apply h.touch ha (touch_move htx hl hnext hannounced hframe)
  apply WriterInv.idle
  · rw [hself]
    exact hl
  · rw [hself]
    exact hnotify

omit [Fintype Tid] [Fintype Did] [DecidableEq Tid] [DecidableEq Did] in
/-- A dispatcher moves, and at most a lock word changes. -/
theorem ContentInv.read (h : ContentInv s) {s' : State Tid Did} (htx : s'.tx = s.tx)
    (hnext : s'.next = s.next) (hannounced : s'.announced = s.announced)
    (hsegs : ∀ k, (s'.segs k).writes = (s.segs k).writes ∧
      (s'.segs k).content = (s.segs k).content) : ContentInv s' := by
  have hinfo : ∀ x, InfoInv s x → InfoInv s' x := by
    intro x hx
    obtain ⟨hlt, hwrite⟩ := hx
    refine ⟨by rw [hnext]; exact hlt, ?_⟩
    rw [(hsegs x.seg).1, (hsegs x.seg).2, htx]
    exact hwrite
  refine ⟨?_, ?_⟩
  · intro x hx
    rw [hannounced] at hx
    exact hinfo x (h.announced x hx)
  · intro t
    obtain ⟨hwrite, hcontent, hpending⟩ := h.writer t
    refine ⟨?_, ?_, ?_⟩
    · intro k i hw
      rw [htx] at hw ⊢
      rw [(hsegs k).1]
      exact hwrite k i hw
    · intro hpc k i hw
      rw [htx] at hpc hw ⊢
      rw [(hsegs k).2]
      exact hcontent hpc k i hw
    · intro hpc
      rw [htx] at hpc
      have hsame : s'.info t = s.info t := by
        unfold State.info
        rw [htx]
      rw [hsame]
      exact hinfo _ (hpending hpc)

omit [Fintype Tid] [Fintype Did] [DecidableEq Tid] [DecidableEq Did] in
/-- A lock word of one segment changes, of the block a dispatcher reads or of
    one behind the blocks. -/
theorem content_setSeg (k : Nat) (g : Seg Tid) (hwrites : g.writes = (s.segs k).writes)
    (hcontent : g.content = (s.segs k).content) (j : Nat) :
    (Function.update s.segs k g j).writes = (s.segs j).writes ∧
      (Function.update s.segs k g j).content = (s.segs j).content := by
  by_cases hj : j = k
  · rw [hj, Function.update_self]
    exact ⟨hwrites, hcontent⟩
  · rw [Function.update_of_ne hj]
    exact ⟨rfl, rfl⟩

/-- **Step lemma**, block contents. -/
theorem content_step (a : Label Tid Did) (ha : AttachInv s) (hlock : LockInv s)
    (h : ContentInv s) (hg : (delivery.action a).gate s) :
    ContentInv ((delivery.action a).effect s) := by
  cases a with
  | transmit t =>
    exact h.move ha rfl rfl nofun (Nat.le_refl _) (fun x hx => Or.inl hx) fun _ _ => rfl
  | create t msgSize =>
    have hpc : (s.tx t).pc = .acquire := hg
    apply h.move ha rfl
    · exact not_writing hpc rfl
    · show (s.tx t).pc ≠ .notify
      rw [hpc]
      nofun
    · exact Nat.le_succ _
    · exact fun x hx => Or.inl hx
    · exact fun k hk => Function.update_of_ne (Nat.ne_of_lt hk) _ _
  | attach t =>
    apply h.move ha rfl
    · exact not_writing hg.1 rfl
    · show (s.tx t).pc ≠ .notify
      rw [hg.1]
      nofun
    · exact Nat.le_refl _
    · exact fun x hx => Or.inl hx
    · exact fun _ _ => rfl
  | acquireFail t =>
    exact h.move ha rfl rfl nofun (Nat.le_refl _) (fun x hx => Or.inl hx) fun _ _ => rfl
  | wroteNum t =>
    exact h.move ha rfl rfl nofun (Nat.le_refl _) (fun x hx => Or.inl hx) fun _ _ => rfl
  | tryLockForWrite t => exact content_tryLockForWrite ha hlock h hg
  | tryLockForWriteFail t =>
    have hpc : (s.tx t).pc = .tryLockForWrite := hg
    apply h.move ha rfl
    · exact not_writing hpc rfl
    · show (s.tx t).pc ≠ .notify
      rw [hpc]
      nofun
    · exact Nat.le_refl _
    · exact fun x hx => Or.inl hx
    · exact fun _ _ => rfl
  | increaseWroteNum t =>
    exact content_work ha hlock h hg rfl nofun nofun rfl rfl rfl rfl rfl rfl (fun _ _ => rfl) nofun
  | serialize t =>
    exact content_work ha hlock h hg rfl nofun nofun rfl rfl rfl rfl rfl rfl
      (fun i hi => Function.update_of_ne hi _ _) fun _ => Function.update_self _ _ _
  | serializeFail t =>
    exact content_work ha hlock h hg rfl nofun nofun rfl rfl rfl rfl rfl rfl (fun _ _ => rfl) nofun
  | releaseWrittenBlock t => exact content_releaseWrittenBlock ha hlock h hg
  | releaseFailed t =>
    exact content_release ha hlock h hg rfl nofun nofun rfl rfl rfl rfl rfl rfl rfl nofun
  | notify t =>
    apply h.move ha
    · rfl
    · rfl
    · nofun
    · exact Nat.le_refl _
    · intro x hx
      obtain hx | hx := List.mem_append.mp hx
      · exact Or.inl hx
      · exact Or.inr ⟨hg, List.mem_singleton.mp hx⟩
    · exact fun _ _ => rfl
  | listen d => exact h.read rfl rfl rfl fun _ => ⟨rfl, rfl⟩
  | attachRead d => exact h.read rfl rfl rfl fun _ => ⟨rfl, rfl⟩
  | checkIndex d => exact h.read rfl rfl rfl fun _ => ⟨rfl, rfl⟩
  | acquireReadFail d => exact h.read rfl rfl rfl fun _ => ⟨rfl, rfl⟩
  | tryLockForRead d | lockBehind d => exact h.read rfl rfl rfl (content_setSeg _ _ rfl rfl)
  | onMessage d => exact h.read rfl rfl rfl fun _ => ⟨rfl, rfl⟩
  | releaseReadBlock d => exact h.read rfl rfl rfl (content_setSeg _ _ rfl rfl)

end contentSteps

end CyberRT.Transport.Delivery
