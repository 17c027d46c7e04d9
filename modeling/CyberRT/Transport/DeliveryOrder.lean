import CyberRT.Transport.DeliveryBlocks

/-! # What the dispatcher hands over

    A block index does not tell which write of the block is meant, so a
    block written again before the dispatcher comes to it is handed over in
    place of the message announced, and again when its own announcement is
    due. What holds in every run is this: the hand-overs whose block was
    not locked for writing since its announcement, and not changed by a lock
    behind the blocks of a smaller segment, deliver the messages announced,
    each once, and those of one transmitter in order. -/

namespace CyberRT.Transport.Delivery

open CyberRT.Framework CyberRT.Transport.Shm

variable {Tid Did : Type}

/-! ## Section 1: Announcements -/

/-- The messages of one transmitter are announced in order. -/
structure OrderInv (s : State Tid Did) : Prop where
  seq_lt : ∀ x ∈ s.announced, x.message.seq < (s.tx x.message.transmitter).seq
  order  : s.announced.Pairwise fun x y =>
    x.message.transmitter = y.message.transmitter → x.message.seq < y.message.seq

section order
variable {s s' : State Tid Did}

theorem OrderInv.congr (h : OrderInv s) (hannounced : s'.announced = s.announced)
    (hseq : ∀ t, (s.tx t).seq ≤ (s'.tx t).seq) : OrderInv s' := by
  refine ⟨?_, by rw [hannounced]; exact h.order⟩
  intro x hx
  rw [hannounced] at hx
  exact Nat.lt_of_lt_of_le (h.seq_lt x hx) (hseq _)

variable [DecidableEq Tid]

/-- Moving one transmitter never takes its counter back. -/
theorem seq_le_update {t : Tid} {l : Transmitter} (hl : (s.tx t).seq ≤ l.seq) (u : Tid) :
    (s.tx u).seq ≤ (Function.update s.tx t l u).seq := by
  by_cases hu : u = t
  · rw [hu, Function.update_self]
    exact hl
  · rw [Function.update_of_ne hu]

variable [DecidableEq Did]

/-- The next announcement of a transmitter carries its counter. -/
theorem order_notify {t : Tid} (h : OrderInv s) :
    OrderInv ((delivery.action (.notify t)).effect s) := by
  have hmono : ∀ u, (s.tx u).seq ≤ (((delivery.action (.notify t)).effect s).tx u).seq :=
    seq_le_update (Nat.le_succ _)
  refine ⟨?_, ?_⟩
  · intro x hx
    obtain hx | hx := List.mem_append.mp hx
    · exact Nat.lt_of_lt_of_le (h.seq_lt x hx) (hmono _)
    · obtain rfl := List.mem_singleton.mp hx
      show (s.tx t).seq < (Function.update s.tx t _ t).seq
      rw [Function.update_self]
      exact Nat.lt_succ_self _
  · show (s.announced ++ [s.info t]).Pairwise _
    rw [List.pairwise_append]
    refine ⟨h.order, List.pairwise_singleton _ _, ?_⟩
    intro x hx y hy htransmitter
    obtain rfl := List.mem_singleton.mp hy
    have hlt := h.seq_lt x hx
    rw [htransmitter] at hlt
    exact hlt

/-- **Step lemma**, announcements. -/
theorem order_step (a : Label Tid Did) (h : OrderInv s) (hg : (delivery.action a).gate s) :
    OrderInv ((delivery.action a).effect s) := by
  cases a with
  | notify t => exact order_notify h
  | acquireFail t | releaseFailed t => exact h.congr rfl (seq_le_update (Nat.le_succ _))
  | transmit t | create t msgSize | attach t | wroteNum t | tryLockForWrite t
  | tryLockForWriteFail t | increaseWroteNum t | serialize t | serializeFail t
  | releaseWrittenBlock t => exact h.congr rfl (seq_le_update (Nat.le_refl _))
  | listen d | attachRead d | checkIndex d | acquireReadFail d | tryLockForRead d | lockBehind d
  | onMessage d | releaseReadBlock d => exact h.congr rfl fun _ => Nat.le_refl _

end order

/-! ## Section 2: Dispatchers -/

/-- A dispatcher goes through the announcements in order. -/
structure DispatchInv (s : State Tid Did) (d : Did) : Prop where
  queue   : s.announced = s.done d ++ (s.rx d).info.toList ++ s.queue d
  none    : (s.rx d).pc = .listen ∨ (s.rx d).pc = .releaseReadBlock → (s.rx d).info = none
  index   : (s.rx d).pc = .tryLockForRead ∨ (s.rx d).pc = .onMessage →
    ∀ x ∈ (s.rx d).info, (s.rx d).index = x.blockIndex
  handed  : ((s.handedOver d).map (·.info)).Sublist (s.done d)
  current : ∀ h ∈ s.handedOver d, h.current = true → h.message = h.info.message

section dispatch
variable {s s' : State Tid Did} {d : Did}

theorem DispatchInv.congr (h : DispatchInv s d) (hannounced : s'.announced = s.announced)
    (hrx : s'.rx d = s.rx d) (hqueue : s'.queue d = s.queue d) (hdone : s'.done d = s.done d)
    (hhanded : s'.handedOver d = s.handedOver d) : DispatchInv s' d := by
  obtain ⟨hq, hnone, hindex, hh, hcurrent⟩ := h
  refine ⟨?_, ?_, ?_, ?_, ?_⟩
  · rw [hannounced, hrx, hqueue, hdone]
    exact hq
  · rw [hrx]
    exact hnone
  · rw [hrx]
    exact hindex
  · rw [hhanded, hdone]
    exact hh
  · rw [hhanded]
    exact hcurrent

/-- The dispatcher is through with an announcement and hands over `handed`. -/
theorem dispatch_done {l : Dispatcher Tid} {handed : List (HandOver Tid)}
    (h : DispatchInv s d) (hrx : s'.rx d = l) (hinfo : l.info = none)
    (hpc : l.pc ≠ .tryLockForRead ∧ l.pc ≠ .onMessage) (hannounced : s'.announced = s.announced)
    (hqueue : s'.queue d = s.queue d) (hdone : s'.done d = s.done d ++ (s.rx d).info.toList)
    (hhanded : s'.handedOver d = s.handedOver d ++ handed)
    (hsub : (handed.map (·.info)).Sublist (s.rx d).info.toList)
    (hcurrent : ∀ o ∈ handed, o.current = true → o.message = o.info.message) :
    DispatchInv s' d := by
  refine ⟨?_, ?_, ?_, ?_, ?_⟩
  · -- the announcement goes from `info` to the end of `done`
    rw [hannounced, hdone, hrx, hinfo, hqueue, h.queue]
    simp
  · rw [hrx]
    exact fun _ => hinfo
  · rw [hrx]
    intro hor
    exact (hor.elim hpc.1 hpc.2).elim
  · rw [hhanded, hdone, List.map_append]
    exact h.handed.append hsub
  · intro o ho
    rw [hhanded] at ho
    obtain ho | ho := List.mem_append.mp ho
    · exact h.current o ho
    · exact hcurrent o ho

/-- A dispatcher moves and stays with its announcement. -/
theorem dispatch_move {l : Dispatcher Tid} {pc : RxPc} (h : DispatchInv s d) (hrx : s'.rx d = l)
    (hpc : l.pc = pc) (hinfo : l.info = (s.rx d).info)
    (hnone : pc = .listen ∨ pc = .releaseReadBlock → (s.rx d).info = none)
    (hindex : pc = .tryLockForRead ∨ pc = .onMessage →
      ∀ x ∈ (s.rx d).info, l.index = x.blockIndex)
    (hannounced : s'.announced = s.announced) (hqueue : s'.queue d = s.queue d)
    (hdone : s'.done d = s.done d) (hhanded : s'.handedOver d = s.handedOver d) :
    DispatchInv s' d := by
  refine ⟨?_, ?_, ?_, ?_, ?_⟩
  · rw [hannounced, hrx, hinfo, hqueue, hdone]
    exact h.queue
  · rw [hrx, hinfo, hpc]
    exact hnone
  · rw [hrx, hinfo, hpc]
    exact hindex
  · rw [hhanded, hdone]
    exact h.handed
  · rw [hhanded]
    exact h.current

variable [DecidableEq Tid] [DecidableEq Did]

theorem dispatch_notify {t : Tid} (h : DispatchInv s d) :
    DispatchInv ((delivery.action (.notify t)).effect s) d := by
  refine ⟨?_, h.none, h.index, h.handed, h.current⟩
  show s.announced ++ [s.info t] = s.done d ++ (s.rx d).info.toList ++ (s.queue d ++ [s.info t])
  rw [← List.append_assoc, ← h.queue]

theorem dispatch_listen (h : DispatchInv s d) (hpc : (s.rx d).pc = .listen)
    (hqueue : s.queue d ≠ []) : DispatchInv ((delivery.action (.listen d)).effect s) d := by
  have hrx : ((delivery.action (.listen d)).effect s).rx d =
      { s.rx d with pc := .acquire, info := (s.queue d).head? } := Function.update_self _ _ _
  have htail : ((delivery.action (.listen d)).effect s).queue d = (s.queue d).tail :=
    Function.update_self _ _ _
  refine ⟨?_, ?_, ?_, h.handed, h.current⟩
  · rw [hrx, htail]
    show s.announced = s.done d ++ (s.queue d).head?.toList ++ (s.queue d).tail
    rw [h.queue, h.none (Or.inl hpc)]
    cases hq : s.queue d with
    | nil => exact absurd hq hqueue
    | cons x xs => simp
  · rw [hrx]
    intro hor
    obtain hpc | hpc := hor <;> cases hpc
  · rw [hrx]
    intro hor
    obtain hpc | hpc := hor <;> cases hpc

/-- What a dispatcher finds in a block that is current is the message
    announced. -/
theorem dispatch_onMessage (h : DispatchInv s d) (hcontent : ContentInv s)
    (hpc : (s.rx d).pc = .onMessage) :
    DispatchInv ((delivery.action (.onMessage d)).effect s) d := by
  apply dispatch_done h
  · exact Function.update_self _ _ _
  · rfl
  · exact ⟨nofun, nofun⟩
  · rfl
  · rfl
  · exact Function.update_self _ _ _
  · exact Function.update_self _ _ _
  · split
    · next hinfo _ =>
      rw [hinfo]
      exact List.Sublist.refl _
    · exact List.nil_sublist _
  · intro o ho hcurrent
    split at ho
    · next info message hinfo hmessage =>
      -- current means: the same segment, and no write to the block since the notification
      obtain rfl := List.mem_singleton.mp ho
      obtain ⟨hsame, _⟩ := Bool.and_eq_true_iff.mp hcurrent
      obtain ⟨hseg, hwrite⟩ := Bool.and_eq_true_iff.mp hsame
      have hseg := of_decide_eq_true hseg
      have hwrite := of_decide_eq_true hwrite
      have hindex := h.index (Or.inr hpc) info hinfo
      have hmem : info ∈ s.announced := by
        rw [h.queue, hinfo]
        simp
      obtain hover | ⟨_, hblock, _⟩ := (hcontent.announced info hmem).write
      · -- overtaken: then the block is not current
        rw [hseg, ← hindex, hwrite] at hover
        exact absurd hover (Nat.lt_irrefl _)
      · rw [hseg, ← hindex] at hblock
        exact Option.some.inj (hmessage.symm.trans hblock)
    · cases ho

/-- **Step lemma**, one dispatcher. -/
theorem DispatchInv.step {e : Did} (h : DispatchInv s e) (a : Label Tid Did)
    (hcontent : ContentInv s) (hg : (delivery.action a).gate s) :
    DispatchInv ((delivery.action a).effect s) e := by
  cases a with
  | notify t => exact dispatch_notify h
  -- the writers do not touch what a dispatcher has
  | transmit t | create t msgSize | attach t | acquireFail t | wroteNum t | tryLockForWrite t
  | tryLockForWriteFail t | increaseWroteNum t | serialize t | serializeFail t
  | releaseWrittenBlock t | releaseFailed t => exact h.congr rfl rfl rfl rfl rfl
  | listen d =>
    by_cases he : e = d
    · rw [he] at h ⊢
      exact dispatch_listen h hg.1 hg.2
    · exact h.congr rfl (Function.update_of_ne he _ _) (Function.update_of_ne he _ _) rfl rfl
  | attachRead d =>
    by_cases he : e = d
    · rw [he] at h ⊢
      have hrx : ((delivery.action (.attachRead d)).effect s).rx d =
          { s.rx d with seg := s.registered } := Function.update_self _ _ _
      obtain hpc | hpc := hg.1
      · exact dispatch_move h hrx hpc rfl nofun nofun rfl rfl rfl rfl
      · exact dispatch_move h hrx hpc rfl nofun (fun _ => h.index (Or.inl hpc)) rfl rfl rfl rfl
    · exact h.congr rfl (Function.update_of_ne he _ _) rfl rfl rfl
  | checkIndex d =>
    by_cases he : e = d
    · rw [he] at h ⊢
      apply dispatch_move h (Function.update_self _ _ _)
      · rfl
      · rfl
      · exact nofun
      · intro _ x hx
        have hinfo : (s.rx d).info = some x := hx
        show ((s.rx d).info.map (·.blockIndex)).getD 0 = x.blockIndex
        rw [hinfo]
        rfl
      · rfl
      · rfl
      · rfl
      · rfl
    · exact h.congr rfl (Function.update_of_ne he _ _) rfl rfl rfl
  | acquireReadFail d | lockBehind d =>
    by_cases he : e = d
    · rw [he] at h ⊢
      apply dispatch_done h
      · exact Function.update_self _ _ _
      · rfl
      · exact ⟨nofun, nofun⟩
      · rfl
      · rfl
      · exact Function.update_self _ _ _
      · exact (List.append_nil _).symm
      · exact List.nil_sublist _
      · exact nofun
    · exact h.congr rfl (Function.update_of_ne he _ _) rfl (Function.update_of_ne he _ _) rfl
  | tryLockForRead d =>
    by_cases he : e = d
    · rw [he] at h ⊢
      have hrx : ((delivery.action (.tryLockForRead d)).effect s).rx d =
          { s.rx d with pc := .onMessage } := Function.update_self _ _ _
      exact dispatch_move h hrx rfl rfl nofun (fun _ => h.index (Or.inl hg.1)) rfl rfl rfl
        rfl
    · exact h.congr rfl (Function.update_of_ne he _ _) rfl rfl rfl
  | onMessage d =>
    by_cases he : e = d
    · rw [he] at h ⊢
      exact dispatch_onMessage h hcontent hg
    · exact h.congr rfl (Function.update_of_ne he _ _) rfl (Function.update_of_ne he _ _)
        (Function.update_of_ne he _ _)
  | releaseReadBlock d =>
    by_cases he : e = d
    · rw [he] at h ⊢
      have hrx : ((delivery.action (.releaseReadBlock d)).effect s).rx d =
          { s.rx d with pc := .listen } := Function.update_self _ _ _
      exact dispatch_move h hrx rfl rfl (fun _ => h.none (Or.inr hg)) nofun rfl rfl rfl rfl
    · exact h.congr rfl (Function.update_of_ne he _ _) rfl rfl rfl

/-- **Step lemma**, dispatchers. -/
theorem dispatch_step (a : Label Tid Did) (hcontent : ContentInv s) (h : ∀ e, DispatchInv s e)
    (hg : (delivery.action a).gate s) (e : Did) : DispatchInv ((delivery.action a).effect s) e :=
  (h e).step a hcontent hg

end dispatch

/-! ## Section 3: Hand-overs -/

/-- What a dispatcher handed over out of blocks that were current. -/
def State.currentHandOvers (s : State Tid Did) (d : Did) : List (HandOver Tid) :=
  (s.handedOver d).filter (·.current)

/-- The hand-overs are duplicate-free and follow each transmitter's order. -/
structure InOrder (handed : List (HandOver Tid)) : Prop where
  nodup : (handed.map (·.message)).Nodup
  order : handed.Pairwise fun o o' =>
    o.message.transmitter = o'.message.transmitter → o.message.seq < o'.message.seq

/-- Hand-overs of announced messages, in the order of the announcements. -/
theorem inOrder_of_sublist {announced : List (ReadableInfo Tid)} {handed : List (HandOver Tid)}
    (horder : announced.Pairwise fun x y =>
      x.message.transmitter = y.message.transmitter → x.message.seq < y.message.seq)
    (hsub : (handed.map (·.info)).Sublist announced)
    (hmessage : ∀ o ∈ handed, o.message = o.info.message) : InOrder handed := by
  have hpairs : handed.Pairwise fun o o' =>
      o.message.transmitter = o'.message.transmitter → o.message.seq < o'.message.seq := by
    have hinfos := List.pairwise_map.mp (horder.sublist hsub)
    apply hinfos.imp_of_mem
    intro o o' ho ho' hlt
    rw [hmessage o ho, hmessage o' ho']
    exact hlt
  refine ⟨?_, hpairs⟩
  apply List.pairwise_map.mpr
  apply hpairs.imp
  intro o o' hlt heq
  rw [heq] at hlt
  exact Nat.lt_irrefl _ (hlt rfl)

section runs
variable [Fintype Tid] [Fintype Did] [DecidableEq Tid] [DecidableEq Did]

/-- The invariant of the channel. -/
structure Inv (s : State Tid Did) : Prop where
  attach   : AttachInv s
  lock     : LockInv s
  content  : ContentInv s
  order    : OrderInv s
  dispatch : ∀ d, DispatchInv s d

theorem inv_init (s : State Tid Did) (h : delivery.init s) : Inv s := by
  obtain ⟨hregistered, hlock, htx, hrx, hlists, hannounced⟩ := h
  refine ⟨⟨?_, ?_, ?_, ?_, ?_⟩, ?_, ⟨?_, ?_⟩, ⟨?_, ?_⟩, ?_⟩
  · rw [hregistered]
    exact nofun
  · intro t k hk
    rw [(htx t).2.1] at hk
    cases hk
  · intro d k hk
    rw [(hrx d).2.1] at hk
    cases hk
  · exact fun t hidle => absurd (htx t).1 hidle
  · exact fun d hlisten => absurd (hrx d).1 hlisten
  · intro k i
    -- nobody has a block, so every lock word is free
    have hreads : tally (Dispatcher.Reads k i) s.rx = 0 :=
      tally_eq_zero_iff.mpr fun d => not_reads (not_reading (hrx d).1 rfl) k i
    have hwrites : tally (Transmitter.Writes k i) s.tx = 0 :=
      tally_eq_zero_iff.mpr fun t => not_writes (not_writing (htx t).1 rfl) k i
    rw [hlock, hreads, hwrites]
    exact .free
  · rw [hannounced]
    exact nofun
  · intro t
    apply WriterInv.idle
    · exact not_writing (htx t).1 rfl
    · rw [(htx t).1]
      exact nofun
  · rw [hannounced]
    exact nofun
  · rw [hannounced]
    exact List.Pairwise.nil
  · intro d
    obtain ⟨hqueue, hdone, hhanded⟩ := hlists d
    refine ⟨?_, fun _ => (hrx d).2.2, ?_, ?_, ?_⟩
    · rw [hannounced, hdone, (hrx d).2.2, hqueue]
      rfl
    · intro _ x hx
      rw [(hrx d).2.2] at hx
      cases hx
    · rw [hhanded]
      exact List.nil_sublist _
    · rw [hhanded]
      exact nofun

/-- **Run lemma**. -/
theorem inv_reachable {s : State Tid Did} (h : delivery.Reachable s) : Inv s := by
  apply System.invariant _ _ h
  · exact inv_init
  · intro s a hinv hg
    exact ⟨attach_step a hinv.attach hg, lock_step a hinv.attach hinv.lock hg,
      content_step a hinv.attach hinv.lock hinv.content hg, order_step a hinv.order hg,
      dispatch_step a hinv.content hinv.dispatch hg⟩

/-- In every run the current hand-overs deliver the messages announced,
    each at most once and those of one transmitter in order; so does every
    hand-over as long as all of them are current. -/
theorem handedOver_inOrder {s : State Tid Did} (h : delivery.Reachable s) (d : Did) :
    (∀ o ∈ s.currentHandOvers d, o.message = o.info.message) ∧ InOrder (s.currentHandOvers d) ∧
    ((∀ o ∈ s.handedOver d, o.current = true) → InOrder (s.handedOver d)) := by
  have hinv := inv_reachable h
  have hd := hinv.dispatch d
  have hmessage : ∀ o ∈ s.currentHandOvers d, o.message = o.info.message := by
    intro o ho
    obtain ⟨hmem, hcurrent⟩ := List.mem_filter.mp ho
    exact hd.current o hmem hcurrent
  -- the infos handed over are a sublist of those announced, which are in order
  have hdone : (s.done d).Sublist s.announced := by
    rw [hd.queue, List.append_assoc]
    exact List.sublist_append_left _ _
  have hfilter : ((s.currentHandOvers d).map (·.info)).Sublist ((s.handedOver d).map (·.info)) :=
    List.filter_sublist.map _
  have hinOrder : InOrder (s.currentHandOvers d) :=
    inOrder_of_sublist hinv.order.order ((hfilter.trans hd.handed).trans hdone) hmessage
  refine ⟨hmessage, hinOrder, ?_⟩
  intro hall
  have hfilter_eq : s.currentHandOvers d = s.handedOver d := List.filter_eq_self.mpr hall
  rw [← hfilter_eq]
  exact hinOrder

/-- One transmitter sends one message and the dispatcher reads it. -/
def oneMessage : List (Label Unit Unit) :=
  [.transmit (), .create () 100, .wroteNum (), .tryLockForWrite (), .increaseWroteNum (),
   .serialize (), .releaseWrittenBlock (), .notify (), .listen (), .attachRead (), .checkIndex (),
   .tryLockForRead (), .onMessage (), .releaseReadBlock ()]

theorem handedOver_inOrder_oneMessage :
    (delivery.exec initial oneMessage).handedOver () = [⟨⟨0, ⟨(), 0⟩, 0, 1⟩, ⟨(), 0⟩, true, true⟩] ∧
    InOrder ((delivery.exec initial oneMessage).handedOver ()) := by
  have hhanded : (delivery.exec initial oneMessage).handedOver () =
      [⟨⟨0, ⟨(), 0⟩, 0, 1⟩, ⟨(), 0⟩, true, true⟩] := by decide +kernel
  refine ⟨hhanded, (handedOver_inOrder ?_ ()).2.2 ?_⟩
  · exact System.reachable_exec _ initial_init oneMessage (by decide +kernel)
  · rw [hhanded]
    decide

/-- Two transmitters load the same `wrote_num`: `false` writes block 0
    again right after `true` has announced it. -/
def sameBlock : List (Label Bool Unit) :=
  [.transmit false, .create false 100, .wroteNum false,
   .transmit true, .attach true, .wroteNum true, .tryLockForWrite true, .increaseWroteNum true,
   .serialize true, .releaseWrittenBlock true, .notify true,
   .tryLockForWrite false, .increaseWroteNum false, .serialize false, .releaseWrittenBlock false,
   .listen (), .attachRead (), .checkIndex (), .tryLockForRead (), .onMessage (),
   .releaseReadBlock (),
   .notify false, .listen (), .checkIndex (), .tryLockForRead (), .onMessage (),
   .releaseReadBlock ()]

/-- The second message is handed over for both announcements. -/
theorem handedOver_duplicate : ∃ s : State Bool Unit, delivery.Reachable s ∧
    (s.handedOver ()).map (·.message) = [⟨false, 0⟩, ⟨false, 0⟩] ∧ ¬ InOrder (s.handedOver ()) := by
  have hmessages : ((delivery.exec initial sameBlock).handedOver ()).map (·.message) =
      [⟨false, 0⟩, ⟨false, 0⟩] := by decide +kernel
  refine ⟨delivery.exec initial sameBlock, ?_, hmessages, ?_⟩
  · exact System.reachable_exec _ initial_init sameBlock (by decide +kernel)
  · intro h
    have hnodup := h.nodup
    rw [hmessages] at hnodup
    exact absurd hnodup (by decide)

end runs

end CyberRT.Transport.Delivery
