import CyberRT.Transport.Shm.NotifierOrder

/-! # Progress of the listener

    `Listen` waits for one number in one slot. Once every Notify call has
    returned, nobody will store that number any more: the call returns true
    if the number is in the slot now, and otherwise this one and every
    later call time out, however many notifications are unread. -/

namespace CyberRT.Transport.Shm.ConditionNotifier

open CyberRT.Framework

variable {Wid Nid : Type}

/-! ## Section 1: The property and the condition -/

/-- No Notify call is in progress. -/
def Quiet (s : State Wid Nid) : Prop := ∀ w, (s.writers w).pc = .idle

/-- Unread notifications, the listener between two calls and its object
    not shut down. -/
structure Unread (own : Nid) (s : State Wid Nid) : Prop where
  up      : s.isShutdown own = false
  between : s.listener.pc = .idle
  backlog : s.listener.nextSeq ≠ s.indicator.nextSeq

/-- The steps inside `Listen`. -/
def Label.listens : Label Wid Nid → Bool
  | .listenShutdown | .loopShutdown | .loadNextSeq | .loadSeqs | .copyInfo | .checkTimeout => true
  | _ => false

/-- A call `Listen(timeoutMs, &info)` from `s`, run alone until it returns. -/
def ListensAlone [DecidableEq Wid] [DecidableEq Nid] (own : Nid) (s : State Wid Nid)
    (timeoutMs : Int) (s' : State Wid Nid) : Prop :=
  ∃ as, (∀ a ∈ as, Label.listens a = true) ∧
    (conditionNotifier own).Run s (.callListen timeoutMs false :: as) s' ∧
    s'.listener.pc = .idle

/-- **Condition**: the last Notify call to store its number into the slot
    of `next_seq_` is the one that was given `next_seq_`. -/
def LastStored (s : State Wid Nid) : Prop :=
  ∃ t ∈ s.author (slot s.listener.nextSeq), UInt64.ofNat t = s.listener.nextSeq

/-! ## Section 2: What the slot holds -/

/-- The slot of `next_seq_` holds `next_seq_`. -/
def State.Readable (s : State Wid Nid) : Prop :=
  s.indicator.seqs (slot s.listener.nextSeq) = s.listener.nextSeq

instance (s : State Wid Nid) : Decidable s.Readable := inferInstanceAs (Decidable (_ = _))

/-- The zero of a fresh slot is not mistaken for a number when nobody is
    storing: number 0 was given to a Notify call that has returned. -/
theorem readable_iff_lastStored {own : Nid} {s : State Wid Nid} (h : Inv s) (hquiet : Quiet s)
    (hunread : Unread own s) : s.Readable ↔ LastStored s := by
  constructor
  · intro hread
    cases hauthor : s.author (slot s.listener.nextSeq) with
    | some t => exact ⟨t, hauthor, (h.seqs _ t hauthor).symm.trans hread⟩
    | none =>
      have hzero : s.listener.nextSeq = 0 := hread.symm.trans (h.notStored _ hauthor)
      have hpos : 0 < s.tickets.length := by
        rcases Nat.eq_zero_or_pos s.tickets.length with hlen | hpos
        · have hbacklog := hunread.backlog
          rw [hzero, h.nextSeq, hlen] at hbacklog
          exact absurd rfl hbacklog
        · exact hpos
      rw [hzero] at hauthor
      obtain ⟨w, hdrawn, _⟩ := h.numbered 0 hpos hauthor
      rw [hquiet w] at hdrawn
      cases hdrawn
  · intro hlast
    obtain ⟨t, hauthor, ht⟩ := hlast
    exact (h.seqs _ t hauthor).trans ht

/-! ## Section 3: One call -/

section call
variable [DecidableEq Wid] [DecidableEq Nid] {own : Nid}

/-- How far the call has come in state `x`, `s` being the state it was
    made in: the answer depends on what the slot holds in `s` only. -/
structure Listening (own : Nid) (s x : State Wid Nid) : Prop where
  indicator  : x.indicator = s.indicator
  isShutdown : x.isShutdown = s.isShutdown
  place      : match x.listener.pc with
    | .construct    => False
    | .idle         => x.listener.ret = some true ↔ s.Readable
    | .copyInfo     => x.listener.nextSeq = s.listener.nextSeq ∧ s.Readable
    | .checkTimeout => x.listener.nextSeq = s.listener.nextSeq ∧ ¬ s.Readable
    | _             => x.listener.nextSeq = s.listener.nextSeq

theorem Listening.step {s x : State Wid Nid} (hunread : Unread own s) (a : Label Wid Nid)
    (ha : a.listens = true) (h : Listening own s x)
    (hg : ((conditionNotifier own).action a).gate x) :
    Listening own s (((conditionNotifier own).action a).effect x) := by
  obtain ⟨hind, hshut, hplace⟩ := h
  have hup : x.isShutdown own = false := by
    rw [hshut]
    exact hunread.up
  cases a with
  | listenShutdown =>
    have hpc : x.listener.pc = .loadShutdown := hg
    rw [hpc] at hplace
    simp only [conditionNotifier, hup]
    exact ⟨hind, hshut, hplace⟩
  | loopShutdown =>
    have hpc : x.listener.pc = .loopShutdown := hg
    rw [hpc] at hplace
    simp only [conditionNotifier, hup]
    exact ⟨hind, hshut, hplace⟩
  | loadNextSeq =>
    have hpc : x.listener.pc = .loadNextSeq := hg
    rw [hpc] at hplace
    -- a notification is unread, so the call goes on to the slot
    have hne : x.indicator.nextSeq ≠ x.listener.nextSeq := by
      rw [hind, hplace]
      exact hunread.backlog.symm
    simp only [conditionNotifier, if_pos hne]
    exact ⟨hind, hshut, hplace⟩
  | loadSeqs =>
    have hpc : x.listener.pc = .loadSeqs := hg
    rw [hpc] at hplace
    have hread : x.Readable ↔ s.Readable := by
      unfold State.Readable
      rw [hind, hplace]
    simp only [conditionNotifier]
    split
    · next heq => exact ⟨hind, hshut, hplace, hread.mp heq⟩
    · next hne => exact ⟨hind, hshut, hplace, fun hs => hne (hread.mpr hs)⟩
  | copyInfo =>
    have hpc : x.listener.pc = .copyInfo := hg
    rw [hpc] at hplace
    exact ⟨hind, hshut, iff_of_true rfl hplace.2⟩
  | checkTimeout =>
    have hpc : x.listener.pc = .checkTimeout := hg
    rw [hpc] at hplace
    simp only [conditionNotifier]
    split
    · exact ⟨hind, hshut, hplace.1⟩
    · exact ⟨hind, hshut, iff_of_false (by simp [State.listenReturns]) hplace.2⟩
  | _ => cases ha

/-- **Run lemma**: what a call that has returned answers. -/
theorem listensAlone_ret {s s' : State Wid Nid} {timeoutMs : Int} (hunread : Unread own s)
    (h : ListensAlone own s timeoutMs s') : s'.listener.ret = some true ↔ s.Readable := by
  obtain ⟨as, hlistens, hrun, hidle⟩ := h
  cases hrun with
  | cons _ _ hcall hrun =>
    obtain ⟨_, rfl⟩ := hcall
    have hlast : Listening own s s' :=
      hrun.invariant (fun _ a => Listening.step hunread a) hlistens ⟨rfl, rfl, rfl⟩
    have hplace := hlast.place
    rw [hidle] at hplace
    exact hplace

/-! ## Section 4: The call returns -/

/-- The rest of a call: a run of its steps to the return. -/
def Returns (own : Nid) (x : State Wid Nid) : Prop :=
  ∃ as s', (∀ a ∈ as, Label.listens a = true) ∧ (conditionNotifier own).Run x as s' ∧
    s'.listener.pc = .idle

theorem Returns.cons {x : State Wid Nid} (a : Label Wid Nid) (ha : a.listens = true)
    (hg : ((conditionNotifier own).action a).gate x)
    (h : Returns own (((conditionNotifier own).action a).effect x)) : Returns own x := by
  obtain ⟨as, s', hlistens, hrun, hidle⟩ := h
  refine ⟨a :: as, s', ?_, .cons a as ⟨hg, rfl⟩ hrun, hidle⟩
  intro b hb
  rcases List.mem_cons.mp hb with hb | hb
  · rw [hb]
    exact ha
  · exact hlistens b hb

theorem returns_of_idle {x : State Wid Nid} (hpc : x.listener.pc = .idle) : Returns own x :=
  ⟨[], x, nofun, .nil x, hpc⟩

/-- One turn of the loop returns or comes to the check of the timeout. -/
theorem returns_of_turn {x : State Wid Nid} (hpc : x.listener.pc = .loopShutdown)
    (hrest : ∀ y : State Wid Nid, y.listener.pc = .checkTimeout →
      y.listener.timeoutUs = x.listener.timeoutUs → Returns own y) : Returns own x := by
  refine Returns.cons .loopShutdown rfl hpc ?_
  simp only [conditionNotifier]
  split
  · exact returns_of_idle rfl
  refine Returns.cons .loadNextSeq rfl rfl ?_
  simp only [conditionNotifier]
  split
  · refine Returns.cons .loadSeqs rfl rfl ?_
    simp only [conditionNotifier]
    split
    · refine Returns.cons .copyInfo rfl rfl ?_
      exact returns_of_idle rfl
    · exact hrest _ rfl rfl
  · exact hrest _ rfl rfl

/-- Each further turn takes 50 off `timeout_us`. -/
theorem returns_of_checkTimeout {n : Nat} {x : State Wid Nid}
    (hpc : x.listener.pc = .checkTimeout) (hn : x.listener.timeoutUs ≤ 50 * n) :
    Returns own x := by
  induction n generalizing x with
  | zero =>
    refine Returns.cons .checkTimeout rfl hpc ?_
    simp only [conditionNotifier]
    rw [if_neg (by omega)]
    exact returns_of_idle rfl
  | succ n ih =>
    refine Returns.cons .checkTimeout rfl hpc ?_
    simp only [conditionNotifier]
    -- a turn of the loop takes 50 microseconds off the time left
    split
    · apply returns_of_turn rfl
      intro y hy htimeout
      apply ih hy
      rw [htimeout]
      show x.listener.timeoutUs - 50 ≤ 50 * n
      omega
    · exact returns_of_idle rfl

theorem listensAlone_exists {s : State Wid Nid} (hidle : s.listener.pc = .idle)
    (timeoutMs : Int) : ∃ s', ListensAlone own s timeoutMs s' := by
  have hreturns : Returns own
      (((conditionNotifier own).action (.callListen timeoutMs false)).effect s) := by
    refine Returns.cons .listenShutdown rfl rfl ?_
    simp only [conditionNotifier, Bool.false_eq_true, if_false]
    split
    · exact returns_of_idle rfl
    · apply returns_of_turn rfl
      intro y hy _
      exact returns_of_checkTimeout hy (by omega : y.listener.timeoutUs ≤
        50 * (y.listener.timeoutUs.toNat : Nat))
  obtain ⟨as, s', hlistens, hrun, hend⟩ := hreturns
  exact ⟨s', as, hlistens, .cons _ as ⟨hidle, rfl⟩ hrun, hend⟩

/-- **Main result**: with no Notify call in progress, the next Listen call
    returns true exactly when the last number stored into the slot of
    `next_seq_` is `next_seq_`. -/
theorem listen_returnsTrue_iff {s : State Wid Nid} (h : (conditionNotifier own).Reachable s)
    (hquiet : Quiet s) (hunread : Unread own s) {timeoutMs : Int} (_ : 0 < timeoutMs) :
    (∃ s', ListensAlone own s timeoutMs s') ∧
      ∀ s', ListensAlone own s timeoutMs s' → (s'.listener.ret = some true ↔ LastStored s) := by
  refine ⟨listensAlone_exists hunread.between timeoutMs, ?_⟩
  intro s' hlisten
  exact (listensAlone_ret hunread hlisten).trans
    (readable_iff_lastStored (inv_reachable h) hquiet hunread)

end call

/-! ## Section 5: A backlog of more than a lap -/

/-- One Notify call of the only writer. -/
def notifyOnce : List (Label Unit Unit) :=
  [.callNotify () () .new, .loadShutdown (), .fetchAdd (), .storeInfo (), .storeSeq ()]

theorem listen_returnsTrue_oneMessage :
    (∃ s', ListensAlone ()
      ((conditionNotifier ()).exec initial (.construct :: notifyOnce)) 100 s') ∧
      ∀ s', ListensAlone ()
          ((conditionNotifier ()).exec initial (.construct :: notifyOnce)) 100 s' →
        (s'.listener.ret = some true ↔
          LastStored ((conditionNotifier ()).exec initial (.construct :: notifyOnce))) :=
  listen_returnsTrue_iff
    (System.reachable_exec (conditionNotifier ()) initial_init (.construct :: notifyOnce)
      (by decide +kernel))
    (fun _ => rfl) ⟨rfl, rfl, by decide +kernel⟩ (by decide)

/-- After `n` Notify calls, one after the other, none of them listened to. -/
structure Notified (n : Nat) (s : State Unit Unit) : Prop where
  reachable : (conditionNotifier ()).Reachable s
  quiet     : Quiet s
  up        : s.isShutdown () = false
  between   : s.listener.pc = .idle
  nextSeq   : s.listener.nextSeq = 0
  tickets   : s.tickets.length = n
  last      : ∀ k, n = k + 1 → s.author (k % 4096) = some k

theorem notified_zero : ∃ s, Notified 0 s :=
  ⟨_, .step .construct (.init initial_init) ⟨rfl, rfl⟩, fun _ => rfl, rfl, rfl, rfl, rfl, nofun⟩

theorem notified_succ {n : Nat} {s : State Unit Unit} (h : Notified n s) :
    ∃ s', Notified (n + 1) s' := by
  have hnum : s.indicator.nextSeq = .ofNat n := by
    rw [(inv_reachable h.reachable).nextSeq, h.tickets]
  let x : Writer Unit := { s.writers () with
    pc := .loadShutdown, notifier := (), info := .new, ret := none }
  let s₁ := (s.setWriter () x).setWriter () { x with pc := .fetchAdd }
  have hreach : (conditionNotifier ()).Reachable s₁ := by
    have hcall := h.reachable.step (Label.callNotify () () .new) ⟨h.quiet (), rfl⟩
    refine hcall.step (Label.loadShutdown ()) ⟨rfl, ?_⟩
    show s₁ = if s.isShutdown () then _ else s₁
    rw [h.up]
    rfl
  -- the rest of the `Notify` call, step by step
  have hdrawn := hreach.step (Label.fetchAdd ()) ⟨rfl, rfl⟩
  have hinfo := hdrawn.step (Label.storeInfo ()) ⟨rfl, rfl⟩
  refine ⟨_, hinfo.step (Label.storeSeq ()) ⟨rfl, rfl⟩, fun _ => rfl, h.up, h.between, h.nextSeq,
    ?_, ?_⟩
  · show (s.tickets ++ [_]).length = n + 1
    rw [List.length_append, h.tickets]
    rfl
  · intro k hk
    obtain rfl : n = k := Nat.succ.inj hk
    show Function.update s.author (slot s.indicator.nextSeq) (some s.tickets.length) (n % 4096) = _
    rw [hnum, slot_ofNat, Function.update_self, h.tickets]

theorem notified (n : Nat) : ∃ s, Notified n s := by
  induction n with
  | zero => exact notified_zero
  | succ n ih =>
    obtain ⟨s, h⟩ := ih
    exact notified_succ h

/-- Number 4096 has replaced number 0 in slot 0, and the listener waits
    for number 0 for good. -/
theorem listen_stuck :
    ¬ ∀ (s : State Unit Unit), (conditionNotifier ()).Reachable s → Quiet s → Unread () s →
      ∀ timeoutMs, 0 < timeoutMs → ∀ s', ListensAlone () s timeoutMs s' →
        s'.listener.ret = some true := by
  intro hall
  obtain ⟨s, h⟩ := notified 4097
  have hbacklog : s.listener.nextSeq ≠ s.indicator.nextSeq := by
    rw [h.nextSeq, (inv_reachable h.reachable).nextSeq, h.tickets]
    decide
  have hunread : Unread () s := ⟨h.up, h.between, hbacklog⟩
  obtain ⟨s', hlisten⟩ : ∃ s', ListensAlone () s 100 s' := listensAlone_exists h.between 100
  have hret := hall s h.reachable h.quiet hunread 100 (by decide) s' hlisten
  have hread := (listensAlone_ret hunread hlisten).mp hret
  obtain ⟨t, hauthor, ht⟩ :=
    (readable_iff_lastStored (inv_reachable h.reachable) h.quiet hunread).mp hread
  -- the listener looks into slot 0, where number 4096 now stands
  have hslot : slot s.listener.nextSeq = 4096 % 4096 := by
    rw [h.nextSeq]
    decide
  rw [hslot, h.last 4096 rfl] at hauthor
  cases hauthor
  rw [h.nextSeq] at ht
  exact absurd ht (by decide)

end CyberRT.Transport.Shm.ConditionNotifier
