import CyberRT.Transport.Shm.ConditionNotifier

/-! # Order of the notifications

    Two stores publish one notification, and the number alone says that the
    slot can be read. So `Listen` returns what it should as long as the info
    in the slot comes from the Notify call that stored the number: not
    from one a lap ahead or a lap behind, and not from nobody (a fresh
    slot 0 already holds the number 0). -/

namespace CyberRT.Transport.Shm.ConditionNotifier

open CyberRT.Framework

variable {Wid Nid : Type}

/-! ## Section 1: The property and the condition -/

/-- The Listen calls that returned true gave out, from number `start` on,
    what the Notify calls were given. -/
def ListenedInOrder (s : State Wid Nid) : Prop :=
  ∀ k info, s.returned[k]? = some info → s.tickets[s.start + k]? = some info

/-- The ticket of the notification `Listen` waits for. -/
def State.awaited (s : State Wid Nid) : Nat := s.start + s.returned.length

/-- **Condition** on a step: the test of a slot succeeds only when the info
    and the number there were last stored by the same Notify call, fewer
    than 2^64 notifications away, and no info is stored into the slot
    between the test and the copy. -/
def StoredTogether (s : State Wid Nid) : Label Wid Nid → Prop
  | .loadSeqs =>
    s.indicator.seqs (slot s.listener.nextSeq) = s.listener.nextSeq →
      ∃ t ∈ s.author (slot s.listener.nextSeq), s.infoAuthor (slot s.listener.nextSeq) = some t ∧
        t < s.awaited + 2 ^ 64 ∧ s.awaited < t + 2 ^ 64
  | .storeInfo w =>
    s.listener.pc = .copyInfo → slot s.listener.nextSeq ≠ slot (s.writers w).seq
  | _ => True

instance (s : State Wid Nid) (a : Label Wid Nid) : Decidable (StoredTogether s a) := by
  unfold StoredTogether
  split <;> infer_instance

/-! ## Section 2: What the numbers say -/

/-- The thread has a number and has not stored it yet. -/
def NotifyPc.drawn : NotifyPc → Bool
  | .storeInfo | .storeSeq => true
  | _ => false

/-- The thread's ticket, number and info belong together. -/
structure Writer.Drawn (tickets : List ReadableInfo) (x : Writer Nid) : Prop where
  seq  : x.seq = .ofNat x.ticket
  info : tickets[x.ticket]? = some x.info

/-- **Invariant**: the history variables describe the indicator. -/
structure Inv (s : State Wid Nid) : Prop where
  nextSeq   : s.indicator.nextSeq = .ofNat s.tickets.length
  drawn     : ∀ w, (s.writers w).pc.drawn = true → (s.writers w).Drawn s.tickets
  infos     : ∀ i t, s.infoAuthor i = some t → s.tickets[t]? = some (s.indicator.infos i)
  seqs      : ∀ i t, s.author i = some t → s.indicator.seqs i = .ofNat t
  notStored : ∀ i, s.author i = none → s.indicator.seqs i = 0
  numbered  : ∀ t, t < s.tickets.length → s.author (t % 4096) = none →
    ∃ w, (s.writers w).pc.drawn = true ∧ (s.writers w).ticket = t
  construct : s.listener.pc = .construct → s.returned = []
  listening : s.listener.pc ≠ .construct → s.listener.nextSeq = .ofNat s.awaited

theorem inv_init [DecidableEq Wid] [DecidableEq Nid] {own : Nid} {s : State Wid Nid}
    (hi : (conditionNotifier own).init s) : Inv s := by
  obtain ⟨hind, _, hwriters, hlisten, htickets, hinfo, hauthor, hreturned⟩ := hi
  refine ⟨?_, ?_, ?_, ?_, ?_, ?_, fun _ => hreturned, fun hne => absurd hlisten hne⟩
  · rw [hind, htickets]
    rfl
  · intro w hdrawn
    rw [hwriters] at hdrawn
    cases hdrawn
  · intro i t ht
    rw [hinfo] at ht
    cases ht
  · intro i t ht
    rw [hauthor] at ht
    cases ht
  · intro i _
    rw [hind]
    rfl
  · intro t ht
    rw [htickets] at ht
    cases ht

/-! ## Section 3: Steps of a writer -/

/-- The pair still belongs together when another ticket is given out. -/
theorem Writer.Drawn.append {tickets : List ReadableInfo} {x : Writer Nid} (h : x.Drawn tickets)
    (info : ReadableInfo) : x.Drawn (tickets ++ [info]) := by
  refine ⟨h.seq, ?_⟩
  have hlt : x.ticket < tickets.length := (List.getElem?_eq_some_iff.mp h.info).1
  rw [List.getElem?_append_left hlt]
  exact h.info

section writers
variable [DecidableEq Wid] {s : State Wid Nid}

/-- A writer that moves without a number and without taking one. -/
theorem Inv.setWriter (h : Inv s) {w : Wid} {x : Writer Nid}
    (hold : (s.writers w).pc.drawn = false) (hnew : x.pc.drawn = false) :
    Inv (s.setWriter w x) := by
  refine ⟨h.nextSeq, ?_, h.infos, h.seqs, h.notStored, ?_, h.construct, h.listening⟩
  · intro v hv
    by_cases hvw : v = w
    · subst hvw
      simp only [State.setWriter, Function.update_self] at hv
      rw [hnew] at hv
      cases hv
    · simp only [State.setWriter, Function.update_of_ne hvw] at hv ⊢
      exact h.drawn v hv
  · intro t ht hnone
    obtain ⟨v, hv, hticket⟩ := h.numbered t ht hnone
    have hvw : v ≠ w := by
      intro heq
      rw [heq, hold] at hv
      cases hv
    refine ⟨v, ?_⟩
    simp only [State.setWriter, Function.update_of_ne hvw]
    exact ⟨hv, hticket⟩

variable [DecidableEq Nid]

theorem Inv.fetchAdd (h : Inv s) {own : Nid} {w : Wid} (hpc : (s.writers w).pc = .fetchAdd) :
    Inv (((conditionNotifier own).action (.fetchAdd w)).effect s) := by
  refine ⟨?_, ?_, ?_, h.seqs, h.notStored, ?_, h.construct, h.listening⟩
  · show s.indicator.nextSeq + 1 = .ofNat (s.tickets ++ [(s.writers w).info]).length
    rw [h.nextSeq, List.length_append, UInt64.ofNat_add]
    rfl
  · intro v hv
    show ((Function.update s.writers w _) v).Drawn (s.tickets ++ [(s.writers w).info])
    by_cases hvw : v = w
    · subst hvw
      rw [Function.update_self]
      exact ⟨h.nextSeq, List.getElem?_concat_length⟩
    · have hv' : ((Function.update s.writers w _) v).pc.drawn = true := hv
      rw [Function.update_of_ne hvw] at hv' ⊢
      exact (h.drawn v hv').append _
  · intro i t ht
    have hinfo := h.infos i t ht
    have hlt : t < s.tickets.length := (List.getElem?_eq_some_iff.mp hinfo).1
    show (s.tickets ++ [(s.writers w).info])[t]? = _
    rw [List.getElem?_append_left hlt]
    exact hinfo
  · intro t ht hnone
    have hlen : t < (s.tickets ++ [(s.writers w).info]).length := ht
    rw [List.length_append, List.length_singleton] at hlen
    by_cases hlt : t < s.tickets.length
    · -- an older ticket is held by another writer
      obtain ⟨v, hv, hticket⟩ := h.numbered t hlt hnone
      have hvw : v ≠ w := by
        intro heq
        rw [heq, hpc] at hv
        cases hv
      refine ⟨v, ?_⟩
      show ((Function.update s.writers w _) v).pc.drawn = true ∧
        ((Function.update s.writers w _) v).ticket = t
      rw [Function.update_of_ne hvw]
      exact ⟨hv, hticket⟩
    · refine ⟨w, ?_⟩
      show ((Function.update s.writers w _) w).pc.drawn = true ∧
        ((Function.update s.writers w _) w).ticket = t
      rw [Function.update_self]
      exact ⟨rfl, by show s.tickets.length = t; omega⟩

theorem Inv.storeInfo (h : Inv s) {own : Nid} {w : Wid} (hpc : (s.writers w).pc = .storeInfo) :
    Inv (((conditionNotifier own).action (.storeInfo w)).effect s) := by
  have hw : (s.writers w).Drawn s.tickets := h.drawn w (by rw [hpc]; rfl)
  refine ⟨h.nextSeq, ?_, ?_, h.seqs, h.notStored, ?_, h.construct, h.listening⟩
  · intro v hv
    show ((Function.update s.writers w _) v).Drawn s.tickets
    by_cases hvw : v = w
    · subst hvw
      rw [Function.update_self]
      exact ⟨hw.seq, hw.info⟩
    · have hv' : ((Function.update s.writers w _) v).pc.drawn = true := hv
      rw [Function.update_of_ne hvw] at hv' ⊢
      exact h.drawn v hv'
  · intro i t ht
    have ht' : Function.update s.infoAuthor (slot (s.writers w).seq) (some (s.writers w).ticket) i =
      some t := ht
    show s.tickets[t]? =
      some (Function.update s.indicator.infos (slot (s.writers w).seq) (s.writers w).info i)
    by_cases hi : i = slot (s.writers w).seq
    · subst hi
      rw [Function.update_self] at ht' ⊢
      cases ht'
      exact hw.info
    · rw [Function.update_of_ne hi] at ht' ⊢
      exact h.infos i t ht'
  · intro t ht hnone
    obtain ⟨v, hv, hticket⟩ := h.numbered t ht hnone
    refine ⟨v, ?_⟩
    show ((Function.update s.writers w _) v).pc.drawn = true ∧
      ((Function.update s.writers w _) v).ticket = t
    by_cases hvw : v = w
    · subst hvw
      rw [Function.update_self]
      exact ⟨rfl, hticket⟩
    · rw [Function.update_of_ne hvw]
      exact ⟨hv, hticket⟩

theorem Inv.storeSeq (h : Inv s) {own : Nid} {w : Wid} (hpc : (s.writers w).pc = .storeSeq) :
    Inv (((conditionNotifier own).action (.storeSeq w)).effect s) := by
  have hw : (s.writers w).Drawn s.tickets := h.drawn w (by rw [hpc]; rfl)
  refine ⟨h.nextSeq, ?_, h.infos, ?_, ?_, ?_, h.construct, h.listening⟩
  · intro v hv
    have hv' : ((Function.update s.writers w _) v).pc.drawn = true := hv
    show ((Function.update s.writers w _) v).Drawn s.tickets
    by_cases hvw : v = w
    · subst hvw
      rw [Function.update_self] at hv'
      cases hv'
    · rw [Function.update_of_ne hvw] at hv' ⊢
      exact h.drawn v hv'
  · intro i t ht
    have ht' : Function.update s.author (slot (s.writers w).seq) (some (s.writers w).ticket) i =
      some t := ht
    show Function.update s.indicator.seqs (slot (s.writers w).seq) (s.writers w).seq i = .ofNat t
    by_cases hi : i = slot (s.writers w).seq
    · subst hi
      rw [Function.update_self] at ht' ⊢
      cases ht'
      exact hw.seq
    · rw [Function.update_of_ne hi] at ht' ⊢
      exact h.seqs i t ht'
  · intro i hnone
    have hnone' : Function.update s.author (slot (s.writers w).seq) (some (s.writers w).ticket) i =
      none := hnone
    show Function.update s.indicator.seqs (slot (s.writers w).seq) (s.writers w).seq i = 0
    by_cases hi : i = slot (s.writers w).seq
    · subst hi
      rw [Function.update_self] at hnone'
      cases hnone'
    · rw [Function.update_of_ne hi] at hnone' ⊢
      exact h.notStored i hnone'
  · intro t ht hnone
    have hnone' : Function.update s.author (slot (s.writers w).seq) (some (s.writers w).ticket)
      (t % 4096) = none := hnone
    -- the writer's own slot has an author now
    have hi : t % 4096 ≠ slot (s.writers w).seq := by
      intro heq
      rw [heq, Function.update_self] at hnone'
      cases hnone'
    rw [Function.update_of_ne hi] at hnone'
    obtain ⟨v, hv, hticket⟩ := h.numbered t ht hnone'
    have hvw : v ≠ w := by
      intro heq
      subst heq
      apply hi
      rw [hw.seq, slot_ofNat, hticket]
    refine ⟨v, ?_⟩
    show ((Function.update s.writers w _) v).pc.drawn = true ∧
      ((Function.update s.writers w _) v).ticket = t
    rw [Function.update_of_ne hvw]
    exact ⟨hv, hticket⟩

end writers

/-! ## Section 4: Steps of the listener -/

section listener
variable {s : State Wid Nid}

/-- The listener moves and takes nothing. -/
theorem Inv.setListener (h : Inv s) {l : Listener}
    (hold : s.listener.pc ≠ .construct) (hnew : l.pc ≠ .construct)
    (hseq : l.nextSeq = s.listener.nextSeq) : Inv { s with listener := l } := by
  refine ⟨h.nextSeq, h.drawn, h.infos, h.seqs, h.notStored, h.numbered, ?_, ?_⟩
  · intro hl
    exact absurd hl hnew
  · intro _
    exact hseq.trans (h.listening hold)

variable [DecidableEq Wid] [DecidableEq Nid] {own : Nid}

theorem Inv.copyInfo (h : Inv s) (hpc : s.listener.pc = .copyInfo) :
    Inv (((conditionNotifier own).action .copyInfo).effect s) := by
  have hne : s.listener.pc ≠ .construct := by
    rw [hpc]
    nofun
  refine ⟨h.nextSeq, h.drawn, h.infos, h.seqs, h.notStored, h.numbered, nofun, fun _ => ?_⟩
  show s.listener.nextSeq + 1 = .ofNat (s.start + (s.returned ++ [_]).length)
  rw [h.listening hne, List.length_append, ← Nat.add_assoc, UInt64.ofNat_add]
  rfl

/-- **Step lemma**. -/
theorem Inv.step (a : Label Wid Nid) (h : Inv s)
    (hg : ((conditionNotifier own).action a).gate s) :
    Inv (((conditionNotifier own).action a).effect s) := by
  have hlisten {pc : ListenPc} (hpc : s.listener.pc = pc) (hne : pc ≠ .construct) :
      s.listener.pc ≠ .construct := by
    rw [hpc]
    exact hne
  cases a with
  | callNotify w n info =>
    have hpc : (s.writers w).pc = .idle := hg
    exact h.setWriter (by rw [hpc]; rfl) rfl
  | loadShutdown w =>
    have hpc : (s.writers w).pc = .loadShutdown := hg
    dsimp only [conditionNotifier]
    split
    · exact h.setWriter (by rw [hpc]; rfl) rfl
    · exact h.setWriter (by rw [hpc]; rfl) rfl
  | fetchAdd w => exact h.fetchAdd hg
  | storeInfo w => exact h.storeInfo hg
  | storeSeq w => exact h.storeSeq hg
  | shutdown n =>
    exact ⟨h.nextSeq, h.drawn, h.infos, h.seqs, h.notStored, h.numbered, h.construct, h.listening⟩
  | construct =>
    -- nothing was returned before the listener's object exists
    have hnil := h.construct hg
    refine ⟨h.nextSeq, h.drawn, h.infos, h.seqs, h.notStored, h.numbered, nofun, fun _ => ?_⟩
    show s.indicator.nextSeq = .ofNat (s.tickets.length + s.returned.length)
    rw [hnil]
    exact h.nextSeq
  | callListen timeoutMs infoIsNull =>
    have hne := hlisten hg nofun
    dsimp only [conditionNotifier]
    split
    · exact h.setListener hne nofun rfl
    · exact h.setListener hne nofun rfl
  | listenShutdown =>
    have hne := hlisten hg nofun
    dsimp only [conditionNotifier]
    split
    · exact h.setListener hne nofun rfl
    · exact h.setListener hne nofun rfl
  | loopShutdown =>
    have hne := hlisten hg nofun
    dsimp only [conditionNotifier]
    split
    · exact h.setListener hne nofun rfl
    · exact h.setListener hne nofun rfl
  | loadNextSeq =>
    have hne := hlisten hg nofun
    dsimp only [conditionNotifier]
    split
    · exact h.setListener hne nofun rfl
    · exact h.setListener hne nofun rfl
  | loadSeqs =>
    have hne := hlisten hg nofun
    dsimp only [conditionNotifier]
    split
    · exact h.setListener hne nofun rfl
    · exact h.setListener hne nofun rfl
  | copyInfo => exact h.copyInfo hg
  | checkTimeout =>
    have hne := hlisten hg nofun
    dsimp only [conditionNotifier]
    split
    · exact h.setListener hne nofun rfl
    · exact h.setListener hne nofun rfl

/-- **Run lemma**. -/
theorem inv_reachable (h : (conditionNotifier own).Reachable s) :
    Inv s :=
  System.invariant (fun _ => inv_init) (fun _ => Inv.step) h

end listener

/-! ## Section 5: In order -/

section inOrder
variable {s : State Wid Nid}

/-- **Invariant** of the runs that meet the condition. -/
structure Ordered (s : State Wid Nid) : Prop where
  listened : ListenedInOrder s
  copying  : s.listener.pc = .copyInfo →
    s.infoAuthor (slot s.listener.nextSeq) = some s.awaited

/-- The listener moves, but not to the copy, and takes nothing. -/
theorem Ordered.setListener (h : Ordered s) {l : Listener} (hpc : l.pc ≠ .copyInfo) :
    Ordered { s with listener := l } :=
  ⟨h.listened, fun hcopy => absurd hcopy hpc⟩

variable [DecidableEq Wid] [DecidableEq Nid] {own : Nid}

theorem Ordered.fetchAdd (h : Ordered s) {w : Wid} :
    Ordered (((conditionNotifier own).action (.fetchAdd w)).effect s) := by
  refine ⟨?_, h.copying⟩
  intro k info hk
  have hticket := h.listened k info hk
  have hlt : s.start + k < s.tickets.length := (List.getElem?_eq_some_iff.mp hticket).1
  show (s.tickets ++ [(s.writers w).info])[s.start + k]? = some info
  rw [List.getElem?_append_left hlt]
  exact hticket

theorem Ordered.storeInfo (h : Ordered s) {w : Wid} (hok : StoredTogether s (.storeInfo w)) :
    Ordered (((conditionNotifier own).action (.storeInfo w)).effect s) := by
  refine ⟨h.listened, ?_⟩
  intro hcopy
  show Function.update s.infoAuthor _ _ (slot s.listener.nextSeq) = some s.awaited
  rw [Function.update_of_ne (hok hcopy)]
  exact h.copying hcopy

/-- A test that succeeds finds the Notify call the listener waits for. -/
theorem Ordered.loadSeqs (h : Ordered s) (hinv : Inv s) (hpc : s.listener.pc = .loadSeqs)
    (hok : StoredTogether s .loadSeqs) :
    Ordered (((conditionNotifier own).action .loadSeqs).effect s) := by
  dsimp only [conditionNotifier]
  split
  · next hseq =>
    obtain ⟨t, hauthor, hinfo, hlt, hgt⟩ := hok hseq
    refine ⟨h.listened, fun _ => ?_⟩
    have hstored := hinv.seqs _ t hauthor
    have hwaited := hinv.listening (by rw [hpc]; nofun)
    have heq : UInt64.ofNat t = UInt64.ofNat s.awaited := by rw [← hstored, hseq, hwaited]
    show s.infoAuthor (slot s.listener.nextSeq) = some s.awaited
    rw [hinfo, eq_of_ofNat_eq heq hlt hgt]
  · exact h.setListener nofun

theorem Ordered.copyInfo (h : Ordered s) (hinv : Inv s) (hpc : s.listener.pc = .copyInfo) :
    Ordered (((conditionNotifier own).action .copyInfo).effect s) := by
  refine ⟨?_, nofun⟩
  intro k info hk
  have hk' : (s.returned ++ [s.indicator.infos (slot s.listener.nextSeq)])[k]? = some info := hk
  show s.tickets[s.start + k]? = some info
  by_cases hlt : k < s.returned.length
  · rw [List.getElem?_append_left hlt] at hk'
    exact h.listened k info hk'
  · -- the call that returns now
    have hlen := (List.getElem?_eq_some_iff.mp hk').1
    rw [List.length_append, List.length_singleton] at hlen
    have hlast : k = s.returned.length := by omega
    subst hlast
    rw [List.getElem?_concat_length] at hk'
    rw [← hk']
    exact hinv.infos _ _ (h.copying hpc)

/-- **Step lemma**. -/
theorem Ordered.step (a : Label Wid Nid) (h : Ordered s) (hinv : Inv s)
    (hg : ((conditionNotifier own).action a).gate s) (hok : StoredTogether s a) :
    Ordered (((conditionNotifier own).action a).effect s) := by
  cases a with
  | callNotify w n info => exact ⟨h.listened, h.copying⟩
  | loadShutdown w =>
    dsimp only [conditionNotifier]
    split
    · exact ⟨h.listened, h.copying⟩
    · exact ⟨h.listened, h.copying⟩
  | fetchAdd w => exact h.fetchAdd
  | storeInfo w => exact h.storeInfo hok
  | storeSeq w => exact ⟨h.listened, h.copying⟩
  | shutdown n => exact ⟨h.listened, h.copying⟩
  | construct =>
    refine ⟨?_, nofun⟩
    intro k info hk
    have hk' : s.returned[k]? = some info := hk
    rw [hinv.construct hg] at hk'
    cases hk'
  | callListen timeoutMs infoIsNull =>
    dsimp only [conditionNotifier]
    split
    · exact h.setListener nofun
    · exact h.setListener nofun
  | listenShutdown =>
    dsimp only [conditionNotifier]
    split
    · exact h.setListener nofun
    · exact h.setListener nofun
  | loopShutdown =>
    dsimp only [conditionNotifier]
    split
    · exact h.setListener nofun
    · exact h.setListener nofun
  | loadNextSeq =>
    dsimp only [conditionNotifier]
    split
    · exact h.setListener nofun
    · exact h.setListener nofun
  | loadSeqs => exact h.loadSeqs hinv hg hok
  | copyInfo => exact h.copyInfo hinv hg
  | checkTimeout =>
    dsimp only [conditionNotifier]
    split
    · exact h.setListener nofun
    · exact h.setListener nofun

/-- **Main result**: as long as every test that succeeds finds the info and
    the number of one Notify call, the k-th Listen call that returns true
    returns what the Notify call with number `start + k` was given. -/
theorem listen_inOrder (h : ((conditionNotifier own).restrict StoredTogether).Reachable s) :
    ListenedInOrder s := by
  have hboth : Inv s ∧ Ordered s := by
    apply System.invariant _ _ h
    · intro s hi
      have hfree : (conditionNotifier own).init s := hi
      refine ⟨inv_init hfree, ⟨?_, ?_⟩⟩
      · intro k info hk
        rw [hi.2.2.2.2.2.2.2] at hk
        cases hk
      · intro hcopy
        rw [hi.2.2.2.1] at hcopy
        cases hcopy
    · intro s a hs hg
      exact ⟨hs.1.step a hg.1, hs.2.step a hs.1 hg.1 hg.2⟩
  exact hboth.2.listened

end inOrder

/-! ## Section 6: One notification -/

/-- One writing thread and the listener, which share an object. -/
def initial : State Unit Unit where
  indicator  := .new
  isShutdown := fun _ => false
  writers    := fun _ => ⟨.idle, (), .new, 0, 0, none⟩
  listener   := ⟨.construct, 0, 0, .new, none⟩
  tickets    := []
  start      := 0
  infoAuthor := fun _ => none
  author     := fun _ => none
  returned   := []

theorem initial_init : (conditionNotifier ()).init initial :=
  ⟨rfl, fun _ => rfl, fun _ => rfl, rfl, rfl, fun _ => rfl, fun _ => rfl, rfl⟩

/-- The listener starts, the writer calls `Notify` and is given number 0. -/
def drawZero (info : ReadableInfo) : List (Label Unit Unit) :=
  [.construct, .callNotify () () info, .loadShutdown (), .fetchAdd ()]

/-- A Listen call that finds the number it waits for. -/
def listenOnce : List (Label Unit Unit) :=
  [.callListen 100 false, .listenShutdown, .loopShutdown, .loadNextSeq, .loadSeqs, .copyInfo]

def oneMessage : List (Label Unit Unit) :=
  drawZero ⟨1, 2, 3⟩ ++ [.storeInfo (), .storeSeq ()] ++ listenOnce

theorem listen_inOrder_oneMessage :
    ListenedInOrder ((conditionNotifier ()).exec initial oneMessage) ∧
      ((conditionNotifier ()).exec initial oneMessage).returned = [⟨1, 2, 3⟩] := by
  have hreach : ((conditionNotifier ()).restrict StoredTogether).Reachable
      (((conditionNotifier ()).restrict StoredTogether).exec initial oneMessage) :=
    System.reachable_exec ((conditionNotifier ()).restrict StoredTogether) initial_init oneMessage
      (by decide +kernel)
  exact ⟨listen_inOrder hreach, by decide +kernel⟩

/-- Slot 0 holds the number 0 from the start: a Listen call between the
    `fetch_add` and the stores of the first notification returns an info
    nobody has sent. -/
theorem listen_returnsUnsent :
    ¬ ∀ s : State Unit Unit, (conditionNotifier ()).Reachable s → ListenedInOrder s := by
  intro hall
  let s := (conditionNotifier ()).exec initial (drawZero ⟨1, 2, 3⟩ ++ listenOnce)
  have hreach : (conditionNotifier ()).Reachable s :=
    System.reachable_exec _ initial_init _ (by decide +kernel)
  have hreturned : s.returned = [.new] := by decide +kernel
  have htickets : s.tickets = [⟨1, 2, 3⟩] := by decide +kernel
  have hstart : s.start = 0 := by decide +kernel
  have hsent : s.tickets[s.start + 0]? = some .new :=
    hall s hreach 0 .new (by rw [hreturned]; rfl)
  rw [htickets, hstart] at hsent
  exact absurd hsent (by decide)

end CyberRT.Transport.Shm.ConditionNotifier
