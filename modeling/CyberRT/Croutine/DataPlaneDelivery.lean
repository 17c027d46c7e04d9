import CyberRT.Croutine.DataPlane

/-! # What the data plane delivers

    A `Dispatch` owes its message to every reader whose buffer is in the
    map when it looks up the channel. It pays buffer by buffer: what was
    filled in and what is left of the copied buffers add up to what is due,
    thread by thread, as long as the reader is not destroyed. So every
    reader gets each message once, in the order its thread dispatched it,
    and fetches from what it got as a single visitor does. -/

namespace CyberRT.Croutine.DataPlane

open CyberRT.Framework CyberRT.Data

/-! ## Section 1: What is left of a dispatch -/

section remaining
variable {Did K R M : Type} [DecidableEq R]

/-- What a thread is still going to fill into the buffer of `r`. -/
def DispatchPc.remaining (r : R) : DispatchPc K R M → List M
  | .lock _ msg r' rest | .fill _ msg r' rest => List.replicate ((r' :: rest).count r) msg
  | .release _ msg _ rest                     => List.replicate (rest.count r) msg
  | _                                         => []

@[simp] theorem remaining_nextBuffer (r : R) (k : K) (msg : M) (rest : List R) :
    (DispatchPc.nextBuffer k msg rest).remaining r = List.replicate (rest.count r) msg := by
  rcases rest with _ | ⟨r', rest⟩
  · rfl
  · rfl

@[simp] theorem remaining_nextNotifier (r : R) (k : K) (rest : List R) :
    (DispatchPc.nextNotifier k rest : DispatchPc K R M).remaining r = [] := by
  rcases rest with _ | ⟨r', rest⟩
  · rfl
  · rfl

/-- The messages of thread `d` among `log`. -/
def byThread [DecidableEq Did] (d : Did) (log : List (Did × M)) : List M :=
  (log.filter fun x => x.1 = d).map Prod.snd

variable [DecidableEq Did]

theorem byThread_concat_self (d : Did) (log : List (Did × M)) (msg : M) :
    byThread d (log ++ [(d, msg)]) = byThread d log ++ [msg] := by
  simp [byThread]

theorem byThread_concat_of_ne {d d' : Did} (hne : d' ≠ d) (log : List (Did × M)) (msg : M) :
    byThread d' (log ++ [(d, msg)]) = byThread d' log := by
  simp [byThread, hne.symm]

end remaining

/-! ## Section 2: Invariant -/

section invariant
variable {Did K R M : Type} [DecidableEq K] [DecidableEq R] {conf : R → VisitorConfig K}
  {s : State Did K R M} {r : R} {d : Did}

/-- The visitor reads its buffer, which keeps what was filled in last. -/
structure Stored (queueSize : Nat) (e : Endpoint Did M) : Prop where
  keeps : CacheBuffer.Keeps queueSize (e.filled.map Prod.snd) e.buffer
  reads : Reads queueSize (e.filled.map Prod.snd) e.nextMsgIndex e.fetched

/-- The map has the buffer of each reader once, under its channel. -/
def Mapped (conf : R → VisitorConfig K) (s : State Did K R M) : Prop :=
  ∀ k r, (s.buffersMap.entries k).count r =
    if (conf r).channelId = k ∧ (s.endpoints r).stage.hasBuffer = true then 1 else 0

theorem Mapped.mem (h : Mapped conf s) {k : K} (hr : r ∈ s.buffersMap.entries k) :
    (conf r).channelId = k := by
  have hcount := h k r
  by_contra hne
  rw [if_neg fun hand => hne hand.1] at hcount
  exact absurd hr (List.count_eq_zero.mp hcount)

theorem Mapped.mem_of_hasBuffer (h : Mapped conf s)
    (hbuffer : (s.endpoints r).stage.hasBuffer = true) :
    r ∈ s.buffersMap.entries (conf r).channelId := by
  have hcount := h (conf r).channelId r
  rw [if_pos ⟨rfl, hbuffer⟩] at hcount
  apply List.count_pos_iff.mp
  omega

theorem Stored.fill {queueSize : Nat} {e : Endpoint Did M} (h : Stored queueSize e) (d : Did)
    (msg : M) : Stored queueSize (e.fill d msg) := by
  have hlog : (e.fill d msg).filled.map Prod.snd = e.filled.map Prod.snd ++ [msg] := by
    show (e.filled ++ [(d, msg)]).map Prod.snd = _
    rw [List.map_append, List.map_singleton]
  refine ⟨?_, ?_⟩
  · rw [hlog]
    exact h.keeps.fill msg
  · rw [hlog]
    exact h.reads.append msg

variable [DecidableEq Did]

/-- What thread `d` has filled in and is still going to fill in, `rest`, is
    what it owes the reader; a destroyed reader may miss some of it. -/
structure Settled (e : Endpoint Did M) (d : Did) (rest : List M) : Prop where
  within : (byThread d e.filled ++ rest).Sublist (byThread d e.due)
  all    : e.stage ≠ .destroyed → byThread d e.filled ++ rest = byThread d e.due

/-- **Invariant** of the messages, whatever the queues can hold. -/
structure Inv (conf : R → VisitorConfig K) (s : State Did K R M) : Prop where
  mapped  : Mapped conf s
  settled : ∀ r d, Settled (s.endpoints r) d ((s.dispatchers d).remaining r)

/-! ### One reader -/

section endpoint
variable {e : Endpoint Did M} {rest : List M} {msg : M}

theorem Settled.addDue (h : Settled e d []) (msg : M) : Settled (e.addDue d msg) d [msg] := by
  refine ⟨?_, ?_⟩
  · show (byThread d e.filled ++ [msg]).Sublist (byThread d (e.due ++ [(d, msg)]))
    rw [byThread_concat_self]
    have hwithin := h.within
    rw [List.append_nil] at hwithin
    exact hwithin.append (List.Sublist.refl [msg])
  · intro hstage
    show byThread d e.filled ++ [msg] = byThread d (e.due ++ [(d, msg)])
    rw [byThread_concat_self, ← h.all hstage, List.append_nil]

theorem Settled.addDue_of_ne {d' : Did} (h : Settled e d' rest) (hne : d' ≠ d) (msg : M) :
    Settled (e.addDue d msg) d' rest := by
  refine ⟨?_, ?_⟩
  · show (byThread d' e.filled ++ rest).Sublist (byThread d' (e.due ++ [(d, msg)]))
    rw [byThread_concat_of_ne hne]
    exact h.within
  · intro hstage
    show byThread d' e.filled ++ rest = byThread d' (e.due ++ [(d, msg)])
    rw [byThread_concat_of_ne hne]
    exact h.all hstage

theorem Settled.fill (h : Settled e d (msg :: rest)) : Settled (e.fill d msg) d rest := by
  have hfilled : byThread d (e.fill d msg).filled ++ rest = byThread d e.filled ++ msg :: rest := by
    show byThread d (e.filled ++ [(d, msg)]) ++ rest = _
    rw [byThread_concat_self, List.append_assoc, List.singleton_append]
  refine ⟨?_, ?_⟩
  · rw [hfilled]
    exact h.within
  · intro hstage
    rw [hfilled]
    exact h.all hstage

theorem Settled.fill_of_ne {d' : Did} (h : Settled e d' rest) (hne : d' ≠ d) (msg : M) :
    Settled (e.fill d msg) d' rest := by
  have hfilled : byThread d' (e.fill d msg).filled = byThread d' e.filled :=
    byThread_concat_of_ne hne e.filled msg
  refine ⟨?_, ?_⟩
  · rw [hfilled]
    exact h.within
  · intro hstage
    rw [hfilled]
    exact h.all hstage

/-- A destroyed reader does not get what is left out. -/
theorem Settled.skip (h : Settled e d (msg :: rest)) (hstage : e.stage = .destroyed) :
    Settled e d rest := by
  refine ⟨?_, fun hne => absurd hstage hne⟩
  have hless : (byThread d e.filled ++ rest).Sublist (byThread d e.filled ++ msg :: rest) :=
    (List.sublist_cons_self msg rest).append_left _
  exact hless.trans h.within

/-- The reader is destroyed, or goes on to a stage before that. -/
theorem Settled.setStage (h : Settled e d rest) {stage : Stage} (hstage : e.stage ≠ .destroyed) :
    Settled { e with stage := stage } d rest :=
  ⟨h.within, fun _ => h.all hstage⟩

variable [Inhabited M] {queueSize : Nat}

/-- The steps of the routine read the buffer with `TryFetch` only. -/
theorem Stored.routine (h : Stored queueSize e) (hsize : 1 ≤ queueSize)
    {a : Croutine.Label Did M} (ha : ofRoutine a = true) :
    Stored queueSize (e.routine queueSize a) := by
  have hkeep {e' : Endpoint Did M} (hbuffer : e'.buffer = e.buffer)
      (hindex : e'.nextMsgIndex = e.nextMsgIndex) (hfilled : e'.filled = e.filled)
      (hfetched : e'.fetched = e.fetched ++ []) : Stored queueSize e' := by
    rw [List.append_nil] at hfetched
    refine ⟨?_, ?_⟩
    · rw [hbuffer, hfilled]
      exact h.keeps
    · rw [hfilled, hindex, hfetched]
      exact h.reads
  cases a
  case tryFetch =>
    rcases hfetch : e.buffer.fetch e.nextMsgIndex with _ | ⟨index, m⟩
    · apply hkeep
      all_goals
        simp only [Endpoint.routine, Endpoint.view, Endpoint.fetchedBy, readerRoutine, hfetch]
    · have hreads := h.reads.fetch h.keeps hsize hfetch
      rw [List.length_map] at hreads
      refine ⟨?_, ?_⟩
      · simp only [Endpoint.routine, Endpoint.view, readerRoutine, hfetch]
        exact h.keeps
      · simp only [Endpoint.routine, Endpoint.view, Endpoint.fetchedBy, readerRoutine, hfetch]
        exact hreads
  case testAndSet =>
    apply hkeep
    all_goals
      simp only [Endpoint.routine, Endpoint.view, Endpoint.fetchedBy, readerRoutine]
    all_goals
      split
      · rfl
      · rfl
  all_goals first
    | exact absurd ha Bool.false_ne_true
    | exact hkeep rfl rfl rfl rfl

end endpoint

/-! ### The dispatching threads -/

omit [DecidableEq K] in
/-- Thread `d` moves: nothing of another thread's messages changes. -/
theorem settled_move (h : ∀ r d, Settled (s.endpoints r) d ((s.dispatchers d).remaining r))
    {endpoints : R → Endpoint Did M} {pc : DispatchPc K R M}
    (hown : ∀ r, Settled (s.endpoints r) d ((s.dispatchers d).remaining r) →
      Settled (endpoints r) d (pc.remaining r))
    (hother : ∀ r d' rest, d' ≠ d → Settled (s.endpoints r) d' rest →
      Settled (endpoints r) d' rest) (r : R) (d' : Did) :
    Settled (endpoints r) d' ((Function.update s.dispatchers d pc d').remaining r) := by
  by_cases hd : d' = d
  · subst hd
    rw [Function.update_self]
    exact hown r (h r d')
  · rw [Function.update_of_ne hd]
    exact hother r d' _ hd (h r d')

/-- Thread `d` moves on to where as much is left. -/
theorem Inv.setDispatcher (h : Inv conf s) {pc : DispatchPc K R M}
    (hpc : ∀ r, pc.remaining r = (s.dispatchers d).remaining r) :
    Inv conf (s.setDispatcher d pc) := by
  refine ⟨h.mapped, settled_move h.settled ?_ fun _ _ _ _ hsettled => hsettled⟩
  intro r hsettled
  rw [hpc r]
  exact hsettled

/-- An endpoint changes in what the invariant does not look at. -/
theorem Inv.setEndpoint (h : Inv conf s) {e : Endpoint Did M}
    (hbuffer : e.stage.hasBuffer = (s.endpoints r).stage.hasBuffer)
    (hsettled : ∀ d rest, Settled (s.endpoints r) d rest → Settled e d rest) :
    Inv conf (s.setEndpoint r e) := by
  refine ⟨?_, ?_⟩
  · intro k r'
    have hmapped := h.mapped k r'
    show (s.buffersMap.entries k).count r' = if (conf r').channelId = k ∧
      (Function.update s.endpoints r e r').stage.hasBuffer = true then 1 else 0
    by_cases hr : r' = r
    · subst hr
      rw [Function.update_self, hbuffer]
      exact hmapped
    · rw [Function.update_of_ne hr]
      exact hmapped
  · intro r' d
    have hold := h.settled r' d
    show Settled (Function.update s.endpoints r e r') d _
    by_cases hr : r' = r
    · subst hr
      rw [Function.update_self]
      exact hsettled d _ hold
    · rw [Function.update_of_ne hr]
      exact hold

/-- **Lookup**: the copy has the buffers of the readers to which the
    message is now due. -/
theorem Inv.find (h : Inv conf s) {k : K} {msg : M} {pc : DispatchPc K R M}
    (hfind : ∀ r, (s.dispatchers d).remaining r = [])
    (hpc : ∀ r, pc.remaining r = List.replicate ((s.buffersMap.entries k).count r) msg) :
    Inv conf ((s.markDue conf d k msg).setDispatcher d pc) := by
  have hstage : ∀ r, ((s.markDue conf d k msg).endpoints r).stage = (s.endpoints r).stage := by
    intro r
    simp only [State.markDue]
    split
    · rfl
    · rfl
  refine ⟨?_, settled_move (s := s) h.settled ?_ ?_⟩
  · intro k' r
    show (s.buffersMap.entries k').count r = if (conf r).channelId = k' ∧
      ((s.markDue conf d k msg).endpoints r).stage.hasBuffer = true then 1 else 0
    rw [hstage]
    exact h.mapped k' r
  · intro r hsettled
    rw [hfind r] at hsettled
    rw [hpc r, h.mapped k r]
    simp only [State.setDispatcher, State.markDue]
    split
    · exact hsettled.addDue msg
    · exact hsettled
  · intro r d' rest hne hsettled
    simp only [State.setDispatcher, State.markDue]
    split
    · exact hsettled.addDue_of_ne hne msg
    · exact hsettled

/-- **Fill**: the message is no more left, and filled in. -/
theorem Inv.fill (h : Inv conf s) {k : K} {msg : M} {rest : List R}
    (hpc : s.dispatchers d = .fill k msg r rest) :
    Inv conf ((s.setEndpoint r ((s.endpoints r).fill d msg)).setDispatcher d
      (.release k msg r rest)) := by
  refine ⟨?_, settled_move (s := s) h.settled ?_ ?_⟩
  · intro k' r'
    have hmapped := h.mapped k' r'
    show (s.buffersMap.entries k').count r' = if (conf r').channelId = k' ∧
      (Function.update s.endpoints r ((s.endpoints r).fill d msg) r').stage.hasBuffer = true
      then 1 else 0
    by_cases hr : r' = r
    · subst hr
      rw [Function.update_self]
      exact hmapped
    · rw [Function.update_of_ne hr]
      exact hmapped
  · intro r' hsettled
    rw [hpc] at hsettled
    show Settled (Function.update s.endpoints r ((s.endpoints r).fill d msg) r') d
      (List.replicate (rest.count r') msg)
    simp only [DispatchPc.remaining] at hsettled
    by_cases hr : r' = r
    · subst hr
      rw [List.count_cons_self, List.replicate_succ] at hsettled
      rw [Function.update_self]
      exact hsettled.fill
    · rw [List.count_cons_of_ne (Ne.symm hr)] at hsettled
      rw [Function.update_of_ne hr]
      exact hsettled
  · intro r' d' rest' hne hsettled
    show Settled (Function.update s.endpoints r ((s.endpoints r).fill d msg) r') d' rest'
    by_cases hr : r' = r
    · subst hr
      rw [Function.update_self]
      exact hsettled.fill_of_ne hne msg
    · rw [Function.update_of_ne hr]
      exact hsettled

/-- **Expired**: nobody owns the buffer any more. -/
theorem Inv.expired (h : Inv conf s) {k : K} {msg : M} {rest : List R}
    (hpc : s.dispatchers d = .lock k msg r rest) (hdead : ¬ (s.endpoints r).Alive) :
    Inv conf (s.setDispatcher d (.nextBuffer k msg rest)) := by
  have hstage : (s.endpoints r).stage = .destroyed := by
    by_contra hne
    exact hdead (Or.inl hne)
  refine ⟨h.mapped, settled_move h.settled ?_ fun _ _ _ _ hsettled => hsettled⟩
  intro r' hsettled
  rw [hpc] at hsettled
  rw [remaining_nextBuffer]
  simp only [DispatchPc.remaining] at hsettled
  by_cases hr : r' = r
  · subst hr
    rw [List.count_cons_self, List.replicate_succ] at hsettled
    exact hsettled.skip hstage
  · rw [List.count_cons_of_ne (Ne.symm hr)] at hsettled
    exact hsettled

/-- The lockers and the routine are not looked at. -/
theorem Inv.frame (h : Inv conf s) (r : R) (lockers : List Did) (reader : Reader) :
    Inv conf (s.setEndpoint r { s.endpoints r with lockers := lockers, reader := reader }) := by
  apply h.setEndpoint
  · rfl
  · intro d rest hsettled
    exact ⟨hsettled.within, hsettled.all⟩

/-- **Step of a thread in `Dispatch`**. -/
theorem Inv.advance (h : Inv conf s) (d : Did) : Inv conf (s.advance conf d) := by
  rcases hpc : s.dispatchers d with _ | ⟨k, msg⟩ | ⟨k, msg⟩ | ⟨k, msg, r, rest⟩ |
    ⟨k, msg, r, rest⟩ | ⟨k, msg, r, rest⟩ | k | ⟨k, r, rest⟩ | ⟨k, r, rest⟩ | ⟨k, r, rest⟩ |
    ⟨k, r, rest⟩ | ⟨k, r, rest⟩ | ⟨k, r, rest⟩ | ⟨k, r, rest⟩
  all_goals simp only [State.advance, hpc]
  case idle => exact h
  case isShutdown =>
    split
    all_goals exact h.setDispatcher fun r => by rw [hpc]; rfl
  case findBuffers =>
    have hnone : ∀ r, (s.dispatchers d).remaining r = [] := fun r => by rw [hpc]; rfl
    split
    · next hentry =>
      apply h.find hnone
      intro r
      rw [ChannelMap.entries_of_none hentry]
      rfl
    · next buffers hentry =>
      apply h.find hnone
      intro r
      rw [ChannelMap.entries_of_some hentry, remaining_nextBuffer]
  case lock =>
    split
    · have hlocked := h.frame r (d :: (s.endpoints r).lockers) (s.endpoints r).reader
      apply hlocked.setDispatcher
      intro r'
      show _ = (s.dispatchers d).remaining r'
      rw [hpc]
      rfl
    · next hdead => exact h.expired hpc hdead
  case fill => exact h.fill hpc
  case release =>
    have hreleased := h.frame r ((s.endpoints r).lockers.erase d) (s.endpoints r).reader
    apply hreleased.setDispatcher
    intro r'
    show _ = (s.dispatchers d).remaining r'
    rw [hpc, remaining_nextBuffer]
    rfl
  case findNotifiers =>
    split
    · exact h.setDispatcher fun r => by rw [hpc]; rfl
    · exact h.setDispatcher fun r => by rw [hpc, remaining_nextNotifier]; rfl
  case setUpdateFlag =>
    have hflag := h.frame r (s.endpoints r).lockers
      { (s.endpoints r).reader with cr := (s.endpoints r).reader.cr.setUpdateFlag }
    apply hflag.setDispatcher
    intro r'
    show _ = (s.dispatchers d).remaining r'
    rw [hpc]
    rfl
  case notify => exact h.setDispatcher fun r => by rw [hpc, remaining_nextNotifier]; rfl
  case callback | findTask =>
    split
    · exact h.setDispatcher fun r => by rw [hpc]; rfl
    · exact h.setDispatcher fun r => by rw [hpc, remaining_nextNotifier]; rfl
  case call => exact h.setDispatcher fun r => by rw [hpc]; rfl
  case checkDataWait | checkIoWait =>
    split
    all_goals exact h.setDispatcher fun r => by rw [hpc]; rfl

/-! ### Setting up the readers -/

/-- The reader goes on to a stage with the same maps. -/
theorem Inv.setStage (h : Inv conf s) {stage : Stage}
    (hbuffer : stage.hasBuffer = (s.endpoints r).stage.hasBuffer)
    (hlive : (s.endpoints r).stage ≠ .destroyed) : Inv conf (s.setStage r stage) := by
  apply h.setEndpoint hbuffer
  intro d rest hsettled
  exact hsettled.setStage hlive

/-- **AddBuffer**. -/
theorem Inv.addBuffer (h : Inv conf s) (hstage : (s.endpoints r).stage = .unborn) :
    Inv conf { s.setStage r .addBuffer with
      buffersMap := s.buffersMap.add (conf r).channelId r } := by
  have hlive : (s.endpoints r).stage ≠ .destroyed := by
    rw [hstage]
    decide
  refine ⟨?_, ?_⟩
  · intro k r'
    have hmapped := h.mapped k r'
    show ((s.buffersMap.add (conf r).channelId r).entries k).count r' =
      if (conf r').channelId = k ∧ (Function.update s.endpoints r
        { s.endpoints r with stage := Stage.addBuffer } r').stage.hasBuffer = true then 1 else 0
    rw [ChannelMap.entries_add]
    by_cases hr : r' = r
    · subst hr
      rw [Function.update_self]
      rw [hstage, if_neg fun hand => Bool.false_ne_true hand.2] at hmapped
      by_cases hk : k = (conf r').channelId
      · rw [if_pos hk, if_pos ⟨hk.symm, rfl⟩, ← hk, List.count_append, hmapped,
          List.count_singleton_self]
      · rw [if_neg hk, if_neg fun hand => hk hand.1.symm, hmapped]
    · rw [Function.update_of_ne hr, ← hmapped]
      split
      · next hk =>
        rw [← hk, List.count_append, List.count_singleton, if_neg (by simpa using Ne.symm hr)]
        rfl
      · rfl
  · intro r' d
    have hsettled := h.settled r' d
    show Settled (Function.update s.endpoints r
      { s.endpoints r with stage := Stage.addBuffer } r') d _
    by_cases hr : r' = r
    · subst hr
      rw [Function.update_self]
      exact hsettled.setStage hlive
    · rw [Function.update_of_ne hr]
      exact hsettled

theorem Inv.setStage_of_eq (h : Inv conf s) {stage before : Stage}
    (hstage : (s.endpoints r).stage = before) (hbuffer : stage.hasBuffer = before.hasBuffer)
    (hlive : before ≠ .destroyed) : Inv conf (s.setStage r stage) := by
  rw [← hstage] at hbuffer hlive
  exact h.setStage hbuffer hlive

variable [Inhabited M]

/-- **Step lemma**. -/
theorem Inv.step (a : Label Did K R M) (h : Inv conf s)
    (hg : ((dataPlane conf).action a).gate s) :
    Inv conf (((dataPlane conf).action a).effect s) := by
  rcases a with r | r | r | r | r | r | r | ⟨r, a⟩ | _ | ⟨d, k, msg⟩ | d
  case addBuffer => exact h.addBuffer hg
  case addNotifier =>
    have hset : Inv conf (s.setStage r .addNotifier) := h.setStage_of_eq hg rfl (by decide)
    exact ⟨hset.mapped, hset.settled⟩
  case dispatchTask => exact h.setStage_of_eq hg rfl (by decide)
  case assignCallback => exact h.setStage_of_eq hg rfl (by decide)
  case registerNotifyCallback => exact h.setStage_of_eq hg rfl (by decide)
  case removeTask => exact h.setStage_of_eq hg.1 rfl (by decide)
  case destroy => exact h.setStage_of_eq hg rfl (by decide)
  case routine =>
    show Inv conf (s.setEndpoint r ((s.endpoints r).routine (conf r).queueSize a))
    apply h.setEndpoint
    · rfl
    · intro d rest hsettled
      exact ⟨hsettled.within, hsettled.all⟩
  case shutdown => exact ⟨h.mapped, h.settled⟩
  case dispatch =>
    have hidle : s.dispatchers d = .idle := hg
    apply h.setDispatcher
    intro r
    rw [hidle]
    rfl
  case advance => exact h.advance d

theorem inv_init (hi : (dataPlane conf).init s) : Inv conf s := by
  obtain ⟨_, hbuffers, _, hendpoints, hidle⟩ := hi
  refine ⟨?_, ?_⟩
  · intro k r
    rw [hbuffers, hendpoints r, if_neg fun hand => Bool.false_ne_true hand.2]
    rfl
  · intro r d
    rw [hendpoints r, hidle d]
    exact ⟨List.Sublist.refl [], fun _ => rfl⟩

/-- **Run lemma**. -/
theorem inv_reachable (h : (dataPlane conf).Reachable s) : Inv conf s :=
  System.invariant (fun _ => inv_init) (fun _ a hinv hg => hinv.step a hg) h

end invariant

/-! ## Section 3: The buffers -/

section buffers
variable {Did K R M : Type} [DecidableEq R] {conf : R → VisitorConfig K}
  {s : State Did K R M} {r : R}

/-- Every visitor reads its buffer. -/
def AllStored (conf : R → VisitorConfig K) (s : State Did K R M) : Prop :=
  ∀ r, Stored (conf r).queueSize (s.endpoints r)

/-- One reader changes. -/
theorem AllStored.setEndpoint (h : AllStored conf s) {e : Endpoint Did M}
    (he : Stored (conf r).queueSize e) : AllStored conf (s.setEndpoint r e) := by
  intro r'
  show Stored (conf r').queueSize (Function.update s.endpoints r e r')
  by_cases hr : r' = r
  · subst hr
    rw [Function.update_self]
    exact he
  · rw [Function.update_of_ne hr]
    exact h r'

/-- The buffer of a reader and its index stay. -/
theorem Stored.congr {queueSize : Nat} {e e' : Endpoint Did M} (h : Stored queueSize e)
    (hbuffer : e'.buffer = e.buffer) (hindex : e'.nextMsgIndex = e.nextMsgIndex)
    (hfilled : e'.filled = e.filled) (hfetched : e'.fetched = e.fetched) :
    Stored queueSize e' := by
  refine ⟨?_, ?_⟩
  · rw [hbuffer, hfilled]
    exact h.keeps
  · rw [hfilled, hindex, hfetched]
    exact h.reads

variable [DecidableEq Did] [DecidableEq K]

omit [DecidableEq R] [DecidableEq Did] in
theorem AllStored.markDue (h : AllStored conf s) (d : Did) (k : K) (msg : M) :
    AllStored conf (s.markDue conf d k msg) := by
  intro r
  simp only [State.markDue]
  split
  · exact (h r).congr rfl rfl rfl rfl
  · exact h r

/-- **Step of a thread in `Dispatch`**: only `Fill` is about a buffer. -/
theorem AllStored.advance (h : AllStored conf s) (d : Did) :
    AllStored conf (s.advance conf d) := by
  rcases hpc : s.dispatchers d with _ | ⟨k, msg⟩ | ⟨k, msg⟩ | ⟨k, msg, r, rest⟩ |
    ⟨k, msg, r, rest⟩ | ⟨k, msg, r, rest⟩ | k | ⟨k, r, rest⟩ | ⟨k, r, rest⟩ | ⟨k, r, rest⟩ |
    ⟨k, r, rest⟩ | ⟨k, r, rest⟩ | ⟨k, r, rest⟩ | ⟨k, r, rest⟩
  all_goals simp only [State.advance, hpc]
  case idle | call | notify => exact h
  case findBuffers =>
    split
    all_goals exact h.markDue d k msg
  case lock =>
    split
    · exact h.setEndpoint ((h r).congr rfl rfl rfl rfl)
    · exact h
  case fill => exact h.setEndpoint ((h r).fill d msg)
  case release | setUpdateFlag => exact h.setEndpoint ((h r).congr rfl rfl rfl rfl)
  case isShutdown | findNotifiers | callback | findTask | checkDataWait | checkIoWait =>
    split
    all_goals exact h

variable [Inhabited M]

/-- **Step lemma**. -/
theorem AllStored.step (hsize : ∀ r, 1 ≤ (conf r).queueSize) (a : Label Did K R M)
    (h : AllStored conf s) (hg : ((dataPlane conf).action a).gate s) :
    AllStored conf (((dataPlane conf).action a).effect s) := by
  have hstage (r : R) (stage : Stage) : AllStored conf (s.setStage r stage) :=
    h.setEndpoint ((h r).congr rfl rfl rfl rfl)
  rcases a with r | r | r | r | r | r | r | ⟨r, a⟩ | _ | ⟨d, k, msg⟩ | d
  case addBuffer => exact hstage r .addBuffer
  case addNotifier => exact hstage r .addNotifier
  case dispatchTask => exact hstage r .dispatchTask
  case assignCallback => exact hstage r .assignCallback
  case registerNotifyCallback => exact hstage r .registerNotifyCallback
  case removeTask => exact hstage r .removeTask
  case destroy => exact hstage r .destroyed
  case routine => exact h.setEndpoint ((h r).routine (hsize r) hg.2.1)
  case shutdown | dispatch => exact h
  case advance => exact h.advance d

/-- **Run lemma**. -/
theorem stored_reachable (hsize : ∀ r, 1 ≤ (conf r).queueSize) (h : (dataPlane conf).Reachable s) :
    AllStored conf s := by
  refine System.invariant (fun s hi r => ?_) (fun _ a hs hg => hs.step hsize a hg) h
  obtain ⟨_, _, _, hendpoints, _⟩ := hi
  rw [hendpoints r]
  exact ⟨CacheBuffer.keeps_new _, reads_nil _ _⟩

/-! ## Section 4: Delivery -/

/-- What reader `r` has got from the dispatching threads, and its routine
    out of that. -/
structure Delivers (conf : R → VisitorConfig K) (s : State Did K R M) (r : R) : Prop where
  /-- each thread's messages once and in order, up to those it is still at -/
  inTurn : (s.endpoints r).stage ≠ .destroyed → ∀ d,
    byThread d (s.endpoints r).filled ++ (s.dispatchers d).remaining r =
      byThread d (s.endpoints r).due
  /-- nothing else, also when the reader is destroyed -/
  within : ∀ d, (byThread d (s.endpoints r).filled).Sublist (byThread d (s.endpoints r).due)
  fetched : Delivered (conf r).queueSize ((s.endpoints r).filled.map Prod.snd)
    (s.endpoints r).fetched

/-- **Main result**: every reader gets every message dispatched on its
    channel since its buffer is in the map, once and in its thread's order,
    whatever is dispatched, set up and destroyed at the same time. -/
theorem dataPlane_delivers (hsize : ∀ r, 1 ≤ (conf r).queueSize)
    (h : ((dataPlane conf).restrict NoRace).Reachable s) (r : R) : Delivers conf s r := by
  have hinv := inv_reachable h.of_restrict
  have hstored := stored_reachable hsize h.of_restrict
  refine ⟨?_, ?_, (hstored r).reads.delivered⟩
  · intro hstage d
    exact (hinv.settled r d).all hstage
  · intro d
    have hwithin := (hinv.settled r d).within
    exact (List.sublist_append_left _ _).trans hwithin

end buffers

/-- Two readers of one channel. -/
def sameChannel : Bool → VisitorConfig Nat := fun _ => ⟨7, 1⟩

def initial : State (Fin 2) Nat Bool Nat where
  isShutdown  := false
  buffersMap  := fun _ => none
  notifiesMap := fun _ => none
  endpoints   := fun _ => .unborn 1
  dispatchers := fun _ => .idle

theorem initial_init : (dataPlane sameChannel).init initial :=
  ⟨rfl, rfl, rfl, fun _ => rfl, fun _ => rfl⟩

/-- The second buffer is added between the lookups of two dispatches. -/
def lateReader : List (Label (Fin 2) Nat Bool Nat) :=
  [.addBuffer false, .dispatch 0 7 10, .advance 0, .advance 0, .addBuffer true,
    .dispatch 1 7 20, .advance 1, .advance 1] ++
    List.replicate 3 (.advance 0) ++ List.replicate 6 (.advance 1)

theorem dataPlane_delivers_lateReader :
    Delivers sameChannel ((dataPlane sameChannel).exec initial lateReader) true ∧
      (((dataPlane sameChannel).exec initial lateReader).endpoints true).filled = [(1, 20)] ∧
      (((dataPlane sameChannel).exec initial lateReader).endpoints false).filled =
        [(0, 10), (1, 20)] := by
  have hreach := System.reachable_exec ((dataPlane sameChannel).restrict NoRace) initial_init
    lateReader (by decide)
  rw [System.exec_restrict] at hreach
  exact ⟨dataPlane_delivers (by decide) hreach true, by decide, by decide⟩

end CyberRT.Croutine.DataPlane
