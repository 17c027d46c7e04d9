import CyberRT.Logger.LoggerBuffers

/-! # What the asynchronous logger promises

    * **Calls**: a `Flush` waits for a cycle of the logger thread that begins
      after the call and flushes the files. Until this cycle begins, the flag
      of the active buffer is set and the count is as it was; during it, the
      count has grown by one at most.
    * **Progress**: so many steps of the logger thread after a message was
      accepted, whatever the others do, it was handed over. -/

namespace CyberRT.Logger

open CyberRT.Framework

variable {cfg : Config} {s : State} {origFlushCount n : Nat}

/-! ## Section 1: Properties -/

/-- The first `n` accepted messages are in what was flushed of the files. -/
def FlushedUpTo (cfg : Config) (s : State) (n : Nat) : Prop :=
  n ≤ s.accepted.length ∧ ∀ moduleName, entries cfg moduleName (s.accepted.take n) <+:
    (s.file moduleName).writes.take (s.file moduleName).flushed

/-- **Property**: nothing is lost or duplicated, and what was waited for has
    happened. -/
structure Delivered (cfg : Config) (s : State) : Prop where
  inOrder    : s.accepted = s.output ++ s.unwritten
  written    : ∀ moduleName, (s.file moduleName).writes = entries cfg moduleName s.output
  flushed    : ∀ f n, s.flushers f = .returned n true → FlushedUpTo cfg s n
  exited     : s.logger = .exited →
    s.active.messages = [] ∧ s.flushing.messages = [] ∧ s.output = s.accepted
  checked    : ∀ a b, s.stopper = .checked a b → a = true ∧ b = true
  goesOn     : s.logger ≠ .unborn → s.logger ≠ .exited →
    ∃ a : Label, a.isLogger = true ∧ ((asyncLogger cfg).action a).gate s
  handedOver : ∀ as s', (asyncLogger cfg).Run s as s' →
    s.unwritten.length + 3 < as.countP Label.isLogger → s.accepted <+: s'.output

/-! ## Section 2: Flushes -/

/-- The first `n` messages were handed over, and their files flushed then. -/
def Flushed (cfg : Config) (s : State) (n : Nat) : Prop :=
  n ≤ s.output.length ∧ ∀ moduleName,
    (entries cfg moduleName (s.output.take n)).length ≤ (s.file moduleName).flushed

/-- What a call that waits can rely on. -/
inductive Awaits (cfg : Config) (s : State) (origFlushCount n : Nat) : Prop where
  | requested : s.active.flush = true → s.flushCount = origFlushCount →
      Awaits cfg s origFlushCount n
  | underway (i : Nat) : s.logger = .output i → s.flushing.flush = true →
      s.flushCount ≤ origFlushCount + 1 →
      n ≤ s.output.length + (s.flushing.messages.drop i).length → Awaits cfg s origFlushCount n
  | done : Flushed cfg s n → Awaits cfg s origFlushCount n

/-- A call of `Flush` in its place. -/
def Kept (cfg : Config) (s : State) : FlusherPc → Prop
  | .idle | .returned _ false => True
  | .waiting origFlushCount n => n ≤ s.accepted.length ∧ Awaits cfg s origFlushCount n
  | .returned n true => n ≤ s.accepted.length ∧ Flushed cfg s n

/-- **Invariant**: the calls of `Flush`. -/
def Calls (cfg : Config) (s : State) : Prop := ∀ f, Kept cfg s (s.flushers f)

theorem Flushed.outputMsg (h : Flushed cfg s n) (hfiles : Files cfg s) (i : Nat) (msg : Msg) :
    Flushed cfg (s.outputMsg cfg i msg) n := by
  obtain ⟨hn, hflushed⟩ := h
  refine ⟨?_, fun moduleName => ?_⟩
  · show n ≤ (s.output ++ [msg]).length
    rw [List.length_append]
    omega
  · show (entries cfg moduleName ((s.output ++ [msg]).take n)).length ≤ _
    rw [List.take_append_of_le_length hn]
    by_cases hm : msg.moduleName cfg = moduleName
    · subst hm
      rw [State.file_outputMsg_self]
      refine LogFileObject.flushed_le_write (hflushed _) ?_
      rw [hfiles]
      exact (prefix_entries_take _ n s.output).length_le
    · rw [State.file_outputMsg_of_ne hm]
      exact hflushed moduleName

/-- The files are flushed when all messages of the buffer were handed over. -/
theorem flushed_flushFiles (hfiles : Files cfg s) (hflush : s.flushing.flush = true)
    (hn : n ≤ s.output.length) : Flushed cfg s.flushFiles n := by
  have houtput : s.flushFiles.output = s.output := by
    unfold State.flushFiles
    split <;> rfl
  refine ⟨houtput ▸ hn, fun moduleName => ?_⟩
  rw [houtput, State.file_flushFiles, if_pos hflush]
  show _ ≤ (s.file moduleName).writes.length
  rw [hfiles]
  exact (prefix_entries_take moduleName n s.output).length_le

theorem Flushed.flushFiles (h : Flushed cfg s n) (hfiles : Files cfg s) :
    Flushed cfg s.flushFiles n := by
  by_cases hflush : s.flushing.flush = true
  · exact flushed_flushFiles hfiles hflush h.1
  · unfold State.flushFiles
    rw [if_neg hflush]
    exact h

/-! ## Section 3: Calls -/

/-- A step that leaves the logger thread as it is. -/
theorem Kept.congr {s' : State} {pc : FlusherPc} (h : Kept cfg s pc)
    (haccepted : s.accepted.length ≤ s'.accepted.length) (houtput : s'.output = s.output)
    (hmap : s'.moduleLoggerMap = s.moduleLoggerMap)
    (hactive : s.active.flush = true → s'.active.flush = true)
    (hflushing : s'.flushing = s.flushing) (hcount : s'.flushCount = s.flushCount)
    (hlogger : s'.logger = s.logger) : Kept cfg s' pc := by
  have hflushed : ∀ n, Flushed cfg s n → Flushed cfg s' n := by
    rintro n ⟨hn, hflushed⟩
    refine ⟨houtput ▸ hn, fun moduleName => ?_⟩
    rw [houtput, State.file, hmap]
    exact hflushed moduleName
  cases pc with
  | idle => trivial
  | waiting origFlushCount n =>
    obtain ⟨hn, hawaits⟩ := h
    refine ⟨Nat.le_trans hn haccepted, ?_⟩
    cases hawaits with
    | requested hflush heq => exact .requested (hactive hflush) (hcount.trans heq)
    | underway i hpc hflush hle hlen =>
      refine .underway i (hlogger.trans hpc) ?_ ?_ ?_
      · rwa [hflushing]
      · rwa [hcount]
      · rwa [houtput, hflushing]
    | done hdone => exact .done (hflushed n hdone)
  | returned n running =>
    cases running with
    | true => exact ⟨Nat.le_trans h.1 haccepted, hflushed n h.2⟩
    | false => trivial

/-- The logger thread has moved on. -/
theorem Kept.move {s' : State} {pc : FlusherPc} (h : Kept cfg s pc)
    (haccepted : s'.accepted = s.accepted)
    (hawaits : ∀ origFlushCount n, n ≤ s.accepted.length → Awaits cfg s origFlushCount n →
      Awaits cfg s' origFlushCount n)
    (hflushed : ∀ n, Flushed cfg s n → Flushed cfg s' n) : Kept cfg s' pc := by
  cases pc with
  | idle => trivial
  | waiting origFlushCount n => exact ⟨haccepted ▸ h.1, hawaits _ n h.1 h.2⟩
  | returned n running =>
    cases running with
    | true => exact ⟨haccepted ▸ h.1, hflushed n h.2⟩
    | false => trivial

/-- The thread has `mutex_` and is not at the flushing buffer. `relocked`
    says that it has just counted a cycle. -/
theorem Kept.turn (hb : Buffers s) (hbusy : s.logger.busy = false) {pc : FlusherPc}
    (h : Kept cfg s pc) (relocked : Bool) {s' : State}
    (hturn : Turn { s with flushCount := s.flushCount + relocked.toNat } s') :
    Kept cfg s' pc := by
  have hflow : s.accepted = s.output ++ s.active.messages := by
    rw [hb.flow, State.unwritten, State.rest_eq_nil hbusy, List.nil_append]
  have hcount : relocked.toNat ≤ 1 := relocked.toNat_le
  have hgone : ∀ i, s.logger ≠ .output i := fun i hpc => by
    rw [hpc] at hbusy
    cases hbusy
  cases hturn with
  | wait hflush | exit hflush =>
    -- no call has its flag set
    refine h.move rfl (fun orig n hn hawaits => ?_) (fun n hdone => hdone)
    cases hawaits with
    | requested hset => exact absurd (hset.symm.trans hflush) (by decide)
    | underway i hpc => exact absurd hpc (hgone i)
    | done hdone => exact .done hdone
  | swap =>
    refine h.move rfl (fun orig n hn hawaits => ?_) (fun n hdone => hdone)
    cases hawaits with
    | requested hset heq =>
      refine .underway 0 rfl hset ?_ ?_
      · show s.flushCount + relocked.toNat ≤ orig + 1
        omega
      · show n ≤ s.output.length + s.active.messages.length
        rwa [← List.length_append, ← hflow]
    | underway i hpc => exact absurd hpc (hgone i)
    | done hdone => exact .done hdone

theorem Calls.turn (h : Calls cfg s) (hb : Buffers s) (hbusy : s.logger.busy = false)
    (relocked : Bool) {s' : State}
    (hturn : Turn { s with flushCount := s.flushCount + relocked.toNat } s') : Calls cfg s' := by
  have hflushers : s'.flushers = s.flushers := by
    cases hturn with
    | wait | swap | exit => rfl
  intro f
  rw [hflushers]
  exact (h f).turn hb hbusy relocked hturn

theorem Calls.setFlusher (h : Calls cfg s) (f : Nat) {pc : FlusherPc} (hpc : Kept cfg s pc) :
    Calls cfg (s.setFlusher f pc) := by
  have hcongr : ∀ pc', Kept cfg s pc' → Kept cfg (s.setFlusher f pc) pc' :=
    fun pc' h' => h'.congr (Nat.le_refl _) rfl rfl id rfl rfl rfl
  intro f'
  show Kept cfg _ (Function.update s.flushers f pc f')
  by_cases hf : f' = f
  · subst hf
    rw [Function.update_self]
    exact hcongr pc hpc
  · rw [Function.update_of_ne hf]
    exact hcongr _ (h f')

theorem Calls.requestFlush (h : Calls cfg s) : Calls cfg s.requestFlush :=
  fun f => (h f).congr (Nat.le_refl _) rfl rfl (fun _ => rfl) rfl rfl rfl

/-- The call waits on, or returns with its messages flushed. -/
theorem Calls.flushLoop (h : Calls cfg s) (f : Nat) (hn : n ≤ s.accepted.length)
    (hawaits : Awaits cfg s.requestFlush origFlushCount n) :
    Calls cfg (s.flushLoop f origFlushCount n) := by
  unfold State.flushLoop
  split
  · exact h.requestFlush.setFlusher f ⟨hn, hawaits⟩
  · next hover =>
    refine h.setFlusher f ?_
    by_cases hrunning : s.state = .running
    · -- the count has grown by two, so the cycle the call waits for is over
      have hcount : origFlushCount + 2 ≤ s.flushCount :=
        Nat.le_of_not_lt fun hlt => hover ⟨hlt, hrunning⟩
      rw [decide_eq_true hrunning]
      cases hawaits with
      | requested _ heq =>
        have heq : s.flushCount = origFlushCount := heq
        omega
      | underway i _ _ hle =>
        have hle : s.flushCount ≤ origFlushCount + 1 := hle
        omega
      | done hdone => exact ⟨hn, hdone⟩
    · rw [decide_eq_false hrunning]
      trivial

/-- **Step lemma**, calls. -/
theorem calls_step (a : Label) (hb : Buffers s) (hfiles : Files cfg s) (h : Calls cfg s)
    (hg : ((asyncLogger cfg).action a).gate s) :
    Calls cfg (((asyncLogger cfg).action a).effect s) := by
  cases a with
  | start =>
    have hstate : s.state = .initted := hg
    have hpc : s.logger = .unborn := by
      by_contra hborn
      exact hb.born hborn hstate
    refine fun f => (h f).move rfl (fun orig n _ hawaits => ?_) fun n hdone => hdone
    cases hawaits with
    | requested hflush heq => exact .requested hflush heq
    | underway i hpc' =>
      rw [hpc] at hpc'
      cases hpc'
    | done hdone => exact .done hdone
  | write forceFlush ts message messageLen =>
    show Calls cfg (s.write cfg forceFlush ts message messageLen)
    unfold State.write
    split
    · exact h
    · split
      · exact h
      · refine fun f => (h f).congr ?_ rfl rfl ?_ rfl rfl rfl
        · show s.accepted.length ≤ (s.accepted ++ [_]).length
          rw [List.length_append]
          omega
        · intro hflush
          show (s.active.flush || forceFlush) = true
          rw [hflush, Bool.true_or]
  | flush f =>
    show Calls cfg (if _ then _ else _)
    split
    · exact h.setFlusher f trivial
    · exact h.flushLoop f (Nat.le_refl _) (.requested rfl rfl)
  | flushWake f origFlushCount n =>
    have hpc : s.flushers f = .waiting origFlushCount n := hg
    have hkept : Kept cfg s.requestFlush (s.flushers f) := h.requestFlush f
    rw [hpc] at hkept
    exact h.flushLoop f hkept.1 hkept.2
  | stop | join => exact fun f => (h f).congr (Nat.le_refl _) rfl rfl id rfl rfl rfl
  | enter =>
    have hpc : s.logger = .started := hg
    exact h.turn hb (by rw [hpc]; rfl) false (turn_loop s)
  | wake =>
    have hpc : s.logger = .waiting := hg
    exact h.turn hb (by rw [hpc]; rfl) false (turn_waitLoop s)
  | timeout =>
    have hpc : s.requestFlush.logger = .waiting := hg
    exact h.requestFlush.turn hb.requestFlush (by rw [hpc]; rfl) false (turn_waitLoop _)
  | output i msg =>
    obtain ⟨hpc, hmsg⟩ := hg
    obtain ⟨hi, _⟩ := List.getElem?_eq_some_iff.mp hmsg
    refine fun f => (h f).move rfl (fun orig n _ hawaits => ?_) fun n hdone =>
      hdone.outputMsg hfiles i msg
    cases hawaits with
    | requested hflush heq => exact .requested hflush heq
    | underway j hpc' hflush hle hn =>
      rw [hpc] at hpc'
      cases hpc'
      refine .underway (i + 1) rfl hflush hle ?_
      show n ≤ (s.output ++ [msg]).length + ((s.flushing.messages.set i _).drop (i + 1)).length
      rw [List.length_drop] at hn
      rw [List.length_append, List.length_drop, List.length_set, List.length_singleton]
      omega
    | done hdone => exact .done (hdone.outputMsg hfiles i msg)
  | flushFiles i =>
    obtain ⟨hpc, hend⟩ := hg
    have hsame : s.flushFiles.accepted = s.accepted ∧ s.flushFiles.active = s.active ∧
        s.flushFiles.flushCount = s.flushCount ∧ s.flushFiles.flushers = s.flushers := by
      unfold State.flushFiles
      split <;> exact ⟨rfl, rfl, rfl, rfl⟩
    obtain ⟨haccepted, hactive, hcount, hflushers⟩ := hsame
    intro f
    show Kept cfg s.flushFiles (s.flushFiles.flushers f)
    rw [hflushers]
    refine (h f).move haccepted (fun orig n _ hawaits => ?_) fun n hdone => hdone.flushFiles hfiles
    cases hawaits with
    | requested hflush heq => exact .requested (hactive ▸ hflush) (hcount.trans heq)
    | underway j hpc' hflush hle hn =>
      rw [hpc] at hpc'
      cases hpc'
      -- nothing of the buffer is left
      rw [List.length_drop] at hn
      have hlen := List.getElem?_eq_none_iff.mp hend
      exact .done (flushed_flushFiles hfiles hflush (by omega))
    | done hdone => exact .done (hdone.flushFiles hfiles)
  | clear =>
    have hpc : s.logger = .clear := hg
    refine fun f => (h f).move rfl (fun orig n _ hawaits => ?_) fun n hdone => hdone
    cases hawaits with
    | requested hflush heq => exact .requested hflush heq
    | underway i hpc' =>
      rw [hpc] at hpc'
      cases hpc'
    | done hdone => exact .done hdone
  | relock =>
    have hpc : s.logger = .relock := hg
    exact h.turn hb (by rw [hpc]; rfl) true (turn_loop _)

/-- **Run lemma**, calls. -/
theorem calls_reachable (h : (asyncLogger cfg).Reachable s) : Calls cfg s := by
  induction h with
  | init hi =>
    obtain ⟨_, _, _, _, _, _, hflushers, _⟩ := hi
    intro f
    rw [hflushers]
    trivial
  | step a hr hstep ih =>
    obtain ⟨hg, rfl⟩ := hstep
    exact calls_step a (buffers_reachable hr) (files_reachable hr) ih hg

/-! ## Section 4: Progress -/

/-- How many steps the logger thread takes at most until `n` messages were
    handed over: the messages of its buffer, and where that is not enough,
    the way to the next swap. -/
def ahead (n : Nat) (s : State) : Nat :=
  let left := n - s.output.length
  match s.logger with
  | .output i => if left ≤ (s.flushing.messages.drop i).length then left else left + 3
  | .clear    => left + 2
  | _         => left + 1

theorem ahead_le (n : Nat) (s : State) : ahead n s ≤ n - s.output.length + 3 := by
  unfold ahead
  dsimp only
  cases s.logger with
  | output i => dsimp only; split <;> omega
  | _ => dsimp only; omega

theorem ahead_congr {s' : State} (houtput : s'.output = s.output)
    (hlogger : s'.logger = s.logger) (hflushing : s'.flushing = s.flushing) :
    ahead n s' = ahead n s := by
  unfold ahead
  rw [houtput, hlogger, hflushing]

/-- A turn of the thread while messages are waiting can only be a swap. -/
theorem ahead_turn (hb : Buffers s) (hbusy : s.logger.busy = false) (hn : n ≤ s.accepted.length)
    (hleft : s.output.length < n) {s' : State} (hturn : Turn s s') :
    ahead n s' + 1 ≤ ahead n s := by
  have hlen : s.accepted.length = s.output.length + s.active.messages.length := by
    rw [hb.flow, State.unwritten, State.rest_eq_nil hbusy, List.nil_append, List.length_append]
  have hahead : ahead n s = n - s.output.length + 1 := by
    unfold ahead
    cases hpc : s.logger with
    | output i | clear =>
      rw [hpc] at hbusy
      cases hbusy
    | _ => rfl
  cases hturn with
  | wait _ hempty | exit _ hempty =>
    rw [hempty, List.length_nil] at hlen
    omega
  | swap =>
    rw [hahead]
    show (if n - s.output.length ≤ s.active.messages.length then _ else _) + 1 ≤ _
    rw [if_pos (by omega)]
    exact Nat.le_refl _

/-- **Step lemma**, progress. -/
theorem ahead_step (a : Label) (hb : Buffers s) (hn : n ≤ s.accepted.length)
    (hleft : s.output.length < n) (hg : ((asyncLogger cfg).action a).gate s) :
    ahead n (((asyncLogger cfg).action a).effect s) + (if a.isLogger then 1 else 0) ≤
      ahead n s := by
  cases a with
  | start =>
    have hstate : s.state = .initted := hg
    have hpc : s.logger = .unborn := by
      by_contra hborn
      exact hb.born hborn hstate
    -- nothing was accepted yet
    rw [(hb.unborn hpc).2] at hn
    exact absurd hn (by simp only [List.length_nil]; omega)
  | write forceFlush ts message messageLen =>
    refine Nat.le_of_eq ?_
    show ahead n (s.write cfg forceFlush ts message messageLen) = _
    unfold State.write
    split
    · rfl
    · split
      · rfl
      · exact ahead_congr rfl rfl rfl
  | flush f =>
    refine Nat.le_of_eq ?_
    show ahead n (if _ then _ else _) = _
    split
    · exact ahead_congr rfl rfl rfl
    · unfold State.flushLoop
      split <;> exact ahead_congr rfl rfl rfl
  | flushWake f origFlushCount m =>
    refine Nat.le_of_eq ?_
    show ahead n (s.flushLoop f origFlushCount m) = _
    unfold State.flushLoop
    split <;> exact ahead_congr rfl rfl rfl
  | stop | join => exact Nat.le_of_eq (ahead_congr rfl rfl rfl)
  | enter =>
    have hpc : s.logger = .started := hg
    exact ahead_turn hb (by rw [hpc]; rfl) hn hleft (turn_loop s)
  | wake =>
    have hpc : s.logger = .waiting := hg
    exact ahead_turn hb (by rw [hpc]; rfl) hn hleft (turn_waitLoop s)
  | timeout =>
    have hpc : s.requestFlush.logger = .waiting := hg
    exact ahead_turn hb.requestFlush (by rw [hpc]; rfl) hn hleft (turn_waitLoop _)
  | relock =>
    have hpc : s.logger = .relock := hg
    have hcount : Buffers { s with flushCount := s.flushCount + 1 } :=
      hb.congr rfl rfl rfl rfl rfl rfl rfl
    exact ahead_turn hcount (by rw [hpc]; rfl) hn hleft (turn_loop _)
  | output i msg =>
    obtain ⟨hpc, hmsg⟩ := hg
    obtain ⟨hi, _⟩ := List.getElem?_eq_some_iff.mp hmsg
    have hbefore : ahead n s =
        if n - s.output.length ≤ (s.flushing.messages.drop i).length
        then n - s.output.length else n - s.output.length + 3 := by
      unfold ahead
      rw [hpc]
    rw [hbefore]
    show (if n - (s.output ++ [msg]).length ≤
        ((s.flushing.messages.set i _).drop (i + 1)).length
      then n - (s.output ++ [msg]).length else n - (s.output ++ [msg]).length + 3) + 1 ≤ _
    simp only [List.length_append, List.length_drop, List.length_set, List.length_singleton]
    split <;> split <;> omega
  | flushFiles i =>
    obtain ⟨hpc, hend⟩ := hg
    have hlen := List.getElem?_eq_none_iff.mp hend
    have hafter : ahead n s.flushFiles = n - s.output.length + 2 := by
      unfold State.flushFiles
      split <;> rfl
    have hbefore : ahead n s = n - s.output.length + 3 := by
      unfold ahead
      rw [hpc]
      simp only [List.length_drop]
      rw [if_neg (by omega)]
    show ahead n s.flushFiles + 1 ≤ ahead n s
    omega
  | clear =>
    have hpc : s.logger = .clear := hg
    have hbefore : ahead n s = n - s.output.length + 2 := by
      unfold ahead
      rw [hpc]
    rw [hbefore]
    exact Nat.le_refl _

/-- No step takes an accepted message or one handed over back. -/
theorem grows_step (a : Label) (s : State) :
    s.accepted <+: (((asyncLogger cfg).action a).effect s).accepted ∧
      s.output <+: (((asyncLogger cfg).action a).effect s).output := by
  have hturn : ∀ {x s' : State}, Turn x s' → s'.accepted = x.accepted ∧ s'.output = x.output := by
    intro x s' h
    cases h with
    | wait | swap | exit => exact ⟨rfl, rfl⟩
  have hsame : ∀ {s' : State}, s'.accepted = s.accepted ∧ s'.output = s.output →
      s.accepted <+: s'.accepted ∧ s.output <+: s'.output := by
    rintro s' ⟨haccepted, houtput⟩
    rw [haccepted, houtput]
    exact ⟨List.prefix_refl _, List.prefix_refl _⟩
  cases a with
  | write forceFlush ts message messageLen =>
    show s.accepted <+: (s.write cfg forceFlush ts message messageLen).accepted ∧
      s.output <+: (s.write cfg forceFlush ts message messageLen).output
    unfold State.write
    split
    · exact ⟨List.prefix_refl _, List.prefix_refl _⟩
    · split
      · exact ⟨List.prefix_refl _, List.prefix_refl _⟩
      · exact ⟨List.prefix_append _ _, List.prefix_refl _⟩
  | output i msg => exact ⟨List.prefix_refl _, List.prefix_append _ _⟩
  | flush f =>
    refine hsame ?_
    show (if _ then _ else _ : State).accepted = _ ∧ (if _ then _ else _ : State).output = _
    split
    · exact ⟨rfl, rfl⟩
    · unfold State.flushLoop
      split <;> exact ⟨rfl, rfl⟩
  | flushWake f origFlushCount n =>
    refine hsame ?_
    show (s.flushLoop f origFlushCount n).accepted = _ ∧ (s.flushLoop f origFlushCount n).output = _
    unfold State.flushLoop
    split <;> exact ⟨rfl, rfl⟩
  | flushFiles i =>
    refine hsame ?_
    show s.flushFiles.accepted = _ ∧ s.flushFiles.output = _
    unfold State.flushFiles
    split <;> exact ⟨rfl, rfl⟩
  | enter => exact hsame (hturn (turn_loop s))
  | wake => exact hsame (hturn (turn_waitLoop s))
  | timeout => exact hsame (hturn (x := s.requestFlush) (turn_waitLoop _))
  | relock => exact hsame (hturn (x := { s with flushCount := s.flushCount + 1 }) (turn_loop _))
  | start | stop | join | clear => exact ⟨List.prefix_refl _, List.prefix_refl _⟩

/-- **Run lemma**, progress. -/
theorem handedOver_of_run {s' : State} {as : List Label} (hb : Buffers s)
    (hrun : (asyncLogger cfg).Run s as s')
    (hsteps : s.unwritten.length + 3 < as.countP Label.isLogger) :
    s.accepted <+: s'.output := by
  let P : State → Prop := fun x => Buffers x ∧ s.accepted <+: x.accepted
  have hP : ∀ x a, P x → ((asyncLogger cfg).action a).gate x →
      P (((asyncLogger cfg).action a).effect x) := fun x a hx hg =>
    ⟨buffers_step a hx.1 hg, hx.2.trans (grows_step a x).1⟩
  have hstart : P s := ⟨hb, List.prefix_refl _⟩
  have hprogress : s.accepted.length ≤ s'.output.length ∨
      ahead s.accepted.length s' + as.countP Label.isLogger ≤ ahead s.accepted.length s :=
    hrun.progress hP (fun x a hx _ => Nat.le_trans hx (grows_step a x).2.length_le)
      (fun x a hx hleft hg => ahead_step a hx.1 hx.2.length_le (Nat.lt_of_not_le hleft) hg) hstart
  -- the rank at the start is below the number of steps
  have hle : ahead s.accepted.length s ≤ s.unwritten.length + 3 := by
    have hlen := congrArg List.length hb.flow
    rw [List.length_append] at hlen
    have := ahead_le s.accepted.length s
    omega
  have hgoal : s.accepted.length ≤ s'.output.length := by
    cases hprogress with
    | inl hreached => exact hreached
    | inr hlow => omega
  obtain ⟨hb', hprefix⟩ := hrun.preserves hP hstart
  rw [hb'.flow] at hprefix
  exact List.prefix_of_prefix_length_le hprefix (List.prefix_append _ _) hgoal

/-- The logger thread can always take its next step. -/
theorem goesOn_of_born (hborn : s.logger ≠ .unborn) (hexit : s.logger ≠ .exited) :
    ∃ a : Label, a.isLogger = true ∧ ((asyncLogger cfg).action a).gate s := by
  cases hpc : s.logger with
  | unborn => exact absurd hpc hborn
  | started => exact ⟨.enter, rfl, hpc⟩
  | waiting => exact ⟨.wake, rfl, hpc⟩
  | output i =>
    cases hmsg : s.flushing.messages[i]? with
    | none => exact ⟨.flushFiles i, rfl, hpc, hmsg⟩
    | some msg => exact ⟨.output i msg, rfl, hpc, hmsg⟩
  | clear => exact ⟨.clear, rfl, hpc⟩
  | relock => exact ⟨.relock, rfl, hpc⟩
  | exited => exact absurd hpc hexit

/-! ## Section 5: Main result -/

theorem Flushed.flushedUpTo (h : Flushed cfg s n) (hb : Buffers s) (hfiles : Files cfg s) :
    FlushedUpTo cfg s n := by
  obtain ⟨hn, hflushed⟩ := h
  have htake : s.accepted.take n = s.output.take n := by
    rw [hb.flow, List.take_append_of_le_length hn]
  refine ⟨?_, fun moduleName => ?_⟩
  · rw [hb.flow, List.length_append]
    omega
  · rw [htake, hfiles moduleName]
    exact List.prefix_take_iff.mpr ⟨prefix_entries_take moduleName n s.output, hflushed moduleName⟩

/-- **Main result**: the asynchronous logger loses and duplicates nothing. -/
theorem asyncLogger_delivered (cfg : Config) (s : State) (h : (asyncLogger cfg).Reachable s) :
    Delivered cfg s := by
  have hb := buffers_reachable h
  have hfiles := files_reachable h
  have hcalls := calls_reachable h
  constructor
  · exact hb.flow
  · exact hfiles
  · intro f n hreturned
    have hkept := hcalls f
    rw [hreturned] at hkept
    exact hkept.2.flushedUpTo hb hfiles
  · intro hexited
    have hbusy : s.logger.busy = false := by
      rw [hexited]
      rfl
    obtain ⟨_, hactive⟩ := hb.exited hexited
    obtain ⟨hflushing, _⟩ := hb.idle hbusy
    refine ⟨hactive, hflushing, ?_⟩
    rw [hb.flow, State.unwritten, State.rest_eq_nil hbusy, hactive]
    simp only [List.append_nil]
  · exact hb.checked
  · exact goesOn_of_born
  · exact fun as s' hrun hsteps => handedOver_of_run hb hrun hsteps

def testConfig : Config := ⟨0, 48, [109]⟩

def newLogger : State where
  state           := .initted
  active          := .empty
  flushing        := .empty
  flushCount      := 0
  moduleLoggerMap := fun _ => none
  logger          := .unborn
  flushers        := fun _ => .idle
  stopper         := .idle
  accepted        := []
  output          := []

def warning : Msg := ⟨7, [87, 91, 97, 93, 120], 1⟩

def info : Msg := ⟨8, [73, 121], 0⟩

/-- Two messages are written, one of module "a"; `Flush` and `Stop` are
    called. -/
def flushAndStop : List Label :=
  [.start, .write false 7 [87, 91, 97, 93, 120] 5, .enter, .write false 8 [73, 121] 2, .flush 0,
   .output 0 warning, .flushFiles 1, .clear, .relock, .flushWake 0 0 2, .output 0 info,
   .flushFiles 1, .clear, .relock, .flushWake 0 0 2, .stop, .flushFiles 0, .clear,
   .relock, .join]

theorem asyncLogger_delivered_flushAndStop :
    Delivered testConfig ((asyncLogger testConfig).exec newLogger flushAndStop) := by
  refine asyncLogger_delivered testConfig _ (System.reachable_exec _ ?_ flushAndStop ?_)
  · exact ⟨rfl, rfl, rfl, rfl, fun _ => rfl, rfl, fun _ => rfl, rfl, rfl, rfl⟩
  · decide +kernel

end CyberRT.Logger
