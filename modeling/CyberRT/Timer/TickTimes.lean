import CyberRT.Time.Rate
import CyberRT.Timer.FireTime

/-! # Timers in real time

    `TickFunc` paces the wheel with a `Rate` of one cycle for each
    millisecond tick. Here the wheel runs against the clock.

    * Reading the clock in `Sleep`, waking up from `SleepUntil`, `Tick`, and
      the advance of the indexes with its `Cascade` are one step each; the
      clock is set to any value between them.
    * A call of `AddTask` is one step too, and so falls between those of the
      wheel. A call that the wheel interrupts may miss its turn, and nothing
      is said about it here.
    * `origin` (the clock when the `Rate` was constructed), `advancedAt` (the
      clock at the last advance) and `handedAt` (the clock at each hand-over)
      are history.

    A clock that does not go back, and a tick thread that is in time, are
    restrictions of the runs. -/

namespace CyberRT.Timer.TickTimes

open CyberRT.Framework CyberRT.Time

/-! ## Section 1: Model -/

/-- `TIMER_RESOLUTION_MS * 1000000`. -/
abbrev cycleNs : Int := 1000000

/-- Where `TickFunc` is: before the construction of its `Rate`, before
    `Sleep`, in `SleepUntil`, or after `Sleep`. -/
inductive SleepPc where
  | starting
  | ticking
  | sleepUntil (deadline : Int)
  | woken
  deriving DecidableEq

/-- After `Sleep` has read the clock. -/
def SleepPc.ofDeadline : Option Int → SleepPc
  | none          => .woken
  | some deadline => .sleepUntil deadline

@[simp] theorem SleepPc.ofDeadline_ne_starting (deadline : Option Int) :
    ofDeadline deadline ≠ .starting := by
  cases deadline with
  | none   => nofun
  | some _ => nofun

@[simp] theorem SleepPc.ofDeadline_ne_ticking (deadline : Option Int) :
    ofDeadline deadline ≠ .ticking := by
  cases deadline with
  | none   => nofun
  | some _ => nofun

@[simp] theorem SleepPc.ofDeadline_eq_woken {deadline : Option Int} :
    ofDeadline deadline = .woken ↔ deadline = none := by
  cases deadline with
  | none   => exact ⟨fun _ => rfl, fun _ => rfl⟩
  | some _ => exact ⟨nofun, nofun⟩

@[simp] theorem SleepPc.ofDeadline_eq_sleepUntil {deadline : Option Int} {target : Int} :
    ofDeadline deadline = .sleepUntil target ↔ deadline = some target := by
  cases deadline with
  | none   => exact ⟨nofun, nofun⟩
  | some x =>
    constructor
    · intro h
      rw [SleepPc.sleepUntil.inj h]
    · intro h
      rw [Option.some.inj h]
      rfl

structure State where
  loop       : TickLoop
  rate       : Rate
  pc         : SleepPc
  clock      : Int
  origin     : Int
  advancedAt : Int
  handedAt   : TaskId → List Int

def State.add (s : State) (id : TaskId) : State := { s with loop := s.loop.add id }

inductive Label where
  | start
  | tick
  | sleep
  | wake
  | advance
  | addTask (id : TaskId)
  | owner (id : TaskId) (task : Option TimerTask)
  | clock (now : Int)

def tickTimes : System State Label where
  init s := tickFunc.init s.loop ∧ s.pc = .starting ∧ ∀ id, s.handedAt id = []
  action
    | .start =>
      { gate   := fun s => s.loop.wheel.running = true ∧ s.pc = .starting
        effect := fun s =>
          { s with rate := .new s.clock cycleNs, pc := .ticking, origin := s.clock } }
    | .tick =>
      { gate   := fun s => (tickFunc.action .tick).gate s.loop ∧ s.pc = .ticking
        effect := fun s =>
          { s with
            loop     := (tickFunc.action .tick).effect s.loop
            handedAt := fun id =>
              s.handedAt id ++ List.replicate (s.loop.wheel.tick.1.count id) s.clock } }
    | .sleep =>
      { gate   := fun s => s.loop.phase = .asleep ∧ s.pc = .ticking
        effect := fun s =>
          { s with
            rate := (s.rate.sleep s.clock).1
            pc   := .ofDeadline (s.rate.sleep s.clock).2 } }
    | .wake =>
      { gate   := fun s => ∃ deadline ≤ s.clock, s.pc = .sleepUntil deadline
        effect := fun s => { s with pc := .woken } }
    | .advance =>
      { gate   := fun s => (tickFunc.action .advance).gate s.loop ∧ s.pc = .woken
        effect := fun s =>
          { s with
            loop       := (tickFunc.action .advance).effect s.loop
            pc         := .ticking
            advancedAt := s.clock } }
    | .addTask id =>
      { gate   := fun s => (tickFunc.action (.addTask id)).gate s.loop
        effect := fun s => s.add id }
    | .owner id task =>
      { gate   := fun s => (tickFunc.action (.owner id task)).gate s.loop
        effect := fun s => { s with loop := (tickFunc.action (.owner id task)).effect s.loop } }
    | .clock now =>
      { gate   := fun _ => True
        effect := fun s => { s with clock := now } }

instance decidableGate :
    ∀ (a : Label) (s : State), Decidable ((tickTimes.action a).gate s)
  | .start, s => inferInstanceAs (Decidable (s.loop.wheel.running = true ∧ s.pc = .starting))
  | .tick, s  =>
    inferInstanceAs (Decidable
      ((s.loop.wheel.running = true ∧ s.loop.phase = .beforeTick) ∧ s.pc = .ticking))
  | .sleep, s => inferInstanceAs (Decidable (s.loop.phase = .asleep ∧ s.pc = .ticking))
  | .wake, s  =>
    match hpc : s.pc with
    | .sleepUntil deadline =>
      decidable_of_iff (deadline ≤ s.clock) (by
        constructor
        · exact fun hle => ⟨deadline, hle, hpc⟩
        · rintro ⟨target, hle, htarget⟩
          rw [SleepPc.sleepUntil.inj (hpc.symm.trans htarget)]
          exact hle)
    | .starting | .ticking | .woken => .isFalse (by
        rintro ⟨target, -, htarget⟩
        cases hpc.symm.trans htarget)
  | .advance, s =>
    inferInstanceAs (Decidable
      ((s.loop.wheel.running = true ∧ s.loop.phase = .asleep) ∧ s.pc = .woken))
  | .addTask id, s => inferInstanceAs (Decidable (s.loop.wheel.tasks id).isSome)
  | .owner _ _, _ | .clock _, _ => inferInstanceAs (Decidable True)

/-- The step of the wheel. -/
def Label.wheel : Label → Option Timer.Label
  | .tick          => some .tick
  | .advance       => some .advance
  | .addTask id    => some (.addTask id)
  | .owner id task => some (.owner id task)
  | .start | .sleep | .wake | .clock _ => none

/-- The clock does not go back. -/
def Forward (s : State) : Label → Prop
  | .clock now => s.clock ≤ now
  | _          => True

/-- The clock does not go back, a tick is over by the end of its cycle, and
    the thread ticks within `latency` of the beginning of the cycle. -/
def InTime (latency : Int) (s : State) : Label → Prop
  | .clock now => s.clock ≤ now
  | .sleep     => s.clock ≤ s.rate.start + cycleNs
  | .tick | .advance => s.clock ≤ s.rate.start + latency
  | _          => True

instance decidableForward (s : State) : ∀ a, Decidable (Forward s a)
  | .clock now => inferInstanceAs (Decidable (s.clock ≤ now))
  | .start | .tick | .sleep | .wake | .advance | .addTask _ | .owner _ _ =>
    inferInstanceAs (Decidable True)

instance decidableInTime (latency : Int) (s : State) : ∀ a, Decidable (InTime latency s a)
  | .clock now       => inferInstanceAs (Decidable (s.clock ≤ now))
  | .sleep           => inferInstanceAs (Decidable (s.clock ≤ s.rate.start + cycleNs))
  | .tick | .advance => inferInstanceAs (Decidable (s.clock ≤ s.rate.start + latency))
  | .start | .wake | .addTask _ | .owner _ _ => inferInstanceAs (Decidable True)

/-! ## Section 2: The wheel -/

/-- Runs against the clock are runs of the wheel. -/
theorem loop_run {s s' : State} {as : List Label} (h : tickTimes.Run s as s') :
    tickFunc.Run s.loop (as.filterMap Label.wheel) s'.loop := by
  apply h.project
  · intro s a ha hg
    cases a with
    | tick | advance | addTask id | owner id task => cases ha
    | start | sleep | wake | clock now => rfl
  · intro s a b hb hg
    cases a with
    | start | sleep | wake | clock now => cases hb
    | tick | advance =>
      obtain rfl := Option.some.inj hb
      exact ⟨hg.1, rfl⟩
    | addTask id | owner id task =>
      obtain rfl := Option.some.inj hb
      exact ⟨hg, rfl⟩

/-- The step neither adds the task `id` again nor writes to it. -/
def Label.spares (id : TaskId) (a : Label) : Prop := ∀ b, a.wheel = some b → b.spares id

/-- A step of the tick thread, or of the clock. -/
def Label.byTickThread : Label → Bool
  | .addTask _ | .owner _ _ => false
  | _ => true

theorem spares_of_byTickThread {a : Label} (h : a.byTickThread = true) (id : TaskId) :
    a.spares id := by
  intro b hb
  cases a with
  | addTask _ | owner _ _ => cases h
  | start | sleep | wake | clock now => cases hb
  | tick | advance =>
    obtain rfl := Option.some.inj hb
    trivial

/-! ## Section 3: A clock that does not go back -/

section forward
variable {s s₀ : State}

/-- The cycle has begun. -/
structure Paced (s : State) : Prop where
  fresh   : s.pc = .starting → s.loop.advances = 0
  cycle   : s.pc ≠ .starting → s.rate.expectedCycleTime = cycleNs
  started : s.pc = .ticking ∨ s.pc = .woken → s.rate.start ≤ s.clock
  target  : ∀ deadline, s.pc = .sleepUntil deadline → s.rate.start = deadline

theorem Paced.pos (h : Paced s) (hpc : s.pc = .ticking) :
    s.rate.expectedCycleTime = cycleNs ∧ 0 ≤ s.rate.expectedCycleTime := by
  have hcycle : s.rate.expectedCycleTime = cycleNs := by
    apply h.cycle
    rw [hpc]
    nofun
  refine ⟨hcycle, ?_⟩
  rw [hcycle]
  decide

theorem paced_sleep (h : Paced s) (hpc : s.pc = .ticking) :
    Paced ((tickTimes.action .sleep).effect s) := by
  have hstarted := h.started (.inl hpc)
  obtain ⟨hcycle, hpos⟩ := h.pos hpc
  constructor
  · exact fun hstarting => absurd hstarting (SleepPc.ofDeadline_ne_starting _)
  · exact fun _ => (s.rate.sleep_expectedCycleTime s.clock).trans hcycle
  · rintro (hticking | hwoken)
    · exact absurd hticking (SleepPc.ofDeadline_ne_ticking _)
    · exact (Rate.sleep_start hpos hstarted).2.2 (SleepPc.ofDeadline_eq_woken.mp hwoken)
  · intro deadline htarget
    exact (Rate.sleep_some (SleepPc.ofDeadline_eq_sleepUntil.mp htarget)).1

/-- **Step lemma**. -/
theorem paced_step (s : State) (a : Label) (h : Paced s) (hg : (tickTimes.action a).gate s)
    (ha : Forward s a) : Paced ((tickTimes.action a).effect s) := by
  cases a with
  | start => exact ⟨nofun, fun _ => rfl, fun _ => Int.le_refl _, nofun⟩
  | tick => exact ⟨h.fresh, h.cycle, h.started, h.target⟩
  | sleep => exact paced_sleep h hg.2
  | wake =>
    obtain ⟨deadline, hle, hpc⟩ := hg
    refine ⟨nofun, fun _ => ?_, fun _ => ?_, nofun⟩
    · apply h.cycle
      rw [hpc]
      nofun
    · show s.rate.start ≤ s.clock
      rw [h.target deadline hpc]
      exact hle
  | advance =>
    refine ⟨nofun, fun _ => ?_, fun _ => h.started (.inr hg.2), nofun⟩
    apply h.cycle
    rw [hg.2]
    nofun
  | addTask id => exact ⟨h.fresh, h.cycle, h.started, h.target⟩
  | owner id task => exact ⟨h.fresh, h.cycle, h.started, h.target⟩
  | clock now =>
    refine ⟨h.fresh, h.cycle, fun hawake => ?_, h.target⟩
    exact Int.le_trans (h.started hawake) ha

theorem paced_init (hi : tickTimes.init s) : Paced s := by
  obtain ⟨hloop, hpc, -⟩ := hi
  refine ⟨fun _ => hloop.2.2.1, fun hne => absurd hpc hne, ?_, ?_⟩
  · rw [hpc]
    rintro (hticking | hwoken)
    · cases hticking
    · cases hwoken
  · rw [hpc]
    nofun

/-! ## Section 4: Hand-overs -/

/-- The hand-overs since `s₀`, each with the count of advances and the clock,
    meet `ok`. -/
def HandedSince (ok : Nat → Int → Prop) (s₀ s : State) : Prop :=
  ∀ id, ∃ new : List (Nat × Int), s.loop.handed id = s₀.loop.handed id ++ new.map (·.1) ∧
    s.handedAt id = s₀.handedAt id ++ new.map (·.2) ∧ ∀ e ∈ new, ok e.1 e.2

variable {ok : Nat → Int → Prop}

theorem handedSince_self (s : State) : HandedSince ok s s :=
  fun _ => ⟨[], (List.append_nil _).symm, (List.append_nil _).symm, nofun⟩

theorem HandedSince.tick (h : HandedSince ok s₀ s) (hok : ok s.loop.advances s.clock) :
    HandedSince ok s₀ ((tickTimes.action .tick).effect s) := by
  intro id
  obtain ⟨new, hhanded, hat, hall⟩ := h id
  refine ⟨new ++ List.replicate (s.loop.wheel.tick.1.count id) (s.loop.advances, s.clock),
    ?_, ?_, ?_⟩
  · show s.loop.handed id ++ _ = _
    rw [hhanded, List.map_append, List.map_replicate, List.append_assoc]
  · show s.handedAt id ++ _ = _
    rw [hat, List.map_append, List.map_replicate, List.append_assoc]
  · intro e he
    rcases List.mem_append.mp he with hold | hnew
    · exact hall e hold
    · rw [List.eq_of_mem_replicate hnew]
      exact hok

/-- The wheel hands the task over at most once, so there is one time of it. -/
theorem HandedSince.atMostOne (h : HandedSince ok s₀ s) {id : TaskId} {due : Nat} {p : Prop}
    [Decidable p] (hloop : s.loop.handed id = s₀.loop.handed id ++ if p then [due] else []) :
    (p → ∃ now, s.handedAt id = s₀.handedAt id ++ [now] ∧ ok due now) ∧
      (¬ p → s.handedAt id = s₀.handedAt id) := by
  obtain ⟨new, hhanded, hat, hall⟩ := h id
  have hnew : new.map (·.1) = if p then [due] else [] :=
    List.append_cancel_left (hhanded.symm.trans hloop)
  constructor
  · intro hp
    rw [if_pos hp] at hnew
    obtain ⟨e, rfl, hdue⟩ := List.map_eq_singleton_iff.mp hnew
    refine ⟨e.2, hat, ?_⟩
    rw [← hdue]
    exact hall e List.mem_cons_self
  · intro hp
    rw [if_neg hp] at hnew
    rw [hat, List.map_eq_nil_iff.mp hnew]
    exact List.append_nil _

/-! ## Section 5: Not early -/

/-- Three cycles of grace: the thread may be late with the advance it is
    about to make, and `Rate` makes up for one cycle. -/
def notBefore (s₀ : State) (n : Nat) : Int :=
  s₀.clock + ((n : Int) - s₀.loop.advances - 3) * cycleNs

theorem notBefore_succ (s₀ : State) (n : Nat) :
    notBefore s₀ (n + 1) = notBefore s₀ n + cycleNs := by
  simp only [notBefore, cycleNs]
  omega

theorem notBefore_two (s₀ : State) :
    notBefore s₀ (s₀.loop.advances + 2) = s₀.clock - cycleNs := by
  simp only [notBefore, cycleNs]
  omega

theorem notBefore_le {n : Nat} (h : n ≤ s₀.loop.advances + 1) : notBefore s₀ n ≤ s₀.clock := by
  simp only [notBefore, cycleNs]
  omega

/-- How far the wheel has come since `s₀`. -/
structure Since (s₀ s : State) : Prop where
  clock    : s₀.clock ≤ s.clock
  advances : s₀.loop.advances ≤ s.loop.advances
  bound    : notBefore s₀ s.loop.advances ≤ s.clock
  begun    : s.pc = .ticking → s₀.loop.advances + 2 ≤ s.loop.advances →
    notBefore s₀ s.loop.advances ≤ s.rate.start
  slept    : s.pc ≠ .starting → s.pc ≠ .ticking → s₀.loop.advances + 1 ≤ s.loop.advances →
    notBefore s₀ (s.loop.advances + 1) ≤ s.rate.start
  handed   : HandedSince (fun n now => notBefore s₀ n ≤ now) s₀ s

theorem since_sleep (hp : Paced s) (h : Since s₀ s) (hpc : s.pc = .ticking) :
    Since s₀ ((tickTimes.action .sleep).effect s) := by
  obtain ⟨hcycle, hpos⟩ := hp.pos hpc
  obtain ⟨hnext, hbehind, -⟩ := Rate.sleep_start hpos (hp.started (.inl hpc))
  refine ⟨h.clock, h.advances, h.bound, ?_, fun _ _ hone => ?_, h.handed⟩
  · exact fun hticking => absurd hticking (SleepPc.ofDeadline_ne_ticking _)
  · show notBefore s₀ (s.loop.advances + 1) ≤ (s.rate.sleep s.clock).1.start
    rcases Nat.lt_or_ge s.loop.advances (s₀.loop.advances + 2) with hfirst | hlater
    · have hadvances : s.loop.advances + 1 = s₀.loop.advances + 2 := by
        have hone : s₀.loop.advances + 1 ≤ s.loop.advances := hone
        omega
      have hclock := h.clock
      rw [hadvances, notBefore_two]
      omega
    · have hbegun := h.begun hpc hlater
      rw [notBefore_succ]
      omega

theorem since_advance (hp : Paced s) (h : Since s₀ s) (hpc : s.pc = .woken) :
    Since s₀ ((tickTimes.action .advance).effect s) := by
  have hstarted := hp.started (.inr hpc)
  have hslept := h.slept (by rw [hpc]; nofun) (by rw [hpc]; nofun)
  have hclock := h.clock
  have hadvances := h.advances
  refine ⟨h.clock, Nat.le_succ_of_le h.advances, ?_, fun _ htwo => ?_, ?_, h.handed⟩
  · show notBefore s₀ (s.loop.advances + 1) ≤ s.clock
    rcases Nat.lt_or_ge s₀.loop.advances s.loop.advances with hlater | hfirst
    · exact Int.le_trans (hslept hlater) hstarted
    · exact Int.le_trans (notBefore_le (by omega)) hclock
  · have htwo : s₀.loop.advances + 2 ≤ s.loop.advances + 1 := htwo
    exact hslept (by omega)
  · exact fun _ hne => absurd rfl hne

/-- **Step lemma**. -/
theorem since_step (s : State) (a : Label) (hp : Paced s) (h : Since s₀ s)
    (hg : (tickTimes.action a).gate s) (ha : Forward s a) :
    Since s₀ ((tickTimes.action a).effect s) := by
  cases a with
  | start =>
    -- nothing has been advanced before
    have hzero := hp.fresh hg.2
    have hadvances := h.advances
    refine ⟨h.clock, h.advances, h.bound, fun _ htwo => ?_, fun _ hne => absurd rfl hne, h.handed⟩
    have htwo : s₀.loop.advances + 2 ≤ s.loop.advances := htwo
    omega
  | tick => exact ⟨h.clock, h.advances, h.bound, h.begun, h.slept, h.handed.tick h.bound⟩
  | sleep => exact since_sleep hp h hg.2
  | wake =>
    obtain ⟨deadline, -, hpc⟩ := hg
    refine ⟨h.clock, h.advances, h.bound, nofun, fun _ _ => h.slept ?_ ?_, h.handed⟩
    · rw [hpc]
      nofun
    · rw [hpc]
      nofun
  | advance => exact since_advance hp h hg.2
  | addTask id => exact ⟨h.clock, h.advances, h.bound, h.begun, h.slept, h.handed⟩
  | owner id task => exact ⟨h.clock, h.advances, h.bound, h.begun, h.slept, h.handed⟩
  | clock now =>
    exact ⟨Int.le_trans h.clock ha, h.advances, Int.le_trans h.bound ha, h.begun, h.slept,
      h.handed⟩

theorem since_self (s : State) : Since s s := by
  refine ⟨Int.le_refl _, Nat.le_refl _, notBefore_le (Nat.le_succ _), ?_, ?_, handedSince_self s⟩
  · intro _ htwo
    omega
  · intro _ _ hone
    omega

/-- **Run lemma**, the wheel: after `AddTask` the task is handed over once, at
    the tick its `fireDelay` names. -/
theorem handed_once {task : TimerTask} {id : TaskId} {as : List Label} {s s' : State}
    (htask : s.loop.wheel.tasks id = some task) (habs : Absent s.loop.wheel id)
    (hd : 1 ≤ task.nextFireDurationMs) (hd' : task.nextFireDurationMs < timerMaxIntervalMs)
    (has : ∀ a ∈ as, a.spares id) (hrun : tickTimes.Run (s.add id) as s') {due : Nat}
    (hdue : due = s.loop.advances +
      fireDelay s.loop.wheel.currentWorkWheelIndex.val task.nextFireDurationMs) :
    s'.loop.handed id = s.loop.handed id ++ if Passed s'.loop due then [due] else [] := by
  refine handed_after_fireDelay htask habs hd hd' ?_ (loop_run hrun) hdue
  intro b hb
  obtain ⟨a, ha, hab⟩ := List.mem_filterMap.mp hb
  exact has a ha b hab

/-- **Timers are not early**: on a clock that does not go back, a task added
    between two steps of the wheel, and added again by nobody, is handed over
    once, when the wheel has passed its `fireDelay`, and not before
    `fireDelay - 3` milliseconds have passed, however late the tick thread
    has been. -/
theorem timer_notEarly {s s' : State} {id : TaskId} {task : TimerTask} {as : List Label}
    (hr : (tickTimes.restrict Forward).Reachable s)
    (htask : s.loop.wheel.tasks id = some task) (habs : Absent s.loop.wheel id)
    (hd : 1 ≤ task.nextFireDurationMs) (hd' : task.nextFireDurationMs < timerMaxIntervalMs)
    (has : ∀ a ∈ as, a.spares id) (hrun : (tickTimes.restrict Forward).Run (s.add id) as s')
    {delay : Nat}
    (hdelay : delay =
      fireDelay s.loop.wheel.currentWorkWheelIndex.val task.nextFireDurationMs) :
    (Passed s'.loop (s.loop.advances + delay) →
        ∃ now, s'.handedAt id = s.handedAt id ++ [now] ∧
          s.clock + ((delay : Int) - 3) * cycleNs ≤ now) ∧
      (¬ Passed s'.loop (s.loop.advances + delay) → s'.handedAt id = s.handedAt id) := by
  have hpaced : Paced s := by
    apply System.invariant _ _ hr
    · exact fun s hi => paced_init hi
    · exact fun s a hp hg => paced_step s a hp hg.1 hg.2
  have hadd : Paced (s.add id) := ⟨hpaced.fresh, hpaced.cycle, hpaced.started, hpaced.target⟩
  have hsince : Paced s' ∧ Since (s.add id) s' := by
    apply hrun.preserves (P := fun s' => Paced s' ∧ Since (s.add id) s')
    · rintro s' a ⟨hp, hs⟩ ⟨hg, ha⟩
      exact ⟨paced_step s' a hp hg ha, since_step s' a hp hs hg ha⟩
    · exact ⟨hadd, since_self _⟩
  have hloop := handed_once htask habs hd hd' has hrun.of_restrict (congrArg _ hdelay)
  obtain ⟨hpassed, hnot⟩ := hsince.2.handed.atMostOne hloop
  refine ⟨fun hp => ?_, hnot⟩
  obtain ⟨now, hat, hbound⟩ := hpassed hp
  refine ⟨now, hat, ?_⟩
  have hadvances : (s.add id).loop.advances = s.loop.advances := rfl
  have hclock : (s.add id).clock = s.clock := rfl
  simp only [notBefore, cycleNs, hadvances, hclock] at hbound ⊢
  omega

/-- A wheel without tasks, the thread not started. -/
def idle : State where
  loop       :=
    { wheel    :=
        { running                    := false
          workWheel                  := fun _ => []
          assistantWheel             := fun _ => []
          currentWorkWheelIndex      := 0
          currentAssistantWheelIndex := 0
          tasks                      := fun _ => none }
      phase    := .beforeTick
      advances := 0
      handed   := fun _ => [] }
  rate       := .new 0 cycleNs
  pc         := .starting
  clock      := 0
  origin     := 0
  advancedAt := 0
  handedAt   := fun _ => []

theorem idle_init : tickTimes.init idle :=
  ⟨⟨rfl, rfl, rfl, rfl, rfl, fun _ => rfl, fun _ => rfl, fun _ => rfl⟩, rfl, fun _ => rfl⟩

/-- Some other task has started the thread, which wakes up two cycles late. -/
def wokenLate : List Label :=
  [.owner 1 (some ⟨0, 100⟩), .addTask 1, .start, .tick, .sleep, .clock 3000000, .wake,
   .owner 0 (some ⟨0, 3⟩)]

/-- The thread goes through three ticks at once. -/
def threeTicks : List Label :=
  [.advance, .tick, .sleep, .advance, .tick, .sleep, .wake, .advance, .tick]

/-- The task is handed over at the time at which it was added. -/
theorem timer_notEarly_wokenLate :
    (tickTimes.exec idle wokenLate).clock = 3000000 ∧
      (tickTimes.exec ((tickTimes.exec idle wokenLate).add 0) threeTicks).handedAt 0 =
        [3000000] ∧ 3000000 + (((3 : Nat) : Int) - 3) * cycleNs ≤ 3000000 := by
  have ha : (tickTimes.restrict Forward).Admits idle wokenLate := by decide +kernel
  have hi : (tickTimes.restrict Forward).init idle := idle_init
  have hreachable := System.reachable_exec _ hi wokenLate ha
  have hthree : (tickTimes.restrict Forward).Admits
      ((tickTimes.exec idle wokenLate).add 0) threeTicks := by
    decide +kernel
  have hrun := System.run_exec _ _ threeTicks hthree
  rw [System.exec_restrict] at hreachable hrun
  have hthread : ∀ a ∈ threeTicks, a.byTickThread = true := by decide
  have htask : (tickTimes.exec idle wokenLate).loop.wheel.tasks 0 = some ⟨0, 3⟩ := rfl
  have habs : Absent (tickTimes.exec idle wokenLate).loop.wheel 0 :=
    ⟨by decide +kernel, by decide +kernel⟩
  have hdelay : 3 = fireDelay
      (tickTimes.exec idle wokenLate).loop.wheel.currentWorkWheelIndex.val 3 := by decide +kernel
  have hpassed : Passed (tickTimes.exec ((tickTimes.exec idle wokenLate).add 0) threeTicks).loop
      ((tickTimes.exec idle wokenLate).loop.advances + 3) := .inr (by decide +kernel)
  have hclock : (tickTimes.exec idle wokenLate).clock = 3000000 := rfl
  have hold : (tickTimes.exec idle wokenLate).handedAt 0 = [] := rfl
  have hend : (tickTimes.exec ((tickTimes.exec idle wokenLate).add 0) threeTicks).handedAt 0 =
      [3000000] := by
    decide +kernel
  obtain ⟨now, hat, hnow⟩ := (timer_notEarly hreachable htask habs (by decide) (by decide)
    (fun a ha => spares_of_byTickThread (hthread a ha) 0) hrun hdelay).1 hpassed
  rw [hold, hend] at hat
  obtain rfl : 3000000 = now := List.head_eq_of_cons_eq hat
  rw [hclock] at hnow
  exact ⟨hclock, hend, hnow⟩

end forward

end CyberRT.Timer.TickTimes
