import CyberRT.Timer.TickTimes

/-! # Timers in time

    As long as the tick thread is in time the `Rate` loses nothing: each
    cycle begins where the one before was to end, however late within its
    cycle the thread woke up. -/

namespace CyberRT.Timer.TickTimes

open CyberRT.Framework CyberRT.Time

/-! ## Section 1: Cycles -/

section inTime
variable {latency : Int} {s s₀ : State}

theorem Forward.of_inTime {a : Label} (h : InTime latency s a) : Forward s a := by
  cases a with
  | clock now => exact h
  | start | tick | sleep | wake | advance | addTask id | owner id task => trivial

/-- No cycle has been lost: the cycles begin where they should. -/
structure OnTrack (latency : Int) (s : State) : Prop where
  elapsed  : s.pc ≠ .starting → s.origin + s.loop.advances * cycleNs ≤ s.clock
  begun    : s.pc = .ticking → s.rate.start = s.origin + s.loop.advances * cycleNs
  slept    : s.pc ≠ .starting → s.pc ≠ .ticking →
    s.rate.start = s.origin + (s.loop.advances + 1) * cycleNs
  advanced : 1 ≤ s.loop.advances → s.origin + s.loop.advances * cycleNs ≤ s.advancedAt ∧
    s.advancedAt ≤ s.origin + s.loop.advances * cycleNs + latency

theorem onTrack_step (s : State) (a : Label) (hp : Paced s) (h : OnTrack latency s)
    (hg : (tickTimes.action a).gate s) (ha : InTime latency s a) :
    OnTrack latency ((tickTimes.action a).effect s) := by
  cases a with
  | start =>
    have hzero := hp.fresh hg.2
    have horigin : s.clock + s.loop.advances * cycleNs = s.clock := by
      rw [hzero]
      simp
    refine ⟨fun _ => ?_, fun _ => horigin.symm, fun _ hne => absurd rfl hne, fun hone => ?_⟩
    · show s.clock + s.loop.advances * cycleNs ≤ s.clock
      exact Int.le_of_eq horigin
    · have hone : 1 ≤ s.loop.advances := hone
      omega
  | tick => exact ⟨h.elapsed, h.begun, h.slept, h.advanced⟩
  | sleep =>
    obtain ⟨hcycle, -⟩ := hp.pos hg.2
    have hstart := h.begun hg.2
    have htime : s.clock ≤ s.rate.start + s.rate.expectedCycleTime := by
      rw [hcycle]
      exact ha
    obtain ⟨hnext, -⟩ := Rate.sleep_inTime (hp.started (.inl hg.2)) htime
    refine ⟨fun _ => h.elapsed (by rw [hg.2]; nofun), ?_, fun _ _ => ?_, h.advanced⟩
    · exact fun hticking => absurd hticking (SleepPc.ofDeadline_ne_ticking _)
    · show (s.rate.sleep s.clock).1.start = s.origin + (s.loop.advances + 1) * cycleNs
      rw [hnext, hcycle, hstart]
      simp only [cycleNs]
      omega
  | wake =>
    obtain ⟨deadline, -, hpc⟩ := hg
    have hstarting : s.pc ≠ .starting := by
      rw [hpc]
      nofun
    have hticking : s.pc ≠ .ticking := by
      rw [hpc]
      nofun
    exact ⟨fun _ => h.elapsed hstarting, nofun, fun _ _ => h.slept hstarting hticking,
      h.advanced⟩
  | advance =>
    have hstart := h.slept (by rw [hg.2]; nofun) (by rw [hg.2]; nofun)
    have hstarted := hp.started (.inr hg.2)
    have hlate : s.clock ≤ s.rate.start + latency := ha
    have hcast : ((s.loop.advances + 1 : Nat) : Int) = s.loop.advances + 1 := Int.natCast_succ _
    refine ⟨fun _ => ?_, fun _ => ?_, fun _ hne => absurd rfl hne, fun _ => ⟨?_, ?_⟩⟩
    · show s.origin + ((s.loop.advances + 1 : Nat) : Int) * cycleNs ≤ s.clock
      rw [hcast, ← hstart]
      exact hstarted
    · show s.rate.start = s.origin + ((s.loop.advances + 1 : Nat) : Int) * cycleNs
      rw [hcast]
      exact hstart
    · show s.origin + ((s.loop.advances + 1 : Nat) : Int) * cycleNs ≤ s.clock
      rw [hcast, ← hstart]
      exact hstarted
    · show s.clock ≤ s.origin + ((s.loop.advances + 1 : Nat) : Int) * cycleNs + latency
      rw [hcast, ← hstart]
      exact hlate
  | addTask id => exact ⟨h.elapsed, h.begun, h.slept, h.advanced⟩
  | owner id task => exact ⟨h.elapsed, h.begun, h.slept, h.advanced⟩
  | clock now =>
    exact ⟨fun hpc => Int.le_trans (h.elapsed hpc) ha, h.begun, h.slept, h.advanced⟩

theorem onTrack_init (hi : tickTimes.init s) : OnTrack latency s := by
  obtain ⟨hloop, hpc, -⟩ := hi
  have hzero : s.loop.advances = 0 := hloop.2.2.1
  refine ⟨fun hne => absurd hpc hne, fun hticking => ?_, fun hne => absurd hpc hne, fun hone => ?_⟩
  · cases hpc.symm.trans hticking
  · omega

/-- **Run lemma**. -/
theorem onTrack_reachable (h : (tickTimes.restrict (InTime latency)).Reachable s) :
    Paced s ∧ OnTrack latency s := by
  apply System.invariant _ _ h
  · exact fun s hi => ⟨paced_init hi, onTrack_init hi⟩
  · rintro s a ⟨hp, hs⟩ ⟨hg, ha⟩
    exact ⟨paced_step s a hp hg (.of_inTime ha), onTrack_step s a hp hs hg ha⟩

/-! ## Section 2: Hand-overs -/

/-- The time of the `n`-th tick. -/
def dueAt (s₀ : State) (n : Nat) : Int := s₀.origin + n * cycleNs

/-- What has happened since `s₀`, the thread running. -/
structure After (latency : Int) (s₀ s : State) : Prop where
  origin   : s.origin = s₀.origin
  running  : s.pc ≠ .starting
  clock    : s₀.clock ≤ s.clock
  advances : s₀.loop.advances ≤ s.loop.advances
  before   : s₀.loop.advances < s.loop.advances →
    s₀.clock ≤ dueAt s₀ (s₀.loop.advances + 1) + latency
  handed   : HandedSince (fun n now => dueAt s₀ n ≤ now ∧ now ≤ dueAt s₀ n + latency) s₀ s

theorem after_step (s : State) (a : Label) (hp : Paced s) (ht : OnTrack latency s)
    (h : After latency s₀ s) (hg : (tickTimes.action a).gate s) (ha : InTime latency s a) :
    After latency s₀ ((tickTimes.action a).effect s) := by
  cases a with
  | start => exact absurd hg.2 h.running
  | tick =>
    have hstart := ht.begun hg.2
    have hstarted := hp.started (.inl hg.2)
    have hlate : s.clock ≤ s.rate.start + latency := ha
    rw [h.origin] at hstart
    refine ⟨h.origin, h.running, h.clock, h.advances, h.before, h.handed.tick ⟨?_, ?_⟩⟩
    · rw [dueAt, ← hstart]
      exact hstarted
    · rw [dueAt, ← hstart]
      exact hlate
  | sleep =>
    exact ⟨h.origin, SleepPc.ofDeadline_ne_starting _, h.clock, h.advances, h.before, h.handed⟩
  | wake => exact ⟨h.origin, nofun, h.clock, h.advances, h.before, h.handed⟩
  | advance =>
    refine ⟨h.origin, nofun, h.clock, Nat.le_succ_of_le h.advances, fun _ => ?_, h.handed⟩
    rcases Nat.lt_or_ge s₀.loop.advances s.loop.advances with hlater | hfirst
    · exact h.before hlater
    · -- the first advance since `s₀`
      have hsame : s.loop.advances = s₀.loop.advances := Nat.le_antisymm hfirst h.advances
      have hstart := ht.slept (by rw [hg.2]; nofun) (by rw [hg.2]; nofun)
      have hlate : s.clock ≤ s.rate.start + latency := ha
      have hcast : ((s₀.loop.advances + 1 : Nat) : Int) = s₀.loop.advances + 1 :=
        Int.natCast_succ _
      rw [h.origin, hsame] at hstart
      rw [dueAt, hcast, ← hstart]
      exact Int.le_trans h.clock hlate
  | addTask id => exact ⟨h.origin, h.running, h.clock, h.advances, h.before, h.handed⟩
  | owner id task => exact ⟨h.origin, h.running, h.clock, h.advances, h.before, h.handed⟩
  | clock now =>
    exact ⟨h.origin, h.running, Int.le_trans h.clock ha, h.advances, h.before, h.handed⟩

/-- **Timers are in time**: as long as the tick thread is, the `n`-th tick is
    due exactly `n` milliseconds after the first one, and a task added between
    two steps of the wheel for `delay` ticks is handed over once, `delay`
    milliseconds later but for the rest of the current tick and the latency
    of the thread. -/
theorem timer_inTime {s s' : State} {id : TaskId} {task : TimerTask} {as : List Label}
    (hr : (tickTimes.restrict (InTime latency)).Reachable s) (hpc : s.pc ≠ .starting)
    (htask : s.loop.wheel.tasks id = some task) (habs : Absent s.loop.wheel id)
    (hd : 1 ≤ task.nextFireDurationMs) (hd' : task.nextFireDurationMs < timerMaxIntervalMs)
    (has : ∀ a ∈ as, a.spares id)
    (hrun : (tickTimes.restrict (InTime latency)).Run (s.add id) as s') {delay : Nat}
    (hdelay : delay =
      fireDelay s.loop.wheel.currentWorkWheelIndex.val task.nextFireDurationMs) :
    (1 ≤ s'.loop.advances → dueAt s s'.loop.advances ≤ s'.advancedAt ∧
        s'.advancedAt ≤ dueAt s s'.loop.advances + latency) ∧
      (Passed s'.loop (s.loop.advances + delay) →
        ∃ now, s'.handedAt id = s.handedAt id ++ [now] ∧
          s.clock + ((delay : Int) - 1) * cycleNs - latency ≤ now ∧
          now ≤ s.clock + delay * cycleNs + latency) ∧
      (¬ Passed s'.loop (s.loop.advances + delay) → s'.handedAt id = s.handedAt id) := by
  obtain ⟨hpaced, htrack⟩ := onTrack_reachable hr
  have hadd : Paced (s.add id) ∧ OnTrack latency (s.add id) ∧
      After latency (s.add id) (s.add id) := by
    refine ⟨⟨hpaced.fresh, hpaced.cycle, hpaced.started, hpaced.target⟩,
      ⟨htrack.elapsed, htrack.begun, htrack.slept, htrack.advanced⟩,
      ⟨rfl, hpc, Int.le_refl _, Nat.le_refl _, fun hlt => absurd hlt (Nat.lt_irrefl _),
        handedSince_self _⟩⟩
  have hend : Paced s' ∧ OnTrack latency s' ∧ After latency (s.add id) s' := by
    apply hrun.preserves
      (P := fun s' => Paced s' ∧ OnTrack latency s' ∧ After latency (s.add id) s')
    · rintro s' a ⟨hp, ht, hafter⟩ ⟨hg, ha⟩
      exact ⟨paced_step s' a hp hg (.of_inTime ha), onTrack_step s' a hp ht hg ha,
        after_step s' a hp ht hafter hg ha⟩
    · exact hadd
  obtain ⟨-, htrack', hafter⟩ := hend
  have hloop := handed_once htask habs hd hd' has hrun.of_restrict (congrArg _ hdelay)
  obtain ⟨hpassed, hnot⟩ := hafter.handed.atMostOne hloop
  refine ⟨?_, fun hp => ?_, hnot⟩
  · have hadvanced := htrack'.advanced
    rw [hafter.origin] at hadvanced
    exact hadvanced
  · obtain ⟨now, hat, hlow, hhigh⟩ := hpassed hp
    have hpos : 1 ≤ delay := by
      rw [hdelay, fireDelay]
      split <;> omega
    have hlater : s.loop.advances < s'.loop.advances := by
      rcases hp with hlt | ⟨heq, -⟩
      · omega
      · omega
    have hbefore : s.clock ≤ dueAt s (s.loop.advances + 1) + latency := hafter.before hlater
    have helapsed := htrack.elapsed hpc
    have hlow : dueAt s (s.loop.advances + delay) ≤ now := hlow
    have hhigh : now ≤ dueAt s (s.loop.advances + delay) + latency := hhigh
    refine ⟨now, hat, ?_, ?_⟩
    · simp only [dueAt, cycleNs] at hlow hbefore ⊢
      omega
    · simp only [dueAt, cycleNs] at hhigh helapsed ⊢
      omega

/-- The thread runs and is in its first cycle. -/
def firstCycle : List Label :=
  [.owner 1 (some ⟨0, 100⟩), .addTask 1, .start, .tick, .owner 0 (some ⟨0, 2⟩)]

def twoTicks : List Label :=
  [.sleep, .clock 1000000, .wake, .advance, .tick, .sleep, .clock 2000500, .wake, .advance, .tick]

theorem timer_inTime_twoTicks :
    ∃ now, (tickTimes.exec ((tickTimes.exec idle firstCycle).add 0) twoTicks).handedAt 0 = [now] ∧
      0 + (((2 : Nat) : Int) - 1) * cycleNs - 1000 ≤ now ∧
        now ≤ 0 + ((2 : Nat) : Int) * cycleNs + 1000 := by
  have ha : (tickTimes.restrict (InTime 1000)).Admits idle firstCycle := by decide +kernel
  have hi : (tickTimes.restrict (InTime 1000)).init idle := idle_init
  have hreachable := System.reachable_exec _ hi firstCycle ha
  have htwo : (tickTimes.restrict (InTime 1000)).Admits
      ((tickTimes.exec idle firstCycle).add 0) twoTicks := by
    decide +kernel
  have hrun := System.run_exec _ _ twoTicks htwo
  rw [System.exec_restrict] at hreachable hrun
  have hthread : ∀ a ∈ twoTicks, a.byTickThread = true := by decide
  have htask : (tickTimes.exec idle firstCycle).loop.wheel.tasks 0 = some ⟨0, 2⟩ := rfl
  have habs : Absent (tickTimes.exec idle firstCycle).loop.wheel 0 :=
    ⟨by decide +kernel, by decide +kernel⟩
  have hdelay : 2 = fireDelay
      (tickTimes.exec idle firstCycle).loop.wheel.currentWorkWheelIndex.val 2 := by decide +kernel
  have hpassed : Passed (tickTimes.exec ((tickTimes.exec idle firstCycle).add 0) twoTicks).loop
      ((tickTimes.exec idle firstCycle).loop.advances + 2) := .inr (by decide +kernel)
  exact (timer_inTime hreachable (by decide +kernel) htask habs (by decide) (by decide)
    (fun a ha => spares_of_byTickThread (hthread a ha) 0) hrun hdelay).2.1 hpassed

end inTime

end CyberRT.Timer.TickTimes
