import CyberRT.Framework.System

/-! # Lifecycle of a process

    `Init` and `Clear` hold `g_mutex` from beginning to end. `Clear` is
    called by the user and, at the latest, by the exit handler. `OnShutdown`
    runs on `SIGINT` and takes no lock: it loads the state and stores another
    one later, while `Init` and `Clear` may go on.

    * A load or a store of the state is one step, and so is the clean-up of
      one component.
    * `scheduler::CleanUp` deletes the scheduler and leaves the pointer as it
      is, `AsyncLogger::Stop` is for a running logger only; the other
      components are shut down the first time and left alone after that.
    * The topology manager is not part of these sources; its clean-up is taken
      to leave the state described here alone.
    * Threads that only look at the state (`OK`, `WaitForShutdown`) take no
      part.

    `inits`, `cleanUps` and `requests` are history: how often `Init` has
    succeeded, how often `Clear` has begun to clean up, and how often a
    handler has stored the state. -/

namespace CyberRT.Init

open CyberRT.Framework

/-! ## Section 1: Model -/

/-- `enum State`. -/
inductive CyberState where
  | uninitialized
  | initialized
  | shuttingDown
  | shutdown
  deriving DecidableEq

def CyberState.isShutdown (s : CyberState) : Bool := s == .shuttingDown || s == .shutdown

/-- What `Clear` cleans up, in this order. -/
inductive Component where
  | taskManager
  | timingWheel
  | scheduler
  | topologyManager
  | transport
  | logger
  deriving DecidableEq

def components : List Component :=
  [.taskManager, .timingWheel, .scheduler, .topologyManager, .transport, .logger]

/-- `scheduler_instance`; a deleted one is still pointed to. -/
inductive Instance where
  | null
  | alive
  | deleted
  deriving DecidableEq

/-- `AsyncLogger::state_`. -/
inductive RunState where
  | initted
  | running
  | stopped
  deriving DecidableEq

/-- What must not happen. -/
inductive Fault where
  /-- `Shutdown` and `delete` on a deleted scheduler -/
  | schedulerGone
  /-- `CHECK_EQ(state_, RUNNING)` -/
  | loggerNotRunning
  deriving DecidableEq

/-- How far the thread with `g_mutex` is. -/
inductive LockPc where
  | unlocked
  | initLogger
  | setHandler
  | registerExit
  | setInitialized
  | cleanUp (rest : List Component)
  deriving DecidableEq

def LockPc.inInit : LockPc → Bool
  | .initLogger | .setHandler | .registerExit | .setInitialized => true
  | _ => false

def LockPc.inClear : LockPc → Bool
  | .cleanUp _ => true
  | _          => false

/-- `pending` are the calls of `OnShutdown` that have found the state not
    `STATE_SHUTDOWN` and have yet to store. -/
structure State (Hid : Type) where
  state            : CyberState
  mutex            : LockPc
  pending          : Hid → Bool
  handlerSet       : Bool
  atexitRegistered : Bool
  scheduler        : Instance
  asyncLogger      : Option RunState
  faults           : List Fault
  inits            : Nat
  cleanUps         : Nat
  requests         : Nat

section model
variable {Hid : Type}

namespace State

/-- `InitLogger`, and the first call of `scheduler::Instance`. -/
def initLogger (s : State Hid) : State Hid :=
  { s with
    mutex       := .setHandler
    asyncLogger := some .running
    scheduler   := if s.scheduler = .null then .alive else s.scheduler }

def cleanUpScheduler (s : State Hid) : State Hid :=
  match s.scheduler with
  | .null    => s
  | .alive   => { s with scheduler := .deleted }
  | .deleted => { s with faults := .schedulerGone :: s.faults }

def stopLogger (s : State Hid) : State Hid :=
  match s.asyncLogger with
  | none          => s
  | some .running => { s with asyncLogger := some .stopped }
  | some _        => { s with faults := .loggerNotRunning :: s.faults }

def cleanUp (s : State Hid) : Component → State Hid
  | .scheduler => s.cleanUpScheduler
  | .logger    => s.stopLogger
  | _          => s

end State

inductive Label (Hid : Type) where
  | initCall
  | initLogger
  | setHandler
  | registerExit (ok : Bool)
  | setInitialized
  | clearCall
  | cleanUp
  | setShutdown
  | sigint (h : Hid)
  | store (h : Hid)
  deriving DecidableEq

variable [DecidableEq Hid]

/-- Any number of `Init`s, `Clear`s and signals. -/
def lifecycle : System (State Hid) (Label Hid) where
  init s := s.state = .uninitialized ∧ s.mutex = .unlocked ∧ (∀ h, s.pending h = false) ∧
    s.handlerSet = false ∧ s.atexitRegistered = false ∧ s.scheduler = .null ∧
    s.asyncLogger = none ∧ s.faults = [] ∧ s.inits = 0 ∧ s.cleanUps = 0 ∧ s.requests = 0
  action
    | .initCall =>
      { gate   := fun s => s.mutex = .unlocked
        effect := fun s => if s.state = .uninitialized then { s with mutex := .initLogger } else s }
    | .initLogger =>
      { gate   := fun s => s.mutex = .initLogger
        effect := fun s => s.initLogger }
    | .setHandler =>
      { gate   := fun s => s.mutex = .setHandler
        effect := fun s => { s with mutex := .registerExit, handlerSet := true } }
    -- `atexit` may fail, and then `Init` returns false
    | .registerExit ok =>
      { gate   := fun s => s.mutex = .registerExit
        effect := fun s =>
          if s.atexitRegistered = true ∨ ok = true then
            { s with mutex := .setInitialized, atexitRegistered := true }
          else { s with mutex := .unlocked } }
    | .setInitialized =>
      { gate   := fun s => s.mutex = .setInitialized
        effect := fun s =>
          { s with state := .initialized, mutex := .unlocked, inits := s.inits + 1 } }
    | .clearCall =>
      { gate   := fun s => s.mutex = .unlocked
        effect := fun s =>
          if s.state = .shutdown ∨ s.state = .uninitialized then s
          else { s with mutex := .cleanUp components, cleanUps := s.cleanUps + 1 } }
    | .cleanUp =>
      { gate   := fun s => s.mutex.inClear = true ∧ s.mutex ≠ .cleanUp []
        effect := fun s =>
          match s.mutex with
          | .cleanUp (component :: rest) => { s.cleanUp component with mutex := .cleanUp rest }
          | _ => s }
    | .setShutdown =>
      { gate   := fun s => s.mutex = .cleanUp []
        effect := fun s => { s with state := .shutdown, mutex := .unlocked } }
    | .sigint h =>
      { gate   := fun s => s.handlerSet = true ∧ s.pending h = false
        effect := fun s =>
          if s.state ≠ .shutdown then { s with pending := Function.update s.pending h true }
          else s }
    | .store h =>
      { gate   := fun s => s.pending h = true
        effect := fun s =>
          { s with
            state    := .shuttingDown
            pending  := Function.update s.pending h false
            requests := s.requests + 1 } }

instance decidableGate :
    ∀ (a : Label Hid) (s : State Hid), Decidable ((lifecycle.action a).gate s)
  | .initCall, s | .clearCall, s => inferInstanceAs (Decidable (s.mutex = .unlocked))
  | .initLogger, s     => inferInstanceAs (Decidable (s.mutex = .initLogger))
  | .setHandler, s     => inferInstanceAs (Decidable (s.mutex = .setHandler))
  | .registerExit _, s => inferInstanceAs (Decidable (s.mutex = .registerExit))
  | .setInitialized, s => inferInstanceAs (Decidable (s.mutex = .setInitialized))
  | .cleanUp, s        =>
    inferInstanceAs (Decidable (s.mutex.inClear = true ∧ s.mutex ≠ .cleanUp []))
  | .setShutdown, s    => inferInstanceAs (Decidable (s.mutex = .cleanUp []))
  | .sigint h, s       =>
    inferInstanceAs (Decidable (s.handlerSet = true ∧ s.pending h = false))
  | .store h, s        => inferInstanceAs (Decidable (s.pending h = true))

end model

/-! ## Section 2: Invariant -/

section runs
variable {Hid : Type} {s : State Hid}

/-- **Invariant**: what holds of the state, the lock and the scheduler in
    every run. -/
structure Inv (s : State Hid) : Prop where
  fresh   : s.state = .uninitialized ∨ s.mutex.inInit = true → s.cleanUps = 0
  down    : s.state = .shutdown → 1 ≤ s.cleanUps ∧ s.mutex.inClear = false
  once    : s.inits ≤ 1 ∧ (s.inits = 1 → s.state ≠ .uninitialized ∧ s.mutex.inInit = false)
  begun   : s.mutex.inClear = true → 1 ≤ s.cleanUps
  made    : s.state ≠ .uninitialized ∨ s.handlerSet = true ∨
    s.mutex ∈ [.setHandler, .registerExit, .setInitialized] → s.scheduler ≠ .null
  asked   : ∀ h, s.pending h = true → s.handlerSet = true
  gone    : 1 ≤ s.cleanUps → (∀ rest, s.mutex = .cleanUp rest → .scheduler ∉ rest →
    s.scheduler = .deleted) ∧ (s.mutex.inClear = false → s.scheduler = .deleted)

theorem cleanUp_frame (s : State Hid) (component : Component) :
    (s.cleanUp component).state = s.state ∧ (s.cleanUp component).pending = s.pending ∧
      (s.cleanUp component).handlerSet = s.handlerSet ∧
      (s.cleanUp component).inits = s.inits ∧ (s.cleanUp component).cleanUps = s.cleanUps ∧
      (s.cleanUp component).requests = s.requests := by
  cases component
  case scheduler =>
    rw [State.cleanUp, State.cleanUpScheduler]
    split <;> exact ⟨rfl, rfl, rfl, rfl, rfl, rfl⟩
  case logger =>
    rw [State.cleanUp, State.stopLogger]
    split <;> exact ⟨rfl, rfl, rfl, rfl, rfl, rfl⟩
  all_goals exact ⟨rfl, rfl, rfl, rfl, rfl, rfl⟩

/-- The scheduler is deleted when its turn comes, and stays so. -/
theorem cleanUp_scheduler (component : Component) (hmade : s.scheduler ≠ .null) :
    (s.cleanUp component).scheduler ≠ .null ∧
      (component = .scheduler ∨ s.scheduler = .deleted →
        (s.cleanUp component).scheduler = .deleted) := by
  by_cases hcomponent : component = .scheduler
  · have hdeleted : (s.cleanUp component).scheduler = .deleted := by
      rw [hcomponent, State.cleanUp, State.cleanUpScheduler]
      split
      · next hnull => exact absurd hnull hmade
      · rfl
      · next hgone => exact hgone
    refine ⟨?_, fun _ => hdeleted⟩
    rw [hdeleted]
    decide
  · have hsame : (s.cleanUp component).scheduler = s.scheduler := by
      cases component
      case scheduler => exact absurd rfl hcomponent
      case logger =>
        rw [State.cleanUp, State.stopLogger]
        split
        all_goals rfl
      all_goals rfl
    rw [hsame]
    exact ⟨hmade, fun h => h.resolve_left hcomponent⟩

/-- The scheduler is there once something is to be cleaned up. -/
theorem Inv.made_of_begun (h : Inv s) (hbegun : 1 ≤ s.cleanUps) : s.scheduler ≠ .null := by
  apply h.made
  left
  intro hfresh
  rw [h.fresh (.inl hfresh)] at hbegun
  cases hbegun

theorem Inv.cleanUp (h : Inv s) {component : Component} {rest : List Component}
    (hpc : s.mutex = .cleanUp (component :: rest)) :
    Inv { s.cleanUp component with mutex := .cleanUp rest } := by
  obtain ⟨hstate, hpending, hset, hinits, hcleanUps, -⟩ := cleanUp_frame s component
  have hclear : s.mutex.inClear = true := by
    rw [hpc]
    rfl
  have hbegun := h.begun hclear
  have hfirst : s.state ≠ .uninitialized := by
    intro hfresh
    rw [h.fresh (.inl hfresh)] at hbegun
    cases hbegun
  have hdone : s.state ≠ .shutdown := by
    intro hshutdown
    rw [(h.down hshutdown).2] at hclear
    cases hclear
  obtain ⟨hmade, hdeleted⟩ := cleanUp_scheduler component (h.made_of_begun hbegun)
  constructor
  · intro hor
    change (s.cleanUp component).state = .uninitialized ∨ false = true at hor
    rw [hstate] at hor
    rcases hor with hfresh | hinside
    · exact absurd hfresh hfirst
    · cases hinside
  · intro hshutdown
    change (s.cleanUp component).state = .shutdown at hshutdown
    rw [hstate] at hshutdown
    exact absurd hshutdown hdone
  · show (s.cleanUp component).inits ≤ 1 ∧
      ((s.cleanUp component).inits = 1 → (s.cleanUp component).state ≠ .uninitialized ∧ _)
    rw [hinits, hstate]
    exact ⟨h.once.1, fun _ => ⟨hfirst, rfl⟩⟩
  · intro _
    show 1 ≤ (s.cleanUp component).cleanUps
    rw [hcleanUps]
    exact hbegun
  · exact fun _ => hmade
  · intro r hr
    change (s.cleanUp component).pending r = true at hr
    show (s.cleanUp component).handlerSet = true
    rw [hpending] at hr
    rw [hset]
    exact h.asked r hr
  · intro _
    refine ⟨?_, nofun⟩
    intro left hleft hnot
    obtain rfl := LockPc.cleanUp.inj hleft
    apply hdeleted
    by_cases hturn : component = .scheduler
    · exact .inl hturn
    · right
      apply (h.gone hbegun).1 (component :: rest) hpc
      intro hmem
      rcases List.mem_cons.mp hmem with hhead | htail
      · exact hturn hhead.symm
      · exact hnot htail

/-- Nothing has been cleaned up yet. -/
theorem Inv.of_zero {s' : State Hid} (hcleanUps : s'.cleanUps = 0) (hstate : s'.state ≠ .shutdown)
    (hmutex : s'.mutex.inClear = false)
    (honce : s'.inits ≤ 1 ∧
      (s'.inits = 1 → s'.state ≠ .uninitialized ∧ s'.mutex.inInit = false))
    (hmade : s'.state ≠ .uninitialized ∨ s'.handlerSet = true ∨
      s'.mutex ∈ [.setHandler, .registerExit, .setInitialized] → s'.scheduler ≠ .null)
    (hasked : ∀ h, s'.pending h = true → s'.handlerSet = true) : Inv s' := by
  have hnever : ¬ 1 ≤ s'.cleanUps := by
    rw [hcleanUps]
    decide
  refine ⟨fun _ => hcleanUps, fun hs => absurd hs hstate, honce, ?_, hmade, hasked,
    fun hone => absurd hone hnever⟩
  intro hclear
  rw [hmutex] at hclear
  cases hclear

theorem Inv.not_shutdown (h : Inv s) (hzero : s.cleanUps = 0) : s.state ≠ .shutdown := by
  intro hs
  have hone := (h.down hs).1
  rw [hzero] at hone
  cases hone

/-- `Init` has not succeeded before as long as it runs. -/
theorem Inv.inits_zero (h : Inv s) (hinside : s.mutex.inInit = true) : s.inits = 0 := by
  rcases Nat.lt_or_ge s.inits 1 with hlt | hge
  · exact Nat.lt_one_iff.mp hlt
  · have houtside := (h.once.2 (Nat.le_antisymm h.once.1 hge)).2
    rw [hinside] at houtside
    cases houtside

/-- What `Init` does after `InitLogger`. -/
theorem Inv.init_goesOn (h : Inv s) {pc : LockPc} (hpc : s.mutex = pc) (hinside : pc.inInit = true)
    (hmade : s.scheduler ≠ .null) {s' : State Hid} (hcleanUps : s'.cleanUps = s.cleanUps)
    (hscheduler : s'.scheduler = s.scheduler) (hmutex : s'.mutex.inClear = false)
    (hstate : s'.state ≠ .shutdown)
    (honce : s'.inits = s.inits ∨ s'.inits = s.inits + 1 ∧ s'.state ≠ .uninitialized ∧
      s'.mutex.inInit = false)
    (hasked : ∀ h, s'.pending h = true → s'.handlerSet = true) : Inv s' := by
  have hinside' : s.mutex.inInit = true := by
    rw [hpc]
    exact hinside
  have hinits := h.inits_zero hinside'
  apply Inv.of_zero (hcleanUps.trans (h.fresh (.inr hinside'))) hstate hmutex _ _ hasked
  · rcases honce with hsame | ⟨hnext, hdone⟩
    · rw [hsame, hinits]
      exact ⟨Nat.zero_le 1, nofun⟩
    · rw [hnext, hinits]
      exact ⟨Nat.le_refl 1, fun _ => hdone⟩
  · intro _
    rw [hscheduler]
    exact hmade

/-- **Step lemma**. -/
theorem inv_step [DecidableEq Hid] (s : State Hid) (a : Label Hid) (h : Inv s)
    (hg : (lifecycle.action a).gate s) : Inv ((lifecycle.action a).effect s) := by
  cases a with
  | initCall =>
    have hpc : s.mutex = .unlocked := hg
    dsimp only [lifecycle]
    split
    · next hstate =>
      have hzero := h.fresh (.inl hstate)
      have hmade : s.state ≠ .uninitialized ∨ s.handlerSet = true ∨
          LockPc.initLogger ∈ [LockPc.setHandler, .registerExit, .setInitialized] →
            s.scheduler ≠ .null := by
        rintro (hstarted | hset | hlater)
        · exact h.made (.inl hstarted)
        · exact h.made (.inr (.inl hset))
        · exact absurd hlater (by decide)
      exact .of_zero hzero (h.not_shutdown hzero) rfl
        ⟨h.once.1, fun hone => absurd hstate (h.once.2 hone).1⟩ hmade h.asked
    · exact h
  | initLogger =>
    have hpc : s.mutex = .initLogger := hg
    have hinside : s.mutex.inInit = true := by
      rw [hpc]
      rfl
    have hzero := h.fresh (.inr hinside)
    have hinits := h.inits_zero hinside
    have hmade : (if s.scheduler = .null then Instance.alive else s.scheduler) ≠ .null := by
      split
      · decide
      · assumption
    exact .of_zero hzero (h.not_shutdown hzero) rfl
      ⟨h.once.1, fun hone => absurd (hinits.symm.trans hone) (by decide)⟩ (fun _ => hmade) h.asked
  | setHandler =>
    have hpc : s.mutex = .setHandler := hg
    have hmade : s.scheduler ≠ .null := by
      apply h.made
      rw [hpc]
      exact .inr (.inr (by decide))
    have hzero : s.cleanUps = 0 := h.fresh (.inr (by rw [hpc]; rfl))
    exact h.init_goesOn hpc rfl hmade rfl rfl rfl (h.not_shutdown hzero) (.inl rfl) fun _ _ => rfl
  | registerExit ok =>
    have hpc : s.mutex = .registerExit := hg
    have hmade : s.scheduler ≠ .null := by
      apply h.made
      rw [hpc]
      exact .inr (.inr (by decide))
    have hzero : s.cleanUps = 0 := h.fresh (.inr (by rw [hpc]; rfl))
    have hdown := h.not_shutdown hzero
    dsimp only [lifecycle]
    split
    · exact h.init_goesOn hpc rfl hmade rfl rfl rfl hdown (.inl rfl) h.asked
    · exact h.init_goesOn hpc rfl hmade rfl rfl rfl hdown (.inl rfl) h.asked
  | setInitialized =>
    have hpc : s.mutex = .setInitialized := hg
    have hmade : s.scheduler ≠ .null := by
      apply h.made
      rw [hpc]
      exact .inr (.inr (by decide))
    exact h.init_goesOn hpc rfl hmade rfl rfl rfl nofun (.inr ⟨rfl, nofun, rfl⟩) h.asked
  | clearCall =>
    have hpc : s.mutex = .unlocked := hg
    dsimp only [lifecycle]
    split
    · exact h
    · next hstate =>
      rw [not_or] at hstate
      refine ⟨?_, fun hs => absurd hs hstate.1, ⟨h.once.1, fun _ => ⟨hstate.2, rfl⟩⟩,
        fun _ => Nat.le_add_left 1 _, fun _ => h.made (.inl hstate.2), h.asked, fun _ => ?_⟩
      · rintro (hfresh | hinside)
        · exact absurd hfresh hstate.2
        · cases hinside
      · refine ⟨?_, nofun⟩
        intro rest hrest hnot
        obtain rfl := LockPc.cleanUp.inj hrest
        exact absurd (by decide) hnot
  | cleanUp =>
    dsimp only [lifecycle]
    split
    · next hpc => exact h.cleanUp hpc
    · exact h
  | setShutdown =>
    have hpc : s.mutex = .cleanUp [] := hg
    have hone := h.begun (hpc ▸ rfl)
    have hdeleted : s.scheduler = .deleted := (h.gone hone).1 [] hpc List.not_mem_nil
    refine ⟨?_, fun _ => ⟨hone, rfl⟩, ⟨h.once.1, fun _ => ⟨nofun, rfl⟩⟩, nofun,
      fun _ => h.made_of_begun hone, h.asked, fun _ => ⟨nofun, fun _ => hdeleted⟩⟩
    rintro (hfresh | hinside)
    · cases hfresh
    · cases hinside
  | sigint r =>
    obtain ⟨hset, -⟩ : s.handlerSet = true ∧ s.pending r = false := hg
    dsimp only [lifecycle]
    split
    · exact ⟨h.fresh, h.down, h.once, h.begun, h.made, fun _ _ => hset, h.gone⟩
    · exact h
  | store r =>
    have hset := h.asked r hg
    have hmade := h.made (.inr (.inl hset))
    refine ⟨?_, nofun, ⟨h.once.1, fun hone => ⟨nofun, (h.once.2 hone).2⟩⟩, h.begun,
      fun _ => hmade, fun _ _ => hset, h.gone⟩
    rintro (hfresh | hinside)
    · cases hfresh
    · exact h.fresh (.inr hinside)

theorem inv_init [DecidableEq Hid] (hi : lifecycle.init s) : Inv s := by
  obtain ⟨hstate, hmutex, hpending, hset, -, hscheduler, -, -, hinits, hcleanUps, -⟩ := hi
  apply Inv.of_zero hcleanUps
  · rw [hstate]
    decide
  · rw [hmutex]
    rfl
  · rw [hinits]
    exact ⟨Nat.zero_le 1, nofun⟩
  · rw [hstate, hset, hmutex]
    rintro (hne | hset | hmem)
    · exact absurd rfl hne
    · cases hset
    · exact absurd hmem (by decide)
  · intro r hr
    rw [hpending] at hr
    cases hr

/-! ## Section 3: Cleaned up once -/

/-- What has been cleaned up stays shut down. -/
def Stays (s : State Hid) : Prop :=
  1 ≤ s.cleanUps → s.mutex.inClear = true ∨ s.state = .shutdown

/-- No handler stores over `STATE_SHUTDOWN`. -/
def NotLate (s : State Hid) : Label Hid → Prop
  | .store _ => s.state ≠ .shutdown
  | _        => True

instance decidableNotLate (s : State Hid) : ∀ a, Decidable (NotLate s a)
  | .store _ => inferInstanceAs (Decidable (s.state ≠ .shutdown))
  | .initCall | .initLogger | .setHandler | .registerExit _ | .setInitialized | .clearCall
  | .cleanUp | .setShutdown | .sigint _ => inferInstanceAs (Decidable True)

/-- Nothing has been cleaned up yet. -/
theorem stays_of_zero {s' : State Hid} (hsame : s'.cleanUps = s.cleanUps) (hzero : s.cleanUps = 0) :
    Stays s' := by
  intro hone
  rw [hsame, hzero] at hone
  cases hone

theorem stays_init [DecidableEq Hid] (hi : lifecycle.init s) : Stays s := by
  obtain ⟨-, -, -, -, -, -, -, -, -, hcleanUps, -⟩ := hi
  exact stays_of_zero rfl hcleanUps

theorem stays_step [DecidableEq Hid] (s : State Hid) (a : Label Hid) (h : Inv s) (hs : Stays s)
    (hg : (lifecycle.action a).gate s) : Stays ((lifecycle.action a).effect s) ↔ NotLate s a := by
  cases a with
  | initCall =>
    refine ⟨fun _ => trivial, fun _ => ?_⟩
    dsimp only [lifecycle]
    split
    · next hstate => exact stays_of_zero rfl (h.fresh (.inl hstate))
    · exact hs
  | initLogger | setHandler | setInitialized =>
    have hpc := hg
    have hzero := h.fresh (.inr (hpc ▸ rfl))
    exact ⟨fun _ => trivial, fun _ => stays_of_zero rfl hzero⟩
  | registerExit ok =>
    have hpc : s.mutex = .registerExit := hg
    have hzero := h.fresh (.inr (hpc ▸ rfl))
    refine ⟨fun _ => trivial, fun _ => ?_⟩
    dsimp only [lifecycle]
    split
    · exact stays_of_zero rfl hzero
    · exact stays_of_zero rfl hzero
  | clearCall =>
    refine ⟨fun _ => trivial, fun _ => ?_⟩
    dsimp only [lifecycle]
    split
    · exact hs
    · exact fun _ => .inl rfl
  | cleanUp =>
    refine ⟨fun _ => trivial, fun _ => ?_⟩
    dsimp only [lifecycle]
    split
    · exact fun _ => .inl rfl
    · exact hs
  | setShutdown => exact ⟨fun _ => trivial, fun _ _ => .inr rfl⟩
  | sigint r =>
    refine ⟨fun _ => trivial, fun _ => ?_⟩
    dsimp only [lifecycle]
    split
    · exact hs
    · exact hs
  | store r =>
    constructor
    · intro hstays hshutdown
      obtain ⟨hone, hidle⟩ := h.down hshutdown
      rcases hstays hone with hclear | hstate
      · exact Bool.false_ne_true (hidle.symm.trans hclear)
      · cases hstate
    · intro hstate hone
      exact .inl ((hs hone).resolve_right hstate)

/-- `Stop` is not called on a logger that is not running. -/
def State.Stoppable (s : State Hid) : Prop := s.asyncLogger = none ∨ s.asyncLogger = some .running

/-- Each component is cleaned up once. -/
structure Tidy (s : State Hid) : Prop where
  faultless : s.faults = []
  once      : s.cleanUps ≤ 1
  untouched : s.cleanUps = 0 → s.scheduler ≠ .deleted ∧ s.Stoppable
  turns     : ∀ rest, s.mutex = .cleanUp rest → rest.Nodup ∧
    (.scheduler ∈ rest → s.scheduler ≠ .deleted) ∧ (.logger ∈ rest → s.Stoppable)

theorem Tidy.cleanUp (h : Tidy s) (hbegun : 1 ≤ s.cleanUps) {component : Component}
    {rest : List Component} (hpc : s.mutex = .cleanUp (component :: rest)) :
    Tidy { s.cleanUp component with mutex := .cleanUp rest } := by
  obtain ⟨hnodup, hscheduler, hlogger⟩ := h.turns _ hpc
  obtain ⟨hnot, hrest⟩ := List.nodup_cons.mp hnodup
  have hscheduler' : .scheduler ∈ rest → s.scheduler ≠ .deleted :=
    fun hmem => hscheduler (List.mem_cons_of_mem _ hmem)
  have hlogger' : .logger ∈ rest → s.Stoppable :=
    fun hmem => hlogger (List.mem_cons_of_mem _ hmem)
  cases component
  case scheduler =>
    have halive := hscheduler List.mem_cons_self
    rw [State.cleanUp, State.cleanUpScheduler]
    split
    · refine ⟨h.faultless, h.once, h.untouched, ?_⟩
      rintro _ ⟨rfl⟩
      exact ⟨hrest, hscheduler', hlogger'⟩
    · refine ⟨h.faultless, h.once, fun hzero => absurd hbegun (hzero ▸ Nat.not_succ_le_zero 0), ?_⟩
      rintro _ ⟨rfl⟩
      exact ⟨hrest, fun hmem => absurd hmem hnot, hlogger'⟩
    · next hdeleted => exact absurd hdeleted halive
  case logger =>
    have hstoppable := hlogger List.mem_cons_self
    rw [State.cleanUp, State.stopLogger]
    split
    · refine ⟨h.faultless, h.once, h.untouched, ?_⟩
      rintro _ ⟨rfl⟩
      exact ⟨hrest, hscheduler', hlogger'⟩
    · refine ⟨h.faultless, h.once, fun hzero => absurd hbegun (hzero ▸ Nat.not_succ_le_zero 0), ?_⟩
      rintro _ ⟨rfl⟩
      exact ⟨hrest, hscheduler', fun hmem => absurd hmem hnot⟩
    · next state hother hstate =>
      rcases hstoppable with hnone | hrunning
      · cases hnone.symm.trans hstate
      · exact absurd (Option.some.inj (hstate.symm.trans hrunning)) hother
  all_goals
    refine ⟨h.faultless, h.once, h.untouched, ?_⟩
    rintro _ ⟨rfl⟩
    exact ⟨hrest, hscheduler', hlogger'⟩

/-- A step with another holder of the lock. -/
theorem Tidy.move (h : Tidy s) {s' : State Hid} (hfaults : s'.faults = s.faults)
    (hcleanUps : s'.cleanUps = s.cleanUps) (hscheduler : s'.scheduler = s.scheduler)
    (hlogger : s'.asyncLogger = s.asyncLogger) (hclear : s'.mutex.inClear = false) : Tidy s' := by
  refine ⟨hfaults.trans h.faultless, hcleanUps ▸ h.once, ?_, ?_⟩
  · intro hzero
    rw [State.Stoppable, hscheduler, hlogger]
    exact h.untouched (hcleanUps ▸ hzero)
  · intro rest hpc
    rw [hpc] at hclear
    cases hclear

/-- **Step lemma**. -/
theorem tidy_step [DecidableEq Hid] (s : State Hid) (a : Label Hid) (h : Inv s) (hs : Stays s)
    (ht : Tidy s) (hg : (lifecycle.action a).gate s) : Tidy ((lifecycle.action a).effect s) := by
  cases a with
  | initCall =>
    dsimp only [lifecycle]
    split
    · exact ht.move rfl rfl rfl rfl rfl
    · exact ht
  | initLogger =>
    have hpc : s.mutex = .initLogger := hg
    have hzero := h.fresh (.inr (hpc ▸ rfl))
    have hkept := (ht.untouched hzero).1
    refine ⟨ht.faultless, ht.once, fun _ => ⟨?_, .inr rfl⟩, ?_⟩
    · show (if s.scheduler = .null then Instance.alive else s.scheduler) ≠ .deleted
      split
      · decide
      · exact hkept
    · rintro _ ⟨⟩
  | setHandler => exact ht.move rfl rfl rfl rfl rfl
  | registerExit ok =>
    dsimp only [lifecycle]
    split
    · exact ht.move rfl rfl rfl rfl rfl
    · exact ht.move rfl rfl rfl rfl rfl
  | setInitialized => exact ht.move rfl rfl rfl rfl rfl
  | clearCall =>
    have hpc : s.mutex = .unlocked := hg
    dsimp only [lifecycle]
    split
    · exact ht
    · next hstate =>
      rw [not_or] at hstate
      have hzero : s.cleanUps = 0 := by
        by_contra hnonzero
        rcases hs (Nat.one_le_iff_ne_zero.mpr hnonzero) with hclear | hshutdown
        · rw [hpc] at hclear
          cases hclear
        · exact hstate.1 hshutdown
      have huntouched := ht.untouched hzero
      refine ⟨ht.faultless, ?_, fun hone => absurd hone (Nat.succ_ne_zero _), ?_⟩
      · show s.cleanUps + 1 ≤ 1
        omega
      · rintro _ ⟨rfl⟩
        exact ⟨by decide, fun _ => huntouched.1, fun _ => huntouched.2⟩
  | cleanUp =>
    dsimp only [lifecycle]
    split
    · next hpc => exact ht.cleanUp (h.begun (hpc ▸ rfl)) hpc
    · exact ht
  | setShutdown => exact ht.move rfl rfl rfl rfl rfl
  | sigint r =>
    dsimp only [lifecycle]
    split
    · exact ⟨ht.faultless, ht.once, ht.untouched, ht.turns⟩
    · exact ht
  | store r => exact ⟨ht.faultless, ht.once, ht.untouched, ht.turns⟩

theorem tidy_init [DecidableEq Hid] (hi : lifecycle.init s) : Tidy s := by
  obtain ⟨-, hmutex, -, -, -, hscheduler, hlogger, hfaults, -, hcleanUps, -⟩ := hi
  constructor
  case faultless => exact hfaults
  case once =>
    rw [hcleanUps]
    exact Nat.zero_le 1
  case untouched =>
    intro _
    rw [hscheduler]
    exact ⟨by decide, .inl hlogger⟩
  case turns =>
    intro rest hpc
    rw [hmutex] at hpc
    cases hpc

/-- **Run lemma**: without a late store the components are cleaned up once. -/
theorem tidy_exec [DecidableEq Hid] {as : List (Label Hid)} (h : Inv s) (hs : Stays s)
    (ht : Tidy s) (ha : (lifecycle.restrict NotLate).Admits s as) :
    Tidy (lifecycle.exec s as) := by
  induction as generalizing s with
  | nil => exact ht
  | cons a as ih =>
    obtain ⟨⟨hg, hnotLate⟩, hrest⟩ := ha
    have hs' := (stays_step s a h hs hg).mpr hnotLate
    exact ih (inv_step s a h hg) hs' (tidy_step s a h hs ht hg) hrest

/-- A `Clear` up to the scheduler. -/
def clearScheduler : List (Label Hid) := [.clearCall, .cleanUp, .cleanUp, .cleanUp]

/-- What no longer stays shut down is cleaned up again by the next `Clear`. -/
theorem cleared_twice [DecidableEq Hid] (h : Inv s) (hlost : ¬ Stays s) :
    lifecycle.Admits s clearScheduler ∧
      .schedulerGone ∈ (lifecycle.exec s clearScheduler).faults := by
  rw [Stays, Classical.not_imp, not_or] at hlost
  obtain ⟨hone, hidle, hstate⟩ := hlost
  have hnonzero : s.cleanUps ≠ 0 := Nat.one_le_iff_ne_zero.mp hone
  have hstarted : s.state ≠ .uninitialized := fun hfirst => hnonzero (h.fresh (.inl hfirst))
  have houtside : s.mutex.inInit ≠ true := fun hinside => hnonzero (h.fresh (.inr hinside))
  have hpc : s.mutex = .unlocked := by
    rcases hmutex : s.mutex
    all_goals simp_all [LockPc.inInit, LockPc.inClear]
  have hdeleted : s.scheduler = .deleted :=
    (h.gone hone).2 ((Bool.not_eq_true _).mp hidle)
  constructor
  · simp [clearScheduler, System.Admits, lifecycle, hpc, hstate, hstarted, components,
      LockPc.inClear, State.cleanUp]
  · simp [clearScheduler, System.exec, lifecycle, hstate, hstarted, components, State.cleanUp,
      State.cleanUpScheduler, hdeleted]

/-- **Cleaned up once**: `Init` succeeds at most once. What has been cleaned
    up stays shut down exactly in the runs in which no handler, having found
    the state earlier, stores over `STATE_SHUTDOWN`; each component is cleaned
    up at most once there. After such a store the next `Clear`, if only the
    exit handler's, shuts down and deletes a deleted scheduler. -/
theorem lifecycle_once [DecidableEq Hid] {s : State Hid} {as : List (Label Hid)}
    (hi : lifecycle.init s) (ha : lifecycle.Admits s as) :
    (lifecycle.exec s as).inits ≤ 1 ∧
      ((∀ bs, bs <+: as → Stays (lifecycle.exec s bs)) ↔
        (lifecycle.restrict NotLate).Admits s as) ∧
      ((lifecycle.restrict NotLate).Admits s as →
        (lifecycle.exec s as).cleanUps ≤ 1 ∧ (lifecycle.exec s as).faults = []) ∧
      (¬ Stays (lifecycle.exec s as) →
        lifecycle.Admits (lifecycle.exec s as) clearScheduler ∧
          .schedulerGone ∈
            (lifecycle.exec (lifecycle.exec s as) clearScheduler).faults) := by
  have hinv : Inv s := inv_init hi
  have hinv' : Inv (lifecycle.exec s as) := (System.run_exec _ s as ha).preserves inv_step hinv
  refine ⟨hinv'.once.1, ?_, ?_, cleared_twice hinv'⟩
  · exact System.always_iff_admits_restrict inv_step stays_step ha hinv (stays_init hi)
  · intro hnotLate
    have htidy := tidy_exec hinv (stays_init hi) (tidy_init hi) hnotLate
    exact ⟨htidy.once, htidy.faultless⟩

/-- Before `Init`. -/
def uninitialized : State (Fin 2) where
  state            := .uninitialized
  mutex            := .unlocked
  pending          := fun _ => false
  handlerSet       := false
  atexitRegistered := false
  scheduler        := .null
  asyncLogger      := none
  faults           := []
  inits            := 0
  cleanUps         := 0
  requests         := 0

def initSteps : List (Label (Fin 2)) :=
  [.initCall, .initLogger, .setHandler, .registerExit true, .setInitialized]

def clearSteps : List (Label (Fin 2)) :=
  .clearCall :: List.replicate 6 .cleanUp ++ [.setShutdown]

/-- A handler loads the state before a `Clear` and stores after it. -/
def lateSteps : List (Label (Fin 2)) := initSteps ++ .sigint 0 :: clearSteps ++ [.store 0]

theorem init_uninitialized : lifecycle.init uninitialized :=
  ⟨rfl, rfl, fun _ => rfl, rfl, rfl, rfl, rfl, rfl, rfl, rfl, rfl⟩

theorem lifecycle_once_lateStore :
    lifecycle.Admits uninitialized lateSteps ∧
      (lifecycle.exec uninitialized lateSteps).inits ≤ 1 ∧
      .schedulerGone ∈
        (lifecycle.exec (lifecycle.exec uninitialized lateSteps) clearScheduler).faults := by
  have ha : lifecycle.Admits uninitialized lateSteps := by decide
  obtain ⟨hinits, -, -, hlost⟩ := lifecycle_once init_uninitialized ha
  have hone : 1 ≤ (lifecycle.exec uninitialized lateSteps).cleanUps := by decide
  refine ⟨ha, hinits, (hlost ?_).2⟩
  intro hstays
  exact absurd (hstays hone) (by decide)

/-! ## Section 4: A request to shut down -/

/-- The state shows a request. -/
def Requested (s : State Hid) : Prop := 1 ≤ s.requests → s.state.isShutdown = true

/-- `Init` is not overtaken by a request. -/
def NotOvertaken (s : State Hid) : Label Hid → Prop
  | .setInitialized => s.requests = 0
  | _               => True

instance decidableNotOvertaken (s : State Hid) : ∀ a, Decidable (NotOvertaken s a)
  | .setInitialized => inferInstanceAs (Decidable (s.requests = 0))
  | .initCall | .initLogger | .setHandler | .registerExit _ | .clearCall | .cleanUp
  | .setShutdown | .sigint _ | .store _ => inferInstanceAs (Decidable True)

/-- A step that leaves the state alone. -/
theorem requested_of_eq {s' : State Hid} (h : Requested s) (hrequests : s'.requests = s.requests)
    (hstate : s'.state = s.state) : Requested s' := by
  intro hone
  rw [hstate]
  exact h (hrequests ▸ hone)

theorem requested_step [DecidableEq Hid] (s : State Hid) (a : Label Hid) (h : Requested s) :
    Requested ((lifecycle.action a).effect s) ↔ NotOvertaken s a := by
  cases a with
  | setInitialized =>
    constructor
    · intro hrequested
      by_contra hnonzero
      have hshutdown := hrequested (Nat.one_le_iff_ne_zero.mpr hnonzero)
      cases hshutdown
    · intro hzero hone
      exact absurd hone (hzero ▸ Nat.not_succ_le_zero 0)
  | initLogger | setHandler => exact ⟨fun _ => trivial, fun _ => requested_of_eq h rfl rfl⟩
  | setShutdown | store r => exact ⟨fun _ => trivial, fun _ _ => by rfl⟩
  | initCall | registerExit ok | clearCall | sigint r =>
    refine ⟨fun _ => trivial, fun _ => ?_⟩
    dsimp only [lifecycle]
    split
    · exact requested_of_eq h rfl rfl
    · exact requested_of_eq h rfl rfl
  | cleanUp =>
    refine ⟨fun _ => trivial, fun _ => ?_⟩
    dsimp only [lifecycle]
    split
    · next component rest hpc =>
      obtain ⟨hstate, -, -, -, -, hrequests⟩ := cleanUp_frame s component
      exact requested_of_eq h hrequests hstate
    · exact h

/-- Once `Init` has succeeded the requests since `n` are shown. -/
def ShownSince (n : Nat) (s : State Hid) : Prop :=
  s.inits = 1 ∧ (n < s.requests → s.state.isShutdown = true)

theorem shownSince_step [DecidableEq Hid] (n : Nat) (s : State Hid) (a : Label Hid)
    (h : Inv s ∧ ShownSince n s) (hg : (lifecycle.action a).gate s) :
    Inv ((lifecycle.action a).effect s) ∧ ShownSince n ((lifecycle.action a).effect s) := by
  obtain ⟨hinv, hinits, hshown⟩ := h
  refine ⟨inv_step s a hinv hg, ?_⟩
  cases a with
  | setInitialized =>
    -- a second success
    have hpc : s.mutex = .setInitialized := hg
    have hidle := (hinv.once.2 hinits).2
    rw [hpc] at hidle
    cases hidle
  | initLogger | setHandler => exact ⟨hinits, hshown⟩
  | setShutdown | store r => exact ⟨hinits, fun _ => by rfl⟩
  | initCall | registerExit ok | clearCall | sigint r =>
    dsimp only [lifecycle]
    split
    · exact ⟨hinits, hshown⟩
    · exact ⟨hinits, hshown⟩
  | cleanUp =>
    dsimp only [lifecycle]
    split
    · next component rest hpc =>
      obtain ⟨hstate, -, -, hinits', -, hrequests⟩ := cleanUp_frame s component
      refine ⟨hinits'.trans hinits, ?_⟩
      show n < (s.cleanUp component).requests → (s.cleanUp component).state.isShutdown = true
      rw [hstate, hrequests]
      exact hshown
    · exact ⟨hinits, hshown⟩

/-- **Requests are not lost**: a request is seen all along a run exactly when
    `Init` does not store the state after one, between `std::signal` and its
    return. From the return of the `Init` that succeeds on no request is
    lost. -/
theorem lifecycle_requested [DecidableEq Hid] {s : State Hid} {as : List (Label Hid)}
    (hi : lifecycle.init s) (ha : lifecycle.Admits s as) :
    ((∀ bs, bs <+: as → Requested (lifecycle.exec s bs)) ↔
        (lifecycle.restrict NotOvertaken).Admits s as) ∧
      ∀ bs, (lifecycle.exec s as).inits = 1 → lifecycle.Admits (lifecycle.exec s as) bs →
        (lifecycle.exec s as).requests < (lifecycle.exec (lifecycle.exec s as) bs).requests →
          (lifecycle.exec (lifecycle.exec s as) bs).state.isShutdown = true := by
  have hinv : Inv s := inv_init hi
  have hinv' : Inv (lifecycle.exec s as) := (System.run_exec _ s as ha).preserves inv_step hinv
  constructor
  · have hrequested : Requested s := by
      obtain ⟨-, -, -, -, -, -, -, -, -, -, hrequests⟩ := hi
      intro hone
      rw [hrequests] at hone
      cases hone
    exact System.always_iff_admits_restrict (I := fun _ => True) (fun _ _ _ _ => trivial)
      (fun s a _ hs _ => requested_step s a hs) ha trivial hrequested
  · intro bs hinits hbs
    have hstart : ShownSince (lifecycle.exec s as).requests (lifecycle.exec s as) :=
      ⟨hinits, fun hlt => absurd hlt (Nat.lt_irrefl _)⟩
    have hend := (System.run_exec _ _ bs hbs).preserves
      (shownSince_step (lifecycle.exec s as).requests) ⟨hinv', hstart⟩
    exact hend.2.2

/-- A signal while `Init` registers the exit handler. -/
def overtakenSteps : List (Label (Fin 2)) :=
  [.initCall, .initLogger, .setHandler, .sigint 0, .store 0, .registerExit true, .setInitialized]

theorem lifecycle_requested_duringInit :
    (¬ ∀ bs, bs <+: overtakenSteps → Requested (lifecycle.exec uninitialized bs)) ∧
      (lifecycle.exec (lifecycle.exec uninitialized initSteps)
        [.sigint 0, .store 0]).state.isShutdown = true := by
  have hinit : lifecycle.Admits uninitialized initSteps := by decide
  have hovertaken : lifecycle.Admits uninitialized overtakenSteps := by decide
  constructor
  · intro hall
    have hnotOvertaken := (lifecycle_requested init_uninitialized hovertaken).1.mp hall
    exact absurd hnotOvertaken (by decide)
  · exact (lifecycle_requested init_uninitialized hinit).2 [.sigint 0, .store 0] (by decide)
      (by decide) (by decide)

end runs

end CyberRT.Init
