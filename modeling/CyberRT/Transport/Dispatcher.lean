import CyberRT.Framework.System
import CyberRT.Transport.ListenerHandler

/-! # Listeners of a dispatcher

    `AddListener` looks the handler of its channel up, makes one and sets it
    if there is none, and connects its listener to the handler it has then.
    Nothing makes the look-up and `Set` one: of two first registrations on a
    channel the later `Set` replaces the handler of the other one.

    Any number of threads call `AddListener`, `RemoveListener` and
    `OnMessage`; every operation of the map and every `Connect` and
    `Disconnect` is one step. `registered` is history: the listeners whose
    `AddListener` has returned and that were not disconnected since. The
    dispatcher is not shut down. -/

namespace CyberRT.Transport.Dispatch

open CyberRT.Framework

/-! ## Section 1: State -/

/-- The arguments of `AddListener`. -/
structure Listener where
  channelId : Nat
  key       : ListenerKey
  listener  : Nat
  deriving DecidableEq

/-- What two listeners may not share. -/
def Listener.id (r : Listener) : Nat × ListenerKey := (r.channelId, r.key)

/-- Where a thread stands. Handlers are objects, named by numbers. -/
inductive Pc where
  | idle
  | get (r : Listener)
  | set (r : Listener) (handler : Nat)
  | connect (r : Listener) (handler : Nat)
  | removeGet (channelId : Nat) (key : ListenerKey)
  | disconnect (channelId : Nat) (key : ListenerKey) (handler : Nat)
  | messageGet (channelId sender : Nat)
  | run (handler sender : Nat)
  deriving DecidableEq

structure State where
  msgListeners : Nat → Option Nat
  handlers     : Nat → ListenerHandler
  nextHandler  : Nat
  threads      : Nat → Pc
  used         : List (Nat × ListenerKey)
  registered   : List Listener

namespace State

variable (s : State)

def setThread (t : Nat) (pc : Pc) : State := { s with threads := Function.update s.threads t pc }

def setHandler (handler : Nat) (h : ListenerHandler) : State :=
  { s with handlers := Function.update s.handlers handler h }

@[simp] theorem setThread_self (t : Nat) (pc : Pc) : (s.setThread t pc).threads t = pc := by
  unfold setThread
  exact Function.update_self ..

theorem setThread_of_ne {t t' : Nat} (pc : Pc) (hne : t' ≠ t) :
    (s.setThread t pc).threads t' = s.threads t' := by
  unfold setThread
  exact Function.update_of_ne hne ..

end State

/-! ## Section 2: Model -/

inductive Label where
  | addListener (t : Nat) (r : Listener)
  | get (t : Nat) (r : Listener)
  | set (t : Nat) (r : Listener) (handler : Nat)
  | connect (t : Nat) (r : Listener) (handler : Nat)
  | removeListener (t channelId : Nat) (key : ListenerKey)
  | removeGet (t channelId : Nat) (key : ListenerKey)
  | disconnect (t channelId : Nat) (key : ListenerKey) (handler : Nat)
  | onMessage (t channelId sender : Nat)
  | messageGet (t channelId sender : Nat)
  | run (t handler sender : Nat)

/-- `typeOf` is the message type of a channel. -/
def dispatcher (typeOf : Nat → Nat) : System State Label where
  init := fun s =>
    (∀ c, s.msgListeners c = none) ∧ (∀ h, (s.handlers h).Sound) ∧ (∀ t, s.threads t = .idle) ∧
    s.used = [] ∧ s.registered = []
  action := fun
    -- the ids of the listeners are pairwise different
    | .addListener t r =>
      { gate   := fun s => s.threads t = .idle ∧ r.id ∉ s.used
        effect := fun s => { s.setThread t (.get r) with used := r.id :: s.used } }
    | .get t r =>
      { gate   := fun s => s.threads t = .get r
        effect := fun s =>
          match s.msgListeners r.channelId with
          | some h =>
            if (s.handlers h).messageType = typeOf r.channelId then s.setThread t (.connect r h)
            -- the handler is of another type: `AddListener` returns
            else { s.setThread t .idle with registered := r :: s.registered }
          | none =>
            { (s.setHandler s.nextHandler (.new (typeOf r.channelId))).setThread t
                (.set r s.nextHandler) with
              nextHandler := s.nextHandler + 1 } }
    | .set t r h =>
      { gate   := fun s => s.threads t = .set r h
        effect := fun s =>
          { s.setThread t (.connect r h) with
            msgListeners := Function.update s.msgListeners r.channelId (some h) } }
    | .connect t r h =>
      { gate   := fun s => s.threads t = .connect r h
        effect := fun s =>
          { (s.setHandler h ((s.handlers h).connect r.key r.listener)).setThread t .idle with
            registered := r :: s.registered } }
    | .removeListener t channelId key =>
      { gate   := fun s => s.threads t = .idle
        effect := fun s => s.setThread t (.removeGet channelId key) }
    | .removeGet t channelId key =>
      { gate   := fun s => s.threads t = .removeGet channelId key
        effect := fun s =>
          match s.msgListeners channelId with
          | some h => s.setThread t (.disconnect channelId key h)
          | none   => s.setThread t .idle }
    | .disconnect t channelId key h =>
      { gate   := fun s => s.threads t = .disconnect channelId key h
        effect := fun s =>
          { (s.setHandler h ((s.handlers h).disconnect key)).setThread t .idle with
            registered := s.registered.filter (·.id ≠ (channelId, key)) } }
    | .onMessage t channelId sender =>
      { gate   := fun s => s.threads t = .idle
        effect := fun s => s.setThread t (.messageGet channelId sender) }
    | .messageGet t channelId sender =>
      { gate   := fun s => s.threads t = .messageGet channelId sender
        effect := fun s =>
          match s.msgListeners channelId with
          | some h => s.setThread t (.run h sender)
          | none   => s.setThread t .idle }
    -- the listeners called are those of `ListenerHandler.run`
    | .run t h sender =>
      { gate   := fun s => s.threads t = .run h sender
        effect := fun s => s.setThread t .idle }

instance decidableGate (typeOf : Nat → Nat) :
    ∀ (a : Label) (s : State), Decidable (((dispatcher typeOf).action a).gate s)
  | .addListener t r, s     => inferInstanceAs (Decidable (s.threads t = _ ∧ r.id ∉ s.used))
  | .get t _, s             => inferInstanceAs (Decidable (s.threads t = _))
  | .set t _ _, s           => inferInstanceAs (Decidable (s.threads t = _))
  | .connect t _ _, s       => inferInstanceAs (Decidable (s.threads t = _))
  | .removeListener t _ _, s => inferInstanceAs (Decidable (s.threads t = _))
  | .removeGet t _ _, s     => inferInstanceAs (Decidable (s.threads t = _))
  | .disconnect t _ _ _, s  => inferInstanceAs (Decidable (s.threads t = _))
  | .onMessage t _ _, s     => inferInstanceAs (Decidable (s.threads t = _))
  | .messageGet t _ _, s    => inferInstanceAs (Decidable (s.threads t = _))
  | .run t _ _, s           => inferInstanceAs (Decidable (s.threads t = _))

/-! ## Section 3: Property and condition -/

/-- A listener is connected to the handler its channel has, so that a message
    of a sender it listens to is handed to it. -/
def Kept (s : State) (r : Listener) : Prop :=
  ∃ h, s.msgListeners r.channelId = some h ∧ (s.handlers h).Connected r.key r.listener ∧
    ∀ sender, (∀ oppoId ∈ r.key.oppoId, oppoId = sender) → r.listener ∈ (s.handlers h).run sender

/-- **Property**: no registration is lost. -/
def NoneLost (s : State) : Prop := ∀ r ∈ s.registered, Kept s r

/-- No listener of the channel is registered or about to be connected. -/
def Unused (s : State) (channelId : Nat) : Prop :=
  (∀ r ∈ s.registered, r.channelId ≠ channelId) ∧
    ∀ t r h, s.threads t = .connect r h → r.channelId ≠ channelId

/-- **Condition**: when `AddListener` sets the handler it has made, the
    channel is unused. -/
def SetsUnused (s : State) : Label → Prop
  | .set _ r _ => Unused s r.channelId
  | _          => True

/-! ## Section 4: Ids -/

/-- The listener a thread is adding. -/
def Pc.adding : Pc → Option Listener
  | .get r | .set r _ | .connect r _ => some r
  | _ => none

/-- **Invariant**: ids are used once. -/
structure Ids (s : State) : Prop where
  used     : ∀ r ∈ s.registered, r.id ∈ s.used
  adding   : ∀ t, ∀ r ∈ (s.threads t).adding, r.id ∈ s.used ∧ ∀ r' ∈ s.registered, r'.id ≠ r.id
  distinct : ∀ t t' r r', t ≠ t' → (s.threads t).adding = some r →
    (s.threads t').adding = some r' → r.id ≠ r'.id

variable {typeOf : Nat → Nat} {s : State}

/-- A step of a thread that goes on adding its listener, or adds none. -/
theorem Ids.of_thread (h : Ids s) {s' : State} {t : Nat} {pc : Pc}
    (hthreads : s'.threads = Function.update s.threads t pc) (hused : s'.used = s.used)
    (hadding : ∀ r ∈ pc.adding, (s.threads t).adding = some r)
    (hregistered : ∀ r ∈ s'.registered, r ∈ s.registered) : Ids s' := by
  have hold : ∀ t', ∀ r ∈ (s'.threads t').adding, (s.threads t').adding = some r := by
    intro t' r hr
    rw [hthreads] at hr
    by_cases ht : t' = t
    · subst ht
      rw [Function.update_self] at hr
      exact hadding r hr
    · rwa [Function.update_of_ne ht] at hr
  constructor
  · intro r hr
    rw [hused]
    exact h.used r (hregistered r hr)
  · intro t' r hr
    obtain ⟨hin, hne⟩ := h.adding t' r (hold t' r hr)
    rw [hused]
    exact ⟨hin, fun r' hr' => hne r' (hregistered r' hr')⟩
  · intro t₁ t₂ r₁ r₂ hne h₁ h₂
    exact h.distinct t₁ t₂ r₁ r₂ hne (hold t₁ r₁ h₁) (hold t₂ r₂ h₂)

/-- A thread that has added its listener. -/
theorem Ids.register (h : Ids s) {s' : State} {t : Nat} {r : Listener}
    (hthreads : s'.threads = Function.update s.threads t .idle) (hused : s'.used = s.used)
    (hadding : (s.threads t).adding = some r)
    (hregistered : s'.registered = r :: s.registered) : Ids s' := by
  have hold : ∀ t', ∀ r' ∈ (s'.threads t').adding, t' ≠ t ∧ (s.threads t').adding = some r' := by
    intro t' r' hr'
    rw [hthreads] at hr'
    by_cases ht : t' = t
    · subst ht
      rw [Function.update_self] at hr'
      cases hr'
    · rw [Function.update_of_ne ht] at hr'
      exact ⟨ht, hr'⟩
  constructor
  · rw [hregistered, hused]
    exact List.forall_mem_cons.mpr ⟨(h.adding t r hadding).1, h.used⟩
  · intro t' r' hr'
    obtain ⟨hne, hadding'⟩ := hold t' r' hr'
    rw [hregistered, hused]
    obtain ⟨hin, hothers⟩ := h.adding t' r' hadding'
    exact ⟨hin, List.forall_mem_cons.mpr
      ⟨h.distinct t t' r r' (Ne.symm hne) hadding hadding', hothers⟩⟩
  · intro t₁ t₂ r₁ r₂ hne h₁ h₂
    exact h.distinct t₁ t₂ r₁ r₂ hne (hold t₁ r₁ h₁).2 (hold t₂ r₂ h₂).2

/-- **Step lemma**, ids. -/
theorem ids_step (a : Label) (h : Ids s) (hg : ((dispatcher typeOf).action a).gate s) :
    Ids (((dispatcher typeOf).action a).effect s) := by
  cases a with
  | addListener t r =>
    obtain ⟨hpc, hnew⟩ := hg
    have hold : ∀ t', ∀ r' ∈ ((s.setThread t (.get r)).threads t').adding,
        (t' = t ∧ r' = r) ∨ (t' ≠ t ∧ (s.threads t').adding = some r') := by
      intro t' r' hr'
      by_cases ht : t' = t
      · subst ht
        rw [State.setThread_self] at hr'
        cases hr'
        exact .inl ⟨rfl, rfl⟩
      · rw [State.setThread_of_ne s _ ht] at hr'
        exact .inr ⟨ht, hr'⟩
    have hother : ∀ t', ∀ r' ∈ (s.threads t').adding, r'.id ≠ r.id := fun t' r' hr' heq =>
      hnew (heq ▸ (h.adding t' r' hr').1)
    constructor
    · exact fun r' hr' => List.mem_cons_of_mem _ (h.used r' hr')
    · intro t' r' hr'
      obtain ⟨rfl, rfl⟩ | ⟨_, hr'⟩ := hold t' r' hr'
      · exact ⟨.head _, fun r'' hr'' heq => hnew (heq ▸ h.used r'' hr'')⟩
      · obtain ⟨hin, hne⟩ := h.adding t' r' hr'
        exact ⟨List.mem_cons_of_mem _ hin, hne⟩
    · intro t₁ t₂ r₁ r₂ hne h₁ h₂
      obtain ⟨ht₁, hr₁⟩ | ⟨_, hold₁⟩ := hold t₁ r₁ h₁
      · obtain ⟨ht₂, _⟩ | ⟨_, hold₂⟩ := hold t₂ r₂ h₂
        · exact absurd (ht₁.trans ht₂.symm) hne
        · exact hr₁ ▸ (hother t₂ r₂ hold₂).symm
      · obtain ⟨_, hr₂⟩ | ⟨_, hold₂⟩ := hold t₂ r₂ h₂
        · exact hr₂ ▸ hother t₁ r₁ hold₁
        · exact h.distinct t₁ t₂ r₁ r₂ hne hold₁ hold₂
  | get t r =>
    have hadding : (s.threads t).adding = some r := by rw [show s.threads t = .get r from hg]; rfl
    have hsame : ∀ r' ∈ some r, (s.threads t).adding = some r' := fun r' hr' => hr' ▸ hadding
    show Ids (match s.msgListeners r.channelId with | some h => _ | none => _)
    split
    · split
      · exact h.of_thread rfl rfl hsame fun _ hr => hr
      · exact h.register rfl rfl hadding rfl
    · exact h.of_thread rfl rfl hsame fun _ hr => hr
  | set t r handler =>
    have hadding : (s.threads t).adding = some r := by
      rw [show s.threads t = .set r handler from hg]
      rfl
    exact h.of_thread rfl rfl (fun r' hr' => hr' ▸ hadding) fun _ hr => hr
  | connect t r handler =>
    have hadding : (s.threads t).adding = some r := by
      rw [show s.threads t = .connect r handler from hg]
      rfl
    exact h.register rfl rfl hadding rfl
  | disconnect t channelId key handler =>
    exact h.of_thread rfl rfl nofun fun _ hr => (List.mem_filter.mp hr).1
  | removeGet t channelId key | messageGet t channelId sender =>
    show Ids (match s.msgListeners channelId with | some h => _ | none => _)
    split <;> exact h.of_thread rfl rfl nofun fun _ hr => hr
  | removeListener t | onMessage t | run t => exact h.of_thread rfl rfl nofun fun _ hr => hr

theorem ids_reachable (h : (dispatcher typeOf).Reachable s) : Ids s := by
  induction h with
  | init hi =>
    obtain ⟨_, _, hthreads, _, hregistered⟩ := hi
    constructor
    · rw [hregistered]
      nofun
    · intro t r hr
      rw [hthreads] at hr
      cases hr
    · intro t t' r r' _ hr _
      rw [hthreads] at hr
      cases hr
  | step a _ hstep ih =>
    obtain ⟨hg, rfl⟩ := hstep
    exact ids_step a ih hg

/-! ## Section 5: Handlers -/

/-- The handler was made for the channel. -/
structure Owns (typeOf owner : Nat → Nat) (s : State) (channelId handler : Nat) : Prop where
  made  : handler < s.nextHandler
  owner : owner handler = channelId
  type  : (s.handlers handler).messageType = typeOf channelId

/-- **Invariant**: the map and the threads have handlers that were made for
    their channels, the handler a thread is about to connect to is the one
    in the map, and registered listeners are connected to that. -/
structure Inv (typeOf owner : Nat → Nat) (s : State) : Prop where
  sound      : ∀ h, (s.handlers h).Sound
  held       : ∀ c h, s.msgListeners c = some h → Owns typeOf owner s c h
  setting    : ∀ t r h, s.threads t = .set r h → Owns typeOf owner s r.channelId h
  removing   : ∀ t c key h, s.threads t = .disconnect c key h → Owns typeOf owner s c h
  connecting : ∀ t r h, s.threads t = .connect r h → s.msgListeners r.channelId = some h
  kept       : ∀ r ∈ s.registered, ∃ h, s.msgListeners r.channelId = some h ∧
    (s.handlers h).Connected r.key r.listener

section handlers

variable {owner : Nat → Nat}

/-- A step that changes where a thread stands and no handler. -/
theorem Inv.of_thread (h : Inv typeOf owner s) {s' : State} {t : Nat} {pc : Pc}
    (hthreads : s'.threads = Function.update s.threads t pc)
    (hmap : s'.msgListeners = s.msgListeners) (hhandlers : s'.handlers = s.handlers)
    (hnext : s'.nextHandler = s.nextHandler) (hregistered : s'.registered = s.registered)
    (hset : ∀ r h, pc = .set r h → Owns typeOf owner s r.channelId h)
    (hremove : ∀ c key h, pc = .disconnect c key h → Owns typeOf owner s c h)
    (hconnect : ∀ r h, pc = .connect r h → s.msgListeners r.channelId = some h) :
    Inv typeOf owner s' := by
  have hold : ∀ t' pc', s'.threads t' = pc' → pc' = pc ∨ s.threads t' = pc' := by
    intro t' pc' hpc'
    rw [hthreads] at hpc'
    obtain ⟨_, hpc⟩ | ⟨_, hpc⟩ := update_cases hpc'
    · exact .inl hpc.symm
    · exact .inr hpc
  have howns : ∀ c h, Owns typeOf owner s c h → Owns typeOf owner s' c h := by
    rintro c h ⟨hmade, hown, htype⟩
    exact ⟨hnext ▸ hmade, hown, hhandlers ▸ htype⟩
  constructor
  · rw [hhandlers]
    exact h.sound
  · rw [hmap]
    exact fun c handler hc => howns c handler (h.held c handler hc)
  · intro t' r handler hpc'
    obtain hpc | hpc := hold t' _ hpc'
    · exact howns _ _ (hset r handler hpc.symm)
    · exact howns _ _ (h.setting t' r handler hpc)
  · intro t' c key handler hpc'
    obtain hpc | hpc := hold t' _ hpc'
    · exact howns _ _ (hremove c key handler hpc.symm)
    · exact howns _ _ (h.removing t' c key handler hpc)
  · intro t' r handler hpc'
    rw [hmap]
    obtain hpc | hpc := hold t' _ hpc'
    · exact hconnect r handler hpc.symm
    · exact h.connecting t' r handler hpc
  · rw [hregistered, hmap, hhandlers]
    exact h.kept

/-- A step that changes one handler and ends the call. -/
theorem Inv.setHandler (h : Inv typeOf owner s) {t handler : Nat} {handler' : ListenerHandler}
    (hsound : handler'.Sound) (htype : handler'.messageType = (s.handlers handler).messageType)
    {registered : List Listener}
    (hkept : ∀ r ∈ registered, ∃ h, s.msgListeners r.channelId = some h ∧
      (Function.update s.handlers handler handler' h).Connected r.key r.listener) :
    Inv typeOf owner
      { (s.setHandler handler handler').setThread t .idle with registered := registered } := by
  have htypes : ∀ h, (Function.update s.handlers handler handler' h).messageType =
      (s.handlers h).messageType := by
    intro h
    by_cases hh : h = handler
    · subst hh
      rw [Function.update_self]
      exact htype
    · rw [Function.update_of_ne hh]
  have howns : ∀ c h, Owns typeOf owner s c h → Owns typeOf owner
      { (s.setHandler handler handler').setThread t .idle with registered := registered } c h :=
    fun c h hown => ⟨hown.made, hown.owner, (htypes h).trans hown.type⟩
  have hold : ∀ t' pc', Function.update s.threads t Pc.idle t' = pc' → pc' ≠ .idle →
      s.threads t' = pc' := by
    intro t' pc' hpc' hne
    obtain ⟨_, hpc⟩ | ⟨_, hpc⟩ := update_cases hpc'
    · exact absurd hpc.symm hne
    · exact hpc
  constructor
  · intro h'
    show (Function.update s.handlers handler handler' h').Sound
    by_cases hh : h' = handler
    · subst hh
      rwa [Function.update_self]
    · rw [Function.update_of_ne hh]
      exact h.sound h'
  · exact fun c h' hc => howns c h' (h.held c h' hc)
  · exact fun t' r h' hpc => howns _ _ (h.setting t' r h' (hold t' _ hpc nofun))
  · exact fun t' c key h' hpc => howns _ _ (h.removing t' c key h' (hold t' _ hpc nofun))
  · exact fun t' r h' hpc => h.connecting t' r h' (hold t' _ hpc nofun)
  · exact hkept

/-- `AddListener` makes a handler. It is not in the map yet. -/
theorem Inv.make (h : Inv typeOf owner s) (t : Nat) (r : Listener) :
    Inv typeOf (Function.update owner s.nextHandler r.channelId)
      { (s.setHandler s.nextHandler (.new (typeOf r.channelId))).setThread t
          (.set r s.nextHandler) with nextHandler := s.nextHandler + 1 } := by
  have hhandlers : ∀ handler, handler < s.nextHandler →
      Function.update s.handlers s.nextHandler (.new (typeOf r.channelId)) handler =
        s.handlers handler := fun handler hlt =>
    Function.update_of_ne (Nat.ne_of_lt hlt) _ s.handlers
  have howns : ∀ c handler, Owns typeOf owner s c handler →
      Owns typeOf (Function.update owner s.nextHandler r.channelId)
        { (s.setHandler s.nextHandler (.new (typeOf r.channelId))).setThread t
            (.set r s.nextHandler) with nextHandler := s.nextHandler + 1 } c handler := by
    rintro c handler ⟨hmade, hown, htype⟩
    refine ⟨Nat.lt_succ_of_lt hmade, ?_, ?_⟩
    · rw [Function.update_of_ne (Nat.ne_of_lt hmade)]
      exact hown
    · exact (congrArg ListenerHandler.messageType (hhandlers handler hmade)).trans htype
  constructor
  · intro handler
    show (Function.update s.handlers s.nextHandler (.new (typeOf r.channelId)) handler).Sound
    by_cases hh : handler = s.nextHandler
    · subst hh
      rw [Function.update_self]
      exact ListenerHandler.sound_new _
    · rw [Function.update_of_ne hh]
      exact h.sound handler
  · exact fun c handler hc => howns c handler (h.held c handler hc)
  · intro t' r' handler hpc
    obtain ⟨_, hpc⟩ | ⟨_, hpc⟩ := update_cases hpc
    · -- the new handler
      cases hpc
      refine ⟨Nat.lt_succ_self _, Function.update_self .., ?_⟩
      show (Function.update s.handlers s.nextHandler (.new (typeOf r.channelId))
        s.nextHandler).messageType = _
      rw [Function.update_self]
      rfl
    · exact howns _ _ (h.setting t' r' handler hpc)
  · intro t' c key handler hpc
    obtain ⟨_, hpc⟩ | ⟨_, hpc⟩ := update_cases hpc
    · cases hpc
    · exact howns _ _ (h.removing t' c key handler hpc)
  · intro t' r' handler hpc
    obtain ⟨_, hpc⟩ | ⟨_, hpc⟩ := update_cases hpc
    · cases hpc
    · exact h.connecting t' r' handler hpc
  · intro r' hr'
    obtain ⟨handler, hmap, hconnected⟩ := h.kept r' hr'
    refine ⟨handler, hmap, ?_⟩
    show (Function.update s.handlers s.nextHandler _ handler).Connected _ _
    rwa [hhandlers handler (h.held _ handler hmap).made]

/-- `Set` on an unused channel: whatever handler it replaces, no listener is
    connected to it. -/
theorem Inv.set (h : Inv typeOf owner s) {t handler : Nat} {r : Listener}
    (hpc : s.threads t = .set r handler) (hunused : Unused s r.channelId) :
    Inv typeOf owner { s.setThread t (.connect r handler) with
      msgListeners := Function.update s.msgListeners r.channelId (some handler) } := by
  obtain ⟨hunregistered, hunconnected⟩ := hunused
  have hown := h.setting t r handler hpc
  have howns : ∀ c h, Owns typeOf owner s c h → Owns typeOf owner
      { s.setThread t (.connect r handler) with
        msgListeners := Function.update s.msgListeners r.channelId (some handler) } c h :=
    fun c h hown => ⟨hown.made, hown.owner, hown.type⟩
  have hothers : ∀ c, c ≠ r.channelId →
      Function.update s.msgListeners r.channelId (some handler) c = s.msgListeners c :=
    fun c hc => Function.update_of_ne hc _ s.msgListeners
  refine ⟨h.sound, ?_, ?_, ?_, ?_, ?_⟩
  · intro c handler' hc
    have hc : Function.update s.msgListeners r.channelId (some handler) c = some handler' := hc
    by_cases hchannel : c = r.channelId
    · subst hchannel
      rw [Function.update_self] at hc
      cases hc
      exact howns _ _ hown
    · rw [hothers c hchannel] at hc
      exact howns _ _ (h.held c handler' hc)
  · intro t' r' handler' hpc'
    obtain ⟨_, hpc'⟩ | ⟨_, hpc'⟩ := update_cases hpc'
    · cases hpc'
    · exact howns _ _ (h.setting t' r' handler' hpc')
  · intro t' c key handler' hpc'
    obtain ⟨_, hpc'⟩ | ⟨_, hpc'⟩ := update_cases hpc'
    · cases hpc'
    · exact howns _ _ (h.removing t' c key handler' hpc')
  · intro t' r' handler' hpc'
    show Function.update s.msgListeners r.channelId (some handler) r'.channelId = some handler'
    obtain ⟨_, hpc'⟩ | ⟨_, hpc'⟩ := update_cases hpc'
    · cases hpc'
      exact Function.update_self ..
    · -- no other thread is about to connect on the channel
      rw [hothers _ (hunconnected t' r' handler' hpc')]
      exact h.connecting t' r' handler' hpc'
  · intro r' hr'
    obtain ⟨handler', hmap, hconnected⟩ := h.kept r' hr'
    refine ⟨handler', ?_, hconnected⟩
    show Function.update s.msgListeners r.channelId (some handler) r'.channelId = some handler'
    rw [hothers _ (hunregistered r' hr')]
    exact hmap

/-- `Connect`: the handler is the one in the map, and the other listeners of
    the channel have other keys. -/
theorem Inv.connect (h : Inv typeOf owner s) (hids : Ids s) {t handler : Nat} {r : Listener}
    (hpc : s.threads t = .connect r handler) :
    Inv typeOf owner
      { (s.setHandler handler ((s.handlers handler).connect r.key r.listener)).setThread t .idle
        with registered := r :: s.registered } := by
  have hmap := h.connecting t r handler hpc
  have hadding : (s.threads t).adding = some r := by
    rw [hpc]
    rfl
  refine h.setHandler ((h.sound handler).connect r.key r.listener)
    (ListenerHandler.messageType_connect r.key r.listener) ?_
  refine List.forall_mem_cons.mpr ⟨⟨handler, hmap, ?_⟩, fun r' hr' => ?_⟩
  · rw [Function.update_self]
    exact ListenerHandler.connected_connect r.key r.listener
  · obtain ⟨handler', hmap', hconnected⟩ := h.kept r' hr'
    refine ⟨handler', hmap', ?_⟩
    by_cases hh : handler' = handler
    · subst hh
      rw [Function.update_self]
      have hchannel : r'.channelId = r.channelId :=
        (h.held _ _ hmap').owner.symm.trans (h.held _ _ hmap).owner
      have hne := (hids.adding t r hadding).2 r' hr'
      exact hconnected.connect fun hkey => hne (Prod.ext hchannel hkey)
    · rwa [Function.update_of_ne hh]

/-- `Disconnect` takes the listener of the key, which is not registered any
    more, and no other. -/
theorem Inv.disconnect (h : Inv typeOf owner s) {t channelId handler : Nat} {key : ListenerKey}
    (hpc : s.threads t = .disconnect channelId key handler) :
    Inv typeOf owner
      { (s.setHandler handler ((s.handlers handler).disconnect key)).setThread t .idle with
        registered := s.registered.filter (·.id ≠ (channelId, key)) } := by
  have hown := h.removing t channelId key handler hpc
  refine h.setHandler ((h.sound handler).disconnect key)
    (ListenerHandler.messageType_disconnect key) ?_
  intro r' hr'
  obtain ⟨hr', hne⟩ := List.mem_filter.mp hr'
  obtain ⟨handler', hmap', hconnected⟩ := h.kept r' hr'
  refine ⟨handler', hmap', ?_⟩
  by_cases hh : handler' = handler
  · subst hh
    rw [Function.update_self]
    have hchannel : r'.channelId = channelId := (h.held _ _ hmap').owner.symm.trans hown.owner
    refine hconnected.disconnect (h.sound handler') fun hkey => ?_
    exact of_decide_eq_true hne (Prod.ext hchannel hkey)
  · rwa [Function.update_of_ne hh]

/-- **Step lemma**, handlers. -/
theorem inv_step (a : Label) (hids : Ids s) (h : Inv typeOf owner s)
    (hg : ((dispatcher typeOf).action a).gate s) (hok : SetsUnused s a) :
    ∃ owner', Inv typeOf owner' (((dispatcher typeOf).action a).effect s) := by
  cases a with
  | addListener t r =>
    exact ⟨owner, h.of_thread rfl rfl rfl rfl rfl nofun nofun nofun⟩
  | removeListener t channelId key =>
    exact ⟨owner, h.of_thread rfl rfl rfl rfl rfl nofun nofun nofun⟩
  | onMessage t channelId sender =>
    exact ⟨owner, h.of_thread rfl rfl rfl rfl rfl nofun nofun nofun⟩
  | run t handler sender =>
    exact ⟨owner, h.of_thread rfl rfl rfl rfl rfl nofun nofun nofun⟩
  | get t r =>
    show ∃ owner', Inv typeOf owner' (match s.msgListeners r.channelId with
      | some h => _ | none => _)
    split
    · next handler hmap =>
      -- the handler in the map is of the channel's type
      rw [if_pos (h.held _ handler hmap).type]
      refine ⟨owner, h.of_thread rfl rfl rfl rfl rfl nofun nofun ?_⟩
      rintro r' handler' hpc
      cases hpc
      exact hmap
    · exact ⟨_, h.make t r⟩
  | set t r handler => exact ⟨owner, h.set hg hok⟩
  | connect t r handler => exact ⟨owner, h.connect hids hg⟩
  | disconnect t channelId key handler => exact ⟨owner, h.disconnect hg⟩
  | removeGet t channelId key =>
    show ∃ owner', Inv typeOf owner' (match s.msgListeners channelId with
      | some h => _ | none => _)
    split
    · next handler hmap =>
      refine ⟨owner, h.of_thread rfl rfl rfl rfl rfl nofun ?_ nofun⟩
      rintro c key' handler' hpc
      cases hpc
      exact h.held _ handler hmap
    · exact ⟨owner, h.of_thread rfl rfl rfl rfl rfl nofun nofun nofun⟩
  | messageGet t channelId sender =>
    show ∃ owner', Inv typeOf owner' (match s.msgListeners channelId with
      | some h => _ | none => _)
    split <;> exact ⟨owner, h.of_thread rfl rfl rfl rfl rfl nofun nofun nofun⟩

end handlers

/-- **Run lemma**, handlers. -/
theorem inv_reachable (h : ((dispatcher typeOf).restrict SetsUnused).Reachable s) :
    ∃ owner, Inv typeOf owner s := by
  induction h with
  | init hi =>
    obtain ⟨hmap, hsound, hthreads, _, hregistered⟩ := hi
    refine ⟨fun _ => 0, hsound, ?_, ?_, ?_, ?_, ?_⟩
    · intro c handler hc
      rw [hmap] at hc
      cases hc
    · intro t r handler hpc
      rw [hthreads] at hpc
      cases hpc
    · intro t c key handler hpc
      rw [hthreads] at hpc
      cases hpc
    · intro t r handler hpc
      rw [hthreads] at hpc
      cases hpc
    · rw [hregistered]
      nofun
  | step a hr hstep ih =>
    obtain ⟨⟨hg, hok⟩, rfl⟩ := hstep
    obtain ⟨owner, hinv⟩ := ih
    exact inv_step a (ids_reachable (System.Reachable.of_restrict hr)) hinv hg hok

/-! ## Section 6: Registrations -/

/-- **Main result**: no registration is lost in a run in which handlers are
    set for unused channels only. -/
theorem addListener_noneLost (typeOf : Nat → Nat) (s : State)
    (h : ((dispatcher typeOf).restrict SetsUnused).Reachable s) : NoneLost s := by
  obtain ⟨owner, hinv⟩ := inv_reachable h
  intro r hr
  obtain ⟨handler, hmap, hconnected⟩ := hinv.kept r hr
  exact ⟨handler, hmap, hconnected, fun _ hsender => hconnected.mem_run hsender⟩

/-- A dispatcher without handlers. -/
def start : State where
  msgListeners := fun _ => none
  handlers     := fun _ => .new 0
  nextHandler  := 0
  threads      := fun _ => .idle
  used         := []
  registered   := []

theorem start_init (typeOf : Nat → Nat) : (dispatcher typeOf).init start :=
  ⟨fun _ => rfl, fun _ => ListenerHandler.sound_new 0, fun _ => rfl, rfl, rfl⟩

def firstListener : Listener := ⟨5, ⟨1, none⟩, 10⟩

def secondListener : Listener := ⟨5, ⟨2, some 7⟩, 20⟩

/-- Both threads look the handler of the channel up before one of them sets
    the handler it has made. -/
def bothMiss : List Label :=
  [.addListener 0 firstListener, .addListener 1 secondListener, .get 0 firstListener,
   .get 1 secondListener, .set 0 firstListener 0, .connect 0 firstListener 0,
   .set 1 secondListener 1]

/-- The first listener is connected to a handler that is not in the map any
    more. -/
theorem addListener_lost :
    ¬ ∀ s, (dispatcher fun _ => 0).Reachable s → NoneLost s := by
  intro h
  let s := (dispatcher fun _ => 0).exec start bothMiss
  have hs : (dispatcher fun _ => 0).Reachable s :=
    System.reachable_exec _ (start_init _) bothMiss (by decide +kernel)
  have hin : firstListener ∈ s.registered := by decide +kernel
  obtain ⟨handler, hmap, ⟨ptr, hptr, _⟩, _⟩ := h s hs firstListener hin
  have hsecond : s.msgListeners firstListener.channelId = some 1 := by decide +kernel
  rw [hsecond] at hmap
  cases hmap
  have hnone : (s.handlers 1).slotOf firstListener.key = none := by decide +kernel
  rw [hnone] at hptr
  cases hptr

/-- The second thread looks the handler up when the first one has set it. -/
def setThenFound : List Label :=
  [.connect 0 firstListener 0, .addListener 1 secondListener, .get 1 secondListener,
   .connect 1 secondListener 0]

theorem addListener_noneLost_setThenFound :
    NoneLost (((dispatcher fun _ => 0).restrict SetsUnused).exec start
      ([.addListener 0 firstListener, .get 0 firstListener, .set 0 firstListener 0] ++
        setThenFound)) := by
  refine addListener_noneLost (fun _ => 0) _ ?_
  refine System.reachable_exec ((dispatcher fun _ => 0).restrict SetsUnused)
    (start_init fun _ => 0) _ ?_
  refine ⟨⟨by decide, trivial⟩, ⟨by decide, trivial⟩, ⟨by decide, ?_⟩, ?_⟩
  · -- the only other threads are idle
    refine ⟨nofun, fun t r h hpc => ?_⟩
    by_cases ht : t = 0
    · subst ht
      cases hpc
    · simp [dispatcher, System.restrict, start, State.setThread, State.setHandler, ht] at hpc
  · exact System.admits_restrict (by decide +kernel) (by simp [setThenFound, SetsUnused])

end CyberRT.Transport.Dispatch
