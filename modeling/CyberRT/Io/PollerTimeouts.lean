import Mathlib.Data.List.Induction
import CyberRT.Io.Poller

/-! # The timeouts of the poller

    One iteration of `ThreadFunc` after the other: `HandleChanges`, then
    `GetTimeoutMs` and `Poll`, each as a whole. Between them other threads
    register and unregister requests; a request that is registered after
    `HandleChanges` is a newcomer to the next `Poll`, which does not count
    its time.

    The time a `Poll` takes is measured with the system clock, before and
    after `epoll_wait`; nothing is assumed about its readings.

    `registrations` is history: the registration a fd has at present, with
    its timeout, the time counted for it, each `Poll` as at least 1 ms, and
    the responses it got, empty ones and others.

    A `Poll` that seems to have taken less than no time gives the requests
    time back (`poll_clockSetBack`). As long as that does not happen, every
    timeout comes once and in time (`timeouts_onTime`). -/

namespace CyberRT.Io.PollerTimeouts

open CyberRT.Framework

variable {F : Type}

/-! ## Section 1: One iteration -/

def kPollTimeoutMs : Int := 100

/-- `HandleChanges`, all of it. -/
def handleChanges (s : Poller F) : Poller F :=
  { s with
    pc         := .poll
    ctrlParams := ∅
    epoll      := s.ctrlParams.entries.foldl (fun epoll x => epoll.ctl x.2) s.epoll }

/-- `GetTimeoutMs`, what `Poll` is told to wait. -/
def getTimeoutMs (s : Poller F) : Int :=
  s.requests.entries.foldl
    (fun timeoutMs x =>
      if 0 ≤ x.2.timeoutMs ∧ x.2.timeoutMs < timeoutMs then x.2.timeoutMs else timeoutMs)
    kPollTimeoutMs

/-- `interval_ms` before it is compensated: the difference of two unsigned
    times in nanoseconds, cast to `int`. -/
def intervalMs (beforeTimeNs afterTimeNs : UInt64) : Int :=
  (BitVec.ofNat 32 ((afterTimeNs - beforeTimeNs) / 1000000).toNat).toInt

/-- `responses`: the timeouts, and over them the events. -/
def collect (s : Poller F) (interval : Int) (ready : List (Int × BitVec 32)) :
    AList fun _ : Int => BitVec 32 :=
  ready.foldl (fun m x => m.insert x.1 x.2) (s.timeouts interval)

/-- The loop over the responses, in any order. -/
def deliver (s : Poller F) (fds : List Int) : Poller F := fds.foldl Poller.answer s

/-- `Poll`, all of it. -/
def poll (s : Poller F) (interval : Int) (ready : List (Int × BitVec 32)) : Poller F :=
  { deliver { s with requests := s.tickAll interval } (collect s interval ready).keys with
    pc := .handleChanges }

/-! ## Section 2: Runs -/

/-- The registration of a fd. -/
structure Registration where
  timeoutMs : Int
  elapsed   : Int
  timeouts  : Nat
  events    : Nat
  deriving DecidableEq

def Registration.new (timeoutMs : Int) : Registration := ⟨timeoutMs, 0, 0, 0⟩

/-- An interval as it is counted for a request. -/
def counted (interval : Int) : Int := max 1 interval

/-- The interval counts once the registration is applied. -/
def Registration.count (e : Registration) (applied : Bool) (interval : Int) : Registration :=
  if applied then { e with elapsed := e.elapsed + counted interval } else e

def Registration.respond (e : Registration) : Option (BitVec 32) → Registration
  | none        => e
  | some events =>
    if events = 0 then { e with timeouts := e.timeouts + 1 }
    else { e with events := e.events + 1 }

structure State (F : Type) where
  poller        : Poller F
  registrations : Int → Option Registration

def State.register (s : State F) (req : PollRequest F) : State F :=
  match s.poller.register req with
  | (p, true)  => ⟨p, Function.update s.registrations req.fd (some (.new req.timeoutMs))⟩
  | (p, false) => ⟨p, s.registrations⟩

def State.unregister (s : State F) (req : PollRequest F) : State F :=
  match s.poller.unregister req with
  | (p, true)  => ⟨p, Function.update s.registrations req.fd none⟩
  | (p, false) => ⟨p, s.registrations⟩

def State.poll (s : State F) (interval : Int) (ready : List (Int × BitVec 32)) : State F where
  poller        := PollerTimeouts.poll s.poller interval ready
  registrations := fun fd => (s.registrations fd).map fun e =>
    (e.count (s.poller.ctrlParams.lookup fd).isNone interval).respond
      ((collect s.poller interval ready).lookup fd)

inductive Label (F : Type) where
  | register (req : PollRequest F)
  | unregister (req : PollRequest F)
  | handleChanges
  | poll (beforeTimeNs afterTimeNs : UInt64) (ready : List (Int × BitVec 32))

def State.create (pipeFd : Int) (drain : F) : State F where
  poller        := Poller.create pipeFd drain
  registrations := fun fd => if fd = pipeFd then some (.new (-1)) else none

/-- The iterations and the calls between them. `epoll_wait` reports at least
    one event of a fd in the epoll set. -/
def pollerThread (pipeFd : Int) (drain : F) : System (State F) (Label F) where
  init := fun s => s = State.create pipeFd drain
  action := fun
    | .register req =>
      { gate   := fun _ => True
        effect := fun s => s.register req }
    | .unregister req =>
      { gate   := fun _ => True
        effect := fun s => s.unregister req }
    | .handleChanges =>
      { gate   := fun s => s.poller.pc = .handleChanges
        effect := fun s => { s with poller := handleChanges s.poller } }
    | .poll beforeTimeNs afterTimeNs ready =>
      { gate   := fun s =>
          s.poller.pc = .poll ∧ ∀ x ∈ ready, (s.poller.epoll x.1).isSome ∧ x.2 ≠ 0
        effect := fun s => s.poll (intervalMs beforeTimeNs afterTimeNs) ready }

instance (pipeFd : Int) (drain : F) : ∀ (a : Label F) (s : State F),
    Decidable (((pollerThread pipeFd drain).action a).gate s)
  | .register _,    _ => inferInstanceAs (Decidable True)
  | .unregister _,  _ => inferInstanceAs (Decidable True)
  | .handleChanges, s => inferInstanceAs (Decidable (s.poller.pc = .handleChanges))
  | .poll _ _ ready, s =>
    inferInstanceAs (Decidable
      (s.poller.pc = .poll ∧ ∀ x ∈ ready, (s.poller.epoll x.1).isSome ∧ x.2 ≠ 0))

/-! ## Section 3: Specification -/

/-- A registration with a timeout that gets no event gets its one empty
    response at the first `Poll` at which its time is over; and the next
    `Poll` is not told to wait longer than until then, nor longer than any
    request says. -/
structure OnTime (s : State F) : Prop where
  timeouts : ∀ fd e, s.registrations fd = some e → 0 < e.timeoutMs → e.events = 0 →
    e.timeouts = if e.elapsed < e.timeoutMs then 0 else 1
  wait : ∀ fd e, s.registrations fd = some e → 0 < e.timeoutMs → e.events = 0 →
    e.elapsed < e.timeoutMs → getTimeoutMs s.poller ≤ e.timeoutMs - e.elapsed
  waitRequests : ∀ fd r, s.poller.requests.lookup fd = some r → 0 ≤ r.timeoutMs →
    getTimeoutMs s.poller ≤ r.timeoutMs

/-- The measured time does not run backwards. -/
def Forward : Label F → Prop
  | .poll beforeTimeNs afterTimeNs _ => 0 ≤ intervalMs beforeTimeNs afterTimeNs
  | _ => True

instance : ∀ a : Label F, Decidable (Forward a)
  | .register _                        => inferInstanceAs (Decidable True)
  | .unregister _                      => inferInstanceAs (Decidable True)
  | .handleChanges                     => inferInstanceAs (Decidable True)
  | .poll beforeTimeNs afterTimeNs _   =>
    inferInstanceAs (Decidable (0 ≤ intervalMs beforeTimeNs afterTimeNs))

/-! ## Section 4: One iteration, fd by fd -/

theorem lookup_tickAll (s : Poller F) (interval : Int) (fd : Int) :
    (s.tickAll interval).lookup fd = (s.requests.lookup fd).map (s.tick interval) :=
  List.dlookup_map₂ fd

theorem tick_fd (s : Poller F) (interval : Int) (r : PollRequest F) :
    (s.tick interval r).fd = r.fd := by
  unfold Poller.tick
  split <;> rfl

/-- The entry of a key is all that decides what a filter leaves of it. -/
theorem dlookup_filterMap (P : PollRequest F → Prop) [DecidablePred P] (fd : Int)
    {l : List (Sigma fun _ : Int => PollRequest F)} (hl : l.NodupKeys) :
    (l.filterMap fun x =>
        if P x.2 then some (⟨x.1, 0⟩ : Sigma fun _ : Int => BitVec 32) else none).dlookup fd =
      (l.dlookup fd).bind fun r => if P r then some 0 else none := by
  induction l with
  | nil => rfl
  | cons x l ih =>
    obtain ⟨fd', r⟩ := x
    obtain ⟨hnot, htail⟩ := List.nodupKeys_cons.mp hl
    have hrest := ih htail
    by_cases hfd : fd = fd'
    · -- the keys differ, so nothing behind this entry counts
      subst hfd
      have hgone : l.dlookup fd = none := List.dlookup_eq_none.mpr hnot
      rw [hgone] at hrest
      by_cases hP : P r
      · simp [hP]
      · simpa [hP] using hrest
    · have hhead : ∀ (γ : Type) (x : γ) (l : List (Sigma fun _ : Int => γ)),
          (⟨fd', x⟩ :: l).dlookup fd = l.dlookup fd :=
        fun _ x l => List.dlookup_cons_ne l ⟨fd', x⟩ hfd
      by_cases hP : P r
      · simpa [hP, hhead] using hrest
      · simpa [hP, hhead] using hrest

/-- A request whose time is over gets an empty response. -/
theorem lookup_timeouts (s : Poller F) (interval : Int) (fd : Int) :
    (s.timeouts interval).lookup fd =
      (s.requests.lookup fd).bind fun r => if s.Due interval r then some 0 else none := by
  unfold Poller.timeouts
  rw [AList.lookup_to_alist]
  exact dlookup_filterMap (s.Due interval) fd s.requests.nodupKeys

/-- An event takes the place of a timeout. -/
theorem lookup_collect (s : Poller F) (interval : Int) (ready : List (Int × BitVec 32)) (fd : Int) :
    (∃ x ∈ ready, x.1 = fd ∧ (collect s interval ready).lookup fd = some x.2) ∨
      (collect s interval ready).lookup fd = (s.timeouts interval).lookup fd := by
  unfold collect
  -- the last event of a fd is the one that stays
  induction ready using List.reverseRecOn with
  | nil => exact .inr rfl
  | append_singleton ready x ih =>
    rw [List.foldl_append, List.foldl_cons, List.foldl_nil]
    by_cases hfd : fd = x.1
    · rw [hfd, AList.lookup_insert]
      exact .inl ⟨x, by simp, rfl, rfl⟩
    · rw [AList.lookup_insert_ne hfd]
      rcases ih with ⟨y, hy, hkey, hlookup⟩ | hlookup
      · exact .inl ⟨y, List.mem_append_left _ hy, hkey, hlookup⟩
      · exact .inr hlookup

theorem lookup_answer (s : Poller F) (fd fd' : Int) :
    (s.answer fd).requests.lookup fd' =
      if fd' = fd then (s.requests.lookup fd').map fun r => { r with timeoutMs := -1 }
      else s.requests.lookup fd' := by
  unfold Poller.answer
  by_cases hfd : fd' = fd
  · subst hfd
    cases hfind : s.requests.lookup fd' with
    | none   => simp [hfind]
    | some r => simp
  · rw [if_neg hfd]
    cases hfind : s.requests.lookup fd with
    | none   => rfl
    | some r => exact AList.lookup_insert_ne hfd

/-- Who gets a response has no timeout any more. -/
theorem lookup_deliver (s : Poller F) (fds : List Int) (fd : Int) :
    (deliver s fds).requests.lookup fd =
      if fd ∈ fds then (s.requests.lookup fd).map fun r => { r with timeoutMs := -1 }
      else s.requests.lookup fd := by
  unfold deliver
  induction fds generalizing s with
  | nil => rfl
  | cons fd' fds ih =>
    rw [List.foldl_cons, ih, lookup_answer]
    by_cases hfd : fd = fd'
    · subst hfd
      by_cases hin : fd ∈ fds
      · -- a second response finds the timeout gone already
        simp [hin, Function.comp_def]
      · simp [hin]
    · simp [hfd]

theorem answer_ctrlParams (s : Poller F) (fd : Int) : (s.answer fd).ctrlParams = s.ctrlParams := by
  unfold Poller.answer
  split <;> rfl

theorem answer_pc (s : Poller F) (fd : Int) : (s.answer fd).pc = s.pc := by
  unfold Poller.answer
  split <;> rfl

theorem lookup_poll (s : Poller F) (interval : Int) (ready : List (Int × BitVec 32)) (fd : Int) :
    (poll s interval ready).requests.lookup fd =
      (s.requests.lookup fd).map fun r =>
        if ((collect s interval ready).lookup fd).isSome then
          { s.tick interval r with timeoutMs := -1 }
        else s.tick interval r := by
  have hkeys : fd ∈ (collect s interval ready).keys ↔
      ((collect s interval ready).lookup fd).isSome = true := AList.lookup_isSome.symm
  change (deliver _ _).requests.lookup fd = _
  rw [lookup_deliver]
  simp only [lookup_tickAll, hkeys]
  split
  · rw [Option.map_map]
    rfl
  · rfl

/-- The wait is not longer than what a request says. -/
theorem getTimeoutMs_le {s : Poller F} {fd : Int} {r : PollRequest F}
    (h : s.requests.lookup fd = some r) (hr : 0 ≤ r.timeoutMs) : getTimeoutMs s ≤ r.timeoutMs := by
  -- the loop only takes less, from what it had and from each timeout
  have hmin : ∀ (l : List (Sigma fun _ : Int => PollRequest F)) (t : Int),
      l.foldl (fun timeoutMs x =>
        if 0 ≤ x.2.timeoutMs ∧ x.2.timeoutMs < timeoutMs then x.2.timeoutMs else timeoutMs) t ≤ t ∧
      ∀ x ∈ l, 0 ≤ x.2.timeoutMs → l.foldl (fun timeoutMs x =>
        if 0 ≤ x.2.timeoutMs ∧ x.2.timeoutMs < timeoutMs then x.2.timeoutMs else timeoutMs) t ≤
          x.2.timeoutMs := by
    intro l
    induction l with
    | nil => exact fun t => ⟨Int.le_refl t, fun x hx => nomatch hx⟩
    | cons y l ih =>
      intro t
      rw [List.foldl_cons]
      obtain ⟨hle, hall⟩ := ih
        (if 0 ≤ y.2.timeoutMs ∧ y.2.timeoutMs < t then y.2.timeoutMs else t)
      refine ⟨Int.le_trans hle (by split <;> omega), fun x hx hnonneg => ?_⟩
      rcases List.mem_cons.mp hx with rfl | hx
      · exact Int.le_trans hle (by split <;> omega)
      · exact hall x hx hnonneg
  have hin : (⟨fd, r⟩ : Sigma fun _ : Int => PollRequest F) ∈ s.requests.entries :=
    AList.mem_lookup_iff.mp h
  exact (hmin s.requests.entries kPollTimeoutMs).2 _ hin hr

/-! ## Section 5: Invariant -/

/-- What is left of the timeout of a registration. -/
def Left (r : PollRequest F) (e : Registration) : Prop :=
  if e.elapsed < e.timeoutMs then r.timeoutMs = e.timeoutMs - e.elapsed ∧ e.timeouts = 0
  else r.timeoutMs = -1 ∧ e.timeouts = 1

/-- The requests are those registered, and each knows what is left of its
    timeout as long as it got no event. -/
structure Inv (s : State F) : Prop where
  fds    : ∀ fd r, s.poller.requests.lookup fd = some r → r.fd = fd
  domain : ∀ fd, (s.poller.requests.lookup fd).isSome = (s.registrations fd).isSome
  left   : ∀ fd r e, s.poller.requests.lookup fd = some r → s.registrations fd = some e →
    0 < e.timeoutMs → e.events = 0 → Left r e

theorem inv_create (pipeFd : Int) (drain : F) : Inv (State.create pipeFd drain) := by
  have hlookup : ∀ fd, (Poller.create pipeFd drain).requests.lookup fd =
      if fd = pipeFd then some (Poller.pipeRequest pipeFd drain) else none := by
    intro fd
    by_cases hfd : fd = pipeFd
    · subst hfd
      simp [Poller.create, AList.lookup]
    · rw [if_neg hfd]
      exact List.dlookup_cons_ne []
        (⟨pipeFd, Poller.pipeRequest pipeFd drain⟩ : Sigma fun _ : Int => PollRequest F) hfd
  constructor
  case fds =>
    intro fd r hr
    simp only [State.create, hlookup] at hr
    split at hr
    · rename_i hfd
      cases hr
      exact hfd.symm
    · cases hr
  case domain =>
    intro fd
    simp only [State.create, hlookup]
    split <;> rfl
  case left =>
    intro fd r e _ he hT _
    simp only [State.create] at he
    split at he
    · -- the pipe waits for ever
      cases he
      exact absurd hT (by decide)
    · cases he

/-- What a `Poll` that measured a time that went forward leaves of a
    timeout. -/
theorem Left.timeLeft {r : PollRequest F} {e : Registration} (h : Left r e) {interval : Int}
    (hinterval : 0 ≤ interval) :
    Poller.timeLeft interval r =
      if e.elapsed + counted interval < e.timeoutMs then
        e.timeoutMs - (e.elapsed + counted interval)
      else if e.elapsed < e.timeoutMs then 0
      else -1 := by
  have hcounted : (if interval = 0 then 1 else interval) = counted interval := by
    unfold counted
    split <;> omega
  have hpos : 1 ≤ counted interval := by
    unfold counted
    omega
  unfold Poller.timeLeft
  rw [hcounted]
  unfold Left at h
  split at h
  · obtain ⟨htimeout, _⟩ := h
    rw [htimeout, if_pos (by omega)]
    split
    · omega
    · omega
  · obtain ⟨htimeout, _⟩ := h
    rw [htimeout, if_neg (by omega), if_neg (by omega), if_neg (by omega)]

theorem Registration.respond_event (e : Registration) {events : BitVec 32} (h : events ≠ 0) :
    (e.respond (some events)).events = e.events + 1 := by
  unfold respond
  simp only [if_neg h]

theorem Registration.respond_empty (e : Registration) :
    e.respond (some 0) = { e with timeouts := e.timeouts + 1 } := by
  simp [respond]

/-- A newcomer is left as it is. -/
theorem tick_pending {s : Poller F} {r : PollRequest F} {p : PollCtrlParam} (interval : Int)
    (h : s.ctrlParams.lookup r.fd = some p) : s.tick interval r = r := by
  unfold Poller.tick
  rw [h]
  rfl

theorem tick_applied {s : Poller F} {r : PollRequest F} (interval : Int)
    (h : s.ctrlParams.lookup r.fd = none) :
    (s.tick interval r).timeoutMs =
      if Poller.timeLeft interval r = 0 then -1 else Poller.timeLeft interval r := by
  unfold Poller.tick
  rw [h]
  rfl

/-- `Left` looks at the timeouts only. -/
theorem Left.congr {r r' : PollRequest F} {e : Registration} (h : Left r e)
    (htimeout : r'.timeoutMs = r.timeoutMs) : Left r' e := by
  unfold Left at h ⊢
  rw [htimeout]
  exact h

/-- A `Poll` of the request of a registration without an event: the time is
    counted, and when it is over there is one empty response. -/
theorem Left.poll {s : Poller F} {r : PollRequest F} {e : Registration} (h : Left r e)
    {interval : Int} (hinterval : 0 ≤ interval) :
    Left (if s.Due interval r then { s.tick interval r with timeoutMs := -1 }
        else s.tick interval r)
      ((e.count (s.ctrlParams.lookup r.fd).isNone interval).respond
        (if s.Due interval r then some 0 else none)) := by
  cases hctrl : s.ctrlParams.lookup r.fd with
  | some p =>
    -- a newcomer: neither side changes
    have hdue : ¬ s.Due interval r := fun hdue => by
      rw [Poller.Due, hctrl] at hdue
      cases hdue.1
    rw [if_neg hdue, if_neg hdue, tick_pending interval hctrl]
    exact h
  | none =>
    have htime := h.timeLeft hinterval
    have hpos : 1 ≤ counted interval := by
      unfold counted
      omega
    have hdue : s.Due interval r ↔ Poller.timeLeft interval r = 0 := by
      rw [Poller.Due, hctrl]
      exact and_iff_right rfl
    have htick := tick_applied interval hctrl
    have hcount : e.count (none : Option PollCtrlParam).isNone interval =
        { e with elapsed := e.elapsed + counted interval } := if_pos rfl
    rw [hcount]
    unfold Left at h ⊢
    by_cases hbefore : e.elapsed < e.timeoutMs
    · rw [if_pos hbefore] at h
      by_cases hafter : e.elapsed + counted interval < e.timeoutMs
      · -- there is time left
        rw [if_pos hafter] at htime
        have hnot : ¬ s.Due interval r := fun hd => by
          have hzero := hdue.mp hd
          omega
        rw [if_neg hnot, if_neg hnot]
        have hsome : ¬ Poller.timeLeft interval r = 0 := fun hzero => hnot (hdue.mpr hzero)
        rw [if_neg hsome, htime] at htick
        exact (if_pos hafter).mpr ⟨htick, h.2⟩
      · -- the time is over now
        rw [if_neg hafter, if_pos hbefore] at htime
        rw [if_pos (hdue.mpr htime), if_pos (hdue.mpr htime), Registration.respond_empty]
        exact (if_neg hafter).mpr ⟨rfl, by simp [h.2]⟩
    · -- the time was over before
      rw [if_neg hbefore] at h
      have hafter : ¬ e.elapsed + counted interval < e.timeoutMs := by omega
      rw [if_neg hafter, if_neg hbefore] at htime
      have hnot : ¬ s.Due interval r := fun hd => by
        have hzero := hdue.mp hd
        omega
      rw [if_neg hnot, if_neg hnot]
      have hsome : ¬ Poller.timeLeft interval r = 0 := fun hzero => hnot (hdue.mpr hzero)
      rw [if_neg hsome, htime] at htick
      exact (if_neg hafter).mpr ⟨htick, h.2⟩

/-! ## Section 6: Runs -/

/-- A call that fails changes nothing; one that succeeds makes the request
    the one of its fd. -/
theorem register_cases (s : Poller F) (req : PollRequest F) :
    s.register req = (s, false) ∨
      ∃ p : PollCtrlParam, p.fd = req.fd ∧ s.register req =
        ({ s with
            requests   := s.requests.insert req.fd req
            ctrlParams := s.ctrlParams.insert req.fd p }, true) := by
  unfold Poller.register
  split
  · exact .inl rfl
  · exact .inr ⟨_, rfl, rfl⟩

theorem unregister_cases (s : Poller F) (req : PollRequest F) :
    s.unregister req = (s, false) ∨
      s.unregister req =
        ({ s with
            requests   := s.requests.erase req.fd
            ctrlParams := s.ctrlParams.insert req.fd ⟨.del, req.fd, 0⟩ }, true) := by
  unfold Poller.unregister
  split
  · exact .inl rfl
  · split
    · exact .inl rfl
    · exact .inr rfl

/-- The requests keep their own fds. -/
theorem fds_insert {requests : AList fun _ : Int => PollRequest F}
    (h : ∀ fd r, requests.lookup fd = some r → r.fd = fd) (req : PollRequest F) (fd : Int)
    (r : PollRequest F) (hr : (requests.insert req.fd req).lookup fd = some r) : r.fd = fd := by
  by_cases hfd : fd = req.fd
  · subst hfd
    rw [AList.lookup_insert, Option.some.injEq] at hr
    rw [← hr]
  · rw [AList.lookup_insert_ne hfd] at hr
    exact h fd r hr

/-- What is left is not what was erased. -/
theorem lookup_of_erase {requests : AList fun _ : Int => PollRequest F} {fd fd' : Int}
    {r : PollRequest F} (hr : (requests.erase fd').lookup fd = some r) :
    fd ≠ fd' ∧ requests.lookup fd = some r := by
  by_cases hfd : fd = fd'
  · rw [hfd, AList.lookup_erase] at hr
    cases hr
  · rw [AList.lookup_erase_ne hfd] at hr
    exact ⟨hfd, hr⟩

theorem Left.new (req : PollRequest F) (hT : 0 < req.timeoutMs) :
    Left req (.new req.timeoutMs) :=
  (if_pos hT).mpr ⟨(Int.sub_zero _).symm, rfl⟩

theorem Inv.register {s : State F} (h : Inv s) (req : PollRequest F) : Inv (s.register req) := by
  unfold State.register
  rcases register_cases s.poller req with heq | ⟨p, _, heq⟩
  · rw [heq]
    exact h
  · rw [heq]
    constructor
    case fds => exact fds_insert h.fds req
    case domain =>
      intro fd
      by_cases hfd : fd = req.fd
      · subst hfd
        simp
      · simp [hfd, h.domain fd]
    case left =>
      intro fd r e hr he hT hnone
      by_cases hfd : fd = req.fd
      · subst hfd
        simp only [AList.lookup_insert, Option.some.injEq] at hr
        simp only [Function.update_self, Option.some.injEq] at he
        subst hr he
        exact Left.new req hT
      · simp only [AList.lookup_insert_ne hfd] at hr
        simp only [Function.update_of_ne hfd] at he
        exact h.left fd r e hr he hT hnone

theorem Inv.unregister {s : State F} (h : Inv s) (req : PollRequest F) :
    Inv (s.unregister req) := by
  unfold State.unregister
  rcases unregister_cases s.poller req with heq | heq
  · rw [heq]
    exact h
  · rw [heq]
    constructor
    case fds => exact fun fd r hr => h.fds fd r (lookup_of_erase hr).2
    case domain =>
      intro fd
      by_cases hfd : fd = req.fd
      · subst hfd
        simp
      · simp [hfd, AList.lookup_erase_ne, h.domain fd]
    case left =>
      intro fd r e hr he hT hnone
      obtain ⟨hfd, hr⟩ := lookup_of_erase hr
      simp only [Function.update_of_ne hfd] at he
      exact h.left fd r e hr he hT hnone

theorem Inv.poll {s : State F} (h : Inv s) {interval : Int} (hinterval : 0 ≤ interval)
    {ready : List (Int × BitVec 32)} (hready : ∀ x ∈ ready, x.2 ≠ 0) :
    Inv (s.poll interval ready) := by
  constructor
  case fds =>
    intro fd r hr
    simp only [State.poll, lookup_poll] at hr
    obtain ⟨r', hr', rfl⟩ := Option.map_eq_some_iff.mp hr
    have hfd := (tick_fd s.poller interval r').trans (h.fds fd r' hr')
    split
    · exact hfd
    · exact hfd
  case domain =>
    intro fd
    simp only [State.poll, lookup_poll, Option.isSome_map]
    exact h.domain fd
  case left =>
    intro fd r e hr he hT hnone
    simp only [State.poll, lookup_poll] at hr he
    obtain ⟨r', hr', rfl⟩ := Option.map_eq_some_iff.mp hr
    obtain ⟨e', he', rfl⟩ := Option.map_eq_some_iff.mp he
    rcases lookup_collect s.poller interval ready fd with ⟨x, hx, _, hlookup⟩ | hlookup
    · -- an event would have been noted
      rw [hlookup, Registration.respond_event _ (hready x hx)] at hnone
      cases hnone
    · rw [lookup_timeouts, hr'] at hlookup
      have hlookup : (collect s.poller interval ready).lookup fd =
          if s.poller.Due interval r' then some 0 else none := hlookup
      -- the timeout of a registration stays, and its events are not forgotten
      have hfields : ∀ b (response : Option (BitVec 32)),
          ((e'.count b interval).respond response).timeoutMs = e'.timeoutMs ∧
            e'.events ≤ ((e'.count b interval).respond response).events := by
        intro b response
        unfold Registration.count Registration.respond
        cases b <;> cases response with
        | none => exact ⟨rfl, Nat.le_refl _⟩
        | some events =>
          dsimp only
          split
          · exact ⟨rfl, Nat.le_refl _⟩
          · exact ⟨rfl, Nat.le_succ _⟩
      rw [(hfields _ _).1] at hT
      have hnone' : e'.events = 0 := Nat.le_zero.mp (hnone ▸ (hfields _ _).2)
      have hleft := (h.left fd r' e' hr' he' hT hnone').poll (s := s.poller) hinterval
      rw [h.fds fd r' hr'] at hleft
      rw [hlookup]
      by_cases hdue : s.poller.Due interval r'
      · simpa [hdue] using hleft
      · simpa [hdue] using hleft

theorem inv_reachable {pipeFd : Int} {drain : F} {s : State F}
    (h : ((pollerThread pipeFd drain).restrict fun _ => Forward).Reachable s) : Inv s := by
  refine System.invariant (P := Inv) ?_ ?_ h
  · rintro s rfl
    exact inv_create pipeFd drain
  · rintro s a hs ⟨hg, hforward⟩
    cases a with
    | register req   => exact hs.register req
    | unregister req => exact hs.unregister req
    | handleChanges  => exact ⟨hs.fds, hs.domain, hs.left⟩
    | poll before after ready => exact hs.poll hforward fun x hx => (hg.2 x hx).2

theorem Inv.onTime {s : State F} (h : Inv s) : OnTime s := by
  have hleft : ∀ fd e, s.registrations fd = some e → 0 < e.timeoutMs → e.events = 0 →
      ∃ r, s.poller.requests.lookup fd = some r ∧ Left r e := by
    intro fd e he hT hnone
    have hsome : (s.poller.requests.lookup fd).isSome = true := by
      rw [h.domain, he]
      rfl
    obtain ⟨r, hr⟩ := Option.isSome_iff_exists.mp hsome
    exact ⟨r, hr, h.left fd r e hr he hT hnone⟩
  constructor
  case timeouts =>
    intro fd e he hT hnone
    obtain ⟨r, _, hl⟩ := hleft fd e he hT hnone
    unfold Left at hl
    split at hl
    · rename_i hbefore
      rw [if_pos hbefore, hl.2]
    · rename_i hover
      rw [if_neg hover, hl.2]
  case wait =>
    intro fd e he hT hnone hbefore
    obtain ⟨r, hr, hl⟩ := hleft fd e he hT hnone
    obtain ⟨htimeout, _⟩ := (if_pos hbefore).mp hl
    have hle := getTimeoutMs_le hr (by omega)
    omega
  case waitRequests => exact fun fd r hr hnonneg => getTimeoutMs_le hr hnonneg

/-- In every run in which no `Poll` measures less than no time, every
    timeout comes once and in time. -/
theorem timeouts_onTime (pipeFd : Int) (drain : F) {s : State F}
    (h : ((pollerThread pipeFd drain).restrict fun _ => Forward).Reachable s) : OnTime s :=
  (inv_reachable h).onTime

/-- A request of 30 ms, and two requests that are replaced or taken back;
    then a `Poll` of 20 ms, one of no time, and one of 9 ms. -/
def threePolls : List (Label Unit) :=
  [.register ⟨5, 1, 10, some ()⟩, .register ⟨5, 1, 30, some ()⟩, .register ⟨6, 1, 7, some ()⟩,
    .unregister ⟨6, 1, 7, some ()⟩, .handleChanges, .poll 1000000 21000000 [], .handleChanges,
    .poll 21000000 21000000 [], .handleChanges, .poll 21000000 30000000 []]

def afterPolls : State Unit := (pollerThread 3 ()).exec (.create 3 ()) threePolls

theorem timeouts_onTime_threePolls :
    afterPolls.registrations 5 = some ⟨30, 30, 1, 0⟩ ∧ OnTime afterPolls := by
  refine ⟨by decide, timeouts_onTime 3 () ?_⟩
  have hreachable := System.reachable_exec ((pollerThread 3 ()).restrict fun _ => Forward)
    (rfl : State.create 3 () = State.create 3 ()) threePolls (by decide)
  rwa [System.exec_restrict] at hreachable

/-- A request of 1 ms, and a `Poll` during which the system clock is set
    back by 5 ms. -/
def clockSetBack : List (Label Unit) :=
  [.register ⟨5, 1, 1, some ()⟩, .handleChanges, .poll 1000000000 995000000 []]

def afterSetBack : State Unit := (pollerThread 3 ()).exec (.create 3 ()) clockSetBack

/-- The request gets no response, and has more than a day left. -/
theorem poll_clockSetBack :
    (pollerThread 3 ()).Admits (.create 3 ()) clockSetBack ∧
      intervalMs 1000000000 995000000 = -140462616 ∧
      afterSetBack.registrations 5 = some ⟨1, 1, 0, 0⟩ ∧
      (afterSetBack.poller.requests.lookup 5).map PollRequest.timeoutMs = some 140462617 ∧
      ¬ OnTime afterSetBack := by
  have hreg : afterSetBack.registrations 5 = some ⟨1, 1, 0, 0⟩ := by decide
  refine ⟨by decide, by decide, hreg, by decide, fun h => ?_⟩
  exact absurd (h.timeouts 5 _ hreg (by decide) rfl) (by decide)

end CyberRT.Io.PollerTimeouts
