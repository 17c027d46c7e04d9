import CyberRT.Io.Poller

/-! # The epoll set and the requests

    The pending operation of a fd is the last one left for it, whether the
    poller's thread has taken it over or not. It leads to what the requests
    say, provided that `epoll_ctl` accepts it. But an operation is chosen by
    what the requests hold, and what it replaces may never reach the epoll
    set: a modification that replaces the pending addition finds no fd, and
    an addition that replaces the pending deletion finds one. -/

namespace CyberRT.Io

open CyberRT.Framework

variable {F : Type}

/-! ## Section 1: Operations -/

/-- The operation leads to the events, none of them if the fd is to go. -/
def PollCtrlParam.Suits (p : PollCtrlParam) (events : Option (BitVec 32)) : Prop :=
  match p.operation with
  | .add | .mod => events = some p.events
  | .del        => events = none

/-- What `epoll_ctl` finds lets it do what it should, or is that already. -/
def PollCtrlParam.Applies (p : PollCtrlParam) (found : Option (BitVec 32)) : Prop :=
  match p.operation with
  | .add => found = none ∨ found = some p.events
  | .mod => found.isSome
  | .del => True

instance (p : PollCtrlParam) (found : Option (BitVec 32)) : Decidable (p.Applies found) := by
  unfold PollCtrlParam.Applies
  cases p.operation <;> infer_instance

theorem Epoll.ctl_of_ne (epoll : Epoll) (p : PollCtrlParam) {fd : Int} (h : fd ≠ p.fd) :
    epoll.ctl p fd = epoll fd := by
  unfold Epoll.ctl
  cases p.operation <;> cases epoll p.fd <;> simp [h]

/-- An operation does what it should exactly when it applies. -/
theorem Epoll.ctl_eq_iff (epoll : Epoll) {p : PollCtrlParam} {events : Option (BitVec 32)}
    (h : p.Suits events) : epoll.ctl p p.fd = events ↔ p.Applies (epoll p.fd) := by
  unfold PollCtrlParam.Suits at h
  unfold Epoll.ctl PollCtrlParam.Applies
  cases hop : p.operation <;> cases hfound : epoll p.fd <;> simp_all

/-! ## Section 2: The condition -/

/-- The condition: `epoll_ctl` modifies a fd only if it is in the epoll set,
    and adds one only if it is not there or has the same events, unless a
    later operation of the fd is already pending. -/
def Applicable (s : Poller F) : Label F → Prop
  | .epollCtl fd p => s.ctrlParams.lookup fd = none → p.Applies (s.epoll fd)
  | _ => True

instance decidableApplicable (s : Poller F) : ∀ a : Label F, Decidable (Applicable s a)
  | .epollCtl fd p =>
    inferInstanceAs (Decidable (s.ctrlParams.lookup fd = none → p.Applies (s.epoll fd)))
  | .register _ | .unregister _ | .handleChanges | .changesHandled | .poll .. | .respond _
  | .polled => .isTrue trivial

/-! ## Section 3: Invariant -/

namespace Poller

/-- The last operation that was left for the fd and not carried out. -/
def pending (s : Poller F) (fd : Int) : Option PollCtrlParam :=
  (s.ctrlParams.lookup fd).or (s.localParams.lookup fd)

/-- The events that the requests ask for. -/
def wanted (s : Poller F) (fd : Int) : Option (BitVec 32) :=
  (s.requests.lookup fd).map (·.events)

/-- **Invariant**: what is pending leads to what is wanted, and where nothing
    is pending the epoll set has it. -/
structure Inv (s : Poller F) : Prop where
  fds      : ∀ fd p, s.ctrlParams.lookup fd = some p ∨ s.localParams.lookup fd = some p →
    p.fd = fd
  suits    : ∀ fd p, s.pending fd = some p → p.Suits (s.wanted fd)
  settled  : ∀ fd, s.pending fd = none → s.epoll fd = s.wanted fd
  noneLeft : s.pc ≠ .epollCtl → s.localParams.entries = []

theorem inv_create (pipeFd : Int) (drain : F) : (create pipeFd drain).Inv := by
  have hctrl : ∀ fd, (create pipeFd drain).ctrlParams.lookup fd =
      if fd = pipeFd then some ⟨.add, pipeFd, 1⟩ else none := by
    intro fd
    by_cases hfd : fd = pipeFd
    · subst hfd
      simp [create, ← AList.insert_empty]
    · simp [create, ← AList.insert_empty, AList.lookup_insert_ne hfd, hfd]
  have hwanted : ∀ fd, (create pipeFd drain).wanted fd = if fd = pipeFd then some 1 else none := by
    intro fd
    by_cases hfd : fd = pipeFd
    · subst hfd
      simp [create, wanted, ← AList.insert_empty, pipeRequest]
    · simp [create, wanted, ← AList.insert_empty, AList.lookup_insert_ne hfd, hfd]
  have hlocal : ∀ fd, (create pipeFd drain).localParams.lookup fd = none := by
    simp [create]
  constructor
  case fds =>
    intro fd p hp
    rw [hctrl, hlocal] at hp
    by_cases hfd : fd = pipeFd
    · obtain rfl : ⟨.add, pipeFd, 1⟩ = p := by simpa [hfd] using hp
      exact hfd.symm
    · simp [hfd] at hp
  case suits =>
    intro fd p hp
    rw [pending, hctrl, hlocal] at hp
    rw [hwanted]
    by_cases hfd : fd = pipeFd
    · obtain rfl : ⟨.add, pipeFd, 1⟩ = p := by simpa [hfd] using hp
      simp [PollCtrlParam.Suits, hfd]
    · simp [hfd] at hp
  case settled =>
    intro fd hp
    rw [pending, hctrl, hlocal] at hp
    rw [hwanted]
    by_cases hfd : fd = pipeFd
    · simp [hfd] at hp
    · simp [create, hfd]
  case noneLeft => exact fun _ => rfl

/-! ## Section 4: Steps -/

variable {s : Poller F} {pipeFd : Int} {drain : F}

/-- A change of a request leaves the operation that leads to it. -/
theorem Inv.setCtrl {requests : AList fun _ : Int => PollRequest F} {p : PollCtrlParam}
    (h : s.Inv) (hself : p.Suits ((requests.lookup p.fd).map (·.events)))
    (hothers : ∀ fd, fd ≠ p.fd → requests.lookup fd = s.requests.lookup fd) :
    ({ s with requests := requests }.setCtrl p).Inv := by
  have hpending : ∀ fd, fd ≠ p.fd →
      ({ s with requests := requests }.setCtrl p).pending fd = s.pending fd := by
    intro fd hfd
    simp [pending, Poller.setCtrl, AList.lookup_insert_ne hfd]
  have hwanted : ∀ fd, fd ≠ p.fd →
      ({ s with requests := requests }.setCtrl p).wanted fd = s.wanted fd := by
    intro fd hfd
    simp [wanted, Poller.setCtrl, hothers fd hfd]
  have hnew : ({ s with requests := requests }.setCtrl p).pending p.fd = some p := by
    simp [pending, Poller.setCtrl]
  constructor
  case fds =>
    intro fd q hq
    -- what the operation replaces is gone, what the thread has taken is not
    by_cases hfd : fd = p.fd
    · rcases hq with hq | hq
      · rw [hfd] at hq ⊢
        simp only [Poller.setCtrl, AList.lookup_insert, Option.some.injEq] at hq
        rw [hq]
      · exact h.fds fd q (.inr hq)
    · simp only [Poller.setCtrl, AList.lookup_insert_ne hfd] at hq
      exact h.fds fd q hq
  case suits =>
    intro fd q hq
    by_cases hfd : fd = p.fd
    · rw [hfd] at hq ⊢
      obtain rfl : p = q := Option.some.inj (hnew.symm.trans hq)
      exact hself
    · rw [hpending fd hfd] at hq
      rw [hwanted fd hfd]
      exact h.suits fd q hq
  case settled =>
    intro fd hnone
    by_cases hfd : fd = p.fd
    · rw [hfd, hnew] at hnone
      simp at hnone
    · rw [hpending fd hfd] at hnone
      rw [hwanted fd hfd]
      exact h.settled fd hnone
  case noneLeft => exact h.noneLeft

theorem Inv.register (h : s.Inv) (req : PollRequest F) : (s.register req).1.Inv := by
  unfold Poller.register
  split
  · exact h
  · apply h.setCtrl
    · -- an addition and a modification lead to the same
      split <;> simp [PollCtrlParam.Suits]
    · intro fd hfd
      exact AList.lookup_insert_ne hfd

theorem Inv.unregister (h : s.Inv) (req : PollRequest F) : (s.unregister req).1.Inv := by
  unfold Poller.unregister
  split
  · exact h
  · split
    · exact h
    · apply h.setCtrl
      · simp [PollCtrlParam.Suits]
      · intro fd hfd
        exact AList.lookup_erase_ne hfd

/-- The thread takes the operations over. -/
theorem Inv.handleChanges (h : s.Inv)
    (hg : ((poller pipeFd drain).action .handleChanges).gate s) :
    (((poller pipeFd drain).action .handleChanges).effect s).Inv := by
  have hpc : s.pc = .handleChanges := hg
  have hlocal : s.localParams = ∅ := AList.ext (h.noneLeft (by simp [hpc]))
  simp only [poller]
  split
  · exact ⟨h.fds, h.suits, h.settled, fun _ => h.noneLeft (by simp [hpc])⟩
  · -- what was pending with the callers is now pending with the thread
    have hpending : ∀ fd, Poller.pending { s with
        pc := .epollCtl, ctrlParams := ∅, localParams := s.ctrlParams } fd = s.pending fd := by
      intro fd
      simp [pending, hlocal]
    constructor
    case fds =>
      intro fd p hp
      rcases hp with hp | hp
      · simp at hp
      · exact h.fds fd p (.inl hp)
    case suits =>
      intro fd p hp
      rw [hpending] at hp
      exact h.suits fd p hp
    case settled =>
      intro fd hnone
      rw [hpending] at hnone
      exact h.settled fd hnone
    case noneLeft => exact fun hne => absurd rfl hne

/-- **`epoll_ctl`** makes the fd what is wanted exactly when its operation
    applies, if no later one is pending. -/
theorem Inv.epollCtl_iff (h : s.Inv) {fd : Int} {p : PollCtrlParam}
    (hg : ((poller pipeFd drain).action (.epollCtl fd p)).gate s)
    (hlast : s.ctrlParams.lookup fd = none) :
    s.epoll.ctl p fd = s.wanted fd ↔ Applicable s (.epollCtl fd p : Label F) := by
  have hfd : p.fd = fd := h.fds fd p (.inr hg.2)
  have hpending : s.pending fd = some p := by simp [pending, hlast, hg.2]
  have hiff := s.epoll.ctl_eq_iff (h.suits fd p hpending)
  rw [hfd] at hiff
  simp [hiff, Applicable, hlast]

/-- The thread carries an operation out. -/
theorem Inv.epollCtl (h : s.Inv) {fd : Int} {p : PollCtrlParam}
    (hg : ((poller pipeFd drain).action (.epollCtl fd p)).gate s)
    (happlies : Applicable s (.epollCtl fd p : Label F)) :
    (((poller pipeFd drain).action (.epollCtl fd p)).effect s).Inv := by
  have hfd : p.fd = fd := h.fds fd p (.inr hg.2)
  have hother : ∀ fd', fd' ≠ fd → Poller.pending { s with
      epoll := s.epoll.ctl p, localParams := s.localParams.erase fd } fd' = s.pending fd' := by
    intro fd' hne
    simp [pending, AList.lookup_erase_ne hne]
  have hself : Poller.pending { s with
      epoll := s.epoll.ctl p, localParams := s.localParams.erase fd } fd =
      s.ctrlParams.lookup fd := by
    simp [pending]
  constructor
  case fds =>
    intro fd' q hq
    rcases hq with hq | hq
    · exact h.fds fd' q (.inl hq)
    · by_cases hne : fd' = fd
      · subst hne
        simp [poller] at hq
      · simp only [poller, AList.lookup_erase_ne hne] at hq
        exact h.fds fd' q (.inr hq)
  case suits =>
    intro fd' q hq
    refine h.suits fd' q ?_
    -- of this fd a later operation is pending, or none
    by_cases hne : fd' = fd
    · subst hne
      rw [← (hself.symm.trans hq : s.ctrlParams.lookup fd' = some q)]
      simp [pending, (hself.symm.trans hq : s.ctrlParams.lookup fd' = some q)]
    · exact (hother fd' hne).symm.trans hq
  case settled =>
    intro fd' hnone
    by_cases hne : fd' = fd
    · subst hne
      exact (h.epollCtl_iff hg (hself.symm.trans hnone)).mpr happlies
    · refine (s.epoll.ctl_of_ne p (hfd ▸ hne)).trans ?_
      exact h.settled fd' ((hother fd' hne).symm.trans hnone)
  case noneLeft => exact fun hne => absurd hg.1 hne

/-- `Poll` writes timeouts only. -/
theorem Inv.poll (h : s.Inv) {requests : AList fun _ : Int => PollRequest F}
    {responses : AList fun _ : Int => BitVec 32} {pc : Pc} (hpc : s.pc ≠ .epollCtl)
    (hevents : ∀ fd, (requests.lookup fd).map (·.events) = s.wanted fd) :
    Poller.Inv { s with pc := pc, requests := requests, responses := responses } := by
  constructor
  case fds => exact h.fds
  case suits =>
    intro fd p hp
    simp only [wanted, hevents]
    exact h.suits fd p hp
  case settled =>
    intro fd hnone
    simp only [wanted, hevents]
    exact h.settled fd hnone
  case noneLeft => exact fun _ => h.noneLeft hpc

theorem tick_events (s : Poller F) (intervalMs : Int) (r : PollRequest F) :
    (s.tick intervalMs r).events = r.events := by
  unfold Poller.tick
  split <;> rfl

theorem tickAll_events (s : Poller F) (intervalMs : Int) (fd : Int) :
    ((s.tickAll intervalMs).lookup fd).map (·.events) = s.wanted fd := by
  have hlookup : (s.tickAll intervalMs).lookup fd =
      (s.requests.lookup fd).map (s.tick intervalMs) := List.dlookup_map₂ fd
  simp [hlookup, wanted, Function.comp_def, tick_events]

theorem answer_with (s : Poller F) (fd : Int) (responses : AList fun _ : Int => BitVec 32) :
    { s with requests := (s.answer fd).requests, responses := responses } =
      { s.answer fd with responses := responses } := by
  unfold Poller.answer
  split <;> rfl

theorem answer_events (s : Poller F) (fd fd' : Int) :
    ((s.answer fd).requests.lookup fd').map (·.events) = s.wanted fd' := by
  unfold Poller.answer wanted
  cases hfind : s.requests.lookup fd with
  | none => rfl
  | some r =>
    by_cases hfd : fd' = fd
    · subst hfd
      simp [hfind]
    · simp [AList.lookup_insert_ne hfd]

theorem inv_reachable (h : ((poller pipeFd drain).restrict Applicable).Reachable s) : s.Inv := by
  apply System.invariant (P := Inv) _ _ h
  · rintro s rfl
    exact inv_create pipeFd drain
  · rintro s a hinv ⟨hg, happlies⟩
    cases a with
    | register req => exact hinv.register req
    | unregister req => exact hinv.unregister req
    | handleChanges => exact hinv.handleChanges hg
    | epollCtl fd p => exact hinv.epollCtl hg happlies
    | changesHandled =>
      have hlocal : s.localParams.entries = [] := hg.2
      exact ⟨hinv.fds, hinv.suits, hinv.settled, fun _ => hlocal⟩
    | poll intervalMs ready =>
      have hpc : s.pc ≠ .epollCtl := by simp [hg.1]
      exact hinv.poll hpc (s.tickAll_events intervalMs)
    | respond fd =>
      have hpc : s.pc ≠ .epollCtl := by simp [hg.1]
      have hinv' : Inv { s with
          requests := (s.answer fd).requests, responses := s.responses.erase fd } :=
        hinv.poll hpc (s.answer_events fd)
      rw [answer_with] at hinv'
      exact hinv'
    | polled =>
      have hpc : s.pc ≠ .epollCtl := by simp [hg.1]
      exact ⟨hinv.fds, hinv.suits, hinv.settled, fun _ => hinv.noneLeft hpc⟩

end Poller

/-! ## Section 5: The epoll set -/

/-- **The epoll set follows the requests** in every run that meets the
    condition, whenever nothing is pending and `HandleChanges` is not in
    progress; and a last operation that does not meet it leaves the fd with
    other events than the requests have. -/
theorem epoll_follows {pipeFd : Int} {drain : F} (s : Poller F)
    (h : ((poller pipeFd drain).restrict Applicable).Reachable s) :
    (s.ctrlParams.entries = [] → s.pc ≠ .epollCtl →
      ∀ fd, s.epoll fd = (s.requests.lookup fd).map (·.events)) ∧
    ∀ fd p s', (poller pipeFd drain).step s (.epollCtl fd p) s' → s.ctrlParams.lookup fd = none →
      (s'.epoll fd = (s'.requests.lookup fd).map (·.events) ↔
        Applicable s (.epollCtl fd p : Label F)) := by
  have hinv := Poller.inv_reachable h
  constructor
  · intro hctrl hpc fd
    have hctrl : s.ctrlParams = ∅ := AList.ext hctrl
    have hlocal : s.localParams = ∅ := AList.ext (hinv.noneLeft hpc)
    apply hinv.settled
    simp [Poller.pending, hctrl, hlocal]
  · rintro fd p s' ⟨hg, rfl⟩ hlast
    exact hinv.epollCtl_iff hg hlast

/-- A fd is added beside the pipe, modified while the addition is carried
    out, and removed after a `Poll`. -/
theorem epoll_follows_modified :
    ∃ s : Poller Unit, ((poller 3 ()).restrict Applicable).Reachable s ∧
      ∀ fd, s.epoll fd = (s.requests.lookup fd).map (·.events) := by
  let as : List (Label Unit) :=
    [.register ⟨5, 1, -1, some ()⟩, .handleChanges, .register ⟨5, 4, 10, some ()⟩,
      .epollCtl 5 ⟨.add, 5, 1⟩, .epollCtl 3 ⟨.add, 3, 1⟩, .changesHandled,
      .poll 20 [(3, 1)], .respond 3, .polled,
      .handleChanges, .epollCtl 5 ⟨.mod, 5, 4⟩, .changesHandled, .poll 20 [], .respond 5, .polled]
  have hreach : ((poller 3 ()).restrict Applicable).Reachable
      (((poller 3 ()).restrict Applicable).exec (Poller.create 3 ()) as) :=
    System.reachable_exec ((poller 3 ()).restrict Applicable) rfl as (by decide)
  exact ⟨_, hreach, (epoll_follows _ hreach).1 (by decide) (by decide)⟩

/-- A fd is registered twice before the thread looks: the modification takes
    the place of the addition, and the fd never gets into the epoll set. -/
theorem epoll_lacks_request :
    ∃ s : Poller Unit, (poller 3 ()).Reachable s ∧ s.ctrlParams.entries = [] ∧ s.pc ≠ .epollCtl ∧
      s.epoll 5 ≠ (s.requests.lookup 5).map (·.events) := by
  let as : List (Label Unit) :=
    [.register ⟨5, 1, -1, some ()⟩, .register ⟨5, 4, -1, some ()⟩, .handleChanges,
      .epollCtl 5 ⟨.mod, 5, 4⟩, .epollCtl 3 ⟨.add, 3, 1⟩, .changesHandled]
  have hreach : (poller 3 ()).Reachable ((poller 3 ()).exec (Poller.create 3 ()) as) :=
    System.reachable_exec (poller 3 ()) rfl as (by decide)
  exact ⟨_, hreach, by decide, by decide, by decide⟩

/-- A fd is removed and registered with other events before the thread looks:
    the addition takes the place of the deletion, and the fd keeps the events
    it had. -/
theorem epoll_keeps_events :
    ∃ s : Poller Unit, (poller 3 ()).Reachable s ∧ s.ctrlParams.entries = [] ∧ s.pc ≠ .epollCtl ∧
      s.epoll 5 = some 1 ∧ (s.requests.lookup 5).map (·.events) = some 4 := by
  let as : List (Label Unit) :=
    [.register ⟨5, 1, -1, some ()⟩, .handleChanges, .epollCtl 5 ⟨.add, 5, 1⟩,
      .epollCtl 3 ⟨.add, 3, 1⟩, .changesHandled, .poll 1 [], .polled,
      .unregister ⟨5, 1, -1, some ()⟩, .register ⟨5, 4, -1, some ()⟩, .handleChanges,
      .epollCtl 5 ⟨.add, 5, 4⟩, .changesHandled]
  have hreach : (poller 3 ()).Reachable ((poller 3 ()).exec (Poller.create 3 ()) as) :=
    System.reachable_exec (poller 3 ()) rfl as (by decide)
  exact ⟨_, hreach, by decide, by decide, by decide, by decide⟩

end CyberRT.Io
