import CyberRT.Framework.System

/-! # The condition notifier

    `Notify` takes a number from `next_seq`, stores the `ReadableInfo` and
    then the number into the slot of that number; `Listen` polls the slot of
    its own `next_seq_` until the number there is the one it waits for.

    * Every access to shared memory (the `fetch_add`, the copy of one
      `ReadableInfo`, the load or store of one number or of a flag) is one
      step.
    * The numbers are 64-bit and wrap around.
    * Each process has a `ConditionNotifier` object of its own. The writing
      threads may use any of the objects; one thread listens, on `own`.
    * `tickets`, `start`, `infoAuthor`, `author` and `returned` are history:
      no step looks at them. A Notify call is known by its ticket, the
      number of Notify calls given a number before it.

    The detaching of the shared memory in `Shutdown` and the arithmetic
    overflow of `timeout_ms * 1000` are left out. -/

namespace CyberRT.Transport.Shm.ConditionNotifier

open CyberRT.Framework

/-! ## Section 1: State -/

def kBufLength : UInt64 := 4096

/-- The slot of a number. -/
def slot (seq : UInt64) : Nat := (seq % kBufLength).toNat

structure ReadableInfo where
  hostId     : UInt64
  blockIndex : UInt32
  channelId  : UInt64
  deriving DecidableEq

/-- `ReadableInfo()`. -/
def ReadableInfo.new : ReadableInfo := ⟨0, 0, 0⟩

structure Indicator where
  nextSeq : UInt64
  infos   : Nat → ReadableInfo
  seqs    : Nat → UInt64

/-- `Indicator()`: zeroed numbers, default infos. -/
def Indicator.new : Indicator := ⟨0, fun _ => .new, fun _ => 0⟩

/-- Program counters of `Notify`, named by the next step. -/
inductive NotifyPc where
  | idle
  | loadShutdown
  | fetchAdd
  | storeInfo
  | storeSeq
  deriving DecidableEq

/-- A thread that calls `Notify` on the object `notifier`. -/
structure Writer (Nid : Type) where
  pc       : NotifyPc
  notifier : Nid
  info     : ReadableInfo
  seq      : UInt64
  ticket   : Nat
  ret      : Option Bool

/-- Program counters of the listening thread, named by the next step. -/
inductive ListenPc where
  | construct
  | idle
  | loadShutdown
  | loopShutdown
  | loadNextSeq
  | loadSeqs
  | copyInfo
  | checkTimeout
  deriving DecidableEq

/-- The listening thread. `nextSeq` is `next_seq_` of its object, `info`
    what its `*info` holds. -/
structure Listener where
  pc        : ListenPc
  nextSeq   : UInt64
  timeoutUs : Int
  info      : ReadableInfo
  ret       : Option Bool

structure State (Wid Nid : Type) where
  indicator  : Indicator
  isShutdown : Nid → Bool
  writers    : Wid → Writer Nid
  listener   : Listener
  tickets    : List ReadableInfo
  start      : Nat
  infoAuthor : Nat → Option Nat
  author     : Nat → Option Nat
  returned   : List ReadableInfo

/-! ## Section 2: Model -/

section model
variable {Wid Nid : Type} [DecidableEq Wid] [DecidableEq Nid]

def State.setWriter (s : State Wid Nid) (w : Wid) (x : Writer Nid) : State Wid Nid :=
  { s with writers := Function.update s.writers w x }

def State.setListenPc (s : State Wid Nid) (pc : ListenPc) : State Wid Nid :=
  { s with listener := { s.listener with pc := pc } }

/-- `Listen` returns `ret`. -/
def State.listenReturns (s : State Wid Nid) (ret : Bool) : State Wid Nid :=
  { s with listener := { s.listener with pc := .idle, ret := some ret } }

inductive Label (Wid Nid : Type) where
  | callNotify (w : Wid) (n : Nid) (info : ReadableInfo)
  | loadShutdown (w : Wid)
  | fetchAdd (w : Wid)
  | storeInfo (w : Wid)
  | storeSeq (w : Wid)
  | shutdown (n : Nid)
  | construct
  | callListen (timeoutMs : Int) (infoIsNull : Bool)
  | listenShutdown
  | loopShutdown
  | loadNextSeq
  | loadSeqs
  | copyInfo
  | checkTimeout

/-- The indicator from its creation on, the writers and the listener. -/
def conditionNotifier (own : Nid) : System (State Wid Nid) (Label Wid Nid) where
  init := fun s =>
    s.indicator = .new ∧ (∀ n, s.isShutdown n = false) ∧ (∀ w, (s.writers w).pc = .idle) ∧
    s.listener.pc = .construct ∧ s.tickets = [] ∧ (∀ i, s.infoAuthor i = none) ∧
    (∀ i, s.author i = none) ∧ s.returned = []
  action := fun
    | .callNotify w n info =>
      { gate   := fun s => (s.writers w).pc = .idle
        effect := fun s =>
          s.setWriter w { s.writers w with
            pc := .loadShutdown, notifier := n, info := info, ret := none } }
    | .loadShutdown w =>
      { gate   := fun s => (s.writers w).pc = .loadShutdown
        effect := fun s =>
          if s.isShutdown (s.writers w).notifier then
            s.setWriter w { s.writers w with pc := .idle, ret := some false }
          else
            s.setWriter w { s.writers w with pc := .fetchAdd } }
    | .fetchAdd w =>
      { gate   := fun s => (s.writers w).pc = .fetchAdd
        effect := fun s =>
          { s.setWriter w { s.writers w with
              pc := .storeInfo, seq := s.indicator.nextSeq, ticket := s.tickets.length } with
            indicator := { s.indicator with nextSeq := s.indicator.nextSeq + 1 }
            tickets   := s.tickets ++ [(s.writers w).info] } }
    | .storeInfo w =>
      { gate   := fun s => (s.writers w).pc = .storeInfo
        effect := fun s =>
          let x := s.writers w
          { s.setWriter w { x with pc := .storeSeq } with
            indicator := { s.indicator with
              infos := Function.update s.indicator.infos (slot x.seq) x.info }
            infoAuthor := Function.update s.infoAuthor (slot x.seq) (some x.ticket) } }
    | .storeSeq w =>
      { gate   := fun s => (s.writers w).pc = .storeSeq
        effect := fun s =>
          let x := s.writers w
          { s.setWriter w { x with pc := .idle, ret := some true } with
            indicator := { s.indicator with
              seqs := Function.update s.indicator.seqs (slot x.seq) x.seq }
            author := Function.update s.author (slot x.seq) (some x.ticket) } }
    | .shutdown n =>
      { gate   := fun _ => True
        effect := fun s => { s with isShutdown := Function.update s.isShutdown n true } }
    | .construct =>
      { gate   := fun s => s.listener.pc = .construct
        effect := fun s =>
          { s with
            listener := { s.listener with pc := .idle, nextSeq := s.indicator.nextSeq }
            start    := s.tickets.length } }
    | .callListen timeoutMs infoIsNull =>
      { gate   := fun s => s.listener.pc = .idle
        effect := fun s =>
          if infoIsNull then
            s.listenReturns false
          else
            { s with listener := { s.listener with
                pc := .loadShutdown, timeoutUs := timeoutMs * 1000, ret := none } } }
    | .listenShutdown =>
      { gate   := fun s => s.listener.pc = .loadShutdown
        effect := fun s =>
          if s.isShutdown own then s.listenReturns false else s.setListenPc .loopShutdown }
    | .loopShutdown =>
      { gate   := fun s => s.listener.pc = .loopShutdown
        effect := fun s =>
          if s.isShutdown own then s.listenReturns false else s.setListenPc .loadNextSeq }
    | .loadNextSeq =>
      { gate   := fun s => s.listener.pc = .loadNextSeq
        effect := fun s =>
          if s.indicator.nextSeq ≠ s.listener.nextSeq then s.setListenPc .loadSeqs
          else s.setListenPc .checkTimeout }
    | .loadSeqs =>
      -- a number of another lap counts as not written yet
      { gate   := fun s => s.listener.pc = .loadSeqs
        effect := fun s =>
          if s.indicator.seqs (slot s.listener.nextSeq) = s.listener.nextSeq then
            s.setListenPc .copyInfo
          else
            s.setListenPc .checkTimeout }
    | .copyInfo =>
      { gate   := fun s => s.listener.pc = .copyInfo
        effect := fun s =>
          let info := s.indicator.infos (slot s.listener.nextSeq)
          { s with
            listener := { s.listener with
              pc := .idle, nextSeq := s.listener.nextSeq + 1, info := info, ret := some true }
            returned := s.returned ++ [info] } }
    | .checkTimeout =>
      { gate   := fun s => s.listener.pc = .checkTimeout
        effect := fun s =>
          if 0 < s.listener.timeoutUs then
            { s with listener := { s.listener with
                pc := .loopShutdown, timeoutUs := s.listener.timeoutUs - 50 } }
          else
            s.listenReturns false }

instance decidableGate (own : Nid) (a : Label Wid Nid) (s : State Wid Nid) :
    Decidable (((conditionNotifier own).action a).gate s) :=
  match a with
  | .callNotify _ _ _ | .loadShutdown _ | .fetchAdd _ | .storeInfo _ | .storeSeq _
  | .construct | .callListen _ _ | .listenShutdown | .loopShutdown | .loadNextSeq | .loadSeqs
  | .copyInfo | .checkTimeout => inferInstanceAs (Decidable (_ = _))
  | .shutdown _ => inferInstanceAs (Decidable True)

end model

/-! ## Section 3: Slots -/

theorem slot_ofNat (t : Nat) : slot (.ofNat t) = t % 4096 := by
  simp only [slot, kBufLength, UInt64.toNat_mod, UInt64.toNat_ofNat']
  exact Nat.mod_mod_of_dvd t (by decide)

/-- Numbers less than 2^64 notifications apart are told apart by their
    64-bit values. -/
theorem eq_of_ofNat_eq {t u : Nat} (h : UInt64.ofNat t = UInt64.ofNat u)
    (htu : t < u + 2 ^ 64) (hut : u < t + 2 ^ 64) : t = u := by
  have hmod : t % 2 ^ 64 = u % 2 ^ 64 := by
    rw [← UInt64.toNat_ofNat', ← UInt64.toNat_ofNat', h]
  omega

end CyberRT.Transport.Shm.ConditionNotifier
