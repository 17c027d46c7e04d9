import CyberRT.Framework.System
import CyberRT.Base.ConcurrentHashMap

/-! # Registered ids

    `GlobalData` hands out an id for each name of a node, a channel, a
    service and a task: the hash of the name. The name is kept in an id map,
    one map for each kind. A registration asks the map whether the id is
    there, reads the name that has it, ends the program if that is another
    name, and stores its own name.

    Any number of threads register names; each operation of an id map is one
    step. `returned` is history: the names whose registrations have
    returned, with their ids.

    Between the question and the store the map may change: two threads with
    two names of one hash both find nothing and both return
    (`registered_collision`). Shown: the ids of a run identify the names
    exactly if no store of the run finds another name (`registered_iff`). -/

namespace CyberRT.Common.GlobalData

open CyberRT.Framework CyberRT.Base Function

/-! ## Section 1: State -/

/-- The four id maps. -/
inductive Kind where
  | node
  | channel
  | service
  | task
  deriving DecidableEq

/-- The size of a map's table. -/
def Kind.tableSize : Kind → UInt64
  | .node    => 512
  | .channel => 256
  | .service => 256
  | .task    => 256

/-- The text a failed `CHECK` puts in front of the two names. -/
def Kind.collisionText : Kind → String
  | .node    => " Node name hash collision: "
  | .channel => "Channel name hash collision: "
  | .service => "Service name hash collision: "
  | .task    => "Task name hash collision: "

/-- Where a thread stands in a registration, named by the next step. -/
inductive Pc where
  | idle
  | has (kind : Kind) (name : String)
  | get (kind : Kind) (name : String)
  | set (kind : Kind) (name : String)
  deriving DecidableEq

/-- `aborted` is the text of the `CHECK` that ended the program. -/
structure State (Tid : Type) where
  idMap    : (kind : Kind) → ConcurrentHashMap String kind.tableSize
  threads  : Tid → Pc
  aborted  : Option String
  returned : Kind → List (String × UInt64)

variable {Tid : Type} [DecidableEq Tid]

def State.setThread (s : State Tid) (t : Tid) (pc : Pc) : State Tid :=
  { s with threads := update s.threads t pc }

/-- What the four `Get…ById` have in common: the name, or the empty string
    if the map has no entry. -/
def State.getNameById (s : State Tid) (kind : Kind) (id : UInt64) : String :=
  ((s.idMap kind).get id).getD ""

def State.getNodeById (s : State Tid) (id : UInt64) : String := s.getNameById .node id

def State.getChannelById (s : State Tid) (id : UInt64) : String := s.getNameById .channel id

def State.getServiceById (s : State Tid) (id : UInt64) : String := s.getNameById .service id

def State.getTaskNameById (s : State Tid) (id : UInt64) : String := s.getNameById .task id

/-! ## Section 2: Registration -/

/-- The map operations of the four `Register…`, each with the code up to the
    next one. -/
inductive Label (Tid : Type) where
  | call (t : Tid) (kind : Kind) (name : String)
  | has (t : Tid) (kind : Kind) (name : String)
  | get (t : Tid) (kind : Kind) (name : String)
  | set (t : Tid) (kind : Kind) (name : String)

def registerNode (t : Tid) (nodeName : String) : Label Tid := .call t .node nodeName

def registerChannel (t : Tid) (channel : String) : Label Tid := .call t .channel channel

def registerService (t : Tid) (service : String) : Label Tid := .call t .service service

def registerTaskName (t : Tid) (taskName : String) : Label Tid := .call t .task taskName

/-- `Get` and the `CHECK` behind it. -/
def State.check (s : State Tid) (t : Tid) (kind : Kind) (registered : String) (id : UInt64) :
    State Tid :=
  let name := s.getNameById kind id
  if registered = name then s.setThread t (.set kind registered)
  else { s with aborted := some (kind.collisionText ++ registered ++ " <=> " ++ name) }

/-- `Set` and the return of the id. -/
def State.store (s : State Tid) (t : Tid) (kind : Kind) (name : String) (id : UInt64) :
    State Tid :=
  { s with
    idMap    := update s.idMap kind ((s.idMap kind).set id name)
    threads  := update s.threads t .idle
    returned := update s.returned kind ((name, id) :: s.returned kind) }

def initial : State Tid where
  idMap    := fun _ => ConcurrentHashMap.empty
  threads  := fun _ => .idle
  aborted  := none
  returned := fun _ => []

/-- The registrations with the hash function `hash`. A program that has
    aborted takes no step. -/
def globalData (hash : String → UInt64) : System (State Tid) (Label Tid) where
  init := fun s => s = initial
  action := fun
    | .call t kind name =>
      { gate   := fun s => s.aborted = none ∧ s.threads t = .idle
        effect := fun s => s.setThread t (.has kind name) }
    | .has t kind name =>
      { gate   := fun s => s.aborted = none ∧ s.threads t = .has kind name
        effect := fun s =>
          if (s.idMap kind).has (hash name) then s.setThread t (.get kind name)
          -- nothing to compare with
          else s.setThread t (.set kind name) }
    | .get t kind name =>
      { gate   := fun s => s.aborted = none ∧ s.threads t = .get kind name
        effect := fun s => s.check t kind name (hash name) }
    | .set t kind name =>
      { gate   := fun s => s.aborted = none ∧ s.threads t = .set kind name
        effect := fun s => s.store t kind name (hash name) }

instance (hash : String → UInt64) : ∀ (a : Label Tid) (s : State Tid),
    Decidable (((globalData hash).action a).gate s)
  | .call _ _ _, _ => inferInstanceAs (Decidable (_ ∧ _))
  | .has _ _ _,  _ => inferInstanceAs (Decidable (_ ∧ _))
  | .get _ _ _,  _ => inferInstanceAs (Decidable (_ ∧ _))
  | .set _ _ _,  _ => inferInstanceAs (Decidable (_ ∧ _))

/-! ## Section 3: Specification -/

/-- Ids identify names: different names have got different ids, and the name
    an id was returned for is what the map gives for it. -/
structure Identifies (s : State Tid) : Prop where
  distinct : ∀ kind name name' id, (name, id) ∈ s.returned kind →
    (name', id) ∈ s.returned kind → name = name'
  named : ∀ kind name id, (name, id) ∈ s.returned kind → s.getNameById kind id = name

/-- A store finds no other name under its id. -/
def storesFree (hash : String → UInt64) (s : State Tid) : Label Tid → Prop
  | .set _ kind name =>
    (s.idMap kind).get (hash name) = none ∨ (s.idMap kind).get (hash name) = some name
  | _ => True

instance (hash : String → UInt64) (s : State Tid) : ∀ a, Decidable (storesFree hash s a)
  | .call _ _ _ => inferInstanceAs (Decidable True)
  | .has _ _ _  => inferInstanceAs (Decidable True)
  | .get _ _ _  => inferInstanceAs (Decidable True)
  | .set _ _ _  => inferInstanceAs (Decidable (_ ∨ _))

/-! ## Section 4: One step -/

/-- The entries of the maps and the ids returned belong together. -/
structure Entries (s : State Tid) : Prop where
  returned : ∀ kind id name, (s.idMap kind).get id = some name → (name, id) ∈ s.returned kind
  stored   : ∀ kind name id, (name, id) ∈ s.returned kind → (s.idMap kind).get id ≠ none

omit [DecidableEq Tid] in
theorem entries_initial : Entries (initial : State Tid) where
  returned := fun _ _ _ h => by simp [initial] at h
  stored   := fun _ _ _ h => by simp [initial] at h

omit [DecidableEq Tid] in
theorem identifies_initial : Identifies (initial : State Tid) where
  distinct := fun _ _ _ _ h => by simp [initial] at h
  named    := fun _ _ _ h => by simp [initial] at h

section Frame

omit [DecidableEq Tid]

variable {s s' : State Tid} (hmap : s'.idMap = s.idMap) (hret : s'.returned = s.returned)
include hmap hret

/-- Both depend on the maps and the ids returned only. -/
theorem Entries.congr (h : Entries s) : Entries s' where
  returned := by rw [hmap, hret]; exact h.returned
  stored   := by rw [hmap, hret]; exact h.stored

theorem identifies_congr : Identifies s' ↔ Identifies s := by
  have hname : ∀ kind id, s'.getNameById kind id = s.getNameById kind id := fun kind id => by
    rw [State.getNameById, State.getNameById, hmap]
  constructor
  · intro h
    exact ⟨hret ▸ h.distinct,
      fun kind name id hin => hname kind id ▸ h.named kind name id (hret ▸ hin)⟩
  · intro h
    exact ⟨hret ▸ h.distinct,
      fun kind name id hin => (hname kind id).trans (h.named kind name id (hret ▸ hin))⟩

end Frame

/-- A step that is no store touches neither the maps nor what was returned. -/
theorem effect_frame (hash : String → UInt64) (s : State Tid) {a : Label Tid}
    (ha : ∀ t kind name, a ≠ .set t kind name) :
    (((globalData hash).action a).effect s).idMap = s.idMap ∧
      (((globalData hash).action a).effect s).returned = s.returned := by
  cases a with
  | call t kind name => exact ⟨rfl, rfl⟩
  | has t kind name =>
    simp only [globalData]
    split <;> exact ⟨rfl, rfl⟩
  | get t kind name =>
    simp only [globalData, State.check]
    split <;> exact ⟨rfl, rfl⟩
  | set t kind name => exact absurd rfl (ha t kind name)

variable {s : State Tid} {t : Tid} {kind : Kind} {name : String} {id : UInt64}

theorem get_store (kind' : Kind) (id' : UInt64) :
    ((s.store t kind name id).idMap kind').get id' =
      if kind' = kind ∧ id' = id then some name else (s.idMap kind').get id' := by
  unfold State.store
  by_cases hkind : kind' = kind
  · subst hkind
    by_cases hid : id' = id
    · simp [hid]
    · simp [hid]
  · simp [hkind]

theorem mem_store {kind' : Kind} {entry : String × UInt64} :
    entry ∈ (s.store t kind name id).returned kind' ↔
      (kind' = kind ∧ entry = (name, id)) ∨ entry ∈ s.returned kind' := by
  unfold State.store
  by_cases hkind : kind' = kind
  · subst hkind
    simp
  · simp [hkind]

theorem Entries.store (h : Entries s) : Entries (s.store t kind name id) where
  returned := by
    intro kind' id' name' hget
    rw [get_store] at hget
    rw [mem_store]
    split at hget
    · rename_i hhere
      cases hget
      exact .inl ⟨hhere.1, by rw [hhere.2]⟩
    · exact .inr (h.returned kind' id' name' hget)
  stored := by
    intro kind' name' id' hin
    rw [get_store]
    split
    · exact Option.some_ne_none name
    · rename_i hother
      rcases mem_store.mp hin with ⟨hkind, hentry⟩ | hin
      · cases hentry
        exact absurd ⟨hkind, rfl⟩ hother
      · exact h.stored kind' name' id' hin

/-- A store keeps the ids sound exactly if it overwrites no other name. -/
theorem identifies_store (he : Entries s) (h : Identifies s) :
    Identifies (s.store t kind name id) ↔
      (s.idMap kind).get id = none ∨ (s.idMap kind).get id = some name := by
  constructor
  · intro h'
    cases hget : (s.idMap kind).get id with
    | none => exact .inl rfl
    | some other =>
      -- the other name was returned with this id, and the new one is now
      have hother : (other, id) ∈ (s.store t kind name id).returned kind :=
        mem_store.mpr (.inr (he.returned kind id other hget))
      have hname : (name, id) ∈ (s.store t kind name id).returned kind :=
        mem_store.mpr (.inl ⟨rfl, rfl⟩)
      rw [h'.distinct kind other name id hother hname]
      exact .inr rfl
  · intro hfree
    -- who has got this id before has the name that is there
    have hsame : ∀ name', (name', id) ∈ s.returned kind → name' = name := by
      intro name' hin
      have hnamed := h.named kind name' id hin
      unfold State.getNameById at hnamed
      rcases hfree with hnone | hsome
      · exact absurd hnone (he.stored kind name' id hin)
      · rw [hsome] at hnamed
        exact hnamed.symm
    refine ⟨fun kind' n n' id' hn hn' => ?_, fun kind' n id' hn => ?_⟩
    · -- each of the two entries is the new one or an old one
      rcases mem_store.mp hn with ⟨hkind, hentry⟩ | hin
      · cases hentry
        subst hkind
        rcases mem_store.mp hn' with ⟨_, hentry'⟩ | hin'
        · exact (congrArg Prod.fst hentry').symm
        · exact (hsame n' hin').symm
      · rcases mem_store.mp hn' with ⟨hkind, hentry'⟩ | hin'
        · cases hentry'
          subst hkind
          exact hsame n hin
        · exact h.distinct kind' n n' id' hin hin'
    · unfold State.getNameById
      rw [get_store]
      split
      · rename_i hhere
        obtain ⟨rfl, rfl⟩ := hhere
        rcases mem_store.mp hn with ⟨_, hentry⟩ | hin
        · exact (congrArg Prod.fst hentry).symm
        · exact (hsame n hin).symm
      · rename_i hother
        rcases mem_store.mp hn with ⟨hkind, hentry⟩ | hin
        · cases hentry
          exact absurd ⟨hkind, rfl⟩ hother
        · exact h.named kind' n id' hin

omit [DecidableEq Tid] in
theorem label_cases (a : Label Tid) :
    (∃ t kind name, a = .set t kind name) ∨ ∀ t kind name, a ≠ .set t kind name := by
  cases a with
  | set t kind name => exact .inl ⟨t, kind, name, rfl⟩
  | _ => exact .inr fun _ _ _ h => nomatch h

/-! ## Section 5: Runs -/

theorem Entries.step (hash : String → UInt64) (a : Label Tid) (h : Entries s) :
    Entries (((globalData hash).action a).effect s) := by
  rcases label_cases a with ⟨t, kind, name, rfl⟩ | hne
  · exact h.store
  · obtain ⟨hmap, hret⟩ := effect_frame hash s hne
    exact h.congr hmap hret

theorem identifies_step (hash : String → UInt64) (a : Label Tid) (he : Entries s)
    (h : Identifies s) :
    Identifies (((globalData hash).action a).effect s) ↔ storesFree hash s a := by
  rcases label_cases a with ⟨t, kind, name, rfl⟩ | hne
  · exact identifies_store he h
  · obtain ⟨hmap, hret⟩ := effect_frame hash s hne
    rw [identifies_congr hmap hret]
    have hfree : storesFree hash s a := by
      cases a with
      | set t kind name => exact absurd rfl (hne t kind name)
      | _ => trivial
    exact ⟨fun _ => hfree, fun _ => h⟩

/-- In a run of any number of threads, with any hash function, ids identify
    names in every state exactly if no `Set` of the run finds another name
    under its id. -/
theorem registered_iff (hash : String → UInt64) {as : List (Label Tid)}
    (h : (globalData hash).Admits initial as) :
    (∀ bs, bs <+: as → Identifies ((globalData hash).exec initial bs)) ↔
      ((globalData hash).restrict (storesFree hash)).Admits initial as :=
  System.always_iff_admits_restrict (fun _ a hs _ => Entries.step hash a hs)
    (fun _ a he hs _ => identifies_step hash a he hs) h entries_initial identifies_initial

/-- A name registered by one thread and then by another: the second one
    finds the name it brings. -/
def oneAfterAnother : List (Label Bool) :=
  [registerTaskName false "reader", .has false .task "reader", .set false .task "reader",
    registerTaskName true "reader", .has true .task "reader", .get true .task "reader",
    .set true .task "reader"]

/-- A hash function that tells no names apart. -/
def sameHash (_ : String) : UInt64 := 7

theorem registered_oneAfterAnother :
    (globalData sameHash).Admits initial oneAfterAnother ∧
      ∀ bs, bs <+: oneAfterAnother → Identifies ((globalData sameHash).exec initial bs) :=
  ⟨by decide, (registered_iff sameHash (by decide)).mpr (by decide)⟩

/-- Two threads look for their ids before either stores its name. -/
def bothLook : List (Label Bool) :=
  [registerTaskName false "reader", registerTaskName true "writer",
    .has false .task "reader", .has true .task "writer",
    .set false .task "reader", .set true .task "writer"]

/-- Both registrations return the same id, no `CHECK` fails, and the id of
    the first name gives the second one. -/
theorem registered_collision :
    (globalData sameHash).Admits initial bothLook ∧
      ((globalData sameHash).exec initial bothLook).aborted = none ∧
      ("reader", 7) ∈ ((globalData sameHash).exec initial bothLook).returned .task ∧
      ("writer", 7) ∈ ((globalData sameHash).exec initial bothLook).returned .task ∧
      ((globalData sameHash).exec initial bothLook).getTaskNameById 7 = "writer" ∧
      ¬ Identifies ((globalData sameHash).exec initial bothLook) := by
  have hreader : ("reader", 7) ∈ ((globalData sameHash).exec initial bothLook).returned .task := by
    decide
  have hwriter : ("writer", 7) ∈ ((globalData sameHash).exec initial bothLook).returned .task := by
    decide
  refine ⟨by decide, by decide, hreader, hwriter, by decide, fun h => ?_⟩
  have hsame : "reader" = "writer" := h.distinct .task _ _ _ hreader hwriter
  exact absurd hsame (by decide)

end CyberRT.Common.GlobalData
