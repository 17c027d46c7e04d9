import CyberRT.Transport.Shm.Segment

/-! # What a Segment object knows of its mapping

    As long as `OpenOnly` never takes a `State` under construction for a
    finished one, an initialised object works with the configuration its
    segment was created with, and every address it holds is the address of
    that block's buffer in that segment. -/

namespace CyberRT.Transport.Shm.Segment

open CyberRT.Framework

/-! ## Section 1: How the kernel evolves -/

/-- What no step takes back: a segment keeps the size it was created with,
    and its ceiling once the `State` is constructed. -/
structure Evolves (g g' : Kernel) : Prop where
  next_le    : g.next ≤ g'.next
  conf_eq    : ∀ k < g.next, (g'.shms k).conf = (g.shms k).conf
  ceiling_eq : ∀ k < g.next, (g.shms k).ceilingMsgSize = (g.shms k).conf.ceilingMsgSize →
    (g'.shms k).ceilingMsgSize = (g.shms k).ceilingMsgSize

theorem Evolves.refl (g : Kernel) : Evolves g g :=
  ⟨Nat.le_refl _, fun _ _ => rfl, fun _ _ _ => rfl⟩

/-- A change of one segment that leaves its size alone, and its ceiling
    unless it sets it to the one of its configuration. -/
theorem evolves_modify (g : Kernel) (k : Nat) (f : SharedMemory → SharedMemory)
    (hconf : (f (g.shms k)).conf = (g.shms k).conf)
    (hceiling : (f (g.shms k)).ceilingMsgSize = (g.shms k).ceilingMsgSize ∨
      (f (g.shms k)).ceilingMsgSize = (g.shms k).conf.ceilingMsgSize) :
    Evolves g (g.modify k f) := by
  refine ⟨Nat.le_refl _, ?_, ?_⟩
  · intro j _
    show (Function.update g.shms k _ j).conf = _
    by_cases hj : j = k
    · rw [hj, Function.update_self, hconf]
    · rw [Function.update_of_ne hj]
  · intro j _ hset
    show (Function.update g.shms k _ j).ceilingMsgSize = _
    by_cases hj : j = k
    · rw [hj, Function.update_self]
      rw [hj] at hset
      obtain h | h := hceiling
      · exact h
      · rw [h, hset]
    · rw [Function.update_of_ne hj]

/-- A creation touches no segment there is. -/
theorem evolves_create (g : Kernel) (conf : ShmConf) : Evolves g (g.create conf) := by
  have hsame : ∀ k < g.next, (g.create conf).shms k = g.shms k := by
    intro k hk
    exact Function.update_of_ne (by omega) _ _
  refine ⟨Nat.le_succ _, ?_, ?_⟩
  · intro k hk
    rw [hsame k hk]
  · intro k hk _
    rw [hsame k hk]

/-- What one step does to the kernel. A modified segment keeps its size,
    and its ceiling unless the creator constructs the `State`. -/
inductive Move (g : Kernel) : Kernel → Prop where
  | same : Move g g
  | create (conf : ShmConf) : Move g (g.create conf)
  | rmid (k : Nat) : Move g (g.rmid k)
  | modify (k : Nat) (f : SharedMemory → SharedMemory)
      (hconf : (f (g.shms k)).conf = (g.shms k).conf)
      (hceiling : (f (g.shms k)).ceilingMsgSize = (g.shms k).ceilingMsgSize ∨
        (f (g.shms k)).ceilingMsgSize = (g.shms k).conf.ceilingMsgSize) :
      Move g (g.modify k f)

theorem Move.evolves {g g' : Kernel} (h : Move g g') : Evolves g g' := by
  cases h with
  | same => exact .refl g
  | create conf => exact evolves_create g conf
  | rmid k =>
    obtain ⟨hnext, hconf, hceiling⟩ :=
      evolves_modify g k (fun m => { m with removed := true }) rfl (Or.inl rfl)
    exact ⟨hnext, hconf, hceiling⟩
  | modify k f hconf hceiling => exact evolves_modify g k f hconf hceiling

/-- The registered segment exists. -/
def KeyInv (g : Kernel) : Prop := ∀ k, g.key = some k → k < g.next

theorem keyInv_create {g : Kernel} (conf : ShmConf) : KeyInv (g.create conf) := by
  intro k hk
  have hnext : g.next = k := Option.some.inj hk
  show k < g.next + 1
  omega

theorem KeyInv.rmid {g : Kernel} (hkey : KeyInv g) (j : Nat) : KeyInv (g.rmid j) := by
  intro k hk
  have hk : (if g.key = some j then none else g.key) = some k := hk
  split at hk
  · cases hk
  · exact hkey k hk

theorem Move.key {g g' : Kernel} (h : Move g g') (hkey : KeyInv g) : KeyInv g' := by
  cases h with
  | same => exact hkey
  | create conf => exact keyInv_create conf
  | rmid j => exact hkey.rmid j
  | modify k f hconf hceiling => exact hkey

/-! ## Section 2: Invariant -/

/-- The object is attached to segment `k` and laid out for its tier. -/
structure MappedTo (g : Kernel) (l : Object) (k : Nat) : Prop where
  shmid_lt  : k < g.next
  state_eq  : l.state = some k
  blocks_eq : l.blocks = some k
  conf_eq   : l.conf = (g.shms k).conf
  addr_eq   : ∀ i < l.conf.blockNum, l.blockBufAddr i = some ⟨k, l.conf.bufOffset i⟩

/-- An address is that of some block's buffer of an existing segment. -/
structure AddrOf (g : Kernel) (i : Nat) (a : Addr) : Prop where
  shmid_lt  : a.shmid < g.next
  index_lt  : i < (g.shms a.shmid).conf.blockNum
  offset_eq : a.offset = (g.shms a.shmid).conf.bufOffset i

/-- What holds between any two steps of the object. -/
structure Base (g : Kernel) (l : Object) : Prop where
  addr   : ∀ i a, l.blockBufAddr i = some a → AddrOf g i a
  mapped : l.init = true → ∃ k, MappedTo g l k

/-- Where the object stands in its own segment's creation. -/
structure Creating (g : Kernel) (l : Object) : Prop where
  init_eq  : l.init = false
  shmid_lt : l.shmid < g.next
  conf_eq  : (g.shms l.shmid).conf = l.conf

/-- What holds at each program counter. -/
def PcInv (g : Kernel) (l : Object) : Prop :=
  match l.pc with
  | .idle | .crashed => True
  | .needRemap | .wroteNum | .tryLockForWrite | .increaseWroteNum | .writing
  | .tryLockForRead | .reading => l.init = true
  | .shmatCreate | .rmidCreate | .newState => Creating g l
  | .loadCeilingCreate | .newBlocks => Creating g l ∧ l.state = some l.shmid ∧
      (g.shms l.shmid).ceilingMsgSize = l.conf.ceilingMsgSize
  | .shmatOpen => l.init = false ∧ l.shmid < g.next
  | .loadCeilingOpen => l.init = false ∧ l.shmid < g.next ∧ l.state = some l.shmid
  | .increaseReferenceCounts => l.init = false ∧ ∃ k, MappedTo g l k
  | .setNeedRemap | .reset _ | .shmgetCreate | .shmgetOpen | .shmgetRemove _ | .shmctlRemove _
  | .decreaseReferenceCounts | .referenceCounts => l.init = false

structure Layout (g : Kernel) (l : Object) : Prop where
  base : Base g l
  pc   : PcInv g l

/-- **Condition**: when `OpenOnly` loads the ceiling, the `State` has been
    constructed, or the segment has the tier a zeroed ceiling stands for. -/
def LoadsCeiling (b : Step) (g : Kernel) (l : Object) : Prop :=
  b = .loadCeilingOpen →
    ShmConf.update (g.shms l.shmid).ceilingMsgSize = (g.shms l.shmid).conf

instance (b : Step) (g : Kernel) (l : Object) : Decidable (LoadsCeiling b g l) :=
  inferInstanceAs (Decidable (_ → _))

/-! ## Section 3: Stability -/

section stable
variable {g g' : Kernel} {l : Object}

theorem MappedTo.stable {k : Nat} (h : MappedTo g l k) (hev : Evolves g g') : MappedTo g' l k where
  shmid_lt  := Nat.lt_of_lt_of_le h.shmid_lt hev.next_le
  state_eq  := h.state_eq
  blocks_eq := h.blocks_eq
  conf_eq   := by rw [hev.conf_eq k h.shmid_lt, h.conf_eq]
  addr_eq   := h.addr_eq

theorem Base.stable (h : Base g l) (hev : Evolves g g') : Base g' l := by
  refine ⟨?_, ?_⟩
  · intro i a ha
    obtain ⟨hlt, hindex, hoffset⟩ := h.addr i a ha
    have hconf := hev.conf_eq a.shmid hlt
    refine ⟨Nat.lt_of_lt_of_le hlt hev.next_le, ?_, ?_⟩
    · rw [hconf]
      exact hindex
    · rw [hconf]
      exact hoffset
  · intro hinit
    obtain ⟨k, hk⟩ := h.mapped hinit
    exact ⟨k, hk.stable hev⟩

theorem Creating.stable (h : Creating g l) (hev : Evolves g g') : Creating g' l where
  init_eq  := h.init_eq
  shmid_lt := Nat.lt_of_lt_of_le h.shmid_lt hev.next_le
  conf_eq  := by rw [hev.conf_eq _ h.shmid_lt, h.conf_eq]

theorem PcInv.stable (h : PcInv g l) (hev : Evolves g g') : PcInv g' l := by
  revert h
  unfold PcInv
  cases l.pc <;> intro h
  case shmatCreate | rmidCreate | newState => exact h.stable hev
  case loadCeilingCreate | newBlocks =>
    obtain ⟨hcreating, hstate, hceiling⟩ := h
    refine ⟨hcreating.stable hev, hstate, ?_⟩
    -- the `State` is constructed, so its ceiling stays
    rw [hev.ceiling_eq _ hcreating.shmid_lt (by rw [hceiling, hcreating.conf_eq]), hceiling]
  case shmatOpen => exact ⟨h.1, Nat.lt_of_lt_of_le h.2 hev.next_le⟩
  case loadCeilingOpen => exact ⟨h.1, Nat.lt_of_lt_of_le h.2.1 hev.next_le, h.2.2⟩
  case increaseReferenceCounts =>
    obtain ⟨hinit, k, hk⟩ := h
    exact ⟨hinit, k, hk.stable hev⟩
  all_goals exact h

theorem Layout.stable (h : Layout g l) (hev : Evolves g g') : Layout g' l :=
  ⟨h.base.stable hev, h.pc.stable hev⟩

end stable

/-! ## Section 4: Steps -/

section local_
variable {g : Kernel} {l : Object}

/-- A change of the object that touches neither its pointers nor the
    configuration they were computed with. -/
theorem Base.congr {l' : Object} (h : Base g l) (haddr : l'.blockBufAddr = l.blockBufAddr)
    (hmapped : l'.init = true → l.init = true ∧ l'.state = l.state ∧ l'.blocks = l.blocks ∧
      l'.conf = l.conf) : Base g l' := by
  refine ⟨?_, ?_⟩
  · intro i a ha
    rw [haddr] at ha
    exact h.addr i a ha
  · intro hinit
    obtain ⟨hold, hstate, hblocks, hconf⟩ := hmapped hinit
    obtain ⟨k, hk⟩ := h.mapped hold
    refine ⟨k, hk.shmid_lt, ?_, ?_, ?_, ?_⟩
    · rw [hstate, hk.state_eq]
    · rw [hblocks, hk.blocks_eq]
    · rw [hconf, hk.conf_eq]
    · rw [haddr, hconf]
      exact hk.addr_eq

/-- Moving the program counter. -/
theorem Base.goto (h : Base g l) (pc : Pc) : Base g (l.goto pc) :=
  h.congr rfl fun hinit => ⟨hinit, rfl, rfl, rfl⟩

theorem checkIndex_layout (h : Base g l) (hinit : l.init = true) : Layout g l.checkIndex := by
  unfold Object.checkIndex
  split
  · exact ⟨h.goto _, hinit⟩
  · exact ⟨h.goto _, trivial⟩

theorem checkSize_layout (h : Base g l) {result : Bool} (hresult : result = true → l.init = true) :
    Layout g (l.checkSize result) := by
  have hrecreate : ∀ pc, Base g { l with conf := .update l.msgSize, init := false, pc := pc } :=
    fun pc => h.congr rfl fun hinit => by cases hinit
  unfold Object.checkSize
  split
  · -- `Recreate`
    split
    · exact ⟨hrecreate _, rfl⟩
    · exact ⟨hrecreate _, trivial⟩
  split
  · next hok => exact ⟨h.goto _, hresult hok⟩
  · exact ⟨h.goto _, trivial⟩

theorem opened_layout (h : Base g l) {ok : Bool} (hok : ok = true → l.init = true) :
    Layout g (l.opened ok) := by
  have hidle : Layout g (l.goto .idle) := ⟨h.goto _, trivial⟩
  unfold Object.opened
  split
  · split
    · next h' => exact ⟨h.goto _, hok h'⟩
    · exact hidle
  · split
    · next h' => exact checkIndex_layout h (hok h')
    · exact hidle
  · exact checkSize_layout h hok
  · split
    · next h' => exact ⟨h.goto _, hok h'⟩
    · exact hidle
  · split
    · next h' => exact ⟨h.goto _, hok h'⟩
    · exact hidle

/-- `OpenOrCreate` or `OpenOnly` has failed. -/
theorem failed_layout (h : Base g l) : Layout g (l.opened false) := by
  apply opened_layout h
  intro hok
  cases hok

theorem callInit_layout (h : Base g l) (hinit : l.init = false) : Layout g l.callInit := by
  have hoff : ∀ l' : Object, l'.init = l.init → l'.blockBufAddr = l.blockBufAddr → Base g l' := by
    intro l' hinit' haddr
    apply h.congr haddr
    intro hon
    rw [hinit', hinit] at hon
    cases hon
  unfold Object.callInit
  split
  · exact ⟨hoff _ rfl rfl, hinit⟩
  · exact ⟨hoff _ rfl rfl, hinit⟩

end local_

/-! ## Section 5: The kernel along a step -/

section steps
variable {g : Kernel} {l : Object}

/-- What one step of `l` does to the kernel. -/
inductive Touch (g : Kernel) (l : Object) : Kernel → Prop where
  | same : Touch g l g
  | create (conf : ShmConf) : Touch g l (g.create conf)
  | rmid (k : Nat) : Touch g l (g.rmid k)
  | modify (k : Nat) (f : SharedMemory → SharedMemory)
      (hconf : (f (g.shms k)).conf = (g.shms k).conf)
      (hceiling : (f (g.shms k)).ceilingMsgSize = (g.shms k).ceilingMsgSize ∨
        (l.pc = .newState ∧ k = l.shmid ∧
          (f (g.shms k)).ceilingMsgSize = l.conf.ceilingMsgSize)) : Touch g l (g.modify k f)

theorem Touch.next_le {g' : Kernel} (h : Touch g l g') : g.next ≤ g'.next := by
  cases h with
  | create conf => exact Nat.le_succ _
  | same | rmid | modify => exact Nat.le_refl _

theorem Touch.key {g' : Kernel} (h : Touch g l g') (hkey : KeyInv g) : KeyInv g' := by
  cases h with
  | create conf => exact keyInv_create conf
  | rmid j => exact hkey.rmid j
  | same | modify => exact hkey

/-- **Step lemma**, the kernel: what a step does to the segments, whatever
    is known of the object. -/
theorem touch_step (b : Step) (hg : b.gate g l) : Touch g l (b.effect g l).1 := by
  have hpc := hg.1
  have hstate : ∀ f : Nat → Kernel × Object, (∀ k, Touch g l (f k).1) →
      Touch g l (withState g l f).1 := by
    intro f hf
    apply @withState_rec g l f (fun r => Touch g l r.1)
    · exact fun k _ => hf k
    · exact fun _ => .same
  have hblocks : ∀ f : Nat → Kernel × Object, (∀ k, Touch g l (f k).1) →
      Touch g l (withBlocks g l f).1 := by
    intro f hf
    apply @withBlocks_rec g l f (fun r => Touch g l r.1)
    · exact fun k _ => hf k
    · exact fun _ => .same
  have hkeep : ∀ k (f : SharedMemory → SharedMemory), (f (g.shms k)).conf = (g.shms k).conf →
      (f (g.shms k)).ceilingMsgSize = (g.shms k).ceilingMsgSize → Touch g l (g.modify k f) :=
    fun k f hconf hceiling => .modify k f hconf (Or.inl hceiling)
  cases b with
  | needRemap =>
    apply hstate
    intro k
    split
    · exact .same
    split
    · exact .same
    · exact .same
  | reset by_ =>
    dsimp only [Step.effect]
    split
    · exact hkeep _ (fun m => { m with nattch := m.nattch - 1 }) rfl rfl
    · exact .same
  | shmgetCreate => exact .create _
  | rmidCreate => exact .rmid _
  | shmctlRemove by_ => exact .rmid _
  | newState =>
    -- the ceiling stored is the one of the creator's configuration
    dsimp only [Step.effect]
    apply Touch.modify
    · rfl
    · exact Or.inr ⟨hpc, rfl, rfl⟩
  | shmatCreate | shmatOpen => exact hkeep _ (fun m => { m with nattch := m.nattch + 1 }) rfl rfl
  | newBlocks => exact hkeep _ (fun m => { m with lockNum := _ }) rfl rfl
  | setNeedRemap => exact hstate _ fun k => hkeep k (fun m => { m with needRemap := _ }) rfl rfl
  | increaseReferenceCounts | decreaseReferenceCounts =>
    exact hstate _ fun k => hkeep k (fun m => { m with referenceCount := _ }) rfl rfl
  | increaseWroteNum => exact hstate _ fun k => hkeep k (fun m => { m with wroteNum := _ }) rfl rfl
  | loadCeilingCreate | loadCeilingOpen | wroteNum | referenceCounts =>
    exact hstate _ fun _ => .same
  | tryLockForWrite | tryLockForRead =>
    exact hblocks _ fun k => hkeep k (fun m => { m with lockNum := _ }) rfl rfl
  | tryLockForWriteFail | tryLockForReadFail => exact hblocks _ fun _ => .same
  | releaseWrittenBlock | releaseReadBlock =>
    dsimp only [Step.effect]
    split
    · exact hblocks _ fun k => hkeep k (fun m => { m with lockNum := _ }) rfl rfl
    · exact .same
  | _ => exact .same

/-- With the layout, a created segment has the ceiling of its tier. -/
theorem move_step (b : Step) (hL : Layout g l) (hg : b.gate g l) : Move g (b.effect g l).1 := by
  have htouch := touch_step b hg
  generalize (b.effect g l).1 = g' at htouch
  cases htouch with
  | same => exact .same
  | create conf => exact .create conf
  | rmid k => exact .rmid k
  | modify k f hconf hceiling =>
    refine .modify k f hconf ?_
    obtain hsame | ⟨hpc, rfl, hnew⟩ := hceiling
    · exact Or.inl hsame
    · have hcreating := hL.pc
      unfold PcInv at hcreating
      rw [hpc] at hcreating
      exact Or.inr (hnew.trans (congrArg ShmConf.ceilingMsgSize hcreating.conf_eq.symm))

/-- An object laid out for the segment it is attached to. -/
theorem layOut_layout {k : Nat} (h : Base g l) (hinit : l.init = false) (hk : k < g.next)
    (hstate : l.state = some k) (hconf : l.conf = (g.shms k).conf) :
    Layout g ((l.layOut k).goto .increaseReferenceCounts) := by
  refine ⟨⟨?_, ?_⟩, hinit, k, hk, hstate, rfl, hconf, ?_⟩
  · intro i a ha
    have ha : (if i < l.conf.blockNum then some (Addr.mk k (l.conf.bufOffset i))
        else l.blockBufAddr i) = some a := ha
    split at ha
    · next hlt =>
      obtain rfl := Option.some.inj ha
      rw [hconf] at hlt
      exact ⟨hk, hlt, by rw [hconf]⟩
    · exact h.addr i a ha
  · intro hon
    have hon : l.init = true := hon
    rw [hinit] at hon
    cases hon
  · intro i hi
    exact if_pos hi

/-- An object that is not initialised may change all but its addresses. -/
theorem Base.off {l' : Object} (h : Base g l) (haddr : l'.blockBufAddr = l.blockBufAddr)
    (hinit : l'.init = false) : Base g l' := by
  apply h.congr haddr
  intro hon
  rw [hinit] at hon
  cases hon

theorem removed_layout (h : Base g l) (hinit : l.init = false) (by_ : RemoveBy) :
    Layout g (l.removed by_) := by
  unfold Object.removed
  split
  · exact ⟨h.off rfl hinit, hinit⟩
  · split
    · exact ⟨h.off rfl hinit, hinit⟩
    · exact failed_layout (h.off rfl hinit)
  · exact ⟨h.goto _, trivial⟩

theorem Base.modify (h : Base g l) (k : Nat) (f : SharedMemory → SharedMemory)
    (hconf : (f (g.shms k)).conf = (g.shms k).conf)
    (hceiling : (f (g.shms k)).ceilingMsgSize = (g.shms k).ceilingMsgSize) :
    Base (g.modify k f) l :=
  h.stable (evolves_modify g k f hconf (Or.inl hceiling))

theorem Base.setLockNum (h : Base g l) (k i : Nat) (word : Int) : Base (setLockNum g k i word) l :=
  h.modify k _ rfl rfl

theorem Base.crashed (h : Base g l) : Layout g (l.goto .crashed) := ⟨h.goto _, trivial⟩

/-- A step that uses the `State`, or crashes without one. -/
theorem Base.withState (h : Base g l) {f : Nat → Kernel × Object}
    (hf : ∀ k, l.state = some k → Layout (f k).1 (f k).2) :
    Layout (withState g l f).1 (withState g l f).2 := by
  apply @withState_rec g l f (fun r => Layout r.1 r.2)
  · exact hf
  · exact fun _ => h.crashed

/-- A step that uses a block, or crashes without one. -/
theorem Base.withBlocks (h : Base g l) {f : Nat → Kernel × Object}
    (hf : ∀ k, Layout (f k).1 (f k).2) : Layout (withBlocks g l f).1 (withBlocks g l f).2 := by
  apply @withBlocks_rec g l f (fun r => Layout r.1 r.2)
  · exact fun k _ => hf k
  · exact fun _ => h.crashed

/-! ### Calls -/

theorem acquireBlockToWrite_layout (h : Base g l) (msgSize : Nat) :
    Layout ((Step.acquireBlockToWrite msgSize).effect g l).1
      ((Step.acquireBlockToWrite msgSize).effect g l).2 := by
  have hb : Base g { l with op := .acquireBlockToWrite, msgSize := msgSize } :=
    h.congr rfl fun hinit => ⟨hinit, rfl, rfl, rfl⟩
  dsimp only [Step.effect]
  split
  · next hinit => exact ⟨hb.goto _, hinit⟩
  · next hinit => exact callInit_layout hb (Bool.not_eq_true _ ▸ hinit)

theorem acquireBlockToRead_layout (h : Base g l) (index : Nat) :
    Layout ((Step.acquireBlockToRead index).effect g l).1
      ((Step.acquireBlockToRead index).effect g l).2 := by
  have hb : Base g { l with op := .acquireBlockToRead, index := index } :=
    h.congr rfl fun hinit => ⟨hinit, rfl, rfl, rfl⟩
  dsimp only [Step.effect]
  split
  · next hinit => exact checkIndex_layout hb hinit
  · next hinit => exact callInit_layout hb (Bool.not_eq_true _ ▸ hinit)

theorem needRemap_layout (h : Base g l) (hinit : l.init = true) :
    Layout (Step.needRemap.effect g l).1 (Step.needRemap.effect g l).2 := by
  apply h.withState
  intro k _
  split
  · exact ⟨h.off rfl rfl, rfl⟩
  split
  · exact checkSize_layout h fun _ => hinit
  · exact ⟨h.goto _, hinit⟩

/-- `Reset` clears all addresses. -/
theorem reset_layout (hinit : l.init = false) (by_ : ResetBy) :
    Layout ((Step.reset by_).effect g l).1 ((Step.reset by_).effect g l).2 := by
  have hreset : ∀ g' l', l'.blockBufAddr = (fun _ => none) → l'.init = false →
      l'.pc = by_.next → Layout g' l' := by
    intro g' l' haddr hoff hnext
    refine ⟨⟨?_, ?_⟩, ?_⟩
    · intro i a ha
      rw [haddr] at ha
      cases ha
    · intro hon
      rw [hoff] at hon
      cases hon
    · unfold PcInv
      rw [hnext]
      cases by_ <;> exact hoff
  dsimp only [Step.effect]
  split
  · exact hreset _ _ rfl hinit rfl
  · exact hreset _ _ rfl hinit rfl

/-! ### `OpenOrCreate` and `OpenOnly` -/

theorem shmgetCreate_layout (h : Base g l) (hinit : l.init = false) :
    Layout (Step.shmgetCreate.effect g l).1 (Step.shmgetCreate.effect g l).2 := by
  have hnew : (g.create l.conf).shms g.next = .zeroed l.conf := Function.update_self _ _ _
  refine ⟨(h.stable (evolves_create g l.conf)).off rfl hinit, hinit, Nat.lt_succ_self _, ?_⟩
  show ((g.create l.conf).shms g.next).conf = l.conf
  rw [hnew]
  rfl

theorem shmatCreate_layout (hL : Layout g l) (hg : Step.shmatCreate.gate g l)
    (hcreating : Creating g l) :
    Layout (Step.shmatCreate.effect g l).1 (Step.shmatCreate.effect g l).2 := by
  have hev : Evolves g (g.shmat l.shmid) := (move_step .shmatCreate hL hg).evolves
  have hcreating' := hcreating.stable hev
  exact ⟨(hL.base.stable hev).off rfl hcreating.init_eq, hcreating'.init_eq,
    hcreating'.shmid_lt, hcreating'.conf_eq⟩

theorem newState_layout (hL : Layout g l) (hg : Step.newState.gate g l)
    (hcreating : Creating g l) :
    Layout (Step.newState.effect g l).1 (Step.newState.effect g l).2 := by
  have hev := (move_step .newState hL hg).evolves
  have hcreating' := hcreating.stable hev
  refine ⟨(hL.base.stable hev).off rfl hcreating.init_eq,
    ⟨hcreating'.init_eq, hcreating'.shmid_lt, hcreating'.conf_eq⟩, rfl, ?_⟩
  show (Function.update g.shms l.shmid _ l.shmid).ceilingMsgSize = _
  rw [Function.update_self]
  rfl

/-- What is read back is what was stored. -/
theorem loadCeilingCreate_layout (h : Base g l) (hcreating : Creating g l)
    (hstate : l.state = some l.shmid)
    (hceiling : (g.shms l.shmid).ceilingMsgSize = l.conf.ceilingMsgSize) :
    Layout (Step.loadCeilingCreate.effect g l).1 (Step.loadCeilingCreate.effect g l).2 := by
  apply h.withState
  intro k hk
  obtain rfl : l.shmid = k := Option.some.inj (hstate.symm.trans hk)
  have hconf : ShmConf.update (g.shms l.shmid).ceilingMsgSize = l.conf := by
    rw [hceiling, ShmConf.update_ceiling]
  rw [hconf]
  exact ⟨h.off rfl hcreating.init_eq,
    ⟨hcreating.init_eq, hcreating.shmid_lt, hcreating.conf_eq⟩, hstate, hceiling⟩

theorem newBlocks_layout (hL : Layout g l) (hg : Step.newBlocks.gate g l)
    (hcreating : Creating g l) (hstate : l.state = some l.shmid) :
    Layout (Step.newBlocks.effect g l).1 (Step.newBlocks.effect g l).2 := by
  have hev := (move_step .newBlocks hL hg).evolves
  have hcreating' := hcreating.stable hev
  exact layOut_layout (hL.base.stable hev) hcreating.init_eq hcreating'.shmid_lt hstate
    hcreating'.conf_eq.symm

theorem loadCeilingOpen_layout (h : Base g l) (hinit : l.init = false) (hlt : l.shmid < g.next)
    (hstate : l.state = some l.shmid)
    (hok : ShmConf.update (g.shms l.shmid).ceilingMsgSize = (g.shms l.shmid).conf) :
    Layout (Step.loadCeilingOpen.effect g l).1 (Step.loadCeilingOpen.effect g l).2 := by
  apply h.withState
  intro k hk
  obtain rfl : l.shmid = k := Option.some.inj (hstate.symm.trans hk)
  apply layOut_layout
  · exact h.off rfl hinit
  · exact hinit
  · exact hlt
  · exact hstate
  · exact hok

theorem increaseReferenceCounts_layout (h : Base g l) {k : Nat} (hk : MappedTo g l k) :
    Layout (Step.increaseReferenceCounts.effect g l).1
      (Step.increaseReferenceCounts.effect g l).2 := by
  apply h.withState
  intro j hj
  obtain rfl : k = j := Option.some.inj (hk.state_eq.symm.trans hj)
  have hev : Evolves g (g.modify k fun m =>
      { m with referenceCount := (m.referenceCount + 1) % 2 ^ 32 }) :=
    evolves_modify g k _ rfl (Or.inl rfl)
  have hk' := hk.stable hev
  apply opened_layout
  · refine ⟨(h.stable hev).addr, ?_⟩
    intro _
    exact ⟨k, hk'.shmid_lt, hk'.state_eq, hk'.blocks_eq, hk'.conf_eq, hk'.addr_eq⟩
  · exact fun _ => rfl

/-! ### Blocks -/

/-- The lock word of the block is stored, and the call returns. -/
theorem release_layout (h : Base g l) (i : Nat) (word : Nat → Int) :
    Layout (withBlocks g l fun k => (setLockNum g k i (word k), l.goto .idle)).1
      (withBlocks g l fun k => (setLockNum g k i (word k), l.goto .idle)).2 := by
  apply h.withBlocks
  intro k
  exact ⟨(h.setLockNum k _ _).goto _, trivial⟩

/-- **Step lemma**, the object that moves. -/
theorem layout_step (b : Step) (hkey : KeyInv g) (hL : Layout g l) (hg : b.gate g l)
    (hok : LoadsCeiling b g l) : Layout (b.effect g l).1 (b.effect g l).2 := by
  have hbase := hL.base
  have hpc := hL.pc
  unfold PcInv at hpc
  rw [hg.1] at hpc
  cases b with
  | acquireBlockToWrite msgSize => exact acquireBlockToWrite_layout hbase msgSize
  | acquireBlockToRead index => exact acquireBlockToRead_layout hbase index
  | destroy =>
    dsimp only [Step.effect]
    split
    · exact ⟨hbase.off rfl rfl, rfl⟩
    · exact hL
  | needRemap => exact needRemap_layout hbase hpc
  | setNeedRemap =>
    apply hbase.withState
    intro k _
    exact ⟨(hbase.modify k (fun m => { m with needRemap := true }) rfl rfl).off rfl hpc, hpc⟩
  | reset by_ => exact reset_layout hpc by_
  | shmgetCreate => exact shmgetCreate_layout hbase hpc
  | shmgetEexist | shmgetEinval => exact ⟨hbase.goto _, hpc⟩
  | shmgetCreateFail | shmgetOpenFail => exact failed_layout hbase
  | shmatCreate => exact shmatCreate_layout hL hg hpc
  | shmatCreateFail =>
    have hcreating : Creating g l := hpc
    exact ⟨hbase.off rfl hcreating.init_eq, hcreating.init_eq, hcreating.shmid_lt,
      hcreating.conf_eq⟩
  | rmidCreate => exact failed_layout (hbase.stable (Move.rmid _).evolves)
  | newState => exact newState_layout hL hg hpc
  | loadCeilingCreate => exact loadCeilingCreate_layout hbase hpc.1 hpc.2.1 hpc.2.2
  | newBlocks => exact newBlocks_layout hL hg hpc.1 hpc.2.1
  | shmgetOpen =>
    dsimp only [Step.effect]
    split
    · next k hk => exact ⟨hbase.off rfl hpc, hpc, hkey k hk⟩
    · exact hL
  | shmatOpen =>
    have hev := (move_step .shmatOpen hL hg).evolves
    exact ⟨(hbase.stable hev).off rfl hpc.1, hpc.1, Nat.lt_of_lt_of_le hpc.2 hev.next_le, rfl⟩
  | shmatOpenFail => exact failed_layout (hbase.off rfl hpc.1)
  | loadCeilingOpen => exact loadCeilingOpen_layout hbase hpc.1 hpc.2.1 hpc.2.2 (hok rfl)
  | increaseReferenceCounts =>
    obtain ⟨_, k, hk⟩ := hpc
    exact increaseReferenceCounts_layout hbase hk
  | shmgetRemove by_ =>
    dsimp only [Step.effect]
    split
    · exact ⟨hbase.off rfl hpc, hpc⟩
    · exact hL
  | shmgetRemoveFail by_ => exact removed_layout hbase hpc by_
  | shmctlRemove by_ => exact removed_layout (hbase.stable (Move.rmid _).evolves) hpc by_
  | shmctlRemoveFail by_ => exact removed_layout hbase hpc by_
  | wroteNum =>
    apply hbase.withState
    intro k _
    exact ⟨hbase.congr rfl fun hinit => ⟨hinit, rfl, rfl, rfl⟩, hpc⟩
  | tryLockForWrite =>
    apply hbase.withBlocks
    intro k
    exact ⟨(hbase.setLockNum k _ _).congr rfl fun hinit => ⟨hinit, rfl, rfl, rfl⟩, hpc⟩
  | tryLockForWriteFail =>
    apply hbase.withBlocks
    intro k
    refine ⟨hbase.congr rfl fun hinit => ⟨hinit, rfl, rfl, rfl⟩, ?_⟩
    unfold PcInv
    rw [hg.1]
    exact hpc
  | increaseWroteNum =>
    apply hbase.withState
    intro k _
    have hmodify := hbase.modify k
      (fun m => { m with wroteNum := (m.wroteNum + 1) % 2 ^ 32 }) rfl rfl
    exact ⟨hmodify.goto _, hpc⟩
  | releaseWrittenBlock | releaseReadBlock =>
    dsimp only [Step.effect]
    split
    · exact release_layout hbase _ _
    · exact ⟨hbase.goto _, trivial⟩
  | tryLockForRead =>
    apply hbase.withBlocks
    intro k
    exact ⟨(hbase.setLockNum k _ _).goto _, hpc⟩
  | tryLockForReadFail =>
    apply hbase.withBlocks
    intro k
    exact ⟨hbase.goto _, trivial⟩
  | decreaseReferenceCounts =>
    apply hbase.withState
    intro k _
    have hmodify := hbase.modify k
      (fun m => { m with referenceCount := m.referenceCount - 1 }) rfl rfl
    exact ⟨hmodify.goto _, hpc⟩
  | referenceCounts =>
    apply hbase.withState
    intro k _
    dsimp only
    split
    · exact ⟨hbase.goto _, hpc⟩
    · exact ⟨hbase.goto _, trivial⟩

/-- The configuration `OpenOrCreate` reads back is the one it has. -/
theorem loadCeilingCreate_conf (hL : Layout g l) (hpc : l.pc = .loadCeilingCreate) :
    ShmConf.update (g.shms l.shmid).ceilingMsgSize = l.conf ∧ l.state = some l.shmid := by
  have h := hL.pc
  unfold PcInv at h
  rw [hpc] at h
  obtain ⟨_, hstate, hceiling⟩ := h
  exact ⟨by rw [hceiling, ShmConf.update_ceiling], hstate⟩

end steps

/-! ## Section 6: Runs -/

/-- The layout holds along every run whose steps meet `LoadsCeiling`,
    together with any `X` of the objects that their own steps keep. -/
theorem layout_relyGuarantee {ok : Step → Kernel → Object → Prop} {X : Object → Prop}
    (hok : ∀ b g l, ok b g l → LoadsCeiling b g l) (hinit : ∀ mode, X (.new mode))
    (hstep : ∀ b g l, Layout g l → X l → b.gate g l → ok b g l → X (b.effect g l).2) :
    component.RelyGuarantee ok KeyInv (fun g l => Layout g l ∧ X l) Evolves where
  initShared := by
    intro g hg k hk
    have hg : g.key = none := hg
    rw [hg] at hk
    cases hk
  initLocal := by
    intro g l hl
    have hl : l = .new l.mode := hl
    rw [hl]
    refine ⟨⟨⟨?_, ?_⟩, trivial⟩, hinit _⟩
    · intro i a ha
      cases ha
    · intro hon
      cases hon
  stable := fun g g' l _ hev h => ⟨h.1.stable hev, h.2⟩
  guarantee := fun b g l _ h hg _ => (move_step b h.1 hg).evolves
  shared := fun b g l hkey h hg _ => (move_step b h.1 hg).key hkey
  own := fun b g l hkey h hg hb =>
    ⟨layout_step b hkey h.1 hg (hok b g l hb), hstep b g l h.1 h.2 hg hb⟩

/-! ## Section 7: Buffers -/

section buffers
variable {Pid : Type} {s : Global Kernel Object Pid}

/-- The object is initialised and attached to segment `k`. -/
def Attached (s : Global Kernel Object Pid) (p : Pid) (k : Nat) : Prop :=
  (s.loc p).init = true ∧ (s.loc p).state = some k

/-- Whichever attached objects look, the buffers of distinct blocks do not
    overlap, and none overlaps the `State` or a `Block` header. -/
structure BuffersApart (s : Global Kernel Object Pid) (k : Nat) : Prop where
  state    : ∀ p i off, Attached s p k → (s.loc p).blockBufAddr i = some ⟨k, off⟩ →
    ShmConf.sizeofState ≤ off
  header   : ∀ p q i off, Attached s p k → (s.loc p).blockBufAddr i = some ⟨k, off⟩ →
    Attached s q k → ∀ j < (s.loc q).conf.blockNum,
    ShmConf.blockOffset j + ShmConf.sizeofBlock ≤ off
  disjoint : ∀ p q i j off off', i ≠ j →
    Attached s p k → (s.loc p).blockBufAddr i = some ⟨k, off⟩ →
    Attached s q k → (s.loc q).blockBufAddr j = some ⟨k, off'⟩ →
    off + (s.loc p).conf.blockBufSize ≤ off' ∨ off' + (s.loc q).conf.blockBufSize ≤ off

theorem mappedTo_of_attached {p : Pid} {k : Nat} (hL : Layout s.shared (s.loc p))
    (h : Attached s p k) : MappedTo s.shared (s.loc p) k := by
  obtain ⟨j, hj⟩ := hL.base.mapped h.1
  obtain rfl : j = k := Option.some.inj (hj.state_eq.symm.trans h.2)
  exact hj

/-- Objects that hold their layout see the buffers apart. -/
theorem buffersApart (hL : ∀ p, Layout s.shared (s.loc p)) (k : Nat) : BuffersApart s k := by
  have hconf : ∀ {p}, Attached s p k → (s.loc p).conf = (s.shared.shms k).conf :=
    fun {p} h => (mappedTo_of_attached (hL p) h).conf_eq
  have haddr : ∀ {p i off}, (s.loc p).blockBufAddr i = some ⟨k, off⟩ →
      i < (s.shared.shms k).conf.blockNum ∧ off = (s.shared.shms k).conf.bufOffset i := by
    intro p i off ha
    obtain ⟨_, hindex, hoffset⟩ := (hL p).base.addr i _ ha
    exact ⟨hindex, hoffset⟩
  refine ⟨?_, ?_, ?_⟩
  · intro p i off _ ha
    obtain ⟨_, rfl⟩ := haddr ha
    unfold ShmConf.bufOffset
    omega
  · intro p q i off _ ha hq j hj
    obtain ⟨_, rfl⟩ := haddr ha
    rw [hconf hq] at hj
    exact ShmConf.header_le_bufOffset _ hj i
  · intro p q i j off off' hij hp ha hq ha'
    obtain ⟨_, rfl⟩ := haddr ha
    obtain ⟨_, rfl⟩ := haddr ha'
    rw [hconf hp, hconf hq]
    exact ShmConf.bufOffset_disjoint _ hij

end buffers

end CyberRT.Transport.Shm.Segment
