import CyberRT.Framework.AddressSpace
import Mathlib.Logic.Function.Basic

/-! # Switching stacks

    Threads of control that hand a processor to one another by saving some
    registers on their own stack, leaving the stack pointer in a cell, and
    taking the stack pointer and the registers of the next one.

    `Switch` says which registers, `Switch.Lawful` what the code of one
    switch does, and `Left` that a party which is not running can go on where
    it left. The rules say what keeps `Left`: everything that stays away from
    the saved frame and the cell, and a switch of any other parties. -/

namespace CyberRT.Framework

/-! ## Section 1: Machines -/

/-- A processor and the memory it works on. -/
structure Machine (Reg : Type) where
  regs : Reg → BitVec 64
  mem  : AddressSpace

/-- Where a thread of control goes on: the registers it finds there, the
    program counter and the stack pointer. -/
structure Continuation where
  kept : List (BitVec 64)
  pc   : BitVec 64
  sp   : BitVec 64
  deriving DecidableEq

/-- The code of a switch. `src` and `dest` hold the address of the cell of
    the party that leaves and of the one that comes, `kept` are the registers
    of a frame, lowest address first, and `caller` is where a call of the
    code would return to. -/
structure Switch (Reg : Type) where
  kept   : List Reg
  pc     : Reg
  sp     : Reg
  src    : Reg
  dest   : Reg
  caller : Machine Reg → Continuation
  code   : Machine Reg → Machine Reg

namespace Switch

variable {Reg : Type} (sw : Switch Reg)

/-- The bytes of a frame: the kept registers and the program counter. -/
def frameSize : Nat := 8 * (sw.kept.length + 1)

/-- Where a processor stands. -/
def current (m : Machine Reg) : Continuation := ⟨sw.kept.map m.regs, m.regs sw.pc, m.regs sw.sp⟩

/-- The frame a caller of the code would leave. -/
def frame (m : Machine Reg) : BitVec 64 := (sw.caller m).sp - BitVec.ofNat 64 sw.frameSize

/-- What the frame at `a` holds. -/
def saved (mem : AddressSpace) (a : BitVec 64) : Continuation where
  kept := mem.pops a sw.kept.length
  pc   := mem.load (a + BitVec.ofNat 64 (8 * sw.kept.length))
  sp   := a + BitVec.ofNat 64 sw.frameSize

/-- The frame that is left, the two cells and the frame that is taken do
    not overlap. -/
structure Room (m : Machine Reg) : Prop where
  src_dest   : Apart (m.regs sw.src) 8 (m.regs sw.dest) 8
  src_taken  : Apart (m.regs sw.src) 8 (m.mem.load (m.regs sw.dest)) sw.frameSize
  left_src   : Apart (sw.frame m) sw.frameSize (m.regs sw.src) 8
  left_dest  : Apart (sw.frame m) sw.frameSize (m.regs sw.dest) 8
  left_taken : Apart (sw.frame m) sw.frameSize (m.mem.load (m.regs sw.dest)) sw.frameSize

/-- What the code of a switch is to do: it goes on where the other party
    left, leaves where its caller would go on, and writes to the frame and
    the cell of its caller only. -/
structure Lawful : Prop where
  fits   : sw.frameSize ≤ 2 ^ 64
  found  : ∀ m, sw.Room m → sw.current (sw.code m) = sw.saved m.mem (m.mem.load (m.regs sw.dest))
  cell   : ∀ m, sw.Room m → (sw.code m).mem.load (m.regs sw.src) = sw.frame m
  left   : ∀ m, sw.Room m → sw.saved (sw.code m).mem (sw.frame m) = sw.caller m
  writes : ∀ m, sw.Room m → ∀ a n, Apart (sw.frame m) sw.frameSize a n →
    Apart (m.regs sw.src) 8 a n → AddressSpace.Same m.mem (sw.code m).mem a n

theorem saved_same {mem mem' : AddressSpace} {a : BitVec 64} (hfits : sw.frameSize ≤ 2 ^ 64)
    (h : AddressSpace.Same mem mem' a sw.frameSize) : sw.saved mem' a = sw.saved mem a := by
  unfold frameSize at *
  have hkept : Inside a (8 * sw.kept.length) a (8 * (sw.kept.length + 1)) := by
    unfold Inside
    bv_omega
  have hpc : Inside (a + BitVec.ofNat 64 (8 * sw.kept.length)) 8 a
      (8 * (sw.kept.length + 1)) := by
    unfold Inside
    bv_omega
  rw [saved, saved, AddressSpace.pops_same (h.inside hkept) (by omega),
    AddressSpace.load_same (h.inside hpc)]

end Switch

/-! ## Section 2: Parties -/

/-- The stack of each party and the cell for its stack pointer. -/
structure Stacks (Party : Type) where
  stack        : Party → BitVec 64
  size         : Party → Nat
  cell         : Party → BitVec 64
  stacks_apart : ∀ p q, p ≠ q → Apart (stack p) (size p) (stack q) (size q)
  cells_apart  : ∀ p q, p ≠ q → Apart (cell p) 8 (cell q) 8
  stack_cell   : ∀ p q, Apart (stack p) (size p) (cell q) 8

section parties
variable {Reg Party : Type} (sw : Switch Reg) (st : Stacks Party)

/-- A party that left and will go on at `k`: its frame is on its stack. -/
structure Left (mem : AddressSpace) (p : Party) (k : Continuation) : Prop where
  onStack : Inside (mem.load (st.cell p)) sw.frameSize (st.stack p) (st.size p)
  saved   : sw.saved mem (mem.load (st.cell p)) = k

/-- What a party that left needs others to leave alone. -/
def Spared (mem mem' : AddressSpace) (p : Party) : Prop :=
  AddressSpace.Same mem mem' (st.cell p) 8 ∧
  AddressSpace.Same mem mem' (mem.load (st.cell p)) sw.frameSize

/-- Party `p` calls the code to hand over to `q`, with room on its stack. -/
structure Calls (m : Machine Reg) (p q : Party) : Prop where
  src  : m.regs sw.src = st.cell p
  dest : m.regs sw.dest = st.cell q
  room : Inside (sw.frame m) sw.frameSize (st.stack p) (st.size p)

variable {sw st} {mem mem' : AddressSpace} {m : Machine Reg} {p q r : Party} {k k' : Continuation}

/-- **Frame rule**: a party that left is where it was while its frame and
    its cell are left alone. -/
theorem Left.stays (hsw : sw.Lawful) (h : Left sw st mem p k) (hspared : Spared sw st mem mem' p) :
    Left sw st mem' p k := by
  obtain ⟨hcell, hframe⟩ := hspared
  have hload : mem'.load (st.cell p) = mem.load (st.cell p) := AddressSpace.load_same hcell
  exact
    { onStack := by rw [hload]; exact h.onStack
      saved   := by rw [hload, sw.saved_same hsw.fits hframe]; exact h.saved }

/-- A party goes on at one place. -/
theorem Left.unique (h : Left sw st mem p k) (h' : Left sw st mem p k') : k = k' :=
  h.saved.symm.trans h'.saved

/-- The code has the room it needs. -/
theorem Calls.hasRoom (hpq : p ≠ q) (hcalls : Calls sw st m p q) (hleft : Left sw st m.mem q k) :
    sw.Room m where
  src_dest   := by rw [hcalls.src, hcalls.dest]; exact st.cells_apart p q hpq
  src_taken  := by
    rw [hcalls.src, hcalls.dest]
    exact ((st.stack_cell q p).inside hleft.onStack).symm
  left_src   := by rw [hcalls.src]; exact (st.stack_cell p p).inside hcalls.room
  left_dest  := by rw [hcalls.dest]; exact (st.stack_cell p q).inside hcalls.room
  left_taken := by
    rw [hcalls.dest]
    exact ((st.stacks_apart p q hpq).inside hcalls.room).inside_right hleft.onStack

/-- **Taking over**: the processor goes on where the other party left. -/
theorem Calls.found (hsw : sw.Lawful) (hpq : p ≠ q) (hcalls : Calls sw st m p q)
    (hleft : Left sw st m.mem q k) : sw.current (sw.code m) = k := by
  rw [hsw.found m (hcalls.hasRoom hpq hleft), hcalls.dest]
  exact hleft.saved

/-- **Leaving**: the party that called will go on where the call returns to. -/
theorem Calls.left (hsw : sw.Lawful) (hpq : p ≠ q) (hcalls : Calls sw st m p q)
    (hleft : Left sw st m.mem q k) : Left sw st (sw.code m).mem p (sw.caller m) := by
  have hroom := hcalls.hasRoom hpq hleft
  have hcell : (sw.code m).mem.load (st.cell p) = sw.frame m := by
    rw [← hcalls.src]
    exact hsw.cell m hroom
  exact
    { onStack := by rw [hcell]; exact hcalls.room
      saved   := by rw [hcell]; exact hsw.left m hroom }

/-- **Others**: a switch is nothing to the parties that take no part in it. -/
theorem Calls.others (hsw : sw.Lawful) (hpq : p ≠ q) (hcalls : Calls sw st m p q)
    (hleft : Left sw st m.mem q k) (hr : r ≠ p) (hother : Left sw st m.mem r k') :
    Left sw st (sw.code m).mem r k' := by
  have hroom := hcalls.hasRoom hpq hleft
  refine hother.stays hsw ⟨hsw.writes m hroom _ _ ?_ ?_, hsw.writes m hroom _ _ ?_ ?_⟩
  · exact (st.stack_cell p r).inside hcalls.room
  · rw [hcalls.src]
    exact st.cells_apart p r hr.symm
  · exact ((st.stacks_apart p r hr.symm).inside hcalls.room).inside_right hother.onStack
  · rw [hcalls.src]
    exact ((st.stack_cell r p).inside hother.onStack).symm

end parties

end CyberRT.Framework
