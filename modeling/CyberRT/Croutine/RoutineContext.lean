import CyberRT.Croutine.SwapAarch64
import CyberRT.Croutine.SwapX86

/-! # Routine contexts

    The stack of a coroutine as `MakeContext` prepares it: a frame such as
    `ctx_swap` leaves, with `CRoutineEntry` for a return address and the
    routine's address in the register of the first argument. -/

namespace CyberRT.Croutine

open CyberRT.Framework

/-! ## Section 1: Model -/

/-- `STACK_SIZE` -/
def stackSize : Nat := 2 * 1024 * 1024

/-- What `MakeContext` depends on: `REGISTERS_SIZE` and the distance of the
    return address from the end of the stack. The rest says that its frame
    is one of `ctx_swap`. -/
structure Arch (Reg : Type) where
  switch        : Switch Reg
  registersSize : Nat
  returnSlot    : Nat
  lawful        : switch.Lawful
  fits          : 2 * 8 + registersSize ≤ stackSize
  return_last   : 8 * switch.kept.length + returnSlot = 2 * 8 + registersSize
  arg_last      : 8 * switch.kept.length ≤ registersSize + 8
  nonempty      : 0 < switch.kept.length

def x86_64 : Arch X86_64.Reg where
  switch        := X86_64.switch
  registersSize := 56
  returnSlot    := 2 * 8
  lawful        := X86_64.switch_lawful
  fits          := by decide
  return_last   := by decide
  arg_last      := by decide
  nonempty      := by decide

def aarch64 : Arch AArch64.Reg where
  switch        := AArch64.switch
  registersSize := 160
  returnSlot    := 8
  lawful        := AArch64.switch_lawful
  fits          := by decide
  return_last   := by decide
  arg_last      := by decide
  nonempty      := by decide

section makeContext
variable {Reg : Type} (arch : Arch Reg)

/-- `ctx->sp` of a fresh context whose stack starts at `stack`. -/
def freshSp (stack : BitVec 64) : BitVec 64 :=
  stack + BitVec.ofNat 64 (stackSize - 2 * 8 - arch.registersSize)

/-- `MakeContext`; the member `sp` follows the stack. -/
def makeContext (mem : AddressSpace) (f1 arg stack : BitVec 64) : AddressSpace :=
  let mem := mem.store (stack + BitVec.ofNat 64 stackSize) (freshSp arch stack)
  let mem := mem.write (freshSp arch stack) (List.replicate arch.registersSize 0)
  let sp := stack + BitVec.ofNat 64 (stackSize - arch.returnSlot)
  let mem := mem.store sp f1
  mem.store (sp - 8) arg

/-- Where a fresh context goes on: `f1` is called with `arg`. -/
def freshContinuation (f1 arg stack : BitVec 64) : Continuation where
  kept := List.replicate (arch.switch.kept.length - 1) 0 ++ [arg]
  pc   := f1
  sp   := stack + BitVec.ofNat 64 (stackSize + 8 - arch.returnSlot)

end makeContext

/-! ## Section 2: A fresh context -/

section fresh
variable {Reg : Type} {arch : Arch Reg} {mem : AddressSpace} {f1 arg stack : BitVec 64}

/-- The slot of the return address. -/
def returnSlot (arch : Arch Reg) (stack : BitVec 64) : BitVec 64 :=
  stack + BitVec.ofNat 64 (stackSize - arch.returnSlot)

theorem makeContext_eq : makeContext arch mem f1 arg stack =
    (((mem.store (stack + BitVec.ofNat 64 stackSize) (freshSp arch stack)).write
      (freshSp arch stack) (List.replicate arch.registersSize 0)).store
        (returnSlot arch stack) f1).store (returnSlot arch stack - 8) arg := rfl

theorem Arch.kept_le (arch : Arch Reg) : 8 * arch.switch.kept.length + 16 ≤ stackSize + 8 := by
  have := arch.fits
  have := arch.arg_last
  omega

/-- The slot of the return address is the last one of the frame. -/
theorem returnSlot_eq : returnSlot arch stack =
    freshSp arch stack + BitVec.ofNat 64 (8 * arch.switch.kept.length) := by
  have hfits := arch.fits
  have hlast := arch.return_last
  unfold returnSlot freshSp stackSize at *
  bv_omega

/-- The slot of the argument comes right before. -/
theorem argSlot_eq : returnSlot arch stack - 8 =
    freshSp arch stack + BitVec.ofNat 64 (8 * (arch.switch.kept.length - 1)) := by
  have hpos := arch.nonempty
  have hle := arch.kept_le
  rw [returnSlot_eq]
  unfold stackSize at hle
  bv_omega

/-- The frame ends before the stack does. -/
theorem fresh_onStack : Inside (freshSp arch stack) arch.switch.frameSize stack stackSize := by
  have hfits := arch.fits
  have hlast := arch.arg_last
  unfold Inside freshSp Switch.frameSize stackSize at *
  bv_omega

/-- The two last stores do not reach the words below them. -/
theorem same_stores {m : AddressSpace} {n : Nat}
    (hn : n ≤ 8 * (arch.switch.kept.length - 1)) :
    AddressSpace.Same m ((m.store (returnSlot arch stack) f1).store (returnSlot arch stack - 8) arg)
      (freshSp arch stack) n := by
  have hle := arch.kept_le
  have hpos := arch.nonempty
  unfold stackSize at hle
  refine (AddressSpace.same_store ?_).trans (AddressSpace.same_store ?_)
  · rw [returnSlot_eq]
    intro x hx hx'
    unfold Within at hx hx'
    bv_omega
  · rw [argSlot_eq]
    intro x hx hx'
    unfold Within at hx hx'
    bv_omega

/-- The registers other than the argument's start at 0. -/
theorem pops_fresh : (makeContext arch mem f1 arg stack).pops (freshSp arch stack)
    (arch.switch.kept.length - 1) = List.replicate (arch.switch.kept.length - 1) 0 := by
  have hle := arch.kept_le
  have hlast := arch.arg_last
  have hword : 8 * (arch.switch.kept.length - 1) ≤ 2 ^ 64 := by
    unfold stackSize at hle
    omega
  rw [makeContext_eq, AddressSpace.pops_same (same_stores (Nat.le_refl _)) hword]
  refine AddressSpace.pops_zero (fun x hx => AddressSpace.write_zero ?_) hword
  unfold Within at hx ⊢
  omega

theorem load_arg : (makeContext arch mem f1 arg stack).load (returnSlot arch stack - 8) = arg := by
  rw [makeContext_eq, AddressSpace.load_store]

theorem load_return : (makeContext arch mem f1 arg stack).load (returnSlot arch stack) = f1 := by
  have hapart : Apart (returnSlot arch stack - 8) 8 (returnSlot arch stack) 8 := by
    intro x hx hx'
    unfold Within at hx hx'
    bv_omega
  rw [makeContext_eq, AddressSpace.load_store_of_apart hapart, AddressSpace.load_store]

theorem returnSlot_inside : Inside (returnSlot arch stack) 8 stack stackSize := by
  have hfits := arch.fits
  have hlast := arch.return_last
  have harg := arch.arg_last
  unfold Inside returnSlot stackSize at *
  bv_omega

theorem argSlot_inside : Inside (returnSlot arch stack - 8) 8 stack stackSize := by
  have hfits := arch.fits
  have hlast := arch.return_last
  have harg := arch.arg_last
  have hpos := arch.nonempty
  unfold Inside returnSlot stackSize at *
  bv_omega

theorem zeroed_inside :
    Inside (freshSp arch stack) (List.replicate arch.registersSize (0 : UInt8)).length
      stack stackSize := by
  have hfits := arch.fits
  rw [List.length_replicate]
  unfold Inside freshSp stackSize at *
  bv_omega

/-- All that is written after the member `sp` is inside the stack. -/
theorem same_frame {m : AddressSpace} {a : BitVec 64} {n : Nat}
    (hstack : Apart stack stackSize a n) :
    AddressSpace.Same m (((m.write (freshSp arch stack) (List.replicate arch.registersSize 0)).store
      (returnSlot arch stack) f1).store (returnSlot arch stack - 8) arg) a n :=
  ((AddressSpace.same_write (hstack.inside zeroed_inside)).trans
    (AddressSpace.same_store (hstack.inside returnSlot_inside))).trans
    (AddressSpace.same_store (hstack.inside argSlot_inside))

/-- `MakeContext` writes inside the stack and to the member `sp`. -/
theorem same_makeContext {a : BitVec 64} {n : Nat} (hstack : Apart stack stackSize a n)
    (hsp : Apart (stack + BitVec.ofNat 64 stackSize) 8 a n) :
    AddressSpace.Same mem (makeContext arch mem f1 arg stack) a n := by
  rw [makeContext_eq]
  exact (AddressSpace.same_store hsp).trans (same_frame hstack)

/-- The member `sp` points to the frame. -/
theorem load_sp : (makeContext arch mem f1 arg stack).load (stack + BitVec.ofNat 64 stackSize) =
    freshSp arch stack := by
  have hapart : Apart stack stackSize (stack + BitVec.ofNat 64 stackSize) 8 := by
    intro x hx hx'
    unfold Within stackSize at *
    bv_omega
  rw [makeContext_eq, AddressSpace.load_same (same_frame hapart), AddressSpace.load_store]

/-- The frame of a fresh context. -/
theorem saved_makeContext : arch.switch.saved (makeContext arch mem f1 arg stack)
    (freshSp arch stack) = freshContinuation arch f1 arg stack := by
  have hpos := arch.nonempty
  have hkept : arch.switch.kept.length = arch.switch.kept.length - 1 + 1 := by omega
  have hwords : (makeContext arch mem f1 arg stack).pops (freshSp arch stack)
      arch.switch.kept.length = List.replicate (arch.switch.kept.length - 1) 0 ++ [arg] := by
    rw [hkept, AddressSpace.pops_add, pops_fresh, ← argSlot_eq, Nat.add_sub_cancel]
    simp only [AddressSpace.pops, load_arg]
  have hsp : freshSp arch stack + BitVec.ofNat 64 arch.switch.frameSize =
      stack + BitVec.ofNat 64 (stackSize + 8 - arch.returnSlot) := by
    have hfits := arch.fits
    have hlast := arch.return_last
    have harg := arch.arg_last
    unfold freshSp Switch.frameSize stackSize at *
    bv_omega
  rw [Switch.saved, hwords, ← returnSlot_eq, load_return, hsp, freshContinuation]

/-- **Fresh context**: the routine goes on at `f1`, on its own stack. -/
theorem left_makeContext {Party : Type} {st : Stacks Party} {p : Party}
    (hstack : st.stack p = stack) (hsize : st.size p = stackSize)
    (hcell : st.cell p = stack + BitVec.ofNat 64 stackSize) :
    Left arch.switch st (makeContext arch mem f1 arg stack) p
      (freshContinuation arch f1 arg stack) where
  onStack := by
    rw [hcell, load_sp, hstack, hsize]
    exact fresh_onStack
  saved   := by
    rw [hcell, load_sp]
    exact saved_makeContext

end fresh

end CyberRT.Croutine
