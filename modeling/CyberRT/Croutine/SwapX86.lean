import CyberRT.Framework.StackSwitch

/-! # The context switch on x86-64

    `ctx_swap` pushes the registers a call has to preserve, and `rdi`, leaves
    the stack pointer where its first argument points, takes the one its
    second argument points to and pops the same registers.

    Section 1 is the file `swap_x86_64.S`, instruction by instruction. The
    program counter matters for `ret` only: the code is straight. -/

namespace CyberRT.Croutine.X86_64

open CyberRT.Framework

/-! ## Section 1: Model -/

/-- The registers the code names and the program counter. -/
inductive Reg where
  | rdi
  | rsi
  | rsp
  | rbp
  | rbx
  | r12
  | r13
  | r14
  | r15
  | rip
  deriving DecidableEq

inductive Instr where
  | pushq (r : Reg)
  | popq (r : Reg)
  /-- `movq %r, (%base)` -/
  | movqTo (r base : Reg)
  /-- `movq (%base), %r` -/
  | movqFrom (base r : Reg)
  | ret

/-- Register `r` is set. -/
def set (m : Machine Reg) (r : Reg) (w : BitVec 64) : Machine Reg :=
  { m with regs := Function.update m.regs r w }

def exec (m : Machine Reg) : Instr → Machine Reg
  | .pushq r =>
    { regs := Function.update m.regs .rsp (m.regs .rsp - 8)
      mem  := m.mem.store (m.regs .rsp - 8) (m.regs r) }
  | .popq r          => set (set m .rsp (m.regs .rsp + 8)) r (m.mem.load (m.regs .rsp))
  | .movqTo r base   => { m with mem := m.mem.store (m.regs base) (m.regs r) }
  | .movqFrom base r => set m r (m.mem.load (m.regs base))
  | .ret             => set (set m .rsp (m.regs .rsp + 8)) .rip (m.mem.load (m.regs .rsp))

def run (code : List Instr) (m : Machine Reg) : Machine Reg := code.foldl exec m

def ctxSwap : List Instr :=
  [ .pushq .rdi,
    .pushq .r12,
    .pushq .r13,
    .pushq .r14,
    .pushq .r15,
    .pushq .rbx,
    .pushq .rbp,
    .movqTo .rsp .rdi,

    .movqFrom .rsi .rsp,
    .popq .rbp,
    .popq .rbx,
    .popq .r15,
    .popq .r14,
    .popq .r13,
    .popq .r12,
    .popq .rdi,
    .ret ]

/-- The registers of a frame, lowest address first. -/
def kept : List Reg := [.rbp, .rbx, .r15, .r14, .r13, .r12, .rdi]

/-- `ctx_swap` as a switch: the call has pushed the return address. -/
def switch : Switch Reg where
  kept   := kept
  pc     := .rip
  sp     := .rsp
  src    := .rdi
  dest   := .rsi
  caller := fun m => ⟨kept.map m.regs, m.mem.load (m.regs .rsp), m.regs .rsp + 8⟩
  code   := run ctxSwap

/-! ## Section 2: Pushes and pops -/

section execution
variable {m : Machine Reg} {r : Reg} {rs : List Reg}

theorem run_append (code code' : List Instr) (m : Machine Reg) :
    run (code ++ code') m = run code' (run code m) := List.foldl_append

@[simp] theorem set_regs_self (m : Machine Reg) (r : Reg) (w : BitVec 64) :
    (set m r w).regs r = w := Function.update_self ..

theorem set_regs_of_ne {r' : Reg} (h : r' ≠ r) (w : BitVec 64) : (set m r w).regs r' = m.regs r' :=
  Function.update_of_ne h ..

@[simp] theorem set_mem (m : Machine Reg) (r : Reg) (w : BitVec 64) : (set m r w).mem = m.mem := rfl

/-- The pushes are pushes of the words the registers held at first. -/
theorem run_pushes (h : .rsp ∉ rs) :
    run (rs.map .pushq) m =
      { regs := Function.update m.regs .rsp (m.regs .rsp - BitVec.ofNat 64 (8 * rs.length))
        mem  := m.mem.pushes (m.regs .rsp) (rs.map m.regs) } := by
  induction rs generalizing m with
  | nil =>
    have hsp : m.regs .rsp - BitVec.ofNat 64 (8 * 0) = m.regs .rsp := by bv_omega
    simp only [List.map_nil, List.length_nil, hsp, Function.update_eq_self]
    rfl
  | cons r rs ih =>
    obtain ⟨hr, hrs⟩ := not_or.mp (List.mem_cons.not.mp h)
    have hsp : m.regs .rsp - 8 - BitVec.ofNat 64 (8 * rs.length) =
        m.regs .rsp - BitVec.ofNat 64 (8 * (rs.length + 1)) := by bv_omega
    have hregs : rs.map (exec m (.pushq r)).regs = rs.map m.regs :=
      List.map_congr_left fun r' hr' =>
        Function.update_of_ne (fun he : r' = .rsp => hrs (he ▸ hr')) ..
    have hfirst : (exec m (.pushq r)).regs .rsp = m.regs .rsp - 8 := by
      simp only [exec, Function.update_self]
    calc run ((r :: rs).map .pushq) m
        = run (rs.map .pushq) (exec m (.pushq r)) := rfl
      _ = _ := by
        rw [ih hrs, hregs, hfirst, hsp]
        simp only [exec, Function.update_idem, List.map_cons, List.length_cons,
          AddressSpace.pushes]

/-- What a list of pops leaves in its registers and in the others. -/
structure Popped (m m' : Machine Reg) (rs : List Reg) : Prop where
  popped : rs.map m'.regs = m.mem.pops (m.regs .rsp) rs.length
  rsp    : m'.regs .rsp = m.regs .rsp + BitVec.ofNat 64 (8 * rs.length)
  mem    : m'.mem = m.mem
  others : ∀ r, r ≠ .rsp → r ∉ rs → m'.regs r = m.regs r

theorem run_pops (hrs : rs.Nodup) (h : .rsp ∉ rs) : Popped m (run (rs.map .popq) m) rs := by
  induction rs generalizing m with
  | nil =>
    have hsp : m.regs .rsp = m.regs .rsp + BitVec.ofNat 64 (8 * 0) := by bv_omega
    exact ⟨rfl, hsp, rfl, fun _ _ _ => rfl⟩
  | cons r rs ih =>
    obtain ⟨hr, hnot⟩ := not_or.mp (List.mem_cons.not.mp h)
    obtain ⟨hmem, hnodup⟩ := List.nodup_cons.mp hrs
    have hrest := ih (m := exec m (.popq r)) hnodup hnot
    have hfirst : (exec m (.popq r)).regs .rsp = m.regs .rsp + 8 :=
      (set_regs_of_ne hr _).trans (set_regs_self ..)
    have hr' : (run (rs.map .popq) (exec m (.popq r))).regs r = m.mem.load (m.regs .rsp) :=
      (hrest.others r (Ne.symm hr) hmem).trans (set_regs_self ..)
    have hsp : m.regs .rsp + 8 + BitVec.ofNat 64 (8 * rs.length) =
        m.regs .rsp + BitVec.ofNat 64 (8 * (rs.length + 1)) := by bv_omega
    show Popped m (run (rs.map .popq) (exec m (.popq r))) (r :: rs)
    exact
      { popped := by
          rw [List.map_cons, hr', hrest.popped, hfirst]
          rfl
        rsp    := by rw [hrest.rsp, hfirst, hsp, List.length_cons]
        mem    := hrest.mem
        others := by
          intro r'' hne hnotin
          obtain ⟨hne', hnotin'⟩ := not_or.mp (List.mem_cons.not.mp hnotin)
          rw [hrest.others r'' hne hnotin']
          exact (set_regs_of_ne hne' _).trans (set_regs_of_ne hne _) }

end execution

/-! ## Section 3: The switch -/

section swap
variable (m : Machine Reg)

@[simp] theorem kept_bytes : BitVec.ofNat 64 (8 * kept.length) = 56 := rfl

@[simp] theorem frame_bytes : BitVec.ofNat 64 switch.frameSize = 64 := rfl

/-- The memory the code leaves. -/
def written : AddressSpace :=
  (m.mem.pushes (m.regs .rsp) (kept.reverse.map m.regs)).store (m.regs .rdi) (m.regs .rsp - 56)

/-- The machine before the pops. -/
def taken : Machine Reg where
  regs := Function.update m.regs .rsp ((written m).load (m.regs .rsi))
  mem  := written m

/-- The machine once the registers are pushed. -/
def pushed : Machine Reg where
  regs := Function.update m.regs .rsp (m.regs .rsp - 56)
  mem  := m.mem.pushes (m.regs .rsp) (kept.reverse.map m.regs)

theorem run_pushed : run (kept.reverse.map .pushq) m = pushed m := run_pushes (by decide)

theorem run_taken : run [.movqTo .rsp .rdi, .movqFrom .rsi .rsp] (pushed m) = taken m := by
  simp only [run, List.foldl_cons, List.foldl_nil, exec, set, pushed, taken, written,
    Function.update_self, Function.update_idem, ne_eq, reduceCtorEq, not_false_eq_true,
    Function.update_of_ne]

theorem run_ctxSwap : run ctxSwap m = exec (run (kept.map .popq) (taken m)) .ret := by
  have hcode : ctxSwap = kept.reverse.map .pushq ++
      ([.movqTo .rsp .rdi, .movqFrom .rsi .rsp] ++ (kept.map .popq ++ [.ret])) := rfl
  rw [hcode, run_append, run_append, run_append, run_pushed, run_taken]
  rfl

theorem popped_taken : Popped (taken m) (run (kept.map .popq) (taken m)) kept :=
  run_pops (by decide) (by decide)

theorem mem_ctxSwap : (run ctxSwap m).mem = written m := by
  have hmem := (popped_taken m).mem
  rw [run_ctxSwap, exec, set_mem, set_mem, hmem, taken]

/-- The code ends with the frame that the second argument's cell points to
    by then in its registers. -/
theorem current_ctxSwap : switch.current (run ctxSwap m) =
    switch.saved (written m) ((written m).load (m.regs .rsi)) := by
  have hpopped := popped_taken m
  have hsp : (taken m).regs .rsp = (written m).load (m.regs .rsi) := by
    simp only [taken, Function.update_self]
  have hkept : kept.map (run ctxSwap m).regs = kept.map (run (kept.map .popq) (taken m)).regs := by
    rw [run_ctxSwap]
    refine List.map_congr_left fun r hr => ?_
    have hrip : r ≠ .rip := by
      rintro rfl
      exact absurd hr (by decide)
    have hrsp : r ≠ .rsp := by
      rintro rfl
      exact absurd hr (by decide)
    rw [exec, set_regs_of_ne hrip, set_regs_of_ne hrsp]
  have hend : (run (kept.map .popq) (taken m)).regs .rsp =
      (written m).load (m.regs .rsi) + 56 := by
    rw [hpopped.rsp, hsp, kept_bytes]
  have hpc : (run ctxSwap m).regs .rip =
      (written m).load ((written m).load (m.regs .rsi) + 56) := by
    rw [run_ctxSwap, exec, set_regs_self, hpopped.mem, hend, taken]
  have hrsp : (run ctxSwap m).regs .rsp = (written m).load (m.regs .rsi) + 64 := by
    have hne : Reg.rsp ≠ .rip := by decide
    rw [run_ctxSwap, exec, set_regs_of_ne hne, set_regs_self, hend]
    bv_omega
  have hframe : kept.map (run ctxSwap m).regs =
      (written m).pops ((written m).load (m.regs .rsi)) kept.length := by
    rw [hkept, hpopped.popped, hsp, taken]
  rw [Switch.current, Switch.saved, frame_bytes]
  simp only [switch, hframe, hpc, hrsp, kept_bytes]

/-- The frame lies right below the return address. -/
theorem frame_eq : switch.frame m = m.regs .rsp - 56 := by
  have hsp : (switch.caller m).sp = m.regs .rsp + 8 := rfl
  rw [Switch.frame, frame_bytes, hsp]
  bv_omega

/-- What the pushes write is inside the frame. -/
theorem pushed_inside : Inside (m.regs .rsp - 56) 56 (switch.frame m) switch.frameSize := by
  have hsize : switch.frameSize = 64 := rfl
  rw [frame_eq, hsize]
  unfold Inside
  bv_omega

theorem pushed_bytes : 8 * (kept.reverse.map m.regs).length = 56 := rfl

/-- The code writes to its frame and to the first argument's cell. -/
theorem same_written {a : BitVec 64} {n : Nat}
    (hframe : Apart (switch.frame m) switch.frameSize a n)
    (hcell : Apart (m.regs .rdi) 8 a n) : AddressSpace.Same m.mem (written m) a n := by
  have hpushed : AddressSpace.Same m.mem
      (m.mem.pushes (m.regs .rsp) (kept.reverse.map m.regs)) a n := by
    refine AddressSpace.same_pushes ?_ (by rw [pushed_bytes]; decide)
    rw [pushed_bytes]
    exact hframe.inside (pushed_inside m)
  exact hpushed.trans (AddressSpace.same_store hcell)

theorem load_dest (hroom : switch.Room m) :
    (written m).load (m.regs .rsi) = m.mem.load (m.regs .rsi) :=
  AddressSpace.load_same (same_written m hroom.left_dest hroom.src_dest)

/-- The frame that is left holds what the registers held. -/
theorem saved_written (hroom : switch.Room m) :
    switch.saved (written m) (switch.frame m) = switch.caller m := by
  have hpushed : AddressSpace.Same (m.mem.pushes (m.regs .rsp) (kept.reverse.map m.regs))
      (written m) (switch.frame m) switch.frameSize :=
    AddressSpace.same_store hroom.left_src.symm
  have hkept : (m.mem.pushes (m.regs .rsp) (kept.reverse.map m.regs)).pops (m.regs .rsp - 56)
      kept.length = kept.map m.regs := by
    have h := AddressSpace.pops_pushes m.mem (m.regs .rsp) (kept.reverse.map m.regs)
      (by rw [pushed_bytes]; decide)
    rw [pushed_bytes, ← List.map_reverse, List.reverse_reverse, List.length_map,
      List.length_reverse] at h
    exact h
  have hreturn : (m.mem.pushes (m.regs .rsp) (kept.reverse.map m.regs)).load (m.regs .rsp) =
      m.mem.load (m.regs .rsp) := by
    refine AddressSpace.load_same (AddressSpace.same_pushes ?_ (by rw [pushed_bytes]; decide))
    rw [pushed_bytes]
    intro x hx hx'
    unfold Within at hx hx'
    bv_omega
  have hpc : m.regs .rsp - 56 + 56 = m.regs .rsp := by bv_omega
  have hsp : m.regs .rsp - 56 + 64 = m.regs .rsp + 8 := by bv_omega
  rw [switch.saved_same (by decide) hpushed, frame_eq, Switch.saved, frame_bytes]
  simp only [switch, kept_bytes, hkept, hpc, hreturn, hsp]

end swap

/-- `ctx_swap` does what a switch is to do. -/
theorem switch_lawful : switch.Lawful where
  fits := by decide
  found := by
    intro m hroom
    have htaken : AddressSpace.Same m.mem (written m) (m.mem.load (m.regs .rsi)) switch.frameSize :=
      same_written m hroom.left_taken hroom.src_taken
    calc switch.current (run ctxSwap m)
        = switch.saved (written m) ((written m).load (m.regs .rsi)) := current_ctxSwap m
      _ = switch.saved (written m) (m.mem.load (m.regs .rsi)) := by rw [load_dest m hroom]
      _ = switch.saved m.mem (m.mem.load (m.regs .rsi)) := switch.saved_same (by decide) htaken
  cell := by
    intro m _
    show (run ctxSwap m).mem.load (m.regs .rdi) = switch.frame m
    rw [mem_ctxSwap, written, AddressSpace.load_store, frame_eq]
  left := by
    intro m hroom
    show switch.saved (run ctxSwap m).mem (switch.frame m) = switch.caller m
    rw [mem_ctxSwap]
    exact saved_written m hroom
  writes := by
    intro m _ a n hframe hcell
    show AddressSpace.Same m.mem (run ctxSwap m).mem a n
    rw [mem_ctxSwap]
    exact same_written m hframe hcell

end CyberRT.Croutine.X86_64
