import CyberRT.Framework.StackSwitch

/-! # The context switch on AArch64

    `ctx_swap` stores the registers a call has to preserve in pairs, with
    `x0` and the return address in the first pair and `x1` in one of the
    others, and loads them in the opposite order.

    Section 1 is the file `swap_aarch64.S`, instruction by instruction. The
    loads move the stack pointer before they read, so the first one leaves
    it where it is and an addition comes after the last one. -/

namespace CyberRT.Croutine.AArch64

open CyberRT.Framework

/-! ## Section 1: Model -/

/-- The registers the code names and the program counter. -/
inductive Reg where
  | x0
  | x1
  | x3
  | x19
  | x20
  | x21
  | x22
  | x23
  | x24
  | x25
  | x26
  | x27
  | x28
  | x29
  | x30
  | d8
  | d9
  | d10
  | d11
  | d12
  | d13
  | d14
  | d15
  | sp
  | pc
  deriving DecidableEq

inductive Instr where
  /-- `stp r₁, r₂, [sp,#-16]!` -/
  | stp (r₁ r₂ : Reg)
  /-- `ldp r₁, r₂, [sp]` -/
  | ldp (r₁ r₂ : Reg)
  /-- `ldp r₁, r₂, [sp,#16]!` -/
  | ldpNext (r₁ r₂ : Reg)
  | mov (r r' : Reg)
  /-- `str r, [base]` -/
  | str (r base : Reg)
  /-- `ldr r, [base]` -/
  | ldr (r base : Reg)
  /-- `add r, r', #imm` -/
  | add (r r' : Reg) (imm : BitVec 64)
  | ret

/-- Register `r` is set. -/
def set (m : Machine Reg) (r : Reg) (w : BitVec 64) : Machine Reg :=
  { m with regs := Function.update m.regs r w }

/-- The two words at `sp` are loaded. -/
def loadPair (m : Machine Reg) (r₁ r₂ : Reg) (sp : BitVec 64) : Machine Reg :=
  set (set m r₁ (m.mem.load sp)) r₂ (m.mem.load (sp + 8))

def exec (m : Machine Reg) : Instr → Machine Reg
  | .stp r₁ r₂ =>
    -- the two words do not overlap, so their order does not matter
    { regs := Function.update m.regs .sp (m.regs .sp - 16)
      mem  := (m.mem.store (m.regs .sp - 8) (m.regs r₂)).store (m.regs .sp - 16) (m.regs r₁) }
  | .ldp r₁ r₂     => loadPair m r₁ r₂ (m.regs .sp)
  | .ldpNext r₁ r₂ => loadPair (set m .sp (m.regs .sp + 16)) r₁ r₂ (m.regs .sp + 16)
  | .mov r r'      => set m r (m.regs r')
  | .str r base    => { m with mem := m.mem.store (m.regs base) (m.regs r) }
  | .ldr r base    => set m r (m.mem.load (m.regs base))
  | .add r r' imm  => set m r (m.regs r' + imm)
  | .ret           => set m .pc (m.regs .x30)

def run (code : List Instr) (m : Machine Reg) : Machine Reg := code.foldl exec m

def ctxSwap : List Instr :=
  [ .stp .x0 .x30,
    .stp .d8 .d9,
    .stp .d10 .d11,
    .stp .d12 .d13,
    .stp .d14 .d15,
    .stp .x1 .x19,
    .stp .x20 .x21,
    .stp .x22 .x23,
    .stp .x24 .x25,
    .stp .x26 .x27,
    .stp .x28 .x29,

    .mov .x3 .sp,
    .str .x3 .x0,

    .ldr .x3 .x1,
    .mov .sp .x3,

    .ldp .x28 .x29,
    .ldpNext .x26 .x27,
    .ldpNext .x24 .x25,
    .ldpNext .x22 .x23,
    .ldpNext .x20 .x21,
    .ldpNext .x1 .x19,
    .ldpNext .d14 .d15,
    .ldpNext .d12 .d13,
    .ldpNext .d10 .d11,
    .ldpNext .d8 .d9,
    .ldpNext .x0 .x30,

    .add .sp .sp 16,

    .ret ]

/-- The registers of a frame without the return address, lowest address
    first. -/
def kept : List Reg :=
  [ .x28, .x29, .x26, .x27, .x24, .x25, .x22, .x23, .x20, .x21, .x1, .x19,
    .d14, .d15, .d12, .d13, .d10, .d11, .d8, .d9, .x0 ]

/-- `ctx_swap` as a switch: the call has left the return address in `x30`. -/
def switch : Switch Reg where
  kept   := kept
  pc     := .pc
  sp     := .sp
  src    := .x0
  dest   := .x1
  caller := fun m => ⟨kept.map m.regs, m.regs .x30, m.regs .sp⟩
  code   := run ctxSwap

/-! ## Section 2: Pairs -/

/-- The pairs of a frame, lowest address first. -/
def pairs : List (Reg × Reg) :=
  [ (.x28, .x29), (.x26, .x27), (.x24, .x25), (.x22, .x23), (.x20, .x21), (.x1, .x19),
    (.d14, .d15), (.d12, .d13), (.d10, .d11), (.d8, .d9), (.x0, .x30) ]

/-- The registers of some pairs, one by one. -/
def flat (ps : List (Reg × Reg)) : List Reg := ps.flatMap fun p => [p.1, p.2]

/-- The order in which the words of some pairs are pushed. -/
def stored (ps : List (Reg × Reg)) : List Reg := ps.flatMap fun p => [p.2, p.1]

section execution
variable {m : Machine Reg} {r : Reg} {ps : List (Reg × Reg)}

theorem run_append (code code' : List Instr) (m : Machine Reg) :
    run (code ++ code') m = run code' (run code m) := List.foldl_append

@[simp] theorem set_regs_self (m : Machine Reg) (r : Reg) (w : BitVec 64) :
    (set m r w).regs r = w := Function.update_self ..

theorem set_regs_of_ne {r' : Reg} (h : r' ≠ r) (w : BitVec 64) : (set m r w).regs r' = m.regs r' :=
  Function.update_of_ne h ..

@[simp] theorem set_mem (m : Machine Reg) (r : Reg) (w : BitVec 64) : (set m r w).mem = m.mem := rfl

/-- Storing pairs is pushing the words their registers held at first. -/
theorem run_stps (h : .sp ∉ stored ps) :
    run (ps.map fun p => .stp p.1 p.2) m =
      { regs := Function.update m.regs .sp (m.regs .sp - BitVec.ofNat 64 (16 * ps.length))
        mem  := m.mem.pushes (m.regs .sp) ((stored ps).map m.regs) } := by
  induction ps generalizing m with
  | nil =>
    have hsp : m.regs .sp - BitVec.ofNat 64 (16 * 0) = m.regs .sp := by bv_omega
    simp only [List.map_nil, List.length_nil, hsp, Function.update_eq_self]
    rfl
  | cons p ps ih =>
    obtain ⟨-, hrest⟩ := not_or.mp (List.mem_cons.not.mp h)
    obtain ⟨-, hps⟩ := not_or.mp (List.mem_cons.not.mp hrest)
    have hnext : m.regs .sp - 8 - 8 = m.regs .sp - 16 := by bv_omega
    have hsp : m.regs .sp - 16 - BitVec.ofNat 64 (16 * ps.length) =
        m.regs .sp - BitVec.ofNat 64 (16 * (ps.length + 1)) := by bv_omega
    have hfirst : (exec m (.stp p.1 p.2)).regs .sp = m.regs .sp - 16 := by
      simp only [exec, Function.update_self]
    have hregs : (stored ps).map (exec m (.stp p.1 p.2)).regs = (stored ps).map m.regs :=
      List.map_congr_left fun r hr => Function.update_of_ne (fun he : r = .sp => hps (he ▸ hr)) ..
    have hstored : stored (p :: ps) = p.2 :: p.1 :: stored ps := rfl
    calc run ((p :: ps).map fun p => .stp p.1 p.2) m
        = run (ps.map fun p => .stp p.1 p.2) (exec m (.stp p.1 p.2)) := rfl
      _ = _ := by
        rw [ih hps, hregs, hfirst, hsp, hstored]
        simp only [exec, Function.update_idem, List.length_cons, List.map_cons,
          AddressSpace.pushes, hnext]

/-- What loads leave in their registers and in the others, the words taken
    from the stack whose top is `sp`. -/
structure Loaded (m m' : Machine Reg) (sp : BitVec 64) (rs : List Reg) : Prop where
  loaded : rs.map m'.regs = m.mem.pops sp rs.length
  mem    : m'.mem = m.mem
  others : ∀ r, r ≠ .sp → r ∉ rs → m'.regs r = m.regs r

theorem loadPair_loaded {p : Reg × Reg} (sp : BitVec 64) (hp : p.1 ≠ p.2) :
    Loaded m (loadPair m p.1 p.2 sp) sp [p.1, p.2] where
  loaded := by
    have h₁ : (loadPair m p.1 p.2 sp).regs p.1 = m.mem.load sp :=
      (set_regs_of_ne hp _).trans (set_regs_self ..)
    have h₂ : (loadPair m p.1 p.2 sp).regs p.2 = m.mem.load (sp + 8) := set_regs_self ..
    rw [List.map_cons, List.map_cons, h₁, h₂]
    rfl
  mem    := rfl
  others := by
    intro r _ hr
    obtain ⟨h₁, hr'⟩ := not_or.mp (List.mem_cons.not.mp hr)
    obtain ⟨h₂, -⟩ := not_or.mp (List.mem_cons.not.mp hr')
    exact (set_regs_of_ne h₂ _).trans (set_regs_of_ne h₁ _)

/-- A register that is not loaded. -/
theorem loadPair_of_ne {r' r₁ r₂ : Reg} (h₁ : r' ≠ r₁) (h₂ : r' ≠ r₂) (sp : BitVec 64) :
    (loadPair m r₁ r₂ sp).regs r' = m.regs r' :=
  (set_regs_of_ne h₂ _).trans (set_regs_of_ne h₁ _)

/-- Loads one after another, further up the stack. -/
theorem Loaded.append {m' m'' : Machine Reg} {sp : BitVec 64} {rs rs' : List Reg}
    (h₁ : Loaded m m' sp rs) (h₂ : Loaded m' m'' (sp + BitVec.ofNat 64 (8 * rs.length)) rs')
    (hsp : .sp ∉ rs) (hrs : ∀ r ∈ rs, r ∉ rs') : Loaded m m'' sp (rs ++ rs') where
  loaded := by
    have hfirst : rs.map m''.regs = rs.map m'.regs :=
      List.map_congr_left fun r hr => h₂.others r (fun he : r = .sp => hsp (he ▸ hr)) (hrs r hr)
    rw [List.map_append, hfirst, h₁.loaded, h₂.loaded, h₁.mem, List.length_append,
      AddressSpace.pops_add]
  mem    := h₂.mem.trans h₁.mem
  others := by
    intro r hne hr
    obtain ⟨hr₁, hr₂⟩ := not_or.mp (List.mem_append.not.mp hr)
    rw [h₂.others r hne hr₂, h₁.others r hne hr₁]

/-- The loads that move the stack pointer first. -/
theorem run_loads (ps : List (Reg × Reg)) (hps : (flat ps).Nodup) (h : .sp ∉ flat ps) :
    Loaded m (run (ps.map fun p => .ldpNext p.1 p.2) m) (m.regs .sp + 16) (flat ps) ∧
    (run (ps.map fun p => .ldpNext p.1 p.2) m).regs .sp =
      m.regs .sp + BitVec.ofNat 64 (16 * ps.length) := by
  induction ps generalizing m with
  | nil =>
    have hsp : m.regs .sp = m.regs .sp + BitVec.ofNat 64 (16 * 0) := by bv_omega
    exact ⟨⟨rfl, rfl, fun _ _ _ => rfl⟩, hsp⟩
  | cons p ps ih =>
    have hflat : flat (p :: ps) = [p.1, p.2] ++ flat ps := rfl
    rw [hflat] at hps h ⊢
    obtain ⟨hpair, hnodup, hdisjoint⟩ := List.nodup_append.mp hps
    obtain ⟨hsp, hnot⟩ := not_or.mp (List.mem_append.not.mp h)
    obtain ⟨h₁, hsp₂⟩ := not_or.mp (List.mem_cons.not.mp hsp)
    obtain ⟨h₂, -⟩ := not_or.mp (List.mem_cons.not.mp hsp₂)
    have hne : p.1 ≠ p.2 := fun he => (List.nodup_cons.mp hpair).1 (he ▸ List.mem_cons_self)
    have hfirst : (exec m (.ldpNext p.1 p.2)).regs .sp = m.regs .sp + 16 :=
      (loadPair_of_ne h₁ h₂ _).trans (set_regs_self ..)
    have hone : Loaded m (exec m (.ldpNext p.1 p.2)) (m.regs .sp + 16) [p.1, p.2] :=
      let hpair := loadPair_loaded (m := set m .sp (m.regs .sp + 16)) (m.regs .sp + 16) hne
      { loaded := hpair.loaded
        mem    := hpair.mem
        others := fun r hr hrs => (hpair.others r hr hrs).trans (set_regs_of_ne hr _) }
    obtain ⟨hloaded, hend⟩ := ih (m := exec m (.ldpNext p.1 p.2)) hnodup hnot
    rw [hfirst] at hloaded hend
    refine ⟨hone.append hloaded hsp fun r hr hr' => hdisjoint r hr r hr' rfl, ?_⟩
    show (run (ps.map fun p => .ldpNext p.1 p.2) (exec m (.ldpNext p.1 p.2))).regs .sp = _
    rw [hend, List.length_cons]
    bv_omega

end execution

/-! ## Section 3: The switch -/

section swap
variable (m : Machine Reg)

theorem kept_return : flat pairs = kept ++ [.x30] := rfl

@[simp] theorem kept_bytes : BitVec.ofNat 64 (8 * kept.length) = 168 := rfl

@[simp] theorem frame_bytes : BitVec.ofNat 64 switch.frameSize = 176 := rfl

/-- The memory the code leaves. -/
def written : AddressSpace :=
  (m.mem.pushes (m.regs .sp) ((flat pairs).reverse.map m.regs)).store (m.regs .x0)
    (m.regs .sp - 176)

/-- The machine once the pairs are stored. -/
def pushed : Machine Reg where
  regs := Function.update m.regs .sp (m.regs .sp - 176)
  mem  := m.mem.pushes (m.regs .sp) ((flat pairs).reverse.map m.regs)

theorem run_pushed : run (pairs.reverse.map fun p => .stp p.1 p.2) m = pushed m :=
  run_stps (by decide)

/-- The machine before the loads. -/
def taken : Machine Reg := run [.mov .x3 .sp, .str .x3 .x0, .ldr .x3 .x1, .mov .sp .x3] (pushed m)

theorem taken_mem : (taken m).mem = written m := by
  simp only [taken, run, List.foldl_cons, List.foldl_nil, exec, set, pushed, written,
    Function.update_self, ne_eq, reduceCtorEq, not_false_eq_true, Function.update_of_ne]

theorem taken_sp : (taken m).regs .sp = (written m).load (m.regs .x1) := by
  simp only [taken, run, List.foldl_cons, List.foldl_nil, exec, set, pushed, written,
    Function.update_self, ne_eq, reduceCtorEq, not_false_eq_true, Function.update_of_ne]

/-- The machine before the stack pointer is put right. -/
def loaded : Machine Reg := run (pairs.tail.map fun p => .ldpNext p.1 p.2)
  (loadPair (taken m) .x28 .x29 ((taken m).regs .sp))

theorem run_ctxSwap : run ctxSwap m = exec (exec (loaded m) (.add .sp .sp 16)) .ret := by
  have hcode : ctxSwap = (pairs.reverse.map fun p => .stp p.1 p.2) ++
      ([.mov .x3 .sp, .str .x3 .x0, .ldr .x3 .x1, .mov .sp .x3] ++ ([.ldp .x28 .x29] ++
        ((pairs.tail.map fun p => .ldpNext p.1 p.2) ++ [.add .sp .sp 16, .ret]))) := rfl
  rw [hcode, run_append, run_append, run_append, run_append, run_pushed, ← taken]
  rfl

theorem loaded_spec : Loaded (taken m) (loaded m) ((taken m).regs .sp) (flat pairs) ∧
    (loaded m).regs .sp = (taken m).regs .sp + 160 := by
  have hpair : Loaded (taken m) (loadPair (taken m) .x28 .x29 ((taken m).regs .sp))
      ((taken m).regs .sp) [.x28, .x29] := loadPair_loaded (p := (.x28, .x29)) _ (by decide)
  have hsp : (loadPair (taken m) .x28 .x29 ((taken m).regs .sp)).regs .sp = (taken m).regs .sp :=
    loadPair_of_ne (by decide) (by decide) _
  obtain ⟨hrest, hend⟩ := run_loads pairs.tail
    (m := loadPair (taken m) .x28 .x29 ((taken m).regs .sp)) (by decide) (by decide)
  rw [hsp] at hrest hend
  exact ⟨hpair.append hrest (by decide) (by decide), hend⟩

theorem mem_ctxSwap : (run ctxSwap m).mem = written m := by
  have hmem := (loaded_spec m).1.mem
  rw [run_ctxSwap, exec, exec, set_mem, set_mem, hmem, taken_mem]

/-- The code ends with the frame that the second argument's cell points to
    by then in its registers. -/
theorem current_ctxSwap : switch.current (run ctxSwap m) =
    switch.saved (written m) ((written m).load (m.regs .x1)) := by
  obtain ⟨hloaded, hend⟩ := loaded_spec m
  rw [taken_sp] at hloaded hend
  have hregs : ∀ r, r ≠ .sp → r ≠ .pc → (run ctxSwap m).regs r = (loaded m).regs r := by
    intro r hsp hpc
    rw [run_ctxSwap, exec, exec, set_regs_of_ne hpc, set_regs_of_ne hsp]
  have hkept : kept.map (run ctxSwap m).regs = kept.map (loaded m).regs := by
    refine List.map_congr_left fun r hr => hregs r ?_ ?_
    · rintro rfl
      exact absurd hr (by decide)
    · rintro rfl
      exact absurd hr (by decide)
  have hwords := hloaded.loaded
  rw [kept_return, List.map_append, List.length_append, AddressSpace.pops_add, kept_bytes,
    taken_mem] at hwords
  obtain ⟨hframe, hlast⟩ := List.append_inj' hwords (by simp)
  have hpc : (run ctxSwap m).regs .pc =
      (written m).load ((written m).load (m.regs .x1) + 168) := by
    have hne : Reg.x30 ≠ .sp := by decide
    rw [run_ctxSwap, exec, exec, set_regs_self, set_regs_of_ne hne]
    exact List.head_eq_of_cons_eq hlast
  have hsp : (run ctxSwap m).regs .sp = (written m).load (m.regs .x1) + 176 := by
    have hne : Reg.sp ≠ .pc := by decide
    rw [run_ctxSwap, exec, exec, set_regs_of_ne hne, set_regs_self, hend]
    bv_omega
  rw [Switch.current, Switch.saved, frame_bytes]
  simp only [switch, hkept, hframe, hpc, hsp, kept_bytes]

/-- The frame lies right below the stack pointer. -/
theorem frame_eq : switch.frame m = m.regs .sp - 176 := by
  rw [Switch.frame, frame_bytes]
  rfl

theorem pushed_length : ((flat pairs).reverse.map m.regs).length = kept.length + 1 := rfl

theorem pushed_bytes : 8 * ((flat pairs).reverse.map m.regs).length = 176 := rfl

/-- The code writes to its frame and to the first argument's cell. -/
theorem same_written {a : BitVec 64} {n : Nat}
    (hframe : Apart (switch.frame m) switch.frameSize a n)
    (hcell : Apart (m.regs .x0) 8 a n) : AddressSpace.Same m.mem (written m) a n := by
  have hpushed : AddressSpace.Same m.mem
      (m.mem.pushes (m.regs .sp) ((flat pairs).reverse.map m.regs)) a n := by
    refine AddressSpace.same_pushes ?_ (by rw [pushed_bytes]; decide)
    rw [pushed_bytes]
    rw [frame_eq] at hframe
    exact hframe
  exact hpushed.trans (AddressSpace.same_store hcell)

theorem load_dest (hroom : switch.Room m) :
    (written m).load (m.regs .x1) = m.mem.load (m.regs .x1) :=
  AddressSpace.load_same (same_written m hroom.left_dest hroom.src_dest)

/-- The frame that is left holds what the registers held. -/
theorem saved_written (hroom : switch.Room m) :
    switch.saved (written m) (switch.frame m) = switch.caller m := by
  have hpushed : AddressSpace.Same (m.mem.pushes (m.regs .sp) ((flat pairs).reverse.map m.regs))
      (written m) (switch.frame m) switch.frameSize :=
    AddressSpace.same_store hroom.left_src.symm
  have hreturn : (flat pairs).map m.regs = kept.map m.regs ++ [m.regs .x30] := rfl
  have hwords : (m.mem.pushes (m.regs .sp) ((flat pairs).reverse.map m.regs)).pops
      (m.regs .sp - 176) (kept.length + 1) = kept.map m.regs ++ [m.regs .x30] := by
    have h := AddressSpace.pops_pushes m.mem (m.regs .sp) ((flat pairs).reverse.map m.regs)
      (by rw [pushed_bytes]; decide)
    rw [pushed_bytes, pushed_length, ← List.map_reverse, List.reverse_reverse, hreturn] at h
    exact h
  rw [AddressSpace.pops_add, kept_bytes] at hwords
  obtain ⟨hkept, hlast⟩ := List.append_inj' hwords (by simp)
  have hpc := List.head_eq_of_cons_eq hlast
  have hsp : m.regs .sp - 176 + 176 = m.regs .sp := by bv_omega
  rw [switch.saved_same (by decide) hpushed, frame_eq, Switch.saved, frame_bytes]
  simp only [switch, kept_bytes, hkept, hpc, hsp]

end swap

/-- `ctx_swap` does what a switch is to do. -/
theorem switch_lawful : switch.Lawful where
  fits := by decide
  found := by
    intro m hroom
    have htaken : AddressSpace.Same m.mem (written m) (m.mem.load (m.regs .x1)) switch.frameSize :=
      same_written m hroom.left_taken hroom.src_taken
    calc switch.current (run ctxSwap m)
        = switch.saved (written m) ((written m).load (m.regs .x1)) := current_ctxSwap m
      _ = switch.saved (written m) (m.mem.load (m.regs .x1)) := by rw [load_dest m hroom]
      _ = switch.saved m.mem (m.mem.load (m.regs .x1)) := switch.saved_same (by decide) htaken
  cell := by
    intro m _
    show (run ctxSwap m).mem.load (m.regs .x0) = switch.frame m
    rw [mem_ctxSwap, written, AddressSpace.load_store, frame_eq]
  left := by
    intro m hroom
    show switch.saved (run ctxSwap m).mem (switch.frame m) = switch.caller m
    rw [mem_ctxSwap]
    exact saved_written m hroom
  writes := by
    intro m _ a n hframe hcell
    show AddressSpace.Same m.mem (run ctxSwap m).mem a n
    rw [mem_ctxSwap]
    exact same_written m hframe hcell

end CyberRT.Croutine.AArch64
