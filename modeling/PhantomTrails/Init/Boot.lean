import PhantomTrails.Foundation.Hart
import PhantomTrails.Init.PageTables

namespace PhantomTrails.Init

open Foundation Foundation.Sv39 Foundation.Hart

/-! # The boot code

`bootrom.S` and the code of `init.S`, from the reset of the core to user mode.
-/

/-- The symbols whose addresses depend on the assembler. -/
structure Symbols where
  trap_handler : Word
  s_code : Word

def s_mem : Word := 0x80001000

def u_code : Word := 0x80008000

def t0 : Reg := 5
def t1 : Reg := 6
def s0 : Reg := 8
def s1 : Reg := 9
def a0 : Reg := 10
def s2 : Reg := 18

/-- The three entries of `bootrom.S` hold the same code. -/
def bootEntries : List Word := [0x10000, 0x10040, 0x10080]

def bootrom : List Instr := [.auipc t0 0, .li t0 0x80000000, .jr t0]

/-! ## Machine-mode code -/

def init_trap_vector (symbols : Symbols) : List Instr :=
  [.lla t0 symbols.trap_handler, .csrw .mtvec t0]

def PMP_R : Word := 0x01
def PMP_W : Word := 0x02
def PMP_X : Word := 0x04
def PMP_A_NAPOT : Word := 0x18

def change_to_S (symbols : Symbols) : List Instr := [
   -- clear Trap Virtual Memory(TVM) bit
   .li s1 0x00100000, .csrc .mstatus s1,
   -- set MPP such that we return to S mode
   .li s1 0x00001000, .csrc .mstatus s1, .li s1 0x00000800, .csrs .mstatus s1,
   -- Setup a PMP to permit access to all of memory
   .li a0 (-1), .csrw .pmpaddr0 a0,
   .li a0 (PMP_A_NAPOT ||| PMP_R ||| PMP_W ||| PMP_X), .csrw .pmpcfg0 a0,
   -- load address of S mode code
   .lla s2 symbols.s_code, .csrw .mepc s2,
   .mret]

def trap_handler : List Instr := [.unimp]

/-! ## Supervisor code -/

/-- The instructions of `set_page_table`. -/
def s_code : List Instr := [.li s0 set_page_table, .csrw .satp s0]

/-- Load taint into the cache hierarchy. -/
def init_cache : List Instr := [.lla s0 s_mem, .addi s0 s0 8, .ld s0 0 s0]

def prepare_change_to_U : List Instr := [
   -- set SPP such that we return to U mode
   .li s1 0x00000100, .csrc .sstatus s1,
   -- load address of user mode code
   .lla s2 u_code, .csrw .sepc s2]

def init_regs : List (Reg × Word) := [
   -- Basic regs
   (1, 0x80008000), (2, 0x80008000), (3, 0x80008000), (4, 0x80008000),
   -- User data
   (5, 0x80009000), (6, 0x80009000), (7, 0x80009000), (8, 0x80009000),
   -- Supervisor data
   (9, 0x80001000), (10, 0x80001000), (11, 0x80001000), (12, 0x80001000),
   -- User code
   (13, 0x8000A000), (15, 0x8000A000), (15, 0x8000A000), (16, 0x8000A000),
   -- Other user data
   (17, 0x8000B000), (18, 0x8000B000), (19, 0x8000B000), (20, 0x8000B000),
   -- Power of two constants
   (21, 8), (22, 16), (23, 32), (24, 64)]

def change_to_u : List Instr := [.sret]

/-- The supervisor's code behind the change of the page table. -/
def translatedCode : List Instr :=
  init_cache ++ prepare_change_to_U ++ State.assignments init_regs ++ change_to_u

/-! ## The machine -/

/-- The page of the init code. -/
def textPage (addr : Word) : Prop := addr.toNat / 4096 = 0x80000

instance (addr : Word) : Decidable (textPage addr) := inferInstanceAs (Decidable (_ = _))

/-- The code as it lies in the ROM and in the DRAM, whatever the assembler
makes of a pseudo-instruction. -/
structure Loaded (config : Config) (width : Instr → Nat) (symbols : Symbols) : Prop where
  rom : ∀ entry ∈ bootEntries, Placed config width (fun _ => True) entry bootrom
  text : Placed config width textPage 0x80000000 (init_trap_vector symbols ++ change_to_S symbols)
  handler : Placed config width textPage symbols.trap_handler trap_handler
  supervisor : Placed config width textPage symbols.s_code (s_code ++ translatedCode)
  aligned : symbols.trap_handler &&& 3 = 0 ∧ symbols.s_code &&& 1 = 0

theorem Loaded.mono {config other : Config} {width : Instr → Nat} {symbols : Symbols}
    (more : ∀ paddr found, config.code paddr = some found → other.code paddr = some found)
    (loaded : Loaded config width symbols) : Loaded other width symbols :=
  ⟨fun entry listed => (loaded.rom entry listed).mono more, loaded.text.mono more, loaded.handler.mono more,
    loaded.supervisor.mono more, loaded.aligned⟩

/-- The core at its reset.  The other registers hold anything. -/
structure AtReset (s : State) : Prop where
  entry : s.pc ∈ bootEntries
  mode : s.mode = .machine
  bare : s.satp.extractLsb' 60 4 = 0
  undelegated : s.medeleg = 0
  tables : ∀ table ∈ initTables, table.Held s.memory

variable {config : Config} {width : Instr → Nat} {symbols : Symbols} {s final : State}

/-- What a register holds on entry to user mode, if the boot code sets it:
`x14` is the one that `init_regs` skips. -/
def entryValue (r : Reg) : Option Word :=
  if 1 ≤ r ∧ r ≤ 4 then some 0x80008000
  else if 5 ≤ r ∧ r ≤ 8 then some 0x80009000
  else if 9 ≤ r ∧ r ≤ 12 then some 0x80001000
  else if r = 13 ∨ r = 15 ∨ r = 16 then some 0x8000A000
  else if 17 ≤ r ∧ r ≤ 20 then some 0x8000B000
  else if r = 21 then some 8
  else if r = 22 then some 16
  else if r = 23 then some 32
  else if r = 24 then some 64
  else none

theorem assigned_init_regs (regs : Reg → Word) (r : Reg) :
    State.assigned regs init_regs r = (entryValue r).getD (regs r) := by
  have listed : ∀ r : Reg, (init_regs.reverse.find? fun value => value.1 = r).map Prod.snd = entryValue r := by
    decide
  rw [State.assigned_apply, listed]

/-! ## Accesses under the tables -/

variable {env : Env} {memory : Store UInt8} {va : Word} {i : Nat}

/-- The entry of `table3` for a page of the DRAM. -/
def dramEntry (i : Nat) : Pte := (⟨0x80004000, 0, table3⟩ : Table).entry i

theorem isCanonical_of_lt (small : va.toNat < 2 ^ 38) : isCanonical va = true := by
  have low : (va.extractLsb' 0 39).toNat = va.toNat := by
    rw [BitVec.extractLsb'_toNat, Nat.shiftRight_zero]
    exact Nat.mod_eq_of_lt (by omega)
  have positive : (va.extractLsb' 0 39).msb = false := by
    rw [BitVec.msb_eq_decide, low]
    simpa using small
  rw [isCanonical, beq_iff_eq]
  apply BitVec.eq_of_toNat_eq
  rw [BitVec.toNat_signExtend, positive, BitVec.toNat_setWidth, low]
  simpa using Nat.mod_eq_of_lt va.isLt

theorem findLeaf_dram (held : ∀ table ∈ initTables, table.Held memory)
    (page : va.toNat / 4096 = 0x80000 + i) (inside : i < 512)
    (leaf : (dramEntry i).isUsable && (dramEntry i).isLeaf) :
    findLeaf memory va 2 0x80002000 = some ⟨0x80004000 + i * 8, dramEntry i, 0⟩ := by
  have first : vpn va 2 = 2 := by rw [vpn_eq, page]; omega
  have second : vpn va 1 = 0 := by rw [vpn_eq, page]; omega
  have third : vpn va 0 = i := by rw [vpn_eq, page]; omega
  have top := held ⟨0x80002000, 2, table1⟩ (by simp [initTables]) 2 (by decide)
  have middle := held ⟨0x80003000, 1, table2⟩ (by simp [initTables]) 0 (by decide)
  have last := held ⟨0x80004000, 0, table3⟩ (by simp [initTables]) i inside
  have pointer : (⟨0x80002000, 2, table1⟩ : Table).entry 2 = 0x20000c01 := rfl
  have pointer' : (⟨0x80003000, 1, table2⟩ : Table).entry 0 = 0x20001001 := rfl
  rw [pointer] at top
  rw [pointer'] at middle
  rw [findLeaf, first, top, if_neg (by decide), if_neg (by decide)]
  have target : Pte.target ⟨(0x20000c01 : Pte).bits⟩ = 0x80003000 := by decide
  rw [target, findLeaf, second, middle, if_neg (by decide), if_neg (by decide)]
  have target' : Pte.target ⟨(0x20001001 : Pte).bits⟩ = 0x80004000 := by decide
  rw [target', findLeaf, third, last]
  exact if_pos leaf

/-- The tables map a page of the DRAM to itself. -/
theorem translate_dram {access : Access} (satp : env.satp = set_page_table)
    (held : ∀ table ∈ initTables, table.Held memory)
    (page : va.toNat / 4096 = 0x80000 + i) (inside : i < 512)
    (leaf : (dramEntry i).isUsable && (dramEntry i).isLeaf) (ppn : (dramEntry i).ppn = 0x80000 + i)
    (permitted : env.permits (dramEntry i) access = true)
    (unmarked : (⟨0, dramEntry i, 0⟩ : Leaf).needsMark access = false) :
    Sv39.translate env memory va access = some ⟨va.toNat, memory⟩ := by
  have canonical : isCanonical va = true := isCanonical_of_lt (by omega)
  have marks : (⟨0x80004000 + i * 8, dramEntry i, 0⟩ : Leaf).needsMark access = false := unmarked
  have target : (⟨0x80004000 + i * 8, dramEntry i, 0⟩ : Leaf).paddr va = va.toNat := by
    simp only [Leaf.paddr, ppn, pow_zero, mul_one]
    omega
  simp only [Sv39.translate, canonical, Bool.true_eq_false, if_false, root_eq satp,
    findLeaf_dram held page inside leaf, permitted, Leaf.isAligned, pow_zero, Nat.mod_one, beq_self_eq_true,
    Bool.and_self, if_true, marks, Bool.false_eq_true, target]

/-- What a mode may do with a page of the DRAM, without marking its entry. -/
def granted (mode : Mode) (access : Access) (i : Nat) : Bool :=
  decide (i < 512) && ((dramEntry i).isUsable && (dramEntry i).isLeaf) &&
    ((dramEntry i).ppn == 0x80000 + i) && ((dramEntry i).user == (mode == .user)) &&
    (match access with
      | .fetch => (dramEntry i).executable
      | .load => (dramEntry i).readable
      | .store => (dramEntry i).writable) &&
    !(⟨0, dramEntry i, 0⟩ : Leaf).needsMark access

/-- The state that `set_page_table` leaves behind: what it reaches of the DRAM
it reaches as it is. -/
structure Translated (s : State) : Prop where
  lower : s.mode ≠ .machine
  satp : s.satp = set_page_table
  opened : s.Open
  tables : ∀ table ∈ initTables, table.Held s.memory

theorem permits_of_owner {mode : Mode} {access : Access} (lower : mode ≠ .machine)
    (privilege : env.privilege = State.privilegeOf mode) (owner : (dramEntry i).user = (mode == .user))
    (right : (match access with
      | .fetch => (dramEntry i).executable
      | .load => (dramEntry i).readable
      | .store => (dramEntry i).writable) = true) : env.permits (dramEntry i) access = true := by
  cases mode with
  | machine => exact absurd rfl lower
  | user => cases access <;> simp_all [Env.permits, State.privilegeOf]
  | supervisor => cases access <;> simp_all [Env.permits, State.privilegeOf]

theorem Translated.access {s : State} {access : Access} (ready : Translated s) (updates : Bool)
    (page : va.toNat / 4096 = 0x80000 + i) (grants : granted s.mode access i = true) :
    s.access updates va access = .ok ⟨va.toNat, s.memory⟩ := by
  simp only [granted, Bool.and_eq_true, decide_eq_true_eq, beq_iff_eq, Bool.not_eq_true'] at grants
  obtain ⟨⟨⟨⟨⟨inside, usable, leaf⟩, ppn⟩, owner⟩, right⟩, unmarked⟩ := grants
  have sv39 : s.satp.extractLsb' 60 4 = 8 := by
    rw [ready.satp]
    decide
  have privilege : (s.env updates sv39).privilege = State.privilegeOf s.mode := rfl
  have permitted : (s.env updates sv39).permits (dramEntry i) access = true :=
    permits_of_owner ready.lower privilege owner right
  have walked : Sv39.translate (s.env updates sv39) s.memory va access = some ⟨va.toNat, s.memory⟩ :=
    translate_dram ready.satp ready.tables page inside (by simp [usable, leaf]) ppn permitted unmarked
  have small : va.toNat < 2 ^ 57 := by omega
  simp only [State.access, State.translate_of_sv39 ready.lower sv39, walked,
    ready.opened.permits access small, if_true]

/-! ## Block by block -/

/-- What the boot code leaves as the reset left it. -/
structure Untouched (s after : State) : Prop where
  regs : ∀ r, entryValue r = none → after.regs r = s.regs r
  memory : after.memory = s.memory
  medeleg : after.medeleg = s.medeleg
  tsr : after.mstatus.getLsbD TSR = s.mstatus.getLsbD TSR

theorem Untouched.trans {middle : State} (first : Untouched s middle) (second : Untouched middle final) :
    Untouched s final where
  regs := fun r unset => (second.regs r unset).trans (first.regs r unset)
  memory := second.memory.trans first.memory
  medeleg := second.medeleg.trans first.medeleg
  tsr := second.tsr.trans first.tsr

theorem update_unset {regs : Reg → Word} {r rd : Reg} {value : Word} (unset : entryValue r = none)
    (assigned : entryValue rd ≠ none) : Function.update regs rd value r = regs r := by
  apply Function.update_of_ne
  intro same
  exact assigned (same ▸ unset)

/-- Machine mode runs any block where it lies. -/
theorem reaches_of_machine {page : Word → Prop} {block : List Instr} (mode : s.mode = .machine)
    (placed : Placed config width page s.pc block)
    (ran : Machine.run (State.next config.updates width) s block = .ok final) :
    State.Reaches config s final := by
  have keeps : Machine.Keeps (State.next config.updates width) (fun _ _ => True)
      (fun s => s.mode = .machine) := by
    intro s instr after _ mode taken
    obtain ⟨after, done, rfl⟩ := State.next_ok_iff.mp taken
    exact (State.effect_stays done).2.trans mode
  exact State.reaches_of_block (fun s mode _ => State.machine_fetches mode) keeps
    (fun _ _ => trivial) mode placed ran

theorem bootrom_done (loaded : Loaded config width symbols) (reset : AtReset s) :
    ∃ after, State.Reaches config s after ∧ after.pc = 0x80000000 ∧ after.mode = .machine ∧
      after.satp = s.satp ∧ Untouched s after := by
  have placed := loaded.rom s.pc reset.entry
  obtain ⟨straight, jump⟩ := @Placed.append config width _ s.pc [.auipc t0 0, .li t0 0x80000000] [.jr t0] placed
  obtain ⟨middle, ran, target, satp, regs, memory, medeleg, mstatus⟩ :
      ∃ middle, Machine.run (State.next config.updates width) s [.auipc t0 0, .li t0 0x80000000] =
          .ok middle ∧ middle.reg t0 = 0x80000000 ∧ middle.satp = s.satp ∧
        middle.regs = Function.update (Function.update s.regs t0 (s.pc + 0)) t0 0x80000000 ∧
        middle.memory = s.memory ∧ middle.medeleg = s.medeleg ∧ middle.mstatus = s.mstatus :=
    ⟨_, rfl, by simp [State.reg, State.advance, State.set, t0], rfl, rfl, rfl, rfl, rfl⟩
  obtain ⟨pc, mode⟩ := State.run_stays ran
  have mode := mode.trans reset.mode
  rw [← pc] at jump
  have jumped : middle.step config = { middle with pc := middle.reg t0 &&& ~~~1 } :=
    State.step_of_fetches (State.machine_fetches mode) jump.1.2 rfl
  refine ⟨_, (reaches_of_machine reset.mode straight ran).trans ⟨1, jumped⟩, ?_, mode, satp, ?_⟩
  · have even : (0x80000000 : Word) &&& ~~~1 = 0x80000000 := by decide
    simp only [target, even]
  · refine ⟨fun r unset => ?_, memory, medeleg, congrArg (·.getLsbD TSR) mstatus⟩
    have set : entryValue t0 ≠ none := by decide
    simp only [regs, update_unset unset set]

/-- The fields of `mstatus` after `change_to_S` has set them. -/
theorem mstatus_change_to_S (mstatus : Word) :
    let after := mstatus &&& ~~~0x00100000 &&& ~~~0x00001000 ||| 0x00000800
    machinePrevious after = .supervisor ∧ after.getLsbD TVM = false ∧
      after.getLsbD TSR = mstatus.getLsbD TSR := by
  refine ⟨?_, ?_, ?_⟩
  · simp [machinePrevious, MPP]
  · simp [TVM]
  · simp [TSR]

/-- Machine-mode code, up to the supervisor's first instruction. -/
theorem machine_done (loaded : Loaded config width symbols) (pc : s.pc = 0x80000000)
    (mode : s.mode = .machine) :
    ∃ after, State.Reaches config s after ∧ after.pc = symbols.s_code ∧ after.mode = .supervisor ∧
      after.satp = s.satp ∧ after.mtvec = symbols.trap_handler ∧ after.Open ∧
      after.mstatus.getLsbD TVM = false ∧ Untouched s after := by
  have placed := loaded.text
  rw [← pc] at placed
  obtain ⟨straight, last⟩ := @Placed.append config width _ s.pc
    (init_trap_vector symbols ++ (change_to_S symbols).dropLast) [.mret] placed
  obtain ⟨middle, ran, satp, mtvec, mepc, opened, regs, memory, medeleg, mstatus⟩ :
      ∃ middle, Machine.run (State.next config.updates width) s
          (init_trap_vector symbols ++ (change_to_S symbols).dropLast) = .ok middle ∧
        middle.satp = s.satp ∧ middle.mtvec = symbols.trap_handler ∧
        middle.mepc = symbols.s_code &&& ~~~1 ∧ middle.Open ∧
        (∀ r, entryValue r = none → middle.regs r = s.regs r) ∧
        middle.memory = s.memory ∧ middle.medeleg = s.medeleg ∧
        middle.mstatus = s.mstatus &&& ~~~0x00100000 &&& ~~~0x00001000 ||| 0x00000800 := by
    cases s
    cases mode
    refine ⟨_, rfl, rfl, rfl, rfl, ⟨?_, rfl⟩, ?_, rfl, rfl, rfl⟩
    · have ones : (-1 : Word) &&& 0x3fffffffffffff = 0x3fffffffffffff := by decide
      exact ones
    · intro r unset
      have set0 : entryValue t0 ≠ none := by decide
      have set1 : entryValue s1 ≠ none := by decide
      have set2 : entryValue a0 ≠ none := by decide
      have set3 : entryValue s2 ≠ none := by decide
      simp only [State.advance, State.set, State.writeCsr, update_unset unset set0,
        update_unset unset set1, update_unset unset set2, update_unset unset set3]
  obtain ⟨previous, tvm, tsr⟩ := mstatus_change_to_S s.mstatus
  rw [← mstatus] at previous tvm tsr
  obtain ⟨pc, same⟩ := State.run_stays ran
  have mode := same.trans mode
  rw [← pc] at last
  have returned : middle.step config = middle.mret := by
    apply State.step_of_fetches (State.machine_fetches mode) last.1.2
    simp only [State.execute, mode, if_true]
  refine ⟨_, (reaches_of_machine ‹_› straight ran).trans ⟨1, returned⟩, ?_, previous, satp, mtvec,
    ⟨opened.1, opened.2⟩, ?_, regs, memory, medeleg, ?_⟩
  · have even : symbols.s_code &&& ~~~1 = symbols.s_code := and_not_eq_self loaded.aligned.2
    simp only [State.mret, mepc, even]
  · exact (middle.getLsbD_mret (by decide)).trans tvm
  · exact (middle.getLsbD_mret (by decide)).trans tsr

/-- The supervisor turns translation on. -/
theorem set_page_table_done (loaded : Loaded config width symbols) (pc : s.pc = symbols.s_code)
    (mode : s.mode = .supervisor) (bare : s.satp.extractLsb' 60 4 = 0) (opened : s.Open)
    (tvm : s.mstatus.getLsbD TVM = false) :
    ∃ after, State.Reaches config s after ∧
      after.pc = symbols.s_code + BitVec.ofNat 64 (blockSize width s_code) ∧
      after.mode = .supervisor ∧ after.satp = set_page_table ∧ after.mtvec = s.mtvec ∧ after.Open ∧
      Untouched s after := by
  have placed := loaded.supervisor
  rw [← pc] at placed
  obtain ⟨first, second⟩ := (@Placed.append config width _ s.pc s_code translatedCode placed).1
  have low : ∀ addr, textPage addr → addr.toNat < 2 ^ 57 := by
    intro addr inside
    simp only [textPage] at inside
    omega
  -- Neither instruction is translated yet: the second one still is when it is fetched.
  let loadedRoot := (s.set s0 set_page_table).advance (width (.li s0 set_page_table))
  have loads : s.step config = loadedRoot :=
    State.step_of_fetches (State.bare_fetches bare opened (low _ first.1)) first.2 rfl
  have fetches : loadedRoot.Fetches config :=
    State.bare_fetches bare ⟨opened.1, opened.2⟩ (low _ second.1.1)
  have allowed : loadedRoot.mayAccess .satp = true := by
    have same : loadedRoot.mode = .supervisor := mode
    have clear : loadedRoot.mstatus.getLsbD TVM = false := tvm
    simp [State.mayAccess, same, State.csrOwner, clear]
  have written : loadedRoot.effect config.updates (.csrw .satp s0) =
      .ok { loadedRoot with satp := set_page_table } := by
    have value : loadedRoot.reg s0 = set_page_table := by
      simp [loadedRoot, State.reg, State.advance, State.set, s0]
    have known : set_page_table.extractLsb' 60 4 = 0 ∨ set_page_table.extractLsb' 60 4 = 8 := by decide
    simp only [State.effect, State.csrUpdate, allowed, if_true, value, State.writeCsr, if_pos known]
  have sets := State.step_of_fetches fetches second.1.2 (State.execute_of_effect written)
  refine ⟨_, State.Reaches.trans ⟨1, loads⟩ ⟨1, sets⟩, ?_, mode, rfl, rfl, ⟨opened.1, opened.2⟩, ?_⟩
  · simp only [State.advance, loadedRoot, State.set, pc, blockSize, s_code, List.map_cons, List.map_nil,
      List.sum_cons, List.sum_nil, Nat.add_zero, BitVec.ofNat_add, BitVec.add_assoc]
  · refine ⟨fun r unset => ?_, rfl, rfl, rfl⟩
    have set : entryValue s0 ≠ none := by decide
    simp only [State.advance, loadedRoot, State.set, update_unset unset set]

/-! ## Under translation -/

/-- What the supervisor's code may do without leaving what it needs to run. -/
def Harmless : Instr → Prop
  | .li _ _ | .lla _ _ | .addi _ _ _ | .csrc .sstatus _ | .csrw .sepc _ => True
  | _ => False

def Ready (s : State) : Prop := Translated s ∧ s.mode = .supervisor

theorem ready_fetches (ready : Ready s) (page : textPage s.pc) : s.Fetches config :=
  ready.1.access config.updates (i := 0) page (by rw [ready.2]; decide)

theorem ready_keeps (updates : Bool) :
    Machine.Keeps (State.next updates width) (fun _ instr => Harmless instr) Ready := by
  intro s instr after harmless ready taken
  obtain ⟨after, done, rfl⟩ := State.next_ok_iff.mp taken
  have mode := (State.effect_stays done).2.trans ready.2
  have kept : after.satp = s.satp ∧ after.pmpaddr0 = s.pmpaddr0 ∧ after.pmpcfg0 = s.pmpcfg0 ∧
      after.memory = s.memory := by
    cases instr with
    | li | lla | addi =>
        cases done
        exact ⟨rfl, rfl, rfl, rfl⟩
    | csrc csr rs | csrw csr rs =>
        simp only [State.effect, State.csrUpdate] at done
        split at done
        · cases done
          cases csr <;> first
            | exact harmless.elim
            | exact ⟨rfl, rfl, rfl, rfl⟩
        · cases done
    | _ => exact harmless.elim
  obtain ⟨satp, address, permissions, memory⟩ := kept
  refine ⟨⟨mode ▸ by decide, satp.trans ready.1.satp, ⟨address.trans ready.1.opened.1,
    permissions.trans ready.1.opened.2⟩, ?_⟩, mode⟩
  exact memory ▸ ready.1.tables

theorem reaches_of_ready {block : List Instr} (ready : Ready s) (harmless : ∀ instr ∈ block, Harmless instr)
    (placed : Placed config width textPage s.pc block)
    (ran : Machine.run (State.next config.updates width) s block = .ok final) :
    State.Reaches config s final ∧ Ready final :=
  ⟨State.reaches_of_block (fun _ => ready_fetches) (ready_keeps config.updates) harmless ready placed ran,
    (ready_keeps config.updates).run (Machine.along_of_forall _ harmless _) ready ran⟩

/-- The load of `init_cache` finds its page, whatever is there. -/
theorem init_cache_done (ready : Ready s) (placed : Placed config width textPage s.pc init_cache) :
    ∃ after, State.Reaches config s after ∧ Ready after ∧
      after.pc = s.pc + BitVec.ofNat 64 (blockSize width init_cache) ∧ after.mtvec = s.mtvec ∧
      Untouched s after := by
  obtain ⟨straight, load⟩ := @Placed.append config width _ s.pc [.lla s0 s_mem, .addi s0 s0 8]
    [.ld s0 0 s0] placed
  have set : entryValue s0 ≠ none := by decide
  obtain ⟨middle, ran, target, mtvec, untouched⟩ :
      ∃ middle, Machine.run (State.next config.updates width) s [.lla s0 s_mem, .addi s0 s0 8] = .ok middle ∧
        middle.reg s0 = 0x80001008 ∧ middle.mtvec = s.mtvec ∧ Untouched s middle := by
    refine ⟨_, rfl, ?_, rfl, ⟨fun r unset => ?_, rfl, rfl, rfl⟩⟩
    · simp [State.reg, State.advance, State.set, s0, s_mem]
    · simp only [State.advance, State.set, update_unset unset set]
  obtain ⟨reached, still⟩ := reaches_of_ready ready (by simp [Harmless]) straight ran
  obtain ⟨pc, -⟩ := State.run_stays ran
  rw [← pc] at load
  have found : middle.access config.updates 0x80001008 .load = .ok ⟨0x80001008, middle.memory⟩ :=
    still.1.access config.updates (i := 1) (by decide) (by rw [still.2]; decide)
  have address : middle.reg s0 + 0 = 0x80001008 := (BitVec.add_zero _).trans target
  have aligned : (middle.reg s0 + 0).toNat % 8 = 0 := by
    rw [address]
    decide
  rw [← address] at found
  have loaded := @State.effect_ld middle config.updates s0 s0 0 _ aligned found
  have stepped := State.step_of_fetches (ready_fetches still load.1.1) load.1.2
    (State.execute_of_effect loaded)
  refine ⟨_, reached.trans ⟨1, stepped⟩, ⟨⟨still.1.1, still.1.2, ⟨still.1.3.1, still.1.3.2⟩, still.1.4⟩,
    still.2⟩, ?_, mtvec, untouched.trans ⟨fun r unset => ?_, rfl, rfl, rfl⟩⟩
  · simp only [State.advance, State.set, pc, blockSize, init_cache, List.map_cons, List.map_nil,
      List.sum_cons, List.sum_nil, Nat.add_zero, BitVec.ofNat_add, BitVec.add_assoc]
  · simp only [State.advance, State.set, update_unset unset set]

/-- The fields of `mstatus` after `prepare_change_to_U` has cleared one of them
through `sstatus`. -/
theorem mstatus_prepare_change_to_U (mstatus : Word) :
    let after := mstatus &&& ~~~sstatusMask ||| mstatus &&& sstatusMask &&& ~~~0x100 &&& sstatusMask
    supervisorPrevious after = .user ∧ after.getLsbD TSR = mstatus.getLsbD TSR := by
  constructor
  · simp [supervisorPrevious, SPP, sstatusMask]
  · simp [TSR, sstatusMask]

theorem prepare_change_to_U_ran (updates : Bool) (mode : s.mode = .supervisor) :
    ∃ after, Machine.run (State.next updates width) s prepare_change_to_U = .ok after ∧
      after.sepc = u_code ∧ supervisorPrevious after.mstatus = .user ∧ after.mtvec = s.mtvec ∧
      Untouched s after := by
  obtain ⟨previous, tsr⟩ := mstatus_prepare_change_to_U s.mstatus
  have even : u_code &&& ~~~1 = u_code := by decide
  obtain ⟨after, ran, sepc, mstatus, mtvec, regs, memory, medeleg⟩ :
      ∃ after, Machine.run (State.next updates width) s prepare_change_to_U = .ok after ∧
        after.sepc = u_code &&& ~~~1 ∧
        after.mstatus = s.mstatus &&& ~~~sstatusMask |||
          s.mstatus &&& sstatusMask &&& ~~~0x100 &&& sstatusMask ∧
        after.mtvec = s.mtvec ∧ (∀ r, entryValue r = none → after.regs r = s.regs r) ∧
        after.memory = s.memory ∧ after.medeleg = s.medeleg := by
    cases s
    cases mode
    refine ⟨_, rfl, rfl, rfl, rfl, fun r unset => ?_, rfl, rfl⟩
    have set1 : entryValue s1 ≠ none := by decide
    have set2 : entryValue s2 ≠ none := by decide
    simp only [State.advance, State.set, State.writeCsr, update_unset unset set1, update_unset unset set2]
  rw [← mstatus] at previous tsr
  exact ⟨after, ran, sepc.trans even, previous, mtvec, ⟨regs, memory, medeleg, tsr⟩⟩

/-! ## The whole boot -/

/-- The supervisor is about to execute `change_to_u`. -/
structure AboutToLeave (config : Config) (width : Instr → Nat) (symbols : Symbols) (s last : State) :
    Prop where
  ready : Ready last
  here : textPage last.pc ∧ config.code last.pc.toNat = some (.sret, width .sret)
  sepc : last.sepc = u_code
  previous : supervisorPrevious last.mstatus = .user
  mtvec : last.mtvec = symbols.trap_handler
  medeleg : last.medeleg = s.medeleg
  tsr : last.mstatus.getLsbD TSR = s.mstatus.getLsbD TSR
  regs : ∀ r, last.regs r = (entryValue r).getD (s.regs r)
  memory : last.memory = s.memory

theorem reaches_change_to_u (loaded : Loaded config width symbols) (reset : AtReset s) :
    ∃ last, State.Reaches config s last ∧ AboutToLeave config width symbols s last := by
  obtain ⟨rom, toRom, pc, mode, satp, kept⟩ := bootrom_done loaded reset
  obtain ⟨super, toSuper, pc, mode, satpKept, mtvec, opened, tvm, keptBySuper⟩ := machine_done loaded pc mode
  have bare : super.satp.extractLsb' 60 4 = 0 := by
    rw [satpKept, satp]
    exact reset.bare
  obtain ⟨paged, toPaged, pc, mode, root, mtvecPaged, opened, keptByPaged⟩ :=
    set_page_table_done loaded pc mode bare opened tvm
  have untouched := (kept.trans keptBySuper).trans keptByPaged
  have tables : ∀ table ∈ initTables, table.Held paged.memory := untouched.memory ▸ reset.tables
  have ready : Ready paged := ⟨⟨mode ▸ by decide, root, opened, tables⟩, mode⟩
  -- The rest of the supervisor's code is one block but for its load.
  have placed := (@Placed.append config width _ _ s_code translatedCode loaded.supervisor).2
  rw [← pc] at placed
  simp only [translatedCode, List.append_assoc] at placed
  obtain ⟨cache, placed⟩ := Placed.append placed
  obtain ⟨cached, toCached, ready, pc, mtvecCached, keptByCached⟩ := init_cache_done ready cache
  rw [← pc] at placed
  rw [← List.append_assoc] at placed
  obtain ⟨straight, leave⟩ := Placed.append placed
  obtain ⟨prepared, ran, sepc, previous, mtvecPrepared, keptByPrepared⟩ :=
    @prepare_change_to_U_ran width cached config.updates ready.2
  obtain ⟨last, assigns, same⟩ := State.run_assignments config.updates width prepared init_regs
  have whole := Machine.run_append_of_ok ran assigns
  have harmless : ∀ instr ∈ prepare_change_to_U ++ State.assignments init_regs, Harmless instr := by
    simp [prepare_change_to_U, State.assignments, init_regs, Harmless]
  obtain ⟨toLast, ready⟩ := reaches_of_ready ready harmless straight whole
  obtain ⟨pc, -⟩ := State.run_stays whole
  rw [← pc] at leave
  simp only [change_to_u, Placed, and_true] at leave
  have untouched := (untouched.trans keptByCached).trans keptByPrepared
  refine ⟨last, (((toRom.trans toSuper).trans toPaged).trans toCached).trans toLast, ready, leave,
    ?_, ?_, ?_, ?_, ?_, fun r => ?_, ?_⟩ <;> rw [same]
  · exact sepc
  · exact previous
  · exact mtvecPrepared.trans (mtvecCached.trans (mtvecPaged.trans mtvec))
  · exact untouched.medeleg
  · exact untouched.tsr
  · show State.assigned prepared.regs init_regs r = (entryValue r).getD (s.regs r)
    rw [assigned_init_regs]
    cases value : entryValue r with
    | some value => rfl
    | none => exact untouched.regs r value
  · exact untouched.memory

/-- User mode as the boot code enters it. -/
structure UserEntry (symbols : Symbols) (s entered : State) : Prop where
  pc : entered.pc = u_code
  mode : entered.mode = .user
  translated : Translated entered
  mtvec : entered.mtvec = symbols.trap_handler
  undelegated : entered.medeleg = 0
  regs : ∀ r, entered.regs r = (entryValue r).getD (s.regs r)
  memory : entered.memory = s.memory

/-- The core sits on the one instruction of the trap handler. -/
structure Parked (symbols : Symbols) (s : State) : Prop where
  mode : s.mode = .machine
  pc : s.pc = symbols.trap_handler
  mtvec : s.mtvec = symbols.trap_handler

theorem parked_of_trap (loaded : Loaded config width symbols) (mtvec : s.mtvec = symbols.trap_handler)
    (undelegated : s.medeleg = 0 ∨ s.mode = .machine) (exception : Exception) :
    Parked symbols (s.trap exception) := by
  have vector : s.mtvec &&& ~~~3 = symbols.trap_handler := by
    rw [mtvec]
    exact and_not_eq_self loaded.aligned.1
  have kept : ¬ (s.mode ≠ .machine ∧ s.medeleg.getLsbD exception.cause = true) := by
    rcases undelegated with none | machine
    · simp [none]
    · simp [machine]
  rw [State.trap, if_neg kept]
  exact ⟨rfl, vector, mtvec⟩

/-- Every trap in the handler leads to the handler. -/
theorem Parked.step (loaded : Loaded config width symbols) (parked : Parked symbols s) :
    Parked symbols (s.step config) := by
  have here := loaded.handler.1.2
  rw [← parked.pc] at here
  rw [State.step_of_exception (State.machine_fetches parked.mode) here rfl]
  exact parked_of_trap loaded parked.mtvec (.inr parked.mode) _

theorem reaches_user (loaded : Loaded config width symbols) (reset : AtReset s)
    (permitted : s.mstatus.getLsbD TSR = false) :
    ∃ entered, State.Reaches config s entered ∧ UserEntry symbols s entered := by
  obtain ⟨last, reached, leaves⟩ := reaches_change_to_u loaded reset
  have returned : last.step config = last.sret := by
    apply State.step_of_fetches (ready_fetches leaves.ready leaves.here.1) leaves.here.2
    simp only [State.execute, leaves.ready.2, leaves.tsr, permitted, and_self, or_true, if_true]
  have user : last.sret.mode = .user := leaves.previous
  have translated : Translated last.sret :=
    ⟨user ▸ by decide, leaves.ready.1.satp, ⟨leaves.ready.1.opened.1, leaves.ready.1.opened.2⟩,
      leaves.ready.1.tables⟩
  exact ⟨last.sret, reached.trans ⟨1, returned⟩, leaves.sepc, user, translated, leaves.mtvec,
    leaves.medeleg.trans reset.undelegated, leaves.regs, leaves.memory⟩

theorem reaches_handler (loaded : Loaded config width symbols) (reset : AtReset s)
    (refused : s.mstatus.getLsbD TSR = true) :
    ∃ stuck, State.Reaches config s stuck ∧ Parked symbols stuck ∧ stuck.memory = s.memory := by
  obtain ⟨last, reached, leaves⟩ := reaches_change_to_u loaded reset
  have raised : last.execute config.updates (width .sret) .sret = .error State.illegal := by
    simp [State.execute, leaves.ready.2, leaves.tsr, refused]
  have trapped := State.step_of_exception (ready_fetches leaves.ready leaves.here.1) leaves.here.2 raised
  have undelegated : last.medeleg = 0 := leaves.medeleg.trans reset.undelegated
  refine ⟨_, reached.trans ⟨1, trapped⟩, parked_of_trap loaded leaves.mtvec (.inl undelegated) _, ?_⟩
  rw [State.trap_memory]
  exact leaves.memory

/-- Sizes under `-march=rv64g`. -/
def exampleWidth : Instr → Nat
  | .li _ value =>
      if value = set_page_table then 24
      else if value.toNat < 2048 ∨ value = -1 ∨ value = 0x1000 ∨ value = 0x100000 then 4
      else if value = 0x800 ∨ value = 0x80000000 then 8
      else 12
  | .lla _ _ => 8
  | _ => 4

def exampleSymbols : Symbols where
  trap_handler := 0x80000050
  s_code := 0x80000060

def laid (width : Instr → Nat) : Word → List Instr → List (Nat × Instr × Nat)
  | _, [] => []
  | addr, instr :: rest => (addr.toNat, instr, width instr) :: laid width (addr + BitVec.ofNat 64 (width instr)) rest

def exampleConfig : Config where
  updates := false
  code := fun addr =>
    (laid exampleWidth 0x10000 bootrom ++ laid exampleWidth 0x10040 bootrom ++
      laid exampleWidth 0x10080 bootrom ++
      laid exampleWidth 0x80000000 (init_trap_vector exampleSymbols ++ change_to_S exampleSymbols) ++
      laid exampleWidth 0x80000050 trap_handler ++
      laid exampleWidth 0x80000060 (s_code ++ translatedCode)).lookup addr

def exampleReset : State where
  pc := 0x10040
  mode := .machine
  regs := fun _ => 0
  mstatus := 0
  mtvec := 0
  mepc := 0
  mcause := 0
  mtval := 0
  medeleg := 0
  stvec := 0
  sepc := 0
  scause := 0
  stval := 0
  satp := 0
  pmpaddr0 := 0
  pmpcfg0 := 0
  memory := image initTables

theorem exampleConfig_loaded : Loaded exampleConfig exampleWidth exampleSymbols where
  rom := by
    intro entry listed
    simp only [bootEntries, List.mem_cons, List.not_mem_nil, or_false] at listed
    rcases listed with rfl | rfl | rfl <;> exact of_decide_eq_true (by decide +kernel)
  text := of_decide_eq_true (by decide +kernel)
  handler := of_decide_eq_true (by decide +kernel)
  supervisor := of_decide_eq_true (by decide +kernel)
  aligned := by decide

theorem exampleReset_atReset : AtReset exampleReset where
  entry := by decide
  mode := rfl
  bare := by decide
  undelegated := rfl
  tables := initTables_held

end PhantomTrails.Init
