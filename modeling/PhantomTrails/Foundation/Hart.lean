import Mathlib.Logic.Function.Iterate
import PhantomTrails.Foundation.Run
import PhantomTrails.Foundation.Sv39

namespace Foundation.Hart

open Sv39

/-! # A RISC-V hart

The privileged architecture as far as code that enters user mode needs it:
three modes, traps and the returns from them, translation of addresses, and
the first entry of the physical memory protection.  Instructions are those of
the assembler, and a pseudo-instruction is executed at once.  No interrupt is
enabled, and no entry of the memory protection is locked.
-/

abbrev Word := BitVec 64

abbrev Reg := BitVec 5

inductive Mode where
  | user
  | supervisor
  | machine
deriving DecidableEq, Repr

inductive Csr where
  | mstatus
  | mtvec
  | mepc
  | pmpaddr0
  | pmpcfg0
  | sstatus
  | sepc
  | satp
deriving DecidableEq, Repr

inductive Instr where
  | li (rd : Reg) (value : Word)
  | lla (rd : Reg) (symbol : Word)
  | addi (rd rs : Reg) (value : Word)
  | auipc (rd : Reg) (upper : Word)
  | nop
  | jr (rs : Reg)
  | ld (rd : Reg) (offset : Word) (base : Reg)
  | sd (rs : Reg) (offset : Word) (base : Reg)
  | csrw (csr : Csr) (rs : Reg)
  | csrs (csr : Csr) (rs : Reg)
  | csrc (csr : Csr) (rs : Reg)
  | mret
  | sret
  | unimp
deriving DecidableEq, Repr

structure State where
  pc : Word
  mode : Mode
  regs : Reg → Word
  mstatus : Word
  mtvec : Word
  mepc : Word
  mcause : Word
  mtval : Word
  medeleg : Word
  stvec : Word
  sepc : Word
  scause : Word
  stval : Word
  satp : Word
  pmpaddr0 : Word
  pmpcfg0 : Word
  memory : Store UInt8

/-- What the hardware and its memory are built with: if page-table entries are
marked by hardware, and the instruction at a physical address with its size. -/
structure Config where
  updates : Bool
  code : Nat → Option (Instr × Nat)

/-- The cause and the value of an exception. -/
structure Exception where
  cause : Nat
  value : Word
deriving DecidableEq, Repr

/-! ## Fields of the status register -/

def SIE : Nat := 1
def MIE : Nat := 3
def SPIE : Nat := 5
def MPIE : Nat := 7
def SPP : Nat := 8
def MPP : Nat := 11
def MPRV : Nat := 17
def SUM : Nat := 18
def MXR : Nat := 19
def TVM : Nat := 20
def TSR : Nat := 22

def setBit (word : Word) (bit : Nat) (value : Bool) : Word :=
  if value then word ||| BitVec.twoPow 64 bit else word &&& ~~~BitVec.twoPow 64 bit

@[simp] theorem getLsbD_setBit (word : Word) {bit : Nat} (inside : bit < 64) (value : Bool) (other : Nat) :
    (setBit word bit value).getLsbD other = if other = bit then value else word.getLsbD other := by
  cases value with
  | true =>
      simp only [setBit, if_true, BitVec.getLsbD_or, BitVec.getLsbD_twoPow]
      by_cases same : other = bit
      · simp [same, inside]
      · simp [same, Ne.symm same]
  | false =>
      simp only [setBit, Bool.false_eq_true, if_false, BitVec.getLsbD_and, BitVec.getLsbD_not,
        BitVec.getLsbD_twoPow]
      by_cases same : other = bit
      · simp [same, inside]
      · by_cases small : other < 64
        · simp [same, Ne.symm same, small]
        · simp [same, small, BitVec.getLsbD_of_ge word other (by omega)]

theorem and_not_eq_self {word mask : Word} (apart : word &&& mask = 0) : word &&& ~~~mask = word := by
  apply BitVec.eq_of_getLsbD_eq
  intro bit inside
  have both := congrArg (·.getLsbD bit) apart
  simp only [BitVec.getLsbD_and] at both
  rw [BitVec.getLsbD_and, BitVec.getLsbD_not]
  cases held : word.getLsbD bit with
  | false => simp
  | true => simpa [held, inside] using both

/-- The mode that `mret` returns to. -/
def machinePrevious (mstatus : Word) : Mode :=
  if mstatus.getLsbD (MPP + 1) then .machine
  else if mstatus.getLsbD MPP then .supervisor
  else .user

def setMachinePrevious (mstatus : Word) (mode : Mode) : Word :=
  setBit (setBit mstatus MPP (mode != .user)) (MPP + 1) (mode == .machine)

def supervisorPrevious (mstatus : Word) : Mode :=
  if mstatus.getLsbD SPP then .supervisor else .user

/-- The fields of `mstatus` that `sstatus` shows and writes. -/
def sstatusMask : Word := 0xc6722

namespace State

def reg (s : State) (r : Reg) : Word := if r = 0 then 0 else s.regs r

def set (s : State) (rd : Reg) (value : Word) : State :=
  { s with regs := Function.update s.regs rd value }

/-! ## Traps and returns -/

def trap (s : State) (exception : Exception) : State :=
  if s.mode ≠ .machine ∧ s.medeleg.getLsbD exception.cause = true then
    { s with
      pc := s.stvec &&& ~~~3
      mode := .supervisor
      sepc := s.pc
      scause := BitVec.ofNat 64 exception.cause
      stval := exception.value
      mstatus := setBit (setBit (setBit s.mstatus SPIE (s.mstatus.getLsbD SIE)) SIE false) SPP
        (s.mode == .supervisor) }
  else
    { s with
      pc := s.mtvec &&& ~~~3
      mode := .machine
      mepc := s.pc
      mcause := BitVec.ofNat 64 exception.cause
      mtval := exception.value
      mstatus := setMachinePrevious
        (setBit (setBit s.mstatus MPIE (s.mstatus.getLsbD MIE)) MIE false) s.mode }

theorem trap_memory (s : State) (exception : Exception) : (s.trap exception).memory = s.memory := by
  rw [trap]
  split <;> rfl

/-- A mode below machine mode is entered with `MPRV` cleared. -/
def mret (s : State) : State :=
  let mode := machinePrevious s.mstatus
  let mstatus := setMachinePrevious
    (setBit (setBit s.mstatus MIE (s.mstatus.getLsbD MPIE)) MPIE true) .user
  { s with
    pc := s.mepc
    mode
    mstatus := if mode = .machine then mstatus else setBit mstatus MPRV false }

def sret (s : State) : State :=
  { s with
    pc := s.sepc
    mode := supervisorPrevious s.mstatus
    mstatus := setBit (setBit (setBit (setBit s.mstatus SIE (s.mstatus.getLsbD SPIE)) SPIE true) SPP
      false) MPRV false }

/-- The fields that neither return writes. -/
def Lasting (bit : Nat) : Prop :=
  bit ≠ SIE ∧ bit ≠ MIE ∧ bit ≠ SPIE ∧ bit ≠ MPIE ∧ bit ≠ SPP ∧ bit ≠ MPP ∧ bit ≠ MPP + 1 ∧ bit ≠ MPRV

instance (bit : Nat) : Decidable (Lasting bit) := inferInstanceAs (Decidable (_ ∧ _))

theorem getLsbD_mret (s : State) {bit : Nat} (lasting : Lasting bit) :
    s.mret.mstatus.getLsbD bit = s.mstatus.getLsbD bit := by
  obtain ⟨-, mie, -, mpie, -, mpp, mpp', mprv⟩ := lasting
  have small : MIE < 64 ∧ MPIE < 64 ∧ MPP < 64 ∧ MPP + 1 < 64 ∧ MPRV < 64 := by decide
  simp only [mret, setMachinePrevious]
  split
  · simp [small, mie, mpie, mpp, mpp']
  · simp [small, mie, mpie, mpp, mpp', mprv]

/-! ## Memory accesses -/

/-- The mode whose rights an access has. -/
def modeOf (s : State) (access : Access) : Mode :=
  if s.mode = .machine ∧ s.mstatus.getLsbD MPRV = true ∧ access ≠ .fetch then
    machinePrevious s.mstatus
  else s.mode

def pageFault : Access → Nat
  | .fetch => 12
  | .load => 13
  | .store => 15

def accessFault : Access → Nat
  | .fetch => 1
  | .load => 5
  | .store => 7

def privilegeOf : Mode → Privilege
  | .user => .user
  | _ => .supervisor

/-- The physical address of an access, before physical memory protection. -/
def translate (s : State) (updates : Bool) (va : Word) (access : Access) :
    Except Exception Translation :=
  if s.modeOf access = .machine ∨ s.satp.extractLsb' 60 4 = 0 then
    .ok { paddr := va.toNat, memory := s.memory }
  else if sv39 : s.satp.extractLsb' 60 4 = 8 then
    let env : Env :=
      { satp := s.satp
        sv39
        privilege := privilegeOf (s.modeOf access)
        sum := s.mstatus.getLsbD SUM
        mxr := s.mstatus.getLsbD MXR
        updates }
    match Sv39.translate env s.memory va access with
    | some translation => .ok translation
    | none => .error ⟨pageFault access, va⟩
  else .error ⟨pageFault access, va⟩

end State

/-- The number of ones at the low end. -/
def trailingOnes : (bits : Nat) → Word → Nat
  | 0, _ => 0
  | bits + 1, word => if word.getLsbD 0 then trailingOnes bits (word >>> 1) + 1 else 0

namespace State

/-- The addresses of the first entry of the memory protection: none, those
below its address, four bytes, or a naturally aligned power of two. -/
def pmpMatches (s : State) (paddr : Nat) : Bool :=
  match (s.pmpcfg0.extractLsb' 3 2).toNat with
  | 0 => false
  | 1 => decide (paddr < s.pmpaddr0.toNat * 4)
  | 2 => decide (paddr / 4 = s.pmpaddr0.toNat)
  | _ =>
      let size := 2 ^ (trailingOnes 54 s.pmpaddr0 + 3)
      decide (paddr / size = s.pmpaddr0.toNat * 4 / size)

def pmpPermits (s : State) (access : Access) (paddr : Nat) : Bool :=
  decide (s.modeOf access = .machine) || s.pmpMatches paddr &&
    match access with
    | .load => s.pmpcfg0.getLsbD 0
    | .store => s.pmpcfg0.getLsbD 1
    | .fetch => s.pmpcfg0.getLsbD 2

/-- An access by the hart: its physical address and what it leaves in the
page tables. -/
def access (s : State) (updates : Bool) (va : Word) (access : Access) :
    Except Exception Translation :=
  match s.translate updates va access with
  | .ok translation =>
      if s.pmpPermits access translation.paddr then .ok translation
      else .error ⟨accessFault access, va⟩
  | .error exception => .error exception

/-! ## Control registers -/

def illegal : Exception := ⟨2, 0⟩

/-- The least mode that may access a control register. -/
def csrOwner : Csr → Mode
  | .mstatus | .mtvec | .mepc | .pmpaddr0 | .pmpcfg0 => .machine
  | .sstatus | .sepc | .satp => .supervisor

def mayAccess (s : State) (csr : Csr) : Bool :=
  match s.mode, csrOwner csr with
  | .machine, _ => true
  | .supervisor, .supervisor => !(decide (csr = .satp) && s.mstatus.getLsbD TVM)
  | _, _ => false

def readCsr (s : State) : Csr → Word
  | .mstatus => s.mstatus
  | .mtvec => s.mtvec
  | .mepc => s.mepc
  | .pmpaddr0 => s.pmpaddr0
  | .pmpcfg0 => s.pmpcfg0
  | .sstatus => s.mstatus &&& sstatusMask
  | .sepc => s.sepc
  | .satp => s.satp

/-- A write to `satp` that asks for a mode the hart does not have is ignored. -/
def writeCsr (s : State) (value : Word) : Csr → State
  | .mstatus => { s with mstatus := value }
  | .mtvec => { s with mtvec := value }
  | .mepc => { s with mepc := value &&& ~~~1 }
  | .pmpaddr0 => { s with pmpaddr0 := value &&& 0x3fffffffffffff }
  | .pmpcfg0 => { s with pmpcfg0 := value }
  | .sstatus => { s with mstatus := s.mstatus &&& ~~~sstatusMask ||| value &&& sstatusMask }
  | .sepc => { s with sepc := value &&& ~~~1 }
  | .satp =>
      if value.extractLsb' 60 4 = 0 ∨ value.extractLsb' 60 4 = 8 then { s with satp := value } else s

def csrUpdate (s : State) (csr : Csr) (value : Word) : Except Exception State :=
  if s.mayAccess csr then .ok (s.writeCsr value csr) else .error illegal

/-! ## Execution -/

/-- What an instruction does that is followed by the next one. -/
def effect (updates : Bool) (s : State) : Instr → Except Exception State
  | .li rd value => .ok (s.set rd value)
  | .lla rd symbol => .ok (s.set rd symbol)
  | .addi rd rs value => .ok (s.set rd (s.reg rs + value))
  | .auipc rd upper => .ok (s.set rd (s.pc + upper))
  | .nop => .ok s
  | .ld rd offset base =>
      let va := s.reg base + offset
      if va.toNat % 8 ≠ 0 then .error ⟨4, va⟩
      else
        match s.access updates va .load with
        | .ok translation =>
            .ok ({ s with memory := translation.memory }.set rd (word translation.memory translation.paddr))
        | .error exception => .error exception
  | .sd rs offset base =>
      let va := s.reg base + offset
      if va.toNat % 8 ≠ 0 then .error ⟨6, va⟩
      else
        match s.access updates va .store with
        | .ok translation =>
            .ok { s with memory := storeWord translation.memory translation.paddr (s.reg rs) }
        | .error exception => .error exception
  | .csrw csr rs => s.csrUpdate csr (s.reg rs)
  | .csrs csr rs => s.csrUpdate csr (s.readCsr csr ||| s.reg rs)
  | .csrc csr rs => s.csrUpdate csr (s.readCsr csr &&& ~~~s.reg rs)
  | .jr _ | .mret | .sret | .unimp => .error illegal

def advance (s : State) (size : Nat) : State := { s with pc := s.pc + BitVec.ofNat 64 size }

def execute (updates : Bool) (s : State) (size : Nat) : Instr → Except Exception State
  | .jr rs => .ok { s with pc := s.reg rs &&& ~~~1 }
  | .mret => if s.mode = .machine then .ok s.mret else .error illegal
  | .sret =>
      if s.mode = .machine ∨ s.mode = .supervisor ∧ s.mstatus.getLsbD TSR = false then .ok s.sret
      else .error illegal
  | .unimp => .error illegal
  | instr =>
      match s.effect updates instr with
      | .ok after => .ok (after.advance size)
      | .error exception => .error exception

/-- The memory as the fetch leaves it, and what it finds. -/
def fetch (config : Config) (s : State) : Except Exception (Store UInt8 × Instr × Nat) :=
  match s.access config.updates s.pc .fetch with
  | .ok translation =>
      match config.code translation.paddr with
      | some (instr, size) => .ok (translation.memory, instr, size)
      | none => .error illegal
  | .error exception => .error exception

def step (config : Config) (s : State) : State :=
  match s.fetch config with
  | .ok (memory, instr, size) =>
      match execute config.updates { s with memory } size instr with
      | .ok after => after
      | .error exception => { s with memory }.trap exception
  | .error exception => s.trap exception

/-! ## Straight-line code -/

/-- The instructions of a block one after the other, without their fetches. -/
def next (updates : Bool) (width : Instr → Nat) : Machine State Instr Exception := fun s instr =>
  match s.effect updates instr with
  | .ok after => .ok (after.advance (width instr))
  | .error exception => .error exception

end State

/-- The block lies at an address, each instruction behind the one before and
where `page` allows. -/
def Placed (config : Config) (width : Instr → Nat) (page : Word → Prop) : Word → List Instr → Prop
  | _, [] => True
  | addr, instr :: rest =>
      (page addr ∧ config.code addr.toNat = some (instr, width instr)) ∧
        Placed config width page (addr + BitVec.ofNat 64 (width instr)) rest

instance Placed.decidable (config : Config) (width : Instr → Nat) (page : Word → Prop) [DecidablePred page] :
    (addr : Word) → (block : List Instr) → Decidable (Placed config width page addr block)
  | _, [] => inferInstanceAs (Decidable True)
  | addr, instr :: rest =>
      have := Placed.decidable config width page (addr + BitVec.ofNat 64 (width instr)) rest
      inferInstanceAs (Decidable ((_ ∧ _) ∧ _))

def blockSize (width : Instr → Nat) (block : List Instr) : Nat := (block.map width).sum

variable {config : Config} {width : Instr → Nat} {page : Word → Prop} {s after final : State}
  {block : List Instr}

/-- Code stays where it is when more is loaded. -/
theorem Placed.mono {other : Config} {addr : Word}
    (more : ∀ paddr found, config.code paddr = some found → other.code paddr = some found)
    (placed : Placed config width page addr block) : Placed other width page addr block := by
  induction block generalizing addr with
  | nil => trivial
  | cons instr rest ih => exact ⟨⟨placed.1.1, more _ _ placed.1.2⟩, ih placed.2⟩

theorem Placed.append {addr : Word} {first second : List Instr}
    (placed : Placed config width page addr (first ++ second)) :
    Placed config width page addr first ∧
      Placed config width page (addr + BitVec.ofNat 64 (blockSize width first)) second := by
  induction first generalizing addr with
  | nil =>
      rw [blockSize, List.map_nil, List.sum_nil, BitVec.add_zero]
      exact ⟨trivial, placed⟩
  | cons instr rest ih =>
      obtain ⟨here, later⟩ := ih placed.2
      refine ⟨⟨placed.1, here⟩, ?_⟩
      rw [blockSize, List.map_cons, List.sum_cons, BitVec.ofNat_add, ← BitVec.add_assoc]
      exact later

namespace State

/-- The fetch reaches the physical address of the same number. -/
def Fetches (config : Config) (s : State) : Prop :=
  s.access config.updates s.pc .fetch = .ok { paddr := s.pc.toNat, memory := s.memory }

/-- Straight-line instructions stay where they are and in their mode. -/
theorem effect_stays {updates : Bool} {instr : Instr} (done : s.effect updates instr = .ok after) :
    after.pc = s.pc ∧ after.mode = s.mode := by
  have csr : ∀ {csr : Csr} {value : Word}, s.csrUpdate csr value = .ok after →
      after.pc = s.pc ∧ after.mode = s.mode := by
    intro csr value written
    simp only [csrUpdate] at written
    split at written
    · cases written
      cases csr with
      | satp =>
          simp only [writeCsr]
          split <;> exact ⟨rfl, rfl⟩
      | _ => exact ⟨rfl, rfl⟩
    · cases written
  cases instr with
  | li | lla | addi | auipc | nop =>
      cases done
      exact ⟨rfl, rfl⟩
  | ld | sd =>
      simp only [effect] at done
      split at done
      · cases done
      · split at done
        · cases done
          exact ⟨rfl, rfl⟩
        · cases done
  | csrw | csrs | csrc => exact csr done
  | jr | mret | sret | unimp => cases done

theorem execute_of_effect {updates : Bool} {size : Nat} {instr : Instr}
    (done : s.effect updates instr = .ok after) :
    s.execute updates size instr = .ok (after.advance size) := by
  cases instr with
  | jr | mret | sret | unimp => cases done
  | _ => simp only [execute, done]

theorem effect_ld {updates : Bool} {rd base : Reg} {offset : Word} {translation : Translation}
    (aligned : (s.reg base + offset).toNat % 8 = 0)
    (found : s.access updates (s.reg base + offset) .load = .ok translation) :
    s.effect updates (.ld rd offset base) =
      .ok ({ s with memory := translation.memory }.set rd (word translation.memory translation.paddr)) := by
  have even : ¬ (s.reg base + offset).toNat % 8 ≠ 0 := not_not.mpr aligned
  simp only [effect, even, if_false, found]

theorem effect_sd {updates : Bool} {rs base : Reg} {offset : Word} {translation : Translation}
    (aligned : (s.reg base + offset).toNat % 8 = 0)
    (found : s.access updates (s.reg base + offset) .store = .ok translation) :
    s.effect updates (.sd rs offset base) =
      .ok { s with memory := storeWord translation.memory translation.paddr (s.reg rs) } := by
  have even : ¬ (s.reg base + offset).toNat % 8 ≠ 0 := not_not.mpr aligned
  simp only [effect, even, if_false, found]

/-- A load or a store raises an exception unless it is aligned and its
address is found. -/
theorem effect_ld_cases (updates : Bool) (rd : Reg) (offset : Word) (base : Reg) :
    (∃ exception, s.effect updates (.ld rd offset base) = .error exception) ∨
      ∃ translation, (s.reg base + offset).toNat % 8 = 0 ∧
        s.access updates (s.reg base + offset) .load = .ok translation := by
  by_cases aligned : (s.reg base + offset).toNat % 8 = 0
  · cases found : s.access updates (s.reg base + offset) .load with
    | ok translation => exact .inr ⟨translation, aligned, rfl⟩
    | error exception =>
        have even : ¬ (s.reg base + offset).toNat % 8 ≠ 0 := not_not.mpr aligned
        exact .inl ⟨exception, by simp only [effect, even, if_false, found]⟩
  · exact .inl ⟨_, if_pos aligned⟩

theorem effect_sd_cases (updates : Bool) (rs : Reg) (offset : Word) (base : Reg) :
    (∃ exception, s.effect updates (.sd rs offset base) = .error exception) ∨
      ∃ translation, (s.reg base + offset).toNat % 8 = 0 ∧
        s.access updates (s.reg base + offset) .store = .ok translation := by
  by_cases aligned : (s.reg base + offset).toNat % 8 = 0
  · cases found : s.access updates (s.reg base + offset) .store with
    | ok translation => exact .inr ⟨translation, aligned, rfl⟩
    | error exception =>
        have even : ¬ (s.reg base + offset).toNat % 8 ≠ 0 := not_not.mpr aligned
        exact .inl ⟨exception, by simp only [effect, even, if_false, found]⟩
  · exact .inl ⟨_, if_pos aligned⟩

theorem execute_of_error {updates : Bool} {instr : Instr} {size : Nat} {exception : Exception}
    (straight : ∀ rs, instr ≠ .jr rs) (lower : s.mode = .user)
    (raised : s.effect updates instr = .error exception) :
    ∃ exception, s.execute updates size instr = .error exception := by
  cases instr with
  | jr rs => exact absurd rfl (straight rs)
  | mret | sret => exact ⟨illegal, by simp [execute, lower]⟩
  | unimp => exact ⟨illegal, rfl⟩
  | _ => exact ⟨exception, by simp only [execute, raised]⟩

theorem modeOf_fetch (s : State) : s.modeOf .fetch = s.mode := by simp [modeOf]

theorem modeOf_of_lower (lower : s.mode ≠ .machine) (access : Access) : s.modeOf access = s.mode := by
  simp [modeOf, lower]

/-- How a mode below machine mode translates. -/
def env (s : State) (updates : Bool) (sv39 : s.satp.extractLsb' 60 4 = 8) : Env where
  satp := s.satp
  sv39
  privilege := privilegeOf s.mode
  sum := s.mstatus.getLsbD SUM
  mxr := s.mstatus.getLsbD MXR
  updates

theorem translate_of_sv39 {updates : Bool} {va : Word} {access : Access} (lower : s.mode ≠ .machine)
    (sv39 : s.satp.extractLsb' 60 4 = 8) :
    s.translate updates va access =
      match Sv39.translate (s.env updates sv39) s.memory va access with
      | some translation => .ok translation
      | none => .error ⟨pageFault access, va⟩ := by
  have notBare : (8 : BitVec 4) ≠ 0 := by decide
  simp only [translate, modeOf_of_lower lower, lower, sv39, notBare, or_self, if_false, dite_true, env]

/-- Machine mode reaches every address as it is. -/
theorem machine_fetches (mode : s.mode = .machine) : s.Fetches config := by
  simp [Fetches, access, translate, modeOf_fetch, pmpPermits, mode]

/-- The first entry of the memory protection opens all of the memory. -/
structure Open (s : State) : Prop where
  address : s.pmpaddr0 = 0x3fffffffffffff
  config : s.pmpcfg0 = 0x1f

theorem Open.permits (opened : Open s) (access : Access) {paddr : Nat} (small : paddr < 2 ^ 57) :
    s.pmpPermits access paddr = true := by
  have ones : trailingOnes 54 0x3fffffffffffff = 54 := by decide
  have covers : s.pmpMatches paddr = true := by
    have region : (0x1f : Word).extractLsb' 3 2 = 3 := by decide
    have whole : (0x3fffffffffffff : Word).toNat * 4 / 2 ^ (54 + 3) = 0 := by decide
    simp only [pmpMatches, opened.address, opened.config, region, ones, whole]
    exact decide_eq_true (Nat.div_eq_of_lt small)
  cases access <;> simp [pmpPermits, covers, opened.config]

/-- Without translation, what the memory protection opens is reached as it is. -/
theorem bare_fetches (bare : s.satp.extractLsb' 60 4 = 0) (opened : Open s)
    (small : s.pc.toNat < 2 ^ 57) : s.Fetches config := by
  simp only [Fetches, access, translate, bare, or_true, if_true, opened.permits .fetch small]

/-- Some number of steps leads from one state to the other. -/
def Reaches (config : Config) (s final : State) : Prop := ∃ steps, (step config)^[steps] s = final

theorem Reaches.trans {middle : State} (first : Reaches config s middle)
    (second : Reaches config middle final) : Reaches config s final := by
  obtain ⟨steps, rfl⟩ := first
  obtain ⟨more, rfl⟩ := second
  exact ⟨more + steps, Function.iterate_add_apply _ _ _ _⟩

theorem step_of_fetches {size : Nat} {instr : Instr} (fetches : s.Fetches config)
    (here : config.code s.pc.toNat = some (instr, size))
    (done : s.execute config.updates size instr = .ok after) : s.step config = after := by
  have access : s.access config.updates s.pc .fetch = .ok { paddr := s.pc.toNat, memory := s.memory } :=
    fetches
  simp only [step, fetch, access, here, done]

theorem step_of_exception {size : Nat} {instr : Instr} {exception : Exception}
    (fetches : s.Fetches config) (here : config.code s.pc.toNat = some (instr, size))
    (raised : s.execute config.updates size instr = .error exception) :
    s.step config = s.trap exception := by
  have access : s.access config.updates s.pc .fetch = .ok { paddr := s.pc.toNat, memory := s.memory } :=
    fetches
  simp only [step, fetch, access, here, raised]

/-- Straight-line code runs to its end when each of its states can fetch. -/
theorem reaches_of_block {legal : Instr → Prop} {ready : State → Prop}
    (fetches : ∀ s, ready s → page s.pc → s.Fetches config)
    (keeps : Machine.Keeps (next config.updates width) (fun _ instr => legal instr) ready)
    (lawful : ∀ instr ∈ block, legal instr) (start : ready s)
    (placed : Placed config width page s.pc block)
    (ran : Machine.run (next config.updates width) s block = .ok final) : Reaches config s final := by
  induction block generalizing s with
  | nil =>
      cases ran
      exact ⟨0, rfl⟩
  | cons instr rest ih =>
      obtain ⟨now, later⟩ := List.forall_mem_cons.mp lawful
      obtain ⟨middle, taken, ran⟩ := Machine.run_cons_ok_iff.mp ran
      have kept := keeps s instr middle now start taken
      simp only [next] at taken
      split at taken
      · rename_i after done
        cases taken
        have fetched := fetches s start placed.1.1
        have stepped := step_of_fetches fetched placed.1.2 (execute_of_effect done)
        have pc : (after.advance (width instr)).pc = s.pc + BitVec.ofNat 64 (width instr) := by
          simp only [advance, (effect_stays done).1]
        exact .trans ⟨1, stepped⟩ (ih later kept (pc ▸ placed.2) ran)
      · cases taken

theorem next_ok_iff {updates : Bool} {instr : Instr} :
    next updates width s instr = .ok final ↔
      ∃ after, s.effect updates instr = .ok after ∧ final = after.advance (width instr) := by
  cases done : s.effect updates instr with
  | ok after => simp [next, done, eq_comm]
  | error exception => simp [next, done]

theorem run_stays {updates : Bool} (ran : Machine.run (next updates width) s block = .ok final) :
    final.pc = s.pc + BitVec.ofNat 64 (blockSize width block) ∧ final.mode = s.mode := by
  induction block generalizing s with
  | nil =>
      cases ran
      simp [blockSize]
  | cons instr rest ih =>
      obtain ⟨middle, taken, ran⟩ := Machine.run_cons_ok_iff.mp ran
      obtain ⟨after, done, rfl⟩ := next_ok_iff.mp taken
      obtain ⟨pc, mode⟩ := ih ran
      obtain ⟨stays, same⟩ := effect_stays done
      refine ⟨?_, mode.trans same⟩
      rw [pc, blockSize, blockSize, List.map_cons, List.sum_cons, BitVec.ofNat_add, ← BitVec.add_assoc]
      simp only [advance, stays]

/-- The registers after a list of assignments. -/
def assigned (regs : Reg → Word) (values : List (Reg × Word)) : Reg → Word :=
  values.foldl (fun regs value => Function.update regs value.1 value.2) regs

/-- The last assignment to a register counts. -/
theorem assigned_apply (regs : Reg → Word) (values : List (Reg × Word)) (r : Reg) :
    assigned regs values r = ((values.reverse.find? fun value => value.1 = r).map Prod.snd).getD (regs r) := by
  induction values using List.reverseRecOn with
  | nil => rfl
  | append_singleton values last ih =>
      rw [assigned, List.foldl_append, List.foldl_cons, List.foldl_nil, List.reverse_append]
      by_cases same : last.1 = r
      · simp [same]
      · rw [Function.update_of_ne (Ne.symm same)]
        simp only [assigned] at ih
        simpa [same] using ih

/-- One `li` for each assignment. -/
def assignments (values : List (Reg × Word)) : List Instr := values.map fun value => .li value.1 value.2

theorem run_assignments (updates : Bool) (width : Instr → Nat) (s : State) (values : List (Reg × Word)) :
    ∃ after, Machine.run (next updates width) s (assignments values) = .ok after ∧
      after = { s with pc := after.pc, regs := assigned s.regs values } := by
  induction values generalizing s with
  | nil => exact ⟨s, rfl, rfl⟩
  | cons value rest ih =>
      have first : next updates width s (.li value.1 value.2) =
          .ok ((s.set value.1 value.2).advance (width (.li value.1 value.2))) := rfl
      obtain ⟨after, ran, same⟩ := ih ((s.set value.1 value.2).advance (width (.li value.1 value.2)))
      exact ⟨after, (Machine.run_cons_of_ok first).trans ran, same⟩

end State

end Foundation.Hart
