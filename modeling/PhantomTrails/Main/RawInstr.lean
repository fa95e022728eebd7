import PhantomTrails.Detection.FlushBlame
import PhantomTrails.Init.PageTables
import PhantomTrails.Main.Mds

namespace PhantomTrails

open Foundation Foundation.Sv39 Init

/-! # The bytes of the flush instruction

To tell a return from another mispredicted jump, classification takes the
virtual pc of the flush instruction for a DRAM address.
-/

/-- The constants of `main.cc`. -/
def DRAM_BASE : UInt64 := 0x80000000

def DRAM_SIZE : UInt64 := 0x10000000

/-- The DRAM holds the four bytes at a physical address. -/
def SimMem.HasWord (memory : SimMem) (addr : Nat) : Prop :=
  memory.geometry.baseAddr.toNat ≤ addr ∧
    addr + 4 ≤ memory.geometry.baseAddr.toNat + memory.geometry.memSize.toNat

instance {memory : SimMem} {addr : Nat} : Decidable (memory.HasWord addr) :=
  inferInstanceAs (Decidable (_ ∧ _))

def SimMem.wordAt (memory : SimMem) (addr : Nat) : UInt32 :=
  let offset := addr - memory.geometry.baseAddr.toNat
  (memory.data offset).toUInt32 ||| (memory.data (offset + 1)).toUInt32 <<< 8 |||
    (memory.data (offset + 2)).toUInt32 <<< 16 ||| (memory.data (offset + 3)).toUInt32 <<< 24

namespace CrashInfo

/-- The record has a mispredicted jump to name. -/
structure NamesJump (crash : CrashInfo) (source : TaintSource) : Prop where
  taintFound : crash.taintFound = true
  source : source = .all ∨ source = .memory
  flushFound : crash.flushFound = true
  type : crash.flushInfo.type = .misprediction
  jump : crash.flushInfo.inst.uopcode ∈ [uopJ, uopJAL, uopJALR]

/-- Classification ends without an access outside of the DRAM, and a jump it
has to name is examined where the tables map it. -/
structure ReadsDram (crash : CrashInfo) (memory : SimMem) (retired_pcs : Finset UInt64)
    (source : TaintSource) (pages : Store UInt8) (root : Nat) : Prop where
  terminates : ∃ named, crash.classify memory retired_pcs source = .ok named
  examined : crash.NamesJump source → ∀ paddr,
    Maps pages root crash.flushInfo.inst.pc.toBitVec paddr → memory.HasWord paddr →
      getRawInstr memory crash.flushInfo.inst.pc = .ok (memory.wordAt paddr)

variable {crash : CrashInfo} {memory : SimMem} {retired_pcs : Finset UInt64} {source : TaintSource}
  {pages : Store UInt8} {env : Env} {pc : UInt64} {flushInstr : RobEntry} {paddr : Nat}

theorem getRawInstr_inside (inside : memory.HasWord pc.toNat) :
    getRawInstr memory pc = .ok (memory.wordAt pc.toNat) := by
  obtain ⟨lower, upper⟩ := inside
  have offset : (pc - memory.geometry.baseAddr).toNat = pc.toNat - memory.geometry.baseAddr.toNat :=
    UInt64.toNat_sub_of_le _ _ (UInt64.le_iff_toNat_le.mpr lower)
  simp only [getRawInstr, offset, SimMem.wordAt]
  exact if_pos (by omega)

/-- Below the base the offset wraps around to behind the DRAM. -/
theorem getRawInstr_outside (fits : memory.geometry.baseAddr.toNat + memory.geometry.memSize.toNat ≤ 2 ^ 64)
    (outside : ¬ memory.HasWord pc.toNat) : getRawInstr memory pc = .error .outOfBounds := by
  have offset := UInt64.toNat_sub pc memory.geometry.baseAddr
  have bound := pc.toNat_lt
  simp only [SimMem.HasWord] at outside
  simp only [getRawInstr]
  exact if_neg (by omega)

theorem isRet_ok_iff (fits : memory.geometry.baseAddr.toNat + memory.geometry.memSize.toNat ≤ 2 ^ 64) :
    (∃ isReturn, isRet memory flushInstr = .ok isReturn) ↔ memory.HasWord flushInstr.pc.toNat := by
  by_cases inside : memory.HasWord flushInstr.pc.toNat
  · simp [isRet, getRawInstr_inside inside, inside, bind, Except.bind, pure, Except.pure]
  · simp [isRet, getRawInstr_outside fits inside, inside, bind, Except.bind]

/-- Only a mispredicted jump makes classification read. -/
theorem classify_ok_iff (fits : memory.geometry.baseAddr.toNat + memory.geometry.memSize.toNat ≤ 2 ^ 64) :
    (∃ named, crash.classify memory retired_pcs source = .ok named) ↔
      (crash.NamesJump source → memory.HasWord crash.flushInfo.inst.pc.toNat) := by
  rw [classify_named_iff]
  split
  · rename_i clean
    exact iff_of_true ⟨_, rfl⟩ fun names => absurd (clean.symm.trans names.taintFound) (by decide)
  · rename_i tainted
    split
    · rename_i quiet
      exact iff_of_true ⟨_, rfl⟩ fun names => absurd (quiet.symm.trans names.flushFound) (by decide)
    · rename_i flushed
      split
      · rename_i other
        apply iff_of_true ⟨_, rfl⟩
        intro names
        rcases names.source with all | memory
        · exact absurd all other.1
        · exact absurd memory other.2
      · rename_i asked
        rw [flushReason_ok_iff]
        simp only [isRet_ok_iff fits]
        constructor
        · intro reads names
          exact reads names.type names.jump
        · intro inside type jump
          apply inside ⟨Bool.of_not_eq_false tainted, ?_, Bool.of_not_eq_false flushed, type, jump⟩
          by_cases all : source = .all
          · exact .inl all
          · exact .inr (Decidable.not_not.mp fun other => asked ⟨all, other⟩)

/-- Where the tables map a pc to the DRAM, its word is read unless the pc is
in the first page. -/
theorem getRawInstr_mapped_iff (base : memory.geometry.baseAddr = DRAM_BASE)
    (fits : memory.geometry.baseAddr.toNat + memory.geometry.memSize.toNat ≤ 2 ^ 64)
    (satp : env.satp = set_page_table) (held : ∀ table ∈ initTables, table.Held pages)
    (maps : Maps pages env.root pc.toBitVec paddr) (inside : memory.HasWord paddr) :
    getRawInstr memory pc = .ok (memory.wordAt paddr) ↔ 0x1000 ≤ pc.toNat := by
  have start : memory.geometry.baseAddr.toNat = 0x80000000 := congrArg UInt64.toNat base
  rcases maps_initTables satp held maps with ⟨first, -⟩ | ⟨dram, same⟩
  · have low : pc.toNat < 0x1000 := first
    have outside : ¬ memory.HasWord pc.toNat := fun ⟨lower, _⟩ => by omega
    rw [getRawInstr_outside fits outside]
    exact iff_of_false nofun (by omega)
  · have high : 0x80000000 ≤ pc.toNat := dram
    have same : paddr = pc.toNat := same
    rw [same] at inside ⊢
    exact iff_of_true (getRawInstr_inside inside) (by omega)

end CrashInfo

open CrashInfo

variable {memory : SimMem} {pages : Store UInt8} {env : Env}

/-- Whatever the detection loop records, classification reads the DRAM only,
and where it should, exactly if it has no mispredicted jump to name or the
DRAM holds the word that the pc itself points to.  Of the pcs that the tables
map to the DRAM, those in the first page are read elsewhere. -/
theorem classify_reads_dram_iff (numRetired : UInt64) (top : Top) (sim : Counters)
    (uninitialised : FlushInfo) (tops : List Top) (retired_pcs : Finset UInt64) (source : TaintSource)
    (base : memory.geometry.baseAddr = DRAM_BASE) (size : memory.geometry.memSize = DRAM_SIZE)
    (satp : env.satp = set_page_table) (held : ∀ table ∈ initTables, table.Held pages) :
    ((crashAfter numRetired (.start top sim uninitialised) tops).ReadsDram memory retired_pcs source
        pages env.root ↔
      ((crashAfter numRetired (.start top sim uninitialised) tops).NamesJump source →
        memory.HasWord
          (crashAfter numRetired (.start top sim uninitialised) tops).flushInfo.inst.pc.toNat)) ∧
      ∀ (pc : UInt64) (paddr : Nat), Maps pages env.root pc.toBitVec paddr → memory.HasWord paddr →
        (getRawInstr memory pc = .ok (memory.wordAt paddr) ↔ 0x1000 ≤ pc.toNat) := by
  have fits : memory.geometry.baseAddr.toNat + memory.geometry.memSize.toNat ≤ 2 ^ 64 := by
    rw [base, size]
    decide
  refine ⟨⟨fun reads => (classify_ok_iff fits).mp reads.terminates, ?_⟩, ?_⟩
  · intro inside
    refine ⟨(classify_ok_iff fits).mpr inside, ?_⟩
    intro names paddr maps word
    apply (getRawInstr_mapped_iff base fits satp held maps word).mpr
    have lower := (inside names).1
    have start : memory.geometry.baseAddr.toNat = 0x80000000 := congrArg UInt64.toNat base
    omega
  · intro pc paddr maps word
    exact getRawInstr_mapped_iff base fits satp held maps word

/-! ## Runs -/

/-- A jump at the head, and the load of `loadBehindHead` that depends on it. -/
def loadBehindJump (pc : UInt64) : RobTop where
  tail := firstRow.rev
  slot := fun i j =>
    if i.val = 0 ∧ j.val = 0 then { pc, valid := true, busy := true, uopcode := uopJALR, brMask := 1 }
    else if i.val = 1 ∧ j.val = 0 then { pc := pc + 4, valid := true, dst := 5, brMask := 1 }
    else { dst_type := RobState.DEST_UNUSED }

/-- The load brings a tainted value, then the jump turns out mispredicted. -/
def mispredictedJump (pc : UInt64) : List Top :=
  [{ rob := loadBehindJump pc, taintedSink := some ⟨.iregfile, 40⟩ },
   { rob := loadBehindJump pc, flush := { mispredBrMask := 1, br0 := { valid := true, mispredict := true } } }]

/-- `ret` at the second word of the user's code. -/
def returnInUserCode : SimMem where
  geometry := { SimMem.Geometry.tiny with baseAddr := DRAM_BASE, memSize := DRAM_SIZE }
  data := fun offset => if offset = 0x8004 then 0x67 else if offset = 0x8005 then 0x80 else 0

theorem classify_reads_dram_iff_mispredictedJump :
    (crashAfter 10 boot (mispredictedJump 0x80008004)).ReadsDram returnInUserCode ∅ .all
        (image initTables) userEnv.root ∧
      getRawInstr returnInUserCode 0x80008004 = .ok (returnInUserCode.wordAt 0x80008004) := by
  have fetched : physical userEnv (image initTables) (0x80008004 : UInt64).toBitVec .fetch =
      some 0x80008004 := by decide
  have inside : returnInUserCode.HasWord 0x80008004 := by decide
  have settled := @classify_reads_dram_iff returnInUserCode (image initTables) userEnv 10 {} {}
    uninitialised (mispredictedJump 0x80008004) ∅ .all rfl rfl rfl initTables_held
  refine ⟨settled.1.mpr fun _ => inside, ?_⟩
  exact (settled.2 0x80008004 0x80008004 (maps_of_physical fetched) inside).mpr (by decide)

/-- At the alias of the user's code the same `ret` is looked for behind the
DRAM. -/
theorem classify_aliasedReturn :
    (∀ table ∈ initTables, table.Held (image initTables)) ∧
      Maps (image initTables) userEnv.root (0x4 : UInt64).toBitVec 0x80008004 ∧
      returnInUserCode.HasWord 0x80008004 ∧
      returnInUserCode.wordAt 0x80008004 &&& RET_MASK = RET_RAW_BYTES ∧
      (crashAfter 10 boot (mispredictedJump 0x4)).flushInfo.inst.pc = 0x4 ∧
      getRawInstr returnInUserCode 0x4 = .error .outOfBounds ∧
      ¬ (crashAfter 10 boot (mispredictedJump 0x4)).ReadsDram returnInUserCode ∅ .all
        (image initTables) userEnv.root := by
  have names : (crashAfter 10 boot (mispredictedJump 0x4)).NamesJump .all :=
    ⟨by decide, .inl rfl, by decide, by decide, by decide⟩
  have fetched : physical userEnv (image initTables) (0x4 : UInt64).toBitVec .fetch =
      some 0x80008004 := by decide
  have pc : (crashAfter 10 boot (mispredictedJump 0x4)).flushInfo.inst.pc = 0x4 := by decide
  refine ⟨initTables_held, maps_of_physical fetched, by decide, by decide, pc, by decide, ?_⟩
  intro reads
  have inside := (classify_ok_iff (by decide)).mp reads.terminates names
  rw [pc] at inside
  exact absurd inside (by decide)

end PhantomTrails
