import PhantomTrails.Detection.CrashInfo
import PhantomTrails.Detection.TaintSearch

namespace PhantomTrails

open Foundation

/-! # The taint sinks

`checkTaintSinks` finds the first tainted byte of the two register files, and
`recordTaint` looks for the instruction that wrote it.  The search is handed
the byte offset alone, not the file it lies in.
-/

namespace SinkType

/-- 80 integer registers of eight bytes, 60 floating-point registers of three
32-bit words. -/
def IREGFILE_SIZE : Nat := 80 * 8

def FPREGFILE_SIZE : Nat := 60 * (3 * 4)

def size : SinkType → Nat
  | .iregfile => IREGFILE_SIZE
  | .fpregfile => FPREGFILE_SIZE
  | .none => 0

/-- The bytes of one register of the file. -/
def stride : SinkType → Nat
  | .iregfile => 8
  | .fpregfile => 12
  | .none => 0

/-- The destination type of the instructions that write to the file. -/
def destType : SinkType → UInt8
  | .iregfile => 0
  | .fpregfile => 1
  | .none => RobState.DEST_UNUSED

end SinkType

/-- The loop over the bytes from `i` on.  In verbose mode it goes on behind
the first tainted byte, to report every single one. -/
def checkRegFile (verbose : Bool) (tainted : Nat → Bool) :
    (left i : Nat) → (maybeTaintAddr : Option Nat) → Option Nat
  | 0, _, maybeTaintAddr => maybeTaintAddr
  | left + 1, i, maybeTaintAddr =>
      if tainted i then
        if verbose = false then some i
        else checkRegFile verbose tainted left (i + 1) (maybeTaintAddr.or (some i))
      else checkRegFile verbose tainted left (i + 1) maybeTaintAddr

/-- The two register files by their tainted bytes. -/
def checkTaintSinks (verbose : Bool) (iregfile fpregfile : Nat → Bool) : Option TaintInfo :=
  match checkRegFile verbose iregfile SinkType.IREGFILE_SIZE 0 none with
  | some addr => some ⟨.iregfile, UInt64.ofNat addr⟩
  | none =>
      (checkRegFile verbose fpregfile SinkType.FPREGFILE_SIZE 0 none).map
        fun addr => ⟨.fpregfile, UInt64.ofNat addr⟩

theorem checkRegFile_some {verbose : Bool} {tainted : Nat → Bool} {left i addr : Nat}
    (found : checkRegFile verbose tainted left i none = some addr) :
    i ≤ addr ∧ addr < i + left ∧ tainted addr = true := by
  have kept : ∀ left i first, checkRegFile true tainted left i (some first) = some first := by
    intro left
    induction left with
    | zero => exact fun _ _ => rfl
    | succ left ih =>
        intro i first
        simp only [checkRegFile, reduceCtorEq, if_false, Option.some_or, ih, ite_self]
  induction left generalizing i with
  | zero => cases found
  | succ left ih =>
      rw [checkRegFile] at found
      by_cases here : tainted i = true
      · have first : addr = i := by
          cases verbose <;> simp_all
        subst first
        exact ⟨Nat.le_refl _, by omega, here⟩
      · rw [if_neg here] at found
        obtain ⟨lower, upper, holds⟩ := ih found
        exact ⟨by omega, by omega, holds⟩

/-- The offset that is reported lies in the file it is reported for. -/
theorem checkTaintSinks_inside {verbose : Bool} {iregfile fpregfile : Nat → Bool}
    {taintInfo : TaintInfo} (found : checkTaintSinks verbose iregfile fpregfile = some taintInfo) :
    taintInfo.addr.toNat < taintInfo.sink.size := by
  rw [checkTaintSinks] at found
  split at found
  · rename_i addr hit
    obtain ⟨-, upper, -⟩ := checkRegFile_some hit
    cases found
    simp only [SinkType.size, SinkType.IREGFILE_SIZE, UInt64.toNat_ofNat'] at upper ⊢
    omega
  · obtain ⟨addr, hit, rfl⟩ := Option.map_eq_some_iff.mp found
    obtain ⟨-, upper, -⟩ := checkRegFile_some hit
    simp only [SinkType.size, SinkType.FPREGFILE_SIZE, UInt64.toNat_ofNat'] at upper ⊢
    omega

namespace RobState

variable {rob : RobState} {slot : Slot}

/-- The slots that `recordTaint` lets the search choose from. -/
def candidates (rob : RobState) (taintInfo : TaintInfo) : List Slot :=
  if rob.isEmpty then []
  else (rob.useTaintedRegister (taintInfo.addr - taintInfo.addr % 8) 33 rob.head true).getD []

/-- An instruction in flight that writes the register which holds the byte. -/
def WritesByte (rob : RobState) (taintInfo : TaintInfo) (slot : Slot) : Prop :=
  rob.Occupied slot ∧ (rob.entry slot.1 slot.2).valid = true ∧
    (rob.entry slot.1 slot.2).dst_type = taintInfo.sink.destType ∧
    (rob.entry slot.1 slot.2).dst.toNat = taintInfo.addr.toNat / taintInfo.sink.stride

/-- An instruction in flight whose destination, of any type, has the number
of the doubleword that holds the byte, as far as `dst * 8` tells. -/
def Doubleword (rob : RobState) (addr : UInt64) (slot : Slot) : Prop :=
  rob.Occupied slot ∧ (rob.entry slot.1 slot.2).valid = true ∧
    (rob.entry slot.1 slot.2).dst_type ≠ DEST_UNUSED ∧
    (rob.entry slot.1 slot.2).dst.toNat % 2 ^ 61 = addr.toNat / 8

instance {taintInfo : TaintInfo} : Decidable (rob.WritesByte taintInfo slot) :=
  inferInstanceAs (Decidable (_ ∧ _))

instance {addr : UInt64} : Decidable (rob.Doubleword addr slot) :=
  inferInstanceAs (Decidable (_ ∧ _))

/-- The search is good for the file: the head row is not empty, unless no
writer is in flight; doubleword and register have the same number, unless no
writer is in flight; and no other instruction has a destination of that
number. -/
structure Addressed (rob : RobState) (taintInfo : TaintInfo) : Prop where
  headed : rob.isEmpty = true → ∀ slot, ¬ rob.WritesByte taintInfo slot
  strided : taintInfo.addr.toNat / 8 = taintInfo.addr.toNat / taintInfo.sink.stride ∨
    ∀ slot, ¬ rob.WritesByte taintInfo slot
  alone : rob.isEmpty = false → ∀ slot, rob.Doubleword taintInfo.addr slot →
    (rob.entry slot.1 slot.2).dst_type = taintInfo.sink.destType ∧
      (rob.entry slot.1 slot.2).dst.toNat < 2 ^ 61 ∧
      taintInfo.addr.toNat / 8 = taintInfo.addr.toNat / taintInfo.sink.stride

theorem names_iff {addr : UInt64} :
    rob.Names addr slot ↔ (rob.entry slot.1 slot.2).dst_type ≠ DEST_UNUSED ∧
      (rob.entry slot.1 slot.2).dst.toNat % 2 ^ 61 = addr.toNat / 8 := by
  have aligned : (addr - addr % 8).toNat = addr.toNat / 8 * 8 := by
    have below : addr % 8 ≤ addr := UInt64.le_iff_toNat_le.mpr (by
      rw [UInt64.toNat_mod]
      exact Nat.mod_le _ _)
    rw [UInt64.toNat_sub_of_le _ _ below, UInt64.toNat_mod]
    simp only [UInt64.reduceToNat]
    omega
  rw [Names, ← UInt64.toNat_inj, UInt64.toNat_mul, aligned, and_comm]
  simp only [UInt64.reduceToNat]
  have bound := addr.toNat_lt
  constructor <;> rintro ⟨used, same⟩ <;> exact ⟨used, by omega⟩

theorem mem_candidates {taintInfo : TaintInfo} :
    slot ∈ rob.candidates taintInfo ↔ rob.isEmpty = false ∧ rob.Doubleword taintInfo.addr slot := by
  rw [candidates]
  split
  · simp_all
  · simp_all [useTaintedRegister_eq, mem_scan, Writes, names_iff, Doubleword]

/-- The one candidate is blamed; without any, the blank entry is. -/
theorem getTaintingInstruction_of_candidates {taintInfo : TaintInfo} {previouslyBusy currentlyBusy : BusyMask} :
    rob.getTaintingInstruction previouslyBusy currentlyBusy taintInfo.addr =
      match rob.candidates taintInfo with
      | [] => {}
      | [slot] => rob.entry slot.1 slot.2
      | _ => rob.entry (rob.suspect previouslyBusy currentlyBusy taintInfo.addr).1
          (rob.suspect previouslyBusy currentlyBusy taintInfo.addr).2 := by
  by_cases empty : rob.isEmpty = true
  · simp [candidates, getTaintingInstruction, empty]
  · have answer := @getTaintingInstruction_eq rob previouslyBusy currentlyBusy taintInfo.addr
      (by simpa using empty)
    have listed : rob.candidates taintInfo = rob.scan taintInfo.addr := by
      simp [candidates, empty, useTaintedRegister_eq]
    rw [listed]
    generalize rob.scan taintInfo.addr = scanned at answer ⊢
    rcases scanned with - | ⟨slot, - | ⟨other, rest⟩⟩ <;> exact answer

theorem destType_used {sink : SinkType} (inside : 0 < sink.size) : sink.destType ≠ DEST_UNUSED := by
  cases sink with
  | iregfile => decide
  | fpregfile => decide
  | none => exact absurd inside (Nat.lt_irrefl 0)

theorem register_lt {taintInfo : TaintInfo} (inside : taintInfo.addr.toNat < taintInfo.sink.size) :
    taintInfo.addr.toNat / taintInfo.sink.stride < 2 ^ 61 := by
  have below : taintInfo.sink.size < 2 ^ 61 := by cases taintInfo.sink <;> decide
  exact lt_of_le_of_lt (Nat.div_le_self _ _) (inside.trans below)

theorem doubleword_of_writesByte {taintInfo : TaintInfo} (inside : taintInfo.addr.toNat < taintInfo.sink.size)
    (strided : taintInfo.addr.toNat / 8 = taintInfo.addr.toNat / taintInfo.sink.stride)
    (writes : rob.WritesByte taintInfo slot) : rob.Doubleword taintInfo.addr slot := by
  obtain ⟨occupied, valid, type, register⟩ := writes
  refine ⟨occupied, valid, ?_, ?_⟩
  · rw [type]
    exact destType_used (Nat.zero_lt_of_lt inside)
  · rw [register, Nat.mod_eq_of_lt (register_lt inside), strided]

/-- The candidates are the instructions in flight that write the register with
the byte, exactly when the search is good for the file: it takes every file
for one of doublewords, and every destination for one of that file. -/
theorem candidates_writesByte_iff (rob : RobState) (taintInfo : TaintInfo)
    (inside : taintInfo.addr.toNat < taintInfo.sink.size) :
    (∀ slot, slot ∈ rob.candidates taintInfo ↔ rob.WritesByte taintInfo slot) ↔
      rob.Addressed taintInfo := by
  simp only [mem_candidates]
  constructor
  · intro covers
    refine ⟨fun empty slot writes => ?_, ?_, fun nonempty slot word => ?_⟩
    · have nonempty := ((covers slot).mpr writes).1
      rw [empty] at nonempty
      cases nonempty
    · by_cases strided : taintInfo.addr.toNat / 8 = taintInfo.addr.toNat / taintInfo.sink.stride
      · exact .inl strided
      · refine .inr fun slot writes => strided ?_
        have word := ((covers slot).mpr writes).2.2.2.2
        rw [writes.2.2.2, Nat.mod_eq_of_lt (register_lt inside)] at word
        exact word.symm
    · have writes := (covers slot).mp ⟨nonempty, word⟩
      have register := word.2.2.2
      have number := writes.2.2.2
      rw [number, Nat.mod_eq_of_lt (register_lt inside)] at register
      exact ⟨writes.2.2.1, number ▸ register_lt inside, register.symm⟩
  · intro addressed slot
    constructor
    · intro ⟨nonempty, word⟩
      obtain ⟨type, small, strided⟩ := addressed.alone nonempty slot word
      obtain ⟨occupied, valid, -, register⟩ := word
      rw [Nat.mod_eq_of_lt small, strided] at register
      exact ⟨occupied, valid, type, register⟩
    · intro writes
      have strided := addressed.strided.resolve_right fun none => none slot writes
      have nonempty : rob.isEmpty = false := by
        by_contra empty
        exact addressed.headed (by simpa using empty) slot writes
      exact ⟨nonempty, doubleword_of_writesByte inside strided writes⟩

/-- An integer instruction with destination 3 at the head, and a younger
floating-point one with destination 2. -/
def bothFiles : RobState :=
  readFrom (robOf firstRow
    [((31, 0), { valid := true, dst := 3 }), ((31, 1), { valid := true, dst := 2, dst_type := 1 })])

theorem candidates_writesByte_iff_bothFiles :
    (31, 0) ∈ bothFiles.candidates ⟨.iregfile, 24⟩ := by
  have alone : ∀ slot, bothFiles.Doubleword 24 slot → slot = (31, 0) := by
    intro slot
    obtain ⟨i, j⟩ := slot
    revert i j
    decide
  have addressed : bothFiles.Addressed ⟨.iregfile, 24⟩ := by
    refine ⟨fun empty => absurd empty (by decide), .inl rfl, fun _ slot word => ?_⟩
    rw [alone slot word]
    decide
  exact ((candidates_writesByte_iff bothFiles ⟨.iregfile, 24⟩ (by decide)).mpr addressed (31, 0)).mpr
    (by decide)

/-- Byte 24 of the floating-point file belongs to its register 2, whose writer
is passed over; the integer instruction is blamed instead. -/
theorem candidates_bothFiles :
    24 < SinkType.fpregfile.size ∧ bothFiles.WritesByte ⟨.fpregfile, 24⟩ (31, 1) ∧
      (31, 1) ∉ bothFiles.candidates ⟨.fpregfile, 24⟩ ∧
      ¬ bothFiles.WritesByte ⟨.fpregfile, 24⟩ (31, 0) ∧
      bothFiles.getTaintingInstruction (0, 0) (0, 0) 24 = bothFiles.entry 31 0 := by
  decide

end RobState

end PhantomTrails
