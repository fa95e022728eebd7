import Mathlib.Data.Fin.Basic
import Mathlib.Data.List.FinRange

namespace PhantomTrails

/-! # The reorder buffer

`uarch/Rob.h`: a snapshot of the two-bank reorder buffer, and the search for
the instruction that wrote a tainted register.
-/

def firstRow : Fin 32 := 0

def firstBank : Fin 2 := 0

/-- `(i + 1) % ROB_SIZE`. -/
abbrev nextRow (i : Fin 32) : Fin 32 := i + 1

structure RobSignals where
  pc : UInt64 := 0
  valid : Bool := false
  busy : Bool := false
  uopcode : UInt8 := 0
  exception : Bool := false
  brMask : UInt16 := 0
  dst : UInt64 := 0
  dst_type : UInt8 := 0
deriving DecidableEq, Repr

/-- The ROB signals of the simulation; the pointers are five bits wide. -/
structure RobTop where
  head : Fin 32 := firstRow
  tail : Fin 32 := firstRow
  slot : Fin 32 → Fin 2 → RobSignals := fun _ _ => {}

/-- Represents an entry in the ReOrder buffer.  The raw instruction word is
left out: only debug builds print it. -/
structure RobEntry extends RobSignals where
  robBank : Fin 2 := firstBank
  robIdx : Fin 32 := firstRow
deriving DecidableEq, Repr

structure RobState where
  head : Fin 32 := firstRow
  tail : Fin 32 := firstRow
  entry : Fin 32 → Fin 2 → RobEntry := fun _ _ => {}

abbrev BusyMask := UInt32 × UInt32

namespace RobTop

def busyBits (top : RobTop) (bank : Fin 2) : UInt32 :=
  (List.finRange 32).foldl
    (fun mask i => mask ||| if (top.slot i bank).valid && (top.slot i bank).busy
      then 1 <<< UInt32.ofNat i.val else 0) 0

def getRobBusyMask (top : RobTop) : BusyMask := (top.busyBits 0, top.busyBits 1)

end RobTop

namespace RobState

def DEST_UNUSED : UInt8 := 2

def readFrom (top : RobTop) : RobState where
  head := top.head
  tail := top.tail
  entry := fun i j => { top.slot i j with
    dst_type := (top.slot i j).dst_type &&& 3
    robBank := j
    robIdx := i }

def isEmpty (rob : RobState) : Bool := !(rob.entry rob.head 0).valid && !(rob.entry rob.head 1).valid

def getHeadBank (rob : RobState) : Fin 2 := if (rob.entry rob.head 0).valid then 0 else 1

def getHead (rob : RobState) : RobEntry := rob.entry rob.head rob.getHeadBank

def isHead (rob : RobState) (entry : RobEntry) : Bool :=
  entry.robIdx == rob.head && entry.robBank == rob.getHeadBank

def isSet (mask : UInt32) (i : Fin 32) : Bool := mask &&& (1 <<< UInt32.ofNat i.val) != 0

def getDiff (rob : RobState) (oldMask newMask : BusyMask) : List RobEntry :=
  let firstDiff := oldMask.1 &&& ~~~newMask.1
  let secondDiff := oldMask.2 &&& ~~~newMask.2
  (List.finRange 32).flatMap fun i =>
    (if isSet firstDiff i then [rob.entry i 0] else []) ++
      if isSet secondDiff i then [rob.entry i 1] else []

def writesTainted (addr : UInt64) (entry : RobEntry) : Bool :=
  entry.dst * 8 == addr && entry.dst_type != DEST_UNUSED

/-- The banks of row `i` that use the tainted entry as destination, invalid
entries at the head skipped. -/
def matchesIn (rob : RobState) (addr : UInt64) (i : Fin 32) : List (Fin 32 × Fin 2) :=
  ((List.finRange 2).filter fun j =>
    !(i == rob.head && decide (j < rob.getHeadBank)) &&
      (writesTainted addr (rob.entry i j) && (rob.entry i j).valid)).map fun j => (i, j)

/-- The loop over the rows from `i` on; `first` stays set while it is on the
head row it started with, so that a full ROB is walked around once. -/
def useTaintedRegister (rob : RobState) (addr : UInt64) :
    (rows : Nat) → (i : Fin 32) → (first : Bool) → Option (List (Fin 32 × Fin 2))
  | 0, _, _ => none
  | rows + 1, i, first =>
      let first := first && i == rob.head
      if i = rob.tail ∧ first = false then some (rob.matchesIn addr i)
      else (rob.useTaintedRegister addr rows (i + 1) first).map (rob.matchesIn addr i ++ ·)

theorem useTaintedRegister_isSome_of_distance {rob : RobState} {addr : UInt64} {rows : Nat}
    {i : Fin 32} {first : Bool} (started : (first && i == rob.head) = false)
    (enough : (rob.tail - i).val < rows) : (rob.useTaintedRegister addr rows i first).isSome := by
  induction rows generalizing i first with
  | zero => omega
  | succ rows ih =>
      simp only [useTaintedRegister, started, and_true]
      split
      · rfl
      · rename_i more
        have apart : i.val ≠ rob.tail.val := fun same => more (Fin.ext same)
        have closer : (rob.tail - (i + 1)).val < rows := by
          simp only [Fin.sub_def, Fin.val_add, Fin.val_one] at enough ⊢
          omega
        rw [Option.isSome_map]
        exact ih (Bool.false_and _) closer

/-- The search ends: 33 rows lead around the buffer and back to the head row. -/
theorem useTaintedRegister_isSome (rob : RobState) (addr : UInt64) :
    (rob.useTaintedRegister addr 33 rob.head true).isSome := by
  rw [useTaintedRegister]
  simp only [Bool.true_and, beq_self_eq_true, reduceCtorEq, and_false, if_false, Option.isSome_map]
  have left : (true && rob.head + 1 == rob.head) = false := by
    simp only [Bool.true_and, beq_eq_false_iff_ne, ne_eq, Fin.ext_iff, Fin.val_add, Fin.val_one]
    omega
  exact useTaintedRegister_isSome_of_distance left (Fin.isLt _)

/-- Find which instruction is responsible for the taint.  If more than one
uses the register, see which one got unbusied in the last clock cycle. -/
def getTaintingInstruction (rob : RobState) (previouslyBusy currentlyBusy : BusyMask)
    (addr : UInt64) : RobEntry :=
  if rob.isEmpty then {}
  else
    let addr := addr - addr % 8
    match (rob.useTaintedRegister addr 33 rob.head true).get (rob.useTaintedRegister_isSome addr) with
    | [] => {}
    | [slot] => rob.entry slot.1 slot.2
    | _ => (rob.getDiff previouslyBusy currentlyBusy).foldl
        (fun taintInstr inst => if writesTainted addr inst then inst else taintInstr) rob.getHead

theorem mem_getDiff {rob : RobState} {oldMask newMask : BusyMask} {inst : RobEntry}
    (member : inst ∈ rob.getDiff oldMask newMask) : ∃ i j, inst = rob.entry i j := by
  simp only [getDiff, List.mem_flatMap, List.mem_append] at member
  obtain ⟨i, -, first | second⟩ := member
  · split at first
    · exact ⟨i, 0, List.mem_singleton.mp first⟩
    · cases first
  · split at second
    · exact ⟨i, 1, List.mem_singleton.mp second⟩
    · cases second

theorem getTaintingInstruction_cases (rob : RobState) (previouslyBusy currentlyBusy : BusyMask)
    (addr : UInt64) :
    rob.getTaintingInstruction previouslyBusy currentlyBusy addr = {} ∨
      ∃ i j, rob.getTaintingInstruction previouslyBusy currentlyBusy addr = rob.entry i j := by
  rw [getTaintingInstruction]
  split
  · exact .inl rfl
  · dsimp only
    split
    · exact .inl rfl
    · exact .inr ⟨_, _, rfl⟩
    · refine .inr ?_
      have candidates : ∀ inst ∈ rob.getDiff previouslyBusy currentlyBusy, ∃ i j, inst = rob.entry i j :=
        fun _ => mem_getDiff
      generalize rob.getDiff previouslyBusy currentlyBusy = unbusy at candidates ⊢
      have head : ∃ i j, rob.getHead = rob.entry i j := ⟨_, _, rfl⟩
      generalize rob.getHead = taintInstr at head ⊢
      induction unbusy generalizing taintInstr with
      | nil => exact head
      | cons inst rest ih =>
          obtain ⟨now, later⟩ := List.forall_mem_cons.mp candidates
          rw [List.foldl_cons]
          split
          · exact ih later inst now
          · exact ih later taintInstr head

theorem readFrom_getTaintingInstruction {top : RobTop} {previouslyBusy currentlyBusy : BusyMask}
    {addr : UInt64} {taintInstr : RobEntry}
    (found : (readFrom top).getTaintingInstruction previouslyBusy currentlyBusy addr = taintInstr)
    (valid : taintInstr.valid = true) :
    (readFrom top).entry taintInstr.robIdx taintInstr.robBank = taintInstr := by
  subst found
  rcases getTaintingInstruction_cases (readFrom top) previouslyBusy currentlyBusy addr with none | some
  · rw [none] at valid
    cases valid
  · obtain ⟨i, j, same⟩ := some
    rw [same]
    rfl

/-- The rows from `i` on, around the buffer. -/
def rowsFrom : (i : Fin 32) → (count : Nat) → List (Fin 32)
  | _, 0 => []
  | i, count + 1 => i :: rowsFrom (i + 1) count

theorem mem_rowsFrom {row i : Fin 32} {count : Nat} :
    row ∈ rowsFrom i count ↔ (row - i).val < count := by
  induction count generalizing i with
  | zero => simp [rowsFrom]
  | succ count ih =>
      rw [rowsFrom, List.mem_cons, ih]
      by_cases here : row = i
      · simp [here]
      · have apart : row.val ≠ i.val := fun same => here (Fin.ext same)
        simp only [here, false_or, Fin.sub_def, Fin.val_add, Fin.val_one]
        omega

/-- Less than once around, no row comes up twice. -/
theorem nodup_rowsFrom {i : Fin 32} {count : Nat} (once : count ≤ 32) : (rowsFrom i count).Nodup := by
  induction count generalizing i with
  | zero => exact List.nodup_nil
  | succ count ih =>
      apply List.nodup_cons.mpr ⟨fun again => ?_, ih (by omega)⟩
      have wrapped := mem_rowsFrom.mp again
      simp only [Fin.sub_def, Fin.val_add, Fin.val_one] at wrapped
      omega

/-- The rows behind the head row; with `head = tail` they lead back to it. -/
def rowsBehindHead (rob : RobState) : List (Fin 32) :=
  rowsFrom (rob.head + 1) ((rob.tail - (rob.head + 1)).val + 1)

end RobState

end PhantomTrails
