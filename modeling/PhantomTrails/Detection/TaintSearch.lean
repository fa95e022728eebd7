import Mathlib.Data.List.Nodup
import PhantomTrails.Detection.Rob

namespace PhantomTrails

/-! # Who wrote the tainted register

What `getTaintingInstruction` answers, in terms of the slots of the reorder
buffer: the rows its scan visits, and the slot the tie-break ends with.
-/

/-- A row of the reorder buffer and a bank. -/
abbrev Slot := Fin 32 × Fin 2

/-- The order of `getDiff`: row by row, the first bank before the second. -/
def Slot.position (slot : Slot) : Nat := 2 * slot.1.val + slot.2.val

def allSlots : List Slot := (List.finRange 32).flatMap fun i => (List.finRange 2).map fun j => (i, j)

namespace RobState

variable {rob : RobState} {previouslyBusy currentlyBusy : BusyMask} {addr : UInt64} {slot writer : Slot}

/-- The slot holds the register of the tainted address as destination, valid
or not. -/
def Names (rob : RobState) (addr : UInt64) (slot : Slot) : Prop :=
  (rob.entry slot.1 slot.2).dst * 8 = addr - addr % 8 ∧
    (rob.entry slot.1 slot.2).dst_type ≠ DEST_UNUSED

def Writes (rob : RobState) (addr : UInt64) (slot : Slot) : Prop :=
  (rob.entry slot.1 slot.2).valid = true ∧ rob.Names addr slot

/-- The row lies in the cyclic range from head to tail; with `head = tail` the
buffer may be full, and every row does. -/
def Occupied (rob : RobState) (slot : Slot) : Prop :=
  rob.head = rob.tail ∨ (slot.1 - rob.head).val ≤ (rob.tail - rob.head).val

instance : Decidable (rob.Names addr slot) := inferInstanceAs (Decidable (_ ∧ _))

instance : Decidable (rob.Writes addr slot) := inferInstanceAs (Decidable (_ ∧ _))

instance : Decidable (rob.Occupied slot) := inferInstanceAs (Decidable (_ ∨ _))

def isBusy (mask : BusyMask) (slot : Slot) : Bool :=
  isSet (if slot.2 = firstBank then mask.1 else mask.2) slot.1

/-- Busy in the cycle before, and not busy any more. -/
def Unbusied (previouslyBusy currentlyBusy : BusyMask) (slot : Slot) : Prop :=
  isBusy previouslyBusy slot = true ∧ isBusy currentlyBusy slot = false

instance : Decidable (Unbusied previouslyBusy currentlyBusy slot) :=
  inferInstanceAs (Decidable (_ ∧ _))

/-- No slot behind this one names the register and went un-busy as well. -/
structure LastUnbusied (rob : RobState) (previouslyBusy currentlyBusy : BusyMask) (addr : UInt64)
    (slot : Slot) : Prop where
  unbusied : Unbusied previouslyBusy currentlyBusy slot
  names : rob.Names addr slot
  last : ∀ later : Slot, slot.position < later.position →
    Unbusied previouslyBusy currentlyBusy later → ¬ rob.Names addr later

def NoneUnbusied (rob : RobState) (previouslyBusy currentlyBusy : BusyMask) (addr : UInt64) : Prop :=
  ∀ slot, Unbusied previouslyBusy currentlyBusy slot → ¬ rob.Names addr slot

/-! ## The scan -/

def scan (rob : RobState) (addr : UInt64) : List Slot :=
  (rob.head :: rob.rowsBehindHead).flatMap (rob.matchesIn (addr - addr % 8))

theorem useTaintedRegister_eq_of_distance {addr : UInt64} {rows : Nat} {i : Fin 32} {first : Bool}
    (started : (first && i == rob.head) = false) (enough : (rob.tail - i).val < rows) :
    rob.useTaintedRegister addr rows i first =
      some ((rowsFrom i ((rob.tail - i).val + 1)).flatMap (rob.matchesIn addr)) := by
  induction rows generalizing i first with
  | zero => omega
  | succ rows ih =>
      simp only [useTaintedRegister, started, and_true]
      split
      · rename_i reached
        simp [reached, rowsFrom]
      · rename_i more
        have apart : i.val ≠ rob.tail.val := fun same => more (Fin.ext same)
        have closer : (rob.tail - i).val = (rob.tail - (i + 1)).val + 1 := by
          simp only [Fin.sub_def, Fin.val_add, Fin.val_one]
          omega
        rw [ih (Bool.false_and _) (by omega), closer]
        simp only [rowsFrom, List.flatMap_cons, Option.map_some]

/-- The head row comes first, whether or not it is the tail row as well. -/
theorem useTaintedRegister_eq (rob : RobState) (addr : UInt64) :
    rob.useTaintedRegister (addr - addr % 8) 33 rob.head true = some (rob.scan addr) := by
  have left : (true && rob.head + 1 == rob.head) = false := by
    simp only [Bool.true_and, beq_eq_false_iff_ne, ne_eq, Fin.ext_iff, Fin.val_add, Fin.val_one]
    omega
  rw [useTaintedRegister]
  simp only [Bool.true_and, beq_self_eq_true, reduceCtorEq, and_false, if_false]
  rw [useTaintedRegister_eq_of_distance left (Fin.isLt _)]
  rfl

theorem valid_of_headBank (nonempty : rob.isEmpty = false) :
    (rob.entry rob.head rob.getHeadBank).valid = true := by
  simp only [getHeadBank]
  split
  · assumption
  · simp_all [isEmpty]

/-- A valid slot is never skipped at the head. -/
theorem mem_matchesIn {row : Fin 32} :
    slot ∈ rob.matchesIn (addr - addr % 8) row ↔ slot.1 = row ∧ rob.Writes addr slot := by
  obtain ⟨i, j⟩ := slot
  simp only [matchesIn, List.mem_map, List.mem_filter, List.mem_finRange, true_and, Prod.mk.injEq,
    Writes, Names, writesTainted, Bool.and_eq_true, beq_iff_eq, bne_iff_ne, ne_eq, Bool.not_eq_true',
    Bool.and_eq_false_iff, decide_eq_false_iff_not]
  constructor
  · rintro ⟨bank, ⟨-, names, valid⟩, rfl, rfl⟩
    exact ⟨rfl, valid, names⟩
  · rintro ⟨rfl, valid, names⟩
    refine ⟨j, ⟨?_, names, valid⟩, rfl, rfl⟩
    by_cases head : i = rob.head
    · refine .inr fun skipped => ?_
      simp only [getHeadBank] at skipped
      split at skipped
      · omega
      · have first : j = 0 := by omega
        simp_all
    · exact .inl (by simpa using head)

theorem mem_scan : slot ∈ rob.scan addr ↔ rob.Occupied slot ∧ rob.Writes addr slot := by
  simp only [scan, List.mem_flatMap, mem_matchesIn, List.mem_cons, rowsBehindHead, mem_rowsFrom,
    Occupied]
  constructor
  · rintro ⟨row, place, rfl, writes⟩
    refine ⟨?_, writes⟩
    rcases place with head | behind
    · exact .inr (by simp [head])
    · by_cases full : rob.head = rob.tail
      · exact .inl full
      · have apart : rob.head.val ≠ rob.tail.val := fun same => full (Fin.ext same)
        refine .inr ?_
        simp only [Fin.sub_def, Fin.val_add, Fin.val_one] at behind ⊢
        omega
  · intro ⟨place, writes⟩
    refine ⟨slot.1, ?_, rfl, writes⟩
    by_cases head : slot.1 = rob.head
    · exact .inl head
    · have apart : slot.1.val ≠ rob.head.val := fun same => head (Fin.ext same)
      refine .inr ?_
      rcases place with full | within
      · simp only [← full, Fin.sub_def, Fin.val_add, Fin.val_one]
        omega
      · simp only [Fin.sub_def, Fin.val_add, Fin.val_one] at within ⊢
        omega

theorem flatMap_ite_eq_replicate {α β : Type} [DecidableEq α] (keys : List α) (key : α) (value : β) :
    keys.flatMap (fun k => if k = key then [value] else []) = List.replicate (keys.count key) value := by
  induction keys with
  | nil => rfl
  | cons first rest ih =>
      rw [List.flatMap_cons, ih, List.count_cons]
      by_cases same : first = key
      · simp [same, List.replicate_succ]
      · simp [same]

theorem matchesIn_of_unique (unique : ∀ slot, rob.Writes addr slot ↔ slot = writer) (row : Fin 32) :
    rob.matchesIn (addr - addr % 8) row = if row = writer.1 then [writer] else [] := by
  have nodup : (rob.matchesIn (addr - addr % 8) row).Nodup := by
    apply List.Nodup.map (fun _ _ same => (Prod.mk.inj same).2) ?_
    exact (List.nodup_finRange 2).filter _
  split
  · rename_i here
    apply List.perm_singleton.mp ((List.perm_ext_iff_of_nodup nodup (List.nodup_singleton _)).mpr ?_)
    intro slot
    rw [mem_matchesIn, unique, List.mem_singleton, here]
    exact ⟨And.right, fun same => ⟨same ▸ rfl, same⟩⟩
  · rename_i elsewhere
    apply List.eq_nil_iff_forall_not_mem.mpr fun slot member => elsewhere ?_
    obtain ⟨here, writes⟩ := mem_matchesIn.mp member
    rw [← here, (unique slot).mp writes]

/-- The scan comes back to the head row exactly when it is the tail row too. -/
theorem scan_of_unique (unique : ∀ slot, rob.Writes addr slot ↔ slot = writer)
    (occupied : rob.Occupied writer) :
    rob.scan addr =
      if rob.head = rob.tail ∧ writer.1 = rob.head then [writer, writer] else [writer] := by
  have counted : rob.scan addr =
      List.replicate ((rob.head :: rob.rowsBehindHead).count writer.1) writer := by
    rw [scan, List.flatMap_congr fun row _ => matchesIn_of_unique unique row]
    exact flatMap_ite_eq_replicate _ _ _
  have once : rob.rowsBehindHead.Nodup := nodup_rowsFrom (Fin.isLt _)
  rw [counted, List.count_cons, List.Nodup.count once]
  simp only [rowsBehindHead, mem_rowsFrom, beq_iff_eq, eq_comm (a := rob.head) (b := writer.1)]
  by_cases full : rob.head = rob.tail
  · have around : (writer.1 - (rob.head + 1)).val < (rob.tail - (rob.head + 1)).val + 1 := by
      simp only [← full, Fin.sub_def, Fin.val_add, Fin.val_one]
      omega
    rw [if_pos around]
    by_cases head : writer.1 = rob.head
    · rw [if_pos head, if_pos ⟨full, head⟩]
      rfl
    · rw [if_neg head, if_neg fun both => head both.2]
      rfl
  · have apart : rob.head.val ≠ rob.tail.val := fun same => full (Fin.ext same)
    have within := occupied.resolve_left full
    rw [if_neg (c := rob.head = rob.tail ∧ _) fun both => full both.1]
    by_cases head : writer.1 = rob.head
    · have before : ¬ (writer.1 - (rob.head + 1)).val < (rob.tail - (rob.head + 1)).val + 1 := by
        simp only [head, Fin.sub_def, Fin.val_add, Fin.val_one]
        omega
      rw [if_neg before, if_pos head]
      rfl
    · have unequal : writer.1.val ≠ rob.head.val := fun same => head (Fin.ext same)
      have behind : (writer.1 - (rob.head + 1)).val < (rob.tail - (rob.head + 1)).val + 1 := by
        simp only [Fin.sub_def, Fin.val_add, Fin.val_one] at within ⊢
        omega
      rw [if_pos behind, if_neg head]
      rfl

/-! ## The tie-break -/

theorem isSet_eq_getLsbD (mask : UInt32) (i : Fin 32) : isSet mask i = mask.toBitVec.getLsbD i.val := by
  have bit : (1 <<< UInt32.ofNat i.val : UInt32).toBitVec = BitVec.twoPow 32 i.val := by
    revert i
    decide
  have clear : mask &&& (1 <<< UInt32.ofNat i.val) = 0 ↔ mask.toBitVec.getLsbD i.val = false := by
    rw [← UInt32.toBitVec_inj, UInt32.toBitVec_and, bit, BitVec.and_twoPow]
    cases mask.toBitVec.getLsbD i.val <;> revert i <;> decide
  rw [isSet]
  cases set : mask.toBitVec.getLsbD i.val <;> simp_all

theorem isSet_diff (oldMask newMask : UInt32) (i : Fin 32) :
    isSet (oldMask &&& ~~~newMask) i = (isSet oldMask i && !isSet newMask i) := by
  simp [isSet_eq_getLsbD, i.isLt]

theorem banks : List.finRange 2 = [0, 1] := rfl

/-- `getDiff` lists the un-busied slots, valid or not. -/
theorem getDiff_eq (rob : RobState) (oldMask newMask : BusyMask) :
    rob.getDiff oldMask newMask =
      (allSlots.filter fun slot => decide (Unbusied oldMask newMask slot)).map
        fun slot => rob.entry slot.1 slot.2 := by
  simp only [getDiff, allSlots, List.filter_flatMap, List.map_flatMap]
  apply List.flatMap_congr fun i _ => ?_
  simp only [isSet_diff, banks, List.map_cons, List.map_nil]
  cases oldFirst : isSet oldMask.1 i <;> cases newFirst : isSet newMask.1 i <;>
    cases oldSecond : isSet oldMask.2 i <;> cases newSecond : isSet newMask.2 i <;>
    simp [Unbusied, isBusy, firstBank, oldFirst, newFirst, oldSecond, newSecond]

theorem mem_allSlots (slot : Slot) : slot ∈ allSlots := by
  obtain ⟨i, j⟩ := slot
  simp only [allSlots, List.mem_flatMap, List.mem_finRange, true_and]
  refine ⟨i, ?_⟩
  exact List.mem_map.mpr ⟨j, List.mem_finRange j, rfl⟩

theorem allSlots_sorted : allSlots.Pairwise fun earlier later => earlier.position < later.position := by
  decide +kernel

theorem foldl_ite_eq_findRev? {α β : Type} (candidate : α → Bool) (value : α → β) (items : List α)
    (start : β) :
    items.foldl (fun found item => if candidate item then value item else found) start =
      ((items.findRev? candidate).map value).getD start := by
  induction items generalizing start with
  | nil => rfl
  | cons item rest ih =>
      rw [List.foldl_cons, ih, List.findRev?]
      cases rest.findRev? candidate with
      | some later => rfl
      | none => cases candidate item <;> rfl

theorem findRev?_eq_some_iff {α : Type} {rank : α → Nat} {items : List α} {candidate : α → Bool}
    (sorted : items.Pairwise fun earlier later => rank earlier < rank later) {item : α} :
    items.findRev? candidate = some item ↔ item ∈ items ∧ candidate item = true ∧
      ∀ later ∈ items, rank item < rank later → candidate later = false := by
  have descending := List.pairwise_reverse.mpr sorted
  rw [List.findRev?_eq_find?_reverse, List.find?_eq_some_iff_append]
  constructor
  · intro ⟨holds, behind, before, split, clean⟩
    rw [split, List.pairwise_append, List.pairwise_cons] at descending
    have member : item ∈ items := by
      rw [← List.mem_reverse, split]
      exact List.mem_append_right _ List.mem_cons_self
    refine ⟨member, holds, fun later inside above => ?_⟩
    rw [← List.mem_reverse, split] at inside
    rcases List.mem_append.mp inside with reached | below
    · simpa using clean later reached
    · rcases List.mem_cons.mp below with rfl | lower
      · exact absurd above (Nat.lt_irrefl _)
      · exact absurd above (Nat.lt_asymm (descending.2.1.1 later lower))
  · intro ⟨member, holds, others⟩
    obtain ⟨behind, before, split⟩ := List.append_of_mem (List.mem_reverse.mpr member)
    rw [split, List.pairwise_append] at descending
    refine ⟨holds, behind, before, split, fun later reached => ?_⟩
    have inside : later ∈ items := by
      rw [← List.mem_reverse, split]
      exact List.mem_append_left _ reached
    simpa using others later inside (descending.2.2 later reached item List.mem_cons_self)

/-- The slot the tie-break ends with: the last un-busied one that names the
register, else the head. -/
def suspect (rob : RobState) (previouslyBusy currentlyBusy : BusyMask) (addr : UInt64) : Slot :=
  (allSlots.findRev? fun slot => decide (Unbusied previouslyBusy currentlyBusy slot) &&
    writesTainted (addr - addr % 8) (rob.entry slot.1 slot.2)).getD (rob.head, rob.getHeadBank)

theorem writesTainted_iff :
    writesTainted (addr - addr % 8) (rob.entry slot.1 slot.2) = true ↔ rob.Names addr slot := by
  simp [writesTainted, Names]

theorem tieBreak_eq (rob : RobState) (previouslyBusy currentlyBusy : BusyMask) (addr : UInt64) :
    (rob.getDiff previouslyBusy currentlyBusy).foldl
        (fun taintInstr inst => if writesTainted (addr - addr % 8) inst then inst else taintInstr)
        rob.getHead =
      rob.entry (rob.suspect previouslyBusy currentlyBusy addr).1
        (rob.suspect previouslyBusy currentlyBusy addr).2 := by
  have nested : ∀ (taintInstr : RobEntry) (slot : Slot),
      (if decide (Unbusied previouslyBusy currentlyBusy slot) = true then
          if writesTainted (addr - addr % 8) (rob.entry slot.1 slot.2) then rob.entry slot.1 slot.2
          else taintInstr
        else taintInstr) =
      if (decide (Unbusied previouslyBusy currentlyBusy slot) &&
          writesTainted (addr - addr % 8) (rob.entry slot.1 slot.2)) then rob.entry slot.1 slot.2
        else taintInstr := by
    intro taintInstr slot
    cases decide (Unbusied previouslyBusy currentlyBusy slot) <;> simp
  rw [getDiff_eq, List.foldl_map, List.foldl_filter]
  simp only [nested]
  rw [foldl_ite_eq_findRev?, suspect]
  cases allSlots.findRev? _ <;> rfl

theorem suspect_eq_of_lastUnbusied (last : rob.LastUnbusied previouslyBusy currentlyBusy addr slot) :
    rob.suspect previouslyBusy currentlyBusy addr = slot := by
  rw [suspect, (findRev?_eq_some_iff allSlots_sorted).mpr ⟨mem_allSlots slot, ?_, ?_⟩, Option.getD_some]
  · simp [last.unbusied, writesTainted_iff.mpr last.names]
  · intro later _ behind
    by_cases unbusied : Unbusied previouslyBusy currentlyBusy later
    · simpa [unbusied, ← writesTainted_iff] using last.last later behind unbusied
    · simp [unbusied]

theorem suspect_cases (rob : RobState) (previouslyBusy currentlyBusy : BusyMask) (addr : UInt64) :
    rob.LastUnbusied previouslyBusy currentlyBusy addr (rob.suspect previouslyBusy currentlyBusy addr) ∨
      rob.NoneUnbusied previouslyBusy currentlyBusy addr ∧
        rob.suspect previouslyBusy currentlyBusy addr = (rob.head, rob.getHeadBank) := by
  rw [suspect]
  cases found : allSlots.findRev? fun slot => decide (Unbusied previouslyBusy currentlyBusy slot) &&
      writesTainted (addr - addr % 8) (rob.entry slot.1 slot.2) with
  | some slot =>
      obtain ⟨-, holds, others⟩ := (findRev?_eq_some_iff allSlots_sorted).mp found
      simp only [Bool.and_eq_true, decide_eq_true_eq, writesTainted_iff] at holds
      refine .inl ⟨holds.1, holds.2, fun later behind unbusied names => ?_⟩
      have clash := others later (mem_allSlots later) behind
      simp [unbusied, writesTainted_iff.mpr names] at clash
  | none =>
      refine .inr ⟨fun slot unbusied names => ?_, rfl⟩
      rw [List.findRev?_eq_find?_reverse] at found
      have clean := List.find?_eq_none.mp found slot (List.mem_reverse.mpr (mem_allSlots slot))
      simp [unbusied, writesTainted_iff.mpr names] at clean

/-- What the search answers, by the length of the scan. -/
theorem getTaintingInstruction_eq (nonempty : rob.isEmpty = false) :
    rob.getTaintingInstruction previouslyBusy currentlyBusy addr =
      match rob.scan addr with
      | [] => {}
      | [slot] => rob.entry slot.1 slot.2
      | _ => rob.entry (rob.suspect previouslyBusy currentlyBusy addr).1
          (rob.suspect previouslyBusy currentlyBusy addr).2 := by
  simp only [getTaintingInstruction, nonempty, Bool.false_eq_true, if_false, useTaintedRegister_eq,
    Option.get_some, tieBreak_eq]
  rcases rob.scan addr with - | ⟨-, - | -⟩ <;> rfl

theorem suspect_eq_iff :
    rob.suspect previouslyBusy currentlyBusy addr = slot ↔
      rob.LastUnbusied previouslyBusy currentlyBusy addr slot ∨
        rob.NoneUnbusied previouslyBusy currentlyBusy addr ∧ slot = (rob.head, rob.getHeadBank) := by
  constructor
  · rintro rfl
    exact rob.suspect_cases previouslyBusy currentlyBusy addr
  · rintro (last | ⟨none, rfl⟩)
    · exact suspect_eq_of_lastUnbusied last
    · rcases rob.suspect_cases previouslyBusy currentlyBusy addr with last | ⟨-, head⟩
      · exact absurd last.names (none _ last.unbusied)
      · exact head

/-! ## One writer -/

/-- With one writer in the whole buffer the search ends and finds it, unless
the head row is the tail row and holds the writer: that row is scanned twice,
and the tie-break decides. -/
theorem tainting_instruction_unique_iff (rob : RobState) (previouslyBusy currentlyBusy : BusyMask)
    (addr : UInt64) (writer : Slot) (nonempty : rob.isEmpty = false)
    (unique : ∀ slot, rob.Writes addr slot ↔ slot = writer) (occupied : rob.Occupied writer) :
    (rob.useTaintedRegister (addr - addr % 8) 33 rob.head true).isSome = true ∧
      (rob.getTaintingInstruction previouslyBusy currentlyBusy addr = rob.entry writer.1 writer.2 ↔
        rob.head ≠ rob.tail ∨ writer.1 ≠ rob.head ∨
          rob.LastUnbusied previouslyBusy currentlyBusy addr writer ∨
          rob.NoneUnbusied previouslyBusy currentlyBusy addr ∧ writer.2 = rob.getHeadBank) := by
  refine ⟨rob.useTaintedRegister_isSome _, ?_⟩
  rw [getTaintingInstruction_eq nonempty, scan_of_unique unique occupied]
  by_cases twice : rob.head = rob.tail ∧ writer.1 = rob.head
  · have suspects : rob.entry (rob.suspect previouslyBusy currentlyBusy addr).1
        (rob.suspect previouslyBusy currentlyBusy addr).2 = rob.entry writer.1 writer.2 ↔
          rob.suspect previouslyBusy currentlyBusy addr = writer := by
      constructor
      · intro same
        apply (unique _).mp ?_
        simp only [Writes, Names, same]
        exact (unique writer).mpr rfl
      · intro same
        rw [same]
    have atHead : writer = (rob.head, rob.getHeadBank) ↔ writer.2 = rob.getHeadBank :=
      ⟨fun same => by rw [same], fun same => Prod.ext twice.2 same⟩
    rw [if_pos twice]
    dsimp only
    rw [suspects, suspect_eq_iff, atHead]
    constructor
    · exact fun blamed => .inr (.inr blamed)
    · intro condition
      exact (condition.resolve_left (not_not_intro twice.1)).resolve_left (not_not_intro twice.2)
  · simp only [if_neg twice, true_iff]
    by_cases full : rob.head = rob.tail
    · exact .inr (.inl fun head => twice ⟨full, head⟩)
    · exact .inl full

/-- A buffer with its head in the last row. -/
def robOf (tail : Fin 32) (entries : List ((Nat × Nat) × RobSignals)) : RobTop where
  head := firstRow.rev
  tail
  slot := fun i j => (entries.lookup (i.val, j.val)).getD {}

/-- Two rows in use, the writer of register 5 in the second. -/
def twoRows : RobState :=
  readFrom (robOf firstRow
    [((31, 1), { valid := true, dst := 1 }), ((0, 0), { valid := true, dst := 5 })])

theorem tainting_instruction_unique_iff_twoRows :
    twoRows.getTaintingInstruction (0, 0) (0, 0) 43 = twoRows.entry 0 0 := by
  have unique : ∀ slot, twoRows.Writes 43 slot ↔ slot = (0, 0) := by
    intro slot
    obtain ⟨i, j⟩ := slot
    revert i j
    decide
  exact (tainting_instruction_unique_iff twoRows (0, 0) (0, 0) 43 (0, 0) (by decide) unique
    (by decide)).2.mpr (.inl (by decide))

/-- A single row with two instructions; the younger one writes register 5. -/
def singleRow : RobState :=
  readFrom (robOf firstRow.rev
    [((31, 0), { valid := true, dst := 1 }), ((31, 1), { valid := true, dst := 5 })])

/-- The row is scanned twice, nothing went un-busy, and the head is blamed. -/
theorem tainting_instruction_singleRow :
    singleRow.isEmpty = false ∧ (∀ i j, singleRow.Writes 40 (i, j) ↔ (i, j) = (31, 1)) ∧
      singleRow.Occupied (31, 1) ∧
      singleRow.getTaintingInstruction (0, 0) (0, 0) 40 ≠ singleRow.entry 31 1 := by
  decide

/-! ## Several writers -/

/-- Every entry says where it stands, as in all snapshots of the core. -/
def Snapshot (rob : RobState) : Prop :=
  ∀ slot : Slot, ((rob.entry slot.1 slot.2).robIdx, (rob.entry slot.1 slot.2).robBank) = slot

theorem readFrom_snapshot (top : RobTop) : (readFrom top).Snapshot := fun _ => rfl

/-- The entry is one of the writers in the buffer, and the one that went
un-busy if there is exactly one. -/
structure Blames (rob : RobState) (previouslyBusy currentlyBusy : BusyMask) (addr : UInt64)
    (taintInstr : RobEntry) : Prop where
  candidate : ∃ slot : Slot, rob.Occupied slot ∧ rob.Writes addr slot ∧
    taintInstr = rob.entry slot.1 slot.2
  unbusied : ∀ slot : Slot, rob.Occupied slot → rob.Writes addr slot →
    Unbusied previouslyBusy currentlyBusy slot →
    (∀ other, rob.Occupied other → rob.Writes addr other →
      Unbusied previouslyBusy currentlyBusy other → other = slot) →
    taintInstr = rob.entry slot.1 slot.2

/-- With several writers the tie-break decides alone.  It blames one of them
exactly when the last un-busied slot that names the register holds a valid
entry of the buffer or, with no such slot, the head names the register. -/
theorem tainting_instruction_blames_iff (rob : RobState) (previouslyBusy currentlyBusy : BusyMask)
    (addr : UInt64) (nonempty : rob.isEmpty = false) (snapshot : rob.Snapshot) (first second : Slot)
    (distinct : first ≠ second) (firstIn : rob.Occupied first) (firstWrites : rob.Writes addr first)
    (secondIn : rob.Occupied second) (secondWrites : rob.Writes addr second) :
    rob.Blames previouslyBusy currentlyBusy addr
        (rob.getTaintingInstruction previouslyBusy currentlyBusy addr) ↔
      (∃ slot : Slot, rob.LastUnbusied previouslyBusy currentlyBusy addr slot ∧
          (rob.entry slot.1 slot.2).valid = true ∧ rob.Occupied slot) ∨
        rob.NoneUnbusied previouslyBusy currentlyBusy addr ∧
          rob.Names addr (rob.head, rob.getHeadBank) := by
  have blamed : rob.getTaintingInstruction previouslyBusy currentlyBusy addr =
      rob.entry (rob.suspect previouslyBusy currentlyBusy addr).1
        (rob.suspect previouslyBusy currentlyBusy addr).2 := by
    have firstMember := mem_scan.mpr ⟨firstIn, firstWrites⟩
    have secondMember := mem_scan.mpr ⟨secondIn, secondWrites⟩
    rw [getTaintingInstruction_eq nonempty]
    rcases scanned : rob.scan addr with - | ⟨only, - | -⟩
    · simp [scanned] at firstMember
    · rw [scanned, List.mem_singleton] at firstMember secondMember
      exact absurd (firstMember.trans secondMember.symm) distinct
    · rfl
  rw [blamed]
  constructor
  · intro blames
    obtain ⟨slot, inside, writes, same⟩ := blames.candidate
    have here : rob.suspect previouslyBusy currentlyBusy addr = slot := by
      rw [← snapshot slot, ← same, snapshot]
    rcases suspect_eq_iff.mp here with last | ⟨none, head⟩
    · exact .inl ⟨slot, last, writes.1, inside⟩
    · exact .inr ⟨none, head ▸ writes.2⟩
  · rintro (⟨slot, last, valid, inside⟩ | ⟨none, names⟩)
    · rw [suspect_eq_iff.mpr (.inl last)]
      refine ⟨⟨slot, inside, ⟨valid, last.names⟩, rfl⟩, fun other _ _ _ only => ?_⟩
      rw [only slot inside ⟨valid, last.names⟩ last.unbusied]
    · rw [suspect_eq_iff.mpr (.inr ⟨none, rfl⟩)]
      refine ⟨⟨(rob.head, rob.getHeadBank), .inr ?_, ⟨valid_of_headBank nonempty, names⟩, rfl⟩, ?_⟩
      · simp
      · intro slot _ writes unbusied
        exact absurd writes.2 (none slot unbusied)

/-- The head, and two younger writers of register 5. -/
def twoWriters : RobState :=
  readFrom (robOf firstRow
    [((31, 0), { valid := true, dst := 1 }), ((31, 1), { valid := true, dst := 5 }),
      ((0, 0), { valid := true, dst := 5 })])

theorem tainting_instruction_blames_iff_oneUnbusied :
    twoWriters.Blames (0, 0x80000000) (0, 0) 40 (twoWriters.getTaintingInstruction (0, 0x80000000) (0, 0) 40) := by
  have last : twoWriters.LastUnbusied (0, 0x80000000) (0, 0) 40 (31, 1) := by
    refine ⟨by decide, by decide, fun later => ?_⟩
    obtain ⟨i, j⟩ := later
    revert i j
    decide
  exact (tainting_instruction_blames_iff twoWriters (0, 0x80000000) (0, 0) 40 (by decide) (readFrom_snapshot _)
    (31, 1) (0, 0) (by decide) (by decide) (by decide) (by decide) (by decide)).mpr
    (.inl ⟨(31, 1), last, by decide, by decide⟩)

/-- Nothing went un-busy, and the head is blamed, which writes another
register. -/
theorem tainting_instruction_unrelatedHead :
    ¬ twoWriters.Blames (0, 0) (0, 0) 40 (twoWriters.getTaintingInstruction (0, 0) (0, 0) 40) := by
  intro blames
  obtain ⟨slot, -, writes, same⟩ := blames.candidate
  have head : (twoWriters.getTaintingInstruction (0, 0) (0, 0) 40).dst = 1 := by decide
  have dst := writes.2.1
  rw [← same, head] at dst
  exact absurd dst (by decide)

end RobState

end PhantomTrails
