import PhantomTrails.Detection.TaintSearch

namespace PhantomTrails

/-! # The report of the reorder buffer

`RobEntry::to_string` and `RobState::to_string`, one line per entry.  The copy
for the stock core is the same.
-/

def uopNames : List (UInt8 × String) :=
  [(0, "uopNOP"), (1, "uopLD"), (2, "uopSTA"), (3, "uopSTD"), (4, "uopLUI"), (5, "uopADDI"),
   (6, "uopANDI"), (7, "uopORI"), (8, "uopXORI"), (9, "uopSLTI"), (10, "uopSLTIU"),
   (11, "uopSLLI"), (12, "uopSRAI"), (13, "uopSRLI"), (14, "uopSLL"), (15, "uopADD"),
   (16, "uopSUB"), (17, "uopSLT"), (18, "uopSLTU"), (19, "uopAND"), (20, "uopOR"), (21, "uopXOR"),
   (22, "uopSRA"), (23, "uopSRL"), (24, "uopBEQ"), (25, "uopBNE"), (26, "uopBGE"), (27, "uopBGEU"),
   (28, "uopBLT"), (29, "uopBLTU"), (30, "uopCSRRW"), (31, "uopCSRRS"), (32, "uopCSRRC"),
   (33, "uopCSRRWI"), (34, "uopCSRRSI"), (35, "uopCSRRCI"), (36, "uopJ"), (37, "uopJAL"),
   (38, "uopJALR"), (39, "uopAUIPC"), (41, "uopCFLSH"), (42, "uopFENCE"), (43, "uopADDIW"),
   (44, "uopADDW"), (45, "uopSUBW"), (46, "uopSLLIW"), (47, "uopSLLW"), (48, "uopSRAIW"),
   (49, "uopSRAW"), (50, "uopSRLIW"), (51, "uopSRLW"), (52, "uopMUL"), (53, "uopMULH"),
   (54, "uopMULHU"), (55, "uopMULHSU"), (56, "uopMULW"), (57, "uopDIV"), (58, "uopDIVU"),
   (59, "uopREM"), (60, "uopREMU"), (61, "uopDIVW"), (62, "uopDIVUW"), (63, "uopREMW"),
   (64, "uopREMUW"), (65, "uopFENCEI"), (67, "uopAMO_AG"), (68, "uopFMV_W_X"), (69, "uopFMV_D_X"),
   (70, "uopFMV_X_W"), (71, "uopFMV_X_D"), (72, "uopFSGNJ_S"), (73, "uopFSGNJ_D"),
   (74, "uopFCVT_S_D"), (75, "uopFCVT_D_S"), (76, "uopFCVT_S_X"), (77, "uopFCVT_D_X"),
   (78, "uopFCVT_X_S"), (79, "uopFCVT_X_D"), (80, "uopCMPR_S"), (81, "uopCMPR_D"),
   (82, "uopFCLASS_S"), (83, "uopFCLASS_D"), (84, "uopFMINMAX_S"), (85, "uopFMINMAX_D"),
   (87, "uopFADD_S"), (88, "uopFSUB_S"), (89, "uopFMUL_S"), (90, "uopFADD_D"), (91, "uopFSUB_D"),
   (92, "uopFMUL_D"), (93, "uopFMADD_S"), (94, "uopFMSUB_S"), (95, "uopFNMADD_S"),
   (96, "uopFNMSUB_S"), (97, "uopFMADD_D"), (98, "uopFMSUB_D"), (99, "uopFNMADD_D"),
   (100, "uopFNMSUB_D"), (101, "uopFDIV_S"), (102, "uopFDIV_D"), (103, "uopFSQRT_S"),
   (104, "uopFSQRT_D"), (105, "uopWFI"), (106, "uopERET"), (107, "uopSFENCE"), (108, "uopROCC"),
   (109, "uopMOV")]

def getUopName (uopc : UInt8) : String := (uopNames.lookup uopc).getD "UnknownUOP"

def hex (value : Nat) : String := String.ofList (Nat.toDigits 16 value)

def flag (value : Bool) : String := if value then "1" else "0"

def RobEntry.to_string (entry : RobEntry) : String :=
  "\x7b \"entry\": \"ROB[" ++ toString entry.robIdx.val ++ "][" ++ toString entry.robBank.val ++
    "]\", \"µ-opcode\": \"" ++ getUopName entry.uopcode ++
    "\", \"valid\": " ++ flag entry.valid ++
    ", \"busy\": " ++ flag entry.busy ++
    ", \"exception\": " ++ flag entry.exception ++
    ", \"pc\": \"0x" ++ hex entry.pc.toNat ++
    "\", \"branchMask\": \"0x" ++ hex entry.brMask.toNat ++
    "\", \"destReg\": \"0x" ++ hex entry.dst.toNat ++
    "\", \"dst_type\": \"0x" ++ hex entry.dst_type.toNat ++ "\"\x7d"

/-- The entries of the array; `sep` stands in front of the first one. -/
def lines (sep : Char) : List RobEntry → String
  | [] => ""
  | entry :: entries => sep.toString ++ "\n" ++ entry.to_string ++ lines ',' entries

namespace RobState

variable {rob : RobState} {slot : Slot}

/-- The invalid entry at the head. -/
def skips (rob : RobState) (i : Fin 32) (j : Fin 2) : Bool :=
  i == rob.head && decide (j < rob.getHeadBank)

/-- The loop over the banks of row `i`, and whether it was left at the tail:
it is, behind the first entry printed there. -/
def printBanks (rob : RobState) (i : Fin 32) (first : Bool) : List (Fin 2) → List Slot × Bool
  | [] => ([], false)
  | j :: banks =>
      if rob.skips i j then rob.printBanks i first banks
      else if i = rob.tail ∧ first = false then ([(i, j)], true)
      else ((i, j) :: (rob.printBanks i first banks).1, (rob.printBanks i first banks).2)

/-- The loop over the rows from `i` on; `first` stays set while it is on the
head row it started with. -/
def printRows (rob : RobState) : (rows : Nat) → (i : Fin 32) → (first : Bool) → Option (List Slot)
  | 0, _, _ => none
  | rows + 1, i, first =>
      let first := first && i == rob.head
      let (printed, done) := rob.printBanks i first (List.finRange 2)
      if done then some printed else (rob.printRows rows (nextRow i) first).map (printed ++ ·)

/-- The slots of a row that are not skipped. -/
def shown (rob : RobState) (i : Fin 32) : List Slot :=
  ((List.finRange 2).filter fun j => !rob.skips i j).map fun j => (i, j)

/-- The rows from the head on in front of the tail; with `head = tail` all of
them. -/
def rowsInFront (rob : RobState) : List (Fin 32) :=
  rowsFrom rob.head ((rob.tail - nextRow rob.head).val + 1)

theorem printBanks_inFront {i : Fin 32} {first : Bool} (more : ¬ (i = rob.tail ∧ first = false)) :
    rob.printBanks i first (List.finRange 2) = (rob.shown i, false) := by
  rw [shown]
  induction List.finRange 2 with
  | nil => rfl
  | cons j banks ih =>
      rw [printBanks]
      by_cases skipped : rob.skips i j = true
      · simp [skipped, ih]
      · simp [skipped, more, ih]

theorem mem_shown {i : Fin 32} : slot ∈ rob.shown i ↔ slot.1 = i ∧ rob.skips i slot.2 = false := by
  obtain ⟨row, bank⟩ := slot
  simp only [shown, List.mem_map, List.mem_filter, List.mem_finRange, true_and, Prod.mk.injEq,
    Bool.not_eq_true']
  constructor
  · rintro ⟨j, kept, rfl, rfl⟩
    exact ⟨rfl, kept⟩
  · rintro ⟨rfl, kept⟩
    exact ⟨bank, kept, rfl, rfl⟩

theorem second_mem_shown (rob : RobState) (i : Fin 32) : (i, 1) ∈ rob.shown i := by
  have last : ¬ (1 : Fin 2) < rob.getHeadBank := by omega
  simp [mem_shown, skips, last]

theorem printBanks_atTail :
    rob.printBanks rob.tail false (List.finRange 2) = ((rob.shown rob.tail).take 1, true) := by
  have walked : ∀ banks, rob.printBanks rob.tail false banks =
      (((banks.filter fun j => !rob.skips rob.tail j).map fun j => (rob.tail, j)).take 1,
        !(banks.filter fun j => !rob.skips rob.tail j).isEmpty) := by
    intro banks
    induction banks with
    | nil => rfl
    | cons j banks ih =>
        rw [printBanks]
        by_cases skipped : rob.skips rob.tail j = true
        · simp [skipped, ih]
        · simp [skipped]
  have last : (List.finRange 2).filter (fun j => !rob.skips rob.tail j) ≠ [] := by
    intro none
    have second := second_mem_shown rob rob.tail
    rw [shown, none] at second
    cases second
  rw [walked, List.isEmpty_eq_false_iff.mpr last]
  rfl

theorem printRows_of_distance {rows : Nat} {i : Fin 32} {first : Bool}
    (started : (first && i == rob.head) = false) (enough : (rob.tail - i).val < rows) :
    rob.printRows rows i first =
      some ((rowsFrom i (rob.tail - i).val).flatMap rob.shown ++ (rob.shown rob.tail).take 1) := by
  induction rows generalizing i first with
  | zero => omega
  | succ rows ih =>
      rw [printRows]
      simp only [started]
      by_cases reached : i = rob.tail
      · simp [reached, printBanks_atTail, rowsFrom]
      · have apart : i.val ≠ rob.tail.val := fun same => reached (Fin.ext same)
        have closer : (rob.tail - i).val = (rob.tail - nextRow i).val + 1 := by
          simp only [nextRow, Fin.sub_def, Fin.val_add, Fin.val_one]
          omega
        rw [printBanks_inFront fun stop => reached stop.1]
        rw [if_neg Bool.false_ne_true, ih (Bool.false_and _) (by omega), closer]
        simp only [rowsFrom, List.flatMap_cons, Option.map_some, List.append_assoc]

/-- The loop ends, with all rows in front of the tail and one entry of it. -/
theorem printRows_eq (rob : RobState) :
    rob.printRows 33 rob.head true =
      some (rob.rowsInFront.flatMap rob.shown ++ (rob.shown rob.tail).take 1) := by
  have left : (true && nextRow rob.head == rob.head) = false := by
    simp only [nextRow, Bool.true_and, beq_eq_false_iff_ne, ne_eq, Fin.ext_iff, Fin.val_add, Fin.val_one]
    omega
  rw [printRows]
  simp only [Bool.true_and, beq_self_eq_true]
  rw [printBanks_inFront (by simp), if_neg Bool.false_ne_true, printRows_of_distance left (Fin.isLt _)]
  simp only [rowsInFront, rowsFrom, List.flatMap_cons, Option.map_some, List.append_assoc]

theorem printRows_isSome (rob : RobState) : (rob.printRows 33 rob.head true).isSome := by
  rw [printRows_eq]
  rfl

/-- The slots whose entries the array holds. -/
def reported (rob : RobState) : List Slot := (rob.printRows 33 rob.head true).get rob.printRows_isSome

/-- Print the rob as a string (one line per entry, from head to tail). -/
def to_string (rob : RobState) : String :=
  if rob.isEmpty then "\x7b\x7d"
  else
    "\x7b\n\"head\": " ++ toString rob.head.val ++ ",\n\"tail\": " ++ toString rob.tail.val ++
      ",\n\"entries\": [" ++ lines ' ' (rob.reported.map fun slot => rob.entry slot.1 slot.2) ++ "\n]\n\x7d"

/-! ## What the report lists -/

def Valid (rob : RobState) (slot : Slot) : Prop := (rob.entry slot.1 slot.2).valid = true

instance : Decidable (rob.Valid slot) := inferInstanceAs (Decidable (_ = true))

/-- The place of a slot in program order. -/
def age (rob : RobState) (slot : Slot) : Nat := 2 * (slot.1 - rob.head).val + slot.2.val

/-- Each valid entry is listed exactly once, the oldest one first. -/
structure ListsInFlight (rob : RobState) (printed : List Slot) : Prop where
  ordered : (printed.filter (rob.Valid ·)).Pairwise fun older younger => rob.age older < rob.age younger
  complete : ∀ slot, rob.Valid slot → slot ∈ printed

theorem reported_eq (rob : RobState) :
    rob.reported = rob.rowsInFront.flatMap rob.shown ++ (rob.shown rob.tail).take 1 := by
  simp only [reported, printRows_eq, Option.get_some]

theorem not_skips_of_valid (valid : rob.Valid slot) : rob.skips slot.1 slot.2 = false := by
  obtain ⟨i, j⟩ := slot
  simp only [skips, Bool.and_eq_false_iff, beq_eq_false_iff_ne, decide_eq_false_iff_not]
  by_cases head : i = rob.head
  · refine .inr fun skipped => ?_
    simp only [getHeadBank] at skipped
    split at skipped
    · omega
    · rename_i empty
      have first : j = 0 := by omega
      subst head first
      exact empty valid
  · exact .inl head

theorem mem_shown_of_valid (valid : rob.Valid slot) : slot ∈ rob.shown slot.1 :=
  mem_shown.mpr ⟨rfl, not_skips_of_valid valid⟩

theorem shown_head_take : (rob.shown rob.head).take 1 = [(rob.head, rob.getHeadBank)] := by
  have bank : rob.getHeadBank = 0 ∨ rob.getHeadBank = 1 := by omega
  rcases bank with first | second
  · simp [shown, skips, first, List.finRange]
  · simp [shown, skips, second, List.finRange]

theorem shown_take {i : Fin 32} (behind : i ≠ rob.head) : (rob.shown i).take 1 = [(i, 0)] := by
  simp [shown, skips, behind, List.finRange]

theorem mem_rowsInFront (apart : rob.head ≠ rob.tail) {row : Fin 32} :
    row ∈ rob.rowsInFront ↔ (row - rob.head).val < (rob.tail - rob.head).val := by
  have other : rob.head.val ≠ rob.tail.val := fun same => apart (Fin.ext same)
  rw [rowsInFront, mem_rowsFrom]
  simp only [Fin.sub_def, Fin.val_add, Fin.val_one]
  omega

theorem rowsFrom_ordered {origin i : Fin 32} {count : Nat} (once : (i - origin).val + count ≤ 32) :
    (rowsFrom i count).Pairwise fun row later => (row - origin).val < (later - origin).val := by
  induction count generalizing i with
  | zero => exact List.Pairwise.nil
  | succ count ih =>
      rw [rowsFrom, List.pairwise_cons]
      constructor
      · intro later behind
        have place := mem_rowsFrom.mp behind
        simp only [Fin.sub_def, Fin.val_add, Fin.val_one] at once place ⊢
        omega
      · rcases count with - | count
        · exact List.Pairwise.nil
        · apply ih
          simp only [Fin.sub_def, Fin.val_add, Fin.val_one] at once ⊢
          omega

theorem shown_ordered (i : Fin 32) :
    (rob.shown i).Pairwise fun older younger => rob.age older < rob.age younger := by
  rw [shown, List.pairwise_map]
  apply List.Pairwise.filter
  apply (List.pairwise_lt_finRange 2).imp
  intro first second before
  simp only [age]
  omega

/-- Row by row, the slots come in program order. -/
theorem rows_ordered {i : Fin 32} {count : Nat} (once : (i - rob.head).val + count ≤ 32) :
    ((rowsFrom i count).flatMap rob.shown).Pairwise fun older younger =>
      rob.age older < rob.age younger := by
  apply List.pairwise_flatMap.mpr ⟨fun row _ => shown_ordered row, ?_⟩
  apply (rowsFrom_ordered once).imp
  intro row later before older here younger there
  rw [← (mem_shown.mp here).1, ← (mem_shown.mp there).1] at before
  simp only [age]
  omega

theorem reported_ordered (apart : rob.head ≠ rob.tail) :
    rob.reported.Pairwise fun older younger => rob.age older < rob.age younger := by
  rw [reported_eq]
  apply List.pairwise_append.mpr ⟨?_, (shown_ordered rob.tail).take, ?_⟩
  · apply rows_ordered
    simp only [Fin.sub_def]
    omega
  · intro older front younger last
    obtain ⟨row, inFront, here⟩ := List.mem_flatMap.mp front
    have before := (mem_rowsInFront apart).mp inFront
    rw [shown_take apart.symm, List.mem_singleton] at last
    subst last
    rw [← (mem_shown.mp here).1] at before
    simp only [age]
    omega

/-- The report of a non-empty buffer ends, and it lists every entry in flight
exactly once and in order, unless it gets to the second bank of the tail row,
which is not printed, or around to the head row, which is begun anew. -/
theorem reported_listsInFlight_iff (rob : RobState) (nonempty : rob.isEmpty = false)
    (inFlight : ∀ slot, rob.Valid slot → rob.Occupied slot) :
    (rob.printRows 33 rob.head true).isSome = true ∧
      (rob.ListsInFlight rob.reported ↔ rob.head ≠ rob.tail ∧ ¬ rob.Valid (rob.tail, 1)) := by
  refine ⟨rob.printRows_isSome, ?_⟩
  constructor
  · intro lists
    have apart : rob.head ≠ rob.tail := by
      intro full
      have front : (rob.head, rob.getHeadBank) ∈ rob.rowsInFront.flatMap rob.shown := by
        apply List.mem_flatMap.mpr ⟨rob.head, List.mem_cons_self, ?_⟩
        exact List.mem_of_mem_take (i := 1) (by simp [shown_head_take])
      have again : (rob.head, rob.getHeadBank) ∈ (rob.shown rob.tail).take 1 := by
        simp [← full, shown_head_take]
      have valid : rob.Valid (rob.head, rob.getHeadBank) := valid_of_headBank nonempty
      have ordered := lists.ordered
      rw [reported_eq, List.filter_append] at ordered
      have twice := (List.pairwise_append.mp ordered).2.2 _ (List.mem_filter.mpr ⟨front, by simpa using valid⟩)
        _ (List.mem_filter.mpr ⟨again, by simpa using valid⟩)
      exact Nat.lt_irrefl _ twice
    refine ⟨apart, fun valid => ?_⟩
    have printed := lists.complete _ valid
    rw [reported_eq, shown_take apart.symm] at printed
    rcases List.mem_append.mp printed with front | last
    · obtain ⟨row, inFront, here⟩ := List.mem_flatMap.mp front
      have before := (mem_rowsInFront apart).mp inFront
      rw [← (mem_shown.mp here).1] at before
      exact Nat.lt_irrefl _ before
    · simp at last
  · intro ⟨apart, unused⟩
    refine ⟨(reported_ordered apart).filter _, fun slot valid => ?_⟩
    rw [reported_eq, shown_take apart.symm]
    by_cases last : slot.1 = rob.tail
    · have first : slot.2 = 0 := by
        have second : slot.2 ≠ 1 := fun second => unused (by rw [← last, ← second]; exact valid)
        omega
      exact List.mem_append_right _ (by simp [← last, ← first])
    · have before : (slot.1 - rob.head).val < (rob.tail - rob.head).val := by
        have within := (inFlight slot valid).resolve_left apart
        have other : slot.1.val ≠ rob.tail.val := fun same => last (Fin.ext same)
        simp only [Fin.sub_def] at within ⊢
        omega
      apply List.mem_append_left
      exact List.mem_flatMap.mpr ⟨slot.1, (mem_rowsInFront apart).mpr before, mem_shown_of_valid valid⟩

/-- Two rows in use, the second bank of the tail row empty. -/
def halfTail : RobState :=
  readFrom (robOf firstRow
    [((31, 0), { valid := true }), ((31, 1), { valid := true }), ((0, 0), { valid := true })])

theorem reported_listsInFlight_iff_halfTail : halfTail.ListsInFlight halfTail.reported := by
  have inFlight : ∀ slot, halfTail.Valid slot → halfTail.Occupied slot := by
    intro slot
    obtain ⟨i, j⟩ := slot
    revert i j
    decide
  exact (reported_listsInFlight_iff halfTail (by decide) inFlight).2.mpr (by decide)

/-- Two instructions in the only row in use: the head is listed a second time,
behind the whole buffer. -/
theorem reported_singleRow :
    singleRow.isEmpty = false ∧ (∀ i j, singleRow.Valid (i, j) → singleRow.Occupied (i, j)) ∧
      singleRow.reported.count (singleRow.head, singleRow.getHeadBank) = 2 ∧
      ¬ singleRow.ListsInFlight singleRow.reported := by
  refine ⟨by decide, by decide, by decide, fun lists => ?_⟩
  have ordered := lists.ordered
  revert ordered
  decide

end RobState

end PhantomTrails
