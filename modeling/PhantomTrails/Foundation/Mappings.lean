import Mathlib.Tactic.Ring.RingNF
import PhantomTrails.Foundation.Sv39

namespace Foundation.Sv39

/-! # What tables map

The leaves of a set of tables, each with the pages that it maps.  The list is
complete: a walk that finds a leaf finds one of them.
-/

/-- A leaf and the first of its pages. -/
structure Mapping where
  page : Nat
  pte : Pte
  level : Nat
deriving DecidableEq, Repr

def Mapping.Covers (mapping : Mapping) (page : Nat) : Prop :=
  mapping.page ≤ page ∧ page < mapping.page + 512 ^ mapping.level

def entriesAt (tables : List Table) (level base : Nat) : List Pte :=
  match tables.find? fun table => table.level == level && table.base == base with
  | none => []
  | some table => table.entries

/-- The leaves below a table.  Their pages count from the first that the table
maps. -/
def mappings (tables : List Table) : (level base : Nat) → List Mapping
  | 0, base => (entriesAt tables 0 base).zipIdx.flatMap fun (pte, i) =>
      if pte.isUsable && pte.isLeaf then [{ page := i, pte, level := 0 }] else []
  | level + 1, base => (entriesAt tables (level + 1) base).zipIdx.flatMap fun (pte, i) =>
      if pte.isUsable = false then []
      else if pte.isLeaf then [{ page := i * 512 ^ (level + 1), pte, level := level + 1 }]
      else (mappings tables level pte.target).map fun mapping =>
        { mapping with page := i * 512 ^ (level + 1) + mapping.page }

/-- An address and the physical address that the tables translate it to,
whoever may use it. -/
def Maps (memory : Store UInt8) (root : Nat) (va : BitVec 64) (paddr : Nat) : Prop :=
  isCanonical va = true ∧
    ∃ leaf, findLeaf memory va 2 root = some leaf ∧ leaf.isAligned = true ∧ paddr = leaf.paddr va

variable {tables : List Table} {table : Table} {memory : Store UInt8} {va : BitVec 64} {leaf : Leaf}
  {env : Env} {access : Access} {level base paddr : Nat}

/-- An address that an access reaches is mapped. -/
theorem maps_of_physical (reached : physical env memory va access = some paddr) :
    Maps memory env.root va paddr := by
  obtain ⟨translation, translated, rfl⟩ := Option.map_eq_some_iff.mp reached
  simp only [translate] at translated
  split at translated
  · cases translated
  · rename_i canonical
    split at translated
    · cases translated
    · rename_i leaf found
      split at translated
      · rename_i allowed
        refine ⟨Bool.of_not_eq_false canonical, leaf, found, (Bool.and_eq_true_iff.mp allowed).2, ?_⟩
        split at translated
        · split at translated
          · cases translated
            rfl
          · cases translated
        · cases translated
          rfl
      · cases translated

/-! ## Page numbers -/

theorem vpn_eq (va : BitVec 64) (level : Nat) : vpn va level = va.toNat / 4096 / 512 ^ level % 512 := by
  have size : 2 ^ (12 + 9 * level) = 4096 * 512 ^ level := by
    rw [Nat.pow_add, Nat.pow_mul]
  rw [vpn, BitVec.extractLsb'_toNat, Nat.shiftRight_eq_div_pow, size, Nat.div_div_eq_div_mul]

/-- The index at a level, and the page below it. -/
theorem page_split (va : BitVec 64) (level : Nat) :
    va.toNat / 4096 % 512 ^ (level + 1) = vpn va level * 512 ^ level + va.toNat / 4096 % 512 ^ level := by
  rw [pow_succ, Nat.mod_mul, vpn_eq]
  ring

/-- Below the bit that the upper ones repeat, an address is its own offset. -/
theorem page_of_canonical (canonical : isCanonical va = true)
    (lower : va.toNat / 4096 % 512 ^ 3 < 2 ^ 26) : va.toNat / 4096 % 512 ^ 3 = va.toNat / 4096 := by
  have small : (va.extractLsb' 0 39).toNat < 2 ^ 38 := by
    rw [BitVec.extractLsb'_toNat]
    omega
  have same := congrArg BitVec.toNat (beq_iff_eq.mp canonical)
  rw [BitVec.toNat_signExtend, BitVec.msb_eq_decide, decide_eq_false (by omega), BitVec.toNat_setWidth] at same
  simp only [Bool.false_eq_true, if_false, Nat.add_zero] at same
  omega

/-! ## Completeness -/

theorem entriesAt_spec (member : table ∈ tables) :
    ∃ found ∈ tables, found.level = table.level ∧ found.base = table.base ∧
      entriesAt tables table.level table.base = found.entries := by
  cases found : tables.find? fun other => other.level == table.level && other.base == table.base with
  | none => simpa using List.find?_eq_none.mp found table member
  | some other =>
      have same := List.find?_some found
      simp only [Bool.and_eq_true, beq_iff_eq] at same
      refine ⟨other, List.mem_of_find?_eq_some found, same.1, same.2, ?_⟩
      simp only [entriesAt, found]

/-- A usable entry that the walk reads is listed, at its index. -/
theorem entry_listed (member : table ∈ tables) (held : ∀ table ∈ tables, table.Held memory)
    {pte : Pte} {i : Nat} (inside : i < 512) (read : (⟨word memory (table.base + i * 8)⟩ : Pte) = pte)
    (usable : pte.isUsable = true) :
    (pte, i) ∈ (entriesAt tables table.level table.base).zipIdx ∧
      ∃ found ∈ tables, found.level = table.level ∧ pte ∈ found.entries := by
  obtain ⟨found, listed, sameLevel, sameBase, entries⟩ := entriesAt_spec member
  have same : found.entry i = pte := by
    rw [← read, ← sameBase, held found listed i inside]
  have within : pte ∈ found.entries := by
    rw [← same] at usable ⊢
    exact Table.entry_mem usable
  refine ⟨?_, found, listed, sameLevel, within⟩
  rw [entries, List.mk_mem_zipIdx_iff_getElem?]
  by_cases short : i < found.entries.length
  · rw [← same, Table.entry, List.getD_eq_getElem _ _ short, List.getElem?_eq_getElem short]
  · rw [Table.entry, List.getD_eq_default _ _ (Nat.not_lt.mp short)] at same
    rw [← same] at usable
    exact absurd usable (by decide)

theorem leaf_mem_mappings {pte : Pte} {i : Nat} (listed : (pte, i) ∈ (entriesAt tables level base).zipIdx)
    (usable : pte.isUsable = true) (isLeaf : pte.isLeaf = true) :
    { page := i * 512 ^ level, pte, level } ∈ mappings tables level base := by
  cases level with
  | zero =>
      apply List.mem_flatMap.mpr ⟨(pte, i), listed, _⟩
      simp [usable, isLeaf]
  | succ level =>
      apply List.mem_flatMap.mpr ⟨(pte, i), listed, _⟩
      simp [usable, isLeaf]

theorem pointer_mem_mappings {pte : Pte} {i : Nat} {mapping : Mapping}
    (listed : (pte, i) ∈ (entriesAt tables (level + 1) base).zipIdx)
    (usable : pte.isUsable = true) (pointer : pte.isLeaf = false)
    (below : mapping ∈ mappings tables level pte.target) :
    { mapping with page := i * 512 ^ (level + 1) + mapping.page } ∈ mappings tables (level + 1) base := by
  apply List.mem_flatMap.mpr ⟨(pte, i), listed, _⟩
  simp only [usable, pointer, Bool.true_eq_false, Bool.false_eq_true, if_false]
  exact List.mem_map_of_mem below

theorem leaf_covers (va : BitVec 64) (level : Nat) (pte : Pte) :
    ({ page := vpn va level * 512 ^ level, pte, level } : Mapping).Covers
      (va.toNat / 4096 % 512 ^ (level + 1)) := by
  rw [Mapping.Covers, page_split]
  exact ⟨Nat.le_add_right _ _, Nat.add_lt_add_left (Nat.mod_lt _ (Nat.pow_pos (by decide))) _⟩

/-- What covers the page below a pointer covers it from above the pointer. -/
theorem Mapping.Covers.below {mapping : Mapping} (covers : mapping.Covers (va.toNat / 4096 % 512 ^ level)) :
    ({ mapping with page := vpn va level * 512 ^ level + mapping.page } : Mapping).Covers
      (va.toNat / 4096 % 512 ^ (level + 1)) := by
  rw [Mapping.Covers, page_split]
  simp only [Nat.add_assoc]
  exact ⟨Nat.add_le_add_left covers.1 _, Nat.add_lt_add_left covers.2 _⟩

/-- A leaf that the walk finds is listed, and it maps the page.  The induction
is on the level, and the table changes with it. -/
theorem findLeaf_mapped (linked : Linked tables) (held : ∀ table ∈ tables, table.Held memory)
    (member : table ∈ tables) (found : findLeaf memory va table.level table.base = some leaf) :
    ∃ mapping ∈ mappings tables table.level table.base,
      mapping.pte = leaf.pte ∧ mapping.level = leaf.level ∧
        mapping.Covers (va.toNat / 4096 % 512 ^ (table.level + 1)) := by
  obtain ⟨level, same⟩ : ∃ level, table.level = level := ⟨_, rfl⟩
  induction level generalizing table with
  | zero =>
      rw [same, findLeaf] at found
      split at found
      · rename_i allowed
        obtain ⟨usable, isLeaf⟩ := Bool.and_eq_true_iff.mp allowed
        obtain ⟨listed, -⟩ := entry_listed member held (vpn_lt va 0) rfl usable
        rw [same] at listed ⊢
        cases found
        exact ⟨_, leaf_mem_mappings listed usable isLeaf, rfl, rfl, leaf_covers va 0 _⟩
      · cases found
  | succ level ih =>
      rw [same, findLeaf] at found
      split at found
      · cases found
      · rename_i usable
        have usable := Bool.of_not_eq_false usable
        obtain ⟨listed, other, known, sameLevel, within⟩ :=
          entry_listed member held (vpn_lt va (level + 1)) rfl usable
        rw [same] at listed sameLevel ⊢
        split at found
        · rename_i isLeaf
          cases found
          exact ⟨_, leaf_mem_mappings listed usable isLeaf, rfl, rfl, leaf_covers va (level + 1) _⟩
        · rename_i pointer
          have pointer := Bool.of_not_eq_true pointer
          obtain ⟨next, reached, target, deeper⟩ := linked other known _ within usable pointer
          have nextLevel : next.level = level := by omega
          rw [← target, ← nextLevel] at found
          obtain ⟨mapping, mapped, pte, leafLevel, covers⟩ := ih reached found nextLevel
          rw [nextLevel, target] at mapped
          rw [nextLevel] at covers
          exact ⟨_, pointer_mem_mappings listed usable pointer mapped, pte, leafLevel, covers.below⟩

end Foundation.Sv39
