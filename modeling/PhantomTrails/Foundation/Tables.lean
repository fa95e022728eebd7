import Mathlib.Data.List.AList
import Mathlib.Data.Set.Finite.Lemmas
import Mathlib.Data.Set.Finite.List

namespace Foundation

/-! # Tables filled from a list

What a table holds after a list of entries was put into it, when of several
values of a key the first, the least or the last one is kept.
-/

abbrev Table (κ ν : Type) := AList fun _ : κ => ν

section Tables

variable {κ ν : Type} [DecidableEq κ] {entries : List (κ × ν)} {table : Table κ ν} {key : κ} {value : ν}

def keepFirst (table : Table κ ν) (entry : κ × ν) : Table κ ν :=
  if entry.1 ∈ table then table else table.insert entry.1 entry.2

def keepLast (table : Table κ ν) (entry : κ × ν) : Table κ ν := table.insert entry.1 entry.2

theorem lookup_keepFirst : (entries.foldl keepFirst table).lookup key =
    (table.lookup key).or (entries.lookup key) := by
  induction entries generalizing table with
  | nil => simp
  | cons entry entries ih =>
      obtain ⟨written, value⟩ := entry
      rw [List.foldl_cons, ih, keepFirst, List.lookup_cons]
      by_cases same : key = written
      · subst same
        split
        · rename_i known
          obtain ⟨old, found⟩ := Option.isSome_iff_exists.mp (AList.lookup_isSome.mpr known)
          simp [found]
        · rename_i unknown
          simp [AList.lookup_eq_none.mpr unknown]
      · have other : (key == written) = false := by simpa using same
        split
        · simp [other]
        · simp [other, AList.lookup_insert_ne same]

/-- With distinct keys nothing is overwritten. -/
theorem lookup_keepLast_iff (distinct : (entries.map Prod.fst).Nodup)
    (unknown : ∀ entry ∈ entries, table.lookup entry.1 = none) :
    (entries.foldl keepLast table).lookup key = some value ↔
      table.lookup key = some value ∨ (key, value) ∈ entries := by
  induction entries generalizing table with
  | nil => simp
  | cons entry entries ih =>
      obtain ⟨written, first⟩ := entry
      obtain ⟨now, later⟩ := List.forall_mem_cons.mp unknown
      rw [List.map_cons, List.nodup_cons] at distinct
      have apart : ∀ entry ∈ entries, entry.1 ≠ written := by
        intro entry member same
        exact distinct.1 (List.mem_map.mpr ⟨entry, member, same⟩)
      rw [List.foldl_cons, ih distinct.2 (by
        intro entry member
        rw [keepLast, AList.lookup_insert_ne (apart entry member)]
        exact later entry member)]
      rw [keepLast, List.mem_cons, Prod.mk.injEq]
      by_cases same : key = written
      · subst same
        simp only at now
        simp [now, eq_comm]
      · rw [AList.lookup_insert_ne same]
        simp [same]

theorem mem_of_lookup (found : entries.lookup key = some value) : (key, value) ∈ entries := by
  obtain ⟨before, after, rfl, -⟩ := List.lookup_eq_some_iff.mp found
  simp

/-! ## The least value of a key -/

variable [LinearOrder ν]

def keepLeast (table : Table κ ν) (entry : κ × ν) : Table κ ν :=
  match table.lookup entry.1 with
  | some known => if entry.2 < known then table.insert entry.1 entry.2 else table
  | none => table.insert entry.1 entry.2

def IsLeastOf (entries : List (κ × ν)) (key : κ) (value : ν) : Prop :=
  (key, value) ∈ entries ∧ ∀ other, (key, other) ∈ entries → value ≤ other

/-- What comes first for a key is also the least. -/
def FirstIsLeast (entries : List (κ × ν)) : Prop :=
  ∀ key value other, entries.lookup key = some value → (key, other) ∈ entries → value ≤ other

omit [DecidableEq κ] in
theorem exists_isLeastOf (member : (key, value) ∈ entries) : ∃ least, IsLeastOf entries key least := by
  have finite : {entry | entry ∈ entries ∧ entry.1 = key}.Finite := (List.finite_toSet entries).sep _
  obtain ⟨⟨_, least⟩, ⟨inside, rfl⟩, below⟩ := Set.exists_min_image _ Prod.snd finite ⟨(key, value), member, rfl⟩
  exact ⟨least, inside, fun other also => below (_, other) ⟨also, rfl⟩⟩

theorem lookup_keepLeast_of_ne {entry : κ × ν} (other : key ≠ entry.1) :
    (keepLeast table entry).lookup key = table.lookup key := by
  rw [keepLeast]
  split
  · split
    · exact AList.lookup_insert_ne other
    · rfl
  · exact AList.lookup_insert_ne other

/-- What is not below another candidate does not change which one is least. -/
theorem least_iff_of_le (candidate : ν → Prop) (value : ν) {kept dropped : ν} (below : kept ≤ dropped) :
    ((kept = value ∨ candidate value) ∧ ∀ other, kept = other ∨ candidate other → value ≤ other) ↔
      (dropped = value ∨ kept = value ∨ candidate value) ∧
        ∀ other, dropped = other ∨ kept = other ∨ candidate other → value ≤ other := by
  constructor
  · intro ⟨found, least⟩
    refine ⟨.inr found, fun other also => ?_⟩
    rcases also with rfl | also
    · exact (least kept (.inl rfl)).trans below
    · exact least other also
  · intro ⟨found, least⟩
    refine ⟨?_, fun other also => least other (.inr also)⟩
    rcases found with rfl | found
    · exact .inl (le_antisymm below (least kept (.inr (.inl rfl))))
    · exact found

theorem lookup_keepLeast_iff : (entries.foldl keepLeast table).lookup key = some value ↔
    (table.lookup key = some value ∨ (key, value) ∈ entries) ∧
      ∀ other, table.lookup key = some other ∨ (key, other) ∈ entries → value ≤ other := by
  induction entries generalizing table with
  | nil =>
      simp only [List.foldl_nil, List.not_mem_nil, or_false]
      constructor
      · intro found
        exact ⟨found, fun other also => (Option.some.inj (found.symm.trans also)).le⟩
      · exact And.left
  | cons entry entries ih =>
      obtain ⟨written, first⟩ := entry
      rw [List.foldl_cons, ih]
      by_cases same : key = written
      · subst same
        cases known : table.lookup key with
        | none =>
            have after : (keepLeast table (key, first)).lookup key = some first := by
              simp [keepLeast, known]
            simp [after, eq_comm]
        | some old =>
            by_cases less : first < old
            · have after : (keepLeast table (key, first)).lookup key = some first := by
                simp [keepLeast, known, less]
              have least := least_iff_of_le (fun other => (key, other) ∈ entries) value less.le
              simpa [after, eq_comm] using least
            · have after : (keepLeast table (key, first)).lookup key = some old := by
                simp [keepLeast, known, less]
              have least := least_iff_of_le (fun other => (key, other) ∈ entries) value (le_of_not_gt less)
              simpa [after, eq_comm, or_left_comm] using least
      · rw [lookup_keepLeast_of_ne same]
        simp [same]

/-- The first values are the least ones exactly if each first value is least. -/
theorem keepFirst_isLeastOf_iff :
    (∀ key value, (entries.foldl keepFirst ∅).lookup key = some value ↔ IsLeastOf entries key value) ↔
      FirstIsLeast entries := by
  simp only [lookup_keepFirst, AList.lookup_empty, Option.none_or]
  constructor
  · intro least key value other found member
    exact ((least key value).mp found).2 other member
  · intro first key value
    constructor
    · intro found
      exact ⟨mem_of_lookup found, fun other member => first key value other found member⟩
    · intro ⟨member, least⟩
      cases found : entries.lookup key with
      | none =>
          have absent := List.lookup_eq_none_iff.mp found (key, value) member
          simp at absent
      | some other =>
          have same := le_antisymm (first key other value found member) (least other (mem_of_lookup found))
          rw [same]

end Tables

end Foundation
