import PhantomTrails.Foundation.Run
import PhantomTrails.ArchSim.Filters

namespace PhantomTrails.Filters

open Foundation Foundation.Machine

/-! # The data-access filter

An access covers bytes, in physical memory for the code regions and in virtual
memory for the forbidden ones.  The hooks are told its virtual start address
and compare that with both lists.
-/

inductive AccessSize where
  | byte
  | half
  | word
  | double
deriving DecidableEq, Repr

def AccessSize.bytes : AccessSize → Nat
  | .byte => 1
  | .half => 2
  | .word => 4
  | .double => 8

theorem AccessSize.bytes_pos (size : AccessSize) : 0 < size.bytes := by
  cases size <;> decide

structure Access where
  pc : UInt64
  addr : UInt64
  size : AccessSize
  isStore : Bool
  translate : UInt64 → UInt64

def Access.byteAddr (access : Access) (i : Nat) : UInt64 := access.addr + UInt64.ofNat i

def accessStep : Machine Filters Access Fault := fun filters access =>
  .ok (if access.isStore then filters.storeHook access.pc access.addr
    else filters.loadHook access.pc access.addr)

def TouchesCode (filters : Filters) (access : Access) : Prop :=
  ∃ i < access.size.bytes, filters.InCode (access.translate (access.byteAddr i))

def TouchesForbidden (filters : Filters) (access : Access) : Prop :=
  ∃ i < access.size.bytes, filters.InForbidden (access.byteAddr i)

/-- What the filter owes one access of an instruction at or after `initEnd` in
physical memory. -/
structure Filtered (filters after : Filters) (access : Access) : Prop where
  code : access.isStore = true → filters.TouchesCode access → after.selfModifying = true
  forbidden : filters.TouchesForbidden access → after.accessedForbiddenRegion = true
  neither : ¬ filters.TouchesCode access → ¬ filters.TouchesForbidden access →
    after.selfModifying = filters.selfModifying ∧
      after.accessedForbiddenRegion = filters.accessedForbiddenRegion

def AccessFiltered (filters : Filters) (access : Access) : Prop :=
  filters.initEnd ≤ access.translate access.pc →
    ∃ after, accessStep filters access = .ok after ∧ Filtered filters after access

def Examined (filters : Filters) (access : Access) : Prop := filters.initEnd ≤ access.pc

/-- When the hooks judge an access as they should: a flag that has to be up is
up already, or the start address shows what the access touches and the virtual
pc does not pass for initialization code; and no virtual start address is
mistaken for a physical one. -/
structure Judged (filters : Filters) (access : Access) : Prop where
  code : access.isStore = true → filters.TouchesCode access →
    filters.selfModifying = true ∨ filters.Examined access ∧ filters.InCode access.addr
  forbidden : filters.TouchesForbidden access →
    filters.accessedForbiddenRegion = true ∨
      filters.Examined access ∧ filters.InForbidden access.addr
  neither : access.isStore = true → filters.InCode access.addr → filters.Examined access →
    filters.selfModifying = true ∨ filters.TouchesCode access ∨ filters.TouchesForbidden access

def AccessJudged (filters : Filters) (access : Access) : Prop :=
  filters.initEnd ≤ access.translate access.pc → filters.Judged access

variable {filters after : Filters} {access : Access}

theorem checkForbidden_accessed (addr : UInt64) :
    (filters.checkForbidden addr).accessedForbiddenRegion = true ↔
      filters.accessedForbiddenRegion = true ∨ filters.InForbidden addr := by
  rw [checkForbidden, ← isInsideForbiddenRegion_iff]
  split <;> simp [*]

theorem checkForbidden_selfModifying (addr : UInt64) :
    (filters.checkForbidden addr).selfModifying = filters.selfModifying := by
  rw [checkForbidden]
  split <;> rfl

theorem accessStep_selfModifying (stepped : accessStep filters access = .ok after) :
    after.selfModifying = true ↔ filters.selfModifying = true ∨
      access.isStore = true ∧ filters.Examined access ∧ filters.InCode access.addr := by
  cases stepped
  have skipped : ¬ access.pc < filters.initEnd ↔ filters.Examined access := UInt64.not_lt
  rw [← skipped, ← isInsideCodeRegion_iff]
  cases store : access.isStore with
  | false =>
      simp only [Bool.false_eq_true, if_false, loadHook, false_and, or_false]
      split
      · rfl
      · rw [checkForbidden_selfModifying]
  | true =>
      simp only [if_true, storeHook, true_and]
      split
      · rename_i early
        simp [early]
      · rename_i late
        rw [checkForbidden_selfModifying]
        split <;> simp [*]

theorem accessStep_accessed (stepped : accessStep filters access = .ok after) :
    after.accessedForbiddenRegion = true ↔ filters.accessedForbiddenRegion = true ∨
      filters.Examined access ∧ filters.InForbidden access.addr := by
  cases stepped
  have skipped : ¬ access.pc < filters.initEnd ↔ filters.Examined access := UInt64.not_lt
  rw [← skipped]
  cases store : access.isStore with
  | false =>
      simp only [Bool.false_eq_true, if_false, loadHook]
      split
      · rename_i early
        simp [early]
      · rename_i late
        rw [checkForbidden_accessed]
        simp [late]
  | true =>
      simp only [if_true, storeHook]
      split
      · rename_i early
        simp [early]
      · rename_i late
        rw [checkForbidden_accessed]
        split <;> simp [late, InForbidden]

theorem touchesForbidden_of_start (start : filters.InForbidden access.addr) :
    filters.TouchesForbidden access := by
  refine ⟨0, access.size.bytes_pos, ?_⟩
  simpa [Access.byteAddr] using start

theorem bool_eq_of_iff_or {before now : Bool} {raise : Prop}
    (flag : now = true ↔ before = true ∨ raise) :
    now = before ↔ (raise → before = true) := by
  cases before <;> cases now <;> simp_all

/-- One access is filtered exactly when it is judged rightly. -/
theorem filtered_iff_judged (stepped : accessStep filters access = .ok after) :
    Filtered filters after access ↔ Judged filters access := by
  have codeFlag := accessStep_selfModifying stepped
  have forbiddenFlag := accessStep_accessed stepped
  constructor
  · intro filtered
    refine ⟨fun store touches => ?_, fun touches => ?_, fun store start examined => ?_⟩
    · rcases codeFlag.mp (filtered.code store touches) with up | ⟨-, examined, start⟩
      · exact .inl up
      · exact .inr ⟨examined, start⟩
    · exact forbiddenFlag.mp (filtered.forbidden touches)
    · by_cases code : filters.TouchesCode access
      · exact .inr (.inl code)
      · by_cases forbidden : filters.TouchesForbidden access
        · exact .inr (.inr forbidden)
        · have kept := (filtered.neither code forbidden).1
          exact .inl ((bool_eq_of_iff_or codeFlag).mp kept ⟨store, examined, start⟩)
  · intro judged
    refine ⟨fun store touches => ?_, fun touches => ?_, fun code forbidden => ⟨?_, ?_⟩⟩
    · rcases judged.code store touches with up | ⟨examined, start⟩
      · exact codeFlag.mpr (.inl up)
      · exact codeFlag.mpr (.inr ⟨store, examined, start⟩)
    · exact forbiddenFlag.mpr (judged.forbidden touches)
    · apply (bool_eq_of_iff_or codeFlag).mpr
      intro ⟨store, examined, start⟩
      rcases judged.neither store start examined with up | touches | touches
      · exact up
      · exact absurd touches code
      · exact absurd touches forbidden
    · apply (bool_eq_of_iff_or forbiddenFlag).mpr
      intro ⟨_, start⟩
      exact absurd (touchesForbidden_of_start start) forbidden

/-- Over every sequence of accesses the filter is sound exactly when each
access is judged rightly. -/
theorem data_filter_iff (filters : Filters) (accesses : List Access) :
    Along accessStep AccessFiltered filters accesses ↔
      Along accessStep AccessJudged filters accesses := by
  have keeps : Keeps accessStep (fun _ _ => True) fun _ => True := fun _ _ _ _ _ _ => trivial
  apply keeps.along_congr ?_ (along_of_forall accessStep (fun _ _ => trivial) filters) trivial
  intro before access _ _
  apply forall_congr' fun _ => ?_
  have stepped : accessStep before access = .ok _ := rfl
  simp only [stepped, Except.ok.injEq, exists_eq_left']
  exact filtered_iff_judged stepped

def userMemory : Filters where
  initEnd := 0x80008000
  codeRegions := [(0x80008000, 0x80009000)]
  forbiddenRegions := [(0x8000C000, 0x8000D000)]

/-- An aligned load from the forbidden page.  Its instruction lies in the user
code page, but was fetched through the mapping at address 0, so that the
virtual pc passes for initialization code. -/
theorem data_filter_aliased :
    ¬ Along accessStep AccessFiltered userMemory
      [{ pc := 0x10, addr := 0x8000C000, size := .double, isStore := false, translate := userPages }] := by
  intro filtered
  obtain ⟨after, stepped, sound⟩ := filtered.1 (by decide)
  cases stepped
  have up := sound.forbidden ⟨0, by decide, (0x8000C000, 0x8000D000), by simp [userMemory],
    by decide, by decide⟩
  cases up

end PhantomTrails.Filters
