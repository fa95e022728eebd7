import Mathlib.Data.List.Basic
import Mathlib.Data.List.Infix

namespace Foundation

/-! # Trailing runs

How many equal items a growing list ends in, and when for the first time.
-/

section Runs

variable {α : Type} {items : List α} {item next : α} {count bound : Nat}

/-- The list ends in `count` equal items. -/
def EndsEqual (count : Nat) (items : List α) : Prop := ∃ item ∈ items, List.replicate count item <:+ items

instance [DecidableEq α] : Decidable (EndsEqual count items) :=
  inferInstanceAs (Decidable (∃ item ∈ items, List.replicate count item <:+ items))

/-- The list ends in exactly `count` copies of `item`. -/
def TrailingRun (items : List α) (item : α) (count : Nat) : Prop :=
  ∃ older, items = older ++ List.replicate count item ∧ older.getLast? ≠ some item

theorem TrailingRun.same (run : TrailingRun items item count) :
    TrailingRun (items ++ [item]) item (count + 1) := by
  obtain ⟨older, rfl, fresh⟩ := run
  exact ⟨older, by rw [List.append_assoc, ← List.replicate_succ'], fresh⟩

theorem TrailingRun.change (run : TrailingRun items item (count + 1)) (differs : next ≠ item) :
    TrailingRun (items ++ [next]) next 1 := by
  obtain ⟨older, rfl, -⟩ := run
  refine ⟨_, rfl, ?_⟩
  simpa [List.replicate_succ'] using differs.symm

theorem TrailingRun.endsEqual_iff (run : TrailingRun items item (count + 1)) (asked : 0 < bound) :
    EndsEqual bound items ↔ bound ≤ count + 1 := by
  obtain ⟨older, rfl, fresh⟩ := run
  constructor
  · intro given
    obtain ⟨found, -, front, split⟩ := given
    by_contra short
    have same : found = item := by
      have ends := congrArg List.getLast? split
      obtain ⟨rest, rfl⟩ := Nat.exists_eq_add_of_lt asked
      simpa [List.replicate_succ'] using ends
    subst same
    have longer : List.replicate bound found =
        List.replicate (bound - (count + 1)) found ++ List.replicate (count + 1) found := by
      rw [← List.replicate_add]
      congr 1
      omega
    rw [longer, ← List.append_assoc] at split
    have front := List.append_cancel_right split
    apply fresh
    rw [← front]
    obtain ⟨rest, more⟩ := Nat.exists_eq_add_of_lt (Nat.sub_pos_of_lt (Nat.lt_of_not_le short))
    simp [more, List.replicate_succ']
  · intro long
    refine ⟨item, by simp, ?_⟩
    refine List.IsSuffix.trans ?_ (List.suffix_append older _)
    refine ⟨List.replicate (count + 1 - bound) item, ?_⟩
    rw [← List.replicate_add]
    congr 1
    omega

/-- A different item in front does not make the run longer. -/
theorem endsEqual_cons (long : 1 < bound) (differs : items.head? ≠ some item) :
    EndsEqual bound (item :: items) ↔ EndsEqual bound items := by
  constructor
  · intro given
    obtain ⟨found, -, suffix⟩ := given
    obtain ⟨rest, rfl⟩ := Nat.exists_eq_add_of_lt long
    rcases List.suffix_cons_iff.mp suffix with whole | inside
    · rw [show 1 + rest + 1 = rest + 1 + 1 by omega, List.replicate_succ] at whole
      obtain ⟨rfl, rfl⟩ := List.cons.inj whole
      exact absurd rfl differs
    · exact ⟨found, inside.subset (by simp), inside⟩
  · intro ⟨found, member, suffix⟩
    exact ⟨found, List.mem_cons_of_mem _ member, suffix.trans (List.suffix_cons _ _)⟩

theorem TrailingRun.single : TrailingRun [item] item 1 := ⟨[], rfl, by simp⟩

/-- Somewhere in the list stand `count` equal items in a row. -/
def ContainsEqual (count : Nat) (items : List α) : Prop := ∃ item, List.replicate count item <:+: items

theorem containsEqual_concat (asked : 0 < bound) :
    ContainsEqual bound (items ++ [next]) ↔ ContainsEqual bound items ∨ EndsEqual bound (items ++ [next]) := by
  constructor
  · intro ⟨item, inside⟩
    rcases List.infix_concat_iff.mp inside with suffix | inside
    · have member : item ∈ List.replicate bound item := List.mem_replicate.mpr ⟨by omega, rfl⟩
      exact .inr ⟨item, suffix.subset member, suffix⟩
    · exact .inl ⟨item, inside⟩
  · intro either
    rcases either with ⟨item, inside⟩ | ⟨item, -, suffix⟩
    · exact ⟨item, List.infix_concat_iff.mpr (.inr inside)⟩
    · exact ⟨item, suffix.isInfix⟩

theorem not_containsEqual_of_short (short : items.length < bound) : ¬ ContainsEqual bound items := by
  intro ⟨item, inside⟩
  have long := inside.length_le
  rw [List.length_replicate] at long
  omega

end Runs

/-- The first time that something is the case. -/
def IsFirst (holds : Nat → Prop) (time : Nat) : Prop := holds time ∧ ∀ earlier < time, ¬ holds earlier

section First

variable {holds also : Nat → Prop} {time : Nat}

instance [DecidablePred holds] : Decidable (IsFirst holds time) := inferInstanceAs (Decidable (_ ∧ _))

theorem IsFirst.congr (same : ∀ now, (∀ earlier < now, ¬ holds earlier) → (holds now ↔ also now)) :
    IsFirst holds time ↔ IsFirst also time := by
  have together : ∀ now, (∀ earlier < now, ¬ holds earlier) ↔ ∀ earlier < now, ¬ also earlier := by
    intro now
    induction now with
    | zero => simp
    | succ now ih =>
        simp only [Nat.forall_lt_succ_right, ← ih]
        constructor <;> intro ⟨quiet, not⟩ <;> refine ⟨quiet, ?_⟩
        · rwa [← same now quiet]
        · rwa [same now quiet]
  unfold IsFirst
  rw [← together]
  constructor <;> intro ⟨here, quiet⟩ <;> refine ⟨?_, quiet⟩
  · exact (same time quiet).mp here
  · exact (same time quiet).mpr here

/-- Two things happen for the first time together exactly when, as long as
neither has happened, each step brings both or neither. -/
theorem isFirst_iff_iff :
    (∀ time, IsFirst holds time ↔ IsFirst also time) ↔
      ∀ now, (∀ earlier < now, ¬ holds earlier ∧ ¬ also earlier) → (holds now ↔ also now) := by
  constructor
  · intro together now none
    constructor
    · intro here
      exact ((together now).mp ⟨here, fun earlier before => (none earlier before).1⟩).1
    · intro here
      exact ((together now).mpr ⟨here, fun earlier before => (none earlier before).2⟩).1
  · intro step
    have both : ∀ now, (∀ earlier < now, ¬ holds earlier) → ∀ earlier < now, ¬ also earlier := by
      intro now
      induction now with
      | zero => simp
      | succ now ih =>
          intro none earlier before
          have rest := fun past inside => none past (Nat.lt_succ_of_lt inside)
          rcases Nat.lt_succ_iff_lt_or_eq.mp before with inside | rfl
          · exact ih rest earlier inside
          · rw [← step earlier fun past inside => ⟨rest past inside, ih rest past inside⟩]
            exact none earlier before
    intro time
    exact IsFirst.congr fun now none => step now fun earlier before =>
      ⟨none earlier before, both now none earlier before⟩

end First

end Foundation
