import Mathlib.Algebra.Order.Field.Basic
import Mathlib.Data.List.Chain
import Mathlib.Tactic.Linarith

namespace Foundation

/-! # Linear interpolation

The polygon through samples whose times may repeat, continued behind the last
one at a given rate.
-/

section Interpolation

variable {K : Type} [Field K] [LinearOrder K]

structure Sample (K : Type) where
  time : K
  count : K
deriving DecidableEq

/-- Time does not go back, and the count grows whenever time does. -/
structure Rises (earlier later : Sample K) : Prop where
  time : earlier.time ≤ later.time
  count : earlier.count ≤ later.count
  strict : earlier.time < later.time → earlier.count < later.count

def slope (earlier later : Sample K) : K := (later.count - earlier.count) / (later.time - earlier.time)

/-- The value at a time from the base on.  Of several samples at one time the
last one counts. -/
def valueFrom (rate : K) : (base : Sample K) → List (Sample K) → (time : K) → K
  | base, [], time => base.count + (time - base.time) * rate
  | base, next :: rest, time =>
      if next.time ≤ time then valueFrom rate next rest time
      else base.count + (time - base.time) * slope base next

variable {rate s t : K} {base next : Sample K} {samples : List (Sample K)}

omit [Field K] in
theorem time_le_of_mem {sample : Sample K} (rises : (base :: samples).IsChain Rises)
    (member : sample ∈ base :: samples) : base.time ≤ sample.time := by
  induction samples generalizing base with
  | nil =>
      rw [List.mem_singleton.mp member]
  | cons next rest ih =>
      obtain ⟨first, later⟩ := List.isChain_cons_cons.mp rises
      rcases List.mem_cons.mp member with rfl | behind
      · exact le_rfl
      · exact first.time.trans (ih later behind)

/-- The samples that a time has passed do not matter. -/
theorem valueFrom_passed {before after : List (Sample K)} {sample : Sample K}
    (rises : (base :: samples).IsChain Rises) (split : base :: samples = before ++ sample :: after)
    (passed : sample.time ≤ t) : valueFrom rate base samples t = valueFrom rate sample after t := by
  induction before generalizing base samples with
  | nil =>
      obtain ⟨rfl, rfl⟩ := List.cons.inj split
      rfl
  | cons head before ih =>
      obtain ⟨rfl, rest⟩ := List.cons.inj split
      cases samples with
      | nil => simp at rest
      | cons next samples =>
          have later := (List.isChain_cons_cons.mp rises).2
          have reached : next.time ≤ sample.time := time_le_of_mem later (by simp [rest])
          rw [valueFrom, if_pos (reached.trans passed)]
          exact ih later rest

/-- At the time of a sample that no other one follows at that time. -/
theorem valueFrom_at {before after : List (Sample K)} {sample : Sample K}
    (rises : (base :: samples).IsChain Rises) (split : base :: samples = before ++ sample :: after)
    (last : ∀ later ∈ after, later.time ≠ sample.time) :
    valueFrom rate base samples sample.time = sample.count := by
  rw [valueFrom_passed rises split le_rfl]
  cases after with
  | nil => simp [valueFrom]
  | cons next after =>
      rw [split] at rises
      have step := (List.isChain_append_cons_cons.mp rises).2.1
      have ahead : ¬ next.time ≤ sample.time := fun back =>
        last next List.mem_cons_self (le_antisymm back step.time)
      simp [valueFrom, ahead]

variable [IsStrictOrderedRing K]

theorem Rises.slope_pos (rises : Rises base next) (later : base.time < next.time) : 0 < slope base next :=
  div_pos (sub_pos.mpr (rises.strict later)) (sub_pos.mpr later)

theorem slope_mul (later : base.time < next.time) :
    (next.time - base.time) * slope base next = next.count - base.count :=
  mul_div_cancel₀ _ (sub_pos.mpr later).ne'

/-- On the segment to the next sample. -/
theorem Rises.segment_le (rises : Rises base next) (start : base.time ≤ t) (inside : t < next.time) :
    base.count ≤ base.count + (t - base.time) * slope base next ∧
      base.count + (t - base.time) * slope base next ≤ next.count := by
  have later := start.trans_lt inside
  have positive := rises.slope_pos later
  have up := mul_nonneg (sub_nonneg.mpr start) positive.le
  have short := mul_le_mul_of_nonneg_right (sub_le_sub_right inside.le base.time) positive.le
  rw [slope_mul later] at short
  constructor <;> linarith

theorem base_le_valueFrom (grows : 0 ≤ rate) (rises : (base :: samples).IsChain Rises)
    (start : base.time ≤ t) : base.count ≤ valueFrom rate base samples t := by
  induction samples generalizing base with
  | nil =>
      have up := mul_nonneg (sub_nonneg.mpr start) grows
      rw [valueFrom]
      linarith
  | cons next rest ih =>
      obtain ⟨first, later⟩ := List.isChain_cons_cons.mp rises
      rw [valueFrom]
      split
      · rename_i reached
        exact first.count.trans (ih later reached)
      · rename_i inside
        exact (first.segment_le start (lt_of_not_ge inside)).1

theorem valueFrom_mono (grows : 0 ≤ rate) (rises : (base :: samples).IsChain Rises)
    (start : base.time ≤ s) (forth : s ≤ t) :
    valueFrom rate base samples s ≤ valueFrom rate base samples t := by
  induction samples generalizing base with
  | nil =>
      have longer := mul_le_mul_of_nonneg_right (sub_le_sub_right forth base.time) grows
      simp only [valueFrom]
      linarith
  | cons next rest ih =>
      obtain ⟨first, later⟩ := List.isChain_cons_cons.mp rises
      simp only [valueFrom]
      by_cases reached : next.time ≤ s
      · rw [if_pos reached, if_pos (reached.trans forth)]
        exact ih later reached
      · have inside := lt_of_not_ge reached
        rw [if_neg reached]
        by_cases passed : next.time ≤ t
        · rw [if_pos passed]
          exact (first.segment_le start inside).2.trans (base_le_valueFrom grows later passed)
        · rw [if_neg passed]
          have positive := first.slope_pos (start.trans_lt inside)
          have longer := mul_le_mul_of_nonneg_right (sub_le_sub_right forth base.time) positive.le
          linarith

/-- Between two neighbours the value lies between their counts. -/
theorem valueFrom_between {before after : List (Sample K)} {left right : Sample K}
    (rises : (base :: samples).IsChain Rises) (split : base :: samples = before ++ left :: right :: after)
    (start : left.time ≤ t) (inside : t < right.time) :
    left.count ≤ valueFrom rate base samples t ∧ valueFrom rate base samples t ≤ right.count := by
  rw [valueFrom_passed rises split start, valueFrom, if_neg (not_le_of_gt inside)]
  rw [split] at rises
  have step := (List.isChain_append_cons_cons.mp rises).2.1
  exact step.segment_le start inside

end Interpolation

end Foundation
