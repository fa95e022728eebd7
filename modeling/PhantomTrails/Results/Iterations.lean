import Mathlib.Tactic.NormNum
import PhantomTrails.Foundation.Interpolation
import PhantomTrails.Results.Model

namespace PhantomTrails

open Foundation Python

/-! # From times to iterations

`_time_to_iterations` takes the rate from one sample of the log and the base
from another.  It is the polygon through the samples, cut to whole numbers.
-/

/-- Time does not go back, and iterations are done whenever it passes. -/
structure Advances (earlier later : ℤ × ℤ) : Prop where
  time : earlier.1 ≤ later.1
  iterations : earlier.2 ≤ later.2
  strict : earlier.1 < later.1 → earlier.2 < later.2

/-- A log with samples, behind the one of no iterations at time 0. -/
structure Logged (log : List (ℤ × ℤ)) : Prop where
  nonempty : log ≠ []
  advances : ((0, 0) :: log).IsChain Advances

def sample (entry : ℤ × ℤ) : Sample ℚ := ⟨entry.1, entry.2⟩

variable {base next : ℤ × ℤ} {log : List (ℤ × ℤ)} {t : ℚ}

theorem Advances.rises (advances : Advances base next) : Rises (sample base) (sample next) where
  time := Int.cast_le.mpr advances.time
  count := Int.cast_le.mpr advances.iterations
  strict := fun later => Int.cast_lt.mpr (advances.strict (Int.cast_lt.mp later))

theorem rises_of_advances (advances : (base :: log).IsChain Advances) :
    (sample base :: log.map sample).IsChain Rises := by
  rw [← List.map_cons, List.isChain_map]
  exact advances.imp fun _ _ step => step.rises

def execs (base next : ℤ × ℤ) : ℚ := execsPerSec (next.1 - base.1) (next.2 - base.2)

theorem Advances.execs_pos (advances : Advances base next) : 0 < execs base next := by
  rw [execs, execsPerSec]
  split
  · exact one_pos
  · rename_i moved
    have later : base.1 < next.1 := lt_of_le_of_ne advances.time fun same => moved (by omega)
    apply div_pos
    · exact Int.cast_pos.mpr (by linarith [advances.strict later])
    · exact Int.cast_pos.mpr (by linarith)

theorem execs_eq_slope (later : base.1 < next.1) : execs base next = Foundation.slope (sample base) (sample next) := by
  rw [execs, execsPerSec, if_neg (by omega), Foundation.slope]
  simp [sample]

/-! ## The items of the log -/

def itemsFrom : (base : ℤ × ℤ) → List (ℤ × ℤ) → List IterLogItem
  | _, [] => []
  | base, next :: log => ⟨next.1, next.2, execs base next⟩ :: itemsFrom next log

theorem readIterations_eq (advances : (base :: log).IsChain Advances) :
    readIterations base.1 base.2 log = .ok (itemsFrom base log) := by
  induction log generalizing base with
  | nil => rfl
  | cons next log ih =>
      obtain ⟨first, later⟩ := List.isChain_cons_cons.mp advances
      obtain ⟨time, iterations⟩ := next
      have positive : execsPerSec (time - base.1) (iterations - base.2) > 0 := first.execs_pos
      simp only [readIterations, IterLogItem.init, if_pos positive]
      rw [ih later]
      rfl

/-- The rate behind the last sample. -/
def lastRate : (rate : ℚ) → (base : ℤ × ℤ) → List (ℤ × ℤ) → ℚ
  | rate, _, [] => rate
  | _, base, next :: log => lastRate (execs base next) next log

theorem lastRate_pos {rate : ℚ} (positive : 0 < rate) (advances : (base :: log).IsChain Advances) :
    0 < lastRate rate base log := by
  induction log generalizing base rate with
  | nil => exact positive
  | cons next log ih =>
      obtain ⟨first, later⟩ := List.isChain_cons_cons.mp advances
      exact ih first.execs_pos later

/-- Where the loop ends, from a base that the time has passed. -/
theorem scanLog_eq (rate : ℚ) (advances : (base :: log).IsChain Advances) (start : base.1 ≤ t) :
    ∃ progress last_execs, scanLog t ⟨base.2, t - base.1, some rate⟩ (itemsFrom base log) = progress ∧
      progress.last_execs = some last_execs ∧ 0 ≤ progress.delta_secs ∧
      progress.last_iters + progress.delta_secs * last_execs =
        valueFrom (lastRate rate base log) (sample base) (log.map sample) t := by
  induction log generalizing base rate with
  | nil => exact ⟨_, rate, rfl, rfl, sub_nonneg.mpr start, rfl⟩
  | cons next log ih =>
      obtain ⟨first, later⟩ := List.isChain_cons_cons.mp advances
      rw [itemsFrom, scanLog, lastRate, List.map_cons, valueFrom]
      by_cases ahead : (next.1 : ℚ) > t
      · have passed : base.1 < next.1 := Int.cast_lt.mp (start.trans_lt ahead)
        have unreached : ¬ (sample next).time ≤ t := not_le_of_gt ahead
        rw [if_pos ahead, if_neg unreached]
        refine ⟨_, execs base next, rfl, rfl, sub_nonneg.mpr start, ?_⟩
        rw [execs_eq_slope passed]
        rfl
      · have reached : (sample next).time ≤ t := le_of_not_gt ahead
        rw [if_neg ahead, if_pos reached]
        exact ih (execs base next) later reached

/-- The polygon through the samples of the log. -/
def polygon (log : List (ℤ × ℤ)) (t : ℚ) : ℚ :=
  valueFrom (lastRate 1 (0, 0) log) (sample (0, 0)) (log.map sample) t

/-- The rate before the first item is never used. -/
theorem scanLog_unbound (nonempty : log ≠ []) (progress : Progress) (rate : ℚ) :
    scanLog t { progress with last_execs := none } (itemsFrom base log) =
      scanLog t { progress with last_execs := some rate } (itemsFrom base log) := by
  cases log with
  | nil => exact absurd rfl nonempty
  | cons next log => rfl

theorem timeToIterations_eq (logged : Logged log) (start : 0 ≤ t) :
    timeToIterations (itemsFrom (0, 0) log) t = .ok ⌊polygon log t⌋ := by
  have origin : ((0, 0) : ℤ × ℤ).1 ≤ t := by simpa using start
  obtain ⟨progress, last_execs, ended, bound, forth, value⟩ := scanLog_eq 1 logged.advances origin
  have begun : scanLog t ⟨0, t, none⟩ (itemsFrom (0, 0) log) = scanLog t ⟨0, t, some 1⟩ (itemsFrom (0, 0) log) :=
    scanLog_unbound logged.nonempty ⟨0, t, none⟩ 1
  simp only [Int.cast_zero, sub_zero] at ended
  have positive : 0 ≤ polygon log t := by
    have above := base_le_valueFrom (lastRate_pos one_pos logged.advances).le
      (rises_of_advances logged.advances) (by simpa [sample] using start)
    simpa [sample, polygon] using above
  change _ = polygon log t at value
  rw [timeToIterations, begun, ended]
  simp only [not_lt_of_ge forth, if_false, bound, value]
  rw [truncate, if_neg (not_lt_of_ge positive)]

/-! ## A monotone interpolation -/

/-- What the conversion has to give, at all times from 0 on. -/
structure Interpolates (log : List (ℤ × ℤ)) (count : ℚ → ℤ) : Prop where
  monotone : ∀ s t, 0 ≤ s → s ≤ t → count s ≤ count t
  atSample : ∀ before entry after, log = before ++ entry :: after →
    (∀ later ∈ after, later.1 ≠ entry.1) → count entry.1 = entry.2
  between : ∀ before left right after t, (0, 0) :: log = before ++ left :: right :: after →
    (left.1 : ℚ) ≤ t → t < right.1 → left.2 ≤ count t ∧ count t ≤ right.2

theorem interpolates_polygon (logged : Logged log) : Interpolates log fun t => ⌊polygon log t⌋ := by
  have rises := rises_of_advances logged.advances
  have grows := (lastRate_pos one_pos logged.advances).le
  have split : ∀ {entries : List (ℤ × ℤ)}, (0, 0) :: log = entries →
      sample (0, 0) :: log.map sample = entries.map sample := by
    intro entries equal
    subst equal
    rfl
  constructor
  · intro s t start forth
    exact Int.floor_mono (valueFrom_mono grows rises (by simpa [sample] using start) forth)
  · intro before entry after parts last
    have whole : (0, 0) :: log = (0, 0) :: before ++ entry :: after := by rw [parts]; rfl
    have parted := split whole
    rw [List.map_append, List.map_cons (l := after)] at parted
    have others : ∀ later ∈ after.map sample, later.time ≠ (sample entry).time := by
      intro later member same
      obtain ⟨other, behind, rfl⟩ := List.mem_map.mp member
      exact last other behind (Int.cast_injective same)
    have exact : polygon log entry.1 = entry.2 := valueFrom_at rises parted others
    rw [exact, Int.floor_intCast]
  · intro before left right after t parts start inside
    have parted := split parts
    rw [List.map_append, List.map_cons, List.map_cons] at parted
    obtain ⟨lower, upper⟩ : (left.2 : ℚ) ≤ polygon log t ∧ polygon log t ≤ right.2 :=
      valueFrom_between rises parted start inside
    refine ⟨Int.le_floor.mpr lower, ?_⟩
    have bound := (Int.floor_le (polygon log t)).trans upper
    exact Int.cast_le.mp bound

/-- The conversion returns at every time, and it interpolates the log. -/
theorem timeToIterations_interpolates (log : List (ℤ × ℤ)) (logged : Logged log) :
    ∃ items, ∃ count : ℚ → ℤ, readIterations 0 0 log = .ok items ∧
      (∀ t, 0 ≤ t → timeToIterations items t = .ok (count t)) ∧ Interpolates log count :=
  ⟨_, _, readIterations_eq logged.advances, fun _ start => timeToIterations_eq logged start,
    interpolates_polygon logged⟩

/-- Two samples at one time. -/
def twoAtOnce : List (ℤ × ℤ) := [(10, 100), (10, 120), (20, 200)]

theorem timeToIterations_interpolates_twoAtOnce : ∃ items, ∃ count : ℚ → ℤ,
    readIterations 0 0 twoAtOnce = .ok items ∧ timeToIterations items 10 = .ok 120 ∧
      120 ≤ count 15 ∧ count 15 ≤ 200 := by
  have advances : ((0, 0) :: twoAtOnce).IsChain Advances := by
    simp only [twoAtOnce, List.isChain_cons_cons, List.isChain_singleton, and_true]
    refine ⟨⟨?_, ?_, ?_⟩, ⟨?_, ?_, ?_⟩, ⟨?_, ?_, ?_⟩⟩ <;> decide
  obtain ⟨items, count, read, returns, interpolates⟩ :=
    timeToIterations_interpolates twoAtOnce ⟨by decide, advances⟩
  have atTen : count 10 = 120 := by
    simpa using interpolates.atSample [(10, 100)] (10, 120) [(20, 200)] rfl (by decide)
  have between := interpolates.between [(0, 0), (10, 100)] (10, 120) (20, 200) [] 15 rfl
    (by norm_num) (by norm_num)
  refine ⟨items, count, read, ?_, between⟩
  rw [returns 10 (by norm_num), atTen]

end PhantomTrails
