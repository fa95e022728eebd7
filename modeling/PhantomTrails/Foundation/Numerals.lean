import Mathlib.Data.List.Basic

namespace Foundation

/-! # Positional numerals

The digits at the front of a text, read in a base up to sixteen, and that
reading undoes `Nat.toDigits`.
-/

section Numerals

variable {base read value digit : Nat} {text rest : List Char}

def digitValue (c : Char) : Option Nat :=
  if '0' ≤ c ∧ c ≤ '9' then some (c.toNat - '0'.toNat)
  else if 'a' ≤ c ∧ c ≤ 'f' then some (c.toNat - 'a'.toNat + 10)
  else if 'A' ≤ c ∧ c ≤ 'F' then some (c.toNat - 'A'.toNat + 10)
  else none

def digitIn (base : Nat) (c : Char) : Option Nat := (digitValue c).filter (· < base)

/-- The digits at the front, which continue the number `read` so far, and
what stands behind them. -/
def readDigits (base : Nat) : (read : Nat) → List Char → Nat × List Char
  | read, [] => (read, [])
  | read, c :: rest =>
      match digitIn base c with
      | some digit => readDigits base (base * read + digit) rest
      | none => (read, c :: rest)

/-- No digit stands at the front. -/
def NoDigit (base : Nat) (text : List Char) : Prop := ∀ c ∈ text.head?, digitIn base c = none

theorem digitIn_digitChar (small : base ≤ 16) (below : digit < base) :
    digitIn base digit.digitChar = some digit := by
  have value : digitValue digit.digitChar = some digit := by
    have within : digit < 16 := by omega
    clear below small
    revert digit
    decide
  rw [digitIn, value, Option.filter_some, if_pos (by simpa using below)]

theorem readDigits_of_noDigit (ends : NoDigit base text) : readDigits base read text = (read, text) := by
  cases text with
  | nil => rfl
  | cons c rest => rw [readDigits, ends c rfl]

theorem NoDigit.append (start : NoDigit base text) (nonempty : text ≠ []) (rest : List Char) :
    NoDigit base (text ++ rest) := by
  cases text with
  | nil => exact absurd rfl nonempty
  | cons c front => exact start

theorem NoDigit.of_le {large : Nat} (ends : NoDigit large text) (le : base ≤ large) : NoDigit base text := by
  intro c first
  have absent := ends c first
  simp only [digitIn, Option.filter_eq_none_iff, decide_eq_true_eq] at absent ⊢
  intro digit value below
  exact absent digit value (by omega)

theorem readDigits_toDigits (large : 1 < base) (small : base ≤ 16) (value : Nat) (rest : List Char) :
    readDigits base 0 (Nat.toDigits base value ++ rest) = readDigits base value rest := by
  induction value using Nat.strongRecOn generalizing rest with
  | ind value ih =>
      by_cases single : value < base
      · rw [Nat.toDigits_of_lt_base single, List.singleton_append, readDigits,
          digitIn_digitChar small single]
        simp only [Nat.mul_zero, Nat.zero_add]
      · have long : base ≤ value := Nat.le_of_not_lt single
        have last : value % base < base := Nat.mod_lt _ (by omega)
        rw [Nat.toDigits_of_base_le large long, List.append_assoc,
          ih _ (Nat.div_lt_self (by omega) large), List.singleton_append, readDigits,
          digitIn_digitChar small last]
        simp only [Nat.div_add_mod]

/-- The numeral of a number starts with a digit, and with a zero only that of
zero. -/
theorem toDigits_eq_cons (large : 1 < base) (value : Nat) :
    ∃ digit more, digit < base ∧ Nat.toDigits base value = digit.digitChar :: more ∧
      (digit = 0 → value = 0 ∧ more = []) := by
  induction value using Nat.strongRecOn with
  | ind value ih =>
      by_cases single : value < base
      · exact ⟨value, [], single, Nat.toDigits_of_lt_base single, fun zero => ⟨zero, rfl⟩⟩
      · have long : base ≤ value := Nat.le_of_not_lt single
        obtain ⟨digit, more, below, front, zero⟩ := ih _ (Nat.div_lt_self (by omega) large)
        refine ⟨digit, more ++ [(value % base).digitChar], below, ?_, fun leading => ?_⟩
        · rw [Nat.toDigits_of_base_le large long, front, List.cons_append]
        · have positive : 0 < value / base := Nat.div_pos long (by omega)
          omega

theorem mem_toDigits (large : 1 < base) {c : Char} (member : c ∈ Nat.toDigits base value) :
    ∃ digit < base, c = digit.digitChar := by
  induction value using Nat.strongRecOn with
  | ind value ih =>
      by_cases single : value < base
      · rw [Nat.toDigits_of_lt_base single, List.mem_singleton] at member
        exact ⟨value, single, member⟩
      · have long : base ≤ value := Nat.le_of_not_lt single
        rw [Nat.toDigits_of_base_le large long, List.mem_append, List.mem_singleton] at member
        rcases member with front | last
        · exact ih _ (Nat.div_lt_self (by omega) large) front
        · exact ⟨_, Nat.mod_lt _ (by omega), last⟩

end Numerals

end Foundation
