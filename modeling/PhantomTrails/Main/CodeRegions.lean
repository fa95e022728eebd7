import Mathlib.Data.List.Infix
import Mathlib.Data.List.TakeWhile
import PhantomTrails.ArchSim.Filters
import PhantomTrails.Foundation.Loops
import PhantomTrails.Foundation.Numerals

namespace PhantomTrails

open Foundation

/-! # The code regions file

`args_t` reads the file that `CODE_REGIONS` names: `getline` takes it apart
into lines and each line into fields, and `stoul` makes numbers of the first
two fields.
-/

inductive RegionsError where
  | invalidArgument
  | outOfRange
  | outOfBounds
deriving DecidableEq, Repr

/-- The loop over `getline`, with the item it is reading.  At the end of the
text, an item without characters is none. -/
def getlines (delim : Char) : (item : List Char) → List Char → List (List Char)
  | item, [] => if item = [] then [] else [item]
  | item, c :: rest => if c = delim then item :: getlines delim [] rest else getlines delim (item ++ [c]) rest

def split (s : List Char) (delim : Char) : List (List Char) := getlines delim [] s

/-! ## `stoul`, in base 16 -/

def isspace (c : Char) : Bool := c ∈ [' ', '\t', '\n', Char.ofNat 11, Char.ofNat 12, '\r']

def startsWithDigit (text : List Char) : Bool := text.head?.any fun c => (digitIn 16 c).isSome

/-- A `0x` is skipped only in front of a digit. -/
def skipBase : List Char → List Char
  | '0' :: x :: digits => if (x = 'x' ∨ x = 'X') ∧ startsWithDigit digits then digits else '0' :: x :: digits
  | text => text

def skipSign (text : List Char) : List Char :=
  if text.head? = some '-' ∨ text.head? = some '+' then text.tail else text

/-- What stands behind the number is not looked at, and a minus sign negates
modulo 2^64. -/
def stoul (text : List Char) : Except RegionsError UInt64 :=
  let signed := text.dropWhile isspace
  let digits := skipBase (skipSign signed)
  if startsWithDigit digits then
    if (readDigits 16 0 digits).1 < UInt64.size then
      if signed.head? = some '-' then .ok (-UInt64.ofNat (readDigits 16 0 digits).1)
      else .ok (UInt64.ofNat (readDigits 16 0 digits).1)
    else .error .outOfRange
  else .error .invalidArgument

/-! ## The loop over the lines -/

def splittedAt (splitted : List (List Char)) (i : Nat) : Except RegionsError (List Char) :=
  match splitted[i]? with
  | some item => .ok item
  | none => .error .outOfBounds

def codeRegion (line : List Char) : Except RegionsError Region := do
  let splitted := split line ','
  let start ← stoul (← splittedAt splitted 0)
  let stop ← stoul (← splittedAt splitted 1)
  pure (start, stop)

def codeRegions (content : List Char) : Except RegionsError (List Region) := (split content '\n').mapM codeRegion

/-! ## Lines and fields -/

section Split

variable {delim : Char} {item start rest : List Char}

theorem getlines_append (free : delim ∉ start) :
    getlines delim item (start ++ rest) = getlines delim (item ++ start) rest := by
  induction start generalizing item with
  | nil => rw [List.nil_append, List.append_nil]
  | cons c start ih =>
      rw [List.mem_cons, not_or] at free
      rw [List.cons_append, getlines, if_neg (Ne.symm free.1), ih free.2, List.append_assoc, List.singleton_append]

theorem split_append (free : delim ∉ start) : split (start ++ delim :: rest) delim = start :: split rest delim := by
  rw [split, getlines_append free, getlines, if_pos rfl, List.nil_append, split]

theorem split_of_not_mem (free : delim ∉ start) (nonempty : start ≠ []) : split start delim = [start] := by
  have whole : getlines delim [] (start ++ []) = getlines delim ([] ++ start) [] := getlines_append free
  rw [List.append_nil, List.nil_append] at whole
  rw [split, whole, getlines, if_neg nonempty]

/-- The fields that the first two numbers are read from. -/
def firstField (line : List Char) : List Char := line.takeWhile (· ≠ ',')

def secondField (line : List Char) : List Char := firstField (line.dropWhile (· ≠ ',')).tail

theorem passes_of_not_mem (free : delim ∉ start) : ∀ c ∈ start, decide (c ≠ delim) = true := by
  intro c member
  rw [decide_eq_true_iff]
  intro equal
  subst equal
  exact free member

theorem firstField_append (free : ',' ∉ start) : firstField (start ++ ',' :: rest) = start := by
  rw [firstField, List.takeWhile_append_of_pos (passes_of_not_mem free), List.takeWhile_cons, if_neg (by simp), List.append_nil]

theorem firstField_of_not_mem (free : ',' ∉ start) : firstField start = start := by
  rw [firstField, List.takeWhile_eq_self_iff]
  exact passes_of_not_mem free

theorem secondField_append (free : ',' ∉ start) : secondField (start ++ ',' :: rest) = firstField rest := by
  rw [secondField, List.dropWhile_append_of_pos (passes_of_not_mem free), List.dropWhile_cons, if_neg (by simp), List.tail_cons]

theorem split_getElem?_zero (nonempty : rest ≠ []) : (split rest ',')[0]? = some (firstField rest) := by
  by_cases member : ',' ∈ rest
  · obtain ⟨start, behind, rfl, free⟩ := List.eq_append_cons_of_mem member
    rw [split_append free, firstField_append free]
    rfl
  · rw [split_of_not_mem member nonempty, firstField_of_not_mem member]
    rfl

/-- There is a second field exactly if a comma stands in front of the last character. -/
theorem split_getElem?_one (line : List Char) :
    (split line ',')[1]? = if ',' ∈ line.dropLast then some (secondField line) else none := by
  by_cases member : ',' ∈ line
  · obtain ⟨start, rest, rfl, free⟩ := List.eq_append_cons_of_mem member
    rw [split_append free, List.getElem?_cons_succ, secondField_append free]
    by_cases behind : rest = []
    · subst behind
      rw [List.dropLast_concat, if_neg free]
      rfl
    · have inner : ',' ∈ (start ++ ',' :: rest).dropLast := by
        rw [List.dropLast_append_of_ne_nil (List.cons_ne_nil _ _), List.dropLast_cons_of_ne_nil behind]
        simp
      rw [if_pos inner, split_getElem?_zero behind]
  · have outside : ',' ∉ line.dropLast := fun inside => member (List.mem_of_mem_dropLast inside)
    rw [if_neg outside]
    by_cases empty : line = []
    · rw [empty]
      rfl
    · rw [split_of_not_mem member empty]
      rfl

end Split

section Lines

variable {line : List Char} {lines : List (List Char)}

theorem stoul_ne_outOfBounds (text : List Char) : stoul text ≠ .error .outOfBounds := by
  simp only [stoul]
  split_ifs <;> simp

/-- Both numbers of a line are read. -/
structure Converts (line : List Char) : Prop where
  fields : ',' ∈ line.dropLast
  start : ∃ value, stoul (firstField line) = .ok value
  stop : ∃ value, stoul (secondField line) = .ok value

/-- A comma with something behind it, or a text that stops the conversion
before the second field is asked for. -/
def HasFields (line : List Char) : Prop :=
  line ≠ [] ∧ (',' ∈ line.dropLast ∨ ∀ value, stoul (firstField line) ≠ .ok value)

theorem codeRegion_of_ne_nil (nonempty : line ≠ []) :
    codeRegion line =
      match stoul (firstField line) with
      | .error error => .error error
      | .ok start =>
          if ',' ∈ line.dropLast then (stoul (secondField line)).map fun stop => (start, stop)
          else .error .outOfBounds := by
  simp only [codeRegion, splittedAt, split_getElem?_zero nonempty, split_getElem?_one, bind, Except.bind]
  cases stoul (firstField line) with
  | error error => rfl
  | ok start =>
      by_cases inner : ',' ∈ line.dropLast
      · simp only [if_pos inner]
        rfl
      · simp only [if_neg inner]

theorem codeRegion_nil : codeRegion [] = .error .outOfBounds := rfl

theorem codeRegion_ok_iff : (∃ region, codeRegion line = .ok region) ↔ Converts line := by
  constructor
  · intro ⟨region, read⟩
    have nonempty : line ≠ [] := by
      intro empty
      rw [empty, codeRegion_nil] at read
      cases read
    rw [codeRegion_of_ne_nil nonempty] at read
    cases first : stoul (firstField line) with
    | error error => simp [first] at read
    | ok start =>
        by_cases inner : ',' ∈ line.dropLast
        · cases second : stoul (secondField line) with
          | error error => simp [first, inner, second, Except.map] at read
          | ok stop => exact ⟨inner, ⟨start, first⟩, ⟨stop, second⟩⟩
        · simp [first, inner] at read
  · intro converts
    obtain ⟨start, first⟩ := converts.start
    obtain ⟨stop, second⟩ := converts.stop
    have nonempty : line ≠ [] := by
      intro empty
      have inner := converts.fields
      rw [empty] at inner
      cases inner
    rw [codeRegion_of_ne_nil nonempty, first, second]
    simp only [if_pos converts.fields]
    exact ⟨_, rfl⟩

theorem codeRegion_outOfBounds_iff : codeRegion line = .error .outOfBounds ↔ ¬ HasFields line := by
  by_cases empty : line = []
  · subst empty
    simp [codeRegion_nil, HasFields]
  · rw [codeRegion_of_ne_nil empty]
    cases first : stoul (firstField line) with
    | error error =>
        have other : error ≠ .outOfBounds := by
          intro same
          exact stoul_ne_outOfBounds _ (same ▸ first)
        simp [HasFields, empty, first, other]
    | ok start =>
        by_cases inner : ',' ∈ line.dropLast
        · have second := stoul_ne_outOfBounds (secondField line)
          cases stopped : stoul (secondField line) with
          | error error =>
              rw [stopped] at second
              simpa [HasFields, empty, inner, Except.map] using second
          | ok stop => simp [HasFields, empty, inner, Except.map]
        · simp [HasFields, empty, first, inner]

end Lines

/-! ## Whole files -/

/-- One pair for each line, or an error of a conversion. -/
def Answers (content : List Char) : Prop :=
  (∃ regions, codeRegions content = .ok regions ∧ regions.length = (split content '\n').length) ∨
    codeRegions content = .error .invalidArgument ∨ codeRegions content = .error .outOfRange

/-- Every line that the loop reaches has the fields that it asks for. -/
def Fielded (content : List Char) : Prop :=
  ∀ before line after, split content '\n' = before ++ line :: after →
    (∀ earlier ∈ before, Converts earlier) → HasFields line

theorem answers_iff_ne (content : List Char) : Answers content ↔ codeRegions content ≠ .error .outOfBounds := by
  rw [Answers]
  cases read : codeRegions content with
  | ok regions => simp [length_of_mapM read]
  | error error =>
      cases error with
      | invalidArgument => simp
      | outOfRange => simp
      | outOfBounds => simp

theorem answers_iff_fielded (content : List Char) : Answers content ↔ Fielded content := by
  rw [answers_iff_ne, ne_eq, codeRegions, mapM_error_iff]
  simp only [codeRegion_ok_iff, codeRegion_outOfBounds_iff]
  constructor
  · intro safe before line after lines converts
    by_contra lacking
    exact safe ⟨before, line, after, lines, converts, lacking⟩
  · intro safe ⟨before, line, after, lines, converts, lacking⟩
    exact lacking (safe before line after lines converts)

/-! ## Files as the comment wants them -/

section Regions

variable {value : UInt64} {rest : List Char}

def number (value : UInt64) : List Char := '0' :: 'x' :: Nat.toDigits 16 value.toNat

def regionsFile (regions : List Region) : List Char :=
  regions.flatMap fun region => number region.1 ++ ',' :: number region.2 ++ ['\n']

theorem not_mem_number {c : Char} (separator : c = ',' ∨ c = '\n') : c ∉ number value := by
  intro member
  rw [number, List.mem_cons, List.mem_cons] at member
  rcases member with rfl | rfl | digits
  · revert separator
    decide
  · revert separator
    decide
  · obtain ⟨digit, below, rfl⟩ := mem_toDigits (by decide) digits
    clear digits
    revert digit
    decide

theorem stoul_number (value : UInt64) : stoul (number value) = .ok value := by
  obtain ⟨digit, more, below, digits, -⟩ := toDigits_eq_cons (by decide : 1 < 16) value.toNat
  have starts : startsWithDigit (Nat.toDigits 16 value.toNat) = true := by
    rw [digits, startsWithDigit, List.head?_cons, Option.any_some, digitIn_digitChar (by decide) below]
    rfl
  have read : readDigits 16 0 (Nat.toDigits 16 value.toNat) = (value.toNat, []) := by
    have whole := readDigits_toDigits (by decide : 1 < 16) (by decide) value.toNat []
    rwa [List.append_nil] at whole
  have visible : (number value).dropWhile isspace = number value := by
    rw [number, List.dropWhile_cons, if_neg (by decide)]
  have unsigned : skipSign (number value) = number value := by
    rw [skipSign, number, if_neg (by simp)]
  have base : skipBase (number value) = Nat.toDigits 16 value.toNat := by
    rw [number, skipBase, if_pos ⟨.inl rfl, starts⟩]
  have positive : (number value).head? ≠ some '-' := by simp [number]
  simp only [stoul, visible, unsigned, base, starts, if_true, read, if_pos value.toNat_lt_size, if_neg positive]
  rw [UInt64.ofNat_toNat]

theorem codeRegion_line (region : Region) :
    codeRegion (number region.1 ++ ',' :: number region.2) = .ok region := by
  have parts : split (number region.1 ++ ',' :: number region.2) ',' = [number region.1, number region.2] := by
    rw [split_append (not_mem_number (.inl rfl)), split_of_not_mem (not_mem_number (.inl rfl)) (List.cons_ne_nil _ _)]
  simp only [codeRegion, parts, splittedAt, List.getElem?_cons_zero, List.getElem?_cons_succ, bind, Except.bind,
    stoul_number]
  rfl

theorem codeRegions_regionsFile (regions : List Region) : codeRegions (regionsFile regions) = .ok regions := by
  induction regions with
  | nil => rfl
  | cons region regions ih =>
      have line : '\n' ∉ number region.1 ++ ',' :: number region.2 := by
        rw [List.mem_append, List.mem_cons, not_or, not_or]
        exact ⟨not_mem_number (.inr rfl), by decide, not_mem_number (.inr rfl)⟩
      have text : regionsFile (region :: regions) =
          (number region.1 ++ ',' :: number region.2) ++ '\n' :: regionsFile regions := by
        simp [regionsFile]
      rw [codeRegions] at ih
      rw [codeRegions, text, split_append line, List.mapM_cons, codeRegion_line, ih]
      rfl

/-- Lines in the form of the comment are read back, and no other file is read past the end
of a line exactly if its lines have the fields. -/
theorem codeRegions_spec (regions : List Region) (content : List Char) :
    codeRegions (regionsFile regions) = .ok regions ∧ (Answers content ↔ Fielded content) :=
  ⟨codeRegions_regionsFile regions, answers_iff_fielded content⟩

/-- A blank line at the end of the file. -/
theorem codeRegions_blankLine : ¬ Answers "0x1000,0x2000\n\n".toList := by
  rw [answers_iff_ne, not_not]
  decide

end Regions

end PhantomTrails
