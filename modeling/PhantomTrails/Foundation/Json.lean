import PhantomTrails.Foundation.Numerals

namespace Foundation

/-! # JSON texts

The part of JSON with whole numbers, strings without escapes, arrays and
objects.  `Json.Encodes` gives the rules of the grammar, and `Json.parse` reads
every text they derive back.  An object has each name once.
-/

inductive Json where
  | number (value : Nat)
  | string (text : String)
  | array (items : List Json)
  | object (members : List (String × Json))

namespace Json

def isBlank (c : Char) : Bool := c == ' ' || c == '\n' || c == '\r' || c == '\t'

/-- A character that stands for itself inside a string. -/
def isPlain (c : Char) : Bool := c != '"' && c != '\\' && decide (' ' ≤ c)

def Blank (text : List Char) : Prop := ∀ c ∈ text, isBlank c = true

/-- Free of quotes, backslashes and control characters. -/
def Plain (text : String) : Prop := ∀ c ∈ text.toList, isPlain c = true

instance (text : String) : Decidable (Plain text) := List.decidableBAll (fun c => isPlain c = true) text.toList

theorem plain_append {front back : String} (plain : Plain front) (also : Plain back) : Plain (front ++ back) := by
  intro c member
  rw [String.toList_append] at member
  exact (List.mem_append.mp member).elim (plain c) (also c)

theorem plain_toDigits {base : Nat} (large : 1 < base) (small : base ≤ 16) (value : Nat) :
    Plain (String.ofList (Nat.toDigits base value)) := by
  intro c member
  rw [String.toList_ofList] at member
  obtain ⟨digit, below, rfl⟩ := mem_toDigits large member
  have within : digit < 16 := by omega
  clear below member small
  revert digit
  decide

def quoted (text : String) : List Char := '"' :: text.toList ++ ['"']

/-! ## Grammar -/

/-- What a text can stand for: a value, or what is between two brackets. -/
inductive Part where
  | value (json : Json)
  | items (list : List Json)
  | members (list : List (String × Json))

inductive Encodes : Part → List Char → Prop where
  | number (value : Nat) : Encodes (.value (.number value)) (Nat.toDigits 10 value)
  | string {text : String} (plain : Plain text) : Encodes (.value (.string text)) (quoted text)
  | emptyArray {gap : List Char} (blank : Blank gap) : Encodes (.value (.array [])) ('[' :: gap ++ [']'])
  | array {list : List Json} {text : List Char} (items : Encodes (.items list) text) :
      Encodes (.value (.array list)) ('[' :: text ++ [']'])
  | emptyObject {gap : List Char} (blank : Blank gap) :
      Encodes (.value (.object [])) ('\x7b' :: gap ++ ['\x7d'])
  | object {list : List (String × Json)} {text : List Char} (once : (list.map Prod.fst).Nodup)
      (members : Encodes (.members list) text) :
      Encodes (.value (.object list)) ('\x7b' :: text ++ ['\x7d'])
  | before {json : Json} {text gap : List Char} (blank : Blank gap) (value : Encodes (.value json) text) :
      Encodes (.value json) (gap ++ text)
  | after {json : Json} {text gap : List Char} (value : Encodes (.value json) text) (blank : Blank gap) :
      Encodes (.value json) (text ++ gap)
  | lastItem {json : Json} {text : List Char} (value : Encodes (.value json) text) :
      Encodes (.items [json]) text
  | item {json : Json} {list : List Json} {text more : List Char} (value : Encodes (.value json) text)
      (items : Encodes (.items list) more) : Encodes (.items (json :: list)) (text ++ ',' :: more)
  | lastMember {name : String} {json : Json} {gap colon text : List Char} (blank : Blank gap)
      (plain : Plain name) (between : Blank colon) (value : Encodes (.value json) text) :
      Encodes (.members [(name, json)]) (gap ++ quoted name ++ colon ++ ':' :: text)
  | member {name : String} {json : Json} {list : List (String × Json)} {gap colon text more : List Char}
      (blank : Blank gap) (plain : Plain name) (between : Blank colon) (value : Encodes (.value json) text)
      (members : Encodes (.members list) more) :
      Encodes (.members ((name, json) :: list))
        (gap ++ quoted name ++ colon ++ ':' :: text ++ ',' :: more)

/-! ## Parser -/

abbrev skip (text : List Char) : List Char := text.dropWhile isBlank

/-- The rest of a string, behind the opening quote. -/
def readString : List Char → Option (List Char × List Char)
  | [] => none
  | c :: text =>
      if c = '"' then some ([], text)
      else if isPlain c then (readString text).map fun read => (c :: read.1, read.2)
      else none

/-- The name of a member, with the colon behind it. -/
def readName : List Char → Option (String × List Char)
  | '"' :: text =>
      match readString text with
      | none => none
      | some (name, rest) =>
          match skip rest with
          | ':' :: rest => some (String.ofList name, rest)
          | _ => none
  | _ => none

mutual

/-- The value at the front and what stands behind it, blanks left out. -/
def readValue : (fuel : Nat) → List Char → Option (Json × List Char)
  | 0, _ => none
  | fuel + 1, text =>
      match skip text with
      | [] => none
      | c :: text =>
          match digitIn 10 c with
          | some digit =>
              -- a leading zero stands alone
              if digit = 0 then some (.number 0, skip text)
              else some (.number (readDigits 10 digit text).1, skip (readDigits 10 digit text).2)
          | none =>
              if c = '"' then (readString text).map fun read => (.string (String.ofList read.1), skip read.2)
              else if c = '[' then
                if (skip text).head? = some ']' then some (.array [], skip (skip text).tail)
                else (readItems fuel text).map fun read => (.array read.1, read.2)
              else if c = '\x7b' then
                if (skip text).head? = some '\x7d' then some (.object [], skip (skip text).tail)
                else (readMembers fuel text).bind fun read =>
                  if (read.1.map Prod.fst).Nodup then some (.object read.1, read.2) else none
              else none

/-- The items of an array, with the closing bracket. -/
def readItems : (fuel : Nat) → List Char → Option (List Json × List Char)
  | 0, _ => none
  | fuel + 1, text =>
      match readValue fuel text with
      | some (json, ',' :: rest) => (readItems fuel rest).map fun read => (json :: read.1, read.2)
      | some (json, ']' :: rest) => some ([json], skip rest)
      | _ => none

/-- The members of an object, with the closing brace. -/
def readMembers : (fuel : Nat) → List Char → Option (List (String × Json) × List Char)
  | 0, _ => none
  | fuel + 1, text =>
      match readName (skip text) with
      | none => none
      | some (name, rest) =>
          match readValue fuel rest with
          | some (json, ',' :: rest) =>
              (readMembers fuel rest).map fun read => ((name, json) :: read.1, read.2)
          | some (json, '\x7d' :: rest) => some ([(name, json)], skip rest)
          | _ => none

end

/-- The one value that the text stands for. -/
def parse (text : String) : Option Json :=
  match readValue (text.toList.length + 1) text.toList with
  | some (json, []) => some json
  | _ => none

/-! ## What the rules derive is read back -/

section Completeness

variable {json : Json} {part : Part} {text other rest gap : List Char} {fuel : Nat}

theorem skip_blank (blank : Blank gap) (rest : List Char) : skip (gap ++ rest) = skip rest :=
  List.dropWhile_append_of_pos blank

theorem skip_of_not_isBlank {c : Char} (visible : isBlank c = false) : skip (c :: text) = c :: text := by
  rw [skip, List.dropWhile_cons, if_neg (by simp [visible])]

theorem digitIn_of_isBlank {c : Char} (blank : isBlank c = true) : digitIn 10 c = none := by
  simp only [isBlank, Bool.or_eq_true, beq_iff_eq] at blank
  rcases blank with ((rfl | rfl) | rfl) | rfl <;> rfl

theorem noDigit_blank (blank : Blank gap) (ends : NoDigit 10 rest) : NoDigit 10 (gap ++ rest) := by
  cases gap with
  | nil => exact ends
  | cons c gap =>
      intro front same
      cases Option.some.inj same
      exact digitIn_of_isBlank (blank c List.mem_cons_self)

theorem readString_append {chars : List Char} (plain : ∀ c ∈ chars, isPlain c = true) (rest : List Char) :
    readString (chars ++ '"' :: rest) = some (chars, rest) := by
  induction chars with
  | nil => rfl
  | cons c chars ih =>
      obtain ⟨now, later⟩ := List.forall_mem_cons.mp plain
      have inside : c ≠ '"' := by
        intro equal
        subst equal
        exact absurd now (by decide)
      rw [List.cons_append, readString, if_neg inside, if_pos now, ih later]
      rfl

theorem readName_append {name : String} {colon : List Char} (plain : Plain name) (between : Blank colon)
    (rest : List Char) : readName (quoted name ++ colon ++ ':' :: rest) = some (name, rest) := by
  have front : quoted name ++ colon ++ ':' :: rest = '"' :: (name.toList ++ '"' :: (colon ++ ':' :: rest)) := by
    simp [quoted]
  rw [front, readName]
  simp only [readString_append plain, skip_blank between]
  rw [skip_of_not_isBlank (by decide)]
  simp

theorem readValue_congr (same : skip text = skip other) : readValue fuel text = readValue fuel other := by
  cases fuel with
  | zero => rfl
  | succ fuel => simp only [readValue, same]

/-- What the parser does at a closing bracket. -/
theorem readItems_closed (closed : (skip text).head? = some ']') : readItems fuel text = none := by
  obtain ⟨rest, front⟩ := List.head?_eq_some_iff.mp closed
  rcases fuel with - | - | fuel
  · rfl
  · simp [readItems, readValue]
  · have none : digitIn 10 ']' = none := rfl
    simp [readItems, readValue, front, none]

theorem readMembers_closed (closed : (skip text).head? = some '\x7d') : readMembers fuel text = none := by
  obtain ⟨rest, front⟩ := List.head?_eq_some_iff.mp closed
  cases fuel with
  | zero => rfl
  | succ fuel => simp [readMembers, front, readName]

/-- With enough fuel the part is read off the front, up to the bracket that
ends it. -/
def Reads : Part → List Char → Prop
  | .value json, text => ∀ fuel rest, text.length < fuel → NoDigit 10 rest →
      readValue fuel (text ++ rest) = some (json, skip rest)
  | .items list, text => ∀ fuel rest, text.length + 1 < fuel →
      readItems fuel (text ++ ']' :: rest) = some (list, skip rest)
  | .members list, text => ∀ fuel rest, text.length + 1 < fuel →
      readMembers fuel (text ++ '\x7d' :: rest) = some (list, skip rest)

theorem reads_number (value : Nat) : Reads (.value (.number value)) (Nat.toDigits 10 value) := by
  intro fuel rest enough ends
  obtain ⟨fuel, rfl⟩ := Nat.exists_eq_succ_of_ne_zero (by omega : fuel ≠ 0)
  obtain ⟨digit, more, below, front, zero⟩ := toDigits_eq_cons (by decide : 1 < 10) value
  have read := readDigits_toDigits (by decide : 1 < 10) (by decide) value rest
  have first := digitIn_digitChar (by decide : 10 ≤ 16) below
  have visible : isBlank digit.digitChar = false := by
    by_contra blank
    rw [digitIn_of_isBlank (by simpa using blank)] at first
    cases first
  rw [front, List.cons_append, readDigits, first, readDigits_of_noDigit ends] at read
  simp only [Nat.mul_zero, Nat.zero_add] at read
  rw [front, List.cons_append, readValue, skip_of_not_isBlank visible]
  simp only [first, read]
  split
  · rename_i leading
    obtain ⟨rfl, rfl⟩ := zero leading
    rfl
  · rfl

theorem reads_string {name : String} (plain : Plain name) : Reads (.value (.string name)) (quoted name) := by
  intro fuel rest enough _
  obtain ⟨fuel, rfl⟩ := Nat.exists_eq_succ_of_ne_zero (by omega : fuel ≠ 0)
  have front : quoted name ++ rest = '"' :: (name.toList ++ '"' :: rest) := by simp [quoted]
  have quote : digitIn 10 '"' = none := rfl
  rw [front, readValue, skip_of_not_isBlank (by decide)]
  simp [quote, readString_append plain]

theorem reads_brackets {list : List Json} (items : Reads (.items list) text) :
    Reads (.value (.array list)) ('[' :: text ++ [']']) := by
  intro fuel rest enough _
  obtain ⟨fuel, rfl⟩ := Nat.exists_eq_succ_of_ne_zero (by omega : fuel ≠ 0)
  have bracket : digitIn 10 '[' = none := rfl
  have inside := items fuel rest (by simp only [List.length_append, List.length_cons] at enough; omega)
  have opened : (skip (text ++ ']' :: rest)).head? ≠ some ']' := by
    intro closed
    rw [readItems_closed closed] at inside
    cases inside
  rw [List.cons_append, List.cons_append, List.append_assoc, List.singleton_append, readValue,
    skip_of_not_isBlank (by decide)]
  simp [bracket, opened, inside]

theorem reads_braces {list : List (String × Json)} (once : (list.map Prod.fst).Nodup)
    (members : Reads (.members list) text) :
    Reads (.value (.object list)) ('\x7b' :: text ++ ['\x7d']) := by
  intro fuel rest enough _
  obtain ⟨fuel, rfl⟩ := Nat.exists_eq_succ_of_ne_zero (by omega : fuel ≠ 0)
  have brace : digitIn 10 '\x7b' = none := rfl
  have inside := members fuel rest (by simp only [List.length_append, List.length_cons] at enough; omega)
  have opened : (skip (text ++ '\x7d' :: rest)).head? ≠ some '\x7d' := by
    intro closed
    rw [readMembers_closed closed] at inside
    cases inside
  rw [List.cons_append, List.cons_append, List.append_assoc, List.singleton_append, readValue,
    skip_of_not_isBlank (by decide)]
  simp [brace, opened, inside, once]

theorem reads_emptyArray (blank : Blank gap) : Reads (.value (.array [])) ('[' :: gap ++ [']']) := by
  intro fuel rest enough _
  obtain ⟨fuel, rfl⟩ := Nat.exists_eq_succ_of_ne_zero (by omega : fuel ≠ 0)
  have bracket : digitIn 10 '[' = none := rfl
  have closing : skip (']' :: rest) = ']' :: rest := skip_of_not_isBlank (by decide)
  rw [List.cons_append, List.cons_append, List.append_assoc, List.singleton_append, readValue,
    skip_of_not_isBlank (by decide)]
  simp [bracket, skip_blank blank, closing]

theorem reads_emptyObject (blank : Blank gap) :
    Reads (.value (.object [])) ('\x7b' :: gap ++ ['\x7d']) := by
  intro fuel rest enough _
  obtain ⟨fuel, rfl⟩ := Nat.exists_eq_succ_of_ne_zero (by omega : fuel ≠ 0)
  have brace : digitIn 10 '\x7b' = none := rfl
  have closing : skip ('\x7d' :: rest) = '\x7d' :: rest := skip_of_not_isBlank (by decide)
  rw [List.cons_append, List.cons_append, List.append_assoc, List.singleton_append, readValue,
    skip_of_not_isBlank (by decide)]
  simp [brace, skip_blank blank, closing]

/-- A value in front of a comma or a closing bracket. -/
theorem reads_value {separator : Char} (value : Reads (.value json) text) (enough : text.length < fuel)
    (ends : digitIn 10 separator = none) (visible : isBlank separator = false) :
    readValue fuel (text ++ separator :: rest) = some (json, separator :: rest) := by
  rw [value fuel (separator :: rest) enough, skip_of_not_isBlank visible]
  intro c front
  cases Option.some.inj front
  exact ends

theorem reads_items {list : List Json} (value : Reads (.value json) text) (items : Reads (.items list) other) :
    Reads (.items (json :: list)) (text ++ ',' :: other) := by
  intro fuel rest enough
  obtain ⟨fuel, rfl⟩ := Nat.exists_eq_succ_of_ne_zero (by omega : fuel ≠ 0)
  simp only [List.length_append, List.length_cons] at enough
  rw [List.append_assoc, List.cons_append, readItems,
    reads_value value (by omega) (by decide) (by decide)]
  simp [items fuel rest (by omega)]

theorem reads_lastItem (value : Reads (.value json) text) : Reads (.items [json]) text := by
  intro fuel rest enough
  obtain ⟨fuel, rfl⟩ := Nat.exists_eq_succ_of_ne_zero (by omega : fuel ≠ 0)
  rw [readItems, reads_value value (by omega) (by decide) (by decide)]
  rfl

theorem reads_member {name : String} {colon : List Char} {list : List (String × Json)} (blank : Blank gap)
    (plain : Plain name) (between : Blank colon) (value : Reads (.value json) text)
    (members : Reads (.members list) other) :
    Reads (.members ((name, json) :: list)) (gap ++ quoted name ++ colon ++ ':' :: text ++ ',' :: other) := by
  intro fuel rest enough
  obtain ⟨fuel, rfl⟩ := Nat.exists_eq_succ_of_ne_zero (by omega : fuel ≠ 0)
  simp only [List.length_append, List.length_cons] at enough
  have split : gap ++ quoted name ++ colon ++ ':' :: text ++ ',' :: other ++ '\x7d' :: rest =
      gap ++ (quoted name ++ colon ++ ':' :: (text ++ ',' :: (other ++ '\x7d' :: rest))) := by simp
  have visible : skip (quoted name ++ colon ++ ':' :: (text ++ ',' :: (other ++ '\x7d' :: rest))) =
      quoted name ++ colon ++ ':' :: (text ++ ',' :: (other ++ '\x7d' :: rest)) :=
    skip_of_not_isBlank (by decide)
  rw [split, readMembers, skip_blank blank, visible, readName_append plain between]
  simp only [reads_value value (by omega : text.length < fuel) (by decide : digitIn 10 ',' = none) (by decide),
    members fuel rest (by omega), Option.map_some]

theorem reads_lastMember {name : String} {colon : List Char} (blank : Blank gap) (plain : Plain name)
    (between : Blank colon) (value : Reads (.value json) text) :
    Reads (.members [(name, json)]) (gap ++ quoted name ++ colon ++ ':' :: text) := by
  intro fuel rest enough
  obtain ⟨fuel, rfl⟩ := Nat.exists_eq_succ_of_ne_zero (by omega : fuel ≠ 0)
  simp only [List.length_append, List.length_cons] at enough
  have split : gap ++ quoted name ++ colon ++ ':' :: text ++ '\x7d' :: rest =
      gap ++ (quoted name ++ colon ++ ':' :: (text ++ '\x7d' :: rest)) := by simp
  have visible : skip (quoted name ++ colon ++ ':' :: (text ++ '\x7d' :: rest)) =
      quoted name ++ colon ++ ':' :: (text ++ '\x7d' :: rest) := skip_of_not_isBlank (by decide)
  rw [split, readMembers, skip_blank blank, visible, readName_append plain between]
  simp only [reads_value value (by omega : text.length < fuel) (by decide : digitIn 10 '\x7d' = none)
    (by decide)]

theorem Encodes.reads (encodes : Encodes part text) : Reads part text := by
  induction encodes with
  | number value => exact reads_number value
  | string plain => exact reads_string plain
  | emptyArray blank => exact reads_emptyArray blank
  | array items ih => exact reads_brackets ih
  | emptyObject blank => exact reads_emptyObject blank
  | object once members ih => exact reads_braces once ih
  | @before json text gap blank value ih =>
      intro fuel rest enough ends
      simp only [List.length_append] at enough
      rw [List.append_assoc, readValue_congr (skip_blank blank _)]
      exact ih fuel rest (by omega) ends
  | @after json text gap value blank ih =>
      intro fuel rest enough ends
      simp only [List.length_append] at enough
      rw [List.append_assoc, ih fuel _ (by omega) (noDigit_blank blank ends), skip_blank blank]
  | lastItem value ih => exact reads_lastItem ih
  | item value items value_ih items_ih => exact reads_items value_ih items_ih
  | lastMember blank plain between value ih => exact reads_lastMember blank plain between ih
  | member blank plain between value members value_ih members_ih =>
      exact reads_member blank plain between value_ih members_ih

theorem parse_of_encodes {text : String} (encodes : Encodes (.value json) text.toList) :
    parse text = some json := by
  have read := encodes.reads (text.toList.length + 1) [] (Nat.lt_succ_self _) (by simp [NoDigit])
  rw [List.append_nil] at read
  simp [parse, read]

end Completeness

/-! ## Objects from their members -/

/-- A member of an object, with its text. -/
structure Field where
  name : String
  json : Json
  text : List Char
  plain : Plain name
  encodes : Encodes (.value json) text

namespace Field

def ofNumber (name : String) (value : Nat) (plain : Plain name) : Field :=
  ⟨name, .number value, Nat.toDigits 10 value, plain, .number value⟩

def ofString (name text : String) (plain : Plain name) (plainText : Plain text) : Field :=
  ⟨name, .string text, quoted text, plain, .string plainText⟩

@[simp] theorem ofNumber_name (name : String) (value : Nat) (plain : Plain name) :
    (ofNumber name value plain).name = name := rfl

@[simp] theorem ofNumber_text (name : String) (value : Nat) (plain : Plain name) :
    (ofNumber name value plain).text = Nat.toDigits 10 value := rfl

@[simp] theorem ofString_name (name text : String) (plain : Plain name) (plainText : Plain text) :
    (ofString name text plain plainText).name = name := rfl

@[simp] theorem ofString_text (name text : String) (plain : Plain name) (plainText : Plain text) :
    (ofString name text plain plainText).text = quoted text := rfl

variable {gap : List Char}

def member (field : Field) : String × Json := (field.name, field.json)

/-- The members in order, each behind the gap. -/
def texts (gap : List Char) : List Field → List Char
  | [] => []
  | [field] => gap ++ quoted field.name ++ ':' :: ' ' :: field.text
  | field :: next :: fields =>
      gap ++ quoted field.name ++ ':' :: ' ' :: field.text ++ ',' :: texts gap (next :: fields)

theorem texts_append {fields : List Field} (some : fields ≠ []) (next : Field) (more : List Field) :
    texts gap (fields ++ next :: more) = texts gap fields ++ ',' :: texts gap (next :: more) := by
  induction fields with
  | nil => exact absurd rfl some
  | cons first fields ih =>
      cases fields with
      | nil => simp [texts]
      | cons second fields => simpa [texts] using ih (List.cons_ne_nil _ _)

theorem encodes_value (field : Field) : Encodes (.value field.json) (' ' :: field.text) := by
  have blank : Blank [' '] := by simp [Blank, isBlank]
  exact Encodes.before blank field.encodes

theorem encodes_members (blank : Blank gap) (first : Field) (fields : List Field) :
    Encodes (.members ((first :: fields).map member)) (texts gap (first :: fields)) := by
  have adjacent : Blank [] := by simp [Blank]
  induction fields generalizing first with
  | nil =>
      have last := Encodes.lastMember blank first.plain adjacent first.encodes_value
      simpa [texts, member] using last
  | cons next fields ih =>
      have one := Encodes.member blank first.plain adjacent first.encodes_value (ih next)
      simpa [texts, member] using one

theorem encodes_object (blank : Blank gap) (first : Field) (fields : List Field)
    (once : ((first :: fields).map name).Nodup) :
    Encodes (.value (.object ((first :: fields).map member)))
      ('\x7b' :: texts gap (first :: fields) ++ ['\x7d']) := by
  apply Encodes.object _ (encodes_members blank first fields)
  simpa [member, Function.comp_def] using once

end Field

end Json

end Foundation
