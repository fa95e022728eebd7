import Mathlib.Data.List.Basic
import PhantomTrails.Foundation.Numerals

namespace Foundation

/-! # Formats

A way to write something, and to read back what can be learnt of it from the
front of a text.  The law is part of the format, so that whatever is put
together from formats can be read.
-/

theorem dropPrefix_append (front back : List Char) : (front ++ back).dropPrefix? front = some back :=
  List.dropPrefix?_append_of_beq back (beq_self_eq_true front)

theorem dropPrefix_eq_none {text front : List Char} (absent : ¬ front <+: text) :
    text.dropPrefix? front = none := by
  cases dropped : text.dropPrefix? front with
  | none => rfl
  | some back =>
      obtain ⟨start, split, same⟩ := List.dropPrefix?_eq_some_iff.mp dropped
      rw [beq_iff_eq] at same
      subst same
      exact absurd ⟨back, split.symm⟩ absent

/-- What `put` writes of an `η` can be read in front of any text that
`follows` allows. -/
structure Format (η ρ : Type) where
  put : η → List Char
  get : List Char → Option (ρ × List Char)
  learn : η → ρ
  follows : List Char → Prop
  reads : ∀ seen more, follows more → get (put seen ++ more) = some (learn seen, more)

namespace Format

variable {η ζ ρ σ κ : Type}

/-- The format stands for a part of what is seen. -/
def of (format : Format η ρ) (view : ζ → η) : Format ζ ρ where
  put := fun seen => format.put (view seen)
  get := format.get
  learn := fun seen => format.learn (view seen)
  follows := format.follows
  reads := fun seen more allowed => format.reads (view seen) more allowed

def number (base : Nat) (large : 1 < base) (small : base ≤ 16) : Format Nat Nat where
  put := Nat.toDigits base
  get := fun text => some (readDigits base 0 text)
  learn := fun value => value
  follows := NoDigit base
  reads := by
    intro value more ends
    rw [readDigits_toDigits large small, readDigits_of_noDigit ends]

def decimal : Format Nat Nat := number 10 (by omega) (by omega)

/-- A fixed text in front. -/
def behind (front : List Char) (format : Format η ρ) : Format η ρ where
  put := fun seen => front ++ format.put seen
  get := fun text => (text.dropPrefix? front).bind format.get
  learn := format.learn
  follows := format.follows
  reads := by
    intro seen more allowed
    rw [List.append_assoc, dropPrefix_append]
    exact format.reads seen more allowed

/-- A fixed text at the end, which everything can follow. -/
def closed (format : Format η ρ) (ending : List Char) (allowed : ∀ more, format.follows (ending ++ more)) :
    Format η ρ where
  put := fun seen => format.put seen ++ ending
  get := fun text => (format.get text).bind fun found =>
    (found.2.dropPrefix? ending).map fun rest => (found.1, rest)
  learn := format.learn
  follows := fun _ => True
  reads := by
    intro seen more _
    rw [List.append_assoc, format.reads seen _ (allowed more), Option.bind_some, dropPrefix_append]
    rfl

/-- Two formats, one behind the other. -/
def pair (first : Format η ρ) (second : Format η σ)
    (joined : ∀ seen more, second.follows more → first.follows (second.put seen ++ more)) : Format η (ρ × σ) where
  put := fun seen => first.put seen ++ second.put seen
  get := fun text => (first.get text).bind fun found =>
    (second.get found.2).map fun later => ((found.1, later.1), later.2)
  learn := fun seen => (first.learn seen, second.learn seen)
  follows := second.follows
  reads := by
    intro seen more allowed
    rw [List.append_assoc, first.reads seen _ (joined seen more allowed), Option.bind_some,
      second.reads seen more allowed]
    rfl

/-- A part that is only written when it is asked for. -/
def shown (asked : Bool) (format : Format η ρ) : Format η (Option ρ) where
  put := fun seen => if asked then format.put seen else []
  get := fun text => if asked then (format.get text).map fun found => (some found.1, found.2) else some (none, text)
  learn := fun seen => if asked then some (format.learn seen) else none
  follows := format.follows
  reads := by
    intro seen more allowed
    cases asked with
    | true => simp [format.reads seen more allowed]
    | false => rfl

/-! ## Repetition -/

def getEach (format : κ → Format η ρ) : List κ → List Char → Option (List ρ × List Char)
  | [], text => some ([], text)
  | key :: keys, text => ((format key).get text).bind fun found =>
      (getEach format keys found.2).map fun later => (found.1 :: later.1, later.2)

/-- One format for each key, in the order of the keys. -/
def each (keys : List κ) (format : κ → Format η ρ) (free : ∀ key ∈ keys, ∀ more, (format key).follows more) :
    Format η (List ρ) where
  put := fun seen => keys.flatMap fun key => (format key).put seen
  get := getEach format keys
  learn := fun seen => keys.map fun key => (format key).learn seen
  follows := fun _ => True
  reads := by
    intro seen more _
    induction keys with
    | nil => rfl
    | cons key keys ih =>
        obtain ⟨now, later⟩ := List.forall_mem_cons.mp free
        rw [List.flatMap_cons, List.append_assoc, getEach, (format key).reads seen _ (now _), Option.bind_some,
          ih later]
        rfl

def getItems (opening : List Char) (format : Format η ρ) : (fuel : Nat) → List Char → Option (List ρ × List Char)
  | 0, text => if opening <+: text then none else some ([], text)
  | fuel + 1, text =>
      if opening <+: text then
        (format.get text).bind fun found =>
          (getItems opening format fuel found.2).map fun later => (found.1 :: later.1, later.2)
      else some ([], text)

/-- Items one after the other, up to a text that does not open one. -/
def items (opening : List Char) (nonempty : opening ≠ []) (format : Format η ρ)
    (opens : ∀ seen, opening <+: format.put seen) (free : ∀ more, format.follows more) :
    Format (List η) (List ρ) where
  put := fun seen => seen.flatMap format.put
  get := fun text => getItems opening format text.length text
  learn := fun seen => seen.map format.learn
  follows := fun more => ¬ opening <+: more
  reads := by
    intro seen more stops
    have reads : ∀ fuel, (seen.flatMap format.put).length ≤ fuel →
        getItems opening format fuel (seen.flatMap format.put ++ more) = some (seen.map format.learn, more) := by
      induction seen with
      | nil =>
          intro fuel _
          cases fuel <;> simp [getItems, stops]
      | cons item seen ih =>
          intro fuel enough
          have long : 0 < (format.put item).length :=
            Nat.lt_of_lt_of_le (List.length_pos_of_ne_nil nonempty) (opens item).length_le
          rw [List.flatMap_cons, List.length_append] at enough
          obtain ⟨fuel, rfl⟩ := Nat.exists_eq_succ_of_ne_zero (by omega : fuel ≠ 0)
          have open_ : opening <+: format.put item ++ (seen.flatMap format.put ++ more) :=
            (opens item).trans (List.prefix_append _ _)
          rw [List.flatMap_cons, List.append_assoc, getItems, if_pos open_, format.reads item _ (free _),
            Option.bind_some, ih fuel (by omega)]
          rfl
    exact reads _ (by simp)

/-! ## Records of numbers -/

/-- A number of a record, behind its label. -/
structure Labelled (η : Type) where
  label : List Char
  base : Nat
  value : η → Nat

def putFields (fields : List (Labelled η)) (seen : η) : List Char :=
  fields.flatMap fun field => field.label ++ Nat.toDigits field.base (field.value seen)

def getFields : List (Labelled η) → List Char → Option (List Nat × List Char)
  | [], text => some ([], text)
  | field :: fields, text => (text.dropPrefix? field.label).bind fun digits =>
      (getFields fields (readDigits field.base 0 digits).2).map fun later =>
        ((readDigits field.base 0 digits).1 :: later.1, later.2)

/-- The labels separate the numbers. -/
def record (fields : List (Labelled η)) (bases : ∀ field ∈ fields, 1 < field.base ∧ field.base ≤ 16)
    (labels : ∀ field ∈ fields, field.label ≠ [] ∧ NoDigit 16 field.label) : Format η (List Nat) where
  put := putFields fields
  get := getFields fields
  learn := fun seen => fields.map fun field => field.value seen
  follows := NoDigit 16
  reads := by
    intro seen more ends
    induction fields with
    | nil => rfl
    | cons field fields ih =>
        obtain ⟨⟨large, small⟩, laterBases⟩ := List.forall_mem_cons.mp bases
        obtain ⟨-, laterLabels⟩ := List.forall_mem_cons.mp labels
        have separated : NoDigit 16 (putFields fields seen ++ more) := by
          cases fields with
          | nil => exact ends
          | cons next fields =>
              obtain ⟨⟨nonempty, plain⟩, -⟩ := List.forall_mem_cons.mp laterLabels
              rw [putFields, List.flatMap_cons, List.append_assoc, List.append_assoc]
              exact plain.append nonempty _
        have text : putFields (field :: fields) seen ++ more = field.label ++
            (Nat.toDigits field.base (field.value seen) ++ (putFields fields seen ++ more)) := by
          simp [putFields]
        rw [text, getFields, dropPrefix_append, Option.bind_some, readDigits_toDigits large small,
          readDigits_of_noDigit (separated.of_le small), ih laterBases laterLabels]
        rfl

end Format

end Foundation
