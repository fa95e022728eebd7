import Mathlib.Data.List.TakeWhile

namespace Foundation

/-! # Simple commands of a shell

Words between blanks, leading assignments, and two redirections.  A line with
any other character that a shell might expand or quote has no meaning here.
-/

namespace Shell

/-! ## Words -/

section Words

variable {word front rest : List Char}

/-- The scan of a line, with the word it is in. -/
def wordsFrom : (word : List Char) → List Char → List (List Char)
  | word, [] => if word = [] then [] else [word]
  | word, c :: rest =>
      if c = ' ' then (if word = [] then [] else [word]) ++ wordsFrom [] rest else wordsFrom (word ++ [c]) rest

def words (line : List Char) : List (List Char) := wordsFrom [] line

theorem wordsFrom_of_not_mem (whole : ' ' ∉ front) :
    wordsFrom word (front ++ rest) = wordsFrom (word ++ front) rest := by
  induction front generalizing word with
  | nil => rw [List.nil_append, List.append_nil]
  | cons c front ih =>
      rw [List.mem_cons, not_or] at whole
      obtain ⟨visible, later⟩ := whole
      rw [List.cons_append, wordsFrom, if_neg (Ne.symm visible), ih later, List.append_assoc]
      rfl

theorem wordsFrom_append_blank : wordsFrom word (front ++ ' ' :: rest) = wordsFrom word front ++ words rest := by
  induction front generalizing word with
  | nil => simp [wordsFrom, words]
  | cons c front ih =>
      by_cases blank : c = ' '
      · simp [wordsFrom, blank, ih, List.append_assoc]
      · simp [wordsFrom, blank, ih]

theorem words_append_blank : words (front ++ ' ' :: rest) = words front ++ words rest := wordsFrom_append_blank

theorem words_of_not_mem (whole : ' ' ∉ word) (nonempty : word ≠ []) : words word = [word] := by
  have scanned : wordsFrom [] (word ++ []) = wordsFrom ([] ++ word) [] := wordsFrom_of_not_mem whole
  rw [List.append_nil, List.nil_append] at scanned
  rw [words, scanned, wordsFrom, if_neg nonempty]

end Words

/-! ## Commands -/

/-- A character that a shell takes as it stands. -/
def isPlain (c : Char) : Bool := c.isAlphanum || c ∈ ['/', '.', '-', '_', '=', ',', ':', '@', '+', '%']

def isNameChar (c : Char) : Bool := c.isAlphanum || c == '_'

/-- `NAME=value`. -/
def assignment? (word : List Char) : Option (List Char × List Char) :=
  match word.dropWhile isNameChar with
  | '=' :: value =>
      if (word.takeWhile isNameChar).head?.any (fun c => !c.isDigit) then some (word.takeWhile isNameChar, value)
      else none
  | _ => none

structure Command where
  assigned : List (List Char × List Char)
  argv : List (List Char)
  stdout : Option (List Char)
  /-- Whether the errors go where the output goes. -/
  merged : Bool

/-- The leading assignments, and the words of the command itself. -/
def assignments : List (List Char) → List (List Char × List Char) × List (List Char)
  | [] => ([], [])
  | word :: words =>
      match assignment? word with
      | some binding => (binding :: (assignments words).1, (assignments words).2)
      | none => ([], word :: words)

/-- `> file 2>&1`. -/
def redirection : List (List Char) → Option (List Char × Bool)
  | [file, merge] => if file.all isPlain ∧ merge = "2>&1".toList then some (file, true) else none
  | _ => none

/-- The words without the redirections at the end. -/
def redirections : List (List Char) → Option (List (List Char) × Option (List Char) × Bool)
  | [] => some ([], none, false)
  | word :: words =>
      if word = ['>'] then (redirection words).map fun found => ([], some found.1, found.2)
      else if word.all isPlain then (redirections words).map fun found => (word :: found.1, found.2)
      else none

/-- Words that start a compound command. -/
def reserved : List (List Char) :=
  ["if", "then", "else", "elif", "fi", "do", "done", "case", "esac", "while", "until", "for", "in"].map String.toList

def command (line : List Char) : Option Command :=
  (redirections (words line)).bind fun found =>
    if ∃ name ∈ (assignments found.1).2.head?, name ∈ reserved then none
    else some
      { assigned := (assignments found.1).1
        argv := (assignments found.1).2
        stdout := found.2.1
        merged := found.2.2 }

/-- The environment of the command: the last assignment of a name counts. -/
def Command.getenv (command : Command) (parent : List Char → Option (List Char)) (name : List Char) :
    Option (List Char) :=
  command.assigned.foldl (fun value binding => if binding.1 = name then some binding.2 else value) (parent name)

section Commands

variable {word name value : List Char} {words more : List (List Char)} {bindings : List (List Char × List Char)}

/-- A name of a variable. -/
def IsName (name : List Char) : Prop :=
  (∀ c ∈ name, isNameChar c = true) ∧ name.head?.any (fun c => !c.isDigit) = true

theorem assignment?_of_isName (valid : IsName name) : assignment? (name ++ '=' :: value) = some (name, value) := by
  have equals : isNameChar '=' = false := by decide
  have front : (name ++ '=' :: value).takeWhile isNameChar = name := by
    rw [List.takeWhile_append_of_pos valid.1, List.takeWhile_cons, if_neg (by simp [equals]), List.append_nil]
  have back : (name ++ '=' :: value).dropWhile isNameChar = '=' :: value := by
    rw [List.dropWhile_append_of_pos valid.1, List.dropWhile_cons, if_neg (by simp [equals])]
  rw [assignment?, back, front]
  exact if_pos valid.2

/-- The assignments end at the name of the command. -/
theorem assignments_of_isName (valid : ∀ binding ∈ bindings, IsName binding.1)
    (plain : ∀ name ∈ words.head?, assignment? name = none) :
    assignments (bindings.map (fun binding => binding.1 ++ '=' :: binding.2) ++ words) = (bindings, words) := by
  induction bindings with
  | nil =>
      cases words with
      | nil => rfl
      | cons name words =>
          rw [List.map_nil, List.nil_append, assignments, plain name rfl]
  | cons binding bindings ih =>
      obtain ⟨now, later⟩ := List.forall_mem_cons.mp valid
      rw [List.map_cons, List.cons_append, assignments, assignment?_of_isName now]
      simp only [ih later]

theorem redirections_append (plain : ∀ word ∈ words, word.all isPlain = true) :
    redirections (words ++ more) = (redirections more).map fun found => (words ++ found.1, found.2) := by
  induction words with
  | nil => cases found : redirections more <;> simp [found]
  | cons word words ih =>
      obtain ⟨now, later⟩ := List.forall_mem_cons.mp plain
      have angle : word ≠ ['>'] := by
        intro same
        subst same
        revert now
        decide
      rw [List.cons_append, redirections, if_neg angle, if_pos now, ih later, Option.map_map]
      rfl

/-- A line of assignments, plain words and redirections is taken apart into
them. -/
theorem command_of_words {line : List Char} {argv redirect : List (List Char)} {stdout : Option (List Char)}
    {merged : Bool}
    (parts : Shell.words line = (bindings.map fun binding => binding.1 ++ '=' :: binding.2) ++ argv ++ redirect)
    (valid : ∀ binding ∈ bindings, IsName binding.1)
    (plain : ∀ binding ∈ bindings, (binding.1 ++ '=' :: binding.2).all isPlain = true)
    (plainArgv : ∀ word ∈ argv, word.all isPlain = true)
    (ends : redirections redirect = some ([], stdout, merged))
    (simple : ∀ name ∈ argv.head?, assignment? name = none ∧ name ∉ reserved) :
    command line = some { assigned := bindings, argv, stdout, merged } := by
  have all : ∀ word ∈ (bindings.map fun binding => binding.1 ++ '=' :: binding.2) ++ argv,
      word.all isPlain = true := by
    intro word member
    rcases List.mem_append.mp member with first | later
    · obtain ⟨binding, listed, rfl⟩ := List.mem_map.mp first
      exact plain binding listed
    · exact plainArgv word later
  have ordinary : ¬ ∃ name ∈ argv.head?, name ∈ reserved := by
    intro found
    obtain ⟨name, first, listed⟩ := found
    exact (simple name first).2 listed
  have assigned := assignments_of_isName valid fun name first => (simple name first).1
  rw [command, parts, redirections_append all, ends, Option.map_some, Option.bind_some, List.append_nil, assigned,
    if_neg ordinary]

end Commands

end Shell

end Foundation
