import Mathlib.Data.List.Nodup
import Mathlib.Logic.Function.Basic
import PhantomTrails.Foundation.Formats

namespace Foundation

/-! # Texts of what has changed

A table that is printed as the list of its entries that have changed, each
between a tag and an ending.  If no tag starts another, and each entry can be
read where it stands, then whoever knows the old table gets the new one from
the text.  Such a table can be an entry of a larger one.
-/

/-- How an entry is written when it has changed: `put` of the old and the new
value, empty if there is nothing to tell.  `get` takes the new value from the
front of a text. -/
structure Entry (ν : Type) where
  tag : List Char
  ending : List Char
  put : (old new : ν) → List Char
  get : (old : ν) → List Char → Option (ν × List Char)

namespace Entry

variable {ν : Type}

def text (entry : Entry ν) (old new : ν) : List Char :=
  if entry.put old new = [] then [] else entry.tag ++ entry.put old new ++ entry.ending

/-- The value behind a tag, and what stands behind its ending. -/
def read (entry : Entry ν) (old : ν) (text : List Char) : Option (ν × List Char) :=
  match entry.get old text with
  | none => none
  | some (value, rest) => (rest.dropPrefix? entry.ending).map fun rest => (value, rest)

/-- The entry can be read wherever what stands behind its ending allows. -/
structure Lawful (entry : Entry ν) (follows : List Char → Prop) : Prop where
  tagged : entry.tag ≠ []
  silent : ∀ old new, entry.put old new = [] ↔ old = new
  reads : ∀ old new more, old ≠ new → follows more →
    entry.get old (entry.put old new ++ (entry.ending ++ more)) = some (new, entry.ending ++ more)

/-- A number, as the new value alone. -/
def number (base : Nat) (tag ending : List Char) : Entry Nat where
  tag := tag
  ending := ending
  put := fun old new => if old = new then [] else Nat.toDigits base new
  get := fun _ text => some (readDigits base 0 text)

theorem number_lawful {base : Nat} (large : 1 < base) (small : base ≤ 16) {tag ending : List Char}
    (tagged : tag ≠ []) : (number base tag ending).Lawful fun more => NoDigit base (ending ++ more) where
  tagged := tagged
  silent := by
    intro old new
    obtain ⟨digit, digits, -, shown, -⟩ := toDigits_eq_cons large new
    simp [number, shown]
  reads := by
    intro old new more differs ends
    have printed : (number base tag ending).put old new = Nat.toDigits base new := if_neg differs
    rw [printed]
    simp only [number, readDigits_toDigits large small, readDigits_of_noDigit ends]

end Entry

section ChangeText

variable {κ : Type} {ν : κ → Type}

def putChanges (entry : (key : κ) → Entry (ν key)) (old new : (key : κ) → ν key) (keys : List κ) : List Char :=
  keys.flatMap fun key => (entry key).text (old key) (new key)

def getChanges [DecidableEq κ] (entry : (key : κ) → Entry (ν key)) :
    List κ → ((key : κ) → ν key) → List Char → Option (((key : κ) → ν key) × List Char)
  | [], table, text => some (table, text)
  | key :: keys, table, text =>
      match text.dropPrefix? (entry key).tag with
      | none => getChanges entry keys table text
      | some behind =>
          match (entry key).read (table key) behind with
          | none => none
          | some (value, rest) => getChanges entry keys (Function.update table key value) rest

/-- A list of entries that can be told apart, in front of a text with `ends`. -/
structure Unambiguous (entry : (key : κ) → Entry (ν key)) (keys : List κ) (follows : κ → List Char → Prop)
    (ends : List Char → Prop) : Prop where
  once : keys.Nodup
  apart : ∀ key ∈ keys, ∀ other ∈ keys, key ≠ other → ¬ (entry key).tag <+: (entry other).tag
  closed : ∀ key ∈ keys, ∀ rest, ends rest → ¬ (entry key).tag <+: rest
  lawful : ∀ key ∈ keys, (entry key).Lawful (follows key)
  behind : ∀ key later, key :: later <:+ keys → ∀ old new rest, ends rest →
    follows key (putChanges entry old new later ++ rest)

variable {entry : (key : κ) → Entry (ν key)} {old new : (key : κ) → ν key} {keys : List κ}
  {follows : κ → List Char → Prop} {ends : List Char → Prop} {rest : List Char}

theorem Unambiguous.tail {key : κ} (format : Unambiguous entry (key :: keys) follows ends) :
    Unambiguous entry keys follows ends where
  once := (List.nodup_cons.mp format.once).2
  apart := fun first member second listed =>
    format.apart first (List.mem_cons_of_mem _ member) second (List.mem_cons_of_mem _ listed)
  closed := fun key member => format.closed key (List.mem_cons_of_mem _ member)
  lawful := fun key member => format.lawful key (List.mem_cons_of_mem _ member)
  behind := fun key later last => format.behind key later (last.trans (List.suffix_cons _ _))

/-- What is printed for other keys does not start with the tag of this one. -/
theorem not_tag_putChanges {key : κ} (apart : ∀ other ∈ keys, ¬ (entry key).tag <+: (entry other).tag)
    (back : ∀ other ∈ keys, ¬ (entry other).tag <+: (entry key).tag) (closed : ¬ (entry key).tag <+: rest) :
    ¬ (entry key).tag <+: putChanges entry old new keys ++ rest := by
  induction keys with
  | nil => exact closed
  | cons other keys ih =>
      obtain ⟨now, later⟩ := List.forall_mem_cons.mp apart
      obtain ⟨nowBack, laterBack⟩ := List.forall_mem_cons.mp back
      rw [putChanges, List.flatMap_cons, List.append_assoc, Entry.text]
      split
      · exact ih later laterBack
      · intro front
        rw [List.append_assoc, List.append_assoc] at front
        rcases List.prefix_or_prefix_of_prefix front (List.prefix_append _ _) with inside | outside
        · exact now inside
        · exact nowBack outside

theorem putChanges_cons_silent {key : κ} (quiet : (entry key).put (old key) (new key) = []) :
    putChanges entry old new (key :: keys) = putChanges entry old new keys := by
  rw [putChanges, List.flatMap_cons, Entry.text, if_pos quiet]
  rfl

theorem putChanges_cons_loud {key : κ} (loud : (entry key).put (old key) (new key) ≠ []) (rest : List Char) :
    putChanges entry old new (key :: keys) ++ rest = (entry key).tag ++
      ((entry key).put (old key) (new key) ++ ((entry key).ending ++ (putChanges entry old new keys ++ rest))) := by
  rw [putChanges, List.flatMap_cons, Entry.text, if_neg loud]
  simp only [List.append_assoc]
  rfl

/-- The text of the changes takes a reader from the old values to the new ones. -/
theorem getChanges_putChanges [DecidableEq κ] (format : Unambiguous entry keys follows ends)
    {table : (key : κ) → ν key} (known : ∀ key ∈ keys, table key = old key) (ended : ends rest) :
    ∃ read, getChanges entry keys table (putChanges entry old new keys ++ rest) = some (read, rest) ∧
      (∀ key ∈ keys, read key = new key) ∧ ∀ key, key ∉ keys → read key = table key := by
  induction keys generalizing table with
  | nil => exact ⟨table, rfl, by simp, fun _ _ => rfl⟩
  | cons key keys ih =>
      obtain ⟨fresh, -⟩ := List.nodup_cons.mp format.once
      obtain ⟨now, later⟩ := List.forall_mem_cons.mp known
      have lawful := format.lawful key List.mem_cons_self
      have others : ∀ other ∈ keys, key ≠ other := fun other member same => fresh (same ▸ member)
      by_cases quiet : (entry key).put (old key) (new key) = []
      · -- nothing is printed for this key, and its tag is not at the front
        have absent : ¬ (entry key).tag <+: putChanges entry old new keys ++ rest := by
          apply not_tag_putChanges ?_ ?_ (format.closed key List.mem_cons_self rest ended)
          · intro other member
            exact format.apart key List.mem_cons_self other (List.mem_cons_of_mem _ member) (others other member)
          · intro other member
            exact format.apart other (List.mem_cons_of_mem _ member) key List.mem_cons_self
              (others other member).symm
        obtain ⟨read, got, changed, same⟩ := ih format.tail later
        refine ⟨read, ?_, ?_, ?_⟩
        · rw [putChanges_cons_silent quiet, getChanges, dropPrefix_eq_none absent]
          exact got
        · rw [List.forall_mem_cons]
          refine ⟨?_, changed⟩
          rw [same key fresh, now]
          exact (lawful.silent _ _).mp quiet
        · intro other outside
          exact same other fun member => outside (List.mem_cons_of_mem _ member)
      · have differs : old key ≠ new key := fun same => quiet ((lawful.silent _ _).mpr same)
        have taken := lawful.reads (old key) (new key) _ differs
          (format.behind key keys (List.suffix_refl _) old new rest ended)
        obtain ⟨read, got, changed, same⟩ := @ih format.tail (Function.update table key (new key))
          fun other member => by
            rw [Function.update_of_ne (others other member).symm]
            exact later other member
        refine ⟨read, ?_, ?_, ?_⟩
        · rw [putChanges_cons_loud quiet, getChanges, dropPrefix_append]
          simp only [Entry.read, now, taken, dropPrefix_append, Option.map_some]
          exact got
        · rw [List.forall_mem_cons]
          refine ⟨?_, changed⟩
          rw [same key fresh, Function.update_self]
        · intro other outside
          rw [List.mem_cons, not_or] at outside
          rw [same other outside.2, Function.update_of_ne outside.1]

/-- Nothing is printed exactly if nothing has changed. -/
theorem putChanges_eq_nil_iff (lawful : ∀ key ∈ keys, (entry key).Lawful (follows key)) :
    putChanges entry old new keys = [] ↔ ∀ key ∈ keys, old key = new key := by
  rw [putChanges, List.flatMap_eq_nil_iff]
  apply forall_congr'
  intro key
  apply imp_congr_right
  intro member
  rw [← (lawful key member).silent, Entry.text]
  split
  · rename_i quiet
    exact iff_of_true rfl quiet
  · rename_i loud
    refine iff_of_false ?_ loud
    simp [(lawful key member).tagged]

/-! ## A table as an entry -/

/-- A table inside of a larger one. -/
def Entry.ofTable [DecidableEq κ] (tag ending : List Char) (entry : (key : κ) → Entry (ν key)) (keys : List κ) :
    Entry ((key : κ) → ν key) where
  tag := tag
  ending := ending
  put := fun old new => putChanges entry old new keys
  get := getChanges entry keys

theorem Entry.ofTable_lawful [DecidableEq κ] {tag ending : List Char} (tagged : tag ≠ [])
    (format : Unambiguous entry keys follows (ending <+: ·)) (all : ∀ key, key ∈ keys) :
    (Entry.ofTable tag ending entry keys).Lawful fun _ => True where
  tagged := tagged
  silent := by
    intro old new
    refine (putChanges_eq_nil_iff format.lawful).trans ⟨fun same => ?_, fun same key _ => congrFun same key⟩
    funext key
    exact same key (all key)
  reads := by
    intro old new more _ _
    obtain ⟨read, got, changed, -⟩ := @getChanges_putChanges _ _ _ old new _ _ _ (ending ++ more) _ format old
      (fun _ _ => rfl) (List.prefix_append _ _)
    have whole : read = new := funext fun key => changed key (all key)
    rw [whole] at got
    exact got

/-! ## A journal of tables -/

/-- The table with the values of `new` for the keys that are printed. -/
def refresh [DecidableEq κ] (keys : List κ) (old new : (key : κ) → ν key) (key : κ) : ν key :=
  if key ∈ keys then new key else old key

/-- What is written at each step: `front`, what is seen, the changes of a
table, and more of what is seen. -/
structure Journal (η ρ σ : Type) (entry : (key : κ) → Entry (ν key)) (keys : List κ) where
  front : List Char
  before : Format η ρ
  after : Format η σ

namespace Journal

variable {η ρ σ : Type} {entry : (key : κ) → Entry (ν key)} {keys : List κ} [DecidableEq κ]

def put (journal : Journal η ρ σ entry keys) : ((key : κ) → ν key) → List (η × ((key : κ) → ν key)) → List Char
  | _, [] => []
  | old, (seen, new) :: steps =>
      journal.front ++ (journal.before.put seen ++ (putChanges entry old new keys ++ (journal.after.put seen ++
        journal.put (refresh keys old new) steps)))

def get (journal : Journal η ρ σ entry keys) :
    (fuel : Nat) → ((key : κ) → ν key) → List Char → Option (List ((ρ × σ) × ((key : κ) → ν key)))
  | 0, _, text => if text = [] then some [] else none
  | fuel + 1, old, text =>
      if text = [] then some []
      else (text.dropPrefix? journal.front).bind fun text => (journal.before.get text).bind fun before =>
        (getChanges entry keys old before.2).bind fun changed => (journal.after.get changed.2).bind fun after =>
          (journal.get fuel changed.1 after.2).map (((before.1, after.1), changed.1) :: ·)

/-- What a reader learns of the steps. -/
def learn (journal : Journal η ρ σ entry keys) :
    ((key : κ) → ν key) → List (η × ((key : κ) → ν key)) → List ((ρ × σ) × ((key : κ) → ν key))
  | _, [] => []
  | old, (seen, new) :: steps =>
      ((journal.before.learn seen, journal.after.learn seen), refresh keys old new) ::
        journal.learn (refresh keys old new) steps

/-- A journal ends, or goes on with the next step. -/
def Continues (journal : Journal η ρ σ entry keys) (text : List Char) : Prop := text = [] ∨ journal.front <+: text

structure Lawful (journal : Journal η ρ σ entry keys) (follows : κ → List Char → Prop)
    (ends : List Char → Prop) : Prop where
  headed : journal.front ≠ []
  format : Unambiguous entry keys follows ends
  free : ∀ more, journal.before.follows more
  ends : ∀ seen more, journal.Continues more → ends (journal.after.put seen ++ more)
  continues : ∀ more, journal.Continues more → journal.after.follows more

variable {journal : Journal η ρ σ entry keys} {steps : List (η × ((key : κ) → ν key))} {old : (key : κ) → ν key}
  {fuel : Nat} {follows : κ → List Char → Prop} {ends : List Char → Prop}

theorem put_continues : journal.Continues (journal.put old steps) := by
  cases steps with
  | nil => exact .inl rfl
  | cons step steps => exact .inr (List.prefix_append _ _)

/-- A reader with the first table follows the journal to its end. -/
theorem get_put (lawful : journal.Lawful follows ends) (enough : steps.length ≤ fuel) :
    journal.get fuel old (journal.put old steps) = some (journal.learn old steps) := by
  induction steps generalizing fuel old with
  | nil => cases fuel <;> rfl
  | cons step steps ih =>
      obtain ⟨seen, new⟩ := step
      cases fuel with
      | zero => simp at enough
      | succ fuel =>
          have onward : journal.Continues (journal.put (refresh keys old new) steps) := put_continues
          obtain ⟨read, got, changed, same⟩ := @getChanges_putChanges _ _ _ old new _ _ _
            (journal.after.put seen ++ journal.put (refresh keys old new) steps) _ lawful.format old (fun _ _ => rfl)
            (lawful.ends seen _ onward)
          have refreshed : read = refresh keys old new := by
            funext key
            by_cases printed : key ∈ keys
            · rw [changed key printed, refresh, if_pos printed]
            · rw [same key printed, refresh, if_neg printed]
          subst refreshed
          have text : journal.put old ((seen, new) :: steps) ≠ [] := by
            simp [put, lawful.headed]
          rw [get, if_neg text, put, dropPrefix_append, Option.bind_some, journal.before.reads seen _ (lawful.free _),
            Option.bind_some, got, Option.bind_some, journal.after.reads seen _ (lawful.continues _ onward),
            Option.bind_some, ih (by simpa using enough)]
          rfl

end Journal

end ChangeText

end Foundation
