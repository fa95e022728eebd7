import PhantomTrails.Detection.RobReport
import PhantomTrails.Foundation.ChangeText

namespace PhantomTrails

/-! # The changes of the branch predictors

`uarch/Predictors.h`: what is printed when a table of the core differs from the
copy that was taken when it was printed last.
-/

open Foundation

/-- The four banks of the bi-modal table. -/
structure Bim where
  bimBank : Fin 4 → Fin 2048 → UInt8

namespace Bim

/-- The entries in the order in which they are compared. -/
def places : List (Fin 2048 × Fin 4) := (List.finRange 2048).product (List.finRange 4)

def line (bim top : Bim) (place : Fin 2048 × Fin 4) : String :=
  if bim.bimBank place.2 place.1 ≠ top.bimBank place.2 place.1 then
    "[BIM] Bank: " ++ toString place.2.val ++ " Entry: " ++ hex place.1.val ++
      "   old: " ++ hex (bim.bimBank place.2 place.1).toNat ++
      "  new: " ++ hex (top.bimBank place.2 place.1).toNat ++ "\n"
  else ""

/-- `printDiff`, with the copy it leaves behind. -/
def printDiff (bim top : Bim) : String × Bim := (String.join (places.map (bim.line top)), top)

end Bim

structure LoopEntry where
  tag : UInt16
  conf : UInt8
  age : UInt8
  p_cnt : UInt16
  s_cnt : UInt16

/-- The fields of `entry` that are not those of `other`. -/
def LoopEntry.diff (entry other : LoopEntry) : String :=
  (if entry.tag ≠ other.tag then "tag: 0x" ++ hex entry.tag.toNat ++ ",  " else "") ++
  (if entry.conf ≠ other.conf then "conf: 0x" ++ hex entry.conf.toNat ++ ",  " else "") ++
  (if entry.age ≠ other.age then "age: 0x" ++ hex entry.age.toNat ++ ",  " else "") ++
  (if entry.p_cnt ≠ other.p_cnt then "p_cnt: 0x" ++ hex entry.p_cnt.toNat ++ ",  " else "") ++
  (if entry.s_cnt ≠ other.s_cnt then "s_cnt: 0x" ++ hex entry.s_cnt.toNat else "")

structure LoopColumn where
  f3_pred_in : UInt8
  f3_pred : UInt8
  update_mispred : UInt8
  update_repair : UInt8
  f3_req_fire_REG : UInt8
  f3_meta_s_cnt : UInt16
  entries : Fin 16 → LoopEntry

/-- The line of entry `i`, if its fields have changed. -/
def LoopColumn.entryDiff (column other : LoopColumn) (i : Fin 16) : String :=
  let diff := (column.entries i).diff (other.entries i)
  if diff ≠ "" then "     ENTRY[" ++ toString i.val ++ "] \x7b" ++ diff ++ "\x7d\n" else ""

def LoopColumn.diff (column other : LoopColumn) : String :=
  (if column.f3_pred_in ≠ other.f3_pred_in then
    "  f3_pred_in: " ++ toString column.f3_pred_in.toNat ++ "\n" else "") ++
  (if column.f3_pred ≠ other.f3_pred then "  f3_pred: " ++ toString column.f3_pred.toNat ++ "\n" else "") ++
  (if column.update_mispred ≠ other.update_mispred then
    "  update_mispred: " ++ toString column.update_mispred.toNat ++ "\n" else "") ++
  (if column.update_repair ≠ other.update_repair then
    "  update_repair: " ++ toString column.update_repair.toNat ++ "\n" else "") ++
  (if column.f3_req_fire_REG ≠ other.f3_req_fire_REG then
    "  f3_req_fire_REG: " ++ toString column.f3_req_fire_REG.toNat ++ "\n" else "") ++
  (if column.f3_meta_s_cnt ≠ other.f3_meta_s_cnt then
    "  f3_meta_s_cnt: " ++ toString column.f3_meta_s_cnt.toNat ++ "\n" else "") ++
  String.join ((List.finRange 16).map (column.entryDiff other))

structure LoopPredictor where
  cols : Fin 4 → LoopColumn

def LoopPredictor.colDiff (newLoop other : LoopPredictor) (i : Fin 4) : String :=
  let diff := (newLoop.cols i).diff (other.cols i)
  if diff ≠ "" then "COLS[" ++ toString i.val ++ "] \x7b\n" ++ diff ++ "\x7d\n" else ""

def LoopPredictor.diff (newLoop other : LoopPredictor) : String :=
  String.join ((List.finRange 4).map (newLoop.colDiff other))

/-- `Simulator::printLoopDiff`, with the copy it leaves behind. -/
def LoopPredictor.printLoopDiff (loop top : LoopPredictor) : String × LoopPredictor := (top.diff loop, top)

/-! ## The bi-modal table as a table of changes -/

namespace Bim

variable {bim top : Bim} {place other : Fin 2048 × Fin 4} {rest : List Char}

def values (bim : Bim) (place : Fin 2048 × Fin 4) : Nat := (bim.bimBank place.2 place.1).toNat

def ofValues (values : Fin 2048 × Fin 4 → Nat) : Bim := ⟨fun bank i => .ofNat (values (i, bank))⟩

theorem ofValues_values (bim : Bim) : ofValues bim.values = bim := by
  simp [ofValues, values]

def lineTag (place : Fin 2048 × Fin 4) : String :=
  "[BIM] Bank: " ++ toString place.2.val ++ " Entry: " ++ hex place.1.val ++ "   old: "

/-- A line, which shows the old value and the new one. -/
def lineEntry (place : Fin 2048 × Fin 4) : Entry Nat where
  tag := (lineTag place).toList
  ending := ['\n']
  put := fun old new => if old = new then [] else (hex old ++ "  new: " ++ hex new).toList
  get := fun _ text => ((readDigits 16 0 text).2.dropPrefix? "  new: ".toList).map (readDigits 16 0)

theorem line_toList (place : Fin 2048 × Fin 4) :
    (bim.line top place).toList = (lineEntry place).text (bim.values place) (top.values place) := by
  unfold line Entry.text lineEntry lineTag values
  by_cases same : bim.bimBank place.2 place.1 = top.bimBank place.2 place.1
  · simp [same]
  · have differs : (bim.bimBank place.2 place.1).toNat ≠ (top.bimBank place.2 place.1).toNat :=
      fun equal => same (UInt8.toNat_inj.mp equal)
    simp [same, differs, String.toList_append]

theorem printDiff_toList :
    (bim.printDiff top).1.toList = putChanges lineEntry bim.values top.values places := by
  rw [printDiff, String.toList_join, List.flatMap_map, putChanges]
  exact congrArg (fun text => List.flatMap text places) (funext line_toList)

theorem lineEntry_lawful (place : Fin 2048 × Fin 4) : (lineEntry place).Lawful fun _ => True where
  tagged := by
    unfold lineEntry lineTag
    simp
  silent := by
    intro old new
    unfold lineEntry
    simp
  reads := by
    intro old new more differs _
    have oldEnds : NoDigit 16 ("  new: ".toList ++ (Nat.toDigits 16 new ++ '\n' :: more)) := by
      simp [NoDigit]
      decide
    have newEnds : NoDigit 16 ('\n' :: more) := by
      simp [NoDigit]
      decide
    unfold lineEntry
    simp only [if_neg differs, String.toList_append, hex, String.toList_ofList, List.append_assoc,
      List.singleton_append, @readDigits_toDigits 16 (by omega) (by omega), readDigits_of_noDigit oldEnds,
      dropPrefix_append, Option.map_some, readDigits_of_noDigit newEnds]

/-- The bank and the entry of a line can be read from its front. -/
theorem lineTag_front (front : (lineTag place).toList <+: (lineTag other).toList) : place = other := by
  obtain ⟨behind, split⟩ := front
  unfold lineTag at split
  simp only [String.toList_append, hex, String.toList_ofList, Nat.toString_eq_repr, Nat.toList_repr,
    List.append_assoc, List.append_cancel_left_eq] at split
  have bankEnds : NoDigit 10 " Entry: ".toList := by simp [NoDigit]; decide
  have entryEnds : NoDigit 16 "   old: ".toList := by simp [NoDigit]; decide
  have banks := congrArg (readDigits 10 0) split
  simp only [@readDigits_toDigits 10 (by omega) (by omega),
    readDigits_of_noDigit (bankEnds.append (by simp) _), Prod.mk.injEq, List.append_cancel_left_eq] at banks
  have entries := congrArg (readDigits 16 0) banks.2
  rw [@readDigits_toDigits 16 (by omega) (by omega), @readDigits_toDigits 16 (by omega) (by omega),
    readDigits_of_noDigit (entryEnds.append (by simp) _), readDigits_of_noDigit entryEnds, Prod.mk.injEq] at entries
  exact Prod.ext (Fin.ext entries.1) (Fin.ext banks.1)

theorem mem_places (place : Fin 2048 × Fin 4) : place ∈ places :=
  List.pair_mem_product.mpr ⟨List.mem_finRange _, List.mem_finRange _⟩

theorem lines_unambiguous : Unambiguous lineEntry places (fun _ _ => True) (['\n', '\x7d', '\n'] <+: ·) where
  once := List.Nodup.product (List.nodup_finRange _) (List.nodup_finRange _)
  apart := fun place _ other _ differs front => differs (lineTag_front front)
  closed := by
    intro place _ rest ends front
    unfold lineEntry lineTag at front
    obtain ⟨last, rfl⟩ := ends
    simp at front
  lawful := fun place _ => lineEntry_lawful place
  behind := fun _ _ _ _ _ _ _ => trivial

end Bim

/-! ## The loop predictor as a table of changes -/

/-- A field that is printed when it has changed. -/
theorem changed_toList {changed : Prop} [Decidable changed] {base old new : Nat} {tag digits ending : String}
    (differs : changed ↔ new ≠ old) (shown : digits.toList = Nat.toDigits base new) :
    (if changed then tag ++ digits ++ ending else "").toList =
      (Entry.number base tag.toList ending.toList).text old new := by
  rw [Entry.text]
  by_cases same : old = new
  · have quiet : ¬ changed := fun change => differs.mp change same.symm
    simp [Entry.number, same, quiet]
  · have loud : changed := differs.mpr (Ne.symm same)
    have printed : Nat.toDigits base new ≠ [] := Nat.toDigits_ne_nil
    simp [Entry.number, same, loud, printed, shown]

inductive LoopField where
  | tag | conf | age | p_cnt | s_cnt
deriving DecidableEq

namespace LoopEntry

variable {entry other : LoopEntry} {field : LoopField} {rest : List Char}

def values (entry : LoopEntry) : LoopField → Nat
  | .tag => entry.tag.toNat
  | .conf => entry.conf.toNat
  | .age => entry.age.toNat
  | .p_cnt => entry.p_cnt.toNat
  | .s_cnt => entry.s_cnt.toNat

def ofValues (values : LoopField → Nat) : LoopEntry where
  tag := .ofNat (values .tag)
  conf := .ofNat (values .conf)
  age := .ofNat (values .age)
  p_cnt := .ofNat (values .p_cnt)
  s_cnt := .ofNat (values .s_cnt)

theorem ofValues_values (entry : LoopEntry) : ofValues entry.values = entry := by
  simp [ofValues, values]

def fields : List LoopField := [.tag, .conf, .age, .p_cnt, .s_cnt]

theorem mem_fields (field : LoopField) : field ∈ fields := by cases field <;> simp [fields]

def label : LoopField → String
  | .tag => "tag: 0x"
  | .conf => "conf: 0x"
  | .age => "age: 0x"
  | .p_cnt => "p_cnt: 0x"
  | .s_cnt => "s_cnt: 0x"

/-- Nothing separates the last field from what is behind. -/
def separator : LoopField → String
  | .s_cnt => ""
  | _ => ",  "

def fieldEntry (field : LoopField) : Entry Nat := Entry.number 16 (label field).toList (separator field).toList

theorem diff_toList : (entry.diff other).toList = putChanges fieldEntry other.values entry.values fields := by
  have shown : ∀ value, (hex value).toList = Nat.toDigits 16 value := fun value => String.toList_ofList
  have byteDiffers : ∀ value last : UInt8, value ≠ last ↔ value.toNat ≠ last.toNat := fun value last =>
    UInt8.toNat_inj.not.symm
  have halfDiffers : ∀ value last : UInt16, value ≠ last ↔ value.toNat ≠ last.toNat := fun value last =>
    UInt16.toNat_inj.not.symm
  unfold diff
  rw [← @String.append_empty ("s_cnt: 0x" ++ hex entry.s_cnt.toNat)]
  simp only [String.toList_append, putChanges, fields, List.flatMap_cons, List.flatMap_nil, fieldEntry, values, label,
    separator, List.append_nil, List.append_assoc, changed_toList (byteDiffers _ _) (shown _),
    changed_toList (halfDiffers _ _) (shown _)]

theorem fields_unambiguous : Unambiguous fieldEntry fields
    (fun field more => NoDigit 16 ((separator field).toList ++ more)) (['\x7d', '\n'] <+: ·) where
  once := by simp [fields]
  apart := by
    intro field _ other _ differs
    cases field <;> cases other <;> simp [fieldEntry, Entry.number, label] at differs ⊢
  closed := by
    intro field _ rest ends
    obtain ⟨last, rfl⟩ := ends
    cases field <;> simp [fieldEntry, Entry.number, label]
  lawful := by
    intro field _
    exact Entry.number_lawful (by omega) (by omega) (by cases field <;> simp [label])
  behind := by
    intro field later last old new rest ends
    obtain ⟨behind, rfl⟩ := ends
    cases field with
    | s_cnt =>
        have final : later = [] := by simpa [fields, List.suffix_cons_iff] using last
        subst final
        simp [separator, putChanges, NoDigit]
        decide
    | tag | conf | age | p_cnt =>
        simp [separator, NoDigit]
        decide

end LoopEntry

/-- A table that is printed when something in it has changed. -/
theorem framed_toList {κ : Type} {ν : κ → Type} [DecidableEq κ] {entry : (key : κ) → Entry (ν key)} {keys : List κ}
    {old new : (key : κ) → ν key} {tag diff ending : String}
    (inner : diff.toList = putChanges entry old new keys) :
    (if diff ≠ "" then tag ++ diff ++ ending else "").toList =
      (Entry.ofTable tag.toList ending.toList entry keys).text old new := by
  rw [Entry.text]
  by_cases quiet : diff = ""
  · rw [quiet] at inner
    simp [Entry.ofTable, quiet, ← inner]
  · have loud : putChanges entry old new keys ≠ [] := by
      rw [← inner]
      simpa using quiet
    simp [Entry.ofTable, quiet, loud, inner]

/-- The number in a tag can be read from its front. -/
theorem numbered_front {front back : String} {i j : Nat} (ends : NoDigit 10 back.toList) (nonempty : back.toList ≠ [])
    (same : (front ++ toString i ++ back).toList <+: (front ++ toString j ++ back).toList) : i = j := by
  obtain ⟨behind, split⟩ := same
  simp only [String.toList_append, Nat.toString_eq_repr, Nat.toList_repr, List.append_assoc,
    List.append_cancel_left_eq] at split
  have places := congrArg (readDigits 10 0) split
  rw [@readDigits_toDigits 10 (by omega) (by omega), @readDigits_toDigits 10 (by omega) (by omega),
    readDigits_of_noDigit (ends.append nonempty _), readDigits_of_noDigit ends, Prod.mk.injEq] at places
  exact places.1

inductive ColumnSignal where
  | f3_pred_in | f3_pred | update_mispred | update_repair | f3_req_fire_REG | f3_meta_s_cnt
deriving DecidableEq

inductive ColumnKey where
  | signal (signal : ColumnSignal)
  | entry (i : Fin 16)
deriving DecidableEq

def ColumnKey.Value : ColumnKey → Type
  | .signal _ => Nat
  | .entry _ => LoopField → Nat

namespace LoopColumn

variable {column other : LoopColumn} {i j : Fin 16} {rest : List Char}

def signals (column : LoopColumn) : ColumnSignal → Nat
  | .f3_pred_in => column.f3_pred_in.toNat
  | .f3_pred => column.f3_pred.toNat
  | .update_mispred => column.update_mispred.toNat
  | .update_repair => column.update_repair.toNat
  | .f3_req_fire_REG => column.f3_req_fire_REG.toNat
  | .f3_meta_s_cnt => column.f3_meta_s_cnt.toNat

def values (column : LoopColumn) : (key : ColumnKey) → key.Value
  | .signal signal => column.signals signal
  | .entry i => (column.entries i).values

def ofValues (values : (key : ColumnKey) → key.Value) : LoopColumn where
  f3_pred_in := .ofNat (values (.signal .f3_pred_in))
  f3_pred := .ofNat (values (.signal .f3_pred))
  update_mispred := .ofNat (values (.signal .update_mispred))
  update_repair := .ofNat (values (.signal .update_repair))
  f3_req_fire_REG := .ofNat (values (.signal .f3_req_fire_REG))
  f3_meta_s_cnt := .ofNat (values (.signal .f3_meta_s_cnt))
  entries := fun i => .ofValues (values (.entry i))

theorem ofValues_values (column : LoopColumn) : ofValues column.values = column := by
  simp [ofValues, values, signals, LoopEntry.ofValues_values]

def keys : List ColumnKey :=
  [.signal .f3_pred_in, .signal .f3_pred, .signal .update_mispred, .signal .update_repair,
   .signal .f3_req_fire_REG, .signal .f3_meta_s_cnt] ++ (List.finRange 16).map .entry

theorem mem_keys (key : ColumnKey) : key ∈ keys := by
  cases key with
  | signal signal => cases signal <;> simp [keys]
  | entry i => simp [keys]

def label : ColumnSignal → String
  | .f3_pred_in => "  f3_pred_in: "
  | .f3_pred => "  f3_pred: "
  | .update_mispred => "  update_mispred: "
  | .update_repair => "  update_repair: "
  | .f3_req_fire_REG => "  f3_req_fire_REG: "
  | .f3_meta_s_cnt => "  f3_meta_s_cnt: "

def entryTag (i : Fin 16) : String := "     ENTRY[" ++ toString i.val ++ "] \x7b"

def keyEntry : (key : ColumnKey) → Entry key.Value
  | .signal signal => Entry.number 10 (label signal).toList ['\n']
  | .entry i => Entry.ofTable (entryTag i).toList ['\x7d', '\n'] LoopEntry.fieldEntry LoopEntry.fields

theorem entryTag_front (front : (entryTag i).toList <+: (entryTag j).toList) : i = j := by
  unfold entryTag at front
  exact Fin.ext (numbered_front (by simp [NoDigit]; decide) (by simp) front)

theorem entryDiff_toList (i : Fin 16) :
    (column.entryDiff other i).toList = (keyEntry (.entry i)).text (other.values (.entry i)) (column.values (.entry i)) := by
  have ending : "\x7d\n".toList = ['\x7d', '\n'] := by simp
  have framed := @framed_toList _ _ _ _ _ _ _ (entryTag i) _ "\x7d\n"
    (@LoopEntry.diff_toList (column.entries i) (other.entries i))
  rw [ending] at framed
  exact framed

theorem diff_toList : (column.diff other).toList = putChanges keyEntry other.values column.values keys := by
  have shown : ∀ value : Nat, (toString value).toList = Nat.toDigits 10 value := fun value => by
    rw [Nat.toString_eq_repr, Nat.toList_repr]
  have byteDiffers : ∀ value last : UInt8, value ≠ last ↔ value.toNat ≠ last.toNat := fun value last =>
    UInt8.toNat_inj.not.symm
  have halfDiffers : ∀ value last : UInt16, value ≠ last ↔ value.toNat ≠ last.toNat := fun value last =>
    UInt16.toNat_inj.not.symm
  unfold diff
  have newline : "\n".toList = ['\n'] := by simp
  simp only [String.toList_append, String.toList_join, List.flatMap_map, putChanges, keys, List.flatMap_append,
    List.flatMap_cons, List.flatMap_nil, keyEntry, values, signals, label, ← newline, List.append_nil,
    List.append_assoc, changed_toList (byteDiffers _ _) (shown _), changed_toList (halfDiffers _ _) (shown _),
    entryDiff_toList]
  rfl

/-- What has to stand behind an entry of a column. -/
def follows : ColumnKey → List Char → Prop
  | .signal _, more => NoDigit 10 (['\n'] ++ more)
  | .entry _, _ => True

theorem keys_nodup : keys.Nodup := by
  have entries : ((List.finRange 16).map ColumnKey.entry).Nodup :=
    (List.nodup_finRange 16).map fun i j same => ColumnKey.entry.inj same
  simp [keys, List.nodup_cons, entries]

theorem keys_unambiguous : Unambiguous keyEntry keys follows (['\x7d', '\n'] <+: ·) where
  once := keys_nodup
  apart := by
    intro key _ other _ differs front
    cases key with
    | signal signal =>
        cases other with
        | signal second =>
            cases signal <;> cases second <;> simp [keyEntry, Entry.number, label] at differs front
        | entry i =>
            unfold keyEntry Entry.ofTable entryTag at front
            cases signal <;> simp [Entry.number, label] at front
    | entry i =>
        cases other with
        | signal signal =>
            unfold keyEntry Entry.ofTable entryTag at front
            cases signal <;> simp [Entry.number, label] at front
        | entry j =>
            have same := entryTag_front front
            exact differs (congrArg ColumnKey.entry same)
  closed := by
    intro key _ rest ends front
    obtain ⟨last, rfl⟩ := ends
    unfold keyEntry at front
    cases key with
    | signal signal => cases signal <;> simp [Entry.number, label] at front
    | entry i =>
        unfold Entry.ofTable entryTag at front
        simp at front
  lawful := by
    intro key _
    cases key with
    | signal signal =>
        exact Entry.number_lawful (by omega) (by omega) (by cases signal <;> simp [label])
    | entry i =>
        refine Entry.ofTable_lawful ?_ LoopEntry.fields_unambiguous LoopEntry.mem_fields
        unfold entryTag
        simp
  behind := by
    intro key later _ old new rest _
    cases key with
    | signal signal => simp [follows, NoDigit]; decide
    | entry i => trivial

end LoopColumn

namespace LoopPredictor

variable {newLoop other : LoopPredictor} {i j : Fin 4} {rest : List Char}

def values (loop : LoopPredictor) (i : Fin 4) : (key : ColumnKey) → key.Value := (loop.cols i).values

def ofValues (values : Fin 4 → (key : ColumnKey) → key.Value) : LoopPredictor := ⟨fun i => .ofValues (values i)⟩

theorem ofValues_values (loop : LoopPredictor) : ofValues loop.values = loop := by
  simp [ofValues, values, LoopColumn.ofValues_values]

def colTag (i : Fin 4) : String := "COLS[" ++ toString i.val ++ "] \x7b\n"

def colEntry (i : Fin 4) : Entry ((key : ColumnKey) → key.Value) :=
  Entry.ofTable (colTag i).toList ['\x7d', '\n'] LoopColumn.keyEntry LoopColumn.keys

theorem colDiff_toList (i : Fin 4) :
    (newLoop.colDiff other i).toList = (colEntry i).text (other.values i) (newLoop.values i) := by
  have ending : "\x7d\n".toList = ['\x7d', '\n'] := by simp
  have framed := @framed_toList _ _ _ _ _ _ _ (colTag i) _ "\x7d\n"
    (@LoopColumn.diff_toList (newLoop.cols i) (other.cols i))
  rw [ending] at framed
  exact framed

theorem diff_toList :
    (newLoop.diff other).toList = putChanges colEntry other.values newLoop.values (List.finRange 4) := by
  rw [diff, String.toList_join, List.flatMap_map, putChanges]
  exact congrArg (fun text => List.flatMap text (List.finRange 4)) (funext colDiff_toList)

theorem colTag_front (front : (colTag i).toList <+: (colTag j).toList) : i = j := by
  unfold colTag at front
  exact Fin.ext (numbered_front (by simp [NoDigit]; decide) (by simp) front)

theorem cols_unambiguous : Unambiguous colEntry (List.finRange 4) (fun _ _ => True)
    (['\n', '\x7d', '\n'] <+: ·) where
  once := List.nodup_finRange 4
  apart := fun i _ j _ differs front => differs (colTag_front front)
  closed := by
    intro i _ rest ends front
    obtain ⟨last, rfl⟩ := ends
    unfold colEntry Entry.ofTable colTag at front
    simp at front
  lawful := by
    intro i _
    refine Entry.ofTable_lawful ?_ LoopColumn.keys_unambiguous LoopColumn.mem_keys
    unfold colTag
    simp
  behind := fun _ _ _ _ _ _ _ => trivial

end LoopPredictor

end PhantomTrails
