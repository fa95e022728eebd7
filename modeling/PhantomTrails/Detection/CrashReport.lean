import Mathlib.Tactic.Convert
import PhantomTrails.Foundation.Json
import PhantomTrails.Detection.CrashInfo
import PhantomTrails.Detection.RobReport

namespace PhantomTrails

open Foundation

/-! # The crash report

`CrashInfo::createReport` writes the record as JSON, by hand.
-/

def FlushType.print : FlushType → String
  | .flush => "Flush"
  | .exception => "Exception"
  | .misprediction => "Misprediction"
  | .memOrdering => "Memory Ordering Fault"
  | .unknownFlush => "Unknown flush"
  | .none => "None"

namespace FlushCause

def names : List (FlushCause × String) :=
  [(MISALIGNED_FETCH, "MISALIGNED_FETCH"),
   (FETCH_ACCESS, "FETCH_ACCESS"),
   (ILLEGAL_INSTRUCTION, "ILLEGAL_INSTRUCTION"),
   (BREAKPOINT, "BREAKPOINT"),
   (MISALIGNED_LOAD, "MISALIGNED_LOAD"),
   (LOAD_ACCESS, "LOAD_ACCESS"),
   (MISALIGNED_STORE, "MISALIGNED_STORE"),
   (STORE_ACCESS, "STORE_ACCESS"),
   (USER_ECALL, "USER_ECALL"),
   (SUPERVISOR_ECALL, "SUPERVISOR_ECALL"),
   (VIRTUAL_SUPERVISOR_ECALL, "VIRTUAL_SUPERVISOR_ECALL"),
   (MACHINE_ECALL, "MACHINE_ECALL"),
   (FETCH_PAGE_FAULT, "FETCH_PAGE_FAULT"),
   (LOAD_PAGE_FAULT, "LOAD_PAGE_FAULT"),
   (STORE_PAGE_FAULT, "STORE_PAGE_FAULT"),
   (FETCH_GUEST_PAGE_FAULT, "FETCH_GUEST_PAGE_FAULT"),
   (MINI_EXCEPTION_MEM_ORDERING, "MINI_EXCEPTION_MEM_ORDERING"),
   (LOAD_GUEST_PAGE_FAULT, "LOAD_GUEST_PAGE_FAULT"),
   (VIRTUAL_INSTRUCTION, "VIRTUAL_INSTRUCTION"),
   (STORE_GUEST_PAGE_FAULT, "STORE_GUEST_PAGE_FAULT"),
   (CAUSE_UNKNOWN, "CAUSE_UNKNOWN"),
   (CAUSE_MISPREDICTION, "CAUSE_MISPREDICTION"),
   (CAUSE_MISPREDICTION_WITH_EXCEPTION, "CAUSE_MISPREDICTION_WITH_EXCEPTION")]

def print (cause : FlushCause) : String := (names.lookup cause).getD "Unknown cause"

end FlushCause

namespace CrashInfo

/-- The flush section.  From the bad address on the stream writes numbers in
base 16. -/
def flushReport (crash : CrashInfo) : String :=
  if crash.flushFound then
    "\"flushCycle\": " ++ toString crash.flushCycle.toNat ++
      ",\n\"flushInstr\": " ++ crash.flushInfo.inst.to_string ++
      ",\n\"flushType\": \"" ++ crash.flushInfo.type.print ++
      "\",\n\"flushCause\": \"" ++ crash.flushInfo.cause.print ++
      "\",\n\"badAddr\": \"0x" ++ hex crash.flushInfo.badAddr.toNat ++
      "\",\n\"branchTag\": \"0x" ++ hex crash.flushInfo.mispredMask.toNat ++
      "\",\n\"branchTaken\": " ++ flag crash.flushInfo.taken ++
      ",\n\"robDuringFlush\": " ++ crash.flushInfo.robState.to_string
  else "\"flushType\": \"None\"\n"

def report (crash : CrashInfo) (programName : String) : String :=
  "\x7b\n\"program\": \"" ++ programName ++
    "\",\n\"classification\": \"" ++ crash.reason ++
    "\",\n\"taintCycle\": " ++ toString crash.taintCycle.toNat ++
    ",\n\"taintInstr\": " ++ crash.taintInstr.to_string ++
    ",\n\"robDuringTaint\": " ++ crash.taintRob.to_string ++
    ",\n" ++ crash.flushReport ++ "\x7d\n"

/-- Create a json report of the crash and save it on a file: its name and its
text, if there is a taint to report and the file can be opened. -/
def createReport (crash : CrashInfo) (programName : String) (is_open : Bool) : Option (String × String) :=
  if crash.taintFound = false then none
  else if is_open then some (programName ++ ".crash.json", crash.report programName)
  else none

end CrashInfo

/-! ## The report as a value -/

def hexText (value : Nat) : String := "0x" ++ hex value

/-- The number that a text in base 16 stands for. -/
def ofHexText (text : String) : Option Nat :=
  match text.toList with
  | '0' :: 'x' :: digits => if (readDigits 16 0 digits).2 = [] then some (readDigits 16 0 digits).1 else none
  | _ => none

theorem ofHexText_hexText (value : Nat) : ofHexText (hexText value) = some value := by
  have read := readDigits_toDigits (by decide : 1 < 16) (by decide) value []
  rw [List.append_nil, readDigits] at read
  simp [ofHexText, hexText, hex, read]

theorem plain_hexText (value : Nat) : Json.Plain (hexText value) :=
  Json.plain_append (by decide) (Json.plain_toDigits (by decide) (by decide) value)

theorem plain_toString (value : Nat) : Json.Plain (toString value) := by
  rw [Nat.toString_eq_ofList_toDigits]
  exact Json.plain_toDigits (by decide) (by decide) value

theorem plain_lookup {α : Type} [BEq α] {table : List (α × String)} {other : String}
    (plain : ∀ row ∈ table, Json.Plain row.2) (otherwise : Json.Plain other) (key : α) :
    Json.Plain ((table.lookup key).getD other) := by
  induction table with
  | nil => exact otherwise
  | cons row table ih =>
      obtain ⟨now, later⟩ := List.forall_mem_cons.mp plain
      rw [List.lookup_cons]
      split
      · exact now
      · exact ih later

theorem plain_uopName (uopc : UInt8) : Json.Plain (getUopName uopc) :=
  plain_lookup (by decide +kernel) (by decide) uopc

theorem FlushCause.plain_print (cause : FlushCause) : Json.Plain cause.print :=
  plain_lookup (by decide +kernel) (by decide) cause

theorem FlushType.plain_print (type : FlushType) : Json.Plain type.print := by
  cases type <;> decide

namespace RobEntry

def place (entry : RobEntry) : String :=
  "ROB[" ++ toString entry.robIdx.val ++ "][" ++ toString entry.robBank.val ++ "]"

theorem plain_place (entry : RobEntry) : Json.Plain entry.place := by
  have upToRow := Json.plain_append (by decide : Json.Plain "ROB[") (plain_toString entry.robIdx.val)
  have upToBank := Json.plain_append (Json.plain_append upToRow (by decide : Json.Plain "]["))
    (plain_toString entry.robBank.val)
  exact Json.plain_append upToBank (by decide)

def fields (entry : RobEntry) : List Json.Field :=
  [.ofString "entry" entry.place (by decide) entry.plain_place,
   .ofString "µ-opcode" (getUopName entry.uopcode) (by decide) (plain_uopName _),
   .ofNumber "valid" entry.valid.toNat (by decide),
   .ofNumber "busy" entry.busy.toNat (by decide),
   .ofNumber "exception" entry.exception.toNat (by decide),
   .ofString "pc" (hexText entry.pc.toNat) (by decide) (plain_hexText _),
   .ofString "branchMask" (hexText entry.brMask.toNat) (by decide) (plain_hexText _),
   .ofString "destReg" (hexText entry.dst.toNat) (by decide) (plain_hexText _),
   .ofString "dst_type" (hexText entry.dst_type.toNat) (by decide) (plain_hexText _)]

def json (entry : RobEntry) : Json := .object (entry.fields.map Json.Field.member)

theorem flag_toList (value : Bool) : (flag value).toList = Nat.toDigits 10 value.toNat := by
  cases value <;> rfl

theorem to_string_toList (entry : RobEntry) :
    entry.to_string.toList = '\x7b' :: Json.Field.texts [' '] entry.fields ++ ['\x7d'] := by
  unfold to_string
  simp only [fields, Json.Field.texts, Json.Field.ofString_name, Json.Field.ofString_text,
    Json.Field.ofNumber_name, Json.Field.ofNumber_text, Json.quoted, hexText, place, String.toList_append,
    flag_toList, List.append_assoc, List.cons_append, List.nil_append]
  simp only [String.reduceToList, List.cons_append, List.nil_append]

theorem encodes (entry : RobEntry) : Json.Encodes (.value entry.json) entry.to_string.toList := by
  rw [to_string_toList]
  apply Json.Field.encodes_object
  · simp [Json.Blank, Json.isBlank]
  · simp only [List.map_cons, List.map_nil, Json.Field.ofString_name, Json.Field.ofNumber_name]
    decide

end RobEntry

theorem encodes_lines {gap : List Char} (blank : Json.Blank gap) (entry : RobEntry) (entries : List RobEntry) :
    Json.Encodes (.items ((entry :: entries).map RobEntry.json))
      (gap ++ '\n' :: entry.to_string.toList ++ (lines ',' entries).toList ++ ['\n']) := by
  have newline : Json.Blank ['\n'] := by simp [Json.Blank, Json.isBlank]
  have first := Json.Encodes.before blank (.before newline entry.encodes)
  induction entries generalizing entry gap with
  | nil =>
      have last := Json.Encodes.lastItem (first.after newline)
      simpa [lines] using last
  | cons next entries ih =>
      have adjacent : Json.Blank [] := by simp [Json.Blank]
      have more := first.item (ih adjacent next (.before adjacent (.before newline next.encodes)))
      simpa [lines] using more

namespace RobState

def listed (rob : RobState) : List RobEntry := rob.reported.map fun slot => rob.entry slot.1 slot.2

def json (rob : RobState) : Json :=
  if rob.isEmpty then .object []
  else .object [("head", .number rob.head.val), ("tail", .number rob.tail.val),
    ("entries", .array (rob.listed.map RobEntry.json))]

theorem listed_ne_nil (rob : RobState) : rob.listed ≠ [] := by
  have front : (rob.head, 1) ∈ rob.reported := by
    rw [reported_eq]
    apply List.mem_append_left
    exact List.mem_flatMap.mpr ⟨rob.head, List.mem_cons_self, second_mem_shown rob rob.head⟩
  intro empty
  rw [listed, List.map_eq_nil_iff] at empty
  rw [empty] at front
  cases front

theorem encodes (rob : RobState) : Json.Encodes (.value rob.json) rob.to_string.toList := by
  have newline : Json.Blank ['\n'] := by simp [Json.Blank, Json.isBlank]
  unfold to_string json
  split
  · have adjacent : Json.Blank [] := by simp [Json.Blank]
    exact .emptyObject adjacent
  · obtain ⟨entry, entries, split⟩ := List.exists_cons_of_ne_nil rob.listed_ne_nil
    have blank : Json.Blank [' '] := by simp [Json.Blank, Json.isBlank]
    have array := (Json.Encodes.array (encodes_lines blank entry entries)).after newline
    have object := Json.Field.encodes_object newline (.ofNumber "head" rob.head.val (by decide))
      [.ofNumber "tail" rob.tail.val (by decide), ⟨"entries", _, _, by decide, array⟩] (by simp)
    rw [listed] at split
    rw [listed, split]
    convert object using 1
    · rfl
    · simp [lines, Json.Field.texts, Json.quoted]

end RobState

namespace CrashInfo

/-- The reason is the one a record starts with or one that it was given. -/
def Classified (crash : CrashInfo) : Prop :=
  crash.reason = "Unknown" ∨ ∃ earlier memory retired_pcs source, ∃ classified : CrashInfo,
    classify earlier memory retired_pcs source = .ok classified ∧ crash.reason = classified.reason

theorem plain_mispredictionReason {memory : SimMem} {retired_pcs : Finset UInt64} {taintInstr : RobEntry}
    {flushInfo : FlushInfo} {reason : String}
    (given : mispredictionReason memory retired_pcs taintInstr flushInfo = .ok reason) :
    Json.Plain reason := by
  simp only [mispredictionReason] at given
  split at given
  · split at given
    · cases given
      decide
    · split at given <;> cases given <;> decide
  · split at given
    · obtain ⟨ret, -, given⟩ := bind_ok_iff.mp given
      split at given <;> cases given <;> decide
    · cases given
      decide

theorem plain_flushReason {memory : SimMem} {retired_pcs : Finset UInt64} {taintInstr : RobEntry}
    {flushInfo : FlushInfo} {reason : String}
    (given : flushReason memory retired_pcs taintInstr flushInfo = .ok reason) : Json.Plain reason := by
  simp only [flushReason] at given
  split at given
  · exact plain_mispredictionReason given
  · cases given
    decide
  · cases given
    apply Json.plain_append
    · split <;> decide
    · exact plain_lookup (by decide +kernel) (by decide) _
  · cases given
    apply Json.plain_append (by decide)
    split <;> decide
  · cases given
    decide
  · cases given
    decide

theorem Classified.plain {crash : CrashInfo} (classified : crash.Classified) : Json.Plain crash.reason := by
  rcases classified with unknown | ⟨earlier, memory, retired_pcs, source, classified, given, same⟩
  · rw [unknown]
    decide
  · obtain ⟨reason, chosen, returned⟩ := bind_ok_iff.mp given
    have reported : crash.reason = reason := by
      cases returned
      exact same
    rw [reported]
    split at chosen
    · cases chosen
      decide
    · split at chosen
      · cases chosen
        decide
      · split at chosen
        · cases chosen
          apply Json.plain_append (by decide)
          cases source <;> decide
        · exact plain_flushReason chosen

def flushFields (crash : CrashInfo) : List Json.Field :=
  if crash.flushFound then
    [.ofNumber "flushCycle" crash.flushCycle.toNat (by decide),
     ⟨"flushInstr", _, _, by decide, crash.flushInfo.inst.encodes⟩,
     .ofString "flushType" crash.flushInfo.type.print (by decide) (FlushType.plain_print _),
     .ofString "flushCause" crash.flushInfo.cause.print (by decide) (FlushCause.plain_print _),
     .ofString "badAddr" (hexText crash.flushInfo.badAddr.toNat) (by decide) (plain_hexText _),
     .ofString "branchTag" (hexText crash.flushInfo.mispredMask.toNat) (by decide) (plain_hexText _),
     .ofNumber "branchTaken" crash.flushInfo.taken.toNat (by decide),
     ⟨"robDuringFlush", _, _, by decide, crash.flushInfo.robState.encodes⟩]
  else
    [⟨"flushType", .string "None", Json.quoted "None" ++ ['\n'], by decide,
      .after (.string (by decide)) (by simp [Json.Blank, Json.isBlank])⟩]

/-- The members of the report. -/
def fields (crash : CrashInfo) (programName : String) (plain : Json.Plain programName)
    (classified : crash.Classified) : List Json.Field :=
  [.ofString "program" programName (by decide) plain,
   .ofString "classification" crash.reason (by decide) classified.plain,
   .ofNumber "taintCycle" crash.taintCycle.toNat (by decide),
   ⟨"taintInstr", _, _, by decide, crash.taintInstr.encodes⟩,
   ⟨"robDuringTaint", _, _, by decide, crash.taintRob.encodes⟩] ++ crash.flushFields

theorem flushReport_toList (crash : CrashInfo) :
    '\n' :: crash.flushReport.toList = Json.Field.texts ['\n'] crash.flushFields := by
  unfold flushReport flushFields
  split
  · simp only [Json.Field.texts, Json.Field.ofString_name, Json.Field.ofString_text,
      Json.Field.ofNumber_name, Json.Field.ofNumber_text, Json.quoted, hexText, String.toList_append,
      RobEntry.flag_toList, Nat.toString_eq_repr, Nat.toList_repr, List.append_assoc, List.cons_append,
      List.nil_append]
    simp only [String.reduceToList, List.cons_append, List.nil_append]
  · simp [Json.Field.texts, Json.quoted]

theorem flushFields_ne_nil (crash : CrashInfo) : crash.flushFields ≠ [] := by
  unfold flushFields
  split <;> exact List.cons_ne_nil _ _

section

variable (crash : CrashInfo) {programName : String} (plain : Json.Plain programName)
  (classified : crash.Classified)

theorem report_toList : (crash.report programName).toList =
    '\x7b' :: Json.Field.texts ['\n'] (crash.fields programName plain classified) ++ ['\x7d'] ++ ['\n'] := by
  obtain ⟨first, more, split⟩ := List.exists_cons_of_ne_nil crash.flushFields_ne_nil
  have flush := crash.flushReport_toList
  unfold report fields
  rw [split] at flush ⊢
  rw [Json.Field.texts_append (List.cons_ne_nil _ _), ← flush]
  simp only [Json.Field.texts, Json.Field.ofString_name, Json.Field.ofString_text,
    Json.Field.ofNumber_name, Json.Field.ofNumber_text, Json.quoted, String.toList_append,
    Nat.toString_eq_repr, Nat.toList_repr, List.append_assoc, List.cons_append, List.nil_append]
  simp only [String.reduceToList, List.cons_append, List.nil_append]

theorem fields_once : ((crash.fields programName plain classified).map Json.Field.name).Nodup := by
  unfold fields flushFields
  split
  · simp
  · simp

theorem report_encodes : Json.Encodes
    (.value (.object ((crash.fields programName plain classified).map Json.Field.member)))
    (crash.report programName).toList := by
  have newline : Json.Blank ['\n'] := by simp [Json.Blank, Json.isBlank]
  rw [report_toList crash plain classified]
  exact (Json.Field.encodes_object newline _ _ (fields_once crash plain classified)).after newline

end

end CrashInfo

/-! ## What the report carries -/

def hexMember (members : List (String × Json)) (name : String) : Option Nat :=
  match members.lookup name with
  | some (.string text) => ofHexText text
  | _ => none

structure RobEntry.CarriedBy (entry : RobEntry) (members : List (String × Json)) : Prop where
  pc : hexMember members "pc" = some entry.pc.toNat
  branchMask : hexMember members "branchMask" = some entry.brMask.toNat
  destReg : hexMember members "destReg" = some entry.dst.toNat

theorem RobEntry.carriedBy_fields (entry : RobEntry) :
    entry.CarriedBy (entry.fields.map Json.Field.member) :=
  ⟨ofHexText_hexText _, ofHexText_hexText _, ofHexText_hexText _⟩

namespace CrashInfo

structure FlushCarriedBy (crash : CrashInfo) (members : List (String × Json)) : Prop where
  flushCycle : members.lookup "flushCycle" = some (.number crash.flushCycle.toNat)
  flushType : members.lookup "flushType" = some (.string crash.flushInfo.type.print)
  flushCause : members.lookup "flushCause" = some (.string crash.flushInfo.cause.print)
  flushInstr : ∃ instr, members.lookup "flushInstr" = some (.object instr) ∧
    crash.flushInfo.inst.CarriedBy instr

structure CarriedBy (crash : CrashInfo) (members : List (String × Json)) : Prop where
  classification : members.lookup "classification" = some (.string crash.reason)
  taintCycle : members.lookup "taintCycle" = some (.number crash.taintCycle.toNat)
  taintInstr : ∃ instr, members.lookup "taintInstr" = some (.object instr) ∧ crash.taintInstr.CarriedBy instr
  flush : crash.flushFound = true → crash.FlushCarriedBy members
  noFlush : crash.flushFound = false → members.lookup "flushType" = some (.string "None")

theorem carriedBy_fields (crash : CrashInfo) {programName : String} (plain : Json.Plain programName)
    (classified : crash.Classified) :
    crash.CarriedBy ((crash.fields programName plain classified).map Json.Field.member) := by
  refine ⟨rfl, rfl, ⟨_, rfl, crash.taintInstr.carriedBy_fields⟩, fun found => ?_, fun quiet => ?_⟩
  · unfold fields flushFields
    rw [if_pos found]
    exact ⟨rfl, rfl, rfl, _, rfl, crash.flushInfo.inst.carriedBy_fields⟩
  · unfold fields flushFields
    rw [if_neg (by simp [quiet])]
    rfl

/-- The report of a record with a taint is one JSON object, its names distinct
in all of it, and carries the record. -/
theorem createReport_parses (crash : CrashInfo) (programName : String) (taint : crash.taintFound = true)
    (plain : Json.Plain programName) (classified : crash.Classified) :
    ∃ text members, crash.createReport programName true = some (programName ++ ".crash.json", text) ∧
      Json.Encodes (.value (.object members)) text.toList ∧ (members.map Prod.fst).Nodup ∧
      Json.parse text = some (.object members) ∧ crash.CarriedBy members := by
  have encodes := crash.report_encodes plain classified
  refine ⟨crash.report programName, _, ?_, encodes, ?_, Json.parse_of_encodes encodes,
    crash.carriedBy_fields plain classified⟩
  · simp [createReport, taint]
  · simpa [Json.Field.member, Function.comp_def] using crash.fields_once plain classified

/-- A page fault on a store, with a taint in the cycle before. -/
def storeFault : CrashInfo :=
  { taintFound := true, taintCycle := 41, flushFound := true, flushCycle := 42,
    flushInfo := { type := .exception, cause := FlushCause.STORE_PAGE_FAULT } }

theorem createReport_parses_storeFault : ∃ text members,
    storeFault.createReport "seed" true = some ("seed.crash.json", text) ∧
      Json.parse text = some (.object members) ∧
      members.lookup "flushCycle" = some (.number 42) ∧
      members.lookup "flushCause" = some (.string "STORE_PAGE_FAULT") := by
  obtain ⟨text, members, written, -, -, parsed, carried⟩ :=
    createReport_parses storeFault "seed" rfl (by decide) (.inl rfl)
  exact ⟨text, members, written, parsed, (carried.flush rfl).flushCycle, (carried.flush rfl).flushCause⟩

end CrashInfo

end PhantomTrails
