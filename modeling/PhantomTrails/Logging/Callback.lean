import PhantomTrails.Detection.CrashReport
import PhantomTrails.Logging.Predictors
import PhantomTrails.Logging.Snapshots

namespace PhantomTrails

/-! # The log of a run

`loggingCallback` of `main.cc`, which is called behind every cycle, and a reader
of what it has printed over a run.
-/

open Foundation

/-- The tables of the core, and the copies of them in `Simulator`. -/
structure Predictors where
  bim : Bim
  loop : LoopPredictor

/-- The switches of `args_t` the callback reads. -/
structure LogArgs where
  printCycles : Bool
  printROB : Bool
  printLSQ : Bool
  printRegFile : Bool
  printBIM : Bool
  printLoop : Bool
  printMSHR : Bool

/-- What the callback reads of the simulator and the core. -/
structure LogTop (n m : Nat) where
  ticks : UInt64
  rob : RobState
  lsq : LSQState n m
  regfile : Nat → UInt8
  predictors : Predictors
  sdqValid : UInt32

section Callback

variable {n m : Nat}

/-- The text that is printed, and the copies of the tables it leaves behind;
`size` is `IREGFILE_SIZE`. -/
def loggingCallback (args : LogArgs) (size : Nat) (sim : Predictors) (top : LogTop n m) :
    Option (String × Predictors) :=
  let bim := if args.printBIM then sim.bim.printDiff top.predictors.bim else ("", sim.bim)
  let loop := if args.printLoop then sim.loop.printLoopDiff top.predictors.loop else ("", sim.loop)
  let lsq := if args.printLSQ then
    top.lsq.to_string.map fun text => "\"LSQ\": \x7b\n" ++ text ++ "\n\x7d\n" else some ""
  lsq.map fun lsq =>
    ((if args.printCycles then "================ CYCLE " ++ toString top.ticks.toNat ++ "==============\n\n" else "") ++
      (if args.printROB then "\"robState\": " ++ top.rob.to_string ++ ",\n" else "") ++
      lsq ++
      (if args.printRegFile then "\"REGFILE\": \x7b\n" ++ printRegFile size top.regfile ++ "\n\x7d\n" else "") ++
      (if bim.1 ≠ "" then "\"BIM DIFF\": \x7b\n" ++ bim.1 ++ "\n\x7d\n" else "") ++
      (if loop.1 ≠ "" then "\"LOOP DIFF\": \x7b\n" ++ loop.1 ++ "\n\x7d\n" else "") ++
      (if args.printMSHR then
        "\"MSHRs\": \x7b\n" ++ (MSHRs.readFrom top.sdqValid).to_string ++ "\n\x7d\n" else ""),
      { bim := bim.2, loop := loop.2 })

/-- The log of one cycle after the other. -/
def logCycles (args : LogArgs) (size : Nat) : Predictors → List (LogTop n m) → Option String
  | _, [] => some ""
  | sim, top :: tops => do
      let (text, sim) ← loggingCallback args size sim top
      let more ← logCycles args size sim tops
      pure (text ++ more)

end Callback

/-! ## Its parts as formats -/

inductive Part where
  | bim | loop
deriving DecidableEq

def Part.Value : Part → Type
  | .bim => Fin 2048 × Fin 4 → Nat
  | .loop => Fin 4 → (key : ColumnKey) → key.Value

def Predictors.values (predictors : Predictors) : (part : Part) → part.Value
  | .bim => predictors.bim.values
  | .loop => predictors.loop.values

def Predictors.ofValues (values : (part : Part) → part.Value) : Predictors where
  bim := .ofValues (values .bim)
  loop := .ofValues (values .loop)

theorem Predictors.ofValues_values (predictors : Predictors) : ofValues predictors.values = predictors := by
  simp [ofValues, values, Bim.ofValues_values, LoopPredictor.ofValues_values]

def partEntry : (part : Part) → Entry part.Value
  | .bim => Entry.ofTable "\"BIM DIFF\": \x7b\n".toList ['\n', '\x7d', '\n'] Bim.lineEntry Bim.places
  | .loop => Entry.ofTable "\"LOOP DIFF\": \x7b\n".toList ['\n', '\x7d', '\n'] LoopPredictor.colEntry (List.finRange 4)

namespace LogArgs

variable {n m : Nat} {args : LogArgs} {size : Nat}

def parts (args : LogArgs) : List Part :=
  (if args.printBIM then [.bim] else []) ++ (if args.printLoop then [.loop] else [])

/-- The copies of the tables behind a call. -/
def held (args : LogArgs) (sim top : Predictors) : Predictors where
  bim := if args.printBIM then top.bim else sim.bim
  loop := if args.printLoop then top.loop else sim.loop

end LogArgs

/-- The value of the reorder buffer, as it would be read from the report. -/
def robFormat : Format RobState Json where
  put := fun rob => rob.to_string.toList
  get := fun text => Json.readValue (text.length + 1) text
  learn := RobState.json
  follows := fun more => NoDigit 10 more ∧ Json.skip more = more
  reads := by
    intro rob more allowed
    have read := rob.encodes.reads ((rob.to_string.toList ++ more).length + 1) more
      (by rw [List.length_append]; omega) allowed.1
    rw [read, allowed.2]

/-- A section with a name. -/
def sectionFormat {η ρ : Type} (name : String) (format : Format η ρ)
    (allowed : ∀ more, format.follows ("\n\x7d\n".toList ++ more)) : Format η ρ :=
  (format.closed "\n\x7d\n".toList allowed).behind ("\"" ++ name ++ "\": \x7b\n").toList

section Formats

variable {n m : Nat}

theorem noDigit_equals (more : List Char) : NoDigit 10 ("==============\n\n".toList ++ more) := by
  have equals : digitIn 10 '=' = none := by decide
  simp [NoDigit, equals]

def ticksFormat : Format (LogTop n m) Nat :=
  (Format.decimal.of fun top : LogTop n m => top.ticks.toNat).closed
    "==============\n\n".toList noDigit_equals

theorem robFormat_comma (more : List Char) : robFormat.follows (",\n".toList ++ more) := by
  have comma : digitIn 10 ',' = none := by decide
  have visible : Json.isBlank ',' = false := by decide
  simp [robFormat, NoDigit, comma, Json.skip, visible]

def robSection : Format (LogTop n m) Json :=
  ((robFormat.of LogTop.rob).closed ",\n".toList robFormat_comma).behind "\"robState\": ".toList

def lsqSection : Format (LogTop n m) (List Nat × List (List Nat) × List (List Nat)) :=
  sectionFormat "LSQ" (LSQState.format.of LogTop.lsq) fun _ => trivial

def regFileSection (size : Nat) : Format (LogTop n m) (List (List (List UInt8))) :=
  sectionFormat "REGFILE" ((RegFile.format size).of LogTop.regfile) fun _ => trivial

theorem mshrs_close (more : List Char) : MSHRs.format.follows ("\n\x7d\n".toList ++ more) := by
  simp [MSHRs.format, Format.of, Format.items]

def mshrSection : Format (LogTop n m) (List Nat) :=
  sectionFormat "MSHRs" (MSHRs.format.of fun top : LogTop n m => .readFrom top.sdqValid) mshrs_close

/-- What can be learnt of the parts in front of the changes. -/
abbrev Sections : Type :=
  Nat × Option Json × Option (List Nat × List (List Nat) × List (List Nat)) × Option (List (List (List UInt8)))

/-- The parts that were asked for. -/
def sections (args : LogArgs) (size : Nat) : Format (LogTop n m) Sections :=
  ticksFormat.pair ((Format.shown args.printROB robSection).pair ((Format.shown args.printLSQ lsqSection).pair
    (Format.shown args.printRegFile (regFileSection size)) fun _ _ _ => trivial) fun _ _ _ => trivial)
    fun _ _ _ => trivial

def logJournal (n m : Nat) (args : LogArgs) (size : Nat) :
    Journal (LogTop n m) Sections (Option (List Nat)) partEntry args.parts where
  front := "================ CYCLE ".toList
  before := sections args size
  after := Format.shown args.printMSHR mshrSection

/-- What stands behind the changes of a cycle. -/
def ChangesEnd (rest : List Char) : Prop :=
  rest = [] ∨ "\"MSHRs\"".toList <+: rest ∨ "================ CYCLE ".toList <+: rest

theorem parts_unambiguous (args : LogArgs) : Unambiguous partEntry args.parts (fun _ _ => True) ChangesEnd where
  once := by
    unfold LogArgs.parts
    cases args.printBIM <;> cases args.printLoop <;> simp
  apart := by
    intro part _ other _ differs
    unfold partEntry Entry.ofTable
    cases part <;> cases other <;> simp at differs ⊢
  closed := by
    intro part _ rest ends
    unfold partEntry Entry.ofTable
    rcases ends with rfl | ⟨behind, rfl⟩ | ⟨behind, rfl⟩ <;> cases part <;> simp
  lawful := by
    intro part _
    cases part with
    | bim => exact Entry.ofTable_lawful (by simp) Bim.lines_unambiguous Bim.mem_places
    | loop => exact Entry.ofTable_lawful (by simp) LoopPredictor.cols_unambiguous List.mem_finRange
  behind := fun _ _ _ _ _ _ _ => trivial

theorem logJournal_lawful (args : LogArgs) (size : Nat) :
    (logJournal n m args size).Lawful (fun _ _ => True) ChangesEnd where
  headed := by
    unfold logJournal
    simp
  format := parts_unambiguous args
  free := fun _ => trivial
  ends := by
    intro top more onward
    have continues : ChangesEnd more := onward.imp id Or.inr
    unfold logJournal Format.shown
    cases args.printMSHR with
    | false => exact continues
    | true => exact .inr (.inl ⟨_, rfl⟩)
  continues := fun _ _ => trivial

end Formats

/-! ## Reading the log -/

section Reading

variable {n m : Nat} {args : LogArgs} {size : Nat} {sim : Predictors} {top : LogTop n m} {tops : List (LogTop n m)}

theorem refresh_values : refresh args.parts sim.values top.predictors.values = (args.held sim top.predictors).values := by
  funext part
  unfold refresh LogArgs.parts LogArgs.held Predictors.values
  cases part <;> cases args.printBIM <;> cases args.printLoop <;> rfl

theorem ticksFormat_put (top : LogTop n m) :
    ticksFormat.put top = (toString top.ticks.toNat).toList ++ "==============\n\n".toList := by
  unfold ticksFormat Format.closed Format.of Format.decimal Format.number
  simp only [Nat.toString_eq_repr, Nat.toList_repr]

theorem robText_toList (asked : Bool) (top : LogTop n m) :
    (if asked then "\"robState\": " ++ top.rob.to_string ++ ",\n" else "").toList =
      (Format.shown asked robSection).put top := by
  unfold Format.shown robSection Format.behind Format.closed Format.of robFormat
  cases asked <;> simp [String.toList_append]

theorem lsqText_eq (asked : Bool) (top : LogTop n m) :
    (if asked then top.lsq.to_string.map fun text => "\"LSQ\": \x7b\n" ++ text ++ "\n\x7d\n" else some "") =
      some (String.ofList ((Format.shown asked lsqSection).put top)) := by
  unfold Format.shown lsqSection sectionFormat Format.behind Format.closed Format.of
  cases asked with
  | false => simp
  | true =>
      simp only [if_true, LSQState.to_string_eq, Option.map_some, Option.some.injEq]
      rw [← String.toList_inj]
      simp [String.toList_append]

theorem regFileText_toList (asked : Bool) (top : LogTop n m) :
    (if asked then "\"REGFILE\": \x7b\n" ++ printRegFile size top.regfile ++ "\n\x7d\n" else "").toList =
      (Format.shown asked (regFileSection size)).put top := by
  unfold Format.shown regFileSection sectionFormat Format.behind Format.closed Format.of
  cases asked <;> simp [String.toList_append, RegFile.printRegFile_toList]

theorem mshrText_toList (asked : Bool) (top : LogTop n m) :
    (if asked then "\"MSHRs\": \x7b\n" ++ (MSHRs.readFrom top.sdqValid).to_string ++ "\n\x7d\n" else "").toList =
      (Format.shown asked mshrSection).put top := by
  unfold Format.shown mshrSection sectionFormat Format.behind Format.closed Format.of
  cases asked <;> simp [String.toList_append, MSHRs.to_string_toList]

theorem bimText_toList (asked : Bool) (sim top : Predictors) :
    (if (if asked then sim.bim.printDiff top.bim else ("", sim.bim)).1 ≠ "" then
        "\"BIM DIFF\": \x7b\n" ++ (if asked then sim.bim.printDiff top.bim else ("", sim.bim)).1 ++ "\n\x7d\n" else "").toList =
      putChanges partEntry sim.values top.values (if asked then [.bim] else []) := by
  cases asked with
  | false => rfl
  | true =>
      have ending : "\n\x7d\n".toList = ['\n', '\x7d', '\n'] := by simp
      have framed := @framed_toList _ _ _ _ _ _ _ "\"BIM DIFF\": \x7b\n" _ "\n\x7d\n"
        (@Bim.printDiff_toList sim.bim top.bim)
      rw [ending] at framed
      exact framed.trans (List.append_nil _).symm

theorem loopText_toList (asked : Bool) (sim top : Predictors) :
    (if (if asked then sim.loop.printLoopDiff top.loop else ("", sim.loop)).1 ≠ "" then
        "\"LOOP DIFF\": \x7b\n" ++ (if asked then sim.loop.printLoopDiff top.loop else ("", sim.loop)).1 ++ "\n\x7d\n"
        else "").toList =
      putChanges partEntry sim.values top.values (if asked then [.loop] else []) := by
  cases asked with
  | false => rfl
  | true =>
      have ending : "\n\x7d\n".toList = ['\n', '\x7d', '\n'] := by simp
      have framed := @framed_toList _ _ _ _ _ _ _ "\"LOOP DIFF\": \x7b\n" _ "\n\x7d\n"
        (@LoopPredictor.diff_toList top.loop sim.loop)
      rw [ending] at framed
      exact framed.trans (List.append_nil _).symm

/-- The text of a call, put together from its parts. -/
theorem loggingCallback_eq (cyclesShown : args.printCycles = true) :
    loggingCallback args size sim top = some
      (String.ofList ((logJournal n m args size).front ++ ((logJournal n m args size).before.put top ++
        (putChanges partEntry sim.values top.predictors.values args.parts ++ (logJournal n m args size).after.put top))),
        args.held sim top.predictors) := by
  have changes : putChanges partEntry sim.values top.predictors.values args.parts =
      putChanges partEntry sim.values top.predictors.values (if args.printBIM then [.bim] else []) ++
        putChanges partEntry sim.values top.predictors.values (if args.printLoop then [.loop] else []) :=
    List.flatMap_append
  unfold loggingCallback
  simp only [lsqText_eq, cyclesShown, if_true, Option.map_some, Option.some.injEq, Prod.mk.injEq]
  refine ⟨?_, ?_⟩
  · rw [← String.toList_inj, String.toList_ofList, changes]
    unfold logJournal sections Format.pair
    simp only [String.toList_append, robText_toList, regFileText_toList, bimText_toList, loopText_toList,
      mshrText_toList, String.toList_ofList, ticksFormat_put, List.append_assoc]
  · unfold LogArgs.held Bim.printDiff LoopPredictor.printLoopDiff
    cases args.printBIM <;> cases args.printLoop <;> rfl

/-- The log of a run is a journal of the tables. -/
theorem logCycles_eq (cyclesShown : args.printCycles = true) :
    logCycles args size sim tops = some (String.ofList ((logJournal n m args size).put sim.values
      (tops.map fun top => (top, top.predictors.values)))) := by
  induction tops generalizing sim with
  | nil => rfl
  | cons top tops ih =>
      rw [logCycles, loggingCallback_eq cyclesShown, Option.bind_eq_bind, Option.bind_some]
      simp only [ih, Option.bind_eq_bind, Option.bind_some, Option.pure_def, List.map_cons, Journal.put,
        refresh_values, ← String.ofList_append, List.append_assoc]

/-- What a reader of the log knows of one cycle. -/
structure LogStep where
  ticks : Nat
  rob : Option Json
  lsq : Option (List Nat × List (List Nat) × List (List Nat))
  regfile : Option (List (List (List UInt8)))
  mshrs : Option (List Nat)
  predictors : Predictors

def LogStep.of (read : (Sections × Option (List Nat)) × ((part : Part) → part.Value)) : LogStep where
  ticks := read.1.1.1
  rob := read.1.1.2.1
  lsq := read.1.1.2.2.1
  regfile := read.1.1.2.2.2
  mshrs := read.1.2
  predictors := .ofValues read.2

/-- The log read from its start, by someone who knows the first tables. -/
def readLog (n m : Nat) (args : LogArgs) (size : Nat) (start : Predictors) (fuel : Nat) (text : List Char) :
    Option (List LogStep) :=
  ((logJournal n m args size).get fuel start.values text).map (List.map LogStep.of)

/-- What there is to know of the cycles of a run. -/
def logSteps (args : LogArgs) (size : Nat) : Predictors → List (LogTop n m) → List LogStep
  | _, [] => []
  | sim, top :: tops =>
      { ticks := top.ticks.toNat
        rob := if args.printROB then some top.rob.json else none
        lsq := if args.printLSQ then some top.lsq.shown else none
        regfile := if args.printRegFile then some ((List.range 10).map fun i => (List.range 8).map fun j =>
          (registerBytes size (i * 8 + j)).map top.regfile) else none
        mshrs := if args.printMSHR then
          some (((List.finRange 17).filter (MSHRs.readFrom top.sdqValid).valid).map Fin.val) else none
        predictors := args.held sim top.predictors } :: logSteps args size (args.held sim top.predictors) tops

theorem logSteps_eq :
    ((logJournal n m args size).learn sim.values (tops.map fun top => (top, top.predictors.values))).map LogStep.of =
      logSteps args size sim tops := by
  induction tops generalizing sim with
  | nil => rfl
  | cons top tops ih =>
      rw [List.map_cons, Journal.learn, List.map_cons, refresh_values, ih, logSteps]
      congr 1
      unfold LogStep.of
      simp only [Predictors.ofValues_values, LogStep.mk.injEq, and_true]
      exact ⟨rfl, rfl, by rw [← LSQState.format_learn]; rfl, rfl, rfl⟩

/-- With the cycle numbers in it, the log of a run tells everything that was
asked for: whatever the core does and however the tables start, a reader who
knows the first tables gets back the number of each cycle, the reorder buffer,
the valid entries of the queues in their order, the printed registers, and the
whole tables of both predictors as they were then. -/
theorem readLog_logCycles (args : LogArgs) (size : Nat) (start : Predictors) (tops : List (LogTop n m))
    (cyclesShown : args.printCycles = true) :
    ∃ text, logCycles args size start tops = some text ∧
      readLog n m args size start tops.length text.toList = some (logSteps args size start tops) := by
  refine ⟨_, logCycles_eq cyclesShown, ?_⟩
  have read := @Journal.get_put _ _ _ _ _ _ _ _ (logJournal n m args size)
    (tops.map fun top => (top, top.predictors.values)) start.values tops.length _ _ (logJournal_lawful args size) (by simp)
  rw [String.toList_ofList, readLog, read, Option.map_some, logSteps_eq]

end Reading

/-- Both tables are zero but for one counter of the bi-modal table. -/
def countedTables (count : UInt8) : Predictors where
  bim := ⟨fun bank i => if bank = 1 ∧ i = 5 then count else 0⟩
  loop := ⟨fun _ => ⟨0, 0, 0, 0, 0, 0, fun _ => ⟨0, 0, 0, 0, 0⟩⟩⟩

/-- A load and the store behind it, the load in the last slot of the ring. -/
def loadAndStore (ticks : UInt64) (count : UInt8) : LogTop 16 16 where
  ticks := ticks
  rob := {}
  lsq := { ldq := fun i => if i = 15 then { idx := 15, valid := 1, addr := 0x80001000 } else {}
           stq := fun i => if i = 3 then { idx := 3, valid := 1, data := 7, addr := 0x80001000 } else {}
           ldq_head := 15, ldq_tail := 0, stq_head := 3, stq_tail := 4 }
  regfile := fun _ => 0
  predictors := countedTables count
  sdqValid := 1

theorem readLog_logCycles_oneCounter :
    (∃ text, logCycles ⟨true, true, true, true, true, true, true⟩ 640 (countedTables 0)
        [loadAndStore 100 0, loadAndStore 101 2] = some text ∧
      readLog 16 16 ⟨true, true, true, true, true, true, true⟩ 640 (countedTables 0) 2 text.toList =
        some (logSteps ⟨true, true, true, true, true, true, true⟩ 640 (countedTables 0)
          [loadAndStore 100 0, loadAndStore 101 2])) ∧
      (logSteps ⟨true, true, true, true, true, true, true⟩ 640 (countedTables 0)
        [loadAndStore 100 0, loadAndStore 101 2]).map (fun step => step.predictors.bim.bimBank 1 5) = [0, 2] :=
  ⟨readLog_logCycles _ 640 _ [loadAndStore 100 0, loadAndStore 101 2] rfl, rfl⟩

end PhantomTrails
