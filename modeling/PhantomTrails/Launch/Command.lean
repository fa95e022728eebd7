import PhantomTrails.Launch.Model

namespace PhantomTrails

open Foundation

/-! # The words of a command

A command of the script is a line of words that mean themselves: the variables
it sets, the fuzzer if there is one, the simulation and its arguments.
-/

section Numbers

variable {number : Int}

theorem toString_int (number : Int) : (toString number).toList =
    (if number < 0 then ['-'] else []) ++ Nat.toDigits 10 number.natAbs := by
  cases number with
  | ofNat value => simp [toString, Int.repr]
  | negSucc value => simp [toString, Int.repr]

/-- A sign is told apart from the digits behind it. -/
theorem skipSign_toString (number : Int) :
    skipSign (toString number).toList = Nat.toDigits 10 number.natAbs ∧
      ((toString number).toList.head? = some '-' ↔ number < 0) ∧
      (toString number).toList.dropWhile isspace = (toString number).toList := by
  obtain ⟨digit, more, below, front, -⟩ := toDigits_eq_cons (by decide : 1 < 10) number.natAbs
  have plain : digit.digitChar ≠ '-' ∧ digit.digitChar ≠ '+' ∧ isspace digit.digitChar = false := by
    revert below
    clear front
    revert digit
    decide
  have sign : isspace '-' = false := by decide
  rw [toString_int, front]
  by_cases negative : number < 0
  · simp [negative, skipSign, sign]
  · simp [negative, skipSign, plain]

theorem readDigits_whole (value : Nat) : (readDigits 10 0 (Nat.toDigits 10 value)).1 = value := by
  have whole := readDigits_toDigits (by decide : 1 < 10) (by decide) value []
  rw [List.append_nil] at whole
  rw [whole, readDigits]

theorem atoi_toString (low : -2 ^ 31 ≤ number) (high : number < 2 ^ 31) :
    atoi (toString number).toList = .ok number := by
  obtain ⟨digits, sign, front⟩ := skipSign_toString number
  have value :
      (if (toString number).toList.head? = some '-' then -(number.natAbs : Int) else number.natAbs) = number := by
    by_cases negative : number < 0
    · rw [if_pos (sign.mpr negative)]
      omega
    · rw [if_neg fun minus => negative (sign.mp minus)]
      omega
  rw [atoi, front, digits, readDigits_whole]
  simp only [value]
  exact if_pos ⟨low, high⟩

theorem stoulDecimal_toString (low : -2 ^ 64 < number) (high : number < 2 ^ 64) :
    stoulDecimal (toString number).toList = .ok (.ofInt number) := by
  obtain ⟨digits, sign, front⟩ := skipSign_toString number
  obtain ⟨digit, more, below, first, -⟩ := toDigits_eq_cons (by decide : 1 < 10) number.natAbs
  have starts : ((Nat.toDigits 10 number.natAbs).head?.any fun c => (digitIn 10 c).isSome) = true := by
    rw [first]
    simp [digitIn_digitChar (by omega : 10 ≤ 16) below]
  have fits : number.natAbs < UInt64.size := by
    have size : UInt64.size = 2 ^ 64 := rfl
    omega
  have size : ((number.natAbs : Int) % 2 ^ 64).toNat = number.natAbs := by omega
  have word : UInt64.ofInt number.natAbs = UInt64.ofNat number.natAbs := by rw [UInt64.ofInt, size]
  rw [stoulDecimal, front, digits, readDigits_whole]
  simp only [starts, fits, if_true]
  by_cases negative : number < 0
  · have value : number = -(number.natAbs : Int) := by omega
    rw [if_pos (sign.mpr negative)]
    nth_rewrite 2 [value]
    rw [UInt64.ofInt_neg, word]
  · have value : number = (number.natAbs : Int) := by omega
    rw [if_neg fun minus => negative (sign.mp minus)]
    nth_rewrite 2 [value]
    rw [word]

theorem mem_toString_int {c : Char} (member : c ∈ (toString number).toList) :
    c = '-' ∨ ∃ digit < 10, c = digit.digitChar := by
  rw [toString_int] at member
  rcases List.mem_append.mp member with sign | digit
  · left
    split at sign
    · exact List.mem_singleton.mp sign
    · exact absurd sign (List.not_mem_nil)
  · exact .inr (mem_toDigits (by omega) digit)

theorem plain_int (number : Int) : ∀ c ∈ (toString number).toList, Shell.isPlain c = true := by
  intro c member
  rcases mem_toString_int member with rfl | ⟨digit, below, rfl⟩
  · decide
  · clear member
    revert digit
    decide

end Numbers

/-! ## The words of a command -/

def PlainText (text : String) : Prop := ∀ c ∈ text.toList, Shell.isPlain c = true

/-- A word that stays one word and means itself. -/
def PlainWord (text : String) : Prop := text ≠ "" ∧ PlainText text

section Words

variable {text : String} {cmd : Cmd} {bindings : List (String × String)} {name : String} {val : Option String}

theorem PlainText.no_blank (plain : PlainText text) : ' ' ∉ text.toList := by
  intro member
  have blank := plain ' ' member
  revert blank
  decide

theorem PlainText.all (plain : PlainText text) : text.toList.all Shell.isPlain = true :=
  List.all_eq_true.mpr plain

theorem PlainWord.words (plain : PlainWord text) : Shell.words text.toList = [text.toList] :=
  Shell.words_of_not_mem plain.2.no_blank (by simpa using plain.1)

theorem PlainText.words (plain : PlainText text) :
    Shell.words text.toList = if text = "" then [] else [text.toList] := by
  by_cases empty : text = ""
  · rw [if_pos empty, empty]
    rfl
  · rw [if_neg empty]
    exact PlainWord.words ⟨empty, plain⟩

theorem words_spaced (front back : String) :
    Shell.words (front ++ " " ++ back).toList = Shell.words front.toList ++ Shell.words back.toList := by
  have blank : " ".toList = [' '] := by simp
  rw [String.toList_append, String.toList_append, blank, List.append_assoc, List.singleton_append,
    Shell.words_append_blank]

/-- The assignments a command starts with. -/
structure Cmd.Sets (cmd : Cmd) (bindings : List (String × String)) : Prop where
  words : Shell.words cmd.env.toList = bindings.map fun binding => binding.1.toList ++ '=' :: binding.2.toList
  names : ∀ binding ∈ bindings, Shell.IsName binding.1.toList
  plain : ∀ binding ∈ bindings, PlainText binding.1 ∧ PlainText binding.2

theorem assignment_words {binding : String × String} (first : PlainText binding.1) (second : PlainText binding.2) :
    Shell.words (binding.1 ++ "=" ++ binding.2).toList = [binding.1.toList ++ '=' :: binding.2.toList] := by
  have equals : "=".toList = ['='] := by simp
  have whole : ' ' ∉ binding.1.toList ++ '=' :: binding.2.toList := by
    simp [first.no_blank, second.no_blank]
  rw [String.toList_append, String.toList_append, equals, List.append_assoc, List.singleton_append,
    Shell.words_of_not_mem whole (by simp)]

theorem Cmd.Sets.add_env_var (sets : cmd.Sets bindings) (isName : Shell.IsName name.toList) (first : PlainText name)
    (second : PlainText (val.getD "1")) : (cmd.add_env_var name val).Sets (bindings ++ [(name, val.getD "1")]) where
  words := by
    have text : (cmd.add_env_var name val).env = cmd.env ++ " " ++ (name ++ "=" ++ val.getD "1") := by
      simp only [Cmd.add_env_var, String.append_assoc]
    rw [text, words_spaced, sets.words, @assignment_words (name, val.getD "1") first second, List.map_append]
    rfl
  names := by
    intro binding member
    rcases List.mem_append.mp member with earlier | last
    · exact sets.names binding earlier
    · rw [List.mem_singleton.mp last]
      exact isName
  plain := by
    intro binding member
    rcases List.mem_append.mp member with earlier | last
    · exact sets.plain binding earlier
    · rw [List.mem_singleton.mp last]
      exact ⟨first, second⟩

/-- The words behind the assignments and the words of the fuzzer. -/
def Cmd.target (cmd : Cmd) : List (List Char) :=
  [cmd.sim.toList, cmd.bin.toList, cmd.rom.toList, (toString cmd.cycles).toList] ++
    if cmd.init = "" then [] else [cmd.init.toList]

/-- The parts of a command are words that mean themselves. -/
structure Cmd.Plain (cmd : Cmd) (fuzz redirect : List (List Char)) : Prop where
  fuzzWords : Shell.words cmd.fuzz_cmd.toList = fuzz
  fuzzPlain : ∀ word ∈ fuzz, word.all Shell.isPlain = true
  sim : PlainWord cmd.sim
  bin : PlainWord cmd.bin
  rom : PlainWord cmd.rom
  init : PlainText cmd.init
  redirected : Shell.words cmd.additional.toList = redirect

theorem plainWord_int (number : Int) : PlainWord (toString number) := by
  refine ⟨?_, plain_int number⟩
  intro empty
  obtain ⟨digit, more, -, front, -⟩ := toDigits_eq_cons (by decide : 1 < 10) number.natAbs
  have text := toString_int number
  rw [empty, front] at text
  simp at text

theorem Cmd.Plain.words {fuzz redirect : List (List Char)} (plain : cmd.Plain fuzz redirect)
    (sets : cmd.Sets bindings) :
    Shell.words cmd.str.toList = (bindings.map fun binding => binding.1.toList ++ '=' :: binding.2.toList) ++
      (fuzz ++ cmd.target) ++ redirect := by
  simp only [Cmd.str, words_spaced, sets.words, plain.fuzzWords, plain.sim.words, plain.bin.words, plain.rom.words,
    (plainWord_int cmd.cycles).words, plain.init.words, plain.redirected, Cmd.target, List.append_assoc,
    List.cons_append, List.nil_append]

theorem Cmd.Plain.target {fuzz redirect : List (List Char)} (plain : cmd.Plain fuzz redirect) :
    ∀ word ∈ cmd.target, word.all Shell.isPlain = true := by
  have front : ∀ word ∈ [cmd.sim.toList, cmd.bin.toList, cmd.rom.toList, (toString cmd.cycles).toList],
      word.all Shell.isPlain = true := by
    simp only [List.forall_mem_cons]
    exact ⟨plain.sim.2.all, plain.bin.2.all, plain.rom.2.all, PlainText.all (plain_int _), by simp⟩
  intro word member
  rcases List.mem_append.mp member with first | last
  · exact front word first
  · split at last
    · simp at last
    · rw [List.mem_singleton.mp last]
      exact plain.init.all

/-- The shell takes the command apart into what it was made of. -/
theorem Cmd.Plain.command {fuzz redirect : List (List Char)} {stdout : Option (List Char)} {merged : Bool}
    (plain : cmd.Plain fuzz redirect) (sets : cmd.Sets bindings)
    (ends : Shell.redirections redirect = some ([], stdout, merged))
    (simple : ∀ name ∈ (fuzz ++ cmd.target).head?, Shell.assignment? name = none ∧ name ∉ Shell.reserved) :
    Shell.command cmd.str.toList = some
      { assigned := bindings.map fun binding => (binding.1.toList, binding.2.toList)
        argv := fuzz ++ cmd.target, stdout, merged } := by
  apply Shell.command_of_words _ _ _ _ ends simple
  · rw [plain.words sets, List.map_map]
    rfl
  · intro binding member
    obtain ⟨last, listed, rfl⟩ := List.mem_map.mp member
    exact sets.names last listed
  · intro binding member
    obtain ⟨last, listed, rfl⟩ := List.mem_map.mp member
    obtain ⟨first, second⟩ := sets.plain last listed
    have equals : Shell.isPlain '=' = true := by decide
    rw [List.all_append, List.all_cons, first.all, second.all, equals]
    rfl
  · intro word member
    rcases List.mem_append.mp member with first | second
    · exact plain.fuzzPlain word first
    · exact plain.target word second

end Words

/-! ## The variables that are set -/

instance (name : List Char) : Decidable (Shell.IsName name) :=
  decidable_of_iff (name.all Shell.isNameChar = true ∧ name.head?.any (fun c => !c.isDigit) = true)
    (and_congr_left' List.all_eq_true)

instance (text : String) : Decidable (PlainText text) :=
  decidable_of_iff (text.toList.all Shell.isPlain = true) List.all_eq_true

/-- The variables the script sets. -/
def setByScript : List String :=
  ["MDS", "MDS_INIT", "MDS_TAINT_CYCLE", "PHANTOM_TRAILS_NO_ILLEGAL_JUMPS", "PHANTOM_TRAILS_NO_SNIPPET",
   "PHANTOM_TRAILS_NO_ARG_REUSE", "CODE_REGIONS", "VERBOSE_SIM", "VERBOSE_ISA", "PRINT_CYCLES", "PRINT_COVERAGE",
   "PRINT_ROB", "CRASH_REPORT", "MEMDUMP"]

theorem setByScript_names : ∀ name ∈ setByScript, Shell.IsName name.toList ∧ PlainText name := by decide

/-- The options that turn an optimisation off. -/
def Opt.noDataflow (opt : Opt) : Bool := opt = .none || opt = .basic || opt = .controlflow

def Opt.noControlflow (opt : Opt) : Bool := opt = .none || opt = .basic || opt = .dataflow

def RuntimeArgs.bindings (args : RuntimeArgs) : List (String × String) :=
  (if args.mds then [("MDS", "1"), ("MDS_INIT", args.mds_init), ("MDS_TAINT_CYCLE", toString args.mds_taint_cycle)]
    else []) ++
  (if args.opt.noControlflow then
    [("PHANTOM_TRAILS_NO_ILLEGAL_JUMPS", "1"), ("PHANTOM_TRAILS_NO_SNIPPET", "1")] else []) ++
  (if args.opt = .none then [("PHANTOM_TRAILS_NO_ARG_REUSE", "1")] else [])

/-- What the options have to look like. -/
structure RuntimeArgs.Plain (args : RuntimeArgs) : Prop where
  config : PlainText args.config
  rom : PlainWord args.rom
  init : PlainText args.init
  mds_init : PlainText args.mds_init
  cycles : -2 ^ 31 ≤ args.cycles ∧ args.cycles < 2 ^ 31
  mds_taint_cycle : -2 ^ 64 < args.mds_taint_cycle ∧ args.mds_taint_cycle < 2 ^ 64

section Bindings

variable {args : RuntimeArgs} {cmd : Cmd} {bindings : List (String × String)} {name program : String}

theorem Cmd.Sets.flag (sets : cmd.Sets bindings) (listed : name ∈ setByScript) :
    (cmd.add_env_var name none).Sets (bindings ++ [(name, "1")]) := by
  obtain ⟨isName, plain⟩ := setByScript_names name listed
  exact sets.add_env_var isName plain (by decide)

theorem Cmd.Sets.verbose (sets : cmd.Sets bindings) :
    ((cmd.add_env_var "VERBOSE_SIM" none).add_env_var "VERBOSE_ISA" none).Sets
      (bindings ++ [("VERBOSE_SIM", "1"), ("VERBOSE_ISA", "1")]) := by
  have sim : "VERBOSE_SIM" ∈ setByScript := by simp [setByScript]
  have isa : "VERBOSE_ISA" ∈ setByScript := by simp [setByScript]
  have both := (sets.flag sim).flag isa
  rw [List.append_assoc] at both
  exact both

theorem Cmd.Sets.report (sets : cmd.Sets bindings) :
    (((((cmd.add_env_var "PRINT_CYCLES" none).add_env_var "PRINT_COVERAGE" none).add_env_var "PRINT_ROB"
      none).add_env_var "CRASH_REPORT" none).add_env_var "MEMDUMP" none).Sets
      (bindings ++ [("PRINT_CYCLES", "1"), ("PRINT_COVERAGE", "1"), ("PRINT_ROB", "1"), ("CRASH_REPORT", "1"),
        ("MEMDUMP", "1")]) := by
  have cycles : "PRINT_CYCLES" ∈ setByScript := by simp [setByScript]
  have coverage : "PRINT_COVERAGE" ∈ setByScript := by simp [setByScript]
  have rob : "PRINT_ROB" ∈ setByScript := by simp [setByScript]
  have crash : "CRASH_REPORT" ∈ setByScript := by simp [setByScript]
  have memdump : "MEMDUMP" ∈ setByScript := by simp [setByScript]
  have five := ((((sets.flag cycles).flag coverage).flag rob).flag crash).flag memdump
  simp only [List.append_assoc] at five
  exact five

/-- A step of the script that is taken if it is asked for. -/
theorem Cmd.Sets.ite {asked : Bool} {changed : Cmd} {more : List (String × String)} (sets : cmd.Sets bindings)
    (taken : changed.Sets (bindings ++ more)) :
    (if asked then changed else cmd).Sets (bindings ++ if asked then more else []) := by
  cases asked with
  | true => exact taken
  | false =>
      rw [if_neg (by simp), if_neg (by simp), List.append_nil]
      exact sets

theorem Cmd.Sets.of_env (sets : cmd.Sets bindings) {other : Cmd} (same : other.env = cmd.env) :
    other.Sets bindings where
  words := by rw [same, sets.words]
  names := sets.names
  plain := sets.plain

theorem mds_sets (plain : args.Plain) (env : cmd.env = if args.mds then "MDS=1 MDS_INIT=" ++ args.mds_init ++
      " MDS_TAINT_CYCLE=" ++ toString args.mds_taint_cycle ++ " " else "") :
    cmd.Sets (if args.mds then [("MDS", "1"), ("MDS_INIT", args.mds_init),
      ("MDS_TAINT_CYCLE", toString args.mds_taint_cycle)] else []) := by
  cases mds : args.mds with
  | false =>
      refine ⟨?_, by simp, by simp⟩
      rw [env, mds]
      rfl
  | true =>
      have text : cmd.env = "MDS" ++ "=" ++ "1" ++ " " ++ ("MDS_INIT" ++ "=" ++ args.mds_init) ++ " " ++
          ("MDS_TAINT_CYCLE" ++ "=" ++ toString args.mds_taint_cycle) ++ " " ++ "" := by
        rw [env, mds, ← String.toList_inj]
        simp [String.toList_append]
      have one : PlainText "1" := by decide
      have names : PlainText "MDS" ∧ PlainText "MDS_INIT" ∧ PlainText "MDS_TAINT_CYCLE" := by decide
      refine ⟨?_, ?_, ?_⟩
      · rw [text, words_spaced, words_spaced, words_spaced,
          @assignment_words ("MDS", "1") names.1 one, @assignment_words ("MDS_INIT", _) names.2.1 plain.mds_init,
          @assignment_words ("MDS_TAINT_CYCLE", _) names.2.2 (plain_int _)]
        rfl
      · simp only [if_true, List.forall_mem_cons]
        exact ⟨by decide, by decide, by decide, by simp⟩
      · simp only [if_true, List.forall_mem_cons]
        exact ⟨⟨names.1, one⟩, ⟨names.2.1, plain.mds_init⟩, ⟨names.2.2, plain_int _⟩, by simp⟩

theorem Cmd.Sets.remove_dataflow_opt (sets : cmd.Sets bindings) : cmd.remove_dataflow_opt.Sets bindings :=
  sets.of_env rfl

theorem Cmd.Sets.remove_controlflow_opt (sets : cmd.Sets bindings) : cmd.remove_controlflow_opt.Sets
    (bindings ++ [("PHANTOM_TRAILS_NO_ILLEGAL_JUMPS", "1"), ("PHANTOM_TRAILS_NO_SNIPPET", "1")]) := by
  have illegalJumps : "PHANTOM_TRAILS_NO_ILLEGAL_JUMPS" ∈ setByScript := by simp [setByScript]
  have snippet : "PHANTOM_TRAILS_NO_SNIPPET" ∈ setByScript := by simp [setByScript]
  have both := (sets.flag illegalJumps).flag snippet
  rw [List.append_assoc] at both
  exact both

theorem Cmd.Sets.remove_basic_opt (sets : cmd.Sets bindings) :
    cmd.remove_basic_opt.Sets (bindings ++ [("PHANTOM_TRAILS_NO_ARG_REUSE", "1")]) :=
  sets.flag (by simp [setByScript])

/-- The variables that the options set. -/
theorem from_args_sets (plain : args.Plain) (program : String) : (Cmd.from_args args program).Sets args.bindings := by
  rw [RuntimeArgs.bindings, Cmd.from_args]
  cases opt : args.opt with
  | all => simpa [Opt.noControlflow] using mds_sets plain rfl
  | controlflow => simpa [Opt.noControlflow] using (mds_sets plain rfl).remove_dataflow_opt
  | dataflow => simpa [Opt.noControlflow] using (mds_sets plain rfl).remove_controlflow_opt
  | basic => simpa [Opt.noControlflow] using (mds_sets plain rfl).remove_dataflow_opt.remove_controlflow_opt
  | none =>
      simpa [Opt.noControlflow] using
        (mds_sets plain rfl).remove_dataflow_opt.remove_controlflow_opt.remove_basic_opt

/-- The initialisation code that is loaded. -/
def RuntimeArgs.initPath (args : RuntimeArgs) : String :=
  if args.opt.noDataflow then "/boom-wrapper/init/init-no-dataflow.bin" else args.init

theorem from_args_parts (args : RuntimeArgs) (program : String) :
    (Cmd.from_args args program).sim = build_simulation_name (if args.mds then "MDSConfig" else args.config) false ∧
      (Cmd.from_args args program).bin = program ∧ (Cmd.from_args args program).rom = args.rom ∧
      (Cmd.from_args args program).cycles = args.cycles ∧ (Cmd.from_args args program).init = args.initPath ∧
      (Cmd.from_args args program).fuzz_cmd = "" ∧ (Cmd.from_args args program).additional = "" := by
  unfold Cmd.from_args RuntimeArgs.initPath
  cases args.opt <;> exact ⟨rfl, rfl, rfl, rfl, rfl, rfl, rfl⟩

theorem RuntimeArgs.Plain.initPath (plain : args.Plain) : PlainText args.initPath := by
  rw [RuntimeArgs.initPath]
  split
  · decide
  · exact plain.init

theorem RuntimeArgs.Plain.sim (plain : args.Plain) :
    PlainWord (build_simulation_name (if args.mds then "MDSConfig" else args.config) false) := by
  have front : PlainText "./run-" := by decide
  have config : PlainText (if args.mds then "MDSConfig" else args.config) := by
    split
    · decide
    · exact plain.config
  rw [build_simulation_name, if_neg (by simp)]
  refine ⟨by simp, ?_⟩
  intro c member
  rw [String.toList_append] at member
  exact (List.mem_append.mp member).elim (front c) (config c)

end Bindings

end PhantomTrails
