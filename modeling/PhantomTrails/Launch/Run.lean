import PhantomTrails.Launch.Command

namespace PhantomTrails

open Foundation

/-! # What a run starts the simulation with

The words of the command are the arguments, and its assignments the environment,
that `args_t` reads.
-/

/-! ## What `args_t` finds -/

/-- The value of a variable behind some assignments. -/
def lookup (bindings : List (String × String)) (inherited : Option (List Char)) (name : String) : Option (List Char) :=
  bindings.foldl (fun value binding => if binding.1 = name then some binding.2.toList else value) inherited

section Lookup

variable {first second bindings : List (String × String)} {inherited : Option (List Char)} {name other value : String}
  {command : Shell.Command} {parent : List Char → Option (List Char)}

theorem lookup_append : lookup (first ++ second) inherited name = lookup second (lookup first inherited name) name :=
  List.foldl_append

theorem lookup_cons : lookup ((other, value) :: bindings) inherited name =
    lookup bindings (if other = name then some value.toList else inherited) name := rfl

theorem lookup_nil : lookup [] inherited name = inherited := rfl

theorem lookup_ite {asked : Prop} [Decidable asked] : lookup (if asked then bindings else []) inherited name =
    if asked then lookup bindings inherited name else inherited := by
  split <;> rfl

theorem lookup_elim {asked : Option String} :
    lookup (asked.elim [] fun value => [(other, value)]) inherited name =
      if other = name then (asked.map String.toList).or inherited else inherited := by
  cases asked with
  | none => simp [lookup_nil]
  | some value => simp [lookup_cons, lookup_nil]

theorem getenv_eq (assigned : command.assigned = bindings.map fun binding => (binding.1.toList, binding.2.toList)) :
    command.getenv parent name.toList = lookup bindings (parent name.toList) name := by
  rw [Shell.Command.getenv, assigned, List.foldl_map, lookup]
  simp only [String.toList_inj]

end Lookup

/-- The variables that `args_t` reads a value from. -/
def valueVariables : List String := ["INIT_SIZE", "MDS", "MDS_TAINT_CYCLE", "MDS_INIT", "CODE_REGIONS"]

/-- The variables that `run_sim` sets besides. -/
def RunArgs.bindings (args : RunArgs) : List (String × String) :=
  args.toRuntimeArgs.bindings ++
  (args.code_regions.elim [] fun regions => [("CODE_REGIONS", regions)]) ++
  (if args.verbose || args.report then [("VERBOSE_SIM", "1"), ("VERBOSE_ISA", "1")] else []) ++
  (if args.report then [("PRINT_CYCLES", "1"), ("PRINT_COVERAGE", "1"), ("PRINT_ROB", "1"), ("CRASH_REPORT", "1"),
    ("MEMDUMP", "1")] else [])

/-- What the options say, for an environment with some switches in it. -/
def RunArgs.parsed (files : List Char → Option (List Char)) (inherited : String → Bool) (args : RunArgs) :
    Except LaunchError ParsedArgs :=
  (args.code_regions.elim (.ok []) fun path =>
    LaunchError.ofNumber (codeRegions ((files path.toList).getD []))).map fun regions =>
    { romPath := args.rom.toList
      initCodePath := if args.initPath = "" then none else some args.initPath.toList
      programPath := args.binary.toList
      spikeCyclesPerInst := .ofInt args.cycles
      mds := args.mds
      mdsTaintCycle := if args.mds then .ofInt args.mds_taint_cycle else 0
      mdsInitPath := if args.mds then some args.mds_init.toList else none
      codeRegions := regions
      log := { printCycles := args.report || inherited "PRINT_CYCLES", printROB := args.report || inherited "PRINT_ROB"
               printLSQ := inherited "PRINT_LSQ", printRegFile := inherited "PRINT_REGFILE"
               printBIM := inherited "PRINT_BIM", printLoop := inherited "PRINT_LOOP"
               printMSHR := inherited "PRINT_MSHR" }
      verboseSim := args.verbose || args.report || inherited "VERBOSE_SIM"
      verboseISA := args.verbose || args.report || inherited "VERBOSE_ISA"
      printCrashReport := args.report || inherited "CRASH_REPORT"
      memdumpPath := if args.report || inherited "MEMDUMP" then args.binary.toList ++ ".memdump".toList else []
      initSize := none }

/-- The arguments of the rounds, as the options give them.  No option gives
`initSize`: `args_t` does not initialise it, and every round reads what happens
to be there. -/
def RunArgs.mainArgs (images : List Char → Option Buffer) (initSize : UInt64) (args : RunArgs) : MainArgs where
  initCode := if args.initPath = "" then none else some (images args.initPath.toList)
  mdsInit := if args.mds then some (images args.mds_init.toList) else none
  program := images args.binary.toList
  initSize
  spikeCyclesPerInst := .ofInt args.cycles
  discardIllegalJumps := !args.opt.noControlflow
  mds := args.mds
  mdsOnly := mds_of_mdsInit

structure RunArgs.Plain (args : RunArgs) : Prop extends args.toRuntimeArgs.Plain where
  binary : PlainWord args.binary
  code_regions : ∀ regions ∈ args.code_regions, PlainText regions
  logfile : ∀ logfile ∈ args.logfile, PlainText logfile

section Run

variable {args : RunArgs} {files : List Char → Option (List Char)} {parent : List Char → Option (List Char)}
  {getenv : String → Option (List Char)} {name : String} {inherited : Option (List Char)}

theorem lookup_absent (unset : name ∉ setByScript) : lookup args.bindings inherited name = inherited := by
  have other : ∀ known ∈ setByScript, (known = name) = False := by
    intro known listed
    apply eq_false
    rintro rfl
    exact unset listed
  unfold setByScript at other
  simp only [List.forall_mem_cons] at other
  obtain ⟨mds, mdsInit, taintCycle, illegalJumps, snippet, argReuse, regions, sim, isa, cycles, coverage, rob, crash,
    memdump, -⟩ := other
  unfold RunArgs.bindings RuntimeArgs.bindings
  simp only [lookup_append, lookup_ite, lookup_cons, lookup_nil, lookup_elim, mds, mdsInit, taintCycle, illegalJumps,
    snippet, argReuse, regions, sim, isa, cycles, coverage, rob, crash, memdump, if_false, ite_self]

theorem lookup_report (own : name ∈ ["PRINT_CYCLES", "PRINT_ROB", "CRASH_REPORT", "MEMDUMP"]) :
    lookup args.bindings inherited name = if args.report then some "1".toList else inherited := by
  simp only [List.mem_cons, List.not_mem_nil, or_false] at own
  unfold RunArgs.bindings RuntimeArgs.bindings
  rcases own with rfl | rfl | rfl | rfl <;>
    simp only [lookup_append, lookup_ite, lookup_cons, lookup_nil, lookup_elim, String.reduceEq, if_true, if_false,
      ite_self]

theorem lookup_verbose (own : name ∈ ["VERBOSE_SIM", "VERBOSE_ISA"]) :
    lookup args.bindings inherited name = if args.verbose || args.report then some "1".toList else inherited := by
  simp only [List.mem_cons, List.not_mem_nil, or_false] at own
  unfold RunArgs.bindings RuntimeArgs.bindings
  rcases own with rfl | rfl <;>
    simp only [lookup_append, lookup_ite, lookup_cons, lookup_nil, lookup_elim, String.reduceEq, if_true, if_false,
      ite_self]

theorem lookup_regions :
    lookup args.bindings none "CODE_REGIONS" = args.code_regions.map String.toList := by
  unfold RunArgs.bindings RuntimeArgs.bindings
  simp only [lookup_append, lookup_ite, lookup_cons, lookup_nil, lookup_elim, String.reduceEq, if_true, if_false,
    ite_self, Option.or_none]

theorem lookup_mds :
    lookup args.bindings none "MDS" = (if args.mds then some "1".toList else none) ∧
      lookup args.bindings none "MDS_INIT" = (if args.mds then some args.mds_init.toList else none) ∧
      lookup args.bindings none "MDS_TAINT_CYCLE" =
        (if args.mds then some (toString args.mds_taint_cycle).toList else none) := by
  unfold RunArgs.bindings RuntimeArgs.bindings
  simp only [lookup_append, lookup_ite, lookup_cons, lookup_nil, lookup_elim, String.reduceEq, if_true, if_false,
    ite_self, and_self]

theorem lookup_illegalJumps : lookup args.bindings inherited "PHANTOM_TRAILS_NO_ILLEGAL_JUMPS" =
    if args.opt.noControlflow then some "1".toList else inherited := by
  unfold RunArgs.bindings RuntimeArgs.bindings
  simp only [lookup_append, lookup_ite, lookup_cons, lookup_nil, lookup_elim, String.reduceEq, if_true, if_false,
    ite_self]

theorem isSome_ite {flag : Bool} {value : List Char} :
    (if flag then some value else inherited).isSome = (flag || inherited.isSome) := by
  cases flag <;> rfl

/-- The taint cycle that MDS mode reads back. -/
theorem RuntimeArgs.Plain.taintCycle_read {args : RuntimeArgs} (plain : args.Plain) :
    ((if args.mds then some (toString args.mds_taint_cycle).toList else none).elim (pure 0)
      fun cycle => LaunchError.ofNumber (stoulDecimal cycle)) =
        Except.ok (if args.mds then .ofInt args.mds_taint_cycle else 0) := by
  cases args.mds with
  | false => rfl
  | true =>
      simp only [if_true, Option.elim_some, stoulDecimal_toString plain.mds_taint_cycle.1 plain.mds_taint_cycle.2]
      rfl

/-- The constructor on the words of a command, with the variables that are set. -/
theorem args_t_of_env (args : RunArgs) (plain : args.Plain) (sim : List Char)
    (env : ∀ name, getenv name = lookup args.bindings (parent name.toList) name)
    (unset : ∀ name ∈ valueVariables, parent name.toList = none) :
    args_t files ([sim, args.binary.toList, args.rom.toList, (toString args.cycles).toList] ++
      if args.initPath = "" then [] else [args.initPath.toList]) getenv =
        args.parsed files fun name => (parent name.toList).isSome := by
  unfold valueVariables at unset
  simp only [List.forall_mem_cons] at unset
  obtain ⟨initSize, mds, taintCycle, mdsInit, regions, -⟩ := unset
  have absent : ∀ name ∉ setByScript, getenv name = parent name.toList := fun name other => by
    rw [env, lookup_absent other]
  have initSize' : getenv "INIT_SIZE" = none := by rw [absent _ (by simp [setByScript]), initSize]
  have mds' := env "MDS"
  have mdsInit' := env "MDS_INIT"
  have taintCycle' := env "MDS_TAINT_CYCLE"
  have regions' := env "CODE_REGIONS"
  rw [mds, lookup_mds.1] at mds'
  rw [mdsInit, lookup_mds.2.1] at mdsInit'
  rw [taintCycle, lookup_mds.2.2] at taintCycle'
  rw [regions, lookup_regions] at regions'
  have asked : (if args.mds then some "1".toList else none).isSome = args.mds := by cases args.mds <;> rfl
  have ofMds : ∀ value : List Char, (if args.mds then (if args.mds then some value else none) else none) =
      if args.mds then some value else none := fun value => by
    cases args.mds <;> rfl
  have second : ((toString args.cycles).toList :: if args.initPath = "" then [] else [args.initPath.toList])[1]? =
      if args.initPath = "" then none else some args.initPath.toList := by
    split <;> rfl
  unfold args_t
  simp only [List.cons_append, List.nil_append, List.head?_cons, Option.elim_some, Option.elim_none, initSize', mds',
    taintCycle', mdsInit', regions', asked, ofMds, plain.toPlain.taintCycle_read, second,
    atoi_toString plain.cycles.1 plain.cycles.2,
    absent "PRINT_LSQ" (by simp [setByScript]), absent "PRINT_REGFILE" (by simp [setByScript]),
    absent "PRINT_BIM" (by simp [setByScript]), absent "PRINT_LOOP" (by simp [setByScript]),
    absent "PRINT_MSHR" (by simp [setByScript]), env "PRINT_CYCLES", env "PRINT_ROB", env "CRASH_REPORT", env "MEMDUMP",
    env "VERBOSE_SIM", env "VERBOSE_ISA", @lookup_report _ "PRINT_CYCLES" _ (by simp),
    @lookup_report _ "PRINT_ROB" _ (by simp), @lookup_report _ "CRASH_REPORT" _ (by simp),
    @lookup_report _ "MEMDUMP" _ (by simp), @lookup_verbose _ "VERBOSE_SIM" _ (by simp),
    @lookup_verbose _ "VERBOSE_ISA" _ (by simp), isSome_ite]
  rw [RunArgs.parsed]
  cases args.code_regions with
  | none => rfl
  | some path =>
      simp only [Option.map_some, Option.elim_some]
      cases LaunchError.ofNumber (codeRegions ((files path.toList).getD [])) with
      | error fault => rfl
      | ok regions => rfl

/-! ## A run -/

/-- What is put behind the command, its words, and where the output goes. -/
def RunArgs.additional (args : RunArgs) : String :=
  match args.logfile with
  | some logfile => if logfile = "" then "" else " > " ++ logfile ++ " 2>&1"
  | none => ""

def RunArgs.redirect (args : RunArgs) : List (List Char) :=
  match args.logfile with
  | some logfile => if logfile = "" then [] else [['>'], logfile.toList, "2>&1".toList]
  | none => []

def RunArgs.stdout (args : RunArgs) : Option (List Char) :=
  match args.logfile with
  | some logfile => if logfile = "" then none else some logfile.toList
  | none => none

theorem RunArgs.Plain.redirect_words (plain : args.Plain) : Shell.words args.additional.toList = args.redirect := by
  rw [RunArgs.redirect, RunArgs.additional]
  cases asked : args.logfile with
  | none => rfl
  | some logfile =>
      by_cases empty : logfile = ""
      · simp only [empty, if_true]
        rfl
      · have text : " > " ++ logfile ++ " 2>&1" = "" ++ " " ++ ">" ++ " " ++ logfile ++ " " ++ "2>&1" := by
          rw [← String.toList_inj]
          simp [String.toList_append]
        have word : PlainWord logfile := ⟨empty, plain.logfile logfile asked⟩
        have angle : Shell.words ">".toList = [['>']] := by decide
        have merge : Shell.words "2>&1".toList = ["2>&1".toList] := by decide
        simp only [empty, if_false, text, words_spaced, word.words, angle, merge]
        rfl

theorem RunArgs.Plain.redirected (plain : args.Plain) :
    Shell.redirections args.redirect = some ([], args.stdout, args.stdout.isSome) := by
  rw [RunArgs.redirect, RunArgs.stdout]
  cases asked : args.logfile with
  | none => rfl
  | some logfile =>
      by_cases empty : logfile = ""
      · simp [empty, Shell.redirections]
      · have all := (plain.logfile logfile asked).all
        simp [empty, Shell.redirections, Shell.redirection, all]

theorem run_sim_sets (plain : args.Plain) : (run_sim args).Sets args.bindings := by
  have start := from_args_sets plain.toPlain args.binary
  have unchanged : ∀ cmd : Cmd, (match args.logfile with
      | some logfile => if logfile = "" then cmd else
          { cmd with additional := cmd.additional ++ " > " ++ logfile ++ " 2>&1" }
      | none => cmd).env = cmd.env := by
    intro cmd
    split
    · split <;> rfl
    · rfl
  unfold run_sim RunArgs.bindings
  cases regions : args.code_regions with
  | none =>
      rw [Option.elim_none, List.append_nil]
      exact ((start.ite start.verbose).ite (start.ite start.verbose).report).of_env (unchanged _)
  | some path =>
      have isName : Shell.IsName "CODE_REGIONS".toList ∧ PlainText "CODE_REGIONS" := by decide
      have more : ((Cmd.from_args args.toRuntimeArgs args.binary).add_env_var "CODE_REGIONS" (some path)).Sets
          (args.toRuntimeArgs.bindings ++ [("CODE_REGIONS", path)]) :=
        start.add_env_var isName.1 isName.2 (plain.code_regions path regions)
      exact ((more.ite more.verbose).ite (more.ite more.verbose).report).of_env (unchanged _)

/-- Only the assignments and the redirection are added to what the options say. -/
theorem run_sim_parts (args : RunArgs) : run_sim args =
    { Cmd.from_args args.toRuntimeArgs args.binary with env := (run_sim args).env, additional := args.additional } := by
  have none := (from_args_parts args.toRuntimeArgs args.binary).2.2.2.2.2.2
  unfold run_sim RunArgs.additional
  cases args.logfile with
  | none => cases args.code_regions <;> cases args.verbose <;> cases args.report <;> simp [Cmd.add_env_var, ← none]
  | some logfile =>
      by_cases empty : logfile = ""
      · cases args.code_regions <;> cases args.verbose <;> cases args.report <;> simp [Cmd.add_env_var, empty, ← none]
      · cases args.code_regions <;> cases args.verbose <;> cases args.report <;> simp [Cmd.add_env_var, empty, none]

theorem run_sim_plain (plain : args.Plain) : (run_sim args).Plain [] args.redirect := by
  obtain ⟨sim, bin, rom, cycles, init, fuzz, -⟩ := from_args_parts args.toRuntimeArgs args.binary
  rw [run_sim_parts]
  refine ⟨?_, by simp, ?_, ?_, ?_, ?_, plain.redirect_words⟩
  · rw [fuzz]
    rfl
  · rw [sim]
    exact plain.toPlain.sim
  · rw [bin]
    exact plain.binary
  · rw [rom]
    exact plain.rom
  · rw [init]
    exact plain.toPlain.initPath

/-- The words of a command, as the options give them. -/
def RuntimeArgs.target (args : RuntimeArgs) (program : String) : List (List Char) :=
  [(build_simulation_name (if args.mds then "MDSConfig" else args.config) false).toList, program.toList,
    args.rom.toList, (toString args.cycles).toList] ++ if args.initPath = "" then [] else [args.initPath.toList]

theorem from_args_target (args : RuntimeArgs) (program : String) :
    (Cmd.from_args args program).target = args.target program := by
  obtain ⟨sim, bin, rom, cycles, init, -, -⟩ := from_args_parts args program
  rw [Cmd.target, sim, bin, rom, cycles, init, RuntimeArgs.target]

theorem run_sim_target (args : RunArgs) : (run_sim args).target = args.toRuntimeArgs.target args.binary := by
  rw [run_sim_parts, ← from_args_target]
  rfl

/-- The name of the simulation starts with a dot. -/
theorem RuntimeArgs.target_head {args : RuntimeArgs} {program : String} :
    ∀ name ∈ (args.target program).head?, Shell.assignment? name = none ∧ name ∉ Shell.reserved := by
  intro name first
  have dot : ∃ rest, name = '.' :: rest := by
    rw [RuntimeArgs.target, build_simulation_name, if_neg (by simp), String.toList_append] at first
    have front : "./run-".toList = '.' :: ['/', 'r', 'u', 'n', '-'] := by decide
    rw [front] at first
    exact ⟨_, (Option.some_inj.mp first).symm⟩
  obtain ⟨rest, rfl⟩ := dot
  have notName : Shell.isNameChar '.' = false := by decide
  refine ⟨by simp [Shell.assignment?, notName], ?_⟩
  simp [Shell.reserved]

/-- The rounds get what the options say, and an `initSize` that nothing has set. -/
theorem mainArgs_of_parsed {images : List Char → Option Buffer} {inherited : String → Bool}
    {parsed : ParsedArgs} (found : args.parsed files inherited = .ok parsed)
    (env : ∀ name, getenv name = lookup args.bindings (parent name.toList) name)
    (unset : parent "PHANTOM_TRAILS_NO_ILLEGAL_JUMPS".toList = none) :
    parsed.initSize = none ∧
      ∀ garbage, parsed.mainArgs images garbage getenv = args.mainArgs images garbage := by
  have jumps := env "PHANTOM_TRAILS_NO_ILLEGAL_JUMPS"
  rw [unset, lookup_illegalJumps] at jumps
  have discard : (getenv "PHANTOM_TRAILS_NO_ILLEGAL_JUMPS").isNone = !args.opt.noControlflow := by
    rw [jumps]
    cases args.opt.noControlflow <;> rfl
  have init : (if args.initPath = "" then none else some args.initPath.toList).map images =
      if args.initPath = "" then none else some (images args.initPath.toList) := by split <;> rfl
  have mdsInit : (if args.mds then (if args.mds then some args.mds_init.toList else none).map images else none) =
      if args.mds then some (images args.mds_init.toList) else none := by cases args.mds <;> rfl
  rw [RunArgs.parsed] at found
  generalize (args.code_regions.elim (.ok []) fun path =>
    LaunchError.ofNumber (codeRegions ((files path.toList).getD []))) = read at found
  cases read with
  | error fault => cases found
  | ok regions =>
      cases found
      refine ⟨rfl, fun garbage => ?_⟩
      simp only [ParsedArgs.mainArgs, RunArgs.mainArgs, discard, init, mdsInit, Option.getD_none]

/-- What the shell makes of a run. -/
def RunArgs.command (args : RunArgs) : Shell.Command where
  assigned := args.bindings.map fun binding => (binding.1.toList, binding.2.toList)
  argv := args.toRuntimeArgs.target args.binary
  stdout := args.stdout
  merged := args.stdout.isSome

theorem run_sim_command (plain : args.Plain) : Shell.command (run_sim args).str.toList = some args.command := by
  have simple : ∀ name ∈ ([] ++ (run_sim args).target).head?,
      Shell.assignment? name = none ∧ name ∉ Shell.reserved := by
    rw [List.nil_append, run_sim_target]
    exact RuntimeArgs.target_head
  have found := (run_sim_plain plain).command (run_sim_sets plain) plain.redirected simple
  rw [List.nil_append, run_sim_target] at found
  exact found

/-- A run starts the simulation with what the options say: the switches of the
environment count besides, and its other variables must not be set.  What the
rounds get for `initSize` is indeterminate. -/
theorem run_launches (args : RunArgs) (plain : args.Plain) (files : List Char → Option (List Char))
    (images : List Char → Option Buffer) (parent : List Char → Option (List Char))
    (unset : ∀ name ∈ "PHANTOM_TRAILS_NO_ILLEGAL_JUMPS" :: valueVariables, parent name.toList = none) :
    ∃ command, Shell.command (run_sim args).str.toList = some command ∧
      command.argv.head? =
        some (build_simulation_name (if args.mds then "MDSConfig" else args.config) false).toList ∧
      command.stdout = args.stdout ∧ command.merged = args.stdout.isSome ∧
      args_t files command.argv (fun name => command.getenv parent name.toList) =
        args.parsed files (fun name => (parent name.toList).isSome) ∧
      ∀ parsed, args_t files command.argv (fun name => command.getenv parent name.toList) = .ok parsed →
        parsed.initSize = none ∧
          ∀ garbage, parsed.mainArgs images garbage (fun name => command.getenv parent name.toList) =
            args.mainArgs images garbage := by
  obtain ⟨jumps, values⟩ := List.forall_mem_cons.mp unset
  have env : ∀ name : String, args.command.getenv parent name.toList =
      lookup args.bindings (parent name.toList) name := fun name => getenv_eq rfl
  have read : args_t files args.command.argv (fun name => args.command.getenv parent name.toList) =
      args.parsed files (fun name => (parent name.toList).isSome) := args_t_of_env args plain _ env values
  refine ⟨args.command, run_sim_command plain, rfl, rfl, rfl, read, ?_⟩
  intro parsed found
  rw [read] at found
  exact mainArgs_of_parsed found env jumps

end Run

def reported : RunArgs := { binary := "test.bin", opt := .none, logfile := some "out.log", report := true }

theorem reported_plain : reported.Plain where
  config := by decide
  rom := ⟨by simp [reported], by decide⟩
  init := by decide
  mds_init := by decide
  cycles := by decide
  mds_taint_cycle := by decide
  binary := ⟨by simp [reported], by decide⟩
  code_regions := by simp [reported]
  logfile := by
    intro logfile asked
    cases asked
    decide

theorem run_launches_reported : ∃ command, Shell.command (run_sim reported).str.toList = some command ∧
    command.argv.head? =
      some (build_simulation_name (if reported.mds then "MDSConfig" else reported.config) false).toList ∧
    command.stdout = reported.stdout ∧ command.merged = reported.stdout.isSome ∧
    args_t (fun _ => none) command.argv (fun name => command.getenv (fun _ => none) name.toList) =
      reported.parsed (fun _ => none) (fun _ => false) ∧
    ∀ parsed,
      args_t (fun _ => none) command.argv (fun name => command.getenv (fun _ => none) name.toList) = .ok parsed →
      parsed.initSize = none ∧
        ∀ garbage,
          parsed.mainArgs (fun _ => none) garbage (fun name => command.getenv (fun _ => none) name.toList) =
            reported.mainArgs (fun _ => none) garbage :=
  run_launches reported reported_plain (fun _ => none) (fun _ => none) (fun _ => none) fun _ _ => rfl

end PhantomTrails
