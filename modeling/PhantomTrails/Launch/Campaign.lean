import PhantomTrails.Launch.Run

namespace PhantomTrails

open Foundation

/-! # A fuzzing campaign

The fuzzer starts the simulation itself, with a program of its own in place of
`@@`.
-/

/-- The words of the fuzzer itself. -/
def FuzzArgs.words (args : FuzzArgs) : List (List Char) :=
  [args.aflpath.toList, "-i".toList, args.indir.toList, "-o".toList, args.outdir.toList] ++
    if args.simple_ui then ["-s".toList] else []

/-- The run that is to show again what the fuzzer has found. -/
def FuzzArgs.replay (args : FuzzArgs) (input : String) : RunArgs := { args.toRuntimeArgs with binary := input }

def FuzzArgs.command (args : FuzzArgs) : Shell.Command where
  assigned := args.toRuntimeArgs.bindings.map fun binding => (binding.1.toList, binding.2.toList)
  argv := args.words ++ args.toRuntimeArgs.target "@@"
  stdout := none
  merged := false

structure FuzzArgs.Plain (args : FuzzArgs) : Prop extends args.toRuntimeArgs.Plain where
  aflpath : PlainWord args.aflpath
  indir : PlainWord args.indir
  outdir : PlainWord args.outdir
  isCommand : Shell.assignment? args.aflpath.toList = none ∧ args.aflpath.toList ∉ Shell.reserved

section Fuzz

variable {args : FuzzArgs} {input : String} {front back word : List Char}

theorem FuzzArgs.Plain.fuzz_words (plain : args.Plain) :
    Shell.words (run_fuzzer args).fuzz_cmd.toList = args.words := by
  have text : args.aflpath ++ " -i " ++ args.indir ++ " -o " ++ args.outdir =
      args.aflpath ++ " " ++ "-i" ++ " " ++ args.indir ++ " " ++ "-o" ++ " " ++ args.outdir := by
    rw [← String.toList_inj]
    simp [String.toList_append]
  have option : Shell.words "-i".toList = ["-i".toList] ∧ Shell.words "-o".toList = ["-o".toList] ∧
      Shell.words "-s".toList = ["-s".toList] := by decide
  rw [FuzzArgs.words, run_fuzzer]
  cases args.simple_ui with
  | false =>
      simp only [Bool.false_eq_true, if_false, text, words_spaced, plain.aflpath.words, plain.indir.words,
        plain.outdir.words, option, List.cons_append, List.nil_append]
  | true =>
      have switch : args.aflpath ++ " -i " ++ args.indir ++ " -o " ++ args.outdir ++ " -s" =
          args.aflpath ++ " -i " ++ args.indir ++ " -o " ++ args.outdir ++ " " ++ "-s" := by
        rw [← String.toList_inj]
        simp [String.toList_append]
      simp only [if_true, switch, words_spaced]
      simp only [text, words_spaced, plain.aflpath.words, plain.indir.words, plain.outdir.words, option,
        List.cons_append, List.nil_append]

theorem FuzzArgs.Plain.words_plain (plain : args.Plain) : ∀ word ∈ args.words, word.all Shell.isPlain = true := by
  have option : ("-i".toList.all Shell.isPlain = true ∧ "-o".toList.all Shell.isPlain = true) ∧
      "-s".toList.all Shell.isPlain = true := by decide
  have front : ∀ word ∈ [args.aflpath.toList, "-i".toList, args.indir.toList, "-o".toList, args.outdir.toList],
      word.all Shell.isPlain = true := by
    simp only [List.forall_mem_cons]
    exact ⟨plain.aflpath.2.all, option.1.1, plain.indir.2.all, option.1.2, plain.outdir.2.all, by simp⟩
  intro word member
  rcases List.mem_append.mp member with first | last
  · exact front word first
  · split at last
    · rw [List.mem_singleton.mp last]
      exact option.2
    · simp at last

theorem run_fuzzer_command (plain : args.Plain) :
    Shell.command (run_fuzzer args).str.toList = some args.command := by
  obtain ⟨sim, bin, rom, cycles, init, fuzz, additional⟩ := from_args_parts args.toRuntimeArgs "@@"
  have sets : (run_fuzzer args).Sets args.toRuntimeArgs.bindings := (from_args_sets plain.toPlain "@@").of_env rfl
  have marker : PlainWord "@@" := ⟨by simp, by decide⟩
  have parts : (run_fuzzer args).Plain args.words [] := by
    refine ⟨plain.fuzz_words, plain.words_plain, ?_, ?_, ?_, ?_, ?_⟩
    · exact sim ▸ plain.toPlain.sim
    · exact bin ▸ marker
    · exact rom ▸ plain.rom
    · exact init ▸ plain.toPlain.initPath
    · rw [run_fuzzer, additional]
      rfl
  have target : (run_fuzzer args).target = args.toRuntimeArgs.target "@@" := from_args_target args.toRuntimeArgs "@@"
  have simple : ∀ name ∈ (args.words ++ (run_fuzzer args).target).head?,
      Shell.assignment? name = none ∧ name ∉ Shell.reserved := by
    intro name first
    cases first
    exact plain.isCommand
  have found := parts.command sets rfl simple
  rw [target] at found
  exact found

/-- The marker does not lie across a seam without an `@` before it. -/
theorem marked_of_append (absent : '@' ∉ front) (inside : ['@', '@'] <:+: front ++ back) : ['@', '@'] <:+: back := by
  induction front with
  | nil => exact inside
  | cons c front ih =>
      rw [List.mem_cons, not_or] at absent
      rcases List.infix_cons_iff.mp inside with start | later
      · exact absurd (List.cons_prefix_cons.mp start).1 absent.1
      · exact ih absent.2 later

theorem unmarked_of_not_mem (absent : '@' ∉ word) : ¬ ['@', '@'] <:+: word :=
  fun inside => absent (inside.subset (List.mem_cons_self))

theorem FuzzArgs.replay_target {place : List Char → List Char} (marked : place "@@".toList = input.toList)
    (others : ∀ word, ¬ ['@', '@'] <:+: word → place word = word)
    (unmarked : ∀ path ∈ [args.config, args.rom, args.initPath], ¬ ['@', '@'] <:+: path.toList) :
    (args.toRuntimeArgs.target "@@").map place = args.toRuntimeArgs.target input := by
  simp only [List.forall_mem_cons] at unmarked
  obtain ⟨config, rom, init, -⟩ := unmarked
  have dash : '@' ∉ "./run-".toList := by decide
  have mds : '@' ∉ "MDSConfig".toList := by decide
  have sim :
      ¬ ['@', '@'] <:+: (build_simulation_name (if args.mds then "MDSConfig" else args.config) false).toList := by
    intro inside
    rw [build_simulation_name, if_neg (by simp), String.toList_append] at inside
    have behind := marked_of_append dash inside
    cases given : args.mds with
    | true =>
        rw [given, if_pos rfl] at behind
        exact unmarked_of_not_mem mds behind
    | false =>
        rw [given, if_neg (by simp)] at behind
        exact config behind
  have cycles : ¬ ['@', '@'] <:+: (toString args.cycles).toList := by
    apply unmarked_of_not_mem
    intro member
    rcases mem_toString_int member with minus | ⟨digit, below, same⟩
    · simp at minus
    · clear member
      revert digit
      decide
  rw [RuntimeArgs.target, RuntimeArgs.target, List.map_append]
  simp only [List.map_cons, List.map_nil, marked, others _ sim, others _ rom, others _ cycles]
  by_cases empty : args.initPath = ""
  · simp only [empty, if_true, List.map_nil]
  · simp only [empty, if_false, List.map_cons, List.map_nil, others _ init]

theorem FuzzArgs.replay_bindings (args : FuzzArgs) (input : String) :
    (args.replay input).bindings = args.toRuntimeArgs.bindings := by
  simp [RunArgs.bindings, FuzzArgs.replay]

theorem FuzzArgs.Plain.replay (plain : args.Plain) (word : PlainWord input) : (args.replay input).Plain where
  toPlain := plain.toPlain
  binary := word
  code_regions := by simp [FuzzArgs.replay]
  logfile := by simp [FuzzArgs.replay]

/-- A run with the options of a campaign starts the simulation with the words
and the variables that the fuzzer starts it with.  They are what the options say
unless the environment sets more. -/
theorem fuzz_replayed (args : FuzzArgs) (plain : args.Plain) (place : List Char → List Char) (input : String)
    (word : PlainWord input) (marked : place "@@".toList = input.toList)
    (others : ∀ word, ¬ ['@', '@'] <:+: word → place word = word)
    (unmarked : ∀ path ∈ [args.config, args.rom, args.initPath], ¬ ['@', '@'] <:+: path.toList)
    (files : List Char → Option (List Char)) (parent : List Char → Option (List Char)) :
    ∃ fuzz run, Shell.command (run_fuzzer args).str.toList = some fuzz ∧
      Shell.command (run_sim (args.replay input)).str.toList = some run ∧
      (∃ target, fuzz.argv = args.words ++ target ∧ target.map place = run.argv ∧
        args_t files (target.map place) (fun name => fuzz.getenv parent name.toList) =
          args_t files run.argv (fun name => run.getenv parent name.toList) ∧
        ((∀ name ∈ valueVariables, parent name.toList = none) →
          args_t files (target.map place) (fun name => fuzz.getenv parent name.toList) =
            (args.replay input).parsed files fun name => (parent name.toList).isSome)) ∧
      (∀ name, fuzz.getenv parent name = run.getenv parent name) ∧
      (fuzz.getenv parent "PHANTOM_TRAILS_NO_ILLEGAL_JUMPS".toList =
        if args.opt.noControlflow then some "1".toList else parent "PHANTOM_TRAILS_NO_ILLEGAL_JUMPS".toList) ∧
      (fuzz.getenv parent "PHANTOM_TRAILS_NO_SNIPPET".toList =
        if args.opt.noControlflow then some "1".toList else parent "PHANTOM_TRAILS_NO_SNIPPET".toList) ∧
      fuzz.getenv parent "PHANTOM_TRAILS_NO_ARG_REUSE".toList =
        if args.opt = .none then some "1".toList else parent "PHANTOM_TRAILS_NO_ARG_REUSE".toList := by
  have env : ∀ name : String, args.command.getenv parent name.toList =
      lookup args.toRuntimeArgs.bindings (parent name.toList) name := fun name => getenv_eq rfl
  have target := args.replay_target marked others unmarked
  have sameEnv : ∀ name : String, args.command.getenv parent name.toList =
      lookup (args.replay input).bindings (parent name.toList) name := fun name => by
    rw [env, args.replay_bindings]
  have same : ∀ name, args.command.getenv parent name = (args.replay input).command.getenv parent name := by
    intro name
    simp only [Shell.Command.getenv, FuzzArgs.command, RunArgs.command, args.replay_bindings]
  refine ⟨args.command, (args.replay input).command, run_fuzzer_command plain, run_sim_command (plain.replay word),
    ⟨_, rfl, target, ?_, fun unset => ?_⟩, same, ?_, ?_, ?_⟩
  · rw [target]
    exact congrArg (args_t files _) (funext fun name => same name.toList)
  · rw [target]
    exact args_t_of_env (args.replay input) (plain.replay word) _ sameEnv unset
  all_goals
    rw [env, RuntimeArgs.bindings]
    simp only [lookup_append, lookup_ite, lookup_cons, lookup_nil, String.reduceEq, if_true, if_false, ite_self]

end Fuzz

def campaign : FuzzArgs := { mds := true, opt := .basic, simple_ui := true }

theorem campaign_plain : campaign.Plain where
  config := by decide
  rom := ⟨by simp [campaign], by decide⟩
  init := by decide
  mds_init := by decide
  cycles := by decide
  mds_taint_cycle := by decide
  aflpath := ⟨by simp [campaign], by decide⟩
  indir := ⟨by simp [campaign], by decide⟩
  outdir := ⟨by simp [campaign], by decide⟩
  isCommand := by decide

/-- A fuzzer that replaces the word `@@`. -/
def placeInput (input word : List Char) : List Char := if word = "@@".toList then input else word

theorem fuzz_replayed_campaign : ∃ fuzz run, Shell.command (run_fuzzer campaign).str.toList = some fuzz ∧
    Shell.command (run_sim (campaign.replay "crash.bin")).str.toList = some run ∧
    (∃ target, fuzz.argv = campaign.words ++ target ∧
      target.map (placeInput "crash.bin".toList) = run.argv ∧
      args_t (fun _ => none) (target.map (placeInput "crash.bin".toList))
        (fun name => fuzz.getenv (fun _ => none) name.toList) =
          (campaign.replay "crash.bin").parsed (fun _ => none) fun _ => false) ∧
    (∀ name, fuzz.getenv (fun _ => none) name = run.getenv (fun _ => none) name) ∧
    fuzz.getenv (fun _ => none) "PHANTOM_TRAILS_NO_ILLEGAL_JUMPS".toList = some "1".toList ∧
    fuzz.getenv (fun _ => none) "PHANTOM_TRAILS_NO_SNIPPET".toList = some "1".toList ∧
    fuzz.getenv (fun _ => none) "PHANTOM_TRAILS_NO_ARG_REUSE".toList = none := by
  obtain ⟨fuzz, run, fuzzes, runs, ⟨target, argv, placed, -, read⟩, switches⟩ :=
    fuzz_replayed campaign campaign_plain (placeInput "crash.bin".toList) "crash.bin" ⟨by simp, by decide⟩
      (if_pos rfl) (fun _ whole => if_neg fun same => whole (by rw [same]; decide)) (by decide) (fun _ => none)
      fun _ => none
  exact ⟨fuzz, run, fuzzes, runs, ⟨target, argv, placed, read fun _ _ => rfl⟩, switches⟩

end PhantomTrails
