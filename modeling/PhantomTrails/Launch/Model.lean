import PhantomTrails.Foundation.Shell
import PhantomTrails.Logging.Callback
import PhantomTrails.Main.CodeRegions
import PhantomTrails.Main.Model

namespace PhantomTrails

open Foundation

/-! # From the command line to `args_t`

`scripts/phantom-trails` puts a shell command together, whose words and
environment the constructor of `args_t` takes apart again.
-/

/-! ## The script -/

inductive Opt where
  | none | basic | dataflow | controlflow | all
deriving DecidableEq, Repr

/-- The options of both `run` and `fuzz`. -/
structure RuntimeArgs where
  config : String := "FuzzConfig"
  cycles : Int := 20
  rom : String := "/boom-wrapper/boot/bootrom.rv64.img"
  init : String := "/boom-wrapper/init/init.bin"
  mds : Bool := false
  mds_init : String := "/boom-wrapper/init/init-mds.bin"
  mds_taint_cycle : Int := 1733
  opt : Opt := .all

structure RunArgs extends RuntimeArgs where
  binary : String
  verbose : Bool := false
  code_regions : Option String := none
  logfile : Option String := none
  report : Bool := false

structure FuzzArgs extends RuntimeArgs where
  simple_ui : Bool := false
  aflpath : String := "sim-fuzzer"
  indir : String := "in"
  outdir : String := "out"

def build_simulation_name (config : String) (debug : Bool) : String :=
  if debug then "./run-" ++ config ++ "-debug" else "./run-" ++ config

/-- Helper to build and run PhantomTrails commands. -/
structure Cmd where
  env : String := ""
  fuzz_cmd : String := ""
  sim : String := ""
  bin : String := ""
  rom : String := ""
  cycles : Int := 20
  init : String := ""
  additional : String := ""

namespace Cmd

/-- `__str__`. -/
def str (cmd : Cmd) : String :=
  cmd.env ++ " " ++ cmd.fuzz_cmd ++ " " ++ cmd.sim ++ " " ++ cmd.bin ++ " " ++ cmd.rom ++ " " ++
    toString cmd.cycles ++ " " ++ cmd.init ++ " " ++ cmd.additional

def add_env_var (cmd : Cmd) (name : String) (val : Option String) : Cmd :=
  { cmd with env := cmd.env ++ " " ++ name ++ "=" ++ val.getD "1" }

def remove_dataflow_opt (cmd : Cmd) : Cmd := { cmd with init := "/boom-wrapper/init/init-no-dataflow.bin" }

def remove_controlflow_opt (cmd : Cmd) : Cmd :=
  (cmd.add_env_var "PHANTOM_TRAILS_NO_ILLEGAL_JUMPS" none).add_env_var "PHANTOM_TRAILS_NO_SNIPPET" none

def remove_basic_opt (cmd : Cmd) : Cmd := cmd.add_env_var "PHANTOM_TRAILS_NO_ARG_REUSE" none

def from_args (args : RuntimeArgs) (program : String) : Cmd :=
  let cmd : Cmd :=
    { env := if args.mds then "MDS=1 MDS_INIT=" ++ args.mds_init ++ " MDS_TAINT_CYCLE=" ++
        toString args.mds_taint_cycle ++ " " else ""
      sim := build_simulation_name (if args.mds then "MDSConfig" else args.config) false
      bin := program
      rom := args.rom
      cycles := args.cycles
      init := args.init }
  match args.opt with
  | .all => cmd
  | .none => cmd.remove_dataflow_opt.remove_controlflow_opt.remove_basic_opt
  | .basic => cmd.remove_dataflow_opt.remove_controlflow_opt
  | .dataflow => cmd.remove_controlflow_opt
  | .controlflow => cmd.remove_dataflow_opt

end Cmd

/-- The command that `run_sim` gives to the shell. -/
def run_sim (args : RunArgs) : Cmd :=
  let cmd := Cmd.from_args args.toRuntimeArgs args.binary
  let cmd := match args.code_regions with
    | some regions => cmd.add_env_var "CODE_REGIONS" regions
    | none => cmd
  let cmd := if args.verbose || args.report then
    (cmd.add_env_var "VERBOSE_SIM" none).add_env_var "VERBOSE_ISA" none else cmd
  let cmd := if args.report then
    ((((cmd.add_env_var "PRINT_CYCLES" none).add_env_var "PRINT_COVERAGE" none).add_env_var "PRINT_ROB"
      none).add_env_var "CRASH_REPORT" none).add_env_var "MEMDUMP" none else cmd
  match args.logfile with
  | some logfile => if logfile = "" then cmd else
      { cmd with additional := cmd.additional ++ " > " ++ logfile ++ " 2>&1" }
  | none => cmd

/-- The command of `run_fuzzer`; `@@` is the program the fuzzer makes. -/
def run_fuzzer (args : FuzzArgs) : Cmd :=
  let fuzz_cmd := args.aflpath ++ " -i " ++ args.indir ++ " -o " ++ args.outdir
  { Cmd.from_args args.toRuntimeArgs "@@" with fuzz_cmd := if args.simple_ui then fuzz_cmd ++ " -s" else fuzz_cmd }

/-! ## The constructor of `args_t` -/

inductive LaunchError where
  | usage
  /-- A number that does not fit an `int`. -/
  | undefined
  | number (error : RegionsError)
deriving DecidableEq, Repr

/-- `args_t`.  Nothing initialises `initSize` if `INIT_SIZE` is not set. -/
structure ParsedArgs where
  romPath : List Char
  initCodePath : Option (List Char)
  programPath : List Char
  spikeCyclesPerInst : UInt64
  mds : Bool
  mdsTaintCycle : UInt64
  mdsInitPath : Option (List Char)
  codeRegions : List Region
  log : LogArgs
  verboseSim : Bool
  verboseISA : Bool
  printCrashReport : Bool
  memdumpPath : List Char
  initSize : Option UInt64

/-- `atoi`: without digits the number is zero. -/
def atoi (text : List Char) : Except LaunchError Int :=
  let signed := text.dropWhile isspace
  let digits := (readDigits 10 0 (skipSign signed)).1
  let value : Int := if signed.head? = some '-' then -digits else digits
  if -2 ^ 31 ≤ value ∧ value < 2 ^ 31 then .ok value else .error .undefined

/-- `std::stoul(text)`, in base 10. -/
def stoulDecimal (text : List Char) : Except RegionsError UInt64 :=
  let signed := text.dropWhile isspace
  let digits := skipSign signed
  if digits.head?.any fun c => (digitIn 10 c).isSome then
    if (readDigits 10 0 digits).1 < UInt64.size then
      if signed.head? = some '-' then .ok (-UInt64.ofNat (readDigits 10 0 digits).1)
      else .ok (UInt64.ofNat (readDigits 10 0 digits).1)
    else .error .outOfRange
  else .error .invalidArgument

def LaunchError.ofNumber {α : Type} : Except RegionsError α → Except LaunchError α
  | .ok value => .ok value
  | .error error => .error (.number error)

/-- A file that cannot be opened has no lines. -/
def args_t (files : List Char → Option (List Char)) (argv : List (List Char))
    (getenv : String → Option (List Char)) : Except LaunchError ParsedArgs :=
  match argv with
  | _ :: programPath :: romPath :: optional => do
      let cycles ← optional.head?.elim (pure 20) atoi
      let initSize ← (getenv "INIT_SIZE").elim (pure none) fun size => (LaunchError.ofNumber (stoul size)).map some
      let mds := (getenv "MDS").isSome
      let mdsTaintCycle ← (if mds then getenv "MDS_TAINT_CYCLE" else none).elim (pure 0) fun cycle =>
        LaunchError.ofNumber (stoulDecimal cycle)
      let regions ← (getenv "CODE_REGIONS").elim (pure []) fun path =>
        LaunchError.ofNumber (codeRegions ((files path).getD []))
      pure
        { romPath, programPath, initSize, mds, mdsTaintCycle
          initCodePath := optional[1]?
          spikeCyclesPerInst := .ofInt cycles
          mdsInitPath := if mds then getenv "MDS_INIT" else none
          codeRegions := regions
          log := { printCycles := (getenv "PRINT_CYCLES").isSome, printROB := (getenv "PRINT_ROB").isSome
                   printLSQ := (getenv "PRINT_LSQ").isSome, printRegFile := (getenv "PRINT_REGFILE").isSome
                   printBIM := (getenv "PRINT_BIM").isSome, printLoop := (getenv "PRINT_LOOP").isSome
                   printMSHR := (getenv "PRINT_MSHR").isSome }
          verboseSim := (getenv "VERBOSE_SIM").isSome
          verboseISA := (getenv "VERBOSE_ISA").isSome
          printCrashReport := (getenv "CRASH_REPORT").isSome
          memdumpPath := if (getenv "MEMDUMP").isSome then programPath ++ ".memdump".toList else [] }
  | _ => .error .usage

theorem mds_of_mdsInit {mds : Bool} {file : Option (Option Buffer)}
    (given : (if mds then file else none).isSome = true) : mds = true := by
  cases mds with
  | true => rfl
  | false => cases given

/-- The arguments of the rounds: the files are opened, and `garbage` is the
`initSize` that nothing has set. -/
def ParsedArgs.mainArgs (images : List Char → Option Buffer) (garbage : UInt64)
    (getenv : String → Option (List Char)) (parsed : ParsedArgs) : MainArgs where
  initCode := parsed.initCodePath.map images
  mdsInit := if parsed.mds then parsed.mdsInitPath.map images else none
  program := images parsed.programPath
  initSize := parsed.initSize.getD garbage
  spikeCyclesPerInst := parsed.spikeCyclesPerInst
  discardIllegalJumps := (getenv "PHANTOM_TRAILS_NO_ILLEGAL_JUMPS").isNone
  mds := parsed.mds
  mdsOnly := mds_of_mdsInit

end PhantomTrails
