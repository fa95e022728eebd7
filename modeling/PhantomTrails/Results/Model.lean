import Mathlib.Algebra.Order.Floor.Ring
import Mathlib.Data.List.AList
import Mathlib.Data.Rat.Floor
import PhantomTrails.Foundation.Numerals

namespace PhantomTrails

open Foundation

/-! # The evaluation of a results folder

Class `Run` of `scripts/eval-results-folder.py`, and the part of
`scripts-old/afl_helper.py` that writes `bug_timings`.  Floating-point numbers
are exact here.
-/

inductive EvalError where
  | assertion
  | unboundLocal
  | value
  | index
  | exit
deriving DecidableEq, Repr

abbrev Text := List Char

/-! ## Python -/

namespace Python

def isSpace (c : Char) : Bool :=
  c.toNat ∈ [9, 10, 11, 12, 13, 28, 29, 30, 31, 32, 0x85, 0xa0, 0x1680, 0x2028, 0x2029, 0x202f, 0x205f, 0x3000] ||
    decide (0x2000 ≤ c.toNat ∧ c.toNat ≤ 0x200a)

def strip (text : Text) : Text := ((text.dropWhile isSpace).reverse.dropWhile isSpace).reverse

def replaceChar (old new : Char) (text : Text) : Text := text.map fun c => if c = old then new else c

/-- `text.replace(pattern, "")`; `skip` characters of a match are still to be
left out. -/
def removeAll (pattern : Text) : (skip : Nat) → Text → Text
  | _, [] => []
  | skip + 1, _ :: rest => removeAll pattern skip rest
  | 0, c :: rest =>
      if pattern.isPrefixOf (c :: rest) then removeAll pattern (pattern.length - 1) rest
      else c :: removeAll pattern 0 rest

def field (parts : List Text) (i : Nat) : Except EvalError Text :=
  match parts[i]? with
  | some part => .ok part
  | none => .error .index

def natural (digits : Text) : Except EvalError ℤ :=
  if digits ≠ [] ∧ (readDigits 10 0 digits).2 = [] then .ok (readDigits 10 0 digits).1 else .error .value

def signed (number : Text → Except EvalError ℤ) : Text → Except EvalError ℤ
  | '-' :: text => (number text).map fun value => -value
  | '+' :: text => number text
  | text => number text

/-- `int` of a text, without underscores between the digits. -/
def int (text : Text) : Except EvalError ℤ := signed natural (strip text)

/-- `int(float(text))` of a text without an exponent: what is behind the
point is cut off. -/
def intFloat (text : Text) : Except EvalError ℤ :=
  signed (fun text => do
    let fraction := (text.dropWhile (· ≠ '.')).tail
    let _ ← if fraction = [] then pure 0 else natural fraction
    natural (text.takeWhile (· ≠ '.'))) (strip text)

/-- `str` of a `float` that is a whole number. -/
def strFloat (value : ℤ) : Text :=
  (if value < 0 then ['-'] else []) ++ Nat.toDigits 10 value.natAbs ++ ['.', '0']

/-- `int` of a number cuts towards zero. -/
def truncate (value : ℚ) : ℤ := if value < 0 then ⌈value⌉ else ⌊value⌋

end Python

open Python

/-! ## The iterations log -/

structure IterLogItem where
  time : ℤ
  iters : ℤ
  execs_per_sec : ℚ

def execsPerSec (delta_time delta_iters : ℤ) : ℚ :=
  if delta_time = 0 then 1 else delta_iters / delta_time

def IterLogItem.init (time iterations : ℤ) (execs_per_sec : ℚ) : Except EvalError IterLogItem :=
  if execs_per_sec > 0 then .ok ⟨time, iterations, execs_per_sec⟩ else .error .assertion

/-- The loop over `iterations_time`; a line comes as the numbers its first two
fields hold. -/
def readIterations : (last_time last_iterations : ℤ) → List (ℤ × ℤ) → Except EvalError (List IterLogItem)
  | _, _, [] => .ok []
  | last_time, last_iterations, (time, iterations) :: lines => do
      let item ← IterLogItem.init time iterations (execsPerSec (time - last_time) (iterations - last_iterations))
      let items ← readIterations time iterations lines
      pure (item :: items)

/-- What the loop of `_time_to_iterations` keeps.  `last_execs` is unbound
until the first item. -/
structure Progress where
  last_iters : ℤ
  delta_secs : ℚ
  last_execs : Option ℚ

def scanLog (time : ℚ) : Progress → List IterLogItem → Progress
  | progress, [] => progress
  | progress, i :: log =>
      if i.time > time then { progress with last_execs := some i.execs_per_sec }
      else scanLog time ⟨i.iters, time - i.time, some i.execs_per_sec⟩ log

def timeToIterations (log : List IterLogItem) (time : ℚ) : Except EvalError ℤ :=
  let progress := scanLog time ⟨0, time, none⟩ log
  if progress.delta_secs < 0 then .error .assertion
  else
    match progress.last_execs with
    | none => .error .unboundLocal
    | some last_execs => .ok (truncate (progress.last_iters + progress.delta_secs * last_execs))

/-! ## The three loaders -/

structure Run where
  tte_seconds : AList fun _ : Text => ℤ := ∅
  tte_iterations : AList fun _ : Text => ℚ := ∅

/-- The merging of static and dynamic bug types, if asked for. -/
def mergeKind (merge : Bool) (kind : Text) : Text :=
  if merge then removeAll " dynamic".toList 0 (removeAll " static".toList 0 kind) else kind

def libaflLine (merge : Bool) (log : List IterLogItem) (run : Run) (line : Text) : Except EvalError Run := do
  let parts := line.splitOn '$'
  let time ← int (← field parts 0)
  let kind := mergeKind merge (strip (← field parts 1))
  if kind ∈ run.tte_seconds then pure run
  else
    let iterations ← timeToIterations log time
    pure { tte_seconds := run.tte_seconds.insert kind time
           tte_iterations := run.tte_iterations.insert kind iterations }

def initLibafl (merge : Bool) (iterations_time : List (ℤ × ℤ)) (found_all : List Text) :
    Except EvalError Run := do
  let log ← readIterations 0 0 iterations_time
  found_all.foldlM (libaflLine merge log) {}

def aflppLine (state : Run × ℤ) (line : Text) : Except EvalError (Run × ℤ) := do
  let parts := line.splitOn '|'
  let secs ← intFloat (← field parts 0)
  let bug := strip (← field parts 1)
  pure ({ state.1 with tte_seconds := state.1.tte_seconds.insert bug secs }, max secs state.2)

/-- `total` is the number of distinct inputs that `_get_total_iter_count`
finds in the folder. -/
def initAflpp (total : ℕ) (bug_timings : List Text) : Except EvalError Run := do
  let (run, max_secs) ← bug_timings.foldlM aflppLine ({}, 1)
  if run.tte_seconds.keys = [] then throw .exit
  let execs_per_sec : ℚ := total / max_secs
  let tte_iterations := run.tte_seconds.entries.foldl
    (fun iterations bug => iterations.insert bug.1 (bug.2 * execs_per_sec)) ∅
  pure { run with tte_iterations }

/-- A file of the causes directory, with what `os.stat` says about it. -/
structure CauseFile where
  name : Text
  isFile : Bool := true
  mtime : ℤ
  ctime : ℤ

def partialCause (merge : Bool) (log : List IterLogItem) (start_time : ℤ) (run : Run) (cause : CauseFile) :
    Except EvalError Run := do
  let time := cause.ctime - start_time
  let kind := mergeKind merge (replaceChar '_' ' ' (strip (← field (cause.name.splitOn '%') 0)))
  if run.tte_seconds.lookup kind = none ∨ ∃ known ∈ run.tte_seconds.lookup kind, time < known then
    let iterations ← timeToIterations log time
    pure { tte_seconds := run.tte_seconds.insert kind time
           tte_iterations := run.tte_iterations.insert kind iterations }
  else pure run

def initPartial (merge : Bool) (iterations_time : List (ℤ × ℤ)) (start_time : ℤ) (causes : List CauseFile) :
    Except EvalError Run := do
  let log ← readIterations 0 0 iterations_time
  causes.foldlM (partialCause merge log start_time) {}

/-! ## What `afl_helper.py` writes -/

/-- The part of a file's name in front of the first `%`. -/
def bugName (file : CauseFile) : Text := (file.name.splitOn '%').headD []

def keepMinimum (result : AList fun _ : Text => ℤ) (file : CauseFile) : AList fun _ : Text => ℤ :=
  if file.isFile then
    match result.lookup (bugName file) with
    | some known => if file.mtime < known then result.insert (bugName file) file.mtime else result
    | none => result.insert (bugName file) file.mtime
  else result

def getFoundBugsWithTime (causes : List CauseFile) : AList fun _ : Text => ℤ := causes.foldl keepMinimum ∅

/-- The bugs come in the order of the table, not in that of a dict. -/
def writeBugTimings (start_time : ℤ) (causes : List CauseFile) : List Text :=
  (getFoundBugsWithTime causes).entries.map fun bug =>
    strFloat (bug.2 - start_time) ++ '|' :: bug.1 ++ ['\n']

end PhantomTrails
