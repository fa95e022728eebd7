import Mathlib.Tactic.Positivity
import PhantomTrails.Foundation.Loops
import PhantomTrails.Foundation.Tables
import PhantomTrails.Results.Model

namespace PhantomTrails

open Foundation Python

/-! # Three files of one campaign

The findings of a campaign, written as a `found_all` file, as a `causes`
directory, or as the `bug_timings` file made from such a directory, and what
the loaders make of each.
-/

def Edges (text : Text) : Prop :=
  (∀ c ∈ text.head?, isSpace c = false) ∧ ∀ c ∈ text.getLast?, isSpace c = false

instance (text : Text) : Decidable (Edges text) :=
  have (c : Option Char) : Decidable (∀ d ∈ c, isSpace d = false) := Option.decidableForallMem c
  inferInstanceAs (Decidable (_ ∧ _))

/-- Without a character that the files use as a separator. -/
def Clear (text : Text) : Prop := ∀ c ∈ text, c ∉ ['$', '|', '%', '_', '\n', '\r']

instance (text : Text) : Decidable (Clear text) := List.decidableBAll (fun c => c ∉ ['$', '|', '%', '_', '\n', '\r']) text

/-- The kind of a bug, under its name in `expected_findings`: words with
spaces between them. -/
structure Kind where
  name : Text
  clear : Clear name
  edges : Edges name

/-- The kind at the front of a cause's file name. -/
def Kind.fileName (kind : Kind) : Text := replaceChar ' ' '_' kind.name

structure Finding where
  kind : Kind
  secs : ℕ

def foundAll (findings : List Finding) : List Text :=
  findings.map fun finding => Nat.toDigits 10 finding.secs ++ '$' :: (finding.kind.name ++ ['\n'])

/-- Each finding has a file of its own, named after the kind and the program. -/
def causesDir (start_time : ℤ) (saved : List (Finding × Text)) : List CauseFile :=
  saved.map fun cause =>
    { name := cause.1.kind.fileName ++ '%' :: cause.2
      mtime := start_time + cause.1.secs
      ctime := start_time + cause.1.secs }

def timesBy (name : Kind → Text) (findings : List Finding) : List (Text × ℤ) :=
  findings.map fun finding => (name finding.kind, (finding.secs : ℤ))

/-! ## Texts -/

section Texts

variable {text : Text} {kind : Kind} {c : Char}

theorem dropWhile_of_head {p : Char → Bool} (front : ∀ c ∈ text.head?, p c = false) :
    text.dropWhile p = text := by
  cases text with
  | nil => rfl
  | cons c text => rw [List.dropWhile_cons, if_neg (by simp [front c rfl])]

theorem strip_of_edges (edges : Edges text) : strip text = text := by
  have back : ∀ c ∈ text.reverse.head?, isSpace c = false := by
    simpa using edges.2
  rw [strip, dropWhile_of_head edges.1, dropWhile_of_head back, List.reverse_reverse]

/-- A line break at the end is stripped off. -/
theorem strip_newline (edges : Edges text) : strip (text ++ ['\n']) = text := by
  cases text with
  | nil => rfl
  | cons c text =>
      have front : ∀ d ∈ (c :: text ++ ['\n']).head?, isSpace d = false := edges.1
      have back : ∀ d ∈ (c :: text).reverse.head?, isSpace d = false := by
        rw [List.head?_reverse]
        exact edges.2
      rw [strip, dropWhile_of_head front, List.reverse_append, List.reverse_singleton, List.singleton_append,
        List.dropWhile_cons, if_pos (by decide), dropWhile_of_head back, List.reverse_reverse]

theorem Kind.not_mem (kind : Kind) (separator : c ∈ ['$', '|', '%', '_', '\n', '\r']) : c ∉ kind.name :=
  fun member => kind.clear c member separator

theorem Kind.fileName_not_mem (kind : Kind) (separator : c ∈ ['$', '|', '%', '\n', ' ']) : c ∉ kind.fileName := by
  intro member
  obtain ⟨d, inside, same⟩ := List.mem_map.mp member
  split at same
  · subst same
    exact absurd separator (by decide)
  · rename_i visible
    subst same
    simp only [List.mem_cons, List.not_mem_nil, or_false] at separator
    rcases separator with rfl | rfl | rfl | rfl | rfl
    · exact kind.clear _ inside (by decide)
    · exact kind.clear _ inside (by decide)
    · exact kind.clear _ inside (by decide)
    · exact kind.clear _ inside (by decide)
    · exact visible rfl

theorem Kind.fileName_edges (kind : Kind) : Edges kind.fileName := by
  have kept : ∀ c : Char, isSpace c = false → isSpace (if c = ' ' then '_' else c) = false := by
    intro c visible
    split
    · rfl
    · exact visible
  constructor
  · intro c front
    rw [fileName, replaceChar, List.head?_map] at front
    obtain ⟨d, first, rfl⟩ := Option.map_eq_some_iff.mp front
    exact kept d (kind.edges.1 d first)
  · intro c back
    rw [fileName, replaceChar, List.getLast?_map] at back
    obtain ⟨d, last, rfl⟩ := Option.map_eq_some_iff.mp back
    exact kept d (kind.edges.2 d last)

/-- The loader of a causes directory turns the underscores back. -/
theorem Kind.name_of_fileName (kind : Kind) : replaceChar '_' ' ' kind.fileName = kind.name := by
  have back : ∀ c ∈ kind.name, (if (if c = ' ' then '_' else c) = '_' then ' ' else if c = ' ' then '_' else c) = c := by
    intro c member
    have joined : c ≠ '_' := by
      intro equal
      subst equal
      exact kind.not_mem (by decide) member
    by_cases space : c = ' '
    · rw [if_pos space, if_pos rfl, space]
    · rw [if_neg space, if_neg joined]
  rw [fileName, replaceChar, replaceChar, List.map_map]
  exact (List.map_congr_left back).trans (List.map_id' _)

theorem Kind.fileName_eq_name_iff (kind : Kind) : kind.fileName = kind.name ↔ ' ' ∉ kind.name := by
  constructor
  · intro same spaced
    rw [← same] at spaced
    exact kind.fileName_not_mem (by decide) spaced
  · intro joined
    have kept : ∀ c ∈ kind.name, (if c = ' ' then '_' else c) = c := by
      intro c member
      have visible : c ≠ ' ' := by
        intro equal
        subst equal
        exact joined member
      exact if_neg visible
    rw [fileName, replaceChar, List.map_congr_left kept, List.map_id']

end Texts

/-! ## Numbers -/

section Numbers

variable {n : ℕ} {c : Char} {rest : Text}

/-- No sign and no separator is a digit. -/
theorem not_mem_decimal (sign : c ∈ ['-', '+', '.', '$', '|']) : c ∉ Nat.toDigits 10 n := by
  intro member
  obtain ⟨digit, below, rfl⟩ := mem_toDigits (by decide) member
  clear member
  revert digit
  decide

theorem visible_of_decimal (member : c ∈ Nat.toDigits 10 n) : isSpace c = false := by
  obtain ⟨digit, below, rfl⟩ := mem_toDigits (by decide) member
  clear member
  revert digit
  decide

theorem natural_toDigits : natural (Nat.toDigits 10 n) = .ok n := by
  have digits := readDigits_toDigits (by decide : 1 < 10) (by decide) n []
  rw [List.append_nil] at digits
  rw [natural, digits, if_pos ⟨Nat.toDigits_ne_nil, rfl⟩]
  rfl

theorem natural_zero : natural ['0'] = .ok 0 := rfl

/-- A number without a sign. -/
theorem signed_toDigits (number : Text → Except EvalError ℤ) :
    signed number (Nat.toDigits 10 n ++ rest) = number (Nat.toDigits 10 n ++ rest) := by
  obtain ⟨digit, more, below, text, -⟩ := toDigits_eq_cons (by decide : 1 < 10) n
  have first : digit.digitChar ∈ Nat.toDigits 10 n := by rw [text]; exact List.mem_cons_self
  rw [signed]
  · intro after minus
    rw [text, List.cons_append, List.cons.injEq] at minus
    exact not_mem_decimal (by decide) (minus.1 ▸ first)
  · intro after plus
    rw [text, List.cons_append, List.cons.injEq] at plus
    exact not_mem_decimal (by decide) (plus.1 ▸ first)

theorem edges_decimal (ends : ∀ c ∈ rest.getLast?, isSpace c = false) : Edges (Nat.toDigits 10 n ++ rest) := by
  constructor
  · intro c front
    rw [List.head?_append_of_ne_nil _ Nat.toDigits_ne_nil] at front
    exact visible_of_decimal (List.mem_of_mem_head? front)
  · intro c back
    rw [List.getLast?_append] at back
    cases last : rest.getLast? with
    | some d =>
        rw [last, Option.some_or] at back
        exact ends c (last ▸ back)
    | none =>
        rw [last, Option.none_or] at back
        exact visible_of_decimal (List.mem_of_getLast? back)

theorem int_toDigits : int (Nat.toDigits 10 n) = .ok n := by
  have edges : Edges (Nat.toDigits 10 n ++ []) := edges_decimal (by simp)
  have plain : signed natural (Nat.toDigits 10 n ++ []) = natural (Nat.toDigits 10 n ++ []) := signed_toDigits natural
  rw [List.append_nil] at edges plain
  rw [int, strip_of_edges edges, plain, natural_toDigits]

theorem strFloat_natCast (n : ℕ) : strFloat n = Nat.toDigits 10 n ++ ['.', '0'] := by simp [strFloat]

/-- The digits behind the point are cut off again. -/
theorem intFloat_strFloat : intFloat (strFloat n) = .ok n := by
  have digits : ∀ c ∈ Nat.toDigits 10 n, decide (c ≠ '.') = true := by
    intro c member
    rw [decide_eq_true_iff]
    intro equal
    subst equal
    exact not_mem_decimal (by decide) member
  have ends : ∀ c ∈ ['.', '0'].getLast?, isSpace c = false := by
    intro c back
    cases back
    rfl
  rw [intFloat, strFloat_natCast, strip_of_edges (edges_decimal ends), signed_toDigits]
  rw [List.dropWhile_append_of_pos digits, List.takeWhile_append_of_pos digits]
  simp [List.dropWhile, List.takeWhile, natural_toDigits, natural_zero, bind, Except.bind]

end Numbers

/-! ## One line, one cause, one file -/

section Lines

variable {log : List IterLogItem} {progress : Progress} {start_time : ℤ} {t : ℚ}

theorem delta_secs_nonneg (start : 0 ≤ progress.delta_secs) : 0 ≤ (scanLog t progress log).delta_secs := by
  induction log generalizing progress with
  | nil => exact start
  | cons i log ih =>
      rw [scanLog]
      split
      · exact start
      · rename_i reached
        exact ih (sub_nonneg.mpr (le_of_not_gt reached))

theorem last_execs_bound (bound : log ≠ [] ∨ ∃ rate, progress.last_execs = some rate) :
    ∃ rate, (scanLog t progress log).last_execs = some rate := by
  induction log generalizing progress with
  | nil => exact bound.resolve_left fun nonempty => nonempty rfl
  | cons i log ih =>
      rw [scanLog]
      split
      · exact ⟨_, rfl⟩
      · exact ih (.inr ⟨_, rfl⟩)

/-- No time of a finding is too early for a log with samples. -/
theorem timeToIterations_ok (nonempty : log ≠ []) (start : 0 ≤ t) : ∃ n, timeToIterations log t = .ok n := by
  have forth : 0 ≤ (scanLog t ⟨0, t, none⟩ log).delta_secs := delta_secs_nonneg start
  obtain ⟨rate, bound⟩ : ∃ rate, (scanLog t ⟨0, t, none⟩ log).last_execs = some rate :=
    last_execs_bound (.inl nonempty)
  simp [timeToIterations, not_lt_of_ge forth, bound]

theorem foundLine_splitOn (finding : Finding) :
    (Nat.toDigits 10 finding.secs ++ '$' :: (finding.kind.name ++ ['\n'])).splitOn '$' =
      [Nat.toDigits 10 finding.secs, finding.kind.name ++ ['\n']] := by
  have joined : '$' ∉ finding.kind.name ++ ['\n'] := by
    rw [List.mem_append, not_or]
    exact ⟨finding.kind.not_mem (by decide), by decide⟩
  rw [List.splitOn_append_cons_self_of_not_mem (not_mem_decimal (by decide)), List.splitOn_eq_singleton joined]

/-- A kind found at a time, and the iterations until then. -/
def Run.found (run : Run) (name : Text) (secs n : ℤ) : Run where
  tte_seconds := run.tte_seconds.insert name secs
  tte_iterations := run.tte_iterations.insert name n

theorem mergeKind_false (kind : Text) : mergeKind false kind = kind := rfl

theorem libaflLine_found (nonempty : log ≠ []) (run : Run) (finding : Finding) :
    ∃ n, libaflLine false log run (Nat.toDigits 10 finding.secs ++ '$' :: (finding.kind.name ++ ['\n'])) =
      .ok (if finding.kind.name ∈ run.tte_seconds then run else run.found finding.kind.name finding.secs n) := by
  have late : (0 : ℚ) ≤ ((finding.secs : ℤ) : ℚ) := by positivity
  obtain ⟨n, converted⟩ := timeToIterations_ok nonempty late
  refine ⟨n, ?_⟩
  simp only [libaflLine, foundLine_splitOn, field, List.getElem?_cons_zero, List.getElem?_cons_succ, bind, Except.bind,
    int_toDigits, mergeKind_false, strip_newline finding.kind.edges, converted]
  by_cases known : finding.kind.name ∈ run.tte_seconds
  · rw [if_pos known, if_pos known]
    rfl
  · rw [if_neg known, if_neg known]
    rfl

/-- Where a cause's file name starts with the kind. -/
theorem causeName_splitOn (kind : Kind) (program : Text) :
    ∃ rest, (kind.fileName ++ '%' :: program).splitOn '%' = kind.fileName :: rest :=
  ⟨_, List.splitOn_append_cons_self_of_not_mem (kind.fileName_not_mem (by decide)) _⟩

theorem partialCause_saved (nonempty : log ≠ []) (run : Run) (finding : Finding) (program : Text) :
    ∃ n, partialCause false log start_time run
        { name := finding.kind.fileName ++ '%' :: program
          mtime := start_time + finding.secs
          ctime := start_time + finding.secs } =
      .ok (if run.tte_seconds.lookup finding.kind.name = none ∨
          ∃ known ∈ run.tte_seconds.lookup finding.kind.name, (finding.secs : ℤ) < known
        then run.found finding.kind.name finding.secs n else run) := by
  have late : (0 : ℚ) ≤ ((finding.secs : ℤ) : ℚ) := by positivity
  obtain ⟨n, converted⟩ := timeToIterations_ok nonempty late
  obtain ⟨rest, parts⟩ := causeName_splitOn finding.kind program
  have kind : mergeKind false (replaceChar '_' ' ' (strip finding.kind.fileName)) = finding.kind.name := by
    rw [mergeKind_false, strip_of_edges finding.kind.fileName_edges, finding.kind.name_of_fileName]
  refine ⟨n, ?_⟩
  simp only [partialCause, parts, field, List.getElem?_cons_zero, bind, Except.bind, add_sub_cancel_left, converted]
  generalize mergeKind false (replaceChar '_' ' ' (strip finding.kind.fileName)) = name at kind ⊢
  subst kind
  split
  · rfl
  · rfl

theorem aflppLine_timing (state : Run × ℤ) (kind : Kind) (n : ℕ) :
    aflppLine state (strFloat n ++ '|' :: kind.fileName ++ ['\n']) =
      .ok ({ state.1 with tte_seconds := keepLast state.1.tte_seconds (kind.fileName, (n : ℤ)) }, max (n : ℤ) state.2) := by
  have number : '|' ∉ strFloat n := by
    rw [strFloat_natCast, List.mem_append, not_or]
    exact ⟨not_mem_decimal (by decide), by decide⟩
  have joined : '|' ∉ kind.fileName ++ ['\n'] := by
    rw [List.mem_append, not_or]
    exact ⟨kind.fileName_not_mem (by decide), by decide⟩
  have parts : (strFloat n ++ '|' :: kind.fileName ++ ['\n']).splitOn '|' = [strFloat n, kind.fileName ++ ['\n']] := by
    rw [List.append_assoc, List.cons_append, List.splitOn_append_cons_self_of_not_mem number,
      List.splitOn_eq_singleton joined]
  simp only [aflppLine, parts, field, List.getElem?_cons_zero, List.getElem?_cons_succ, bind, Except.bind,
    intFloat_strFloat, strip_newline kind.fileName_edges]
  rfl

end Lines

/-! ## The maps of the loaders -/

section Loads

variable {iterations : List (ℤ × ℤ)} {log : List IterLogItem} {findings : List Finding}
variable {saved : List (Finding × Text)} {start_time : ℤ}

/-- Of the lines for one kind, the first counts. -/
theorem initLibafl_tte (logged : readIterations 0 0 iterations = .ok log) (nonempty : log ≠ [])
    (findings : List Finding) :
    ∃ run, initLibafl false iterations (foundAll findings) = .ok run ∧
      run.tte_seconds = (timesBy Kind.name findings).foldl keepFirst ∅ := by
  have steps : ∀ run, ∀ finding ∈ findings, ∃ next,
      libaflLine false log run
          (Nat.toDigits 10 finding.secs ++ '$' :: (finding.kind.name ++ ['\n'])) = .ok next ∧
        next.tte_seconds = keepFirst run.tte_seconds (finding.kind.name, (finding.secs : ℤ)) := by
    intro run finding _
    obtain ⟨n, line⟩ := libaflLine_found nonempty run finding
    refine ⟨_, line, ?_⟩
    rw [keepFirst]
    split
    · rfl
    · rfl
  obtain ⟨run, lines, kept⟩ := foldlM_ok {} steps
  refine ⟨run, ?_, kept⟩
  rw [initLibafl, logged, foundAll]
  exact List.foldlM_map.trans lines

/-- Of the causes of one kind, the earliest counts. -/
theorem initPartial_tte (logged : readIterations 0 0 iterations = .ok log) (nonempty : log ≠ [])
    (start_time : ℤ) (saved : List (Finding × Text)) :
    ∃ run, initPartial false iterations start_time (causesDir start_time saved) = .ok run ∧
      run.tte_seconds = (timesBy Kind.name (saved.map Prod.fst)).foldl keepLeast ∅ := by
  have steps : ∀ run, ∀ cause ∈ saved, ∃ next,
      partialCause false log start_time run
          { name := cause.1.kind.fileName ++ '%' :: cause.2
            mtime := start_time + cause.1.secs
            ctime := start_time + cause.1.secs } = .ok next ∧
        next.tte_seconds = keepLeast run.tte_seconds (cause.1.kind.name, (cause.1.secs : ℤ)) := by
    intro run cause _
    obtain ⟨n, line⟩ := partialCause_saved nonempty run cause.1 cause.2
    refine ⟨_, line, ?_⟩
    rw [keepLeast]
    cases run.tte_seconds.lookup cause.1.kind.name with
    | none => rfl
    | some known =>
        by_cases sooner : (cause.1.secs : ℤ) < known
        · simp [sooner, Run.found]
        · simp [sooner]
  obtain ⟨run, causes, kept⟩ := foldlM_ok {} steps
  refine ⟨run, ?_, ?_⟩
  · rw [initPartial, logged, causesDir]
    exact List.foldlM_map.trans causes
  · rw [kept, timesBy, List.map_map]
    rfl

/-- `afl_helper.py` looks for the earliest cause too, under the name in front of the `%`. -/
theorem getFoundBugsWithTime_saved (start_time : ℤ) (saved : List (Finding × Text)) :
    getFoundBugsWithTime (causesDir start_time saved) =
      (saved.map fun cause => (cause.1.kind.fileName, start_time + (cause.1.secs : ℤ))).foldl keepLeast ∅ := by
  have bug : ∀ cause : Finding × Text, (((cause.1.kind.fileName ++ '%' :: cause.2).splitOn '%').headD []) =
      cause.1.kind.fileName := by
    intro cause
    obtain ⟨rest, parts⟩ := causeName_splitOn cause.1.kind cause.2
    rw [parts]
    rfl
  rw [getFoundBugsWithTime, causesDir, List.foldl_map, List.foldl_map]
  congr 1
  funext table cause
  rw [keepMinimum, if_pos rfl, keepLeast, bugName, bug cause]
  dsimp only
  cases table.lookup cause.1.kind.fileName with
  | none => rfl
  | some known => rfl

theorem lookup_getFoundBugsWithTime {name : Text} {secs : ℤ} :
    (getFoundBugsWithTime (causesDir start_time saved)).lookup name = some (start_time + secs) ↔
      IsLeastOf (timesBy Kind.fileName (saved.map Prod.fst)) name secs := by
  have shifted : ∀ time, (name, start_time + time) ∈
      saved.map (fun cause => (cause.1.kind.fileName, start_time + (cause.1.secs : ℤ))) ↔
        (name, time) ∈ timesBy Kind.fileName (saved.map Prod.fst) := by
    intro time
    simp [timesBy]
  rw [getFoundBugsWithTime_saved, lookup_keepLeast_iff, shifted]
  simp only [AList.lookup_empty, reduceCtorEq, false_or]
  constructor
  · intro ⟨member, least⟩
    refine ⟨member, fun other also => ?_⟩
    exact Int.le_of_add_le_add_left (least _ ((shifted other).mpr also))
  · intro ⟨member, least⟩
    refine ⟨member, fun other also => ?_⟩
    have back : start_time + (other - start_time) = other := by omega
    have earliest := least (other - start_time) ((shifted _).mp (by rwa [back]))
    omega

/-- A bug in the file is the kind of a finding. -/
theorem exists_of_mem_entries {bug : (_ : Text) × ℤ}
    (member : bug ∈ (getFoundBugsWithTime (causesDir start_time saved)).entries) :
    ∃ kind : Kind, ∃ secs : ℕ, bug.1 = kind.fileName ∧ bug.2 - start_time = secs := by
  have known := AList.mem_lookup_iff.mpr member
  have forth : start_time + (bug.2 - start_time) = bug.2 := by omega
  have least := lookup_getFoundBugsWithTime.mp (known.trans (congrArg some forth.symm))
  obtain ⟨finding, -, same⟩ := List.mem_map.mp least.1
  obtain ⟨name, secs⟩ := Prod.mk.inj same
  exact ⟨finding.kind, finding.secs, name.symm, secs.symm⟩

/-- The kinds of the file keep their underscores. -/
theorem bugTimings_loaded (start_time : ℤ) (saved : List (Finding × Text)) :
    ∃ run max_secs, (writeBugTimings start_time (causesDir start_time saved)).foldlM aflppLine ({}, 1) =
        .ok (run, max_secs) ∧
      ∀ name secs, run.tte_seconds.lookup name = some secs ↔
        IsLeastOf (timesBy Kind.fileName (saved.map Prod.fst)) name secs := by
  have steps : ∀ state, ∀ bug ∈ (getFoundBugsWithTime (causesDir start_time saved)).entries, ∃ next,
      aflppLine state (strFloat (bug.2 - start_time) ++ '|' :: bug.1 ++ ['\n']) = .ok next ∧
        next.1.tte_seconds = keepLast state.1.tte_seconds (bug.1, bug.2 - start_time) := by
    intro state bug member
    obtain ⟨kind, secs, name, time⟩ := exists_of_mem_entries member
    rw [name, time]
    exact ⟨_, aflppLine_timing state kind secs, rfl⟩
  obtain ⟨⟨run, max_secs⟩, lines, kept⟩ := foldlM_ok ({}, 1) steps
  refine ⟨run, max_secs, List.foldlM_map.trans lines, fun name secs => ?_⟩
  have distinct : (((getFoundBugsWithTime (causesDir start_time saved)).entries.map
      fun bug => (bug.1, bug.2 - start_time)).map Prod.fst).Nodup := by
    rw [List.map_map]
    exact (getFoundBugsWithTime (causesDir start_time saved)).nodupKeys
  have timed : (name, secs) ∈ (getFoundBugsWithTime (causesDir start_time saved)).entries.map
      (fun bug => (bug.1, bug.2 - start_time)) ↔
        ⟨name, start_time + secs⟩ ∈ (getFoundBugsWithTime (causesDir start_time saved)).entries := by
    rw [List.mem_map]
    constructor
    · intro given
      obtain ⟨bug, member, same⟩ := given
      obtain ⟨rfl, rfl⟩ := Prod.mk.inj same
      rwa [add_sub_cancel]
    · intro member
      exact ⟨_, member, by rw [add_sub_cancel_left]⟩
  rw [kept, lookup_keepLast_iff distinct (by simp), timed, ← AList.mem_lookup_iff, Option.mem_def,
    lookup_getFoundBugsWithTime]
  simp

theorem initAflpp_nothing (total : ℕ) : initAflpp total (writeBugTimings start_time (causesDir start_time [])) =
    .error .exit := rfl

theorem initAflpp_tte (total : ℕ) (start_time : ℤ) (something : saved ≠ []) :
    ∃ run, initAflpp total (writeBugTimings start_time (causesDir start_time saved)) = .ok run ∧
      ∀ name secs, run.tte_seconds.lookup name = some secs ↔
        IsLeastOf (timesBy Kind.fileName (saved.map Prod.fst)) name secs := by
  obtain ⟨run, max_secs, loaded, times⟩ := bugTimings_loaded start_time saved
  have kinds : run.tte_seconds.keys ≠ [] := by
    obtain ⟨cause, member⟩ := List.exists_mem_of_ne_nil saved something
    have timed : (cause.1.kind.fileName, (cause.1.secs : ℤ)) ∈ timesBy Kind.fileName (saved.map Prod.fst) :=
      List.mem_map.mpr ⟨cause.1, List.mem_map_of_mem member, rfl⟩
    obtain ⟨least, earliest⟩ := exists_isLeastOf timed
    have known := (times _ _).mpr earliest
    have key : cause.1.kind.fileName ∈ run.tte_seconds := by
      rw [← AList.lookup_isSome, known]
      rfl
    exact List.ne_nil_of_mem (AList.mem_keys.mp key)
  let keep := fun (iterations : AList fun _ : Text => ℚ) (bug : (_ : Text) × ℤ) =>
    iterations.insert bug.1 ((bug.2 : ℚ) * (total / max_secs))
  refine ⟨{ run with tte_iterations := run.tte_seconds.entries.foldl keep ∅ }, ?_, times⟩
  rw [initAflpp, loaded]
  simp only [bind, Except.bind, if_neg kinds]
  rfl

/-! ## Agreement -/

/-- The loader's map has every kind, under its name, with the least of its times. -/
def Loads (findings : List Finding) (loaded : Except EvalError Run) : Prop :=
  ∃ run, loaded = .ok run ∧
    ∀ name secs, run.tte_seconds.lookup name = some secs ↔ IsLeastOf (timesBy Kind.name findings) name secs

theorem mem_timesBy_of_perm {name : Kind → Text} {others : List Finding} (same : findings.Perm others)
    {entry : Text × ℤ} : entry ∈ timesBy name findings ↔ entry ∈ timesBy name others :=
  (same.map _).mem_iff

theorem isLeastOf_of_perm {name : Kind → Text} {others : List Finding} (same : findings.Perm others)
    {key : Text} {secs : ℤ} : IsLeastOf (timesBy name findings) key secs ↔ IsLeastOf (timesBy name others) key secs := by
  simp only [IsLeastOf, mem_timesBy_of_perm same]

/-- `found_all` has to list the earliest finding of a kind first. -/
theorem loads_initLibafl_iff (logged : readIterations 0 0 iterations = .ok log) (nonempty : log ≠ []) :
    Loads findings (initLibafl false iterations (foundAll findings)) ↔ FirstIsLeast (timesBy Kind.name findings) := by
  obtain ⟨run, loaded, kept⟩ := initLibafl_tte logged nonempty findings
  rw [← keepFirst_isLeastOf_iff, ← kept]
  constructor
  · intro given
    obtain ⟨other, also, least⟩ := given
    cases loaded.symm.trans also
    exact least
  · intro least
    exact ⟨run, loaded, least⟩

theorem loads_initPartial (logged : readIterations 0 0 iterations = .ok log) (nonempty : log ≠ [])
    (start_time : ℤ) (same : (saved.map Prod.fst).Perm findings) :
    Loads findings (initPartial false iterations start_time (causesDir start_time saved)) := by
  obtain ⟨run, loaded, kept⟩ := initPartial_tte logged nonempty start_time saved
  refine ⟨run, loaded, fun name secs => ?_⟩
  rw [← isLeastOf_of_perm same, kept, lookup_keepLeast_iff, IsLeastOf]
  simp

/-- The `bug_timings` file has to be about something, and about kinds of one word. -/
theorem loads_initAflpp_iff (total : ℕ) (same : (saved.map Prod.fst).Perm findings) :
    Loads findings (initAflpp total (writeBugTimings start_time (causesDir start_time saved))) ↔
      findings ≠ [] ∧ ∀ finding ∈ findings, ' ' ∉ finding.kind.name := by
  constructor
  · intro given
    obtain ⟨run, loaded, least⟩ := given
    have something : saved ≠ [] := by
      intro equal
      subst equal
      rw [initAflpp_nothing] at loaded
      cases loaded
    obtain ⟨aflpp, also, times⟩ := initAflpp_tte total start_time something
    cases loaded.symm.trans also
    refine ⟨fun nothing => ?_, fun finding member => ?_⟩
    · subst nothing
      exact something (List.map_eq_nil_iff.mp same.eq_nil)
    · have timed : (finding.kind.name, (finding.secs : ℤ)) ∈ timesBy Kind.name findings :=
        List.mem_map.mpr ⟨finding, member, rfl⟩
      obtain ⟨secs, earliest⟩ := exists_isLeastOf timed
      have written := (times _ _).mp ((least _ _).mpr earliest)
      obtain ⟨other, -, named⟩ := List.mem_map.mp written.1
      rw [← (Prod.mk.inj named).1]
      exact other.kind.fileName_not_mem (by decide)
  · intro given
    obtain ⟨something, joined⟩ := given
    have saves : saved ≠ [] := by
      intro equal
      subst equal
      exact something same.nil_eq.symm
    obtain ⟨run, loaded, times⟩ := initAflpp_tte total start_time saves
    have plain : timesBy Kind.fileName findings = timesBy Kind.name findings := by
      apply List.map_congr_left
      intro finding member
      rw [finding.kind.fileName_eq_name_iff.mpr (joined finding member)]
    refine ⟨run, loaded, fun name secs => ?_⟩
    rw [times, isLeastOf_of_perm same, plain]

/-- The loaders agree only about kinds of one word, listed with the earliest finding first. -/
theorem loaders_agree_iff (logged : readIterations 0 0 iterations = .ok log) (nonempty : log ≠ [])
    (total : ℕ) (start_time : ℤ) (same : (saved.map Prod.fst).Perm findings) :
    (Loads findings (initLibafl false iterations (foundAll findings)) ∧
      Loads findings (initAflpp total (writeBugTimings start_time (causesDir start_time saved))) ∧
      Loads findings (initPartial false iterations start_time (causesDir start_time saved))) ↔
      findings ≠ [] ∧ (∀ finding ∈ findings, ' ' ∉ finding.kind.name) ∧
        FirstIsLeast (timesBy Kind.name findings) := by
  rw [loads_initLibafl_iff logged nonempty, loads_initAflpp_iff total same]
  have earliest := loads_initPartial logged nonempty start_time same
  constructor
  · intro given
    obtain ⟨first, ⟨something, joined⟩, -⟩ := given
    exact ⟨something, joined, first⟩
  · intro given
    obtain ⟨something, joined, first⟩ := given
    exact ⟨first, ⟨something, joined⟩, earliest⟩

theorem loaders_agree_iff_unknown :
    let unknown : Kind := ⟨"Unknown".toList, by decide, by decide⟩
    let saved := [(⟨unknown, 9⟩, "1a2b".toList), (⟨unknown, 4⟩, "3c4d".toList)]
    let findings := [⟨unknown, 4⟩, ⟨unknown, 9⟩]
    Loads findings (initLibafl false [(10, 100)] (foundAll findings)) ∧
      Loads findings (initAflpp 100 (writeBugTimings 50 (causesDir 50 saved))) ∧
      Loads findings (initPartial false [(10, 100)] 50 (causesDir 50 saved)) := by
  intro unknown saved findings
  have logged : readIterations 0 0 [(10, 100)] = .ok [⟨10, 100, 10⟩] := by
    norm_num [readIterations, IterLogItem.init, execsPerSec, bind, Except.bind, pure, Except.pure]
  have first : FirstIsLeast (timesBy Kind.name findings) := by
    intro key secs other first member
    simp only [findings, timesBy, List.map_cons, List.map_nil, List.lookup_cons] at first
    simp [findings, timesBy] at member
    split at first
    · cases first
      rcases member with ⟨-, rfl⟩ | ⟨-, rfl⟩
      · exact le_rfl
      · decide
    · simp_all
  have same : (saved.map Prod.fst).Perm findings := .swap _ _ _
  exact (loaders_agree_iff logged (by simp) 100 50 same).mpr ⟨by simp [findings], by decide, first⟩

/-- `Spectre v2`, found after 4 seconds and listed after a later finding: the first loader
says 9 seconds, and the second one does not know the name. -/
theorem loaders_spectreV2 :
    let spectreV2 : Kind := ⟨"Spectre v2".toList, by decide, by decide⟩
    let saved := [(⟨spectreV2, 9⟩, "1a2b".toList), (⟨spectreV2, 4⟩, "3c4d".toList)]
    let seconds := fun run : Run => run.tte_seconds.lookup spectreV2.name
    (initLibafl false [(10, 100)] (foundAll (saved.map Prod.fst))).map seconds = .ok (some 9) ∧
      (initAflpp 100 (writeBugTimings 50 (causesDir 50 saved))).map seconds = .ok none ∧
      (initPartial false [(10, 100)] 50 (causesDir 50 saved)).map seconds = .ok (some 4) := by
  decide +kernel

end Loads

end PhantomTrails
