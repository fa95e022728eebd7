import PhantomTrails.Detection.Execution

namespace PhantomTrails

open Foundation Foundation.Machine

/-! # The crash record is consistent

The taint is recorded once, at the first tainted sink, and at most one of the
two verdicts, a relevant flush or an architectural taint, is ever reached.
-/

def sinceTaint (cycles : List Cycle) : List Cycle :=
  cycles.dropWhile fun cycle => cycle.top.taintedSink.isNone

structure SameTaint (left right : CrashInfo) : Prop where
  taintFound : left.taintFound = right.taintFound
  taintCycle : left.taintCycle = right.taintCycle
  taintRob : left.taintRob = right.taintRob
  taintInstr : left.taintInstr = right.taintInstr

structure RecordsTaint (cycle : Cycle) (taintInfo : TaintInfo) (crash : CrashInfo) : Prop where
  taintFound : crash.taintFound = true
  taintCycle : crash.taintCycle = cycle.ticks
  taintRob : crash.taintRob = RobState.readFrom cycle.top.rob
  taintInstr : crash.taintInstr = (RobState.readFrom cycle.top.rob).getTaintingInstruction
    cycle.busyInstructions cycle.top.rob.getRobBusyMask taintInfo.addr

def Cycle.slotBrMask (cycle : Cycle) (entry : RobEntry) : UInt16 :=
  ((RobState.readFrom cycle.top.rob).entry entry.robIdx entry.robBank).brMask

theorem SameTaint.refl (crash : CrashInfo) : SameTaint crash crash := ⟨rfl, rfl, rfl, rfl⟩

theorem SameTaint.trans {first second third : CrashInfo} (left : SameTaint first second)
    (right : SameTaint second third) : SameTaint first third where
  taintFound := left.taintFound.trans right.taintFound
  taintCycle := left.taintCycle.trans right.taintCycle
  taintRob := left.taintRob.trans right.taintRob
  taintInstr := left.taintInstr.trans right.taintInstr

theorem SameTaint.symm {first second : CrashInfo} (same : SameTaint first second) :
    SameTaint second first :=
  ⟨same.taintFound.symm, same.taintCycle.symm, same.taintRob.symm, same.taintInstr.symm⟩

theorem RecordsTaint.congr {cycle : Cycle} {taintInfo : TaintInfo} {left right : CrashInfo}
    (records : RecordsTaint cycle taintInfo right) (same : SameTaint left right) :
    RecordsTaint cycle taintInfo left where
  taintFound := same.taintFound.trans records.taintFound
  taintCycle := same.taintCycle.trans records.taintCycle
  taintRob := same.taintRob.trans records.taintRob
  taintInstr := same.taintInstr.trans records.taintInstr

variable {numRetired : UInt64} {state : LoopState} {top : Top} {crash final : CrashInfo}
  {cycles : List Cycle}

/-! ## One cycle -/

theorem sameTaint_updateTaintInstr (crash : CrashInfo) (rob : RobTop) :
    SameTaint (crash.updateTaintInstr rob) crash := by
  rw [CrashInfo.updateTaintInstr]
  split <;> exact ⟨rfl, rfl, rfl, rfl⟩

theorem sameTaint_recorded (cycle : Cycle) : SameTaint cycle.recorded cycle.crash := by
  rw [Cycle.recorded, CrashInfo.recordFlush]
  split
  · exact .refl _
  · split
    · exact .refl _
    · exact ⟨rfl, rfl, rfl, rfl⟩

theorem observe_crash_of_found (found : state.crash.taintFound = true) :
    (state.observe numRetired top).crash = state.crash.updateTaintInstr top.rob := by
  have stepped : (state.step numRetired top).crash.taintFound = true := found
  simp only [LoopState.observe, LoopState.detectTaint, stepped, Bool.true_eq_false, if_false]
  split <;> rfl

theorem observe_crash_of_clean (numRetired : UInt64) (notFound : state.crash.taintFound = false)
    (clean : top.taintedSink = none) : (state.observe numRetired top).crash = state.crash := by
  have stepped : (state.step numRetired top).crash.taintFound = false := notFound
  have sink : (state.step numRetired top).top.taintedSink = none := clean
  simp only [LoopState.observe, LoopState.detectTaint, stepped, if_true, sink]
  rfl

theorem observe_crash_of_sink {taintInfo : TaintInfo} (notFound : state.crash.taintFound = false)
    (sink : top.taintedSink = some taintInfo) :
    (state.observe numRetired top).crash =
      state.crash.recordTaint (state.observe numRetired top).ticks top.rob taintInfo
        state.top.rob.getRobBusyMask := by
  have stepped : (state.step numRetired top).crash.taintFound = false := notFound
  have tainted : (state.step numRetired top).top.taintedSink = some taintInfo := sink
  rw [LoopState.observe_ticks]
  simp only [LoopState.observe, LoopState.detectTaint, stepped, if_true, tainted]
  rfl

theorem observe_records {taintInfo : TaintInfo} (numRetired : UInt64)
    (notFound : state.crash.taintFound = false)
    (sink : top.taintedSink = some taintInfo) :
    RecordsTaint (state.observe numRetired top) taintInfo (state.observe numRetired top).crash ∧
      (state.observe numRetired top).crash.taintBrMask =
        (state.observe numRetired top).crash.taintInstr.brMask := by
  rw [observe_crash_of_sink notFound sink]
  exact ⟨⟨rfl, rfl, rfl, rfl⟩, rfl⟩

theorem observe_tracks (numRetired : UInt64) (top : Top) (found : state.crash.taintFound = true) :
    SameTaint (state.observe numRetired top).crash state.crash ∧
      (state.observe numRetired top).crash.taintBrMask =
        (state.observe numRetired top).slotBrMask state.crash.taintInstr := by
  rw [observe_crash_of_found found]
  refine ⟨sameTaint_updateTaintInstr state.crash top.rob, ?_⟩
  simp only [CrashInfo.updateTaintInstr, found, if_true]
  rfl

/-! ## Runs -/

theorem Execution.cons_inv {cycle : Cycle} {later : List Cycle}
    (execution : Execution numRetired state (cycle :: later) final) :
    ∃ top, cycle = state.observe numRetired top ∧
      (later = [] ∧ SameTaint final cycle.crash ∨
        Execution numRetired (state.advance numRetired top) later final) := by
  cases execution with
  | architectural _ top running found noFlush => exact ⟨top, rfl, .inl ⟨rfl, .refl _⟩⟩
  | recorded _ top running undecided relevant => exact ⟨top, rfl, .inl ⟨rfl, sameTaint_recorded _⟩⟩
  | @next _ top _ _ running undecided irrelevant rest => exact ⟨top, rfl, .inr rest⟩

/-- After the taint was found it stays, and the tracked branch mask is that of
its slot. -/
theorem Execution.tainted (execution : Execution numRetired state cycles final)
    (found : state.crash.taintFound = true) :
    SameTaint final state.crash ∧ ∀ cycle ∈ cycles, SameTaint cycle.crash state.crash ∧
      cycle.crash.taintBrMask = cycle.slotBrMask state.crash.taintInstr := by
  induction cycles generalizing state with
  | nil =>
      cases execution
      exact ⟨.refl _, by simp⟩
  | cons cycle later ih =>
      obtain ⟨top, rfl, rest⟩ := execution.cons_inv
      have now := observe_tracks numRetired top found
      rcases rest with ⟨rfl, ending⟩ | rest
      · exact ⟨ending.trans now.1, by simpa using now⟩
      · have same : SameTaint (state.advance numRetired top).crash state.crash := now.1
        obtain ⟨ending, tracked⟩ := ih rest (same.taintFound.trans found)
        refine ⟨ending.trans same, List.forall_mem_cons.mpr ⟨now, fun cycle member => ?_⟩⟩
        obtain ⟨kept, mask⟩ := tracked cycle member
        exact ⟨kept.trans same, by rw [mask, same.taintInstr]⟩

theorem sinceTaint_cons_clean {cycle : Cycle} (clean : cycle.top.taintedSink = none) :
    sinceTaint (cycle :: cycles) = sinceTaint cycles := by
  simp [sinceTaint, clean]

theorem sinceTaint_cons_tainted {cycle : Cycle} {taintInfo : TaintInfo}
    (sink : cycle.top.taintedSink = some taintInfo) : sinceTaint (cycle :: cycles) = cycle :: cycles := by
  simp [sinceTaint, sink]

/-- What is known of the cycles since the first tainted sink: the record is
made in the first of them and kept in all others. -/
structure TaintKept (taintInfo : TaintInfo) (first : Cycle) (later : List Cycle) (final : CrashInfo) :
    Prop where
  sink : first.top.taintedSink = some taintInfo
  records : RecordsTaint first taintInfo first.crash
  taintBrMask : first.crash.taintBrMask = first.crash.taintInstr.brMask
  kept : SameTaint final first.crash
  tracked : ∀ cycle ∈ later, SameTaint cycle.crash first.crash ∧
    cycle.crash.taintBrMask = cycle.slotBrMask first.crash.taintInstr

/-- A run that starts without a taint ends without one, or with the taint of
the first tainted sink. -/
theorem Execution.sinceTaint_cases (execution : Execution numRetired state cycles final)
    (notFound : state.crash.taintFound = false) :
    (sinceTaint cycles = [] ∧ final.taintFound = false) ∨
      ∃ taintInfo first later, sinceTaint cycles = first :: later ∧
        TaintKept taintInfo first later final := by
  induction cycles generalizing state with
  | nil =>
      cases execution
      exact .inl ⟨rfl, notFound⟩
  | cons cycle later ih =>
      obtain ⟨top, rfl, rest⟩ := execution.cons_inv
      cases sink : top.taintedSink with
      | none =>
          have same := observe_crash_of_clean numRetired notFound sink
          rw [sinceTaint_cons_clean (by exact sink)]
          rcases rest with ⟨rfl, ending⟩ | rest
          · exact .inl ⟨rfl, by rw [ending.taintFound, same]; exact notFound⟩
          · exact ih rest (show (state.observe numRetired top).crash.taintFound = false from same ▸ notFound)
      | some taintInfo =>
          obtain ⟨records, mask⟩ := observe_records numRetired notFound sink
          rw [sinceTaint_cons_tainted (by exact sink)]
          refine .inr ⟨taintInfo, _, later, rfl, ?_⟩
          rcases rest with ⟨rfl, ending⟩ | rest
          · exact ⟨sink, records, mask, ending, by simp⟩
          · obtain ⟨kept, tracked⟩ := rest.tainted records.taintFound
            exact ⟨sink, records, mask, kept, tracked⟩

/-- A recorded flush is the first relevant one, and it ends the run. -/
theorem Execution.flush (execution : Execution numRetired state cycles final)
    (start : state.crash.Undecided) (flushed : final.flushFound = true) :
    ∃ before last, cycles = before ++ [last] ∧ last.crash.Undecided ∧ last.relevantFlush = true ∧
      final = last.recorded ∧ ∀ cycle ∈ before, cycle.relevantFlush = false := by
  induction execution with
  | ended state => simp [start.flushFound] at flushed
  | architectural state top running found noFlush => simp [noFlush] at flushed
  | recorded state top running undecided relevant =>
      exact ⟨[], _, rfl, undecided, relevant, rfl, by simp⟩
  | @next state top cycles final running undecided irrelevant rest ih =>
      obtain ⟨before, last, rfl, fresh, relevant, ending, skipped⟩ := ih undecided flushed
      exact ⟨state.observe numRetired top :: before, last, rfl, fresh, relevant, ending,
        List.forall_mem_cons.mpr ⟨irrelevant, skipped⟩⟩

theorem Execution.exclusive (execution : Execution numRetired state cycles final)
    (start : state.crash.Undecided) :
    ¬ (final.flushFound = true ∧ final.isTaintArchitectural = true) := by
  intro ⟨flushed, isArchitectural⟩
  obtain ⟨before, last, -, undecided, -, rfl, -⟩ := execution.flush start flushed
  have same : last.recorded.isTaintArchitectural = last.crash.isTaintArchitectural := by
    rw [Cycle.recorded, CrashInfo.recordFlush]
    split
    · rfl
    · split <;> rfl
  rw [same, undecided.isTaintArchitectural] at isArchitectural
  contradiction

theorem executed_append (tops more : List Top) :
    ∃ added, executed numRetired state (tops ++ more) = executed numRetired state tops ++ added := by
  induction tops generalizing state with
  | nil => exact ⟨_, rfl⟩
  | cons top rest ih =>
      simp only [List.cons_append, executed]
      split
      · split
        · rename_i next taken
          obtain ⟨added, same⟩ := @ih next
          exact ⟨added, by rw [same]; rfl⟩
        · exact ⟨[], by simp⟩
      · exact ⟨[], by simp⟩

/-! ## Classification -/

theorem mispredictionReason_archFlush {memory : SimMem} {retired_pcs : Finset UInt64}
    {taintInstr : RobEntry} {flushInfo : FlushInfo} {reason : String}
    (reported : CrashInfo.mispredictionReason memory retired_pcs taintInstr flushInfo = .ok reason) :
    reason.startsWith "ArchFlush_" = false := by
  simp only [CrashInfo.mispredictionReason] at reported
  split at reported
  · split at reported
    · cases reported
      simp
    · split at reported <;> cases reported <;> simp
  · split at reported
    · obtain ⟨isRet, -, reported⟩ := bind_ok_iff.mp reported
      split at reported <;> cases reported <;> simp
    · cases reported
      simp

theorem flushReason_archFlush {memory : SimMem} {retired_pcs : Finset UInt64}
    {taintInstr : RobEntry} {flushInfo : FlushInfo} {reason : String} (other : flushInfo.type ≠ .flush)
    (reported : CrashInfo.flushReason memory retired_pcs taintInstr flushInfo = .ok reason) :
    reason.startsWith "ArchFlush_" = false := by
  rw [CrashInfo.flushReason] at reported
  cases type : flushInfo.type with
  | flush => exact absurd type other
  | exception =>
      simp only [type] at reported
      cases reported
      split <;> simp
  | misprediction =>
      simp only [type] at reported
      exact mispredictionReason_archFlush reported
  | memOrdering | unknownFlush | none =>
      simp only [type] at reported
      cases reported
      simp

theorem classify_archFlush {memory : SimMem} {retired_pcs : Finset UInt64} {source : TaintSource}
    {classified : CrashInfo} (other : crash.flushFound = true → crash.flushInfo.type ≠ .flush)
    (classifies : crash.classify memory retired_pcs source = .ok classified) :
    classified.reason.startsWith "ArchFlush_" = false := by
  obtain ⟨reason, reported, same⟩ := bind_ok_iff.mp classifies
  cases same
  split at reported
  · cases reported
    simp
  · split at reported
    · cases reported
      simp
    · rename_i flushed
      split at reported
      · cases reported
        simp
      · exact flushReason_archFlush (other (eq_true_of_ne_false flushed)) reported

/-! ## The record after a run -/

/-- The loop at its start; `CrashInfo crash;` leaves the flush uninitialised. -/
def LoopState.start (top : Top) (sim : Counters) (uninitialised : FlushInfo) : LoopState :=
  { top, sim, crash := { flushInfo := uninitialised } }

def crashAfter (numRetired : UInt64) (state : LoopState) (tops : List Top) : CrashInfo :=
  (finalState (run (detectionCycle numRetired) state tops)).crash

structure RecordConsistent (cycles : List Cycle) (crash : CrashInfo) : Prop where
  clean : sinceTaint cycles = [] → crash.taintFound = false
  tainted : ∀ first later taintInfo, sinceTaint cycles = first :: later →
    first.top.taintedSink = some taintInfo → RecordsTaint first taintInfo crash
  afterTaint : crash.flushFound = true → crash.taintFound = true ∧ crash.taintCycle ≤ crash.flushCycle
  relevant : crash.flushFound = true → crash.flushInfo.type ≠ .flush ∧
    (crash.flushInfo.type = .misprediction →
      crash.taintBrMask.toUInt64 &&& crash.flushInfo.mispredMask ≠ 0)
  earliest : crash.flushFound = true → ∃ before last, cycles = before ++ [last] ∧
    last.relevantFlush = true ∧ crash.flushCycle = last.ticks ∧
    ∀ cycle ∈ before, cycle.relevantFlush = false
  exclusive : ¬ (crash.flushFound = true ∧ crash.isTaintArchitectural = true)
  classified : ∀ memory retired_pcs source classified,
    crash.classify memory retired_pcs source = .ok classified →
      classified.reason.startsWith "ArchFlush_" = false

@[simp] theorem savedFlush_type (crash : CrashInfo) (flushInfo : FlushInfo) :
    (crash.savedFlush flushInfo).type = flushInfo.type := by
  rw [CrashInfo.savedFlush]
  split <;> rfl

@[simp] theorem savedFlush_mispredMask (crash : CrashInfo) (flushInfo : FlushInfo) :
    (crash.savedFlush flushInfo).mispredMask = flushInfo.mispredMask := by
  rw [CrashInfo.savedFlush]
  split <;> rfl

theorem recordFlush_relevant_iff {ticks : UInt64} {flushInfo : FlushInfo} :
    (crash.recordFlush ticks flushInfo).1 = true ↔
      flushInfo.type ≠ .flush ∧ (flushInfo.type = .misprediction →
        CrashInfo.isKilledByBranch crash.taintBrMask.toUInt64 flushInfo.mispredMask = true) := by
  rw [CrashInfo.recordFlush]
  split
  · simp_all
  · split <;> simp_all

theorem relevantFlush_iff {cycle : Cycle} :
    cycle.relevantFlush = true ↔ cycle.top.isFlushing = true ∧ cycle.crash.taintFound = true ∧
      cycle.top.getFlushInfo.type ≠ .flush ∧ (cycle.top.getFlushInfo.type = .misprediction →
        CrashInfo.isKilledByBranch cycle.crash.taintBrMask.toUInt64
          cycle.top.getFlushInfo.mispredMask = true) := by
  rw [Cycle.relevantFlush, Bool.and_eq_true, Bool.and_eq_true, recordFlush_relevant_iff, and_assoc]

theorem recorded_of_relevantFlush {cycle : Cycle} (relevant : cycle.relevantFlush = true) :
    cycle.recorded = { cycle.crash with
      flushFound := true
      flushCycle := cycle.ticks
      flushInfo := cycle.crash.savedFlush cycle.top.getFlushInfo } := by
  obtain ⟨-, -, type, killed⟩ := relevantFlush_iff.mp relevant
  rw [Cycle.recorded, CrashInfo.recordFlush, if_neg type, if_neg]
  intro both
  obtain ⟨misprediction, spared⟩ := both
  rw [killed misprediction] at spared
  contradiction

theorem execution_start (numRetired : UInt64) (top : Top) (sim : Counters)
    (uninitialised : FlushInfo) (tops : List Top) :
    Execution numRetired (.start top sim uninitialised)
      (executed numRetired (.start top sim uninitialised) tops)
      (crashAfter numRetired (.start top sim uninitialised) tops) :=
  execution_run ⟨rfl, rfl⟩ tops

theorem Execution.flush_relevant (execution : Execution numRetired state cycles crash)
    (start : state.crash.Undecided) (flushed : crash.flushFound = true) :
    crash.flushInfo.type ≠ .flush ∧ (crash.flushInfo.type = .misprediction →
      crash.taintBrMask.toUInt64 &&& crash.flushInfo.mispredMask ≠ 0) := by
  obtain ⟨before, last, -, -, relevant, rfl, -⟩ := execution.flush start flushed
  obtain ⟨-, -, type, killed⟩ := relevantFlush_iff.mp relevant
  rw [recorded_of_relevantFlush relevant]
  simp only [savedFlush_type, savedFlush_mispredMask]
  refine ⟨type, fun misprediction => ?_⟩
  simpa [CrashInfo.isKilledByBranch] using killed misprediction

theorem Execution.taintFound_of_flush (execution : Execution numRetired state cycles crash)
    (start : state.crash.Undecided) (flushed : crash.flushFound = true) : crash.taintFound = true := by
  obtain ⟨before, last, -, -, relevant, rfl, -⟩ := execution.flush start flushed
  obtain ⟨-, tainted, -⟩ := relevantFlush_iff.mp relevant
  exact (sameTaint_recorded last).taintFound.trans tainted

theorem sinceTaint_suffix (cycles : List Cycle) : sinceTaint cycles <:+ cycles := List.dropWhile_suffix _

theorem Execution.taintCycle_le (execution : Execution numRetired state cycles crash)
    (start : state.crash.Undecided) (notFound : state.crash.taintFound = false)
    (flushed : crash.flushFound = true) : crash.taintCycle ≤ crash.flushCycle := by
  have tainted := execution.taintFound_of_flush start flushed
  obtain ⟨before, last, rfl, -, relevant, ending, -⟩ := execution.flush start flushed
  rcases execution.sinceTaint_cases notFound with ⟨-, none⟩ | ⟨taintInfo, first, later, since, taint⟩
  · rw [tainted] at none
    contradiction
  have flushCycle : crash.flushCycle = last.ticks := by
    rw [ending, recorded_of_relevantFlush relevant]
  have member : first ∈ before ++ [last] :=
    (sinceTaint_suffix _).subset (since ▸ List.mem_cons_self)
  rw [taint.kept.taintCycle, taint.records.taintCycle, flushCycle]
  rcases List.mem_append.mp member with earlier | now
  · have sorted := (List.pairwise_append.mp execution.ticks_sorted).2.2
    exact sorted first earlier last (List.mem_singleton.mpr rfl)
  · rw [List.mem_singleton.mp now]
    exact UInt64.le_refl _

theorem Execution.recordConsistent (execution : Execution numRetired state cycles crash)
    (start : state.crash.Undecided) (notFound : state.crash.taintFound = false) :
    RecordConsistent cycles crash where
  clean := by
    intro clean
    rcases execution.sinceTaint_cases notFound with ⟨-, none⟩ | ⟨taintInfo, first, later, since, -⟩
    · exact none
    · rw [clean] at since
      cases since
  tainted := by
    intro first later taintInfo since sink
    rcases execution.sinceTaint_cases notFound with ⟨none, -⟩ | ⟨found, other, rest, same, taint⟩
    · rw [since] at none
      cases none
    · obtain ⟨rfl, rfl⟩ := List.cons.inj (since.symm.trans same)
      obtain rfl : taintInfo = found := Option.some.inj (sink.symm.trans taint.sink)
      exact taint.records.congr taint.kept
  afterTaint := fun flushed =>
    ⟨execution.taintFound_of_flush start flushed, execution.taintCycle_le start notFound flushed⟩
  relevant := execution.flush_relevant start
  earliest := by
    intro flushed
    obtain ⟨before, last, split, -, relevant, ending, skipped⟩ := execution.flush start flushed
    exact ⟨before, last, split, relevant, by rw [ending, recorded_of_relevantFlush relevant], skipped⟩
  exclusive := execution.exclusive start
  classified := by
    intro memory retired_pcs source classified classifies
    exact classify_archFlush (fun flushed => (execution.flush_relevant start flushed).1) classifies

theorem sinceTaint_append {first : Cycle} {later added : List Cycle}
    (since : sinceTaint cycles = first :: later) :
    sinceTaint (cycles ++ added) = first :: (later ++ added) := by
  rw [sinceTaint] at since ⊢
  rw [List.dropWhile_append, since]
  rfl

/-- Over every run the record is consistent with the cycles, and a taint that
was recorded is never changed by the observations that follow. -/
theorem crash_record_consistent (numRetired : UInt64) (top : Top) (sim : Counters)
    (uninitialised : FlushInfo) (tops : List Top) :
    RecordConsistent (executed numRetired (.start top sim uninitialised) tops)
        (crashAfter numRetired (.start top sim uninitialised) tops) ∧
      ∀ more, (crashAfter numRetired (.start top sim uninitialised) tops).taintFound = true →
        SameTaint (crashAfter numRetired (.start top sim uninitialised) (tops ++ more))
          (crashAfter numRetired (.start top sim uninitialised) tops) := by
  have execution := execution_start numRetired top sim uninitialised
  refine ⟨(execution tops).recordConsistent ⟨rfl, rfl⟩ rfl, fun more found => ?_⟩
  rcases (execution tops).sinceTaint_cases rfl with ⟨-, none⟩ | ⟨taintInfo, first, later, since, taint⟩
  · rw [found] at none
    contradiction
  · obtain ⟨added, same⟩ := @executed_append numRetired (.start top sim uninitialised) tops more
    have longer := @sinceTaint_append _ _ _ added since
    rw [← same] at longer
    rcases (execution (tops ++ more)).sinceTaint_cases rfl with ⟨none, -⟩ | ⟨_, other, rest, again, later⟩
    · rw [longer] at none
      cases none
    · obtain ⟨rfl, -⟩ := List.cons.inj (longer.symm.trans again)
      exact later.kept.trans taint.kept.symm

end PhantomTrails
