import PhantomTrails.Main.Mds

namespace PhantomTrails

open Foundation Foundation.Machine

/-! # How the process ends

There is a second round at most, and a bound on the cycles of each.  What is
reported has one of a few names: some branches of the classification are never
taken.
-/

/-- The names a finding of the first round can have. -/
def findingNames : List String :=
  ["No_flush", "Spectre_v1_static", "Spectre_v1_training", "Spectre_v1_new", "Spectre_RSB", "Spectre_v2",
    "Spectre_Unknown", "Spectre_v4", "Flush_Unknown"] ++
  ["Meltdown_", "OOO_"].flatMap fun who =>
    ("Unknown" :: CrashInfo.exceptionReasons.map Prod.snd).map fun cause => who ++ cause

variable {Core Devices : Type} {ramSize : UInt64} {addrBits idBits : Nat}
  {host : Host Core Devices ramSize addrBits idBits} {args : MainArgs} {source : TaintSource}
  {state : MainState Core Devices ramSize idBits} {behaviour : RoundBehaviour addrBits idBits}

/-! ## The flush of a record -/

/-- A recorded flush is neither architectural nor missing. -/
def CrashInfo.FlushKnown (crash : CrashInfo) : Prop :=
  crash.flushFound = true → crash.flushInfo.type ≠ .flush ∧ crash.flushInfo.type ≠ .none

variable {numRetired : UInt64} {loop : LoopState} {top : Top} {crash named : CrashInfo}

theorem CrashInfo.FlushKnown.congr (known : crash.FlushKnown) (found : named.flushFound = crash.flushFound)
    (info : named.flushInfo = crash.flushInfo) : named.FlushKnown := by
  intro flushed
  rw [info]
  exact known (found.symm.trans flushed)

theorem CrashInfo.recordFlush_known {ticks : UInt64} {flushInfo : FlushInfo} (known : crash.FlushKnown)
    (some : flushInfo.type ≠ .none) : (crash.recordFlush ticks flushInfo).2.FlushKnown := by
  have saved : (crash.savedFlush flushInfo).type = flushInfo.type := by
    rw [savedFlush]
    split <;> rfl
  rw [recordFlush]
  split
  · exact known
  · rename_i other
    split
    · exact known
    · intro _
      exact ⟨saved ▸ other, saved ▸ some⟩

theorem detectTaint_known (loop : LoopState) (busyInstructions : BusyMask) (known : loop.crash.FlushKnown) :
    (finalState (loop.detectTaint busyInstructions)).crash.FlushKnown := by
  have updated : (loop.crash.updateTaintInstr loop.top.rob).FlushKnown := by
    rw [CrashInfo.updateTaintInstr]
    split <;> exact known
  rw [LoopState.detectTaint]
  split
  · split <;> exact known
  · simp only
    split <;> exact updated

theorem detectFlush_known (known : loop.crash.FlushKnown) :
    (finalState loop.detectFlush).crash.FlushKnown := by
  rw [LoopState.detectFlush]
  split
  · rename_i flushing
    have recorded := @CrashInfo.recordFlush_known loop.crash loop.sim.ticks loop.top.getFlushInfo known
      (FlushInfo.readFrom_type_ne_none flushing)
    simp only
    split
    · split <;> exact recorded
    · split <;> exact known
  · exact known

theorem detectionCycle_known (known : loop.crash.FlushKnown) :
    (finalState (detectionCycle numRetired loop top)).crash.FlushKnown := by
  rw [detectionCycle]
  split
  · have tainted := detectTaint_known (loop.step numRetired top) loop.top.rob.getRobBusyMask known
    simp only
    cases taint : (loop.step numRetired top).detectTaint loop.top.rob.getRobBusyMask with
    | error left =>
        rw [taint] at tainted
        exact tainted
    | ok next =>
        rw [taint] at tainted
        exact detectFlush_known tainted
  · exact known

/-- What a turn of the round's loop does to the variables of the detection. -/
theorem roundCycle_known (track : Simulator.LabelTrack addrBits idBits)
    (turn : Simulator.OnBus idBits × LoopState) (input : FakeDRAM.Edge addrBits idBits × Top)
    (known : turn.2.crash.FlushKnown) :
    match roundCycle track numRetired turn input with
    | .ok next => next.2.crash.FlushKnown
    | .error (.inr (_, _, final)) => final.crash.FlushKnown
    | .error (.inl _) => True := by
  have kept := @detectionCycle_known numRetired turn.2 input.2 known
  simp only [roundCycle]
  split
  · rename_i result next taken
    split at taken
    · split at taken
      · cases taken
      · split at taken
        · rename_i looped
          cases taken
          rwa [looped] at kept
        · cases taken
    · cases taken
  · rename_i result exit bus final taken
    split at taken
    · split at taken
      · cases taken
      · split at taken
        · cases taken
        · rename_i looped
          cases taken
          rwa [looped] at kept
    · cases taken
      exact known
  · trivial

theorem run_roundCycle_known {track : Simulator.LabelTrack addrBits idBits}
    {cycles : List (FakeDRAM.Edge addrBits idBits × Top)} {turn : Simulator.OnBus idBits × LoopState}
    {exit : LoopExit} {last : Simulator.OnBus idBits} {final : LoopState} (start : turn.2.crash.FlushKnown)
    (stopped : run (roundCycle track numRetired) turn cycles = .error (.inr (exit, last, final))) :
    final.crash.FlushKnown := by
  have keeps : Keeps (roundCycle track numRetired) (fun _ _ => True)
      (fun turn => turn.2.crash.FlushKnown) := by
    intro turn input next _ known taken
    have kept := @roundCycle_known _ _ numRetired track turn input known
    rwa [taken] at kept
  have stops : ∀ turn input stop, True → turn.2.crash.FlushKnown →
      roundCycle track numRetired turn input = .error stop →
        ∀ exit last final, stop = .inr (exit, last, final) → final.crash.FlushKnown := by
    intro turn input stop _ known taken exit last final same
    have kept := @roundCycle_known _ _ numRetired track turn input known
    rw [taken, same] at kept
    exact kept
  exact keeps.stops_within stops (along_of_forall _ (fun _ _ => trivial) _) start stopped _ _ _ rfl

/-- A round starts without a flush. -/
theorem finished_known {after : MainState Core Devices ramSize idBits}
    (finished : state.round host args source behaviour = .ok (.finished crash after)) :
    crash.FlushKnown := by
  obtain ⟨bus, round, exit, loop, -, stopped, -, rfl, -, -⟩ := round_finished finished
  apply run_roundCycle_known ?_ stopped
  intro found
  cases found

/-! ## The names -/

theorem exceptionReason_mem (cause : FlushCause) :
    CrashInfo.exceptionReason cause ∈ "Unknown" :: CrashInfo.exceptionReasons.map Prod.snd := by
  rw [CrashInfo.exceptionReason]
  cases listed : CrashInfo.exceptionReasons.lookup cause with
  | none => exact List.mem_cons_self
  | some name =>
      obtain ⟨before, after, split, -⟩ := List.lookup_eq_some_iff.mp listed
      apply List.mem_cons_of_mem
      rw [split]
      simp

theorem mispredictionReason_mem {memory : SimMem} {retired_pcs : Finset UInt64} {taintInstr : RobEntry}
    {flushInfo : FlushInfo} {reason : String}
    (reported : CrashInfo.mispredictionReason memory retired_pcs taintInstr flushInfo = .ok reason) :
    reason ∈ findingNames := by
  simp only [CrashInfo.mispredictionReason] at reported
  split at reported
  · split at reported
    · cases reported
      simp [findingNames]
    · split at reported <;> cases reported <;> simp [findingNames]
  · split at reported
    · obtain ⟨isReturn, -, reported⟩ := bind_ok_iff.mp reported
      split at reported <;> cases reported <;> simp [findingNames]
    · cases reported
      simp [findingNames]

theorem flushReason_mem {memory : SimMem} {retired_pcs : Finset UInt64} {taintInstr : RobEntry}
    {flushInfo : FlushInfo} {reason : String} (known : flushInfo.type ≠ .flush)
    (reported : CrashInfo.flushReason memory retired_pcs taintInstr flushInfo = .ok reason) :
    reason ∈ findingNames := by
  cases type : flushInfo.type with
  | flush => exact absurd type known
  | misprediction =>
      simp only [CrashInfo.flushReason, type] at reported
      exact mispredictionReason_mem reported
  | exception =>
      simp only [CrashInfo.flushReason, type] at reported
      cases reported
      have cause := exceptionReason_mem flushInfo.cause
      apply List.mem_append_right
      apply List.mem_flatMap.mpr
      split
      · exact ⟨"Meltdown_", by simp, List.mem_map.mpr ⟨_, cause, rfl⟩⟩
      · exact ⟨"OOO_", by simp, List.mem_map.mpr ⟨_, cause, rfl⟩⟩
  | memOrdering | unknownFlush | none =>
      simp only [CrashInfo.flushReason, type] at reported
      cases reported
      simp [findingNames]

theorem classify_all_mem {memory : SimMem} {retired_pcs : Finset UInt64} (found : crash.taintFound = true)
    (known : crash.FlushKnown) (classified : crash.classify memory retired_pcs .all = .ok named) :
    named.reason ∈ findingNames := by
  rw [classify_all_eq found] at classified
  obtain ⟨reason, reported, same⟩ := bind_ok_iff.mp classified
  cases same
  split at reported
  · rename_i flushed
    exact flushReason_mem (known flushed).1 reported
  · cases reported
    simp [findingNames]

/-! ## One round -/

/-- The core is watched for as long as the timeout allows it to retire what
Spike has retired, and one instruction more. -/
def LongEnough (host : Host Core Devices ramSize addrBits idBits) (args : MainArgs)
    (start : TaintSource × MainState Core Devices ramSize idBits)
    (behaviour : RoundBehaviour addrBits idBits) : Prop :=
  ∀ bus round, start.2.prepare host args start.1 behaviour = .ok (some (bus, round)) →
    1300 * (round.result.numRetired.toNat + 1) < 2 ^ 64 ∧
      1300 * (round.result.numRetired.toNat + 1) < behaviour.cycles.length

theorem round_left (fresh : state.counters.last_retired = 0)
    (long : LongEnough host args (source, state) behaviour) :
    state.round host args source behaviour ≠ .ok .running := by
  intro still
  obtain ⟨prepared, ready, still⟩ := bind_ok_iff.mp still
  cases prepared with
  | none => cases still
  | some ready' =>
      obtain ⟨bus, round⟩ := ready'
      obtain ⟨budget, long⟩ := long bus round ready
      simp only [MainState.detect] at still
      split at still
      · rename_i final reached
        have start : Timely (.start behaviour.top state.counters behaviour.uninitialised) := by
          simp [Timely, LoopState.start, fresh]
        have room : ∀ state, Timely state → state.isRunning round.result.numRetired = true →
            state.sim.ticks.toNat < 1300 * (round.result.numRetired.toNat + 1) := by
          intro state timely running
          obtain ⟨left, early⟩ := timely.running budget running
          omega
        have looped := run_detectionCycle_of_ok reached
        have counted := executed_length_le Timely budget (timely_keeps budget) room start
          (behaviour.cycles.map Prod.snd)
        rw [executed_length_of_ok looped, List.length_map] at counted
        omega
      · cases still
      · split at still <;> cases still

theorem mainStep_running (stopped : mainStep host args (source, state) behaviour = .error .running) :
    state.round host args source behaviour = .ok .running := by
  simp only [mainStep] at stopped
  split at stopped
  · cases stopped
  · split at stopped
    · cases stopped
    · cases stopped
    · cases stopped
    · assumption
    · simp only [verdict] at stopped
      split at stopped
      · split at stopped
        · cases stopped
        · split at stopped <;> cases stopped
      · cases stopped

/-- What a first round reports is one of the names. -/
theorem first_round_reports {reason : String}
    (stopped : mainStep host args (.all, state) behaviour = .error (.reported reason)) :
    reason ∈ findingNames := by
  cases ended : state.round host args .all behaviour with
  | error fault => simp [mainStep, ended] at stopped
  | ok outcome =>
      cases outcome with
      | discarded | illegalInstruction | running => simp [mainStep, ended] at stopped
      | finished crash after =>
          rw [mainStep_of_finished (by decide) ended, verdict] at stopped
          split at stopped
          · rename_i found
            split at stopped
            · cases stopped
            · rename_i named classified
              split at stopped
              · cases stopped
              · cases stopped
                exact classify_all_mem found (finished_known ended) classified
          · cases stopped

/-- Only with `args.mds` there is a second round. -/
theorem mainStep_again {next : TaintSource × MainState Core Devices ramSize idBits}
    (stepped : mainStep host args (.all, state) behaviour = .ok next) :
    args.mds = true ∧ next.1 = .storeBuffer ∧ next.2.counters.last_retired = 0 := by
  obtain ⟨crash, after, finished, rfl⟩ := mainStep_ok stepped
  refine ⟨?_, rfl, rfl⟩
  rw [mainStep_of_finished (by decide) finished, verdict] at stepped
  split at stepped
  · split at stepped
    · cases stepped
    · split at stepped
      · rename_i again
        exact again.1
      · cases stepped
  · cases stepped

/-! ## The process -/

/-- How the process can end. -/
structure Ended (args : MainArgs) (stop : MainExit) : Prop where
  left : stop ≠ .running
  named : ∀ reason, stop = .reported reason →
    reason ∈ findingNames ∨ args.mds = true ∧ reason = "MDS_STORE_BUFFER"

theorem first_round_ended {stop : MainExit} (fresh : state.counters.last_retired = 0)
    (long : LongEnough host args (.all, state) behaviour)
    (stopped : mainStep host args (.all, state) behaviour = .error stop) : Ended args stop := by
  refine ⟨?_, ?_⟩
  · rintro rfl
    exact round_left fresh long (mainStep_running stopped)
  · rintro reason rfl
    exact .inl (first_round_reports stopped)

/-- A second round does not lead to a third. -/
theorem second_round_ended (mds : args.mds = true) (fresh : state.counters.last_retired = 0)
    (long : LongEnough host args (.storeBuffer, state) behaviour) :
    ∃ stop, mainStep host args (.storeBuffer, state) behaviour = .error stop ∧ Ended args stop := by
  obtain ⟨stop, stopped, -, confirms, silent⟩ := second_round_stops host args state behaviour
  refine ⟨stop, stopped, ?_, ?_⟩
  · rintro rfl
    exact round_left fresh long (mainStep_running stopped)
  · rintro reason rfl
    by_cases confirmed : Confirms host args state behaviour
    · have same := confirms confirmed
      cases same
      exact .inr ⟨mds, rfl⟩
    · have same := silent confirmed reason rfl
      subst same
      exact .inl (by simp [findingNames])

/-- Whatever the core and Spike do, the process ends in its first round or, with
`args.mds`, in its second, and an issue it reports has one of the names: no
finding is called untainted or architectural. -/
theorem main_ends (host : Host Core Devices ramSize addrBits idBits) (args : MainArgs)
    (start : MainState Core Devices ramSize idBits) (behaviours : List (RoundBehaviour addrBits idBits))
    (fresh : start.counters.last_retired = 0)
    (rounds : (if args.mds = true then 2 else 1) ≤ behaviours.length)
    (long : Along (mainStep host args) (LongEnough host args) (.all, start) behaviours) :
    ∃ stop, run (mainStep host args) (.all, start) behaviours = .error stop ∧ Ended args stop := by
  cases behaviours with
  | nil =>
      split at rounds <;> exact absurd rounds (by simp)
  | cons first later =>
      cases stepped : mainStep host args (.all, start) first with
      | error stop => exact ⟨stop, by simp only [run, stepped], first_round_ended fresh long.1 stepped⟩
      | ok next =>
          obtain ⟨source, second⟩ := next
          obtain ⟨mds, again, cleared⟩ := mainStep_again stepped
          simp only at again cleared
          subst again
          cases later with
          | nil => simp [mds] at rounds
          | cons behaviour rest =>
              obtain ⟨stop, stopped, ended⟩ := second_round_ended mds cleared (long.2 _ stepped).1
              exact ⟨stop, by simp only [run, stepped, stopped], ended⟩

/-- One round that is watched for 3903 cycles. -/
def plainArgs : MainArgs := { Simulator.twoInstructions with mds := false, mdsOnly := nofun }

def longRound : RoundBehaviour 32 5 :=
  { meltdownRound with cycles := meltdownRound.cycles ++ List.replicate 3901 ({}, {}) }

theorem longRound_longEnough : LongEnough storingHost plainArgs (.all, storingStart) longRound := by
  intro bus round ready
  obtain ⟨bus', round', data, labels, prepared, -, -, numRetired, -⟩ := storingStart_prepared
  have same : storingStart.prepare storingHost plainArgs .all longRound = .ok (some (bus', round')) := prepared
  rw [ready] at same
  cases same
  rw [numRetired]
  refine ⟨by decide, ?_⟩
  simp only [longRound, List.length_append, List.length_replicate]
  decide

theorem main_ends_longRound : ∃ stop,
    run (mainStep storingHost plainArgs) (.all, storingStart) [longRound] = .error stop ∧
      Ended plainArgs stop :=
  main_ends storingHost plainArgs storingStart [longRound] rfl (by decide)
    ⟨longRound_longEnough, fun _ _ => trivial⟩

end PhantomTrails
