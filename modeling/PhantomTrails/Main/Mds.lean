import PhantomTrails.Detection.Observed
import PhantomTrails.Detection.Termination
import PhantomTrails.Main.Images

namespace PhantomTrails

open Foundation Foundation.Machine

/-! # The second round

With one taint colour a Meltdown finding is run again with only the buffers
tainted.  What the second round reports, or that it reports nothing, takes the
place of the finding.
-/

variable {Core Devices : Type} {ramSize : UInt64} {addrBits idBits : Nat}
  {track : Simulator.LabelTrack addrBits idBits} {numRetired : UInt64} {loop : LoopState} {slot : Slot}

/-! ## What a round shows -/

/-- The first cycles, as far as the loop lasts and the DRAM serves them, have
the property. -/
def Shown (numRetired : UInt64) (property : List Top → Prop) (sim : Counters) (dram : FakeDRAM idBits)
    (cycles : List (FakeDRAM.Edge addrBits idBits × Top)) : Prop :=
  ∃ shown, shown <+: cycles ∧ sim.Lasts numRetired (shown.map Prod.snd) ∧
    (∃ served, run FakeDRAM.posedge dram (shown.map Prod.fst) = .ok served) ∧ property (shown.map Prod.snd)

section Shown

variable {property : List Top → Prop} {sim : Counters} {dram : FakeDRAM idBits}
  {edge : FakeDRAM.Edge addrBits idBits} {top : Top} {cycles : List (FakeDRAM.Edge addrBits idBits × Top)}

theorem shown_of_nil (now : property []) : Shown numRetired property sim dram cycles :=
  ⟨[], List.nil_prefix, trivial, ⟨dram, rfl⟩, now⟩

theorem not_shown_nil (nonempty : ¬ property []) :
    ¬ Shown numRetired property sim dram ([] : List (FakeDRAM.Edge addrBits idBits × Top)) := by
  intro now
  obtain ⟨shown, first, -, -, holds⟩ := now
  rw [List.prefix_nil.mp first] at holds
  exact nonempty holds

theorem shown_cons (nonempty : ¬ property []) :
    Shown numRetired property sim dram ((edge, top) :: cycles) ↔ sim.inBudget numRetired = true ∧
      ∃ next, FakeDRAM.posedge dram edge = .ok next ∧
        Shown numRetired (fun later => property (top :: later)) (sim.next numRetired top) next cycles := by
  constructor
  · intro ⟨shown, first, lasts, served, holds⟩
    rcases List.prefix_cons_iff.mp first with rfl | ⟨later, rfl, rest⟩
    · exact absurd holds nonempty
    · obtain ⟨final, served⟩ := served
      obtain ⟨next, taken, served⟩ := run_cons_ok_iff.mp served
      exact ⟨lasts.1, next, taken, later, rest, lasts.2, ⟨final, served⟩, holds⟩
  · intro ⟨budget, next, taken, later, rest, lasts, served, holds⟩
    obtain ⟨final, served⟩ := served
    exact ⟨(edge, top) :: later, List.prefix_cons_iff.mpr (.inr ⟨later, rfl, rest⟩), ⟨budget, lasts⟩,
      ⟨final, (run_cons_of_ok taken).trans served⟩, holds⟩

end Shown

/-! ## The cycles of a round -/

/-- The loop of a round was left with a flush. -/
def StopsAtFlush (outcome : Except (Fault ⊕ LoopExit × Simulator.OnBus idBits × LoopState)
    (Simulator.OnBus idBits × LoopState)) : Prop :=
  ∃ bus final, outcome = .error (.inr (.flushRecorded, bus, final))

/-- Whether the DRAM serves an edge is no matter of the labels. -/
theorem posedge_cases (track : Simulator.LabelTrack addrBits idBits) (bus : Simulator.OnBus idBits)
    (edge : FakeDRAM.Edge addrBits idBits) :
    (∃ fault, FakeDRAM.posedge ⟨bus.sim.memory, bus.regs⟩ edge = .error fault ∧
        bus.posedge track edge = .error fault) ∨
      ∃ next, bus.posedge track edge = .ok next ∧
        FakeDRAM.posedge ⟨bus.sim.memory, bus.regs⟩ edge = .ok ⟨next.sim.memory, next.regs⟩ := by
  cases served : FakeDRAM.posedge ⟨bus.sim.memory, bus.regs⟩ edge with
  | error fault => exact .inl ⟨fault, rfl, by simp [Simulator.OnBus.posedge, served, bind, Except.bind]⟩
  | ok dram =>
      exact .inr ⟨_, by simp only [Simulator.OnBus.posedge, served]; rfl, rfl⟩

/-- A turn decides whether the loop stops at a flush, or leaves it to the
cycles that follow. -/
theorem stopsAtFlush_cons {property : List Top → Prop} (nonempty : ¬ property [])
    (bus : Simulator.OnBus idBits) (edge : FakeDRAM.Edge addrBits idBits) (top : Top)
    (rest : List (FakeDRAM.Edge addrBits idBits × Top))
    (turn : loop.isRunning numRetired = true → ∀ next : Simulator.OnBus idBits,
      (∃ exit final, detectionCycle numRetired loop top = .error (exit, final) ∧
          (exit = .flushRecorded ↔ Shown numRetired (fun later => property (top :: later))
            (loop.sim.next numRetired top) ⟨next.sim.memory, next.regs⟩ rest)) ∨
        ∃ later, detectionCycle numRetired loop top = .ok later ∧
          (StopsAtFlush (run (roundCycle track numRetired) (next, later) rest) ↔
            Shown numRetired (fun later => property (top :: later)) (loop.sim.next numRetired top)
              ⟨next.sim.memory, next.regs⟩ rest)) :
    StopsAtFlush (run (roundCycle track numRetired) (bus, loop) ((edge, top) :: rest)) ↔
      Shown numRetired property loop.sim ⟨bus.sim.memory, bus.regs⟩ ((edge, top) :: rest) := by
  rw [shown_cons nonempty, ← LoopState.isRunning_eq]
  cases running : loop.isRunning numRetired with
  | false => simp [StopsAtFlush, run, roundCycle, running]
  | true =>
      rw [eq_self, true_and]
      rcases posedge_cases track bus edge with ⟨fault, served, moved⟩ | ⟨next, moved, served⟩
      · simp [StopsAtFlush, run, roundCycle, running, moved, served]
      · simp only [served, Except.ok.injEq, exists_eq_left']
        rcases turn running next with ⟨exit, final, left, decided⟩ | ⟨later, continues, onward⟩
        · rw [← decided]
          simp [StopsAtFlush, run, roundCycle, running, moved, left]
        · rw [← onward]
          simp only [run, roundCycle, running, moved, continues, if_true]

theorem stopsAtFlush_watching (track : Simulator.LabelTrack addrBits idBits) (bus : Simulator.OnBus idBits)
    (watches : loop.Watches slot) (cycles : List (FakeDRAM.Edge addrBits idBits × Top)) :
    StopsAtFlush (run (roundCycle track numRetired) (bus, loop) cycles) ↔
      Shown numRetired (ThrownAwayIn slot) loop.sim ⟨bus.sim.memory, bus.regs⟩ cycles := by
  induction cycles generalizing bus loop with
  | nil => exact iff_of_false (by simp [StopsAtFlush, run]) (not_shown_nil ThrownAwayIn.nonempty)
  | cons first rest ih =>
      apply stopsAtFlush_cons ThrownAwayIn.nonempty
      intro running next
      rcases detectionCycle_watching running watches first.2 with
        ⟨ready, final, left⟩ | ⟨unready, ⟨throws, final, left⟩ | ⟨spared, later, continues, kept, same⟩⟩
      · refine .inl ⟨_, final, left, iff_of_false (by decide) ?_⟩
        intro shown
        obtain ⟨_, -, -, -, thrown⟩ := shown
        exact (thrownAwayIn_cons.mp thrown).1 ready
      · exact .inl ⟨_, final, left, iff_of_true rfl
          (shown_of_nil (thrownAwayIn_cons.mpr ⟨unready, .inl ⟨rfl, throws⟩⟩))⟩
      · refine .inr ⟨later, continues, (ih next kept).trans ?_⟩
        have onward : (fun others => ThrownAwayIn slot (first.2 :: others)) = ThrownAwayIn slot := by
          funext others
          simp [thrownAwayIn_cons, unready, spared]
        rw [same, onward]

/-- The loop of a round stops at a flush exactly if its cycles show a leak. -/
theorem stopsAtFlush_iff (track : Simulator.LabelTrack addrBits idBits) (bus : Simulator.OnBus idBits)
    (start : loop.crash.Undecided) (notFound : loop.crash.taintFound = false)
    (cycles : List (FakeDRAM.Edge addrBits idBits × Top)) :
    StopsAtFlush (run (roundCycle track numRetired) (bus, loop) cycles) ↔
      Shown numRetired (ShowsLeak loop.top) loop.sim ⟨bus.sim.memory, bus.regs⟩ cycles := by
  induction cycles generalizing bus loop with
  | nil => exact iff_of_false (by simp [StopsAtFlush, run]) (not_shown_nil ShowsLeak.nonempty)
  | cons first rest ih =>
      apply stopsAtFlush_cons ShowsLeak.nonempty
      intro running next
      cases sink : first.2.taintedSink with
      | none =>
          rcases detectionCycle_clean running notFound sink with ⟨illegal, left⟩ | ⟨legal, continues⟩
          · refine .inl ⟨_, _, left, iff_of_false (by decide) ?_⟩
            intro shown
            obtain ⟨_, -, -, -, shows⟩ := shown
            exact ((showsLeak_cons_clean sink).mp shows).1 illegal
          · refine .inr ⟨_, continues, Iff.trans (@ih (loop.step numRetired first.2) next start notFound) ?_⟩
            have onward : (fun others => ShowsLeak loop.top (first.2 :: others)) = ShowsLeak first.2 := by
              funext others
              simp [showsLeak_cons_clean sink, legal]
            rw [onward, LoopState.step_sim]
            rfl
      | some taintInfo =>
          rcases detectionCycle_tainted running start notFound sink with
            ⟨throws, final, left⟩ | ⟨spared, later, continues, watches, same⟩
          · exact .inl ⟨_, final, left, iff_of_true rfl
              (shown_of_nil ((showsLeak_cons_tainted sink).mpr (.inl ⟨rfl, throws⟩)))⟩
          · refine .inr ⟨later, continues, (stopsAtFlush_watching track next watches rest).trans ?_⟩
            have onward : (fun others => ShowsLeak loop.top (first.2 :: others)) =
                ThrownAwayIn ((first.2.blames loop.top taintInfo).robIdx,
                  (first.2.blames loop.top taintInfo).robBank) := by
              funext others
              simp [showsLeak_cons_tainted sink, spared]
            rw [same, onward]

theorem recorded_found {cycle : Cycle} (relevant : cycle.relevantFlush = true) :
    cycle.recorded.flushFound = true ∧ cycle.recorded.taintFound = true := by
  obtain ⟨tainted, -⟩ := Cycle.relevantFlush_iff_throwsAway.mp relevant
  refine ⟨?_, (sameTaint_recorded cycle).taintFound.trans tainted⟩
  rw [recorded_of_relevantFlush relevant]

/-- What the record says about the way the loop was left. -/
structure LeftWith (exit : LoopExit) (crash : CrashInfo) : Prop where
  flushFound : crash.flushFound = true ↔ exit = .flushRecorded
  taintFound : exit = .flushRecorded → crash.taintFound = true

theorem roundCycle_leftWith {turn : Simulator.OnBus idBits × LoopState}
    {input : FakeDRAM.Edge addrBits idBits × Top} {exit : LoopExit} {last : Simulator.OnBus idBits}
    {final : LoopState} (start : turn.2.crash.Undecided)
    (left : roundCycle track numRetired turn input = .error (.inr (exit, last, final))) :
    LeftWith exit final.crash := by
  simp only [roundCycle] at left
  split at left
  · rename_i running
    split at left
    · cases left
    · split at left
      · cases left
      · rename_i stopped
        cases left
        rcases detectionCycle_cases running start input.2 with
          ⟨-, noFlush, taken⟩ | ⟨undecided, ⟨relevant, taken⟩ | ⟨-, taken | taken⟩⟩
        · cases stopped.symm.trans taken
          exact ⟨iff_of_false (ne_true_of_eq_false noFlush) (by decide), fun now => by cases now⟩
        · cases stopped.symm.trans taken
          obtain ⟨flush, taint⟩ := recorded_found relevant
          exact ⟨iff_of_true flush rfl, fun _ => taint⟩
        · cases stopped.symm.trans taken
          exact ⟨iff_of_false (ne_true_of_eq_false undecided.flushFound) (by decide), fun now => by cases now⟩
        · cases stopped.symm.trans taken
  · cases left
    exact ⟨iff_of_false (ne_true_of_eq_false start.flushFound) (by decide), fun now => by cases now⟩

theorem run_leftWith {turn : Simulator.OnBus idBits × LoopState}
    {cycles : List (FakeDRAM.Edge addrBits idBits × Top)} {exit : LoopExit} {last : Simulator.OnBus idBits}
    {final : LoopState} (start : turn.2.crash.Undecided)
    (stopped : run (roundCycle track numRetired) turn cycles = .error (.inr (exit, last, final))) :
    LeftWith exit final.crash := by
  have keeps : Keeps (roundCycle track numRetired) (fun _ _ => True)
      (fun turn => turn.2.crash.Undecided) := by
    intro turn input next _ undecided taken
    simp only [roundCycle] at taken
    split at taken
    · rename_i running
      split at taken
      · cases taken
      · split at taken
        · rename_i looped
          cases taken
          rcases detectionCycle_cases running undecided input.2 with
            ⟨-, -, left⟩ | ⟨later, ⟨-, left⟩ | ⟨-, left | left⟩⟩
          all_goals cases looped.symm.trans left
          exact later
        · cases taken
    · cases taken
  have stops : ∀ turn input stop, True → turn.2.crash.Undecided →
      roundCycle track numRetired turn input = .error stop →
        ∀ exit last final, stop = .inr (exit, last, final) → LeftWith exit final.crash := by
    intro turn input stop _ undecided left exit last final same
    subst same
    exact roundCycle_leftWith undecided left
  exact keeps.stops_within stops (along_of_forall _ (fun _ _ => trivial) _) start stopped _ _ _ rfl

theorem run_detectionCycle_of_ok {turn final : Simulator.OnBus idBits × LoopState}
    {cycles : List (FakeDRAM.Edge addrBits idBits × Top)}
    (reached : run (roundCycle track numRetired) turn cycles = .ok final) :
    run (detectionCycle numRetired) turn.2 (cycles.map Prod.snd) = .ok final.2 := by
  induction cycles generalizing turn with
  | nil =>
      cases reached
      rfl
  | cons input rest ih =>
      obtain ⟨next, taken, reached⟩ := run_cons_ok_iff.mp reached
      have looped : detectionCycle numRetired turn.2 input.2 = .ok next.2 := by
        simp only [roundCycle] at taken
        split at taken
        · split at taken
          · cases taken
          · split at taken
            · rename_i looped
              cases taken
              exact looped
            · cases taken
        · cases taken
      exact (run_cons_of_ok looped).trans (ih reached)

/-! ## The names of the findings -/

/-- The exception that flushed the pipeline was raised by the tainting
instruction. -/
structure CrashInfo.BlamesItself (crash : CrashInfo) : Prop where
  flushFound : crash.flushFound = true
  type : crash.flushInfo.type = .exception
  same : crash.flushInfo.inst.pc = crash.taintInstr.pc

/-- To name a mispredicted jump its bytes are read from the DRAM. -/
def CrashInfo.Nameable (crash : CrashInfo) (memory : SimMem) : Prop :=
  crash.flushFound = true → crash.flushInfo.type = .misprediction →
    crash.flushInfo.inst.uopcode ∈ [uopJ, uopJAL, uopJALR] →
      ∃ isReturn, isRet memory crash.flushInfo.inst = .ok isReturn

section Names

variable {crash named : CrashInfo} {memory : SimMem} {retired_pcs : Finset UInt64}
  {taintInstr : RobEntry} {flushInfo : FlushInfo} {reason : String}

theorem mispredictionReason_ok_iff :
    (∃ reason, CrashInfo.mispredictionReason memory retired_pcs taintInstr flushInfo = .ok reason) ↔
      (flushInfo.inst.uopcode ∈ [CrashInfo.uopJ, CrashInfo.uopJAL, CrashInfo.uopJALR] →
        ∃ isReturn, CrashInfo.isRet memory flushInfo.inst = .ok isReturn) := by
  simp only [CrashInfo.mispredictionReason]
  split
  · rename_i branch
    have apart : flushInfo.inst.uopcode ∉
        [CrashInfo.uopJ, CrashInfo.uopJAL, CrashInfo.uopJALR] := by
      intro jump
      simp only [List.mem_cons, List.not_mem_nil, or_false] at branch jump
      rcases jump with same | same | same <;> rw [same] at branch <;> exact absurd branch (by decide)
    apply iff_of_true ?_ fun jump => absurd jump apart
    split
    · exact ⟨_, rfl⟩
    · split <;> exact ⟨_, rfl⟩
  · split
    · rename_i jump
      cases read : CrashInfo.isRet memory flushInfo.inst with
      | error fault => simp [jump, bind, Except.bind]
      | ok isReturn => cases isReturn <;> simp [bind, Except.bind, pure, Except.pure]
    · rename_i other
      exact iff_of_true ⟨_, rfl⟩ fun jump => absurd jump other

theorem mispredictionReason_not_meltdown
    (reported : CrashInfo.mispredictionReason memory retired_pcs taintInstr flushInfo = .ok reason) :
    isMeltdown reason = false := by
  simp only [CrashInfo.mispredictionReason] at reported
  split at reported
  · split at reported
    · cases reported
      rfl
    · split at reported <;> cases reported <;> rfl
  · split at reported
    · obtain ⟨isReturn, -, reported⟩ := bind_ok_iff.mp reported
      split at reported <;> cases reported <;> rfl
    · cases reported
      rfl

theorem flushReason_ok_iff :
    (∃ reason, CrashInfo.flushReason memory retired_pcs taintInstr flushInfo = .ok reason) ↔
      (flushInfo.type = .misprediction →
        flushInfo.inst.uopcode ∈ [CrashInfo.uopJ, CrashInfo.uopJAL, CrashInfo.uopJALR] →
          ∃ isReturn, CrashInfo.isRet memory flushInfo.inst = .ok isReturn) := by
  cases type : flushInfo.type with
  | misprediction => simp [CrashInfo.flushReason, type, mispredictionReason_ok_iff]
  | memOrdering | exception | flush | unknownFlush | none =>
      simp [CrashInfo.flushReason, type, pure, Except.pure]

theorem flushReason_meltdown_iff
    (reported : CrashInfo.flushReason memory retired_pcs taintInstr flushInfo = .ok reason) :
    isMeltdown reason = true ↔
      flushInfo.type = .exception ∧ flushInfo.inst.pc = taintInstr.pc := by
  cases type : flushInfo.type with
  | misprediction =>
      simp only [CrashInfo.flushReason, type] at reported
      simp [mispredictionReason_not_meltdown reported]
  | exception =>
      simp only [CrashInfo.flushReason, type] at reported
      cases reported
      by_cases same : flushInfo.inst.pc = taintInstr.pc
      · simp [same, isMeltdown]
      · simp [same, isMeltdown, List.isPrefixOf]
  | flush =>
      simp only [CrashInfo.flushReason, type] at reported
      cases reported
      simp [isMeltdown, List.isPrefixOf]
  | memOrdering | unknownFlush | none =>
      simp only [CrashInfo.flushReason, type] at reported
      cases reported
      simp [isMeltdown, List.isPrefixOf]

/-- Classification ends exactly if there is a reason to report. -/
theorem classify_named_iff {source : TaintSource} :
    (∃ named, crash.classify memory retired_pcs source = .ok named) ↔
      ∃ reason, (if crash.taintFound = false then .ok "No_taint"
        else if crash.flushFound = false then .ok "No_flush"
        else if source ≠ .all ∧ source ≠ .memory then .ok ("MDS_" ++ source.toString)
        else CrashInfo.flushReason memory retired_pcs crash.taintInstr crash.flushInfo) = .ok reason := by
  constructor
  · intro ⟨named, classified⟩
    obtain ⟨reason, reported, -⟩ := bind_ok_iff.mp classified
    exact ⟨reason, reported⟩
  · intro ⟨reason, reported⟩
    exact ⟨_, bind_ok_iff.mpr ⟨reason, reported, rfl⟩⟩

theorem classify_all_eq (found : crash.taintFound = true) :
    crash.classify memory retired_pcs .all =
      (if crash.flushFound = true then
          CrashInfo.flushReason memory retired_pcs crash.taintInstr crash.flushInfo
        else .ok "No_flush") >>= fun reason => .ok { crash with reason } := by
  cases flush : crash.flushFound <;> simp [CrashInfo.classify, found, flush] <;> rfl

theorem classify_all_ok_iff (found : crash.taintFound = true) :
    (∃ named, crash.classify memory retired_pcs .all = .ok named) ↔ crash.Nameable memory := by
  rw [classify_named_iff, found]
  cases flush : crash.flushFound with
  | false => simp [CrashInfo.Nameable, flush]
  | true => simp [flushReason_ok_iff, CrashInfo.Nameable, flush]

theorem classify_all_meltdown_iff (found : crash.taintFound = true)
    (classified : crash.classify memory retired_pcs .all = .ok named) :
    isMeltdown named.reason = true ↔ crash.BlamesItself := by
  rw [classify_all_eq found] at classified
  obtain ⟨reason, reported, same⟩ := bind_ok_iff.mp classified
  cases same
  cases flush : crash.flushFound with
  | false =>
      simp only [flush, Bool.false_eq_true, if_false] at reported
      cases reported
      apply iff_of_false (by simp [isMeltdown, List.isPrefixOf]) fun blames => ?_
      rw [blames.flushFound] at flush
      contradiction
  | true =>
      simp only [flush, if_true] at reported
      rw [flushReason_meltdown_iff reported]
      exact ⟨fun ⟨type, same⟩ => ⟨flush, type, same⟩, fun blames => ⟨blames.type, blames.same⟩⟩

theorem classify_storeBuffer (found : crash.taintFound = true) :
    crash.classify memory retired_pcs .storeBuffer =
      .ok { crash with
        reason := if crash.flushFound = true then "MDS_STORE_BUFFER" else "No_flush" } := by
  cases flush : crash.flushFound <;> simp [CrashInfo.classify, found, flush] <;> rfl

end Names

/-! ## What the second round makes of a finding -/

variable {host : Host Core Devices ramSize addrBits idBits} {args : MainArgs}
  {start : MainState Core Devices ramSize idBits} {behaviour : RoundBehaviour addrBits idBits}

/-- Spike does not discard the second round, and what its cycles show is a leak
with only the buffers tainted. -/
def Confirms (host : Host Core Devices ramSize addrBits idBits) (args : MainArgs)
    (start : MainState Core Devices ramSize idBits) (behaviour : RoundBehaviour addrBits idBits) :
    Prop :=
  ∃ warm codeSize loaded result final,
    start.bus.doWarmup host.track behaviour.warmup = .ok warm ∧
    Simulator.loadRound host.copy args.toArgs warm.sim = .ok (codeSize, loaded) ∧
    ArchSim.runSpikeSim host.spike (loaded.archConfig args.discardIllegalJumps)
      (Simulator.prepareArchSim args.toArgs start.archSim) loaded.archProgram
      (Simulator.archCycles args.toArgs codeSize) = .ok (result, final) ∧
    result.addrs ≠ [] ∧
    Shown result.numRetired (ShowsLeak behaviour.top) start.counters ⟨loaded.memory, warm.regs⟩
      behaviour.cycles

/-- `reason.rfind("MDS_", 0) == 0`, for the reason of a second round. -/
def isMds (reason : String) : Bool := "MDS_".toList.isPrefixOf reason.toList

/-- The MDS_ reason of a second round that has one. -/
def mdsReason (ended : Except Fault (RoundEnd Core Devices ramSize idBits)) : Option String :=
  match ended with
  | .ok (.finished crash after) =>
      match crash.classify after.bus.sim.memory after.counters.retired_pcs .storeBuffer with
      | .ok named => if isMds named.reason then some named.reason else none
      | .error _ => none
  | _ => none

/-- The issue that a finding is to be reported as. -/
def issueDue (host : Host Core Devices ramSize addrBits idBits) (args : MainArgs) (named : CrashInfo)
    (after : MainState Core Devices ramSize idBits) (second : RoundBehaviour addrBits idBits) : String :=
  if isMeltdown named.reason then
    (mdsReason ((after.reset host.spike).round host args .storeBuffer second)).getD named.reason
  else named.reason

theorem detect_flush_iff (bus : Simulator.OnBus idBits) (counters : Counters)
    (round : Simulator.Round Core Devices ramSize) :
    (∃ crash after, MainState.detect host.track bus counters round behaviour =
        .ok (.finished crash after) ∧ crash.taintFound = true ∧ crash.flushFound = true) ↔
      Shown round.result.numRetired (ShowsLeak behaviour.top) counters ⟨bus.sim.memory, bus.regs⟩
        behaviour.cycles := by
  have undecided : (LoopState.start behaviour.top counters behaviour.uninitialised).crash.Undecided :=
    ⟨rfl, rfl⟩
  have shows := @stopsAtFlush_iff _ _ round.result.numRetired _ host.track bus undecided rfl behaviour.cycles
  refine Iff.trans ?_ shows
  constructor
  · intro ended
    obtain ⟨crash, after, finished, -, flush⟩ := ended
    simp only [MainState.detect] at finished
    split at finished
    · cases finished
    · cases finished
    · rename_i exit last final stopped
      split at finished
      · cases finished
      · cases finished
        obtain rfl := (run_leftWith undecided stopped).flushFound.mp flush
        exact ⟨last, final, stopped⟩
  · intro stops
    obtain ⟨last, final, stopped⟩ := stops
    have left := run_leftWith undecided stopped
    exact ⟨final.crash, _, detect_of_stopped stopped (by decide), left.taintFound rfl,
      left.flushFound.mpr rfl⟩

theorem taintRound_accepted {sim : Simulator} {archSim final : ArchSim Core Devices ramSize}
    {result : ArchSim.SimResult} {codeSize : UInt64} (source : TaintSource)
    (simulated : ArchSim.runSpikeSim host.spike (sim.archConfig args.discardIllegalJumps) archSim
      sim.archProgram (Simulator.archCycles args.toArgs codeSize) = .ok (result, final))
    (accepted : result.addrs ≠ []) :
    ∃ round, sim.taintRound host.spike source args.toArgs archSim codeSize = .ok (some round) ∧
      round.result = result :=
  ⟨_, bind_ok_iff.mpr ⟨_, simulated, if_neg accepted⟩, rfl⟩

theorem taintRound_result {sim : Simulator} {archSim : ArchSim Core Devices ramSize}
    {source : TaintSource} {codeSize : UInt64} {round : Simulator.Round Core Devices ramSize}
    (ran : sim.taintRound host.spike source args.toArgs archSim codeSize = .ok (some round)) :
    ∃ final, ArchSim.runSpikeSim host.spike (sim.archConfig args.discardIllegalJumps) archSim
        sim.archProgram (Simulator.archCycles args.toArgs codeSize) = .ok (round.result, final) ∧
      round.result.addrs ≠ [] := by
  obtain ⟨⟨result, final⟩, simulated, ran⟩ := bind_ok_iff.mp ran
  by_cases discarded : result.addrs = []
  · simp only [discarded, if_true] at ran
    cases ran
  · simp only [discarded, if_false] at ran
    cases ran
    exact ⟨final, simulated, discarded⟩

/-- What confirms a finding is a second round that ends with a taint and a
flush. -/
theorem confirms_iff :
    Confirms host args start behaviour ↔
      ∃ crash after, start.round host args .storeBuffer behaviour = .ok (.finished crash after) ∧
        crash.taintFound = true ∧ crash.flushFound = true := by
  constructor
  · intro ⟨warm, codeSize, loaded, result, final, warmed, load, simulated, accepted, shown⟩
    obtain ⟨round, tainted, rfl⟩ := taintRound_accepted .storeBuffer simulated accepted
    obtain ⟨labels, same⟩ := taintRound_sim tainted
    have prepared : start.prepare host args .storeBuffer behaviour =
        .ok (some ({ warm with sim := round.sim }, round)) :=
      bind_ok_iff.mpr ⟨_, warmed, bind_ok_iff.mpr ⟨_, load, bind_ok_iff.mpr ⟨_, tainted, rfl⟩⟩⟩
    rw [round_of_prepared prepared, detect_flush_iff, same]
    exact shown
  · intro ⟨crash, after, finished, found⟩
    obtain ⟨bus, round, -, -, prepared, -⟩ := round_finished finished
    rw [round_of_prepared prepared] at finished
    have shown := (detect_flush_iff bus start.counters round).mp ⟨crash, after, finished, found⟩
    obtain ⟨warm, codeSize, loaded, warmed, load, tainted, rfl⟩ := prepare_ok prepared
    obtain ⟨final, simulated, accepted⟩ := taintRound_result tainted
    obtain ⟨labels, same⟩ := taintRound_sim tainted
    rw [same] at shown
    exact ⟨warm, codeSize, loaded, round.result, final, warmed, load, simulated, accepted, shown⟩

/-- A round that does not run to the end of its loop confirms nothing. -/
theorem not_confirms_of_unfinished {ended : Except Fault (RoundEnd Core Devices ramSize idBits)}
    (same : start.round host args .storeBuffer behaviour = ended)
    (unfinished : ∀ crash after, ended ≠ .ok (.finished crash after)) :
    ¬ Confirms host args start behaviour := by
  intro confirms
  obtain ⟨crash, after, finished, -⟩ := confirms_iff.mp confirms
  exact unfinished crash after (same.symm.trans finished)

theorem mdsReason_of_confirms (confirms : Confirms host args start behaviour) :
    mdsReason (start.round host args .storeBuffer behaviour) = some "MDS_STORE_BUFFER" := by
  obtain ⟨crash, after, finished, found, flush⟩ := confirms_iff.mp confirms
  have mds : isMds "MDS_STORE_BUFFER" = true := rfl
  simp only [mdsReason, finished, classify_storeBuffer found, flush, if_true, mds]

theorem mdsReason_of_not_confirms (unconfirmed : ¬ Confirms host args start behaviour) :
    mdsReason (start.round host args .storeBuffer behaviour) = none := by
  rw [confirms_iff] at unconfirmed
  simp only [mdsReason]
  split
  · rename_i crash after finished
    cases found : crash.taintFound with
    | false => simp [CrashInfo.classify, found, isMds, List.isPrefixOf, pure, Except.pure, bind, Except.bind]
    | true =>
        have noFlush : crash.flushFound ≠ true :=
          fun flush => unconfirmed ⟨crash, after, finished, found, flush⟩
        simp [classify_storeBuffer found, noFlush, isMds, List.isPrefixOf]
  · rfl

/-- Enough observations end every loop, and with it the round. -/
theorem round_not_running (source : TaintSource) (long : 2 ^ 64 ≤ behaviour.cycles.length) :
    start.round host args source behaviour ≠ .ok .running := by
  intro still
  obtain ⟨prepared, -, still⟩ := bind_ok_iff.mp still
  cases prepared with
  | none => cases still
  | some ready =>
      obtain ⟨bus, round⟩ := ready
      simp only [MainState.detect] at still
      split at still
      · rename_i final reached
        have tops : 2 ^ 64 ≤ (behaviour.cycles.map Prod.snd).length := by rwa [List.length_map]
        obtain ⟨exit, last, left⟩ : ∃ exit last, run (detectionCycle round.result.numRetired)
            (.start behaviour.top start.counters behaviour.uninitialised)
            (behaviour.cycles.map Prod.snd) = .error (exit, last) := detection_loop_left _ tops
        rw [run_detectionCycle_of_ok reached] at left
        cases left
      · cases still
      · split at still <;> cases still

/-- A second round is the last one.  It reports the finding if it confirms it,
and otherwise nothing but a taint without a flush. -/
theorem second_round_stops (host : Host Core Devices ramSize addrBits idBits) (args : MainArgs)
    (start : MainState Core Devices ramSize idBits) (behaviour : RoundBehaviour addrBits idBits) :
    ∃ stop, mainStep host args (.storeBuffer, start) behaviour = .error stop ∧
      (2 ^ 64 ≤ behaviour.cycles.length → stop ≠ .running) ∧
      (Confirms host args start behaviour → stop = .reported "MDS_STORE_BUFFER") ∧
      (¬ Confirms host args start behaviour →
        ∀ reason, stop = .reported reason → reason = "No_flush") := by
  have known : TaintSource.storeBuffer ≠ .unknown := by decide
  cases ended : start.round host args .storeBuffer behaviour with
  | error fault =>
      have silent := not_confirms_of_unfinished ended (by simp)
      exact ⟨.fault fault, by simp [mainStep, ended], by simp, fun now => absurd now silent, by simp⟩
  | ok outcome =>
      cases outcome with
      | discarded | illegalInstruction =>
          have silent := not_confirms_of_unfinished ended (by simp)
          exact ⟨.returned, by simp [mainStep, ended], by simp, fun now => absurd now silent, by simp⟩
      | running =>
          have silent := not_confirms_of_unfinished ended (by simp)
          refine ⟨.running, by simp [mainStep, ended], fun long => ?_, fun now => absurd now silent, by simp⟩
          exact absurd ended (round_not_running .storeBuffer long)
      | finished crash after =>
          have confirmed : Confirms host args start behaviour ↔
              crash.taintFound = true ∧ crash.flushFound = true := by
            rw [confirms_iff, ended]
            simp
          have step := mainStep_of_finished known ended
          cases found : crash.taintFound with
          | false =>
              refine ⟨.returned, ?_, by simp, by simp [confirmed, found], by simp⟩
              rw [step, verdict, found]
              rfl
          | true =>
              have named := step.trans (verdict_of_named found (classify_storeBuffer found))
              rw [if_neg (by simp [getNextTaintSource])] at named
              refine ⟨_, named, by simp, fun now => ?_, fun silent reason reported => ?_⟩
              · rw [if_pos (confirmed.mp now).2]
              · rw [confirmed] at silent
                rw [if_neg fun flush => silent ⟨found, flush⟩] at reported
                cases reported
                rfl

/-- A finding of the first round is reported as what it is due to be exactly if
it needs no second round or the second round confirms it: no other outcome of
the second round brings the first one's reason back. -/
theorem mds_finding_reported_iff {first : RoundBehaviour addrBits idBits} {crash : CrashInfo}
    {after : MainState Core Devices ramSize idBits} (mds : args.mds = true)
    (finished : start.round host args .all first = .ok (.finished crash after))
    (found : crash.taintFound = true) (second : RoundBehaviour addrBits idBits)
    (rest : List (RoundBehaviour addrBits idBits)) :
    ∃ stop, run (mainStep host args) (.all, start) (first :: second :: rest) = .error stop ∧
      (2 ^ 64 ≤ second.cycles.length → stop ≠ .running) ∧
      ((∃ named, crash.classify after.bus.sim.memory after.counters.retired_pcs .all = .ok named ∧
          stop = .reported (issueDue host args named after second)) ↔
        crash.Nameable after.bus.sim.memory ∧
          (¬ crash.BlamesItself ∨ Confirms host args (after.reset host.spike) second)) := by
  cases classified : crash.classify after.bus.sim.memory after.counters.retired_pcs .all with
  | error fault =>
      have stopped : mainStep host args (.all, start) first = .error (.fault fault) := by
        rw [mainStep_of_finished (by decide) finished, verdict, if_pos found]
        simp only [classified]
      have unnamed : ¬ crash.Nameable after.bus.sim.memory := by
        rw [← classify_all_ok_iff found, classified]
        simp
      exact ⟨.fault fault, by simp only [run, stopped], by simp, by simp [unnamed]⟩
  | ok named =>
      have nameable : crash.Nameable after.bus.sim.memory :=
        (classify_all_ok_iff found).mp ⟨named, classified⟩
      have meltdown := classify_all_meltdown_iff found classified
      by_cases blames : crash.BlamesItself
      · have again := mainStep_of_meltdown mds finished found classified (meltdown.mpr blames)
        obtain ⟨stop, stopped, ends, confirmed, unconfirmed⟩ :=
          second_round_stops host args (after.reset host.spike) second
        refine ⟨stop, ?_, ends, ?_⟩
        · rw [run_cons_of_ok again]
          simp only [run, stopped]
        · by_cases confirms : Confirms host args (after.reset host.spike) second
          · have due : issueDue host args named after second = "MDS_STORE_BUFFER" := by
              rw [issueDue, if_pos (meltdown.mpr blames), mdsReason_of_confirms confirms]
              rfl
            simp [confirmed confirms, due, nameable, confirms]
          · have due : issueDue host args named after second = named.reason := by
              rw [issueDue, if_pos (meltdown.mpr blames), mdsReason_of_not_confirms confirms]
              rfl
            apply iff_of_false (fun reported => ?_) (by simp [blames, confirms])
            obtain ⟨other, same, reported⟩ := reported
            cases same
            rw [due] at reported
            have again := meltdown.mpr blames
            rw [unconfirmed confirms named.reason reported] at again
            simp [isMeltdown, List.isPrefixOf] at again
      · have judged := (mainStep_of_finished (by decide) finished).trans
          (verdict_of_named found classified)
        rw [if_neg fun again => blames (meltdown.mp again.2.1)] at judged
        refine ⟨.reported named.reason, by simp only [run, judged], by simp, ?_⟩
        have own : issueDue host args named after second = named.reason :=
          if_neg fun again => blames (meltdown.mp again)
        simp [nameable, blames, own]

/-! ## Second rounds -/

section Storing

variable {data : Nat → UInt8} {labels : Store UInt8}
  {after : MainState UInt64 Unit SimMem.Geometry.tiny.memSize 5}

/-- The new core has no tracers, but its fetches from the boot ROM are listed. -/
theorem storing_resumes (archSim : ArchSim UInt64 Unit SimMem.Geometry.tiny.memSize)
    (unstuck : archSim.fetchRecorder.stuck = false) : ∃ result final,
    ArchSim.runSpikeSim storingSpike
        (Simulator.archConfig ⟨{ geometry := .tiny, data }, labels, 8, 0, [(0x80000000, 0x80000008)]⟩ false)
        (archSim.reset storingSpike)
        (Simulator.archProgram ⟨{ geometry := .tiny, data }, labels, 8, 0, [(0x80000000, 0x80000008)]⟩)
        (Simulator.archCycles mdsArgs.toArgs 8) = .ok (result, final) ∧
      result.addrs ≠ [] ∧ result.numRetired = 2 := by
  obtain ⟨core, filters, memtracers, ram, devices, ⟨last, same, stuck, fetches⟩, recorder, loads, stores, illegal⟩ :=
    archSim
  cases unstuck
  have listed : (0x10000 : UInt64) ∈
      insert 0x10003 (insert 0x10002 (insert 0x10001 (insert 0x10000 (∅ : Finset UInt64)))) := by decide
  exact ⟨_, _, rfl, List.ne_nil_of_mem ((Finset.mem_sort _).mpr listed), rfl⟩

/-- A second round of the program begins, whatever its cycles are. -/
structure SecondRound (after : MainState UInt64 Unit SimMem.Geometry.tiny.memSize 5)
    (warm : Simulator.OnBus 5) (data : Nat → UInt8) (labels : Store UInt8) (result : ArchSim.SimResult)
    (final : ArchSim UInt64 Unit SimMem.Geometry.tiny.memSize) : Prop where
  warmed : (after.reset storingSpike).bus.doWarmup Simulator.keepLabels (fun _ => {}) = .ok warm
  load : Simulator.loadRound Simulator.cleanCopy mdsArgs.toArgs warm.sim =
    .ok (8, ⟨{ geometry := .tiny, data }, labels, 8, 0, [(0x80000000, 0x80000008)]⟩)
  simulated : ArchSim.runSpikeSim storingSpike
    (Simulator.archConfig ⟨{ geometry := .tiny, data }, labels, 8, 0, [(0x80000000, 0x80000008)]⟩ false)
    (after.archSim.reset storingSpike)
    (Simulator.archProgram ⟨{ geometry := .tiny, data }, labels, 8, 0, [(0x80000000, 0x80000008)]⟩)
    (Simulator.archCycles mdsArgs.toArgs 8) = .ok (result, final)
  accepted : result.addrs ≠ []
  numRetired : result.numRetired = 2

theorem secondRound (unstuck : after.archSim.fetchRecorder.stuck = false)
    (sim : after.bus.sim = ⟨{ geometry := .tiny, data }, labels, 8, 0, [(0x80000000, 0x80000008)]⟩) :
    ∃ warm data labels result final, SecondRound after warm data labels result final := by
  obtain ⟨regs, warmed⟩ := doWarmup_keepLabels (after.reset storingSpike).bus fun _ => {}
  have reset : (after.reset storingSpike).bus.sim =
      ⟨{ geometry := .tiny, data }, labels, 8, 0, [(0x80000000, 0x80000008)]⟩ :=
    congrArg Simulator.reset sim
  obtain ⟨data', labels', load⟩ := loadRound_twoInstructions
    (congrArg (fun sim => sim.memory.geometry) reset) (congrArg Simulator.initSize reset)
    (congrArg Simulator.codeRegions reset)
  obtain ⟨result, final, simulated, accepted, numRetired⟩ :=
    @storing_resumes data' labels' after.archSim unstuck
  refine ⟨_, data', labels', result, final, warmed, ?_, simulated, accepted, numRetired⟩
  rw [reset] at load
  rw [reset]
  exact load

theorem SecondRound.prepared {warm : Simulator.OnBus 5} {result : ArchSim.SimResult}
    {final : ArchSim UInt64 Unit SimMem.Geometry.tiny.memSize}
    (second : SecondRound after warm data labels result final) {behaviour : RoundBehaviour 32 5}
    (quiet : behaviour.warmup = fun _ => {}) :
    ∃ bus round labels, (after.reset storingSpike).prepare storingHost mdsArgs .storeBuffer behaviour =
        .ok (some (bus, round)) ∧
      bus.sim = ⟨{ geometry := .tiny, data }, labels, 8, 0, [(0x80000000, 0x80000008)]⟩ ∧
      round.result.numRetired = 2 := by
  obtain ⟨round, tainted, same⟩ :=
    @taintRound_accepted _ _ _ _ _ storingHost mdsArgs _ _ _ _ _ .storeBuffer second.simulated second.accepted
  obtain ⟨taints, kept⟩ := taintRound_sim tainted
  exact ⟨_, round, taints, bind_ok_iff.mpr ⟨_, quiet ▸ second.warmed, bind_ok_iff.mpr ⟨_, second.load,
    bind_ok_iff.mpr ⟨_, tainted, rfl⟩⟩⟩, kept, same ▸ second.numRetired⟩

/-- How the second round ends when its loop is left, whatever it carries along. -/
theorem SecondRound.ends {warm : Simulator.OnBus 5} {result : ArchSim.SimResult}
    {final : ArchSim UInt64 Unit SimMem.Geometry.tiny.memSize}
    (second : SecondRound after warm data labels result final) (reset : after.counters.reset = {})
    (behaviour : RoundBehaviour 32 5) (quiet : behaviour.warmup = fun _ => {}) (exit : LoopExit)
    (property : CrashInfo → Prop)
    (left : ∀ labels regs, ∃ bus loop,
      run (roundCycle Simulator.keepLabels 2)
          ((⟨⟨{ geometry := .tiny, data }, labels, 8, 0, [(0x80000000, 0x80000008)]⟩, regs⟩ :
            Simulator.OnBus 5), .start behaviour.top {} behaviour.uninitialised)
          behaviour.cycles = .error (.inr (exit, bus, loop)) ∧ property loop.crash) :
    ∃ crash ended, property crash ∧
      mainStep storingHost mdsArgs (.storeBuffer, after.reset storingSpike) behaviour =
        if exit = .illegalInstruction then .error .returned
        else verdict storingSpike mdsArgs .storeBuffer crash ended := by
  obtain ⟨⟨sim, regs⟩, round, taints, prepared, same, numRetired⟩ := second.prepared quiet
  simp only at same
  subst same
  obtain ⟨bus, loop, stopped, holds⟩ := left taints regs
  rw [← numRetired] at stopped
  have counters : (after.reset storingSpike).counters = {} := reset
  refine ⟨loop.crash, ⟨bus, loop.sim, round.archSim⟩, holds, ?_⟩
  have ended := round_of_prepared prepared
  simp only [MainState.detect, counters, storingHost] at ended
  simp only [stopped] at ended
  simp only [mainStep, storingHost, ended]
  by_cases illegal : exit = .illegalInstruction <;> simp [illegal]

end Storing

def retiringTop : Top where
  committing0 := true
  committing1 := true

/-- No taint: the loop ends when the core has retired enough. -/
def untaintedRound : RoundBehaviour 32 5 := quietRound [retiringTop, retiringTop, retiringTop]

/-- An illegal instruction ahead of any taint. -/
def illegalRound : RoundBehaviour 32 5 :=
  quietRound [{ flush := { flushSignal := true, xcptValid := true, xcptCause := FlushCause.ILLEGAL_INSTRUCTION } }]

/-- A taint without a flush: its load retires. -/
def retiredRound : RoundBehaviour 32 5 :=
  quietRound [{ rob := loadAtHead false, taintedSink := some ⟨.iregfile, 40⟩ }, { rob := loadAtHead false }]

/-- The first round has a finding, and three second rounds drop it: two end the
process without a report, and one reports something else. -/
theorem mds_finding_dropped_storing : ∃ crash after named,
    storingStart.round storingHost mdsArgs .all meltdownRound = .ok (.finished crash after) ∧
      crash.taintFound = true ∧
      crash.classify after.bus.sim.memory after.counters.retired_pcs .all = .ok named ∧
      named.reason = "Meltdown_LOAD_PFAULT" ∧
      run (mainStep storingHost mdsArgs) (.all, storingStart) [meltdownRound, untaintedRound] =
        .error .returned ∧
      run (mainStep storingHost mdsArgs) (.all, storingStart) [meltdownRound, illegalRound] =
        .error .returned ∧
      run (mainStep storingHost mdsArgs) (.all, storingStart) [meltdownRound, retiredRound] =
        .error (.reported "No_flush") := by
  obtain ⟨crash, after, named, data, labels, finished, found, classified, reason, sim, -, -, unstuck, reset⟩ :=
    storingRound
  have again := mainStep_of_meltdown rfl finished found classified (reason ▸ rfl)
  obtain ⟨warm, data, labels, result, final, second⟩ := secondRound unstuck sim
  have drops : ∀ {behaviour : RoundBehaviour 32 5} {stop : MainExit},
      mainStep storingHost mdsArgs (.storeBuffer, after.reset storingHost.spike) behaviour = .error stop →
        run (mainStep storingHost mdsArgs) (.all, storingStart) [meltdownRound, behaviour] = .error stop := by
    intro behaviour stop stops
    rw [run_cons_of_ok again]
    simp only [run, stops]
  refine ⟨crash, after, named, finished, found, classified, reason, drops ?_, drops ?_, drops ?_⟩
  · obtain ⟨clean, ended, untainted, stops⟩ := second.ends reset untaintedRound rfl .condition
      (fun crash => crash.taintFound = false) fun labels regs => ⟨_, _, rfl, rfl⟩
    refine stops.trans ?_
    simp [verdict, untainted]
  · obtain ⟨_, ended, -, stops⟩ := second.ends reset illegalRound rfl .illegalInstruction (fun _ => True)
      fun labels regs => ⟨_, _, rfl, trivial⟩
    exact stops
  · obtain ⟨leaked, ended, ⟨tainted, noFlush⟩, stops⟩ := second.ends reset retiredRound rfl .taintArchitectural
      (fun crash => crash.taintFound = true ∧ crash.flushFound = false)
      fun labels regs => ⟨_, _, rfl, rfl, rfl⟩
    refine stops.trans ((verdict_of_named tainted (classify_storeBuffer tainted)).trans ?_)
    simp [noFlush, getNextTaintSource]

theorem meltdownRound_showsLeak : ShowsLeak meltdownRound.top (meltdownRound.cycles.map Prod.snd) := by
  refine .later [] _ ⟨.iregfile, 40⟩ [] _ ⟨by simp, rfl⟩ (by decide) ⟨by simp, ?_, by decide⟩
  intro top member
  obtain rfl := List.mem_singleton.mp member
  decide

/-- A second round that shows the same as the first confirms the finding. -/
theorem SecondRound.confirms {data : Nat → UInt8} {labels : Store UInt8} {warm : Simulator.OnBus 5}
    {result : ArchSim.SimResult} {after : MainState UInt64 Unit SimMem.Geometry.tiny.memSize 5}
    {final : ArchSim UInt64 Unit SimMem.Geometry.tiny.memSize}
    (second : SecondRound after warm data labels result final) (reset : after.counters.reset = {}) :
    Confirms storingHost mdsArgs (after.reset storingSpike) meltdownRound := by
  refine ⟨warm, 8, _, result, final, second.warmed, second.load, second.simulated, second.accepted,
    meltdownRound.cycles, List.prefix_refl _, ?_, ⟨_, rfl⟩, meltdownRound_showsLeak⟩
  rw [second.numRetired, show (after.reset storingSpike).counters = {} from reset]
  exact ⟨rfl, rfl, trivial⟩

/-- The second round confirms the finding, and it is reported as one of the
store buffer. -/
theorem mds_finding_reported_iff_storing : ∃ crash after named,
    storingStart.round storingHost mdsArgs .all meltdownRound = .ok (.finished crash after) ∧
      crash.classify after.bus.sim.memory after.counters.retired_pcs .all = .ok named ∧
      issueDue storingHost mdsArgs named after meltdownRound = "MDS_STORE_BUFFER" ∧
      run (mainStep storingHost mdsArgs) (.all, storingStart) [meltdownRound, meltdownRound] =
        .error (.reported (issueDue storingHost mdsArgs named after meltdownRound)) := by
  obtain ⟨crash, after, named, data, labels, finished, found, classified, reason, sim, -, -, unstuck, reset⟩ :=
    storingRound
  obtain ⟨warm, data, labels, result, final, second⟩ := secondRound unstuck sim
  have confirms := second.confirms reset
  obtain ⟨stop, stopped, -, reported⟩ := mds_finding_reported_iff rfl finished found meltdownRound []
  have nameable : crash.Nameable after.bus.sim.memory :=
    (classify_all_ok_iff found).mp ⟨named, classified⟩
  obtain ⟨other, same, rfl⟩ := reported.mpr ⟨nameable, .inr confirms⟩
  cases classified.symm.trans same
  refine ⟨crash, after, named, finished, classified, ?_, stopped⟩
  rw [issueDue, if_pos (reason ▸ rfl), show storingHost.spike = storingSpike from rfl,
    mdsReason_of_confirms confirms]
  rfl

end PhantomTrails
