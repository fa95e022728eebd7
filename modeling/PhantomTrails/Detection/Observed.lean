import PhantomTrails.Detection.Record
import PhantomTrails.Detection.Tracking

namespace PhantomTrails

open Foundation Foundation.Machine

/-! # Leaks that the observations show

Whether the loop records a flush is a matter of what its cycles show: the first
tainted sink names an instruction, and that instruction is thrown away before
it is ready at the head of the ROB.
-/

/-- A flush throws away an instruction with this branch mask: a flush on commit
is left out, and a misprediction must be of a branch the instruction depends on. -/
def Top.ThrowsAway (top : Top) (brMask : UInt16) : Prop :=
  top.isFlushing = true ∧ top.getFlushInfo.type ≠ .flush ∧
    (top.getFlushInfo.type = .misprediction → brMask.toUInt64 &&& top.getFlushInfo.mispredMask ≠ 0)

/-- A flush that ends a round without a taint. -/
def Top.IllegalInstruction (top : Top) : Prop :=
  top.isFlushing = true ∧ top.getFlushInfo.type = .exception ∧
    (top.getFlushInfo.cause = FlushCause.ILLEGAL_INSTRUCTION ∨
      top.getFlushInfo.cause = FlushCause.FETCH_ACCESS)

def Top.brMaskOf (top : Top) (slot : Slot) : UInt16 := ((RobState.readFrom top.rob).entry slot.1 slot.2).brMask

def Top.ReadyAtHead (top : Top) (slot : Slot) : Prop := (RobState.readFrom top.rob).ReadyAtHead slot

instance {top : Top} {brMask : UInt16} : Decidable (top.ThrowsAway brMask) :=
  inferInstanceAs (Decidable (_ ∧ _))

instance {top : Top} {slot : Slot} : Decidable (top.ReadyAtHead slot) :=
  inferInstanceAs (Decidable (RobState.ReadyAtHead _ slot))

/-- The instruction that the search names for a tainted byte. -/
def Top.blames (top before : Top) (taintInfo : TaintInfo) : RobEntry :=
  (RobState.readFrom top.rob).getTaintingInstruction before.rob.getRobBusyMask top.rob.getRobBusyMask
    taintInfo.addr

/-- The instruction in the slot waits through the cycles, and the last of them
throws it away. -/
structure ThrownAway (slot : Slot) (waiting : List Top) (last : Top) : Prop where
  spared : ∀ top ∈ waiting, ¬ top.ThrowsAway (top.brMaskOf slot)
  unready : ∀ top ∈ waiting ++ [last], ¬ top.ReadyAtHead slot
  last : last.ThrowsAway (last.brMaskOf slot)

structure FirstTaint (clean : List Top) (tainted : Top) (taintInfo : TaintInfo) : Prop where
  clean : ∀ top ∈ clean, top.taintedSink = none ∧ ¬ top.IllegalInstruction
  sink : tainted.taintedSink = some taintInfo

/-- The first tainted sink is that of `tainted`; the instruction that is blamed
is thrown away in the same cycle, or in a later one that is the last.  `before`
is what the core showed ahead of the cycles. -/
inductive ShowsLeak (before : Top) : List Top → Prop
  | atOnce (clean : List Top) (tainted : Top) (taintInfo : TaintInfo)
      (first : FirstTaint clean tainted taintInfo)
      (thrown : tainted.ThrowsAway (tainted.blames (clean.getLastD before) taintInfo).brMask) :
      ShowsLeak before (clean ++ [tainted])
  | later (clean : List Top) (tainted : Top) (taintInfo : TaintInfo) (waiting : List Top) (last : Top)
      (first : FirstTaint clean tainted taintInfo)
      (spared : ¬ tainted.ThrowsAway (tainted.blames (clean.getLastD before) taintInfo).brMask)
      (thrown : ThrownAway ((tainted.blames (clean.getLastD before) taintInfo).robIdx,
        (tainted.blames (clean.getLastD before) taintInfo).robBank) waiting last) :
      ShowsLeak before (clean ++ tainted :: (waiting ++ [last]))

/-- What `Simulator::step` and the check for a stuck core do to the counters. -/
def Counters.next (numRetired : UInt64) (sim : Counters) (top : Top) : Counters :=
  let (stuck, sim) := sim.step top
  if stuck then { sim with retired := numRetired + 1 } else sim

/-- The loop goes on. -/
def Counters.inBudget (numRetired : UInt64) (sim : Counters) : Bool :=
  decide (sim.retired < numRetired + 1) && decide (sim.ticks < sim.last_retired + MAX_INSTR_TICKS)

/-- None of the cycles begins behind the end of the loop. -/
def Counters.Lasts (numRetired : UInt64) : Counters → List Top → Prop
  | _, [] => True
  | sim, top :: later => sim.inBudget numRetired = true ∧ (sim.next numRetired top).Lasts numRetired later

def ThrownAwayIn (slot : Slot) (tops : List Top) : Prop :=
  ∃ waiting last, tops = waiting ++ [last] ∧ ThrownAway slot waiting last

/-! ## One cycle more -/

section Cons

variable {before top : Top} {later : List Top} {slot : Slot} {taintInfo : TaintInfo}

theorem ThrownAwayIn.nonempty : ¬ ThrownAwayIn slot [] := by
  intro thrown
  obtain ⟨waiting, last, ends, -⟩ := thrown
  simp at ends

theorem thrownAwayIn_cons : ThrownAwayIn slot (top :: later) ↔ ¬ top.ReadyAtHead slot ∧
    (later = [] ∧ top.ThrowsAway (top.brMaskOf slot) ∨
      ¬ top.ThrowsAway (top.brMaskOf slot) ∧ ThrownAwayIn slot later) := by
  constructor
  · intro ⟨waiting, last, ends, thrown⟩
    rcases waiting with - | ⟨first, waiting⟩
    · obtain ⟨rfl, rfl⟩ := List.cons.inj ends
      exact ⟨thrown.unready _ (by simp), .inl ⟨rfl, thrown.last⟩⟩
    · obtain ⟨rfl, rfl⟩ := List.cons.inj ends
      obtain ⟨now, spared⟩ := List.forall_mem_cons.mp thrown.spared
      obtain ⟨unready, others⟩ := List.forall_mem_cons.mp thrown.unready
      exact ⟨unready, .inr ⟨now, waiting, last, rfl, spared, others, thrown.last⟩⟩
  · intro ⟨unready, ends⟩
    rcases ends with ⟨rfl, throws⟩ | ⟨spared, waiting, last, rfl, thrown⟩
    · exact ⟨[], top, rfl, by simp, by simpa using unready, throws⟩
    · exact ⟨top :: waiting, last, rfl, List.forall_mem_cons.mpr ⟨spared, thrown.spared⟩,
        List.forall_mem_cons.mpr ⟨unready, thrown.unready⟩, thrown.last⟩

theorem ShowsLeak.nonempty : ¬ ShowsLeak before [] := by
  generalize none : ([] : List Top) = tops
  intro shows
  cases shows <;> simp at none

theorem firstTaint_cons {clean : List Top} {tainted : Top} :
    FirstTaint (top :: clean) tainted taintInfo ↔
      (top.taintedSink = none ∧ ¬ top.IllegalInstruction) ∧ FirstTaint clean tainted taintInfo := by
  constructor
  · intro first
    obtain ⟨now, clean⟩ := List.forall_mem_cons.mp first.clean
    exact ⟨now, clean, first.sink⟩
  · intro ⟨now, first⟩
    exact ⟨List.forall_mem_cons.mpr ⟨now, first.clean⟩, first.sink⟩

theorem showsLeak_cons_clean (clean : top.taintedSink = none) :
    ShowsLeak before (top :: later) ↔ ¬ top.IllegalInstruction ∧ ShowsLeak top later := by
  constructor
  · generalize shown : top :: later = tops
    intro shows
    cases shows with
    | atOnce others tainted taintInfo first thrown =>
        rcases others with - | ⟨_, others⟩
        · obtain ⟨rfl, -⟩ := List.cons.inj shown
          rw [first.sink] at clean
          cases clean
        · obtain ⟨rfl, rfl⟩ := List.cons.inj shown
          obtain ⟨⟨-, legal⟩, first⟩ := firstTaint_cons.mp first
          rw [List.getLastD_cons] at thrown
          exact ⟨legal, .atOnce others tainted taintInfo first thrown⟩
    | later others tainted taintInfo waiting last first spared thrown =>
        rcases others with - | ⟨_, others⟩
        · obtain ⟨rfl, -⟩ := List.cons.inj shown
          rw [first.sink] at clean
          cases clean
        · obtain ⟨rfl, rfl⟩ := List.cons.inj shown
          obtain ⟨⟨-, legal⟩, first⟩ := firstTaint_cons.mp first
          rw [List.getLastD_cons] at spared thrown
          exact ⟨legal, .later others tainted taintInfo waiting last first spared thrown⟩
  · intro ⟨legal, shows⟩
    cases shows with
    | atOnce others tainted taintInfo first thrown =>
        have first := firstTaint_cons.mpr ⟨⟨clean, legal⟩, first⟩
        rw [← @List.getLastD_cons _ before top] at thrown
        exact .atOnce (top :: others) tainted taintInfo first thrown
    | later others tainted taintInfo waiting last first spared thrown =>
        have first := firstTaint_cons.mpr ⟨⟨clean, legal⟩, first⟩
        rw [← @List.getLastD_cons _ before top] at spared thrown
        exact .later (top :: others) tainted taintInfo waiting last first spared thrown

theorem showsLeak_cons_tainted (sink : top.taintedSink = some taintInfo) :
    ShowsLeak before (top :: later) ↔
      later = [] ∧ top.ThrowsAway (top.blames before taintInfo).brMask ∨
        ¬ top.ThrowsAway (top.blames before taintInfo).brMask ∧
          ThrownAwayIn ((top.blames before taintInfo).robIdx, (top.blames before taintInfo).robBank) later := by
  constructor
  · generalize shown : top :: later = tops
    intro shows
    cases shows with
    | atOnce others tainted found first thrown =>
        rcases others with - | ⟨_, others⟩
        · obtain ⟨rfl, rfl⟩ := List.cons.inj shown
          obtain rfl := Option.some.inj (sink.symm.trans first.sink)
          exact .inl ⟨rfl, thrown⟩
        · obtain ⟨rfl, rfl⟩ := List.cons.inj shown
          obtain ⟨⟨clean, -⟩, -⟩ := firstTaint_cons.mp first
          rw [sink] at clean
          cases clean
    | later others tainted found waiting last first spared thrown =>
        rcases others with - | ⟨_, others⟩
        · obtain ⟨rfl, rfl⟩ := List.cons.inj shown
          obtain rfl := Option.some.inj (sink.symm.trans first.sink)
          exact .inr ⟨spared, waiting, last, rfl, thrown⟩
        · obtain ⟨rfl, rfl⟩ := List.cons.inj shown
          obtain ⟨⟨clean, -⟩, -⟩ := firstTaint_cons.mp first
          rw [sink] at clean
          cases clean
  · have first : FirstTaint [] top taintInfo := ⟨by simp, sink⟩
    intro ends
    rcases ends with ⟨rfl, thrown⟩ | ⟨spared, waiting, last, rfl, thrown⟩
    · exact .atOnce [] top taintInfo first thrown
    · exact .later [] top taintInfo waiting last first spared thrown

end Cons

/-! ## One turn of the loop -/

/-- A taint was found, and its instruction is looked for in the slot. -/
structure LoopState.Watches (state : LoopState) (slot : Slot) : Prop where
  taintFound : state.crash.taintFound = true
  undecided : state.crash.Undecided
  slot : (state.crash.taintInstr.robIdx, state.crash.taintInstr.robBank) = slot

variable {numRetired : UInt64} {state : LoopState} {top : Top} {slot : Slot} {taintInfo : TaintInfo}

theorem LoopState.step_sim : (state.step numRetired top).sim = state.sim.next numRetired top := rfl

theorem LoopState.isRunning_eq : state.isRunning numRetired = state.sim.inBudget numRetired := rfl

theorem Cycle.relevantFlush_iff_throwsAway {cycle : Cycle} : cycle.relevantFlush = true ↔
    cycle.crash.taintFound = true ∧ cycle.top.ThrowsAway cycle.crash.taintBrMask := by
  simp only [relevantFlush_iff, Top.ThrowsAway, CrashInfo.isKilledByBranch, bne_iff_ne, ne_eq]
  tauto

/-- Only a round without a taint ends with an illegal instruction. -/
theorem detectFlush_illegal {final : LoopState} (left : state.detectFlush = .error (.illegalInstruction, final)) :
    final = state ∧ state.crash.taintFound = false := by
  rw [LoopState.detectFlush] at left
  split at left
  · cases found : state.crash.taintFound with
    | true =>
        simp only [found, if_true] at left
        split at left <;> cases left
    | false =>
        simp only [found, Bool.false_eq_true, if_false] at left
        split at left
        · cases left
          exact ⟨rfl, rfl⟩
        · cases left
  · cases left

theorem detectionCycle_illegal {final : LoopState}
    (left : detectionCycle numRetired state top = .error (.illegalInstruction, final)) :
    final.crash.taintFound = false := by
  rw [detectionCycle] at left
  split at left
  · rcases bind_error_iff.mp left with taint | ⟨next, -, flush⟩
    · rw [LoopState.detectTaint] at taint
      split at taint
      · split at taint <;> cases taint
      · dsimp only at taint
        split at taint <;> cases taint
    · obtain ⟨rfl, notFound⟩ := detectFlush_illegal flush
      exact notFound
  · cases left

/-- Without a taint so far, and none in the cycle, only an illegal instruction
ends the loop. -/
theorem detectionCycle_clean (running : state.isRunning numRetired = true)
    (notFound : state.crash.taintFound = false) (clean : top.taintedSink = none) :
    top.IllegalInstruction ∧ detectionCycle numRetired state top =
        .error (.illegalInstruction, state.step numRetired top) ∨
      ¬ top.IllegalInstruction ∧ detectionCycle numRetired state top = .ok (state.step numRetired top) := by
  have untainted : (state.step numRetired top).crash.taintFound = false := notFound
  have sink : (state.step numRetired top).top.taintedSink = none := clean
  have looped : detectionCycle numRetired state top = (state.step numRetired top).detectFlush := by
    simp [detectionCycle, running, LoopState.detectTaint, untainted, sink, bind, Except.bind]
  rw [looped, LoopState.detectFlush]
  simp only [untainted, Bool.false_eq_true, if_false]
  by_cases illegal : top.IllegalInstruction
  · exact .inl ⟨illegal, (if_pos illegal.1).trans (if_pos illegal.2)⟩
  · refine .inr ⟨illegal, ?_⟩
    split
    · rename_i flushing
      exact if_neg fun raised => illegal ⟨flushing, raised⟩
    · rfl

/-- The cycle of the first tainted sink flushes the instruction at once, or its
slot is watched from then on. -/
theorem detectionCycle_tainted (running : state.isRunning numRetired = true) (start : state.crash.Undecided)
    (notFound : state.crash.taintFound = false) (sink : top.taintedSink = some taintInfo) :
    (top.ThrowsAway (top.blames state.top taintInfo).brMask ∧
        ∃ final, detectionCycle numRetired state top = .error (.flushRecorded, final)) ∨
      ¬ top.ThrowsAway (top.blames state.top taintInfo).brMask ∧
        ∃ next, detectionCycle numRetired state top = .ok next ∧
          next.Watches ((top.blames state.top taintInfo).robIdx, (top.blames state.top taintInfo).robBank) ∧
          next.sim = state.sim.next numRetired top := by
  obtain ⟨records, mask⟩ := observe_records numRetired notFound sink
  have instr : (state.observe numRetired top).crash.taintInstr = top.blames state.top taintInfo :=
    records.taintInstr
  have throws : (state.observe numRetired top).relevantFlush = true ↔
      top.ThrowsAway (top.blames state.top taintInfo).brMask := by
    rw [Cycle.relevantFlush_iff_throwsAway, mask, instr]
    exact and_iff_right records.taintFound
  rcases detectionCycle_cases running start top with
    ⟨declared, -, -⟩ | ⟨undecided, ⟨relevant, left⟩ | ⟨irrelevant, taken⟩⟩
  · rw [observe_crash_of_sink notFound sink] at declared
    exact absurd (start.isTaintArchitectural.symm.trans declared) Bool.false_ne_true
  · exact .inl ⟨throws.mp relevant, _, left⟩
  · have spared : ¬ top.ThrowsAway (top.blames state.top taintInfo).brMask := by
      rw [← throws, irrelevant]
      exact Bool.false_ne_true
    rcases taken with illegal | continues
    · have none : (state.advance numRetired top).crash.taintFound = false := detectionCycle_illegal illegal
      have found : (state.advance numRetired top).crash.taintFound = true := records.taintFound
      rw [found] at none
      cases none
    · refine .inr ⟨spared, _, continues, ⟨records.taintFound, undecided, ?_⟩, LoopState.step_sim⟩
      rw [← instr]
      rfl

/-- While a slot is watched, what the cycle shows of it decides. -/
theorem detectionCycle_watching (running : state.isRunning numRetired = true) (watches : state.Watches slot)
    (top : Top) :
    (top.ReadyAtHead slot ∧
        ∃ final, detectionCycle numRetired state top = .error (.taintArchitectural, final)) ∨
      ¬ top.ReadyAtHead slot ∧
        (top.ThrowsAway (top.brMaskOf slot) ∧
            (∃ final, detectionCycle numRetired state top = .error (.flushRecorded, final)) ∨
          ¬ top.ThrowsAway (top.brMaskOf slot) ∧
            ∃ next, detectionCycle numRetired state top = .ok next ∧ next.Watches slot ∧
              next.sim = state.sim.next numRetired top) := by
  have found := watches.taintFound
  obtain ⟨same, mask⟩ := observe_tracks numRetired top found
  have flag : (state.observe numRetired top).crash.isTaintArchitectural = true ↔ top.ReadyAtHead slot := by
    rw [observe_crash_of_found found, CrashInfo.updateTaintInstr_flag found,
      watches.undecided.isTaintArchitectural, Bool.false_or, CrashInfo.declares_iff found, watches.slot]
    rfl
  have throws : (state.observe numRetired top).relevantFlush = true ↔ top.ThrowsAway (top.brMaskOf slot) := by
    rw [Cycle.relevantFlush_iff_throwsAway, mask, same.taintFound, ← watches.slot]
    exact and_iff_right found
  have unready : (state.observe numRetired top).crash.isTaintArchitectural = false → ¬ top.ReadyAtHead slot := by
    intro undecided
    rw [← flag, undecided]
    exact Bool.false_ne_true
  rcases detectionCycle_cases running watches.undecided top with
    ⟨declared, -, left⟩ | ⟨undecided, ⟨relevant, left⟩ | ⟨irrelevant, taken⟩⟩
  · exact .inl ⟨flag.mp declared, _, left⟩
  · exact .inr ⟨unready undecided.isTaintArchitectural, .inl ⟨throws.mp relevant, _, left⟩⟩
  · have spared : ¬ top.ThrowsAway (top.brMaskOf slot) := by
      rw [← throws, irrelevant]
      exact Bool.false_ne_true
    refine .inr ⟨unready undecided.isTaintArchitectural, .inr ⟨spared, ?_⟩⟩
    have kept : (state.advance numRetired top).Watches slot :=
      ⟨same.taintFound.trans found, undecided, by rw [← watches.slot, LoopState.advance, same.taintInstr]⟩
    rcases taken with illegal | continues
    · have none := detectionCycle_illegal illegal
      rw [kept.taintFound] at none
      cases none
    · exact ⟨_, continues, kept, LoopState.step_sim⟩

end PhantomTrails
