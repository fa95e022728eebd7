import PhantomTrails.Detection.Loop

namespace PhantomTrails

open Foundation Foundation.Machine

/-! # The cycles the loop looks at

Everything the crash record depends on is in the list of executed cycles.
`Execution` is the loop as a relation between that list and the record it
ends with; the facts about runs are inductions over it.
-/

/-- A turn of the loop, as the flush detection sees it: `crash` is the record
after the taint detection of the same cycle. -/
structure Cycle where
  ticks : UInt64
  busyInstructions : BusyMask
  top : Top
  crash : CrashInfo

def Cycle.relevantFlush (cycle : Cycle) : Bool :=
  cycle.top.isFlushing && cycle.crash.taintFound &&
    (cycle.crash.recordFlush cycle.ticks cycle.top.getFlushInfo).1

def Cycle.recorded (cycle : Cycle) : CrashInfo :=
  (cycle.crash.recordFlush cycle.ticks cycle.top.getFlushInfo).2

def LoopState.observe (numRetired : UInt64) (state : LoopState) (top : Top) : Cycle :=
  let busyInstructions := state.top.rob.getRobBusyMask
  let after := finalState ((state.step numRetired top).detectTaint busyInstructions)
  { ticks := after.sim.ticks, busyInstructions, top, crash := after.crash }

/-- The cycles of a run, the one that leaves the loop included. -/
def executed (numRetired : UInt64) : LoopState → List Top → List Cycle
  | _, [] => []
  | state, top :: rest =>
      if state.isRunning numRetired then
        state.observe numRetired top ::
          match detectionCycle numRetired state top with
          | .ok next => executed numRetired next rest
          | .error _ => []
      else []

structure CrashInfo.Undecided (crash : CrashInfo) : Prop where
  flushFound : crash.flushFound = false
  isTaintArchitectural : crash.isTaintArchitectural = false

def LoopState.advance (numRetired : UInt64) (state : LoopState) (top : Top) : LoopState :=
  { state.step numRetired top with crash := (state.observe numRetired top).crash }

/-- The executed cycles and the final record of a loop started in a state. -/
inductive Execution (numRetired : UInt64) : LoopState → List Cycle → CrashInfo → Prop
  | ended (state : LoopState) : Execution numRetired state [] state.crash
  | architectural (state : LoopState) (top : Top) (running : state.isRunning numRetired = true)
      (found : (state.observe numRetired top).crash.isTaintArchitectural = true)
      (noFlush : (state.observe numRetired top).crash.flushFound = false) :
      Execution numRetired state [state.observe numRetired top] (state.observe numRetired top).crash
  | recorded (state : LoopState) (top : Top) (running : state.isRunning numRetired = true)
      (undecided : (state.observe numRetired top).crash.Undecided)
      (relevant : (state.observe numRetired top).relevantFlush = true) :
      Execution numRetired state [state.observe numRetired top] (state.observe numRetired top).recorded
  | next {state : LoopState} {top : Top} {cycles : List Cycle} {final : CrashInfo}
      (running : state.isRunning numRetired = true)
      (undecided : (state.observe numRetired top).crash.Undecided)
      (irrelevant : (state.observe numRetired top).relevantFlush = false)
      (rest : Execution numRetired (state.advance numRetired top) cycles final) :
      Execution numRetired state (state.observe numRetired top :: cycles) final

variable {numRetired : UInt64} {state : LoopState} {top : Top} {crash : CrashInfo}

theorem CrashInfo.recordFlush_irrelevant {ticks : UInt64} {flushInfo : FlushInfo}
    (irrelevant : (crash.recordFlush ticks flushInfo).1 = false) :
    (crash.recordFlush ticks flushInfo).2 = crash := by
  rw [recordFlush] at irrelevant ⊢
  split at irrelevant
  · rw [if_pos ‹_›]
  · split at irrelevant
    · rw [if_neg ‹_›, if_pos ‹_›]
    · contradiction

/-- The taint detection of a cycle changes the record only, and breaks exactly
if it finds the taint architectural. -/
theorem detectTaint_cases (undecided : state.crash.Undecided) (busyInstructions : BusyMask) :
    ∃ crash, crash.flushFound = false ∧
      (crash.isTaintArchitectural = true ∧ state.detectTaint busyInstructions =
          .error (.taintArchitectural, { state with crash }) ∨
        crash.isTaintArchitectural = false ∧
          state.detectTaint busyInstructions = .ok { state with crash }) := by
  rw [LoopState.detectTaint]
  split
  · split
    · rename_i taintInfo _
      refine ⟨state.crash.recordTaint state.sim.ticks state.top.rob taintInfo busyInstructions, ?_⟩
      exact ⟨undecided.flushFound, .inr ⟨undecided.isTaintArchitectural, rfl⟩⟩
    · exact ⟨state.crash, undecided.flushFound, .inr ⟨undecided.isTaintArchitectural, rfl⟩⟩
  · refine ⟨state.crash.updateTaintInstr state.top.rob, ?_, ?_⟩
    · rw [CrashInfo.updateTaintInstr]
      split <;> exact undecided.flushFound
    · dsimp only
      split
      · exact .inl ⟨‹_›, rfl⟩
      · exact .inr ⟨eq_false_of_ne_true ‹_›, rfl⟩

/-- The flush detection breaks exactly at a flush the record takes; an illegal
instruction before any taint ends the run with the record unchanged. -/
theorem detectFlush_cases (state : LoopState) (busyInstructions : BusyMask) :
    let cycle : Cycle := ⟨state.sim.ticks, busyInstructions, state.top, state.crash⟩
    (cycle.relevantFlush = true ∧
        state.detectFlush = .error (.flushRecorded, { state with crash := cycle.recorded })) ∨
      (cycle.relevantFlush = false ∧
        (state.detectFlush = .error (.illegalInstruction, state) ∨ state.detectFlush = .ok state)) := by
  simp only [LoopState.detectFlush, Cycle.relevantFlush, Cycle.recorded]
  cases flushing : state.top.isFlushing with
  | false => exact .inr ⟨rfl, .inr rfl⟩
  | true =>
      cases found : state.crash.taintFound with
      | false =>
          refine .inr ⟨rfl, ?_⟩
          simp only [if_true, Bool.false_eq_true, if_false]
          split
          · exact .inl rfl
          · exact .inr rfl
      | true =>
          cases relevant : (state.crash.recordFlush state.sim.ticks state.top.getFlushInfo).1 with
          | true => exact .inl ⟨rfl, by simp⟩
          | false =>
              have same := CrashInfo.recordFlush_irrelevant relevant
              exact .inr ⟨rfl, .inr (by simp [same])⟩

/-- What one turn of a running loop can do. -/
theorem detectionCycle_cases (running : state.isRunning numRetired = true)
    (start : state.crash.Undecided) (top : Top) :
    ((state.observe numRetired top).crash.isTaintArchitectural = true ∧
        (state.observe numRetired top).crash.flushFound = false ∧
        detectionCycle numRetired state top =
          .error (.taintArchitectural, state.advance numRetired top)) ∨
      (state.observe numRetired top).crash.Undecided ∧
        ((state.observe numRetired top).relevantFlush = true ∧
            detectionCycle numRetired state top = .error (.flushRecorded,
              { state.advance numRetired top with crash := (state.observe numRetired top).recorded }) ∨
          (state.observe numRetired top).relevantFlush = false ∧
            (detectionCycle numRetired state top =
                .error (.illegalInstruction, state.advance numRetired top) ∨
              detectionCycle numRetired state top = .ok (state.advance numRetired top))) := by
  have stepped : (state.step numRetired top).crash.Undecided := start
  rcases detectTaint_cases stepped state.top.rob.getRobBusyMask with
    ⟨crash, noFlush, ⟨found, taint⟩ | ⟨notFound, taint⟩⟩
  · have seen : (state.observe numRetired top).crash = crash := by
      simp only [LoopState.observe, taint, finalState]
    have left : detectionCycle numRetired state top =
        .error (.taintArchitectural, { state.step numRetired top with crash }) := by
      simp [detectionCycle, running, taint, bind, Except.bind]
    refine .inl ⟨seen ▸ found, seen ▸ noFlush, ?_⟩
    rw [left, LoopState.advance, seen]
  · have seen : state.observe numRetired top =
        ⟨(state.step numRetired top).sim.ticks, state.top.rob.getRobBusyMask,
          (state.step numRetired top).top, crash⟩ := by
      simp only [LoopState.observe, taint, finalState]
      rfl
    have looped : detectionCycle numRetired state top =
        LoopState.detectFlush { state.step numRetired top with crash } := by
      simp [detectionCycle, running, taint, bind, Except.bind]
    have flush := detectFlush_cases { state.step numRetired top with crash }
      state.top.rob.getRobBusyMask
    refine .inr ⟨seen ▸ ⟨noFlush, notFound⟩, ?_⟩
    rw [looped, LoopState.advance, seen]
    exact flush

/-- Every run of the loop is an execution. -/
theorem execution_run (start : state.crash.Undecided) (tops : List Top) :
    Execution numRetired state (executed numRetired state tops)
      (finalState (run (detectionCycle numRetired) state tops)).crash := by
  induction tops generalizing state with
  | nil => exact .ended state
  | cons top rest ih =>
      cases running : state.isRunning numRetired with
      | false =>
          have left : detectionCycle numRetired state top = .error (.condition, state) := by
            simp [detectionCycle, running]
          simp only [executed, running, run, left]
          exact .ended state
      | true =>
          simp only [executed, running, run, if_true]
          rcases detectionCycle_cases running start top with
            ⟨found, noFlush, left⟩ | ⟨undecided, ⟨relevant, left⟩ | ⟨irrelevant, left | continues⟩⟩
          · simp only [left]
            exact .architectural state top running found noFlush
          · simp only [left]
            exact .recorded state top running undecided relevant
          · simp only [left]
            exact .next running undecided irrelevant (.ended (state.advance numRetired top))
          · simp only [continues]
            exact .next running undecided irrelevant (ih undecided)

/-! ## Cycle numbers -/

theorem finalState_detectTaint_sim (state : LoopState) (busyInstructions : BusyMask) :
    (finalState (state.detectTaint busyInstructions)).sim = state.sim := by
  rw [LoopState.detectTaint]
  split
  · split <;> rfl
  · dsimp only
    split <;> rfl

theorem Counters.countSame_ticks (sim : Counters) (pc : UInt64) : (sim.countSame pc).ticks = sim.ticks := by
  rw [countSame]
  split <;> rfl

theorem Counters.step_ticks (sim : Counters) (top : Top) :
    (sim.step top).2.ticks = sim.ticks ∨ (sim.step top).2.ticks = sim.ticks + 1 := by
  rw [step]
  have first : (if top.committing0 then
      (sim.retire top.committingPc).countSame top.committingPc else sim).ticks = sim.ticks := by
    split
    · exact countSame_ticks ..
    · rfl
  generalize (if top.committing0 then
      (sim.retire top.committingPc).countSame top.committingPc else sim) = middle at first ⊢
  dsimp only
  split
  · exact .inl first
  · refine .inr ?_
    rw [← first]
    split <;> rfl

theorem LoopState.step_ticks (numRetired : UInt64) (state : LoopState) (top : Top) :
    (state.step numRetired top).sim.ticks = (state.sim.step top).2.ticks := by
  simp only [step]
  split <;> rfl

/-- A running loop is not at the last cycle number, so counting cannot wrap. -/
theorem LoopState.ticks_le_step (running : state.isRunning numRetired = true) (top : Top) :
    state.sim.ticks ≤ (state.step numRetired top).sim.ticks := by
  have room : state.sim.ticks < state.sim.last_retired + MAX_INSTR_TICKS := by
    simp only [isRunning, Bool.and_eq_true, decide_eq_true_eq] at running
    exact running.2
  have counted : state.sim.ticks ≤ state.sim.ticks + 1 := by grind
  rw [step_ticks]
  rcases state.sim.step_ticks top with same | next
  · rw [same]
    exact UInt64.le_refl _
  · rw [next]
    exact counted

theorem LoopState.observe_ticks (numRetired : UInt64) (state : LoopState) (top : Top) :
    (state.observe numRetired top).ticks = (state.step numRetired top).sim.ticks := by
  rw [observe, finalState_detectTaint_sim]

variable {cycles : List Cycle} {final : CrashInfo}

theorem Execution.ticks_le (execution : Execution numRetired state cycles final) :
    ∀ cycle ∈ cycles, state.sim.ticks ≤ cycle.ticks := by
  induction execution with
  | ended state => simp
  | architectural state top running found noFlush | recorded state top running undecided relevant =>
      intro cycle member
      rw [List.mem_singleton.mp member, LoopState.observe_ticks]
      exact LoopState.ticks_le_step running top
  | @next state top cycles final running undecided irrelevant rest ih =>
      have now := LoopState.ticks_le_step running top
      intro cycle member
      rcases List.mem_cons.mp member with rfl | later
      · rw [LoopState.observe_ticks]
        exact now
      · exact UInt64.le_trans now (ih cycle later)

theorem Execution.ticks_sorted (execution : Execution numRetired state cycles final) :
    cycles.Pairwise fun earlier later => earlier.ticks ≤ later.ticks := by
  induction execution with
  | ended state => exact .nil
  | architectural state top running found noFlush | recorded state top running undecided relevant =>
      exact List.pairwise_singleton _ _
  | @next state top cycles final running undecided irrelevant rest ih =>
      apply List.pairwise_cons.mpr ⟨fun cycle later => ?_, ih⟩
      rw [LoopState.observe_ticks]
      exact rest.ticks_le cycle later

end PhantomTrails
