import PhantomTrails.Detection.Execution

namespace PhantomTrails

open Foundation Foundation.Machine

/-! # The detection loop ends

A turn of the loop advances the cycle number or, on a stuck core, uses up the
instructions that are left.  The timeout follows the last commit, and every
commit moves it by less than `MAX_INSTR_TICKS`.
-/

variable {numRetired : UInt64} {state next : LoopState} {top : Top}

theorem LoopState.isRunning_iff :
    state.isRunning numRetired = true ↔ state.sim.retired < numRetired + 1 ∧
      state.sim.ticks < state.sim.last_retired + MAX_INSTR_TICKS := by
  simp [isRunning]

/-! ## One turn -/

@[simp] theorem Counters.retire_ticks (sim : Counters) (pc : UInt64) :
    (sim.retire pc).ticks = sim.ticks := rfl

@[simp] theorem Counters.retire_retired (sim : Counters) (pc : UInt64) :
    (sim.retire pc).retired = sim.retired + 1 := rfl

@[simp] theorem Counters.retire_last_retired (sim : Counters) (pc : UInt64) :
    (sim.retire pc).last_retired = sim.ticks := rfl

@[simp] theorem Counters.countSame_retired (sim : Counters) (pc : UInt64) :
    (sim.countSame pc).retired = sim.retired := by
  rw [countSame]
  split <;> rfl

@[simp] theorem Counters.countSame_last_retired (sim : Counters) (pc : UInt64) :
    (sim.countSame pc).last_retired = sim.last_retired := by
  rw [countSame]
  split <;> rfl

/-- What a turn does to the counters of the loop condition: a stuck core stops
the clock, every other one advances it, with or without commits. -/
theorem LoopState.step_counters (numRetired : UInt64) (state : LoopState) (top : Top) :
    ((state.step numRetired top).sim.ticks = state.sim.ticks ∧
        (state.step numRetired top).sim.retired = numRetired + 1 ∧
        (state.step numRetired top).sim.last_retired = state.sim.ticks) ∨
      (state.step numRetired top).sim.ticks = state.sim.ticks + 1 ∧
        ((state.step numRetired top).sim.retired = state.sim.retired ∧
            (state.step numRetired top).sim.last_retired = state.sim.last_retired ∨
          ((state.step numRetired top).sim.retired = state.sim.retired + 1 ∨
            (state.step numRetired top).sim.retired = state.sim.retired + 1 + 1) ∧
            (state.step numRetired top).sim.last_retired = state.sim.ticks) := by
  cases first : top.committing0 with
  | false =>
      refine .inr ⟨?_, ?_⟩
      · cases second : top.committing1 <;> simp [step, Counters.step, first, second]
      · cases second : top.committing1 with
        | false => exact .inl (by simp [step, Counters.step, first, second])
        | true => exact .inr (by simp [step, Counters.step, first, second])
  | true =>
      have ticks := (state.sim.retire top.committingPc).countSame_ticks top.committingPc
      by_cases stuck : 10 ≤ ((state.sim.retire top.committingPc).countSame
          top.committingPc).n_same_inst
      · exact .inl (by simp [step, Counters.step, first, stuck, ticks])
      · refine .inr ⟨?_, .inr ?_⟩
        · cases second : top.committing1 <;>
            simp [step, Counters.step, first, second, stuck, ticks]
        · cases second : top.committing1 with
          | false => simp [step, Counters.step, first, second, stuck]
          | true => simp [step, Counters.step, first, second, stuck, ticks]

theorem LoopState.detectFlush_sim (looped : state.detectFlush = .ok next) : next.sim = state.sim := by
  simp only [detectFlush] at looped
  split at looped
  · split at looped
    · split at looped <;> cases looped
      rfl
    · split at looped <;> cases looped
      rfl
  · cases looped
    rfl

theorem detectionCycle_sim (looped : detectionCycle numRetired state top = .ok next) :
    next.sim = (state.step numRetired top).sim := by
  simp only [detectionCycle] at looped
  split at looped
  · obtain ⟨middle, taint, flush⟩ := bind_ok_iff.mp looped
    have kept := finalState_detectTaint_sim (state.step numRetired top)
      state.top.rob.getRobBusyMask
    rw [taint] at kept
    exact (LoopState.detectFlush_sim flush).trans kept
  · contradiction

/-! ## Counting turns -/

theorem executed_of_not_running (stopped : state.isRunning numRetired = false) (tops : List Top) :
    executed numRetired state tops = [] := by
  cases tops with
  | nil => rfl
  | cons top rest => simp [executed, stopped]

/-- A bound on the cycle number of every running state is a bound on the turns
that are left. -/
theorem executed_length_le (invariant : LoopState → Prop) {bound : Nat} (small : bound < 2 ^ 64)
    (keeps : Keeps (detectionCycle numRetired) (fun _ _ => True) invariant)
    (room : ∀ state, invariant state → state.isRunning numRetired = true →
      state.sim.ticks.toNat < bound)
    (start : invariant state) (tops : List Top) :
    (executed numRetired state tops).length ≤ bound - state.sim.ticks.toNat := by
  induction tops generalizing state with
  | nil => exact Nat.zero_le _
  | cons top rest ih =>
      cases running : state.isRunning numRetired with
      | false => simp [executed, running]
      | true =>
          have now := room state start running
          cases looped : detectionCycle numRetired state top with
          | error exit =>
              simp only [executed, running, looped, if_true, List.length_cons, List.length_nil]
              omega
          | ok next =>
              have later := ih (keeps state top next trivial start looped)
              have counted := detectionCycle_sim looped
              simp only [executed, running, looped, if_true, List.length_cons]
              rcases state.step_counters numRetired top with ⟨-, retired, -⟩ | ⟨ticks, -⟩
              · have stopped : next.isRunning numRetired = false := by
                  simp [LoopState.isRunning, counted, retired]
                rw [executed_of_not_running stopped rest]
                simp only [List.length_nil]
                omega
              · have advanced : next.sim.ticks.toNat = state.sim.ticks.toNat + 1 := by
                  rw [counted, ticks, UInt64.toNat_add, UInt64.toNat_one]
                  exact Nat.mod_eq_of_lt (by omega)
                omega

/-- A loop that is still running has executed a turn for every observation. -/
theorem executed_length_of_ok {final : LoopState} {tops : List Top}
    (reached : run (detectionCycle numRetired) state tops = .ok final) :
    (executed numRetired state tops).length = tops.length := by
  induction tops generalizing state with
  | nil => rfl
  | cons top rest ih =>
      obtain ⟨next, looped, reached⟩ := run_cons_ok_iff.mp reached
      have running : state.isRunning numRetired = true := by
        simp only [detectionCycle] at looped
        split at looped
        · assumption
        · contradiction
      simp only [executed, running, looped, if_true, List.length_cons, ih reached]

theorem loop_left_of_executed {bound : Nat} {tops : List Top}
    (counted : (executed numRetired state tops).length ≤ bound) (longer : bound < tops.length) :
    ∃ exit final, run (detectionCycle numRetired) state tops = .error (exit, final) := by
  cases reached : run (detectionCycle numRetired) state tops with
  | error left => exact ⟨left.1, left.2, rfl⟩
  | ok final =>
      have all := executed_length_of_ok reached
      omega

/-- A running loop is not at the last cycle number, so no behaviour of the
core keeps it running for ever. -/
theorem detection_loop_left (state : LoopState) {tops : List Top} (long : 2 ^ 64 ≤ tops.length) :
    ∃ exit final, run (detectionCycle numRetired) state tops = .error (exit, final) := by
  have room : ∀ state : LoopState, True → state.isRunning numRetired = true →
      state.sim.ticks.toNat < 2 ^ 64 - 1 := by
    intro state _ running
    have early := UInt64.lt_iff_toNat_lt.mp (LoopState.isRunning_iff.mp running).2
    have last := (state.sim.last_retired + MAX_INSTR_TICKS).toNat_lt
    omega
  have counted : (executed numRetired state tops).length ≤ 2 ^ 64 - 1 - state.sim.ticks.toNat :=
    executed_length_le (fun _ => True) (by decide) (fun _ _ _ _ _ _ => trivial) room trivial tops
  exact loop_left_of_executed counted (by omega)

/-! ## The timeout -/

/-- Every commit has moved the timeout by at most 1299 cycles. -/
def Timely (state : LoopState) : Prop :=
  state.sim.last_retired.toNat ≤ 1299 * state.sim.retired.toNat

theorem Timely.running (timely : Timely state) (budget : 1300 * (numRetired.toNat + 1) < 2 ^ 64)
    (running : state.isRunning numRetired = true) :
    state.sim.retired.toNat ≤ numRetired.toNat ∧
      state.sim.ticks.toNat ≤ 1299 * state.sim.retired.toNat + 1299 := by
  obtain ⟨left, early⟩ := LoopState.isRunning_iff.mp running
  have left := UInt64.lt_iff_toNat_lt.mp left
  have early := UInt64.lt_iff_toNat_lt.mp early
  rw [UInt64.toNat_add, UInt64.toNat_one, Nat.mod_eq_of_lt (by omega)] at left
  have limit : (state.sim.last_retired + MAX_INSTR_TICKS).toNat ≤
      state.sim.last_retired.toNat + 1300 := by
    rw [UInt64.toNat_add]
    exact Nat.mod_le _ _
  simp only [Timely] at timely
  omega

theorem timely_keeps (budget : 1300 * (numRetired.toNat + 1) < 2 ^ 64) :
    Keeps (detectionCycle numRetired) (fun _ _ => True) Timely := by
  intro state top next _ timely looped
  have running : state.isRunning numRetired = true := by
    simp only [detectionCycle] at looped
    split at looped
    · assumption
    · contradiction
  obtain ⟨left, early⟩ := timely.running budget running
  simp only [Timely] at timely ⊢
  rw [detectionCycle_sim looped]
  rcases state.step_counters numRetired top with ⟨-, retired, last⟩ | ⟨-, ⟨retired, last⟩ | ⟨retired, last⟩⟩
  · rw [retired, last, UInt64.toNat_add, UInt64.toNat_one, Nat.mod_eq_of_lt (by omega)]
    omega
  · rw [retired, last]
    exact timely
  · rw [last]
    rcases retired with one | two
    · rw [one, UInt64.toNat_add, UInt64.toNat_one, Nat.mod_eq_of_lt (by omega)]
      omega
    · rw [two, UInt64.toNat_add, UInt64.toNat_add, UInt64.toNat_one,
        Nat.mod_eq_of_lt (a := state.sim.retired.toNat + 1) (by omega), Nat.mod_eq_of_lt (by omega)]
      omega

/-- The detection loop turns at most 1300 times for each instruction to retire
and once 1300 times more, and after that many observations it has been left. -/
theorem detection_loop_bounded (budget : 1300 * (numRetired.toNat + 1) < 2 ^ 64)
    (state : LoopState) (ticks : state.sim.ticks = 0) (last_retired : state.sim.last_retired = 0)
    (tops : List Top) :
    (executed numRetired state tops).length ≤ 1300 * (numRetired.toNat + 1) ∧
      (1300 * (numRetired.toNat + 1) < tops.length →
        ∃ exit final, run (detectionCycle numRetired) state tops = .error (exit, final)) := by
  have start : Timely state := by simp [Timely, last_retired]
  have counted : (executed numRetired state tops).length ≤ 1300 * (numRetired.toNat + 1) := by
    have room : ∀ state, Timely state → state.isRunning numRetired = true →
        state.sim.ticks.toNat < 1300 * (numRetired.toNat + 1) := by
      intro state timely running
      obtain ⟨left, early⟩ := timely.running budget running
      omega
    have left := executed_length_le Timely budget (timely_keeps budget) room start tops
    rwa [ticks, UInt64.toNat_zero, Nat.sub_zero] at left
  exact ⟨counted, loop_left_of_executed counted⟩

theorem detection_loop_bounded_oneCommit :
    (executed 1 ⟨{}, {}, { flushInfo := { type := .none, cause := 0 } }⟩
      [{}, { committing0 := true, committingPc := 0x80000000 }, {}]).length ≤ 2600 :=
  (detection_loop_bounded (by decide) _ rfl rfl _).1

end PhantomTrails
