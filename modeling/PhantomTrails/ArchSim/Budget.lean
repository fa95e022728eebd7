import PhantomTrails.ArchSim.DefaultRegion
import PhantomTrails.ArchSim.Inspection

namespace PhantomTrails.ArchSim

open Foundation

/-! # The cycle budget of a run

`run` stops after `maxCycles` steps.  A run with more cycles is the run with
fewer, continued: nothing changes if that one had already left the loop, and
otherwise the recorders only gain addresses.
-/

variable {Core Devices : Type} {ramSize : UInt64} {spike : Spike Core Devices ramSize}
  {config : Config} {sim next final : ArchSim Core Devices ramSize}

/-! ## The loop, continued -/

/-- Either the loop was left before the budget ran out, or all of it was used
and a larger budget goes on from there. -/
theorem runLoop_more {remaining : Nat} {tick ticks : UInt64} (extra : Nat)
    (ran : runLoop spike config remaining tick sim = .ok (ticks, final)) :
    runLoop spike config (remaining + extra) tick sim = .ok (ticks, final) ∨
      ticks = tick + UInt64.ofNat remaining ∧
        runLoop spike config (remaining + extra) tick sim = runLoop spike config extra ticks final := by
  induction remaining generalizing tick sim with
  | zero =>
      cases ran
      refine .inr ⟨(UInt64.add_zero _).symm, ?_⟩
      rw [Nat.zero_add]
  | succ remaining ih =>
      obtain ⟨next, stepped, ran⟩ := bind_ok_iff.mp ran
      have unfolded : runLoop spike config (remaining + 1 + extra) tick sim =
          if next.earlyExit spike then .ok (tick + 1, next)
          else if config.filtersEnabled && next.discard config then .ok (0, next)
          else runLoop spike config (remaining + extra) (tick + 1) next := by
        rw [Nat.add_right_comm, runLoop, stepped]
        rfl
      rw [unfolded]
      split at ran
      · rename_i exits
        cases ran
        exact .inl (if_pos exits)
      · rename_i stays
        rw [if_neg stays]
        split at ran
        · rename_i discards
          cases ran
          exact .inl (if_pos discards)
        · rename_i kept
          rw [if_neg kept]
          have next : tick + UInt64.ofNat (remaining + 1) = tick + 1 + UInt64.ofNat remaining := by
            rw [UInt64.ofNat_add, UInt64.add_comm (UInt64.ofNat remaining), ← UInt64.add_assoc]
            rfl
          rw [next]
          exact ih ran

theorem runLoop_error_more {remaining : Nat} {tick : UInt64} {fault : Fault} (extra : Nat)
    (failed : runLoop spike config remaining tick sim = .error fault) :
    runLoop spike config (remaining + extra) tick sim = .error fault := by
  induction remaining generalizing tick sim with
  | zero => cases failed
  | succ remaining ih =>
      rw [Nat.add_right_comm, runLoop]
      rw [runLoop] at failed
      cases stepped : sim.step spike config with
      | error other =>
          rw [stepped] at failed
          exact failed
      | ok next =>
          simp only [stepped, bind, Except.bind] at failed ⊢
          split at failed
          · cases failed
          · rename_i stays
            rw [if_neg stays]
            split at failed
            · cases failed
            · rename_i kept
              rw [if_neg kept]
              exact ih failed

/-- A run that is not discarded counts up from its first tick, one a step. -/
theorem runLoop_ticks {remaining : Nat} {tick ticks : UInt64} (room : tick.toNat + remaining < 2 ^ 64)
    (ran : runLoop spike config remaining tick sim = .ok (ticks, final)) :
    ticks = 0 ∨ tick.toNat ≤ ticks.toNat ∧ ticks.toNat ≤ tick.toNat + remaining := by
  induction remaining generalizing tick sim with
  | zero =>
      cases ran
      exact .inr ⟨Nat.le_refl _, Nat.le_refl _⟩
  | succ remaining ih =>
      have counted : (tick + 1).toNat = tick.toNat + 1 := by
        rw [UInt64.toNat_add]
        exact Nat.mod_eq_of_lt (by change tick.toNat + 1 < _; omega)
      obtain ⟨next, stepped, ran⟩ := bind_ok_iff.mp ran
      split at ran
      · cases ran
        exact .inr ⟨by omega, by omega⟩
      · split at ran
        · cases ran
          exact .inl rfl
        · exact (ih (by omega) ran).imp_right fun later => by omega

/-! ## The recorders grow -/

/-- What is recorded in `sim` is recorded in `next`. -/
structure Grows (sim next : ArchSim Core Devices ramSize) : Prop where
  fetches : sim.fetchRecorder.fetches ⊆ next.fetchRecorder.fetches
  loads : sim.memRecorder.loads ⊆ next.memRecorder.loads
  mmio : ∀ byte, sim.mmioRecorded byte → next.mmioRecorded byte

theorem Grows.refl (sim : ArchSim Core Devices ramSize) : Grows sim sim :=
  ⟨fun _ member => member, fun _ member => member, fun _ recorded => recorded⟩

theorem Grows.trans (first : Grows sim next) (second : Grows next final) : Grows sim final where
  fetches := fun _ member => second.fetches (first.fetches member)
  loads := fun _ member => second.loads (first.loads member)
  mmio := fun byte recorded => second.mmio byte (first.mmio byte recorded)

theorem Heard.grows {events : List TraceEvent} {accesses : List (UInt64 × Fin 256)}
    (heard : Heard sim next events accesses) : Grows sim next where
  fetches := by
    intro addr member
    rw [heard.fetchRecorder]
    exact FetchRecorder.mem_foldl_trace.mpr (.inl member)
  loads := by
    intro addr member
    rw [heard.memRecorder]
    exact MemRecorder.mem_foldl_trace.mpr (.inl member)
  mmio := fun byte recorded => (heard.mmio byte).mpr (.inl recorded)

theorem runLoop_grows {remaining : Nat} {tick ticks : UInt64}
    (ran : runLoop spike config remaining tick sim = .ok (ticks, final)) : Grows sim final :=
  runLoop_keeps (fun _ _ grown stepped => grown.trans (heard_step stepped).grows) (Grows.refl sim) ran

theorem Grows.getAccessedMem (grows : Grows sim next) {addr : UInt64}
    (accessed : addr ∈ sim.getAccessedMem.1) : addr ∈ next.getAccessedMem.1 := by
  rw [ArchSim.getAccessedMem, mem_foldl_insert] at accessed ⊢
  exact accessed.imp (fun loaded => grows.loads loaded) (grows.mmio addr)

theorem Grows.getExecutedInsts (grows : Grows sim next) {addr : UInt64}
    (executed : addr ∈ sim.getExecutedInsts config) : addr ∈ next.getExecutedInsts config := by
  rw [ArchSim.getExecutedInsts, Finset.mem_filter] at executed ⊢
  exact ⟨grows.fetches executed.1, executed.2⟩

/-! ## The result -/

theorem runSpikeSim_eq_ok_iff {program : Program} {maxCycles : UInt64} {result : SimResult} :
    runSpikeSim spike config sim program maxCycles = .ok (result, final) ↔
      ∃ ticks last, runLoop spike config maxCycles.toNat 0 (sim.loadProgram config program) =
          .ok (ticks, last) ∧
        result = resultOf config ticks last ∧
        final = if ticks = 0 then last else last.getAccessedMem.2 := by
  constructor
  · intro ran
    obtain ⟨⟨ticks, last⟩, looped, rest⟩ := bind_ok_iff.mp ran
    refine ⟨ticks, last, looped, ?_⟩
    by_cases discarded : ticks = 0
    · simp only [discarded, if_true] at rest
      cases rest
      simp [resultOf, discarded]
    · simp only [discarded, if_false] at rest
      cases rest
      simp [resultOf, discarded]
  · intro reached
    obtain ⟨ticks, last, looped, listed, left⟩ := reached
    refine bind_ok_iff.mpr ⟨(ticks, last), looped, ?_⟩
    subst listed left
    by_cases discarded : ticks = 0
    · simp [resultOf, discarded, pure, Except.pure]
    · simp [resultOf, discarded, pure, Except.pure]

/-- What one result lists and counts, another does too. -/
structure SimResult.Within (short long : SimResult) : Prop where
  numRetired : short.numRetired ≤ long.numRetired
  addrs : short.addrs ⊆ long.addrs
  insts : short.insts ⊆ long.insts

theorem SimResult.Within.refl (result : SimResult) : Within result result :=
  ⟨UInt64.le_refl _, List.Subset.refl _, List.Subset.refl _⟩

theorem Grows.within (grows : Grows sim next) {ticks more : UInt64} (later : ticks ≤ more)
    (accepted : more ≠ 0) : SimResult.Within (resultOf config ticks sim) (resultOf config more next) := by
  have listed : resultOf config more next =
      ⟨next.getAccessedMem.1.sort (· ≤ ·), (next.getAccessedMem.2.getExecutedInsts config).sort (· ≤ ·),
        more⟩ := if_neg accepted
  rw [resultOf]
  split
  · exact ⟨by rw [resultOf_numRetired]; exact UInt64.zero_le, List.nil_subset _, List.nil_subset _⟩
  · rw [listed]
    refine ⟨later, ?_, ?_⟩
    · intro addr member
      rw [Finset.mem_sort] at member ⊢
      exact grows.getAccessedMem member
    · intro addr member
      rw [Finset.mem_sort] at member ⊢
      exact grows.getExecutedInsts member

/-- The loop with a smaller budget stops on the way of the other one, and at its
end if it stops early. -/
theorem runLoop_fewer {few many ticks : UInt64} {last : ArchSim Core Devices ramSize} (le : few ≤ many)
    (looped : runLoop spike config many.toNat 0 sim = .ok (ticks, last)) :
    ∃ reached middle, runLoop spike config few.toNat 0 sim = .ok (reached, middle) ∧ reached ≤ few ∧
      (reached < few → ticks = reached ∧ last = middle) ∧
      (ticks ≠ 0 → SimResult.Within (resultOf config reached middle) (resultOf config ticks last)) := by
  obtain ⟨extra, total⟩ := Nat.exists_eq_add_of_le (UInt64.le_iff_toNat_le.mp le)
  rw [total] at looped
  cases cutShort : runLoop spike config few.toNat 0 sim with
  | error fault =>
      rw [runLoop_error_more extra cutShort] at looped
      cases looped
  | ok outcome =>
      obtain ⟨reached, middle⟩ := outcome
      have room := few.toNat_lt
      have counted := runLoop_ticks (by simpa using room) cutShort
      have within : reached ≤ few := by
        rcases counted with discarded | ⟨-, upper⟩
        · exact discarded ▸ UInt64.zero_le
        · exact UInt64.le_iff_toNat_le.mpr (by simpa using upper)
      refine ⟨reached, middle, rfl, within, ?_⟩
      rcases runLoop_more extra cutShort with same | ⟨used, onward⟩
      · rw [same] at looped
        cases looped
        exact ⟨fun _ => ⟨rfl, rfl⟩, fun _ => .refl _⟩
      · have spent : reached = few := by simpa using used
        refine ⟨fun before => absurd (spent ▸ before) (UInt64.lt_irrefl _), fun accepted => ?_⟩
        rw [onward] at looped
        have bound : reached.toNat + extra < 2 ^ 64 := by
          rw [spent, ← total]
          exact many.toNat_lt
        rcases runLoop_ticks bound looped with discarded | ⟨lower, -⟩
        · exact absurd discarded accepted
        · exact (runLoop_grows looped).within (UInt64.le_iff_toNat_le.mpr lower) accepted

/-- With fewer cycles a run also ends without a fault.  If it ends before its
budget does (discarded or left early), more cycles change nothing; otherwise
the longer run, unless it is discarded, lists and counts at least as much. -/
theorem runSpikeSim_moreCycles {program : Program} {few many : UInt64} {long : SimResult}
    (le : few ≤ many) (ran : runSpikeSim spike config sim program many = .ok (long, final)) :
    ∃ short cut, runSpikeSim spike config sim program few = .ok (short, cut) ∧
      short.numRetired ≤ few ∧
      (short.numRetired < few → long = short ∧ final = cut) ∧
      (long.numRetired ≠ 0 → SimResult.Within short long) := by
  obtain ⟨ticks, last, looped, rfl, rfl⟩ := runSpikeSim_eq_ok_iff.mp ran
  obtain ⟨reached, middle, cutShort, within, early, grown⟩ := runLoop_fewer le looped
  refine ⟨_, _, runSpikeSim_eq_ok_iff.mpr ⟨reached, middle, cutShort, rfl, rfl⟩, ?_⟩
  rw [resultOf_numRetired, resultOf_numRetired]
  refine ⟨within, fun before => ?_, grown⟩
  obtain ⟨rfl, rfl⟩ := early before
  exact ⟨rfl, rfl⟩

/-- One cycle stays in the boot ROM, the second loads. -/
theorem runSpikeSim_moreCycles_oneCycle : ∃ short cut long final,
    runSpikeSim fetchAndLoad recording started twoCycles.program 1 = .ok (short, cut) ∧
      runSpikeSim fetchAndLoad recording started twoCycles.program 2 = .ok (long, final) ∧
      SimResult.Within short long := by
  obtain ⟨long, final, ran, counted⟩ : ∃ long final,
      runSpikeSim fetchAndLoad recording started twoCycles.program 2 = .ok (long, final) ∧
        long.numRetired = 2 := ⟨_, _, rfl, rfl⟩
  have accepted : long.numRetired ≠ 0 := by
    rw [counted]
    decide
  obtain ⟨short, cut, first, -, -, within⟩ :=
    runSpikeSim_moreCycles (show (1 : UInt64) ≤ 2 by decide) ran
  exact ⟨short, cut, long, final, first, ran, within accepted⟩

end PhantomTrails.ArchSim
