import PhantomTrails.ArchSim.Budget
import PhantomTrails.Simulator.TaintSetup

namespace PhantomTrails.Simulator

open Foundation

/-! # The cycle budget of a round

`--spike-cycles` decides how long the architectural run of a round may take,
and with it which labels are cleared before the cycle-accurate simulation
starts.
-/

variable {Core Devices : Type} {ramSize : UInt64} {spike : Spike Core Devices ramSize}
  {sim : Simulator} {source : TaintSource} {archSim : ArchSim Core Devices ramSize} {codeSize : UInt64}

/-- The simulator after the labels of an architectural result are set. -/
def labelled (sim : Simulator) (source : TaintSource) (result : ArchSim.SimResult) : Simulator :=
  let sim := sim.taintMemory 0 sim.programSize dataLbl
  let sim := sim.untaintArchAddresses (result.insts ++ result.addrs)
  if source ≠ .all ∧ source ≠ .memory then sim.taintAllMemory untaintedLbl else sim

theorem taintRound_ok_iff {args : Args} {outcome : Option (Round Core Devices ramSize)} :
    sim.taintRound spike source args archSim codeSize = .ok outcome ↔
      ∃ result final,
        ArchSim.runSpikeSim spike (sim.archConfig args.discardIllegalJumps) archSim sim.archProgram
            (archCycles args codeSize) = .ok (result, final) ∧
          outcome = if result.addrs = [] then none else some ⟨sim.labelled source result, final, result⟩ := by
  have appended : ∀ result : ArchSim.SimResult,
      ((sim.taintMemory 0 sim.programSize dataLbl).untaintArchAddresses
        result.insts).untaintArchAddresses result.addrs =
      (sim.taintMemory 0 sim.programSize dataLbl).untaintArchAddresses (result.insts ++ result.addrs) :=
    fun result => List.foldl_append.symm
  constructor
  · intro ran
    obtain ⟨⟨result, final⟩, simulated, ran⟩ := bind_ok_iff.mp ran
    refine ⟨result, final, simulated, ?_⟩
    simp only [appended] at ran
    split at ran
    · rename_i discarded
      cases ran
      exact (if_pos discarded).symm
    · rename_i accepted
      cases ran
      exact (if_neg accepted).symm
  · intro reached
    obtain ⟨result, final, simulated, same⟩ := reached
    refine bind_ok_iff.mpr ⟨(result, final), simulated, ?_⟩
    simp only [appended, same]
    split <;> rfl

theorem untaintArchAddresses_mono (blocks : 8 ∣ sim.memSize.toNat)
    (room : sim.baseAddr.toNat + sim.memSize.toNat < 2 ^ 64) {offset : Nat}
    (inside : offset < sim.memSize.toNat) {addrs more : List UInt64} (sub : addrs ⊆ more) :
    (sim.untaintArchAddresses more).labels offset = untaintedLbl ∨
      (sim.untaintArchAddresses more).labels offset = (sim.untaintArchAddresses addrs).labels offset := by
  have longer := untaintArchAddresses_labels blocks room inside more
  have shorter := untaintArchAddresses_labels blocks room inside addrs
  by_cases listed : ∃ addr ∈ more, InBlock sim.baseAddr offset addr
  · exact .inl (longer.1 listed)
  · have unlisted : ¬ ∃ addr ∈ addrs, InBlock sim.baseAddr offset addr := by
      intro listing
      obtain ⟨addr, member, block⟩ := listing
      exact listed ⟨addr, sub member, block⟩
    exact .inr ((longer.2 listed).trans (shorter.2 unlisted).symm)

theorem labelled_memory (sim : Simulator) (source : TaintSource) (result : ArchSim.SimResult) :
    (sim.labelled source result).memory = sim.memory := by
  have untainted := untaintArchAddresses_memory (sim.taintMemory 0 sim.programSize dataLbl)
    (result.insts ++ result.addrs)
  rw [labelled]
  split
  · exact untainted
  · exact untainted

/-- A result that lists more clears more. -/
theorem labelled_mono (blocks : 8 ∣ sim.memSize.toNat)
    (room : sim.baseAddr.toNat + sim.memSize.toNat < 2 ^ 64) {offset : Nat}
    (inside : offset < sim.memSize.toNat) {short long : ArchSim.SimResult}
    (within : ArchSim.SimResult.Within short long) (source : TaintSource) :
    (sim.labelled source long).labels offset = untaintedLbl ∨
      (sim.labelled source long).labels offset = (sim.labelled source short).labels offset := by
  have lists : short.insts ++ short.addrs ⊆ long.insts ++ long.addrs :=
    List.append_subset.mpr ⟨List.subset_append_of_subset_left _ within.insts,
      List.subset_append_of_subset_right _ within.addrs⟩
  have cleared := @untaintArchAddresses_mono (sim.taintMemory 0 sim.programSize dataLbl) blocks room
    offset inside _ _ lists
  rw [labelled, labelled]
  split
  · have sameSize : ((sim.taintMemory 0 sim.programSize dataLbl).untaintArchAddresses
        (long.insts ++ long.addrs)).memSize = sim.memSize := by
      rw [memSize, untaintArchAddresses_memory]
      rfl
    refine .inl (Store.fill_inside (Nat.zero_le _) ?_)
    rw [UInt64.toNat_zero, Nat.zero_add, sameSize]
    exact inside
  · exact cleared

/-- With a smaller budget the architectural run of a round also ends without a
fault, and if it accepts the program, memory is the same and a label differs
only where the larger budget has cleared it. -/
theorem taintRound_moreCycles {few many : Args} {long : Round Core Devices ramSize}
    (blocks : 8 ∣ sim.memSize.toNat) (room : sim.baseAddr.toNat + sim.memSize.toNat < 2 ^ 64)
    (sameFilter : few.discardIllegalJumps = many.discardIllegalJumps)
    (le : archCycles few codeSize ≤ archCycles many codeSize)
    (ran : sim.taintRound spike source many archSim codeSize = .ok (some long)) :
    ∃ outcome, sim.taintRound spike source few archSim codeSize = .ok outcome ∧
      ∀ short, outcome = some short →
        short.sim.memory = long.sim.memory ∧
          ∀ offset < sim.memSize.toNat, long.sim.labels offset = untaintedLbl ∨
            long.sim.labels offset = short.sim.labels offset := by
  obtain ⟨result, final, simulated, taken⟩ := taintRound_ok_iff.mp ran
  rw [← sameFilter] at simulated
  obtain ⟨ticks, last, looped, rfl, -⟩ := ArchSim.runSpikeSim_eq_ok_iff.mp simulated
  obtain ⟨reached, cut, cutShort, -, -, within⟩ := ArchSim.runLoop_fewer le looped
  have first := ArchSim.runSpikeSim_eq_ok_iff.mpr ⟨reached, cut, cutShort, rfl, rfl⟩
  split at taken
  · cases taken
  · rename_i accepted
    cases taken
    have counted : ticks ≠ 0 := by
      intro discarded
      exact accepted (by simp [ArchSim.resultOf, discarded])
    refine ⟨_, taintRound_ok_iff.mpr ⟨_, _, first, rfl⟩, ?_⟩
    intro short same
    split at same
    · cases same
    · cases same
      refine ⟨by rw [labelled_memory, labelled_memory], fun offset inside => ?_⟩
      exact labelled_mono blocks room inside (within counted) source

def twiceTheCycles : Args := { twoInstructions with spikeCyclesPerInst := 2 }

/-- A budget of two and of four cycles; the core waits after the second. -/
theorem taintRound_moreCycles_twoInstructions : ∃ loaded long,
    loadRound cleanCopy twoInstructions tinySim = .ok (8, loaded) ∧
      loaded.taintRound fetchLoadSpike .all twiceTheCycles fetchLoadArchSim 8 = .ok (some long) ∧
      ∃ outcome, loaded.taintRound fetchLoadSpike .all twoInstructions fetchLoadArchSim 8 = .ok outcome ∧
        ∀ short, outcome = some short → short.sim.memory = long.sim.memory := by
  obtain ⟨loaded, load⟩ : ∃ loaded, loadRound cleanCopy twoInstructions tinySim = .ok (8, loaded) :=
    ⟨_, rfl⟩
  have same : loaded.baseAddr = tinySim.baseAddr ∧ loaded.memSize = tinySim.memSize := by
    cases load
    exact ⟨rfl, rfl⟩
  obtain ⟨long, ran⟩ : ∃ long,
      loaded.taintRound fetchLoadSpike .all twiceTheCycles fetchLoadArchSim 8 = .ok (some long) := by
    cases load
    refine ⟨_, taintRound_all_iff.mpr ⟨_, _, rfl, fun discarded => ?_, rfl⟩⟩
    have empty := congrArg List.length discarded
    simp only [Finset.length_sort] at empty
    exact absurd empty (by decide)
  have blocks : 8 ∣ loaded.memSize.toNat := by
    rw [same.2]
    decide
  have room : loaded.baseAddr.toNat + loaded.memSize.toNat < 2 ^ 64 := by
    rw [same.1, same.2]
    decide
  obtain ⟨outcome, taken, equal⟩ := taintRound_moreCycles blocks room
    (show twoInstructions.discardIllegalJumps = twiceTheCycles.discardIllegalJumps from rfl)
    (show archCycles twoInstructions 8 ≤ archCycles twiceTheCycles 8 by decide) ran
  exact ⟨loaded, long, load, ran, outcome, taken, fun short found => (equal short found).1⟩

end PhantomTrails.Simulator
