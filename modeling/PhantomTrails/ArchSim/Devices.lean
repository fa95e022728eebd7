import PhantomTrails.ArchSim.Model

namespace PhantomTrails.ArchSim

open Foundation Foundation.Machine

/-! # The device filter

`illegal_device` is assigned by every MMIO access and looked at once a step,
so only the last access of a step counts.
-/

variable {Core Devices : Type} {ramSize : UInt64} {spike : Spike Core Devices ramSize}
  {config : Config} {sim next final : ArchSim Core Devices ramSize}

def asMmio : SpikeEvent → List (UInt64 × Fin 256)
  | .mmioLoad addr len | .mmioStore addr len => [(addr, len)]
  | _ => []

/-- The MMIO accesses of the next step, loads and stores in their order. -/
def accesses (sim : ArchSim Core Devices ramSize) (spike : Spike Core Devices ramSize) :
    List (UInt64 × Fin 256) :=
  (sim.effect spike).events.flatMap asMmio

def Rejected (spike : Spike Core Devices ramSize) (config : Config) (access : UInt64 × Fin 256) : Prop :=
  isAllowedDevice spike config access.1 access.2 = false

instance {access : UInt64 × Fin 256} : Decidable (Rejected spike config access) :=
  inferInstanceAs (Decidable (_ = _))

/-- The flags of the other filters. -/
def otherFlag (sim : ArchSim Core Devices ramSize) (config : Config) : Bool :=
  sim.filters.illegalJump && config.discardIllegalJumps || sim.filters.selfModifying ||
    sim.filters.accessedForbiddenRegion

theorem discard_eq (sim : ArchSim Core Devices ramSize) (config : Config) :
    sim.discard config = (sim.otherFlag config || sim.illegalDevice) := by
  rw [discard, otherFlag, Bool.or_assoc, Bool.or_assoc, Bool.or_comm sim.illegalDevice]
  simp only [Bool.or_assoc]

/-! ## The steps of a run -/

structure ExecutedStep (Core Devices : Type) (ramSize : UInt64) where
  before : ArchSim Core Devices ramSize
  after : ArchSim Core Devices ramSize

/-- The steps of `runLoop`, the one that leaves the loop included. -/
def executedSteps (spike : Spike Core Devices ramSize) (config : Config) :
    (remaining : Nat) → ArchSim Core Devices ramSize → List (ExecutedStep Core Devices ramSize)
  | 0, _ => []
  | remaining + 1, sim =>
      match sim.step spike config with
      | .error _ => []
      | .ok next =>
          ⟨sim, next⟩ ::
            if next.earlyExit spike || config.filtersEnabled && next.discard config then []
            else executedSteps spike config remaining next

/-- The step was looked at by the filters. -/
def ExecutedStep.examined (step : ExecutedStep Core Devices ramSize)
    (spike : Spike Core Devices ramSize) : Bool :=
  !step.after.earlyExit spike

theorem runLoop_eq_zero_iff (enabled : config.filtersEnabled = true) {remaining : Nat}
    {tick ticks : UInt64} (room : tick.toNat + remaining < 2 ^ 64)
    (ran : runLoop spike config remaining tick sim = .ok (ticks, final)) :
    ticks = 0 ↔ tick = 0 ∧ remaining = 0 ∨ ∃ step ∈ executedSteps spike config remaining sim,
      step.examined spike = true ∧ step.after.discard config = true := by
  induction remaining generalizing tick sim with
  | zero =>
      cases ran
      simp [executedSteps]
  | succ remaining ih =>
      have counted : (tick + 1).toNat = tick.toNat + 1 := by
        rw [UInt64.toNat_add, UInt64.toNat_one]
        exact Nat.mod_eq_of_lt (by omega)
      have moved : tick + 1 ≠ 0 := by
        intro wrapped
        rw [wrapped, UInt64.toNat_zero] at counted
        contradiction
      obtain ⟨next, stepped, ran⟩ := bind_ok_iff.mp ran
      simp only [executedSteps, stepped, enabled, Bool.true_and, Nat.succ_ne_zero, and_false, false_or,
        List.mem_cons, exists_eq_or_imp, ExecutedStep.examined] at ran ⊢
      cases leaving : next.earlyExit spike with
      | true =>
          simp only [leaving, if_true] at ran
          cases ran
          simp [moved]
      | false =>
          cases discarded : next.discard config with
          | true =>
              simp only [leaving, discarded, Bool.false_eq_true, if_false, if_true] at ran
              cases ran
              simp
          | false =>
              simp only [leaving, discarded, Bool.false_eq_true, if_false] at ran
              have later := ih (by omega) ran
              simp only [moved, false_and, false_or, ExecutedStep.examined] at later
              simpa [leaving, discarded] using later

/-! ## The flag -/

theorem onEvent_illegalDevice {event : SpikeEvent} (happened : onEvent spike config sim event = .ok next) :
    next.illegalDevice = ((asMmio event).getLast?.map fun access =>
      !isAllowedDevice spike config access.1 access.2).getD sim.illegalDevice := by
  cases event with
  | trace event =>
      cases happened
      simp only [traced, asMmio]
      split <;> rfl
  | jump pc newpc targetOffset =>
      obtain ⟨filters, -, same⟩ := bind_ok_iff.mp happened
      cases same
      rfl
  | loaded pc addr | stored pc addr | trapped cause mtvec =>
      cases happened
      rfl
  | mmioLoad addr len =>
      cases happened
      simp only [mmioLoad]
      split <;> rfl
  | mmioStore addr len =>
      cases happened
      simp only [mmioStore]
      split <;> rfl

/-- The last access decides; without one the flag stays. -/
theorem run_illegalDevice {events : List SpikeEvent}
    (happened : Machine.run (onEvent spike config) sim events = .ok next) :
    next.illegalDevice = ((events.flatMap asMmio).getLast?.map fun access =>
      !isAllowedDevice spike config access.1 access.2).getD sim.illegalDevice := by
  induction events generalizing sim with
  | nil =>
      cases happened
      rfl
  | cons event rest ih =>
      obtain ⟨middle, first, happened⟩ := run_cons_ok_iff.mp happened
      rw [ih happened, onEvent_illegalDevice first, List.flatMap_cons, List.getLast?_append]
      cases (rest.flatMap asMmio).getLast? <;> rfl

theorem step_illegalDevice_iff (clear : sim.illegalDevice = false)
    (stepped : step spike config sim = .ok next) :
    next.illegalDevice = true ↔
      ∃ access, (sim.accesses spike).getLast? = some access ∧ Rejected spike config access := by
  have happened : Machine.run (onEvent spike config) _ (sim.effect spike).events = .ok next := stepped
  rw [run_illegalDevice happened, ← accesses]
  cases (sim.accesses spike).getLast? with
  | none => simp [clear]
  | some access => simp [Rejected]

/-- The filters see to it that no step starts with the flag up. -/
theorem executedSteps_clear (spike : Spike Core Devices ramSize)
    (enabled : config.filtersEnabled = true) (remaining : Nat) (clear : sim.illegalDevice = false) :
    ∀ step ∈ executedSteps spike config remaining sim,
      step.before.illegalDevice = false ∧ step.before.step spike config = .ok step.after := by
  induction remaining generalizing sim with
  | zero => simp [executedSteps]
  | succ remaining ih =>
      simp only [executedSteps]
      cases stepped : sim.step spike config with
      | error fault => simp
      | ok next =>
          refine List.forall_mem_cons.mpr ⟨⟨clear, stepped⟩, ?_⟩
          split
          · simp
          · rename_i goesOn
            simp only [enabled, Bool.true_and, discard_eq, Bool.or_eq_true, not_or,
              Bool.not_eq_true] at goesOn
            exact ih goesOn.2.2

/-! ## The verdict -/

def RejectsAny (step : ExecutedStep Core Devices ramSize) (spike : Spike Core Devices ramSize)
    (config : Config) : Prop :=
  ∃ access ∈ step.before.accesses spike, Rejected spike config access

def RejectsLast (step : ExecutedStep Core Devices ramSize) (spike : Spike Core Devices ramSize)
    (config : Config) : Prop :=
  ∃ access, (step.before.accesses spike).getLast? = some access ∧ Rejected spike config access

/-- Every rejected access discards the program, and without one, and without
another flag, the program is kept. -/
structure DevicesPoliced (spike : Spike Core Devices ramSize) (config : Config)
    (steps : List (ExecutedStep Core Devices ramSize)) (maxCycles ticks : UInt64) : Prop where
  discards : (∃ step ∈ steps, step.examined spike = true ∧ RejectsAny step spike config) → ticks = 0
  keeps : 0 < maxCycles →
    (∀ step ∈ steps, step.after.otherFlag config = false ∧ ¬ RejectsAny step spike config) → ticks ≠ 0

theorem device_filter_iff (spike : Spike Core Devices ramSize) (config : Config)
    (sim : ArchSim Core Devices ramSize) (maxCycles : UInt64) {ticks : UInt64}
    (enabled : config.filtersEnabled = true) (clear : sim.illegalDevice = false)
    (ran : sim.run spike config maxCycles = .ok (ticks, final)) :
    DevicesPoliced spike config (executedSteps spike config maxCycles.toNat sim) maxCycles ticks ↔
      ((∃ step ∈ executedSteps spike config maxCycles.toNat sim,
          step.examined spike = true ∧ RejectsAny step spike config) →
        ∃ step ∈ executedSteps spike config maxCycles.toNat sim, step.examined spike = true ∧
          (step.after.otherFlag config = true ∨ RejectsLast step spike config)) := by
  have room : (0 : UInt64).toNat + maxCycles.toNat < 2 ^ 64 := by
    rw [UInt64.toNat_zero, Nat.zero_add]
    exact maxCycles.toNat_lt
  have zero := runLoop_eq_zero_iff enabled room ran
  have steps := executedSteps_clear spike enabled maxCycles.toNat clear
  have verdict : ∀ step ∈ executedSteps spike config maxCycles.toNat sim,
      (step.after.discard config = true ↔
        step.after.otherFlag config = true ∨ RejectsLast step spike config) := by
    intro step member
    obtain ⟨before, stepped⟩ := steps step member
    rw [discard_eq, Bool.or_eq_true, step_illegalDevice_iff before stepped, RejectsLast]
  constructor
  · rintro ⟨discards, -⟩ rejecting
    have returned := discards rejecting
    obtain ⟨step, member, -⟩ := rejecting
    rcases zero.mp returned with ⟨-, none⟩ | ⟨other, executed, examined, discarded⟩
    · rw [none] at member
      cases member
    · exact ⟨other, executed, examined, (verdict other executed).mp discarded⟩
  · intro condition
    refine ⟨fun rejecting => ?_, fun positive clean returned => ?_⟩
    · obtain ⟨step, member, examined, flagged⟩ := condition rejecting
      exact zero.mpr (.inr ⟨step, member, examined, (verdict step member).mpr flagged⟩)
    · rcases zero.mp returned with ⟨-, none⟩ | ⟨step, member, -, discarded⟩
      · have some := UInt64.lt_iff_toNat_lt.mp positive
        rw [UInt64.toNat_zero] at some
        omega
      · obtain ⟨quiet, accepted⟩ := clean step member
        rcases (verdict step member).mp discarded with flagged | ⟨access, last, rejected⟩
        · rw [quiet] at flagged
          contradiction
        · exact accepted ⟨access, List.mem_of_getLast? last, rejected⟩

/-- A Spike whose steps make the given MMIO accesses and nothing else. -/
def mmioSpike (events : List SpikeEvent) : Spike Unit Unit 64 where
  newCore := ()
  initCore := id
  isWaitingForInterrupt := fun _ => false
  findDevice := fun _ => true
  maxPaddrBits := 56
  step := fun core ram devices => { core, ram, devices, events }

def deviceConfig : Config where
  ramBase := 0x80000000
  recordAddresses := true
  filtersEnabled := true
  discardIllegalJumps := true

/-- An instruction in the boot ROM that reads the error device. -/
def fetchThenLoad : List SpikeEvent := [.mmioLoad 0x10000 4, .mmioLoad 0x3000 8]

theorem device_filter_iff_fetchThenLoad :
    DevicesPoliced (mmioSpike fetchThenLoad) deviceConfig
      (executedSteps (mmioSpike fetchThenLoad) deviceConfig 1
        (.fresh (mmioSpike fetchThenLoad) deviceConfig (fun _ => 0) () false)) 1 0 := by
  apply (device_filter_iff (mmioSpike fetchThenLoad) deviceConfig _ 1 rfl rfl rfl).mpr fun _ => ?_
  exact ⟨_, List.mem_singleton.mpr rfl, rfl, .inr ⟨(0x3000, 8), rfl, rfl⟩⟩

/-- A page walk through the error device, and then the fetch itself from the
boot ROM. -/
def walkThenFetch : List SpikeEvent := [.mmioLoad 0x3000 8, .mmioLoad 0x10000 4]

/-- The fetch takes the flag back, and the program runs for its one cycle. -/
theorem device_filter_walkThenFetch : ∃ final,
    ArchSim.run (mmioSpike walkThenFetch) deviceConfig
        (.fresh (mmioSpike walkThenFetch) deviceConfig (fun _ => 0) () false) 1 = .ok (1, final) ∧
      ¬ DevicesPoliced (mmioSpike walkThenFetch) deviceConfig
        (executedSteps (mmioSpike walkThenFetch) deviceConfig 1
          (.fresh (mmioSpike walkThenFetch) deviceConfig (fun _ => 0) () false)) 1 1 := by
  refine ⟨_, rfl, fun policed => ?_⟩
  have returned := policed.discards
    ⟨_, List.mem_singleton.mpr rfl, rfl, (0x3000, 8), List.mem_cons_self, rfl⟩
  exact absurd returned (by decide)

end PhantomTrails.ArchSim
