import PhantomTrails.ArchSim.Devices

namespace PhantomTrails.ArchSim

open Foundation Foundation.Machine

/-! # The default code region

An empty region list is documented to stand for the whole program.  The list
is passed on as it is: the jump hook reads its first region, and the store
hook finds no code in it.
-/

variable {Core Devices : Type} {ramSize : UInt64} {spike : Spike Core Devices ramSize}
  {config : Config} {sim next : ArchSim Core Devices ramSize} {region : Region} {stored : Bool}

def Program.withRegions (program : Program) (codeRegions : List Region) : Program :=
  { program with codeRegions }

def Program.wholeProgram (program : Program) (config : Config) : Region :=
  (config.ramBase, config.ramBase + program.len)

/-- Without regions the run ends, and with the result it has for the whole
program as the only region. -/
def EmptyMeansWhole (spike : Spike Core Devices ramSize) (config : Config) (sim : ArchSim Core Devices ramSize)
    (program : Program) (maxCycles : UInt64) : Prop :=
  ∃ result final final',
    sim.runSpikeSim spike config (program.withRegions []) maxCycles = .ok (result, final) ∧
      sim.runSpikeSim spike config (program.withRegions [program.wholeProgram config]) maxCycles =
        .ok (result, final')

/-! ## What the condition speaks about -/

def isJump : SpikeEvent → Bool
  | .jump _ _ _ => true
  | _ => false

/-- A store to the program by an instruction behind the init code. -/
def storesTo (initEnd : UInt64) (region : Region) : SpikeEvent → Bool
  | .stored pc addr => !decide (pc < initEnd) && region.holds addr
  | _ => false

/-- The states in which `runLoop` takes a step, the last one included. -/
def reached (spike : Spike Core Devices ramSize) (config : Config) :
    (remaining : Nat) → ArchSim Core Devices ramSize → List (ArchSim Core Devices ramSize)
  | 0, _ => []
  | remaining + 1, sim =>
      sim :: match sim.step spike config with
        | .error _ => []
        | .ok next =>
            if next.earlyExit spike || config.filtersEnabled && next.discard config then []
            else reached spike config remaining next

def JumpFree (spike : Spike Core Devices ramSize) (config : Config) (remaining : Nat)
    (sim : ArchSim Core Devices ramSize) : Prop :=
  ∀ before ∈ reached spike config remaining sim, (before.effect spike).events.any isJump = false

def ExecutedStep.StoresTo (step : ExecutedStep Core Devices ramSize) (spike : Spike Core Devices ramSize)
    (region : Region) : Prop :=
  (step.before.effect spike).events.any (storesTo step.before.filters.initEnd region) = true

/-- Some step stores to the program, and the filters look at it. -/
def SelfModifies (spike : Spike Core Devices ramSize) (config : Config) (remaining : Nat)
    (sim : ArchSim Core Devices ramSize) (region : Region) : Prop :=
  ∃ step ∈ executedSteps spike config remaining sim, step.examined spike = true ∧ step.StoresTo spike region

def Discards (spike : Spike Core Devices ramSize) (config : Config) (remaining : Nat)
    (sim : ArchSim Core Devices ramSize) : Prop :=
  ∃ step ∈ executedSteps spike config remaining sim, step.examined spike = true ∧
    step.after.discard config = true

/-! ## The two runs in lockstep -/

/-- The same filters with the one region, and with the flag for the stores
they would have seen. -/
def wholeFilters (region : Region) (stored : Bool) (filters : Filters) : Filters :=
  { filters with codeRegions := [region], selfModifying := filters.selfModifying || stored }

def whole (region : Region) (stored : Bool) (sim : ArchSim Core Devices ramSize) :
    ArchSim Core Devices ramSize :=
  { sim with filters := wholeFilters region stored sim.filters }

theorem checkForbidden_whole (filters : Filters) (addr : UInt64) :
    (wholeFilters region stored filters).checkForbidden addr =
      wholeFilters region stored (filters.checkForbidden addr) := by
  have same : (wholeFilters region stored filters).isInsideForbiddenRegion addr =
      filters.isInsideForbiddenRegion addr := rfl
  simp only [Filters.checkForbidden, same]
  split <;> rfl

theorem loadHook_whole (filters : Filters) (pc addr : UInt64) :
    (wholeFilters region stored filters).loadHook pc addr =
      wholeFilters region stored (filters.loadHook pc addr) := by
  have same : (wholeFilters region stored filters).initEnd = filters.initEnd := rfl
  simp only [Filters.loadHook, same, checkForbidden_whole]
  split <;> rfl

theorem trapHook_whole (filters : Filters) (cause mtvec : UInt64) :
    (wholeFilters region stored filters).trapHook cause mtvec =
      wholeFilters region stored (filters.trapHook cause mtvec) := by
  simp only [Filters.trapHook]
  split <;> split <;> rfl

/-- The only hook that behaves differently: a store is flagged. -/
theorem storeHook_whole (filters : Filters) (none : filters.codeRegions = []) (pc addr : UInt64) :
    (wholeFilters region stored filters).storeHook pc addr =
      wholeFilters region (stored || storesTo filters.initEnd region (.stored pc addr))
        (filters.storeHook pc addr) := by
  have same : (wholeFilters region stored filters).initEnd = filters.initEnd := rfl
  have nothing : filters.isInsideCodeRegion addr = false := by simp [Filters.isInsideCodeRegion, none]
  have only : (wholeFilters region stored filters).isInsideCodeRegion addr = region.holds addr := by
    simp [Filters.isInsideCodeRegion, wholeFilters]
  simp only [Filters.storeHook, same, nothing, only, storesTo]
  by_cases init : pc < filters.initEnd
  · simp [init]
  · cases inside : region.holds addr with
    | false => simp [init, checkForbidden_whole]
    | true =>
        have flagged : ({ wholeFilters region stored filters with selfModifying := true } : Filters) =
            wholeFilters region true filters := by
          simp [wholeFilters]
        have seen : (stored || (!decide (pc < filters.initEnd) && true)) = true := by simp [init]
        rw [if_neg init, if_neg init, if_pos rfl, if_neg Bool.false_ne_true, seen]
        exact (congrArg (Filters.checkForbidden · addr) flagged).trans (checkForbidden_whole filters addr)

/-- Hooks other than the one for jumps do not move the regions. -/
structure SameRegions (before after : Filters) : Prop where
  codeRegions : after.codeRegions = before.codeRegions
  initEnd : after.initEnd = before.initEnd

theorem sameRegions_checkForbidden (filters : Filters) (addr : UInt64) :
    SameRegions filters (filters.checkForbidden addr) := by
  rw [Filters.checkForbidden]
  split <;> exact ⟨rfl, rfl⟩

theorem sameRegions_loadHook (filters : Filters) (pc addr : UInt64) :
    SameRegions filters (filters.loadHook pc addr) := by
  rw [Filters.loadHook]
  split
  · exact ⟨rfl, rfl⟩
  · exact sameRegions_checkForbidden filters addr

theorem sameRegions_storeHook (filters : Filters) (pc addr : UInt64) :
    SameRegions filters (filters.storeHook pc addr) := by
  rw [Filters.storeHook]
  split
  · exact ⟨rfl, rfl⟩
  · dsimp only
    split
    · have same := sameRegions_checkForbidden { filters with selfModifying := true } addr
      exact ⟨same.codeRegions, same.initEnd⟩
    · exact sameRegions_checkForbidden filters addr

theorem sameRegions_trapHook (filters : Filters) (cause mtvec : UInt64) :
    SameRegions filters (filters.trapHook cause mtvec) := by
  simp only [Filters.trapHook]
  split <;> split <;> exact ⟨rfl, rfl⟩

theorem traced_whole (event : TraceEvent) :
    (sim.whole region stored).traced event = (sim.traced event).whole region stored := by
  cases registered : sim.memtracersRegistered <;> simp [traced, whole, registered]

theorem mmioLoad_whole (addr : UInt64) (len : Fin 256) :
    (sim.whole region stored).mmioLoad spike config addr len =
      (sim.mmioLoad spike config addr len).whole region stored := by
  cases answers : mmioOk spike addr len <;> simp [mmioLoad, whole, answers]

theorem mmioStore_whole (addr : UInt64) (len : Fin 256) :
    (sim.whole region stored).mmioStore spike config addr len =
      (sim.mmioStore spike config addr len).whole region stored := by
  cases answers : mmioOk spike addr len <;> simp [mmioStore, whole, answers]

theorem onEvent_whole {event : SpikeEvent} (spike : Spike Core Devices ramSize) (config : Config)
    (region : Region) (stored : Bool) (none : sim.filters.codeRegions = []) (other : isJump event = false) :
    ∃ next, onEvent spike config sim event = .ok next ∧ SameRegions sim.filters next.filters ∧
      onEvent spike config (sim.whole region stored) event =
        .ok (next.whole region (stored || storesTo sim.filters.initEnd region event)) := by
  cases event with
  | jump pc newpc targetOffset => cases other
  | trace event =>
      refine ⟨sim.traced event, rfl, ?_, ?_⟩
      · rw [traced]
        split <;> exact ⟨rfl, rfl⟩
      · simp only [onEvent, traced_whole, storesTo, Bool.or_false]
  | loaded pc addr =>
      refine ⟨_, rfl, sameRegions_loadHook sim.filters pc addr, ?_⟩
      simp only [onEvent, whole, storesTo, Bool.or_false, loadHook_whole]
  | stored pc addr =>
      refine ⟨_, rfl, sameRegions_storeHook sim.filters pc addr, ?_⟩
      simp only [onEvent, whole, storeHook_whole sim.filters none]
  | trapped cause mtvec =>
      refine ⟨_, rfl, sameRegions_trapHook sim.filters cause mtvec, ?_⟩
      simp only [onEvent, whole, storesTo, Bool.or_false, trapHook_whole]
  | mmioLoad addr len =>
      refine ⟨_, rfl, ?_, ?_⟩
      · simp only [mmioLoad]
        split <;> exact ⟨rfl, rfl⟩
      · simp only [onEvent, mmioLoad_whole, storesTo, Bool.or_false]
  | mmioStore addr len =>
      refine ⟨_, rfl, ?_, ?_⟩
      · simp only [mmioStore]
        split <;> exact ⟨rfl, rfl⟩
      · simp only [onEvent, mmioStore_whole, storesTo, Bool.or_false]

/-- A jump without a region to compare it with. -/
theorem onEvent_jump {event : SpikeEvent} (none : sim.filters.codeRegions = []) (jump : isJump event = true) :
    onEvent spike config sim event = .error .outOfBounds := by
  cases event with
  | jump pc newpc targetOffset => simp only [onEvent, Filters.jumpHook, none, bind, Except.bind]
  | trace | loaded | stored | trapped | mmioLoad | mmioStore => cases jump

theorem run_whole (spike : Spike Core Devices ramSize) (config : Config) (region : Region) (stored : Bool)
    {events : List SpikeEvent} (none : sim.filters.codeRegions = []) (jumpFree : events.any isJump = false) :
    ∃ next, Machine.run (onEvent spike config) sim events = .ok next ∧ SameRegions sim.filters next.filters ∧
      Machine.run (onEvent spike config) (sim.whole region stored) events =
        .ok (next.whole region (stored || events.any (storesTo sim.filters.initEnd region))) := by
  induction events generalizing sim stored with
  | nil => exact ⟨sim, rfl, ⟨rfl, rfl⟩, by simp [Machine.run]⟩
  | cons event rest ih =>
      simp only [List.any_cons, Bool.or_eq_false_iff] at jumpFree
      obtain ⟨middle, first, same, flagged⟩ := onEvent_whole spike config region stored none jumpFree.1
      obtain ⟨next, ran, later, also⟩ := ih _ (same.codeRegions.trans none) jumpFree.2
      refine ⟨next, (run_cons_of_ok first).trans ran, ?_, ?_⟩
      · exact ⟨later.codeRegions.trans same.codeRegions, later.initEnd.trans same.initEnd⟩
      · rw [run_cons_of_ok flagged, also, same.initEnd, List.any_cons, Bool.or_assoc]

theorem run_jump {events : List SpikeEvent} (none : sim.filters.codeRegions = [])
    (jumps : events.any isJump = true) :
    Machine.run (onEvent spike config) sim events = .error .outOfBounds := by
  induction events generalizing sim with
  | nil => cases jumps
  | cons event rest ih =>
      cases first : isJump event with
      | true => simp only [Machine.run, onEvent_jump none first]
      | false =>
          simp only [List.any_cons, first, Bool.false_or] at jumps
          obtain ⟨middle, taken, same, -⟩ := onEvent_whole spike config (0, 0) false none first
          rw [run_cons_of_ok taken]
          exact ih (same.codeRegions.trans none) jumps

theorem step_whole (spike : Spike Core Devices ramSize) (config : Config) (region : Region) (stored : Bool)
    (none : sim.filters.codeRegions = []) (jumpFree : (sim.effect spike).events.any isJump = false) :
    ∃ next, sim.step spike config = .ok next ∧ SameRegions sim.filters next.filters ∧
      (sim.whole region stored).step spike config = .ok (next.whole region
        (stored || (sim.effect spike).events.any (storesTo sim.filters.initEnd region))) :=
  @run_whole _ _ _ { sim with
    core := (sim.effect spike).core
    ram := (sim.effect spike).ram
    devices := (sim.effect spike).devices } spike config region stored _ none jumpFree

theorem step_jump (spike : Spike Core Devices ramSize) (config : Config) (none : sim.filters.codeRegions = [])
    (jumps : (sim.effect spike).events.any isJump = true) : sim.step spike config = .error .outOfBounds :=
  @run_jump _ _ _ spike config { sim with
    core := (sim.effect spike).core
    ram := (sim.effect spike).ram
    devices := (sim.effect spike).devices } _ none jumps

theorem discard_whole (sim : ArchSim Core Devices ramSize) (region : Region) (stored : Bool) (config : Config) :
    (sim.whole region stored).discard config = (sim.discard config || stored) := by
  simp only [discard, whole, wholeFilters]
  cases stored <;> simp

theorem selfModifies_succ {remaining : Nat} (stepped : sim.step spike config = .ok next) :
    SelfModifies spike config (remaining + 1) sim region ↔
      next.earlyExit spike = false ∧
        ((sim.effect spike).events.any (storesTo sim.filters.initEnd region) = true ∨
          (config.filtersEnabled && next.discard config) = false ∧
            SelfModifies spike config remaining next region) := by
  simp only [SelfModifies, executedSteps, stepped, List.mem_cons, exists_eq_or_imp, ExecutedStep.examined,
    ExecutedStep.StoresTo]
  cases leaving : next.earlyExit spike with
  | true => simp
  | false => cases discarded : config.filtersEnabled && next.discard config <;> simp

theorem jumpFree_succ {remaining : Nat} (stepped : sim.step spike config = .ok next) :
    JumpFree spike config (remaining + 1) sim ↔ (sim.effect spike).events.any isJump = false ∧
      (next.earlyExit spike = false → (config.filtersEnabled && next.discard config) = false →
        JumpFree spike config remaining next) := by
  simp only [JumpFree, reached, stepped, List.forall_mem_cons]
  cases leaving : next.earlyExit spike with
  | true => simp
  | false => cases discarded : config.filtersEnabled && next.discard config <;> simp

theorem runLoop_succ {remaining : Nat} (tick : UInt64) (stepped : sim.step spike config = .ok next) :
    runLoop spike config (remaining + 1) tick sim =
      if next.earlyExit spike then .ok (tick + 1, next)
      else if config.filtersEnabled && next.discard config then .ok (0, next)
      else runLoop spike config remaining (tick + 1) next := by
  simp only [runLoop, stepped, bind, Except.bind]
  rfl

/-- How the two runs compare: they part when the filters look at a step that
stores to the program, where the run with the region stops. -/
structure Compared (spike : Spike Core Devices ramSize) (config : Config) (region : Region) (remaining : Nat)
    (sim : ArchSim Core Devices ramSize) (ticks ticks' : UInt64)
    (final final' : ArchSim Core Devices ramSize) : Prop where
  parts : config.filtersEnabled = true → SelfModifies spike config remaining sim region → ticks' = 0
  agrees : ¬ (config.filtersEnabled = true ∧ SelfModifies spike config remaining sim region) →
    ticks' = ticks ∧ ∃ stored, final' = final.whole region stored

section Compared

variable {remaining : Nat} {ticks ticks' : UInt64} {final final' : ArchSim Core Devices ramSize}

/-- After the step that leaves the loop nothing is compared any more. -/
theorem Compared.left (stepped : sim.step spike config = .ok next) (leaving : next.earlyExit spike = true)
    (seen : Bool) :
    Compared spike config region (remaining + 1) sim ticks ticks final (final.whole region seen) := by
  refine ⟨fun _ modifies => ?_, fun _ => ⟨rfl, seen, rfl⟩⟩
  have stays := ((selfModifies_succ stepped).mp modifies).1
  rw [leaving] at stays
  cases stays

theorem Compared.unfiltered (unfiltered : config.filtersEnabled = false)
    (compared : Compared spike config region remaining next ticks ticks' final final') :
    Compared spike config region (remaining + 1) sim ticks ticks' final final' := by
  refine ⟨fun filtered => ?_, fun _ => compared.agrees ?_⟩
  · rw [unfiltered] at filtered
    cases filtered
  · simp [unfiltered]

/-- The filters stop the run with the region after a store to the program. -/
theorem Compared.parted (stepped : sim.step spike config = .ok next) (enabled : config.filtersEnabled = true)
    (leaving : next.earlyExit spike = false)
    (stores : (sim.effect spike).events.any (storesTo sim.filters.initEnd region) = true) :
    Compared spike config region (remaining + 1) sim ticks 0 final final' :=
  ⟨fun _ _ => rfl, fun agrees => absurd ⟨enabled, (selfModifies_succ stepped).mpr ⟨leaving, .inl stores⟩⟩ agrees⟩

theorem Compared.onward (stepped : sim.step spike config = .ok next) (leaving : next.earlyExit spike = false)
    (kept : (config.filtersEnabled && next.discard config) = false)
    (silent : (sim.effect spike).events.any (storesTo sim.filters.initEnd region) = false)
    (compared : Compared spike config region remaining next ticks ticks' final final') :
    Compared spike config region (remaining + 1) sim ticks ticks' final final' := by
  have modifies : SelfModifies spike config (remaining + 1) sim region ↔
      SelfModifies spike config remaining next region := by
    rw [selfModifies_succ stepped, silent, kept]
    simp [leaving]
  refine ⟨fun filtered self => compared.parts filtered (modifies.mp self), fun agrees => ?_⟩
  exact compared.agrees fun both => agrees ⟨both.1, modifies.mpr both.2⟩

end Compared

/-- Without a jump the two runs compare, step by step. -/
theorem runLoop_whole (spike : Spike Core Devices ramSize) (config : Config) (region : Region)
    {remaining : Nat} (tick : UInt64) (none : sim.filters.codeRegions = [])
    (quiet : config.filtersEnabled = true → stored = false)
    (jumpFree : JumpFree spike config remaining sim) :
    ∃ ticks final ticks' final', runLoop spike config remaining tick sim = .ok (ticks, final) ∧
      runLoop spike config remaining tick (sim.whole region stored) = .ok (ticks', final') ∧
      Compared spike config region remaining sim ticks ticks' final final' := by
  induction remaining generalizing sim stored tick with
  | zero =>
      refine ⟨tick, sim, tick, _, rfl, rfl, ?_, fun _ => ⟨rfl, stored, rfl⟩⟩
      rintro - ⟨step, member, -⟩
      cases member
  | succ remaining ih =>
      obtain ⟨next, stepped, same, flagged⟩ :=
        step_whole spike config region stored none (jumpFree sim List.mem_cons_self)
      obtain ⟨-, later⟩ := (jumpFree_succ stepped).mp jumpFree
      have still := same.codeRegions.trans none
      have sameExit : ∀ seen, (next.whole region seen).earlyExit spike = next.earlyExit spike := fun _ => rfl
      rw [runLoop_succ tick stepped, runLoop_succ tick flagged, discard_whole, sameExit]
      cases leaving : next.earlyExit spike with
      | true => exact ⟨_, _, _, _, rfl, rfl, .left stepped leaving _⟩
      | false =>
          cases enabled : config.filtersEnabled with
          | false =>
              obtain ⟨ticks, final, ticks', final', ran, ran', compared⟩ := ih (tick + 1) still
                (by simp [enabled]) (later leaving (by simp [enabled]))
              exact ⟨ticks, final, ticks', final', ran, ran', compared.unfiltered enabled⟩
          | true =>
              obtain rfl := quiet enabled
              cases discarded : next.discard config with
              | true => exact ⟨_, _, _, _, rfl, rfl, fun _ _ => rfl, fun _ => ⟨rfl, _, rfl⟩⟩
              | false =>
                  have kept : (config.filtersEnabled && next.discard config) = false := by simp [discarded]
                  obtain ⟨ticks, final, ticks', final', ran, ran', compared⟩ := ih (tick + 1) still
                    (fun _ => rfl) (later leaving kept)
                  cases stores : (sim.effect spike).events.any (storesTo sim.filters.initEnd region) with
                  | true => exact ⟨ticks, final, 0, _, ran, rfl, .parted stepped enabled leaving stores⟩
                  | false =>
                      exact ⟨ticks, final, ticks', final', ran, ran',
                        compared.onward stepped leaving kept stores⟩

theorem jumpFree_of_runLoop {remaining : Nat} {tick ticks : UInt64} {final : ArchSim Core Devices ramSize}
    (none : sim.filters.codeRegions = [])
    (ran : runLoop spike config remaining tick sim = .ok (ticks, final)) :
    JumpFree spike config remaining sim := by
  induction remaining generalizing sim tick with
  | zero =>
      intro state member
      exact absurd member List.not_mem_nil
  | succ remaining ih =>
      obtain ⟨next, stepped, -⟩ := bind_ok_iff.mp ran
      have quiet : (sim.effect spike).events.any isJump = false := by
        by_contra jumps
        rw [step_jump spike config none (by simpa using jumps)] at stepped
        cases stepped
      obtain ⟨other, taken, same, -⟩ := step_whole spike config (0, 0) false none quiet
      obtain rfl : other = next := Except.ok.inj (taken.symm.trans stepped)
      rw [runLoop_succ tick stepped] at ran
      refine (jumpFree_succ stepped).mpr ⟨quiet, fun stays goesOn => ?_⟩
      rw [stays, goesOn] at ran
      exact ih (same.codeRegions.trans none) ran

/-! ## The result -/

theorem resultOf_numRetired (config : Config) (ticks : UInt64) (final : ArchSim Core Devices ramSize) :
    (resultOf config ticks final).numRetired = ticks := by
  rw [resultOf]
  split
  · rename_i zero
    exact zero.symm
  · rfl

theorem runSpikeSim_ok_iff {program : Program} {maxCycles : UInt64} {result : SimResult} :
    (∃ after, sim.runSpikeSim spike config program maxCycles = .ok (result, after)) ↔
      ∃ ticks final, runLoop spike config maxCycles.toNat 0 (sim.loadProgram config program) =
        .ok (ticks, final) ∧ resultOf config ticks final = result := by
  simp only [runSpikeSim, run, bind, Except.bind]
  cases runLoop spike config maxCycles.toNat 0 (sim.loadProgram config program) with
  | error fault => simp
  | ok ran =>
      obtain ⟨ticks, final⟩ := ran
      by_cases zero : ticks = 0 <;> simp [resultOf, zero, pure, Except.pure]

theorem loadProgram_whole (sim : ArchSim Core Devices ramSize) (config : Config) (program : Program) (region : Region) :
    sim.loadProgram config (program.withRegions [region]) =
      (sim.loadProgram config (program.withRegions [])).whole region false := by
  simp [loadProgram, Program.withRegions, whole, wholeFilters]

/-- The run executes no jump, and if the filters would see it store to the
program, they discard it for something else. -/
structure RegionUnused (spike : Spike Core Devices ramSize) (config : Config) (region : Region)
    (remaining : Nat) (start : ArchSim Core Devices ramSize) : Prop where
  jumpFree : JumpFree spike config remaining start
  discards : config.filtersEnabled = true → SelfModifies spike config remaining start region →
    Discards spike config remaining start

/-- The empty list stands for the whole program exactly for programs that make
no use of it. -/
theorem empty_means_whole_iff (spike : Spike Core Devices ramSize) (config : Config)
    (sim : ArchSim Core Devices ramSize) (program : Program) (maxCycles : UInt64) :
    EmptyMeansWhole spike config sim program maxCycles ↔
      RegionUnused spike config (program.wholeProgram config) maxCycles.toNat
        (sim.loadProgram config (program.withRegions [])) := by
  have none : (sim.loadProgram config (program.withRegions [])).filters.codeRegions = [] := rfl
  have room : (0 : UInt64).toNat + maxCycles.toNat < 2 ^ 64 := by
    rw [UInt64.toNat_zero, Nat.zero_add]
    exact maxCycles.toNat_lt
  have both : EmptyMeansWhole spike config sim program maxCycles ↔ ∃ result,
      (∃ after, sim.runSpikeSim spike config (program.withRegions []) maxCycles = .ok (result, after)) ∧
      ∃ after, sim.runSpikeSim spike config (program.withRegions [program.wholeProgram config]) maxCycles =
        .ok (result, after) := by
    simp only [EmptyMeansWhole, exists_and_left, exists_and_right]
  rw [both]
  simp only [runSpikeSim_ok_iff, loadProgram_whole]
  constructor
  · rintro ⟨result, ⟨ticks, final, ran, rfl⟩, ⟨ticks', final', ran', same⟩⟩
    have jumpFree := jumpFree_of_runLoop none ran
    refine ⟨jumpFree, fun enabled modifies => ?_⟩
    obtain ⟨_, _, _, _, again, again', compared⟩ :=
      runLoop_whole spike config (program.wholeProgram config) 0 none (fun _ => rfl) jumpFree
    obtain ⟨rfl, rfl⟩ := Prod.mk.inj (Except.ok.inj (again.symm.trans ran))
    obtain ⟨rfl, rfl⟩ := Prod.mk.inj (Except.ok.inj (again'.symm.trans ran'))
    have returned := congrArg SimResult.numRetired same
    rw [resultOf_numRetired, resultOf_numRetired, compared.parts enabled modifies] at returned
    rcases (runLoop_eq_zero_iff enabled room ran).mp returned.symm with ⟨-, never⟩ | discards
    · obtain ⟨step, member, -⟩ := modifies
      rw [never] at member
      cases member
    · exact discards
  · intro unused
    obtain ⟨ticks, final, ticks', final', ran, ran', compared⟩ := runLoop_whole spike config
      (program.wholeProgram config) 0 none (fun _ => rfl) unused.jumpFree
    refine ⟨resultOf config ticks final, ⟨ticks, final, ran, rfl⟩, ticks', final', ran', ?_⟩
    by_cases parts : config.filtersEnabled = true ∧ SelfModifies spike config maxCycles.toNat
        (sim.loadProgram config (program.withRegions [])) (program.wholeProgram config)
    · obtain ⟨enabled, modifies⟩ := parts
      have zero := (runLoop_eq_zero_iff enabled room ran).mpr (.inr (unused.discards enabled modifies))
      rw [compared.parts enabled modifies, zero]
      rfl
    · obtain ⟨rfl, stored, rfl⟩ := compared.agrees parts
      rfl

def smallProgram : Program where
  buf := none
  len := 64
  codeRegions := []
  initSize := 0

/-- A jump forward inside the program, and a store to it. -/
def jumpForward : List SpikeEvent := [.jump 0x80000000 0x80000010 0]

def storeForward : List SpikeEvent := [.stored 0x80000000 0x80000010]

/-- The jump is compared with a region that is not there; the store is not
noticed. -/
theorem empty_means_whole_jumpForward :
    ArchSim.runSpikeSim (mmioSpike jumpForward) deviceConfig
        (.fresh (mmioSpike jumpForward) deviceConfig (fun _ => 0) () false) (smallProgram.withRegions []) 1 =
      .error .outOfBounds ∧
    ¬ EmptyMeansWhole (mmioSpike jumpForward) deviceConfig
        (.fresh (mmioSpike jumpForward) deviceConfig (fun _ => 0) () false) smallProgram 1 ∧
    ¬ EmptyMeansWhole (mmioSpike storeForward) deviceConfig
        (.fresh (mmioSpike storeForward) deviceConfig (fun _ => 0) () false) smallProgram 1 := by
  refine ⟨rfl, ?_, ?_⟩
  · rintro ⟨result, final, final', ran, -⟩
    cases ran
  · intro ⟨result, final, final', ran, ran'⟩
    have kept := congrArg (fun returned => SimResult.numRetired returned.1) (Except.ok.inj ran)
    have discarded := congrArg (fun returned => SimResult.numRetired returned.1) (Except.ok.inj ran')
    exact absurd (kept.trans discarded.symm) (by decide)

end PhantomTrails.ArchSim
