import PhantomTrails.Foundation.Run
import PhantomTrails.ArchSim.Model

namespace PhantomTrails.ArchSim

open Foundation Foundation.Machine

/-! # Reset

`reset` is meant to make an `ArchSim` as good as new.  The comparison runs one
program on a simulator that was used and reset, and on a fresh one.
-/

variable {Core Devices : Type} {ramSize : UInt64}
  {spike : Spike Core Devices ramSize} {config : Config} {sim next : ArchSim Core Devices ramSize}

inductive Command where
  | setForbiddenRegion (region : Region)
  | loadProgram (program : Program)
  | run (maxCycles : UInt64)
  | getAccessedMem
  | getExecutedInsts

def perform (spike : Spike Core Devices ramSize) (config : Config) :
    Machine (ArchSim Core Devices ramSize) Command Fault := fun sim command =>
  match command with
  | .setForbiddenRegion region => .ok (sim.setForbiddenRegion region)
  | .loadProgram program => .ok (sim.loadProgram config program)
  | .run maxCycles => do
      let (_, sim) ← sim.run spike config maxCycles
      pure sim
  | .getAccessedMem => .ok sim.getAccessedMem.2
  | .getExecutedInsts => .ok sim

structure Round where
  forbidden : List Region
  program : Program
  maxCycles : UInt64

def prepare (sim : ArchSim Core Devices ramSize) (config : Config) (round : Round) :
    ArchSim Core Devices ramSize :=
  (round.forbidden.foldl setForbiddenRegion sim).loadProgram config round.program

def report (config : Config) (ticks : UInt64) (sim : ArchSim Core Devices ramSize) :
    UInt64 × Finset UInt64 × Finset UInt64 :=
  (ticks, sim.getAccessedMem.1, sim.getAccessedMem.2.getExecutedInsts config)

def outcome (spike : Spike Core Devices ramSize) (config : Config)
    (sim : ArchSim Core Devices ramSize) (round : Round) :
    Except Fault (UInt64 × Finset UInt64 × Finset UInt64) := do
  let (ticks, sim) ← (sim.prepare config round).run spike config round.maxCycles
  pure (report config ticks sim)

def Program.Leaves (program : Program) (offset : Fin ramSize.toNat) : Prop :=
  program.buf = none ∨ (min program.len ramSize).toNat ≤ offset.val

/-- Nothing of the past survives: no tracer was ever registered, an
unconfigured core is as good as a configured one, the first program left the
devices and all RAM outside the second program's image as they were allocated,
and the flag the constructor forgets is down if filters look at it. -/
structure NothingSurvives (spike : Spike Core Devices ramSize) (config : Config)
    (sim : ArchSim Core Devices ramSize) (ram : Ram ramSize) (devices : Devices)
    (illegalDevice : Bool) (program : Program) : Prop where
  tracers : config.recordAddresses = false
  core : spike.initCore spike.newCore = spike.newCore
  ram : ∀ offset, program.Leaves offset → sim.ram offset = ram offset
  devices : sim.devices = devices
  flag : config.filtersEnabled = true → illegalDevice = false

/-! ## Without tracers the recorders stay empty -/

structure Untraced (sim : ArchSim Core Devices ramSize) : Prop where
  memtracers : sim.memtracersRegistered = false
  fetchRecorder : sim.fetchRecorder = {}

theorem untraced_onEvent (spike : Spike Core Devices ramSize) (config : Config) :
    Keeps (onEvent spike config) (fun _ _ => True) Untraced := by
  intro sim event next _ untraced happened
  cases event with
  | trace event =>
      cases happened
      simpa [traced, untraced.memtracers] using untraced
  | jump pc newpc targetOffset =>
      obtain ⟨filters, -, same⟩ := bind_ok_iff.mp happened
      cases same
      exact ⟨untraced.memtracers, untraced.fetchRecorder⟩
  | loaded pc addr | stored pc addr | trapped cause mtvec =>
      cases happened
      exact ⟨untraced.memtracers, untraced.fetchRecorder⟩
  | mmioLoad addr len =>
      cases happened
      simp only [mmioLoad]
      split <;> exact ⟨untraced.memtracers, untraced.fetchRecorder⟩
  | mmioStore addr len =>
      cases happened
      simp only [mmioStore]
      split <;> exact ⟨untraced.memtracers, untraced.fetchRecorder⟩

theorem untraced_perform (spike : Spike Core Devices ramSize) (config : Config) :
    Keeps (perform spike config) (fun _ _ => True) Untraced := by
  intro sim command next _ untraced performed
  cases command with
  | setForbiddenRegion region | loadProgram program | getAccessedMem | getExecutedInsts =>
      cases performed
      exact ⟨untraced.memtracers, untraced.fetchRecorder⟩
  | run maxCycles =>
      obtain ⟨⟨ticks, after⟩, ran, same⟩ := bind_ok_iff.mp performed
      cases same
      have keeps := step_keeps (fun _ _ _ _ _ => trivial) (untraced_onEvent spike config)
        fun _ _ _ _ untraced => ⟨untraced.memtracers, untraced.fetchRecorder⟩
      exact runLoop_keeps keeps untraced ran

/-! ## Equal outcomes -/

def SameButFlag (left right : ArchSim Core Devices ramSize) : Prop :=
  ∃ flag, left = { right with illegalDevice := flag }

theorem onEvent_agree (left right : ArchSim Core Devices ramSize) (event : SpikeEvent)
    (same : SameButFlag left right) :
    Agree SameButFlag (onEvent spike config left event) (onEvent spike config right event) := by
  obtain ⟨flag, rfl⟩ := same
  cases event with
  | trace event =>
      refine ⟨flag, ?_⟩
      simp only [traced]
      split <;> rfl
  | jump pc newpc targetOffset =>
      simp only [onEvent]
      cases right.filters.jumpHook pc newpc targetOffset with
      | error fault => rfl
      | ok filters => exact ⟨flag, rfl⟩
  | loaded pc addr | stored pc addr | trapped cause mtvec => exact ⟨flag, rfl⟩
  | mmioLoad addr len => exact ⟨(right.mmioLoad spike config addr len).illegalDevice, rfl⟩
  | mmioStore addr len => exact ⟨(right.mmioStore spike config addr len).illegalDevice, rfl⟩

theorem step_agree (left right : ArchSim Core Devices ramSize) (same : SameButFlag left right) :
    Agree SameButFlag (step spike config left) (step spike config right) := by
  obtain ⟨flag, rfl⟩ := same
  let after := right.effect spike
  have moved : SameButFlag
      { right with core := after.core, ram := after.ram, devices := after.devices, illegalDevice := flag }
      { right with core := after.core, ram := after.ram, devices := after.devices } := ⟨flag, rfl⟩
  exact run_agree (@onEvent_agree _ _ _ spike config) moved after.events

theorem runLoop_agree (unfiltered : config.filtersEnabled = false) (remaining : Nat) (tick : UInt64)
    (left right : ArchSim Core Devices ramSize) (same : SameButFlag left right) :
    Agree (fun l r => l.1 = r.1 ∧ SameButFlag l.2 r.2)
      (runLoop spike config remaining tick left) (runLoop spike config remaining tick right) := by
  induction remaining generalizing tick left right with
  | zero => exact ⟨rfl, same⟩
  | succ remaining ih =>
      apply (step_agree left right same).bind fun l r same => ?_
      have exits : l.earlyExit spike = r.earlyExit spike := by
        obtain ⟨flag, rfl⟩ := same
        rfl
      simp only [exits, unfiltered, Bool.false_and, Bool.false_eq_true, if_false]
      split
      · exact ⟨rfl, same⟩
      · exact ih (tick + 1) l r same

theorem outcome_congr (unfiltered : config.filtersEnabled = false) (round : Round)
    (left right : ArchSim Core Devices ramSize)
    (same : SameButFlag (left.prepare config round) (right.prepare config round)) :
    outcome spike config left round = outcome spike config right round := by
  apply eq_of_agree ((runLoop_agree unfiltered _ 0 _ _ same).bind fun l r related => ?_)
  obtain ⟨ticks, flag, same⟩ := related
  change report config l.1 l.2 = report config r.1 r.2
  rw [ticks, same]
  rfl

theorem foldl_setForbiddenRegion (sim : ArchSim Core Devices ramSize) (regions : List Region) :
    regions.foldl setForbiddenRegion sim = { sim with filters := { sim.filters with
      forbiddenRegions := sim.filters.forbiddenRegions ++ regions } } := by
  induction regions generalizing sim with
  | nil => simp
  | cons region rest ih =>
      rw [List.foldl_cons, ih]
      simp [setForbiddenRegion]

theorem prepare_eq (sim : ArchSim Core Devices ramSize) (round : Round) :
    sim.prepare config round = { sim with
      ram := sim.ram.loadProgram round.program.buf round.program.len
      filters := { sim.filters with
        forbiddenRegions := sim.filters.forbiddenRegions ++ round.forbidden
        codeRegions := round.program.codeRegions
        initEnd := config.ramBase + round.program.initSize } } := by
  rw [prepare, foldl_setForbiddenRegion]
  rfl

theorem loadProgram_eq_iff {left right : Ram ramSize} (program : Program) :
    left.loadProgram program.buf program.len = right.loadProgram program.buf program.len ↔
      ∀ offset, program.Leaves offset → left offset = right offset := by
  rw [funext_iff]
  apply forall_congr' fun offset => ?_
  cases buf : program.buf with
  | none => simp [Ram.loadProgram, Program.Leaves, buf]
  | some bytes =>
      by_cases inside : offset.val < (min program.len ramSize).toNat
      · have copied : ¬ (min program.len ramSize).toNat ≤ offset.val := by omega
        simp [Ram.loadProgram, Program.Leaves, buf, inside, copied]
      · have left' : (min program.len ramSize).toNat ≤ offset.val := by omega
        simp [Ram.loadProgram, Program.Leaves, buf, inside, left']

/-- If nothing survives, the reset simulator and the fresh one differ at most
in the flag the constructor forgets. -/
theorem prepare_reset {ram : Ram ramSize} {devices : Devices} {flag : Bool} {round : Round}
    (untraced : Untraced sim)
    (clean : NothingSurvives spike config sim ram devices flag round.program) :
    (sim.reset spike).prepare config round =
      { (fresh spike config ram devices flag).prepare config round with illegalDevice := false } := by
  have image := (loadProgram_eq_iff round.program).mpr clean.ram
  simp only [prepare_eq, reset, fresh, untraced.fetchRecorder, clean.tracers, clean.core,
    clean.devices, image]
  rfl

theorem outcome_eq_of_nothingSurvives {ram : Ram ramSize} {devices : Devices} {flag : Bool}
    {round : Round} (untraced : Untraced sim)
    (clean : NothingSurvives spike config sim ram devices flag round.program) :
    outcome spike config (sim.reset spike) round =
      outcome spike config (fresh spike config ram devices flag) round := by
  have same := prepare_reset untraced clean
  cases filters : config.filtersEnabled with
  | false => exact outcome_congr filters round _ _ ⟨false, same⟩
  | true =>
      have down : flag = false := clean.flag filters
      subst down
      have equal : (sim.reset spike).prepare config round =
          (fresh spike config ram devices false).prepare config round :=
        same.trans (by simp only [prepare_eq, fresh])
      rw [outcome, outcome, equal]

/-! ## Distinguishing Spikes

A Spike that is built like a given one, but behaves so that whatever survives
shows in the outcome of a single step.
-/

/-- Stops after one step, whose events tell what the step started from. -/
def probe (spike : Spike Core Devices ramSize)
    (events : Core → Ram ramSize → Devices → List SpikeEvent) : Spike Core Devices ramSize :=
  { spike with
    isWaitingForInterrupt := fun _ => true
    maxPaddrBits := 64
    step := fun core ram devices => { core, ram, devices, events := events core ram devices } }

def idle (spike : Spike Core Devices ramSize) : Spike Core Devices ramSize :=
  { spike with
    isWaitingForInterrupt := fun _ => false
    step := fun core ram devices => { core, ram, devices } }

theorem outcome_probe {events : Core → Ram ramSize → Devices → List SpikeEvent} {round : Round}
    (bound : round.maxCycles ≠ 0) :
    outcome (probe spike events) config sim round =
      (step (probe spike events) config (sim.prepare config round)).map (report config 1) := by
  have some : ∃ n, round.maxCycles.toNat = n + 1 := by
    apply Nat.exists_eq_add_one_of_ne_zero fun zero => bound ?_
    exact UInt64.toNat_inj.mp zero
  obtain ⟨n, cycles⟩ := some
  have stops : ∀ sim : ArchSim Core Devices ramSize, sim.earlyExit (probe spike events) = true := by
    simp [earlyExit, probe]
  simp only [outcome, run, cycles, runLoop, stops, if_true]
  cases step (probe spike events) config (sim.prepare config round) <;> rfl

theorem runLoop_idle (quiet : sim.earlyExit (idle spike) = false)
    (kept : (config.filtersEnabled && sim.discard config) = false) (remaining : Nat) (tick : UInt64) :
    runLoop (idle spike) config remaining tick sim = .ok (tick + UInt64.ofNat remaining, sim) := by
  induction remaining generalizing tick with
  | zero => simp [runLoop]
  | succ remaining ih =>
      have stepped : step (idle spike) config sim = .ok sim := rfl
      simp only [runLoop, stepped]
      change (if sim.earlyExit (idle spike) then _ else _) = _
      rw [quiet, kept]
      simp only [Bool.false_eq_true, if_false, ih]
      rw [UInt64.add_assoc, UInt64.add_comm 1, UInt64.ofNat_add]
      rfl

structure Unrecorded (sim : ArchSim Core Devices ramSize) : Prop where
  fetches : sim.fetchRecorder.fetches = ∅
  loads : sim.memRecorder.loads = ∅
  stores : sim.memRecorder.stores = ∅
  mmioLoads : sim.mmioLoads = []
  mmioStores : sim.mmioStores = []

theorem unrecorded_reset (sim : ArchSim Core Devices ramSize) (spike : Spike Core Devices ramSize)
    (config : Config) (round : Round) : Unrecorded ((sim.reset spike).prepare config round) := by
  rw [prepare_eq]
  exact ⟨rfl, rfl, rfl, rfl, rfl⟩

theorem unrecorded_fresh (spike : Spike Core Devices ramSize) (config : Config) (ram : Ram ramSize)
    (devices : Devices) (flag : Bool) (round : Round) :
    Unrecorded ((fresh spike config ram devices flag).prepare config round) := by
  rw [prepare_eq]
  exact ⟨rfl, rfl, rfl, rfl, rfl⟩

theorem report_of_unrecorded (unrecorded : Unrecorded sim) (ticks : UInt64) :
    report config ticks sim = (ticks, ∅, ∅) := by
  simp [report, getAccessedMem, getExecutedInsts, mmioBytes, unrecorded.loads, unrecorded.mmioLoads,
    unrecorded.mmioStores, unrecorded.fetches]

def accessed (result : Except Fault (UInt64 × Finset UInt64 × Finset UInt64)) :
    Except Fault (Finset UInt64) := result.map fun shown => shown.2.1

/-- A load that is traced shows in the outcome exactly if the tracers are
registered. -/
theorem accessed_traceProbe {round : Round} (bound : round.maxCycles ≠ 0)
    (unrecorded : Unrecorded (sim.prepare config round)) :
    accessed (outcome (probe spike fun _ _ _ => [.trace ⟨0, 1, .load⟩]) config sim round) =
      .ok (if sim.memtracersRegistered then {0} else ∅) := by
  rw [outcome_probe bound]
  have registered : (sim.prepare config round).memtracersRegistered = sim.memtracersRegistered := by
    rw [prepare_eq]
  simp only [step, effect, probe, Machine.run, onEvent, traced, registered]
  split
  · simp [accessed, Except.map, report, getAccessedMem, mmioBytes, MemRecorder.trace, TraceEvent.addresses,
      MemRecorder.traceLoad, unrecorded.loads, unrecorded.stores, unrecorded.mmioLoads,
      unrecorded.mmioStores, *]
  · simp [accessed, Except.map, report, getAccessedMem, mmioBytes, unrecorded.loads,
      unrecorded.mmioLoads, unrecorded.mmioStores, *]

theorem accessed_mmioProbe {round : Round} (bound : round.maxCycles ≠ 0)
    (unrecorded : Unrecorded (sim.prepare config round)) (choose : Core → Ram ramSize → Devices → Bool) :
    accessed (outcome (probe spike fun core ram devices =>
        [.mmioLoad (if choose core ram devices then 0 else 1) 1]) config sim round) =
      .ok {if choose sim.core (sim.ram.loadProgram round.program.buf round.program.len) sim.devices
        then 0 else 1} := by
  rw [outcome_probe bound]
  have core : (sim.prepare config round).core = sim.core := by rw [prepare_eq]
  have ram : (sim.prepare config round).ram =
      sim.ram.loadProgram round.program.buf round.program.len := by rw [prepare_eq]
  have devices : (sim.prepare config round).devices = sim.devices := by rw [prepare_eq]
  simp only [step, effect, probe, Machine.run, onEvent, mmioLoad, core, ram, devices]
  cases choose sim.core (sim.ram.loadProgram round.program.buf round.program.len) sim.devices <;>
    simp [accessed, Except.map, report, getAccessedMem, mmioBytes, mmioOk, paddrOk,
      unrecorded.loads, unrecorded.mmioLoads, unrecorded.mmioStores]

theorem bool_eq_of_ite {left right : Bool}
    (same : (if left then (0 : UInt64) else 1) = if right then 0 else 1) : left = right := by
  cases left <;> cases right <;> simp_all

/-- After a reset the flag is down, and an idle Spike runs all its cycles. -/
theorem outcome_idle_reset (untraced : Untraced sim) (round : Round) :
    outcome (idle spike) config (sim.reset (idle spike)) round = .ok (round.maxCycles, ∅, ∅) := by
  have ran := @runLoop_idle _ _ _ spike config ((sim.reset (idle spike)).prepare config round)
    (by simp [earlyExit, prepare_eq, reset, idle, untraced.fetchRecorder, FetchRecorder.reset])
    (by simp [discard, prepare_eq, reset]) round.maxCycles.toNat 0
  simp only [UInt64.zero_add, UInt64.ofNat_toNat] at ran
  rw [outcome, run, ran, ← report_of_unrecorded (unrecorded_reset sim (idle spike) config round)]
  rfl

/-- With the flag up from the start an idle Spike is discarded at once. -/
theorem outcome_idle_fresh {ram : Ram ramSize} {devices : Devices} {round : Round}
    (bound : round.maxCycles ≠ 0) (filters : config.filtersEnabled = true) :
    outcome (idle spike) config (fresh (idle spike) config ram devices true) round =
      .ok (0, ∅, ∅) := by
  obtain ⟨n, cycles⟩ : ∃ n, round.maxCycles.toNat = n + 1 :=
    Nat.exists_eq_add_one_of_ne_zero fun zero => bound (UInt64.toNat_inj.mp zero)
  have stepped : step (idle spike) config
      ((fresh (idle spike) config ram devices true).prepare config round) =
        .ok ((fresh (idle spike) config ram devices true).prepare config round) := rfl
  have stays : ((fresh (idle spike) config ram devices true).prepare config round).earlyExit
      (idle spike) = false := by
    simp [earlyExit, prepare_eq, fresh, idle]
  have discarded : ((fresh (idle spike) config ram devices true).prepare config round).discard
      config = true := by
    simp [discard, prepare_eq, fresh]
  rw [outcome, run, cycles, runLoop, stepped,
    ← report_of_unrecorded (unrecorded_fresh (idle spike) config ram devices true round)]
  change ((if earlyExit _ _ = true then _ else _ : Except Fault _) >>= _) = _
  rw [stays, discarded, filters]
  rfl

/-- Equal outcomes for every Spike that is built alike leave no room for
anything to survive. -/
theorem nothingSurvives_of_outcome_eq {ram : Ram ramSize} {devices : Devices} {flag : Bool}
    {round : Round} (bound : round.maxCycles ≠ 0)
    (untraced : config.recordAddresses = false → Untraced sim)
    (equal : ∀ other : Spike Core Devices ramSize, other.newCore = spike.newCore →
      other.initCore = spike.initCore →
        outcome other config (sim.reset other) round =
          outcome other config (fresh other config ram devices flag) round) :
    NothingSurvives spike config sim ram devices flag round.program := by
  have tracers : config.recordAddresses = false := by
    have traced := congrArg accessed (equal (probe spike fun _ _ _ => [.trace ⟨0, 1, .load⟩]) rfl rfl)
    rw [accessed_traceProbe bound (unrecorded_reset ..),
      accessed_traceProbe bound (unrecorded_fresh ..)] at traced
    by_contra recording
    have recording : config.recordAddresses = true := by simpa using recording
    simp [reset, fresh, recording] at traced
  have start : ∀ choose : Core → Ram ramSize → Devices → Bool,
      choose spike.newCore (sim.ram.loadProgram round.program.buf round.program.len) sim.devices =
        choose (spike.initCore spike.newCore)
          (ram.loadProgram round.program.buf round.program.len) devices := by
    intro choose
    have chosen := congrArg accessed (equal (probe spike fun core ram devices =>
      [.mmioLoad (if choose core ram devices then 0 else 1) 1]) rfl rfl)
    rw [accessed_mmioProbe bound (unrecorded_reset ..) choose,
      accessed_mmioProbe bound (unrecorded_fresh ..) choose] at chosen
    simp only [reset, fresh, probe, Except.ok.injEq, Finset.singleton_inj] at chosen
    exact bool_eq_of_ite chosen
  classical
  have sameCore := start fun core _ _ => decide (core = spike.initCore spike.newCore)
  have sameRam := start fun _ image _ =>
    decide (image = ram.loadProgram round.program.buf round.program.len)
  have sameDevices := start fun _ _ found => decide (found = devices)
  simp only [decide_true, decide_eq_true_eq] at sameCore sameRam sameDevices
  refine ⟨tracers, sameCore.symm, (loadProgram_eq_iff round.program).mp sameRam, sameDevices, ?_⟩
  intro filters
  by_contra raised
  have raised : flag = true := by simpa using raised
  have lasted := equal (idle spike) rfl rfl
  rw [raised, outcome_idle_reset (untraced tracers), outcome_idle_fresh bound filters] at lasted
  have ticks : round.maxCycles = 0 := by simpa using lasted
  exact bound ticks

theorem outcome_reset_of_untraced {ram : Ram ramSize} {devices : Devices} {flag : Bool} {round : Round}
    (untraced : config.recordAddresses = false → Untraced sim)
    (condition : round.maxCycles = 0 ∨ NothingSurvives spike config sim ram devices flag round.program) :
    outcome spike config (sim.reset spike) round =
      outcome spike config (fresh spike config ram devices flag) round := by
  rcases condition with bound | clean
  · have still : ∀ start : ArchSim Core Devices ramSize, Unrecorded (start.prepare config round) →
        outcome spike config start round = .ok (0, ∅, ∅) := by
      intro start unrecorded
      rw [outcome, run, bound]
      change Except.ok _ = _
      rw [report_of_unrecorded unrecorded]
    rw [still _ (unrecorded_reset ..), still _ (unrecorded_fresh ..)]
  · exact outcome_eq_of_nothingSurvives (untraced clean.tracers) clean

theorem untraced_of_run {ram : Ram ramSize} {devices : Devices} {flag : Bool} {history : List Command}
    (used : Machine.run (perform spike config) (fresh spike config ram devices flag) history = .ok sim)
    (recording : config.recordAddresses = false) : Untraced sim :=
  (untraced_perform spike config).run (along_of_forall _ (fun _ _ => trivial) _) ⟨recording, rfl⟩ used

/-- The condition is enough for the one Spike that has run. -/
theorem outcome_reset {ram : Ram ramSize} {devices : Devices} {flag flag' : Bool} {history : List Command}
    {round : Round}
    (used : Machine.run (perform spike config) (fresh spike config ram devices flag) history = .ok sim)
    (condition : round.maxCycles = 0 ∨ NothingSurvives spike config sim ram devices flag' round.program) :
    outcome spike config (sim.reset spike) round =
      outcome spike config (fresh spike config ram devices flag') round :=
  outcome_reset_of_untraced (untraced_of_run used) condition

/-- After any use of a simulator, a reset is a full reset for every Spike with
this constructor and this `initProc` exactly when nothing survives, or no cycle
is run.  A single Spike may end alike for want of looking: one that never
loads does not miss the tracers. -/
theorem reset_full_iff (spike : Spike Core Devices ramSize) (config : Config) (ram : Ram ramSize)
    (devices : Devices) (flag flag' : Bool) (history : List Command)
    (sim : ArchSim Core Devices ramSize)
    (used : Machine.run (perform spike config) (fresh spike config ram devices flag) history = .ok sim)
    (round : Round) :
    (∀ other : Spike Core Devices ramSize, other.newCore = spike.newCore →
      other.initCore = spike.initCore →
        outcome other config (sim.reset other) round =
          outcome other config (fresh other config ram devices flag') round) ↔
      round.maxCycles = 0 ∨ NothingSurvives spike config sim ram devices flag' round.program := by
  constructor
  · intro equal
    by_cases bound : round.maxCycles = 0
    · exact .inl bound
    · exact .inr (nothingSurvives_of_outcome_eq bound (untraced_of_run used) equal)
  · intro condition other sameCore sameInit
    apply outcome_reset_of_untraced (untraced_of_run used) (condition.imp_right fun clean => ?_)
    exact ⟨clean.tracers, by rw [sameCore, sameInit]; exact clean.core, clean.ram, clean.devices, clean.flag⟩

/-- By its pc: from the boot ROM to an instruction that loads. -/
def fetchAndLoad : Spike UInt64 Unit 64 where
  newCore := 0x10000
  initCore := id
  isWaitingForInterrupt := fun _ => false
  findDevice := fun _ => true
  maxPaddrBits := 56
  step := fun pc ram devices =>
    if pc = 0x10000 then { core := 0x80000000, ram, devices, events := SpikeEvent.boot }
    else {
      core := 0x80000004
      ram
      devices
      events := [.trace ⟨0x80000000, 4, .fetch⟩, .trace ⟨0x80000008, 8, .load⟩,
        .loaded 0x80000000 0x80000008] }

def recording : Config where
  ramBase := 0x80000000
  recordAddresses := true
  filtersEnabled := true
  discardIllegalJumps := true

def twoCycles : Round where
  forbidden := []
  program := { buf := none, len := 0, codeRegions := [(0x80000000, 0x80000040)], initSize := 0 }
  maxCycles := 2

def oneRun : List Command := [.loadProgram twoCycles.program, .run 2]

def notRecording : Config := { recording with recordAddresses := false }

theorem reset_full_iff_notRecording :
    ∃ sim, Machine.run (perform fetchAndLoad notRecording)
        (fresh fetchAndLoad notRecording (fun _ => 0) () false) oneRun = .ok sim ∧
      outcome fetchAndLoad notRecording (sim.reset fetchAndLoad) twoCycles =
        outcome fetchAndLoad notRecording (fresh fetchAndLoad notRecording (fun _ => 0) () false)
          twoCycles := by
  refine ⟨_, rfl, ?_⟩
  exact (reset_full_iff fetchAndLoad notRecording (fun _ => 0) () false false oneRun _ rfl twoCycles).mpr
    (.inr ⟨rfl, rfl, fun _ _ => rfl, rfl, fun _ => rfl⟩) fetchAndLoad rfl rfl

/-- Run, reset, run again: the second time the fetch from the ROM is listed,
but nothing of the RAM. -/
theorem reset_loses_tracers :
    ∃ sim, Machine.run (perform fetchAndLoad recording)
        (fresh fetchAndLoad recording (fun _ => 0) () false) oneRun = .ok sim ∧
      outcome fetchAndLoad recording (sim.reset fetchAndLoad) twoCycles ≠
        outcome fetchAndLoad recording (fresh fetchAndLoad recording (fun _ => 0) () false) twoCycles := by
  obtain ⟨sim, ran, ⟨second, again, -, unlisted, -⟩, first, ended, listed, -⟩ : ∃ sim,
      Machine.run (perform fetchAndLoad recording)
          (fresh fetchAndLoad recording (fun _ => 0) () false) oneRun = .ok sim ∧
        (∃ second, outcome fetchAndLoad recording (sim.reset fetchAndLoad) twoCycles = .ok second ∧
          0x10000 ∈ second.2.1 ∧ 0x80000008 ∉ second.2.1 ∧ second.2.2 = ∅) ∧
        ∃ first, outcome fetchAndLoad recording (fresh fetchAndLoad recording (fun _ => 0) () false)
            twoCycles = .ok first ∧ 0x80000008 ∈ first.2.1 ∧ 0x80000000 ∈ first.2.2 :=
    ⟨_, rfl, ⟨_, rfl, by decide, by decide, rfl⟩, ⟨_, rfl, by decide, by decide⟩⟩
  refine ⟨sim, ran, fun same => ?_⟩
  rw [same, ended] at again
  cases again
  exact unlisted listed

end PhantomTrails.ArchSim
