import Mathlib.Data.Finset.Sort
import Mathlib.Data.Finset.Union
import PhantomTrails.Foundation.Run
import PhantomTrails.ArchSim.Filters
import PhantomTrails.ArchSim.Mem

namespace PhantomTrails

open Foundation

/-! # The architectural simulator

`ArchSim.h` and `SpikeWrapper.cpp`, around Spike.  Spike itself is a
parameter: what a step does to the core, the RAM and the devices, and which
hooks, tracers and MMIO callbacks it calls on the way.
-/

/-- A call out of a Spike step.  MMIO sizes stay below 256: the byte loop of
`getAccessedMem` counts in a `uint8_t`. -/
inductive SpikeEvent where
  | trace (event : TraceEvent)
  | jump (pc newpc targetOffset : UInt64)
  | loaded (pc addr : UInt64)
  | stored (pc addr : UInt64)
  | trapped (cause mtvec : UInt64)
  | mmioLoad (addr : UInt64) (len : Fin 256)
  | mmioStore (addr : UInt64) (len : Fin 256)
deriving DecidableEq, Repr

/-- The size in which instructions are fetched over MMIO. -/
def SpikeEvent.parcel : Fin 256 := ⟨2, by decide⟩

/-- A step at `ROM_ADDR`, where the constructor and `reset` start the processor.
The boot ROM is not RAM, so the instruction is fetched as two parcels over
MMIO; this one jumps to the DRAM. -/
def SpikeEvent.boot : List SpikeEvent :=
  [.mmioLoad 0x10000 parcel, .mmioLoad 0x10002 parcel, .trace ⟨0x10000, 4, .fetch⟩,
    .jump 0x10000 0x80000000 0]

structure Spike.Effect (Core Devices : Type) (ramSize : UInt64) where
  core : Core
  ram : Ram ramSize
  devices : Devices
  events : List SpikeEvent := []

/-- What the wrapper uses of Spike.  `initCore` is the configuration
`initProc` performs: physical memory protection, the MMU capability, and the
debug switches. -/
structure Spike (Core Devices : Type) (ramSize : UInt64) where
  newCore : Core
  initCore : Core → Core
  isWaitingForInterrupt : Core → Bool
  findDevice : UInt64 → Bool
  maxPaddrBits : Nat
  step : Core → Ram ramSize → Devices → Spike.Effect Core Devices ramSize

/-- The constructor's arguments that outlive it.  `verbose` only adds prints. -/
structure ArchSim.Config where
  ramBase : UInt64
  recordAddresses : Bool
  filtersEnabled : Bool
  discardIllegalJumps : Bool

/-- The members of `ArchSim` and of the `processor_t` it owns.  The `harts`
map, which keeps pointing at a deleted processor after a reset, is left out:
it is only handed to Spike. -/
structure ArchSim (Core Devices : Type) (ramSize : UInt64) where
  core : Core
  filters : Filters := {}
  memtracersRegistered : Bool
  ram : Ram ramSize
  devices : Devices
  fetchRecorder : FetchRecorder := {}
  memRecorder : MemRecorder := {}
  mmioLoads : List (UInt64 × Fin 256) := []
  mmioStores : List (UInt64 × Fin 256) := []
  illegalDevice : Bool

namespace ArchSim

variable {Core Devices : Type} {ramSize : UInt64}

/-- A newly constructed simulator.  `malloc` gives the RAM and the devices
their contents, and the constructor leaves `illegalDevice` as it finds it. -/
def fresh (spike : Spike Core Devices ramSize) (config : Config) (ram : Ram ramSize)
    (devices : Devices) (illegalDevice : Bool) : ArchSim Core Devices ramSize where
  core := spike.initCore spike.newCore
  memtracersRegistered := config.recordAddresses
  ram := ram
  devices := devices
  illegalDevice := illegalDevice

/-- `ArchSim::reset`.  The new processor is not passed through `initProc`; the
contents of the RAM and the devices stay, and so do the counters of the fetch
recorder. -/
def reset (sim : ArchSim Core Devices ramSize) (spike : Spike Core Devices ramSize) :
    ArchSim Core Devices ramSize :=
  { sim with
    core := spike.newCore
    filters := {}
    memtracersRegistered := false
    fetchRecorder := sim.fetchRecorder.reset
    memRecorder := sim.memRecorder.reset
    mmioLoads := []
    mmioStores := []
    illegalDevice := false }

/-! ## Program loader -/

structure Program where
  buf : Option (Nat → UInt8)
  len : UInt64
  codeRegions : List Region
  initSize : UInt64

def loadProgram (sim : ArchSim Core Devices ramSize) (config : Config) (program : Program) :
    ArchSim Core Devices ramSize :=
  { sim with
    ram := sim.ram.loadProgram program.buf program.len
    filters := { sim.filters with
      codeRegions := program.codeRegions
      initEnd := config.ramBase + program.initSize } }

def setForbiddenRegion (sim : ArchSim Core Devices ramSize) (region : Region) :
    ArchSim Core Devices ramSize :=
  { sim with filters := { sim.filters with
      forbiddenRegions := sim.filters.forbiddenRegions ++ [region] } }

/-! ## Callbacks -/

def allowedDevices (config : Config) (ramSize : UInt64) : List (UInt64 × UInt64) :=
  [(0x4000, 4096), (0x10000, 4096), (config.ramBase, ramSize)]

def isAllowedDevice (spike : Spike Core Devices ramSize) (config : Config) (addr : UInt64)
    (len : Fin 256) : Bool :=
  !spike.findDevice addr || (allowedDevices config ramSize).any fun device =>
    decide (addr ≥ device.1) &&
      decide (addr + UInt64.ofNat len.val < device.1 + device.2)

def paddrOk (spike : Spike Core Devices ramSize) (addr : UInt64) : Bool :=
  decide (addr.toNat / 2 ^ spike.maxPaddrBits = 0)

def mmioOk (spike : Spike Core Devices ramSize) (addr : UInt64) (len : Fin 256) : Bool :=
  let size := UInt64.ofNat len.val
  !(decide (addr + size < addr) || !paddrOk spike (addr + size - 1))

def mmioLoad (sim : ArchSim Core Devices ramSize) (spike : Spike Core Devices ramSize)
    (config : Config) (addr : UInt64) (len : Fin 256) : ArchSim Core Devices ramSize :=
  let sim := { sim with illegalDevice := !isAllowedDevice spike config addr len }
  if mmioOk spike addr len then { sim with mmioLoads := sim.mmioLoads ++ [(addr, len)] } else sim

def mmioStore (sim : ArchSim Core Devices ramSize) (spike : Spike Core Devices ramSize)
    (config : Config) (addr : UInt64) (len : Fin 256) : ArchSim Core Devices ramSize :=
  let sim := { sim with illegalDevice := !isAllowedDevice spike config addr len }
  if mmioOk spike addr len then { sim with mmioStores := sim.mmioStores ++ [(addr, len)] } else sim

def traced (sim : ArchSim Core Devices ramSize) (event : TraceEvent) : ArchSim Core Devices ramSize :=
  if sim.memtracersRegistered then
    { sim with
      fetchRecorder := sim.fetchRecorder.trace event
      memRecorder := sim.memRecorder.trace event }
  else sim

def onEvent (spike : Spike Core Devices ramSize) (config : Config) :
    Machine (ArchSim Core Devices ramSize) SpikeEvent Fault := fun sim happening =>
  match happening with
  | .trace event => .ok (sim.traced event)
  | .jump pc newpc targetOffset => do
      let filters ← sim.filters.jumpHook pc newpc targetOffset
      pure { sim with filters }
  | .loaded pc addr => .ok { sim with filters := sim.filters.loadHook pc addr }
  | .stored pc addr => .ok { sim with filters := sim.filters.storeHook pc addr }
  | .trapped cause mtvec => .ok { sim with filters := sim.filters.trapHook cause mtvec }
  | .mmioLoad addr len => .ok (sim.mmioLoad spike config addr len)
  | .mmioStore addr len => .ok (sim.mmioStore spike config addr len)

/-! ## Execution -/

def effect (sim : ArchSim Core Devices ramSize) (spike : Spike Core Devices ramSize) :
    Spike.Effect Core Devices ramSize :=
  spike.step sim.core sim.ram sim.devices

def step (spike : Spike Core Devices ramSize) (config : Config) (sim : ArchSim Core Devices ramSize) :
    Except Fault (ArchSim Core Devices ramSize) :=
  let effect := sim.effect spike
  Machine.run (onEvent spike config)
    { sim with core := effect.core, ram := effect.ram, devices := effect.devices } effect.events

def Raises (spike : Spike Core Devices ramSize) (legal : SpikeEvent → Prop) : Prop :=
  ∀ core ram devices, ∀ event ∈ (spike.step core ram devices).events, legal event

/-- An invariant of the events that does not mention Spike's own state is
kept by a step. -/
theorem step_keeps {spike : Spike Core Devices ramSize} {config : Config}
    {legal : SpikeEvent → Prop} {invariant : ArchSim Core Devices ramSize → Prop}
    (raises : Raises spike legal)
    (keeps : Machine.Keeps (onEvent spike config) (fun _ event => legal event) invariant)
    (moved : ∀ sim core ram devices, invariant sim →
      invariant { sim with core := core, ram := ram, devices := devices })
    (before after : ArchSim Core Devices ramSize) (start : invariant before)
    (stepped : step spike config before = .ok after) : invariant after := by
  have happened : Machine.run (onEvent spike config) _ (before.effect spike).events = .ok after := stepped
  exact keeps.run (Machine.along_of_forall _ (raises _ _ _) _) (moved before _ _ _ start) happened

def earlyExit (sim : ArchSim Core Devices ramSize) (spike : Spike Core Devices ramSize) : Bool :=
  sim.filters.illegalInst || sim.filters.unhandledTrap ||
    spike.isWaitingForInterrupt sim.core || sim.fetchRecorder.stuck

def discard (sim : ArchSim Core Devices ramSize) (config : Config) : Bool :=
  sim.filters.illegalJump && config.discardIllegalJumps || sim.filters.selfModifying ||
    sim.illegalDevice || sim.filters.accessedForbiddenRegion

/-- The loop of `run`, by recursion on the cycles that remain. -/
def runLoop (spike : Spike Core Devices ramSize) (config : Config) :
    (remaining : Nat) → (tick : UInt64) → ArchSim Core Devices ramSize →
      Except Fault (UInt64 × ArchSim Core Devices ramSize)
  | 0, tick, sim => .ok (tick, sim)
  | remaining + 1, tick, sim => do
      let sim ← sim.step spike config
      if sim.earlyExit spike then pure (tick + 1, sim)
      else if config.filtersEnabled && sim.discard config then pure (0, sim)
      else runLoop spike config remaining (tick + 1) sim

def run (spike : Spike Core Devices ramSize) (config : Config) (sim : ArchSim Core Devices ramSize)
    (maxCycles : UInt64) : Except Fault (UInt64 × ArchSim Core Devices ramSize) :=
  runLoop spike config maxCycles.toNat 0 sim

theorem runLoop_keeps {spike : Spike Core Devices ramSize} {config : Config}
    {invariant : ArchSim Core Devices ramSize → Prop}
    (keeps : ∀ before after, invariant before → step spike config before = .ok after → invariant after)
    {remaining : Nat} {tick ticks : UInt64} {sim final : ArchSim Core Devices ramSize}
    (start : invariant sim) (ran : runLoop spike config remaining tick sim = .ok (ticks, final)) :
    invariant final := by
  induction remaining generalizing tick sim with
  | zero =>
      cases ran
      exact start
  | succ remaining ih =>
      obtain ⟨next, stepped, ran⟩ := bind_ok_iff.mp ran
      have kept := keeps sim next start stepped
      split at ran
      · cases ran
        exact kept
      · split at ran
        · cases ran
          exact kept
        · exact ih kept ran

/-! ## Memory inspection -/

def mmioBytes (accesses : List (UInt64 × Fin 256)) : List UInt64 :=
  accesses.flatMap fun access => (List.range access.2.val).map fun i => access.1 + UInt64.ofNat i

/-- Get all memory addresses accessed by the simulation.  `merge` moves the
recorded loads out of the recorder. -/
def getAccessedMem (sim : ArchSim Core Devices ramSize) :
    Finset UInt64 × ArchSim Core Devices ramSize :=
  let addresses := (mmioBytes sim.mmioLoads ++ mmioBytes sim.mmioStores).foldl
    (fun addresses addr => insert addr addresses) sim.memRecorder.loads
  (addresses, { sim with memRecorder := { sim.memRecorder with loads := ∅ } })

def getExecutedInsts (sim : ArchSim Core Devices ramSize) (config : Config) : Finset UInt64 :=
  sim.fetchRecorder.fetches.filter fun addr =>
    ¬ (addr < config.ramBase ∨ addr ≥ config.ramBase + ramSize)

/-! ## The C interface -/

structure SimResult where
  addrs : List UInt64 := []
  insts : List UInt64 := []
  numRetired : UInt64 := 0

def runSpikeSim (spike : Spike Core Devices ramSize) (config : Config)
    (sim : ArchSim Core Devices ramSize) (program : Program) (maxCycles : UInt64) :
    Except Fault (SimResult × ArchSim Core Devices ramSize) := do
  let (ticks, sim) ← (sim.loadProgram config program).run spike config maxCycles
  if ticks = 0 then pure ({}, sim)
  else
    let (addrs, sim) := sim.getAccessedMem
    pure ({ addrs := addrs.sort (· ≤ ·)
            insts := (sim.getExecutedInsts config).sort (· ≤ ·)
            numRetired := ticks }, sim)

/-- The result without the simulator. -/
def resultOf (config : Config) (ticks : UInt64) (final : ArchSim Core Devices ramSize) : SimResult :=
  if ticks = 0 then {}
  else
    { addrs := final.getAccessedMem.1.sort (· ≤ ·)
      insts := (final.getAccessedMem.2.getExecutedInsts config).sort (· ≤ ·)
      numRetired := ticks }

end ArchSim

end PhantomTrails
