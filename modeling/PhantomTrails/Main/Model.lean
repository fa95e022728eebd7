import PhantomTrails.Detection.Record
import PhantomTrails.Simulator.Bus

namespace PhantomTrails

open Foundation

/-! # The rounds of `main`

One turn of the outer loop of `main.cc` is a round: warm-up, loading, the
architectural run, the detection loop, the verdict.  What the simulated core
and the sanitizer do is an input.
-/

/-- `mdsInit` stands for `args.mds && args.mdsInitPath`. -/
structure MainArgs extends Simulator.Args where
  mds : Bool
  mdsOnly : mdsInit.isSome = true → mds = true

/-- The members of `Simulator` that a round uses, with the architectural
simulator. -/
structure MainState (Core Devices : Type) (ramSize : UInt64) (idBits : Nat) where
  bus : Simulator.OnBus idBits
  counters : Counters
  archSim : ArchSim Core Devices ramSize

/-- What the core does in a round: its DRAM ports at the edges of the warm-up,
what it shows behind the warm-up, and what each later edge brings and shows.
`uninitialised` is the `flushInfo` of the new crash record. -/
structure RoundBehaviour (addrBits idBits : Nat) where
  warmup : Nat → FakeDRAM.Edge addrBits idBits
  top : Top
  uninitialised : FlushInfo
  cycles : List (FakeDRAM.Edge addrBits idBits × Top)

/-- What a round and its environment take for given. -/
structure Host (Core Devices : Type) (ramSize : UInt64) (addrBits idBits : Nat) where
  spike : Spike Core Devices ramSize
  copy : LabelCopy
  track : Simulator.LabelTrack addrBits idBits

/-- How a turn ends: the two early `return`s, or the verdict of a crash record.
A round whose observations end before the loop does is still `running`. -/
inductive RoundEnd (Core Devices : Type) (ramSize : UInt64) (idBits : Nat) where
  | discarded
  | illegalInstruction
  | running
  | finished (crash : CrashInfo) (after : MainState Core Devices ramSize idBits)

variable {Core Devices : Type} {ramSize : UInt64} {addrBits idBits : Nat}

/-- `Simulator::doWarmup` holds the reset high for a hundred edges. -/
def Simulator.OnBus.doWarmup (track : Simulator.LabelTrack addrBits idBits)
    (bus : Simulator.OnBus idBits) (warmup : Nat → FakeDRAM.Edge addrBits idBits) :
    Except Fault (Simulator.OnBus idBits) :=
  Machine.run (Simulator.OnBus.posedge track) bus
    ((List.range 100).map fun i => { warmup i with reset := true })

/-- `Simulator::reset`. -/
def Simulator.reset (sim : Simulator) : Simulator := { sim with initSize := 0 }

def Counters.reset (sim : Counters) : Counters :=
  { sim with ticks := 0, retired := 0, last_retired := 0, retired_pcs := ∅ }

def MainState.reset (spike : Spike Core Devices ramSize)
    (state : MainState Core Devices ramSize idBits) : MainState Core Devices ramSize idBits where
  bus := { state.bus with sim := state.bus.sim.reset }
  counters := state.counters.reset
  archSim := state.archSim.reset spike

/-- A turn of the detection loop, with the clock edge its `step` makes. -/
def roundCycle (track : Simulator.LabelTrack addrBits idBits) (numRetired : UInt64) :
    Machine (Simulator.OnBus idBits × LoopState) (FakeDRAM.Edge addrBits idBits × Top)
      (Fault ⊕ LoopExit × Simulator.OnBus idBits × LoopState) := fun (bus, loop) (edge, top) =>
  if loop.isRunning numRetired then
    match bus.posedge track edge with
    | .error fault => .error (.inl fault)
    | .ok bus =>
        match detectionCycle numRetired loop top with
        | .ok loop => .ok (bus, loop)
        | .error (exit, loop) => .error (.inr (exit, bus, loop))
  else .error (.inr (.condition, bus, loop))

namespace MainState

/-- The detection loop of a round that was not discarded. -/
def detect (track : Simulator.LabelTrack addrBits idBits) (bus : Simulator.OnBus idBits)
    (counters : Counters) (round : Simulator.Round Core Devices ramSize)
    (behaviour : RoundBehaviour addrBits idBits) :
    Except Fault (RoundEnd Core Devices ramSize idBits) :=
  match Machine.run (roundCycle track round.result.numRetired)
      (bus, .start behaviour.top counters behaviour.uninitialised) behaviour.cycles with
  | .ok _ => .ok .running
  | .error (.inl fault) => .error fault
  | .error (.inr (exit, bus, loop)) =>
      if exit = .illegalInstruction then .ok .illegalInstruction
      else .ok (.finished loop.crash { bus, counters := loop.sim, archSim := round.archSim })

/-- A round up to its detection loop; `none` if the program was discarded. -/
def prepare (host : Host Core Devices ramSize addrBits idBits) (args : MainArgs) (source : TaintSource)
    (state : MainState Core Devices ramSize idBits) (behaviour : RoundBehaviour addrBits idBits) :
    Except Fault (Option (Simulator.OnBus idBits × Simulator.Round Core Devices ramSize)) := do
  -- Go to initial state.
  let bus ← state.bus.doWarmup host.track behaviour.warmup
  let (codeSize, sim) ← Simulator.loadRound host.copy args.toArgs bus.sim
  let archSim := Simulator.prepareArchSim args.toArgs state.archSim
  let round ← sim.taintRound host.spike source args.toArgs archSim codeSize
  pure (round.map fun round => ({ bus with sim := round.sim }, round))

def round (host : Host Core Devices ramSize addrBits idBits) (args : MainArgs) (source : TaintSource)
    (state : MainState Core Devices ramSize idBits) (behaviour : RoundBehaviour addrBits idBits) :
    Except Fault (RoundEnd Core Devices ramSize idBits) := do
  match ← state.prepare host args source behaviour with
  | none => pure .discarded
  | some (bus, round) => detect host.track bus state.counters round behaviour

end MainState

/-! ## The outer loop -/

/-- How the process ends.  An issue is reported by a call that does not
return. -/
inductive MainExit where
  | returned
  | reported (reason : String)
  | running
  | fault (fault : Fault)

/-- Since we have only one color, we need two rounds to detect MDS. -/
def getNextTaintSource : TaintSource → TaintSource
  | .all => .storeBuffer
  | _ => .unknown

/-- `reason.rfind("Meltdown_", 0) == 0`. -/
def isMeltdown (reason : String) : Bool := "Meltdown_".toList.isPrefixOf reason.toList

/-- The verdict on a finished round: the process ends, or another round
follows. -/
def verdict (spike : Spike Core Devices ramSize) (args : MainArgs) (source : TaintSource)
    (crash : CrashInfo) (after : MainState Core Devices ramSize idBits) :
    Except MainExit (TaintSource × MainState Core Devices ramSize idBits) :=
  -- Crash if sinks were tainted at any point of the execution.
  if crash.taintFound then
    match crash.classify after.bus.sim.memory after.counters.retired_pcs source with
    | .error fault => .error (.fault fault)
    | .ok crash =>
        if args.mds ∧ isMeltdown crash.reason ∧ getNextTaintSource source ≠ .unknown then
          .ok (getNextTaintSource source, after.reset spike)
        else .error (.reported crash.reason)
  else .error .returned

def mainStep (host : Host Core Devices ramSize addrBits idBits) (args : MainArgs) :
    Machine (TaintSource × MainState Core Devices ramSize idBits) (RoundBehaviour addrBits idBits)
      MainExit := fun (source, state) behaviour =>
  if source = .unknown then .error .returned
  else
    match state.round host args source behaviour with
    | .error fault => .error (.fault fault)
    | .ok .discarded | .ok .illegalInstruction => .error .returned
    | .ok .running => .error .running
    | .ok (.finished crash after) => verdict host.spike args source crash after

/-! ## What a warm-up does -/

section WarmUp

variable {edge : FakeDRAM.Edge addrBits idBits}

theorem posedge_under_reset (track : Simulator.LabelTrack addrBits idBits)
    (bus : Simulator.OnBus idBits) (reset : edge.reset = true) :
    ∃ labels, bus.posedge track edge =
      .ok { sim := { bus.sim with labels }, regs := bus.regs.clear } := by
  have clears : FakeDRAM.posedge ⟨bus.sim.memory, bus.regs⟩ edge =
      .ok ⟨bus.sim.memory, bus.regs.clear⟩ := if_pos reset
  simp only [Simulator.OnBus.posedge, clears]
  exact ⟨_, rfl⟩

theorem run_under_reset (track : Simulator.LabelTrack addrBits idBits)
    (bus : Simulator.OnBus idBits) {edges : List (FakeDRAM.Edge addrBits idBits)}
    (reset : ∀ edge ∈ edges, edge.reset = true) :
    ∃ labels regs, Machine.run (Simulator.OnBus.posedge track) bus edges =
        .ok { sim := { bus.sim with labels }, regs } ∧
      (edges ≠ [] → FakeDRAM.Quiet regs) := by
  induction edges generalizing bus with
  | nil => exact ⟨bus.sim.labels, bus.regs, rfl, fun none => absurd rfl none⟩
  | cons edge rest ih =>
      obtain ⟨now, later⟩ := List.forall_mem_cons.mp reset
      obtain ⟨first, moved⟩ := posedge_under_reset track bus now
      obtain ⟨labels, regs, reached, quiet⟩ := ih ⟨{ bus.sim with labels := first }, bus.regs.clear⟩ later
      refine ⟨labels, regs, (Machine.run_cons_of_ok moved).trans reached, fun _ => ?_⟩
      cases rest with
      | nil =>
          cases reached
          exact FakeDRAM.Quiet.clear bus.regs
      | cons second others => exact quiet (List.cons_ne_nil _ _)

/-- The warm-up quiets the ports and does not reach the memory. -/
theorem doWarmup_ok (track : Simulator.LabelTrack addrBits idBits) (bus : Simulator.OnBus idBits)
    (warmup : Nat → FakeDRAM.Edge addrBits idBits) :
    ∃ labels regs, bus.doWarmup track warmup = .ok { sim := { bus.sim with labels }, regs } ∧
      FakeDRAM.Quiet regs := by
  have reset : ∀ edge ∈ (List.range 100).map fun i => { warmup i with reset := true },
      edge.reset = true := by
    intro edge member
    obtain ⟨i, -, rfl⟩ := List.mem_map.mp member
    rfl
  obtain ⟨labels, regs, warmed, quiet⟩ := run_under_reset track bus reset
  exact ⟨labels, regs, warmed, quiet (by simp [List.range_succ])⟩

/-- A sanitizer that does not move labels at an edge. -/
theorem doWarmup_keepLabels (bus : Simulator.OnBus 5) (warmup : Nat → FakeDRAM.Edge 32 5) :
    ∃ regs, bus.doWarmup Simulator.keepLabels warmup = .ok ⟨bus.sim, regs⟩ := by
  obtain ⟨labels, regs, warmed, -⟩ := doWarmup_ok Simulator.keepLabels bus warmup
  have keeps : Machine.Keeps (Simulator.OnBus.posedge Simulator.keepLabels) (fun _ _ => True)
      (fun next => next.sim.labels = bus.sim.labels) := by
    intro state edge next _ before moved
    obtain ⟨dram, -, same⟩ := bind_ok_iff.mp moved
    cases same
    exact before
  have same : labels = bus.sim.labels :=
    keeps.run (Machine.along_of_forall _ (fun _ _ => trivial) _) rfl warmed
  subst same
  exact ⟨regs, warmed⟩

end WarmUp

/-! ## What a finished round has done -/

variable {host : Host Core Devices ramSize addrBits idBits} {args : MainArgs} {source : TaintSource}
  {state : MainState Core Devices ramSize idBits} {behaviour : RoundBehaviour addrBits idBits}

/-- The architectural run moves labels only. -/
theorem taintRound_sim {sim : Simulator} {archSim : ArchSim Core Devices ramSize}
    {codeSize : UInt64} {round : Simulator.Round Core Devices ramSize}
    (ran : sim.taintRound host.spike source args.toArgs archSim codeSize = .ok (some round)) :
    ∃ labels, round.sim = { sim with labels } := by
  obtain ⟨⟨result, final⟩, -, ran⟩ := bind_ok_iff.mp ran
  by_cases discarded : result.addrs = []
  · simp only [discarded, if_true] at ran
    cases ran
  · simp only [discarded, if_false] at ran
    cases ran
    obtain ⟨fetched, insts⟩ := Simulator.untaintArchAddresses_eq
      (sim.taintMemory 0 sim.programSize Simulator.dataLbl) result.insts
    obtain ⟨accessed, addrs⟩ := Simulator.untaintArchAddresses_eq
      ((sim.taintMemory 0 sim.programSize Simulator.dataLbl).untaintArchAddresses result.insts)
      result.addrs
    simp only [addrs]
    split
    · exact ⟨_, by rw [insts]; rfl⟩
    · exact ⟨accessed, by rw [insts]; rfl⟩

theorem prepare_ok {bus : Simulator.OnBus idBits} {round : Simulator.Round Core Devices ramSize}
    (prepared : state.prepare host args source behaviour = .ok (some (bus, round))) :
    ∃ warm codeSize loaded, state.bus.doWarmup host.track behaviour.warmup = .ok warm ∧
      Simulator.loadRound host.copy args.toArgs warm.sim = .ok (codeSize, loaded) ∧
      loaded.taintRound host.spike source args.toArgs
        (Simulator.prepareArchSim args.toArgs state.archSim) codeSize = .ok (some round) ∧
      bus = { warm with sim := round.sim } := by
  obtain ⟨warm, warmed, prepared⟩ := bind_ok_iff.mp prepared
  obtain ⟨⟨codeSize, loaded⟩, load, prepared⟩ := bind_ok_iff.mp prepared
  obtain ⟨other, tainted, same⟩ := bind_ok_iff.mp prepared
  cases other with
  | none => cases same
  | some round =>
      cases same
      exact ⟨warm, codeSize, loaded, warmed, load, tainted, rfl⟩

/-- A round that ends with a record has left its loop in another way than by
an illegal instruction. -/
theorem round_finished {crash : CrashInfo} {after : MainState Core Devices ramSize idBits}
    (finished : state.round host args source behaviour = .ok (.finished crash after)) :
    ∃ bus round exit loop, state.prepare host args source behaviour = .ok (some (bus, round)) ∧
      Machine.run (roundCycle host.track round.result.numRetired)
          (bus, .start behaviour.top state.counters behaviour.uninitialised) behaviour.cycles =
        .error (.inr (exit, after.bus, loop)) ∧
      exit ≠ .illegalInstruction ∧ crash = loop.crash ∧ after.counters = loop.sim ∧
      after.archSim = round.archSim := by
  obtain ⟨prepared, ran, finished⟩ := bind_ok_iff.mp finished
  cases prepared with
  | none => cases finished
  | some start =>
      obtain ⟨bus, round⟩ := start
      simp only [MainState.detect] at finished
      split at finished
      · cases finished
      · cases finished
      · rename_i exit last loop looped
        split at finished
        · cases finished
        · rename_i other
          cases finished
          exact ⟨bus, round, exit, loop, ran, looped, other, rfl, rfl, rfl⟩

theorem round_of_prepared {bus : Simulator.OnBus idBits} {round : Simulator.Round Core Devices ramSize}
    (prepared : state.prepare host args source behaviour = .ok (some (bus, round))) :
    state.round host args source behaviour =
      MainState.detect host.track bus state.counters round behaviour := by
  simp only [MainState.round, prepared]
  rfl

theorem detect_of_stopped {bus last : Simulator.OnBus idBits} {counters : Counters}
    {round : Simulator.Round Core Devices ramSize} {exit : LoopExit} {loop : LoopState}
    (stopped : Machine.run (roundCycle host.track round.result.numRetired)
      (bus, .start behaviour.top counters behaviour.uninitialised) behaviour.cycles =
        .error (.inr (exit, last, loop)))
    (other : exit ≠ .illegalInstruction) :
    MainState.detect host.track bus counters round behaviour =
      .ok (.finished loop.crash { bus := last, counters := loop.sim, archSim := round.archSim }) := by
  simp only [MainState.detect, stopped]
  exact if_neg other

theorem mainStep_of_finished {crash : CrashInfo} {after : MainState Core Devices ramSize idBits}
    (known : source ≠ .unknown)
    (finished : state.round host args source behaviour = .ok (.finished crash after)) :
    mainStep host args (source, state) behaviour = verdict host.spike args source crash after := by
  simp only [mainStep, finished]
  exact if_neg known

theorem verdict_of_named {crash named : CrashInfo} {after : MainState Core Devices ramSize idBits}
    {spike : Spike Core Devices ramSize} (found : crash.taintFound = true)
    (classified : crash.classify after.bus.sim.memory after.counters.retired_pcs source = .ok named) :
    verdict spike args source crash after =
      if args.mds ∧ isMeltdown named.reason ∧ getNextTaintSource source ≠ .unknown then
        .ok (getNextTaintSource source, after.reset spike)
      else .error (.reported named.reason) := by
  simp only [verdict, found, if_true, classified]

/-- A Meltdown finding of the first round is run again. -/
theorem mainStep_of_meltdown {crash named : CrashInfo}
    {after : MainState Core Devices ramSize idBits} (mds : args.mds = true)
    (finished : state.round host args .all behaviour = .ok (.finished crash after))
    (found : crash.taintFound = true)
    (classified : crash.classify after.bus.sim.memory after.counters.retired_pcs .all = .ok named)
    (meltdown : isMeltdown named.reason = true) :
    mainStep host args (.all, state) behaviour = .ok (.storeBuffer, after.reset host.spike) := by
  rw [mainStep_of_finished (by decide) finished, verdict_of_named found classified,
    if_pos ⟨mds, meltdown, by decide⟩]
  rfl

theorem mainStep_ok {next : TaintSource × MainState Core Devices ramSize idBits}
    (stepped : mainStep host args (source, state) behaviour = .ok next) :
    ∃ crash after, state.round host args source behaviour = .ok (.finished crash after) ∧
      next = (getNextTaintSource source, after.reset host.spike) := by
  simp only [mainStep] at stepped
  split at stepped
  · cases stepped
  · split at stepped
    · cases stepped
    · cases stepped
    · cases stepped
    · cases stepped
    · rename_i crash after finished
      refine ⟨crash, after, finished, ?_⟩
      simp only [verdict] at stepped
      split at stepped
      · split at stepped
        · cases stepped
        · split at stepped
          · cases stepped
            rfl
          · cases stepped
      · cases stepped

end PhantomTrails
