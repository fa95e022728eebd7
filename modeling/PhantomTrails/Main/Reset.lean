import PhantomTrails.Main.Model

namespace PhantomTrails

open Foundation Foundation.Machine

/-! # What the bus carries into the next round

`Simulator::reset` leaves the DRAM alone, and the wrapper does not tick it
during the warm-up.  Every waiting beat and response gets a label that says in
which round it was requested, and the labels are followed through the next
round.
-/

inductive Owner where
  | previous
  | current
deriving DecidableEq, Repr

/-- Who requested the beats and the responses that wait, from the front on,
and the burst in flight. -/
structure Owners where
  beats : List Owner
  responses : List Owner
  store : Owner

def Owners.ofPrevious (memory : SimMem) : Owners where
  beats := memory.readQueue.map fun _ => Owner.previous
  responses := memory.writeRespQueue.map fun _ => .previous
  store := .previous

/-- Beats are requested when they are pushed, a response when its burst was
accepted. -/
def Owners.update (owners : Owners) (memory : SimMem) (bus : SimMem.TickArgs) : Owners where
  beats := (owners.beats ++ (memory.pushedBeats bus).map fun _ => Owner.current).drop
    (memory.poppedBeats bus).length
  responses := (owners.responses ++ (memory.pushedIds bus).map fun _ => owners.store).drop
    (memory.poppedIds bus).length
  store := if (memory.fires bus).awFire then .current else owners.store

variable {Core Devices : Type} {ramSize : UInt64} {addrBits idBits : Nat}
  {track : Simulator.LabelTrack addrBits idBits} {bus warm : Simulator.OnBus idBits}
  {edge : FakeDRAM.Edge addrBits idBits} {owners : Owners}

def ownedPosedge (track : Simulator.LabelTrack addrBits idBits) :
    Machine (Simulator.OnBus idBits × Owners) (FakeDRAM.Edge addrBits idBits) Fault :=
  withGhost (Simulator.OnBus.posedge track) fun owners bus edge =>
    owners.update bus.sim.memory edge.tickArgs

/-- No beat or response of the previous round is shown to the core, and none
is popped. -/
structure NothingStale (state : Simulator.OnBus idBits × Owners)
    (edge : FakeDRAM.Edge addrBits idBits) : Prop where
  beatPopped : (state.1.sim.memory.fires edge.tickArgs).rFire = true →
    state.2.beats.head? ≠ some .previous
  beatShown : state.1.regs.rValid = true → state.2.beats.head? ≠ some .previous
  responsePopped : (state.1.sim.memory.fires edge.tickArgs).bFire = true →
    state.2.responses.head? ≠ some .previous
  responseShown : state.1.regs.bValid = true → state.2.responses.head? ≠ some .previous

/-- The round that starts here accepts a write burst at once and never meets
the traffic of the one before. -/
structure RoundIsolated (track : Simulator.LabelTrack addrBits idBits) (warm : Simulator.OnBus idBits) :
    Prop where
  accepts : ∀ edge : FakeDRAM.Edge addrBits idBits, edge.reset = false → edge.awValid = true →
    (warm.sim.memory.fires edge.tickArgs).awFire = true
  nothingStale : ∀ edges, Along (ownedPosedge track) NothingStale
    (warm, .ofPrevious warm.sim.memory) edges

/-- Nothing is outstanding. -/
structure Settled (memory : SimMem) : Prop where
  readQueue : memory.readQueue = []
  writeRespQueue : memory.writeRespQueue = []
  curStore : memory.curStore.inFlight = false

/-! ## The next round -/

/-- Nothing that waits, or is on its way, belongs to the previous round. -/
structure AllCurrent (state : Simulator.OnBus idBits × Owners) : Prop where
  beats : ∀ owner ∈ state.2.beats, owner = .current
  responses : ∀ owner ∈ state.2.responses, owner = .current
  store : state.1.sim.memory.curStore.inFlight = true → state.2.store = .current

theorem AllCurrent.nothingStale {state : Simulator.OnBus idBits × Owners} (all : AllCurrent state)
    (edge : FakeDRAM.Edge addrBits idBits) : NothingStale state edge := by
  have fresh : ∀ queue : List Owner, (∀ owner ∈ queue, owner = .current) →
      queue.head? ≠ some .previous := by
    intro queue current front
    cases current _ (List.mem_of_head? front)
  have beats := fresh _ all.beats
  have responses := fresh _ all.responses
  exact ⟨fun _ => beats, fun _ => beats, fun _ => responses, fun _ => responses⟩

theorem update_under_reset (owners : Owners) (memory : SimMem) (reset : edge.reset = true) :
    owners.update memory edge.tickArgs = owners := by
  simp [Owners.update, SimMem.pushedBeats, SimMem.poppedBeats, SimMem.pushedIds, SimMem.poppedIds,
    SimMem.fires, FakeDRAM.Edge.tickArgs, reset]

theorem AllCurrent.tick {memory next : SimMem} {bus : SimMem.TickArgs}
    (beats : ∀ owner ∈ owners.beats, owner = .current)
    (responses : ∀ owner ∈ owners.responses, owner = .current)
    (store : memory.curStore.inFlight = true → owners.store = .current)
    (ticked : memory.tick bus = .ok next) :
    (∀ owner ∈ (owners.update memory bus).beats, owner = .current) ∧
      (∀ owner ∈ (owners.update memory bus).responses, owner = .current) ∧
      (next.curStore.inFlight = true → (owners.update memory bus).store = .current) := by
  refine ⟨fun owner member => ?_, fun owner member => ?_, fun busy => ?_⟩
  · rcases List.mem_append.mp (List.mem_of_mem_drop member) with waiting | pushed
    · exact beats owner waiting
    · obtain ⟨beat, -, rfl⟩ := List.mem_map.mp pushed
      rfl
  · rcases List.mem_append.mp (List.mem_of_mem_drop member) with waiting | pushed
    · exact responses owner waiting
    · obtain ⟨id, completed, rfl⟩ := List.mem_map.mp pushed
      simp only [SimMem.pushedIds, List.mem_ite_nil_right] at completed
      exact store (SimMem.inFlight_of_wFire completed.1.1)
  · cases opened : (memory.fires bus).awFire with
    | true => simp [Owners.update, opened]
    | false =>
        rw [SimMem.next_curStore ticked, SimMem.storeAfter, opened] at busy
        simp only [Owners.update, opened, Bool.false_eq_true, if_false] at busy ⊢
        split at busy
        · rename_i accepted
          exact store (SimMem.inFlight_of_wFire accepted)
        · exact store busy

theorem allCurrent_keeps :
    Keeps (ownedPosedge track : Machine (Simulator.OnBus idBits × Owners)
      (FakeDRAM.Edge addrBits idBits) Fault) (fun _ _ => True) AllCurrent := by
  intro state edge next _ all taken
  obtain ⟨moved, owned⟩ := withGhost_ok_iff.mp taken
  rcases Simulator.posedge_cases moved with ⟨reset, same, -⟩ | ⟨ordinary, ticked, -⟩
  · rw [update_under_reset state.2 _ reset] at owned
    refine ⟨owned ▸ all.beats, owned ▸ all.responses, ?_⟩
    rw [same, owned]
    exact all.store
  · obtain ⟨beats, responses, store⟩ := AllCurrent.tick all.beats all.responses all.store ticked
    exact ⟨owned ▸ beats, owned ▸ responses, owned ▸ store⟩

theorem Settled.isolated (settled : Settled warm.sim.memory) : RoundIsolated track warm where
  accepts := by
    intro edge ordinary valid
    simp [SimMem.fires, FakeDRAM.Edge.tickArgs, ordinary, valid, SimMem.writeAddrReady,
      settled.curStore]
  nothingStale := by
    intro edges
    have start : AllCurrent (warm, .ofPrevious warm.sim.memory) := by
      refine ⟨?_, ?_, ?_⟩
      · simp [Owners.ofPrevious, settled.readQueue]
      · simp [Owners.ofPrevious, settled.writeRespQueue]
      · simp [settled.curStore]
    exact allCurrent_keeps.along (fun state edge _ all => all.nothingStale edge)
      (along_of_forall _ (fun _ _ => trivial) _) start

/-- What is left over shows at the first edge whose master is ready for it. -/
theorem RoundIsolated.settled (isolated : RoundIsolated track warm) : Settled warm.sim.memory := by
  have first := fun edge => (isolated.nothingStale [edge]).1
  refine ⟨?_, ?_, ?_⟩
  · have popped := (first { rReady := true }).beatPopped
    cases waiting : warm.sim.memory.readQueue with
    | nil => rfl
    | cons beat rest =>
        simp [SimMem.fires, FakeDRAM.Edge.tickArgs, SimMem.readDataValid, Owners.ofPrevious, waiting]
          at popped
  · have popped := (first { bReady := true }).responsePopped
    cases waiting : warm.sim.memory.writeRespQueue with
    | nil => rfl
    | cons id rest =>
        simp [SimMem.fires, FakeDRAM.Edge.tickArgs, SimMem.writeResponseValid, Owners.ofPrevious,
          waiting] at popped
  · have accepted := isolated.accepts { awValid := true } rfl rfl
    simpa [SimMem.fires, FakeDRAM.Edge.tickArgs, SimMem.writeAddrReady] using accepted

/-- The next round is isolated from this one exactly when this one has left
nothing outstanding: the reset and the warm-up settle nothing themselves. -/
theorem next_round_isolated_iff (spike : Spike Core Devices ramSize)
    (track : Simulator.LabelTrack addrBits idBits) (state : MainState Core Devices ramSize idBits)
    (warmup : Nat → FakeDRAM.Edge addrBits idBits) :
    ∃ warm, (state.reset spike).bus.doWarmup track warmup = .ok warm ∧
      (RoundIsolated track warm ↔ Settled state.bus.sim.memory) := by
  obtain ⟨labels, regs, warmed, -⟩ := doWarmup_ok track (state.reset spike).bus warmup
  refine ⟨_, warmed, fun isolated => ?_, fun settled => ?_⟩
  · exact isolated.settled
  · apply Settled.isolated
    exact settled

/-- A beat is requested in the cycle in which the taint is found; the loop
stops before the core takes it. -/
def outstandingBeat : List (FakeDRAM.Edge 32 5 × Top) :=
  [({ arValid := true, arAddr := 0x80000008, arSize := 3 }, { taintedSink := some ⟨.iregfile, 40⟩ }),
    ({}, { flush := { flushSignal := true, xcptValid := true } })]

/-- The beat is popped in the next round by the first edge that is ready for
one. -/
theorem next_round_isolated_outstandingBeat : ∃ warm bus loop,
    Simulator.OnBus.doWarmup Simulator.keepLabels ⟨Simulator.tinySim, {}⟩ (fun _ => {}) =
        .ok warm ∧
      run (roundCycle Simulator.keepLabels 1) (warm, .start {} {} { type := .none, cause := 0 })
          outstandingBeat = .error (.inr (.flushRecorded, bus, loop)) ∧
      ∀ next, (MainState.reset Simulator.fetchLoadSpike
          ⟨bus, loop.sim, Simulator.fetchLoadArchSim⟩).bus.doWarmup Simulator.keepLabels
            (fun _ => {}) = .ok next → ¬ RoundIsolated Simulator.keepLabels next := by
  refine ⟨_, _, _, rfl, rfl, fun next warmed isolated => ?_⟩
  obtain ⟨labels, regs, again, -⟩ := doWarmup_ok Simulator.keepLabels _ fun _ => {}
  obtain rfl := Except.ok.inj (again.symm.trans warmed)
  cases isolated.settled.readQueue

end PhantomTrails
