import PhantomTrails.Main.Model

namespace PhantomTrails

open Foundation Foundation.Machine

/-! # The two memories at the start of a round

`runArchSim` copies the program from the DRAM into Spike's memory, and nothing
else.  Loading writes the same part of the DRAM only, so what lies behind the
program is what the previous round has left there.
-/

namespace Simulator

variable {copy : LabelCopy} {sim next : Simulator} {buf : Option Buffer} {bound : Nat}

/-- Loading that writes below `bound` only. -/
structure KeepsBehind (bound : Nat) (sim next : Simulator) : Prop where
  memory : next.memory = { sim.memory with data := next.memory.data }
  initSize : next.initSize = sim.initSize
  programSize : next.programSize = sim.programSize
  data : ∀ offset, bound ≤ offset → next.memory.data offset = sim.memory.data offset

theorem KeepsBehind.refl (bound : Nat) (sim : Simulator) : KeepsBehind bound sim sim :=
  ⟨rfl, rfl, rfl, fun _ _ => rfl⟩

theorem KeepsBehind.trans {final : Simulator} (first : KeepsBehind bound sim next)
    (second : KeepsBehind bound next final) : KeepsBehind bound sim final where
  memory := by rw [second.memory, first.memory]
  initSize := second.initSize.trans first.initSize
  programSize := second.programSize.trans first.programSize
  data := fun offset behind => (second.data offset behind).trans (first.data offset behind)

/-- No more is written than the buffer holds. -/
theorem loadBytes_behind {startAddr len count : UInt64}
    (room : ∀ buffer offset, buf = some buffer → sim.addrToDramOffset startAddr = .ok offset →
      buffer.size = 0 ∨ offset.toNat + min len.toNat buffer.size.toNat ≤ bound)
    (load : sim.loadBytes copy buf startAddr len = .ok (count, next)) : KeepsBehind bound sim next := by
  cases buf with
  | none =>
      cases load
      exact .refl bound sim
  | some buffer =>
      simp only [loadBytes] at load
      split at load
      · cases load
        exact .refl bound sim
      · obtain ⟨offset, found, load⟩ := bind_ok_iff.mp load
        split at load
        · rename_i enough
          cases load
          refine ⟨rfl, rfl, rfl, fun cell behind => Store.copy_outside ?_⟩
          have short := toNat_min_le len (sim.memSize - offset)
          have held := UInt64.le_iff_toNat_le.mp enough
          rcases room buffer offset rfl found with empty | fits
          · rw [empty, UInt64.toNat_zero] at held
            omega
          · have copied := Nat.le_min.mpr ⟨short, held⟩
            omega
        · contradiction

theorem taintMemory_behind (bound : Nat) (sim : Simulator) (start len : UInt64) (lbl : UInt8) :
    KeepsBehind bound sim (sim.taintMemory start len lbl) :=
  ⟨rfl, rfl, rfl, fun _ _ => rfl⟩

/-- Off a null pointer, or behind the buffer, there is nothing to read. -/
theorem advance_some {piece : Buffer} {count : UInt64} (taken : advance buf count = some piece) :
    piece.size = 0 ∨ ∃ buffer, buf = some buffer ∧ count.toNat < buffer.size.toNat ∧
      count.toNat + piece.size.toNat = buffer.size.toNat := by
  cases buf with
  | some buffer =>
      obtain rfl := Option.some.inj taken
      have size := at_size buffer count
      by_cases within : count.toNat < buffer.size.toNat
      · exact .inr ⟨buffer, rfl, within, by omega⟩
      · left
        apply UInt64.toNat_inj.mp
        rw [size, UInt64.toNat_zero]
        omega
  | none =>
      simp only [advance] at taken
      split at taken
      · contradiction
      · cases taken
        exact .inl rfl

/-- A section is copied from the place in the buffer that belongs to its
offset. -/
theorem perform_behind {call : LoadCall}
    (room : ∀ buffer, buf = some buffer →
      buffer.size = 0 ∨ sim.initSize.toNat + buffer.size.toNat ≤ bound)
    (performed : call.perform copy buf sim = .ok next) : KeepsBehind bound sim next := by
  obtain ⟨source, placed, performed⟩ := bind_ok_iff.mp performed
  obtain ⟨offset, found, same⟩ := bind_ok_iff.mp placed
  cases same
  obtain ⟨⟨count, loaded⟩, load, same⟩ := bind_ok_iff.mp performed
  cases same
  have fits : ∀ piece place,
      advance buf (offset - sim.initSize) = some piece →
      sim.addrToDramOffset call.start = .ok place →
        piece.size = 0 ∨ place.toNat + min call.len.toNat piece.size.toNat ≤ bound := by
    intro piece place taken located
    obtain rfl := Except.ok.inj (located.symm.trans found)
    rcases advance_some taken with empty | ⟨buffer, held, within, size⟩
    · exact .inl empty
    · have reached : place.toNat ≤ sim.initSize.toNat + (place - sim.initSize).toNat := by
        have split : place = sim.initSize + (place - sim.initSize) := by
          rw [UInt64.add_comm, UInt64.sub_add_cancel]
        rw [split, UInt64.toNat_add, ← split]
        exact Nat.mod_le _ _
      rcases room buffer held with empty | fits
      · rw [empty, UInt64.toNat_zero] at within
        omega
      · right
        omega
  cases kind : call.kind with
  | code =>
      rw [kind] at load
      exact loadBytes_behind fits load
  | data =>
      rw [kind] at load
      obtain ⟨⟨count, copied⟩, copying, rest⟩ := bind_ok_iff.mp load
      obtain ⟨place, -, same⟩ := bind_ok_iff.mp rest
      obtain rfl := (Prod.mk.inj (Except.ok.inj same)).2
      exact (loadBytes_behind fits copying).trans (taintMemory_behind bound copied place call.len dataLbl)

theorem loadProgramSections_behind {codeSize : UInt64}
    (room : ∀ buffer, buf = some buffer →
      buffer.size = 0 ∨ sim.initSize.toNat + buffer.size.toNat ≤ bound)
    (load : sim.loadProgramSections copy buf = .ok (codeSize, next)) : KeepsBehind bound sim next := by
  rw [loadProgramSections_eq] at load
  obtain ⟨loaded, performed, same⟩ := bind_ok_iff.mp load
  cases same
  have keeps : Keeps (LoadCall.perform copy buf) (fun _ _ => True) (KeepsBehind bound sim) := by
    intro middle call after _ before performed
    apply before.trans (perform_behind ?_ performed)
    rw [before.initSize]
    exact room
  have start : KeepsBehind bound sim { sim with codeRegions := sim.effectiveRegions } :=
    ⟨rfl, rfl, rfl, fun _ _ => rfl⟩
  exact keeps.run (along_of_forall _ (fun _ _ => trivial) _) start performed

theorem addCode_behind {file : Option Buffer} {len count : UInt64}
    (fits : sim.initSize.toNat + min len.toNat (fileLen file).toNat ≤ bound)
    (load : sim.addCode copy file (sim.baseAddr + sim.initSize) len = .ok (count, next)) :
    KeepsBehind bound sim next := by
  apply loadBytes_behind ?_ load
  intro buffer offset held found
  subst held
  simp only [addrToDramOffset] at found
  split at found
  · cases found
    rw [UInt64.add_comm, UInt64.add_sub_cancel]
    exact .inr fits
  · contradiction

/-- Between two loads of a round: `done` bytes of initialization code are in
place. -/
structure Staged (bound done : Nat) (origin sim : Simulator) : Prop where
  memory : sim.memory = { origin.memory with data := sim.memory.data }
  initSize : sim.initSize.toNat = done
  data : ∀ offset, bound ≤ offset → sim.memory.data offset = origin.memory.data offset

theorem Staged.extend {origin : Simulator} {done : Nat} {len : UInt64} (staged : Staged bound done origin sim)
    (kept : KeepsBehind bound sim next) (room : done + len.toNat < 2 ^ 64) :
    Staged bound (done + len.toNat) origin { next with initSize := next.initSize + len } where
  memory := by rw [kept.memory, staged.memory]
  initSize := by
    simp only
    rw [UInt64.toNat_add, kept.initSize, staged.initSize]
    exact Nat.mod_eq_of_lt room
  data := fun offset behind => (kept.data offset behind).trans (staged.data offset behind)

theorem Staged.addFile {origin : Simulator} {done : Nat} {file : Option Buffer} {count : UInt64}
    (staged : Staged bound done origin sim) (fits : done + (fileLen file).toNat ≤ bound)
    (room : bound < 2 ^ 64)
    (load : sim.addCode copy file (sim.baseAddr + sim.initSize) (fileLen file) = .ok (count, next)) :
    Staged bound (done + (fileLen file).toNat) origin
      { next with initSize := next.initSize + fileLen file } := by
  apply staged.extend (addCode_behind ?_ load) (Nat.lt_of_le_of_lt fits room)
  rw [staged.initSize, Nat.min_self]
  exact fits

/-- The rest of the round's program, behind `done` bytes of initialization
code. -/
theorem loadProgramSections_staged {origin : Simulator} {done : Nat} {codeSize : UInt64}
    (staged : Staged bound done origin sim) (program : sim.programSize.toNat = bound)
    (room : ∀ buffer, buf = some buffer → buffer.size = 0 ∨ done + buffer.size.toNat ≤ bound)
    (load : sim.loadProgramSections copy buf = .ok (codeSize, next)) :
    next.memory = { origin.memory with data := next.memory.data } ∧
      next.programSize.toNat = bound ∧
      ∀ offset, bound ≤ offset → next.memory.data offset = origin.memory.data offset := by
  rw [← staged.initSize] at room
  have kept := loadProgramSections_behind room load
  refine ⟨by rw [kept.memory, staged.memory], by rw [kept.programSize, program], ?_⟩
  exact fun offset behind => (kept.data offset behind).trans (staged.data offset behind)

/-- The program reaches as far as it is long, also when a part of it was
copied before. -/
theorem loadProgram_behind {args : Args} {codeSize : UInt64}
    (placed : Staged (programEnd args) (optionalLen args.initCode + optionalLen args.mdsInit) sim next)
    (program : next.programSize.toNat = programEnd args) {final : Simulator}
    (load : loadProgram copy args next = .ok (codeSize, final)) :
    final.memory = { sim.memory with data := final.memory.data } ∧
      final.programSize.toNat = programEnd args ∧
      ∀ offset, programEnd args ≤ offset → final.memory.data offset = sim.memory.data offset := by
  rw [loadProgram] at load
  split at load
  · obtain ⟨⟨count, loaded⟩, code, load⟩ := bind_ok_iff.mp load
    have kept : KeepsBehind (programEnd args) next loaded := by
      apply addCode_behind ?_ code
      rw [placed.initSize, programEnd]
      omega
    have staged : Staged (programEnd args) (loaded.initSize + args.initSize).toNat sim
        { loaded with initSize := loaded.initSize + args.initSize } :=
      ⟨by rw [kept.memory, placed.memory], rfl,
        fun offset behind => (kept.data offset behind).trans (placed.data offset behind)⟩
    have programSize : loaded.programSize.toNat = programEnd args := by
      rw [kept.programSize]
      exact program
    apply loadProgramSections_staged staged programSize ?_ load
    intro piece taken
    rcases advance_some taken with empty | ⟨buffer, held, -, size⟩
    · exact .inl empty
    · have reached : (loaded.initSize + args.initSize).toNat ≤
          optionalLen args.initCode + optionalLen args.mdsInit + args.initSize.toNat := by
        rw [UInt64.toNat_add, kept.initSize, placed.initSize]
        exact Nat.mod_le _ _
      have whole : (fileLen args.program).toNat = buffer.size.toNat := by
        rw [held]
        rfl
      right
      rw [programEnd, whole]
      omega
  · apply loadProgramSections_staged placed program ?_ load
    intro buffer held
    right
    simp [programEnd, held, fileLen]

/-- Loading a round leaves everything behind the program as it is. -/
theorem loadRound_behind {args : Args} {codeSize : UInt64} (cleared : sim.initSize = 0)
    (addressable : programEnd args < 2 ^ 64) (load : loadRound copy args sim = .ok (codeSize, next)) :
    next.memory = { sim.memory with data := next.memory.data } ∧
      next.programSize.toNat = programEnd args ∧
      ∀ offset, programEnd args ≤ offset → next.memory.data offset = sim.memory.data offset := by
  have opened : Staged (programEnd args) 0 sim (sim.taintAllMemory dataLbl) :=
    ⟨rfl, by rw [taintAllMemory, taintMemory, cleared]; rfl, fun _ _ => rfl⟩
  obtain ⟨second, staged, load⟩ := loadRound_staged Staged.initSize
    (fun staged short code => staged.addFile short addressable code) opened load
  have placed : Staged (programEnd args) (optionalLen args.initCode + optionalLen args.mdsInit) sim
      { second with programSize := second.initSize + fileLen args.program } :=
    ⟨staged.memory, staged.initSize, staged.data⟩
  exact loadProgram_behind placed (programSize_toNat staged.initSize addressable) load

end Simulator

/-! ## From round to round -/

variable {Core Devices : Type} {ramSize : UInt64} {addrBits idBits : Nat}
  {host : Host Core Devices ramSize addrBits idBits} {args : MainArgs} {source : TaintSource}
  {state : MainState Core Devices ramSize idBits} {behaviour : RoundBehaviour addrBits idBits}
  {geometry : SimMem.Geometry}

theorem posedge_geometry {track : Simulator.LabelTrack addrBits idBits} {bus next : Simulator.OnBus idBits}
    {edge : FakeDRAM.Edge addrBits idBits} (moved : bus.posedge track edge = .ok next) :
    next.sim.memory.geometry = bus.sim.memory.geometry := by
  rcases Simulator.posedge_cases moved with ⟨-, same, -⟩ | ⟨-, ticked, -⟩
  · rw [same]
  · exact SimMem.next_geometry ticked

/-- A loop that stops for a fault is not asked for its bus. -/
def StopsOn (allowed : Simulator.OnBus idBits → Prop) :
    Fault ⊕ LoopExit × Simulator.OnBus idBits × LoopState → Prop
  | .inl _ => True
  | .inr (_, bus, _) => allowed bus

section DetectionLoop

variable {track : Simulator.LabelTrack addrBits idBits} {numRetired : UInt64}
  {invariant : Simulator.OnBus idBits → Prop}

theorem roundCycle_keeps
    (keeps : Keeps (Simulator.OnBus.posedge track) (fun _ _ => True) invariant) :
    Keeps (roundCycle track numRetired) (fun _ _ => True) (fun turn => invariant turn.1) := by
  intro turn input next _ before taken
  simp only [roundCycle] at taken
  split at taken
  · split at taken
    · cases taken
    · rename_i moved
      split at taken
      · cases taken
        exact keeps _ _ _ trivial before moved
      · cases taken
  · cases taken

theorem roundCycle_stopsOn
    (keeps : Keeps (Simulator.OnBus.posedge track) (fun _ _ => True) invariant)
    {turn : Simulator.OnBus idBits × LoopState} {input : FakeDRAM.Edge addrBits idBits × Top}
    {stop : Fault ⊕ LoopExit × Simulator.OnBus idBits × LoopState} (before : invariant turn.1)
    (stopped : roundCycle track numRetired turn input = .error stop) : StopsOn invariant stop := by
  simp only [roundCycle] at stopped
  split at stopped
  · split at stopped
    · cases stopped
      trivial
    · rename_i moved
      split at stopped
      · cases stopped
      · cases stopped
        exact keeps _ _ _ trivial before moved
  · cases stopped
    exact before

/-- What every clock edge keeps holds of the bus a loop is left with. -/
theorem loop_stopsOn (keeps : Keeps (Simulator.OnBus.posedge track) (fun _ _ => True) invariant)
    {bus : Simulator.OnBus idBits} {loop : LoopState}
    {cycles : List (FakeDRAM.Edge addrBits idBits × Top)}
    {stop : Fault ⊕ LoopExit × Simulator.OnBus idBits × LoopState} (start : invariant bus)
    (stopped : run (roundCycle track numRetired) (bus, loop) cycles = .error stop) :
    StopsOn invariant stop :=
  (roundCycle_keeps keeps).stops_within
    (fun _ _ _ _ before halted => roundCycle_stopsOn keeps before halted)
    (along_of_forall _ (fun _ _ => trivial) _) start stopped

end DetectionLoop

/-- What every round starts with. -/
structure AtRoundStart (geometry : SimMem.Geometry) (state : MainState Core Devices ramSize idBits) :
    Prop where
  geometry : state.bus.sim.memory.geometry = geometry
  initSize : state.bus.sim.initSize = 0

theorem prepare_geometry {bus : Simulator.OnBus idBits}
    {round : Simulator.Round Core Devices ramSize} (start : AtRoundStart geometry state)
    (addressable : Simulator.programEnd args.toArgs < 2 ^ 64)
    (prepared : state.prepare host args source behaviour = .ok (some (bus, round))) :
    bus.sim.memory.geometry = geometry := by
  obtain ⟨warm, codeSize, loaded, warmed, load, tainted, rfl⟩ := prepare_ok prepared
  obtain ⟨labels, regs, same, -⟩ := doWarmup_ok host.track state.bus behaviour.warmup
  obtain rfl := Except.ok.inj (same.symm.trans warmed)
  have cleared : ({ state.bus.sim with labels } : Simulator).initSize = 0 := start.initSize
  obtain ⟨kept, -, -⟩ := Simulator.loadRound_behind cleared addressable load
  obtain ⟨taints, same⟩ := taintRound_sim tainted
  rw [same, kept]
  exact start.geometry

theorem mainStep_keeps_start (addressable : Simulator.programEnd args.toArgs < 2 ^ 64) :
    Keeps (mainStep host args) (fun _ _ => True) (fun turn => AtRoundStart geometry turn.2) := by
  intro turn behaviour next _ start stepped
  obtain ⟨crash, after, finished, rfl⟩ := mainStep_ok stepped
  obtain ⟨bus, round, exit, loop, prepared, stopped, -, -, -, -⟩ := round_finished finished
  have edges : Keeps (Simulator.OnBus.posedge host.track) (fun _ _ => True)
      (fun bus => bus.sim.memory.geometry = geometry) :=
    fun _ _ _ _ before moved => (posedge_geometry moved).trans before
  exact ⟨loop_stopsOn edges (prepare_geometry start addressable prepared) stopped, rfl⟩

/-! ## The two images -/

/-- The simulator that a round has loaded, ready for `runArchSim`. -/
def LoadedFor (host : Host Core Devices ramSize addrBits idBits) (args : MainArgs)
    (state : MainState Core Devices ramSize idBits) (behaviour : RoundBehaviour addrBits idBits)
    (loaded : Simulator) : Prop :=
  ∃ warm codeSize, state.bus.doWarmup host.track behaviour.warmup = .ok warm ∧
    Simulator.loadRound host.copy args.toArgs warm.sim = .ok (codeSize, loaded)

/-- Spike's memory once `runArchSim` has copied the program. -/
def spikeImage (args : MainArgs) (state : MainState Core Devices ramSize idBits)
    (loaded : Simulator) : Ram ramSize :=
  ((Simulator.prepareArchSim args.toArgs state.archSim).loadProgram
    (loaded.archConfig args.discardIllegalJumps) loaded.archProgram).ram

def SameImage (args : MainArgs) (state : MainState Core Devices ramSize idBits)
    (loaded : Simulator) : Prop :=
  ∀ offset : Fin ramSize.toNat, spikeImage args state loaded offset = loaded.memory.data offset

/-- The two memories are left alike behind the program. -/
def LeftAlike (args : MainArgs) (state : MainState Core Devices ramSize idBits) : Prop :=
  ∀ offset : Fin ramSize.toNat, Simulator.programEnd args.toArgs ≤ offset →
    state.archSim.ram offset = state.bus.sim.memory.data offset

theorem spikeImage_eq (args : MainArgs) (state : MainState Core Devices ramSize idBits)
    (loaded : Simulator) (offset : Fin ramSize.toNat) :
    spikeImage args state loaded offset =
      if offset.val < (min loaded.programSize ramSize).toNat then loaded.memory.data offset
      else state.archSim.ram offset := by
  have ram : (Simulator.prepareArchSim args.toArgs state.archSim).ram = state.archSim.ram := by
    rw [Simulator.prepareArchSim]
    split <;> rfl
  rw [← ram]
  rfl

theorem LoadedFor.sameImage_iff {loaded : Simulator} (start : AtRoundStart geometry state)
    (fits : Simulator.programEnd args.toArgs ≤ ramSize.toNat)
    (ready : LoadedFor host args state behaviour loaded) :
    SameImage args state loaded ↔ LeftAlike args state := by
  obtain ⟨warm, codeSize, warmed, load⟩ := ready
  obtain ⟨labels, regs, same, -⟩ := doWarmup_ok host.track state.bus behaviour.warmup
  obtain rfl := Except.ok.inj (same.symm.trans warmed)
  have addressable := Nat.lt_of_le_of_lt fits ramSize.toNat_lt
  have cleared : ({ state.bus.sim with labels } : Simulator).initSize = 0 := start.initSize
  obtain ⟨-, programSize, behind⟩ := Simulator.loadRound_behind cleared addressable load
  have copied : (min loaded.programSize ramSize).toNat = Simulator.programEnd args.toArgs := by
    rw [Simulator.toNat_min, programSize, Nat.min_eq_left fits]
  constructor
  · intro same offset outside
    have left := same offset
    rw [spikeImage_eq, copied, if_neg (Nat.not_lt.mpr outside), behind offset outside] at left
    exact left
  · intro alike offset
    rw [spikeImage_eq, copied]
    split
    · rfl
    · rename_i outside
      have reached := Nat.not_lt.mp outside
      rw [behind offset reached]
      exact alike offset reached

/-- At the start of the first round the images are the same; at the start of
any later one exactly when the round before has left the memories alike behind
the program: neither reset restores them. -/
theorem images_same_iff {start : MainState Core Devices ramSize idBits}
    (sizes : start.bus.sim.memSize = ramSize) (new : start.bus.sim.initSize = 0)
    (fits : Simulator.programEnd args.toArgs ≤ ramSize.toNat)
    (allocated : ∀ offset : Fin ramSize.toNat,
      start.archSim.ram offset = start.bus.sim.memory.data offset)
    (rounds : List (RoundBehaviour addrBits idBits))
    (reached : run (mainStep host args) (.all, start) rounds = .ok (source, state)) :
    state.bus.sim.memSize = ramSize ∧ (rounds = [] → LeftAlike args state) ∧
      ∀ behaviour loaded, LoadedFor host args state behaviour loaded →
        (SameImage args state loaded ↔ LeftAlike args state) := by
  have addressable := Nat.lt_of_le_of_lt fits ramSize.toNat_lt
  have opened : AtRoundStart start.bus.sim.memory.geometry start := ⟨rfl, new⟩
  have kept := (mainStep_keeps_start addressable).run (along_of_forall _ (fun _ _ => trivial) _)
    opened reached
  refine ⟨?_, fun none => ?_, fun behaviour loaded ready => ready.sameImage_iff kept fits⟩
  · rw [Simulator.memSize, kept.geometry]
    exact sizes
  · subst none
    cases reached
    exact fun offset _ => allocated offset

/-- An architectural run by its pc: from the boot ROM to an instruction that
stores behind the program of eight bytes. -/
def storingSpike : Spike UInt64 Unit SimMem.Geometry.tiny.memSize where
  newCore := 0x10000
  initCore := id
  isWaitingForInterrupt := fun pc => pc == 0x80000004
  findDevice := fun _ => true
  maxPaddrBits := 56
  step := fun pc ram devices =>
    if pc = 0x10000 then { core := 0x80000000, ram, devices, events := SpikeEvent.boot }
    else {
      core := 0x80000004
      ram := Function.update ram ⟨40, by decide⟩ 1
      devices
      events := [.trace ⟨0x80000000, 4, .fetch⟩, .trace ⟨0x80000010, 2, .load⟩,
        .trace ⟨0x80000028, 1, .store⟩, .stored 0x80000000 0x80000028] }

def storingHost : Host UInt64 Unit SimMem.Geometry.tiny.memSize 32 5 where
  spike := storingSpike
  copy := Simulator.cleanCopy
  track := Simulator.keepLabels

def mdsArgs : MainArgs := { Simulator.twoInstructions with mds := true, mdsOnly := fun _ => rfl }

/-- A load to register 5 at the head. -/
def loadAtHead (exception : Bool) : RobTop where
  tail := nextRow firstRow
  slot := fun i j =>
    if i.val = 0 ∧ j.val = 0 then { pc := 0x80000004, valid := true, exception, dst := 5 }
    else { dst_type := RobState.DEST_UNUSED }

/-- The cycles of a round whose ports are quiet. -/
def quietRound (tops : List Top) : RoundBehaviour 32 5 where
  warmup := fun _ => {}
  top := {}
  uninitialised := { type := .none, cause := 0 }
  cycles := tops.map fun top => ({}, top)

/-- The tainting instruction raises an exception, so a second round follows. -/
def meltdownRound : RoundBehaviour 32 5 :=
  quietRound [{ rob := loadAtHead true, taintedSink := some ⟨.iregfile, 40⟩ },
    { rob := loadAtHead true
      flush := { flushSignal := true, xcptValid := true, xcptCause := FlushCause.LOAD_PAGE_FAULT } }]

def storingStart : MainState UInt64 Unit SimMem.Geometry.tiny.memSize 5 where
  bus := ⟨Simulator.tinySim, {}⟩
  counters := {}
  archSim := ArchSim.fresh storingSpike (Simulator.tinySim.archConfig false) (fun _ => 0) () false

theorem storingStart_prepared : ∃ bus round data labels,
    storingStart.prepare storingHost mdsArgs .all meltdownRound = .ok (some (bus, round)) ∧
      bus.sim = ⟨{ geometry := .tiny, data }, labels, 8, 0, [(0x80000000, 0x80000008)]⟩ ∧
      data 40 = 0 ∧ round.result.numRetired = 2 ∧ round.archSim.ram ⟨40, by decide⟩ = 1 ∧
      round.archSim.fetchRecorder.stuck = false := by
  obtain ⟨regs, warmed⟩ := doWarmup_keepLabels storingStart.bus meltdownRound.warmup
  obtain ⟨loaded, load, data, labels, same, behind⟩ : ∃ loaded,
      Simulator.loadRound Simulator.cleanCopy mdsArgs.toArgs Simulator.tinySim = .ok (8, loaded) ∧
        ∃ data labels,
          loaded = ⟨{ geometry := .tiny, data }, labels, 8, 0, [(0x80000000, 0x80000008)]⟩ ∧
            data 40 = 0 := ⟨_, rfl, _, _, rfl, rfl⟩
  obtain ⟨result, final, simulated, accepted, numRetired, ram, unstuck⟩ : ∃ result final,
      ArchSim.runSpikeSim storingSpike (loaded.archConfig false) storingStart.archSim
          loaded.archProgram (Simulator.archCycles mdsArgs.toArgs 8) = .ok (result, final) ∧
        result.addrs ≠ [] ∧ result.numRetired = 2 ∧ final.ram ⟨40, by decide⟩ = 1 ∧
        final.fetchRecorder.stuck = false := by
    cases load
    refine ⟨_, _, rfl, fun discarded => ?_, rfl, rfl, rfl⟩
    have empty := congrArg List.length discarded
    simp only [Finset.length_sort] at empty
    exact absurd empty (by decide)
  have tainted : loaded.taintRound storingHost.spike .all mdsArgs.toArgs storingStart.archSim 8 =
      .ok (some _) := Simulator.taintRound_all_iff.mpr ⟨result, final, simulated, accepted, rfl⟩
  have prepared : storingStart.prepare storingHost mdsArgs .all meltdownRound = .ok (some _) :=
    bind_ok_iff.mpr ⟨_, warmed, bind_ok_iff.mpr ⟨_, load, bind_ok_iff.mpr ⟨_, tainted, rfl⟩⟩⟩
  obtain ⟨taints, kept⟩ := taintRound_sim tainted
  subst same
  exact ⟨_, _, data, taints, prepared, kept, behind, numRetired, ram, unstuck⟩

/-- The store stays in Spike's memory, and never reaches the DRAM. -/
theorem storingRound : ∃ crash after named data labels,
    storingStart.round storingHost mdsArgs .all meltdownRound = .ok (.finished crash after) ∧
      crash.taintFound = true ∧
      crash.classify after.bus.sim.memory after.counters.retired_pcs .all = .ok named ∧
      named.reason = "Meltdown_LOAD_PFAULT" ∧
      after.bus.sim = ⟨{ geometry := .tiny, data }, labels, 8, 0, [(0x80000000, 0x80000008)]⟩ ∧
      after.archSim.ram ⟨40, by decide⟩ = 1 ∧ data 40 = 0 ∧
      after.archSim.fetchRecorder.stuck = false ∧ after.counters.reset = {} := by
  obtain ⟨⟨sim, regs⟩, round, data, labels, prepared, same, behind, numRetired, ram, unstuck⟩ :=
    storingStart_prepared
  simp only at same
  subst same
  obtain ⟨bus, loop, named, stopped, found, kept, classified, reason, reset⟩ : ∃ bus loop named,
      run (roundCycle Simulator.keepLabels 2)
          ((⟨⟨{ geometry := .tiny, data }, labels, 8, 0, [(0x80000000, 0x80000008)]⟩, regs⟩ :
            Simulator.OnBus 5), .start meltdownRound.top {} meltdownRound.uninitialised)
          meltdownRound.cycles = .error (.inr (.flushRecorded, bus, loop)) ∧
        loop.crash.taintFound = true ∧
        bus.sim = ⟨{ geometry := .tiny, data }, labels, 8, 0, [(0x80000000, 0x80000008)]⟩ ∧
        loop.crash.classify bus.sim.memory loop.sim.retired_pcs .all = .ok named ∧
        named.reason = "Meltdown_LOAD_PFAULT" ∧ loop.sim.reset = {} :=
    ⟨_, _, _, rfl, rfl, rfl, rfl, rfl, rfl⟩
  rw [← numRetired] at stopped
  have finished := (round_of_prepared prepared).trans (detect_of_stopped stopped (by decide))
  exact ⟨_, _, named, data, labels, finished, found, classified, reason, kept, ram, behind, unstuck, reset⟩

/-- Loading two instructions again does not depend on what the DRAM holds. -/
theorem loadRound_twoInstructions {sim : Simulator} (geometry : sim.memory.geometry = .tiny)
    (initSize : sim.initSize = 0) (codeRegions : sim.codeRegions = [(0x80000000, 0x80000008)]) :
    ∃ data labels, Simulator.loadRound Simulator.cleanCopy Simulator.twoInstructions sim =
        .ok (8, ⟨{ sim.memory with data }, labels, 8, 0, [(0x80000000, 0x80000008)]⟩) := by
  have whole : min (8 : UInt64) 64 = 8 := by decide
  have all : min (8 : UInt64) 8 = 8 := by decide
  have none : min (0 : UInt64) 8 = 0 := by decide
  have rest : min (0 : UInt64) 56 = 0 := by decide
  simp [Simulator.loadRound, Simulator.twoInstructions, Simulator.fileLen, Simulator.taintAllMemory,
    Simulator.taintMemory, Simulator.baseAddr, Simulator.memSize, Simulator.loadProgramSections,
    Simulator.effectiveRegions, Simulator.dramOffsetToAddr, Simulator.loadSection, Simulator.bufferAt,
    Simulator.advance, Simulator.addrToDramOffset, Simulator.addCode, Simulator.addData,
    Simulator.loadBytes, Buffer.at, run_cons, run_nil, pure, bind, Except.bind, Except.pure, geometry, SimMem.Geometry.tiny, initSize, codeRegions,
    whole, all, none, rest]

/-- The second round starts from two different images. -/
theorem images_same_storing : ∃ state loaded,
    run (mainStep storingHost mdsArgs) (.all, storingStart) [meltdownRound] =
        .ok (.storeBuffer, state) ∧
      LoadedFor storingHost mdsArgs state meltdownRound loaded ∧ ¬ SameImage mdsArgs state loaded := by
  obtain ⟨crash, after, named, data, labels, finished, found, classified, reason, sim, ram, behind, -⟩ :=
    storingRound
  have again := mainStep_of_meltdown rfl finished found classified (reason ▸ rfl)
  have start : AtRoundStart .tiny (after.reset storingSpike) :=
    ⟨congrArg (fun sim => sim.memory.geometry) sim, rfl⟩
  obtain ⟨regs, warmed⟩ := doWarmup_keepLabels (after.reset storingSpike).bus meltdownRound.warmup
  obtain ⟨_, _, load⟩ := loadRound_twoInstructions start.geometry start.initSize
    (congrArg Simulator.codeRegions sim)
  have ready : LoadedFor storingHost mdsArgs (after.reset storingSpike) meltdownRound _ :=
    ⟨_, 8, warmed, load⟩
  refine ⟨after.reset storingSpike, _, (run_cons_of_ok again).trans rfl, ready, fun same => ?_⟩
  have alike : after.archSim.ram ⟨40, by decide⟩ = after.bus.sim.memory.data 40 :=
    (ready.sameImage_iff start (by decide)).mp same ⟨40, by decide⟩ (by decide)
  rw [ram, sim] at alike
  exact absurd (alike.trans behind) (by decide)

/-- The condition fails at that round, and the images differ for no other
reason. -/
theorem images_same_iff_storing : ∃ state,
    run (mainStep storingHost mdsArgs) (.all, storingStart) [meltdownRound] =
        .ok (.storeBuffer, state) ∧
      ∀ loaded, LoadedFor storingHost mdsArgs state meltdownRound loaded →
        (SameImage mdsArgs state loaded ↔ LeftAlike mdsArgs state) := by
  obtain ⟨crash, after, named, data, labels, finished, found, classified, reason, -⟩ := storingRound
  have again := mainStep_of_meltdown rfl finished found classified (reason ▸ rfl)
  have reached : run (mainStep storingHost mdsArgs) (.all, storingStart) [meltdownRound] =
      .ok (.storeBuffer, after.reset storingSpike) := (run_cons_of_ok again).trans rfl
  obtain ⟨-, -, same⟩ := images_same_iff rfl rfl (by decide) (fun _ => rfl) [meltdownRound] reached
  exact ⟨_, reached, same meltdownRound⟩

end PhantomTrails
