import PhantomTrails.ArchSim.Model

namespace PhantomTrails

open Foundation Foundation.Machine

/-! # What a run records

The recorders are folds over the tracer events of a run.  A byte is in the
fetched set if some event fetches it, and in the loaded set if some load of it
has no store of it before.
-/

def Fetched (events : List TraceEvent) (addr : UInt64) : Prop :=
  ∃ event ∈ events, event.Covers .fetch addr

def ReadFirst (events : List TraceEvent) (addr : UInt64) : Prop :=
  ∃ before event after, events = before ++ event :: after ∧ event.Covers .load addr ∧
    ∀ earlier ∈ before, ¬ earlier.Covers .store addr

@[simp] theorem not_readFirst_nil (addr : UInt64) : ¬ ReadFirst [] addr := by
  simp [ReadFirst]

theorem readFirst_cons {event : TraceEvent} {rest : List TraceEvent} {addr : UInt64} :
    ReadFirst (event :: rest) addr ↔
      event.Covers .load addr ∨ ¬ event.Covers .store addr ∧ ReadFirst rest addr := by
  constructor
  · intro ⟨before, load, after, split, loads, unstored⟩
    cases before with
    | nil =>
        obtain ⟨rfl, -⟩ := List.cons.inj split
        exact .inl loads
    | cons first before =>
        obtain ⟨rfl, restSplit⟩ := List.cons.inj split
        obtain ⟨now, later⟩ := List.forall_mem_cons.mp unstored
        exact .inr ⟨now, before, load, after, restSplit, loads, later⟩
  · intro either
    rcases either with loads | ⟨now, before, load, after, split, loads, later⟩
    · exact ⟨[], event, rest, rfl, loads, by simp⟩
    · exact ⟨event :: before, load, after, by rw [split]; rfl, loads, List.forall_mem_cons.mpr ⟨now, later⟩⟩

theorem FetchRecorder.mem_foldl_trace {recorder : FetchRecorder} {events : List TraceEvent}
    {addr : UInt64} :
    addr ∈ (events.foldl trace recorder).fetches ↔ addr ∈ recorder.fetches ∨ Fetched events addr := by
  induction events generalizing recorder with
  | nil => simp [Fetched]
  | cons event rest ih =>
      rw [List.foldl_cons, ih, mem_trace, or_assoc]
      simp [Fetched]

theorem MemRecorder.mem_foldl_trace {recorder : MemRecorder} {events : List TraceEvent}
    {addr : UInt64} :
    addr ∈ (events.foldl trace recorder).loads ↔
      addr ∈ recorder.loads ∨ addr ∉ recorder.stores ∧ ReadFirst events addr := by
  induction events generalizing recorder with
  | nil => simp
  | cons event rest ih =>
      rw [List.foldl_cons, ih, mem_trace_loads, mem_trace_stores, readFirst_cons]
      by_cases stored : addr ∈ recorder.stores
      · simp [stored]
      · simp only [stored, not_false_eq_true, and_true, true_and, or_assoc, false_or]

namespace ArchSim

variable {Core Devices : Type} {ramSize : UInt64}
  {spike : Spike Core Devices ramSize} {config : Config} {sim next final : ArchSim Core Devices ramSize}

def asTrace : SpikeEvent → List TraceEvent
  | .trace event => [event]
  | _ => []

def stepTrace (sim : ArchSim Core Devices ramSize) (spike : Spike Core Devices ramSize) :
    List TraceEvent :=
  (sim.effect spike).events.flatMap asTrace

/-- The tracer events of the loop, up to the step that leaves it. -/
def loopTrace (spike : Spike Core Devices ramSize) (config : Config) :
    (remaining : Nat) → ArchSim Core Devices ramSize → List TraceEvent
  | 0, _ => []
  | remaining + 1, sim =>
      match sim.step spike config with
      | .error _ => []
      | .ok next =>
          sim.stepTrace spike ++
            if next.earlyExit spike || config.filtersEnabled && next.discard config then []
            else loopTrace spike config remaining next

structure Recorded (sim next : ArchSim Core Devices ramSize) (events : List TraceEvent) : Prop where
  memtracers : next.memtracersRegistered = true
  fetchRecorder : next.fetchRecorder = events.foldl FetchRecorder.trace sim.fetchRecorder
  memRecorder : next.memRecorder = events.foldl MemRecorder.trace sim.memRecorder

theorem Recorded.append {first second : List TraceEvent} (before : Recorded sim next first)
    (after : Recorded next final second) : Recorded sim final (first ++ second) where
  memtracers := after.memtracers
  fetchRecorder := by rw [List.foldl_append, ← before.fetchRecorder, after.fetchRecorder]
  memRecorder := by rw [List.foldl_append, ← before.memRecorder, after.memRecorder]

theorem recorded_onEvent {event : SpikeEvent} (registered : sim.memtracersRegistered = true)
    (happened : onEvent spike config sim event = .ok next) : Recorded sim next (asTrace event) := by
  cases event with
  | trace event =>
      cases happened
      simp only [traced, registered, if_true]
      exact ⟨rfl, rfl, rfl⟩
  | jump pc newpc targetOffset =>
      obtain ⟨filters, -, same⟩ := bind_ok_iff.mp happened
      cases same
      exact ⟨registered, rfl, rfl⟩
  | loaded pc addr | stored pc addr | trapped cause mtvec =>
      cases happened
      exact ⟨registered, rfl, rfl⟩
  | mmioLoad addr len =>
      cases happened
      simp only [mmioLoad]
      split <;> exact ⟨registered, rfl, rfl⟩
  | mmioStore addr len =>
      cases happened
      simp only [mmioStore]
      split <;> exact ⟨registered, rfl, rfl⟩

theorem recorded_events {events : List SpikeEvent} (registered : sim.memtracersRegistered = true)
    (happened : Machine.run (onEvent spike config) sim events = .ok next) :
    Recorded sim next (events.flatMap asTrace) := by
  induction events generalizing sim with
  | nil =>
      cases happened
      exact ⟨registered, rfl, rfl⟩
  | cons event rest ih =>
      obtain ⟨middle, first, happened⟩ := run_cons_ok_iff.mp happened
      have heard := recorded_onEvent registered first
      exact heard.append (ih heard.memtracers happened)

theorem recorded_step (registered : sim.memtracersRegistered = true)
    (stepped : step spike config sim = .ok next) : Recorded sim next (sim.stepTrace spike) := by
  have happened : Machine.run (onEvent spike config)
      { sim with
        core := (sim.effect spike).core
        ram := (sim.effect spike).ram
        devices := (sim.effect spike).devices } (sim.effect spike).events = .ok next := stepped
  have heard := recorded_events (by exact registered) happened
  exact ⟨heard.memtracers, heard.fetchRecorder, heard.memRecorder⟩

theorem recorded_runLoop {remaining : Nat} {tick ticks : UInt64}
    (registered : sim.memtracersRegistered = true)
    (ran : runLoop spike config remaining tick sim = .ok (ticks, final)) :
    Recorded sim final (loopTrace spike config remaining sim) := by
  induction remaining generalizing tick sim with
  | zero =>
      cases ran
      exact ⟨registered, rfl, rfl⟩
  | succ remaining ih =>
      obtain ⟨next, stepped, ran⟩ := bind_ok_iff.mp ran
      have heard := recorded_step registered stepped
      simp only [loopTrace, stepped]
      apply heard.append ?_
      cases exits : next.earlyExit spike with
      | true =>
          simp only [exits, if_true] at ran
          cases ran
          exact ⟨heard.memtracers, rfl, rfl⟩
      | false =>
          cases discards : config.filtersEnabled && next.discard config with
          | true =>
              simp only [exits, discards, Bool.false_eq_true, if_false, if_true] at ran
              cases ran
              exact ⟨heard.memtracers, rfl, rfl⟩
          | false =>
              simp only [exits, discards, Bool.false_eq_true, if_false] at ran
              exact ih heard.memtracers ran

/-! ## The result of a run -/

def OutsideRam (config : Config) (ramSize addr : UInt64) : Prop :=
  addr < config.ramBase ∨ addr ≥ config.ramBase + ramSize

def MmioOutsideRam (config : Config) (ramSize : UInt64) : SpikeEvent → Prop
  | .mmioLoad addr len | .mmioStore addr len =>
      ∀ i < len.val, OutsideRam config ramSize (addr + UInt64.ofNat i)
  | _ => True

def MmioRecordedOutside (config : Config) (sim : ArchSim Core Devices ramSize) : Prop :=
  ∀ addr ∈ mmioBytes sim.mmioLoads ++ mmioBytes sim.mmioStores, OutsideRam config ramSize addr

theorem mmioBytes_append_singleton {accesses : List (UInt64 × Fin 256)} {addr : UInt64} {len : Fin 256}
    {outside : UInt64 → Prop} (recorded : ∀ byte ∈ mmioBytes accesses, outside byte)
    (now : ∀ i < len.val, outside (addr + UInt64.ofNat i)) :
    ∀ byte ∈ mmioBytes (accesses ++ [(addr, len)]), outside byte := by
  intro byte member
  simp only [mmioBytes, List.flatMap_append, List.mem_append, List.flatMap_cons, List.flatMap_nil,
    List.append_nil, List.mem_map, List.mem_range] at member
  rcases member with before | ⟨i, inside, rfl⟩
  · exact recorded byte before
  · exact now i inside

theorem mmioRecordedOutside_keeps (spike : Spike Core Devices ramSize) (config : Config) :
    Keeps (onEvent spike config) (fun _ event => MmioOutsideRam config ramSize event)
      (MmioRecordedOutside config) := by
  intro sim event next outside recorded happened
  cases event with
  | trace event =>
      cases happened
      rw [traced]
      split <;> exact recorded
  | jump pc newpc targetOffset =>
      obtain ⟨filters, -, same⟩ := bind_ok_iff.mp happened
      cases same
      exact recorded
  | loaded pc addr | stored pc addr | trapped cause mtvec =>
      cases happened
      exact recorded
  | mmioLoad addr len =>
      cases happened
      simp only [mmioLoad]
      split
      · obtain ⟨loads, stores⟩ := List.forall_mem_append.mp recorded
        exact List.forall_mem_append.mpr ⟨mmioBytes_append_singleton loads outside, stores⟩
      · exact recorded
  | mmioStore addr len =>
      cases happened
      simp only [mmioStore]
      split
      · obtain ⟨loads, stores⟩ := List.forall_mem_append.mp recorded
        exact List.forall_mem_append.mpr ⟨loads, mmioBytes_append_singleton stores outside⟩
      · exact recorded

structure ReadyToRecord (sim : ArchSim Core Devices ramSize) : Prop where
  memtracers : sim.memtracersRegistered = true
  fetches : sim.fetchRecorder.fetches = ∅
  loads : sim.memRecorder.loads = ∅
  stores : sim.memRecorder.stores = ∅
  mmioLoads : sim.mmioLoads = []
  mmioStores : sim.mmioStores = []

def runTrace (spike : Spike Core Devices ramSize) (config : Config) (sim : ArchSim Core Devices ramSize)
    (program : Program) (maxCycles : UInt64) : List TraceEvent :=
  loopTrace spike config maxCycles.toNat (sim.loadProgram config program)

/-- Of the RAM, the result of an accepted run lists exactly the bytes that
were fetched and the bytes that were read before they were written. -/
theorem runSpikeSim_exact {program : Program} {maxCycles : UInt64} {result : SimResult}
    (ready : ReadyToRecord sim) (raises : Raises spike (MmioOutsideRam config ramSize))
    (ran : runSpikeSim spike config sim program maxCycles = .ok (result, final))
    (accepted : result.addrs ≠ []) (addr : UInt64) (inside : ¬ OutsideRam config ramSize addr) :
    (addr ∈ result.insts ↔ Fetched (runTrace spike config sim program maxCycles) addr) ∧
      (addr ∈ result.addrs ↔ ReadFirst (runTrace spike config sim program maxCycles) addr) := by
  obtain ⟨⟨ticks, last⟩, looped, rest⟩ := bind_ok_iff.mp ran
  have heard := recorded_runLoop (by exact ready.memtracers) looped
  have outside : MmioRecordedOutside config last := by
    have keeps := step_keeps raises (mmioRecordedOutside_keeps spike config) fun _ _ _ _ kept => kept
    apply runLoop_keeps keeps ?_ looped
    intro byte member
    simp [loadProgram, ready.mmioLoads, ready.mmioStores, mmioBytes] at member
  by_cases discarded : ticks = 0
  · simp only [discarded, if_true] at rest
    cases rest
    exact absurd rfl accepted
  · simp only [discarded, if_false] at rest
    cases rest
    have fetched : addr ∈ last.fetchRecorder.fetches ↔
        Fetched (runTrace spike config sim program maxCycles) addr := by
      rw [heard.fetchRecorder, FetchRecorder.mem_foldl_trace]
      simp [loadProgram, ready.fetches, runTrace]
    have loaded : addr ∈ last.memRecorder.loads ↔
        ReadFirst (runTrace spike config sim program maxCycles) addr := by
      rw [heard.memRecorder, MemRecorder.mem_foldl_trace]
      simp [loadProgram, ready.loads, ready.stores, runTrace]
    rw [← fetched, ← loaded, Finset.mem_sort, Finset.mem_sort]
    constructor
    · rw [getExecutedInsts, Finset.mem_filter]
      exact and_iff_left inside
    · rw [getAccessedMem, mem_foldl_insert]
      exact or_iff_left fun member => inside (outside addr member)

end ArchSim

end PhantomTrails
