import PhantomTrails.ArchSim.Devices
import PhantomTrails.ArchSim.Reset
import PhantomTrails.ArchSim.Trace

namespace PhantomTrails

open Foundation Foundation.Machine

/-! # Inspecting a run

`getAccessedMem` and `getExecutedInsts` between the steps of a run, against
the history of what the tracers and the MMIO callbacks were told.
-/

def Stored (events : List TraceEvent) (addr : UInt64) : Prop :=
  ∃ event ∈ events, event.Covers .store addr

theorem stored_append {first second : List TraceEvent} {addr : UInt64} :
    Stored (first ++ second) addr ↔ Stored first addr ∨ Stored second addr := by
  simp only [Stored, List.mem_append, or_and_right, exists_or]

theorem fetched_append {first second : List TraceEvent} {addr : UInt64} :
    Fetched (first ++ second) addr ↔ Fetched first addr ∨ Fetched second addr := by
  simp only [Fetched, List.mem_append, or_and_right, exists_or]

theorem readFirst_append {first second : List TraceEvent} {addr : UInt64} :
    ReadFirst (first ++ second) addr ↔
      ReadFirst first addr ∨ ¬ Stored first addr ∧ ReadFirst second addr := by
  induction first with
  | nil => simp [Stored]
  | cons event rest ih =>
      have stored : Stored (event :: rest) addr ↔ event.Covers .store addr ∨ Stored rest addr := by
        simp [Stored]
      rw [List.cons_append, readFirst_cons, readFirst_cons, ih, stored]
      tauto

theorem MemRecorder.mem_foldl_trace_stores {recorder : MemRecorder} {events : List TraceEvent}
    {addr : UInt64} :
    addr ∈ (events.foldl trace recorder).stores ↔ addr ∈ recorder.stores ∨ Stored events addr := by
  induction events generalizing recorder with
  | nil => simp [Stored]
  | cons event rest ih =>
      rw [List.foldl_cons, ih, mem_trace_stores, or_assoc]
      simp [Stored]

namespace ArchSim

variable {Core Devices : Type} {ramSize : UInt64} {spike : Spike Core Devices ramSize}
  {config : Config} {sim next final : ArchSim Core Devices ramSize}

/-! ## What a step tells the recorders -/

def mmioRecorded (sim : ArchSim Core Devices ramSize) (byte : UInt64) : Prop :=
  byte ∈ mmioBytes sim.mmioLoads ++ mmioBytes sim.mmioStores

/-- The tracer calls among the events: none, unless the tracers are registered. -/
def calls (registered : Bool) (events : List SpikeEvent) : List TraceEvent :=
  if registered then events.flatMap asTrace else []

theorem calls_of_silent {registered : Bool} {event : SpikeEvent} (silent : asTrace event = []) :
    calls registered [event] = [] := by
  cases registered
  · rfl
  · simp [calls, silent]

theorem calls_cons (registered : Bool) (event : SpikeEvent) (rest : List SpikeEvent) :
    calls registered (event :: rest) = calls registered [event] ++ calls registered rest := by
  cases registered
  · rfl
  · simp [calls]

theorem mmioBytes_append (first second : List (UInt64 × Fin 256)) :
    mmioBytes (first ++ second) = mmioBytes first ++ mmioBytes second := List.flatMap_append

/-- The MMIO accesses that pass the check of their address. -/
def acceptedMmio (spike : Spike Core Devices ramSize) (events : List SpikeEvent) :
    List (UInt64 × Fin 256) :=
  (events.flatMap asMmio).filter fun access => mmioOk spike access.1 access.2

structure Heard (sim next : ArchSim Core Devices ramSize) (events : List TraceEvent)
    (accesses : List (UInt64 × Fin 256)) : Prop where
  memtracers : next.memtracersRegistered = sim.memtracersRegistered
  fetchRecorder : next.fetchRecorder = events.foldl FetchRecorder.trace sim.fetchRecorder
  memRecorder : next.memRecorder = events.foldl MemRecorder.trace sim.memRecorder
  mmio : ∀ byte, next.mmioRecorded byte ↔ sim.mmioRecorded byte ∨ byte ∈ mmioBytes accesses

theorem Heard.unchanged {events : List TraceEvent} (memtracers : next.memtracersRegistered = sim.memtracersRegistered)
    (fetchRecorder : next.fetchRecorder = events.foldl FetchRecorder.trace sim.fetchRecorder)
    (memRecorder : next.memRecorder = events.foldl MemRecorder.trace sim.memRecorder)
    (loads : next.mmioLoads = sim.mmioLoads) (stores : next.mmioStores = sim.mmioStores) :
    Heard sim next events [] :=
  ⟨memtracers, fetchRecorder, memRecorder, by simp [mmioRecorded, loads, stores, mmioBytes]⟩

theorem Heard.append {first second : List TraceEvent} {before after : List (UInt64 × Fin 256)}
    (start : Heard sim next first before) (rest : Heard next final second after) :
    Heard sim final (first ++ second) (before ++ after) where
  memtracers := rest.memtracers.trans start.memtracers
  fetchRecorder := by rw [List.foldl_append, ← start.fetchRecorder, rest.fetchRecorder]
  memRecorder := by rw [List.foldl_append, ← start.memRecorder, rest.memRecorder]
  mmio := by
    intro byte
    rw [rest.mmio, start.mmio, or_assoc]
    simp only [mmioBytes, List.flatMap_append, List.mem_append]

theorem heard_onEvent {event : SpikeEvent} (happened : onEvent spike config sim event = .ok next) :
    Heard sim next (calls sim.memtracersRegistered [event]) (acceptedMmio spike [event]) := by
  cases event with
  | trace event =>
      cases happened
      simp only [calls, traced]
      split <;> exact .unchanged rfl rfl rfl rfl rfl
  | jump pc newpc targetOffset =>
      obtain ⟨filters, -, same⟩ := bind_ok_iff.mp happened
      cases same
      rw [calls_of_silent rfl]
      exact .unchanged rfl rfl rfl rfl rfl
  | loaded pc addr | stored pc addr | trapped cause mtvec =>
      cases happened
      rw [calls_of_silent rfl]
      exact .unchanged rfl rfl rfl rfl rfl
  | mmioLoad addr len =>
      cases happened
      rw [calls_of_silent rfl]
      cases accepted : mmioOk spike addr len with
      | true =>
          simp only [mmioLoad, acceptedMmio, asMmio, accepted, List.flatMap_cons, List.flatMap_nil,
            List.append_nil, List.filter_cons_of_pos, List.filter_nil, if_true]
          refine ⟨rfl, rfl, rfl, fun byte => ?_⟩
          simp only [mmioRecorded, mmioBytes_append, List.mem_append]
          tauto
      | false =>
          simp only [mmioLoad, acceptedMmio, asMmio, accepted, List.flatMap_cons, List.flatMap_nil,
            List.append_nil, List.filter_nil, Bool.false_eq_true, if_false, not_false_eq_true,
            List.filter_cons_of_neg]
          exact .unchanged rfl rfl rfl rfl rfl
  | mmioStore addr len =>
      cases happened
      rw [calls_of_silent rfl]
      cases accepted : mmioOk spike addr len with
      | true =>
          simp only [mmioStore, acceptedMmio, asMmio, accepted, List.flatMap_cons, List.flatMap_nil,
            List.append_nil, List.filter_cons_of_pos, List.filter_nil, if_true]
          refine ⟨rfl, rfl, rfl, fun byte => ?_⟩
          simp only [mmioRecorded, mmioBytes_append, List.mem_append]
          tauto
      | false =>
          simp only [mmioStore, acceptedMmio, asMmio, accepted, List.flatMap_cons, List.flatMap_nil,
            List.append_nil, List.filter_nil, Bool.false_eq_true, if_false, not_false_eq_true,
            List.filter_cons_of_neg]
          exact .unchanged rfl rfl rfl rfl rfl

theorem heard_events {events : List SpikeEvent}
    (happened : Machine.run (onEvent spike config) sim events = .ok next) :
    Heard sim next (calls sim.memtracersRegistered events) (acceptedMmio spike events) := by
  induction events generalizing sim with
  | nil =>
      cases happened
      have silent : calls next.memtracersRegistered [] = [] := by simp [calls]
      rw [silent]
      exact .unchanged rfl rfl rfl rfl rfl
  | cons event rest ih =>
      obtain ⟨middle, first, happened⟩ := run_cons_ok_iff.mp happened
      have heard := heard_onEvent first
      have later := ih happened
      rw [heard.memtracers] at later
      have split : acceptedMmio spike (event :: rest) =
          acceptedMmio spike [event] ++ acceptedMmio spike rest := by simp [acceptedMmio]
      rw [calls_cons, split]
      exact heard.append later

def heard (sim : ArchSim Core Devices ramSize) (spike : Spike Core Devices ramSize) : List TraceEvent :=
  calls sim.memtracersRegistered (sim.effect spike).events

def accepted (sim : ArchSim Core Devices ramSize) (spike : Spike Core Devices ramSize) :
    List (UInt64 × Fin 256) :=
  acceptedMmio spike (sim.effect spike).events

theorem heard_step (stepped : step spike config sim = .ok next) :
    Heard sim next (sim.heard spike) (sim.accepted spike) := by
  have happened : Machine.run (onEvent spike config)
      { sim with
        core := (sim.effect spike).core
        ram := (sim.effect spike).ram
        devices := (sim.effect spike).devices } (sim.effect spike).events = .ok next := stepped
  have told := heard_events happened
  exact ⟨told.memtracers, told.fetchRecorder, told.memRecorder, told.mmio⟩

/-! ## Steps and queries -/

inductive Inspection where
  | step
  | getAccessedMem
  | getExecutedInsts

def inspect (spike : Spike Core Devices ramSize) (config : Config) :
    Machine (ArchSim Core Devices ramSize) Inspection Fault := fun sim inspection =>
  match inspection with
  | .step => sim.step spike config
  | .getAccessedMem => .ok sim.getAccessedMem.2
  | .getExecutedInsts => .ok sim

/-- The tracer calls up to the last call of `getAccessedMem`, those since, and
the MMIO accesses accepted so far. -/
structure History where
  queried : List TraceEvent := []
  recent : List TraceEvent := []
  mmio : List (UInt64 × Fin 256) := []

def History.traced (history : History) : List TraceEvent := history.queried ++ history.recent

def History.extend (spike : Spike Core Devices ramSize) (history : History)
    (sim : ArchSim Core Devices ramSize) : Inspection → History
  | .step =>
      { history with
        recent := history.recent ++ sim.heard spike
        mmio := history.mmio ++ sim.accepted spike }
  | .getAccessedMem => { history with queried := history.traced, recent := [] }
  | .getExecutedInsts => history

/-- What the recorders hold of the history. -/
structure Recalls (state : ArchSim Core Devices ramSize × History) : Prop where
  fetches : ∀ addr, addr ∈ state.1.fetchRecorder.fetches ↔ Fetched state.2.traced addr
  loads : ∀ addr, addr ∈ state.1.memRecorder.loads ↔
    ¬ Stored state.2.queried addr ∧ ReadFirst state.2.recent addr
  stores : ∀ addr, addr ∈ state.1.memRecorder.stores ↔ Stored state.2.traced addr
  mmio : ∀ byte, state.1.mmioRecorded byte ↔ byte ∈ mmioBytes state.2.mmio

theorem recalls_start (unrecorded : Unrecorded sim) : Recalls (sim, {}) where
  fetches := by simp [unrecorded.fetches, History.traced, Fetched]
  loads := by simp [unrecorded.loads]
  stores := by simp [unrecorded.stores, History.traced, Stored]
  mmio := by simp [mmioRecorded, unrecorded.mmioLoads, unrecorded.mmioStores, mmioBytes]

theorem recalls_step {history : History} (recalls : Recalls (sim, history))
    (stepped : step spike config sim = .ok next) :
    Recalls (next, history.extend spike sim .step) := by
  have heard := heard_step stepped
  have longer : (history.extend spike sim .step).traced = history.traced ++ sim.heard spike := by
    simp [History.extend, History.traced]
  constructor
  · intro addr
    rw [longer, fetched_append, heard.fetchRecorder, FetchRecorder.mem_foldl_trace, recalls.fetches]
  · intro addr
    have stores := recalls.stores addr
    rw [History.traced, stored_append] at stores
    rw [heard.memRecorder, MemRecorder.mem_foldl_trace, recalls.loads, stores]
    simp only [History.extend, readFirst_append]
    tauto
  · intro addr
    rw [longer, stored_append, heard.memRecorder, MemRecorder.mem_foldl_trace_stores, recalls.stores]
  · intro byte
    rw [heard.mmio, recalls.mmio]
    simp only [History.extend, mmioBytes_append, List.mem_append]

theorem recalls_keeps (spike : Spike Core Devices ramSize) (config : Config) :
    Keeps (withGhost (inspect spike config) (History.extend spike)) (fun _ _ => True) Recalls := by
  intro ⟨sim, history⟩ inspection ⟨next, later⟩ _ recalls happened
  obtain ⟨taken, rfl⟩ := withGhost_ok_iff.mp happened
  cases inspection with
  | step => exact recalls_step recalls taken
  | getAccessedMem =>
      cases taken
      refine ⟨?_, ?_, ?_, recalls.mmio⟩
      · simpa [History.extend, History.traced, getAccessedMem] using recalls.fetches
      · simp [History.extend]
      · simpa [History.extend, History.traced, getAccessedMem] using recalls.stores
  | getExecutedInsts =>
      cases taken
      exact recalls

/-- The answer a query has to give. -/
def Answers (config : Config) (state : ArchSim Core Devices ramSize × History) : Inspection → Prop
  | .step => True
  | .getAccessedMem => ∀ addr, addr ∈ state.1.getAccessedMem.1 ↔
      ReadFirst state.2.traced addr ∨ addr ∈ mmioBytes state.2.mmio
  | .getExecutedInsts => ∀ addr, addr ∈ state.1.getExecutedInsts config ↔
      Fetched state.2.traced addr ∧ ¬ OutsideRam config ramSize addr

/-- Each byte that was read first before an earlier call is a byte of MMIO, or
it was loaded again since that call and never stored before. -/
def LoadedAgain (state : ArchSim Core Devices ramSize × History) : Inspection → Prop
  | .getAccessedMem => ∀ addr, ReadFirst state.2.queried addr →
      addr ∈ mmioBytes state.2.mmio ∨ ¬ Stored state.2.queried addr ∧ ReadFirst state.2.recent addr
  | .step | .getExecutedInsts => True

theorem mem_getAccessedMem {history : History} (recalls : Recalls (sim, history)) (addr : UInt64) :
    addr ∈ sim.getAccessedMem.1 ↔
      (¬ Stored history.queried addr ∧ ReadFirst history.recent addr) ∨ addr ∈ mmioBytes history.mmio := by
  rw [getAccessedMem, mem_foldl_insert, recalls.loads, ← recalls.mmio]
  rfl

/-- The queries of a run give the right answers exactly if no byte read before
an earlier query is missing. -/
theorem answers_iff (spike : Spike Core Devices ramSize) (config : Config)
    (sim : ArchSim Core Devices ramSize) (unrecorded : Unrecorded sim) (inspections : List Inspection) :
    Along (withGhost (inspect spike config) (History.extend spike)) (Answers config) (sim, {}) inspections ↔
      Along (withGhost (inspect spike config) (History.extend spike)) LoadedAgain (sim, {}) inspections := by
  apply (recalls_keeps spike config).along_congr _ (along_of_forall _ (fun _ _ => trivial) _)
    (recalls_start unrecorded)
  intro ⟨sim, history⟩ inspection _ recalls
  cases inspection with
  | step => exact Iff.rfl
  | getAccessedMem =>
      apply forall_congr'
      intro addr
      rw [mem_getAccessedMem recalls, History.traced, readFirst_append]
      tauto
  | getExecutedInsts =>
      simp only [Answers, LoadedAgain, iff_true]
      intro addr
      rw [getExecutedInsts, Finset.mem_filter, recalls.fetches]
      rfl

def started : ArchSim UInt64 Unit 64 :=
  (fresh fetchAndLoad recording (fun _ => 0) () false).loadProgram recording twoCycles.program

theorem answers_iff_firstQuery :
    Along (withGhost (inspect fetchAndLoad recording) (History.extend fetchAndLoad)) (Answers recording)
      (started, {}) [.step, .step, .getAccessedMem, .getExecutedInsts] := by
  apply (answers_iff fetchAndLoad recording started ⟨rfl, rfl, rfl, rfl, rfl⟩ _).mpr
  refine ⟨trivial, fun booted inRom => ⟨trivial, fun loaded stepped => ⟨?_, fun _ _ => ⟨trivial, fun _ _ =>
    trivial⟩⟩⟩⟩
  obtain ⟨-, first⟩ := withGhost_ok_iff.mp inRom
  obtain ⟨-, second⟩ := withGhost_ok_iff.mp stepped
  intro addr before
  rw [second, first] at before
  exact absurd before (not_readFirst_nil addr)

/-- From the boot ROM to an instruction that loads; two queries follow, and the
first takes the loaded bytes out of the recorder. -/
theorem getAccessedMem_twice :
    (∃ booted, started.step fetchAndLoad recording = .ok booted ∧
      ∃ sim, booted.step fetchAndLoad recording = .ok sim ∧ 0x80000008 ∈ sim.getAccessedMem.1 ∧
      0x80000008 ∉ sim.getAccessedMem.2.getAccessedMem.1) ∧
    ¬ Along (withGhost (inspect fetchAndLoad recording) (History.extend fetchAndLoad)) (Answers recording)
      (started, {}) [.step, .step, .getAccessedMem, .getAccessedMem] := by
  refine ⟨⟨_, rfl, ?_⟩, fun answers => ?_⟩
  · exact ⟨_, rfl, by decide, by decide⟩
  have second := (((answers.2 _ rfl).2 _ rfl).2 _ rfl).1 0x80000008
  have loaded : ReadFirst [⟨0x10000, 4, .fetch⟩, ⟨0x80000000, 4, .fetch⟩, ⟨0x80000008, 8, .load⟩] 0x80000008 :=
    readFirst_cons.mpr (.inr ⟨by simp [TraceEvent.Covers], readFirst_cons.mpr (.inr
      ⟨by simp [TraceEvent.Covers], readFirst_cons.mpr (.inl ⟨rfl, 0, by decide, by decide⟩)⟩)⟩)
  exact absurd (second.mpr (.inl loaded)) (by decide)

end ArchSim

end PhantomTrails
