import PhantomTrails.FakeDRAM.Handshakes
import PhantomTrails.SimMem.Timing

namespace PhantomTrails.FakeDRAM

open Foundation Foundation.Machine

/-! # The response ports

Two promises of a bus slave, over every run of clock edges: a response that is
shown stays until it is taken, and neither the contents of the DRAM nor the
stored bytes can be told from anything but the data port.
-/

variable {addrBits idBits : Nat} {state next : FakeDRAM idBits} {edge : Edge addrBits idBits}

/-! ## Responses are held -/

structure ReadPort (idBits : Nat) where
  rId : BitVec idBits
  rResp : BitVec 2
  rData : BitVec 64
  rLast : Bool

structure WritePort (idBits : Nat) where
  bId : BitVec idBits
  bResp : BitVec 2

def Registers.readPort (regs : Registers idBits) : ReadPort idBits where
  rId := regs.rId
  rResp := regs.rResp
  rData := regs.rData
  rLast := regs.rLast

def Registers.writePort (regs : Registers idBits) : WritePort idBits where
  bId := regs.bId
  bResp := regs.bResp

/-- What `latch` makes of the beat in front. -/
def portOfBeat (front : SimMem.MemReadResponse) (word : BitVec 64) : ReadPort idBits where
  rId := (intResult front.id).setWidth idBits
  rResp := (intResult 0).setWidth 2
  rData := word
  rLast := front.last

def portOfResponse (front : UInt64) : WritePort idBits where
  bId := (intResult front).setWidth idBits
  bResp := (intResult 0).setWidth 2

/-- A register that claims a response shows the front of the queue behind it. -/
structure Fronts (state : FakeDRAM idBits) : Prop where
  beat : state.regs.rValid = true → ∃ front rest word, state.memory.readQueue = front :: rest ∧
    readLong front.data = .ok word ∧ state.regs.readPort = portOfBeat front word
  response : state.regs.bValid = true → ∃ front rest, state.memory.writeRespQueue = front :: rest ∧
    state.regs.writePort = portOfResponse front

theorem posedge_ordinary (ordinary : edge.reset = false) (moved : posedge state edge = .ok next) :
    state.memory.tick edge.tickArgs = .ok next.memory ∧ Fronts next ∧
      next.regs.rValid = next.memory.readDataValid ∧
      next.regs.bValid = next.memory.writeResponseValid := by
  simp only [posedge, ordinary, Bool.false_eq_true, if_false] at moved
  obtain ⟨⟨memory, signals⟩, ticked, same⟩ := bind_ok_iff.mp moved
  cases same
  simp only [memoryTick, bind_ok_iff, pure, Except.pure, Except.ok.injEq, Prod.mk.injEq] at ticked
  obtain ⟨after, ticked, word, loaded, rfl, rfl⟩ := ticked
  refine ⟨ticked, ⟨?_, ?_⟩, rfl, rfl⟩
  · intro valid
    cases waiting : after.readQueue with
    | nil => simp [latch, SimMem.readDataValid, waiting] at valid
    | cons front rest =>
        have bytes : after.readData = front.data := by simp [SimMem.readData, waiting]
        refine ⟨front, rest, word, rfl, bytes ▸ loaded, ?_⟩
        simp [latch, Registers.readPort, portOfBeat, SimMem.readDataId, SimMem.readDataResp,
          SimMem.isLastRead, waiting]
  · intro valid
    cases waiting : after.writeRespQueue with
    | nil => simp [latch, SimMem.writeResponseValid, waiting] at valid
    | cons front rest =>
        refine ⟨front, rest, rfl, ?_⟩
        simp [latch, Registers.writePort, portOfResponse, SimMem.writeResponseId,
          SimMem.writeResponse, waiting]

theorem fronts_keeps : Keeps (@posedge addrBits idBits) (fun _ _ => True) Fronts := by
  intro state edge next _ _ moved
  cases reset : edge.reset with
  | false => exact (posedge_ordinary reset moved).2.1
  | true =>
      rw [posedge, if_pos reset] at moved
      cases moved
      exact ⟨fun valid => absurd valid (by simp [Registers.clear]),
        fun valid => absurd valid (by simp [Registers.clear])⟩

theorem Fronts.beat_held (fronts : Fronts state) (ordinary : edge.reset = false)
    (moved : posedge state edge = .ok next) (valid : state.regs.rValid = true)
    (waits : edge.rReady = false) :
    next.regs.rValid = true ∧ next.regs.readPort = state.regs.readPort := by
  obtain ⟨ticked, after, shown, -⟩ := posedge_ordinary ordinary moved
  obtain ⟨front, rest, word, waiting, loaded, port⟩ := fronts.beat valid
  have kept := SimMem.next_reads ticked ordinary
  have quiet : state.memory.poppedBeats edge.tickArgs = [] := by
    simp [SimMem.poppedBeats, SimMem.fires, Edge.tickArgs, waits]
  rw [quiet, waiting, List.nil_append, List.cons_append] at kept
  have still : next.regs.rValid = true := by simp [shown, SimMem.readDataValid, ← kept]
  obtain ⟨front', rest', word', waiting', loaded', port'⟩ := after.beat still
  rw [← kept] at waiting'
  cases waiting'
  have same : word = word' := Except.ok.inj (loaded.symm.trans loaded')
  exact ⟨still, by rw [port, port', same]⟩

theorem Fronts.response_held (fronts : Fronts state) (ordinary : edge.reset = false)
    (moved : posedge state edge = .ok next) (valid : state.regs.bValid = true)
    (waits : edge.bReady = false) :
    next.regs.bValid = true ∧ next.regs.writePort = state.regs.writePort := by
  obtain ⟨ticked, after, -, shown⟩ := posedge_ordinary ordinary moved
  obtain ⟨front, rest, waiting, port⟩ := fronts.response valid
  have kept := SimMem.next_responses ticked ordinary
  have quiet : state.memory.poppedIds edge.tickArgs = [] := by
    simp [SimMem.poppedIds, SimMem.fires, Edge.tickArgs, waits]
  rw [quiet, waiting, List.nil_append, List.cons_append] at kept
  have still : next.regs.bValid = true := by simp [shown, SimMem.writeResponseValid, ← kept]
  obtain ⟨front', rest', waiting', port'⟩ := after.response still
  rw [← kept] at waiting'
  cases waiting'
  exact ⟨still, by rw [port, port']⟩

/-- Once shown, a read beat or a write response stays on its ports, unchanged,
until the master takes it or asserts reset, whatever happens on the other
channels. -/
theorem responses_held (geometry : SimMem.Geometry) (data : Store UInt8) (regs : Registers idBits)
    (edges : List (Edge addrBits idBits)) :
    Along posedge (fun state edge => edge.reset = false → ∀ next, posedge state edge = .ok next →
        (state.regs.rValid = true → edge.rReady = false →
          next.regs.rValid = true ∧ next.regs.readPort = state.regs.readPort) ∧
        (state.regs.bValid = true → edge.bReady = false →
          next.regs.bValid = true ∧ next.regs.writePort = state.regs.writePort))
      (underReset geometry data regs) edges := by
  have start : Fronts (underReset geometry data regs) :=
    ⟨fun valid => absurd valid (by simp [underReset, Registers.clear]),
      fun valid => absurd valid (by simp [underReset, Registers.clear])⟩
  apply fronts_keeps.along ?_ (along_of_forall _ (fun _ _ => trivial) _) start
  intro state edge _ fronts ordinary next moved
  exact ⟨fronts.beat_held ordinary moved, fronts.response_held ordinary moved⟩

/-! ## Timing tells nothing about the bytes -/

/-- All registers but the data port. -/
def Registers.control (regs : Registers idBits) : Registers idBits := { regs with rData := 0 }

structure SameControl (left right : FakeDRAM idBits) : Prop where
  memory : SimMem.SameTiming left.memory right.memory
  regs : left.regs.control = right.regs.control

theorem readLong_agree {bytes others : List UInt8} (length : bytes.length = others.length) :
    Agree (fun _ _ => True) (readLong bytes) (readLong others) := by
  simp only [readLong, length]
  split
  · trivial
  · rfl

theorem posedge_agree {left right : FakeDRAM idBits} (same : SameControl left right)
    (edge : Edge addrBits idBits) (wData : BitVec 64) :
    Agree SameControl (posedge left edge) (posedge right { edge with wData }) := by
  simp only [posedge]
  split
  · exact ⟨same.memory, congrArg Registers.clear same.regs⟩
  · simp only [memoryTick, bind_assoc, pure_bind]
    have bus : ({ edge with wData } : Edge addrBits idBits).tickArgs =
        { edge.tickArgs with wData := byteAt wData } := rfl
    rw [bus]
    apply (SimMem.tick_same same.memory edge.tickArgs (byteAt wData)).bind
    intro memory memory' same
    apply (readLong_agree same.length_readData).bind
    intro word word' _
    refine ⟨same, ?_⟩
    simp only [Registers.control, latch, SimMem.readAddrReady, SimMem.writeAddrReady,
      SimMem.writeDataReady, SimMem.readDataResp, SimMem.writeResponseValid, SimMem.writeResponseId,
      SimMem.writeResponse, same.store, same.responses, same.readDataValid, same.readDataId,
      same.isLastRead]

/-- Two systems that differ in their DRAM contents and in the bytes their
masters store fail together or show the same registers but for the data port,
after every sequence of edges. -/
theorem timing_hides_bytes (geometry : SimMem.Geometry) (data data' : Store UInt8)
    (regs : Registers idBits) (edges : List (Edge addrBits idBits × BitVec 64)) :
    Agree (fun left right => left.regs.control = right.regs.control)
      (run posedge (underReset geometry data regs) (edges.map fun edge => edge.1))
      (run posedge (underReset geometry data' regs)
        (edges.map fun edge => { edge.1 with wData := edge.2 })) := by
  rw [run_map, run_map]
  have start : SameControl (underReset geometry data regs) (underReset geometry data' regs) :=
    ⟨.fresh geometry data data', rfl⟩
  have simulates : ∀ (left right : FakeDRAM idBits) (edge : Edge addrBits idBits × BitVec 64),
      SameControl left right → Agree SameControl (posedge left edge.1)
        (posedge right { edge.1 with wData := edge.2 }) :=
    fun left right edge same => posedge_agree same edge.1 edge.2
  exact (run_agree simulates start edges).mono fun left right same => same.regs

end PhantomTrails.FakeDRAM
