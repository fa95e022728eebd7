import PhantomTrails.FakeDRAM.Model
import PhantomTrails.SimMem.Tick

namespace PhantomTrails.FakeDRAM

open Foundation Foundation.Machine

/-! # Handshakes at the ports

The ports show what the memory signalled after the previous edge; `tick`
decides on its live state.  The two agree as long as every change of the
memory is followed by a latch, which only the edges under reset skip.
-/

variable {addrBits idBits : Nat} {geometry : SimMem.Geometry} {memory next : SimMem}
  {edge : Edge addrBits idBits}

abbrev fires (state : FakeDRAM idBits) (edge : Edge addrBits idBits) : SimMem.Fires :=
  state.memory.fires edge.tickArgs

/-- On an edge outside reset a channel fires exactly when `valid` and `ready`
are high on its ports, and the beat and the response shown are the ones a
handshake pops. -/
structure PortsAgree (state : FakeDRAM idBits) (edge : Edge addrBits idBits) : Prop where
  ar : (state.fires edge).arFire = true ↔ edge.arValid = true ∧ state.regs.arReady = true
  aw : (state.fires edge).awFire = true ↔ edge.awValid = true ∧ state.regs.awReady = true
  w : (state.fires edge).wFire = true ↔ edge.wValid = true ∧ state.regs.wReady = true
  r : (state.fires edge).rFire = true ↔ state.regs.rValid = true ∧ edge.rReady = true
  b : (state.fires edge).bFire = true ↔ state.regs.bValid = true ∧ edge.bReady = true
  shownBeat : state.regs.rValid = true → ∃ front rest, state.memory.readQueue = front :: rest ∧
    state.regs.rId.toNat = front.id.toNat ∧
    (List.range 8).map (byteAt state.regs.rData) = front.data ∧
    state.regs.rLast = front.last
  shownId : state.regs.bValid = true → ∃ front rest, state.memory.writeRespQueue = front :: rest ∧
    state.regs.bId.toNat = front.toNat

/-- The AXI rule for the master: no request on the first edge after reset. -/
def ResetRule (earlier later : Edge addrBits idBits) : Prop :=
  earlier.reset = true → later.reset = false →
    later.arValid = false ∧ later.awValid = false ∧ later.wValid = false

/-- The ids still fit the id ports once `int` arguments have carried them. -/
def Edge.IdsFit (edge : Edge addrBits idBits) : Prop :=
  edge.tickArgs.arId.toNat < 2 ^ idBits ∧ edge.tickArgs.awId.toNat < 2 ^ idBits

/-- No beat and no response is left over for the master to take. -/
def Drained (state : FakeDRAM idBits) (edge : Edge addrBits idBits) : Prop :=
  ¬ (state.memory.readDataValid = true ∧ edge.rReady = true) ∧
    ¬ (state.memory.writeResponseValid = true ∧ edge.bReady = true)

/-- Ids of up to 31 bits are never negative `int` values. -/
theorem Edge.idsFit_of_narrow (narrow : idBits ≤ 31) (edge : Edge addrBits idBits) : edge.IdsFit := by
  have carried : ∀ id : BitVec idBits, (portArg id).toNat = id.toNat := by
    intro id
    have small : id.toNat < 2 ^ 31 :=
      Nat.lt_of_lt_of_le id.isLt (Nat.pow_le_pow_right (by decide) narrow)
    have wire : (id.setWidth 32).toNat = id.toNat := by
      rw [BitVec.toNat_setWidth, Nat.mod_eq_of_lt (by omega)]
    have positive : (id.setWidth 32).msb = false := by
      rw [BitVec.msb_eq_decide, wire]
      simpa using small
    rw [portArg, intArg, UInt64.toNat_ofBitVec, BitVec.toNat_signExtend, positive,
      BitVec.toNat_setWidth, wire]
    simp only [Bool.false_eq_true, if_false, Nat.add_zero]
    exact Nat.mod_eq_of_lt (by omega)
  simp only [IdsFit, tickArgs, carried]
  exact ⟨edge.arId.isLt, edge.awId.isLt⟩

theorem readLong_bytes {bytes : List UInt8} {word : BitVec 64} (loaded : readLong bytes = .ok word)
    (full : bytes.length = 8) : (List.range 8).map (byteAt word) = bytes := by
  have whole : bytes.take 8 = bytes := List.take_of_length_le (Nat.le_of_eq full)
  have small : ∀ digit ∈ bytes.map UInt8.toNat, digit < 256 := by
    intro digit member
    obtain ⟨byte, -, rfl⟩ := List.mem_map.mp member
    exact byte.toNat_lt
  have fits : Nat.ofDigits 256 (bytes.map UInt8.toNat) < 2 ^ 64 := by
    have bound := Nat.ofDigits_lt_base_pow_length (by decide) small
    rwa [List.length_map, full] at bound
  simp only [readLong, full, Nat.le_refl, if_true, whole, Except.ok.injEq] at loaded
  subst loaded
  apply List.ext_getElem (by simp [full]) fun lane low inside => ?_
  have split : bytes.drop lane = bytes[lane] :: bytes.drop (lane + 1) :=
    List.drop_eq_getElem_cons inside
  rw [List.getElem_map, List.getElem_range, byteAt, BitVec.toNat_ofNat, Nat.mod_eq_of_lt fits,
    Nat.ofDigits_div_pow_eq_ofDigits_drop lane (by decide) _ small, ← List.map_drop, split,
    List.map_cons, Nat.ofDigits_cons]
  apply UInt8.toNat_inj.mp
  rw [UInt8.toNat_ofNat', Nat.add_mul_mod_self_left]
  exact Nat.mod_eq_of_lt bytes[lane].toNat_lt

structure PortsFit (idBits : Nat) (memory : SimMem) : Prop where
  word : memory.geometry.wordSize = 8
  beats : ∀ beat ∈ memory.readQueue, beat.id.toNat < 2 ^ idBits ∧ beat.data.length = 8
  responses : ∀ id ∈ memory.writeRespQueue, id.toNat < 2 ^ idBits
  store : memory.curStore.id.toNat < 2 ^ idBits

theorem PortsFit.fresh (word : geometry.wordSize = 8) (data : Store UInt8) :
    PortsFit idBits (.fresh geometry data) where
  word := word
  beats := by simp [SimMem.fresh]
  responses := by simp [SimMem.fresh]
  store := Nat.two_pow_pos idBits

theorem PortsFit.tick (fit : PortsFit idBits memory) (ids : edge.IdsFit)
    (ordinary : edge.reset = false) (ticked : memory.tick edge.tickArgs = .ok next) :
    PortsFit idBits next where
  word := (congrArg SimMem.Geometry.wordSize (SimMem.next_geometry ticked)).trans fit.word
  beats := by
    intro beat member
    have moved : beat ∈ memory.readQueue ++ memory.pushedBeats edge.tickArgs := by
      rw [SimMem.next_reads ticked ordinary]
      exact List.mem_append_right _ member
    rcases List.mem_append.mp moved with waiting | pushed
    · exact fit.beats beat waiting
    · simp only [SimMem.pushedBeats, List.mem_ite_nil_right, List.mem_map] at pushed
      obtain ⟨-, k, -, rfl⟩ := pushed
      refine ⟨ids.1, ?_⟩
      simp only [SimMem.beat, Store.length_slice, SimMem.wordSize, fit.word]
      rfl
  responses := by
    intro id member
    have moved : id ∈ memory.writeRespQueue ++ memory.pushedIds edge.tickArgs := by
      rw [SimMem.next_responses ticked ordinary]
      exact List.mem_append_right _ member
    rcases List.mem_append.mp moved with waiting | pushed
    · exact fit.responses id waiting
    · simp only [SimMem.pushedIds, List.mem_ite_nil_right, List.mem_singleton] at pushed
      exact pushed.2 ▸ fit.store
  store := by
    rw [SimMem.next_curStore ticked, SimMem.storeAfter]
    split
    · exact ids.2
    · split
      · exact fit.store
      · exact fit.store

structure Shows (regs : Registers idBits) (memory : SimMem) : Prop where
  arReady : regs.arReady = memory.readAddrReady
  awReady : regs.awReady = memory.writeAddrReady
  wReady : regs.wReady = memory.writeDataReady
  rValid : regs.rValid = memory.readDataValid
  bValid : regs.bValid = memory.writeResponseValid
  beat : ∀ front rest, memory.readQueue = front :: rest →
    regs.rId.toNat = front.id.toNat ∧ (List.range 8).map (byteAt regs.rData) = front.data ∧
      regs.rLast = front.last
  response : ∀ front rest, memory.writeRespQueue = front :: rest → regs.bId.toNat = front.toNat

structure Quiet (regs : Registers idBits) : Prop where
  arReady : regs.arReady = false
  awReady : regs.awReady = false
  wReady : regs.wReady = false
  rValid : regs.rValid = false
  bValid : regs.bValid = false

theorem Quiet.clear (regs : Registers idBits) : Quiet regs.clear := ⟨rfl, rfl, rfl, rfl, rfl⟩

theorem intResult_toNat (narrow : idBits ≤ 32) {id : UInt64} (fits : id.toNat < 2 ^ idBits) :
    ((intResult id).setWidth idBits).toNat = id.toNat := by
  have small : id.toNat < 2 ^ 32 := Nat.lt_of_lt_of_le fits (Nat.pow_le_pow_right (by decide) narrow)
  rw [intResult, BitVec.toNat_setWidth, BitVec.toNat_setWidth, UInt64.toNat_toBitVec,
    Nat.mod_eq_of_lt small, Nat.mod_eq_of_lt fits]

theorem Shows.latch (narrow : idBits ≤ 32) (fit : PortsFit idBits memory) (ids : edge.IdsFit)
    (ordinary : edge.reset = false) {signals : Signals}
    (ticked : memoryTick memory edge = .ok (next, signals)) :
    PortsFit idBits next ∧ Shows (latch signals : Registers idBits) next := by
  simp only [memoryTick, bind_ok_iff, pure, Except.pure, Except.ok.injEq, Prod.mk.injEq] at ticked
  obtain ⟨after, ticked, word, loaded, rfl, rfl⟩ := ticked
  have kept := fit.tick ids ordinary ticked
  refine ⟨kept, rfl, rfl, rfl, rfl, rfl, ?_, ?_⟩
  · intro front rest waiting
    obtain ⟨idFits, full⟩ := kept.beats front (by simp [waiting])
    have shown : after.readDataId = front.id := by simp [SimMem.readDataId, waiting]
    have bytes : after.readData = front.data := by simp [SimMem.readData, waiting]
    rw [bytes] at loaded
    refine ⟨?_, readLong_bytes loaded full, ?_⟩
    · simp only [FakeDRAM.latch, shown]
      exact intResult_toNat narrow idFits
    · simp [FakeDRAM.latch, SimMem.isLastRead, waiting]
  · intro front rest waiting
    have shown : after.writeResponseId = front := by simp [SimMem.writeResponseId, waiting]
    simp only [FakeDRAM.latch, shown]
    exact intResult_toNat narrow (kept.responses front (by simp [waiting]))

/-- The state, and the edge before: after a reset edge the registers are
quiet, after any other they show the memory. -/
structure Latched (state : FakeDRAM idBits × Edge addrBits idBits) : Prop where
  fit : PortsFit idBits state.1.memory
  quiet : state.2.reset = true → Quiet state.1.regs
  shows : state.2.reset = false → Shows state.1.regs state.1.memory

theorem latched_keeps (narrow : idBits ≤ 32) :
    Keeps (withGhost (@posedge addrBits idBits) previous)
      (fun state edge => ResetRule state.2 edge ∧ edge.IdsFit) Latched := by
  intro state edge next legal latched taken
  obtain ⟨after, last⟩ := next
  obtain ⟨moved, recorded⟩ := withGhost_ok_iff.mp taken
  have same : edge = last := recorded.symm
  subst same
  simp only [posedge] at moved
  split at moved
  · rename_i reset
    cases moved
    exact ⟨latched.fit, fun _ => .clear _, fun ordinary => by simp [reset] at ordinary⟩
  · rename_i ordinary
    have ordinary : edge.reset = false := by simpa using ordinary
    obtain ⟨⟨memory, signals⟩, ticked, same⟩ := bind_ok_iff.mp moved
    cases same
    obtain ⟨fit, shows⟩ := Shows.latch narrow latched.fit legal.2 ordinary ticked
    exact ⟨fit, fun reset => by simp [ordinary] at reset, fun _ => shows⟩

theorem Shows.portsAgree {state : FakeDRAM idBits} (shows : Shows state.regs state.memory)
    (ordinary : edge.reset = false) : PortsAgree state edge where
  ar := by simp [SimMem.fires, Edge.tickArgs, ordinary, shows.arReady]
  aw := by simp [SimMem.fires, Edge.tickArgs, ordinary, shows.awReady]
  w := by simp [SimMem.fires, Edge.tickArgs, ordinary, shows.wReady]
  r := by simp [SimMem.fires, Edge.tickArgs, ordinary, shows.rValid]
  b := by simp [SimMem.fires, Edge.tickArgs, ordinary, shows.bValid]
  shownBeat := by
    intro valid
    rw [shows.rValid, SimMem.readDataValid] at valid
    cases waiting : state.memory.readQueue with
    | nil => simp [waiting] at valid
    | cons front rest => exact ⟨front, rest, rfl, shows.beat front rest waiting⟩
  shownId := by
    intro valid
    rw [shows.bValid, SimMem.writeResponseValid] at valid
    cases waiting : state.memory.writeRespQueue with
    | nil => simp [waiting] at valid
    | cons front rest => exact ⟨front, rest, rfl, shows.response front rest waiting⟩

/-- Quiet registers agree exactly when the memory has nothing for a master
that is ready to take it. -/
theorem Quiet.portsAgree_iff {state : FakeDRAM idBits} (quiet : Quiet state.regs)
    (ordinary : edge.reset = false)
    (silent : edge.arValid = false ∧ edge.awValid = false ∧ edge.wValid = false) :
    PortsAgree state edge ↔ Drained state edge := by
  constructor
  · intro agree
    have read := agree.r
    have response := agree.b
    simp only [SimMem.fires, Edge.tickArgs, ordinary, quiet.rValid, quiet.bValid, Bool.not_false,
      Bool.true_and, Bool.and_eq_true, Bool.false_eq_true, false_and, iff_false] at read response
    exact ⟨read, response⟩
  · rintro ⟨read, response⟩
    refine ⟨?_, ?_, ?_, ?_, ?_, ?_, ?_⟩
    · simp [SimMem.fires, Edge.tickArgs, silent.1]
    · simp [SimMem.fires, Edge.tickArgs, silent.2.1]
    · simp [SimMem.fires, Edge.tickArgs, silent.2.2]
    · simpa [SimMem.fires, Edge.tickArgs, ordinary, quiet.rValid] using read
    · simpa [SimMem.fires, Edge.tickArgs, ordinary, quiet.bValid] using response
    · simp [quiet.rValid]
    · simp [quiet.bValid]

/-- A fresh memory behind registers that a reset edge has cleared. -/
def underReset (geometry : SimMem.Geometry) (data : Store UInt8) (regs : Registers idBits) :
    FakeDRAM idBits where
  memory := .fresh geometry data
  regs := regs.clear

/-- The wrapper and the memory agree on every handshake of a run exactly when
each first edge after a reset finds the memory drained. -/
theorem handshakes_agree_iff (narrow : idBits ≤ 32) (word : geometry.wordSize = 8)
    (data : Store UInt8) (regs : Registers idBits) (first : Edge addrBits idBits)
    (edges : List (Edge addrBits idBits)) (reset : first.reset = true)
    (axi : (first :: edges).IsChain ResetRule) (ids : ∀ edge ∈ edges, edge.IdsFit) :
    Along posedge (fun state edge => edge.reset = false → PortsAgree state edge)
        (underReset geometry data regs) edges ↔
      Along (withGhost posedge previous)
        (fun state edge => state.2.reset = true → edge.reset = false → Drained state.1 edge)
        (underReset geometry data regs, first) edges := by
  have lawful := (@along_previous_of_isChain _ _ _ posedge _ _ _ axi
    (underReset geometry data regs)).and (along_of_forall _ ids _)
  have start : Latched (underReset geometry data regs, first) :=
    ⟨.fresh word data, fun _ => .clear regs, fun ordinary => by simp [reset] at ordinary⟩
  rw [← @along_withGhost _ _ _ _ posedge previous _ _ first]
  apply (latched_keeps narrow).along_congr ?_ lawful start
  intro state edge legal latched
  cases before : state.2.reset with
  | true =>
      simp only [true_implies]
      apply forall_congr' fun ordinary => ?_
      exact (latched.quiet before).portsAgree_iff ordinary (legal.1 before ordinary)
  | false =>
      simp only [Bool.false_eq_true, false_implies, iff_true]
      exact (latched.shows before).portsAgree

def resetEdge : Edge 32 5 := { reset := true }

def oneBeat : List (Edge 32 5) :=
  [{}, { arValid := true, arAddr := 0x80000008, arId := 3, arSize := 3 }, {}, { rReady := true }]

theorem handshakes_agree_iff_oneBeat :
    Along posedge (fun state edge => edge.reset = false → PortsAgree state edge)
      (underReset .tiny (fun offset => UInt8.ofNat offset) {}) oneBeat := by
  have axi : (resetEdge :: oneBeat).IsChain ResetRule := by
    simp [resetEdge, oneBeat, ResetRule]
  have ids : ∀ edge ∈ oneBeat, edge.IdsFit := fun edge _ => edge.idsFit_of_narrow (by decide)
  apply (handshakes_agree_iff (by decide) rfl (fun offset => UInt8.ofNat offset) {} resetEdge oneBeat
    rfl axi ids).mpr ?_
  apply along_cons_of_ok rfl (fun _ _ => by simp [Drained, underReset]) ?_
  apply along_cons_of_ok rfl (fun reset => by cases reset) ?_
  apply along_cons_of_ok rfl (fun reset => by cases reset) ?_
  exact along_cons_of_ok rfl (fun reset => by cases reset) trivial

/-- One beat is requested, and reset is asserted again before the master takes
it. -/
def resetWithBeat : List (Edge 32 5) :=
  [{}, { arValid := true, arAddr := 0x80000008, arId := 3, arSize := 3 }, resetEdge,
    { rReady := true }]

/-- The beat survives the reset, and `tick` pops it while `r_valid` is low. -/
theorem handshakes_resetWithBeat :
    (resetEdge :: resetWithBeat).IsChain ResetRule ∧ (∀ edge ∈ resetWithBeat, edge.IdsFit) ∧
      ¬ Along posedge (fun state edge => edge.reset = false → PortsAgree state edge)
        (underReset .tiny (fun offset => UInt8.ofNat offset) {}) resetWithBeat := by
  refine ⟨by simp [resetEdge, resetWithBeat, ResetRule],
    fun edge _ => edge.idsFit_of_narrow (by decide), fun agree => ?_⟩
  have last := (((agree.2 _ rfl).2 _ rfl).2 _ rfl).1 rfl
  have shown := last.r.mp rfl
  exact absurd shown.1 (by decide)

end PhantomTrails.FakeDRAM
