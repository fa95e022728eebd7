import Mathlib.Data.Nat.ModEq
import PhantomTrails.FakeDRAM.Handshakes
import PhantomTrails.SimMem.WriteData
import PhantomTrails.Simulator.Loader

namespace PhantomTrails.Simulator

open Foundation Foundation.Machine

/-! # The DRAM behind the bus

The driver finds an address by subtracting the base.  The bus carries the same
address as an `int`; its conversion to 64 bits extends the sign, and the memory
reduces the result modulo its size.
-/

variable {addrBits idBits : Nat}

/-- The simulator, and the registers of the DRAM wrapper in its `top`. -/
structure OnBus (idBits : Nat) where
  sim : Simulator
  regs : FakeDRAM.Registers idBits

/-- How a clock edge moves the taint labels; the sanitizer decides. -/
abbrev LabelTrack (addrBits idBits : Nat) :=
  SimMem → Store UInt8 → FakeDRAM.Edge addrBits idBits → Store UInt8

def OnBus.posedge (track : LabelTrack addrBits idBits) :
    Machine (OnBus idBits) (FakeDRAM.Edge addrBits idBits) Fault := fun state edge => do
  let dram ← FakeDRAM.posedge ⟨state.sim.memory, state.regs⟩ edge
  pure {
    sim := { state.sim with
      memory := dram.memory
      labels := track state.sim.memory state.sim.labels edge }
    regs := dram.regs }

/-- What reaches the DRAM: a load by the driver, or a clock edge. -/
inductive Access (addrBits idBits : Nat) where
  | load (buf : Option Buffer) (startAddr len : UInt64)
  | clock (edge : FakeDRAM.Edge addrBits idBits)

def Access.perform (copy : LabelCopy) (track : LabelTrack addrBits idBits) :
    Machine (OnBus idBits) (Access addrBits idBits) Fault
  | state, .load buf startAddr len => do
      let (_, sim) ← state.sim.loadBytes copy buf startAddr len
      pure { state with sim }
  | state, .clock edge => state.posedge track edge

/-- The bytes an access stores to: those a load copies, and the lanes that an
accepted data beat makes `write` copy. -/
def Access.Overwrites (state : OnBus idBits) (offset : Nat) : Access addrBits idBits → Prop
  | .load none _ _ => False
  | .load (some _) startAddr len =>
      ¬ (startAddr < state.sim.baseAddr ∨ startAddr ≥ state.sim.baseAddr + state.sim.memSize) ∧
        state.sim.InRange startAddr.toNat len.toNat offset
  | .clock edge =>
      (state.sim.memory.fires edge.tickArgs).wFire = true ∧
        state.sim.memory.wordBase ≤ offset ∧
        offset < state.sim.memory.wordBase + state.sim.memory.wordSize.toNat ∧
        state.sim.memory.Copied edge.tickArgs (offset - state.sim.memory.wordBase)

/-- The geometries the driver constructs: whole words, a size that is a power
of two, a base that is a multiple of it, and 32-bit addresses. -/
structure DriverGeometry (geometry : SimMem.Geometry) : Prop where
  word : geometry.wordSize = 8
  words : 8 ∣ geometry.memSize.toNat
  power : ∃ exponent, geometry.memSize.toNat = 2 ^ exponent
  small : geometry.memSize.toNat ≤ 2 ^ 31
  placed : geometry.memSize.toNat ∣ geometry.baseAddr.toNat
  reach : geometry.baseAddr.toNat + geometry.memSize.toNat ≤ 2 ^ 32

variable {geometry : SimMem.Geometry} {copy : LabelCopy} {track : LabelTrack addrBits idBits}
  {state next final : OnBus idBits} {access : Access addrBits idBits}
  {edge : FakeDRAM.Edge addrBits idBits}

theorem DriverGeometry.divides (driver : DriverGeometry geometry) : geometry.memSize.toNat ∣ 2 ^ 32 := by
  obtain ⟨exponent, power⟩ := driver.power
  have small := driver.small
  rw [power] at small ⊢
  have bound : exponent ≤ 31 := (Nat.pow_le_pow_iff_right (by decide)).mp small
  exact Nat.pow_dvd_pow 2 (by omega)

theorem DriverGeometry.tiled (driver : DriverGeometry geometry) : SimMem.WordTiled geometry := by
  refine ⟨driver.word, driver.words, ?_⟩
  obtain ⟨exponent, power⟩ := driver.power
  rw [power]
  exact Nat.two_pow_pos exponent

/-! ## Two ways to an offset -/

/-- Neither the truncation to an `int` nor the sign extension shows modulo a
size that divides `2 ^ 32`. -/
theorem portArg_mod {size : Nat} (divides : size ∣ 2 ^ 32) (port : BitVec addrBits) :
    (FakeDRAM.portArg port).toNat ≡ port.toNat [MOD size] := by
  have wide : size ∣ 2 ^ 64 - 2 ^ 32 := Nat.dvd_sub (divides.trans (by decide)) divides
  have wire : (port.setWidth 32).toNat ≡ port.toNat [MOD size] := by
    rw [BitVec.toNat_setWidth]
    exact (Nat.mod_modEq _ _).of_dvd divides
  rw [FakeDRAM.portArg, FakeDRAM.intArg, UInt64.toNat_ofBitVec, BitVec.toNat_signExtend,
    BitVec.toNat_setWidth, Nat.mod_eq_of_lt (Nat.lt_trans (port.setWidth 32).isLt (by decide))]
  split
  · exact ((Nat.modEq_zero_iff_dvd.mpr wide).add_left _).trans wire
  · exact wire

theorem DriverGeometry.mod_eq (driver : DriverGeometry geometry) {addr : Nat}
    (lower : geometry.baseAddr.toNat ≤ addr)
    (upper : addr < geometry.baseAddr.toNat + geometry.memSize.toNat) :
    addr % geometry.memSize.toNat = addr - geometry.baseAddr.toNat := by
  obtain ⟨blocks, base⟩ := driver.placed
  obtain ⟨offset, rfl⟩ := Nat.exists_eq_add_of_le lower
  rw [Nat.add_sub_cancel_left, base, Nat.mul_add_mod]
  exact Nat.mod_eq_of_lt (by omega)

/-- The offset of the driver is the one the memory computes from the port. -/
theorem addrToDramOffset_eq_mod {sim : Simulator} (driver : DriverGeometry sim.memory.geometry)
    {addr : UInt64} (port : BitVec addrBits) (carried : port.toNat = addr.toNat)
    (lower : sim.baseAddr.toNat ≤ addr.toNat)
    (upper : addr.toNat < sim.baseAddr.toNat + sim.memSize.toNat) :
    sim.addrToDramOffset addr = .ok (FakeDRAM.portArg port % sim.memSize) := by
  obtain ⟨offset, found, place⟩ := addrToDramOffset_within sim addr lower
  have reduced : (FakeDRAM.portArg port).toNat % sim.memSize.toNat =
      addr.toNat % sim.memSize.toNat := by
    rw [← carried]
    exact portArg_mod driver.divides port
  have same : offset = FakeDRAM.portArg port % sim.memSize := by
    apply UInt64.toNat_inj.mp
    rw [UInt64.toNat_mod, reduced, place]
    exact (driver.mod_eq lower upper).symm
  rw [found, same]

/-- Beat `k` of a burst reads the word that contains `addr`. -/
theorem beatOffset_eq {memory : SimMem} (driver : DriverGeometry memory.geometry) {addr k : Nat}
    (word : edge.arAddr.toNat / 8 + k = addr / 8)
    (lower : memory.geometry.baseAddr.toNat ≤ addr)
    (upper : addr < memory.geometry.baseAddr.toNat + memory.geometry.memSize.toNat) :
    (memory.beatOffset edge.tickArgs k).toNat + addr % 8 = addr - memory.geometry.baseAddr.toNat := by
  have wide : memory.memSize.toNat ∣ 2 ^ 64 := driver.divides.trans (by decide)
  have wordSize : memory.geometry.wordSize.toNat = 8 := driver.tiled.wordSize_toNat
  have carried : (FakeDRAM.portArg edge.arAddr).toNat ≡ edge.arAddr.toNat
      [MOD memory.geometry.memSize.toNat] := portArg_mod driver.divides edge.arAddr
  have lane : (FakeDRAM.portArg edge.arAddr).toNat % 8 = edge.arAddr.toNat % 8 :=
    carried.of_dvd driver.words
  have aligned : (FakeDRAM.portArg edge.arAddr).toNat / 8 * 8 + k * 8 ≡ addr / 8 * 8
      [MOD memory.geometry.memSize.toNat] := by
    apply Nat.ModEq.add_right_cancel' (edge.arAddr.toNat % 8)
    have left : (FakeDRAM.portArg edge.arAddr).toNat / 8 * 8 + k * 8 + edge.arAddr.toNat % 8 =
        (FakeDRAM.portArg edge.arAddr).toNat + k * 8 := by omega
    have right : addr / 8 * 8 + edge.arAddr.toNat % 8 = edge.arAddr.toNat + k * 8 := by omega
    rw [left, right]
    exact carried.add_right _
  obtain ⟨words, size⟩ := driver.words
  have whole : addr % memory.geometry.memSize.toNat = addr % 8 + 8 * (addr / 8 % words) := by
    rw [size, Nat.mod_mul]
  have part : addr / 8 * 8 % memory.geometry.memSize.toNat = 8 * (addr / 8 % words) := by
    rw [size, Nat.mul_comm _ 8, Nat.mul_mod_mul_left]
  rw [← driver.mod_eq lower upper, SimMem.beatOffset_toNat wide, SimMem.align,
    memory.geometry.align_toNat, wordSize, whole, Nat.add_comm (addr % 8)]
  exact congrArg (· + addr % 8) (Eq.trans aligned part)

/-! ## What a run leaves alone -/

/-- A reset edge leaves the memory and the data shown; any other edge ticks
the memory and shows its front. -/
theorem posedge_cases (moved : state.posedge track edge = .ok next) :
    edge.reset = true ∧ next.sim.memory = state.sim.memory ∧ next.regs.rData = state.regs.rData ∨
      edge.reset = false ∧ state.sim.memory.tick edge.tickArgs = .ok next.sim.memory ∧
        FakeDRAM.readLong next.sim.memory.readData = .ok next.regs.rData := by
  obtain ⟨dram, stepped, same⟩ := bind_ok_iff.mp moved
  cases same
  simp only [FakeDRAM.posedge] at stepped
  split at stepped
  · rename_i reset
    cases stepped
    exact .inl ⟨reset, rfl, rfl⟩
  · rename_i ordinary
    obtain ⟨⟨memory, signals⟩, ticked, same⟩ := bind_ok_iff.mp stepped
    cases same
    obtain ⟨after, accepted, rest⟩ := bind_ok_iff.mp ticked
    obtain ⟨word, loaded, same⟩ := bind_ok_iff.mp rest
    cases same
    exact .inr ⟨by simpa using ordinary, accepted, loaded⟩

theorem posedge_outside {offset : Nat} (tiled : SimMem.WordTiled state.sim.memory.geometry)
    (untouched : ¬ (Access.clock edge).Overwrites state offset)
    (moved : state.posedge track edge = .ok next) :
    next.sim.memory.geometry = state.sim.memory.geometry ∧
      next.sim.memory.data offset = state.sim.memory.data offset := by
  rcases posedge_cases moved with ⟨-, same, -⟩ | ⟨-, ticked, -⟩
  · rw [same]
    exact ⟨rfl, rfl⟩
  · refine ⟨SimMem.next_geometry ticked, ?_⟩
    cases fire : (state.sim.memory.fires edge.tickArgs).wFire with
    | false => rw [SimMem.next_data ticked fire]
    | true =>
        obtain ⟨-, copied⟩ := (SimMem.write_ok_iff tiled).mp (SimMem.next_written ticked fire)
        rw [copied]
        exact if_neg fun inside => untouched ⟨fire, inside⟩

theorem loadBytes_outside {sim loaded : Simulator} {buffer : Buffer} {startAddr len count : UInt64}
    {offset : Nat} (load : sim.loadBytes copy (some buffer) startAddr len = .ok (count, loaded))
    (untouched : ¬ (¬ (startAddr < sim.baseAddr ∨ startAddr ≥ sim.baseAddr + sim.memSize) ∧
      sim.InRange startAddr.toNat len.toNat offset)) :
    loaded.memory.data offset = sim.memory.data offset := by
  simp only [loadBytes] at load
  split at load
  · cases load
    rfl
  · rename_i starts
    obtain ⟨start, found, load⟩ := bind_ok_iff.mp load
    split at load
    · cases load
      apply Store.copy_outside
      have above : sim.baseAddr.toNat ≤ startAddr.toNat :=
        UInt64.le_iff_toNat_le.mp (UInt64.not_lt.mp fun below => starts (.inl below))
      obtain ⟨place, located, distance⟩ := addrToDramOffset_within sim startAddr above
      obtain rfl := Except.ok.inj (located.symm.trans found)
      have least : (min len (sim.memSize - place)).toNat ≤ len.toNat := by
        rw [toNat_min]
        exact Nat.min_le_left _ _
      have outside : ¬ sim.InRange startAddr.toNat len.toNat offset :=
        fun inside => untouched ⟨starts, inside⟩
      simp only [InRange] at outside
      omega
    · contradiction

theorem load_stores {buf : Option Buffer} {startAddr len : UInt64}
    (done : Access.perform copy track state (.load buf startAddr len : Access addrBits idBits) =
      .ok next) :
    ∃ data labels, next = { state with sim := state.sim.withStores data labels } := by
  obtain ⟨⟨count, loaded⟩, load, same⟩ := bind_ok_iff.mp done
  cases same
  obtain ⟨data, labels, rfl⟩ := loadBytes_stores load
  exact ⟨data, labels, rfl⟩

theorem keeps_byte (tiled : SimMem.WordTiled geometry) (offset : Nat) (byte : UInt8) :
    Keeps (Access.perform copy track : Machine (OnBus idBits) (Access addrBits idBits) Fault)
      (fun state access => ¬ access.Overwrites state offset)
      (fun state => state.sim.memory.geometry = geometry ∧ state.sim.memory.data offset = byte) := by
  rintro state access next untouched ⟨rfl, rfl⟩ done
  cases access with
  | clock edge => exact posedge_outside tiled untouched done
  | load buf startAddr len =>
      refine ⟨?_, ?_⟩
      · obtain ⟨data, labels, rfl⟩ := load_stores done
        rfl
      · obtain ⟨⟨count, loaded⟩, load, same⟩ := bind_ok_iff.mp done
        cases same
        cases buf with
        | none =>
            cases load
            rfl
        | some buffer => exact loadBytes_outside load untouched

/-! ## The answers on the read channel -/

def pushedReads (state : OnBus idBits) : Access addrBits idBits → List SimMem.MemReadResponse
  | .load _ _ _ => []
  | .clock edge => state.sim.memory.pushedBeats edge.tickArgs

def poppedReads (state : OnBus idBits) : Access addrBits idBits → List SimMem.MemReadResponse
  | .load _ _ _ => []
  | .clock edge => state.sim.memory.poppedBeats edge.tickArgs

theorem reads_queue :
    Queue (Access.perform copy track : Machine (OnBus idBits) (Access addrBits idBits) Fault)
      (fun _ _ => True) (fun _ => True) (fun state => state.sim.memory.readQueue) pushedReads
      poppedReads where
  keeps := fun _ _ _ _ _ _ => trivial
  moves := by
    intro state access next _ _ done
    cases access with
    | load buf startAddr len =>
        obtain ⟨data, labels, rfl⟩ := load_stores done
        simp [pushedReads, poppedReads, withStores]
    | clock edge =>
        rcases posedge_cases done with ⟨reset, same, -⟩ | ⟨ordinary, ticked, -⟩
        · have still : state.sim.memory.pushedBeats edge.tickArgs = [] ∧
              state.sim.memory.poppedBeats edge.tickArgs = [] := by
            simp [SimMem.pushedBeats, SimMem.poppedBeats, SimMem.fires, FakeDRAM.Edge.tickArgs, reset]
          simp [pushedReads, poppedReads, still, same]
        · exact SimMem.next_reads ticked ordinary

/-- The data port shows the front of the read queue. -/
def OnBus.ShowsFront (state : OnBus idBits) : Prop :=
  ∀ front rest, state.sim.memory.readQueue = front :: rest → front.data.length = 8 →
    (List.range 8).map (FakeDRAM.byteAt state.regs.rData) = front.data

theorem showsFront_of_edge (ordinary : edge.reset = false)
    (moved : state.posedge track edge = .ok next) : next.ShowsFront := by
  intro front rest waiting full
  rcases posedge_cases moved with ⟨reset, -⟩ | ⟨-, -, loaded⟩
  · rw [ordinary] at reset
    contradiction
  · have shown : next.sim.memory.readData = front.data := by
      simp [SimMem.readData, waiting]
    rw [shown] at loaded
    exact FakeDRAM.readLong_bytes loaded full

theorem showsFront_keeps :
    Keeps (Access.perform copy track : Machine (OnBus idBits) (Access addrBits idBits) Fault)
      (fun _ _ => True) OnBus.ShowsFront := by
  intro state access next _ shows done
  cases access with
  | load buf startAddr len =>
      obtain ⟨data, labels, rfl⟩ := load_stores done
      exact shows
  | clock edge =>
      rcases posedge_cases done with ⟨-, same, shown⟩ | ⟨ordinary, -⟩
      · intro front rest waiting full
        rw [same] at waiting
        rw [shown]
        exact shows front rest waiting full
      · exact showsFront_of_edge ordinary done

/-- Number `place` of the beats popped from `accepting` on, or still waiting
at the end, holds `byte` in `lane`; when it is the next to be popped, the data
port shows the byte. -/
structure Answered (copy : LabelCopy) (track : LabelTrack addrBits idBits) (accepting : OnBus idBits)
    (inputs : List (Access addrBits idBits)) (final : OnBus idBits) (place lane : Nat) (byte : UInt8) :
    Prop where
  beat : ∃ beat,
    (emitted (Access.perform copy track) poppedReads accepting inputs ++
      final.sim.memory.readQueue)[place]? = some beat ∧ beat.data[lane]? = some byte
  shown : (emitted (Access.perform copy track) poppedReads accepting inputs).length = place →
    FakeDRAM.byteAt final.regs.rData lane = byte

/-- An accepted read gets what the memory holds in that cycle. -/
theorem accepted_read_answered {accepting : OnBus idBits}
    (driver : DriverGeometry accepting.sim.memory.geometry)
    (accepted : (accepting.sim.memory.fires edge.tickArgs).arFire = true)
    {addr k : Nat} (burst : k ≤ (FakeDRAM.portArg edge.arLen).toNat)
    (word : edge.arAddr.toNat / 8 + k = addr / 8)
    (lower : accepting.sim.baseAddr.toNat ≤ addr)
    (upper : addr < accepting.sim.baseAddr.toNat + accepting.sim.memSize.toNat)
    {after : List (Access addrBits idBits)}
    (reached : run (Access.perform copy track) accepting (.clock edge :: after) = .ok final) :
    Answered copy track accepting (.clock edge :: after) final
      (accepting.sim.memory.readQueue.length + k) (addr % 8)
      (accepting.sim.memory.data (addr - accepting.sim.baseAddr.toNat)) := by
  have lawful := along_of_forall (Access.perform copy track)
    (fun (_ : Access addrBits idBits) (_ : _ ∈ Access.clock edge :: after) => trivial) accepting
  have conserved := reads_queue.conserves lawful trivial reached
  obtain ⟨next, moved, rest⟩ := run_cons_ok_iff.mp reached
  have ordinary : edge.reset = false := by
    simp only [SimMem.fires, FakeDRAM.Edge.tickArgs, Bool.and_eq_true, Bool.not_eq_true'] at accepted
    exact accepted.1.1
  have wordSize : accepting.sim.memory.wordSize.toNat = 8 := driver.tiled.wordSize_toNat
  have placed : (emitted (Access.perform copy track) poppedReads accepting (.clock edge :: after) ++
      final.sim.memory.readQueue)[accepting.sim.memory.readQueue.length + k]? =
        some (accepting.sim.memory.beat edge.tickArgs k) := by
    have pushed : pushedReads accepting (.clock edge) = (List.range
        ((FakeDRAM.portArg edge.arLen).toNat + 1)).map (accepting.sim.memory.beat edge.tickArgs) :=
      if_pos accepted
    rw [← conserved, emitted_cons_of_ok _ moved, pushed,
      List.getElem?_append_right (Nat.le_add_right _ _), Nat.add_sub_cancel_left,
      List.getElem?_append_left (by simp; omega), List.getElem?_map,
      List.getElem?_range (Nat.lt_succ_of_le burst)]
    rfl
  have byte : (accepting.sim.memory.beat edge.tickArgs k).data[addr % 8]? =
      some (accepting.sim.memory.data (addr - accepting.sim.baseAddr.toNat)) := by
    have lane : addr % 8 < accepting.sim.memory.wordSize.toNat := by omega
    rw [SimMem.beat, Store.getElem?_slice lane, beatOffset_eq driver word lower upper]
  refine ⟨⟨_, placed, byte⟩, fun turn => ?_⟩
  have shows : final.ShowsFront :=
    showsFront_keeps.run (along_of_forall _ (fun _ _ => trivial) _) (showsFront_of_edge ordinary moved)
      rest
  rw [List.getElem?_append_right (Nat.le_of_eq turn), turn, Nat.sub_self] at placed
  cases waiting : final.sim.memory.readQueue with
  | nil => simp [waiting] at placed
  | cons front others =>
      rw [waiting, List.getElem?_cons_zero, Option.some.injEq] at placed
      subst placed
      have full : (accepting.sim.memory.beat edge.tickArgs k).data.length = 8 := by
        rw [SimMem.beat, Store.length_slice, wordSize]
      have shown := shows _ others waiting full
      rw [← shown, List.getElem?_map, List.getElem?_range (Nat.mod_lt _ (by decide))] at byte
      exact Option.some.inj byte

/-- Driver and bus agree on where an address lives: a byte that the driver has
loaded, and that nothing has overwritten since, is what a later read of its
word answers. -/
theorem bus_read_returns_loaded (copy : LabelCopy) (track : LabelTrack addrBits idBits)
    (start : OnBus idBits) (driver : DriverGeometry start.sim.memory.geometry) (buffer : Buffer)
    (startAddr len : UInt64) (lower : start.sim.baseAddr.toNat ≤ startAddr.toNat)
    (upper : startAddr.toNat + len.toNat ≤ start.sim.baseAddr.toNat + start.sim.memSize.toNat)
    (enough : len.toNat ≤ buffer.size.toNat) :
    (∀ (addr : UInt64) (port : BitVec addrBits), port.toNat = addr.toNat →
      start.sim.baseAddr.toNat ≤ addr.toNat →
      addr.toNat < start.sim.baseAddr.toNat + start.sim.memSize.toNat →
        start.sim.addrToDramOffset addr = .ok (FakeDRAM.portArg port % start.sim.memSize)) ∧
    ∃ count loaded, start.sim.loadBytes copy (some buffer) startAddr len = .ok (count, loaded) ∧
      ∀ (between : List (Access addrBits idBits)) accepting,
        run (Access.perform copy track) { start with sim := loaded } between = .ok accepting →
      ∀ edge, (accepting.sim.memory.fires edge.tickArgs).arFire = true →
      ∀ k ≤ (FakeDRAM.portArg edge.arLen).toNat, ∀ addr, edge.arAddr.toNat / 8 + k = addr / 8 →
        startAddr.toNat ≤ addr → addr < startAddr.toNat + len.toNat →
        Along (Access.perform copy track)
            (fun state access => ¬ access.Overwrites state (addr - start.sim.baseAddr.toNat))
            { start with sim := loaded } between →
      ∀ after final, run (Access.perform copy track) accepting (.clock edge :: after) = .ok final →
        Answered copy track accepting (.clock edge :: after) final
          (accepting.sim.memory.readQueue.length + k) (addr % 8)
          (buffer.bytes (addr - startAddr.toNat)) := by
  refine ⟨fun addr port => addrToDramOffset_eq_mod driver port, ?_⟩
  have reach := driver.reach
  obtain ⟨count, loaded, load, done⟩ := loadBytes_within copy buffer startAddr len
    (Nat.lt_of_le_of_lt reach (by decide)) lower upper enough
  refine ⟨count, loaded, load, ?_⟩
  intro between accepting reached edge accepted k burst addr word first last untouched after final
    answered
  have stored : loaded.memory.data (addr - start.sim.baseAddr.toNat) =
      buffer.bytes (addr - startAddr.toNat) := by
    have place : start.sim.baseAddr.toNat + (addr - start.sim.baseAddr.toNat) = addr := by omega
    have inside : start.sim.InRange startAddr.toNat len.toNat (addr - start.sim.baseAddr.toNat) := by
      rw [InRange, place]
      exact ⟨first, last⟩
    have byte := (done.inside _ inside).1
    rwa [place] at byte
  have geometry : loaded.memory.geometry = start.sim.memory.geometry := by
    rw [done.same]
    rfl
  obtain ⟨same, kept⟩ := (keeps_byte driver.tiled (addr - start.sim.baseAddr.toNat)
    (buffer.bytes (addr - startAddr.toNat))).run untouched ⟨geometry, stored⟩ reached
  have sameBase : accepting.sim.baseAddr = start.sim.baseAddr :=
    congrArg SimMem.Geometry.baseAddr same
  have sameSize : accepting.sim.memSize = start.sim.memSize := congrArg SimMem.Geometry.memSize same
  have read := accepted_read_answered (same ▸ driver) accepted burst word
    (by rw [sameBase]; omega) (by rw [sameBase, sameSize]; omega) answered
  rwa [sameBase, kept] at read

theorem DriverGeometry.tiny : DriverGeometry .tiny :=
  ⟨rfl, by decide, ⟨6, rfl⟩, by decide, by decide, by decide⟩

def keepLabels : LabelTrack 32 5 := fun _ labels _ => labels

def readSecondWord : List (Access 32 5) :=
  [.clock { arValid := true, arAddr := 0x80000018, arSize := 3 }, .clock { rReady := true }]

theorem bus_read_returns_loaded_secondWord : ∃ count loaded final,
    tinySim.loadBytes cleanCopy (some ⟨fun k => UInt8.ofNat (k + 1), 16⟩) 0x80000010 16 =
        .ok (count, loaded) ∧
      run (Access.perform cleanCopy keepLabels) ⟨loaded, {}⟩ readSecondWord = .ok final ∧
      Answered cleanCopy keepLabels ⟨loaded, {}⟩ readSecondWord final 0 3 12 := by
  obtain ⟨count, loaded, load, answers⟩ := (bus_read_returns_loaded cleanCopy keepLabels
    ⟨tinySim, {}⟩ .tiny ⟨fun k => UInt8.ofNat (k + 1), 16⟩ 0x80000010 16 (by decide) (by decide)
    (by decide)).2
  obtain ⟨final, reached⟩ : ∃ final,
      run (Access.perform cleanCopy keepLabels) ⟨loaded, {}⟩ readSecondWord = .ok final := by
    cases load
    exact ⟨_, rfl⟩
  have accepted : (loaded.memory.fires
      ({ arValid := true, arAddr := 0x80000018, arSize := 3 } :
        FakeDRAM.Edge 32 5).tickArgs).arFire = true := by
    cases load
    rfl
  have waiting : loaded.memory.readQueue = [] := by
    cases load
    rfl
  have answered := answers [] _ rfl _ accepted 0 (by decide) 0x8000001B (by decide) (by decide)
    (by decide) trivial _ _ reached
  rw [waiting] at answered
  exact ⟨count, loaded, final, load, reached, answered⟩

end PhantomTrails.Simulator
