import PhantomTrails.ArchSim.Trace
import PhantomTrails.Simulator.Model

namespace PhantomTrails.Simulator

open Foundation Foundation.Machine

/-! # The taint of a round

Loading leaves everything behind the program tainted; the program is then
tainted again, and the architectural result takes the taint from the blocks it
lists.
-/

variable {copy : LabelCopy} {sim next : Simulator} {buf : Option Buffer} {ramSize : UInt64}

/-! ## Loading -/

/-- A load that may only touch labels below `bound`, and never untaints what
lies behind. -/
structure Loads (bound : Nat) (sim next : Simulator) : Prop where
  geometry : next.memory.geometry = sim.memory.geometry
  initSize : next.initSize = sim.initSize
  programSize : next.programSize = sim.programSize
  codeRegions : next.codeRegions = sim.codeRegions
  labels : ∀ offset, bound ≤ offset → sim.labels offset = dataLbl → next.labels offset = dataLbl

theorem Loads.refl (bound : Nat) (sim : Simulator) : Loads bound sim sim :=
  ⟨rfl, rfl, rfl, rfl, fun _ _ tainted => tainted⟩

theorem Loads.trans {bound : Nat} {final : Simulator} (first : Loads bound sim next)
    (second : Loads bound next final) : Loads bound sim final where
  geometry := second.geometry.trans first.geometry
  initSize := second.initSize.trans first.initSize
  programSize := second.programSize.trans first.programSize
  codeRegions := second.codeRegions.trans first.codeRegions
  labels := fun offset behind tainted => second.labels offset behind (first.labels offset behind tainted)

theorem addrToDramOffset_ok {addr offset : UInt64} (found : sim.addrToDramOffset addr = .ok offset) :
    offset.toNat + sim.baseAddr.toNat = addr.toNat := by
  simp only [addrToDramOffset] at found
  split at found
  · rename_i above
    cases found
    have below := UInt64.le_iff_toNat_le.mp above
    rw [UInt64.toNat_sub_of_le _ _ above]
    omega
  · contradiction

theorem toNat_min_le (len room : UInt64) : (min len room).toNat ≤ len.toNat := by
  change (if len ≤ room then len else room).toNat ≤ len.toNat
  split
  · exact Nat.le_refl _
  · rename_i beyond
    exact Nat.le_of_lt (UInt64.lt_iff_toNat_lt.mp (UInt64.not_le.mp beyond))

theorem loadBytes_loads {bound : Nat} {startAddr len loaded : UInt64}
    (within : startAddr.toNat + len.toNat ≤ sim.baseAddr.toNat + bound)
    (load : sim.loadBytes copy buf startAddr len = .ok (loaded, next)) : Loads bound sim next := by
  cases buf with
  | none =>
      cases load
      exact .refl bound sim
  | some buffer =>
      simp only [loadBytes] at load
      split at load
      · cases load
        exact .refl bound sim
      · obtain ⟨offset, found, load⟩ := bind_ok_iff.mp load
        have place := addrToDramOffset_ok found
        split at load
        · cases load
          refine ⟨rfl, rfl, rfl, rfl, fun cell behind tainted => ?_⟩
          have short := toNat_min_le len (sim.memSize - offset)
          rw [← tainted]
          exact copy.frame _ _ _ _ (.inr (by omega))
        · contradiction

theorem taintMemory_loads (bound : Nat) (sim : Simulator) (start len : UInt64) :
    Loads bound sim (sim.taintMemory start len dataLbl) := by
  refine ⟨rfl, rfl, rfl, rfl, fun offset _ tainted => ?_⟩
  simp only [taintMemory, Store.fill]
  split
  · rfl
  · exact tainted

theorem addData_loads {bound : Nat} {startAddr len loaded : UInt64}
    (within : startAddr.toNat + len.toNat ≤ sim.baseAddr.toNat + bound)
    (load : sim.addData copy buf startAddr len = .ok (loaded, next)) : Loads bound sim next := by
  obtain ⟨⟨count, middle⟩, copied, rest⟩ := bind_ok_iff.mp load
  obtain ⟨offset, -, same⟩ := bind_ok_iff.mp rest
  cases same
  exact (loadBytes_loads within copied).trans (taintMemory_loads bound middle offset len)

def TaintedFrom (bound : Nat) (sim : Simulator) : Prop :=
  ∀ offset, bound ≤ offset → offset < sim.memSize.toNat → sim.labels offset = dataLbl

theorem Loads.taintedFrom {bound : Nat} (loads : Loads bound sim next)
    (tainted : TaintedFrom bound sim) : TaintedFrom bound next := by
  intro offset behind inside
  rw [memSize, loads.geometry] at inside
  exact loads.labels offset behind (tainted offset behind inside)

structure SectionsWithin (bound : Nat) (sim : Simulator) (sections : Sections) : Prop where
  loads : Loads bound sim sections.sim
  start : sections.start.toNat ≤ sim.baseAddr.toNat + bound

def RegionWithin (stop : Nat) (region : Region) : Prop :=
  region.1 ≤ region.2 ∧ region.2.toNat ≤ stop

theorem loadSection_keeps (copy : LabelCopy) (buf : Option Buffer) (bound : Nat) (sim : Simulator) :
    Keeps (loadSection copy buf) (fun _ region => RegionWithin (sim.baseAddr.toNat + bound) region)
      (SectionsWithin bound sim) := by
  intro sections region next within kept step
  obtain ⟨ordered, inside⟩ := within
  have base : sections.sim.baseAddr = sim.baseAddr := by rw [baseAddr, kept.loads.geometry]
  have firstLe := UInt64.le_iff_toNat_le.mp ordered
  simp only [loadSection] at step
  split at step
  · cases step
    exact kept
  · obtain ⟨middle, data, step⟩ := bind_ok_iff.mp step
    obtain ⟨source, -, step⟩ := bind_ok_iff.mp step
    obtain ⟨⟨count, final⟩, code, same⟩ := bind_ok_iff.mp step
    cases same
    have before : Loads bound sections.sim middle := by
      split at data
      · rename_i gap
        obtain ⟨dataSource, -, data⟩ := bind_ok_iff.mp data
        obtain ⟨⟨dataCount, filled⟩, load, same⟩ := bind_ok_iff.mp data
        cases same
        apply addData_loads ?_ load
        have startLe := UInt64.lt_iff_toNat_lt.mp gap
        rw [UInt64.toNat_sub_of_le _ _ (UInt64.le_of_lt gap), base]
        omega
      · cases data
        exact .refl bound sections.sim
    have middleBase : middle.baseAddr = sim.baseAddr := by
      rw [baseAddr, before.geometry, kept.loads.geometry]
    have after : Loads bound middle final := by
      apply loadBytes_loads ?_ code
      rw [UInt64.toNat_sub_of_le _ _ ordered, middleBase]
      omega
    exact ⟨kept.loads.trans (before.trans after), inside⟩

/-- Between two loads: `done` bytes of initialization code are in place, and
nothing behind `bound` has lost its taint. -/
structure Prepared (bound done : Nat) (origin sim : Simulator) : Prop where
  geometry : sim.memory.geometry = origin.memory.geometry
  codeRegions : sim.codeRegions = origin.codeRegions
  initSize : sim.initSize.toNat = done
  labels : TaintedFrom bound sim

theorem Prepared.baseAddr {bound done : Nat} {origin : Simulator}
    (prepared : Prepared bound done origin sim) : sim.baseAddr = origin.baseAddr := by
  rw [Simulator.baseAddr, prepared.geometry]

theorem Prepared.addCode {bound done : Nat} {origin : Simulator} {len count : UInt64}
    (prepared : Prepared bound done origin sim) (fits : done + len.toNat ≤ bound)
    (room : origin.baseAddr.toNat + bound < 2 ^ 64)
    (load : sim.addCode copy buf (sim.baseAddr + sim.initSize) len = .ok (count, next)) :
    Prepared bound (done + len.toNat) origin { next with initSize := next.initSize + len } ∧
      next.programSize = sim.programSize := by
  have start := prepared.initSize
  have within : (sim.baseAddr + sim.initSize).toNat + len.toNat ≤ sim.baseAddr.toNat + bound := by
    rw [UInt64.toNat_add, prepared.baseAddr, start, Nat.mod_eq_of_lt (by omega)]
    omega
  have loads := loadBytes_loads within load
  refine ⟨⟨loads.geometry.trans prepared.geometry, loads.codeRegions.trans prepared.codeRegions, ?_,
    loads.taintedFrom prepared.labels⟩, loads.programSize⟩
  simp only
  rw [UInt64.toNat_add, loads.initSize, start, Nat.mod_eq_of_lt (by omega)]

theorem loadProgramSections_tainted {bound done : Nat} {origin : Simulator} {codeSize : UInt64}
    (prepared : Prepared bound done origin sim) (program : sim.programSize.toNat = bound)
    (fits : done ≤ bound) (room : origin.baseAddr.toNat + bound < 2 ^ 64)
    (regions : ∀ region ∈ origin.codeRegions, RegionWithin (origin.baseAddr.toNat + bound) region)
    (load : sim.loadProgramSections copy buf = .ok (codeSize, next)) :
    next.memory.geometry = origin.memory.geometry ∧ next.programSize = sim.programSize ∧
      TaintedFrom bound next := by
  have start : (sim.dramOffsetToAddr sim.initSize).toNat = origin.baseAddr.toNat + done := by
    rw [dramOffsetToAddr, UInt64.toNat_add, prepared.baseAddr, prepared.initSize,
      Nat.mod_eq_of_lt (by omega), Nat.add_comm]
  have stop : (sim.baseAddr + sim.programSize).toNat = origin.baseAddr.toNat + bound := by
    rw [UInt64.toNat_add, prepared.baseAddr, program, Nat.mod_eq_of_lt (by omega)]
  have within : ∀ region ∈ sim.effectiveRegions,
      RegionWithin (origin.baseAddr.toNat + bound) region := by
    intro region member
    rw [effectiveRegions] at member
    split at member
    · obtain rfl := List.mem_singleton.mp member
      exact ⟨UInt64.le_iff_toNat_le.mpr (by rw [start, stop]; omega), Nat.le_of_eq stop⟩
    · exact regions region (prepared.codeRegions ▸ member)
  obtain ⟨sections, sectionsRun, load⟩ := bind_ok_iff.mp load
  obtain ⟨source, -, load⟩ := bind_ok_iff.mp load
  obtain ⟨⟨count, final⟩, last, same⟩ := bind_ok_iff.mp load
  cases same
  have base : ({ sim with codeRegions := sim.effectiveRegions } : Simulator).baseAddr =
      origin.baseAddr := prepared.baseAddr
  have opened : SectionsWithin bound { sim with codeRegions := sim.effectiveRegions }
      ⟨{ sim with codeRegions := sim.effectiveRegions }, sim.dramOffsetToAddr sim.initSize, 0⟩ := by
    refine ⟨.refl bound _, ?_⟩
    rw [base]
    simp only [start]
    omega
  have kept := (loadSection_keeps copy buf bound _).run
    (along_of_forall _ (by simpa only [base] using within) _) opened sectionsRun
  have sectionsBase : sections.sim.baseAddr = origin.baseAddr := by
    rw [baseAddr, kept.loads.geometry]
    exact base
  have reached : sections.start.toNat ≤ origin.baseAddr.toNat + bound := by
    have startLe := kept.start
    rwa [base] at startLe
  have rest : Loads bound sections.sim next := by
    apply addData_loads ?_ last
    have ordered := UInt64.le_iff_toNat_le.mpr (stop ▸ reached)
    rw [UInt64.toNat_sub_of_le _ _ ordered, sectionsBase]
    omega
  have loads := kept.loads.trans rest
  exact ⟨loads.geometry.trans prepared.geometry, loads.programSize, loads.taintedFrom prepared.labels⟩

def optionalLen : Option (Option Buffer) → Nat
  | none => 0
  | some file => (fileLen file).toNat

/-- The offset behind the program, before it is computed in 64 bits. -/
def programEnd (args : Args) : Nat :=
  optionalLen args.initCode + optionalLen args.mdsInit + (fileLen args.program).toNat

/-- The files fit into the memory, and the code regions end with the program. -/
structure FitsMemory (args : Args) (sim : Simulator) : Prop where
  blocks : 8 ∣ sim.memSize.toNat
  addressable : sim.baseAddr.toNat + sim.memSize.toNat < 2 ^ 64
  program : programEnd args ≤ sim.memSize.toNat
  ownInit : args.initSize ≤ fileLen args.program
  regions : ∀ region ∈ sim.codeRegions, RegionWithin (sim.baseAddr.toNat + programEnd args) region

/-- The last part of `loadRound`: the program, behind the initialization code. -/
def loadProgram (copy : LabelCopy) (args : Args) (sim : Simulator) : Except Fault (UInt64 × Simulator) :=
  if args.initSize > 0 then do
    let (_, sim) ← sim.addCode copy args.program (sim.baseAddr + sim.initSize) args.initSize
    loadProgramSections copy { sim with initSize := sim.initSize + args.initSize }
      (advance args.program args.initSize)
  else loadProgramSections copy sim args.program

/-- A file that was not given loads nothing. -/
theorem optional_staged {staged : Nat → Simulator → Prop} {done : Nat} {file : Option (Option Buffer)}
    {stage : Option Buffer → Except Fault Simulator} (before : staged done sim)
    (loads : ∀ buffer, file = some buffer → stage buffer = .ok next →
      staged (done + (fileLen buffer).toNat) next)
    (load : (match file with | none => .ok sim | some buffer => stage buffer) = Except.ok next) :
    staged (done + optionalLen file) next := by
  cases file with
  | none =>
      cases load
      exact before
  | some buffer => exact loads buffer rfl load

/-- The files in front of the program are copied one behind the other: what
every copy carries on from `done` bytes holds when all of them are in place. -/
theorem loadRound_staged {staged : Nat → Simulator → Prop} {args : Args} {codeSize : UInt64}
    (initSize : ∀ {done sim}, staged done sim → sim.initSize.toNat = done)
    (addFile : ∀ {done sim loaded file count}, staged done sim →
      done + (fileLen file).toNat ≤ programEnd args →
      sim.addCode copy file (sim.baseAddr + sim.initSize) (fileLen file) = .ok (count, loaded) →
      staged (done + (fileLen file).toNat)
        { loaded with initSize := loaded.initSize + fileLen file })
    (opened : staged 0 (sim.taintAllMemory dataLbl))
    (load : loadRound copy args sim = .ok (codeSize, next)) :
    ∃ placed, staged (optionalLen args.initCode + optionalLen args.mdsInit) placed ∧
      loadProgram copy args { placed with programSize := placed.initSize + fileLen args.program } =
        .ok (codeSize, next) := by
  obtain ⟨first, initCode, load⟩ := bind_ok_iff.mp load
  obtain ⟨second, mdsInit, load⟩ := bind_ok_iff.mp load
  have afterInit : staged (0 + optionalLen args.initCode) first := by
    apply optional_staged opened ?_ initCode
    intro buffer file stage
    have short : 0 + (fileLen buffer).toNat ≤ programEnd args := by
      simp only [programEnd, file, optionalLen]
      omega
    obtain ⟨⟨count, loaded⟩, code, same⟩ := bind_ok_iff.mp stage
    cases same
    have cleared : (sim.taintAllMemory dataLbl).initSize = 0 := UInt64.toNat_inj.mp (initSize opened)
    rw [← UInt64.add_zero (sim.taintAllMemory dataLbl).baseAddr, ← cleared] at code
    have copied := addFile opened short code
    -- The source assigns the length here and adds it for the second file.
    have fromZero : loaded.initSize + fileLen buffer = fileLen buffer :=
      UInt64.toNat_inj.mp ((initSize copied).trans (Nat.zero_add _))
    rwa [fromZero] at copied
  rw [Nat.zero_add] at afterInit
  refine ⟨second, ?_, load⟩
  apply optional_staged afterInit ?_ mdsInit
  intro buffer file stage
  have short : optionalLen args.initCode + (fileLen buffer).toNat ≤ programEnd args := by
    simp only [programEnd, file, optionalLen]
    omega
  obtain ⟨⟨count, loaded⟩, code, same⟩ := bind_ok_iff.mp stage
  cases same
  exact addFile afterInit short code

theorem programSize_toNat {args : Args} {placed : Simulator}
    (initSize : placed.initSize.toNat = optionalLen args.initCode + optionalLen args.mdsInit)
    (addressable : programEnd args < 2 ^ 64) :
    (placed.initSize + fileLen args.program).toNat = programEnd args := by
  rw [UInt64.toNat_add, initSize]
  exact Nat.mod_eq_of_lt addressable

/-- After loading, everything behind the program is tainted. -/
theorem loadRound_tainted {memory : SimMem} {labels : Store UInt8} {codeRegions : List Region}
    {args : Args} {codeSize : UInt64} (fits : FitsMemory args (fresh memory labels codeRegions))
    (load : loadRound copy args (fresh memory labels codeRegions) = .ok (codeSize, next)) :
    next.memory.geometry = memory.geometry ∧ next.programSize.toNat = programEnd args ∧
      TaintedFrom (programEnd args) next := by
  have room : (fresh memory labels codeRegions).baseAddr.toNat + programEnd args < 2 ^ 64 :=
    Nat.lt_of_le_of_lt (Nat.add_le_add_left fits.program _) fits.addressable
  have ownInit := UInt64.le_iff_toNat_le.mp fits.ownInit
  have opened : Prepared (programEnd args) 0 (fresh memory labels codeRegions)
      ((fresh memory labels codeRegions).taintAllMemory dataLbl) := by
    refine ⟨rfl, rfl, rfl, fun offset _ inside => Store.fill_inside (Nat.zero_le _) ?_⟩
    rw [UInt64.toNat_zero, Nat.zero_add]
    exact inside
  obtain ⟨second, afterMds, load⟩ := loadRound_staged Prepared.initSize
    (fun prepared short code => (prepared.addCode short room code).1) opened load
  have size := programSize_toNat afterMds.initSize (Nat.lt_of_le_of_lt (Nat.le_add_left _ _) room)
  have placed : Prepared (programEnd args) (optionalLen args.initCode + optionalLen args.mdsInit)
      (fresh memory labels codeRegions)
      { second with programSize := second.initSize + fileLen args.program } :=
    ⟨afterMds.geometry, afterMds.codeRegions, afterMds.initSize, afterMds.labels⟩
  rw [loadProgram] at load
  split at load
  · have short : optionalLen args.initCode + optionalLen args.mdsInit + args.initSize.toNat ≤
        programEnd args := by
      simp only [programEnd]
      omega
    obtain ⟨⟨count, loaded⟩, code, load⟩ := bind_ok_iff.mp load
    obtain ⟨prepared, same⟩ := placed.addCode short room code
    have programSize : loaded.programSize.toNat = programEnd args := same ▸ size
    have tainted := loadProgramSections_tainted prepared programSize short room fits.regions load
    exact ⟨tainted.1, tainted.2.1 ▸ programSize, tainted.2.2⟩
  · have short : optionalLen args.initCode + optionalLen args.mdsInit ≤ programEnd args := by
      simp only [programEnd]
      omega
    have tainted := loadProgramSections_tainted placed size short room fits.regions load
    exact ⟨tainted.1, tainted.2.1 ▸ size, tainted.2.2⟩

/-! ## Untainting -/

def InBlock (base : UInt64) (offset : Nat) (addr : UInt64) : Prop :=
  ∃ cell, cell / 8 = offset / 8 ∧ base + UInt64.ofNat cell = addr

theorem untaintArchAddress_memory (sim : Simulator) (addr : UInt64) :
    (sim.untaintArchAddress addr).memory = sim.memory := by
  rw [untaintArchAddress]
  split <;> rfl

theorem toNat_base_add {base size : UInt64} {cell : Nat} (room : base.toNat + size.toNat < 2 ^ 64)
    (inside : cell < size.toNat) : (base + UInt64.ofNat cell).toNat = base.toNat + cell := by
  rw [UInt64.toNat_add, UInt64.toNat_ofNat', Nat.mod_eq_of_lt (a := cell) (by omega),
    Nat.mod_eq_of_lt (by omega)]

theorem cell_inside {size cell offset : Nat} (blocks : 8 ∣ size) (inside : offset < size)
    (same : cell / 8 = offset / 8) : cell < size := by
  obtain ⟨count, rfl⟩ := blocks
  omega

theorem inBlock_iff (blocks : 8 ∣ sim.memSize.toNat)
    (room : sim.baseAddr.toNat + sim.memSize.toNat < 2 ^ 64) {offset : Nat}
    (inside : offset < sim.memSize.toNat) {addr : UInt64} (lower : sim.baseAddr.toNat ≤ addr.toNat)
    (upper : addr.toNat < sim.baseAddr.toNat + sim.memSize.toNat) :
    InBlock sim.baseAddr offset addr ↔ (addr.toNat - sim.baseAddr.toNat) / 8 = offset / 8 := by
  constructor
  · intro ⟨cell, same, reached⟩
    rw [← reached, toNat_base_add room (cell_inside blocks inside same), Nat.add_sub_cancel_left, same]
  · intro same
    have within : addr.toNat - sim.baseAddr.toNat < sim.memSize.toNat :=
      Nat.sub_lt_left_of_lt_add lower upper
    refine ⟨addr.toNat - sim.baseAddr.toNat, same, UInt64.toNat_inj.mp ?_⟩
    rw [toNat_base_add room within, Nat.add_sub_cancel' lower]

theorem blockStart_toNat (index : UInt64) : (index - index % 8).toNat = index.toNat / 8 * 8 := by
  have remainder : (index % 8).toNat = index.toNat % 8 := UInt64.toNat_mod index 8
  have below : index % 8 ≤ index := by
    rw [UInt64.le_iff_toNat_le, remainder]
    exact Nat.mod_le _ _
  rw [UInt64.toNat_sub_of_le _ _ below, remainder]
  omega

/-- One listed address clears its block and nothing else. -/
theorem untaintArchAddress_labels (blocks : 8 ∣ sim.memSize.toNat)
    (room : sim.baseAddr.toNat + sim.memSize.toNat < 2 ^ 64) {offset : Nat}
    (inside : offset < sim.memSize.toNat) (addr : UInt64) :
    (InBlock sim.baseAddr offset addr → (sim.untaintArchAddress addr).labels offset = untaintedLbl) ∧
      (¬ InBlock sim.baseAddr offset addr →
        (sim.untaintArchAddress addr).labels offset = sim.labels offset) := by
  have ramEnd : (sim.baseAddr + sim.memSize).toNat = sim.baseAddr.toNat + sim.memSize.toNat := by
    rw [UInt64.toNat_add, Nat.mod_eq_of_lt room]
  rw [untaintArchAddress]
  split
  · rename_i outside
    refine ⟨fun listed => ?_, fun _ => rfl⟩
    obtain ⟨cell, same, rfl⟩ := listed
    have within := cell_inside blocks inside same
    have place := toNat_base_add room within
    simp only [ge_iff_le, UInt64.le_iff_toNat_le, UInt64.lt_iff_toNat_lt, ramEnd, place] at outside
    omega
  · rename_i within
    simp only [ge_iff_le, not_or, UInt64.not_le, UInt64.not_lt] at within
    obtain ⟨below, above⟩ := within
    have upper : addr.toNat < sim.baseAddr.toNat + sim.memSize.toNat :=
      ramEnd ▸ UInt64.lt_iff_toNat_lt.mp below
    have block := inBlock_iff blocks room inside (UInt64.le_iff_toNat_le.mp above) upper
    simp only [untaintMemory, blockStart_toNat, UInt64.toNat_sub_of_le _ _ above, block]
    refine ⟨fun same => Store.fill_inside ?_ ?_, fun other => Store.fill_outside ?_⟩
    · omega
    · change _ < _ + 8
      omega
    · change _ ∨ _ + 8 ≤ _
      omega

theorem untaintArchAddresses_eq (sim : Simulator) (addrs : List UInt64) :
    ∃ labels, sim.untaintArchAddresses addrs = { sim with labels } := by
  induction addrs generalizing sim with
  | nil => exact ⟨_, rfl⟩
  | cons addr rest ih =>
      obtain ⟨first, now⟩ : ∃ labels, sim.untaintArchAddress addr = { sim with labels } := by
        rw [untaintArchAddress]
        split <;> exact ⟨_, rfl⟩
      obtain ⟨labels, later⟩ := ih (sim.untaintArchAddress addr)
      refine ⟨labels, later.trans ?_⟩
      rw [now]

theorem untaintArchAddresses_memory (sim : Simulator) (addrs : List UInt64) :
    (sim.untaintArchAddresses addrs).memory = sim.memory := by
  obtain ⟨labels, same⟩ := untaintArchAddresses_eq sim addrs
  rw [same]

theorem untaintArchAddresses_labels (blocks : 8 ∣ sim.memSize.toNat)
    (room : sim.baseAddr.toNat + sim.memSize.toNat < 2 ^ 64) {offset : Nat}
    (inside : offset < sim.memSize.toNat) (addrs : List UInt64) :
    ((∃ addr ∈ addrs, InBlock sim.baseAddr offset addr) →
        (sim.untaintArchAddresses addrs).labels offset = untaintedLbl) ∧
      ((¬ ∃ addr ∈ addrs, InBlock sim.baseAddr offset addr) →
        (sim.untaintArchAddresses addrs).labels offset = sim.labels offset) := by
  induction addrs generalizing sim with
  | nil => simp [untaintArchAddresses]
  | cons addr rest ih =>
      have now := untaintArchAddress_labels blocks room inside addr
      have memory := untaintArchAddress_memory sim addr
      have later := @ih (sim.untaintArchAddress addr)
      simp only [memSize, baseAddr, memory] at later
      obtain ⟨cleared, kept⟩ := later blocks room inside
      refine ⟨fun listed => ?_, fun unlisted => ?_⟩
      · by_cases again : ∃ other ∈ rest, InBlock sim.baseAddr offset other
        · exact cleared again
        · obtain ⟨first, member, block⟩ := listed
          rcases List.mem_cons.mp member with rfl | member
          · exact (kept again).trans (now.1 block)
          · exact absurd ⟨first, member, block⟩ again
      · have notNow : ¬ InBlock sim.baseAddr offset addr := fun block =>
          unlisted ⟨addr, List.mem_cons_self, block⟩
        have notLater : ¬ ∃ other ∈ rest, InBlock sim.baseAddr offset other := by
          intro ⟨other, member, block⟩
          exact unlisted ⟨other, List.mem_cons_of_mem addr member, block⟩
        exact (kept notLater).trans (now.2 notNow)

theorem untaintArchAddresses_twice (blocks : 8 ∣ sim.memSize.toNat)
    (room : sim.baseAddr.toNat + sim.memSize.toNat < 2 ^ 64) {offset : Nat}
    (inside : offset < sim.memSize.toNat) (tainted : sim.labels offset = dataLbl)
    (insts addrs : List UInt64) {listed : Prop}
    (lists : listed ↔ (∃ addr ∈ insts, InBlock sim.baseAddr offset addr) ∨
      ∃ addr ∈ addrs, InBlock sim.baseAddr offset addr) :
    (((sim.untaintArchAddresses insts).untaintArchAddresses addrs).labels offset = untaintedLbl ↔
        listed) ∧
      (((sim.untaintArchAddresses insts).untaintArchAddresses addrs).labels offset = dataLbl ↔
        ¬ listed) := by
  have memory := untaintArchAddresses_memory sim insts
  have first := untaintArchAddresses_labels blocks room inside insts
  have second := @untaintArchAddresses_labels (sim.untaintArchAddresses insts)
    (by rwa [memSize, memory]) (by rwa [memSize, Simulator.baseAddr, memory]) offset
    (by rwa [memSize, memory]) addrs
  rw [Simulator.baseAddr, memory] at second
  have distinct : untaintedLbl ≠ dataLbl := by decide
  by_cases inAddrs : ∃ addr ∈ addrs, InBlock sim.baseAddr offset addr
  · rw [second.1 inAddrs]
    simp [lists, inAddrs, distinct]
  · rw [second.2 inAddrs]
    by_cases inInsts : ∃ addr ∈ insts, InBlock sim.baseAddr offset addr
    · rw [first.1 inInsts]
      simp [lists, inInsts, distinct]
    · rw [first.2 inInsts, tainted]
      simp [lists, inInsts, inAddrs, distinct.symm]

theorem taintedFrom_taintMemory (tainted : TaintedFrom sim.programSize.toNat sim) :
    TaintedFrom 0 (sim.taintMemory 0 sim.programSize dataLbl) := by
  intro offset _ inside
  simp only [taintMemory, Store.fill, UInt64.toNat_zero, Nat.zero_add]
  split
  · rfl
  · rename_i behind
    exact tainted offset (by omega) inside

/-! ## The labels of a round -/

variable {Core Devices : Type}

/-- Some byte of the 8-byte block of `offset` was fetched, or loaded before
any store to that byte. -/
def UsedArchitecturally (base : UInt64) (events : List TraceEvent) (offset : Nat) : Prop :=
  ∃ cell, cell / 8 = offset / 8 ∧
    (Fetched events (base + UInt64.ofNat cell) ∨ ReadFirst events (base + UInt64.ofNat cell))

theorem usedArchitecturally_iff_listed (base size : UInt64) {events : List TraceEvent}
    {insts addrs : List UInt64} {offset : Nat} (blocks : 8 ∣ size.toNat) (inside : offset < size.toNat)
    (exact : ∀ cell < size.toNat,
      (base + UInt64.ofNat cell ∈ insts ↔ Fetched events (base + UInt64.ofNat cell)) ∧
        (base + UInt64.ofNat cell ∈ addrs ↔ ReadFirst events (base + UInt64.ofNat cell))) :
    UsedArchitecturally base events offset ↔
      (∃ addr ∈ insts, InBlock base offset addr) ∨ ∃ addr ∈ addrs, InBlock base offset addr := by
  constructor
  · intro ⟨cell, same, used⟩
    obtain ⟨fetched, loaded⟩ := exact cell (cell_inside blocks inside same)
    rcases used with fetch | load
    · exact .inl ⟨_, fetched.mpr fetch, cell, same, rfl⟩
    · exact .inr ⟨_, loaded.mpr load, cell, same, rfl⟩
  · intro listed
    rcases listed with ⟨addr, member, cell, same, rfl⟩ | ⟨addr, member, cell, same, rfl⟩
    · exact ⟨cell, same, .inl ((exact cell (cell_inside blocks inside same)).1.mp member)⟩
    · exact ⟨cell, same, .inr ((exact cell (cell_inside blocks inside same)).2.mp member)⟩

def roundTrace (spike : Spike Core Devices ramSize) (args : Args) (sim : Simulator)
    (archSim : ArchSim Core Devices ramSize) (codeSize : UInt64) : List TraceEvent :=
  ArchSim.runTrace spike (sim.archConfig args.discardIllegalJumps) archSim sim.archProgram
    (archCycles args codeSize)

theorem readyToRecord_prepareArchSim (args : Args) (config : ArchSim.Config)
    (spike : Spike Core Devices ramSize) (ram : Ram ramSize) (devices : Devices)
    (illegalDevice : Bool) (records : config.recordAddresses = true) :
    ArchSim.ReadyToRecord
      (prepareArchSim args (ArchSim.fresh spike config ram devices illegalDevice)) := by
  rw [prepareArchSim]
  split <;> exact ⟨records, rfl, rfl, rfl, rfl, rfl⟩

theorem taintRound_all_iff {spike : Spike Core Devices ramSize} {args : Args}
    {archSim : ArchSim Core Devices ramSize} {codeSize : UInt64} {round : Round Core Devices ramSize} :
    sim.taintRound spike .all args archSim codeSize = .ok (some round) ↔
      ∃ result final,
        ArchSim.runSpikeSim spike (sim.archConfig args.discardIllegalJumps) archSim sim.archProgram
            (archCycles args codeSize) = .ok (result, final) ∧
          result.addrs ≠ [] ∧
          round = ⟨((sim.taintMemory 0 sim.programSize dataLbl).untaintArchAddresses
            result.insts).untaintArchAddresses result.addrs, final, result⟩ := by
  constructor
  · intro ran
    obtain ⟨⟨result, final⟩, simulated, ran⟩ := bind_ok_iff.mp ran
    by_cases discarded : result.addrs = []
    · simp only [discarded, if_true] at ran
      cases ran
    · simp only [discarded, if_false] at ran
      cases ran
      exact ⟨result, final, simulated, discarded, rfl⟩
  · intro ⟨result, final, simulated, accepted, same⟩
    subst same
    apply bind_ok_iff.mpr ⟨⟨result, final⟩, simulated, ?_⟩
    simp only [accepted, if_false]
    rfl

/-- After a round's set-up a byte of the DRAM is untainted if its block was
used architecturally, and tainted otherwise. -/
theorem taint_setup_exact {memory : SimMem} {labels : Store UInt8} {codeRegions : List Region}
    {args : Args} {codeSize : UInt64} {loaded : Simulator}
    {spike : Spike Core Devices memory.geometry.memSize} {ram : Ram memory.geometry.memSize}
    {devices : Devices} {illegalDevice : Bool} {archSim : ArchSim Core Devices memory.geometry.memSize}
    {round : Round Core Devices memory.geometry.memSize}
    (fits : FitsMemory args (fresh memory labels codeRegions))
    (constructed : archSim = prepareArchSim args
      (ArchSim.fresh spike (loaded.archConfig args.discardIllegalJumps) ram devices illegalDevice))
    (raises : ArchSim.Raises spike (ArchSim.MmioOutsideRam
      (loaded.archConfig args.discardIllegalJumps) memory.geometry.memSize))
    (load : loadRound copy args (fresh memory labels codeRegions) = .ok (codeSize, loaded))
    (ran : loaded.taintRound spike .all args archSim codeSize = .ok (some round))
    {offset : Nat} (inside : offset < memory.geometry.memSize.toNat) :
    (round.sim.labels offset = untaintedLbl ↔ UsedArchitecturally memory.geometry.baseAddr
        (roundTrace spike args loaded archSim codeSize) offset) ∧
      (round.sim.labels offset = dataLbl ↔ ¬ UsedArchitecturally memory.geometry.baseAddr
        (roundTrace spike args loaded archSim codeSize) offset) := by
  subst constructed
  obtain ⟨geometry, programSize, tainted⟩ := loadRound_tainted fits load
  obtain ⟨result, final, simulated, accepted, rfl⟩ := taintRound_all_iff.mp ran
  have base : loaded.baseAddr = memory.geometry.baseAddr := by rw [Simulator.baseAddr, geometry]
  have size : loaded.memSize = memory.geometry.memSize := by rw [memSize, geometry]
  have room : loaded.baseAddr.toNat + loaded.memSize.toNat < 2 ^ 64 := by
    rw [base, size]
    exact fits.addressable
  have blocks : 8 ∣ loaded.memSize.toNat := by
    rw [size]
    exact fits.blocks
  rw [← size] at inside
  have retainted := taintedFrom_taintMemory (programSize ▸ tainted) offset (Nat.zero_le _) inside
  have ready := readyToRecord_prepareArchSim args (loaded.archConfig args.discardIllegalJumps) spike
    ram devices illegalDevice rfl
  have used := usedArchitecturally_iff_listed loaded.baseAddr loaded.memSize blocks inside fun cell within => by
    apply ArchSim.runSpikeSim_exact ready raises simulated accepted _ ?_
    have place := toNat_base_add room within
    have ramEnd : (loaded.baseAddr + memory.geometry.memSize).toNat =
        loaded.baseAddr.toNat + loaded.memSize.toNat := by
      rw [← size, UInt64.toNat_add, Nat.mod_eq_of_lt room]
    simp only [ArchSim.OutsideRam, archConfig, ge_iff_le, UInt64.lt_iff_toNat_lt,
      UInt64.le_iff_toNat_le, place, ramEnd]
    omega
  rw [← base]
  exact @untaintArchAddresses_twice (loaded.taintMemory 0 loaded.programSize dataLbl) blocks room
    offset inside retainted result.insts result.addrs _ used

def cleanCopy : LabelCopy where
  copy := fun labels start count => labels.fill start count untaintedLbl
  frame := fun _ _ _ _ outside => Store.fill_outside outside

/-- From the boot ROM to an instruction that loads. -/
def fetchLoadSpike : Spike UInt64 Unit SimMem.Geometry.tiny.memSize where
  newCore := 0x10000
  initCore := id
  isWaitingForInterrupt := fun pc => pc == 0x80000004
  findDevice := fun _ => true
  maxPaddrBits := 56
  step := fun pc ram devices =>
    if pc = 0x10000 then { core := 0x80000000, ram, devices, events := SpikeEvent.boot }
    else {
      core := 0x80000004
      ram
      devices
      events := [.trace ⟨0x80000000, 4, .fetch⟩, .trace ⟨0x80000010, 2, .load⟩] }

def twoInstructions : Args where
  initCode := none
  mdsInit := none
  program := some ⟨fun _ => 0, 8⟩
  initSize := 0
  spikeCyclesPerInst := 1
  discardIllegalJumps := false

def tinySim : Simulator := fresh { geometry := .tiny, data := fun _ => 0 } (fun _ => 0) []

def fetchLoadArchSim : ArchSim UInt64 Unit SimMem.Geometry.tiny.memSize :=
  ArchSim.fresh fetchLoadSpike (tinySim.archConfig false) (fun _ => 0) () false

theorem rom_below_ram : ∀ i < 2, (0x10000 : UInt64) + UInt64.ofNat i < (tinySim.archConfig false).ramBase ∧
    (0x10002 : UInt64) + UInt64.ofNat i < (tinySim.archConfig false).ramBase := by
  decide

/-- The blocks of the two accesses are clean, the others are not. -/
theorem taint_setup_exact_fetchLoad : ∃ loaded round,
    loadRound cleanCopy twoInstructions tinySim = .ok (8, loaded) ∧
      loaded.taintRound fetchLoadSpike .all twoInstructions fetchLoadArchSim 8 = .ok (some round) ∧
      round.sim.labels 3 = untaintedLbl ∧ round.sim.labels 40 = dataLbl := by
  obtain ⟨loaded, load⟩ : ∃ loaded, loadRound cleanCopy twoInstructions tinySim = .ok (8, loaded) :=
    ⟨_, rfl⟩
  have config : loaded.archConfig false = tinySim.archConfig false := by
    cases load
    rfl
  have events : roundTrace fetchLoadSpike twoInstructions loaded fetchLoadArchSim 8 =
      [⟨0x10000, 4, .fetch⟩, ⟨0x80000000, 4, .fetch⟩, ⟨0x80000010, 2, .load⟩] := by
    cases load
    rfl
  obtain ⟨round, ran⟩ : ∃ round,
      loaded.taintRound fetchLoadSpike .all twoInstructions fetchLoadArchSim 8 = .ok (some round) := by
    cases load
    refine ⟨_, taintRound_all_iff.mpr ⟨_, _, rfl, fun discarded => ?_, rfl⟩⟩
    have empty := congrArg List.length discarded
    simp only [Finset.length_sort] at empty
    exact absurd empty (by decide)
  have fits : FitsMemory twoInstructions tinySim :=
    ⟨by decide, by decide, by decide, by decide, fun _ member => by cases member⟩
  have raises : ArchSim.Raises fetchLoadSpike
      (ArchSim.MmioOutsideRam (loaded.archConfig false) SimMem.Geometry.tiny.memSize) := by
    rw [config]
    intro pc ram devices event member
    simp only [fetchLoadSpike] at member
    split at member
    · simp only [SpikeEvent.boot, List.mem_cons, List.not_mem_nil, or_false] at member
      rcases member with rfl | rfl | rfl | rfl
      · exact fun i bound => .inl (rom_below_ram i bound).1
      · exact fun i bound => .inl (rom_below_ram i bound).2
      · trivial
      · trivial
    · rcases List.mem_pair.mp member with rfl | rfl <;> trivial
  have constructed : fetchLoadArchSim = prepareArchSim twoInstructions
      (ArchSim.fresh fetchLoadSpike (loaded.archConfig false) (fun _ => 0) () false) := by
    rw [config]
    rfl
  have fetched := taint_setup_exact fits constructed raises load ran (show 3 < 64 by decide)
  have untouched := taint_setup_exact fits constructed raises load ran (show 40 < 64 by decide)
  rw [events] at fetched untouched
  refine ⟨loaded, round, load, ran, fetched.1.mpr ⟨0, rfl, .inl ?_⟩, untouched.2.mpr ?_⟩
  · exact ⟨⟨0x80000000, 4, .fetch⟩, by simp, rfl, 0, by decide, rfl⟩
  · intro ⟨cell, same, used⟩
    have apart : ∀ cell < 48, 40 ≤ cell →
        (∀ i < 4, (0x10000 : UInt64) + UInt64.ofNat i ≠ 0x80000000 + UInt64.ofNat cell) ∧
          (∀ i < 4, (0x80000000 : UInt64) + UInt64.ofNat i ≠ 0x80000000 + UInt64.ofNat cell) ∧
          ∀ i < 2, (0x80000010 : UInt64) + UInt64.ofNat i ≠ 0x80000000 + UInt64.ofNat cell := by
      decide
    obtain ⟨boot, fetch, load⟩ := apart cell (by omega) (by omega)
    rcases used with ⟨event, member, kind, i, bound, reached⟩ | first
    · simp only [List.mem_cons, List.not_mem_nil, or_false] at member
      rcases member with rfl | rfl | rfl
      · exact boot i bound reached
      · exact fetch i bound reached
      · cases kind
    · rw [readFirst_cons, readFirst_cons, readFirst_cons] at first
      rcases first with ⟨kind, -⟩ | ⟨-, ⟨kind, -⟩ | ⟨-, ⟨-, i, bound, reached⟩ | ⟨-, none⟩⟩⟩
      · cases kind
      · cases kind
      · exact load i bound reached
      · exact not_readFirst_nil _ none

end PhantomTrails.Simulator
