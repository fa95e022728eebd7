import PhantomTrails.ArchSim.Model
import PhantomTrails.SimMem.Model

namespace PhantomTrails

open Foundation

/-! # The simulation driver's memory

The part of `Simulator.h` that fills and taints the DRAM, and the part of
`main.cc` that sets up a round: initialization code, program sections, the
architectural run, and the labels that run justifies.
-/

structure Buffer where
  bytes : Nat → UInt8
  size : UInt64

def Buffer.at (buffer : Buffer) (offset : UInt64) : Buffer where
  bytes := fun i => buffer.bytes (offset.toNat + i)
  size := buffer.size - min offset buffer.size

/-- How `memcpy` into the DRAM changes the taint labels; the sanitizer's
runtime decides, and it leaves the bytes that are not written alone. -/
structure LabelCopy where
  copy : Store UInt8 → (start count : Nat) → Store UInt8
  frame : ∀ labels start count cell, cell < start ∨ start + count ≤ cell →
    copy labels start count cell = labels cell

/-- The members that loading and tainting use.  `labels` are the taint labels
of `memory.data`; `taint_set_label` sets exactly the range it is given. -/
structure Simulator where
  memory : SimMem
  labels : Store UInt8
  programSize : UInt64 := 0
  initSize : UInt64 := 0
  codeRegions : List Region := []

inductive TaintSource where
  | all
  | memory
  | storeBuffer
  | loadQueue
  | lfb
  | unknown
deriving DecidableEq, Repr

namespace Simulator

/-- A newly constructed simulator; the labels are whatever the sanitizer
starts with. -/
def fresh (memory : SimMem) (labels : Store UInt8) (codeRegions : List Region) : Simulator :=
  { memory, labels, codeRegions }

def untaintedLbl : UInt8 := 0

def dataLbl : UInt8 := 1

abbrev baseAddr (sim : Simulator) : UInt64 := sim.memory.geometry.baseAddr

abbrev memSize (sim : Simulator) : UInt64 := sim.memory.geometry.memSize

/-! ## Tainting -/

def taintMemory (sim : Simulator) (start len : UInt64) (lbl : UInt8) : Simulator :=
  { sim with labels := sim.labels.fill start.toNat len.toNat lbl }

def taintAllMemory (sim : Simulator) (lbl : UInt8) : Simulator := sim.taintMemory 0 sim.memSize lbl

def untaintMemory (sim : Simulator) (start len : UInt64) : Simulator :=
  { sim with labels := sim.labels.fill start.toNat len.toNat untaintedLbl }

def addrToDramOffset (sim : Simulator) (addr : UInt64) : Except Fault UInt64 :=
  if addr ≥ sim.baseAddr then .ok (addr - sim.baseAddr) else .error .assertion

def dramOffsetToAddr (sim : Simulator) (offset : UInt64) : UInt64 := offset + sim.baseAddr

/-! ## Program load -/

/-- Copy `len` bytes from `buf` into the simulator memory at `startAddr`.
Reading past the end of the buffer is a fault. -/
def loadBytes (copy : LabelCopy) (sim : Simulator) (buf : Option Buffer) (startAddr len : UInt64) :
    Except Fault (UInt64 × Simulator) :=
  match buf with
  | none => .ok (0, sim)
  | some buffer =>
      if startAddr < sim.baseAddr ∨ startAddr ≥ sim.baseAddr + sim.memSize then .ok (0, sim)
      else do
        let startOffset ← sim.addrToDramOffset startAddr
        let nBytes := min len (sim.memSize - startOffset)
        if nBytes ≤ buffer.size then
          pure (nBytes, { sim with
            memory := { sim.memory with
              data := sim.memory.data.copy startOffset.toNat nBytes.toNat buffer.bytes }
            labels := copy.copy sim.labels startOffset.toNat nBytes.toNat })
        else throw .outOfBounds

def addCode (copy : LabelCopy) (sim : Simulator) (buf : Option Buffer) (startAddr len : UInt64) :
    Except Fault (UInt64 × Simulator) :=
  sim.loadBytes copy buf startAddr len

def addData (copy : LabelCopy) (sim : Simulator) (buf : Option Buffer) (startAddr len : UInt64) :
    Except Fault (UInt64 × Simulator) := do
  let (loadedBytes, sim) ← sim.loadBytes copy buf startAddr len
  let startOffset ← sim.addrToDramOffset startAddr
  pure (loadedBytes, sim.taintMemory startOffset len dataLbl)

/-! ## Architectural simulation -/

/-- The arguments `Simulator` and `initSpikeSim` construct the architectural
simulator with. -/
def archConfig (sim : Simulator) (discardIllegalJumps : Bool) : ArchSim.Config where
  ramBase := sim.baseAddr
  recordAddresses := true
  filtersEnabled := true
  discardIllegalJumps := discardIllegalJumps

/-- The program handed to Spike is the DRAM itself. -/
def archProgram (sim : Simulator) : ArchSim.Program where
  buf := some sim.memory.data
  len := sim.programSize
  codeRegions := sim.codeRegions
  initSize := sim.initSize

def untaintArchAddress (sim : Simulator) (addr : UInt64) : Simulator :=
  if addr ≥ sim.baseAddr + sim.memSize ∨ addr < sim.baseAddr then sim
  else
    let memIndex := addr - sim.baseAddr
    sim.untaintMemory (memIndex - memIndex % 8) 8

def untaintArchAddresses (sim : Simulator) (addrs : List UInt64) : Simulator :=
  addrs.foldl untaintArchAddress sim

/-! ## Setting up a round -/

structure Sections where
  sim : Simulator
  start : UInt64
  codeSize : UInt64 := 0

/-- The region list the loop runs over: by default everything is code. -/
def effectiveRegions (sim : Simulator) : List Region :=
  if sim.codeRegions = [] then [(sim.dramOffsetToAddr sim.initSize, sim.baseAddr + sim.programSize)]
  else sim.codeRegions

/-- `&buf[count]`.  Off a null pointer this is an address with nothing behind
it, which `loadBytes` does not take for null. -/
def advance (buf : Option Buffer) (count : UInt64) : Option Buffer :=
  match buf with
  | some buffer => some (buffer.at count)
  | none => if count = 0 then none else some ⟨fun _ => 0, 0⟩

def bufferAt (sim : Simulator) (buf : Option Buffer) (addr : UInt64) : Except Fault (Option Buffer) := do
  let offset ← sim.addrToDramOffset addr
  pure (advance buf (offset - sim.initSize))

/-- One region: the data before it, then its code.  The test for init code
compares an address with a size, as the source does. -/
def loadSection (copy : LabelCopy) (buf : Option Buffer) : Machine Sections Region Fault :=
  fun sections region =>
    if region.1 < sections.sim.initSize then .ok sections
    else do
      let sim ← (if region.1 > sections.start then do
          let source ← sections.sim.bufferAt buf sections.start
          let (_, sim) ← sections.sim.addData copy source sections.start (region.1 - sections.start)
          pure sim
        else pure sections.sim)
      let source ← sim.bufferAt buf region.1
      let (_, sim) ← sim.addCode copy source region.1 (region.2 - region.1)
      pure { sim, start := region.2, codeSize := sections.codeSize + (region.2 - region.1) }

def loadProgramSections (copy : LabelCopy) (sim : Simulator) (buf : Option Buffer) :
    Except Fault (UInt64 × Simulator) := do
  let start := sim.dramOffsetToAddr sim.initSize
  let stop := sim.baseAddr + sim.programSize
  let sim := { sim with codeRegions := sim.effectiveRegions }
  let sections ← Machine.run (loadSection copy buf) { sim, start } sim.codeRegions
  -- Load last section.
  let source ← sections.sim.bufferAt buf sections.start
  let (_, sim) ← sections.sim.addData copy source sections.start (stop - sections.start)
  pure (sections.codeSize, sim)

/-- The command-line arguments a round uses, with the files opened: `none` for
a path that was not given, `some none` for a file that could not be mapped. -/
structure Args where
  initCode : Option (Option Buffer)
  mdsInit : Option (Option Buffer)
  program : Option Buffer
  initSize : UInt64
  spikeCyclesPerInst : UInt64
  discardIllegalJumps : Bool

def fileLen (file : Option Buffer) : UInt64 := (file.map Buffer.size).getD 0

/-- `main` from the first tainting to the loaded program. -/
def loadRound (copy : LabelCopy) (args : Args) (sim : Simulator) : Except Fault (UInt64 × Simulator) := do
  let sim := sim.taintAllMemory dataLbl
  let sim ← (match args.initCode with
    | none => pure sim
    | some file => do
        let (_, sim) ← sim.addCode copy file sim.baseAddr (fileLen file)
        pure { sim with initSize := fileLen file })
  let sim ← (match args.mdsInit with
    | none => pure sim
    | some file => do
        let (_, sim) ← sim.addCode copy file (sim.baseAddr + sim.initSize) (fileLen file)
        pure { sim with initSize := sim.initSize + fileLen file })
  let sim := { sim with programSize := sim.initSize + fileLen args.program }
  -- Initialization provided inside of the binary.
  if args.initSize > 0 then do
    let (_, sim) ← sim.addCode copy args.program (sim.baseAddr + sim.initSize) args.initSize
    loadProgramSections copy { sim with initSize := sim.initSize + args.initSize }
      (advance args.program args.initSize)
  else loadProgramSections copy sim args.program

def forbiddenRegion : Region := (0x8000C000, 0x8000D000)

/-- A round that was not discarded: the labelled memory the cycle-accurate
simulation starts from, and the architectural result. -/
structure Round (Core Devices : Type) (ramSize : UInt64) where
  sim : Simulator
  archSim : ArchSim Core Devices ramSize
  result : ArchSim.SimResult

variable {Core Devices : Type} {ramSize : UInt64}

def prepareArchSim (args : Args) (archSim : ArchSim Core Devices ramSize) :
    ArchSim Core Devices ramSize :=
  if args.mdsInit.isSome then archSim.setForbiddenRegion forbiddenRegion else archSim

def archCycles (args : Args) (codeSize : UInt64) : UInt64 := codeSize / 4 * args.spikeCyclesPerInst

/-- The architectural run and the labels it justifies; `none` if the program
was discarded. -/
def taintRound (spike : Spike Core Devices ramSize) (source : TaintSource) (args : Args)
    (sim : Simulator) (archSim : ArchSim Core Devices ramSize) (codeSize : UInt64) :
    Except Fault (Option (Round Core Devices ramSize)) := do
  let (result, archSim) ← ArchSim.runSpikeSim spike (sim.archConfig args.discardIllegalJumps) archSim
    sim.archProgram (archCycles args codeSize)
  if result.addrs = [] then pure none
  else
    let sim := sim.taintMemory 0 sim.programSize dataLbl
    let sim := sim.untaintArchAddresses result.insts
    let sim := sim.untaintArchAddresses result.addrs
    let sim := if source ≠ .all ∧ source ≠ .memory then sim.taintAllMemory untaintedLbl else sim
    pure (some { sim, archSim, result })

end Simulator

end PhantomTrails
