import Mathlib.Data.Nat.Digits.Defs
import PhantomTrails.SimMem.Model

namespace PhantomTrails

open Foundation

/-! # The Verilog wrapper of the DRAM

`vsrc/FakeDRAM.v` and the DPI function `memory_tick` it calls,
`dpi/FakeDRAM.cc`.  The AXI ports show registers; a rising edge outside reset
ticks the C++ memory and latches what the memory then signals.
-/

/-- What the master drives just before a rising edge.  The burst type, lock,
cache, protection and quality-of-service ports are left out: nothing reads
them. -/
structure FakeDRAM.Edge (addrBits idBits : Nat) where
  reset : Bool := false
  arValid : Bool := false
  arAddr : BitVec addrBits := 0
  arId : BitVec idBits := 0
  arSize : BitVec 3 := 0
  arLen : BitVec 8 := 0
  awValid : Bool := false
  awAddr : BitVec addrBits := 0
  awId : BitVec idBits := 0
  awSize : BitVec 3 := 0
  awLen : BitVec 8 := 0
  wValid : Bool := false
  wStrb : BitVec 8 := 0
  wData : BitVec 64 := 0
  wLast : Bool := false
  rReady : Bool := false
  bReady : Bool := false

structure FakeDRAM.Registers (idBits : Nat) where
  arReady : Bool := false
  awReady : Bool := false
  wReady : Bool := false
  rValid : Bool := false
  rId : BitVec idBits := 0
  rResp : BitVec 2 := 0
  rData : BitVec 64 := 0
  rLast : Bool := false
  bValid : Bool := false
  bId : BitVec idBits := 0
  bResp : BitVec 2 := 0

structure FakeDRAM.Signals where
  arReady : Bool
  awReady : Bool
  wReady : Bool
  rValid : Bool
  rId : BitVec 32
  rResp : BitVec 32
  rData : BitVec 64
  rLast : Bool
  bValid : Bool
  bId : BitVec 32
  bResp : BitVec 32

/-- The registers, and the memory `setSimulationDRAM` has installed.  The
driver installs one before the first edge, so the null check of `memory_tick`
never ends it early. -/
structure FakeDRAM (idBits : Nat) where
  memory : SimMem
  regs : FakeDRAM.Registers idBits

namespace FakeDRAM

variable {addrBits idBits : Nat}

def intArg (word : BitVec 32) : UInt64 := UInt64.ofBitVec (word.signExtend 64)

/-- The wire that carries a port, 32 bits wide, as an `int`. -/
def portArg {width : Nat} (port : BitVec width) : UInt64 := intArg (port.setWidth 32)

def intResult (value : UInt64) : BitVec 32 := value.toBitVec.setWidth 32

def byteAt (word : BitVec 64) (lane : Nat) : UInt8 := UInt8.ofNat (word.toNat / 256 ^ lane)

/-- `*(long *)` of a byte buffer on a little-endian host. -/
def readLong (bytes : List UInt8) : Except Fault (BitVec 64) :=
  if 8 ≤ bytes.length then .ok (BitVec.ofNat 64 (Nat.ofDigits 256 ((bytes.take 8).map UInt8.toNat)))
  else .error .outOfBounds

def Edge.tickArgs (edge : Edge addrBits idBits) : SimMem.TickArgs where
  reset := edge.reset
  arValid := edge.arValid
  arAddr := portArg edge.arAddr
  arId := portArg edge.arId
  arSize := portArg edge.arSize
  arLen := portArg edge.arLen
  awValid := edge.awValid
  awAddr := portArg edge.awAddr
  awId := portArg edge.awId
  awSize := portArg edge.awSize
  awLen := portArg edge.awLen
  wValid := edge.wValid
  wStrb := portArg edge.wStrb
  wData := byteAt edge.wData
  wLast := edge.wLast
  rReady := edge.rReady
  bReady := edge.bReady

def memoryTick (memory : SimMem) (edge : Edge addrBits idBits) : Except Fault (SimMem × Signals) := do
  let memory ← memory.tick edge.tickArgs
  let rData ← readLong memory.readData
  pure (memory,
    { arReady := memory.readAddrReady
      awReady := memory.writeAddrReady
      wReady := memory.writeDataReady
      rValid := memory.readDataValid
      rId := intResult memory.readDataId
      rResp := intResult memory.readDataResp
      rData
      rLast := memory.isLastRead
      bValid := memory.writeResponseValid
      bId := intResult memory.writeResponseId
      bResp := intResult memory.writeResponse })

def latch (signals : Signals) : Registers idBits where
  arReady := signals.arReady
  awReady := signals.awReady
  wReady := signals.wReady
  rValid := signals.rValid
  rId := signals.rId.setWidth idBits
  rResp := signals.rResp.setWidth 2
  rData := signals.rData
  rLast := signals.rLast
  bValid := signals.bValid
  bId := signals.bId.setWidth idBits
  bResp := signals.bResp.setWidth 2

/-- What the reset branch clears; the other registers keep their values. -/
def Registers.clear (regs : Registers idBits) : Registers idBits :=
  { regs with arReady := false, awReady := false, wReady := false, rValid := false, bValid := false }

/-- The `always @(posedge clock)` block.  Under reset it does not call the
memory. -/
def posedge (state : FakeDRAM idBits) (edge : Edge addrBits idBits) : Except Fault (FakeDRAM idBits) :=
  if edge.reset then .ok { state with regs := state.regs.clear }
  else do
    let (memory, signals) ← memoryTick state.memory edge
    pure { memory, regs := latch signals }

end FakeDRAM

end PhantomTrails
