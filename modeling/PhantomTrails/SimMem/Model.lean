import Mathlib.Algebra.Group.Nat.Defs
import PhantomTrails.Foundation.Run
import PhantomTrails.Foundation.Store
import PhantomTrails.Fault

namespace PhantomTrails

open Foundation

/-! # The simulated DRAM

`SimMem` is the C++ memory behind the Verilog model: `dpi/SimMem.h` and
`dpi/SimMem.cc`.  Addresses, ids and lengths are the `uint64_t` values of the
source; `data` is indexed by DRAM offsets and every access to it is checked
against `memSize`.
-/

/-- The constructor's arguments, with what its `assert` demands of them. -/
structure SimMem.Geometry where
  baseAddr : UInt64
  memSize : UInt64
  wordSize : UInt64
  lineSize : UInt64
  word_pos : 0 < wordSize
  line_pos : 0 < lineSize
  line_power : lineSize &&& (lineSize - 1) = 0
  line_words : lineSize % wordSize = 0

/-- Eight words, one cache line: the size the closed examples use. -/
def SimMem.Geometry.tiny : SimMem.Geometry where
  baseAddr := 0x80000000
  memSize := 64
  wordSize := 8
  lineSize := 64
  word_pos := by decide
  line_pos := by decide
  line_power := by decide
  line_words := by decide

structure SimMem.InFlightStore where
  inFlight : Bool := false
  addr : UInt64 := 0
  id : UInt64 := 0
  size : UInt64 := 0
  count : UInt64 := 0
deriving DecidableEq, Repr

structure SimMem.MemReadResponse where
  id : UInt64 := 0
  data : List UInt8 := []
  last : Bool := false
deriving DecidableEq, Repr

/-- The `cycle` counter is left out: it is only ever written. -/
structure SimMem where
  geometry : SimMem.Geometry
  data : Store UInt8
  curStore : SimMem.InFlightStore := {}
  readQueue : List SimMem.MemReadResponse := []
  writeRespQueue : List UInt64 := []

/-- The arguments of one `tick`; `wData` is the pointer to the bus bytes. -/
structure SimMem.TickArgs where
  reset : Bool := false
  arValid : Bool := false
  arAddr : UInt64 := 0
  arId : UInt64 := 0
  arSize : UInt64 := 0
  arLen : UInt64 := 0
  awValid : Bool := false
  awAddr : UInt64 := 0
  awId : UInt64 := 0
  awSize : UInt64 := 0
  awLen : UInt64 := 0
  wValid : Bool := false
  wStrb : UInt64 := 0
  wData : Nat → UInt8 := fun _ => 0
  wLast : Bool := false
  rReady : Bool := false
  bReady : Bool := false

namespace SimMem

abbrev memSize (mem : SimMem) : UInt64 := mem.geometry.memSize

abbrev wordSize (mem : SimMem) : UInt64 := mem.geometry.wordSize

/-- A newly constructed memory; `malloc` leaves `data` arbitrary. -/
def fresh (geometry : Geometry) (data : Store UInt8) : SimMem := { geometry, data }

def Geometry.align (geometry : Geometry) (addr : UInt64) : UInt64 :=
  (addr / geometry.wordSize) * geometry.wordSize

def align (mem : SimMem) (addr : UInt64) : UInt64 := mem.geometry.align addr

/-- `((1 << size) - 1) << shift`, computed in C++17 `int` arithmetic and then
converted to `uint64_t`.  The second operand of both shifts is a `uint64_t`,
but the first is an `int`, so the value must fit 32 bits; a negative result is
sign-extended by the conversion. -/
def strobeMask (size shift : UInt64) : Except Fault UInt64 :=
  if size.toNat ≤ 30 ∧ (2 ^ size.toNat - 1) * 2 ^ shift.toNat < 2 ^ 32 then
    .ok (UInt64.ofBitVec ((BitVec.ofNat 32 ((2 ^ size.toNat - 1) * 2 ^ shift.toNat)).signExtend 64))
  else .error .undefinedBehaviour

/-- The loop of `write`: lane `i` of the word at `base` is overwritten when
the lowest remaining strobe bit is set.  The right-hand side is `data[i]`, the
DRAM byte at offset `i`, as in the source. -/
def writeLanes (memSize base : Nat) :
    (remaining i : Nat) → UInt64 → Store UInt8 → Except Fault (Store UInt8)
  | 0, _, _, data => .ok data
  | remaining + 1, i, strb, data =>
      if strb &&& 1 = 1 then
        if base + i < memSize ∧ i < memSize then
          writeLanes memSize base remaining (i + 1) (strb >>> 1)
            (Function.update data (base + i) (data i))
        else .error .outOfBounds
      else writeLanes memSize base remaining (i + 1) (strb >>> 1) data

/-- Write the content of `src` into `dst`, using `strb` as strobe.  The source
never reads `src`. -/
def write (geometry : Geometry) (data : Store UInt8) (dst : UInt64) (_src : Nat → UInt8)
    (size strb : UInt64) : Except Fault (Store UInt8) := do
  let maxStrb : UInt64 := 64
  if size ≤ maxStrb then
    let strb ← if size = maxStrb then pure strb else do
      let mask ← strobeMask size (dst % geometry.wordSize)
      pure (strb &&& mask)
    writeLanes geometry.memSize.toNat (geometry.align (dst % geometry.memSize)).toNat
      geometry.wordSize.toNat 0 strb data
  else throw .assertion

def read (mem : SimMem) (addr n : UInt64) : Except Fault (List UInt8) :=
  let base := (addr % mem.memSize).toNat
  if base + n.toNat ≤ mem.memSize.toNat then .ok (mem.data.slice base n.toNat)
  else .error .outOfBounds

/-! ## Signals connected to the verilated model -/

def writeAddrReady (mem : SimMem) : Bool := !mem.curStore.inFlight

def writeDataReady (mem : SimMem) : Bool := mem.curStore.inFlight

def writeResponseValid (mem : SimMem) : Bool := !mem.writeRespQueue.isEmpty

def writeResponse (_ : SimMem) : UInt64 := 0

def writeResponseId (mem : SimMem) : UInt64 := mem.writeRespQueue.headD 0

def readAddrReady (_ : SimMem) : Bool := true

def readDataValid (mem : SimMem) : Bool := !mem.readQueue.isEmpty

def readDataResp (_ : SimMem) : UInt64 := 0

def readDataId (mem : SimMem) : UInt64 := (mem.readQueue.head?.map (·.id)).getD 0

/-- The `dummy` vector that stands in when no beat is waiting. -/
def dummy (mem : SimMem) : List UInt8 := List.replicate mem.wordSize.toNat 0

def readData (mem : SimMem) : List UInt8 := (mem.readQueue.head?.map (·.data)).getD mem.dummy

def isLastRead (mem : SimMem) : Bool := (mem.readQueue.head?.map (·.last)).getD false

/-! ## The clock tick -/

structure Fires where
  arFire : Bool
  awFire : Bool
  wFire : Bool
  rFire : Bool
  bFire : Bool
deriving DecidableEq, Repr

def fires (mem : SimMem) (bus : TickArgs) : Fires where
  arFire := !bus.reset && bus.arValid && mem.readAddrReady
  awFire := !bus.reset && bus.awValid && mem.writeAddrReady
  wFire := !bus.reset && bus.wValid && mem.writeDataReady
  rFire := !bus.reset && mem.readDataValid && bus.rReady
  bFire := !bus.reset && mem.writeResponseValid && bus.bReady

/-- The loop that answers an address read.  Its counter is an `int`, which an
AXI burst of at most 256 beats does not exhaust. -/
def pushReads (mem : SimMem) (start arId arLen : UInt64) :
    (remaining i : Nat) → List MemReadResponse → Except Fault (List MemReadResponse)
  | 0, _, queue => .ok queue
  | remaining + 1, i, queue =>
      match mem.read (start + UInt64.ofNat i * mem.wordSize) mem.wordSize with
      | .ok data =>
          pushReads mem start arId arLen remaining (i + 1)
            (queue ++ [{ id := arId, data, last := i == arLen.toNat }])
      | .error fault => .error fault

def addressRead (mem : SimMem) (bus : TickArgs) : Except Fault SimMem := do
  let queue ← mem.pushReads (mem.align bus.arAddr) bus.arId bus.arLen (bus.arLen.toNat + 1) 0
    mem.readQueue
  pure { mem with readQueue := queue }

/-- `1ULL << awSize` is undefined from 64 on. -/
def addressWrite (mem : SimMem) (bus : TickArgs) : Except Fault SimMem :=
  if bus.awSize < 64 then
    .ok { mem with curStore :=
      { inFlight := true, addr := bus.awAddr, id := bus.awId, size := 1 <<< bus.awSize,
        count := bus.awLen + 1 } }
  else .error .undefinedBehaviour

abbrev WriteFn := Geometry → Store UInt8 → (dst : UInt64) → (src : Nat → UInt8) →
  (size strb : UInt64) → Except Fault (Store UInt8)

/-- One accepted data beat.  The call of `write` passes the bus strobe where
`write` takes the size, and the beat size where it takes the strobe. -/
def dataWrite (write : WriteFn) (mem : SimMem) (bus : TickArgs) : Except Fault SimMem := do
  let data ← write mem.geometry mem.data mem.curStore.addr bus.wData bus.wStrb mem.curStore.size
  let store := { mem.curStore with
    addr := mem.curStore.addr + mem.curStore.size
    count := mem.curStore.count - 1 }
  if store.count = 0 then
    if bus.wLast then
      pure { mem with
        data
        curStore := { store with inFlight := false }
        writeRespQueue := mem.writeRespQueue ++ [store.id] }
    else throw .assertion
  else pure { mem with data, curStore := store }

def onFire (mem : SimMem) (fire : Bool) (phase : SimMem → Except Fault SimMem) :
    Except Fault SimMem :=
  if fire then phase mem else .ok mem

def popWriteResponse (mem : SimMem) : SimMem := { mem with writeRespQueue := mem.writeRespQueue.tail }

def popRead (mem : SimMem) : SimMem := { mem with readQueue := mem.readQueue.tail }

def clearQueues (mem : SimMem) : SimMem := { mem with writeRespQueue := [], readQueue := [] }

/-- The clock tick, with the data write as a parameter. -/
def tickWith (write : WriteFn) (mem : SimMem) (bus : TickArgs) : Except Fault SimMem := do
  let fire := mem.fires bus
  let mem ← mem.onFire fire.arFire fun mem => mem.addressRead bus
  let mem ← mem.onFire fire.awFire fun mem => mem.addressWrite bus
  let mem ← mem.onFire fire.wFire fun mem => mem.dataWrite write bus
  let mem := if fire.bFire then mem.popWriteResponse else mem
  let mem := if fire.rFire then mem.popRead else mem
  pure (if bus.reset then mem.clearQueues else mem)

def tick : SimMem → TickArgs → Except Fault SimMem := tickWith write

end SimMem

end PhantomTrails
