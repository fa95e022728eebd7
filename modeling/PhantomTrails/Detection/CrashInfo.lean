import Mathlib.Data.Finset.Insert
import PhantomTrails.Detection.Flushes
import PhantomTrails.Simulator.Model

namespace PhantomTrails

/-! # The crash record

`Classification.h`: what is remembered about the first tainted register and
about the flush that follows it, and the name the bug is given.
-/

inductive SinkType where
  | iregfile
  | fpregfile
  | none
deriving DecidableEq, Repr

structure TaintInfo where
  sink : SinkType
  addr : UInt64
deriving DecidableEq, Repr

/-- Contains all the information needed for deduplication/triaging.  The
source leaves `flushInfo` uninitialised until a flush is recorded. -/
structure CrashInfo where
  taintFound : Bool := false
  taintCycle : UInt64 := 0
  taintRob : RobState := {}
  taintInstr : RobEntry := {}
  taintBrMask : UInt16 := 0
  isTaintArchitectural : Bool := false
  flushFound : Bool := false
  flushCycle : UInt64 := 0
  flushInfo : FlushInfo
  reason : String := "Unknown"

namespace CrashInfo

def recordTaint (crash : CrashInfo) (ticks : UInt64) (rob : RobTop) (taintInfo : TaintInfo)
    (previouslyBusy : BusyMask) : CrashInfo :=
  let taintRob := RobState.readFrom rob
  let taintInstr := taintRob.getTaintingInstruction previouslyBusy rob.getRobBusyMask taintInfo.addr
  { crash with
    taintFound := true
    taintCycle := ticks
    taintRob := taintRob
    taintInstr := taintInstr
    taintBrMask := taintInstr.brMask }

def updateTaintInstr (crash : CrashInfo) (rob : RobTop) : CrashInfo :=
  if crash.taintFound then
    let curRob := RobState.readFrom rob
    let curEntry := curRob.entry crash.taintInstr.robIdx crash.taintInstr.robBank
    { crash with
      taintBrMask := curEntry.brMask
      isTaintArchitectural := crash.isTaintArchitectural ||
        (curRob.isHead crash.taintInstr && curEntry.valid && !curEntry.busy && !curEntry.exception) }
  else crash

def isKilledByBranch (brMask mask : UInt64) : Bool := brMask &&& mask != 0

def isExcepting (instr : RobEntry) (rob : RobState) : Bool :=
  (rob.entry instr.robIdx instr.robBank).exception

def savedFlush (crash : CrashInfo) (flushInfo : FlushInfo) : FlushInfo :=
  if flushInfo.type = .misprediction ∧ isExcepting crash.taintInstr flushInfo.robState then
    { flushInfo with cause := FlushCause.CAUSE_MISPREDICTION_WITH_EXCEPTION }
  else flushInfo

/-- Check the reason of the flush and save information for later triaging.
Returns whether the flush was relevant or not. -/
def recordFlush (crash : CrashInfo) (ticks : UInt64) (flushInfo : FlushInfo) : Bool × CrashInfo :=
  -- Ignore architectural flushes.
  if flushInfo.type = .flush then (false, crash)
  -- Ignore branch mispredictions that are not related to the taint.
  else if flushInfo.type = .misprediction ∧
      isKilledByBranch crash.taintBrMask.toUInt64 flushInfo.mispredMask = false then (false, crash)
  else (true, { crash with
    flushFound := true
    flushCycle := ticks
    flushInfo := crash.savedFlush flushInfo })

end CrashInfo

/-! ## Classification -/

def TaintSource.toString : TaintSource → String
  | .all => "ALL"
  | .memory => "MEMORY"
  | .storeBuffer => "STORE_BUFFER"
  | .loadQueue => "LOAD_QUEUE"
  | .lfb => "LFB"
  | .unknown => "UNKNOWN_SOURCE"

namespace CrashInfo

def RET_RAW_BYTES : UInt32 := 0x00008067

def RET_MASK : UInt32 := 0x000FFFFF

def uopBEQ : UInt8 := 24
def uopBNE : UInt8 := 25
def uopBGE : UInt8 := 26
def uopBGEU : UInt8 := 27
def uopBLT : UInt8 := 28
def uopBLTU : UInt8 := 29
def uopJ : UInt8 := 36
def uopJAL : UInt8 := 37
def uopJALR : UInt8 := 38

/-- The four bytes of the instruction, read from the DRAM without a check of
the address: an access past its end is a fault. -/
def getRawInstr (memory : SimMem) (pc : UInt64) : Except Fault UInt32 :=
  let offset := (pc - memory.geometry.baseAddr).toNat
  if offset + 4 ≤ memory.geometry.memSize.toNat then
    .ok ((memory.data offset).toUInt32 ||| (memory.data (offset + 1)).toUInt32 <<< 8 |||
      (memory.data (offset + 2)).toUInt32 <<< 16 ||| (memory.data (offset + 3)).toUInt32 <<< 24)
  else .error .outOfBounds

def isRet (memory : SimMem) (flushInstr : RobEntry) : Except Fault Bool := do
  let rawInstr ← getRawInstr memory flushInstr.pc
  pure (rawInstr &&& RET_MASK == RET_RAW_BYTES)

def exceptionReasons : List (FlushCause × String) :=
  [(.MISALIGNED_FETCH, "MISALIGNED_FETCH"),
   (.FETCH_ACCESS, "FETCH_ACCESS"),
   (.ILLEGAL_INSTRUCTION, "ILLEGAL_INSTRUCTION"),
   (.BREAKPOINT, "BREAKPOINT"),
   (.MISALIGNED_LOAD, "MISALIGNED_LOAD"),
   (.LOAD_ACCESS, "LOAD_ACCESS"),
   (.MISALIGNED_STORE, "MISALIGNED_STORE"),
   (.STORE_ACCESS, "STORE_ACCESS"),
   (.USER_ECALL, "USER_ECALL"),
   (.SUPERVISOR_ECALL, "SUPERVISOR_ECALL"),
   (.VIRTUAL_SUPERVISOR_ECALL, "VSUPERVISOR_ECALL"),
   (.MACHINE_ECALL, "MACHINE_ECALL"),
   (.FETCH_PAGE_FAULT, "FETCH_PFAULT"),
   (.LOAD_PAGE_FAULT, "LOAD_PFAULT"),
   (.STORE_PAGE_FAULT, "STORE_PFAULT"),
   (.MINI_EXCEPTION_MEM_ORDERING, "MEM_ORDERING"),
   (.FETCH_GUEST_PAGE_FAULT, "FETCH_GUEST_PAGE_FAULT"),
   (.LOAD_GUEST_PAGE_FAULT, "LOAD_GUEST_PAGE_FAULT"),
   (.VIRTUAL_INSTRUCTION, "VIRTUAL_INSTRUCTION"),
   (.STORE_GUEST_PAGE_FAULT, "STORE_GUEST_PAGE_FAULT"),
   (.CAUSE_UNKNOWN, "UNKNOWN_CAUSE")]

def exceptionReason (cause : FlushCause) : String := (exceptionReasons.lookup cause).getD "Unknown"

def mispredictionReason (memory : SimMem) (retired_pcs : Finset UInt64) (taintInstr : RobEntry)
    (flushInfo : FlushInfo) : Except Fault String :=
  let uopcode := flushInfo.inst.uopcode
  if uopcode ∈ [uopBEQ, uopBGE, uopBGEU, uopBLT, uopBLTU, uopBNE] then
    if flushInfo.taken then pure "Spectre_v1_static"
    else if taintInstr.pc ∈ retired_pcs then pure "Spectre_v1_training"
    else pure "Spectre_v1_new"
  else if uopcode ∈ [uopJ, uopJAL, uopJALR] then do
    if ← isRet memory flushInfo.inst then pure "Spectre_RSB" else pure "Spectre_v2"
  else pure "Spectre_Unknown"

def flushReason (memory : SimMem) (retired_pcs : Finset UInt64) (taintInstr : RobEntry)
    (flushInfo : FlushInfo) : Except Fault String :=
  let sameInst := flushInfo.inst.pc = taintInstr.pc
  match flushInfo.type with
  | .misprediction => mispredictionReason memory retired_pcs taintInstr flushInfo
  | .memOrdering => pure "Spectre_v4"
  | .exception =>
      pure ((if sameInst then "Meltdown_" else "OOO_") ++ exceptionReason flushInfo.cause)
  | .flush => pure ("ArchFlush_" ++ if sameInst then "SameInst" else "DifferentInst")
  | .unknownFlush | .none => pure "Flush_Unknown"

def classify (crash : CrashInfo) (memory : SimMem) (retired_pcs : Finset UInt64)
    (source : TaintSource) : Except Fault CrashInfo := do
  let reason ← (if crash.taintFound = false then pure "No_taint"
    else if crash.flushFound = false then pure "No_flush"
    else if source ≠ .all ∧ source ≠ .memory then pure ("MDS_" ++ source.toString)
    else flushReason memory retired_pcs crash.taintInstr crash.flushInfo)
  pure { crash with reason }

end CrashInfo

end PhantomTrails
