import PhantomTrails.Detection.Rob

namespace PhantomTrails

/-! # Pipeline flushes

`uarch/Flushes.h`: whether the pipeline flushes, and what the report about a
flush says.
-/

inductive FlushType where
  | flush
  | exception
  | misprediction
  | memOrdering
  | unknownFlush
  | none
deriving DecidableEq, Repr

/-- An `enum class` over `uint64_t`: the cause register is cast to it, so
every value can occur. -/
abbrev FlushCause := UInt64

namespace FlushCause

def MISALIGNED_FETCH : FlushCause := 0x0
def FETCH_ACCESS : FlushCause := 0x1
def ILLEGAL_INSTRUCTION : FlushCause := 0x2
def BREAKPOINT : FlushCause := 0x3
def MISALIGNED_LOAD : FlushCause := 0x4
def LOAD_ACCESS : FlushCause := 0x5
def MISALIGNED_STORE : FlushCause := 0x6
def STORE_ACCESS : FlushCause := 0x7
def USER_ECALL : FlushCause := 0x8
def SUPERVISOR_ECALL : FlushCause := 0x9
def VIRTUAL_SUPERVISOR_ECALL : FlushCause := 0xa
def MACHINE_ECALL : FlushCause := 0xb
def FETCH_PAGE_FAULT : FlushCause := 0xc
def LOAD_PAGE_FAULT : FlushCause := 0xd
def STORE_PAGE_FAULT : FlushCause := 0xf
def MINI_EXCEPTION_MEM_ORDERING : FlushCause := 0x10
def FETCH_GUEST_PAGE_FAULT : FlushCause := 0x14
def LOAD_GUEST_PAGE_FAULT : FlushCause := 0x15
def VIRTUAL_INSTRUCTION : FlushCause := 0x16
def STORE_GUEST_PAGE_FAULT : FlushCause := 0x17
def CAUSE_MISPREDICTION : FlushCause := 0x18
def CAUSE_MISPREDICTION_WITH_EXCEPTION : FlushCause := 0x19
def CAUSE_UNKNOWN : FlushCause := 0x1a

end FlushCause

def firstSlot : Fin 64 := 0

structure BranchInfo where
  valid : Bool := false
  mispredict : Bool := false
  rob_idx : Fin 64 := firstSlot
  taken : Bool := false

structure FlushTop where
  flushSignal : Bool := false
  xcptValid : Bool := false
  isFlushOnCommit : Bool := false
  xcptCause : UInt64 := 0
  xcptBadAddr : UInt64 := 0
  mispredBrMask : UInt64 := 0
  br0 : BranchInfo := {}
  br1 : BranchInfo := {}
  mispredUseSecond : Bool := false

structure FlushInfo where
  type : FlushType
  cause : FlushCause
  inst : RobEntry := {}
  badAddr : UInt64 := 0
  mispredMask : UInt64 := 0
  robState : RobState := {}
  taken : Bool := false

def FlushTop.isFlushing (top : FlushTop) : Bool := top.flushSignal || top.mispredBrMask != 0

/-- The instruction a misprediction comes from: the ROB index of the branch
holds its row and, in the last bit, its bank. -/
def FlushInfo.readBranch (info : FlushInfo) (top : FlushTop) : FlushInfo :=
  let firstMispred := top.br0.mispredict && top.br0.valid
  let secondMispred := top.br1.mispredict && top.br1.valid
  if firstMispred || secondMispred then
    let useSecond := secondMispred && top.mispredUseSecond
    let mispredIdx := if useSecond then top.br1.rob_idx else top.br0.rob_idx
    { info with
      inst := info.robState.entry ⟨mispredIdx.val / 2, by omega⟩ ⟨mispredIdx.val % 2, by omega⟩
      taken := if useSecond then top.br1.taken else top.br0.taken }
  else info

/-- `info` brings the members the source leaves uninitialised: the cause of
an unknown flush keeps its old value. -/
def FlushInfo.readFrom (info : FlushInfo) (rob : RobTop) (top : FlushTop) : FlushInfo :=
  let info := { info with robState := RobState.readFrom rob }
  if top.flushSignal then
    -- Flushes always happen when retiring the head of the RoB.
    let info := { info with inst := info.robState.getHead }
    if top.xcptValid then
      { info with
        cause := top.xcptCause
        type := .exception
        badAddr := top.xcptBadAddr }
    else if top.isFlushOnCommit then { info with type := .flush, cause := top.xcptCause }
    else if top.xcptCause = FlushCause.MINI_EXCEPTION_MEM_ORDERING then
      { info with type := .memOrdering, cause := top.xcptCause }
    else { info with type := .unknownFlush }
  else if top.mispredBrMask ≠ 0 then
    { info with
      cause := FlushCause.CAUSE_MISPREDICTION
      type := .misprediction
      mispredMask := top.mispredBrMask }.readBranch top
  else info

namespace FlushInfo

variable {info : FlushInfo} {rob : RobTop} {top : FlushTop}

@[simp] theorem readBranch_type : (info.readBranch top).type = info.type := by
  simp only [readBranch]
  split <;> rfl

@[simp] theorem readBranch_robState : (info.readBranch top).robState = info.robState := by
  simp only [readBranch]
  split <;> rfl

theorem readFrom_robState : (info.readFrom rob top).robState = RobState.readFrom rob := by
  simp only [readFrom]
  split
  · split
    · rfl
    · split
      · rfl
      · split <;> rfl
  · split
    · exact readBranch_robState
    · rfl

theorem readFrom_type_ne_none (flushing : top.isFlushing = true) :
    (info.readFrom rob top).type ≠ .none := by
  simp only [readFrom]
  split
  · split
    · exact FlushType.noConfusion
    · split
      · exact FlushType.noConfusion
      · split <;> exact FlushType.noConfusion
  · rename_i quiet
    split
    · rw [readBranch_type]
      exact FlushType.noConfusion
    · rename_i predicted
      simp_all [FlushTop.isFlushing]

end FlushInfo

end PhantomTrails
