import PhantomTrails.Fault

namespace PhantomTrails

/-! # The filters of the architectural simulator

The filtering logic `processor.patch` adds to Spike's `processor_t`: what it
remembers about a program, and the hooks Spike calls from a jump, a completed
load, a completed store and a trap.
-/

/-- An address interval, `first` included and `second` excluded. -/
abbrev Region := UInt64 × UInt64

def Region.holds (region : Region) (addr : UInt64) : Bool :=
  decide (region.1 ≤ addr) && decide (addr < region.2)

inductive Filters.IllegalJumpType where
  | none
  | outsideValidMem
  | newpcTooNear
  | newpcUnaligned
  | misalignedLoad
deriving DecidableEq, Repr

/-- The members of `processor_t` the filters use.  `initEnd` and
`illegalJumpType` have no initial value in the source; both are written before
they are read. -/
structure Filters where
  initEnd : UInt64 := 0
  codeRegions : List Region := []
  illegalJump : Bool := false
  illegalJumpType : Filters.IllegalJumpType := .none
  illegalJumpPc : UInt64 := 0
  forbiddenRegions : List Region := []
  selfModifying : Bool := false
  accessedForbiddenRegion : Bool := false
  illegalInst : Bool := false
  unhandledTrap : Bool := false
  trap : Bool := false
deriving DecidableEq, Repr

namespace Filters

def isInsideCodeRegion (filters : Filters) (addr : UInt64) : Bool :=
  filters.codeRegions.any fun region => region.holds addr

def isInsideForbiddenRegion (filters : Filters) (addr : UInt64) : Bool :=
  filters.forbiddenRegions.any fun region => region.holds addr

def flagJump (filters : Filters) (newpc : UInt64) (type : IllegalJumpType) : Filters :=
  { filters with illegalJumpPc := newpc, illegalJumpType := type, illegalJump := true }

def tooNear (pc newpc : UInt64) : Bool :=
  decide (newpc ≥ pc) && decide (newpc < pc + 8) || decide (newpc < pc) && decide (newpc > pc - 8)

/-- `pc` is `state.pc`, the virtual address of the jump; `targetOffset` comes
from the TLB entry `translate_insn_addr` returns for the target.  The first
region is read without a check that there is one. -/
def jumpHook (filters : Filters) (pc newpc targetOffset : UInt64) : Except Fault Filters :=
  let newpc := targetOffset + newpc
  match filters.codeRegions with
  | [] => .error .outOfBounds
  | first :: _ =>
      -- Ignore boot code.
      if pc < first.1 then .ok filters
      else
        let outside := if filters.isInsideCodeRegion newpc then filters
          else filters.flagJump newpc .outsideValidMem
        let near := if tooNear pc newpc then outside.flagJump newpc .newpcTooNear else outside
        .ok (if newpc % 4 ≠ 0 then near.flagJump newpc .newpcUnaligned else near)

def checkForbidden (filters : Filters) (addr : UInt64) : Filters :=
  if filters.isInsideForbiddenRegion addr then { filters with accessedForbiddenRegion := true }
  else filters

def storeHook (filters : Filters) (pc addr : UInt64) : Filters :=
  if pc < filters.initEnd then filters
  else
    let checked := if filters.isInsideCodeRegion addr then { filters with selfModifying := true }
      else filters
    checked.checkForbidden addr

def loadHook (filters : Filters) (pc addr : UInt64) : Filters :=
  if pc < filters.initEnd then filters else filters.checkForbidden addr

def causeIllegalInstruction : UInt64 := 2

def trapHook (filters : Filters) (cause mtvec : UInt64) : Filters :=
  let filters := { filters with trap := true }
  let filters := if cause = causeIllegalInstruction then { filters with illegalInst := true }
    else filters
  if mtvec = 0 then { filters with unhandledTrap := true } else filters

/-- How `init.S` maps the user pages: the code page a second time at address 0,
the others where they are. -/
def userPages (addr : UInt64) : UInt64 := if addr < 0x1000 then addr + 0x80008000 else addr

/-! ## What the hooks do to the flags -/

def InCode (filters : Filters) (addr : UInt64) : Prop :=
  ∃ region ∈ filters.codeRegions, region.1 ≤ addr ∧ addr < region.2

def InForbidden (filters : Filters) (addr : UInt64) : Prop :=
  ∃ region ∈ filters.forbiddenRegions, region.1 ≤ addr ∧ addr < region.2

theorem isInsideCodeRegion_iff {filters : Filters} {addr : UInt64} :
    filters.isInsideCodeRegion addr = true ↔ filters.InCode addr := by
  simp [isInsideCodeRegion, InCode, Region.holds]

theorem isInsideForbiddenRegion_iff {filters : Filters} {addr : UInt64} :
    filters.isInsideForbiddenRegion addr = true ↔ filters.InForbidden addr := by
  simp [isInsideForbiddenRegion, InForbidden, Region.holds]

theorem jumpHook_illegalJump {filters : Filters} {first : Region} {rest : List Region}
    {pc newpc targetOffset : UInt64} (regions : filters.codeRegions = first :: rest) :
    ∃ after, filters.jumpHook pc newpc targetOffset = .ok after ∧
      (after.illegalJump = true ↔ filters.illegalJump = true ∨
        first.1 ≤ pc ∧ (filters.isInsideCodeRegion (targetOffset + newpc) = false ∨
          tooNear pc (targetOffset + newpc) = true ∨ (targetOffset + newpc) % 4 ≠ 0)) := by
  simp only [jumpHook, regions]
  by_cases boot : pc < first.1
  · have before : ¬ first.1 ≤ pc := fun above => UInt64.not_lt.mpr above boot
    exact ⟨filters, if_pos boot, by simp [before]⟩
  · refine ⟨_, if_neg boot, ?_⟩
    have reached := UInt64.not_lt.mp boot
    cases inside : filters.isInsideCodeRegion (targetOffset + newpc) <;>
      cases near : tooNear pc (targetOffset + newpc) <;>
      by_cases aligned : (targetOffset + newpc) % 4 = 0 <;>
      simp [flagJump, aligned, reached]

theorem jumpHook_codeRegions {filters after : Filters} {pc newpc targetOffset : UInt64}
    (hooked : filters.jumpHook pc newpc targetOffset = .ok after) :
    after.codeRegions = filters.codeRegions := by
  simp only [jumpHook] at hooked
  split at hooked
  · contradiction
  · split at hooked
    · cases hooked
      rfl
    · cases hooked
      split <;> split <;> split <;> rfl

end Filters

end PhantomTrails
