import PhantomTrails.Foundation.Run
import PhantomTrails.Detection.CrashInfo

namespace PhantomTrails

open Foundation

/-! # The detection loop

The cycle-accurate part of `main`: `Simulator::step` counts what retires, and
each cycle is looked at for a tainted register and for a flush.
-/

/-- What one clock edge of the simulated core leaves to be read: the commit
ports, the reorder buffer, the flush signals, and what `checkTaintSinks`
answers.  `stale` are the members of a `FlushInfo` that are not initialised. -/
structure Top where
  committing0 : Bool := false
  committing1 : Bool := false
  committingPc : UInt64 := 0
  committingPc2 : UInt64 := 0
  rob : RobTop := {}
  flush : FlushTop := {}
  taintedSink : Option TaintInfo := none
  stale : FlushType × FlushCause := (.none, 0)

def Top.isFlushing (top : Top) : Bool := top.flush.isFlushing

def Top.getFlushInfo (top : Top) : FlushInfo :=
  FlushInfo.readFrom { type := top.stale.1, cause := top.stale.2 } top.rob top.flush

structure Counters where
  ticks : UInt64 := 0
  retired : UInt64 := 0
  last_retired : UInt64 := 0
  last_retired_pc : UInt64 := 0
  n_same_inst : UInt64 := 0
  retired_pcs : Finset UInt64 := ∅

namespace Counters

def retire (sim : Counters) (pc : UInt64) : Counters :=
  { sim with
    retired := sim.retired + 1
    retired_pcs := insert pc sim.retired_pcs
    last_retired := sim.ticks }

def countSame (sim : Counters) (pc : UInt64) : Counters :=
  if pc = sim.last_retired_pc then { sim with n_same_inst := sim.n_same_inst + 1 }
  else { sim with last_retired_pc := pc, n_same_inst := 0 }

/-- What `Simulator::step` does after the clock edge.  Returns true if we're
stuck on the same pc for more than 10 instructions; only the first port is
watched for that. -/
def step (sim : Counters) (top : Top) : Bool × Counters :=
  let sim := if top.committing0 then (sim.retire top.committingPc).countSame top.committingPc else sim
  if top.committing0 ∧ sim.n_same_inst ≥ 10 then (true, sim)
  else
    let sim := if top.committing1 then sim.retire top.committingPc2 else sim
    (false, { sim with ticks := sim.ticks + 1 })

end Counters

/-- The variables of the loop; `top` is the core as the last edge left it. -/
structure LoopState where
  top : Top
  sim : Counters
  crash : CrashInfo

/-- How the loop is left: its condition, the two `break`s, and the `return`. -/
inductive LoopExit where
  | condition
  | taintArchitectural
  | flushRecorded
  | illegalInstruction
deriving DecidableEq, Repr

def MAX_INSTR_TICKS : UInt64 := 1300

namespace LoopState

def isRunning (numRetired : UInt64) (state : LoopState) : Bool :=
  decide (state.sim.retired < numRetired + 1) &&
    decide (state.sim.ticks < state.sim.last_retired + MAX_INSTR_TICKS)

/-- The clock edge; a stuck core is made to look as if it had finished. -/
def step (numRetired : UInt64) (state : LoopState) (top : Top) : LoopState :=
  let (stuck, sim) := state.sim.step top
  { state with top, sim := if stuck then { sim with retired := numRetired + 1 } else sim }

def detectTaint (state : LoopState) (busyInstructions : BusyMask) :
    Except (LoopExit × LoopState) LoopState :=
  if state.crash.taintFound = false then
    match state.top.taintedSink with
    | some taintInfo =>
        .ok { state with
          crash := state.crash.recordTaint state.sim.ticks state.top.rob taintInfo busyInstructions }
    | none => .ok state
  else
    let state := { state with crash := state.crash.updateTaintInstr state.top.rob }
    if state.crash.isTaintArchitectural then .error (.taintArchitectural, state) else .ok state

def detectFlush (state : LoopState) : Except (LoopExit × LoopState) LoopState :=
  if state.top.isFlushing then
    let flushInfo := state.top.getFlushInfo
    if state.crash.taintFound then
      let (relevant, crash) := state.crash.recordFlush state.sim.ticks flushInfo
      if relevant then .error (.flushRecorded, { state with crash }) else .ok { state with crash }
    else if flushInfo.type = .exception ∧ (flushInfo.cause = FlushCause.ILLEGAL_INSTRUCTION ∨
        flushInfo.cause = FlushCause.FETCH_ACCESS) then .error (.illegalInstruction, state)
    else .ok state
  else .ok state

end LoopState

def detectionCycle (numRetired : UInt64) : Machine LoopState Top (LoopExit × LoopState) :=
  fun state top =>
    if state.isRunning numRetired then do
      let busyInstructions := state.top.rob.getRobBusyMask
      let state ← (state.step numRetired top).detectTaint busyInstructions
      state.detectFlush
    else .error (.condition, state)

/-- The variables when the loop was left, or when the observations end. -/
def finalState : Except (LoopExit × LoopState) LoopState → LoopState
  | .ok state => state
  | .error (_, state) => state

end PhantomTrails
