import PhantomTrails.SimMem.Tick

namespace PhantomTrails.SimMem

open Foundation Foundation.Machine

/-! # The reset of the memory

A tick under reset empties the two response queues and nothing else.  The
memory behind it is compared with a new one around the same DRAM.
-/

structure Outputs where
  writeAddrReady : Bool
  writeDataReady : Bool
  writeResponseValid : Bool
  writeResponse : UInt64
  writeResponseId : UInt64
  readAddrReady : Bool
  readDataValid : Bool
  readDataResp : UInt64
  readDataId : UInt64
  readData : List UInt8
  isLastRead : Bool
deriving DecidableEq, Repr

/-- All signals connected to the verilated model. -/
def outputs (mem : SimMem) : Outputs where
  writeAddrReady := mem.writeAddrReady
  writeDataReady := mem.writeDataReady
  writeResponseValid := mem.writeResponseValid
  writeResponse := mem.writeResponse
  writeResponseId := mem.writeResponseId
  readAddrReady := mem.readAddrReady
  readDataValid := mem.readDataValid
  readDataResp := mem.readDataResp
  readDataId := mem.readDataId
  readData := mem.readData
  isLastRead := mem.isLastRead

/-- Both memories stop with the same fault, or they show the same outputs. -/
def SameOutputs : Except Fault SimMem → Except Fault SimMem → Prop :=
  Agree fun left right => left.outputs = right.outputs

/-- The two differ at most in what an idle `curStore` remembers. -/
inductive SameButIdle : SimMem → SimMem → Prop where
  | same (mem : SimMem) : SameButIdle mem mem
  | idle (mem : SimMem) (store : InFlightStore) (free : mem.curStore.inFlight = false)
      (idle : store.inFlight = false) : SameButIdle { mem with curStore := store } mem

variable {mem left right : SimMem} {bus : TickArgs} {store : InFlightStore}

theorem SameButIdle.outputs (related : SameButIdle left right) : left.outputs = right.outputs := by
  cases related with
  | same mem => rfl
  | idle mem store free idle =>
      simp only [SimMem.outputs, writeAddrReady, writeDataReady, free, idle]
      rfl

theorem SameButIdle.fires (related : SameButIdle left right) (bus : TickArgs) :
    left.fires bus = right.fires bus := by
  cases related with
  | same mem => rfl
  | idle mem store free idle =>
      simp only [SimMem.fires, writeAddrReady, writeDataReady, free, idle]
      rfl

/-! ## Phase by phase -/

theorem agree_self {result : Except Fault SimMem} : Agree SameButIdle result result := by
  cases result with
  | error fault => rfl
  | ok mem => exact .same mem

theorem onFire_agree {phase : SimMem → Except Fault SimMem} (related : SameButIdle left right) (fire : Bool)
    (agree : Agree SameButIdle (phase left) (phase right)) :
    Agree SameButIdle (left.onFire fire phase) (right.onFire fire phase) := by
  cases fire with
  | true => exact agree
  | false => exact related

theorem pushReads_curStore (start arId arLen : UInt64) (remaining i : Nat) (queue : List MemReadResponse) :
    { mem with curStore := store }.pushReads start arId arLen remaining i queue =
      mem.pushReads start arId arLen remaining i queue := by
  induction remaining generalizing i queue with
  | zero => rfl
  | succ remaining ih =>
      simp only [pushReads, ih]
      rfl

theorem addressRead_agree (related : SameButIdle left right) (bus : TickArgs) :
    Agree SameButIdle (left.addressRead bus) (right.addressRead bus) := by
  cases related with
  | same mem => exact agree_self
  | idle mem store free idle =>
      have aligned : { right with curStore := store }.align bus.arAddr = right.align bus.arAddr := rfl
      simp only [addressRead, aligned, pushReads_curStore]
      cases right.pushReads (right.align bus.arAddr) bus.arId bus.arLen (bus.arLen.toNat + 1) 0
          right.readQueue with
      | error fault => rfl
      | ok queue => exact .idle { right with readQueue := queue } store free idle

theorem addressWrite_agree (related : SameButIdle left right) (bus : TickArgs) :
    Agree SameButIdle (left.addressWrite bus) (right.addressWrite bus) := by
  cases related with
  | same mem => exact agree_self
  | idle mem store free idle =>
      simp only [addressWrite]
      split
      · exact .same _
      · rfl

theorem popWriteResponse_agree (related : SameButIdle left right) :
    SameButIdle left.popWriteResponse right.popWriteResponse := by
  cases related with
  | same mem => exact .same _
  | idle mem store free idle => exact .idle right.popWriteResponse store free idle

theorem popRead_agree (related : SameButIdle left right) : SameButIdle left.popRead right.popRead := by
  cases related with
  | same mem => exact .same _
  | idle mem store free idle => exact .idle right.popRead store free idle

theorem clearQueues_agree (related : SameButIdle left right) :
    SameButIdle left.clearQueues right.clearQueues := by
  cases related with
  | same mem => exact .same _
  | idle mem store free idle => exact .idle right.clearQueues store free idle

theorem ite_agree {change : SimMem → SimMem} (flag : Bool) (related : SameButIdle left right)
    (changed : SameButIdle (change left) (change right)) :
    SameButIdle (if flag then change left else left) (if flag then change right else right) := by
  cases flag with
  | true => exact changed
  | false => exact related

theorem settle_agree (start : SimMem) (related : SameButIdle left right) (bus : TickArgs) :
    SameButIdle (settle start left bus) (settle start right bus) := by
  have responses := ite_agree (start.fires bus).bFire related (popWriteResponse_agree related)
  have beats := ite_agree (start.fires bus).rFire responses (popRead_agree responses)
  exact ite_agree bus.reset beats (clearQueues_agree beats)

theorem tick_agree (left right : SimMem) (bus : TickArgs) (related : SameButIdle left right) :
    Agree SameButIdle (left.tick bus) (right.tick bus) := by
  have fires := related.fires bus
  cases related with
  | same mem => exact agree_self
  | idle mem store free idle =>
      have quiet : (right.fires bus).wFire = false := by simp [SimMem.fires, writeDataReady, free]
      have related := SameButIdle.idle right store free idle
      simp only [tick, tickWith, fires, quiet]
      apply (onFire_agree related _ (addressRead_agree related bus)).bind
      intro left right related
      apply (onFire_agree related _ (addressWrite_agree related bus)).bind
      intro left right related
      exact settle_agree _ related bus

/-! ## A tick under reset -/

theorem tick_reset (mem : SimMem) (reset : bus.reset = true) : mem.tick bus = .ok mem.clearQueues := by
  simp only [tick, tickWith, fires, reset]
  rfl

/-- After a tick under reset the memory behaves like a new one, under all that
follows, exactly when no write burst was in flight. -/
theorem reset_forgets_iff (mem : SimMem) (bus : TickArgs) (reset : bus.reset = true) :
    ∃ after, mem.tick bus = .ok after ∧
      ((∀ ticks, SameOutputs (run tick after ticks) (run tick (fresh mem.geometry mem.data) ticks)) ↔
        mem.curStore.inFlight = false) := by
  refine ⟨mem.clearQueues, tick_reset mem reset, ?_⟩
  constructor
  · intro same
    have first : mem.clearQueues.outputs = (fresh mem.geometry mem.data).outputs := same []
    exact congrArg Outputs.writeDataReady first
  · intro free ticks
    have related : SameButIdle mem.clearQueues (fresh mem.geometry mem.data) :=
      .idle (fresh mem.geometry mem.data) mem.curStore rfl free
    have agree := run_agree tick_agree related ticks
    cases ran : run tick mem.clearQueues ticks <;>
      cases other : run tick (fresh mem.geometry mem.data) ticks <;> rw [ran, other] at agree
    · exact agree
    · exact agree.elim
    · exact agree.elim
    · exact agree.outputs

theorem reset_forgets_iff_idle :
    ∃ after, (fresh Geometry.tiny fun _ => 0).tick { reset := true } = .ok after ∧
      ∀ ticks, SameOutputs (run tick after ticks) (run tick (fresh Geometry.tiny fun _ => 0) ticks) := by
  obtain ⟨after, ticked, same⟩ := reset_forgets_iff (fresh Geometry.tiny fun _ => 0) { reset := true } rfl
  exact ⟨after, ticked, same.mpr rfl⟩

/-- The reset comes between the address of a write burst and its data: the
memory goes on waiting for the data. -/
theorem reset_midBurst : ∃ mem after,
    run tick (fresh Geometry.tiny fun _ => 0) [{ awValid := true, awSize := 3 }] = .ok mem ∧
      mem.tick { reset := true } = .ok after ∧
      after.outputs ≠ (fresh mem.geometry mem.data).outputs ∧
      ¬ SameOutputs (run tick after []) (run tick (fresh mem.geometry mem.data) []) := by
  have differ : ∀ mem : SimMem, mem.curStore.inFlight = true →
      mem.clearQueues.outputs ≠ (fresh mem.geometry mem.data).outputs := by
    intro mem busy same
    have idle : mem.curStore.inFlight = false := congrArg Outputs.writeDataReady same
    rw [busy] at idle
    cases idle
  exact ⟨_, _, rfl, rfl, differ _ rfl, differ _ rfl⟩

end PhantomTrails.SimMem
