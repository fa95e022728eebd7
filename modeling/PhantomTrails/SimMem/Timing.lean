import PhantomTrails.SimMem.Reset

namespace PhantomTrails.SimMem

open Foundation Foundation.Machine

/-! # Bytes and timing

What the DRAM holds, and what the bus brings to be stored, decides which bytes
a read returns and nothing else: not whether a tick fails, not which channel
fires, not the ids and not the number of beats.
-/

/-- Two beats that differ at most in their bytes. -/
structure SameBeat (left right : MemReadResponse) : Prop where
  id : left.id = right.id
  last : left.last = right.last
  length : left.data.length = right.data.length

structure SameTiming (left right : SimMem) : Prop where
  geometry : left.geometry = right.geometry
  store : left.curStore = right.curStore
  responses : left.writeRespQueue = right.writeRespQueue
  beats : List.Forall₂ SameBeat left.readQueue right.readQueue

variable {left right : SimMem}

theorem SameTiming.fresh (geometry : Geometry) (data data' : Store UInt8) :
    SameTiming (fresh geometry data) (fresh geometry data') :=
  ⟨rfl, rfl, rfl, .nil⟩

/-- Both queues are empty, or both show a beat. -/
theorem SameTiming.front (same : SameTiming left right) :
    left.readQueue = [] ∧ right.readQueue = [] ∨
      ∃ beat other rest others, left.readQueue = beat :: rest ∧ right.readQueue = other :: others ∧
        SameBeat beat other := by
  have beats := same.beats
  cases waiting : left.readQueue with
  | nil =>
      rw [waiting] at beats
      exact .inl ⟨rfl, List.forall₂_nil_left_iff.mp beats⟩
  | cons beat rest =>
      rw [waiting] at beats
      obtain ⟨other, others, first, later, waiting'⟩ := List.forall₂_cons_left_iff.mp beats
      exact .inr ⟨beat, other, rest, others, rfl, waiting', first⟩

theorem SameTiming.readDataValid (same : SameTiming left right) :
    left.readDataValid = right.readDataValid := by
  obtain ⟨empty, empty'⟩ | ⟨beat, other, rest, others, waiting, waiting', -⟩ := same.front
  · simp [SimMem.readDataValid, empty, empty']
  · simp [SimMem.readDataValid, waiting, waiting']

theorem SameTiming.readDataId (same : SameTiming left right) : left.readDataId = right.readDataId := by
  obtain ⟨empty, empty'⟩ | ⟨beat, other, rest, others, waiting, waiting', beats⟩ := same.front
  · simp [SimMem.readDataId, empty, empty']
  · simp [SimMem.readDataId, waiting, waiting', beats.id]

theorem SameTiming.isLastRead (same : SameTiming left right) : left.isLastRead = right.isLastRead := by
  obtain ⟨empty, empty'⟩ | ⟨beat, other, rest, others, waiting, waiting', beats⟩ := same.front
  · simp [SimMem.isLastRead, empty, empty']
  · simp [SimMem.isLastRead, waiting, waiting', beats.last]

theorem SameTiming.length_readData (same : SameTiming left right) :
    left.readData.length = right.readData.length := by
  obtain ⟨empty, empty'⟩ | ⟨beat, other, rest, others, waiting, waiting', beats⟩ := same.front
  · simp [SimMem.readData, empty, empty', dummy, wordSize, same.geometry]
  · simp [SimMem.readData, waiting, waiting', beats.length]

theorem SameTiming.fires (same : SameTiming left right) (bus : TickArgs) (wData : Nat → UInt8) :
    left.fires bus = right.fires { bus with wData } := by
  simp only [SimMem.fires, writeAddrReady, writeDataReady, writeResponseValid, readAddrReady,
    same.store, same.responses, same.readDataValid]

/-! ## Phase by phase -/

theorem read_agree (same : SameTiming left right) (addr n : UInt64) :
    Agree (fun bytes others => bytes.length = others.length) (left.read addr n) (right.read addr n) := by
  simp only [read, memSize, same.geometry]
  split
  · simp [Agree, Store.length_slice]
  · rfl

theorem pushReads_agree (same : SameTiming left right) (start arId arLen : UInt64) {remaining i : Nat}
    {queue others : List MemReadResponse} (beats : List.Forall₂ SameBeat queue others) :
    Agree (List.Forall₂ SameBeat) (left.pushReads start arId arLen remaining i queue)
      (right.pushReads start arId arLen remaining i others) := by
  induction remaining generalizing i queue others with
  | zero => exact beats
  | succ remaining ih =>
      have loaded := read_agree same (start + UInt64.ofNat i * left.wordSize) left.wordSize
      have words : left.wordSize = right.wordSize := congrArg Geometry.wordSize same.geometry
      rw [words] at loaded
      simp only [pushReads, words]
      cases first : left.read (start + UInt64.ofNat i * right.wordSize) right.wordSize <;>
        cases second : right.read (start + UInt64.ofNat i * right.wordSize) right.wordSize <;>
        rw [first, second] at loaded
      · exact loaded
      · exact loaded.elim
      · exact loaded.elim
      · exact ih (List.rel_append beats (.cons ⟨rfl, rfl, loaded⟩ .nil))

theorem addressRead_same (same : SameTiming left right) (bus : TickArgs) (wData : Nat → UInt8) :
    Agree SameTiming (left.addressRead bus) (right.addressRead { bus with wData }) := by
  have aligned : left.align bus.arAddr = right.align bus.arAddr := by
    rw [align, align, same.geometry]
  simp only [addressRead, aligned]
  apply (pushReads_agree same _ bus.arId bus.arLen same.beats).bind
  intro queue others beats
  exact ⟨same.geometry, same.store, same.responses, beats⟩

theorem addressWrite_same (same : SameTiming left right) (bus : TickArgs) (wData : Nat → UInt8) :
    Agree SameTiming (left.addressWrite bus) (right.addressWrite { bus with wData }) := by
  simp only [addressWrite]
  split
  · exact ⟨same.geometry, rfl, same.responses, same.beats⟩
  · rfl

theorem writeLanes_agree {memSize base remaining i : Nat} {strb : UInt64} (data data' : Store UInt8) :
    Agree (fun _ _ => True) (writeLanes memSize base remaining i strb data)
      (writeLanes memSize base remaining i strb data') := by
  induction remaining generalizing i strb data data' with
  | zero => trivial
  | succ remaining ih =>
      simp only [writeLanes]
      split
      · split
        · exact ih _ _
        · rfl
      · exact ih _ _

theorem write_agree (geometry : Geometry) (data data' : Store UInt8) (dst size strb : UInt64)
    (src src' : Nat → UInt8) :
    Agree (fun _ _ => True) (write geometry data dst src size strb)
      (write geometry data' dst src' size strb) := by
  simp only [write]
  split
  · split
    · exact writeLanes_agree data data'
    · apply (agree_refl (strobeMask size (dst % geometry.wordSize))).bind
      intro mask mask' same
      exact same ▸ writeLanes_agree data data'
  · rfl

theorem dataWrite_same (same : SameTiming left right) (bus : TickArgs) (wData : Nat → UInt8) :
    Agree SameTiming (left.dataWrite write bus) (right.dataWrite write { bus with wData }) := by
  simp only [dataWrite, same.geometry, same.store]
  apply (write_agree _ _ _ _ _ _ _ _).bind
  intro data data' _
  split
  · split
    · exact ⟨rfl, rfl, congrArg (· ++ _) same.responses, same.beats⟩
    · rfl
  · exact ⟨rfl, rfl, same.responses, same.beats⟩

theorem onFire_same {phase phase' : SimMem → Except Fault SimMem} (same : SameTiming left right)
    (fire : Bool) (agree : Agree SameTiming (phase left) (phase' right)) :
    Agree SameTiming (left.onFire fire phase) (right.onFire fire phase') := by
  cases fire with
  | true => exact agree
  | false => exact same

theorem popWriteResponse_same (same : SameTiming left right) :
    SameTiming left.popWriteResponse right.popWriteResponse :=
  ⟨same.geometry, same.store, congrArg List.tail same.responses, same.beats⟩

theorem popRead_same (same : SameTiming left right) : SameTiming left.popRead right.popRead := by
  refine ⟨same.geometry, same.store, same.responses, ?_⟩
  have beats := same.beats
  simp only [popRead]
  cases first : left.readQueue <;> cases second : right.readQueue <;> rw [first, second] at beats
  · exact .nil
  · cases beats
  · cases beats
  · cases beats
    assumption

theorem clearQueues_same (same : SameTiming left right) :
    SameTiming left.clearQueues right.clearQueues :=
  ⟨same.geometry, same.store, rfl, .nil⟩

theorem ite_same {change : SimMem → SimMem} (flag : Bool) (same : SameTiming left right)
    (changed : SameTiming (change left) (change right)) :
    SameTiming (if flag then change left else left) (if flag then change right else right) := by
  cases flag with
  | true => exact changed
  | false => exact same

/-- A tick keeps the two memories in step, whatever bytes the two buses bring. -/
theorem tick_same (same : SameTiming left right) (bus : TickArgs) (wData : Nat → UInt8) :
    Agree SameTiming (left.tick bus) (right.tick { bus with wData }) := by
  have fires := same.fires bus wData
  simp only [tick, tickWith, ← fires]
  apply (onFire_same same _ (addressRead_same same bus wData)).bind
  intro first first' same
  apply (onFire_same same _ (addressWrite_same same bus wData)).bind
  intro second second' same
  apply (onFire_same same _ (dataWrite_same same bus wData)).bind
  intro third third' same
  have responses := ite_same (left.fires bus).bFire same (popWriteResponse_same same)
  have beats := ite_same (left.fires bus).rFire responses (popRead_same responses)
  exact ite_same bus.reset beats (clearQueues_same beats)

end PhantomTrails.SimMem
