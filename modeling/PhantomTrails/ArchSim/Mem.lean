import Mathlib.Data.Finset.Insert
import PhantomTrails.Fault

namespace PhantomTrails

/-! # Memory and recorders of the architectural simulator

`Mem.h`: the backing store of the simulated RAM, and the two memory tracers
that record which addresses a program fetched, read and wrote.
-/

inductive AccessType where
  | fetch
  | load
  | store
deriving DecidableEq, Repr

/-- One call of a memory tracer.  `bytes` is a `size_t`; the recorders count
up to it in an `int`, which Spike's accesses never exhaust. -/
structure TraceEvent where
  addr : UInt64
  bytes : Nat
  type : AccessType
deriving DecidableEq, Repr

def TraceEvent.addresses (event : TraceEvent) : List UInt64 :=
  (List.range event.bytes).map fun i => event.addr + UInt64.ofNat i

def TraceEvent.Covers (event : TraceEvent) (type : AccessType) (addr : UInt64) : Prop :=
  event.type = type ∧ ∃ i < event.bytes, event.addr + UInt64.ofNat i = addr

theorem TraceEvent.mem_addresses {event : TraceEvent} {addr : UInt64} :
    addr ∈ event.addresses ↔ ∃ i < event.bytes, event.addr + UInt64.ofNat i = addr := by
  simp [addresses]

structure FetchRecorder where
  lastAccessed : UInt64 := 0
  nSameInst : UInt64 := 0
  stuck : Bool := false
  fetches : Finset UInt64 := ∅
deriving DecidableEq

namespace FetchRecorder

def countFetch (recorder : FetchRecorder) (addr : UInt64) : FetchRecorder :=
  let counted := if addr = recorder.lastAccessed
    then { recorder with nSameInst := recorder.nSameInst + 1 }
    else { recorder with nSameInst := 0, lastAccessed := addr }
  if counted.nSameInst > 10 then { counted with stuck := true } else counted

def trace (recorder : FetchRecorder) (event : TraceEvent) : FetchRecorder :=
  match event.type with
  | .fetch =>
      let fetches := event.addresses.foldl (fun fetches addr => insert addr fetches) recorder.fetches
      { recorder with fetches }.countFetch event.addr
  | .load | .store => recorder

def reset (recorder : FetchRecorder) : FetchRecorder := { recorder with fetches := ∅ }

end FetchRecorder

structure MemRecorder where
  loads : Finset UInt64 := ∅
  stores : Finset UInt64 := ∅
deriving DecidableEq

namespace MemRecorder

def traceStore (recorder : MemRecorder) (addr : UInt64) : MemRecorder :=
  { recorder with stores := insert addr recorder.stores }

def traceLoad (recorder : MemRecorder) (addr : UInt64) : MemRecorder :=
  if addr ∈ recorder.stores then recorder
  else { recorder with loads := insert addr recorder.loads }

def trace (recorder : MemRecorder) (event : TraceEvent) : MemRecorder :=
  match event.type with
  | .store => event.addresses.foldl traceStore recorder
  | .load => event.addresses.foldl traceLoad recorder
  | .fetch => recorder

def reset (_ : MemRecorder) : MemRecorder := {}

end MemRecorder

/-- The contents of the simulated RAM, `FileMem::mem`. -/
abbrev Ram (size : UInt64) := Fin size.toNat → UInt8

/-- `FileMem::loadProgram`: copy as much of the program as fits; a null buffer
copies nothing. -/
def Ram.loadProgram {size : UInt64} (ram : Ram size) (buf : Option (Nat → UInt8)) (len : UInt64) :
    Ram size :=
  match buf with
  | none => ram
  | some bytes => fun offset => if offset.val < (min len size).toNat then bytes offset.val else ram offset

/-! ## What a trace records -/

theorem mem_foldl_insert {addr : UInt64} {addresses : List UInt64} {start : Finset UInt64} :
    addr ∈ addresses.foldl (fun fetches addr => insert addr fetches) start ↔
      addr ∈ start ∨ addr ∈ addresses := by
  induction addresses generalizing start with
  | nil => simp
  | cons first rest ih =>
      rw [List.foldl_cons, ih, Finset.mem_insert, List.mem_cons]
      tauto

theorem FetchRecorder.countFetch_fetches (recorder : FetchRecorder) (addr : UInt64) :
    (recorder.countFetch addr).fetches = recorder.fetches := by
  simp only [countFetch]
  split <;> split <;> rfl

theorem FetchRecorder.mem_trace {recorder : FetchRecorder} {event : TraceEvent} {addr : UInt64} :
    addr ∈ (recorder.trace event).fetches ↔
      addr ∈ recorder.fetches ∨ event.Covers .fetch addr := by
  cases type : event.type <;>
    simp [trace, type, TraceEvent.Covers, countFetch_fetches, mem_foldl_insert, ← TraceEvent.mem_addresses]

theorem MemRecorder.foldl_traceStore_stores {recorder : MemRecorder} {addresses : List UInt64}
    {addr : UInt64} :
    addr ∈ (addresses.foldl traceStore recorder).stores ↔
      addr ∈ recorder.stores ∨ addr ∈ addresses := by
  induction addresses generalizing recorder with
  | nil => simp
  | cons first rest ih =>
      rw [List.foldl_cons, ih, traceStore, Finset.mem_insert, List.mem_cons]
      tauto

theorem MemRecorder.foldl_traceStore_loads (recorder : MemRecorder) (addresses : List UInt64) :
    (addresses.foldl traceStore recorder).loads = recorder.loads := by
  induction addresses generalizing recorder with
  | nil => rfl
  | cons first rest ih => rw [List.foldl_cons, ih, traceStore]

theorem MemRecorder.traceLoad_stores (recorder : MemRecorder) (addr : UInt64) :
    (recorder.traceLoad addr).stores = recorder.stores := by
  rw [traceLoad]
  split <;> rfl

theorem MemRecorder.foldl_traceLoad_stores (recorder : MemRecorder) (addresses : List UInt64) :
    (addresses.foldl traceLoad recorder).stores = recorder.stores := by
  induction addresses generalizing recorder with
  | nil => rfl
  | cons first rest ih => rw [List.foldl_cons, ih, traceLoad_stores]

theorem MemRecorder.mem_traceLoad {recorder : MemRecorder} {loaded addr : UInt64} :
    addr ∈ (recorder.traceLoad loaded).loads ↔
      addr ∈ recorder.loads ∨ addr = loaded ∧ addr ∉ recorder.stores := by
  rw [traceLoad]
  split
  · rename_i stored
    constructor
    · exact .inl
    · intro member
      rcases member with before | ⟨rfl, fresh⟩
      · exact before
      · exact absurd stored fresh
  · rename_i fresh
    rw [Finset.mem_insert]
    constructor
    · intro member
      rcases member with rfl | before
      · exact .inr ⟨rfl, fresh⟩
      · exact .inl before
    · intro member
      rcases member with before | ⟨same, -⟩
      · exact .inr before
      · exact .inl same

theorem MemRecorder.foldl_traceLoad_loads {recorder : MemRecorder} {addresses : List UInt64}
    {addr : UInt64} :
    addr ∈ (addresses.foldl traceLoad recorder).loads ↔
      addr ∈ recorder.loads ∨ addr ∈ addresses ∧ addr ∉ recorder.stores := by
  induction addresses generalizing recorder with
  | nil => simp
  | cons first rest ih =>
      rw [List.foldl_cons, ih, mem_traceLoad, traceLoad_stores, List.mem_cons]
      tauto

theorem MemRecorder.mem_trace_stores {recorder : MemRecorder} {event : TraceEvent} {addr : UInt64} :
    addr ∈ (recorder.trace event).stores ↔
      addr ∈ recorder.stores ∨ event.Covers .store addr := by
  cases type : event.type <;>
    simp [trace, type, TraceEvent.Covers, foldl_traceStore_stores, foldl_traceLoad_stores,
      ← TraceEvent.mem_addresses]

theorem MemRecorder.mem_trace_loads {recorder : MemRecorder} {event : TraceEvent} {addr : UInt64} :
    addr ∈ (recorder.trace event).loads ↔
      addr ∈ recorder.loads ∨ event.Covers .load addr ∧ addr ∉ recorder.stores := by
  cases type : event.type <;>
    simp [trace, type, TraceEvent.Covers, foldl_traceStore_loads, foldl_traceLoad_loads,
      ← TraceEvent.mem_addresses]

end PhantomTrails
