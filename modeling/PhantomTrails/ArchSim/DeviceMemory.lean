import PhantomTrails.ArchSim.Mem
import PhantomTrails.Foundation.Run

namespace PhantomTrails

open Foundation Foundation.Machine

/-! # Loads and stores of the devices

`FakeDevice` and `FileMem` of `Mem.h`: a buffer behind the bus.  The devices
look at the offset of an access only, so the `memcpy` can leave the buffer.
-/

variable {size : UInt64}

/-! ## The buffer -/

namespace Ram

/-- `memcpy` out of the buffer. -/
def read (ram : Ram size) (addr len : UInt64) : Except Fault (List UInt8) :=
  if fits : addr.toNat + len.toNat ≤ size.toNat then
    .ok (List.ofFn fun i : Fin len.toNat => ram ⟨addr.toNat + i, by omega⟩)
  else .error .outOfBounds

/-- `memcpy` into the buffer. -/
def write (ram : Ram size) (addr len : UInt64) (bytes : Nat → UInt8) : Except Fault (Ram size) :=
  if addr.toNat + len.toNat ≤ size.toNat then
    .ok fun cell =>
      if addr.toNat ≤ cell.val ∧ cell.val < addr.toNat + len.toNat then bytes (cell.val - addr.toNat) else ram cell
  else .error .outOfBounds

end Ram

/-! ## The devices -/

/-- `FakeDevice`, whose name nothing reads. -/
structure FakeDevice (size : UInt64) where
  base : UInt64
  mem : Ram size

namespace FakeDevice

/-- `none` is the return value `false`. -/
def load (device : FakeDevice size) (addr len : UInt64) : Except Fault (Option (List UInt8)) :=
  if addr ≥ size then .ok none
  else (device.mem.read addr len).map some

def store (device : FakeDevice size) (addr len : UInt64) (bytes : Nat → UInt8) :
    Except Fault (Bool × FakeDevice size) :=
  if addr ≥ size then .ok (false, device)
  else (device.mem.write addr len bytes).map fun mem => (true, { device with mem })

end FakeDevice

structure FileMem (memSize : UInt64) where
  loads : List (UInt64 × UInt64) := []
  stores : List (UInt64 × UInt64) := []
  memBase : UInt64
  mem : Ram memSize
  shouldRecordAddresses : Bool

namespace FileMem

def recordLoad (file : FileMem size) (addr len : UInt64) : FileMem size :=
  if file.shouldRecordAddresses then { file with loads := file.loads ++ [(addr + file.memBase, len)] } else file

def recordStore (file : FileMem size) (addr len : UInt64) : FileMem size :=
  if file.shouldRecordAddresses then { file with stores := file.stores ++ [(addr + file.memBase, len)] } else file

def load (file : FileMem size) (addr len : UInt64) : Except Fault (Option (List UInt8) × FileMem size) :=
  if addr ≥ size then .ok (none, file)
  else (file.mem.read addr len).map fun bytes => (some bytes, file.recordLoad addr len)

def store (file : FileMem size) (addr len : UInt64) (bytes : Nat → UInt8) : Except Fault (Bool × FileMem size) :=
  if addr ≥ size then .ok (false, file)
  else (file.mem.write addr len bytes).map fun mem => (true, { file.recordStore addr len with mem })

end FileMem

/-! ## What a copy does -/

namespace Ram

variable {ram next : Ram size} {addr len : UInt64} {bytes : Nat → UInt8}

/-- The access lies inside the device. -/
def Inside (size addr len : UInt64) : Prop := addr.toNat + len.toNat ≤ size.toNat

instance : Decidable (Inside size addr len) := inferInstanceAs (Decidable (_ ≤ _))

/-- The bytes are those of the range, in their order. -/
def Holds (ram : Ram size) (addr len : UInt64) (bytes : List UInt8) : Prop :=
  bytes.length = len.toNat ∧ ∀ i < len.toNat, ∀ inside : addr.toNat + i < size.toNat,
    bytes[i]? = some (ram ⟨addr.toNat + i, inside⟩)

/-- The range has the new bytes, and all other bytes are the old ones. -/
def Written (ram next : Ram size) (addr len : UInt64) (bytes : Nat → UInt8) : Prop :=
  ∀ cell : Fin size.toNat, next cell =
    if addr.toNat ≤ cell.val ∧ cell.val < addr.toNat + len.toNat then bytes (cell.val - addr.toNat) else ram cell

theorem read_inside (ram : Ram size) (inside : Inside size addr len) :
    ∃ bytes, ram.read addr len = .ok bytes ∧ ram.Holds addr len bytes := by
  refine ⟨_, dif_pos inside, List.length_ofFn, fun i below _ => ?_⟩
  rw [List.getElem?_ofFn, dif_pos below]

theorem read_outside (ram : Ram size) (outside : ¬ Inside size addr len) : ram.read addr len = .error .outOfBounds :=
  dif_neg outside

theorem write_inside (ram : Ram size) (inside : Inside size addr len) (bytes : Nat → UInt8) :
    ∃ next, ram.write addr len bytes = .ok next ∧ ram.Written next addr len bytes :=
  ⟨_, if_pos inside, fun _ => rfl⟩

theorem write_outside (ram : Ram size) (outside : ¬ Inside size addr len) (bytes : Nat → UInt8) :
    ram.write addr len bytes = .error .outOfBounds :=
  if_neg outside

/-- What was written is read back. -/
theorem Written.read_eq (written : ram.Written next addr len bytes) (inside : Inside size addr len) :
    next.read addr len = .ok (List.ofFn fun i : Fin len.toNat => bytes i) := by
  have fits : addr.toNat + len.toNat ≤ size.toNat := inside
  rw [read, dif_pos fits]
  apply congrArg fun values => Except.ok (List.ofFn values)
  funext i
  rw [written, if_pos ⟨Nat.le_add_right _ _, Nat.add_lt_add_left i.isLt _⟩, Nat.add_sub_cancel_left]

end Ram

/-! ## Accesses -/

section Accesses

variable {β : Type} {addr len : UInt64} {bytes : Nat → UInt8}

/-- The access is refused, or it lies inside the device and is carried out. -/
def Serves (size addr len : UInt64) (access : Except Fault β) (refused : β) (done : β → Prop) : Prop :=
  access = .ok refused ∨ Ram.Inside size addr len ∧ ∃ result, access = .ok result ∧ done result

/-- The offset is refused, or the whole range fits. -/
def Guarded (size addr len : UInt64) : Prop := addr ≥ size ∨ Ram.Inside size addr len

instance : Decidable (Guarded size addr len) := inferInstanceAs (Decidable (_ ∨ _))

/-- A copy behind a test of the offset alone. -/
theorem serves_iff {copy : Except Fault β} {refused : β} {done : β → Prop}
    (copies : addr < size → Ram.Inside size addr len → ∃ result, copy = .ok result ∧ done result)
    (leaves : ¬ Ram.Inside size addr len → copy = .error .outOfBounds) :
    Serves size addr len (if addr ≥ size then .ok refused else copy) refused done ↔ Guarded size addr len := by
  by_cases refuses : addr ≥ size
  · rw [if_pos refuses]
    exact ⟨fun _ => .inl refuses, fun _ => .inl rfl⟩
  · rw [if_neg refuses, Guarded, or_iff_right refuses]
    constructor
    · intro serves
      by_contra outside
      rw [leaves outside] at serves
      rcases serves with wrong | ⟨inside, -⟩
      · cases wrong
      · exact outside inside
    · intro inside
      exact .inr ⟨inside, copies (UInt64.not_le.mp refuses) inside⟩

/-- A load hands out the bytes of the range. -/
def FakeDevice.Loads (device : FakeDevice size) (addr len : UInt64) (result : Option (List UInt8)) : Prop :=
  ∃ loaded, result = some loaded ∧ device.mem.Holds addr len loaded

/-- A store changes the bytes of the range and nothing else, and a load of
the same range gives them back. -/
def FakeDevice.Stores (device : FakeDevice size) (addr len : UInt64) (bytes : Nat → UInt8)
    (result : Bool × FakeDevice size) : Prop :=
  ∃ mem, result = (true, { device with mem }) ∧ device.mem.Written mem addr len bytes ∧
    result.2.load addr len = .ok (some (List.ofFn fun i : Fin len.toNat => bytes i))

def FileMem.Loads (file : FileMem size) (addr len : UInt64) (result : Option (List UInt8) × FileMem size) : Prop :=
  ∃ loaded, result = (some loaded, file.recordLoad addr len) ∧ file.mem.Holds addr len loaded

def FileMem.Stores (file : FileMem size) (addr len : UInt64) (bytes : Nat → UInt8)
    (result : Bool × FileMem size) : Prop :=
  ∃ mem, result = (true, { file.recordStore addr len with mem }) ∧ file.mem.Written mem addr len bytes ∧
    (result.2.load addr len).map Prod.fst = .ok (some (List.ofFn fun i : Fin len.toNat => bytes i))

theorem FakeDevice.load_serves_iff (device : FakeDevice size) (addr len : UInt64) :
    Serves size addr len (device.load addr len) none (device.Loads addr len) ↔ Guarded size addr len := by
  apply serves_iff
  · intro _ inside
    obtain ⟨loaded, read, holds⟩ := device.mem.read_inside inside
    exact ⟨some loaded, by rw [read]; rfl, loaded, rfl, holds⟩
  · intro outside
    rw [device.mem.read_outside outside]
    rfl

theorem FakeDevice.store_serves_iff (device : FakeDevice size) (addr len : UInt64) (bytes : Nat → UInt8) :
    Serves size addr len (device.store addr len bytes) (false, device) (device.Stores addr len bytes) ↔
      Guarded size addr len := by
  apply serves_iff
  · intro below inside
    obtain ⟨mem, write, written⟩ := device.mem.write_inside inside bytes
    refine ⟨_, by rw [write]; rfl, mem, rfl, written, ?_⟩
    rw [FakeDevice.load, if_neg (UInt64.not_le.mpr below), written.read_eq inside]
    rfl
  · intro outside
    rw [device.mem.write_outside outside]
    rfl

theorem FileMem.load_serves_iff (file : FileMem size) (addr len : UInt64) :
    Serves size addr len (file.load addr len) (none, file) (file.Loads addr len) ↔ Guarded size addr len := by
  apply serves_iff
  · intro _ inside
    obtain ⟨loaded, read, holds⟩ := file.mem.read_inside inside
    exact ⟨_, by rw [read]; rfl, loaded, rfl, holds⟩
  · intro outside
    rw [file.mem.read_outside outside]
    rfl

theorem FileMem.store_serves_iff (file : FileMem size) (addr len : UInt64) (bytes : Nat → UInt8) :
    Serves size addr len (file.store addr len bytes) (false, file) (file.Stores addr len bytes) ↔
      Guarded size addr len := by
  apply serves_iff
  · intro below inside
    obtain ⟨mem, write, written⟩ := file.mem.write_inside inside bytes
    refine ⟨_, by rw [write]; rfl, mem, rfl, written, ?_⟩
    rw [FileMem.load, if_neg (UInt64.not_le.mpr below), written.read_eq inside]
    rfl
  · intro outside
    rw [file.mem.write_outside outside]
    rfl

/-- All four methods keep to the device for the same accesses. -/
theorem devices_serve_iff (device : FakeDevice size) (file : FileMem size) (addr len : UInt64) (bytes : Nat → UInt8) :
    (Serves size addr len (device.load addr len) none (device.Loads addr len) ↔ Guarded size addr len) ∧
      (Serves size addr len (device.store addr len bytes) (false, device) (device.Stores addr len bytes) ↔
        Guarded size addr len) ∧
      (Serves size addr len (file.load addr len) (none, file) (file.Loads addr len) ↔ Guarded size addr len) ∧
      (Serves size addr len (file.store addr len bytes) (false, file) (file.Stores addr len bytes) ↔
        Guarded size addr len) :=
  ⟨device.load_serves_iff addr len, device.store_serves_iff addr len bytes, file.load_serves_iff addr len,
    file.store_serves_iff addr len bytes⟩

/-- Eight bytes from the last one of the register on. -/
theorem devices_serve_lastByte :
    let register : FakeDevice 4096 := ⟨0x4000, fun _ => 0⟩
    register.load 4095 8 = .error .outOfBounds ∧
      ¬ Serves 4096 4095 8 (register.load 4095 8) none (register.Loads 4095 8) := by
  intro register
  refine ⟨rfl, ?_⟩
  rw [register.load_serves_iff]
  decide

end Accesses

/-! ## Runs of accesses -/

namespace FileMem

inductive Access where
  | load (addr len : UInt64)
  | store (addr len : UInt64) (bytes : Nat → UInt8)

def Access.Guarded (size : UInt64) : Access → Prop
  | .load addr len | .store addr len _ => PhantomTrails.Guarded size addr len

/-- The access stores to the byte at an offset. -/
def Access.StoresTo (offset : Nat) : Access → Prop
  | .load _ _ => False
  | .store addr len _ => addr.toNat ≤ offset ∧ offset < addr.toNat + len.toNat

def serve : Machine (FileMem size) Access Fault
  | file, .load addr len => (file.load addr len).map Prod.snd
  | file, .store addr len bytes => (file.store addr len bytes).map Prod.snd

variable {file next final : FileMem size} {access : Access} {accesses : List Access} {addr len : UInt64}
  {bytes : Nat → UInt8}

theorem recordLoad_mem (file : FileMem size) (addr len : UInt64) : (file.recordLoad addr len).mem = file.mem := by
  rw [recordLoad]
  split
  · rfl
  · rfl

theorem load_beyond (beyond : addr ≥ size) : file.load addr len = .ok (none, file) := if_pos beyond

theorem store_beyond (beyond : addr ≥ size) : file.store addr len bytes = .ok (false, file) := if_pos beyond

/-- An access in reach of the device succeeds exactly if the copy stays inside. -/
theorem serve_ok_iff (file : FileMem size) (access : Access) :
    (∃ next, file.serve access = .ok next) ↔ access.Guarded size := by
  cases access with
  | load addr len =>
      by_cases beyond : addr ≥ size
      · exact iff_of_true ⟨file, by rw [serve, load_beyond beyond]; rfl⟩ (.inl beyond)
      · by_cases inside : Ram.Inside size addr len
        · obtain ⟨loaded, read, -⟩ := file.mem.read_inside inside
          exact iff_of_true ⟨_, by rw [serve, load, if_neg beyond, read]; rfl⟩ (.inr inside)
        · refine iff_of_false ?_ fun guarded => guarded.elim beyond inside
          intro given
          obtain ⟨next, served⟩ := given
          rw [serve, load, if_neg beyond, file.mem.read_outside inside] at served
          cases served
  | store addr len bytes =>
      by_cases beyond : addr ≥ size
      · exact iff_of_true ⟨file, by rw [serve, store_beyond beyond]; rfl⟩ (.inl beyond)
      · by_cases inside : Ram.Inside size addr len
        · obtain ⟨mem, write, -⟩ := file.mem.write_inside inside bytes
          exact iff_of_true ⟨_, by rw [serve, store, if_neg beyond, write]; rfl⟩ (.inr inside)
        · refine iff_of_false ?_ fun guarded => guarded.elim beyond inside
          intro given
          obtain ⟨next, served⟩ := given
          rw [serve, store, if_neg beyond, file.mem.write_outside inside] at served
          cases served

theorem run_serve_ok_iff : (∃ final, run serve file accesses = .ok final) ↔ ∀ access ∈ accesses, access.Guarded size := by
  induction accesses generalizing file with
  | nil => simp [run]
  | cons access accesses ih =>
      rw [List.forall_mem_cons]
      constructor
      · intro given
        obtain ⟨final, ran⟩ := given
        obtain ⟨next, first, rest⟩ := run_cons_ok_iff.mp ran
        exact ⟨(serve_ok_iff file access).mp ⟨next, first⟩, ih.mp ⟨final, rest⟩⟩
      · intro given
        obtain ⟨now, later⟩ := given
        obtain ⟨next, first⟩ := (serve_ok_iff file access).mpr now
        obtain ⟨final, rest⟩ : ∃ final, run serve next accesses = .ok final := ih.mpr later
        exact ⟨final, run_cons_ok_iff.mpr ⟨next, first, rest⟩⟩

/-- A byte that the access does not store to stays as it is. -/
theorem serve_mem (served : file.serve access = .ok next) (cell : Fin size.toNat)
    (apart : ¬ access.StoresTo cell.val) : next.mem cell = file.mem cell := by
  cases access with
  | load addr len =>
      by_cases beyond : addr ≥ size
      · rw [serve, load_beyond beyond] at served
        cases served
        rfl
      · cases read : file.mem.read addr len with
        | error fault =>
            rw [serve, load, if_neg beyond, read] at served
            cases served
        | ok loaded =>
            rw [serve, load, if_neg beyond, read] at served
            cases served
            rw [recordLoad_mem]
  | store addr len bytes =>
      by_cases beyond : addr ≥ size
      · rw [serve, store_beyond beyond] at served
        cases served
        rfl
      · by_cases inside : Ram.Inside size addr len
        · obtain ⟨mem, write, written⟩ := file.mem.write_inside inside bytes
          rw [serve, store, if_neg beyond, write] at served
          cases served
          exact (written cell).trans (if_neg apart)
        · rw [serve, store, if_neg beyond, file.mem.write_outside inside] at served
          cases served

theorem run_serve_mem (ran : run serve file accesses = .ok final) (cell : Fin size.toNat)
    (apart : ∀ access ∈ accesses, ¬ access.StoresTo cell.val) : final.mem cell = file.mem cell := by
  induction accesses generalizing file with
  | nil =>
      cases ran
      rfl
  | cons access accesses ih =>
      obtain ⟨now, later⟩ := List.forall_mem_cons.mp apart
      obtain ⟨next, first, rest⟩ := run_cons_ok_iff.mp ran
      rw [ih rest later, serve_mem first cell now]

/-- What was stored is loaded later, if nothing is stored over it in between. -/
theorem load_after_store (stored : file.store addr len bytes = .ok (true, next))
    (ran : run serve next accesses = .ok final)
    (apart : ∀ access ∈ accesses, ∀ i < len.toNat, ¬ access.StoresTo (addr.toNat + i)) :
    (final.load addr len).map Prod.fst = .ok (some (List.ofFn fun i : Fin len.toNat => bytes i)) := by
  have reached : ¬ addr ≥ size := by
    intro beyond
    rw [store_beyond beyond] at stored
    cases stored
  by_cases inside : Ram.Inside size addr len
  · obtain ⟨mem, write, written⟩ := file.mem.write_inside inside bytes
    rw [store, if_neg reached, write] at stored
    cases stored
    have same : final.mem.read addr len = mem.read addr len := by
      have fits : addr.toNat + len.toNat ≤ size.toNat := inside
      rw [Ram.read, Ram.read, dif_pos fits, dif_pos fits]
      apply congrArg fun values => Except.ok (List.ofFn values)
      funext i
      exact run_serve_mem ran _ fun access member => apart access member i.val i.isLt
    rw [load, if_neg reached, same, written.read_eq inside]
    rfl
  · rw [store, if_neg reached, file.mem.write_outside inside] at stored
    cases stored

end FileMem

end PhantomTrails
