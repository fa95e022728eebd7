import PhantomTrails.ArchSim.Model

namespace PhantomTrails.ArchSim

/-! # The allowed devices

`is_allowed_device` over any bus and any list of regions, against the bytes
that the access touches.
-/

/-- `is_allowed_device`.  The bus only says if a device serves an address. -/
def isAllowedOn (findDevice : UInt64 → Bool) (allowedDevices : List (UInt64 × UInt64)) (addr len : UInt64) : Bool :=
  !findDevice addr || allowedDevices.any fun device =>
    decide (addr ≥ device.1) && decide (addr + len < device.1 + device.2)

theorem isAllowedDevice_eq {Core Devices : Type} {ramSize : UInt64} (spike : Spike Core Devices ramSize)
    (config : Config) (addr : UInt64) (len : Fin 256) :
    isAllowedDevice spike config addr len =
      isAllowedOn spike.findDevice (allowedDevices config ramSize) addr (UInt64.ofNat len.val) := rfl

/-- The region has the byte. -/
def HasByte (device : UInt64 × UInt64) (byte : Nat) : Prop :=
  device.1.toNat ≤ byte ∧ byte < device.1.toNat + device.2.toNat

/-- Every byte of the access lies in a region. -/
def Covered (allowedDevices : List (UInt64 × UInt64)) (addr len : UInt64) : Prop :=
  ∀ byte, addr.toNat ≤ byte → byte < addr.toNat + len.toNat → ∃ device ∈ allowedDevices, HasByte device byte

/-- The access lies in one region. -/
def Contained (allowedDevices : List (UInt64 × UInt64)) (addr len : UInt64) : Prop :=
  ∃ device ∈ allowedDevices, ∀ byte, addr.toNat ≤ byte → byte < addr.toNat + len.toNat → HasByte device byte

/-- The access lies in one region, and not at its end. -/
def HasRoom (allowedDevices : List (UInt64 × UInt64)) (addr len : UInt64) : Prop :=
  ∃ device ∈ allowedDevices, device.1.toNat ≤ addr.toNat ∧
    addr.toNat + len.toNat < device.1.toNat + device.2.toNat

/-- No sum of a base and a size wraps. -/
def Fits (allowedDevices : List (UInt64 × UInt64)) : Prop :=
  ∀ device ∈ allowedDevices, device.1.toNat + device.2.toNat < 2 ^ 64

variable {allowedDevices : List (UInt64 × UInt64)} {addr len : UInt64}

theorem toNat_add_of_lt {a b : UInt64} (fits : a.toNat + b.toNat < 2 ^ 64) : (a + b).toNat = a.toNat + b.toNat := by
  rw [UInt64.toNat_add]
  exact Nat.mod_eq_of_lt fits

theorem isAllowedOn_iff (findDevice : UInt64 → Bool) (regions : Fits allowedDevices)
    (access : addr.toNat + len.toNat < 2 ^ 64) :
    isAllowedOn findDevice allowedDevices addr len = true ↔
      findDevice addr = false ∨ HasRoom allowedDevices addr len := by
  rw [isAllowedOn, Bool.or_eq_true, Bool.not_eq_true', List.any_eq_true]
  refine or_congr_right (exists_congr fun device => and_congr_right fun member => ?_)
  rw [Bool.and_eq_true, decide_eq_true_iff, decide_eq_true_iff, ge_iff_le, UInt64.le_iff_toNat_le,
    UInt64.lt_iff_toNat_lt, toNat_add_of_lt access, toNat_add_of_lt (regions device member)]

/-- The simulator's own test, with the regions of its constructor. -/
theorem isAllowedDevice_iff {Core Devices : Type} {ramSize : UInt64} (spike : Spike Core Devices ramSize)
    (config : Config) (addr : UInt64) (len : Fin 256) (ram : config.ramBase.toNat + ramSize.toNat < 2 ^ 64)
    (access : addr.toNat + len.val < 2 ^ 64) :
    isAllowedDevice spike config addr len = true ↔
      spike.findDevice addr = false ∨ HasRoom (ArchSim.allowedDevices config ramSize) addr (UInt64.ofNat len.val) := by
  have regions : Fits (ArchSim.allowedDevices config ramSize) := by
    simpa [Fits, ArchSim.allowedDevices] using ram
  have size : (UInt64.ofNat len.val).toNat = len.val := by
    rw [UInt64.toNat_ofNat']
    exact Nat.mod_eq_of_lt (len.isLt.trans (by decide))
  rw [isAllowedDevice_eq]
  exact isAllowedOn_iff spike.findDevice regions (by rwa [size])

theorem HasRoom.contained (room : HasRoom allowedDevices addr len) : Contained allowedDevices addr len := by
  obtain ⟨device, member, lower, upper⟩ := room
  exact ⟨device, member, fun byte above below => ⟨by omega, by omega⟩⟩

theorem Contained.covered (contained : Contained allowedDevices addr len) : Covered allowedDevices addr len := by
  obtain ⟨device, member, holds⟩ := contained
  exact fun byte above below => ⟨device, member, holds byte above below⟩

/-- What is accepted is allowed, so only the other direction can fail. -/
theorem exact_iff {accepted unserved room allowed : Prop} (decides : accepted ↔ unserved ∨ room) (sound : room → allowed) :
    (accepted ↔ unserved ∨ allowed) ↔ unserved ∨ room ∨ ¬ allowed := by
  rw [decides]
  tauto

/-- Where the regions allow an access, it is accepted only if it leaves a byte free behind it in one of them. -/
theorem isAllowedOn_exact_iff (findDevice : UInt64 → Bool) (regions : Fits allowedDevices)
    (access : addr.toNat + len.toNat < 2 ^ 64) :
    ((isAllowedOn findDevice allowedDevices addr len = true ↔
        findDevice addr = false ∨ Covered allowedDevices addr len) ↔
      findDevice addr = false ∨ HasRoom allowedDevices addr len ∨ ¬ Covered allowedDevices addr len) ∧
    ((isAllowedOn findDevice allowedDevices addr len = true ↔
        findDevice addr = false ∨ Contained allowedDevices addr len) ↔
      findDevice addr = false ∨ HasRoom allowedDevices addr len ∨ ¬ Contained allowedDevices addr len) := by
  have decides := isAllowedOn_iff findDevice regions access
  exact ⟨exact_iff decides fun room => room.contained.covered, exact_iff decides HasRoom.contained⟩

/-- The register for the boot address, and the RAM. -/
def bootRegions : List (UInt64 × UInt64) := [(0x4000, 4096), (0x80000000, 0x10000000)]

theorem isAllowedOn_exact_iff_firstWord :
    isAllowedOn (fun _ => true) bootRegions 0x4000 8 = true ↔ (fun _ => true) 0x4000 = false ∨ Covered bootRegions 0x4000 8 := by
  have fits : Fits bootRegions := by simp [Fits, bootRegions]
  have room : HasRoom bootRegions 0x4000 8 := ⟨(0x4000, 4096), List.mem_cons_self, by decide, by decide⟩
  exact (isAllowedOn_exact_iff (fun _ => true) fits (by decide)).1.mpr (.inr (.inl room))

/-- The last word of the register lies in the region, and is not allowed. -/
theorem isAllowedOn_lastWord :
    Contained bootRegions 0x4ff8 8 ∧ ¬ (isAllowedOn (fun _ => true) bootRegions 0x4ff8 8 = true ↔
      (fun _ => true) 0x4ff8 = false ∨ Covered bootRegions 0x4ff8 8) := by
  have contained : Contained bootRegions 0x4ff8 8 := by
    refine ⟨(0x4000, 4096), List.mem_cons_self, fun byte above below => ?_⟩
    change 0x4ff8 ≤ byte at above
    change byte < 0x4ff8 + 8 at below
    change 0x4000 ≤ byte ∧ byte < 0x4000 + 4096
    omega
  refine ⟨contained, fun exactly => ?_⟩
  have accepted := exactly.mpr (.inr contained.covered)
  exact absurd accepted (by decide)

end PhantomTrails.ArchSim
