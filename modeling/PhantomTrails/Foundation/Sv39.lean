import Mathlib.Data.List.GetD
import Mathlib.Data.Nat.Digits.Defs
import PhantomTrails.Foundation.Store

namespace Foundation.Sv39

/-! # Sv39 address translation

The page-table walk of the RISC-V privileged architecture over a byte-addressed
physical memory, without the Svnapot and Svpbmt extensions.  A set of tables
that is closed under its pointers determines the walk, and a user who may store
to none of them cannot change it.
-/

inductive Access where
  | fetch
  | load
  | store
deriving DecidableEq, Repr

inductive Privilege where
  | user
  | supervisor
deriving DecidableEq, Repr

/-- A page-table entry. -/
structure Pte where
  bits : BitVec 64
deriving DecidableEq, Repr

namespace Pte

instance {n : Nat} : OfNat Pte n := ⟨⟨BitVec.ofNat 64 n⟩⟩

def valid (pte : Pte) : Bool := pte.bits.getLsbD 0

def readable (pte : Pte) : Bool := pte.bits.getLsbD 1

def writable (pte : Pte) : Bool := pte.bits.getLsbD 2

def executable (pte : Pte) : Bool := pte.bits.getLsbD 3

def user (pte : Pte) : Bool := pte.bits.getLsbD 4

def accessed (pte : Pte) : Bool := pte.bits.getLsbD 6

def dirty (pte : Pte) : Bool := pte.bits.getLsbD 7

def ppn (pte : Pte) : Nat := (pte.bits.extractLsb' 10 44).toNat

def isLeaf (pte : Pte) : Bool := pte.readable || pte.executable

/-- Encodings that are reserved: writable but not readable, a bit above the
page number, and a pointer with a bit that only leaves use. -/
def isReserved (pte : Pte) : Bool :=
  pte.writable && !pte.readable || pte.bits.extractLsb' 54 10 != 0 ||
    !pte.isLeaf && (pte.user || pte.accessed || pte.dirty)

def isUsable (pte : Pte) : Bool := pte.valid && !pte.isReserved

/-- Where the table starts that a pointer points to. -/
def target (pte : Pte) : Nat := pte.ppn * 4096

end Pte

/-- What a translation takes from the control registers.  `updates` says
whether the hardware sets the accessed and dirty bits; otherwise it faults. -/
structure Env where
  satp : BitVec 64
  sv39 : satp.extractLsb' 60 4 = 8
  privilege : Privilege
  sum : Bool
  mxr : Bool
  updates : Bool

def Env.root (env : Env) : Nat := (env.satp.extractLsb' 0 44).toNat * 4096

def word (memory : Store UInt8) (addr : Nat) : BitVec 64 :=
  BitVec.ofNat 64 (Nat.ofDigits 256 ((memory.slice addr 8).map UInt8.toNat))

def byteOf (word : BitVec 64) (lane : Nat) : UInt8 := UInt8.ofBitVec (word.extractLsb' (8 * lane) 8)

def storeWord (memory : Store UInt8) (addr : Nat) (word : BitVec 64) : Store UInt8 :=
  memory.copy addr 8 (byteOf word)

/-! ## The walk -/

/-- The upper bits of an address repeat bit 38. -/
def isCanonical (va : BitVec 64) : Bool := (va.extractLsb' 0 39).signExtend 64 == va

def vpn (va : BitVec 64) (level : Nat) : Nat := (va.extractLsb' (12 + 9 * level) 9).toNat

/-- A leaf entry, with its own address and the level it was found at. -/
structure Leaf where
  addr : Nat
  pte : Pte
  level : Nat
deriving DecidableEq, Repr

/-- The walk from the table that starts at `table`. -/
def findLeaf (memory : Store UInt8) (va : BitVec 64) : (level table : Nat) → Option Leaf
  | 0, table =>
      let addr := table + vpn va 0 * 8
      let pte : Pte := ⟨word memory addr⟩
      if pte.isUsable && pte.isLeaf then some { addr, pte, level := 0 } else none
  | level + 1, table =>
      let addr := table + vpn va (level + 1) * 8
      let pte : Pte := ⟨word memory addr⟩
      if pte.isUsable = false then none
      else if pte.isLeaf then some { addr, pte, level := level + 1 }
      else findLeaf memory va level pte.target

/-- A superpage starts at a multiple of its size. -/
def Leaf.isAligned (leaf : Leaf) : Bool := leaf.pte.ppn % 512 ^ leaf.level == 0

def Leaf.paddr (leaf : Leaf) (va : BitVec 64) : Nat :=
  leaf.pte.ppn * 4096 + va.toNat % (4096 * 512 ^ leaf.level)

def Env.permits (env : Env) (pte : Pte) (access : Access) : Bool :=
  (match env.privilege with
    | .user => pte.user
    | .supervisor => !pte.user || env.sum && access != .fetch) &&
  (match access with
    | .fetch => pte.executable
    | .load => pte.readable || env.mxr && pte.executable
    | .store => pte.writable)

def Leaf.needsMark (leaf : Leaf) (access : Access) : Bool :=
  !leaf.pte.accessed || access == .store && !leaf.pte.dirty

def Leaf.marked (leaf : Leaf) (access : Access) : Pte :=
  ⟨leaf.pte.bits ||| (if access = .store then 0xc0 else 0x40)⟩

structure Translation where
  paddr : Nat
  memory : Store UInt8

/-- `none` is a page fault. -/
def translate (env : Env) (memory : Store UInt8) (va : BitVec 64) (access : Access) :
    Option Translation :=
  if isCanonical va = false then none
  else
    match findLeaf memory va 2 env.root with
    | none => none
    | some leaf =>
        if env.permits leaf.pte access && leaf.isAligned then
          if leaf.needsMark access then
            if env.updates then
              some { paddr := leaf.paddr va, memory := storeWord memory leaf.addr (leaf.marked access).bits }
            else none
          else some { paddr := leaf.paddr va, memory }
        else none

def physical (env : Env) (memory : Store UInt8) (va : BitVec 64) (access : Access) : Option Nat :=
  (translate env memory va access).map Translation.paddr

/-! ## Accesses -/

/-- An access to one byte; a wider one is a sequence of these. -/
structure ByteAccess where
  type : Access
  va : BitVec 64
  value : UInt8 := 0
deriving DecidableEq, Repr

/-- A fault leaves the memory alone. -/
def perform (env : Env) (memory : Store UInt8) (access : ByteAccess) : Store UInt8 :=
  match translate env memory access.va access.type with
  | none => memory
  | some translation =>
      if access.type = .store then
        Function.update translation.memory translation.paddr access.value
      else translation.memory

/-! ## Tables -/

/-- A table as it is written down; the entries that are not listed are zero. -/
structure Table where
  base : Nat
  level : Nat
  entries : List Pte
deriving DecidableEq, Repr

def Table.entry (table : Table) (i : Nat) : Pte := table.entries.getD i 0

def Table.Held (table : Table) (memory : Store UInt8) : Prop :=
  ∀ i < 512, word memory (table.base + i * 8) = (table.entry i).bits

/-- Every pointer leads to a table of the level below. -/
def Linked (tables : List Table) : Prop :=
  ∀ table ∈ tables, ∀ pte ∈ table.entries, pte.isUsable = true → pte.isLeaf = false →
    ∃ next ∈ tables, next.base = pte.target ∧ next.level + 1 = table.level

instance (tables : List Table) : Decidable (Linked tables) :=
  inferInstanceAs (Decidable (∀ table ∈ tables, ∀ pte ∈ table.entries, _))

variable {tables : List Table} {table : Table} {memory : Store UInt8} {va : BitVec 64}

theorem vpn_lt (va : BitVec 64) (level : Nat) : vpn va level < 512 := BitVec.isLt _

theorem Table.entry_mem {i : Nat} (usable : (table.entry i).isUsable = true) :
    table.entry i ∈ table.entries := by
  by_cases listed : i < table.entries.length
  · rw [entry, List.getD_eq_getElem _ _ listed]
    exact List.getElem_mem listed
  · rw [entry, List.getD_eq_default _ _ (Nat.not_lt.mp listed)] at usable
    exact absurd usable (by decide)

/-- What a walk can find: a leaf of one of the tables. -/
def Finds (tables : List Table) (result : Option Leaf) : Prop :=
  ∀ leaf, result = some leaf → ∃ table ∈ tables, leaf.level = table.level ∧
    leaf.pte ∈ table.entries ∧ leaf.pte.isUsable = true ∧ leaf.pte.isLeaf = true

/-- The tables determine the walk, whatever else the memory holds.  The
induction is on the level, and the table changes with it. -/
theorem findLeaf_determined (linked : Linked tables) (member : table ∈ tables) (va : BitVec 64) :
    ∃ result, Finds tables result ∧
      ∀ memory, (∀ table ∈ tables, table.Held memory) →
        findLeaf memory va table.level table.base = result := by
  obtain ⟨level, same⟩ : ∃ level, table.level = level := ⟨_, rfl⟩
  induction level generalizing table with
  | zero =>
      have found : ∀ memory, (∀ table ∈ tables, table.Held memory) →
          findLeaf memory va table.level table.base =
            if (table.entry (vpn va 0)).isUsable && (table.entry (vpn va 0)).isLeaf then
              some ⟨table.base + vpn va 0 * 8, table.entry (vpn va 0), 0⟩
            else none := by
        intro memory held
        rw [same, findLeaf, held table member _ (vpn_lt va 0)]
      refine ⟨_, fun leaf result => ?_, found⟩
      split at result
      · rename_i usable
        obtain ⟨valid, isLeaf⟩ := Bool.and_eq_true_iff.mp usable
        cases result
        exact ⟨table, member, same.symm, Table.entry_mem valid, valid, isLeaf⟩
      · cases result
  | succ level ih =>
      have step : ∀ memory, (∀ table ∈ tables, table.Held memory) →
          findLeaf memory va table.level table.base =
            if (table.entry (vpn va (level + 1))).isUsable = false then none
            else if (table.entry (vpn va (level + 1))).isLeaf then
              some ⟨table.base + vpn va (level + 1) * 8, table.entry (vpn va (level + 1)), level + 1⟩
            else findLeaf memory va level (table.entry (vpn va (level + 1))).target := by
        intro memory held
        rw [same, findLeaf, held table member _ (vpn_lt va (level + 1))]
      cases usable : (table.entry (vpn va (level + 1))).isUsable with
      | false =>
          refine ⟨none, ?_, fun memory held => ?_⟩
          · intro leaf result
            cases result
          · rw [step memory held, if_pos usable]
      | true =>
          have listed := Table.entry_mem usable
          cases isLeaf : (table.entry (vpn va (level + 1))).isLeaf with
          | true =>
              refine ⟨some ⟨table.base + vpn va (level + 1) * 8, table.entry (vpn va (level + 1)),
                level + 1⟩, ?_, fun memory held => ?_⟩
              · intro leaf result
                cases result
                exact ⟨table, member, same.symm, listed, usable, isLeaf⟩
              · rw [step memory held, if_neg (by simp [usable]), if_pos isLeaf]
          | false =>
              obtain ⟨next, reached, base, below⟩ := linked table member _ listed usable isLeaf
              obtain ⟨result, finds, walks⟩ := ih reached (by omega)
              refine ⟨result, finds, fun memory held => ?_⟩
              rw [step memory held, if_neg (by simp [usable]), if_neg (by simp [isLeaf]), ← base,
                ← walks memory held]
              congr 1
              omega

theorem findLeaf_finds (linked : Linked tables) (member : table ∈ tables)
    (held : ∀ table ∈ tables, table.Held memory) (va : BitVec 64) :
    Finds tables (findLeaf memory va table.level table.base) := by
  obtain ⟨result, finds, walks⟩ := findLeaf_determined linked member va
  rw [walks memory held]
  exact finds

theorem findLeaf_congr (linked : Linked tables) (member : table ∈ tables) {other : Store UInt8}
    (held : ∀ table ∈ tables, table.Held memory) (heldOther : ∀ table ∈ tables, table.Held other) :
    findLeaf memory va table.level table.base = findLeaf other va table.level table.base := by
  obtain ⟨result, -, walks⟩ := findLeaf_determined linked member va
  rw [walks memory held, walks other heldOther]

/-- Two walks that read the same entry of their first tables find the same
leaf, if the tables below are the same. -/
theorem findLeaf_replaced {first second : Table} {left right : Store UInt8} {level : Nat} (linked : Linked tables)
    (pointers : ∀ pte ∈ first.entries, pte.isUsable = true → pte.isLeaf = false →
      ∃ next ∈ tables, next.base = pte.target ∧ next.level = level)
    (sameBase : first.base = second.base) (heldFirst : first.Held left) (heldSecond : second.Held right)
    (held : ∀ table ∈ tables, table.Held left) (heldOther : ∀ table ∈ tables, table.Held right)
    (sameEntry : first.entry (vpn va (level + 1)) = second.entry (vpn va (level + 1))) :
    findLeaf left va (level + 1) first.base = findLeaf right va (level + 1) first.base := by
  have leftStep : word left (first.base + vpn va (level + 1) * 8) = (first.entry (vpn va (level + 1))).bits :=
    heldFirst _ (vpn_lt va (level + 1))
  have rightStep : word right (first.base + vpn va (level + 1) * 8) = (first.entry (vpn va (level + 1))).bits := by
    rw [sameBase, sameEntry]
    exact heldSecond _ (vpn_lt va (level + 1))
  rw [findLeaf, findLeaf, leftStep, rightStep]
  cases usable : (first.entry (vpn va (level + 1))).isUsable with
  | false => rfl
  | true =>
      cases isLeaf : (first.entry (vpn va (level + 1))).isLeaf with
      | true => rfl
      | false =>
          obtain ⟨next, listed, base, below⟩ := pointers _ (Table.entry_mem usable) usable isLeaf
          have deeper : findLeaf left va next.level next.base = findLeaf right va next.level next.base :=
            findLeaf_congr linked listed held heldOther
          rw [base, below] at deeper
          exact deeper

theorem findLeaf_unusable {level : Nat} (held : table.Held memory)
    (unusable : (table.entry (vpn va (level + 1))).isUsable = false) :
    findLeaf memory va (level + 1) table.base = none := by
  have step : word memory (table.base + vpn va (level + 1) * 8) = (table.entry (vpn va (level + 1))).bits :=
    held _ (vpn_lt va (level + 1))
  rw [findLeaf, step]
  exact if_pos unusable

/-! ## Isolation of user code -/

/-- A leaf that a user may use is marked already, maps a single page, and maps
it to one that `pages` lists for the access. -/
structure UserLeaf (pages : Access → List Nat) (level : Nat) (pte : Pte) : Prop where
  level : level = 0
  accessed : pte.accessed = true
  fetch : pte.executable = true → pte.ppn ∈ pages .fetch
  load : pte.readable = true ∨ pte.executable = true → pte.ppn ∈ pages .load
  store : pte.writable = true → pte.dirty = true ∧ pte.ppn ∈ pages .store

/-- The tables give a user no page but those that `pages` lists, and none of
their own to store to. -/
structure Isolates (tables : List Table) (root : Nat) (pages : Access → List Nat) : Prop where
  root : ∃ table ∈ tables, table.base = root ∧ table.level = 2
  linked : Linked tables
  leaves : ∀ table ∈ tables, ∀ pte ∈ table.entries, pte.isUsable = true → pte.isLeaf = true →
    pte.user = true → UserLeaf pages table.level pte
  apart : ∀ table ∈ tables, table.base % 4096 = 0 ∧ table.base / 4096 ∉ pages .store

variable {env : Env} {pages : Access → List Nat} {access : Access} {translation : Translation}

theorem permits_user {pte : Pte} (user : env.privilege = .user) (permitted : env.permits pte access = true) :
    pte.user = true ∧ (match access with
      | .fetch => pte.executable = true
      | .load => pte.readable = true ∨ pte.executable = true
      | .store => pte.writable = true) := by
  simp only [Env.permits, user, Bool.and_eq_true] at permitted
  obtain ⟨owned, granted⟩ := permitted
  refine ⟨owned, ?_⟩
  cases access with
  | fetch | store => exact granted
  | load =>
      simp only [Bool.or_eq_true, Bool.and_eq_true] at granted
      rcases granted with readable | ⟨-, executable⟩
      · exact .inl readable
      · exact .inr executable

theorem UserLeaf.permitted {leaf : Leaf} (owned : UserLeaf pages leaf.level leaf.pte)
    (user : env.privilege = .user) (permitted : env.permits leaf.pte access = true) :
    leaf.pte.ppn ∈ pages access ∧ leaf.needsMark access = false := by
  obtain ⟨-, granted⟩ := permits_user user permitted
  cases access with
  | fetch => exact ⟨owned.fetch granted, by simp [Leaf.needsMark, owned.accessed]⟩
  | load => exact ⟨owned.load granted, by simp [Leaf.needsMark, owned.accessed]⟩
  | store =>
      obtain ⟨dirty, listed⟩ := owned.store granted
      exact ⟨listed, by simp [Leaf.needsMark, owned.accessed, dirty]⟩

/-- A user's translation leaves the memory alone and reaches a listed page. -/
theorem Isolates.translate_user (isolates : Isolates tables env.root pages)
    (held : ∀ table ∈ tables, table.Held memory) (user : env.privilege = .user)
    (translated : translate env memory va access = some translation) :
    translation.memory = memory ∧ translation.paddr / 4096 ∈ pages access := by
  obtain ⟨root, member, base, level⟩ := isolates.root
  have finds := findLeaf_finds isolates.linked member held va
  rw [base, level] at finds
  simp only [translate] at translated
  split at translated
  · cases translated
  · split at translated
    · cases translated
    · rename_i leaf found
      obtain ⟨table, listed, same, entry, usable, isLeaf⟩ := finds leaf found
      split at translated
      · rename_i allowed
        obtain ⟨permitted, -⟩ := Bool.and_eq_true_iff.mp allowed
        have owned := isolates.leaves table listed leaf.pte entry usable isLeaf
          (permits_user user permitted).1
        rw [← same] at owned
        obtain ⟨page, unmarked⟩ := owned.permitted user permitted
        rw [unmarked] at translated
        cases translated
        refine ⟨rfl, ?_⟩
        have reached : leaf.paddr va / 4096 = leaf.pte.ppn := by
          rw [Leaf.paddr, owned.level]
          omega
        rw [reached]
        exact page
      · cases translated

theorem Isolates.physical_user (isolates : Isolates tables env.root pages)
    (held : ∀ table ∈ tables, table.Held memory) (user : env.privilege = .user) {paddr : Nat}
    (reached : physical env memory va access = some paddr) : paddr / 4096 ∈ pages access := by
  obtain ⟨translation, translated, rfl⟩ := Option.map_eq_some_iff.mp reached
  exact (isolates.translate_user held user translated).2

theorem physical_of_findLeaf_none (missing : findLeaf memory va 2 env.root = none) :
    physical env memory va access = none := by
  simp [physical, translate, missing]

theorem physical_of_findLeaf_eq {other : Store UInt8}
    (same : findLeaf memory va 2 env.root = findLeaf other va 2 env.root) :
    physical env memory va access = physical env other va access := by
  simp only [physical, translate, same]
  split
  · rfl
  · split
    · rfl
    · split
      · split
        · split <;> rfl
        · rfl
      · rfl

/-- Equal tables give equal translations. -/
theorem Isolates.physical_congr (isolates : Isolates tables env.root pages) {other : Store UInt8}
    (held : ∀ table ∈ tables, table.Held memory) (heldOther : ∀ table ∈ tables, table.Held other)
    (va : BitVec 64) (access : Access) :
    physical env memory va access = physical env other va access := by
  obtain ⟨root, member, base, level⟩ := isolates.root
  apply physical_of_findLeaf_eq
  rw [← base, ← level]
  exact findLeaf_congr isolates.linked member held heldOther

theorem word_congr {other : Store UInt8} {addr : Nat}
    (same : ∀ cell, addr ≤ cell → cell < addr + 8 → other cell = memory cell) :
    word other addr = word memory addr := by
  have bytes : other.slice addr 8 = memory.slice addr 8 := by
    apply List.map_congr_left
    intro i member
    have inside := List.mem_range.mp member
    exact same (addr + i) (by omega) (by omega)
  rw [word, word, bytes]

theorem Table.Held.of_same {other : Store UInt8} (held : table.Held memory)
    (same : ∀ cell, table.base ≤ cell → cell < table.base + 4096 → other cell = memory cell) :
    table.Held other := by
  intro i inside
  rw [← held i inside]
  exact word_congr fun cell lower upper => same cell (by omega) (by omega)

/-- No user may store to a table. -/
theorem Isolates.table_page (isolates : Isolates tables env.root pages) (member : table ∈ tables)
    {cell : Nat} (lower : table.base ≤ cell) (upper : cell < table.base + 4096) :
    cell / 4096 ∉ pages .store := by
  obtain ⟨aligned, apart⟩ := isolates.apart table member
  have page : cell / 4096 = table.base / 4096 := by omega
  rw [page]
  exact apart

/-- A user's access is a store to the address it reaches, or nothing. -/
theorem Isolates.perform_user (isolates : Isolates tables env.root pages)
    (held : ∀ table ∈ tables, table.Held memory) (user : env.privilege = .user) (access : ByteAccess) :
    perform env memory access =
      if access.type = .store then
        (physical env memory access.va .store).elim memory fun paddr => Function.update memory paddr access.value
      else memory := by
  cases translated : translate env memory access.va access.type with
  | none =>
      simp only [perform, translated]
      split
      · rename_i store
        rw [store] at translated
        simp [physical, translated]
      · rfl
  | some translation =>
      obtain ⟨same, -⟩ := isolates.translate_user held user translated
      simp only [perform, translated, same]
      split
      · rename_i store
        rw [store] at translated
        simp [physical, translated]
      · rfl

theorem Isolates.perform_outside (isolates : Isolates tables env.root pages)
    (held : ∀ table ∈ tables, table.Held memory) (user : env.privilege = .user)
    (access : ByteAccess) {cell : Nat} (outside : cell / 4096 ∉ pages .store) :
    perform env memory access cell = memory cell := by
  cases translated : translate env memory access.va access.type with
  | none => simp only [perform, translated]
  | some translation =>
      obtain ⟨same, reached⟩ := isolates.translate_user held user translated
      simp only [perform, translated]
      split
      · rename_i store
        rw [store] at reached
        have apart : cell ≠ translation.paddr := by
          intro stored
          rw [stored] at outside
          exact outside reached
        rw [Function.update_of_ne apart, same]
      · rw [same]

theorem Isolates.perform_held (isolates : Isolates tables env.root pages)
    (held : ∀ table ∈ tables, table.Held memory) (user : env.privilege = .user)
    (access : ByteAccess) : ∀ table ∈ tables, table.Held (perform env memory access) := by
  intro table member
  apply (held table member).of_same
  intro cell lower upper
  exact isolates.perform_outside held user access (isolates.table_page member lower upper)

/-- After any accesses of a user the tables are in place, and the memory is the
same but for the pages a user may store to. -/
theorem Isolates.run (isolates : Isolates tables env.root pages) (user : env.privilege = .user)
    (held : ∀ table ∈ tables, table.Held memory) (accesses : List ByteAccess) :
    (∀ table ∈ tables, table.Held (accesses.foldl (perform env) memory)) ∧
      ∀ cell, cell / 4096 ∉ pages .store → accesses.foldl (perform env) memory cell = memory cell := by
  induction accesses generalizing memory with
  | nil => exact ⟨held, fun _ _ => rfl⟩
  | cons access rest ih =>
      obtain ⟨kept, outside⟩ := ih (isolates.perform_held held user access)
      refine ⟨kept, fun cell apart => ?_⟩
      exact (outside cell apart).trans (isolates.perform_outside held user access apart)

/-! ## The tables in memory -/

/-- A memory that holds the tables, and zeros. -/
def image (tables : List Table) : Store UInt8 := fun cell =>
  match tables.find? fun table => table.base / 4096 == cell / 4096 with
  | none => 0
  | some table => byteOf (table.entry (cell % 4096 / 8)).bits (cell % 8)

theorem byteOf_toNat (bits : BitVec 64) (lane : Nat) :
    (byteOf bits lane).toNat = bits.toNat / 256 ^ lane % 256 := by
  rw [byteOf, UInt8.toNat_ofBitVec, BitVec.extractLsb'_toNat, Nat.shiftRight_eq_div_pow, Nat.pow_mul]

theorem word_of_bytes {addr : Nat} {bits : BitVec 64}
    (bytes : ∀ lane < 8, memory (addr + lane) = byteOf bits lane) : word memory addr = bits := by
  have slice : (memory.slice addr 8).map UInt8.toNat =
      (List.range 8).map fun lane => bits.toNat / 256 ^ lane % 256 := by
    rw [Store.slice, List.map_map]
    apply List.map_congr_left
    intro lane member
    rw [Function.comp, bytes lane (List.mem_range.mp member), byteOf_toNat]
  apply BitVec.eq_of_toNat_eq
  have bound := bits.isLt
  rw [word, slice, BitVec.toNat_ofNat]
  simp only [List.range_succ, List.range_zero, List.nil_append, List.map_cons, List.map_nil,
    List.cons_append, Nat.ofDigits_cons, Nat.ofDigits_nil]
  omega

theorem image_held (member : table ∈ tables) (aligned : table.base % 4096 = 0)
    (alone : ∀ other ∈ tables, other.base / 4096 = table.base / 4096 → other = table) :
    table.Held (image tables) := by
  intro i inside
  apply word_of_bytes
  intro lane small
  have page : (table.base + i * 8 + lane) / 4096 = table.base / 4096 := by omega
  have place : (table.base + i * 8 + lane) % 4096 / 8 = i := by omega
  have byte : (table.base + i * 8 + lane) % 8 = lane := by omega
  rw [image, page, place, byte]
  cases found : tables.find? fun other => other.base / 4096 == table.base / 4096 with
  | none => exact absurd (beq_iff_eq.mpr rfl) (List.find?_eq_none.mp found table member)
  | some other =>
      have same := List.find?_some found
      rw [alone other (List.mem_of_find?_eq_some found) (beq_iff_eq.mp same)]

end Foundation.Sv39
