import PhantomTrails.Foundation.Mappings

namespace PhantomTrails.Init

open Foundation Foundation.Sv39

/-! # The initial page tables

`init.S` maps the pages of the user code, its data and the supervisor, and
enters user mode; `link.ld` places the tables behind the supervisor's code.
`init.S` opens all of the physical memory to every mode, so protection is up to
the tables.
-/

/-- What `set_page_table` writes into `satp`. -/
def set_page_table : BitVec 64 := 0x8000400000080002

def table1 : List Pte :=
  [0x20001401, -- table2_addr0
   0x0, -- empty
   0x20000c01] -- table2

def table2 : List Pte :=
  [0x20001001] -- table3

def table3 : List Pte :=
  [0x2000004b, -- text
   0x200004c7, -- s_data
   0x0, -- table1
   0x0, -- table2
   0x0, -- table3
   0x0, -- table2_addr0
   0x0, -- table3_addr0
   0x0, -- empty
   0x2000205b, -- u_text
   0x200024d7, -- u_data
   0x200028d7, -- u_data
   0x20002cd7, -- u_data
   0x200030d7] -- u_data (MDS)

def table2_addr0 : List Pte :=
  [0x20001801] -- table3_addr0

def table3_addr0 : List Pte :=
  [0x2000205b] -- u_text

/-! ## Placement -/

/-- `. = ALIGN(0x1000)`. -/
def alignUp (addr : Nat) : Nat := (addr + 0xfff) / 0x1000 * 0x1000

/-- The sections of `link.ld` up to the tables' end, from the sizes of what
comes first. -/
def sectionStarts : (start : Nat) → (sizes : List Nat) → List Nat
  | _, [] => []
  | start, size :: rest => start :: sectionStarts (alignUp (start + size)) rest

/-- In the order of `link.ld`: `.text`, sixteen double words of `s_mem`, the
tables, `.empty` and `.u_text`. -/
def sectionSizes (text u_text : Nat) : List Nat :=
  [text, 8 * 16, 8 * table1.length, 8 * table2.length, 8 * table3.length, 8 * table2_addr0.length,
    8 * table3_addr0.length, 8 * 0x200, u_text]

/-- The supervisor's code fills one page at most. -/
theorem sectionStarts_eq {text : Nat} (some : 0 < text) (fits : text ≤ 0x1000) (u_text : Nat) :
    sectionStarts 0x80000000 (sectionSizes text u_text) =
      [0x80000000, 0x80001000, 0x80002000, 0x80003000, 0x80004000, 0x80005000, 0x80006000,
        0x80007000, 0x80008000] := by
  have first : alignUp (0x80000000 + text) = 0x80001000 := by
    rw [alignUp]
    omega
  simp only [sectionSizes, sectionStarts, first]
  rfl

def initTables : List Table :=
  [⟨0x80002000, 2, table1⟩, ⟨0x80003000, 1, table2⟩, ⟨0x80004000, 0, table3⟩,
    ⟨0x80005000, 1, table2_addr0⟩, ⟨0x80006000, 0, table3_addr0⟩]

/-- The tables lie where the sections start. -/
theorem initTables_placed {text : Nat} (some : 0 < text) (fits : text ≤ 0x1000) (u_text : Nat) :
    initTables.map Table.base = ((sectionStarts 0x80000000 (sectionSizes text u_text)).drop 2).take 5 := by
  rw [sectionStarts_eq some fits]
  rfl

/-! ## Isolation -/

def userPages : Access → List Nat
  | .fetch => [0x80008]
  | .load => [0x80008, 0x80009, 0x8000a, 0x8000b, 0x8000c]
  | .store => [0x80009, 0x8000a, 0x8000b, 0x8000c]

instance {pages : Access → List Nat} {level : Nat} {pte : Pte} : Decidable (UserLeaf pages level pte) :=
  decidable_of_iff (level = 0 ∧ pte.accessed = true ∧
      (pte.executable = true → pte.ppn ∈ pages .fetch) ∧
      (pte.readable = true ∨ pte.executable = true → pte.ppn ∈ pages .load) ∧
      (pte.writable = true → pte.dirty = true ∧ pte.ppn ∈ pages .store))
    ⟨fun ⟨level, accessed, fetch, load, store⟩ => ⟨level, accessed, fetch, load, store⟩,
      fun owned => ⟨owned.level, owned.accessed, owned.fetch, owned.load, owned.store⟩⟩

theorem initTables_isolate : Isolates initTables 0x80002000 userPages where
  root := ⟨⟨0x80002000, 2, table1⟩, List.mem_cons_self, rfl, rfl⟩
  linked := by decide
  leaves := by decide
  apart := by decide

/-- Pages that a leaf keeps for the supervisor, and those of the tables. -/
def supervisorPages : List Nat :=
  ((initTables.flatMap Table.entries).filter fun pte => pte.isUsable && pte.isLeaf && !pte.user).map
      Pte.ppn ++
    initTables.map fun table => table.base / 4096

theorem userPages_apart (access : Access) : ∀ page ∈ userPages access, page ∉ supervisorPages := by
  cases access <;> decide

/-- What the tables leave to user code. -/
structure UserIsolated (env : Env) (memory : Store UInt8) : Prop where
  fetch : ∀ va paddr, physical env memory va .fetch = some paddr → paddr / 4096 = 0x80008
  load : ∀ va paddr, physical env memory va .load = some paddr →
    0x80008 ≤ paddr / 4096 ∧ paddr / 4096 ≤ 0x8000c
  store : ∀ va paddr, physical env memory va .store = some paddr →
    0x80009 ≤ paddr / 4096 ∧ paddr / 4096 ≤ 0x8000c
  notExecuted : ∀ va paddr other fetched, physical env memory va .store = some paddr →
    physical env memory other .fetch = some fetched → paddr / 4096 ≠ fetched / 4096
  supervisor : ∀ va access paddr, physical env memory va access = some paddr →
    paddr / 4096 ∉ supervisorPages

variable {env : Env} {memory : Store UInt8}

theorem userIsolated_of_held (isolates : Isolates initTables env.root userPages)
    (user : env.privilege = .user) (held : ∀ table ∈ initTables, table.Held memory) :
    UserIsolated env memory := by
  have fetch : ∀ va paddr, physical env memory va .fetch = some paddr → paddr / 4096 = 0x80008 := by
    intro va paddr reached
    have listed := isolates.physical_user held user reached
    simpa [userPages] using listed
  have store : ∀ va paddr, physical env memory va .store = some paddr →
      0x80009 ≤ paddr / 4096 ∧ paddr / 4096 ≤ 0x8000c := by
    intro va paddr reached
    have listed := isolates.physical_user held user reached
    simp only [userPages, List.mem_cons, List.not_mem_nil, or_false] at listed
    omega
  refine ⟨fetch, ?_, store, ?_, ?_⟩
  · intro va paddr reached
    have listed := isolates.physical_user held user reached
    simp only [userPages, List.mem_cons, List.not_mem_nil, or_false] at listed
    omega
  · intro va paddr other fetched stored executed
    have written := store va paddr stored
    have text := fetch other fetched executed
    omega
  · intro va access paddr reached
    exact userPages_apart access _ (isolates.physical_user held user reached)

theorem root_eq (satp : env.satp = set_page_table) : env.root = 0x80002000 := by
  rw [Env.root, satp]
  decide

theorem isolates_of_satp (satp : env.satp = set_page_table) : Isolates initTables env.root userPages :=
  root_eq satp ▸ initTables_isolate

/-- User code is isolated for good: after any accesses the tables hold what
they held, every translation is what it was, and none leaves the user's pages. -/
theorem user_code_isolated (satp : env.satp = set_page_table) (user : env.privilege = .user)
    (held : ∀ table ∈ initTables, table.Held memory) (accesses : List ByteAccess) :
    UserIsolated env (accesses.foldl (perform env) memory) ∧
      (∀ table ∈ initTables, ∀ cell, table.base ≤ cell → cell < table.base + 4096 →
        accesses.foldl (perform env) memory cell = memory cell) ∧
      ∀ va access, physical env (accesses.foldl (perform env) memory) va access =
        physical env memory va access := by
  have isolates := isolates_of_satp satp
  obtain ⟨kept, outside⟩ := isolates.run user held accesses
  refine ⟨userIsolated_of_held isolates user kept, ?_, ?_⟩
  · intro table member cell lower upper
    exact outside cell (isolates.table_page member lower upper)
  · intro va access
    exact isolates.physical_congr kept held va access

/-! ## Addresses -/

/-- Only the user's code has two addresses. -/
theorem mappings_initTables : ∀ mapping ∈ mappings initTables 2 0x80002000,
    mapping.level = 0 ∧ mapping.page < 2 ^ 26 ∧
      (mapping.page = 0 ∧ mapping.pte.ppn = 0x80008 ∨
        0x80000 ≤ mapping.page ∧ mapping.pte.ppn = mapping.page) := by
  decide

/-- The tables map the DRAM to itself, and the first page to the user's code. -/
theorem maps_initTables (satp : env.satp = set_page_table)
    (held : ∀ table ∈ initTables, table.Held memory) {va : BitVec 64} {paddr : Nat}
    (maps : Maps memory env.root va paddr) :
    va.toNat < 0x1000 ∧ paddr = 0x80008000 + va.toNat ∨ 0x80000000 ≤ va.toNat ∧ paddr = va.toNat := by
  obtain ⟨canonical, leaf, found, -, rfl⟩ := maps
  rw [root_eq satp] at found
  have member : (⟨0x80002000, 2, table1⟩ : Table) ∈ initTables := List.mem_cons_self
  obtain ⟨mapping, listed, pte, level, lower, upper⟩ :=
    findLeaf_mapped initTables_isolate.linked held member found
  obtain ⟨single, small, target⟩ := mappings_initTables mapping listed
  rw [single, Nat.pow_zero] at upper
  have page : mapping.page = va.toNat / 4096 % 512 ^ 3 := Nat.le_antisymm lower (Nat.le_of_lt_succ upper)
  have whole := page_of_canonical canonical (page ▸ small)
  rw [Leaf.paddr, ← pte, ← level, single]
  rcases target with ⟨first, ppn⟩ | ⟨dram, ppn⟩ <;> rw [ppn] <;> omega

/-- The user mode that `sret` enters. -/
def userEnv : Env where
  satp := set_page_table
  sv39 := by decide
  privilege := .user
  sum := false
  mxr := false
  updates := false

theorem initTables_held : ∀ table ∈ initTables, table.Held (image initTables) := by
  intro table member
  have alone : table.base % 4096 = 0 ∧
      ∀ other ∈ initTables, other.base / 4096 = table.base / 4096 → other = table := by
    revert table
    decide
  exact image_held member alone.1 alone.2

/-- A store through the alias of the first page faults, one to the user's data
does not. -/
theorem user_code_isolated_stores :
    UserIsolated userEnv ([⟨.store, 0x8, 1⟩, ⟨.store, 0x80009010, 2⟩].foldl (perform userEnv)
        (image initTables)) ∧
      physical userEnv (image initTables) 0x8 .store = none ∧
      physical userEnv (image initTables) 0x8 .fetch = some 0x80008008 ∧
      physical userEnv (image initTables) 0x80009010 .store = some 0x80009010 := by
  exact ⟨(user_code_isolated rfl rfl initTables_held _).1, by decide, by decide, by decide⟩

end PhantomTrails.Init
