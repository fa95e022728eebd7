import PhantomTrails.Init.PageTables

namespace PhantomTrails.Init

open Foundation Foundation.Sv39

/-! # The page tables without the data-flow optimisation

`init-no-dataflow.S` leaves the first page out of `table1`; its other tables
are those of `init.S`.
-/

def noDataflowTable1 : List Pte :=
  [0x0, -- empty
   0x0, -- empty
   0x20000c01] -- table2

def lowerTables : List Table :=
  [⟨0x80003000, 1, table2⟩, ⟨0x80004000, 0, table3⟩, ⟨0x80005000, 1, table2_addr0⟩, ⟨0x80006000, 0, table3_addr0⟩]

def initRoot : Table := ⟨0x80002000, 2, table1⟩

def noDataflowRoot : Table := ⟨0x80002000, 2, noDataflowTable1⟩

def noDataflowTables : List Table := noDataflowRoot :: lowerTables

theorem initTables_eq : initTables = initRoot :: lowerTables := rfl

theorem sameRoot : initRoot.base = noDataflowRoot.base := rfl

theorem noDataflowTables_isolate : Isolates noDataflowTables 0x80002000 userPages where
  root := ⟨noDataflowRoot, List.mem_cons_self, rfl, rfl⟩
  linked := by decide
  leaves := by decide
  apart := by decide

theorem noDataflow_isolates_of_satp {env : Env} (satp : env.satp = set_page_table) :
    Isolates noDataflowTables env.root userPages :=
  root_eq satp ▸ noDataflowTables_isolate

theorem lowerTables_linked : Linked lowerTables := by decide

theorem initRoot_pointers : ∀ pte ∈ initRoot.entries, pte.isUsable = true → pte.isLeaf = false →
    ∃ next ∈ lowerTables, next.base = pte.target ∧ next.level = 1 := by decide

/-- Only the first entry is another one. -/
theorem initRoot_entry {i : Nat} (later : i ≠ 0) : initRoot.entry i = noDataflowRoot.entry i := by
  match i, later with
  | 1, _ => rfl
  | 2, _ => rfl
  | i + 3, _ => rfl

/-- What user code reads from an address. -/
def observed (env : Env) (memory : Store UInt8) (va : BitVec 64) (access : Access) : Option UInt8 :=
  (physical env memory va access).map memory

section Replaced

variable {env : Env} {left right : Store UInt8} {va : BitVec 64} {access : Access}

/-- A memory with the tables of `init.S` and one with those of
`init-no-dataflow.S`, alike in the pages of the user.  What else the two files
put into the memory, such as their code, may differ. -/
structure SamePages (left right : Store UInt8) : Prop where
  tables : ∀ table ∈ initTables, table.Held left
  replaced : ∀ table ∈ noDataflowTables, table.Held right
  same : ∀ access cell, cell / 4096 ∈ userPages access → left cell = right cell

theorem vpn_two (canonical : isCanonical va = true) (first : vpn va 2 = 0) : va.toNat < 0x80000000 := by
  have page := page_split va 2
  rw [first, Nat.zero_mul, Nat.zero_add] at page
  have small : va.toNat / 4096 % 512 ^ 3 < 2 ^ 26 := by
    rw [page]
    omega
  have whole := page_of_canonical canonical small
  omega

theorem vpn_two_of_small (small : va.toNat < 0x40000000) : vpn va 2 = 0 := by
  rw [vpn_eq]
  omega

/-- Without the entry the first page is gone, and nothing else. -/
theorem SamePages.physical (pages : SamePages left right) (satp : env.satp = set_page_table) :
    physical env right va access = if va.toNat < 0x1000 then none else physical env left va access := by
  have root := root_eq satp
  have heldLeft := pages.tables
  have heldRight := pages.replaced
  rw [initTables_eq] at heldLeft
  obtain ⟨leftTop, leftLower⟩ := List.forall_mem_cons.mp heldLeft
  obtain ⟨rightTop, rightLower⟩ := List.forall_mem_cons.mp heldRight
  by_cases first : vpn va 2 = 0
  · have unusable : (noDataflowRoot.entry (vpn va (1 + 1))).isUsable = false := by
      rw [first]
      decide
    have unfound := findLeaf_unusable rightTop unusable
    have missing : findLeaf right va 2 env.root = none := by
      rw [root]
      exact unfound
    rw [physical_of_findLeaf_none missing]
    split
    · rfl
    · rename_i above
      cases reached : Foundation.Sv39.physical env left va access with
      | none => rfl
      | some paddr =>
          have maps := maps_of_physical reached
          have low := vpn_two maps.1 first
          rcases maps_initTables satp pages.tables maps with ⟨below, -⟩ | ⟨high, -⟩ <;> omega
  · have above : ¬ va.toNat < 0x1000 := by
      intro below
      exact first (vpn_two_of_small (by omega))
    have replaced := findLeaf_replaced lowerTables_linked initRoot_pointers sameRoot leftTop rightTop leftLower
      rightLower (initRoot_entry first)
    have walks : findLeaf left va 2 env.root = findLeaf right va 2 env.root := by
      rw [root]
      exact replaced
    rw [if_neg above, physical_of_findLeaf_eq walks]

/-- The first page cannot be stored to with the entry either. -/
theorem SamePages.stores (pages : SamePages left right) (satp : env.satp = set_page_table)
    (user : env.privilege = .user) :
    Foundation.Sv39.physical env right va .store = Foundation.Sv39.physical env left va .store := by
  have isolates := isolates_of_satp satp
  rw [pages.physical satp]
  split
  · rename_i below
    cases reached : Foundation.Sv39.physical env left va .store with
    | none => rfl
    | some paddr =>
        have listed := isolates.physical_user pages.tables user reached
        simp only [userPages, List.mem_cons, List.not_mem_nil, or_false] at listed
        rcases maps_initTables satp pages.tables (maps_of_physical reached) with ⟨-, moved⟩ | ⟨high, -⟩ <;> omega
  · rfl

/-- An access stores the same byte to the same cell, or nothing. -/
theorem SamePages.perform_same (pages : SamePages left right) (satp : env.satp = set_page_table)
    (user : env.privilege = .user) (access : ByteAccess) {cell : Nat} (same : left cell = right cell) :
    Foundation.Sv39.perform env left access cell = Foundation.Sv39.perform env right access cell := by
  have isolates := isolates_of_satp satp
  have replaced := noDataflow_isolates_of_satp satp
  rw [isolates.perform_user pages.tables user, replaced.perform_user pages.replaced user, pages.stores satp user]
  split
  · cases Foundation.Sv39.physical env left access.va .store with
    | none => exact same
    | some paddr =>
        by_cases stored : cell = paddr
        · simp [stored]
        · simp [Function.update_of_ne stored, same]
  · exact same

theorem SamePages.perform (pages : SamePages left right) (satp : env.satp = set_page_table)
    (user : env.privilege = .user) (access : ByteAccess) :
    SamePages (Foundation.Sv39.perform env left access) (Foundation.Sv39.perform env right access) := by
  have isolates := isolates_of_satp satp
  have replaced := noDataflow_isolates_of_satp satp
  refine ⟨isolates.perform_held pages.tables user access, replaced.perform_held pages.replaced user access, ?_⟩
  exact fun kind cell inside => pages.perform_same satp user access (pages.same kind cell inside)

theorem SamePages.run (pages : SamePages left right) (satp : env.satp = set_page_table)
    (user : env.privilege = .user) (accesses : List ByteAccess) :
    SamePages (accesses.foldl (Foundation.Sv39.perform env) left)
        (accesses.foldl (Foundation.Sv39.perform env) right) ∧
      ∀ cell, left cell = right cell → accesses.foldl (Foundation.Sv39.perform env) left cell =
        accesses.foldl (Foundation.Sv39.perform env) right cell := by
  induction accesses generalizing left right with
  | nil => exact ⟨pages, fun _ same => same⟩
  | cons access rest ih =>
      obtain ⟨after, kept⟩ := ih (pages.perform satp user access)
      exact ⟨after, fun cell same => kept cell (pages.perform_same satp user access same)⟩

/-- What is read from a page that is mapped both ways is the same. -/
theorem SamePages.observed (pages : SamePages left right) (satp : env.satp = set_page_table)
    (user : env.privilege = .user) : Init.observed env right va access =
      if va.toNat < 0x1000 then none else Init.observed env left va access := by
  have isolates := isolates_of_satp satp
  rw [Init.observed, Init.observed, pages.physical satp]
  split
  · rfl
  · cases reached : Foundation.Sv39.physical env left va access with
    | none => rfl
    | some paddr =>
        have listed := isolates.physical_user pages.tables user reached
        rw [Option.map_some, Option.map_some, pages.same access paddr listed]

/-- Every page that is left was there before. -/
theorem SamePages.isolated (pages : SamePages left right) (satp : env.satp = set_page_table)
    (isolated : UserIsolated env left) : UserIsolated env right := by
  have before : ∀ va access paddr, Foundation.Sv39.physical env right va access = some paddr →
      Foundation.Sv39.physical env left va access = some paddr := by
    intro va access paddr reached
    rw [pages.physical satp] at reached
    split at reached
    · cases reached
    · exact reached
  refine ⟨?_, ?_, ?_, ?_, ?_⟩
  · exact fun va paddr reached => isolated.fetch va paddr (before va _ paddr reached)
  · exact fun va paddr reached => isolated.load va paddr (before va _ paddr reached)
  · exact fun va paddr reached => isolated.store va paddr (before va _ paddr reached)
  · exact fun va paddr other fetched stored executed =>
      isolated.notExecuted va paddr other fetched (before va _ paddr stored) (before other _ fetched executed)
  · exact fun va access paddr reached => isolated.supervisor va access paddr (before va access paddr reached)

/-- Without the data-flow optimisation user code loses the first page, and
nothing else changes for it: after any accesses it is isolated as before, what
was the same in both memories still is, and every address but those of the
first page is translated to the same address and read as the same byte. -/
theorem noDataflow_agrees (satp : env.satp = set_page_table) (user : env.privilege = .user)
    (pages : SamePages left right) (accesses : List ByteAccess) :
    UserIsolated env (accesses.foldl (Foundation.Sv39.perform env) right) ∧
      (∀ cell, left cell = right cell → accesses.foldl (Foundation.Sv39.perform env) left cell =
        accesses.foldl (Foundation.Sv39.perform env) right cell) ∧
      ∀ va access,
        (Foundation.Sv39.physical env (accesses.foldl (Foundation.Sv39.perform env) right) va access =
          if va.toNat < 0x1000 then none
          else Foundation.Sv39.physical env (accesses.foldl (Foundation.Sv39.perform env) left) va access) ∧
        Init.observed env (accesses.foldl (Foundation.Sv39.perform env) right) va access =
          if va.toNat < 0x1000 then none
          else Init.observed env (accesses.foldl (Foundation.Sv39.perform env) left) va access := by
  obtain ⟨after, kept⟩ := pages.run satp user accesses
  have isolates := isolates_of_satp satp
  have isolated := userIsolated_of_held isolates user after.tables
  refine ⟨after.isolated satp isolated, kept, ?_⟩
  exact fun va access => ⟨after.physical satp, after.observed satp user⟩

end Replaced

theorem noDataflowTables_held : ∀ table ∈ noDataflowTables, table.Held (image noDataflowTables) := by
  intro table member
  have alone : table.base % 4096 = 0 ∧
      ∀ other ∈ noDataflowTables, other.base / 4096 = table.base / 4096 → other = table := by
    revert table
    decide
  exact image_held member alone.1 alone.2

theorem samePages_images : SamePages (image initTables) (image noDataflowTables) where
  tables := initTables_held
  replaced := noDataflowTables_held
  same := by
    intro access cell inside
    have apart : 0x80002000 / 4096 ≠ cell / 4096 := by
      intro table
      rw [← table] at inside
      revert inside
      cases access <;> decide
    have otherPage : (0x80002000 / 4096 == cell / 4096) = false := beq_false_of_ne apart
    simp only [image, initTables_eq, noDataflowTables, initRoot, noDataflowRoot, List.find?_cons, otherPage]

/-- With the entry the user's code is also fetched from the first page. -/
theorem noDataflow_agrees_images :
    UserIsolated userEnv ([⟨.store, 0x80009010, 2⟩].foldl (perform userEnv) (image noDataflowTables)) ∧
      [⟨.store, 0x80009010, 2⟩].foldl (perform userEnv) (image initTables) 0x80009010 =
        [⟨.store, 0x80009010, 2⟩].foldl (perform userEnv) (image noDataflowTables) 0x80009010 ∧
      physical userEnv ([⟨.store, 0x80009010, 2⟩].foldl (perform userEnv) (image noDataflowTables)) 0x8 .fetch = none ∧
      physical userEnv (image initTables) 0x8 .fetch = some 0x80008008 := by
  have satp : userEnv.satp = set_page_table := rfl
  have user : userEnv.privilege = .user := rfl
  obtain ⟨isolated, same, reads⟩ := noDataflow_agrees satp user samePages_images [⟨.store, 0x80009010, 2⟩]
  have first : (0x8 : BitVec 64).toNat < 0x1000 := by decide
  have before := samePages_images.same .store 0x80009010 (by decide)
  exact ⟨isolated, same 0x80009010 before, (reads 0x8 .fetch).1.trans (if_pos first), by decide⟩

end PhantomTrails.Init
