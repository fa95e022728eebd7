import PhantomTrails.Init.Boot

namespace PhantomTrails.Init

open Foundation Foundation.Sv39 Foundation.Hart

/-! # Initialization in user mode

`init-mds.S` runs before the test case.  It fills the buffers of the core from
a page that nothing else touches: sixteen rounds, each of which loads one word
and stores another.
-/

/-- This page should not be touched by the rest of the program. -/
def FORBIDDEN_ADDR : Nat := 0x8000C000

def round : List Instr := [.ld t0 0 s0, .sd t1 16 s0, .addi s0 s0 32]

def init_uarch : List Instr :=
  .li s0 (BitVec.ofNat 64 FORBIDDEN_ADDR) :: ((List.replicate 16 round).flatten ++ [.nop])

/-- The page of the user's code. -/
def userText (addr : Word) : Prop := addr.toNat / 4096 = 0x80008

instance (addr : Word) : Decidable (userText addr) := inferInstanceAs (Decidable (_ = _))

variable {config : Config} {width : Instr → Nat} {symbols : Symbols} {s after : State}
  {memory : Store UInt8} {regs : Reg → Word} {value : Word} {k : Nat}

/-- The memory after `k` rounds: each has stored a word behind the two that it
starts at. -/
def filled (memory : Store UInt8) (value : Word) (k : Nat) : Store UInt8 := fun cell =>
  if FORBIDDEN_ADDR ≤ cell ∧ cell < FORBIDDEN_ADDR + 32 * k ∧ cell % 32 / 8 = 2 then byteOf value (cell % 8)
  else memory cell

theorem filled_zero (memory : Store UInt8) (value : Word) : filled memory value 0 = memory := by
  funext cell
  exact if_neg (by omega)

theorem FORBIDDEN_ADDR_aligned : FORBIDDEN_ADDR % 32 = 0 := rfl

theorem filled_succ (memory : Store UInt8) (value : Word) (k : Nat) :
    storeWord (filled memory value k) (FORBIDDEN_ADDR + 32 * k + 16) value = filled memory value (k + 1) := by
  have aligned := FORBIDDEN_ADDR_aligned
  funext cell
  simp only [storeWord, Store.copy, filled]
  by_cases here : FORBIDDEN_ADDR + 32 * k + 16 ≤ cell ∧ cell < FORBIDDEN_ADDR + 32 * k + 16 + 8
  · have lane : cell - (FORBIDDEN_ADDR + 32 * k + 16) = cell % 8 := by omega
    rw [if_pos here, if_pos (by omega), lane]
  · rw [if_neg here]
    by_cases before : FORBIDDEN_ADDR ≤ cell ∧ cell < FORBIDDEN_ADDR + 32 * k ∧ cell % 32 / 8 = 2
    · rw [if_pos before, if_pos (by omega)]
    · rw [if_neg before, if_neg (by omega)]

/-- No round stores to a word that is loaded. -/
theorem word_filled (memory : Store UInt8) (value : Word) (k j : Nat) :
    word (filled memory value k) (FORBIDDEN_ADDR + 32 * j) = word memory (FORBIDDEN_ADDR + 32 * j) := by
  have aligned := FORBIDDEN_ADDR_aligned
  apply word_congr
  intro cell lower upper
  exact if_neg (by omega)

theorem held_storeWord {addr : Nat} (above : 0x80007000 ≤ addr) (value : Word)
    (held : ∀ table ∈ initTables, table.Held memory) :
    ∀ table ∈ initTables, table.Held (storeWord memory addr value) := by
  intro table member
  have below : ∀ table ∈ initTables, table.base + 4096 ≤ 0x80007000 := by decide
  have end_ := below table member
  apply (held table member).of_same
  intro cell lower upper
  exact Store.copy_outside (.inl (by omega))

/-! ## One round -/

/-- User code after `k` rounds that found `memory` and `regs`. -/
structure Filling (memory : Store UInt8) (regs : Reg → Word) (k : Nat) (s : State) : Prop where
  translated : Translated s
  user : s.mode = .user
  base : s.reg s0 = BitVec.ofNat 64 (FORBIDDEN_ADDR + 32 * k)
  others : ∀ r, r ≠ s0 → r ≠ t0 → s.regs r = regs r
  loads : 0 < k → s.regs t0 = word memory (FORBIDDEN_ADDR + 32 * (k - 1))
  stores : s.memory = filled memory (regs t1) k

theorem Translated.user_fetches (translated : Translated s) (user : s.mode = .user) (page : userText s.pc) :
    s.Fetches config :=
  translated.access config.updates (i := 8) page (by rw [user]; decide)

/-- User code reaches its data as it is. -/
theorem Translated.user_data {access : Access} {offset : Nat} (translated : Translated s) (updates : Bool)
    (user : s.mode = .user) (data : access ≠ .fetch) (inside : offset < 4096) :
    s.access updates (BitVec.ofNat 64 (FORBIDDEN_ADDR + offset)) access =
      .ok ⟨FORBIDDEN_ADDR + offset, s.memory⟩ := by
  have small : (BitVec.ofNat 64 (FORBIDDEN_ADDR + offset)).toNat = FORBIDDEN_ADDR + offset := by
    simp only [BitVec.toNat_ofNat, FORBIDDEN_ADDR]
    omega
  have page : (BitVec.ofNat 64 (FORBIDDEN_ADDR + offset)).toNat / 4096 = 0x80000 + 12 := by
    rw [small, FORBIDDEN_ADDR]
    omega
  have grants : granted s.mode access 12 = true := by
    rw [user]
    cases access with
    | fetch => exact absurd rfl data
    | load | store => decide
  have found := translated.access updates page grants
  rw [small] at found
  exact found

theorem Translated.moved (translated : Translated s) (pc : Word) (regs : Reg → Word)
    (held : ∀ table ∈ initTables, table.Held memory) : Translated { s with pc, regs, memory } :=
  ⟨translated.lower, translated.satp, ⟨translated.opened.1, translated.opened.2⟩, held⟩

/-- One instruction of user code that is not a jump. -/
theorem user_step {instr : Instr} (translated : Translated s) (user : s.mode = .user)
    (here : userText s.pc ∧ config.code s.pc.toNat = some (instr, width instr))
    (done : s.effect config.updates instr = .ok after) :
    s.step config = after.advance (width instr) :=
  State.step_of_fetches (translated.user_fetches user here.1) here.2 (State.execute_of_effect done)

theorem ofNat_aligned {offset : Nat} (aligned : offset % 8 = 0) :
    (BitVec.ofNat 64 (FORBIDDEN_ADDR + offset)).toNat % 8 = 0 := by
  simp only [BitVec.toNat_ofNat, FORBIDDEN_ADDR]
  omega

theorem load_done {offset : Nat} (translated : Translated s) (user : s.mode = .user)
    (base : s.reg s0 = BitVec.ofNat 64 (FORBIDDEN_ADDR + offset)) (inside : offset < 4096)
    (aligned : offset % 8 = 0)
    (here : userText s.pc ∧ config.code s.pc.toNat = some (.ld t0 0 s0, width (.ld t0 0 s0))) :
    s.step config = (s.set t0 (word s.memory (FORBIDDEN_ADDR + offset))).advance (width (.ld t0 0 s0)) := by
  have address : s.reg s0 + 0 = BitVec.ofNat 64 (FORBIDDEN_ADDR + offset) := (BitVec.add_zero _).trans base
  have found := @Translated.user_data s .load offset translated config.updates user (by simp) inside
  have even := ofNat_aligned aligned
  rw [← address] at found even
  have done := @State.effect_ld s config.updates t0 s0 0 _ even found
  exact user_step translated user here done

theorem store_done {offset : Nat} (translated : Translated s) (user : s.mode = .user)
    (base : s.reg s0 = BitVec.ofNat 64 (FORBIDDEN_ADDR + offset)) (inside : offset + 16 < 4096)
    (aligned : offset % 8 = 0)
    (here : userText s.pc ∧ config.code s.pc.toNat = some (.sd t1 16 s0, width (.sd t1 16 s0))) :
    s.step config = State.advance
      { s with memory := storeWord s.memory (FORBIDDEN_ADDR + offset + 16) (s.reg t1) }
      (width (.sd t1 16 s0)) := by
  have address : s.reg s0 + 16 = BitVec.ofNat 64 (FORBIDDEN_ADDR + (offset + 16)) := by
    rw [base, ← Nat.add_assoc, BitVec.ofNat_add _ 16]
    rfl
  have found := @Translated.user_data s .store (offset + 16) translated config.updates user (by simp) inside
  have even : (BitVec.ofNat 64 (FORBIDDEN_ADDR + (offset + 16))).toNat % 8 = 0 := ofNat_aligned (by omega)
  rw [← address] at found even
  have done := @State.effect_sd s config.updates t1 s0 16 _ even found
  exact user_step translated user here done

theorem round_done (filling : Filling memory regs k s) (few : k < 16)
    (placed : Placed config width userText s.pc round) :
    ∃ after, State.Reaches config s after ∧ Filling memory regs (k + 1) after ∧
      after.pc = s.pc + BitVec.ofNat 64 (blockSize width round) := by
  obtain ⟨load, store, add, -⟩ := placed
  have value : s.regs t1 = regs t1 := filling.others t1 (by decide) (by decide)
  have held : ∀ table ∈ initTables, table.Held (filled memory (regs t1) (k + 1)) := by
    rw [← filled_succ, ← filling.stores]
    exact held_storeWord (by simp only [FORBIDDEN_ADDR]; omega) _ filling.translated.tables
  let loaded := (s.set t0 (word s.memory (FORBIDDEN_ADDR + 32 * k))).advance (width (.ld t0 0 s0))
  have loads : s.step config = loaded :=
    load_done filling.translated filling.user filling.base (by omega) (by omega) load
  have translated : Translated loaded := filling.translated.moved _ _ filling.translated.tables
  have base : loaded.reg s0 = BitVec.ofNat 64 (FORBIDDEN_ADDR + 32 * k) := filling.base
  let stored := State.advance
    { loaded with memory := storeWord loaded.memory (FORBIDDEN_ADDR + 32 * k + 16) (loaded.reg t1) }
    (width (.sd t1 16 s0))
  have stores : loaded.step config = stored :=
    store_done translated filling.user base (by omega) (by omega) store
  have memory_stored : stored.memory = filled memory (regs t1) (k + 1) := by
    have same : stored.memory = storeWord s.memory (FORBIDDEN_ADDR + 32 * k + 16) (s.regs t1) := rfl
    rw [same, filling.stores, value, filled_succ]
  have translated : Translated stored := translated.moved _ _ (memory_stored ▸ held)
  let added := (stored.set s0 (stored.reg s0 + 32)).advance (width (.addi s0 s0 32))
  have adds : stored.step config = added := user_step translated filling.user add rfl
  refine ⟨added, State.Reaches.trans ⟨1, loads⟩ (State.Reaches.trans ⟨1, stores⟩ ⟨1, adds⟩), ?_, ?_⟩
  · refine ⟨translated.moved _ _ (memory_stored ▸ held), filling.user, ?_, ?_, ?_, memory_stored⟩
    · have next : added.reg s0 = stored.reg s0 + 32 := by
        simp [added, State.reg, State.advance, State.set, s0]
      have sum : FORBIDDEN_ADDR + 32 * (k + 1) = FORBIDDEN_ADDR + 32 * k + 32 := rfl
      rw [next, sum, BitVec.ofNat_add _ 32, ← filling.base]
      rfl
    · intro r notBase notLoaded
      have kept : added.regs r = s.regs r := by
        simp [added, stored, loaded, State.advance, State.set, notBase, notLoaded]
      exact kept.trans (filling.others r notBase notLoaded)
    · intro _
      have kept : added.regs t0 = word s.memory (FORBIDDEN_ADDR + 32 * k) := by
        simp [added, stored, loaded, State.advance, State.set, s0, t0]
      rw [kept, filling.stores, word_filled, Nat.add_sub_cancel]
  · simp only [added, stored, loaded, State.advance, State.set, blockSize, round, List.map_cons, List.map_nil,
      List.sum_cons, List.sum_nil, Nat.add_zero, BitVec.ofNat_add, BitVec.add_assoc]

/-! ## All rounds -/

theorem rounds_done {n : Nat} (filling : Filling memory regs k s) (few : k + n ≤ 16)
    (placed : Placed config width userText s.pc (List.replicate n round).flatten) :
    ∃ after, State.Reaches config s after ∧ Filling memory regs (k + n) after ∧
      after.pc = s.pc + BitVec.ofNat 64 (blockSize width (List.replicate n round).flatten) ∧
      ∀ j, k < j → j ≤ k + n → ∃ middle, State.Reaches config s middle ∧
        State.Reaches config middle after ∧ Filling memory regs j middle := by
  induction n generalizing k s with
  | zero => exact ⟨s, ⟨0, rfl⟩, filling, by simp [blockSize], fun j later within => by omega⟩
  | succ n ih =>
      rw [List.replicate_succ, List.flatten_cons] at placed ⊢
      obtain ⟨here, later⟩ := Placed.append placed
      obtain ⟨middle, first, filling, pc⟩ := round_done filling (by omega) here
      rw [← pc] at later
      obtain ⟨after, rest, last, pc', visited⟩ := ih filling (by omega) later
      refine ⟨after, first.trans rest, ?_, ?_, fun j past within => ?_⟩
      · rw [← Nat.add_assoc, Nat.add_right_comm]
        exact last
      · rw [pc', pc, blockSize, blockSize, blockSize, List.map_append, List.sum_append, BitVec.ofNat_add,
          BitVec.add_assoc]
      · rcases Nat.eq_or_lt_of_le (Nat.succ_le_of_lt past) with rfl | beyond
        · exact ⟨middle, first, rest, filling⟩
        · obtain ⟨state, toState, onward, filling⟩ := visited j beyond (by omega)
          exact ⟨state, first.trans toState, onward, filling⟩

/-- The pointer to the page is set up. -/
theorem filling_of_entry (entry : UserEntry symbols s after)
    (here : userText after.pc ∧ config.code after.pc.toNat =
      some (.li s0 (BitVec.ofNat 64 FORBIDDEN_ADDR), width (.li s0 (BitVec.ofNat 64 FORBIDDEN_ADDR)))) :
    ∃ first, State.Reaches config after first ∧ Filling after.memory after.regs 0 first ∧
      first.pc = after.pc + BitVec.ofNat 64 (width (.li s0 (BitVec.ofNat 64 FORBIDDEN_ADDR))) := by
  have stepped := @user_step config width after _ _ entry.translated entry.mode here rfl
  refine ⟨_, ⟨1, stepped⟩, ⟨?_, entry.mode, ?_, ?_, by simp, (filled_zero _ _).symm⟩, rfl⟩
  · exact entry.translated.moved _ _ entry.translated.tables
  · simp [State.reg, State.advance, State.set, s0]
  · intro r notBase _
    simp [State.advance, State.set, notBase]

/-- The boot image with this code behind it. -/
def exampleMdsConfig : Config where
  updates := false
  code := fun addr => (exampleConfig.code addr).or ((laid exampleWidth u_code init_uarch).lookup addr)

theorem exampleMdsConfig_loaded : Loaded exampleMdsConfig exampleWidth exampleSymbols := by
  apply exampleConfig_loaded.mono
  intro paddr found here
  simp only [exampleMdsConfig, here, Option.some_or]

end PhantomTrails.Init
