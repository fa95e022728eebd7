import Mathlib.Logic.Relation
import PhantomTrails.Foundation.Hart

namespace Foundation.Hart

open Sv39

/-! # Programs in user mode

What one instruction can do in user mode, whatever the program is: it reads and
writes the memory through the translation, writes registers, jumps, and may
trap.  Tables that isolate a user confine every such program to the pages of
the user, and leave the control registers alone until the first trap.
-/

/-- An access to some bytes of one page, with what a store puts there. -/
structure PageAccess where
  type : Access
  va : Word
  bytes : List UInt8
  inside : va.toNat % 4096 + bytes.length ≤ 4096

namespace State

/-- An access that faults leaves the memory alone. -/
def perform (updates : Bool) (s : State) (access : PageAccess) : State :=
  match s.access updates access.va access.type with
  | .error _ => s
  | .ok translation =>
      if access.type = .store then
        { s with
          memory := translation.memory.copy translation.paddr access.bytes.length (access.bytes.getD · 0) }
      else { s with memory := translation.memory }

/-- The accesses of one instruction, one after the other. -/
def touch (updates : Bool) (s : State) (accesses : List PageAccess) : State :=
  accesses.foldl (perform updates) s

end State

/-- One instruction of a program in user mode. -/
inductive UserStep (updates : Bool) (s : State) : State → Prop where
  | retires (accesses : List PageAccess) (pc : Word) (regs : Reg → Word) :
      UserStep updates s { s.touch updates accesses with pc, regs }
  | traps (accesses : List PageAccess) (exception : Exception) :
      UserStep updates s ((s.touch updates accesses).trap exception)

variable {s after : State} {updates : Bool} {va : Word} {translation : Translation}

/-! ## The hart's own instructions -/

def fetchAt (va : Word) : PageAccess := ⟨.fetch, va, [], by simp; omega⟩

def loadAt (va : Word) : PageAccess := ⟨.load, va, [], by simp; omega⟩

def storeAt (va : Word) (aligned : va.toNat % 8 = 0) (value : Word) : PageAccess :=
  ⟨.store, va, (List.range 8).map (byteOf value), by simp; omega⟩

theorem perform_fetchAt (found : s.access updates va .fetch = .ok translation) :
    s.perform updates (fetchAt va) = { s with memory := translation.memory } := by
  have same : s.access updates (fetchAt va).va (fetchAt va).type = .ok translation := found
  rw [State.perform, same]
  rfl

theorem perform_loadAt (found : s.access updates va .load = .ok translation) :
    s.perform updates (loadAt va) = { s with memory := translation.memory } := by
  have same : s.access updates (loadAt va).va (loadAt va).type = .ok translation := found
  rw [State.perform, same]
  rfl

theorem perform_storeAt (aligned : va.toNat % 8 = 0) (value : Word)
    (found : s.access updates va .store = .ok translation) :
    s.perform updates (storeAt va aligned value) =
      { s with memory := storeWord translation.memory translation.paddr value } := by
  have same : s.access updates (storeAt va aligned value).va (storeAt va aligned value).type =
      .ok translation := found
  have bytes : (storeAt va aligned value).bytes = (List.range 8).map (byteOf value) := rfl
  rw [State.perform, same, bytes]
  simp only [storeWord, storeAt, if_true, List.length_map, List.length_range]
  congr 1
  funext cell
  simp only [Store.copy]
  split
  · rename_i within
    have lane : cell - translation.paddr < 8 := by omega
    simp [List.getD_eq_getElem?_getD, lane]
  · rfl

theorem csrUpdate_user (user : s.mode = .user) (csr : Csr) (value : Word) :
    s.csrUpdate csr value = .error State.illegal := by
  have refused : s.mayAccess csr = false := by
    cases csr <;> simp [State.mayAccess, user, State.csrOwner]
  simp [State.csrUpdate, refused]

/-- What an instruction does in user mode to a state whose fetch is done. -/
theorem execute_user (user : s.mode = .user) (size : Nat) (instr : Instr) :
    (∃ exception, s.execute updates size instr = .error exception) ∨
      ∃ accesses pc regs,
        s.execute updates size instr = .ok { s.touch updates accesses with pc, regs } := by
  cases instr with
  | li | lla | addi | auipc => exact .inr ⟨[], _, _, rfl⟩
  | nop | jr => exact .inr ⟨[], _, s.regs, rfl⟩
  | csrw | csrs | csrc =>
      exact .inl (State.execute_of_error (by simp) user (csrUpdate_user user _ _))
  | mret | sret | unimp => exact .inl (State.execute_of_error (by simp) user rfl)
  | ld rd offset base =>
      rcases State.effect_ld_cases updates rd offset base with ⟨exception, raised⟩ | ⟨translation, aligned, found⟩
      · exact .inl (State.execute_of_error (by simp) user raised)
      · have done := @State.execute_of_effect s _ _ size _ (@State.effect_ld s _ rd _ _ _ aligned found)
        refine .inr ⟨[loadAt (s.reg base + offset)], s.pc + BitVec.ofNat 64 size,
          Function.update s.regs rd (word translation.memory translation.paddr),
          done.trans (congrArg Except.ok ?_)⟩
        rw [State.touch, List.foldl_cons, List.foldl_nil, perform_loadAt found]
        rfl
  | sd rs offset base =>
      rcases State.effect_sd_cases updates rs offset base with ⟨exception, raised⟩ | ⟨translation, aligned, found⟩
      · exact .inl (State.execute_of_error (by simp) user raised)
      · have done := @State.execute_of_effect s _ _ size _ (@State.effect_sd s _ rs _ _ _ aligned found)
        refine .inr ⟨[storeAt (s.reg base + offset) aligned (s.reg rs)], s.pc + BitVec.ofNat 64 size,
          s.regs, done.trans (congrArg Except.ok ?_)⟩
        rw [State.touch, List.foldl_cons, List.foldl_nil, perform_storeAt aligned (s.reg rs) found]
        rfl

/-- In user mode the hart does what some program could do. -/
theorem userStep_step (config : Config) (user : s.mode = .user) :
    UserStep config.updates s (s.step config) := by
  cases found : s.access config.updates s.pc .fetch with
  | error exception =>
      have faulted : s.step config = s.trap exception := by simp [State.step, State.fetch, found]
      exact faulted ▸ .traps [] exception
  | ok translation =>
      have fetched := perform_fetchAt found
      cases here : config.code translation.paddr with
      | none =>
          have unknown : s.step config = s.trap State.illegal := by
            simp [State.step, State.fetch, found, here]
          exact unknown ▸ .traps [] State.illegal
      | some code =>
          obtain ⟨instr, size⟩ := code
          let loaded : State := { s with memory := translation.memory }
          rcases @execute_user loaded config.updates user size instr with
            ⟨exception, raised⟩ | ⟨accesses, pc, regs, done⟩
          · have trapped : s.step config = (s.touch config.updates [fetchAt s.pc]).trap exception := by
              simp only [State.step, State.fetch, found, here, State.touch, List.foldl_cons, fetched,
                List.foldl_nil]
              rw [raised]
            exact trapped ▸ .traps _ exception
          · have retired : s.step config =
                { s.touch config.updates (fetchAt s.pc :: accesses) with pc, regs } := by
              simp only [State.step, State.fetch, found, here, State.touch, List.foldl_cons, fetched]
              rw [done]
              rfl
            exact retired ▸ .retires _ pc regs

/-! ## Confinement -/

/-- The hart translates through tables that isolate the user. -/
structure Confined (tables : List Sv39.Table) (root : Nat) (s : State) : Prop where
  sv39 : s.satp.extractLsb' 60 4 = 8
  root : (s.satp.extractLsb' 0 44).toNat * 4096 = root
  held : ∀ table ∈ tables, table.Held s.memory

variable {tables : List Sv39.Table} {root : Nat} {pages : Access → List Nat}

/-- An address keeps its place in the page. -/
theorem translate_offset {env : Env} {memory : Store UInt8} {access : Access}
    (translated : Sv39.translate env memory va access = some translation) :
    translation.paddr % 4096 = va.toNat % 4096 := by
  have offset : ∀ leaf : Leaf, leaf.paddr va % 4096 = va.toNat % 4096 := by
    intro leaf
    rw [Leaf.paddr, Nat.mul_add_mod_self_right, Nat.mod_mul_right_mod]
  simp only [Sv39.translate] at translated
  split at translated
  · cases translated
  · split at translated
    · cases translated
    · rename_i leaf found
      split at translated
      · split at translated
        · split at translated
          · cases translated
            exact offset leaf
          · cases translated
        · cases translated
          exact offset leaf
      · cases translated

theorem Confined.access (isolates : Isolates tables root pages) (confined : Confined tables root s)
    (user : s.mode = .user) {access : Access} (done : s.access updates va access = .ok translation) :
    translation.memory = s.memory ∧ translation.paddr / 4096 ∈ pages access ∧
      translation.paddr % 4096 = va.toNat % 4096 := by
  have lower : s.mode ≠ .machine := by simp [user]
  simp only [State.access, State.translate_of_sv39 lower confined.sv39] at done
  cases translated : Sv39.translate (s.env updates confined.sv39) s.memory va access with
  | none => simp [translated] at done
  | some found =>
      simp only [translated] at done
      split at done
      · cases done
        have reached : (s.env updates confined.sv39).root = root := confined.root
        have privilege : (s.env updates confined.sv39).privilege = .user := by
          simp only [State.env, user, State.privilegeOf]
        rw [← reached] at isolates
        obtain ⟨memory, page⟩ := isolates.translate_user confined.held privilege translated
        exact ⟨memory, page, translate_offset translated⟩
      · cases done

/-- What a user's accesses leave: the tables, and all of the memory that the
user may not store to. -/
structure Spared (pages : Access → List Nat) (s after : State) : Prop where
  same : after = { s with memory := after.memory }
  outside : ∀ cell, cell / 4096 ∉ pages .store → after.memory cell = s.memory cell

theorem Spared.trans {middle : State} (first : Spared pages s middle) (second : Spared pages middle after) :
    Spared pages s after := by
  refine ⟨?_, fun cell apart => (second.outside cell apart).trans (first.outside cell apart)⟩
  have same := second.same
  rw [first.same] at same
  exact same

theorem Spared.confined (isolates : Isolates tables root pages) (spared : Spared pages s after)
    (confined : Confined tables root s) : Confined tables root after := by
  refine ⟨?_, ?_, fun table member => (confined.held table member).of_same fun cell lower upper => ?_⟩
  · rw [spared.same]
    exact confined.sv39
  · rw [spared.same]
    exact confined.root
  · have reached : (s.env false confined.sv39).root = root := confined.root
    rw [← reached] at isolates
    exact spared.outside cell (isolates.table_page member lower upper)

theorem perform_spared (isolates : Isolates tables root pages) (confined : Confined tables root s)
    (user : s.mode = .user) (access : PageAccess) : Spared pages s (s.perform updates access) := by
  cases done : s.access updates access.va access.type with
  | error exception =>
      simp only [State.perform, done]
      exact ⟨rfl, fun _ _ => rfl⟩
  | ok translation =>
      obtain ⟨memory, page, offset⟩ := confined.access isolates user done
      simp only [State.perform, done]
      split
      · rename_i store
        rw [store] at page
        refine ⟨rfl, fun cell apart => ?_⟩
        have inside := access.inside
        -- The bytes of the access lie in the page that its first one lies in.
        have outside : cell < translation.paddr ∨ translation.paddr + access.bytes.length ≤ cell := by
          by_contra within
          have shared : cell / 4096 = translation.paddr / 4096 := by omega
          exact apart (shared ▸ page)
        have kept : translation.memory.copy translation.paddr access.bytes.length (access.bytes.getD · 0) cell =
            translation.memory cell := Store.copy_outside outside
        exact kept.trans (congrFun memory cell)
      · exact ⟨rfl, fun cell _ => congrFun memory cell⟩

theorem touch_spared (isolates : Isolates tables root pages) (confined : Confined tables root s)
    (user : s.mode = .user) (accesses : List PageAccess) : Spared pages s (s.touch updates accesses) := by
  induction accesses generalizing s with
  | nil => exact ⟨rfl, fun _ _ => rfl⟩
  | cons access rest ih =>
      have first := @perform_spared s updates _ _ _ isolates confined user access
      have still : (s.perform updates access).mode = .user := by
        rw [first.same]
        exact user
      exact first.trans (ih (first.confined isolates confined) still)

/-- Whatever a program does in user mode, it stays there with the control
registers as they are, or it traps. -/
theorem UserStep.confined (isolates : Isolates tables root pages) (confined : Confined tables root s)
    (user : s.mode = .user) (step : UserStep updates s after) :
    ∃ spared, Spared pages s spared ∧
      ((∃ pc regs, after = { spared with pc, regs }) ∨ ∃ exception, after = spared.trap exception) := by
  cases step with
  | retires accesses pc regs =>
      exact ⟨_, touch_spared isolates confined user accesses, .inl ⟨pc, regs, rfl⟩⟩
  | traps accesses exception =>
      exact ⟨_, touch_spared isolates confined user accesses, .inr ⟨exception, rfl⟩⟩

/-! ## The hart with an unknown program -/

/-- One step of a hart that runs its own code in the other modes. -/
inductive SystemStep (config : Config) (s : State) : State → Prop where
  | program (after : State) (user : s.mode = .user) (step : UserStep config.updates s after) :
      SystemStep config s after
  | code (other : s.mode ≠ .user) : SystemStep config s (s.step config)

/-- The code that lies in the memory is one such program. -/
theorem systemStep_step (config : Config) (s : State) : SystemStep config s (s.step config) := by
  by_cases user : s.mode = .user
  · exact .program _ user (userStep_step config user)
  · exact .code user

theorem reaches_systemSteps {config : Config} {final : State} (reached : State.Reaches config s final) :
    Relation.ReflTransGen (SystemStep config) s final := by
  obtain ⟨steps, rfl⟩ := reached
  induction steps with
  | zero => exact .refl
  | succ steps ih =>
      rw [Function.iterate_succ_apply']
      exact ih.tail (systemStep_step config _)

end Foundation.Hart
