import PhantomTrails.Foundation.UserMode
import PhantomTrails.Init.Boot

namespace PhantomTrails.Init

open Foundation Foundation.Sv39 Foundation.Hart Relation

/-! # The test case runs

What the boot code leaves behind holds for as long as the core runs, whatever
test case follows it: the program stays in user mode and in its pages, or its
first trap parks the core for good.
-/

variable {config : Config} {width : Instr → Nat} {symbols : Symbols} {s after final : State}

/-- The state of the core while the test case runs. -/
structure Running (symbols : Symbols) (s : State) : Prop where
  mode : s.mode = .user
  satp : s.satp = set_page_table
  mtvec : s.mtvec = symbols.trap_handler
  undelegated : s.medeleg = 0
  tables : ∀ table ∈ initTables, table.Held s.memory

theorem UserEntry.running (entered : UserEntry symbols s final) : Running symbols final :=
  ⟨entered.mode, entered.translated.satp, entered.mtvec, entered.undelegated, entered.translated.tables⟩

theorem Running.confined (running : Running symbols s) : Confined initTables 0x80002000 s where
  sv39 := by
    rw [running.satp]
    decide
  root := by
    rw [running.satp]
    decide
  held := running.tables

/-- Every access of the test case is to its own pages. -/
theorem Running.access (running : Running symbols s) {updates : Bool} {va : Word} {access : Access}
    {translation : Translation} (done : s.access updates va access = .ok translation) :
    translation.paddr / 4096 ∈ userPages access :=
  (running.confined.access initTables_isolate running.mode done).2.1

theorem Running.spared (running : Running symbols s) (spared : Spared userPages s after) :
    Running symbols after := by
  have tables := (spared.confined initTables_isolate running.confined).held
  rw [spared.same] at tables ⊢
  exact ⟨running.mode, running.satp, running.mtvec, running.undelegated, tables⟩

/-- One instruction of the test case. -/
theorem Running.step (loaded : Loaded config width symbols) (running : Running symbols s)
    (step : SystemStep config s after) :
    (Running symbols after ∨ Parked symbols after) ∧
      ∀ cell, cell / 4096 ∉ userPages .store → after.memory cell = s.memory cell := by
  cases step with
  | code other => exact absurd running.mode other
  | program _ user step =>
      obtain ⟨spared, kept, ⟨pc, regs, rfl⟩ | ⟨exception, rfl⟩⟩ :=
        step.confined initTables_isolate running.confined user
      · have still := running.spared kept
        exact ⟨.inl ⟨still.mode, still.satp, still.mtvec, still.undelegated, still.tables⟩, kept.outside⟩
      · have still := running.spared kept
        have parked := parked_of_trap loaded still.mtvec (.inl still.undelegated) exception
        refine ⟨.inr parked, fun cell apart => ?_⟩
        rw [State.trap_memory]
        exact kept.outside cell apart

theorem Parked.systemStep (loaded : Loaded config width symbols) (parked : Parked symbols s)
    (step : SystemStep config s after) : Parked symbols after ∧ after.memory = s.memory := by
  cases step with
  | program _ user => simp [parked.mode] at user
  | code other =>
      refine ⟨parked.step loaded, ?_⟩
      have here := loaded.handler.1.2
      rw [← parked.pc] at here
      rw [State.step_of_exception (State.machine_fetches parked.mode) here rfl, State.trap_memory]

/-- The trap handler is never left, and the memory is as the test case left it. -/
theorem Parked.forever (loaded : Loaded config width symbols) (parked : Parked symbols s)
    (steps : ReflTransGen (SystemStep config) s final) :
    Parked symbols final ∧ final.memory = s.memory := by
  induction steps with
  | refl => exact ⟨parked, rfl⟩
  | tail _ step ih =>
      obtain ⟨still, memory⟩ := ih.1.systemStep loaded step
      exact ⟨still, memory.trans ih.2⟩

theorem Running.run (loaded : Loaded config width symbols) (running : Running symbols s)
    (steps : ReflTransGen (SystemStep config) s final) :
    (Running symbols final ∨ Parked symbols final) ∧
      ∀ cell, cell / 4096 ∉ userPages .store → final.memory cell = s.memory cell := by
  induction steps with
  | refl => exact ⟨.inl running, fun _ _ => rfl⟩
  | tail _ step ih =>
      obtain ⟨now, kept⟩ := ih
      rcases now with running | parked
      · obtain ⟨next, same⟩ := running.step loaded step
        exact ⟨next, fun cell apart => (same cell apart).trans (kept cell apart)⟩
      · obtain ⟨still, memory⟩ := parked.systemStep loaded step
        exact ⟨.inr still, fun cell apart => (congrFun memory cell).trans (kept cell apart)⟩

end PhantomTrails.Init
