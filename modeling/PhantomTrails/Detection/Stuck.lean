import PhantomTrails.Foundation.TrailingRun
import PhantomTrails.Detection.Loop

namespace PhantomTrails

open Foundation

/-! # The stuck detector

`Simulator::step` reports a core that retires the same instruction over and
over.  Two instructions can retire in a cycle, and the counter is kept for the
first port.
-/

/-- The instructions that retire in the cycle, in program order. -/
def Top.committed (top : Top) : List UInt64 :=
  (if top.committing0 then [top.committingPc] else []) ++
    if top.committing1 then [top.committingPc2] else []

/-- The counters of a fresh simulator after some cycles. -/
def Counters.after (cycles : Nat → Top) : Nat → Counters
  | 0 => {}
  | now + 1 => ((after cycles now).step (cycles now)).2

namespace Stuck

variable {cycles : Nat → Top} {now : Nat} {sim : Counters} {top : Top}

/-- `step` returns true in the cycle. -/
def Reported (cycles : Nat → Top) (now : Nat) : Prop :=
  ((Counters.after cycles now).step (cycles now)).1 = true

def retiredBefore (cycles : Nat → Top) : Nat → List UInt64
  | 0 => []
  | now + 1 => retiredBefore cycles now ++ (cycles now).committed

/-- The last eleven retired instructions have the same pc, after the first or
the second instruction of the cycle. -/
def Looping (cycles : Nat → Top) (now : Nat) : Prop :=
  (cycles now).committing0 = true ∧
      EndsEqual 11 (retiredBefore cycles now ++ [(cycles now).committingPc]) ∨
    (cycles now).committing1 = true ∧ EndsEqual 11 (retiredBefore cycles now ++ (cycles now).committed)

/-- What the counter is kept for: the first port, and the zero that
`last_retired_pc` starts with. -/
def watchedBefore (cycles : Nat → Top) : Nat → List UInt64
  | 0 => [0]
  | now + 1 => watchedBefore cycles now ++
      if (cycles now).committing0 then [(cycles now).committingPc] else []

def WatchedLooping (cycles : Nat → Top) (now : Nat) : Prop :=
  (cycles now).committing0 = true ∧
    EndsEqual 11 (watchedBefore cycles now ++ [(cycles now).committingPc])

instance : Decidable (Reported cycles now) := inferInstanceAs (Decidable (_ = true))

instance : Decidable (Looping cycles now) := inferInstanceAs (Decidable (_ ∨ _))

instance : Decidable (WatchedLooping cycles now) := inferInstanceAs (Decidable (_ ∧ _))

/-- Until one of them ends in eleven equal instructions, the first port and
the two ports together do so in the same cycle. -/
def PortsAgree (cycles : Nat → Top) : Prop :=
  ∀ now, (∀ earlier < now, ¬ WatchedLooping cycles earlier ∧ ¬ Looping cycles earlier) →
    (WatchedLooping cycles now ↔ Looping cycles now)

/-- The counter is one short of the run that the watched instructions end in. -/
structure Counted (sim : Counters) (watched : List UInt64) : Prop where
  run : TrailingRun watched sim.last_retired_pc (sim.n_same_inst.toNat + 1)
  few : sim.n_same_inst.toNat < 10

theorem counted_fresh : Counted {} [0] := ⟨⟨[], rfl, by simp⟩, by decide⟩

theorem step_of_silent (sim : Counters) (silent : top.committing0 = false) :
    (sim.step top).1 = false ∧ (sim.step top).2.n_same_inst = sim.n_same_inst ∧
      (sim.step top).2.last_retired_pc = sim.last_retired_pc := by
  cases second : top.committing1 <;> simp [Counters.step, silent, second, Counters.retire]

theorem step_of_commit (sim : Counters) (commits : top.committing0 = true) :
    ((sim.step top).1 = true ↔
        ((sim.retire top.committingPc).countSame top.committingPc).n_same_inst ≥ 10) ∧
      (sim.step top).2.n_same_inst =
        ((sim.retire top.committingPc).countSame top.committingPc).n_same_inst ∧
      (sim.step top).2.last_retired_pc =
        ((sim.retire top.committingPc).countSame top.committingPc).last_retired_pc := by
  simp only [Counters.step, commits, if_true, true_and]
  generalize (sim.retire top.committingPc).countSame top.committingPc = counted
  split
  · simp_all
  · rename_i quiet
    cases top.committing1 <;> exact ⟨by simpa using quiet, rfl, rfl⟩

/-- One commit on the first port extends the run or begins a new one. -/
theorem countSame_run {watched : List UInt64} (counted : Counted sim watched) (pc : UInt64) :
    ((sim.retire pc).countSame pc).last_retired_pc = pc ∧
      TrailingRun (watched ++ [pc]) pc (((sim.retire pc).countSame pc).n_same_inst.toNat + 1) := by
  obtain ⟨run, few⟩ := counted
  rw [Counters.countSame]
  split
  · rename_i same
    have again : pc = sim.last_retired_pc := same
    have counter : (sim.n_same_inst + 1).toNat = sim.n_same_inst.toNat + 1 := by
      simp only [UInt64.toNat_add, UInt64.reduceToNat]
      omega
    refine ⟨again.symm, ?_⟩
    rw [← again] at run
    simpa [Counters.retire, counter] using run.same
  · rename_i differs
    exact ⟨rfl, run.change differs⟩

theorem reported_iff {watched : List UInt64} (counted : Counted sim watched) :
    (sim.step top).1 = true ↔
      top.committing0 = true ∧ EndsEqual 11 (watched ++ [top.committingPc]) := by
  cases commits : top.committing0 with
  | false => simp [(step_of_silent sim commits).1]
  | true =>
      have run := (countSame_run counted top.committingPc).2
      rw [(step_of_commit sim commits).1, run.endsEqual_iff (by omega), ge_iff_le, UInt64.le_iff_toNat_le]
      simp

theorem counted_step {watched : List UInt64} (counted : Counted sim watched)
    (quiet : (sim.step top).1 = false) :
    Counted (sim.step top).2 (watched ++ if top.committing0 then [top.committingPc] else []) := by
  cases commits : top.committing0 with
  | false =>
      obtain ⟨-, counter, pc⟩ := step_of_silent sim commits
      rw [if_neg Bool.false_ne_true, List.append_nil]
      exact ⟨by rw [pc, counter]; exact counted.run, by rw [counter]; exact counted.few⟩
  | true =>
      obtain ⟨reports, counter, pc⟩ := step_of_commit sim commits
      obtain ⟨same, run⟩ := countSame_run counted top.committingPc
      rw [if_pos rfl]
      refine ⟨?_, ?_⟩
      · rw [pc, counter, same]
        exact run
      · rw [quiet] at reports
        rw [counter]
        simpa [UInt64.lt_iff_toNat_lt] using reports

theorem counted_after (quiet : ∀ earlier < now, ¬ Reported cycles earlier) :
    Counted (Counters.after cycles now) (watchedBefore cycles now) := by
  induction now with
  | zero => exact counted_fresh
  | succ now ih =>
      apply counted_step (ih fun earlier before => quiet earlier (Nat.lt_succ_of_lt before))
      exact Bool.eq_false_iff.mpr (quiet now (Nat.lt_succ_self now))

/-- The report comes with the first loop of the first port. -/
theorem first_reported_iff :
    IsFirst (Reported cycles) now ↔ IsFirst (WatchedLooping cycles) now :=
  IsFirst.congr fun _ quiet => reported_iff (counted_after quiet)

/-- A one-instruction loop is reported in the cycle in which it shows, and
nothing else is, exactly when the first port shows the first loop by itself:
the detector does not see the second one. -/
theorem reported_looping_iff (cycles : Nat → Top) :
    (∀ now, IsFirst (Reported cycles) now ↔ IsFirst (Looping cycles) now) ↔ PortsAgree cycles := by
  simp only [first_reported_iff]
  exact isFirst_iff_iff

/-- With one instruction per cycle, the first not at address zero, nothing is
missed. -/
theorem portsAgree_of_firstPort (single : ∀ now, (cycles now).committing1 = false)
    (first : ∀ now, (retiredBefore cycles now).head? ≠ some 0) : PortsAgree cycles := by
  have watched : ∀ now, watchedBefore cycles now = 0 :: retiredBefore cycles now := by
    intro now
    induction now with
    | zero => rfl
    | succ now ih => simp [watchedBefore, retiredBefore, ih, Top.committed, single now]
  intro now _
  have next : (cycles now).committing0 = true →
      retiredBefore cycles (now + 1) = retiredBefore cycles now ++ [(cycles now).committingPc] := by
    intro commits
    simp [retiredBefore, Top.committed, commits, single now]
  simp only [WatchedLooping, Looping, single now, watched, Bool.false_eq_true, false_and, or_false,
    List.cons_append]
  apply and_congr_right
  intro commits
  have begins := first (now + 1)
  rw [next commits] at begins
  exact endsEqual_cons (by omega) begins

/-- A loop of two instructions that retire together. -/
def twoInstructions : Top :=
  { committing0 := true, committingPc := 0x80000000, committing1 := true, committingPc2 := 0x80000004 }

/-- The detector reports it as one instruction after eleven turns. -/
theorem reported_twoInstructions :
    IsFirst (Reported fun _ => twoInstructions) 10 ∧ ¬ Looping (fun _ => twoInstructions) 10 := by
  decide

end Stuck

end PhantomTrails
