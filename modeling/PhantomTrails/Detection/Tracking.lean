import PhantomTrails.Detection.Loop
import PhantomTrails.Detection.Sinks

namespace PhantomTrails

/-! # The tainting instruction is tracked

From the cycle after the taint on, `updateTaintInstr` looks at the slot that
`recordTaint` has noted.  What it finds there depends on what the core has done
with the slot since.
-/

namespace RobState

/-- The instructions of the head row, oldest first. -/
def headRow (rob : RobState) : List Slot :=
  ((List.finRange 2).filter fun j => (rob.entry rob.head j).valid).map fun j => (rob.head, j)

/-- The oldest instruction, with nothing to wait for. -/
def ReadyAtHead (rob : RobState) (slot : Slot) : Prop :=
  rob.headRow.head? = some slot ∧ (rob.entry slot.1 slot.2).busy = false ∧
    (rob.entry slot.1 slot.2).exception = false

instance {rob : RobState} {slot : Slot} : Decidable (rob.ReadyAtHead slot) :=
  inferInstanceAs (Decidable (_ ∧ _))

end RobState

/-- What stays the same as long as an instruction is in the ROB. -/
structure RobEntry.SameInstr (entry other : RobEntry) : Prop where
  pc : entry.pc = other.pc
  uopcode : entry.uopcode = other.uopcode
  dst : entry.dst = other.dst
  dst_type : entry.dst_type = other.dst_type

theorem RobEntry.SameInstr.refl (entry : RobEntry) : entry.SameInstr entry := ⟨rfl, rfl, rfl, rfl⟩

theorem RobEntry.SameInstr.trans {first second third : RobEntry} (same : first.SameInstr second)
    (again : second.SameInstr third) : first.SameInstr third :=
  ⟨same.pc.trans again.pc, same.uopcode.trans again.uopcode, same.dst.trans again.dst,
    same.dst_type.trans again.dst_type⟩

instance {entry other : RobEntry} : Decidable (entry.SameInstr other) :=
  decidable_of_iff (entry.pc = other.pc ∧ entry.uopcode = other.uopcode ∧ entry.dst = other.dst ∧
      entry.dst_type = other.dst_type)
    ⟨fun ⟨pc, uopcode, dst, dst_type⟩ => ⟨pc, uopcode, dst, dst_type⟩,
      fun same => ⟨same.pc, same.uopcode, same.dst, same.dst_type⟩⟩

/-- The slots that a cycle commits, which are the oldest of the head row. -/
def RobTop.committed (rob : RobTop) (count : Nat) : List Slot := (RobState.readFrom rob).headRow.take count

/-- What the core shows from the cycle of the taint on: the ROB, how many
instructions the cycle commits, and the slots that hold another instruction
than in the cycle before.  The fields about it are what the core guarantees. -/
structure RobRun where
  rob : Nat → RobTop
  commits : Nat → Nat
  allocated : Nat → Slot → Bool
  orderly : ∀ time, ∀ slot ∈ (rob time).committed (commits time),
    ((rob time).slot slot.1 slot.2).busy = false ∧ ((rob time).slot slot.1 slot.2).exception = false
  leaves : ∀ time, ∀ slot ∈ (rob time).committed (commits time),
    ((rob (time + 1)).slot slot.1 slot.2).valid = true → allocated (time + 1) slot = true
  stays : ∀ time slot, allocated (time + 1) slot = false →
    ((rob (time + 1)).slot slot.1 slot.2).valid = true →
      ((rob time).slot slot.1 slot.2).valid = true ∧
        ((RobState.readFrom (rob (time + 1))).entry slot.1 slot.2).SameInstr
          ((RobState.readFrom (rob time)).entry slot.1 slot.2)

/-- A run with what the detection loop hands to `recordTaint`. -/
structure TaintRun extends RobRun where
  uninitialised : FlushInfo
  ticks : UInt64
  taintInfo : TaintInfo
  previouslyBusy : BusyMask

/-- The update sets the flag. -/
def CrashInfo.declares (crash : CrashInfo) (rob : RobTop) : Bool :=
  ({ crash with isTaintArchitectural := false }.updateTaintInstr rob).isTaintArchitectural

namespace TaintRun

/-- The record at the end of a cycle. -/
def crash (run : TaintRun) : Nat → CrashInfo
  | 0 => ({ flushInfo := run.uninitialised } : CrashInfo).recordTaint run.ticks (run.rob 0) run.taintInfo
      run.previouslyBusy
  | time + 1 => (run.crash time).updateTaintInstr (run.rob (time + 1))

def state (run : TaintRun) (time : Nat) : RobState := RobState.readFrom (run.rob time)

def committed (run : TaintRun) (time : Nat) : List Slot := (run.rob time).committed (run.commits time)

/-- The entry that is recorded, and the slot that is looked at from then on. -/
def instr (run : TaintRun) : RobEntry := (run.crash 0).taintInstr

def slot (run : TaintRun) : Slot := (run.instr.robIdx, run.instr.robBank)

end TaintRun

/-! ## What the update looks at -/

namespace RobState

variable {rob : RobState} {slot : Slot}

theorem headRow_head?_iff : rob.headRow.head? = some slot ↔
    slot = (rob.head, rob.getHeadBank) ∧ (rob.entry slot.1 slot.2).valid = true := by
  simp only [headRow, banks, getHeadBank]
  cases first : (rob.entry rob.head 0).valid <;> cases second : (rob.entry rob.head 1).valid
  · simp only [List.filter_cons, first, second, Bool.false_eq_true, if_false, List.filter_nil,
      List.map_nil, List.head?_nil, reduceCtorEq, false_iff]
    rintro ⟨rfl, valid⟩
    rw [second] at valid
    cases valid
  all_goals
    simp only [List.filter_cons, first, second, Bool.false_eq_true, if_false, if_true, List.filter_nil,
      List.map_cons, List.head?_cons, Option.some.injEq]
    constructor
    · rintro rfl
      simp [first, second]
    · rintro ⟨rfl, -⟩
      rfl

theorem readyAtHead_iff : rob.ReadyAtHead slot ↔ slot = (rob.head, rob.getHeadBank) ∧
    (rob.entry slot.1 slot.2).valid = true ∧ (rob.entry slot.1 slot.2).busy = false ∧
      (rob.entry slot.1 slot.2).exception = false := by
  rw [ReadyAtHead, headRow_head?_iff, and_assoc]

theorem valid_of_mem_headRow (member : slot ∈ rob.headRow) : (rob.entry slot.1 slot.2).valid = true := by
  obtain ⟨bank, kept, rfl⟩ := List.mem_map.mp member
  exact (List.mem_filter.mp kept).2

end RobState

theorem CrashInfo.declares_iff {crash : CrashInfo} {rob : RobTop} (found : crash.taintFound = true) :
    crash.declares rob = true ↔
      (RobState.readFrom rob).ReadyAtHead (crash.taintInstr.robIdx, crash.taintInstr.robBank) := by
  rw [RobState.readyAtHead_iff]
  simp only [declares, updateTaintInstr, found, if_true, RobState.isHead, Bool.false_or, Bool.and_eq_true,
    beq_iff_eq, Bool.not_eq_true', Prod.mk.injEq]
  tauto

theorem CrashInfo.updateTaintInstr_flag {crash : CrashInfo} {rob : RobTop} (found : crash.taintFound = true) :
    (crash.updateTaintInstr rob).isTaintArchitectural =
      (crash.isTaintArchitectural || crash.declares rob) := by
  simp only [declares, updateTaintInstr, found, if_true, Bool.false_or]

/-- The loop stops at the first cycle whose update sets the flag. -/
theorem detectTaint_stops_iff {state : LoopState} {busyInstructions : BusyMask}
    (found : state.crash.taintFound = true) (undecided : state.crash.isTaintArchitectural = false) :
    (∃ left, state.detectTaint busyInstructions = .error (.taintArchitectural, left)) ↔
      state.crash.declares state.top.rob = true := by
  have flag := @CrashInfo.updateTaintInstr_flag _ state.top.rob found
  rw [undecided, Bool.false_or] at flag
  simp only [LoopState.detectTaint, found, Bool.true_eq_false, if_false, flag]
  cases state.crash.declares state.top.rob <;> simp

namespace TaintRun

variable {run : TaintRun} {time : Nat}

theorem crash_tracks (run : TaintRun) (time : Nat) :
    (run.crash time).taintFound = true ∧ (run.crash time).taintInstr = run.instr := by
  induction time with
  | zero => exact ⟨rfl, rfl⟩
  | succ time ih =>
      have found := ih.1
      simp only [crash, CrashInfo.updateTaintInstr, found, if_true]
      exact ⟨trivial, ih.2⟩

theorem declares_iff : (run.crash time).declares (run.rob (time + 1)) = true ↔
    (run.state (time + 1)).ReadyAtHead run.slot := by
  obtain ⟨found, same⟩ := run.crash_tracks time
  rw [CrashInfo.declares_iff found, same]
  rfl

/-- The flag is set from the first cycle on that sees the slot ready at the
head; the cycle of the taint does not look. -/
theorem isTaintArchitectural_iff (run : TaintRun) (time : Nat) :
    (run.crash time).isTaintArchitectural = true ↔
      ∃ seen, 0 < seen ∧ seen ≤ time ∧ (run.state seen).ReadyAtHead run.slot := by
  induction time with
  | zero =>
      apply iff_of_false Bool.false_ne_true
      intro ⟨seen, later, now, _⟩
      omega
  | succ time ih =>
      rw [crash, CrashInfo.updateTaintInstr_flag (run.crash_tracks time).1, Bool.or_eq_true, ih,
        declares_iff]
      constructor
      · intro seen
        rcases seen with ⟨seen, later, before, ready⟩ | ready
        · exact ⟨seen, later, by omega, ready⟩
        · exact ⟨time + 1, by omega, Nat.le_refl _, ready⟩
      · intro ⟨seen, later, before, ready⟩
        by_cases now : seen = time + 1
        · exact .inr (now ▸ ready)
        · exact .inl ⟨seen, later, by omega, ready⟩

/-! ## Commits -/

/-- The instruction that is in the slot at the taint leaves the ROB by
committing. -/
structure LeavesByCommit (run : TaintRun) (last : Nat) : Prop where
  kept : ∀ time, 0 < time → time ≤ last → run.allocated time run.slot = false
  commits : run.slot ∈ run.committed last

theorem head?_of_committed {last : Nat} (commits : run.slot ∈ run.committed last) :
    (run.committed last).head? = (run.state last).headRow.head? := by
  have some : run.commits last ≠ 0 := by
    intro none
    simp [committed, RobTop.committed, none] at commits
  simp only [committed, RobTop.committed, List.head?_take, if_neg some]
  rfl

/-- An instruction that commits is ready, and at the head unless it is the
second of a pair. -/
theorem readyAtHead_of_committed {last : Nat} (commits : run.slot ∈ run.committed last) :
    (run.state last).ReadyAtHead run.slot ↔ (run.committed last).head? = some run.slot := by
  rw [head?_of_committed commits, RobState.ReadyAtHead]
  exact and_iff_left (run.orderly last run.slot commits)

/-- A taint that the core commits is recognised exactly if its instruction is
the first that its cycle commits, and not in the cycle of the taint; or it had
waited, ready at the head; or its slot shows another instruction there in the
next cycle. -/
theorem commit_recognised_iff (run : TaintRun) (last : Nat) (leaves : run.LeavesByCommit last) :
    (run.crash (last + 1)).isTaintArchitectural = true ↔
      (0 < last ∧ (run.committed last).head? = some run.slot) ∨
        (∃ time, 0 < time ∧ time < last ∧ (run.state time).ReadyAtHead run.slot) ∨
          run.allocated (last + 1) run.slot = true ∧ (run.state (last + 1)).ReadyAtHead run.slot := by
  rw [isTaintArchitectural_iff]
  constructor
  · intro ⟨seen, later, before, ready⟩
    rcases Nat.lt_trichotomy seen last with waiting | rfl | after
    · exact .inr (.inl ⟨seen, later, waiting, ready⟩)
    · exact .inl ⟨later, (readyAtHead_of_committed leaves.commits).mp ready⟩
    · have next : seen = last + 1 := by omega
      subst next
      have valid := (RobState.readyAtHead_iff.mp ready).2.1
      exact .inr (.inr ⟨run.leaves last run.slot leaves.commits valid, ready⟩)
  · intro condition
    rcases condition with ⟨later, first⟩ | ⟨seen, later, waiting, ready⟩ | ⟨-, ready⟩
    · exact ⟨last, later, by omega, (readyAtHead_of_committed leaves.commits).mpr first⟩
    · exact ⟨seen, later, by omega, ready⟩
    · exact ⟨last + 1, by omega, Nat.le_refl _, ready⟩

/-! ## Slots that change hands -/

/-- An instruction whose slot did not change hands was there at the taint. -/
theorem stays_from_taint {slot : Slot}
    (kept : ∀ earlier, 0 < earlier → earlier ≤ time → run.allocated earlier slot = false)
    (valid : ((run.state time).entry slot.1 slot.2).valid = true) :
    ((run.state 0).entry slot.1 slot.2).valid = true ∧
      ((run.state time).entry slot.1 slot.2).SameInstr ((run.state 0).entry slot.1 slot.2) := by
  induction time with
  | zero => exact ⟨valid, .refl _⟩
  | succ time ih =>
      obtain ⟨before, same⟩ := run.stays time slot (kept (time + 1) (by omega) (Nat.le_refl _)) valid
      obtain ⟨first, again⟩ := ih (fun earlier later upper => kept earlier later (by omega)) before
      exact ⟨first, same.trans again⟩

/-- What commits is the instruction that was in the slot at the taint. -/
theorem LeavesByCommit.sameInstr {last : Nat} (leaves : run.LeavesByCommit last) :
    ((run.state last).entry run.slot.1 run.slot.2).SameInstr
      ((run.state 0).entry run.slot.1 run.slot.2) := by
  have valid := RobState.valid_of_mem_headRow (List.mem_of_mem_take leaves.commits)
  exact (stays_from_taint leaves.kept valid).2

/-- The search settles on the slot: it is the only candidate, or among several
the last that names the doubleword and went un-busy, or the head if none did. -/
def Settles (run : TaintRun) (slot : Slot) : Prop :=
  (run.state 0).candidates run.taintInfo = [slot] ∨
    2 ≤ ((run.state 0).candidates run.taintInfo).length ∧
      ((run.state 0).LastUnbusied run.previouslyBusy (run.rob 0).getRobBusyMask run.taintInfo.addr slot ∨
        (run.state 0).NoneUnbusied run.previouslyBusy (run.rob 0).getRobBusyMask run.taintInfo.addr ∧
          slot = ((run.state 0).head, (run.state 0).getHeadBank))

/-- The slot that is looked at has not changed hands since the taint, and it
holds the instruction that is recorded, which writes the tainted register. -/
structure OwnInstr (run : TaintRun) (time : Nat) : Prop where
  kept : ∀ earlier, 0 < earlier → earlier ≤ time → run.allocated earlier run.slot = false
  writes : (run.state time).WritesByte run.taintInfo run.slot
  recorded : (run.state 0).entry run.slot.1 run.slot.2 = run.instr
  same : ((run.state time).entry run.slot.1 run.slot.2).SameInstr run.instr

theorem instr_eq (run : TaintRun) : run.instr =
    (run.state 0).getTaintingInstruction run.previouslyBusy (run.rob 0).getRobBusyMask
      run.taintInfo.addr := rfl

theorem slot_of_instr {slot : Slot} (same : run.instr = (run.state 0).entry slot.1 slot.2) :
    run.slot = slot := by
  rw [TaintRun.slot, same]
  rfl

/-- What the search settles on is recorded. -/
theorem Settles.recorded {slot : Slot} (settles : run.Settles slot) :
    run.instr = (run.state 0).entry slot.1 slot.2 := by
  have answer := run.instr_eq.trans RobState.getTaintingInstruction_of_candidates
  rcases settles with single | ⟨several, chosen⟩
  · simpa only [single] using answer
  · have suspect := RobState.suspect_eq_iff.mpr chosen
    rcases candidates : (run.state 0).candidates run.taintInfo with - | ⟨first, - | ⟨second, rest⟩⟩
    · simp [candidates] at several
    · simp [candidates] at several
    · simpa only [candidates, suspect] using answer

/-- A recorded entry that is valid is what the search settled on; without a
candidate a blank one is recorded. -/
theorem settles_of_valid (valid : run.instr.valid = true) : run.Settles run.slot := by
  have answer := run.instr_eq.trans RobState.getTaintingInstruction_of_candidates
  rcases candidates : (run.state 0).candidates run.taintInfo with - | ⟨first, - | ⟨second, rest⟩⟩
  · simp only [candidates] at answer
    rw [answer] at valid
    cases valid
  · simp only [candidates] at answer
    rw [slot_of_instr answer]
    exact .inl candidates
  · simp only [candidates] at answer
    rw [slot_of_instr answer]
    exact .inr ⟨by simp [candidates], RobState.suspect_cases ..⟩

end TaintRun

/-- The destination of the entry is the register of the sink's file that holds
the byte. -/
def RobState.Destination (rob : RobState) (taintInfo : TaintInfo) (slot : Slot) : Prop :=
  (rob.entry slot.1 slot.2).dst_type = taintInfo.sink.destType ∧
    (rob.entry slot.1 slot.2).dst.toNat = taintInfo.addr.toNat / taintInfo.sink.stride

instance {rob : RobState} {taintInfo : TaintInfo} {slot : Slot} : Decidable (rob.Destination taintInfo slot) :=
  inferInstanceAs (Decidable (_ ∧ _))

theorem RobState.destination_congr {rob other : RobState} {taintInfo : TaintInfo} {slot : Slot}
    (same : (rob.entry slot.1 slot.2).SameInstr (other.entry slot.1 slot.2)) :
    rob.Destination taintInfo slot ↔ other.Destination taintInfo slot := by
  rw [Destination, Destination, same.dst, same.dst_type]

theorem RobState.occupied_of_head {rob : RobState} {slot : Slot} (head : slot.1 = rob.head) :
    rob.Occupied slot := by
  refine .inr ?_
  rw [head, Fin.sub_self]
  exact Nat.zero_le _

/-- A run with the instructions that each cycle squashes.  An instruction leaves
the ROB by committing or by being squashed, and stays there otherwise. -/
structure SquashRun extends TaintRun where
  squashed : Nat → Slot → Bool
  gone : ∀ time slot, squashed time slot = true →
    ((rob (time + 1)).slot slot.1 slot.2).valid = true → allocated (time + 1) slot = true
  remains : ∀ time slot, ((rob time).slot slot.1 slot.2).valid = true →
    slot ∉ (rob time).committed (commits time) → squashed time slot = false →
      ((rob (time + 1)).slot slot.1 slot.2).valid = true ∧ allocated (time + 1) slot = false

/-- Every run squashes what leaves the ROB without committing. -/
def TaintRun.withSquashes (run : TaintRun) : SquashRun where
  toTaintRun := run
  squashed := fun time slot =>
    ((run.rob time).slot slot.1 slot.2).valid && decide (slot ∉ (run.rob time).committed (run.commits time)) &&
      (run.allocated (time + 1) slot || !((run.rob (time + 1)).slot slot.1 slot.2).valid)
  gone := by
    intro time slot squashed valid
    simp only [valid, Bool.not_true, Bool.or_false, Bool.and_eq_true] at squashed
    exact squashed.2
  remains := by
    intro time slot valid uncommitted kept
    simpa [valid, uncommitted, and_comm] using kept

namespace SquashRun

variable {run : SquashRun} {time : Nat} {slot : Slot}

theorem valid_before (kept : ∀ earlier, 0 < earlier → earlier ≤ time → run.allocated earlier slot = false)
    (valid : ((run.state time).entry slot.1 slot.2).valid = true) {earlier : Nat} (before : earlier ≤ time) :
    ((run.state earlier).entry slot.1 slot.2).valid = true := by
  induction before using Nat.decreasingInduction with
  | self => exact valid
  | of_succ middle before ih =>
      exact (run.stays middle slot (kept (middle + 1) (by omega) (by omega)) ih).1

/-- What has not changed hands has not left. -/
theorem inRob_of_kept
    (kept : ∀ earlier, 0 < earlier → earlier ≤ time + 1 → run.allocated earlier slot = false)
    (valid : ((run.state (time + 1)).entry slot.1 slot.2).valid = true) {earlier : Nat}
    (before : earlier ≤ time) : slot ∉ run.committed earlier ∧ run.squashed earlier slot = false := by
  have next : ((run.state (earlier + 1)).entry slot.1 slot.2).valid = true :=
    valid_before kept valid (by omega)
  have unchanged := kept (earlier + 1) (by omega) (by omega)
  constructor
  · intro commits
    rw [run.leaves earlier slot commits next] at unchanged
    cases unchanged
  · by_contra squashed
    rw [run.gone earlier slot (by simpa using squashed) next] at unchanged
    cases unchanged

/-- What is not committed and not squashed stays, in a slot that does not change
hands. -/
theorem kept_of_inRob (valid : ((run.state 0).entry slot.1 slot.2).valid = true)
    (inRob : ∀ earlier ≤ time, slot ∉ run.committed earlier ∧ run.squashed earlier slot = false) :
    ((run.state (time + 1)).entry slot.1 slot.2).valid = true ∧
      ∀ earlier, 0 < earlier → earlier ≤ time + 1 → run.allocated earlier slot = false := by
  induction time with
  | zero =>
      obtain ⟨uncommitted, spared⟩ := inRob 0 (Nat.le_refl 0)
      obtain ⟨stays, kept⟩ := run.remains 0 slot valid uncommitted spared
      refine ⟨stays, fun earlier later upper => ?_⟩
      have now : earlier = 1 := by omega
      exact now ▸ kept
  | succ time ih =>
      obtain ⟨here, before⟩ := ih fun earlier upper => inRob earlier (by omega)
      obtain ⟨uncommitted, spared⟩ := inRob (time + 1) (Nat.le_refl _)
      obtain ⟨stays, kept⟩ := run.remains (time + 1) slot here uncommitted spared
      refine ⟨stays, fun earlier later upper => ?_⟩
      by_cases now : earlier = time + 1 + 1
      · exact now ▸ kept
      · exact before earlier later (by omega)

/-- A taint that is declared architectural belongs to the instruction that is
recorded exactly if the search has settled on a writer of the register, which
the core has neither committed nor squashed since. -/
theorem declared_own_iff (run : SquashRun) (time : Nat)
    (declared : (run.crash time).declares (run.rob (time + 1)) = true) :
    run.OwnInstr (time + 1) ↔ ∃ slot, run.Settles slot ∧
      ((run.state 0).entry slot.1 slot.2).valid = true ∧ (run.state 0).Destination run.taintInfo slot ∧
      ∀ earlier ≤ time, slot ∉ run.committed earlier ∧ run.squashed earlier slot = false := by
  obtain ⟨head, valid, -, -⟩ := RobState.readyAtHead_iff.mp (TaintRun.declares_iff.mp declared)
  constructor
  · intro own
    obtain ⟨inRob, same⟩ := TaintRun.stays_from_taint own.kept valid
    have recorded : run.instr.valid = true := by
      rw [← own.recorded]
      exact inRob
    exact ⟨run.slot, TaintRun.settles_of_valid recorded, inRob,
      (RobState.destination_congr same).mp own.writes.2.2, fun _ => inRob_of_kept own.kept valid⟩
  · intro ⟨slot, settles, listed, destination, inRob⟩
    have recorded := settles.recorded
    obtain rfl := TaintRun.slot_of_instr recorded
    obtain ⟨-, kept⟩ := kept_of_inRob listed inRob
    obtain ⟨-, same⟩ := TaintRun.stays_from_taint kept valid
    have row : run.slot.1 = (run.state (time + 1)).head := congrArg Prod.fst head
    exact ⟨kept, ⟨RobState.occupied_of_head row, valid, (RobState.destination_congr same).mpr destination⟩,
      recorded.symm, recorded ▸ same⟩

end SquashRun

namespace TaintRun

/-! ## Runs -/

/-- The core commits `count` instructions in cycle 1.  A slot changes hands
where the snapshots differ. -/
def ofTops (rob : Nat → RobTop) (count : Nat)
    (ready : ∀ i j, (i, j) ∈ (rob 1).committed count →
      ((rob 1).slot i j).busy = false ∧ ((rob 1).slot i j).exception = false) :
    TaintRun where
  rob
  commits := fun time => if time = 1 then count else 0
  allocated
    | 0, _ => false
    | time + 1, slot => !(((rob time).slot slot.1 slot.2).valid &&
        decide (((RobState.readFrom (rob (time + 1))).entry slot.1 slot.2).SameInstr
          ((RobState.readFrom (rob time)).entry slot.1 slot.2)) &&
        decide (slot ∉ (rob time).committed (if time = 1 then count else 0)))
  orderly := by
    intro time slot commits
    by_cases now : time = 1
    · subst now
      exact ready slot.1 slot.2 commits
    · simp [RobTop.committed, now] at commits
  leaves := by
    intro time slot commits _
    simp [commits]
  stays := by
    intro time slot kept _
    simp only [Bool.not_eq_false', Bool.and_eq_true, decide_eq_true_eq] at kept
    exact kept.1
  uninitialised := { type := .none, cause := 0 }
  ticks := 0
  taintInfo := ⟨.iregfile, 40⟩
  previouslyBusy := (0, 0)

/-- A load to register 5 commits on its own. -/
def loadAlone : TaintRun :=
  ofTops (fun time => if time ≤ 1 then RobState.robOf firstRow [((31, 0), { valid := true, dst := 5 })] else {}) 1
    (by decide)

theorem commit_recognised_iff_loadAlone : (loadAlone.crash 2).isTaintArchitectural = true := by
  have leaves : loadAlone.LeavesByCommit 1 := by
    refine ⟨fun time later upper => ?_, by decide⟩
    have now : time = 1 := by omega
    subst now
    decide
  exact (commit_recognised_iff loadAlone 1 leaves).mpr (.inl (by decide))

/-- The load has its value before the older instruction beside it, and both
commit at once. -/
def secondOfPair : TaintRun :=
  ofTops (fun time =>
      if time ≤ 1 then
        RobState.robOf firstRow [((31, 0), { valid := true, busy := decide (time = 0), dst := 1 }),
          ((31, 1), { valid := true, dst := 5 })]
      else {}) 2
    (by decide)

theorem commit_secondOfPair : secondOfPair.LeavesByCommit 1 ∧ secondOfPair.instr.valid = true ∧
    secondOfPair.committed 1 = [(31, 0), (31, 1)] ∧ secondOfPair.slot = (31, 1) ∧
    (secondOfPair.crash 2).isTaintArchitectural = false := by
  refine ⟨⟨fun time later upper => ?_, by decide⟩, by decide⟩
  have now : time = 1 := by omega
  subst now
  decide

theorem declared_own_iff_loadAlone : loadAlone.withSquashes.OwnInstr 1 := by
  refine (SquashRun.declared_own_iff loadAlone.withSquashes 0 (by decide)).mpr
    ⟨(31, 0), .inl (by decide), by decide, by decide, fun earlier upper => ?_⟩
  obtain rfl := Nat.le_zero.mp upper
  decide

/-- A fence at the head waits, commits and flushes the load behind it away.  The
slot of the load is given to another instruction, which comes to the head. -/
def slotReused : TaintRun :=
  ofTops (fun time =>
      if time ≤ 1 then
        RobState.robOf firstRow [((31, 0), { valid := true, busy := decide (time = 0), dst := 1 }),
          ((0, 0), { valid := true, dst := 5 })]
      else if time = 2 then {}
      else {
        tail := nextRow firstRow
        slot := fun i j => if i.val = 0 ∧ j.val = 0 then { valid := true, dst := 7 } else {} }) 1
    (by decide)

theorem declared_slotReused : slotReused.withSquashes.Settles (0, 0) ∧
    (slotReused.state 0).WritesByte slotReused.taintInfo (0, 0) ∧ slotReused.slot = (0, 0) ∧
    slotReused.withSquashes.squashed 1 (0, 0) = true ∧ ((slotReused.state 2).entry 0 0).valid = false ∧
    (slotReused.crash 2).declares (slotReused.rob 3) = true ∧
    (slotReused.crash 3).isTaintArchitectural = true ∧ ¬ slotReused.OwnInstr 3 := by
  refine ⟨.inl (by decide), by decide, by decide, by decide, by decide, by decide, by decide, ?_⟩
  intro own
  exact absurd own.writes (by decide)

end TaintRun

end PhantomTrails
