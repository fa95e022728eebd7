import PhantomTrails.Detection.Record
import PhantomTrails.Detection.Tracking

namespace PhantomTrails

open Foundation Foundation.Machine

/-! # The flush that is blamed

A flush of the pipeline squashes what is younger than the head of the ROB, a
misprediction what depends on the mispredicted branch.  The recorded flush is
the first one that squashes the tainting instruction, unless that is a flush
on commit: the loop does not look at those and records a later flush.
-/

def Cycle.younger (cycle : Cycle) (entry : RobEntry) : Bool :=
  let rob := RobState.readFrom cycle.top.rob
  (rob.entry entry.robIdx entry.robBank).valid && !rob.isHead entry

/-- What the core does to the occupant of the entry's slot. -/
def Cycle.squashes (cycle : Cycle) (entry : RobEntry) : Bool :=
  cycle.top.isFlushing &&
    match cycle.top.getFlushInfo.type with
    | .misprediction =>
        (cycle.slotBrMask entry).toUInt64 &&& cycle.top.getFlushInfo.mispredMask != 0
    | .flush | .exception | .memOrdering | .unknownFlush => cycle.younger entry
    | .none => false

/-- The instruction is still in its slot. -/
def Cycle.holds (cycle : Cycle) (entry : RobEntry) : Bool :=
  let slot := (RobState.readFrom cycle.top.rob).entry entry.robIdx entry.robBank
  slot.valid && decide (slot.SameInstr entry)

/-- The instruction stays in the ROB, behind the head, up to the cycle that
squashes it. -/
def staysUntilSquashed (entry : RobEntry) : List Cycle → Bool
  | [] => true
  | cycle :: later =>
      cycle.holds entry && cycle.younger entry &&
        (cycle.squashes entry || staysUntilSquashed entry later)

variable {numRetired : UInt64} {state : LoopState} {crash : CrashInfo} {cycles : List Cycle}

/-- With the tainting instruction in the ROB behind the head, the flushes the
record takes are those that squash it, flushes on commit left out. -/
theorem relevantFlush_eq_squashes {cycle : Cycle} {entry : RobEntry}
    (found : cycle.crash.taintFound = true) (mask : cycle.crash.taintBrMask = cycle.slotBrMask entry)
    (younger : cycle.younger entry = true) :
    cycle.relevantFlush = (cycle.top.getFlushInfo.type != .flush && cycle.squashes entry) := by
  rw [Bool.eq_iff_iff, relevantFlush_iff, Cycle.squashes]
  cases flushing : cycle.top.isFlushing with
  | false => simp
  | true =>
      have set : cycle.top.getFlushInfo.type ≠ .none := FlushInfo.readFrom_type_ne_none flushing
      cases type : cycle.top.getFlushInfo.type with
      | none => exact absurd type set
      | misprediction => simp [found, mask, CrashInfo.isKilledByBranch]
      | flush | exception | memOrdering | unknownFlush => simp [found, younger]

theorem TaintKept.tracks {taintInfo : TaintInfo} {first cycle : Cycle} {later : List Cycle}
    (taint : TaintKept taintInfo first later crash) (valid : crash.taintInstr.valid = true)
    (member : cycle ∈ first :: later) :
    cycle.crash.taintFound = true ∧ cycle.crash.taintInstr = crash.taintInstr ∧
      cycle.crash.taintBrMask = cycle.slotBrMask crash.taintInstr := by
  have same := taint.kept.taintInstr
  rcases List.mem_cons.mp member with rfl | member
  · refine ⟨taint.records.taintFound, same.symm, ?_⟩
    have placed := RobState.readFrom_getTaintingInstruction
      ((same.trans taint.records.taintInstr).symm) valid
    rw [taint.taintBrMask, ← same, Cycle.slotBrMask, placed]
  · obtain ⟨kept, mask⟩ := taint.tracked cycle member
    exact ⟨kept.taintFound.trans taint.records.taintFound, kept.taintInstr.trans same.symm, same ▸ mask⟩

/-- Since the taint, the verdict on a flush is what it does to the tainting
instruction, as long as that is behind the head. -/
theorem Execution.verdict (execution : Execution numRetired state cycles crash)
    (notFound : state.crash.taintFound = false) (inRob : crash.taintInstr.valid = true) :
    ∀ cycle ∈ sinceTaint cycles, cycle.crash.taintInstr = crash.taintInstr ∧
      (cycle.younger crash.taintInstr = true → cycle.relevantFlush =
        (cycle.top.getFlushInfo.type != .flush && cycle.squashes crash.taintInstr)) := by
  intro cycle member
  rcases execution.sinceTaint_cases notFound with ⟨none, -⟩ | ⟨taintInfo, first, later, since, taint⟩
  · rw [none] at member
    cases member
  · obtain ⟨found, same, mask⟩ := taint.tracks inRob (since ▸ member)
    exact ⟨same, relevantFlush_eq_squashes found mask⟩

/-- Either nothing squashes the instruction, or it is behind the head when the
first flush does. -/
theorem staysUntilSquashed_cases {entry : RobEntry} (stays : staysUntilSquashed entry cycles = true) :
    (∀ cycle ∈ cycles, cycle.younger entry = true ∧ cycle.squashes entry = false) ∨
      ∃ cycle ∈ cycles, cycles.find? (fun cycle => cycle.squashes entry) = some cycle ∧
        cycle.younger entry = true := by
  induction cycles with
  | nil => exact .inl (by simp)
  | cons cycle later ih =>
      simp only [staysUntilSquashed, Bool.and_eq_true, Bool.or_eq_true] at stays
      obtain ⟨⟨-, younger⟩, rest⟩ := stays
      cases squashed : cycle.squashes entry with
      | true => exact .inr ⟨cycle, List.mem_cons_self, by rw [List.find?_cons, squashed], younger⟩
      | false =>
          rcases ih (rest.resolve_left (by simp [squashed])) with never | ⟨hit, member, first, behind⟩
          · exact .inl (List.forall_mem_cons.mpr ⟨⟨younger, squashed⟩, never⟩)
          · exact .inr ⟨hit, List.mem_cons_of_mem cycle member, by rw [List.find?_cons, squashed, first],
              behind⟩

theorem suffix_ends_with {α : Type} {skipped rest before : List α} {last : α}
    (split : skipped ++ rest = before ++ [last]) (nonempty : rest ≠ []) :
    ∃ init, rest = init ++ [last] ∧ ∀ item ∈ init, item ∈ before := by
  rcases List.eq_nil_or_concat rest with none | ⟨init, ending, rfl⟩
  · exact absurd none nonempty
  · rw [List.concat_eq_append, ← List.append_assoc] at split
    obtain ⟨same, ends⟩ := List.append_inj' split rfl
    obtain rfl := List.singleton_inj.mp ends
    exact ⟨init, List.concat_eq_append, fun item member => same ▸ List.mem_append_right skipped member⟩

/-- The cycles since the taint end with the cycle of the recorded flush. -/
theorem Execution.sinceTaint_flush (execution : Execution numRetired state cycles crash)
    (start : state.crash.Undecided) (notFound : state.crash.taintFound = false)
    (flushed : crash.flushFound = true) :
    ∃ init last, sinceTaint cycles = init ++ [last] ∧ last.relevantFlush = true ∧
      crash = last.recorded ∧ ∀ cycle ∈ init, cycle.relevantFlush = false := by
  have tainted := execution.taintFound_of_flush start flushed
  obtain ⟨before, last, rfl, -, relevant, ending, skipped⟩ := execution.flush start flushed
  have some : sinceTaint (before ++ [last]) ≠ [] := by
    intro none
    have clean := (execution.recordConsistent start notFound).clean none
    rw [tainted] at clean
    contradiction
  obtain ⟨clean, split⟩ := sinceTaint_suffix (before ++ [last])
  obtain ⟨init, ends, within⟩ := suffix_ends_with split some
  exact ⟨init, last, ends, relevant, ending, fun cycle member => skipped cycle (within cycle member)⟩

/-- If the tainting instruction stays in the ROB, behind the head, until a flush
squashes it, then that flush is recorded, except if it is a flush on commit.
The record marks a misprediction that caught an excepting instruction. -/
theorem flush_blamed (numRetired : UInt64) (top : Top) (sim : Counters) (uninitialised : FlushInfo)
    (tops : List Top)
    (ran : cycles = executed numRetired (.start top sim uninitialised) tops)
    (ended : crash = crashAfter numRetired (.start top sim uninitialised) tops)
    (flushed : crash.flushFound = true) (inRob : crash.taintInstr.valid = true)
    (stays : staysUntilSquashed crash.taintInstr (sinceTaint cycles) = true) :
    ∃ cycle,
      (sinceTaint cycles).find? (fun cycle => cycle.squashes crash.taintInstr) = some cycle ∧
      crash.flushInfo.type ≠ .flush ∧
      (cycle.top.getFlushInfo.type ≠ .flush →
        crash.flushCycle = cycle.ticks ∧
        crash.flushInfo =
          if cycle.top.getFlushInfo.type = .misprediction ∧
              ((RobState.readFrom cycle.top.rob).entry crash.taintInstr.robIdx
                crash.taintInstr.robBank).exception = true then
            { cycle.top.getFlushInfo with cause := FlushCause.CAUSE_MISPREDICTION_WITH_EXCEPTION }
          else cycle.top.getFlushInfo) := by
  have execution : Execution numRetired (.start top sim uninitialised) cycles crash :=
    ran ▸ ended ▸ execution_start numRetired top sim uninitialised tops
  have verdict := execution.verdict rfl inRob
  obtain ⟨init, last, ends, relevant, same, skipped⟩ :=
    execution.sinceTaint_flush ⟨rfl, rfl⟩ rfl flushed
  have recorded := recorded_of_relevantFlush relevant
  have type := (execution.flush_relevant ⟨rfl, rfl⟩ flushed).1
  rw [ends] at verdict stays ⊢
  rcases staysUntilSquashed_cases stays with never | ⟨cycle, member, first, younger⟩
  · have ending := List.mem_append_right init (List.mem_singleton.mpr (Eq.refl last))
    obtain ⟨younger, spared⟩ := never last ending
    rw [(verdict last ending).2 younger, spared, Bool.and_false] at relevant
    cases relevant
  · refine ⟨cycle, first, type, fun other => ?_⟩
    obtain ⟨instr, now⟩ := verdict cycle member
    have taken : cycle.relevantFlush = true := by
      rw [now younger, List.find?_some first]
      simpa using other
    -- What the loop takes ends it.
    have final : cycle = last := by
      rcases List.mem_append.mp member with earlier | ending
      · rw [skipped cycle earlier] at taken
        cases taken
      · exact List.mem_singleton.mp ending
    subst final
    have saved : crash.flushInfo = cycle.crash.savedFlush cycle.top.getFlushInfo := by
      rw [same, recorded]
    have snapshot : cycle.top.getFlushInfo.robState = RobState.readFrom cycle.top.rob :=
      FlushInfo.readFrom_robState
    refine ⟨by rw [same, recorded], ?_⟩
    rw [saved, CrashInfo.savedFlush, CrashInfo.isExcepting, instr, ← snapshot]

/-! ## Runs -/

/-- The head in row 0 and a load to register 5 in row 1, whose branch mask
and exception bit vary. -/
def loadBehindHead (brMask : UInt16) (exception : Bool) : RobTop where
  tail := nextRow (nextRow firstRow)
  slot := fun i j =>
    if i.val = 0 ∧ j.val = 0 then { pc := 0x80000000, valid := true, busy := true }
    else if i.val = 1 ∧ j.val = 0 then { pc := 0x80000004, valid := true, dst := 5, brMask, exception }
    else { dst_type := RobState.DEST_UNUSED }

def taintingTop (brMask : UInt16) : Top where
  rob := loadBehindHead brMask false
  taintedSink := some ⟨.iregfile, 40⟩

def mispredictingTop (brMask : UInt16) (exception : Bool) (mask : UInt64) : Top where
  rob := loadBehindHead brMask exception
  flush := { mispredBrMask := mask }

/-- An unrelated misprediction is skipped, the next one squashes the load. -/
def twoMispredictions : List Top :=
  [taintingTop 1, mispredictingTop 1 false 2, mispredictingTop 1 true 1]

/-- A fence at the head retires and flushes the load away. -/
def fenceTop : Top where
  rob := loadBehindHead 0 false
  flush := { flushSignal := true, isFlushOnCommit := true }

def emptyTop : Top where
  rob := { head := nextRow firstRow, tail := nextRow firstRow, slot := fun _ _ => { dst_type := RobState.DEST_UNUSED } }

/-- The slot of the load holds what was fetched behind the fence, which faults. -/
def faultingTop : Top where
  rob :=
    { head := nextRow firstRow
      tail := nextRow (nextRow firstRow)
      slot := fun i j =>
        if i.val = 1 ∧ j.val = 0 then
          { pc := 0x80000004, valid := true, exception := true, dst_type := RobState.DEST_UNUSED }
        else { dst_type := RobState.DEST_UNUSED } }
  flush := { flushSignal := true, xcptValid := true, xcptCause := FlushCause.FETCH_PAGE_FAULT }

def fenceThenFault : List Top := [taintingTop 0, fenceTop, emptyTop, faultingTop]

def uninitialised : FlushInfo := { type := .none, cause := 0 }

def boot : LoopState := .start {} {} uninitialised

theorem flush_blamed_twoMispredictions : ∃ cycle,
    (sinceTaint (executed 10 boot twoMispredictions)).find? (fun cycle =>
        cycle.squashes (crashAfter 10 boot twoMispredictions).taintInstr) = some cycle ∧
      (cycle.top.getFlushInfo.type ≠ .flush →
        (crashAfter 10 boot twoMispredictions).flushCycle = cycle.ticks) := by
  obtain ⟨cycle, first, -, blamed⟩ := flush_blamed 10 {} {} uninitialised
    twoMispredictions rfl rfl (by decide) (by decide) (by decide)
  exact ⟨cycle, first, fun other => (blamed other).1⟩

/-- The fence squashes the load in cycle 2, and the slot is empty in cycle 3.
Recorded is the fault of cycle 4. -/
theorem flush_blamed_fenceThenFault :
    (crashAfter 10 boot fenceThenFault).flushFound = true ∧
      (crashAfter 10 boot fenceThenFault).taintInstr.valid = true ∧
      staysUntilSquashed (crashAfter 10 boot fenceThenFault).taintInstr
        (sinceTaint (executed 10 boot fenceThenFault)) = true ∧
      ((sinceTaint (executed 10 boot fenceThenFault)).find? fun cycle =>
        cycle.squashes (crashAfter 10 boot fenceThenFault).taintInstr).map Cycle.ticks = some 2 ∧
      (∀ cycle ∈ executed 10 boot fenceThenFault, 2 < cycle.ticks →
        cycle.holds (crashAfter 10 boot fenceThenFault).taintInstr = false) ∧
      (crashAfter 10 boot fenceThenFault).flushCycle = 4 := by
  decide

end PhantomTrails
