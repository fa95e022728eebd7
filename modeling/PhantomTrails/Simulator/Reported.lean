import PhantomTrails.Simulator.Loader

namespace PhantomTrails.Simulator

open Foundation

/-! # What loading reports

`addCode` and `addData` return the number of bytes they have loaded.  The copy
is clamped to the DRAM and skipped for a start outside of it; `addData` labels
the range it was asked for.
-/

variable {copy : LabelCopy} {sim next : Simulator} {buf : Option Buffer} {startAddr len returned : UInt64}

/-- A start that `loadBytes` skips. -/
def Outside (sim : Simulator) (startAddr : UInt64) : Prop :=
  startAddr < sim.baseAddr ∨ startAddr ≥ sim.baseAddr + sim.memSize

instance : Decidable (sim.Outside startAddr) := inferInstanceAs (Decidable (_ ∨ _))

/-- The offset in the DRAM, for a start that is not below it. -/
def offsetOf (sim : Simulator) (startAddr : UInt64) : Nat := startAddr.toNat - sim.baseAddr.toNat

/-- The buffer holds the bytes that fit into the DRAM. -/
def CopyFits (sim : Simulator) (buf : Option Buffer) (startAddr len : UInt64) : Prop :=
  ∀ buffer, buf = some buffer → ¬ sim.Outside startAddr →
    min len.toNat (sim.memSize.toNat - sim.offsetOf startAddr) ≤ buffer.size.toNat

/-- The call has touched what it returns, and all that fits: contents and, if
there is one to set, the label. -/
structure Reported (sim : Simulator) (buf : Option Buffer) (startAddr len : UInt64) (label : Option UInt8)
    (returned : UInt64) (next : Simulator) : Prop where
  count : returned.toNat = if buf = none ∨ sim.Outside startAddr then 0
    else min len.toNat (sim.memSize.toNat - sim.offsetOf startAddr)
  inside : 0 < returned.toNat →
    sim.baseAddr ≤ startAddr ∧ sim.offsetOf startAddr + returned.toNat ≤ sim.memSize.toNat
  loaded : ∀ buffer, buf = some buffer → ∀ i < returned.toNat,
    next.memory.data (sim.offsetOf startAddr + i) = buffer.bytes i
  labelled : ∀ lbl, label = some lbl → ∀ i < returned.toNat,
    next.labels (sim.offsetOf startAddr + i) = lbl
  unchanged : ∀ cell, cell < sim.offsetOf startAddr ∨ sim.offsetOf startAddr + returned.toNat ≤ cell →
    next.memory.data cell = sim.memory.data cell ∧ next.labels cell = sim.labels cell

/-- No assertion fails, the call returns unless it reads past the buffer, and
what is touched is reported. -/
structure Reports (sim : Simulator) (buf : Option Buffer) (startAddr len : UInt64) (label : Option UInt8)
    (result : Except Fault (UInt64 × Simulator)) : Prop where
  asserts : result ≠ .error .assertion
  returns : sim.CopyFits buf startAddr len → ∃ returned next, result = .ok (returned, next)
  reported : ∀ returned next, result = .ok (returned, next) →
    sim.Reported buf startAddr len label returned next

/-- The start is not below the DRAM, and the bytes of the range that are not
loaded (all without a buffer or from an outside start, else those behind the
DRAM) carry the data label already. -/
structure RangeLabelled (sim : Simulator) (buf : Option Buffer) (startAddr len : UInt64) : Prop where
  above : sim.baseAddr ≤ startAddr
  rest : sim.CopyFits buf startAddr len → ∀ cell, sim.offsetOf startAddr ≤ cell →
    cell < sim.offsetOf startAddr + len.toNat →
    buf = none ∨ sim.Outside startAddr ∨ sim.memSize.toNat ≤ cell → sim.labels cell = dataLbl

theorem loadBytes_skipped (copy : LabelCopy) (len : UInt64) (skipped : buf = none ∨ sim.Outside startAddr) :
    sim.loadBytes copy buf startAddr len = .ok (0, sim) := by
  rcases buf with - | buffer
  · rfl
  · have outside := skipped.resolve_left (Option.some_ne_none buffer)
    exact if_pos outside

theorem offsetOf_lt (inDram : ¬ sim.Outside startAddr) :
    sim.baseAddr ≤ startAddr ∧ sim.offsetOf startAddr < sim.memSize.toNat := by
  simp only [Outside, not_or, UInt64.not_lt, UInt64.not_le, ge_iff_le] at inDram
  obtain ⟨above, below⟩ := inDram
  refine ⟨above, ?_⟩
  rw [UInt64.le_iff_toNat_le] at above
  rw [UInt64.lt_iff_toNat_lt, UInt64.toNat_add] at below
  have size := sim.memSize.toNat_lt
  have base := sim.baseAddr.toNat_lt
  simp only [offsetOf]
  omega

theorem addrToDramOffset_offsetOf (above : sim.baseAddr ≤ startAddr) :
    ∃ offset, sim.addrToDramOffset startAddr = .ok offset ∧ offset.toNat = sim.offsetOf startAddr :=
  sim.addrToDramOffset_within startAddr (UInt64.le_iff_toNat_le.mp above)

/-- What `loadBytes` does from a start inside the DRAM. -/
theorem loadBytes_inDram (copy : LabelCopy) (buffer : Buffer) (len : UInt64)
    (inDram : ¬ sim.Outside startAddr) :
    ∃ count : UInt64, count.toNat = min len.toNat (sim.memSize.toNat - sim.offsetOf startAddr) ∧
      sim.loadBytes copy (some buffer) startAddr len =
        if count ≤ buffer.size then
          .ok (count, sim.withStores
            (sim.memory.data.copy (sim.offsetOf startAddr) count.toNat buffer.bytes)
            (copy.copy sim.labels (sim.offsetOf startAddr) count.toNat))
        else .error .outOfBounds := by
  obtain ⟨above, room⟩ := offsetOf_lt inDram
  obtain ⟨offset, found, place⟩ := addrToDramOffset_offsetOf above
  have left : offset ≤ sim.memSize := by
    rw [UInt64.le_iff_toNat_le, place]
    exact Nat.le_of_lt room
  refine ⟨min len (sim.memSize - offset), ?_, ?_⟩
  · rw [toNat_min, UInt64.toNat_sub_of_le _ _ left, place]
  · simp only [loadBytes, found, bind, Except.bind]
    apply (if_neg inDram).trans
    rw [← place]
    split
    · rfl
    · rfl

theorem loadBytes_ok_iff (copy : LabelCopy) (sim : Simulator) (buf : Option Buffer) (startAddr len : UInt64) :
    (∃ returned next, sim.loadBytes copy buf startAddr len = .ok (returned, next)) ↔
      sim.CopyFits buf startAddr len := by
  by_cases skipped : buf = none ∨ sim.Outside startAddr
  · simp only [loadBytes_skipped copy len skipped, CopyFits]
    refine iff_of_true ⟨0, sim, rfl⟩ ?_
    intro buffer given inDram
    exact absurd skipped (by simp [given, inDram])
  · obtain ⟨given, inDram⟩ := not_or.mp skipped
    obtain ⟨buffer, rfl⟩ := Option.ne_none_iff_exists'.mp given
    obtain ⟨count, fits, load⟩ := loadBytes_inDram copy buffer len inDram
    rw [load]
    simp only [CopyFits, Option.some.injEq, forall_eq', inDram, not_false_eq_true, forall_const, ← fits,
      ← UInt64.le_iff_toNat_le]
    split <;> simp_all

theorem loadBytes_reports (copy : LabelCopy) (sim : Simulator) (buf : Option Buffer) (startAddr len : UInt64) :
    sim.Reports buf startAddr len none (sim.loadBytes copy buf startAddr len) := by
  have returns := (loadBytes_ok_iff copy sim buf startAddr len).mpr
  by_cases skipped : buf = none ∨ sim.Outside startAddr
  · rw [loadBytes_skipped copy len skipped] at returns ⊢
    refine ⟨nofun, returns, ?_⟩
    intro returned next loaded
    cases loaded
    exact ⟨by simp [skipped], nofun, nofun, nofun, fun _ _ => ⟨rfl, rfl⟩⟩
  · obtain ⟨given, inDram⟩ := not_or.mp skipped
    obtain ⟨buffer, rfl⟩ := Option.ne_none_iff_exists'.mp given
    obtain ⟨above, room⟩ := offsetOf_lt inDram
    obtain ⟨count, fits, load⟩ := loadBytes_inDram copy buffer len inDram
    rw [load] at returns ⊢
    split at returns
    · rename_i enough
      rw [if_pos enough]
      refine ⟨nofun, returns, ?_⟩
      intro returned next loaded
      cases loaded
      refine ⟨by rw [if_neg skipped, fits], fun _ => ⟨above, by omega⟩, ?_, nofun, ?_⟩
      · intro source same i before
        cases same
        have inside : sim.offsetOf startAddr ≤ sim.offsetOf startAddr + i ∧
            sim.offsetOf startAddr + i < sim.offsetOf startAddr + count.toNat := by omega
        apply (if_pos inside).trans
        rw [Nat.add_sub_cancel_left]
      · intro cell away
        exact ⟨Store.copy_outside away, copy.frame _ _ _ _ away⟩
    · rename_i short
      rw [if_neg short]
      exact ⟨nofun, returns, nofun⟩

theorem addData_below (copy : LabelCopy) (buf : Option Buffer) (len : UInt64)
    (below : ¬ sim.baseAddr ≤ startAddr) : sim.addData copy buf startAddr len = .error .assertion := by
  have skipped : sim.loadBytes copy buf startAddr len = .ok (0, sim) :=
    loadBytes_skipped copy len (.inr (.inl (UInt64.not_le.mp below)))
  simp only [addData, skipped, addrToDramOffset, ge_iff_le, below, bind, Except.bind, if_false]

theorem addData_eq (copy : LabelCopy) (buf : Option Buffer) (len : UInt64) (above : sim.baseAddr ≤ startAddr) :
    ∃ offset : UInt64, offset.toNat = sim.offsetOf startAddr ∧
      sim.addData copy buf startAddr len = (sim.loadBytes copy buf startAddr len).map
        fun (count, loaded) => (count, loaded.taintMemory offset len dataLbl) := by
  obtain ⟨offset, found, place⟩ := addrToDramOffset_offsetOf above
  refine ⟨offset, place, ?_⟩
  rw [addData]
  cases load : sim.loadBytes copy buf startAddr len with
  | error fault => rfl
  | ok result =>
      obtain ⟨data, labels, same⟩ := loadBytes_stores load
      have again : result.2.addrToDramOffset startAddr = .ok offset := by
        rw [same]
        exact found
      simp only [bind, Except.bind, again, Except.map]
      rfl

/-- Labelling the range keeps the report true when what was not loaded has the
label already. -/
theorem reported_taintMemory_iff {loaded : Simulator} {offset : UInt64}
    (report : sim.Reported buf startAddr len none returned loaded)
    (place : offset.toNat = sim.offsetOf startAddr) :
    sim.Reported buf startAddr len (some dataLbl) returned (loaded.taintMemory offset len dataLbl) ↔
      ∀ cell, sim.offsetOf startAddr ≤ cell → cell < sim.offsetOf startAddr + len.toNat →
        buf = none ∨ sim.Outside startAddr ∨ sim.memSize.toNat ≤ cell → sim.labels cell = dataLbl := by
  have unloaded : ∀ cell, sim.offsetOf startAddr ≤ cell → cell < sim.offsetOf startAddr + len.toNat →
      (sim.offsetOf startAddr + returned.toNat ≤ cell ↔
        buf = none ∨ sim.Outside startAddr ∨ sim.memSize.toNat ≤ cell) := by
    intro cell lower upper
    have count := report.count
    split at count
    · simp_all [← or_assoc]
    · rename_i taken
      simp only [← or_assoc, taken, false_or]
      have room := (offsetOf_lt (not_or.mp taken).2).2
      omega
  have labels : ∀ cell, (loaded.taintMemory offset len dataLbl).labels cell =
      if sim.offsetOf startAddr ≤ cell ∧ cell < sim.offsetOf startAddr + len.toNat then dataLbl
      else loaded.labels cell := by
    intro cell
    rw [← place]
    rfl
  constructor
  · intro touched cell lower upper behind
    have same := (touched.unchanged cell (.inr ((unloaded cell lower upper).mpr behind))).2
    rw [labels, if_pos ⟨lower, upper⟩] at same
    exact same.symm
  · intro labelled
    refine ⟨report.count, report.inside, report.loaded, ?_, ?_⟩
    · intro lbl given i before
      cases given
      have count := report.count
      rw [labels, if_pos ⟨by omega, by split at count <;> omega⟩]
    · intro cell away
      obtain ⟨data, kept⟩ := report.unchanged cell away
      refine ⟨data, ?_⟩
      rw [labels]
      split
      · rename_i inside
        have behind := (unloaded cell inside.1 inside.2).mp (by omega)
        exact (labelled cell inside.1 inside.2 behind).symm
      · exact kept

/-- Loading code touches what it reports.  Loading data does exactly when it
starts above the base of the DRAM and the part of the range that is not loaded
has the data label already: an outside start fails the assertion or labels
what lies there, and labels are not clamped to the DRAM. -/
theorem loading_reports_iff (copy : LabelCopy) (sim : Simulator) (buf : Option Buffer) (startAddr len : UInt64) :
    sim.Reports buf startAddr len none (sim.addCode copy buf startAddr len) ∧
      (sim.Reports buf startAddr len (some dataLbl) (sim.addData copy buf startAddr len) ↔
        sim.RangeLabelled buf startAddr len) := by
  have loading := loadBytes_reports copy sim buf startAddr len
  refine ⟨loading, ?_⟩
  by_cases above : sim.baseAddr ≤ startAddr
  · obtain ⟨offset, place, added⟩ := addData_eq copy buf len above
    have readable := loadBytes_ok_iff copy sim buf startAddr len
    rw [added]
    cases load : sim.loadBytes copy buf startAddr len with
    | error fault =>
        rw [load] at loading
        have overread : ¬ sim.CopyFits buf startAddr len := by
          rw [← readable, load]
          intro ⟨returned, next, same⟩
          cases same
        refine iff_of_true ⟨loading.asserts ∘ ?_, fun fits => absurd fits overread, nofun⟩
          ⟨above, fun fits => absurd fits overread⟩
        intro failed
        cases failed
        rfl
    | ok result =>
        have report := loading.reported result.1 result.2 load
        have fits := readable.mp ⟨result.1, result.2, load⟩
        constructor
        · intro reports
          refine ⟨above, fun _ => ?_⟩
          exact (reported_taintMemory_iff report place).mp (reports.reported _ _ rfl)
        · intro range
          refine ⟨nofun, fun _ => ⟨_, _, rfl⟩, ?_⟩
          intro returned next same
          cases same
          exact (reported_taintMemory_iff report place).mpr (range.rest fits)
  · rw [addData_below copy buf len above]
    exact iff_of_false (fun reports => reports.asserts rfl) fun range => above range.above

/-- Half of the program fits. -/
def halfFits : Simulator where
  memory := .fresh .tiny fun _ => 0
  labels := fun _ => untaintedLbl

theorem loading_reports_iff_halfFits :
    ∃ next, halfFits.addCode cleanCopy (some ⟨fun _ => 7, 64⟩) 0x80000030 32 = .ok (16, next) ∧
      next.memory.data 63 = 7 ∧
      halfFits.Reported (some ⟨fun _ => 7, 64⟩) 0x80000030 32 none 16 next := by
  refine ⟨_, rfl, by decide, ?_⟩
  exact (loading_reports_iff cleanCopy halfFits (some ⟨fun _ => 7, 64⟩) 0x80000030 32).1.reported _ _ rfl

/-- What lies behind the DRAM is labelled as well. -/
theorem loading_halfFits :
    ∃ returned next, halfFits.addData cleanCopy (some ⟨fun _ => 7, 64⟩) 0x80000030 32 = .ok (returned, next) ∧
      returned = 16 ∧ next.labels 64 = dataLbl ∧
      ¬ halfFits.Reports (some ⟨fun _ => 7, 64⟩) 0x80000030 32 (some dataLbl)
        (halfFits.addData cleanCopy (some ⟨fun _ => 7, 64⟩) 0x80000030 32) := by
  refine ⟨_, _, rfl, by decide, by decide, ?_⟩
  intro reports
  have kept := ((reports.reported _ _ rfl).unchanged 64 (by decide)).2
  revert kept
  decide

end PhantomTrails.Simulator
