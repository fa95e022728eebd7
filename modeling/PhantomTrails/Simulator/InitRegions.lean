import PhantomTrails.Simulator.Reported

namespace PhantomTrails.Simulator

open Foundation Foundation.Machine

/-! # Code regions in the init code

`loadProgramSections` means to ignore the regions that lie in the init code,
but it compares their addresses with the size of that code.  A region it does
not ignore moves the cursor back, and the offset into the program underflows.
-/

variable {copy : LabelCopy} {sim next : Simulator} {buffer : Buffer} {call : LoadCall}
  {initRegions regions : List Region} {region : Region} {start stop : UInt64}

/-- The first address behind the init code. -/
def programStart (sim : Simulator) : Nat := sim.baseAddr.toNat + sim.initSize.toNat

/-- Regions of the init code in front of the regions of the program. -/
structure InitPlaced (sim : Simulator) (buffer : Buffer) (initRegions regions : List Region) : Prop where
  program : sim.programSize.toNat = sim.initSize.toNat + buffer.size.toNat
  addressable : sim.programStart + buffer.size.toNat < 2 ^ 64
  dram : sim.baseAddr.toNat + sim.memSize.toNat < 2 ^ 64
  inInit : ∀ region ∈ initRegions, sim.baseAddr.toNat ≤ region.1.toNat ∧
    region.1.toNat ≤ region.2.toNat ∧ region.2.toNat ≤ sim.programStart
  nonempty : regions ≠ []
  ordered : RegionsFrom (sim.programStart + buffer.size.toNat) sim.programStart regions

def withRegions (sim : Simulator) (regions : List Region) : Simulator := { sim with codeRegions := regions }

/-- Both loads succeed, with the same code size and the same DRAM. -/
def SameLoad (sim : Simulator) (left right : Except Fault (UInt64 × Simulator)) : Prop :=
  ∃ total first second, left = .ok (total, first) ∧ right = .ok (total, second) ∧
    ∀ offset < sim.memSize.toNat, first.memory.data offset = second.memory.data offset ∧
      first.labels offset = second.labels offset

/-- The regions of the init code that are not ignored. -/
def notIgnored (sim : Simulator) (initRegions : List Region) : List Region :=
  initRegions.filter fun region => decide (sim.initSize ≤ region.1)

/-- What is not ignored starts where the program does, or behind the DRAM, and
its lengths add up to nothing in 64 bits. -/
structure Harmless (sim : Simulator) (initRegions : List Region) : Prop where
  starts : ∀ region ∈ sim.notIgnored initRegions,
    region.1.toNat = sim.programStart ∨ sim.Outside region.1
  lengths : codeLength (sim.notIgnored initRegions) % 2 ^ 64 = 0

/-! ## One call -/

/-- The part of the program a call copies from. -/
def sourceAt (sim : Simulator) (buffer : Buffer) (addr : UInt64) : Buffer :=
  buffer.at (addr - sim.baseAddr - sim.initSize)

theorem bufferAt_eq (above : sim.baseAddr ≤ start) :
    sim.bufferAt (some buffer) start = .ok (some (sim.sourceAt buffer start)) := by
  simp only [bufferAt, addrToDramOffset, ge_iff_le, above, if_true, bind, Except.bind, pure, Except.pure,
    advance, sourceAt]

theorem perform_code (copy : LabelCopy) (above : sim.baseAddr ≤ call.start) (code : call.kind = .code) :
    call.perform copy (some buffer) sim =
      (sim.loadBytes copy (some (sim.sourceAt buffer call.start)) call.start call.len).map Prod.snd := by
  simp only [LoadCall.perform, bufferAt_eq above, bind, Except.bind, code, addCode]
  cases sim.loadBytes copy (some (sim.sourceAt buffer call.start)) call.start call.len <;> rfl

theorem perform_data (copy : LabelCopy) (buffer : Buffer) (above : sim.baseAddr ≤ call.start)
    (data : call.kind = .data) :
    ∃ offset : UInt64, offset.toNat = sim.offsetOf call.start ∧ call.perform copy (some buffer) sim =
      (sim.loadBytes copy (some (sim.sourceAt buffer call.start)) call.start call.len).map
        fun loaded => loaded.2.taintMemory offset call.len dataLbl := by
  obtain ⟨offset, place, added⟩ := addData_eq copy (some (sim.sourceAt buffer call.start)) call.len above
  refine ⟨offset, place, ?_⟩
  simp only [LoadCall.perform, bufferAt_eq above, bind, Except.bind, data, added]
  cases sim.loadBytes copy (some (sim.sourceAt buffer call.start)) call.start call.len <;> rfl

theorem perform_ok_iff (copy : LabelCopy) (above : sim.baseAddr ≤ call.start) :
    (∃ next, call.perform copy (some buffer) sim = .ok next) ↔
      sim.CopyFits (some (sim.sourceAt buffer call.start)) call.start call.len := by
  rw [← loadBytes_ok_iff copy]
  cases kind : call.kind with
  | code =>
      rw [perform_code copy above kind]
      cases sim.loadBytes copy (some (sim.sourceAt buffer call.start)) call.start call.len with
      | error fault => simp [Except.map]
      | ok result => exact iff_of_true ⟨_, rfl⟩ ⟨_, _, rfl⟩
  | data =>
      obtain ⟨offset, -, performed⟩ := perform_data copy buffer above kind
      rw [performed]
      cases sim.loadBytes copy (some (sim.sourceAt buffer call.start)) call.start call.len with
      | error fault => simp [Except.map]
      | ok result => exact iff_of_true ⟨_, rfl⟩ ⟨_, _, rfl⟩

theorem sourceAt_size (above : sim.baseAddr ≤ start) (place : sim.programStart ≤ start.toNat) :
    (sim.sourceAt buffer start).size.toNat = buffer.size.toNat - (start.toNat - sim.programStart) := by
  simp only [programStart] at place ⊢
  have offset := UInt64.toNat_sub_of_le _ _ above
  have behind : sim.initSize ≤ start - sim.baseAddr := by
    rw [UInt64.le_iff_toNat_le, offset]
    omega
  rw [sourceAt, at_size, UInt64.toNat_sub_of_le _ _ behind, offset]
  omega

/-- In front of the program the offset underflows, and nothing is left to
copy. -/
theorem sourceAt_size_init (above : sim.baseAddr ≤ start) (place : start.toNat < sim.programStart)
    (addressable : sim.programStart + buffer.size.toNat < 2 ^ 64) :
    (sim.sourceAt buffer start).size.toNat = 0 := by
  simp only [programStart] at place addressable
  have offset := UInt64.toNat_sub_of_le _ _ above
  rw [UInt64.le_iff_toNat_le] at above
  have size := sim.initSize.toNat_lt
  rw [sourceAt, at_size, UInt64.toNat_sub, offset]
  omega

theorem outside_mono {later : UInt64} (above : sim.baseAddr ≤ start) (outside : sim.Outside start)
    (behind : start.toNat ≤ later.toNat) : sim.Outside later := by
  rcases outside with below | reached
  · exact absurd above (UInt64.not_le.mpr below)
  · exact .inr (UInt64.le_trans reached (UInt64.le_iff_toNat_le.mpr behind))

/-- A call in front of the program that has something to load reads past the
buffer, unless it starts behind the DRAM. -/
theorem outside_of_perform (above : sim.baseAddr ≤ call.start) (place : call.start.toNat < sim.programStart)
    (addressable : sim.programStart + buffer.size.toNat < 2 ^ 64) (long : 0 < call.len.toNat)
    (performed : call.perform copy (some buffer) sim = .ok next) : sim.Outside call.start := by
  by_contra inDram
  have fits := (perform_ok_iff copy above).mp ⟨next, performed⟩ _ rfl inDram
  have room := (offsetOf_lt inDram).2
  rw [sourceAt_size_init above place addressable] at fits
  omega

/-- A region without a byte loads nothing. -/
theorem perform_empty (copy : LabelCopy) (above : sim.baseAddr ≤ call.start) (code : call.kind = .code)
    (empty : call.len.toNat = 0) : call.perform copy (some buffer) sim = .ok sim := by
  rw [perform_code copy above code]
  by_cases outside : sim.Outside call.start
  · rw [loadBytes_skipped copy call.len (.inr outside)]
    rfl
  · obtain ⟨count, fits, load⟩ := loadBytes_inDram copy (sim.sourceAt buffer call.start) call.len outside
    have none : count.toNat = 0 := by omega
    have data : ∀ source, sim.memory.data.copy (sim.offsetOf call.start) 0 source = sim.memory.data := by
      intro source
      funext cell
      exact Store.copy_outside (by omega)
    have labels : copy.copy sim.labels (sim.offsetOf call.start) 0 = sim.labels := by
      funext cell
      exact copy.frame _ _ _ _ (by omega)
    rw [load, if_pos (by rw [UInt64.le_iff_toNat_le]; omega), none, data, labels]
    rfl

/-- The DRAM and its labels are as before. -/
structure Untouched (sim next : Simulator) : Prop where
  stores : ∃ data labels, next = sim.withStores data labels
  same : ∀ offset < sim.memSize.toNat, next.memory.data offset = sim.memory.data offset ∧
    next.labels offset = sim.labels offset

/-- A call that starts behind the DRAM labels what lies there. -/
theorem perform_outside (copy : LabelCopy) (buffer : Buffer) (dram : sim.baseAddr.toNat + sim.memSize.toNat < 2 ^ 64)
    (above : sim.baseAddr ≤ call.start) (outside : sim.Outside call.start) :
    ∃ next, call.perform copy (some buffer) sim = .ok next ∧ sim.Untouched next := by
  cases kind : call.kind with
  | code =>
      rw [perform_code copy above kind, loadBytes_skipped copy call.len (.inr outside)]
      exact ⟨sim, rfl, ⟨_, _, rfl⟩, fun _ _ => ⟨rfl, rfl⟩⟩
  | data =>
      obtain ⟨offset, place, performed⟩ := perform_data copy buffer above kind
      rw [performed, loadBytes_skipped copy call.len (.inr outside)]
      refine ⟨_, rfl, ⟨_, _, rfl⟩, ?_⟩
      intro cell inside
      refine ⟨rfl, Store.fill_outside (.inl ?_)⟩
      have behind := outside.resolve_left (UInt64.not_lt.mpr above)
      rw [ge_iff_le, UInt64.le_iff_toNat_le, UInt64.toNat_add, Nat.mod_eq_of_lt dram] at behind
      rw [place, offsetOf]
      omega

/-! ## All calls -/

theorem run_outside (copy : LabelCopy) (buffer : Buffer) {calls : List LoadCall}
    (dram : sim.baseAddr.toNat + sim.memSize.toNat < 2 ^ 64)
    (outside : ∀ call ∈ calls, sim.baseAddr ≤ call.start ∧ sim.Outside call.start) :
    ∃ next, run (LoadCall.perform copy (some buffer)) sim calls = .ok next ∧ sim.Untouched next := by
  induction calls generalizing sim with
  | nil => exact ⟨sim, rfl, ⟨_, _, rfl⟩, fun _ _ => ⟨rfl, rfl⟩⟩
  | cons call rest ih =>
      obtain ⟨now, later⟩ := List.forall_mem_cons.mp outside
      obtain ⟨middle, performed, ⟨data, labels, rfl⟩, first⟩ := perform_outside copy buffer dram now.1 now.2
      obtain ⟨next, rested, ⟨data', labels', rfl⟩, second⟩ :=
        @ih (sim.withStores data labels) dram later
      refine ⟨_, (run_cons_of_ok performed).trans rested, ⟨data', labels', rfl⟩, ?_⟩
      intro offset inside
      have here := first offset inside
      have there := second offset inside
      exact ⟨there.1.trans here.1, there.2.trans here.2⟩

theorem run_program (copy : LabelCopy) {calls : List LoadCall} {last cursor : Nat}
    (contiguous : Contiguous last cursor calls) (lower : sim.programStart ≤ cursor)
    (upper : last ≤ sim.programStart + buffer.size.toNat) :
    ∃ next, run (LoadCall.perform copy (some buffer)) sim calls = .ok next := by
  induction calls generalizing sim cursor with
  | nil => exact ⟨sim, rfl⟩
  | cons call rest ih =>
      obtain ⟨place, contiguous⟩ := contiguous
      have reach := contiguous.le
      have above : sim.baseAddr ≤ call.start := by
        rw [UInt64.le_iff_toNat_le]
        simp only [programStart] at lower
        omega
      have fits : sim.CopyFits (some (sim.sourceAt buffer call.start)) call.start call.len := by
        intro source given _
        cases given
        rw [sourceAt_size above (by omega)]
        omega
      obtain ⟨middle, performed⟩ := (perform_ok_iff copy above).mpr fits
      obtain ⟨data, labels, rfl⟩ := perform_stores performed
      obtain ⟨next, rested⟩ :=
        @ih (sim.withStores data labels) _ contiguous (Nat.le_trans lower (Nat.le_add_right _ _)) upper
      exact ⟨next, (run_cons_of_ok performed).trans rested⟩

/-- What a region in the init code needs for its calls not to read past the
buffer. -/
theorem regionCalls_starts (above : sim.baseAddr ≤ start) (first : sim.baseAddr ≤ region.1)
    (addressable : sim.programStart + buffer.size.toNat < 2 ^ 64) (ordered : region.1.toNat ≤ region.2.toNat)
    (ran : run (LoadCall.perform copy (some buffer)) sim (regionCalls start region) = .ok next) :
    (start.toNat < sim.programStart → start.toNat < region.1.toNat → sim.Outside start) ∧
      (region.1.toNat < sim.programStart → region.1.toNat < region.2.toNat → sim.Outside region.1) := by
  have code : ∀ {state final : Simulator}, (∃ data labels, state = sim.withStores data labels) →
      run (LoadCall.perform copy (some buffer)) state [⟨.code, region.1, region.2 - region.1⟩] = .ok final →
      region.1.toNat < sim.programStart → region.1.toNat < region.2.toNat → sim.Outside region.1 := by
    rintro state final ⟨data, labels, rfl⟩ ran below long
    obtain ⟨middle, performed, -⟩ := run_cons_ok_iff.mp ran
    refine @outside_of_perform copy (sim.withStores data labels) middle buffer
      ⟨.code, region.1, region.2 - region.1⟩ first below addressable ?_ performed
    rw [toNat_sub_region ordered]
    omega
  rw [regionCalls] at ran
  split at ran
  · rename_i gap
    obtain ⟨middle, performed, rest⟩ := run_cons_ok_iff.mp ran
    refine ⟨fun below _ => ?_, code (perform_stores performed) rest⟩
    apply outside_of_perform above below addressable ?_ performed
    have before := UInt64.lt_iff_toNat_lt.mp gap
    rw [UInt64.toNat_sub_of_le _ _ (UInt64.le_of_lt gap)]
    omega
  · rename_i none
    refine ⟨fun _ before => ?_, code ⟨_, _, rfl⟩ ran⟩
    exact absurd (UInt64.lt_iff_toNat_lt.mpr before) none

theorem run_stores {calls : List LoadCall}
    (ran : run (LoadCall.perform copy (some buffer)) sim calls = .ok next) :
    ∃ data labels, next = sim.withStores data labels := by
  induction calls generalizing sim with
  | nil =>
      cases ran
      exact ⟨_, _, rfl⟩
  | cons call rest ih =>
      obtain ⟨middle, performed, ran⟩ := run_cons_ok_iff.mp ran
      obtain ⟨data, labels, rfl⟩ := perform_stores performed
      exact @ih (sim.withStores data labels) ran

/-- Where the cursor may stand if a call from it to `reach` may, or if `reach`
lies behind and may. -/
theorem settles_of_reach {reach : UInt64} (above : sim.baseAddr ≤ reach)
    (below : start.toNat ≤ sim.programStart)
    (gap : start.toNat < sim.programStart → start.toNat < reach.toNat → sim.Outside start)
    (settled : reach.toNat = sim.programStart ∨ sim.Outside reach) :
    start.toNat = sim.programStart ∨ sim.Outside start := by
  by_cases place : start.toNat = sim.programStart
  · exact .inl place
  · by_cases before : start.toNat < reach.toNat
    · exact .inr (gap (by omega) before)
    · exact .inr (outside_mono above (settled.resolve_left (by omega)) (by omega))

/-- An empty region in the init code moves the cursor back, and the next call
that is not empty starts there. -/
theorem starts_of_run (addressable : sim.programStart + buffer.size.toNat < 2 ^ 64)
    (inInit : ∀ region ∈ initRegions, sim.baseAddr.toNat ≤ region.1.toNat ∧
      region.1.toNat ≤ region.2.toNat ∧ region.2.toNat ≤ sim.programStart)
    (nonempty : regions ≠ []) (inProgram : ∀ region ∈ regions, sim.programStart ≤ region.1.toNat ∧
      region.1.toNat ≤ region.2.toNat)
    (above : sim.baseAddr ≤ start) (below : start.toNat ≤ sim.programStart)
    (ran : run (LoadCall.perform copy (some buffer)) sim
      (sectionCalls sim.initSize stop start (initRegions ++ regions)) = .ok next) :
    (start.toNat = sim.programStart ∨ sim.Outside start) ∧
      ∀ region ∈ sim.notIgnored initRegions, region.1.toNat = sim.programStart ∨ sim.Outside region.1 := by
  induction initRegions generalizing sim start with
  | nil =>
      refine ⟨?_, nofun⟩
      obtain ⟨region, rest, rfl⟩ := List.exists_cons_of_ne_nil nonempty
      obtain ⟨behind, ordered⟩ := inProgram region List.mem_cons_self
      have taken : ¬ region.1 < sim.initSize := by
        rw [UInt64.lt_iff_toNat_lt]
        simp only [programStart] at behind
        omega
      have first : sim.baseAddr ≤ region.1 := by
        rw [UInt64.le_iff_toNat_le] at above ⊢
        omega
      rw [List.nil_append, sectionCalls, if_neg taken, run_append] at ran
      obtain ⟨middle, ran, -⟩ := bind_ok_iff.mp ran
      by_cases place : start.toNat = sim.programStart
      · exact .inl place
      · exact .inr ((regionCalls_starts above first addressable ordered ran).1 (by omega) (by omega))
  | cons region rest ih =>
      obtain ⟨⟨first, ordered, last⟩, inInit⟩ := List.forall_mem_cons.mp inInit
      rw [List.cons_append, sectionCalls] at ran
      by_cases ignored : region.1 < sim.initSize
      · rw [if_pos ignored] at ran
        rw [notIgnored, List.filter_cons_of_neg (by simpa using ignored)]
        exact ih addressable inInit inProgram above below ran
      · rw [if_neg ignored, run_append] at ran
        obtain ⟨middle, now, later⟩ := bind_ok_iff.mp ran
        obtain ⟨data, labels, rfl⟩ := run_stores now
        have first := UInt64.le_iff_toNat_le.mpr first
        have reach : sim.baseAddr ≤ region.2 :=
          UInt64.le_trans first (UInt64.le_iff_toNat_le.mpr ordered)
        obtain ⟨cursor, others⟩ := @ih (sim.withStores data labels) region.2 addressable inInit inProgram reach
          last later
        obtain ⟨gap, code⟩ := regionCalls_starts above first addressable ordered now
        have own := settles_of_reach reach (ordered.trans last) code cursor
        refine ⟨settles_of_reach first below gap own, ?_⟩
        rw [notIgnored, List.filter_cons_of_pos (by simpa using ignored)]
        exact List.forall_mem_cons.mpr ⟨own, others⟩

/-- Empty regions at the start of the program make no difference. -/
theorem run_emptyRegions (copy : LabelCopy)
    (inInit : ∀ region ∈ initRegions, sim.baseAddr.toNat ≤ region.1.toNat ∧
      region.1.toNat ≤ region.2.toNat ∧ region.2.toNat ≤ sim.programStart)
    (starts : ∀ region ∈ sim.notIgnored initRegions,
      region.1.toNat = sim.programStart ∨ sim.Outside region.1)
    (place : start.toNat = sim.programStart) (inside : ¬ sim.Outside start) :
    run (LoadCall.perform copy (some buffer)) sim
        (sectionCalls sim.initSize stop start (initRegions ++ regions)) =
      run (LoadCall.perform copy (some buffer)) sim (sectionCalls sim.initSize stop start regions) := by
  induction initRegions with
  | nil => rfl
  | cons region rest ih =>
      obtain ⟨⟨first, ordered, last⟩, inInit⟩ := List.forall_mem_cons.mp inInit
      rw [List.cons_append, sectionCalls]
      by_cases ignored : region.1 < sim.initSize
      · rw [notIgnored, List.filter_cons_of_neg (by simpa using ignored)] at starts
        rw [if_pos ignored]
        exact ih inInit starts
      · rw [notIgnored, List.filter_cons_of_pos (by simpa using ignored)] at starts
        obtain ⟨own, starts⟩ := List.forall_mem_cons.mp starts
        have above := UInt64.le_iff_toNat_le.mpr first
        have here : region.1.toNat = sim.programStart :=
          own.resolve_right fun outside => inside (outside_mono above outside (by omega))
        have atStart : region.1 = start := UInt64.toNat_inj.mp (here.trans place.symm)
        have stays : region.2 = start := UInt64.toNat_inj.mp (by omega)
        have calls : regionCalls start region = [⟨.code, region.1, region.2 - region.1⟩] := by
          rw [regionCalls, if_neg (by rw [atStart]; exact UInt64.lt_irrefl _)]
          rfl
        have empty : (region.2 - region.1).toNat = 0 := by
          rw [toNat_sub_region ordered]
          omega
        rw [if_neg ignored, calls, List.singleton_append, run_cons_of_ok (perform_empty copy above rfl empty),
          stays]
        exact ih inInit starts

theorem sectionCalls_start {initSize : UInt64} {regions : List Region}
    (member : call ∈ sectionCalls initSize stop start regions) :
    call.start = start ∨ ∃ region ∈ regions, initSize ≤ region.1 ∧
      (call.start = region.1 ∨ call.start = region.2) := by
  induction regions generalizing start with
  | nil =>
      obtain rfl := List.mem_singleton.mp member
      exact .inl rfl
  | cons region rest ih =>
      rw [sectionCalls] at member
      split at member
      · rcases ih member with here | ⟨other, inside, place⟩
        · exact .inl here
        · exact .inr ⟨other, List.mem_cons_of_mem _ inside, place⟩
      · rename_i taken
        have taken := UInt64.not_lt.mp taken
        rcases List.mem_append.mp member with own | later
        · rcases List.mem_append.mp own with gap | code
          · split at gap
            · obtain rfl := List.mem_singleton.mp gap
              exact .inl rfl
            · cases gap
          · obtain rfl := List.mem_singleton.mp code
            exact .inr ⟨region, List.mem_cons_self, taken, .inl rfl⟩
        · rcases ih later with here | ⟨other, inside, place⟩
          · exact .inr ⟨region, List.mem_cons_self, taken, .inr here⟩
          · exact .inr ⟨other, List.mem_cons_of_mem _ inside, place⟩

theorem codeSizeOf_add (initSize : UInt64) (regions : List Region) (codeSize : UInt64) :
    codeSizeOf initSize regions codeSize = codeSize + codeSizeOf initSize regions 0 := by
  induction regions generalizing codeSize with
  | nil => simp [codeSizeOf]
  | cons region rest ih =>
      simp only [codeSizeOf, List.foldl_cons] at ih ⊢
      split
      · exact ih codeSize
      · rw [ih, ih (0 + _), UInt64.zero_add, UInt64.add_assoc]

theorem codeSizeOf_initRegions (ordered : ∀ region ∈ initRegions, region.1.toNat ≤ region.2.toNat) :
    (codeSizeOf sim.initSize initRegions 0).toNat = codeLength (sim.notIgnored initRegions) % 2 ^ 64 := by
  induction initRegions with
  | nil => rfl
  | cons region rest ih =>
      obtain ⟨own, ordered⟩ := List.forall_mem_cons.mp ordered
      have later := ih ordered
      simp only [codeSizeOf, List.foldl_cons] at later ⊢
      by_cases ignored : region.1 < sim.initSize
      · rw [notIgnored, List.filter_cons_of_neg (by simpa using ignored), if_pos ignored]
        exact later
      · have grown := codeSizeOf_add sim.initSize rest (0 + (region.2 - region.1))
        simp only [codeSizeOf] at grown
        rw [notIgnored, List.filter_cons_of_pos (by simpa using ignored), if_neg ignored, grown,
          UInt64.zero_add, UInt64.toNat_add, later, toNat_sub_region own]
        simp only [codeLength, List.map_cons, List.sum_cons, notIgnored]
        exact Nat.add_mod_mod _ _ _

theorem loadBytes_withRegions (copy : LabelCopy) (buf : Option Buffer) (addr len : UInt64) :
    (sim.withRegions regions).loadBytes copy buf addr len =
      (sim.loadBytes copy buf addr len).map fun loaded => (loaded.1, loaded.2.withRegions regions) := by
  by_cases skipped : buf = none ∨ sim.Outside addr
  · have other : buf = none ∨ (sim.withRegions regions).Outside addr := skipped
    rw [loadBytes_skipped copy len skipped, loadBytes_skipped copy len other]
    rfl
  · obtain ⟨given, inDram⟩ := not_or.mp skipped
    obtain ⟨source, rfl⟩ := Option.ne_none_iff_exists'.mp given
    obtain ⟨count, fits, load⟩ := loadBytes_inDram copy source len inDram
    obtain ⟨other, same, again⟩ := @loadBytes_inDram (sim.withRegions regions) addr copy source len inDram
    obtain rfl : other = count := UInt64.toNat_inj.mp (same.trans fits.symm)
    rw [load, again]
    split <;> rfl

theorem perform_withRegions (copy : LabelCopy) (buf : Option Buffer) (call : LoadCall) (regions : List Region) :
    call.perform copy buf (sim.withRegions regions) = (call.perform copy buf sim).map (withRegions · regions) := by
  have source : (sim.withRegions regions).bufferAt buf call.start = sim.bufferAt buf call.start := rfl
  rw [LoadCall.perform, LoadCall.perform, source]
  cases sim.bufferAt buf call.start with
  | error fault => rfl
  | ok source =>
      simp only [bind, Except.bind]
      cases call.kind with
      | code =>
          simp only [addCode, loadBytes_withRegions]
          cases sim.loadBytes copy source call.start call.len <;> rfl
      | data =>
          simp only [addData, loadBytes_withRegions]
          cases sim.loadBytes copy source call.start call.len with
          | error fault => rfl
          | ok loaded =>
              have offset : (loaded.2.withRegions regions).addrToDramOffset call.start =
                  loaded.2.addrToDramOffset call.start := rfl
              simp only [Except.map, bind, Except.bind, offset]
              cases loaded.2.addrToDramOffset call.start <;> rfl

theorem run_withRegions (copy : LabelCopy) (buf : Option Buffer) (calls : List LoadCall) (regions : List Region) :
    run (LoadCall.perform copy buf) (sim.withRegions regions) calls =
      (run (LoadCall.perform copy buf) sim calls).map (withRegions · regions) := by
  induction calls generalizing sim with
  | nil => rfl
  | cons call rest ih =>
      rw [run_cons, run_cons, perform_withRegions]
      cases call.perform copy buf sim with
      | error fault => rfl
      | ok next => exact ih

theorem loadProgramSections_withRegions (copy : LabelCopy) (buf : Option Buffer) (nonempty : regions ≠ []) :
    (sim.withRegions regions).loadProgramSections copy buf =
      (run (LoadCall.perform copy buf) sim (sectionCalls sim.initSize (sim.baseAddr + sim.programSize)
        (sim.dramOffsetToAddr sim.initSize) regions)).map
          fun loaded => (codeSizeOf sim.initSize regions 0, loaded.withRegions regions) := by
  have effective : (sim.withRegions regions).effectiveRegions = regions := if_neg nonempty
  rw [loadProgramSections_eq, loadCalls, effective]
  have moved := @run_withRegions sim copy buf (sectionCalls sim.initSize (sim.baseAddr + sim.programSize)
    (sim.dramOffsetToAddr sim.initSize) regions) regions
  refine (congrArg (· >>= _) moved).trans ?_
  generalize run (LoadCall.perform copy buf) sim _ = ran
  cases ran <;> rfl

/-! ## The whole load -/

theorem map_ok {α β : Type} {f : α → β} {computed : Except Fault α} {result : β}
    (succeeds : computed.map f = .ok result) : ∃ value, computed = .ok value ∧ f value = result := by
  cases computed with
  | error fault => cases succeeds
  | ok value => exact ⟨value, rfl, Except.ok.inj succeeds⟩

theorem RegionsFrom.each {last cursor : Nat} {regions : List Region} (ordered : RegionsFrom last cursor regions) :
    ∀ region ∈ regions, cursor ≤ region.1.toNat ∧ region.1.toNat ≤ region.2.toNat := by
  induction regions generalizing cursor with
  | nil => nofun
  | cons first rest ih =>
      obtain ⟨lower, upper, ordered⟩ := ordered
      refine List.forall_mem_cons.mpr ⟨⟨lower, upper⟩, ?_⟩
      intro region member
      have later := ih ordered region member
      exact ⟨by omega, later.2⟩

section Placed

variable (placed : InitPlaced sim buffer initRegions regions)

include placed

theorem InitPlaced.start_toNat : (sim.dramOffsetToAddr sim.initSize).toNat = sim.programStart := by
  have addressable := placed.addressable
  simp only [programStart] at addressable ⊢
  rw [dramOffsetToAddr, UInt64.toNat_add, Nat.mod_eq_of_lt (by omega), Nat.add_comm]

theorem InitPlaced.stop_toNat :
    (sim.baseAddr + sim.programSize).toNat = sim.programStart + buffer.size.toNat := by
  have addressable := placed.addressable
  simp only [programStart] at addressable ⊢
  rw [UInt64.toNat_add, placed.program, Nat.mod_eq_of_lt (by omega), Nat.add_assoc]

theorem InitPlaced.above : sim.baseAddr ≤ sim.dramOffsetToAddr sim.initSize := by
  rw [UInt64.le_iff_toNat_le, placed.start_toNat, programStart]
  exact Nat.le_add_right _ _

theorem InitPlaced.contiguous : Contiguous (sim.baseAddr + sim.programSize).toNat
    (sim.dramOffsetToAddr sim.initSize).toNat (sectionCalls sim.initSize (sim.baseAddr + sim.programSize)
      (sim.dramOffsetToAddr sim.initSize) regions) := by
  apply sectionCalls_contiguous
  · rw [placed.start_toNat, programStart]
    exact Nat.le_add_left _ _
  · rw [placed.start_toNat, placed.stop_toNat]
    exact placed.ordered

theorem InitPlaced.outside (starts : ∀ region ∈ sim.notIgnored initRegions,
      region.1.toNat = sim.programStart ∨ sim.Outside region.1)
    (behind : sim.Outside (sim.dramOffsetToAddr sim.initSize)) {call : LoadCall}
    (member : call ∈ sectionCalls sim.initSize (sim.baseAddr + sim.programSize)
      (sim.dramOffsetToAddr sim.initSize) (initRegions ++ regions)) :
    sim.baseAddr ≤ call.start ∧ sim.Outside call.start := by
  have start := placed.start_toNat
  have fromRegion : ∀ region : Region, sim.baseAddr ≤ region.1 → region.1.toNat ≤ region.2.toNat →
      sim.Outside region.1 → call.start = region.1 ∨ call.start = region.2 →
      sim.baseAddr ≤ call.start ∧ sim.Outside call.start := by
    rintro region above ordered outside (place | place)
    · rw [place]
      exact ⟨above, outside⟩
    · rw [place]
      exact ⟨UInt64.le_trans above (UInt64.le_iff_toNat_le.mpr ordered), outside_mono above outside ordered⟩
  rcases sectionCalls_start member with place | ⟨region, member, taken, place⟩
  · rw [place]
    exact ⟨placed.above, behind⟩
  · rcases List.mem_append.mp member with inInit | inProgram
    · obtain ⟨first, ordered, last⟩ := placed.inInit region inInit
      have above := UInt64.le_iff_toNat_le.mpr first
      apply fromRegion region above ordered ?_ place
      rcases starts region (List.mem_filter.mpr ⟨inInit, by simpa using taken⟩) with here | outside
      · exact outside_mono placed.above behind (by omega)
      · exact outside
    · obtain ⟨lower, ordered⟩ := placed.ordered.each region inProgram
      have reach : (sim.dramOffsetToAddr sim.initSize).toNat ≤ region.1.toNat := by omega
      exact fromRegion region (UInt64.le_trans placed.above (UInt64.le_iff_toNat_le.mpr reach)) ordered
        (outside_mono placed.above behind reach) place

/-- With harmless regions both loads succeed and leave the same DRAM. -/
theorem InitPlaced.runs (copy : LabelCopy) (starts : ∀ region ∈ sim.notIgnored initRegions,
      region.1.toNat = sim.programStart ∨ sim.Outside region.1) :
    ∃ first second,
      run (LoadCall.perform copy (some buffer)) sim (sectionCalls sim.initSize
        (sim.baseAddr + sim.programSize) (sim.dramOffsetToAddr sim.initSize) (initRegions ++ regions)) = .ok first ∧
      run (LoadCall.perform copy (some buffer)) sim (sectionCalls sim.initSize
        (sim.baseAddr + sim.programSize) (sim.dramOffsetToAddr sim.initSize) regions) = .ok second ∧
      ∀ offset < sim.memSize.toNat, first.memory.data offset = second.memory.data offset ∧
        first.labels offset = second.labels offset := by
  by_cases behind : sim.Outside (sim.dramOffsetToAddr sim.initSize)
  · have none : InitPlaced sim buffer [] regions := { placed with inInit := nofun }
    obtain ⟨first, ran, before⟩ := run_outside copy buffer placed.dram
      fun call member => placed.outside starts behind member
    obtain ⟨second, ran', after⟩ := run_outside copy buffer placed.dram
      fun call member => none.outside nofun behind member
    refine ⟨first, second, ran, ran', ?_⟩
    intro offset inside
    have left := before.same offset inside
    have right := after.same offset inside
    exact ⟨left.1.trans right.1.symm, left.2.trans right.2.symm⟩
  · obtain ⟨loaded, ran⟩ := run_program copy placed.contiguous (Nat.le_of_eq placed.start_toNat.symm)
      (Nat.le_of_eq placed.stop_toNat)
    refine ⟨loaded, loaded, ?_, ran, fun _ _ => ⟨rfl, rfl⟩⟩
    exact (run_emptyRegions copy placed.inInit starts placed.start_toNat behind).trans ran

end Placed

/-- Regions of the init code are ignored exactly when those that pass the test
are harmless: it lets an address pass that is not below the init size, and
then the loader reads past the program buffer or miscounts the code. -/
theorem init_regions_ignored_iff (copy : LabelCopy) (sim : Simulator) (buffer : Buffer)
    (initRegions regions : List Region) (placed : InitPlaced sim buffer initRegions regions) :
    sim.SameLoad ((sim.withRegions (initRegions ++ regions)).loadProgramSections copy (some buffer))
        ((sim.withRegions regions).loadProgramSections copy (some buffer)) ↔
      sim.Harmless initRegions := by
  have ordered : ∀ region ∈ initRegions, region.1.toNat ≤ region.2.toNat :=
    fun region member => (placed.inInit region member).2.1
  have sizes : codeSizeOf sim.initSize (initRegions ++ regions) 0 =
      codeSizeOf sim.initSize initRegions 0 + codeSizeOf sim.initSize regions 0 := by
    rw [← codeSizeOf_add]
    exact List.foldl_append
  rw [loadProgramSections_withRegions copy _ placed.nonempty,
    loadProgramSections_withRegions copy _ (List.append_ne_nil_of_right_ne_nil _ placed.nonempty)]
  constructor
  · rintro ⟨total, first, second, left, right, -⟩
    obtain ⟨loaded, ran, counted⟩ := map_ok left
    obtain ⟨other, -, alone⟩ := map_ok right
    have inProgram := placed.ordered.each
    refine ⟨?_, ?_⟩
    · exact (starts_of_run placed.addressable placed.inInit placed.nonempty inProgram placed.above
        (Nat.le_of_eq placed.start_toNat) ran).2
    · have none : codeSizeOf sim.initSize initRegions 0 = 0 := by
        have total := (congrArg Prod.fst counted).trans (congrArg Prod.fst alone).symm
        exact UInt64.add_eq_right.mp (sizes.symm.trans total)
      rw [← codeSizeOf_initRegions ordered, none]
      rfl
  · intro harmless
    obtain ⟨first, second, ran, ran', same⟩ := placed.runs copy harmless.starts
    have none : codeSizeOf sim.initSize initRegions 0 = 0 := by
      rw [← UInt64.toNat_inj, codeSizeOf_initRegions ordered, harmless.lengths]
      rfl
    rw [ran, ran', sizes, none, UInt64.zero_add]
    exact ⟨_, _, _, rfl, rfl, same⟩

def countingBuffer : Buffer := ⟨fun k => UInt8.ofNat (k + 1), 24⟩

theorem initPlaced_codeInTheMiddle {first last : UInt64}
    (inInit : 0x80000000 ≤ first.toNat ∧ first.toNat ≤ last.toNat ∧ last.toNat ≤ 0x80000008) :
    InitPlaced codeInTheMiddle countingBuffer [(first, last)] codeInTheMiddle.codeRegions where
  program := by decide
  addressable := by decide
  dram := by decide
  inInit := by
    intro region member
    obtain rfl := List.mem_singleton.mp member
    exact inInit
  nonempty := by decide
  ordered := ⟨by decide, by decide, (by decide : 0x80000018 ≤ 0x80000020)⟩

/-- An empty region at the start of the program. -/
theorem init_regions_ignored_iff_emptyRegion : codeInTheMiddle.SameLoad
    ((codeInTheMiddle.withRegions ([(0x80000008, 0x80000008)] ++ codeInTheMiddle.codeRegions)).loadProgramSections
      cleanCopy (some countingBuffer))
    ((codeInTheMiddle.withRegions codeInTheMiddle.codeRegions).loadProgramSections cleanCopy
      (some countingBuffer)) := by
  apply (init_regions_ignored_iff cleanCopy codeInTheMiddle countingBuffer _ _
    (initPlaced_codeInTheMiddle (by decide))).mpr ⟨?_, by decide⟩
  intro region member
  obtain rfl := List.mem_singleton.mp (List.mem_filter.mp member).1
  exact .inl (by decide)

/-- The eight bytes of init code as a code region: the loader reads the eight
bytes in front of the program buffer. -/
theorem init_regions_initCode :
    InitPlaced codeInTheMiddle countingBuffer [(0x80000000, 0x80000008)] codeInTheMiddle.codeRegions ∧
      (codeInTheMiddle.withRegions ([(0x80000000, 0x80000008)] ++ codeInTheMiddle.codeRegions)).loadProgramSections
        cleanCopy (some countingBuffer) = .error .outOfBounds ∧
      ¬ codeInTheMiddle.SameLoad
        ((codeInTheMiddle.withRegions ([(0x80000000, 0x80000008)] ++
          codeInTheMiddle.codeRegions)).loadProgramSections cleanCopy (some countingBuffer))
        ((codeInTheMiddle.withRegions codeInTheMiddle.codeRegions).loadProgramSections cleanCopy
          (some countingBuffer)) := by
  refine ⟨initPlaced_codeInTheMiddle (by decide), rfl, ?_⟩
  rintro ⟨total, first, second, left, -, -⟩
  cases left

end PhantomTrails.Simulator
