import Mathlib.Algebra.Order.Ring.Nat
import PhantomTrails.Simulator.TaintSetup

namespace PhantomTrails.Simulator

open Foundation Foundation.Machine

/-! # The program image

`loadProgramSections` as a list of `addCode` and `addData` calls.  For code
regions in order the calls follow each other from the end of the init code to
the end of the program, and the image in the DRAM is the buffer.
-/

variable {copy : LabelCopy} {sim next : Simulator} {buf : Option Buffer}

inductive SectionKind where
  | code
  | data
deriving DecidableEq, Repr

/-- A call of `addCode` or `addData`, with the addresses it is passed. -/
structure LoadCall where
  kind : SectionKind
  start : UInt64
  len : UInt64
deriving DecidableEq, Repr

def LoadCall.perform (copy : LabelCopy) (buf : Option Buffer) : Machine Simulator LoadCall Fault :=
  fun sim call => do
    let source ← sim.bufferAt buf call.start
    let (_, sim) ← (match call.kind with
      | .code => sim.addCode copy source call.start call.len
      | .data => sim.addData copy source call.start call.len)
    pure sim

def LoadCall.Covers (call : LoadCall) (addr : Nat) : Prop :=
  call.start.toNat ≤ addr ∧ addr < call.start.toNat + call.len.toNat

instance {call : LoadCall} {addr : Nat} : Decidable (call.Covers addr) :=
  inferInstanceAs (Decidable (_ ∧ _))

/-- The calls for one region: the data before it, then its code. -/
def regionCalls (start : UInt64) (region : Region) : List LoadCall :=
  (if region.1 > start then [⟨.data, start, region.1 - start⟩] else []) ++
    [⟨.code, region.1, region.2 - region.1⟩]

/-- The calls of the loader, from the moving start of the next section on. -/
def sectionCalls (initSize stop : UInt64) : (start : UInt64) → List Region → List LoadCall
  | start, [] => [⟨.data, start, stop - start⟩]
  | start, region :: rest =>
      if region.1 < initSize then sectionCalls initSize stop start rest
      else regionCalls start region ++ sectionCalls initSize stop region.2 rest

def loadCalls (sim : Simulator) : List LoadCall :=
  sectionCalls sim.initSize (sim.baseAddr + sim.programSize) (sim.dramOffsetToAddr sim.initSize)
    sim.effectiveRegions

def codeSizeOf (initSize : UInt64) (regions : List Region) (codeSize : UInt64) : UInt64 :=
  regions.foldl (fun size region =>
    if region.1 < initSize then size else size + (region.2 - region.1)) codeSize

/-! ## The loader makes these calls -/

def withStores (sim : Simulator) (data labels : Store UInt8) : Simulator :=
  { sim with memory := { sim.memory with data }, labels }

theorem loadBytes_stores {startAddr len count : UInt64}
    (load : sim.loadBytes copy buf startAddr len = .ok (count, next)) :
    ∃ data labels, next = sim.withStores data labels := by
  cases buf with
  | none =>
      cases load
      exact ⟨_, _, rfl⟩
  | some buffer =>
      simp only [loadBytes] at load
      split at load
      · cases load
        exact ⟨_, _, rfl⟩
      · obtain ⟨offset, -, load⟩ := bind_ok_iff.mp load
        split at load
        · cases load
          exact ⟨_, _, rfl⟩
        · contradiction

theorem perform_stores {call : LoadCall} (performed : call.perform copy buf sim = .ok next) :
    ∃ data labels, next = sim.withStores data labels := by
  obtain ⟨source, -, performed⟩ := bind_ok_iff.mp performed
  obtain ⟨⟨count, loaded⟩, load, same⟩ := bind_ok_iff.mp performed
  cases same
  cases kind : call.kind with
  | code =>
      rw [kind] at load
      exact loadBytes_stores load
  | data =>
      rw [kind] at load
      obtain ⟨⟨count, copied⟩, copying, rest⟩ := bind_ok_iff.mp load
      obtain ⟨offset, -, same⟩ := bind_ok_iff.mp rest
      obtain rfl := (Prod.mk.inj (Except.ok.inj same)).2
      obtain ⟨data, labels, rfl⟩ := loadBytes_stores copying
      exact ⟨_, _, rfl⟩

theorem perform_initSize {call : LoadCall} (performed : call.perform copy buf sim = .ok next) :
    next.initSize = sim.initSize := by
  obtain ⟨data, labels, rfl⟩ := perform_stores performed
  rfl

theorem loadSection_eq (copy : LabelCopy) (buf : Option Buffer) (sections : Sections) (region : Region) :
    loadSection copy buf sections region =
      if region.1 < sections.sim.initSize then .ok sections
      else run (LoadCall.perform copy buf) sections.sim (regionCalls sections.start region) >>= fun sim =>
        pure { sim, start := region.2, codeSize := sections.codeSize + (region.2 - region.1) } := by
  rw [loadSection]
  by_cases skipped : region.1 < sections.sim.initSize
  · rw [if_pos skipped, if_pos skipped]
  · rw [if_neg skipped, if_neg skipped, regionCalls]
    by_cases gap : region.1 > sections.start
    · simp only [gap, if_true, List.cons_append, List.nil_append, run_cons, run_nil, LoadCall.perform,
        bind_assoc, pure_bind]
    · simp only [gap, if_false, List.nil_append, run_cons, run_nil, LoadCall.perform, bind_assoc,
        pure_bind]

/-- The loop over the regions and the last section make the calls one after
the other. -/
theorem loadSections_eq (copy : LabelCopy) (buf : Option Buffer) (stop : UInt64) (sim : Simulator)
    (start codeSize : UInt64) (regions : List Region) :
    (run (loadSection copy buf) { sim, start, codeSize } regions >>= fun sections =>
      LoadCall.perform copy buf sections.sim ⟨.data, sections.start, stop - sections.start⟩ >>=
        fun sim => pure (sections.codeSize, sim)) =
      run (LoadCall.perform copy buf) sim (sectionCalls sim.initSize stop start regions) >>=
        fun loaded => pure (codeSizeOf sim.initSize regions codeSize, loaded) := by
  induction regions generalizing sim start codeSize with
  | nil =>
      simp only [sectionCalls, codeSizeOf, List.foldl_nil, run_cons, run_nil, bind_assoc, pure_bind]
  | cons region rest ih =>
      rw [run_cons, loadSection_eq, sectionCalls]
      by_cases skipped : region.1 < sim.initSize
      · simp only [skipped, if_true]
        exact (ih sim start codeSize).trans (by simp [codeSizeOf, skipped])
      · simp only [skipped, if_false, run_append, bind_assoc, pure_bind]
        have kept : Keeps (LoadCall.perform copy buf) (fun _ _ => True)
            (fun loaded => loaded.initSize = sim.initSize) :=
          fun _ _ _ _ before performed => (perform_initSize performed).trans before
        cases performed : run (LoadCall.perform copy buf) sim (regionCalls start region) with
        | error fault => rfl
        | ok loaded =>
            have same : loaded.initSize = sim.initSize :=
              kept.run (along_of_forall _ (fun _ _ => trivial) _) rfl performed
            have later := ih loaded region.2 (codeSize + (region.2 - region.1))
            rw [same] at later
            exact later.trans (by simp [codeSizeOf, skipped, bind, Except.bind])

theorem loadProgramSections_eq (copy : LabelCopy) (sim : Simulator) (buf : Option Buffer) :
    sim.loadProgramSections copy buf =
      run (LoadCall.perform copy buf) { sim with codeRegions := sim.effectiveRegions } (loadCalls sim) >>=
        fun loaded => pure (codeSizeOf sim.initSize sim.effectiveRegions 0, loaded) := by
  have calls := loadSections_eq copy buf (sim.baseAddr + sim.programSize)
    { sim with codeRegions := sim.effectiveRegions } (sim.dramOffsetToAddr sim.initSize) 0
    sim.effectiveRegions
  rw [loadCalls, ← calls, loadProgramSections]
  simp only [LoadCall.perform, bind_assoc, pure_bind]

/-! ## One section -/

/-- The addresses from `start` on, as offsets into the DRAM. -/
def InRange (sim : Simulator) (start len offset : Nat) : Prop :=
  start ≤ sim.baseAddr.toNat + offset ∧ sim.baseAddr.toNat + offset < start + len

/-- What `loadBytes` leaves when all bytes fit. -/
structure BytesLoaded (copy : LabelCopy) (source : Nat → UInt8) (start len : Nat)
    (sim next : Simulator) : Prop where
  same : next = sim.withStores next.memory.data next.labels
  inside : ∀ offset, sim.InRange start len offset →
    next.memory.data offset = source (sim.baseAddr.toNat + offset - start) ∧
      next.labels offset = copy.copy sim.labels (start - sim.baseAddr.toNat) len offset
  outside : ∀ offset, ¬ sim.InRange start len offset →
    next.memory.data offset = sim.memory.data offset ∧ next.labels offset = sim.labels offset

theorem addrToDramOffset_within (sim : Simulator) (addr : UInt64)
    (above : sim.baseAddr.toNat ≤ addr.toNat) :
    ∃ offset, sim.addrToDramOffset addr = .ok offset ∧
      offset.toNat = addr.toNat - sim.baseAddr.toNat := by
  have ordered : sim.baseAddr ≤ addr := UInt64.le_iff_toNat_le.mpr above
  exact ⟨_, if_pos ordered, UInt64.toNat_sub_of_le _ _ ordered⟩

theorem toNat_min (left right : UInt64) : (min left right).toNat = min left.toNat right.toNat := by
  change (if left ≤ right then left else right).toNat = _
  split
  · rename_i first
    exact (Nat.min_eq_left (UInt64.le_iff_toNat_le.mp first)).symm
  · rename_i second
    exact (Nat.min_eq_right (Nat.le_of_lt (UInt64.lt_iff_toNat_lt.mp (UInt64.not_le.mp second)))).symm

theorem at_size (buffer : Buffer) (offset : UInt64) :
    (buffer.at offset).size.toNat = buffer.size.toNat - offset.toNat := by
  have within : min offset buffer.size ≤ buffer.size := by
    rw [UInt64.le_iff_toNat_le, toNat_min]
    exact Nat.min_le_right _ _
  rw [Buffer.at, UInt64.toNat_sub_of_le _ _ within, toNat_min]
  omega

/-- A start at the end of the DRAM is skipped, but then there is nothing to
load. -/
theorem loadBytes_within (copy : LabelCopy) (source : Buffer) (startAddr len : UInt64)
    (addressable : sim.baseAddr.toNat + sim.memSize.toNat < 2 ^ 64)
    (lower : sim.baseAddr.toNat ≤ startAddr.toNat)
    (upper : startAddr.toNat + len.toNat ≤ sim.baseAddr.toNat + sim.memSize.toNat)
    (enough : len.toNat ≤ source.size.toNat) :
    ∃ count next, sim.loadBytes copy (some source) startAddr len = .ok (count, next) ∧
      BytesLoaded copy source.bytes startAddr.toNat len.toNat sim next := by
  obtain ⟨offset, found, place⟩ := addrToDramOffset_within sim startAddr lower
  have stop : (sim.baseAddr + sim.memSize).toNat = sim.baseAddr.toNat + sim.memSize.toNat := by
    rw [UInt64.toNat_add, Nat.mod_eq_of_lt addressable]
  have above : ¬ startAddr < sim.baseAddr := by
    rw [UInt64.lt_iff_toNat_lt]
    omega
  by_cases behind : startAddr ≥ sim.baseAddr + sim.memSize
  · have reached := UInt64.le_iff_toNat_le.mp behind
    refine ⟨0, sim, by simp only [loadBytes, above, behind, false_or, if_true], rfl, ?_, ?_⟩
    · rintro cell ⟨first, last⟩
      omega
    · exact fun _ _ => ⟨rfl, rfl⟩
  · have before := UInt64.lt_iff_toNat_lt.mp (UInt64.not_le.mp behind)
    have room : offset ≤ sim.memSize := by
      rw [UInt64.le_iff_toNat_le]
      omega
    have all : (min len (sim.memSize - offset)).toNat = len.toNat := by
      rw [toNat_min, UInt64.toNat_sub_of_le _ _ room]
      omega
    have available : min len (sim.memSize - offset) ≤ source.size := by
      rw [UInt64.le_iff_toNat_le, all]
      exact enough
    refine ⟨min len (sim.memSize - offset), sim.withStores
      (sim.memory.data.copy offset.toNat len.toNat source.bytes)
      (copy.copy sim.labels offset.toNat len.toNat), ?_, rfl, ?_, ?_⟩
    · simp only [loadBytes, above, behind, or_self, if_false, found, bind, Except.bind, available,
        if_true, all, pure, Except.pure, withStores]
    · rintro cell ⟨first, last⟩
      refine ⟨?_, by rw [place]; rfl⟩
      have copied : sim.memory.data.copy offset.toNat len.toNat source.bytes cell =
          source.bytes (cell - offset.toNat) := if_pos ⟨by omega, by omega⟩
      rw [show sim.baseAddr.toNat + cell - startAddr.toNat = cell - offset.toNat by omega]
      exact copied
    · intro cell outside
      have away : cell < offset.toNat ∨ offset.toNat + len.toNat ≤ cell := by
        simp only [InRange] at outside
        omega
      exact ⟨Store.copy_outside away, copy.frame _ _ _ _ away⟩

/-- The program lies behind the init code, in a DRAM that 64-bit addresses
reach. -/
structure ImageFits (sim : Simulator) (buffer : Buffer) : Prop where
  program : sim.programSize.toNat = sim.initSize.toNat + buffer.size.toNat
  fits : sim.initSize.toNat + buffer.size.toNat ≤ sim.memSize.toNat
  addressable : sim.baseAddr.toNat + sim.memSize.toNat < 2 ^ 64

/-- What one call leaves: the bytes of the program buffer, and the data label
on data. -/
structure CallDone (copy : LabelCopy) (buffer : Buffer) (call : LoadCall) (sim next : Simulator) :
    Prop where
  same : next = sim.withStores next.memory.data next.labels
  bytes : ∀ offset, call.Covers (sim.baseAddr.toNat + offset) →
    next.memory.data offset = buffer.bytes (offset - sim.initSize.toNat)
  dataLabel : call.kind = .data → ∀ offset, call.Covers (sim.baseAddr.toNat + offset) →
    next.labels offset = dataLbl
  codeLabel : call.kind = .code → ∀ offset, call.Covers (sim.baseAddr.toNat + offset) →
    next.labels offset =
      copy.copy sim.labels (call.start.toNat - sim.baseAddr.toNat) call.len.toNat offset
  outside : ∀ offset, ¬ call.Covers (sim.baseAddr.toNat + offset) →
    next.memory.data offset = sim.memory.data offset ∧ next.labels offset = sim.labels offset

theorem perform_done (copy : LabelCopy) {buffer : Buffer} (call : LoadCall) (image : ImageFits sim buffer)
    (lower : sim.baseAddr.toNat + sim.initSize.toNat ≤ call.start.toNat)
    (upper : call.start.toNat + call.len.toNat ≤
      sim.baseAddr.toNat + sim.initSize.toNat + buffer.size.toNat) :
    ∃ next, call.perform copy (some buffer) sim = .ok next ∧ CallDone copy buffer call sim next := by
  have fits := image.fits
  obtain ⟨offset, found, place⟩ := addrToDramOffset_within sim call.start (by omega)
  have behind : sim.initSize ≤ offset := by
    rw [UInt64.le_iff_toNat_le]
    omega
  have skip : (offset - sim.initSize).toNat =
      call.start.toNat - (sim.baseAddr.toNat + sim.initSize.toNat) := by
    rw [UInt64.toNat_sub_of_le _ _ behind]
    omega
  have enough : call.len.toNat ≤ (buffer.at (offset - sim.initSize)).size.toNat := by
    rw [at_size, skip]
    omega
  obtain ⟨count, loaded, load, done⟩ := loadBytes_within copy (buffer.at (offset - sim.initSize))
    call.start call.len image.addressable (by omega) (by omega) enough
  have bytes : ∀ cell, call.Covers (sim.baseAddr.toNat + cell) →
      loaded.memory.data cell = buffer.bytes (cell - sim.initSize.toNat) := by
    intro cell ⟨first, last⟩
    rw [(done.inside cell ⟨first, last⟩).1, Buffer.at, skip]
    simp only
    rw [show call.start.toNat - (sim.baseAddr.toNat + sim.initSize.toNat) +
      (sim.baseAddr.toNat + cell - call.start.toNat) = cell - sim.initSize.toNat by omega]
  cases kind : call.kind with
  | code =>
      refine ⟨loaded, ?_, done.same, bytes, ?_, fun _ cell covered => (done.inside cell covered).2,
        done.outside⟩
      · simp only [LoadCall.perform, bufferAt, advance, found, kind, addCode, load, bind, Except.bind,
          pure, Except.pure]
      · intro data
        cases kind.symm.trans data
  | data =>
      have again : loaded.addrToDramOffset call.start = .ok offset := by
        rw [done.same]
        exact found
      have filled : ∀ cell, call.Covers (sim.baseAddr.toNat + cell) ↔
          offset.toNat ≤ cell ∧ cell < offset.toNat + call.len.toNat := by
        intro cell
        simp only [LoadCall.Covers]
        omega
      refine ⟨loaded.taintMemory offset call.len dataLbl, ?_, ?_, bytes, fun _ cell covered => ?_, ?_,
        fun cell outside => ⟨(done.outside cell outside).1, ?_⟩⟩
      · simp only [LoadCall.perform, bufferAt, advance, found, again, kind, addData, load, bind,
          Except.bind, pure, Except.pure]
      · rw [done.same]
        rfl
      · exact if_pos ((filled cell).mp covered)
      · intro code
        cases kind.symm.trans code
      · rw [← (done.outside cell outside).2]
        exact if_neg fun inside => outside ((filled cell).mpr inside)

/-! ## All sections -/

/-- Each call starts where the one before it stopped. -/
def Contiguous (stop : Nat) : (cursor : Nat) → List LoadCall → Prop
  | cursor, [] => cursor = stop
  | cursor, call :: rest =>
      call.start.toNat = cursor ∧ Contiguous stop (cursor + call.len.toNat) rest

theorem Contiguous.le {stop cursor : Nat} {calls : List LoadCall}
    (contiguous : Contiguous stop cursor calls) : cursor ≤ stop := by
  induction calls generalizing cursor with
  | nil => exact Nat.le_of_eq contiguous
  | cons call rest ih => exact Nat.le_trans (Nat.le_add_right _ _) (ih contiguous.2)

/-- Contiguous calls partition the addresses between their two ends. -/
theorem Contiguous.countP_covers {stop cursor : Nat} {calls : List LoadCall}
    (contiguous : Contiguous stop cursor calls) (addr : Nat) :
    calls.countP (fun call => decide (call.Covers addr)) =
      if cursor ≤ addr ∧ addr < stop then 1 else 0 := by
  induction calls generalizing cursor with
  | nil =>
      have same : cursor = stop := contiguous
      rw [if_neg (by omega)]
      rfl
  | cons call rest ih =>
      obtain ⟨start, contiguous⟩ := contiguous
      have before := contiguous.le
      rw [List.countP_cons, ih contiguous]
      simp only [LoadCall.Covers, start, decide_eq_true_eq]
      by_cases here : cursor ≤ addr ∧ addr < cursor + call.len.toNat
      · rw [if_neg (by omega), if_pos here, if_pos (by omega)]
      · rw [if_neg here, Nat.add_zero]
        by_cases later : cursor + call.len.toNat ≤ addr ∧ addr < stop
        · rw [if_pos later, if_pos (by omega)]
        · rw [if_neg later, if_neg (by omega)]

/-- What contiguous calls leave of the DRAM and its labels. -/
structure CallsDone (copy : LabelCopy) (buffer : Buffer) (calls : List LoadCall) (cursor stop : Nat)
    (sim next : Simulator) : Prop where
  same : next = sim.withStores next.memory.data next.labels
  bytes : ∀ offset, cursor ≤ sim.baseAddr.toNat + offset → sim.baseAddr.toNat + offset < stop →
    next.memory.data offset = buffer.bytes (offset - sim.initSize.toNat)
  dataLabel : ∀ call ∈ calls, call.kind = .data → ∀ offset,
    call.Covers (sim.baseAddr.toNat + offset) → next.labels offset = dataLbl
  codeLabel : ∀ call ∈ calls, call.kind = .code → ∀ offset,
    call.Covers (sim.baseAddr.toNat + offset) → ∃ labels, next.labels offset =
      copy.copy labels (call.start.toNat - sim.baseAddr.toNat) call.len.toNat offset
  outside : ∀ offset, sim.baseAddr.toNat + offset < cursor ∨ stop ≤ sim.baseAddr.toNat + offset →
    next.memory.data offset = sim.memory.data offset ∧ next.labels offset = sim.labels offset

theorem Contiguous.start_ge {stop cursor : Nat} {calls : List LoadCall}
    (contiguous : Contiguous stop cursor calls) {call : LoadCall} (member : call ∈ calls) :
    cursor ≤ call.start.toNat := by
  induction calls generalizing cursor with
  | nil => cases member
  | cons first rest ih =>
      obtain ⟨start, contiguous⟩ := contiguous
      rcases List.mem_cons.mp member with rfl | member
      · exact Nat.le_of_eq start.symm
      · exact Nat.le_trans (Nat.le_add_right _ _) (ih contiguous member)

theorem CallDone.baseAddr {buffer : Buffer} {call : LoadCall} (done : CallDone copy buffer call sim next) :
    next.baseAddr = sim.baseAddr := by
  rw [done.same]
  rfl

theorem CallDone.initSize {buffer : Buffer} {call : LoadCall} (done : CallDone copy buffer call sim next) :
    next.initSize = sim.initSize := by
  rw [done.same]
  rfl

theorem CallDone.imageFits {buffer : Buffer} {call : LoadCall} (done : CallDone copy buffer call sim next)
    (image : ImageFits sim buffer) : ImageFits next buffer := by
  rw [done.same]
  exact ⟨image.program, image.fits, image.addressable⟩

/-- A call, and then the calls that start where it stops: they do not come
back to what it has loaded. -/
theorem CallDone.cons {buffer : Buffer} {call : LoadCall} {rest : List LoadCall} {cursor stop : Nat}
    {middle : Simulator} (now : CallDone copy buffer call sim middle)
    (later : CallsDone copy buffer rest (cursor + call.len.toNat) stop middle next)
    (start : call.start.toNat = cursor) (reach : cursor + call.len.toNat ≤ stop) :
    CallsDone copy buffer (call :: rest) cursor stop sim next := by
  have frame := later.outside
  rw [now.baseAddr] at frame
  have first : ∀ offset, call.Covers (sim.baseAddr.toNat + offset) →
      next.memory.data offset = middle.memory.data offset ∧
        next.labels offset = middle.labels offset := by
    rintro offset ⟨-, last⟩
    exact frame offset (.inl (by omega))
  refine ⟨?_, ?_, ?_, ?_, ?_⟩
  · apply later.same.trans ?_
    rw [now.same]
    rfl
  · intro offset reached inside
    by_cases covered : sim.baseAddr.toNat + offset < cursor + call.len.toNat
    · have covers : call.Covers (sim.baseAddr.toNat + offset) := ⟨by omega, by omega⟩
      rw [(first offset covers).1, now.bytes offset covers]
    · have rest := later.bytes offset (by rw [now.baseAddr]; omega) (by rw [now.baseAddr]; exact inside)
      rwa [now.initSize] at rest
  · intro other member data offset covers
    rcases List.mem_cons.mp member with rfl | member
    · rw [(first offset covers).2, now.dataLabel data offset covers]
    · exact later.dataLabel other member data offset (by rw [now.baseAddr]; exact covers)
  · intro other member code offset covers
    rcases List.mem_cons.mp member with rfl | member
    · exact ⟨sim.labels, by rw [(first offset covers).2, now.codeLabel code offset covers]⟩
    · have rest := later.codeLabel other member code offset (by rw [now.baseAddr]; exact covers)
      rwa [now.baseAddr] at rest
  · intro offset outside
    have untouched := now.outside offset (by
      intro ⟨above, below⟩
      omega)
    have rest := frame offset (by omega)
    exact ⟨rest.1.trans untouched.1, rest.2.trans untouched.2⟩

theorem run_perform_done (copy : LabelCopy) {buffer : Buffer} {calls : List LoadCall} {cursor stop : Nat}
    (image : ImageFits sim buffer) (contiguous : Contiguous stop cursor calls)
    (lower : sim.baseAddr.toNat + sim.initSize.toNat ≤ cursor)
    (upper : stop ≤ sim.baseAddr.toNat + sim.initSize.toNat + buffer.size.toNat) :
    ∃ next, run (LoadCall.perform copy (some buffer)) sim calls = .ok next ∧
      CallsDone copy buffer calls cursor stop sim next := by
  induction calls generalizing sim cursor with
  | nil =>
      have same : cursor = stop := contiguous
      refine ⟨sim, rfl, rfl, fun _ _ _ => by omega, ?_, ?_, fun _ _ => ⟨rfl, rfl⟩⟩
      · intro call member
        cases member
      · intro call member
        cases member
  | cons call rest ih =>
      obtain ⟨start, contiguous⟩ := contiguous
      have reach := contiguous.le
      obtain ⟨middle, performed, now⟩ := perform_done copy call image (by omega) (by omega)
      obtain ⟨next, rested, later⟩ := ih (now.imageFits image) contiguous
        (by rw [now.baseAddr, now.initSize]; omega) (by rw [now.baseAddr, now.initSize]; exact upper)
      exact ⟨next, (run_cons_of_ok performed).trans rested, now.cons later start reach⟩

/-! ## The code regions -/

/-- Code regions in order, from `cursor` on and up to `stop`. -/
def RegionsFrom (stop : Nat) : (cursor : Nat) → List Region → Prop
  | cursor, [] => cursor ≤ stop
  | cursor, region :: rest =>
      cursor ≤ region.1.toNat ∧ region.1.toNat ≤ region.2.toNat ∧ RegionsFrom stop region.2.toNat rest

def InRegions (regions : List Region) (addr : Nat) : Prop :=
  ∃ region ∈ regions, region.1.toNat ≤ addr ∧ addr < region.2.toNat

theorem inRegions_cons {region : Region} {rest : List Region} {addr : Nat} :
    InRegions (region :: rest) addr ↔
      (region.1.toNat ≤ addr ∧ addr < region.2.toNat) ∨ InRegions rest addr := by
  simp [InRegions]

theorem RegionsFrom.le {stop cursor : Nat} {regions : List Region}
    (ordered : RegionsFrom stop cursor regions) : cursor ≤ stop := by
  induction regions generalizing cursor with
  | nil => exact ordered
  | cons region rest ih => exact Nat.le_trans ordered.1 (Nat.le_trans ordered.2.1 (ih ordered.2.2))

theorem RegionsFrom.bounds {stop cursor addr : Nat} {regions : List Region}
    (ordered : RegionsFrom stop cursor regions) (inside : InRegions regions addr) :
    cursor ≤ addr ∧ addr < stop := by
  induction regions generalizing cursor with
  | nil =>
      obtain ⟨region, member, -⟩ := inside
      cases member
  | cons first rest ih =>
      obtain ⟨lower, upper, ordered⟩ := ordered
      have last := ordered.le
      obtain ⟨region, member, above, below⟩ := inside
      rcases List.mem_cons.mp member with rfl | member
      · omega
      · have later := ih ordered ⟨region, member, above, below⟩
        omega

theorem toNat_sub_region {region : Region} (ordered : region.1.toNat ≤ region.2.toNat) :
    (region.2 - region.1).toNat = region.2.toNat - region.1.toNat :=
  UInt64.toNat_sub_of_le _ _ (UInt64.le_iff_toNat_le.mpr ordered)

/-- The calls for one region reach from the end of the section before it to
its own end. -/
theorem regionCalls_contiguous {start : UInt64} {region : Region} {stop : Nat} {rest : List LoadCall}
    (lower : start.toNat ≤ region.1.toNat) (ordered : region.1.toNat ≤ region.2.toNat)
    (later : Contiguous stop region.2.toNat rest) :
    Contiguous stop start.toNat (regionCalls start region ++ rest) := by
  have code : Contiguous stop region.1.toNat (⟨.code, region.1, region.2 - region.1⟩ :: rest) := by
    refine ⟨rfl, ?_⟩
    simp only [toNat_sub_region ordered, Nat.add_sub_cancel' ordered]
    exact later
  rw [regionCalls]
  split
  · rename_i gap
    refine ⟨rfl, ?_⟩
    simp only [UInt64.toNat_sub_of_le _ _ (UInt64.le_of_lt gap), Nat.add_sub_cancel' lower]
    exact code
  · rename_i none
    have same : start.toNat = region.1.toNat := by
      have above := UInt64.le_iff_toNat_le.mp (UInt64.not_lt.mp none)
      omega
    rw [same]
    exact code

theorem sectionCalls_contiguous {initSize stop start : UInt64} {regions : List Region}
    (initLow : initSize.toNat ≤ start.toNat) (ordered : RegionsFrom stop.toNat start.toNat regions) :
    Contiguous stop.toNat start.toNat (sectionCalls initSize stop start regions) := by
  induction regions generalizing start with
  | nil =>
      have below : start.toNat ≤ stop.toNat := ordered
      refine ⟨rfl, ?_⟩
      simp only [UInt64.toNat_sub_of_le _ _ (UInt64.le_iff_toNat_le.mpr below)]
      exact Nat.add_sub_cancel' below
  | cons region rest ih =>
      obtain ⟨lower, upper, ordered⟩ := ordered
      have behind : ¬ region.1 < initSize := by
        rw [UInt64.lt_iff_toNat_lt]
        omega
      rw [sectionCalls, if_neg behind]
      exact regionCalls_contiguous lower upper (ih (by omega) ordered)

theorem sectionCalls_code {initSize stop start : UInt64} {regions : List Region} {bound addr : Nat}
    (initLow : initSize.toNat ≤ start.toNat) (ordered : RegionsFrom bound start.toNat regions) :
    (∃ call ∈ sectionCalls initSize stop start regions, call.kind = .code ∧ call.Covers addr) ↔
      InRegions regions addr := by
  induction regions generalizing start with
  | nil => simp [sectionCalls, InRegions]
  | cons region rest ih =>
      obtain ⟨lower, upper, ordered⟩ := ordered
      have behind : ¬ region.1 < initSize := by
        rw [UInt64.lt_iff_toNat_lt]
        omega
      have own : (∃ call ∈ regionCalls start region, call.kind = .code ∧ call.Covers addr) ↔
          region.1.toNat ≤ addr ∧ addr < region.2.toNat := by
        have reach : region.1.toNat + (region.2.toNat - region.1.toNat) = region.2.toNat := by omega
        rw [regionCalls]
        split <;> simp [LoadCall.Covers, toNat_sub_region upper, reach]
      simp only [sectionCalls, if_neg behind, List.mem_append, or_and_right, exists_or, own,
        ih (by omega) ordered, inRegions_cons]

theorem sectionCalls_data {initSize stop start : UInt64} {regions : List Region} {addr : Nat}
    (initLow : initSize.toNat ≤ start.toNat) (ordered : RegionsFrom stop.toNat start.toNat regions) :
    (∃ call ∈ sectionCalls initSize stop start regions, call.kind = .data ∧ call.Covers addr) ↔
      (start.toNat ≤ addr ∧ addr < stop.toNat) ∧ ¬ InRegions regions addr := by
  induction regions generalizing start with
  | nil =>
      have below : start.toNat ≤ stop.toNat := ordered
      have reach : start.toNat + (stop.toNat - start.toNat) = stop.toNat := by omega
      simp [sectionCalls, LoadCall.Covers, InRegions, reach,
        UInt64.toNat_sub_of_le _ _ (UInt64.le_iff_toNat_le.mpr below)]
  | cons region rest ih =>
      obtain ⟨lower, upper, ordered⟩ := ordered
      have behind : ¬ region.1 < initSize := by
        rw [UInt64.lt_iff_toNat_lt]
        omega
      have own : (∃ call ∈ regionCalls start region, call.kind = .data ∧ call.Covers addr) ↔
          start.toNat ≤ addr ∧ addr < region.1.toNat := by
        rw [regionCalls]
        split
        · rename_i gap
          have reach : start.toNat + (region.1.toNat - start.toNat) = region.1.toNat := by omega
          simp [LoadCall.Covers, UInt64.toNat_sub_of_le _ _ (UInt64.le_of_lt gap), reach]
        · rename_i none
          have above := UInt64.le_iff_toNat_le.mp (UInt64.not_lt.mp none)
          have empty : ¬ (start.toNat ≤ addr ∧ addr < region.1.toNat) := by omega
          simp [empty]
      have later : InRegions rest addr → region.2.toNat ≤ addr ∧ addr < stop.toNat := ordered.bounds
      have last := ordered.le
      simp only [sectionCalls, if_neg behind, List.mem_append, or_and_right, exists_or, own,
        ih (by omega) ordered, inRegions_cons]
      by_cases inRest : InRegions rest addr
      · simp only [inRest, not_true_eq_false, and_false, or_false, or_true, iff_false]
        have place := later inRest
        omega
      · simp only [inRest, not_false_eq_true, and_true, or_false]
        omega

def codeLength (regions : List Region) : Nat :=
  (regions.map fun region => region.2.toNat - region.1.toNat).sum

theorem codeSizeOf_toNat {initSize : UInt64} (size : UInt64) {regions : List Region} {stop cursor : Nat}
    (initLow : initSize.toNat ≤ cursor) (ordered : RegionsFrom stop cursor regions)
    (room : size.toNat + (stop - cursor) < 2 ^ 64) :
    (codeSizeOf initSize regions size).toNat = size.toNat + codeLength regions := by
  induction regions generalizing size cursor with
  | nil => simp [codeSizeOf, codeLength]
  | cons region rest ih =>
      obtain ⟨lower, upper, ordered⟩ := ordered
      have last := ordered.le
      have behind : ¬ region.1 < initSize := by
        rw [UInt64.lt_iff_toNat_lt]
        omega
      have grown : (size + (region.2 - region.1)).toNat =
          size.toNat + (region.2.toNat - region.1.toNat) := by
        rw [UInt64.toNat_add, toNat_sub_region upper]
        exact Nat.mod_eq_of_lt (by omega)
      have rested := ih (size + (region.2 - region.1)) (by omega) ordered (by omega)
      simp only [codeSizeOf, codeLength, List.foldl_cons, if_neg behind, List.map_cons,
        List.sum_cons] at rested ⊢
      rw [rested, grown, Nat.add_assoc]

/-! ## The whole image -/

/-- The code regions lie in the program, in order, without overlap. -/
structure RegionsPlaced (sim : Simulator) (buffer : Buffer) : Prop where
  ordered : ∀ region ∈ sim.codeRegions, region.1.toNat ≤ region.2.toNat
  inside : ∀ region ∈ sim.codeRegions,
    sim.baseAddr.toNat + sim.initSize.toNat ≤ region.1.toNat ∧
      region.2.toNat ≤ sim.baseAddr.toNat + sim.initSize.toNat + buffer.size.toNat
  disjoint : sim.codeRegions.Pairwise fun earlier later => earlier.2.toNat ≤ later.1.toNat

/-- The offsets of the program image in the DRAM. -/
def InImage (sim : Simulator) (buffer : Buffer) (offset : Nat) : Prop :=
  sim.initSize.toNat ≤ offset ∧ offset < sim.initSize.toNat + buffer.size.toNat

instance {sim : Simulator} {buffer : Buffer} {offset : Nat} : Decidable (sim.InImage buffer offset) :=
  inferInstanceAs (Decidable (_ ∧ _))

/-- A `memcpy` that gives every byte it writes the label of the untainted
program buffer. -/
def CopiesUntainted (copy : LabelCopy) : Prop :=
  ∀ labels start count cell, start ≤ cell → cell < start + count →
    copy.copy labels start count cell = untaintedLbl

/-- The image in the DRAM, the labels over it, and the calls that put it
there.  `sim` is the simulator before the loader runs. -/
structure ImageLoaded (copy : LabelCopy) (buffer : Buffer) (sim next : Simulator) (total : UInt64) :
    Prop where
  bytes : ∀ k < buffer.size.toNat, next.memory.data (sim.initSize.toNat + k) = buffer.bytes k
  others : ∀ offset, ¬ sim.InImage buffer offset →
    next.memory.data offset = sim.memory.data offset ∧ next.labels offset = sim.labels offset
  partition : ∀ offset,
    sim.loadCalls.countP (fun call => decide (call.Covers (sim.baseAddr.toNat + offset))) =
      if sim.InImage buffer offset then 1 else 0
  codeCalls : ∀ offset, (∃ call ∈ sim.loadCalls, call.kind = .code ∧
      call.Covers (sim.baseAddr.toNat + offset)) ↔
    InRegions sim.effectiveRegions (sim.baseAddr.toNat + offset)
  dataCalls : ∀ offset, (∃ call ∈ sim.loadCalls, call.kind = .data ∧
      call.Covers (sim.baseAddr.toNat + offset)) ↔
    sim.InImage buffer offset ∧ ¬ InRegions sim.effectiveRegions (sim.baseAddr.toNat + offset)
  dataLabels : ∀ offset, sim.InImage buffer offset →
    ¬ InRegions sim.effectiveRegions (sim.baseAddr.toNat + offset) → next.labels offset = dataLbl
  codeLabels : ∀ offset, InRegions sim.effectiveRegions (sim.baseAddr.toNat + offset) →
    ∃ labels start count, start ≤ offset ∧ offset < start + count ∧
      next.labels offset = copy.copy labels start count offset
  exactly : CopiesUntainted copy → ∀ offset, sim.InImage buffer offset →
    (next.labels offset = dataLbl ↔
      ¬ InRegions sim.effectiveRegions (sim.baseAddr.toNat + offset))
  codeSize : total.toNat = codeLength sim.effectiveRegions
  allCode : sim.codeRegions = [] → total = buffer.size

theorem regionsFrom_of_pairwise {stop cursor : Nat} {regions : List Region} (below : cursor ≤ stop)
    (ordered : ∀ region ∈ regions, region.1.toNat ≤ region.2.toNat)
    (inside : ∀ region ∈ regions, cursor ≤ region.1.toNat ∧ region.2.toNat ≤ stop)
    (disjoint : regions.Pairwise fun earlier later => earlier.2.toNat ≤ later.1.toNat) :
    RegionsFrom stop cursor regions := by
  induction regions generalizing cursor with
  | nil => exact below
  | cons region rest ih =>
      obtain ⟨first, others⟩ := List.forall_mem_cons.mp inside
      obtain ⟨before, disjoint⟩ := List.pairwise_cons.mp disjoint
      refine ⟨first.1, ordered region List.mem_cons_self, ?_⟩
      apply ih first.2 (fun later member => ordered later (List.mem_cons_of_mem _ member)) ?_ disjoint
      exact fun later member => ⟨before later member, (others later member).2⟩

theorem programStart_toNat {buffer : Buffer} (image : ImageFits sim buffer) :
    (sim.dramOffsetToAddr sim.initSize).toNat = sim.baseAddr.toNat + sim.initSize.toNat := by
  have fits := image.fits
  have addressable := image.addressable
  rw [dramOffsetToAddr, UInt64.toNat_add, Nat.mod_eq_of_lt (by omega), Nat.add_comm]

theorem programStop_toNat {buffer : Buffer} (image : ImageFits sim buffer) :
    (sim.baseAddr + sim.programSize).toNat =
      sim.baseAddr.toNat + sim.initSize.toNat + buffer.size.toNat := by
  have fits := image.fits
  have addressable := image.addressable
  rw [UInt64.toNat_add, image.program, Nat.mod_eq_of_lt (by omega), Nat.add_assoc]

theorem RegionsPlaced.effective {buffer : Buffer} (regions : RegionsPlaced sim buffer)
    (image : ImageFits sim buffer) :
    RegionsFrom (sim.baseAddr + sim.programSize).toNat (sim.dramOffsetToAddr sim.initSize).toNat
      sim.effectiveRegions := by
  have start := programStart_toNat image
  have stop := programStop_toNat image
  rw [effectiveRegions]
  split
  · exact ⟨Nat.le_refl _, by rw [start, stop]; omega, Nat.le_refl _⟩
  · apply regionsFrom_of_pairwise (by omega) regions.ordered ?_ regions.disjoint
    rw [start, stop]
    exact regions.inside

theorem inImage_iff {buffer : Buffer} (image : ImageFits sim buffer) (offset : Nat) :
    sim.InImage buffer offset ↔
      (sim.dramOffsetToAddr sim.initSize).toNat ≤ sim.baseAddr.toNat + offset ∧
        sim.baseAddr.toNat + offset < (sim.baseAddr + sim.programSize).toNat := by
  rw [InImage, programStart_toNat image, programStop_toNat image]
  omega

section LoadCalls

variable {buffer : Buffer} (image : ImageFits sim buffer) (regions : RegionsPlaced sim buffer)

include image in
theorem initSize_le_programStart :
    sim.initSize.toNat ≤ (sim.dramOffsetToAddr sim.initSize).toNat := by
  rw [programStart_toNat image]
  exact Nat.le_add_left _ _

include image regions

theorem loadCalls_contiguous : Contiguous (sim.baseAddr + sim.programSize).toNat
    (sim.dramOffsetToAddr sim.initSize).toNat sim.loadCalls :=
  sectionCalls_contiguous (initSize_le_programStart image) (regions.effective image)

theorem loadCalls_code (offset : Nat) :
    (∃ call ∈ sim.loadCalls, call.kind = .code ∧ call.Covers (sim.baseAddr.toNat + offset)) ↔
      InRegions sim.effectiveRegions (sim.baseAddr.toNat + offset) :=
  sectionCalls_code (initSize_le_programStart image) (regions.effective image)

theorem loadCalls_data (offset : Nat) :
    (∃ call ∈ sim.loadCalls, call.kind = .data ∧ call.Covers (sim.baseAddr.toNat + offset)) ↔
      sim.InImage buffer offset ∧ ¬ InRegions sim.effectiveRegions (sim.baseAddr.toNat + offset) := by
  rw [inImage_iff image]
  exact sectionCalls_data (initSize_le_programStart image) (regions.effective image)

theorem codeSizeOf_effectiveRegions :
    (codeSizeOf sim.initSize sim.effectiveRegions 0).toNat = codeLength sim.effectiveRegions := by
  have room := UInt64.toNat_lt (sim.baseAddr + sim.programSize)
  have sum := codeSizeOf_toNat 0 (initSize_le_programStart image) (regions.effective image)
    (by simp; omega)
  simpa using sum

variable (done : CallsDone copy buffer sim.loadCalls (sim.dramOffsetToAddr sim.initSize).toNat
  (sim.baseAddr + sim.programSize).toNat { sim with codeRegions := sim.effectiveRegions } next)

include done

theorem CallsDone.dataLabels {offset : Nat} (inside : sim.InImage buffer offset)
    (outside : ¬ InRegions sim.effectiveRegions (sim.baseAddr.toNat + offset)) :
    next.labels offset = dataLbl := by
  obtain ⟨call, member, kind, covers⟩ := (loadCalls_data image regions offset).mpr ⟨inside, outside⟩
  exact done.dataLabel call member kind offset covers

theorem CallsDone.codeLabels {offset : Nat}
    (inside : InRegions sim.effectiveRegions (sim.baseAddr.toNat + offset)) :
    ∃ labels start count, start ≤ offset ∧ offset < start + count ∧
      next.labels offset = copy.copy labels start count offset := by
  obtain ⟨call, member, kind, covers⟩ := (loadCalls_code image regions offset).mpr inside
  obtain ⟨labels, label⟩ := done.codeLabel call member kind offset covers
  have above := (loadCalls_contiguous image regions).start_ge member
  have start := programStart_toNat image
  obtain ⟨first, last⟩ := covers
  refine ⟨labels, call.start.toNat - sim.baseAddr.toNat, call.len.toNat, ?_, ?_, label⟩
  · omega
  · omega

theorem CallsDone.imageLoaded :
    ImageLoaded copy buffer sim next (codeSizeOf sim.initSize sim.effectiveRegions 0) where
  bytes := by
    intro k bound
    have place := (inImage_iff image (sim.initSize.toNat + k)).mp ⟨by omega, by omega⟩
    have byte := done.bytes (sim.initSize.toNat + k) place.1 place.2
    simpa using byte
  others := by
    intro offset outside
    rw [inImage_iff image] at outside
    have away : sim.baseAddr.toNat + offset < (sim.dramOffsetToAddr sim.initSize).toNat ∨
        (sim.baseAddr + sim.programSize).toNat ≤ sim.baseAddr.toNat + offset := by omega
    exact done.outside offset away
  partition := by
    intro offset
    rw [(loadCalls_contiguous image regions).countP_covers]
    simp only [inImage_iff image]
  codeCalls := loadCalls_code image regions
  dataCalls := loadCalls_data image regions
  dataLabels := fun _ inside outside => done.dataLabels image regions inside outside
  codeLabels := fun _ inside => done.codeLabels image regions inside
  exactly := by
    intro untainted offset inside
    refine ⟨fun label region => ?_, fun outside => done.dataLabels image regions inside outside⟩
    obtain ⟨labels, first, count, above, below, copied⟩ := done.codeLabels image regions region
    rw [copied, untainted labels first count offset above below] at label
    cases label
  codeSize := codeSizeOf_effectiveRegions image regions
  allCode := by
    intro none
    rw [← UInt64.toNat_inj, codeSizeOf_effectiveRegions image regions, effectiveRegions, if_pos none]
    simp [codeLength, programStart_toNat image, programStop_toNat image]

end LoadCalls

theorem loader_reproduces_image (copy : LabelCopy) (sim : Simulator) (buffer : Buffer)
    (image : ImageFits sim buffer) (regions : RegionsPlaced sim buffer) :
    ∃ total next, sim.loadProgramSections copy (some buffer) = .ok (total, next) ∧
      run (LoadCall.perform copy (some buffer)) { sim with codeRegions := sim.effectiveRegions }
        sim.loadCalls = .ok next ∧
      ImageLoaded copy buffer sim next total := by
  have placed : ImageFits { sim with codeRegions := sim.effectiveRegions } buffer :=
    ⟨image.program, image.fits, image.addressable⟩
  obtain ⟨next, performed, done⟩ := run_perform_done copy placed (loadCalls_contiguous image regions)
    (Nat.le_of_eq (programStart_toNat image).symm) (Nat.le_of_eq (programStop_toNat image))
  refine ⟨codeSizeOf sim.initSize sim.effectiveRegions 0, next, ?_, performed,
    done.imageLoaded image regions⟩
  rw [loadProgramSections_eq, performed]
  rfl

def codeInTheMiddle : Simulator where
  memory := .fresh .tiny fun _ => 0
  labels := fun _ => 0
  programSize := 32
  initSize := 8
  codeRegions := [(0x80000010, 0x80000018)]

/-- Eight bytes of init code, and one code region in the middle of the
program. -/
theorem loader_reproduces_image_codeInTheMiddle : ∃ total next,
    codeInTheMiddle.loadProgramSections cleanCopy (some ⟨fun k => UInt8.ofNat (k + 1), 24⟩) =
        .ok (total, next) ∧
      total.toNat = 8 ∧ next.memory.data 31 = 24 ∧ next.labels 15 = dataLbl ∧
      next.labels 16 ≠ dataLbl := by
  have regions : RegionsPlaced codeInTheMiddle ⟨fun k => UInt8.ofNat (k + 1), 24⟩ := by
    refine ⟨?_, ?_, List.pairwise_singleton _ _⟩
    · intro region member
      obtain rfl := List.mem_singleton.mp member
      decide
    · intro region member
      obtain rfl := List.mem_singleton.mp member
      decide
  obtain ⟨total, next, loaded, -, image⟩ := loader_reproduces_image cleanCopy codeInTheMiddle
    ⟨fun k => UInt8.ofNat (k + 1), 24⟩ ⟨by decide, by decide, by decide⟩ regions
  have clean : CopiesUntainted cleanCopy := fun _ _ _ _ => Store.fill_inside
  refine ⟨total, next, loaded, image.codeSize, image.bytes 23 (by decide), ?_, ?_⟩
  · apply (image.exactly clean 15 (by decide)).mpr ?_
    rintro ⟨region, member, above, -⟩
    obtain rfl := List.mem_singleton.mp member
    exact absurd above (by decide)
  · apply fun label => (image.exactly clean 16 (by decide)).mp label ?_
    exact ⟨_, List.mem_cons_self, by decide, by decide⟩

end PhantomTrails.Simulator
