import PhantomTrails.ArchSim.Trace
import PhantomTrails.Foundation.TrailingRun

namespace PhantomTrails

open Foundation

/-! # Programs that are stuck

The fetch recorder counts how often the last fetch was repeated, and
remembers that there was a row of twelve.
-/

/-- The addresses that were fetched from, one for each fetch. -/
def fetchAddrs (events : List TraceEvent) : List UInt64 :=
  (events.filter fun event => event.type = .fetch).map TraceEvent.addr

namespace FetchRecorder

variable {recorder : FetchRecorder} {addrs : List UInt64} {addr : UInt64}
variable {event : TraceEvent} {events more : List TraceEvent}

/-- The counter is one less than the length of the row, until the row is
twelve; from there on only the flag counts. -/
structure Counts (recorder : FetchRecorder) (addrs : List UInt64) : Prop where
  fresh : addrs = [] → recorder.lastAccessed = 0
  stuck : recorder.stuck = true ↔ ContainsEqual 12 addrs
  running : recorder.stuck = false → addrs ≠ [] →
    TrailingRun addrs recorder.lastAccessed (recorder.nSameInst.toNat + 1)

theorem counts_initial : Counts {} [] where
  fresh := fun _ => rfl
  stuck := by
    have short : ¬ ContainsEqual 12 ([] : List UInt64) := not_containsEqual_of_short (by decide)
    simp [short]
  running := fun _ nonempty => absurd rfl nonempty

/-- No row of twelve without the flag, so the counter does not wrap. -/
theorem Counts.nSameInst_le (counts : Counts recorder addrs) (moving : recorder.stuck = false) (nonempty : addrs ≠ []) :
    recorder.nSameInst.toNat ≤ 10 := by
  by_contra above
  have run := counts.running moving nonempty
  obtain ⟨item, -, suffix⟩ : EndsEqual 12 addrs := (run.endsEqual_iff (by decide)).mpr (by omega)
  have set := counts.stuck.mpr ⟨item, suffix.isInfix⟩
  rw [moving] at set
  cases set

/-! ## One fetch -/

def countAfter (recorder : FetchRecorder) (addr : UInt64) : UInt64 :=
  if addr = recorder.lastAccessed then recorder.nSameInst + 1 else 0

/-- The flag is set by a long row, and never taken back. -/
theorem countFetch_eq (recorder : FetchRecorder) (addr : UInt64) :
    recorder.countFetch addr =
      { recorder with
        lastAccessed := addr
        nSameInst := recorder.countAfter addr
        stuck := recorder.stuck || decide (recorder.countAfter addr > 10) } := by
  by_cases same : addr = recorder.lastAccessed
  · by_cases long : recorder.nSameInst + 1 > 10
    · simp [countFetch, countAfter, same, long]
    · simp [countFetch, countAfter, same, long]
  · simp [countFetch, countAfter, same]

theorem Counts.countAfter_toNat (counts : Counts recorder addrs) (moving : recorder.stuck = false)
    (nonempty : addrs ≠ []) (same : addr = recorder.lastAccessed) :
    (recorder.countAfter addr).toNat = recorder.nSameInst.toNat + 1 := by
  have small := counts.nSameInst_le moving nonempty
  rw [countAfter, if_pos same, UInt64.toNat_add]
  change (recorder.nSameInst.toNat + 1) % 2 ^ 64 = _
  omega

/-- The row that a fetch extends or begins. -/
theorem Counts.run_countAfter (counts : Counts recorder addrs) (moving : recorder.stuck = false)
    (started : addrs = [] → addr ≠ 0) :
    TrailingRun (addrs ++ [addr]) addr ((recorder.countAfter addr).toNat + 1) := by
  by_cases same : addr = recorder.lastAccessed
  · have nonempty : addrs ≠ [] := fun empty => started empty (same.trans (counts.fresh empty))
    rw [counts.countAfter_toNat moving nonempty same, same]
    exact (counts.running moving nonempty).same
  · rw [countAfter, if_neg same]
    by_cases empty : addrs = []
    · subst empty
      exact TrailingRun.single
    · exact (counts.running moving empty).change same

theorem Counts.countFetch (counts : Counts recorder addrs) (started : addrs = [] → addr ≠ 0) :
    Counts (recorder.countFetch addr) (addrs ++ [addr]) := by
  rw [countFetch_eq]
  cases moving : recorder.stuck with
  | true =>
      have row : ContainsEqual 12 (addrs ++ [addr]) :=
        (containsEqual_concat (by decide)).mpr (.inl (counts.stuck.mp moving))
      exact ⟨by simp, by simp [row], by simp⟩
  | false =>
      have run := counts.run_countAfter moving started
      have quiet : ¬ ContainsEqual 12 addrs := by
        rw [← counts.stuck, moving]
        exact Bool.false_ne_true
      have long : recorder.countAfter addr > 10 ↔ 12 ≤ (recorder.countAfter addr).toNat + 1 := by
        rw [gt_iff_lt, UInt64.lt_iff_toNat_lt]
        change 10 < _ ↔ _
        omega
      refine ⟨by simp, ?_, fun _ _ => run⟩
      rw [Bool.false_or, decide_eq_true_iff, long, containsEqual_concat (by decide), or_iff_right quiet,
        run.endsEqual_iff (by decide)]

/-! ## A whole trace -/

theorem trace_of_ne_fetch (recorder : FetchRecorder) (other : event.type ≠ .fetch) : recorder.trace event = recorder := by
  cases type : event.type with
  | fetch => exact absurd type other
  | load | store => simp only [trace, type]

theorem Counts.trace (counts : Counts recorder addrs) (fetch : event.type = .fetch)
    (started : addrs = [] → event.addr ≠ 0) : Counts (recorder.trace event) (addrs ++ [event.addr]) := by
  simp only [FetchRecorder.trace, fetch]
  have same : ∀ fetches, Counts { recorder with fetches } addrs := fun _ => ⟨counts.fresh, counts.stuck, counts.running⟩
  exact (same _).countFetch started

theorem fetchAddrs_cons : fetchAddrs (event :: events) =
    if event.type = .fetch then event.addr :: fetchAddrs events else fetchAddrs events := by
  by_cases fetch : event.type = .fetch
  · simp [fetchAddrs, fetch]
  · simp [fetchAddrs, fetch]

theorem counts_foldl_trace (counts : Counts recorder addrs)
    (started : addrs = [] → (fetchAddrs events).head? ≠ some 0) :
    Counts (events.foldl FetchRecorder.trace recorder) (addrs ++ fetchAddrs events) := by
  induction events generalizing recorder addrs with
  | nil => simpa [fetchAddrs] using counts
  | cons event events ih =>
      rw [fetchAddrs_cons] at started ⊢
      by_cases fetch : event.type = .fetch
      · rw [if_pos fetch] at started ⊢
        have first : addrs = [] → event.addr ≠ 0 := by simpa using started
        have next := ih (counts.trace fetch first) (by simp)
        rw [List.append_assoc, List.singleton_append] at next
        exact next
      · rw [if_neg fetch] at started ⊢
        rw [List.foldl_cons, trace_of_ne_fetch recorder fetch]
        exact ih counts started

theorem stuck_foldl_trace (stuck : recorder.stuck = true) : (events.foldl FetchRecorder.trace recorder).stuck = true := by
  induction events generalizing recorder with
  | nil => exact stuck
  | cons event events ih =>
      by_cases fetch : event.type = .fetch
      · apply ih
        simp only [FetchRecorder.trace, fetch, countFetch_eq, stuck, Bool.true_or]
      · rw [List.foldl_cons, trace_of_ne_fetch recorder fetch]
        exact ih stuck

theorem foldl_trace_filter (recorder : FetchRecorder) (events : List TraceEvent) :
    events.foldl FetchRecorder.trace recorder =
      (events.filter fun event => event.type = .fetch).foldl FetchRecorder.trace recorder := by
  induction events generalizing recorder with
  | nil => rfl
  | cons event events ih =>
      by_cases fetch : event.type = .fetch
      · rw [List.filter_cons_of_pos (by simpa using fetch), List.foldl_cons, List.foldl_cons, ih]
      · rw [List.filter_cons_of_neg (by simpa using fetch), List.foldl_cons, trace_of_ne_fetch recorder fetch, ih]

/-- What a new recorder has to know after the events. -/
structure Detects (events : List TraceEvent) (recorder : FetchRecorder) : Prop where
  stuck : recorder.stuck = true ↔ ∃ addr, List.replicate 12 addr <:+: fetchAddrs events
  sticky : recorder.stuck = true → ∀ more, (List.foldl FetchRecorder.trace recorder more).stuck = true
  fetches : ∀ addr, addr ∈ recorder.fetches ↔ ∃ event ∈ events, event.Covers .fetch addr
  quiet : ∀ event : TraceEvent, event.type ≠ .fetch → recorder.trace event = recorder
  fetchesOnly : recorder = (events.filter fun event => event.type = .fetch).foldl FetchRecorder.trace {}

theorem detects_of_started (events : List TraceEvent) (started : (fetchAddrs events).head? ≠ some 0) :
    Detects events (events.foldl FetchRecorder.trace {}) where
  stuck := (counts_foldl_trace counts_initial fun _ => started).stuck
  sticky := fun stuck more => stuck_foldl_trace stuck
  fetches := by
    intro addr
    rw [mem_foldl_trace]
    simp [Fetched]
  quiet := fun event other => trace_of_ne_fetch _ other
  fetchesOnly := foldl_trace_filter {} events

/-- A jump to itself, with a store in between. -/
theorem detects_of_started_selfJump :
    let jump : TraceEvent := ⟨0x80000000, 4, .fetch⟩
    (List.foldl trace {} (jump :: ⟨0x80001000, 8, .store⟩ :: List.replicate 11 jump)).stuck = true := by
  intro jump
  have detects := detects_of_started (jump :: ⟨0x80001000, 8, .store⟩ :: List.replicate 11 jump) (by decide)
  exact detects.stuck.mpr ⟨0x80000000, ⟨[], [], rfl⟩⟩

end FetchRecorder

/-! ## A run of the simulator -/

namespace ArchSim

variable {Core Devices : Type} {ramSize : UInt64} {spike : Spike Core Devices ramSize} {config : Config}
variable {sim final : ArchSim Core Devices ramSize} {remaining : Nat} {tick ticks : UInt64}

/-- The loop ends stuck exactly if its steps fetched an address twelve times in a row. -/
theorem stuck_runLoop_iff (registered : sim.memtracersRegistered = true) (unfetched : sim.fetchRecorder = {})
    (started : (fetchAddrs (loopTrace spike config remaining sim)).head? ≠ some 0)
    (ran : runLoop spike config remaining tick sim = .ok (ticks, final)) :
    final.fetchRecorder.stuck = true ↔ ContainsEqual 12 (fetchAddrs (loopTrace spike config remaining sim)) := by
  rw [(recorded_runLoop registered ran).fetchRecorder, unfetched]
  exact (FetchRecorder.counts_foldl_trace FetchRecorder.counts_initial fun _ => started).stuck

end ArchSim

end PhantomTrails
