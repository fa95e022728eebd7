import PhantomTrails.SimMem.Model

namespace PhantomTrails.SimMem

open Foundation

/-! # What one tick does

Each phase of `tick` gets one lemma that says when it succeeds and what it
leaves.  `tickWith_effect` puts them together; the channel proofs use its
fields and never unfold the tick again.
-/

variable {write : WriteFn} {mem next : SimMem} {bus : TickArgs}

def beatOffset (mem : SimMem) (bus : TickArgs) (k : Nat) : UInt64 :=
  (mem.align bus.arAddr + UInt64.ofNat k * mem.wordSize) % mem.memSize

def beat (mem : SimMem) (bus : TickArgs) (k : Nat) : MemReadResponse where
  id := bus.arId
  data := mem.data.slice (mem.beatOffset bus k).toNat mem.wordSize.toNat
  last := k == bus.arLen.toNat

def BeatInside (mem : SimMem) (bus : TickArgs) (k : Nat) : Prop :=
  (mem.beatOffset bus k).toNat + mem.wordSize.toNat ≤ mem.memSize.toNat

def pushedBeats (mem : SimMem) (bus : TickArgs) : List MemReadResponse :=
  if (mem.fires bus).arFire then (List.range (bus.arLen.toNat + 1)).map (mem.beat bus) else []

def poppedBeats (mem : SimMem) (bus : TickArgs) : List MemReadResponse :=
  if (mem.fires bus).rFire then mem.readQueue.take 1 else []

def pushedIds (mem : SimMem) (bus : TickArgs) : List UInt64 :=
  if (mem.fires bus).wFire ∧ mem.curStore.count = 1 then [mem.curStore.id] else []

def poppedIds (mem : SimMem) (bus : TickArgs) : List UInt64 :=
  if (mem.fires bus).bFire then mem.writeRespQueue.take 1 else []

def openedStore (bus : TickArgs) : InFlightStore where
  inFlight := true
  addr := bus.awAddr
  id := bus.awId
  size := 1 <<< bus.awSize
  count := bus.awLen + 1

def advancedStore (store : InFlightStore) : InFlightStore :=
  { store with
    addr := store.addr + store.size
    count := store.count - 1
    inFlight := decide (store.count ≠ 1) && store.inFlight }

def storeAfter (mem : SimMem) (bus : TickArgs) : InFlightStore :=
  if (mem.fires bus).awFire then openedStore bus
  else if (mem.fires bus).wFire then advancedStore mem.curStore
  else mem.curStore

theorem read_ok_iff {addr n : UInt64} {bytes : List UInt8} :
    mem.read addr n = .ok bytes ↔
      (addr % mem.memSize).toNat + n.toNat ≤ mem.memSize.toNat ∧
        bytes = mem.data.slice (addr % mem.memSize).toNat n.toNat := by
  simp only [read]
  split
  · rename_i inside
    simp only [inside, true_and, Except.ok.injEq]
    exact eq_comm
  · rename_i outside
    simp only [outside, false_and, reduceCtorEq]

theorem pushReads_ok_iff {remaining i : Nat} {queue after : List MemReadResponse} :
    mem.pushReads (mem.align bus.arAddr) bus.arId bus.arLen remaining i queue = .ok after ↔
      (∀ k, i ≤ k → k < i + remaining → mem.BeatInside bus k) ∧
        after = queue ++ (List.range' i remaining).map (mem.beat bus) := by
  induction remaining generalizing i queue with
  | zero =>
      simp only [pushReads, Except.ok.injEq, List.range'_zero, List.map_nil, List.append_nil]
      constructor
      · rintro rfl
        exact ⟨fun k lower upper => absurd upper (by omega), rfl⟩
      · rintro ⟨-, rfl⟩
        rfl
  | succ remaining ih =>
      simp only [pushReads]
      cases loaded : mem.read (mem.align bus.arAddr + UInt64.ofNat i * mem.wordSize)
          mem.wordSize with
      | error fault =>
          simp only [reduceCtorEq, false_iff, not_and]
          intro inside
          have here := inside i (Nat.le_refl i) (by omega)
          have found := read_ok_iff.mpr ⟨here, rfl⟩
          rw [loaded] at found
          contradiction
      | ok data =>
          obtain ⟨inside, rfl⟩ := read_ok_iff.mp loaded
          simp only [ih]
          have first : mem.beat bus i =
              { id := bus.arId
                data := mem.data.slice (mem.beatOffset bus i).toNat mem.wordSize.toNat
                last := i == bus.arLen.toNat } := rfl
          constructor
          · rintro ⟨later, rfl⟩
            refine ⟨fun k lower upper => ?_, ?_⟩
            · by_cases same : k = i
              · exact same ▸ inside
              · exact later k (by omega) (by omega)
            · simp [List.range'_succ, first, beatOffset]
          · rintro ⟨all, rfl⟩
            refine ⟨fun k lower upper => all k (by omega) (by omega), ?_⟩
            simp [List.range'_succ, first, beatOffset]

theorem addressRead_ok_iff :
    mem.addressRead bus = .ok next ↔
      (∀ k, k ≤ bus.arLen.toNat → mem.BeatInside bus k) ∧
        next = { mem with
          readQueue := mem.readQueue ++ (List.range (bus.arLen.toNat + 1)).map (mem.beat bus) } := by
  simp only [addressRead, bind_ok_iff, pushReads_ok_iff, pure, Except.pure, Except.ok.injEq]
  constructor
  · rintro ⟨queue, ⟨inside, rfl⟩, rfl⟩
    exact ⟨fun k bound => inside k (by omega) (by omega), by rw [List.range_eq_range']⟩
  · rintro ⟨inside, rfl⟩
    exact ⟨_, ⟨fun k _ bound => inside k (by omega), rfl⟩, by rw [List.range_eq_range']⟩

theorem onFire_ok_iff {fire : Bool} {phase : SimMem → Except Fault SimMem} :
    mem.onFire fire phase = .ok next ↔
      (fire = true → phase mem = .ok next) ∧ (fire = false → next = mem) := by
  cases fire with
  | true => simp [onFire]
  | false => simp [onFire, eq_comm]

theorem readPhase_ok_iff :
    mem.onFire (mem.fires bus).arFire (fun mem => mem.addressRead bus) = .ok next ↔
      ((mem.fires bus).arFire = true → ∀ k, k ≤ bus.arLen.toNat → mem.BeatInside bus k) ∧
        next = { mem with readQueue := mem.readQueue ++ mem.pushedBeats bus } := by
  rw [onFire_ok_iff]
  cases fire : (mem.fires bus).arFire with
  | true => simp [addressRead_ok_iff, pushedBeats, fire]
  | false => simp [pushedBeats, fire]

theorem addressWrite_ok_iff :
    mem.addressWrite bus = .ok next ↔
      bus.awSize < 64 ∧ next = { mem with curStore := openedStore bus } := by
  simp only [addressWrite, openedStore]
  split
  · rename_i shift
    simp [shift, eq_comm]
  · rename_i shift
    simp [shift]

/-- An accepted beat succeeds when the write does and the last beat of the
burst carries `wLast`. -/
theorem dataWrite_ok_iff (inFlight : mem.curStore.inFlight = true) :
    mem.dataWrite write bus = .ok next ↔
      ∃ data, write mem.geometry mem.data mem.curStore.addr bus.wData bus.wStrb
          mem.curStore.size = .ok data ∧
        (mem.curStore.count = 1 → bus.wLast = true) ∧
        next = { mem with
          data
          curStore := advancedStore mem.curStore
          writeRespQueue := mem.writeRespQueue ++
            (if mem.curStore.count = 1 then [mem.curStore.id] else []) } := by
  have final : mem.curStore.count - 1 = 0 ↔ mem.curStore.count = 1 := by grind
  simp only [dataWrite, bind_ok_iff, final]
  apply exists_congr fun data => and_congr_right fun _ => ?_
  by_cases one : mem.curStore.count = 1
  · cases last : bus.wLast with
    | true =>
        simp only [one, if_true, pure, Except.pure, Except.ok.injEq, advancedStore, ne_eq,
          not_true_eq_false, decide_false, Bool.false_and, implies_true, true_and]
        exact eq_comm
    | false => simp [one, throw, throwThe, MonadExceptOf.throw]
  · simp only [one, if_false, pure, Except.pure, Except.ok.injEq, advancedStore, inFlight, ne_eq,
      not_false_eq_true, decide_true, Bool.and_true, false_implies, true_and, List.append_nil]
    exact eq_comm

theorem fires_not_both : ¬ ((mem.fires bus).awFire = true ∧ (mem.fires bus).wFire = true) := by
  simp only [fires, writeAddrReady, writeDataReady, Bool.and_eq_true]
  intro ⟨⟨_, free⟩, ⟨_, busy⟩⟩
  simp [busy] at free

theorem inFlight_of_wFire (fire : (mem.fires bus).wFire = true) : mem.curStore.inFlight = true := by
  simp only [fires, writeDataReady, Bool.and_eq_true] at fire
  exact fire.2

theorem awValid_of_awFire (fire : (mem.fires bus).awFire = true) : bus.awValid = true := by
  simp only [fires, Bool.and_eq_true] at fire
  exact fire.1.2

theorem idle_of_awFire (fire : (mem.fires bus).awFire = true) :
    mem.curStore.inFlight = false := by
  simpa [fires, writeAddrReady] using (Bool.and_eq_true_iff.mp fire).2

theorem take_one_append_tail {α : Type} {queue : List α} (more : List α)
    (nonempty : queue ≠ []) : queue ++ more = queue.take 1 ++ (queue ++ more).tail := by
  cases queue with
  | nil => contradiction
  | cons head rest => rfl

theorem readQueue_ne_nil_of_rFire (fire : (mem.fires bus).rFire = true) :
    mem.readQueue ≠ [] := by
  simp only [fires, readDataValid, Bool.and_eq_true, Bool.not_eq_true', List.isEmpty_eq_false_iff]
    at fire
  exact fire.1.2

theorem writeRespQueue_ne_nil_of_bFire (fire : (mem.fires bus).bFire = true) :
    mem.writeRespQueue ≠ [] := by
  simp only [fires, writeResponseValid, Bool.and_eq_true, Bool.not_eq_true',
    List.isEmpty_eq_false_iff] at fire
  exact fire.1.2

def accepted (mem : SimMem) (bus : TickArgs) (data : Store UInt8) : SimMem :=
  { mem with
    data
    curStore := mem.storeAfter bus
    readQueue := mem.readQueue ++ mem.pushedBeats bus
    writeRespQueue := mem.writeRespQueue ++ mem.pushedIds bus }

def settle (start mem : SimMem) (bus : TickArgs) : SimMem :=
  let mem := if (start.fires bus).bFire then mem.popWriteResponse else mem
  let mem := if (start.fires bus).rFire then mem.popRead else mem
  if bus.reset then mem.clearQueues else mem

structure Accepts (write : WriteFn) (mem : SimMem) (bus : TickArgs) (data : Store UInt8) :
    Prop where
  inside : (mem.fires bus).arFire = true → ∀ k, k ≤ bus.arLen.toNat → mem.BeatInside bus k
  size : (mem.fires bus).awFire = true → bus.awSize < 64
  written : (mem.fires bus).wFire = true →
    write mem.geometry mem.data mem.curStore.addr bus.wData bus.wStrb mem.curStore.size = .ok data
  last : (mem.fires bus).wFire = true → mem.curStore.count = 1 → bus.wLast = true
  kept : (mem.fires bus).wFire = false → data = mem.data

/-- The write channels, started with whatever read queue the read phase left.
At most one of them fires. -/
private theorem writePhases_ok_iff {queue : List MemReadResponse} :
    (∃ middle,
      onFire { mem with readQueue := queue } (mem.fires bus).awFire
        (fun mem => mem.addressWrite bus) = .ok middle ∧
      middle.onFire (mem.fires bus).wFire (fun mem => mem.dataWrite write bus) = .ok next) ↔
      ∃ data, ((mem.fires bus).awFire = true → bus.awSize < 64) ∧
        ((mem.fires bus).wFire = true → write mem.geometry mem.data mem.curStore.addr bus.wData
          bus.wStrb mem.curStore.size = .ok data) ∧
        ((mem.fires bus).wFire = true → mem.curStore.count = 1 → bus.wLast = true) ∧
        ((mem.fires bus).wFire = false → data = mem.data) ∧
        next = { mem with
          data
          curStore := mem.storeAfter bus
          readQueue := queue
          writeRespQueue := mem.writeRespQueue ++ mem.pushedIds bus } := by
  simp only [onFire_ok_iff, addressWrite_ok_iff, storeAfter, pushedIds]
  cases opening : (mem.fires bus).awFire with
  | true =>
      have closed : (mem.fires bus).wFire = false := by
        simpa using fun fire => fires_not_both ⟨opening, fire⟩
      rw [closed]
      constructor
      · rintro ⟨middle, ⟨opened, -⟩, -, same⟩
        obtain ⟨shift, rfl⟩ := opened rfl
        exact ⟨mem.data, fun _ => shift, by simp [same rfl]⟩
      · rintro ⟨data, shift, -, -, kept, rfl⟩
        exact ⟨_, ⟨fun _ => ⟨shift rfl, rfl⟩, by simp⟩, by simp [kept rfl]⟩
  | false =>
      cases fire : (mem.fires bus).wFire with
      | false =>
          constructor
          · rintro ⟨middle, ⟨-, same⟩, -, still⟩
            exact ⟨mem.data, by simp [still rfl, same rfl]⟩
          · rintro ⟨data, -, -, -, kept, rfl⟩
            exact ⟨_, ⟨by simp, fun _ => rfl⟩, by simp [kept rfl]⟩
      | true =>
          have busy := inFlight_of_wFire fire
          have stored := @dataWrite_ok_iff write { mem with readQueue := queue } next bus busy
          constructor
          · rintro ⟨middle, ⟨-, same⟩, taken, -⟩
            rw [same rfl] at taken
            obtain ⟨data, written, last, rfl⟩ := stored.mp (taken rfl)
            exact ⟨data, by simp, fun _ => written, fun _ => last, by simp, by simp⟩
          · rintro ⟨data, -, written, last, -, rfl⟩
            refine ⟨_, ⟨by simp, fun _ => rfl⟩, fun _ => ?_, by simp⟩
            exact stored.mpr ⟨data, written rfl, last rfl, by simp⟩

/-- A tick succeeds exactly when its three phases do. -/
theorem tickWith_ok_iff :
    tickWith write mem bus = .ok next ↔
      ∃ data, Accepts write mem bus data ∧ next = settle mem (mem.accepted bus data) bus := by
  simp only [tickWith, bind_ok_iff, readPhase_ok_iff, pure, Except.pure, Except.ok.injEq]
  constructor
  · rintro ⟨first, ⟨inside, rfl⟩, second, opened, third, stored, rfl⟩
    obtain ⟨data, size, written, last, kept, rfl⟩ := writePhases_ok_iff.mp ⟨second, opened, stored⟩
    exact ⟨data, ⟨inside, size, written, last, kept⟩, rfl⟩
  · rintro ⟨data, accepts, rfl⟩
    obtain ⟨second, opened, stored⟩ := writePhases_ok_iff.mpr
      ⟨data, accepts.size, accepts.written, accepts.last, accepts.kept, rfl⟩
    exact ⟨_, ⟨accepts.inside, rfl⟩, second, opened, _, stored, rfl⟩

theorem read_error {addr n : UInt64} {fault : Fault} (failed : mem.read addr n = .error fault) :
    fault = .outOfBounds := by
  simp only [read] at failed
  split at failed
  · contradiction
  · exact (Except.error.inj failed).symm

theorem pushReads_error {start arId arLen : UInt64} {remaining i : Nat}
    {queue : List MemReadResponse} {fault : Fault}
    (failed : mem.pushReads start arId arLen remaining i queue = .error fault) :
    fault = .outOfBounds := by
  induction remaining generalizing i queue with
  | zero => cases failed
  | succ remaining ih =>
      simp only [pushReads] at failed
      split at failed
      · exact ih failed
      · rename_i reason loaded
        cases failed
        exact read_error loaded

/-- Only an accepted data beat can fail an assertion: inside the write, or
because the last beat lacks `wLast`. -/
theorem tickWith_assertion (failed : tickWith write mem bus = .error .assertion) :
    (mem.fires bus).wFire = true ∧
      (write mem.geometry mem.data mem.curStore.addr bus.wData bus.wStrb mem.curStore.size =
          .error .assertion ∨
        mem.curStore.count = 1 ∧ bus.wLast = false) := by
  simp only [tickWith, bind_error_iff, readPhase_ok_iff, pure, Except.pure, reduceCtorEq,
    and_false, exists_false, or_false] at failed
  rcases failed with reading | ⟨first, ⟨-, rfl⟩, opening | ⟨second, opened, storing⟩⟩
  · simp only [onFire, addressRead] at reading
    split at reading
    · have failed := (bind_error_iff.mp reading).resolve_right (by simp [pure, Except.pure])
      cases pushReads_error failed
    · cases reading
  · simp only [onFire, addressWrite] at opening
    split at opening
    · split at opening <;> cases opening
    · cases opening
  · cases fire : (mem.fires bus).wFire with
    | false => simp [onFire, fire] at storing
    | true =>
        have closed : (mem.fires bus).awFire = false := by
          simpa using fun opening => fires_not_both ⟨opening, fire⟩
        have same := (onFire_ok_iff.mp opened).2 closed
        subst same
        have final : mem.curStore.count - 1 = 0 ↔ mem.curStore.count = 1 := by grind
        simp only [onFire, fire, if_true, dataWrite, bind_error_iff, final] at storing
        rcases storing with writing | ⟨data, written, rest⟩
        · exact ⟨rfl, .inl writing⟩
        · refine ⟨rfl, .inr ?_⟩
          cases last : bus.wLast <;> by_cases one : mem.curStore.count = 1 <;>
            simp_all [pure, Except.pure, throw, throwThe, MonadExceptOf.throw]

section Effects

variable (ticked : tickWith write mem bus = .ok next)
include ticked

theorem next_geometry : next.geometry = mem.geometry := by
  obtain ⟨data, -, rfl⟩ := tickWith_ok_iff.mp ticked
  simp only [settle]
  split <;> split <;> split <;> rfl

theorem next_curStore : next.curStore = mem.storeAfter bus := by
  obtain ⟨data, -, rfl⟩ := tickWith_ok_iff.mp ticked
  simp only [settle]
  split <;> split <;> split <;> rfl

theorem next_data (idle : (mem.fires bus).wFire = false) : next.data = mem.data := by
  obtain ⟨data, accepts, rfl⟩ := tickWith_ok_iff.mp ticked
  rw [← accepts.kept idle]
  simp only [settle]
  split <;> split <;> split <;> rfl

theorem next_written (fire : (mem.fires bus).wFire = true) :
    write mem.geometry mem.data mem.curStore.addr bus.wData bus.wStrb mem.curStore.size =
      .ok next.data := by
  obtain ⟨data, accepts, rfl⟩ := tickWith_ok_iff.mp ticked
  rw [accepts.written fire]
  simp only [settle]
  split <;> split <;> split <;> rfl

theorem next_reads (ordinary : bus.reset = false) :
    mem.readQueue ++ mem.pushedBeats bus = mem.poppedBeats bus ++ next.readQueue := by
  obtain ⟨data, -, rfl⟩ := tickWith_ok_iff.mp ticked
  have others : ∀ fire : Bool, (if fire then (mem.accepted bus data).popWriteResponse
      else mem.accepted bus data).readQueue = mem.readQueue ++ mem.pushedBeats bus := by
    intro fire
    cases fire <;> rfl
  simp only [settle, ordinary, Bool.false_eq_true, if_false, poppedBeats]
  split
  · rename_i fire
    rw [popRead, others]
    exact take_one_append_tail _ (readQueue_ne_nil_of_rFire fire)
  · rw [others, List.nil_append]

theorem next_responses (ordinary : bus.reset = false) :
    mem.writeRespQueue ++ mem.pushedIds bus = mem.poppedIds bus ++ next.writeRespQueue := by
  obtain ⟨data, -, rfl⟩ := tickWith_ok_iff.mp ticked
  have others : ∀ (fire : Bool) (after : SimMem),
      (if fire then after.popRead else after).writeRespQueue = after.writeRespQueue := by
    intro fire after
    cases fire <;> rfl
  simp only [settle, ordinary, Bool.false_eq_true, if_false, poppedIds, others]
  split
  · rename_i fire
    exact take_one_append_tail _ (writeRespQueue_ne_nil_of_bFire fire)
  · rfl

end Effects

end PhantomTrails.SimMem
