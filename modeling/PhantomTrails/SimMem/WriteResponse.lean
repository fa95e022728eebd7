import PhantomTrails.SimMem.Tick

namespace PhantomTrails.SimMem

open Foundation Foundation.Machine

/-! # The write-response channel

The data write is any function of the DRAM contents here.  The burst the
master believes to be in flight is kept as ghost state, computed from the
handshakes alone; the invariant ties it to `curStore`.
-/

/-- A write that only changes DRAM data. -/
def dataOnly (effect : Geometry → Store UInt8 → (dst : UInt64) → (src : Nat → UInt8) →
    (size strb : UInt64) → Store UInt8) : WriteFn :=
  fun geometry data dst src size strb => .ok (effect geometry data dst src size strb)

structure Burst where
  id : UInt64 := 0
  length : Nat := 0
  beats : Nat := 0
deriving DecidableEq, Repr

def Burst.update (burst : Burst) (mem : SimMem) (bus : TickArgs) : Burst :=
  if (mem.fires bus).awFire then { id := bus.awId, length := bus.awLen.toNat + 1, beats := 0 }
  else if (mem.fires bus).wFire then { burst with beats := burst.beats + 1 }
  else burst

/-- The master asserts `wLast` on beat number `awLen + 1` and on no other. -/
def LastOnLastBeat (state : SimMem × Burst) (bus : TickArgs) : Prop :=
  (state.1.fires bus).wFire = true → (bus.wLast = true ↔ state.2.beats + 1 = state.2.length)

def acceptedIds (mem : SimMem) (bus : TickArgs) : List UInt64 :=
  if (mem.fires bus).awFire then [bus.awId] else []

def inFlightId (store : InFlightStore) : List UInt64 :=
  if store.inFlight then [store.id] else []

def completedIds (state : SimMem × Burst) (bus : TickArgs) : List UInt64 :=
  if (state.1.fires bus).wFire ∧ state.2.beats + 1 = state.2.length then [state.2.id] else []

structure BurstInvariant (state : SimMem × Burst) : Prop where
  counted : state.1.curStore.inFlight = true →
    state.2.beats < state.2.length ∧
      state.1.curStore.count.toNat + state.2.beats = state.2.length ∧
      state.1.curStore.id = state.2.id
  idle : state.1.curStore.inFlight = false → state.1.curStore.count = 0

variable {write : WriteFn} {state next : SimMem × Burst} {mem : SimMem} {bus : TickArgs}

theorem BurstInvariant.fresh (geometry : Geometry) (data : Store UInt8) :
    BurstInvariant (fresh geometry data, {}) where
  counted := fun busy => by cases busy
  idle := fun _ => rfl

theorem BurstInvariant.inFlight_iff (invariant : BurstInvariant state) :
    state.1.curStore.inFlight = true ↔ 0 < state.1.curStore.count := by
  rw [UInt64.lt_iff_toNat_lt]
  constructor
  · intro busy
    obtain ⟨room, counted, -⟩ := invariant.counted busy
    rw [UInt64.toNat_zero]
    omega
  · intro positive
    by_contra free
    have zero := invariant.idle (by simpa using free)
    rw [zero] at positive
    exact Nat.lt_irrefl _ positive

theorem count_eq_one_iff (invariant : BurstInvariant state)
    (fire : (state.1.fires bus).wFire = true) :
    state.1.curStore.count = 1 ↔ state.2.beats + 1 = state.2.length := by
  obtain ⟨room, counted, -⟩ := invariant.counted (inFlight_of_wFire fire)
  rw [← UInt64.toNat_inj, UInt64.toNat_one]
  omega

theorem BurstInvariant.opened (short : bus.awValid = true → bus.awLen ≤ 255)
    (fire : (mem.fires bus).awFire = true) (burst : Burst) (after : SimMem)
    (store : after.curStore = mem.storeAfter bus) :
    BurstInvariant (after, burst.update mem bus) := by
  have bound : bus.awLen.toNat ≤ 255 := UInt64.le_iff_toNat_le.mp (short (awValid_of_awFire fire))
  have count : (bus.awLen + 1).toNat = bus.awLen.toNat + 1 := by
    rw [UInt64.toNat_add, UInt64.toNat_one]
    exact Nat.mod_eq_of_lt (by omega)
  simp only [storeAfter, fire, if_true] at store
  constructor
  · intro _
    simp [store, Burst.update, fire, openedStore, count]
  · intro free
    rw [store] at free
    cases free

theorem BurstInvariant.advanced (invariant : BurstInvariant state)
    (fire : (state.1.fires bus).wFire = true) (after : SimMem)
    (store : after.curStore = state.1.storeAfter bus) :
    BurstInvariant (after, state.2.update state.1 bus) := by
  have busy := inFlight_of_wFire fire
  have closed : (state.1.fires bus).awFire = false := by
    simpa using fun opening => fires_not_both ⟨opening, fire⟩
  obtain ⟨room, counted, same⟩ := invariant.counted busy
  have last := count_eq_one_iff invariant fire
  have positive : 1 ≤ state.1.curStore.count.toNat := by omega
  have decremented : (state.1.curStore.count - 1).toNat = state.1.curStore.count.toNat - 1 :=
    UInt64.toNat_sub_of_le _ _ (UInt64.le_iff_toNat_le.mpr positive)
  simp only [storeAfter, closed, fire, if_true, Bool.false_eq_true, if_false] at store
  constructor
  · intro more
    simp only [store, advancedStore, busy, Bool.and_true, decide_eq_true_eq] at more
    have notLast : ¬ state.2.beats + 1 = state.2.length := fun final => more (last.mpr final)
    simp only [store, advancedStore, Burst.update, closed, fire, if_true, Bool.false_eq_true,
      if_false, decremented]
    exact ⟨by omega, by omega, same⟩
  · intro done
    simp only [store, advancedStore, busy, Bool.and_true, decide_eq_false_iff_not, ne_eq,
      not_not] at done
    simp [store, advancedStore, done]

theorem BurstInvariant.keeps (write : WriteFn) :
    Keeps (withGhost (tickWith write) Burst.update) (fun _ bus => bus.awValid = true → bus.awLen ≤ 255)
      BurstInvariant := by
  intro state bus next short invariant taken
  obtain ⟨ticked, ghost⟩ := withGhost_ok_iff.mp taken
  have store := next_curStore ticked
  have split : next = (next.1, state.2.update state.1 bus) := by rw [← ghost]
  rw [split]
  by_cases opening : (state.1.fires bus).awFire = true
  · exact .opened short opening state.2 next.1 store
  · by_cases fire : (state.1.fires bus).wFire = true
    · exact invariant.advanced fire next.1 store
    · simp only [storeAfter, opening, fire, Bool.false_eq_true, if_false] at store
      have still : state.2.update state.1 bus = state.2 := by simp [Burst.update, opening, fire]
      rw [still]
      exact ⟨by rw [store]; exact invariant.counted, by rw [store]; exact invariant.idle⟩

/-- The responses still owed: queued ones, then the burst in flight. -/
def owedIds (state : SimMem × Burst) : List UInt64 :=
  state.1.writeRespQueue ++ inFlightId state.1.curStore

theorem inFlightId_storeAfter :
    inFlightId mem.curStore ++ mem.acceptedIds bus =
      mem.pushedIds bus ++ inFlightId (mem.storeAfter bus) := by
  by_cases opening : (mem.fires bus).awFire = true
  · have closed : (mem.fires bus).wFire = false := by
      simpa using fun fire => fires_not_both ⟨opening, fire⟩
    simp [inFlightId, acceptedIds, pushedIds, storeAfter, opening, closed, openedStore,
      idle_of_awFire opening]
  · by_cases fire : (mem.fires bus).wFire = true
    · by_cases one : mem.curStore.count = 1 <;>
        simp [inFlightId, acceptedIds, pushedIds, storeAfter, opening, fire, advancedStore, one,
          inFlight_of_wFire fire]
    · simp [inFlightId, acceptedIds, pushedIds, storeAfter, opening, fire]

theorem owedIds_queue (write : WriteFn) :
    Queue (withGhost (tickWith write) Burst.update)
      (fun _ bus => bus.reset = false ∧ (bus.awValid = true → bus.awLen ≤ 255)) BurstInvariant
      owedIds (fun state bus => state.1.acceptedIds bus) (fun state bus => state.1.poppedIds bus)
    where
  keeps := fun state bus next legal => BurstInvariant.keeps write state bus next legal.2
  moves := by
    intro state bus next legal _ taken
    have ticked := (withGhost_ok_iff.mp taken).1
    rw [owedIds, owedIds, List.append_assoc, inFlightId_storeAfter, ← next_curStore ticked,
      ← List.append_assoc, next_responses ticked legal.1, List.append_assoc]

theorem dataOnly_never_asserts {effect : Geometry → Store UInt8 → (dst : UInt64) →
      (src : Nat → UInt8) → (size strb : UInt64) → Store UInt8}
    (invariant : BurstInvariant state) (master : LastOnLastBeat state bus) :
    tickWith (dataOnly effect) state.1 bus ≠ .error .assertion := by
  intro failed
  obtain ⟨fire, writing | ⟨one, unset⟩⟩ := tickWith_assertion failed
  · cases writing
  · have last := (master fire).mpr ((count_eq_one_iff invariant fire).mp one)
    rw [unset] at last
    cases last

theorem completedIds_eq_pushedIds (invariant : BurstInvariant state) :
    completedIds state bus = state.1.pushedIds bus := by
  simp only [completedIds, pushedIds]
  by_cases fire : (state.1.fires bus).wFire = true
  · obtain ⟨-, -, same⟩ := invariant.counted (inFlight_of_wFire fire)
    simp only [fire, true_and, count_eq_one_iff invariant fire, same]
  · simp [fire]

/-- Write-response channel: exactly one response per burst, in order, pushed by
the tick that accepts the last beat. -/
theorem write_response_exact (geometry : Geometry) (data : Store UInt8)
    (effect : Geometry → Store UInt8 → (dst : UInt64) → (src : Nat → UInt8) →
      (size strb : UInt64) → Store UInt8)
    (ticks : List TickArgs) (ordinary : ∀ bus ∈ ticks, bus.reset = false)
    (short : ∀ bus ∈ ticks, bus.awValid = true → bus.awLen ≤ 255)
    (master : Along (withGhost (tickWith (dataOnly effect)) Burst.update) LastOnLastBeat
      (fresh geometry data, {}) ticks) :
    run (tickWith (dataOnly effect)) (fresh geometry data) ticks ≠ .error .assertion ∧
    (∀ final, run (tickWith (dataOnly effect)) (fresh geometry data) ticks = .ok final →
      (final.curStore.inFlight = true ↔ 0 < final.curStore.count) ∧
      emitted (tickWith (dataOnly effect)) poppedIds (fresh geometry data) ticks ++
          final.writeRespQueue ++ inFlightId final.curStore =
        emitted (tickWith (dataOnly effect)) acceptedIds (fresh geometry data) ticks) ∧
    Along (withGhost (tickWith (dataOnly effect)) Burst.update) (fun state bus =>
        ∀ next, tickWith (dataOnly effect) state.1 bus = .ok next →
          state.1.writeRespQueue ++ completedIds state bus =
            state.1.poppedIds bus ++ next.writeRespQueue)
      (fresh geometry data, {}) ticks := by
  have queue := owedIds_queue (dataOnly effect)
  have start := BurstInvariant.fresh geometry data
  have inputs : ∀ bus ∈ ticks, bus.reset = false ∧ (bus.awValid = true → bus.awLen ≤ 255) :=
    fun bus member => ⟨ordinary bus member, short bus member⟩
  have lawful := along_of_forall (withGhost (tickWith (dataOnly effect)) Burst.update) inputs
    (fresh geometry data, ({} : Burst))
  refine ⟨?_, ?_, ?_⟩
  · intro failed
    have ghost := run_withGhost_error Burst.update failed {}
    have keeps : Keeps (withGhost (tickWith (dataOnly effect)) Burst.update)
        (fun state bus => (bus.reset = false ∧ (bus.awValid = true → bus.awLen ≤ 255)) ∧
          LastOnLastBeat state bus)
        BurstInvariant := fun state bus next legal => queue.keeps state bus next legal.1
    have allowed : (fun fault => fault ≠ Fault.assertion) .assertion := by
      apply keeps.stops_within ?_ (lawful.and master) start ghost
      intro state bus fault legal invariant stopped same
      subst same
      exact dataOnly_never_asserts invariant legal.2 (withGhost_error_iff.mp stopped)
    exact allowed rfl
  · intro final reached
    obtain ⟨burst, ghost⟩ := run_withGhost Burst.update reached {}
    refine ⟨(queue.keeps.run lawful start ghost).inFlight_iff, ?_⟩
    have conserved := queue.conserves lawful start ghost
    rw [emitted_withGhost, emitted_withGhost] at conserved
    simpa [owedIds, inFlightId, fresh] using conserved.symm
  · apply queue.keeps.along ?_ lawful start
    intro state bus legal invariant next ticked
    rw [completedIds_eq_pushedIds invariant]
    exact next_responses ticked legal.1

def twoBeatBurst : List TickArgs :=
  [{ awValid := true, awId := 5, awLen := 1 }, { wValid := true },
    { wValid := true, wLast := true }, { bReady := true }]

theorem write_response_exact_two_beats :
    ∃ final, run (tickWith (dataOnly fun _ data _ _ _ _ => data)) (fresh .tiny fun _ => 0)
        twoBeatBurst = .ok final ∧
      (final.curStore.inFlight = true ↔ 0 < final.curStore.count) ∧
      emitted (tickWith (dataOnly fun _ data _ _ _ _ => data)) poppedIds (fresh .tiny fun _ => 0)
          twoBeatBurst ++ final.writeRespQueue ++ inFlightId final.curStore = [5] := by
  have exact' := (write_response_exact .tiny (fun _ => 0) (fun _ data _ _ _ _ => data)
    twoBeatBurst (by simp [twoBeatBurst]) (by simp [twoBeatBurst])
    (along_cons_of_ok rfl (fun _ => by decide) <| along_cons_of_ok rfl (fun _ => by decide) <|
      along_cons_of_ok rfl (fun _ => by decide) <| along_cons_of_ok rfl (fun _ => by decide)
      trivial)).2.1
  exact ⟨_, rfl, exact' _ rfl⟩

end PhantomTrails.SimMem
