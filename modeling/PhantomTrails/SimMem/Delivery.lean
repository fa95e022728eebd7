import PhantomTrails.SimMem.ReadChannel
import PhantomTrails.SimMem.WriteResponse

namespace PhantomTrails.SimMem

open Foundation Foundation.Machine

/-! # Delivery

What the memory has accepted it answers, within a number of ready cycles that
is known when it accepts.  The other channels may do anything meanwhile, and
the data write is a parameter.
-/

variable {write : WriteFn} {mem next final : SimMem} {bus : TickArgs}

/-! ## Reads -/

theorem poppedBeats_ne_nil (ordinary : bus.reset = false) (ready : bus.rReady = true)
    (waits : mem.readQueue ≠ []) : mem.poppedBeats bus ≠ [] := by
  have fire : (mem.fires bus).rFire = true := by simp [fires, ordinary, ready, readDataValid, waits]
  rw [poppedBeats, if_pos fire]
  simpa using waits

theorem length_requestedBeats (accepted : (mem.fires bus).arFire = true) :
    (mem.requestedBeats bus).length = bus.arLen.toNat + 1 := by
  simp [requestedBeats, accepted]

/-- An accepted read is answered beat by beat, behind the beats that were
waiting already, once the master has been ready once for each of them. -/
theorem read_answered (mem : SimMem) (power : mem.memSize.toNat ∣ 2 ^ 64) (bus : TickArgs)
    (after : List TickArgs)
    (ordinary : ∀ tick ∈ bus :: after, tick.reset = false)
    (accepted : (mem.fires bus).arFire = true)
    (ready : mem.readQueue.length + bus.arLen.toNat + 1 ≤ after.countP (·.rReady))
    (reached : run (tickWith write) mem (bus :: after) = .ok final) :
    mem.readQueue ++ mem.requestedBeats bus <+:
      emitted (tickWith write) poppedBeats mem (bus :: after) := by
  have queue := @readQueue_queue mem.geometry write power
  obtain ⟨now, later⟩ := List.forall_mem_cons.mp ordinary
  obtain ⟨next, taken, reached⟩ := run_cons_ok_iff.mp reached
  have kept := queue.keeps mem bus next now rfl taken
  have moved := queue.moves mem bus next now rfl taken
  have serves : ∀ state input, input.reset = false → input.rReady = true →
      SimMem.readQueue state ≠ [] → state.poppedBeats input ≠ [] :=
    fun state input => poppedBeats_ne_nil
  have delivered := queue.delivers (·.rReady) serves (along_of_forall _ later next) kept reached
  have short : next.readQueue.length ≤ after.countP (·.rReady) := by
    have lengths := congrArg List.length moved
    rw [List.length_append, List.length_append, length_requestedBeats accepted] at lengths
    omega
  rw [List.take_of_length_le short] at delivered
  rw [emitted_cons_of_ok _ taken, moved]
  exact (List.prefix_append_right_inj _).mpr delivered

theorem read_answered_twoBeats :
    [] ++ (fresh .tiny fun _ => 0).requestedBeats { arValid := true, arAddr := 60, arId := 3, arLen := 1 } <+:
      emitted tick poppedBeats (fresh .tiny fun _ => 0)
        ({ arValid := true, arAddr := 60, arId := 3, arLen := 1 } ::
          [{ rReady := true }, {}, { rReady := true }]) :=
  read_answered (fresh .tiny fun _ => 0) (by decide) { arValid := true, arAddr := 60, arId := 3, arLen := 1 }
    [{ rReady := true }, {}, { rReady := true }] (by simp) rfl (by decide) rfl

/-! ## Writes -/

theorem poppedIds_ne_nil (ordinary : bus.reset = false) (ready : bus.bReady = true)
    (waits : mem.writeRespQueue ≠ []) : mem.poppedIds bus ≠ [] := by
  have fire : (mem.fires bus).bFire = true := by
    simp [fires, ordinary, ready, writeResponseValid, waits]
  rw [poppedIds, if_pos fire]
  simpa using waits

theorem writeRespQueue_queue (write : WriteFn) :
    Queue (tickWith write) (fun _ bus => bus.reset = false) (fun _ => True)
      (fun mem => mem.writeRespQueue) pushedIds poppedIds where
  keeps := fun _ _ _ _ _ _ => trivial
  moves := fun _ _ _ ordinary _ ticked => next_responses ticked ordinary

/-- A burst in flight takes one beat whenever one is offered, and answers
first of all with the last. -/
theorem burst_completes {left : Nat} {ticks : List TickArgs}
    (ordinary : ∀ bus ∈ ticks, bus.reset = false) (busy : mem.curStore.inFlight = true)
    (count : mem.curStore.count.toNat = left + 1)
    (offered : left + 1 ≤ ticks.countP (·.wValid))
    (reached : run (tickWith write) mem ticks = .ok final) :
    [mem.curStore.id] <+: emitted (tickWith write) pushedIds mem ticks := by
  induction ticks generalizing mem left with
  | nil => simp at offered
  | cons bus rest ih =>
      obtain ⟨now, later⟩ := List.forall_mem_cons.mp ordinary
      obtain ⟨next, taken, reached⟩ := run_cons_ok_iff.mp reached
      have closed : (mem.fires bus).awFire = false := by simp [fires, writeAddrReady, busy]
      have store := next_curStore taken
      rw [emitted_cons_of_ok _ taken]
      cases valid : bus.wValid with
      | false =>
          have still : (mem.fires bus).wFire = false := by simp [fires, valid]
          simp only [storeAfter, closed, still, Bool.false_eq_true, if_false] at store
          have fewer : left + 1 ≤ rest.countP (·.wValid) := by
            simpa [List.countP_cons, valid] using offered
          have rest := ih later (store ▸ busy) (store ▸ count) fewer reached
          rw [store] at rest
          simpa [pushedIds, still] using rest
      | true =>
          have fire : (mem.fires bus).wFire = true := by simp [fires, now, valid, writeDataReady, busy]
          simp only [storeAfter, closed, fire, Bool.false_eq_true, if_false, if_true] at store
          cases left with
          | zero =>
              have one : mem.curStore.count = 1 := UInt64.toNat_inj.mp count
              simp [pushedIds, fire, one]
          | succ left =>
              have more : mem.curStore.count ≠ 1 := by
                intro one
                rw [one, UInt64.toNat_one] at count
                omega
              have positive : (1 : UInt64) ≤ mem.curStore.count := by
                rw [UInt64.le_iff_toNat_le, UInt64.toNat_one]
                omega
              have counted : (mem.curStore.count - 1).toNat = left + 1 := by
                rw [UInt64.toNat_sub_of_le _ _ positive, count]
                rfl
              have fewer : left + 1 ≤ rest.countP (·.wValid) := by
                simp only [List.countP_cons, valid, if_true] at offered
                omega
              have rest := ih later (by simp [store, advancedStore, more, busy])
                (by rw [store]; exact counted) fewer reached
              rw [store] at rest
              simpa [pushedIds, fire, more, advancedStore] using rest

/-- An accepted write burst is answered, behind the responses that were
waiting already: the beats complete it, whatever else they bring, and then the
master has to be ready once for each response. -/
theorem write_answered (mem : SimMem) (bus : TickArgs) (data drain : List TickArgs)
    (ordinary : ∀ tick ∈ bus :: (data ++ drain), tick.reset = false)
    (accepted : (mem.fires bus).awFire = true) (short : bus.awLen ≤ 255)
    (offered : bus.awLen.toNat + 1 ≤ data.countP (·.wValid))
    (ready : mem.writeRespQueue.length + 1 ≤ drain.countP (·.bReady))
    (reached : run (tickWith write) mem (bus :: (data ++ drain)) = .ok final) :
    mem.writeRespQueue ++ [bus.awId] <+:
      emitted (tickWith write) poppedIds mem (bus :: (data ++ drain)) := by
  have queue := writeRespQueue_queue write
  obtain ⟨now, later⟩ := List.forall_mem_cons.mp ordinary
  obtain ⟨laterData, laterDrain⟩ := List.forall_mem_append.mp later
  obtain ⟨opened, taken, rest⟩ := run_cons_ok_iff.mp reached
  rw [run_append] at rest
  obtain ⟨middle, stored, drained⟩ := bind_ok_iff.mp rest
  -- The beats push the response of this burst before any other.
  have store := next_curStore taken
  have closed : (mem.fires bus).wFire = false := by
    simpa using fun fire => fires_not_both ⟨accepted, fire⟩
  simp only [storeAfter, accepted, if_true] at store
  have bound : bus.awLen.toNat ≤ 255 := UInt64.le_iff_toNat_le.mp short
  have count : opened.curStore.count.toNat = bus.awLen.toNat + 1 := by
    rw [store, openedStore, UInt64.toNat_add, UInt64.toNat_one]
    exact Nat.mod_eq_of_lt (by omega)
  have pushed := burst_completes laterData (by rw [store]; rfl) count offered stored
  rw [store] at pushed
  have responses : mem.writeRespQueue = mem.poppedIds bus ++ opened.writeRespQueue := by
    simpa [pushedIds, closed] using next_responses taken now
  have conserved := queue.conserves (along_of_forall _ laterData opened) trivial stored
  have held : mem.writeRespQueue ++ [bus.awId] <+: (mem.poppedIds bus ++
      emitted (tickWith write) poppedIds opened data) ++ middle.writeRespQueue := by
    rw [responses, List.append_assoc, List.append_assoc, ← conserved]
    exact (List.prefix_append_right_inj _).mpr ((List.prefix_append_right_inj _).mpr pushed)
  -- What of it has not left yet leaves during the drain.
  have serves : ∀ state input, input.reset = false → input.bReady = true →
      SimMem.writeRespQueue state ≠ [] → state.poppedIds input ≠ [] :=
    fun state input => poppedIds_ne_nil
  have delivered := queue.delivers (·.bReady) serves (along_of_forall _ laterDrain middle) trivial drained
  have first := held.take (mem.writeRespQueue.length + 1)
  rw [List.take_of_length_le (by simp)] at first
  rw [emitted_cons_of_ok _ taken, emitted_append _ stored, ← List.append_assoc]
  have enough : mem.writeRespQueue.length + 1 ≤ (mem.poppedIds bus ++
      emitted (tickWith write) poppedIds opened data).length + drain.countP (·.bReady) := by omega
  have split := take_isPrefix_append_take middle.writeRespQueue enough
  exact (first.trans split).trans ((List.prefix_append_right_inj _).mpr delivered)

/-- Two one-beat bursts one after the other, and a master that is ready for
responses only at the end. -/
theorem write_answered_twoBursts :
    [7] ++ [5] <+: emitted (tickWith (dataOnly fun _ data _ _ _ _ => data)) poppedIds
      { fresh .tiny fun _ => 0 with writeRespQueue := [7] }
      ({ awValid := true, awId := 5 } :: ([{ wValid := true, wLast := true }] ++
        [{ bReady := true }, { bReady := true }])) :=
  write_answered { fresh .tiny fun _ => 0 with writeRespQueue := [7] } { awValid := true, awId := 5 }
    [{ wValid := true, wLast := true }] [{ bReady := true }, { bReady := true }] (by simp) rfl (by decide) (by decide) (by decide) rfl

end PhantomTrails.SimMem
