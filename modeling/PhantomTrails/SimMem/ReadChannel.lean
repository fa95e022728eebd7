import Mathlib.Algebra.Order.Ring.Nat
import PhantomTrails.SimMem.Tick

namespace PhantomTrails.SimMem

open Foundation Foundation.Machine

/-! # The read channel

The requested beats are stated over the natural numbers: no 64-bit
wrap-around, only the reduction modulo the memory size.  A memory whose size
is a power of two cannot tell the difference.
-/

variable {geometry : Geometry} {mem next : SimMem} {bus : TickArgs}

def requestedBeat (mem : SimMem) (bus : TickArgs) (k : Nat) : MemReadResponse where
  id := bus.arId
  data := mem.data.slice
    (((mem.align bus.arAddr).toNat + k * mem.wordSize.toNat) % mem.memSize.toNat)
    mem.wordSize.toNat
  last := decide (k = bus.arLen.toNat)

/-- The beats an accepted request asks for, read from the memory as it stands
before the tick. -/
def requestedBeats (mem : SimMem) (bus : TickArgs) : List MemReadResponse :=
  if (mem.fires bus).arFire then
    (List.range (bus.arLen.toNat + 1)).map (mem.requestedBeat bus)
  else []

theorem Geometry.align_toNat (geometry : Geometry) (addr : UInt64) :
    (geometry.align addr).toNat =
      addr.toNat / geometry.wordSize.toNat * geometry.wordSize.toNat := by
  have bounded : addr.toNat / geometry.wordSize.toNat * geometry.wordSize.toNat ≤ addr.toNat :=
    Nat.div_mul_le_self _ _
  rw [align, UInt64.toNat_mul, UInt64.toNat_div]
  exact Nat.mod_eq_of_lt (Nat.lt_of_le_of_lt bounded addr.toNat_lt)

/-- Wrapping to 64 bits is invisible modulo a power of two that fits them. -/
theorem beatOffset_toNat (power : mem.memSize.toNat ∣ 2 ^ 64) (k : Nat) :
    (mem.beatOffset bus k).toNat =
      ((mem.align bus.arAddr).toNat + k * mem.wordSize.toNat) % mem.memSize.toNat := by
  rw [beatOffset, UInt64.toNat_mod, UInt64.toNat_add, UInt64.toNat_mul, UInt64.toNat_ofNat',
    Nat.mod_mod_of_dvd _ power, Nat.add_mod, Nat.mod_mod_of_dvd _ power, Nat.mul_mod,
    Nat.mod_mod_of_dvd _ power, ← Nat.mul_mod, ← Nat.add_mod]

theorem beat_eq_requestedBeat (power : mem.memSize.toNat ∣ 2 ^ 64) (k : Nat) :
    mem.beat bus k = mem.requestedBeat bus k := by
  simp only [beat, requestedBeat, beatOffset_toNat power]
  rfl

theorem pushedBeats_eq_requestedBeats (power : mem.memSize.toNat ∣ 2 ^ 64) :
    mem.pushedBeats bus = mem.requestedBeats bus := by
  simp only [pushedBeats, requestedBeats, funext (beat_eq_requestedBeat power)]

/-- A word-aligned offset below a multiple of the word size leaves room for a
whole word. -/
theorem beatInside (wraps : mem.wordSize.toNat ∣ 2 ^ 64)
    (words : mem.wordSize.toNat ∣ mem.memSize.toNat) (sizePos : 0 < mem.memSize.toNat) (k : Nat) :
    mem.BeatInside bus k := by
  have aligned : mem.wordSize.toNat ∣ (mem.beatOffset bus k).toNat := by
    rw [beatOffset, UInt64.toNat_mod, Nat.dvd_mod_iff words, UInt64.toNat_add,
      Nat.dvd_mod_iff wraps, align, mem.geometry.align_toNat, UInt64.toNat_mul]
    exact Nat.dvd_add (Nat.dvd_mul_left _ _)
      ((Nat.dvd_mod_iff wraps).mpr (Nat.dvd_mul_left _ _))
  have below : (mem.beatOffset bus k).toNat < mem.memSize.toNat := by
    rw [beatOffset, UInt64.toNat_mod]
    exact Nat.mod_lt _ sizePos
  obtain ⟨word, atWord⟩ := aligned
  obtain ⟨size, sizeEq⟩ := words
  rw [BeatInside, atWord, sizeEq, ← Nat.mul_succ]
  rw [atWord, sizeEq] at below
  exact Nat.mul_le_mul_left _ (Nat.lt_of_mul_lt_mul_left below)

theorem keeps_geometry (write : WriteFn) (legal : SimMem → TickArgs → Prop) :
    Keeps (tickWith write) legal (fun mem => mem.geometry = geometry) :=
  fun _ _ _ _ same ticked => (next_geometry ticked).trans same

theorem readQueue_queue (write : WriteFn) (power : geometry.memSize.toNat ∣ 2 ^ 64) :
    Queue (tickWith write) (fun _ bus => bus.reset = false) (fun mem => mem.geometry = geometry)
      (fun mem => mem.readQueue) requestedBeats poppedBeats where
  keeps := keeps_geometry write _
  moves := by
    intro mem bus next ordinary same ticked
    have power' : mem.memSize.toNat ∣ 2 ^ 64 := by rw [memSize, same]; exact power
    rw [← pushedBeats_eq_requestedBeats power']
    exact next_reads ticked ordinary

/-- Read channel: no beat is lost, duplicated, reordered or altered, and no
read leaves the memory. -/
theorem read_channel_exact (geometry : Geometry) (data : Store UInt8)
    (power : ∃ exponent, geometry.memSize.toNat = 2 ^ exponent)
    (words : geometry.wordSize.toNat ∣ geometry.memSize.toNat)
    (ticks : List TickArgs) (ordinary : ∀ bus ∈ ticks, bus.reset = false) :
    Along tick (fun mem bus => (mem.fires bus).arFire = true →
        ∀ k, k ≤ bus.arLen.toNat → mem.BeatInside bus k)
      (fresh geometry data) ticks ∧
    ∀ final, run tick (fresh geometry data) ticks = .ok final →
      emitted tick poppedBeats (fresh geometry data) ticks ++ final.readQueue =
        emitted tick requestedBeats (fresh geometry data) ticks := by
  obtain ⟨exponent, power⟩ := power
  have fits : geometry.memSize.toNat ∣ 2 ^ 64 := by
    have below : 2 ^ exponent < 2 ^ 64 := power ▸ geometry.memSize.toNat_lt
    rw [power]
    exact Nat.pow_dvd_pow 2 (Nat.le_of_lt ((Nat.pow_lt_pow_iff_right (by decide)).mp below))
  have queue := readQueue_queue write fits
  have lawful := along_of_forall tick ordinary (fresh geometry data)
  constructor
  · apply queue.keeps.along ?_ lawful rfl
    intro mem bus _ same _ k _
    have sizePos : 0 < geometry.memSize.toNat := Nat.pos_of_dvd_of_pos fits (by decide)
    subst same
    exact beatInside (words.trans fits) words sizePos k
  · intro final reached
    have conserved := queue.conserves lawful rfl reached
    simpa [fresh, tick] using conserved.symm

theorem read_channel_exact_two_beats :
    ∃ final, run tick (fresh .tiny fun offset => UInt8.ofNat offset)
        [{ arValid := true, arAddr := 60, arId := 3, arLen := 1 }, { rReady := true }] =
          .ok final ∧
      final.readQueue = [{ id := 3, data := [0, 1, 2, 3, 4, 5, 6, 7], last := true }] ∧
      emitted tick poppedBeats (fresh .tiny fun offset => UInt8.ofNat offset)
        [{ arValid := true, arAddr := 60, arId := 3, arLen := 1 }, { rReady := true }] ++
          final.readQueue =
        emitted tick requestedBeats (fresh .tiny fun offset => UInt8.ofNat offset)
          [{ arValid := true, arAddr := 60, arId := 3, arLen := 1 }, { rReady := true }] := by
  have exact' := (read_channel_exact .tiny (fun offset => UInt8.ofNat offset) ⟨6, rfl⟩
    (by decide) [{ arValid := true, arAddr := 60, arId := 3, arLen := 1 }, { rReady := true }]
    (by simp)).2
  exact ⟨_, rfl, rfl, exact' _ rfl⟩

end PhantomTrails.SimMem
