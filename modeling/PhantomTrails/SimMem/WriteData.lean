import Mathlib.Data.Nat.Bitwise
import PhantomTrails.SimMem.ReadChannel

namespace PhantomTrails.SimMem

open Foundation Foundation.Machine

/-! # The write-data channel

`tick` hands the bus strobe to `write` as a size and the beat size as a
strobe, and `write` copies `data[i]` where it should copy `src[i]`.  The
lemmas say what these calls do to the DRAM; the main theorem says for which
beats that is what the master asked for.
-/

variable {memSize base : Nat} {data after : Store UInt8} {mem next : SimMem} {bus : TickArgs}

theorem lowBit_iff (strb : UInt64) : strb &&& 1 = 1 ↔ strb.toNat.testBit 0 = true := by
  rw [← UInt64.toNat_inj, UInt64.toNat_and, UInt64.toNat_one, Nat.and_one_is_mod,
    Nat.testBit_zero, decide_eq_true_eq]

theorem shiftRight_testBit (strb : UInt64) (lane : Nat) :
    (strb >>> 1).toNat.testBit lane = strb.toNat.testBit (lane + 1) := by
  have shifted : (strb >>> 1).toNat = strb.toNat / 2 := by
    rw [UInt64.toNat_shiftRight, UInt64.toNat_one]
    exact Nat.shiftRight_one _
  rw [shifted, Nat.testBit_succ]

/-- The loop copies `data[lane]` to every enabled lane.  The sources are the
lowest bytes of the DRAM: the word at `base` is either that very word or
disjoint from it, so no copy disturbs a later one. -/
theorem writeLanes_ok {remaining i : Nat} {strb : UInt64}
    (inside : base + i + remaining ≤ memSize) (apart : base = 0 ∨ i + remaining ≤ base) :
    writeLanes memSize base remaining i strb data = .ok fun cell =>
      if base + i ≤ cell ∧ cell < base + i + remaining ∧ strb.toNat.testBit (cell - base - i) = true
      then data (cell - base) else data cell := by
  induction remaining generalizing i strb data with
  | zero =>
      simp only [writeLanes, Except.ok.injEq]
      funext cell
      rw [if_neg (by omega)]
  | succ remaining ih =>
      simp only [writeLanes, lowBit_iff]
      have bounds : base + i < memSize ∧ i < memSize := by omega
      rw [if_pos bounds, ih (by omega) (by omega), ih (by omega) (by omega), ← apply_ite Except.ok]
      congr 1
      funext cell
      simp only [apply_ite (fun store : Store UInt8 => store cell), shiftRight_testBit]
      by_cases first : cell = base + i
      · subst first
        have low : base + i - base - i = 0 := by omega
        have source : base + i - base = i := by omega
        have notLater : ¬ (base + (i + 1) ≤ base + i ∧ base + i < base + (i + 1) + remaining ∧
            strb.toNat.testBit (base + i - base - (i + 1) + 1) = true) := by omega
        rw [if_neg notLater, low, source]
        simp only [Function.update_self]
        by_cases enabled : strb.toNat.testBit 0 = true <;> simp [enabled]
      · have kept : Function.update data (base + i) (data i) cell = data cell :=
          Function.update_of_ne first _ _
        have sourceKept : base + (i + 1) ≤ cell → cell < base + (i + 1) + remaining →
            Function.update data (base + i) (data i) (cell - base) = data (cell - base) :=
          fun _ _ => Function.update_of_ne (by omega) _ _
        by_cases later : base + (i + 1) ≤ cell ∧ cell < base + (i + 1) + remaining
        · have index : cell - base - (i + 1) + 1 = cell - base - i := by omega
          simp only [later.1, later.2, true_and, kept, sourceKept later.1 later.2, index, ite_self,
            show base + i ≤ cell by omega, show cell < base + i + (remaining + 1) by omega]
        · have outside : ¬ (base + i ≤ cell ∧ cell < base + i + (remaining + 1)) := by omega
          simp only [← and_assoc, later, outside, false_and, if_false, kept, ite_self]

/-- The masked strobe keeps the lanes from `shift` on, `size` of them. -/
theorem strobeMask_testBit {size shift mask : UInt64} {lane : Nat}
    (masked : strobeMask size shift = .ok mask) (low : lane < 32) :
    mask.toNat.testBit lane = true ↔
      shift.toNat ≤ lane ∧ lane < shift.toNat + size.toNat := by
  simp only [strobeMask] at masked
  split at masked
  · cases masked
    rw [UInt64.toNat_ofBitVec, BitVec.testBit_toNat, BitVec.getLsbD_signExtend, if_pos low,
      BitVec.getLsbD_ofNat, Nat.testBit_mul_two_pow, Nat.testBit_two_pow_sub_one]
    simp only [low, decide_true, Bool.true_and, Bool.and_eq_true, decide_eq_true_eq]
    omega
  · contradiction

def wordBase (mem : SimMem) : Nat := (mem.align (mem.curStore.addr % mem.memSize)).toNat

def laneOffset (mem : SimMem) : Nat := (mem.curStore.addr % mem.wordSize).toNat

def Strobed (mem : SimMem) (bus : TickArgs) (lane : Nat) : Prop :=
  bus.wStrb.toNat.testBit lane = true ∧
    mem.laneOffset ≤ lane ∧ lane < mem.laneOffset + mem.curStore.size.toNat

/-- The lanes `write` copies: the bits of the beat size, as far as the mask
made from the bus strobe keeps them. -/
def Copied (mem : SimMem) (bus : TickArgs) (lane : Nat) : Prop :=
  mem.curStore.size.toNat.testBit lane = true ∧
    (bus.wStrb = 64 ∨
      mem.laneOffset ≤ lane ∧ lane < mem.laneOffset + bus.wStrb.toNat)

instance (mem : SimMem) (bus : TickArgs) (lane : Nat) : Decidable (mem.Strobed bus lane) :=
  inferInstanceAs (Decidable (_ ∧ _))

instance (mem : SimMem) (bus : TickArgs) (lane : Nat) : Decidable (mem.Copied bus lane) :=
  inferInstanceAs (Decidable (_ ∧ _))

structure StrobedWord where
  base : Nat
  width : Nat
  enabled : Nat → Bool
  bytes : Nat → UInt8

def StrobedWord.store (data : Store UInt8) (word : StrobedWord) : Store UInt8 := fun cell =>
  if word.base ≤ cell ∧ cell < word.base + word.width ∧ word.enabled (cell - word.base) then
    word.bytes (cell - word.base)
  else data cell

/-- The word the master asks to write with an accepted beat. -/
def requestedWord (mem : SimMem) (bus : TickArgs) : StrobedWord where
  base := mem.wordBase
  width := mem.wordSize.toNat
  enabled := fun lane => decide (mem.Strobed bus lane)
  bytes := bus.wData

def requestedWords (mem : SimMem) (bus : TickArgs) : List StrobedWord :=
  if (mem.fires bus).wFire then [mem.requestedWord bus] else []

/-- What the memory owes one beat: the tick returns, and the DRAM holds the
requested word and is otherwise unchanged. -/
def BeatStored (mem : SimMem) (bus : TickArgs) : Prop :=
  (mem.fires bus).wFire = true → ∃ next, mem.tick bus = .ok next ∧
    ∀ offset, offset < mem.memSize.toNat →
      next.data offset = StrobedWord.store mem.data (mem.requestedWord bus) offset

def copiedData (mem : SimMem) (bus : TickArgs) : Store UInt8 := fun cell =>
  if mem.wordBase ≤ cell ∧ cell < mem.wordBase + mem.wordSize.toNat ∧
      mem.Copied bus (cell - mem.wordBase) then mem.data (cell - mem.wordBase)
  else mem.data cell

/-- The bus strobe passes for a size: the assertion holds, and the `int`
shifts of the mask are defined. -/
def StrobeDefined (mem : SimMem) (bus : TickArgs) : Prop :=
  bus.wStrb = 64 ∨
    bus.wStrb.toNat ≤ 30 ∧ (2 ^ bus.wStrb.toNat - 1) * 2 ^ mem.laneOffset < 2 ^ 32

/-- The beats that land all the same: the strobe passes for a size, the last
beat is marked, every strobed lane ends up with its bus byte (because it holds
it already, or because the byte copied there is equal), and no other lane is
changed by a copy. -/
structure BeatLands (mem : SimMem) (bus : TickArgs) : Prop where
  strobe : mem.StrobeDefined bus
  last : mem.curStore.count = 1 → bus.wLast = true
  strobed : ∀ lane, lane < mem.wordSize.toNat → mem.Strobed bus lane →
    (if mem.Copied bus lane then mem.data lane else mem.data (mem.wordBase + lane)) =
      bus.wData lane
  others : ∀ lane, lane < mem.wordSize.toNat → ¬ mem.Strobed bus lane → mem.Copied bus lane →
    mem.data lane = mem.data (mem.wordBase + lane)

/-- Eight-byte words that tile the memory, as the driver constructs it. -/
structure WordTiled (geometry : Geometry) : Prop where
  word : geometry.wordSize = 8
  words : 8 ∣ geometry.memSize.toNat
  nonempty : 0 < geometry.memSize.toNat

theorem WordTiled.wordSize_toNat {geometry : Geometry} (tiled : WordTiled geometry) :
    geometry.wordSize.toNat = 8 := by
  rw [tiled.word]
  rfl

theorem wordBase_inside (tiled : WordTiled mem.geometry) :
    mem.wordBase + 8 ≤ mem.memSize.toNat ∧ (mem.wordBase = 0 ∨ 8 ≤ mem.wordBase) := by
  obtain ⟨words, sizeEq⟩ := tiled.words
  have below : mem.curStore.addr.toNat % mem.memSize.toNat < mem.memSize.toNat :=
    Nat.mod_lt _ tiled.nonempty
  rw [wordBase, align, mem.geometry.align_toNat, tiled.wordSize_toNat, UInt64.toNat_mod]
  rw [memSize] at below ⊢
  omega

theorem write_ok_iff (tiled : WordTiled mem.geometry) :
    write mem.geometry mem.data mem.curStore.addr bus.wData bus.wStrb mem.curStore.size =
        .ok after ↔
      mem.StrobeDefined bus ∧ after = mem.copiedData bus := by
  obtain ⟨inside, apart⟩ := wordBase_inside tiled
  have lanes : ∀ {strb : UInt64},
      (∀ lane, lane < 8 → (strb.toNat.testBit lane = true ↔ mem.Copied bus lane)) →
      writeLanes mem.memSize.toNat mem.wordBase 8 0 strb mem.data = .ok (mem.copiedData bus) := by
    intro strb enabled
    rw [writeLanes_ok (by omega) (by omega)]
    congr 1
    funext cell
    simp only [copiedData, wordSize, tiled.wordSize_toNat, Nat.add_zero, Nat.sub_zero]
    by_cases within : mem.wordBase ≤ cell ∧ cell < mem.wordBase + 8
    · simp only [within.1, within.2, true_and, enabled _ (show cell - mem.wordBase < 8 by omega)]
    · simp only [← and_assoc, within, false_and]
  have assertion : bus.wStrb ≤ 64 ↔ bus.wStrb.toNat ≤ 64 := UInt64.le_iff_toNat_le
  simp only [write, tiled.wordSize_toNat]
  by_cases whole : bus.wStrb = 64
  · -- No mask: the beat size itself is the strobe.
    have unmasked := @lanes mem.curStore.size (fun lane _ => by simp [Copied, whole])
    simp only [wordBase, align, memSize] at unmasked
    simp only [whole, Std.le_refl, if_true, pure_bind, unmasked, StrobeDefined, true_or, true_and,
      Except.ok.injEq]
    exact eq_comm
  · cases masked : strobeMask bus.wStrb (mem.curStore.addr % mem.geometry.wordSize) with
    | error fault =>
        have undefined : ¬ mem.StrobeDefined bus := by
          simp only [StrobeDefined, whole, false_or]
          intro fine
          simp only [strobeMask, laneOffset, wordSize] at masked fine
          rw [if_pos fine] at masked
          contradiction
        by_cases small : bus.wStrb ≤ 64
        · simp [small, whole, undefined, bind, Except.bind]
        · simp [small, undefined, throw, throwThe, MonadExceptOf.throw]
    | ok mask =>
        have fine : mem.StrobeDefined bus := by
          right
          by_contra undefined
          simp only [strobeMask, laneOffset, wordSize] at masked undefined
          rw [if_neg undefined] at masked
          contradiction
        have small : bus.wStrb ≤ 64 := by
          have bound := fine.resolve_left whole
          rw [assertion]
          omega
        have enabled := @lanes (mem.curStore.size &&& mask) (fun lane low => by
          rw [UInt64.toNat_and, Nat.testBit_and, Bool.and_eq_true,
            strobeMask_testBit masked (by omega)]
          simp [Copied, whole, laneOffset])
        simp only [wordBase, align, memSize] at enabled
        simp only [small, whole, if_true, if_false, fine, true_and]
        change writeLanes _ _ _ _ _ _ = _ ↔ _
        rw [enabled, Except.ok.injEq]
        exact eq_comm

theorem copiedData_eq_iff :
    (∀ offset, offset < mem.memSize.toNat →
        mem.copiedData bus offset = StrobedWord.store mem.data (mem.requestedWord bus) offset) ↔
      ∀ lane, mem.wordBase + lane < mem.memSize.toNat → lane < mem.wordSize.toNat →
        (if mem.Copied bus lane then mem.data lane else mem.data (mem.wordBase + lane)) =
          if mem.Strobed bus lane then bus.wData lane else mem.data (mem.wordBase + lane) := by
  have atLane : ∀ lane, lane < mem.wordSize.toNat →
      (mem.copiedData bus (mem.wordBase + lane) =
          StrobedWord.store mem.data (mem.requestedWord bus) (mem.wordBase + lane) ↔
        (if mem.Copied bus lane then mem.data lane else mem.data (mem.wordBase + lane)) =
          if mem.Strobed bus lane then bus.wData lane else mem.data (mem.wordBase + lane)) := by
    intro lane inside
    simp [copiedData, StrobedWord.store, requestedWord, inside]
  constructor
  · intro agree lane inside low
    exact (atLane lane low).mp (agree _ inside)
  · intro agree offset inside
    by_cases within : mem.wordBase ≤ offset ∧ offset < mem.wordBase + mem.wordSize.toNat
    · have split : offset = mem.wordBase + (offset - mem.wordBase) := by omega
      rw [split]
      rw [split] at inside
      exact (atLane _ (by omega)).mpr (agree _ inside (by omega))
    · simp only [copiedData, StrobedWord.store, requestedWord, ← and_assoc, within, false_and,
        if_false]

theorem lanes_agree_iff (tiled : WordTiled mem.geometry) :
    (∀ lane, mem.wordBase + lane < mem.memSize.toNat → lane < mem.wordSize.toNat →
        (if mem.Copied bus lane then mem.data lane else mem.data (mem.wordBase + lane)) =
          if mem.Strobed bus lane then bus.wData lane else mem.data (mem.wordBase + lane)) ↔
      (∀ lane, lane < mem.wordSize.toNat → mem.Strobed bus lane →
        (if mem.Copied bus lane then mem.data lane else mem.data (mem.wordBase + lane)) =
          bus.wData lane) ∧
      ∀ lane, lane < mem.wordSize.toNat → ¬ mem.Strobed bus lane → mem.Copied bus lane →
        mem.data lane = mem.data (mem.wordBase + lane) := by
  have room : ∀ lane, lane < mem.wordSize.toNat → mem.wordBase + lane < mem.memSize.toNat := by
    intro lane low
    have inside := (wordBase_inside tiled).1
    rw [wordSize, tiled.wordSize_toNat] at low
    omega
  constructor
  · intro agree
    refine ⟨fun lane low strobed => ?_, fun lane low plain copied => ?_⟩
    · simpa [strobed] using agree lane (room lane low) low
    · simpa [plain, copied] using agree lane (room lane low) low
  · intro agree lane _ low
    by_cases strobed : mem.Strobed bus lane
    · simpa [strobed] using agree.1 lane low strobed
    · by_cases copied : mem.Copied bus lane
      · simpa [strobed, copied] using agree.2 lane low strobed copied
      · simp [strobed, copied]

/-- A tick whose data beat, if it accepts one, satisfies the conditions of
`write` succeeds. -/
theorem tick_succeeds (tiled : WordTiled mem.geometry)
    (shift : (mem.fires bus).awFire = true → bus.awSize < 64)
    (strobe : (mem.fires bus).wFire = true → mem.StrobeDefined bus)
    (last : (mem.fires bus).wFire = true → mem.curStore.count = 1 → bus.wLast = true) :
    ∃ next, mem.tick bus = .ok next := by
  have wraps : mem.wordSize.toNat ∣ 2 ^ 64 := by
    rw [wordSize, tiled.wordSize_toNat]
    decide
  have words : mem.wordSize.toNat ∣ mem.memSize.toNat := by
    rw [wordSize, tiled.wordSize_toNat]
    exact tiled.words
  have inside := fun (_ : (mem.fires bus).arFire = true) (k : Nat) (_ : k ≤ bus.arLen.toNat) =>
    @beatInside mem bus wraps words tiled.nonempty k
  cases fire : (mem.fires bus).wFire with
  | true =>
      refine ⟨_, tickWith_ok_iff.mpr ⟨mem.copiedData bus, ⟨inside, shift, ?_, last, ?_⟩,
        rfl⟩⟩
      · exact fun _ => (write_ok_iff tiled).mpr ⟨strobe fire, rfl⟩
      · simp [fire]
  | false =>
      refine ⟨_, tickWith_ok_iff.mpr ⟨mem.data, ⟨inside, shift, ?_, last, ?_⟩, rfl⟩⟩
      · simp [fire]
      · exact fun _ => rfl

/-- One accepted beat is stored as requested exactly when it lands. -/
theorem beatStored_iff (tiled : WordTiled mem.geometry)
    (shift : (mem.fires bus).awFire = true → bus.awSize < 64) :
    mem.BeatStored bus ↔ ((mem.fires bus).wFire = true → mem.BeatLands bus) := by
  apply forall_congr' fun fire => ?_
  constructor
  · intro ⟨next, ticked, agree⟩
    obtain ⟨strobe, copied⟩ := (write_ok_iff tiled).mp (next_written ticked fire)
    obtain ⟨_, accepts, -⟩ := tickWith_ok_iff.mp ticked
    rw [copied] at agree
    obtain ⟨strobed, others⟩ := (lanes_agree_iff tiled).mp (copiedData_eq_iff.mp agree)
    exact ⟨strobe, accepts.last fire, strobed, others⟩
  · intro lands
    obtain ⟨next, ticked⟩ := tick_succeeds tiled shift (fun _ => lands.strobe) fun _ => lands.last
    have copied := ((write_ok_iff tiled).mp (next_written ticked fire)).2
    refine ⟨next, ticked, ?_⟩
    rw [copied]
    exact copiedData_eq_iff.mpr ((lanes_agree_iff tiled).mpr ⟨lands.strobed, lands.others⟩)

theorem copiedData_eq_store (tiled : WordTiled mem.geometry) (lands : mem.BeatLands bus) :
    mem.copiedData bus = StrobedWord.store mem.data (mem.requestedWord bus) := by
  have agree := copiedData_eq_iff.mpr
    ((lanes_agree_iff tiled).mpr ⟨lands.strobed, lands.others⟩)
  have inside := (wordBase_inside tiled).1
  funext offset
  by_cases low : offset < mem.memSize.toNat
  · exact agree offset low
  · have outside : ¬ offset < mem.wordBase + mem.wordSize.toNat := by
      rw [wordSize, tiled.wordSize_toNat]
      omega
    simp only [copiedData, StrobedWord.store, requestedWord, outside, false_and, and_false,
      if_false]

/-- Over every run the accepted beats are stored as requested exactly when
each of them lands; a run of such beats never fails, and the memory ends up
holding the written words. -/
theorem write_burst_stored_iff (geometry : Geometry) (tiled : WordTiled geometry)
    (data : Store UInt8) (ticks : List TickArgs)
    (sizes : ∀ bus ∈ ticks, bus.awValid = true → bus.awSize ≤ 3) :
    (Along tick BeatStored (fresh geometry data) ticks ↔
      Along tick (fun mem bus => (mem.fires bus).wFire = true → mem.BeatLands bus)
        (fresh geometry data) ticks) ∧
    (Along tick (fun mem bus => (mem.fires bus).wFire = true → mem.BeatLands bus)
        (fresh geometry data) ticks →
      ∃ final, run tick (fresh geometry data) ticks = .ok final ∧
        final.data =
          (emitted tick requestedWords (fresh geometry data) ticks).foldl StrobedWord.store data) := by
  have shifts : ∀ bus ∈ ticks, bus.awValid = true → bus.awSize < 64 :=
    fun bus member valid => UInt64.lt_of_le_of_lt (sizes bus member valid) (by decide)
  have lawful := along_of_forall tick shifts (fresh geometry data)
  have keeps := fun legal => @keeps_geometry geometry write legal
  refine ⟨(keeps _).along_congr ?_ lawful rfl, fun lands => ?_⟩
  · intro mem bus shift same
    subst same
    exact beatStored_iff tiled fun fire => shift (awValid_of_awFire fire)
  · have lawful := lawful.and lands
    obtain ⟨final, reached⟩ := (keeps _).completes (fun mem bus legal same => by
      subst same
      exact tick_succeeds tiled (fun fire => legal.1 (awValid_of_awFire fire)) (fun fire => (legal.2 fire).strobe)
        fun fire => (legal.2 fire).last) lawful rfl
    refine ⟨final, reached, (keeps _).run_fold ?_ lawful rfl reached⟩
    intro mem bus next legal same ticked
    subst same
    cases fire : (mem.fires bus).wFire with
    | false => simp [requestedWords, fire, next_data ticked fire]
    | true =>
        have copied := ((write_ok_iff tiled).mp (next_written ticked fire)).2
        rw [copied, copiedData_eq_store tiled (legal.2 fire)]
        simp [requestedWords, fire]

theorem WordTiled.tiny : WordTiled .tiny := ⟨rfl, by decide, by decide⟩

/-- A one-byte beat at offset 8 that stores the byte the DRAM holds at
offset 0. -/
def landingBeat : List TickArgs :=
  [{ awValid := true, awAddr := 8 }, { wValid := true, wStrb := 1, wLast := true }]

theorem write_burst_stored_iff_landingBeat :
    ∃ final, run tick (fresh .tiny fun offset => UInt8.ofNat offset) landingBeat = .ok final ∧
      final.data 8 = 0 ∧ final.data 9 = 9 := by
  have lands : Along tick (fun mem bus => (mem.fires bus).wFire = true → mem.BeatLands bus)
      (fresh .tiny fun offset => UInt8.ofNat offset) landingBeat := by
    refine along_cons_of_ok rfl (fun fire => by cases fire) <| along_cons_of_ok rfl (fun _ => ?_)
      trivial
    exact ⟨.inr (by decide), fun _ => rfl, by decide, by decide⟩
  obtain ⟨final, reached, stored⟩ := (write_burst_stored_iff .tiny .tiny
    (fun offset => UInt8.ofNat offset) landingBeat (by simp [landingBeat])).2 lands
  exact ⟨final, reached, by rw [stored]; rfl, by rw [stored]; rfl⟩

/-- A full-word beat: every lane strobed, as a cache write-back sends it. -/
def fullWordBeat : List TickArgs :=
  [{ awValid := true, awAddr := 8, awSize := 3 },
    { wValid := true, wStrb := 0xFF, wData := fun _ => 0xAA, wLast := true }]

/-- The strobe `0xFF`, taken for a size, fails the assertion of `write`. -/
theorem write_burst_fullWordBeat :
    (∀ bus ∈ fullWordBeat, (bus.awValid = true → bus.awSize ≤ 3) ∧ bus.wStrb.toNat < 2 ^ 8) ∧
      run tick (fresh .tiny fun _ => 0) fullWordBeat = .error .assertion ∧
      ¬ Along tick BeatStored (fresh .tiny fun _ => 0) fullWordBeat := by
  refine ⟨by simp [fullWordBeat], rfl, fun stored => ?_⟩
  obtain ⟨next, ticked, -⟩ := (stored.2 _ rfl).1 rfl
  cases ticked

end PhantomTrails.SimMem
