import PhantomTrails.Simulator.Model

namespace PhantomTrails

open Foundation

/-! # The instruction cache

In every cycle the labels of the instruction cache are changed, so that
tainted instructions are not mistaken for leaked data.  With several colors
they change their color, otherwise they lose the taint.
-/

/-- The runtime of the single-color build; it is not part of the repository. -/
structure Tainting where
  check : Store UInt8 → (start count : Nat) → UInt8
  taintBits : Store UInt8 → (cell : Nat) → UInt8 → Store UInt8
  check_eq_zero_iff : ∀ labels start count,
    check labels start count = 0 ↔ ∀ cell, start ≤ cell → cell < start + count → labels cell = 0
  taintBits_zero : ∀ labels cell, taintBits labels cell 0 = labels.fill cell 1 0

inductive Build where
  | dfsan
  | msan (tainting : Tainting)

def ICACHE_WAY_SIZE : Nat := 512 * 8

namespace Build

/-- The label of an instruction byte in the build with two colors; `dataLbl`
is its lowest bit, `instLbl` the next one. -/
def newLabel (lbl : UInt8) : UInt8 := ((lbl >>> 1) <<< 1) ||| ((lbl &&& 1) <<< 1)

/-- One turn of the loop, at the first byte of a word. -/
def retaintWord : Build → Store UInt8 → Nat → Store UInt8
  | .dfsan, labels, i => labels.fill i 1 (newLabel (labels i))
  | .msan tainting, labels, i =>
      if tainting.check labels i 4 ≠ 0 then
        let labels := tainting.taintBits labels i 0
        let labels := tainting.taintBits labels (i + 1) 0
        let labels := tainting.taintBits labels (i + 2) 0
        tainting.taintBits labels (i + 3) 0
      else labels

def words (len : Nat) : List Nat := (List.range ((len + 3) / 4)).map (4 * ·)

def retaintICacheLine (build : Build) (cacheLine : Store UInt8) (len : Nat) : Store UInt8 :=
  (words len).foldl build.retaintWord cacheLine

def untaintICache (ways : Fin 4 → Store UInt8) : Fin 4 → Store UInt8 :=
  fun way => (ways way).fill 0 ICACHE_WAY_SIZE Simulator.untaintedLbl

def retaintICache (build : Build) (ways : Fin 4 → Store UInt8) : Fin 4 → Store UInt8 :=
  fun way => build.retaintICacheLine (ways way) ICACHE_WAY_SIZE

def instLbl : UInt8 := 2

/-- With a single color every taint is one of data. -/
def carriesData : Build → UInt8 → Bool
  | .dfsan, lbl => lbl &&& Simulator.dataLbl != 0
  | .msan _, lbl => lbl != 0

/-! ## What the loop leaves -/

theorem newLabel_facts (lbl : UInt8) :
    newLabel lbl &&& Simulator.dataLbl = 0 ∧ newLabel (newLabel lbl) = newLabel lbl ∧
      (lbl &&& Simulator.dataLbl ≠ 0 → newLabel lbl &&& instLbl ≠ 0) := by
  have all : ∀ n < 256, newLabel (UInt8.ofNat n) &&& Simulator.dataLbl = 0 ∧
      newLabel (newLabel (UInt8.ofNat n)) = newLabel (UInt8.ofNat n) ∧
      (UInt8.ofNat n &&& Simulator.dataLbl ≠ 0 → newLabel (UInt8.ofNat n) &&& instLbl ≠ 0) := by
    decide +kernel
  simpa using all lbl.toNat lbl.toNat_lt

/-- The cells a turn of the loop sets, and what it makes of their labels. -/
def touches : Build → (i cell : Nat) → Prop
  | .dfsan, i, cell => cell = i
  | .msan _, i, cell => i ≤ cell ∧ cell < i + 4

instance (build : Build) (i cell : Nat) : Decidable (build.touches i cell) :=
  match build with
  | .dfsan => inferInstanceAs (Decidable (_ = _))
  | .msan _ => inferInstanceAs (Decidable (_ ∧ _))

def relabel : Build → UInt8 → UInt8
  | .dfsan, lbl => newLabel lbl
  | .msan _, _ => 0

theorem relabel_relabel (build : Build) (lbl : UInt8) :
    build.relabel (build.relabel lbl) = build.relabel lbl := by
  cases build with
  | dfsan => exact (newLabel_facts lbl).2.1
  | msan tainting => rfl

/-- The word is cleared, whether or not the check finds a taint in it. -/
theorem retaintWord_msan (tainting : Tainting) (labels : Store UInt8) (i : Nat) :
    (msan tainting).retaintWord labels i = labels.fill i 4 0 := by
  funext cell
  rw [retaintWord]
  split
  · simp only [tainting.taintBits_zero, Store.fill]
    by_cases inside : i ≤ cell ∧ cell < i + 4
    · rw [if_pos inside]
      split_ifs <;> first | rfl | omega
    · rw [if_neg inside]
      split_ifs <;> first | rfl | omega
  · rename_i clean
    have zero := (tainting.check_eq_zero_iff labels i 4).mp (by simpa using clean)
    rw [Store.fill]
    split
    · rename_i inside
      exact zero cell inside.1 inside.2
    · rfl

theorem retaintWord_apply (build : Build) (labels : Store UInt8) (i cell : Nat) :
    build.retaintWord labels i cell =
      if build.touches i cell then build.relabel (labels cell) else labels cell := by
  by_cases touched : build.touches i cell
  · rw [if_pos touched]
    cases build with
    | dfsan =>
        obtain rfl : cell = i := touched
        exact Store.fill_inside (Nat.le_refl cell) (Nat.lt_succ_self cell)
    | msan tainting =>
        rw [retaintWord_msan]
        exact Store.fill_inside touched.1 touched.2
  · rw [if_neg touched]
    cases build with
    | dfsan =>
        have apart : cell ≠ i := touched
        exact Store.fill_outside (by omega)
    | msan tainting =>
        have outside : ¬ (i ≤ cell ∧ cell < i + 4) := touched
        rw [retaintWord_msan]
        exact Store.fill_outside (by omega)

/-- Relabelling twice is no different from once, so a label depends on whether
some turn of the loop touches it. -/
theorem foldl_retaintWord (build : Build) (starts : List Nat) (labels : Store UInt8) (cell : Nat) :
    starts.foldl build.retaintWord labels cell =
      if ∃ i ∈ starts, build.touches i cell then build.relabel (labels cell) else labels cell := by
  induction starts generalizing labels with
  | nil => simp
  | cons i rest ih =>
      rw [List.foldl_cons, ih, retaintWord_apply]
      by_cases now : build.touches i cell
      · simp [now, relabel_relabel]
      · simp [now]

theorem retaintICacheLine_apply (build : Build) (labels : Store UInt8) (len cell : Nat) :
    build.retaintICacheLine labels len cell =
      if ∃ i ∈ words len, build.touches i cell then build.relabel (labels cell) else labels cell :=
  build.foldl_retaintWord (words len) labels cell

theorem touched_iff (build : Build) {len cell : Nat} (whole : len % 4 = 0) (inside : cell < len) :
    (∃ i ∈ words len, build.touches i cell) ↔ build = .dfsan → cell % 4 = 0 := by
  simp only [words, List.mem_map, List.mem_range, exists_exists_and_eq_and]
  cases build with
  | dfsan =>
      simp only [touches, forall_const]
      constructor
      · rintro ⟨word, -, rfl⟩
        omega
      · intro aligned
        exact ⟨cell / 4, by omega, by omega⟩
  | msan tainting =>
      simp only [reduceCtorEq, false_implies, iff_true]
      exact ⟨cell / 4, by omega, by constructor <;> omega⟩

/-- The line is free of data labels: no byte of it has one, clean bytes stay
clean, with two colors the instructions keep one, and there is nothing left to
do. -/
structure Retainted (build : Build) (labels : Store UInt8) (len : Nat) : Prop where
  clean : ∀ cell < len, build.carriesData (build.retaintICacheLine labels len cell) = false
  unlabelled : ∀ cell < len, labels cell = Simulator.untaintedLbl →
    build.retaintICacheLine labels len cell = Simulator.untaintedLbl
  recolored : build = .dfsan → ∀ cell < len, build.carriesData (labels cell) = true →
    build.retaintICacheLine labels len cell &&& instLbl ≠ 0
  again : build.retaintICacheLine (build.retaintICacheLine labels len) len = build.retaintICacheLine labels len

theorem carriesData_relabel (build : Build) (lbl : UInt8) : build.carriesData (build.relabel lbl) = false := by
  cases build with
  | dfsan => simp [carriesData, relabel, (newLabel_facts lbl).1]
  | msan tainting => rfl

theorem relabel_untainted (build : Build) : build.relabel Simulator.untaintedLbl = Simulator.untaintedLbl := by
  cases build <;> rfl

/-- A cache that was untainted stays so until something tainted is fetched. -/
theorem retaintICache_untaintICache (build : Build) (ways : Fin 4 → Store UInt8) (way : Fin 4) {cell : Nat}
    (inside : cell < ICACHE_WAY_SIZE) :
    build.retaintICache (untaintICache ways) way cell = Simulator.untaintedLbl := by
  have clean : untaintICache ways way cell = Simulator.untaintedLbl :=
    Store.fill_inside (Nat.zero_le cell) (by omega)
  rw [retaintICache, retaintICacheLine_apply, clean, relabel_untainted, ite_self]

/-- With a single color the line is always retainted.  With two colors it is
exactly when no byte behind the first one of its word has the data label: only
the first byte is given a new label. -/
theorem retaintICacheLine_retainted_iff (build : Build) (labels : Store UInt8) (len : Nat)
    (whole : len % 4 = 0) :
    build.Retainted labels len ↔
      (build = .dfsan → ∀ cell < len, cell % 4 ≠ 0 → build.carriesData (labels cell) = false) := by
  constructor
  · intro retainted twoColors cell inside between
    have kept := retainted.clean cell inside
    rwa [retaintICacheLine_apply, if_neg fun touched =>
      between ((build.touched_iff whole inside).mp touched twoColors)] at kept
  · intro aligned
    refine ⟨?_, ?_, ?_, ?_⟩
    · intro cell inside
      rw [retaintICacheLine_apply]
      split
      · exact build.carriesData_relabel _
      · rename_i untouched
        rw [build.touched_iff whole inside, Classical.not_imp] at untouched
        exact aligned untouched.1 cell inside untouched.2
    · intro cell _ clean
      rw [retaintICacheLine_apply, clean, relabel_untainted, ite_self]
    · intro twoColors cell inside tainted
      rw [retaintICacheLine_apply]
      split
      · subst twoColors
        exact (newLabel_facts (labels cell)).2.2 (by simpa [carriesData] using tainted)
      · rename_i untouched
        rw [build.touched_iff whole inside, Classical.not_imp] at untouched
        rw [aligned twoColors cell inside untouched.2] at tainted
        cases tainted
    · funext cell
      simp only [retaintICacheLine_apply]
      split
      · exact build.relabel_relabel _
      · rfl

theorem retaintICacheLine_retainted_iff_firstByte :
    dfsan.Retainted (fun cell => if cell = 4 then Simulator.dataLbl else 0) 8 := by
  apply (retaintICacheLine_retainted_iff dfsan _ 8 rfl).mpr
  intro _ cell _ between
  have other : cell ≠ 4 := by
    rintro rfl
    exact between rfl
  simp [other, carriesData]

/-- A data label on the second byte of an instruction stays. -/
theorem retaintICacheLine_secondByte :
    dfsan.retaintICacheLine (fun cell => if cell = 1 then Simulator.dataLbl else 0) 4 1 = Simulator.dataLbl ∧
      ¬ dfsan.Retainted (fun cell => if cell = 1 then Simulator.dataLbl else 0) 4 := by
  have stays : dfsan.retaintICacheLine (fun cell => if cell = 1 then Simulator.dataLbl else 0) 4 1 =
      Simulator.dataLbl := by
    decide
  refine ⟨stays, fun retainted => ?_⟩
  have clean := retainted.clean 1 (by decide)
  rw [stays] at clean
  revert clean
  decide

end Build

end PhantomTrails
