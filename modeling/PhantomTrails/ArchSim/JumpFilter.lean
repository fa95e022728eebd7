import PhantomTrails.Foundation.Run
import PhantomTrails.ArchSim.Filters

namespace PhantomTrails.Filters

open Foundation Foundation.Machine

/-! # The jump filter

What the filter should judge is physical: where the jump stands, and where it
leads.  The hook compares the virtual pc with the first region of the list and
with the physical target.
-/

/-- One `set_pc`.  `translate` is the address translation of the fetch, which
does not trap for the target; the TLB entry holds its displacement. -/
structure Jump where
  pc : UInt64
  target : UInt64
  translate : UInt64 → UInt64

def Jump.physicalPc (jump : Jump) : UInt64 := jump.translate jump.pc

def Jump.physicalTarget (jump : Jump) : UInt64 := jump.translate jump.target

def Jump.targetOffset (jump : Jump) : UInt64 := jump.translate jump.target - jump.target

def jumpStep : Machine Filters Jump Fault := fun filters jump =>
  filters.jumpHook jump.pc jump.target jump.targetOffset

def Near (left right : UInt64) : Prop :=
  left.toNat < right.toNat + 8 ∧ right.toNat < left.toNat + 8

def BadJump (filters : Filters) (jump : Jump) : Prop :=
  ¬ filters.InCode jump.physicalTarget ∨ ¬ 4 ∣ jump.physicalTarget.toNat ∨
    Near jump.physicalTarget jump.physicalPc

/-- What the filter owes one jump: from inside a code region, a bad jump leaves the
flag raised, and any other jump leaves it as it was. -/
def JumpFiltered (filters : Filters) (jump : Jump) : Prop :=
  filters.InCode jump.physicalPc → ∃ after, jumpStep filters jump = .ok after ∧
    (filters.BadJump jump → after.illegalJump = true) ∧
    (¬ filters.BadJump jump → after.illegalJump = filters.illegalJump)

/-- The start of the first region of the list, in whatever order it stands. -/
def codeStart (filters : Filters) : UInt64 := (filters.codeRegions.head?.map Prod.fst).getD 0

/-- When the hook judges a jump as it should: the flag is up already; or the
boot-code exit is taken by the virtual pc and the jump is not bad; or the exit
is not taken, and the distance to the virtual pc, if the verdict hangs on it,
says the same as the distance to the physical one. -/
def JumpJudged (filters : Filters) (jump : Jump) : Prop :=
  filters.InCode jump.physicalPc → filters.illegalJump = true ∨
    if jump.pc < filters.codeStart then ¬ filters.BadJump jump
    else filters.InCode jump.physicalTarget → 4 ∣ jump.physicalTarget.toNat →
      (tooNear jump.pc jump.physicalTarget = true ↔ Near jump.physicalTarget jump.physicalPc)

theorem Jump.offset_add_target (jump : Jump) :
    jump.targetOffset + jump.target = jump.physicalTarget := UInt64.sub_add_cancel _ _

theorem mod_four_ne_zero_iff (addr : UInt64) : addr % 4 ≠ 0 ↔ ¬ 4 ∣ addr.toNat := by
  have low : (addr % 4).toNat = addr.toNat % 4 := UInt64.toNat_mod addr 4
  rw [ne_eq, ← UInt64.toNat_inj, low, Nat.dvd_iff_mod_eq_zero]
  rfl

/-- One jump is filtered exactly when it is judged rightly. -/
theorem jumpFiltered_iff {filters : Filters} (regions : filters.codeRegions ≠ []) (jump : Jump) :
    filters.JumpFiltered jump ↔ filters.JumpJudged jump := by
  obtain ⟨first, rest, regions⟩ := List.exists_cons_of_ne_nil regions
  obtain ⟨after, hooked, raised⟩ :=
    @jumpHook_illegalJump filters first rest jump.pc jump.target jump.targetOffset regions
  have start : filters.codeStart = first.1 := by simp [codeStart, regions]
  have reached : first.1 ≤ jump.pc ↔ ¬ jump.pc < first.1 := UInt64.not_lt.symm
  rw [jump.offset_add_target, mod_four_ne_zero_iff, ← Bool.not_eq_true,
    isInsideCodeRegion_iff, reached] at raised
  have taken : jumpStep filters jump = .ok after := hooked
  have agreement : (filters.BadJump jump → after.illegalJump = true) ∧
      (¬ filters.BadJump jump → after.illegalJump = false) ↔
        (after.illegalJump = true ↔ filters.BadJump jump) := by
    rw [← Bool.not_eq_true]
    refine ⟨fun verdict => ⟨fun up => ?_, verdict.1⟩, fun same => ⟨same.mpr, fun fine up => ?_⟩⟩
    · by_cases bad : filters.BadJump jump
      · exact bad
      · exact absurd up (verdict.2 bad)
    · exact fine (same.mp up)
  apply forall_congr' fun _ => ?_
  simp only [taken, Except.ok.injEq, exists_eq_left', start]
  cases up : filters.illegalJump with
  | true => simp [raised, up]
  | false =>
      rw [agreement, raised, up]
      by_cases boot : jump.pc < first.1
      · simp [boot]
      · by_cases inside : filters.InCode jump.physicalTarget <;>
          by_cases aligned : 4 ∣ jump.physicalTarget.toNat <;>
          simp [boot, BadJump, inside, aligned]

/-- Over every sequence of jumps the filter is sound exactly when each jump is
judged rightly. -/
theorem jump_filter_iff (filters : Filters) (regions : filters.codeRegions ≠ [])
    (jumps : List Jump) :
    Along jumpStep JumpFiltered filters jumps ↔ Along jumpStep JumpJudged filters jumps := by
  have keeps : Keeps jumpStep (fun _ _ => True) fun filters => filters.codeRegions ≠ [] := by
    intro before jump after _ regions hooked
    rw [jumpHook_codeRegions hooked]
    exact regions
  apply keeps.along_congr ?_ (along_of_forall jumpStep (fun _ _ => trivial) filters) regions
  intro before jump _ regions
  exact jumpFiltered_iff regions jump

def userCode : Filters := { initEnd := 0x80008000, codeRegions := [(0x80008000, 0x80009000)] }

def physicalJumps : List Jump :=
  [{ pc := 0x80008000, target := 0x80008100, translate := userPages },
    { pc := 0x80008100, target := 0x80008104, translate := userPages }]

theorem jump_filter_iff_physicalJumps : Along jumpStep JumpFiltered userCode physicalJumps := by
  apply (jump_filter_iff userCode (by decide) physicalJumps).mpr ?_
  have judged : ∀ (filters : Filters) (jump : Jump), filters.codeStart = 0x80008000 →
      jump ∈ physicalJumps → filters.JumpJudged jump := by
    intro filters jump start member _
    simp only [physicalJumps, List.mem_cons, List.not_mem_nil, or_false] at member
    rcases member with rfl | rfl
    · refine .inr ?_
      rw [start, if_neg (by decide)]
      exact fun _ _ => by simp [Near, Jump.physicalTarget, Jump.physicalPc]; decide
    · refine .inr ?_
      rw [start, if_neg (by decide)]
      exact fun _ _ => by simp [Near, Jump.physicalTarget, Jump.physicalPc]; decide
  apply along_cons_of_ok rfl (judged _ _ rfl (by simp [physicalJumps])) ?_
  exact along_cons_of_ok rfl (judged _ _ rfl (by simp [physicalJumps])) trivial

/-- The same jump to the next instruction, through the mapping at address 0:
the virtual pc passes for boot code. -/
theorem jump_filter_aliased :
    ¬ Along jumpStep JumpFiltered userCode
      [{ pc := 0x10, target := 0x14, translate := userPages }] := by
  intro filtered
  obtain ⟨after, hooked, raised, -⟩ :=
    filtered.1 ⟨(0x80008000, 0x80009000), by simp [userCode], by decide, by decide⟩
  cases hooked
  have up := raised (.inr (.inr ⟨by decide, by decide⟩))
  cases up

end PhantomTrails.Filters
