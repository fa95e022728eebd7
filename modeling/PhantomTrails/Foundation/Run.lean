import Mathlib.Data.List.Basic
import Mathlib.Data.List.Infix

namespace Foundation

/-! # Runs of a machine that may stop

A machine consumes one input per step and either moves to a next state or
stops with a value of its own (a fault, or the final state of a loop that was
left).  The file collects the induction rules for runs: an invariant, a
property of every executed step, and the ledger of a queue.
-/

theorem bind_ok_iff {ε α β : Type} {first : Except ε α} {rest : α → Except ε β} {result : β} :
    (first >>= rest) = .ok result ↔ ∃ value, first = .ok value ∧ rest value = .ok result := by
  cases first with
  | error stop => simp [bind, Except.bind]
  | ok value => simp [bind, Except.bind]

theorem bind_error_iff {ε α β : Type} {first : Except ε α} {rest : α → Except ε β} {stop : ε} :
    (first >>= rest) = .error stop ↔
      first = .error stop ∨ ∃ value, first = .ok value ∧ rest value = .error stop := by
  cases first with
  | error reason => simp [bind, Except.bind]
  | ok value => simp [bind, Except.bind]

/-- Both computations fail for the same reason, or both return and the
results are related. -/
def Agree {ε α β : Type} (relation : α → β → Prop) : Except ε α → Except ε β → Prop
  | .ok left, .ok right => relation left right
  | .error left, .error right => left = right
  | _, _ => False

theorem Agree.mono {ε α β : Type} {relation weaker : α → β → Prop} {left : Except ε α}
    {right : Except ε β} (agree : Agree relation left right)
    (implies : ∀ l r, relation l r → weaker l r) : Agree weaker left right := by
  cases left <;> cases right
  · exact agree
  · exact agree.elim
  · exact agree.elim
  · exact implies _ _ agree

theorem Agree.bind {ε α β γ δ : Type} {relation : α → β → Prop} {result : γ → δ → Prop}
    {left : Except ε α} {right : Except ε β} {leftRest : α → Except ε γ} {rightRest : β → Except ε δ}
    (agree : Agree relation left right)
    (rest : ∀ l r, relation l r → Agree result (leftRest l) (rightRest r)) :
    Agree result (left >>= leftRest) (right >>= rightRest) := by
  cases left with
  | error leftStop =>
      cases right with
      | error rightStop => exact agree
      | ok r => exact agree.elim
  | ok l =>
      cases right with
      | error rightStop => exact agree.elim
      | ok r => exact rest l r agree

theorem agree_refl {ε α : Type} (result : Except ε α) : Agree Eq result result := by
  cases result <;> rfl

theorem eq_of_agree {ε α : Type} {left right : Except ε α} (agree : Agree Eq left right) :
    left = right := by
  cases left <;> cases right <;> simp_all [Agree]

abbrev Machine (σ ι ε : Type) := σ → ι → Except ε σ

namespace Machine

variable {σ γ ι ε β : Type} {step : Machine σ ι ε}

def run (step : Machine σ ι ε) : σ → List ι → Except ε σ
  | state, [] => .ok state
  | state, input :: rest =>
      match step state input with
      | .ok next => run step next rest
      | .error stop => .error stop

/-- `property` holds of every step the run executes, the stopping one
included. -/
def Along (step : Machine σ ι ε) (property : σ → ι → Prop) : σ → List ι → Prop
  | _, [] => True
  | state, input :: rest =>
      property state input ∧
        ∀ next, step state input = .ok next → Along step property next rest

def emitted (step : Machine σ ι ε) (emit : σ → ι → List β) : σ → List ι → List β
  | _, [] => []
  | state, input :: rest =>
      match step state input with
      | .ok next => emit state input ++ emitted step emit next rest
      | .error _ => []

@[simp] theorem along_nil (property : σ → ι → Prop) (state : σ) :
    Along step property state [] := trivial

@[simp] theorem emitted_nil (emit : σ → ι → List β) (state : σ) :
    emitted step emit state [] = [] := rfl

theorem run_cons_of_ok {state next : σ} {input : ι} {rest : List ι}
    (taken : step state input = .ok next) :
    run step state (input :: rest) = run step next rest := by
  simp only [run, taken]

theorem run_nil (step : Machine σ ι ε) (state : σ) : run step state [] = pure state := rfl

theorem run_cons (step : Machine σ ι ε) (state : σ) (input : ι) (rest : List ι) :
    run step state (input :: rest) = step state input >>= fun next => run step next rest := by
  cases taken : step state input with
  | ok next => simp [run, taken, bind, Except.bind]
  | error stop => simp [run, taken, bind, Except.bind]

theorem run_map {κ : Type} (step : Machine σ ι ε) (change : κ → ι) (state : σ) (inputs : List κ) :
    run step state (inputs.map change) = run (fun state input => step state (change input)) state inputs := by
  induction inputs generalizing state with
  | nil => rfl
  | cons input rest ih =>
      rw [List.map_cons, run_cons, run_cons]
      exact bind_congr fun next => ih next

theorem run_append (step : Machine σ ι ε) (state : σ) (first second : List ι) :
    run step state (first ++ second) = run step state first >>= fun next => run step next second := by
  induction first generalizing state with
  | nil => rfl
  | cons input rest ih =>
      rw [List.cons_append, run_cons, run_cons, bind_assoc]
      exact bind_congr fun next => ih next

theorem run_append_of_ok {state middle final : σ} {first second : List ι}
    (reached : run step state first = .ok middle) (rest : run step middle second = .ok final) :
    run step state (first ++ second) = .ok final := by
  rw [run_append, reached]
  exact rest

theorem run_cons_ok_iff {state final : σ} {input : ι} {rest : List ι} :
    run step state (input :: rest) = .ok final ↔
      ∃ next, step state input = .ok next ∧ run step next rest = .ok final := by
  cases taken : step state input with
  | ok next => simp [run, taken]
  | error stop => simp [run, taken]

theorem along_cons_of_ok {property : σ → ι → Prop} {state next : σ} {input : ι} {rest : List ι}
    (taken : step state input = .ok next) (now : property state input)
    (later : Along step property next rest) : Along step property state (input :: rest) := by
  refine ⟨now, fun other reached => ?_⟩
  have same : next = other := Except.ok.inj (taken.symm.trans reached)
  exact same ▸ later

theorem emitted_cons_of_ok {state next : σ} {input : ι} {rest : List ι}
    (emit : σ → ι → List β) (taken : step state input = .ok next) :
    emitted step emit state (input :: rest) =
      emit state input ++ emitted step emit next rest := by
  simp only [emitted, taken]

theorem emitted_append (emit : σ → ι → List β) {state middle : σ} {first : List ι}
    (reached : run step state first = .ok middle) (second : List ι) :
    emitted step emit state (first ++ second) =
      emitted step emit state first ++ emitted step emit middle second := by
  induction first generalizing state with
  | nil =>
      cases reached
      rfl
  | cons input rest ih =>
      obtain ⟨next, taken, reached⟩ := run_cons_ok_iff.mp reached
      rw [List.cons_append, emitted_cons_of_ok _ taken, emitted_cons_of_ok _ taken, ih reached,
        List.append_assoc]

theorem along_of_forall (step : Machine σ ι ε) {property : ι → Prop} {inputs : List ι}
    (all : ∀ input ∈ inputs, property input) (state : σ) :
    Along step (fun _ input => property input) state inputs := by
  induction inputs generalizing state with
  | nil => trivial
  | cons input rest ih =>
      obtain ⟨now, later⟩ := List.forall_mem_cons.mp all
      exact ⟨now, fun next _ => ih later next⟩

/-- Legal steps keep the invariant.  What is legal may depend on the state,
as a handshake protocol does. -/
def Keeps (step : Machine σ ι ε) (legal : σ → ι → Prop) (invariant : σ → Prop) : Prop :=
  ∀ state input next, legal state input → invariant state → step state input = .ok next →
    invariant next

variable {legal : σ → ι → Prop} {invariant : σ → Prop}

theorem Keeps.run (keeps : Keeps step legal invariant) {state final : σ} {inputs : List ι}
    (lawful : Along step legal state inputs) (start : invariant state)
    (reached : Machine.run step state inputs = .ok final) : invariant final := by
  induction inputs generalizing state with
  | nil =>
      cases reached
      exact start
  | cons input rest ih =>
      obtain ⟨next, taken, reached⟩ := run_cons_ok_iff.mp reached
      have kept := keeps state input next lawful.1 start taken
      exact ih (lawful.2 next taken) kept reached

theorem Keeps.stops_within (keeps : Keeps step legal invariant) {allowed : ε → Prop}
    (stops : ∀ state input stop, legal state input → invariant state →
      step state input = .error stop → allowed stop)
    {state : σ} {inputs : List ι} {stop : ε}
    (lawful : Along step legal state inputs) (start : invariant state)
    (stopped : Machine.run step state inputs = .error stop) : allowed stop := by
  induction inputs generalizing state with
  | nil => cases stopped
  | cons input rest ih =>
      cases taken : step state input with
      | error reason =>
          have same : reason = stop := by simpa [Machine.run, taken] using stopped
          exact same ▸ stops state input reason lawful.1 start taken
      | ok next =>
          rw [run_cons_of_ok taken] at stopped
          have kept := keeps state input next lawful.1 start taken
          exact ih (lawful.2 next taken) kept stopped

theorem Keeps.along (keeps : Keeps step legal invariant) {property : σ → ι → Prop}
    (holds : ∀ state input, legal state input → invariant state → property state input)
    {state : σ} {inputs : List ι} (lawful : Along step legal state inputs)
    (start : invariant state) : Along step property state inputs := by
  induction inputs generalizing state with
  | nil => trivial
  | cons input rest ih =>
      refine ⟨holds state input lawful.1 start, fun next taken => ?_⟩
      exact ih (lawful.2 next taken) (keeps state input next lawful.1 start taken)

theorem Keeps.completes (keeps : Keeps step legal invariant)
    (succeeds : ∀ state input, legal state input → invariant state →
      ∃ next, step state input = .ok next)
    {state : σ} {inputs : List ι} (lawful : Along step legal state inputs)
    (start : invariant state) : ∃ final, Machine.run step state inputs = .ok final := by
  induction inputs generalizing state with
  | nil => exact ⟨state, rfl⟩
  | cons input rest ih =>
      obtain ⟨next, taken⟩ := succeeds state input lawful.1 start
      obtain ⟨final, reached⟩ :=
        ih (lawful.2 next taken) (keeps state input next lawful.1 start taken)
      exact ⟨final, (run_cons_of_ok taken).trans reached⟩

/-- If every step applies what it emits to a part of the state, a run applies
everything it emits, in order. -/
theorem Keeps.run_fold {α : Type} (keeps : Keeps step legal invariant) {part : σ → α}
    {emit : σ → ι → List β} {apply : α → β → α}
    (folds : ∀ state input next, legal state input → invariant state →
      step state input = .ok next → part next = (emit state input).foldl apply (part state))
    {state final : σ} {inputs : List ι} (lawful : Along step legal state inputs)
    (start : invariant state) (reached : Machine.run step state inputs = .ok final) :
    part final = (emitted step emit state inputs).foldl apply (part state) := by
  induction inputs generalizing state with
  | nil =>
      cases reached
      rfl
  | cons input rest ih =>
      obtain ⟨next, taken, reached⟩ := run_cons_ok_iff.mp reached
      have later := ih (lawful.2 next taken) (keeps state input next lawful.1 start taken) reached
      rw [emitted_cons_of_ok _ taken, List.foldl_append, later,
        folds state input next lawful.1 start taken]

theorem Keeps.along_congr (keeps : Keeps step legal invariant) {left right : σ → ι → Prop}
    (agree : ∀ state input, legal state input → invariant state →
      (left state input ↔ right state input))
    {state : σ} {inputs : List ι} (lawful : Along step legal state inputs)
    (start : invariant state) :
    Along step left state inputs ↔ Along step right state inputs := by
  induction inputs generalizing state with
  | nil => exact Iff.rfl
  | cons input rest ih =>
      apply and_congr (agree state input lawful.1 start) ?_
      apply forall_congr' fun next => forall_congr' fun taken => ?_
      exact ih (lawful.2 next taken) (keeps state input next lawful.1 start taken)

theorem Along.and {left right : σ → ι → Prop} {state : σ} {inputs : List ι}
    (first : Along step left state inputs) (second : Along step right state inputs) :
    Along step (fun state input => left state input ∧ right state input) state inputs := by
  induction inputs generalizing state with
  | nil => trivial
  | cons input rest ih =>
      exact ⟨⟨first.1, second.1⟩, fun next taken => ih (first.2 next taken) (second.2 next taken)⟩

/-- A simulation relation kept by every step is kept by every run. -/
theorem run_agree {τ : Type} {other : Machine τ ι ε} {relation : σ → τ → Prop}
    (simulates : ∀ left right input, relation left right →
      Agree relation (step left input) (other right input))
    {left : σ} {right : τ} (related : relation left right) (inputs : List ι) :
    Agree relation (run step left inputs) (run other right inputs) := by
  induction inputs generalizing left right with
  | nil => exact related
  | cons input rest ih =>
      have now := simulates left right input related
      simp only [run]
      cases taken : step left input <;> cases otherTaken : other right input <;>
        rw [taken, otherTaken] at now
      · exact now
      · exact now.elim
      · exact now.elim
      · exact ih now

/-! ## Ghost state

A ghost component records a fact about the past of a run.  It is updated by
the steps and never read by them. -/

def withGhost (step : Machine σ ι ε) (update : γ → σ → ι → γ) : Machine (σ × γ) ι ε :=
  fun state input =>
    match step state.1 input with
    | .ok next => .ok (next, update state.2 state.1 input)
    | .error stop => .error stop

theorem withGhost_ok_iff {update : γ → σ → ι → γ} {state next : σ × γ} {input : ι} :
    withGhost step update state input = .ok next ↔
      step state.1 input = .ok next.1 ∧ next.2 = update state.2 state.1 input := by
  cases taken : step state.1 input with
  | error stop => simp [withGhost, taken]
  | ok middle =>
      simp only [withGhost, taken, Except.ok.injEq]
      constructor
      · rintro rfl
        exact ⟨rfl, rfl⟩
      · rintro ⟨rfl, equal⟩
        rw [← equal]

theorem withGhost_error_iff {update : γ → σ → ι → γ} {state : σ × γ} {input : ι} {stop : ε} :
    withGhost step update state input = .error stop ↔ step state.1 input = .error stop := by
  cases taken : step state.1 input with
  | error reason => simp [withGhost, taken]
  | ok middle => simp [withGhost, taken]

theorem run_withGhost (update : γ → σ → ι → γ) {state final : σ} {inputs : List ι}
    (reached : run step state inputs = .ok final) (ghost : γ) :
    ∃ ghost', run (withGhost step update) (state, ghost) inputs = .ok (final, ghost') := by
  induction inputs generalizing state ghost with
  | nil =>
      cases reached
      exact ⟨ghost, rfl⟩
  | cons input rest ih =>
      obtain ⟨next, taken, reached⟩ := run_cons_ok_iff.mp reached
      obtain ⟨ghost', completed⟩ := ih reached (update ghost state input)
      have moved : withGhost step update (state, ghost) input =
          .ok (next, update ghost state input) := withGhost_ok_iff.mpr ⟨taken, rfl⟩
      exact ⟨ghost', (run_cons_of_ok moved).trans completed⟩

theorem run_withGhost_error (update : γ → σ → ι → γ) {state : σ} {inputs : List ι} {stop : ε}
    (stopped : run step state inputs = .error stop) (ghost : γ) :
    run (withGhost step update) (state, ghost) inputs = .error stop := by
  induction inputs generalizing state ghost with
  | nil => cases stopped
  | cons input rest ih =>
      cases taken : step state input with
      | error reason =>
          have same : reason = stop := by simpa [run, taken] using stopped
          subst same
          simp [run, withGhost, taken]
      | ok next =>
          rw [run_cons_of_ok taken] at stopped
          have moved : withGhost step update (state, ghost) input =
              .ok (next, update ghost state input) := withGhost_ok_iff.mpr ⟨taken, rfl⟩
          exact (run_cons_of_ok moved).trans (ih stopped _)

theorem emitted_withGhost {update : γ → σ → ι → γ} {state : σ} {ghost : γ} {inputs : List ι}
    {emit : σ → ι → List β} :
    emitted (withGhost step update) (fun state input => emit state.1 input) (state, ghost) inputs =
      emitted step emit state inputs := by
  induction inputs generalizing state ghost with
  | nil => rfl
  | cons input rest ih =>
      cases taken : step state input with
      | error reason => simp [emitted, withGhost, taken]
      | ok next =>
          have moved : withGhost step update (state, ghost) input =
              .ok (next, update ghost state input) := withGhost_ok_iff.mpr ⟨taken, rfl⟩
          rw [emitted_cons_of_ok _ taken, emitted_cons_of_ok _ moved, ih]

theorem along_withGhost {update : γ → σ → ι → γ} {property : σ → ι → Prop} {state : σ} {ghost : γ}
    {inputs : List ι} :
    Along (withGhost step update) (fun state input => property state.1 input) (state, ghost) inputs ↔
      Along step property state inputs := by
  induction inputs generalizing state ghost with
  | nil => exact Iff.rfl
  | cons input rest ih =>
      refine and_congr Iff.rfl ⟨fun later next taken => ?_, fun later next taken => ?_⟩
      · exact ih.mp (later (next, update ghost state input) (withGhost_ok_iff.mpr ⟨taken, rfl⟩))
      · obtain ⟨moved, recorded⟩ := withGhost_ok_iff.mp taken
        exact ih.mpr (later next.1 moved)

def previous (_ : ι) (_ : σ) (input : ι) : ι := input

theorem along_previous_of_isChain {rule : ι → ι → Prop} {first : ι} {inputs : List ι}
    (chain : (first :: inputs).IsChain rule) (state : σ) :
    Along (withGhost step previous) (fun state input => rule state.2 input) (state, first) inputs := by
  induction inputs generalizing state first with
  | nil => trivial
  | cons input rest ih =>
      obtain ⟨now, later⟩ := List.isChain_cons_cons.mp chain
      refine ⟨now, fun next taken => ?_⟩
      obtain ⟨state', recorded⟩ := next
      obtain ⟨-, rfl⟩ := withGhost_ok_iff.mp taken
      exact ih later state'

/-! ## Queues -/

/-- From invariant states every legal step appends `pushed` to the queue
`contents` and removes `popped` from its front. -/
structure Queue (step : Machine σ ι ε) (legal : σ → ι → Prop) (invariant : σ → Prop)
    (contents : σ → List β) (pushed popped : σ → ι → List β) : Prop where
  keeps : Keeps step legal invariant
  moves : ∀ state input next, legal state input → invariant state →
    step state input = .ok next →
      contents state ++ pushed state input = popped state input ++ contents next

/-- Nothing is lost, duplicated or reordered between the two ends of a queue. -/
theorem Queue.conserves {contents : σ → List β} {pushed popped : σ → ι → List β}
    (queue : Queue step legal invariant contents pushed popped)
    {state final : σ} {inputs : List ι} (lawful : Along step legal state inputs)
    (start : invariant state) (reached : run step state inputs = .ok final) :
    contents state ++ emitted step pushed state inputs =
      emitted step popped state inputs ++ contents final := by
  induction inputs generalizing state with
  | nil =>
      cases reached
      simp
  | cons input rest ih =>
      obtain ⟨next, taken, reached⟩ := run_cons_ok_iff.mp reached
      have kept := queue.keeps state input next lawful.1 start taken
      have later := ih (lawful.2 next taken) kept reached
      rw [emitted_cons_of_ok _ taken, emitted_cons_of_ok _ taken, ← List.append_assoc,
        queue.moves state input next lawful.1 start taken, List.append_assoc, later,
        List.append_assoc]

theorem take_isPrefix_append_take {first : List β} (second : List β) {n m : Nat}
    (enough : n ≤ first.length + m) : (first ++ second).take n <+: first ++ second.take m := by
  have longer := List.take_prefix_take_left (l := first ++ second) enough
  rwa [List.take_length_add_append] at longer

/-- A queue that gives an element away whenever the input is ready for one has
given away, after `n` such inputs, the first `n` elements it held. -/
theorem Queue.delivers {contents : σ → List β} {pushed popped : σ → ι → List β}
    (queue : Queue step legal invariant contents pushed popped) (ready : ι → Bool)
    (serves : ∀ state input, legal state input → ready input = true → contents state ≠ [] →
      popped state input ≠ [])
    {state final : σ} {inputs : List ι} (lawful : Along step legal state inputs)
    (start : invariant state) (reached : run step state inputs = .ok final) :
    (contents state).take (inputs.countP ready) <+: emitted step popped state inputs := by
  induction inputs generalizing state with
  | nil => simp
  | cons input rest ih =>
      obtain ⟨next, taken, reached⟩ := run_cons_ok_iff.mp reached
      have kept := queue.keeps state input next lawful.1 start taken
      have later := ih (lawful.2 next taken) kept reached
      have waiting : contents state <+: popped state input ++ contents next :=
        queue.moves state input next lawful.1 start taken ▸ List.prefix_append _ _
      by_cases waits : contents state = []
      · simp [waits]
      · have enough : (input :: rest).countP ready ≤
            (popped state input).length + rest.countP ready := by
          rw [List.countP_cons]
          split
          · rename_i isReady
            have gives := serves state input lawful.1 isReady waits
            have one : 0 < (popped state input).length := List.length_pos_iff.mpr gives
            omega
          · omega
        rw [emitted_cons_of_ok _ taken]
        have held := waiting.take ((input :: rest).countP ready)
        have first := take_isPrefix_append_take (contents next) enough
        exact (held.trans first).trans ((List.prefix_append_right_inj _).mpr later)

end Machine

end Foundation
