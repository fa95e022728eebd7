import Mathlib.Data.List.Basic

namespace Foundation

/-! # Loops that may fail

`mapM` and `foldlM` over a list, with errors: where such a loop stops, and what
one that does not stop has made of the list.
-/

section Loops

variable {α β σ τ ε : Type} {f : α → Except ε β} {error : ε}

/-- A loop stops at the first error. -/
theorem mapM_error_iff {xs : List α} :
    xs.mapM f = .error error ↔ ∃ before x after, xs = before ++ x :: after ∧
      (∀ earlier ∈ before, ∃ y, f earlier = .ok y) ∧ f x = .error error := by
  induction xs with
  | nil => simp [pure, Except.pure]
  | cons x xs ih =>
      rw [List.mapM_cons]
      constructor
      · intro failed
        cases first : f x with
        | error other =>
            rw [first] at failed
            cases failed
            exact ⟨[], x, xs, rfl, by simp, first⟩
        | ok y =>
            have later : xs.mapM f = .error error := by
              cases rest : xs.mapM f with
              | error other => simpa [first, rest, bind, Except.bind] using failed
              | ok ys => simp [first, rest, bind, Except.bind, pure, Except.pure] at failed
            obtain ⟨before, x', after, same, passed, stopped⟩ := ih.mp later
            refine ⟨x :: before, x', after, by rw [same, List.cons_append], ?_, stopped⟩
            intro earlier member
            rcases List.mem_cons.mp member with now | member
            · exact ⟨y, now ▸ first⟩
            · exact passed earlier member
      · intro ⟨before, x', after, same, passed, stopped⟩
        cases before with
        | nil =>
            obtain ⟨rfl, rfl⟩ := List.cons.inj same
            rw [stopped]
            rfl
        | cons z before =>
            obtain ⟨rfl, rfl⟩ := List.cons.inj same
            obtain ⟨now, later⟩ := List.forall_mem_cons.mp passed
            obtain ⟨y, first⟩ := now
            rw [first, ih.mpr ⟨before, x', after, rfl, later, stopped⟩]
            rfl

theorem length_of_mapM {xs : List α} {ys : List β} (read : xs.mapM f = .ok ys) : ys.length = xs.length := by
  induction xs generalizing ys with
  | nil =>
      cases read
      rfl
  | cons x xs ih =>
      cases first : f x with
      | error error => simp [first, bind, Except.bind] at read
      | ok y =>
          cases rest : xs.mapM f with
          | error error => simp [first, rest, bind, Except.bind] at read
          | ok others =>
              simp only [List.mapM_cons, first, rest, bind, Except.bind, pure, Except.pure, Except.ok.injEq] at read
              rw [← read, List.length_cons, ih rest, List.length_cons]

/-- A loop that fails on no item, seen through what it keeps. -/
theorem foldlM_ok {items : List α} (state : σ) {f : σ → α → Except ε σ} {kept : σ → τ} {step : τ → β → τ}
    {entry : α → β} (steps : ∀ state, ∀ item ∈ items, ∃ next, f state item = .ok next ∧
      kept next = step (kept state) (entry item)) :
    ∃ final, items.foldlM f state = .ok final ∧ kept final = (items.map entry).foldl step (kept state) := by
  induction items generalizing state with
  | nil => exact ⟨state, rfl, rfl⟩
  | cons item items ih =>
      obtain ⟨now, later⟩ := List.forall_mem_cons.mp (steps state)
      obtain ⟨next, first, fits⟩ := now
      obtain ⟨final, rest, same⟩ := ih next fun state item member =>
        steps state item (List.mem_cons_of_mem _ member)
      refine ⟨final, ?_, ?_⟩
      · rw [List.foldlM_cons, first]
        exact rest
      · rw [same, fits]
        rfl

end Loops

end Foundation
