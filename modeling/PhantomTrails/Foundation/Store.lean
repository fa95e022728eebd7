import Mathlib.Data.List.Range
import Mathlib.Logic.Function.Basic

namespace Foundation

/-! # Byte-addressed stores

A store gives every offset a value.  It models the contents of a memory as
well as the taint labels kept for the same bytes; the owner of a store checks
the bounds of an access before it reaches the store.
-/

abbrev Store (α : Type) := Nat → α

namespace Store

variable {α : Type}

def slice (store : Store α) (start count : Nat) : List α :=
  (List.range count).map fun i => store (start + i)

def fill (store : Store α) (start count : Nat) (value : α) : Store α :=
  fun cell => if start ≤ cell ∧ cell < start + count then value else store cell

def copy (store : Store α) (start count : Nat) (source : Nat → α) : Store α :=
  fun cell => if start ≤ cell ∧ cell < start + count then source (cell - start) else store cell

@[simp] theorem length_slice (store : Store α) (start count : Nat) :
    (store.slice start count).length = count := by
  simp [slice]

theorem getElem?_slice {store : Store α} {start count i : Nat} (inside : i < count) :
    (store.slice start count)[i]? = some (store (start + i)) := by
  simp [slice, inside]

theorem fill_inside {store : Store α} {start count cell : Nat} {value : α}
    (lower : start ≤ cell) (upper : cell < start + count) :
    store.fill start count value cell = value :=
  if_pos ⟨lower, upper⟩

theorem fill_outside {store : Store α} {start count cell : Nat} {value : α}
    (outside : cell < start ∨ start + count ≤ cell) :
    store.fill start count value cell = store cell :=
  if_neg (by omega)

theorem copy_outside {store : Store α} {start count cell : Nat} {source : Nat → α}
    (outside : cell < start ∨ start + count ≤ cell) :
    store.copy start count source cell = store cell :=
  if_neg (by omega)

end Store

end Foundation
