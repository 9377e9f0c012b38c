import Mathlib.Data.List.Basic

/-! Stretches of a list, cut one behind the other by their sizes. -/

namespace NdcOdfWeb.Foundation

variable {α : Type}

/-- A stretch: where it starts and how long it is. -/
structure Slice where
  offset : Nat
  size : Nat

/-- The elements of a stretch. -/
def Slice.of (xs : List α) (slice : Slice) : List α :=
  (xs.drop slice.offset).take slice.size

/-- The stretch lies inside the list. -/
def Slice.Within (xs : List α) (slice : Slice) : Prop :=
  slice.offset + slice.size ≤ xs.length

/-- Stretches of the given sizes, the first at `offset`. -/
def slices (offset : Nat) : List Nat → List Slice
  | [] => []
  | size :: sizes => ⟨offset, size⟩ :: slices (offset + size) sizes

/-- The front is dropped, and the rest is not taken. -/
theorem Slice.of_append (front part rest : List α)
    : Slice.of (front ++ (part ++ rest)) ⟨front.length, part.length⟩ = part := by
  rw [Slice.of, List.drop_left, List.take_left]

/-- Parts that stand one behind the other are cut out by their sizes. -/
theorem slices_map_of (front : List α) (parts : List (List α))
    : (slices front.length (parts.map List.length)).map (Slice.of (front ++ parts.flatten))
      = parts := by
  induction parts generalizing front with
  | nil => rfl
  | cons part parts ih =>
      have later := ih (front ++ part)
      rw [List.length_append, List.append_assoc] at later
      rw [List.map_cons, slices, List.map_cons, List.flatten_cons, Slice.of_append, later]

/-- By induction on the parts. -/
theorem slices_within (front : List α) (parts : List (List α))
    : ∀ slice ∈ slices front.length (parts.map List.length),
        slice.Within (front ++ parts.flatten) := by
  induction parts generalizing front with
  | nil =>
      intro slice member
      cases member
  | cons part parts ih =>
      intro slice member
      rcases List.mem_cons.mp member with first | later
      · rw [first, Slice.Within]
        simp only [List.flatten_cons, List.length_append]
        omega
      · have within := ih (front ++ part) slice
        rw [List.length_append, List.append_assoc] at within
        exact within later

end NdcOdfWeb.Foundation
