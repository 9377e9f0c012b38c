import Mathlib.Order.Lattice

/-! The first element of a list among those of the greatest value, as a search finds it that goes
through the list once.
-/

namespace NdcOdfWeb.Foundation

variable {α β : Type} [LinearOrder β] {value : α → β}

/-- The element at the place `i` has a greater value than all in front of it, and no smaller one
than all behind it.
-/
structure FirstMaximum (value : α → β) (list : List α) (i : Nat) (best : α) : Prop where
  split
    : ∃ before after,
        list = before ++ best :: after
        ∧ before.length = i
        ∧ (∀ other ∈ before, value other < value best)
        ∧ ∀ other ∈ after, value other ≤ value best

/-- A single element is the maximum. -/
theorem FirstMaximum.single (value : α → β) (best : α) : FirstMaximum value [best] 0 best :=
  ⟨[], [], rfl, rfl, fun _ member => absurd member List.not_mem_nil,
    fun _ member => absurd member List.not_mem_nil⟩

/-- No element is larger, in front or behind. -/
theorem FirstMaximum.le {list : List α} {i : Nat} {best : α}
    (first : FirstMaximum value list i best)
    : ∀ other ∈ list, value other ≤ value best := by
  obtain ⟨before, after, rfl, -, less, atMost⟩ := first.split
  intro other member
  rcases List.mem_append.mp member with inside | inside
  · exact (less other inside).le
  · rcases List.mem_cons.mp inside with rfl | later
    · exact le_refl _
    · exact atMost other later

/-- The maximum is an element. -/
theorem FirstMaximum.mem {list : List α} {i : Nat} {best : α}
    (first : FirstMaximum value list i best)
    : best ∈ list := by
  obtain ⟨before, after, rfl, -⟩ := first.split
  exact List.mem_append_right _ List.mem_cons_self

/-- Elements of no greater value change nothing. -/
theorem FirstMaximum.skip {list more : List α} {i : Nat} {best : α}
    (first : FirstMaximum value list i best)
    (atMost : ∀ other ∈ more, value other ≤ value best)
    : FirstMaximum value (list ++ more) i best := by
  obtain ⟨before, after, rfl, length, less, behind⟩ := first.split
  refine ⟨before, after ++ more, by simp, length, less, ?_⟩
  intro other member
  rcases List.mem_append.mp member with inside | inside
  · exact behind other inside
  · exact atMost other inside

/-- An element of a greater value is the new one. -/
theorem FirstMaximum.take {list : List α} {i : Nat} {best next : α}
    (first : FirstMaximum value list i best) (greater : value best < value next)
    : FirstMaximum value (list ++ [next]) list.length next :=
  ⟨list, [], rfl, rfl, fun other member => (first.le other member).trans_lt greater,
    fun _ member => absurd member List.not_mem_nil⟩

end NdcOdfWeb.Foundation
