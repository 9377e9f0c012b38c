/-! Bytes in memory, where an access outside of them has no result. -/

namespace NdcOdfWeb.Foundation

/-- The byte at an index. -/
def readByte (buffer : List UInt8) (index : Int) : Option UInt8 :=
  if 0 ≤ index then buffer[index.toNat]? else none

/-- Write a byte at an index. -/
def writeByte (buffer : List UInt8) (index : Int) (value : UInt8) : Option (List UInt8) :=
  if 0 ≤ index ∧ index.toNat < buffer.length then some (buffer.set index.toNat value) else none

/-- The cells of a grid, row by row. -/
def cells (rows columns : Nat) : List (Nat × Nat) :=
  (List.range rows).flatMap (fun row => (List.range columns).map (fun column => (row, column)))

/-- No byte to read. -/
theorem readByte_nil (index : Int) : readByte [] index = none := by
  unfold readByte
  split <;> rfl

/-- No byte to write. -/
theorem writeByte_nil (index : Int) (value : UInt8) : writeByte [] index value = none := by
  unfold writeByte
  rw [if_neg (fun inside => absurd inside.2 (Nat.not_lt_zero _))]

/-- No row or no column. -/
theorem cells_eq_nil_iff {rows columns : Nat} : cells rows columns = [] ↔ rows = 0 ∨ columns = 0 := by
  unfold cells
  rw [List.flatMap_eq_nil_iff]
  constructor
  · intro none'
    rcases Nat.eq_zero_or_pos rows with zero | positive
    · exact .inl zero
    · have first := none' 0 (List.mem_range.mpr positive)
      rw [List.map_eq_nil_iff, List.range_eq_nil] at first
      exact .inr first
  · rintro (rfl | rfl) row member
    · exact absurd member List.not_mem_nil
    · rfl

/-- A loop over some elements fails if all of its steps from the start do. -/
theorem foldlM_eq_none {σ α : Type} {step : σ → α → Option σ} {state : σ} {elements : List α}
    (several : elements ≠ []) (fails : ∀ element, step state element = none)
    : elements.foldlM step state = none := by
  cases elements with
  | nil => exact absurd rfl several
  | cons first rest =>
      rw [List.foldlM_cons, fails first]
      rfl

end NdcOdfWeb.Foundation
