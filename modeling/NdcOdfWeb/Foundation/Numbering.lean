import Mathlib.Data.List.Nodup

/-! Numbering values in the order in which they are first seen. Numbers that were given stay, and
values that have been seen have numbers of their own.
-/

namespace NdcOdfWeb.Foundation

variable {α : Type} [DecidableEq α]

/-- The values seen so far, with one more. -/
def see (values : List α) (value : α) : List α :=
  if value ∈ values then values else values ++ [value]

/-- The number of a value that has been seen. -/
def numberOf (values : List α) (value : α) : Nat :=
  values.idxOf value + 1

/-- What is seen is numbered. -/
theorem mem_see (values : List α) (value : α) : value ∈ see values value := by
  unfold see
  split
  · assumption
  · exact List.mem_append_right _ (List.mem_singleton_self value)

/-- What was numbered before gets no new number. -/
theorem see_of_mem {values : List α} {value : α} (seen : value ∈ values)
    : see values value = values :=
  if_pos seen

/-- The new value is numbered last. -/
theorem see_of_not_mem {values : List α} {value : α} (new : value ∉ values)
    : see values value = values ++ [value] :=
  if_neg new

/-- The old values keep their places. -/
theorem prefix_see (values : List α) (value : α) : values <+: see values value := by
  unfold see
  split
  · exact List.prefix_rfl
  · exact List.prefix_append _ _

/-- No value is numbered twice. -/
theorem nodup_see {values : List α} (distinct : values.Nodup) (value : α)
    : (see values value).Nodup := by
  unfold see
  split
  · exact distinct
  · next new =>
      refine List.nodup_append.mpr ⟨distinct, List.nodup_singleton value, ?_⟩
      rintro seen inValues other isNew rfl
      exact new (List.mem_singleton.mp isNew ▸ inValues)

/-- Numbers that were given stay. -/
theorem numberOf_of_prefix {values more : List α} (isPrefix : values <+: more) {value : α}
    (seen : value ∈ values)
    : numberOf more value = numberOf values value := by
  obtain ⟨rest, rfl⟩ := isPrefix
  rw [numberOf, numberOf, List.idxOf_append_of_mem seen]

/-- The new value's number is the next one. -/
theorem numberOf_new {values : List α} {value : α} (new : value ∉ values)
    : numberOf (see values value) value = values.length + 1 := by
  rw [see_of_not_mem new, numberOf, List.idxOf_append_of_notMem new, List.idxOf_cons_self,
    Nat.add_zero]

/-- Distinct values have distinct numbers. -/
theorem numberOf_inj {values : List α} {value other : α} (seen : value ∈ values)
    (same : numberOf values value = numberOf values other)
    : value = other :=
  (List.idxOf_inj seen).mp (Nat.succ.inj same)

/-- The values are numbered by their positions. -/
theorem numberOf_getElem {values : List α} (distinct : values.Nodup) {i : Nat}
    (inside : i < values.length)
    : numberOf values values[i] = i + 1 :=
  congrArg (· + 1) (distinct.idxOf_getElem i inside)

/-- A numbered value has a place. -/
theorem exists_getElem_of_mem {values : List α} {value : α} (seen : value ∈ values)
    : ∃ (i : Nat) (inside : i < values.length),
        values[i] = value ∧ numberOf values value = i + 1 :=
  have inside := List.idxOf_lt_length_of_mem seen
  ⟨values.idxOf value, inside, List.getElem_idxOf inside, rfl⟩

end NdcOdfWeb.Foundation
