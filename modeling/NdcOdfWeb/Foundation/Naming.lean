import Mathlib.Data.List.Dedup
import Mathlib.Data.List.Perm.Subperm

/-! Names that are given to keys, and names that are told apart by a running number. -/

namespace NdcOdfWeb.Foundation

variable {α β : Type}

/-- A name belongs to one key, and a key that is `kept` has one name. -/
structure Naming (kept : α → Prop) (pairs : List (α × β)) : Prop where
  key : ∀ one ∈ pairs, ∀ other ∈ pairs, one.2 = other.2 → one.1 = other.1
  name : ∀ one ∈ pairs, ∀ other ∈ pairs, one.1 = other.1 → kept one.1 → one.2 = other.2

variable {kept : α → Prop} {pairs more : List (α × β)}

/-- No pairs. -/
theorem naming_nil : Naming kept ([] : List (α × β)) where
  key _ member := absurd member List.not_mem_nil
  name _ member := absurd member List.not_mem_nil

/-- A new pair collides with no pair that is there. -/
theorem Naming.add {pair : α × β} (naming : Naming kept pairs)
    (inside : ∀ one ∈ more, one ∈ pairs ∨ one = pair)
    (key : ∀ one ∈ pairs, one.2 = pair.2 → one.1 = pair.1)
    (name : ∀ one ∈ pairs, one.1 = pair.1 → kept pair.1 → one.2 = pair.2)
    : Naming kept more where
  key one member other member' same := by
    rcases inside one member with old | rfl <;> rcases inside other member' with old' | rfl
    · exact naming.key one old other old' same
    · exact key one old same
    · exact (key other old' same.symm).symm
    · rfl
  name one member other member' same keeps := by
    rcases inside one member with old | rfl <;> rcases inside other member' with old' | rfl
    · exact naming.name one old other old' same keeps
    · exact name one old same (same ▸ keeps)
    · exact (name other old' same.symm keeps).symm
    · rfl

/-- Fewer pairs. -/
theorem Naming.mono (naming : Naming kept pairs) (inside : more ⊆ pairs) : Naming kept more where
  key one member other member' := naming.key one (inside member) other (inside member')
  name one member other member' := naming.name one (inside member) other (inside member')

/-- Every key gets a name with its number. -/
def numbered (name : Nat → α → β) (keys : List α) : List (α × β) :=
  keys.mapIdx (fun number key => (key, name number key))

/-- A pair is a key with the name of its place. -/
theorem mem_numbered {name : Nat → α → β} {keys : List α} {pair : α × β}
    : pair ∈ numbered name keys
      ↔ ∃ number, keys[number]? = some pair.1 ∧ name number pair.1 = pair.2 := by
  rw [numbered, List.mem_mapIdx]
  constructor
  · rintro ⟨number, inside, rfl⟩
    exact ⟨number, List.getElem?_eq_getElem inside, rfl⟩
  · rintro ⟨number, found, named⟩
    obtain ⟨inside, key⟩ := List.getElem?_eq_some_iff.mp found
    exact ⟨number, inside, Prod.ext key (key ▸ named)⟩

/-- The last key gets the last place. -/
theorem numbered_append (name : Nat → α → β) (keys : List α) (key : α)
    : numbered name (keys ++ [key]) = numbered name keys ++ [(key, name keys.length key)] :=
  List.mapIdx_concat

/-- The next number makes a new name, as long as the numbers tell the names apart. -/
theorem numbered_fresh {name : Nat → α → β} {bound : Nat}
    (distinct
      : ∀ number < bound, ∀ key, ∀ number' < bound, ∀ key',
          name number key = name number' key' → number = number')
    {keys : List α} (few : keys.length < bound) (key : α)
    : ∀ pair ∈ numbered name keys, pair.2 ≠ name keys.length key := by
  intro pair member same
  obtain ⟨number, found, named⟩ := mem_numbered.mp member
  obtain ⟨inside, -⟩ := List.getElem?_eq_some_iff.mp found
  exact Nat.ne_of_lt inside
    (distinct number (Nat.lt_trans inside few) _ _ few _ (named.trans same))

variable [DecidableEq α] [BEq α] [LawfulBEq α]

/-- Keys that are there once, unless they are one exception, are at most as many as the distinct
keys of a list that has them, with every place of the exception.
-/
theorem length_le_distinct {keys asked : List α} {exception : α}
    (once : (keys.filter (· ≠ exception)).Nodup) (inside : keys ⊆ asked)
    (places : keys.count exception ≤ asked.count exception)
    : keys.length ≤ (asked.filter (· ≠ exception)).dedup.length + asked.count exception := by
  have split : keys.length = (keys.filter (· ≠ exception)).length + keys.count exception := by
    rw [List.length_eq_countP_add_countP (· ≠ exception), List.countP_eq_length_filter,
      List.count_eq_countP]
    congr 2
    funext key
    rw [Bool.eq_iff_iff]
    simp
  have distinct : keys.filter (· ≠ exception) ⊆ (asked.filter (· ≠ exception)).dedup := by
    intro key member
    obtain ⟨listed, differs⟩ := List.mem_filter.mp member
    exact List.mem_dedup.mpr (List.mem_filter.mpr ⟨inside listed, differs⟩)
  have short := (List.subperm_of_subset once distinct).length_le
  omega

end NdcOdfWeb.Foundation
