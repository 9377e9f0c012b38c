import Mathlib.Algebra.GroupWithZero.Nat
import Mathlib.Data.List.AList

/-! Totals over the values of a map, for counters that are kept beside it. -/

namespace NdcOdfWeb.Foundation

variable {α β : Type} [DecidableEq α]

/-- A finite map with its keys in some order. -/
abbrev KeyedMap (α β : Type) := AList (fun _ : α => β)

omit [DecidableEq α] in
/-- The sum of the weights of all values. -/
def tally (weight : β → Nat) (map : KeyedMap α β) : Nat :=
  (map.entries.map (fun entry => weight entry.2)).sum

/-- `emplace`: a key that is there keeps its value. -/
def emplace (map : KeyedMap α β) (key : α) (value : β) : KeyedMap α β :=
  if key ∈ map then map else map.insert key value

/-- An entry that is there stays. -/
theorem emplace_of_mem {map : KeyedMap α β} {key : α} (value : β) (present : key ∈ map)
    : emplace map key value = map :=
  if_pos present

/-- An entry that is missing is inserted. -/
theorem emplace_of_notMem {map : KeyedMap α β} {key : α} (value : β) (absent : key ∉ map)
    : emplace map key value = map.insert key value :=
  if_neg absent

/-- What is found behind an insertion is what was inserted or what was there. -/
theorem lookup_insert_some {map : KeyedMap α β} {key other : α} {value found : β}
    (after : (map.insert key value).lookup other = some found)
    : (other = key ∧ value = found) ∨ (other ≠ key ∧ map.lookup other = some found) := by
  by_cases same : other = key
  · rw [same, AList.lookup_insert] at after
    exact .inl ⟨same, Option.some.inj after⟩
  · rw [AList.lookup_insert_ne same] at after
    exact .inr ⟨same, after⟩

/-- What is found was there before, or is the new entry. -/
theorem lookup_emplace {map : KeyedMap α β} {key other : α} {value found : β}
    (after : (emplace map key value).lookup other = some found)
    : map.lookup other = some found ∨ (other = key ∧ found = value) := by
  unfold emplace at after
  split at after
  · exact .inl after
  · rcases lookup_insert_some after with ⟨same, rfl⟩ | ⟨-, old⟩
    · exact .inr ⟨same, rfl⟩
    · exact .inl old

/-- What is found is another key's. -/
theorem lookup_erase_some {map : KeyedMap α β} {key other : α} {found : β}
    (after : (map.erase key).lookup other = some found)
    : other ≠ key ∧ map.lookup other = some found := by
  by_cases same : other = key
  · rw [same, AList.lookup_erase] at after
    cases after
  · rw [AList.lookup_erase_ne same] at after
    exact ⟨same, after⟩

/-- What is looked up is in the map. -/
theorem mem_of_lookup {map : KeyedMap α β} {key : α} {value : β}
    (found : map.lookup key = some value)
    : key ∈ map :=
  AList.lookup_isSome.mp (Option.isSome_of_eq_some found)

omit [DecidableEq α] in
/-- No entries, no weight. -/
@[simp] theorem tally_empty (weight : β → Nat) : tally weight (∅ : KeyedMap α β) = 0 := rfl

/-- The sum loses the weight of the erased entry. -/
theorem tally_erase (weight : β → Nat) {map : KeyedMap α β} {key : α} {value : β}
    (found : map.lookup key = some value)
    : tally weight (map.erase key) + weight value = tally weight map := by
  obtain ⟨other, before, after, -, entries, erased⟩ :=
    List.exists_of_kerase (AList.mem_keys.mp (mem_of_lookup found))
  have member : ⟨key, other⟩ ∈ map.entries := by
    rw [entries]
    exact List.mem_append_right _ List.mem_cons_self
  have same : some other = some value :=
    (AList.mem_lookup_iff.mpr member).symm.trans found
  cases same
  have rest : (map.erase key).entries = before ++ after := erased
  unfold tally
  rw [rest, entries]
  simp only [List.map_append, List.map_cons, List.sum_append, List.sum_cons]
  omega

/-- The sum gets the new weight, and loses the old entry's. -/
theorem tally_insert (weight : β → Nat) (map : KeyedMap α β) (key : α) (value : β)
    : tally weight (map.insert key value) = weight value + tally weight (map.erase key) := by
  unfold tally
  rw [AList.entries_insert, List.map_cons, List.sum_cons]
  rfl

/-- A new key replaces nothing. -/
theorem tally_insert_new (weight : β → Nat) {map : KeyedMap α β} {key : α} (value : β)
    (absent : key ∉ map)
    : tally weight (map.insert key value) = weight value + tally weight map := by
  unfold tally
  rw [AList.entries_insert_of_notMem absent, List.map_cons, List.sum_cons]

/-- A value is changed in place. -/
theorem tally_insert_found (weight : β → Nat) {map : KeyedMap α β} {key : α} {value : β}
    (found : map.lookup key = some value) (changed : β)
    : tally weight (map.insert key changed) + weight value
      = weight changed + tally weight map := by
  have erased := tally_erase weight found
  rw [tally_insert]
  omega

/-- An entry is a part of the sum. -/
theorem weight_le_tally (weight : β → Nat) {map : KeyedMap α β} {key : α} {value : β}
    (found : map.lookup key = some value)
    : weight value ≤ tally weight map := by
  have erased := tally_erase weight found
  omega

/-- A total is zero where all weights are. -/
theorem tally_eq_zero_iff {weight : β → Nat} {map : KeyedMap α β}
    : tally weight map = 0
      ↔ ∀ key value, map.lookup key = some value → weight value = 0 := by
  unfold tally
  rw [List.sum_eq_zero_iff_forall_eq_nat]
  constructor
  · intro zero key value found
    exact zero _ (List.mem_map.mpr ⟨⟨key, value⟩, AList.mem_lookup_iff.mp found, rfl⟩)
  · intro zero n member
    obtain ⟨entry, inside, rfl⟩ := List.mem_map.mp member
    exact zero entry.1 entry.2 (AList.mem_lookup_iff.mpr inside)

/-- Entry by entry. -/
theorem tally_congr {weight other : β → Nat} {map : KeyedMap α β}
    (same : ∀ key value, map.lookup key = some value → weight value = other value)
    : tally weight map = tally other map := by
  refine congrArg List.sum (List.map_congr_left fun entry member => ?_)
  exact same entry.1 entry.2 (AList.mem_lookup_iff.mpr member)

end NdcOdfWeb.Foundation
