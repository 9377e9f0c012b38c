import NdcOdfWeb.Foundation.Tally

/-! Maps that are visited entry by entry, in an order that is not specified. -/

namespace NdcOdfWeb.Foundation

/-- An order in which maps are visited. -/
structure Iteration where
  order : {α : Type} → List α → List α
  perm : ∀ {α : Type} (entries : List α), (order entries).Perm entries

variable {α β γ : Type} [DecidableEq α]

/-- Where the entries of the other keys give nothing, a visit gives what the key's entry does. -/
theorem flatMap_entry {entries : List (Sigma (fun _ : α => β))} (distinct : entries.NodupKeys)
    (key : α) (visit : Sigma (fun _ : α => β) → List γ)
    (others : ∀ entry ∈ entries, entry.1 ≠ key → visit entry = [])
    : entries.flatMap visit
      = ((entries.dlookup key).map (fun value => visit ⟨key, value⟩)).getD [] := by
  induction entries with
  | nil => rfl
  | cons entry entries ih =>
      obtain ⟨absent, distinct'⟩ := List.nodupKeys_cons.mp distinct
      have rest := fun other member => others other (List.mem_cons_of_mem entry member)
      rw [List.flatMap_cons]
      by_cases same : entry.1 = key
      · have none_ : entries.flatMap visit = [] := by
          refine List.flatMap_eq_nil_iff.mpr (fun other member => rest other member ?_)
          intro equal
          exact absent (same.trans equal.symm ▸ List.mem_keys_of_mem member)
        obtain ⟨key', value⟩ := entry
        cases same
        rw [none_, List.append_nil, List.dlookup_cons_eq]
        rfl
      · rw [others entry List.mem_cons_self same, List.nil_append, ih distinct' rest]
        obtain ⟨key', value⟩ := entry
        rw [List.dlookup_cons_ne _ _ (Ne.symm same)]

/-- A visit comes to the entries of the map. -/
theorem Iteration.lookup_of_mem (iteration : Iteration) {map : KeyedMap α β}
    {entry : Sigma (fun _ : α => β)} (member : entry ∈ iteration.order map.entries)
    : map.lookup entry.1 = some entry.2 :=
  AList.mem_lookup_iff.mpr ((iteration.perm map.entries).mem_iff.mp member)

/-- Each key is visited once, so only its own visit is seen. -/
theorem Iteration.flatMap_entry (iteration : Iteration) (map : KeyedMap α β) (key : α)
    (visit : Sigma (fun _ : α => β) → List γ)
    (others
      : ∀ other value, map.lookup other = some value → other ≠ key → visit ⟨other, value⟩ = [])
    : (iteration.order map.entries).flatMap visit
      = ((map.lookup key).map (fun value => visit ⟨key, value⟩)).getD [] := by
  have perm := iteration.perm map.entries
  have distinct := (List.perm_nodupKeys perm).mpr map.nodupKeys
  rw [Foundation.flatMap_entry distinct key visit, List.perm_dlookup key distinct perm]
  · rfl
  · rintro ⟨other, value⟩ member differs
    exact others other value (AList.mem_lookup_iff.mpr (perm.mem_iff.mp member)) differs

/-- Of what a visit shows of the entries, the part that is wanted of one key. -/
theorem Iteration.filter_map (iteration : Iteration) (map : KeyedMap α β) (key : α)
    (shown : Sigma (fun _ : α => β) → γ) (wanted : γ → Bool)
    (same
      : ∀ other value,
          map.lookup other = some value → (wanted (shown ⟨other, value⟩) = true ↔ other = key))
    : ((iteration.order map.entries).map shown).filter wanted
      = ((map.lookup key).map (fun value => shown ⟨key, value⟩)).toList := by
  rw [List.map_eq_flatMap, List.filter_flatMap, iteration.flatMap_entry map key]
  · cases found : map.lookup key with
    | none => rfl
    | some value =>
        have here := (same key value found).mpr rfl
        simp [here]
  · intro other value found differs
    have away := mt (same other value found).mp differs
    simp [away]

end NdcOdfWeb.Foundation
