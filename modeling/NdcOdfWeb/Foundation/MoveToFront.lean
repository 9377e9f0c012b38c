import Mathlib.Data.List.Basic

/-! The keys of a cache that holds the most recently used ones, the last used first. -/

namespace NdcOdfWeb.Foundation

variable {κ : Type} [DecidableEq κ]

/-- A key is used: if it is new and the cache is full, the last one is dropped. -/
def moveToFront (size : Nat) (keys : List κ) (key : κ) : List κ :=
  if key ∈ keys then key :: keys.eraseP (· = key)
  else if keys.length = size then key :: keys.dropLast
  else key :: keys

/-- No key is there twice, and there are no more than the cache holds. -/
structure Bounded (size : Nat) (keys : List κ) : Prop where
  nodup : keys.Nodup
  length_le : keys.length ≤ size

/-- A key that is there moves. -/
theorem moveToFront_of_mem {size : Nat} {keys : List κ} {key : κ} (member : key ∈ keys)
    : moveToFront size keys key = key :: keys.eraseP (· = key) :=
  if_pos member

/-- The first key that is equal is erased. -/
theorem eraseP_eq_erase (keys : List κ) (key : κ) : keys.eraseP (· = key) = keys.erase key :=
  (List.erase_eq_eraseP' key keys).symm

/-- A new key is put in front, and the last one may go. -/
theorem moveToFront_of_not_mem {size : Nat} {keys : List κ} {key : κ} (absent : key ∉ keys)
    : moveToFront size keys key
      = key :: if keys.length = size then keys.dropLast else keys := by
  rw [moveToFront, if_neg absent]
  split <;> rfl

/-- The key is in front. -/
theorem mem_moveToFront (size : Nat) (keys : List κ) (key : κ)
    : key ∈ moveToFront size keys key := by
  unfold moveToFront
  split
  · exact List.mem_cons_self
  · split
    · exact List.mem_cons_self
    · exact List.mem_cons_self

/-- A full list loses its last key for a new one. -/
theorem Bounded.moveToFront {size : Nat} {keys : List κ} (bounded : Bounded size keys)
    (positive : 0 < size) (key : κ)
    : Bounded size (moveToFront size keys key) := by
  have length_le := bounded.length_le
  by_cases member : key ∈ keys
  · rw [moveToFront_of_mem member, eraseP_eq_erase]
    constructor
    · rw [List.nodup_cons]
      exact ⟨bounded.nodup.not_mem_erase, bounded.nodup.erase key⟩
    · have shorter := List.length_erase_of_mem member
      have nonempty := List.length_pos_of_mem member
      rw [List.length_cons]
      omega
  · rw [moveToFront_of_not_mem member]
    split
    · constructor
      · rw [List.nodup_cons]
        exact ⟨fun inside => member (List.dropLast_subset keys inside),
          bounded.nodup.sublist (List.dropLast_sublist keys)⟩
      · rw [List.length_cons, List.length_dropLast]
        omega
    · constructor
      · exact List.nodup_cons.mpr ⟨member, bounded.nodup⟩
      · rw [List.length_cons]
        omega

/-- Keys that are renamed one to one are moved alike. -/
theorem moveToFront_map {μ : Type} [DecidableEq μ] {f : κ → μ} (injective : f.Injective)
    (size : Nat) (keys : List κ) (key : κ)
    : (moveToFront size keys key).map f = moveToFront size (keys.map f) (f key) := by
  by_cases member : key ∈ keys
  · have same : (fun other => decide (f other = f key)) = fun other => decide (other = key) := by
      funext other
      exact decide_eq_decide.mpr injective.eq_iff
    rw [moveToFront_of_mem member, moveToFront_of_mem (List.mem_map_of_mem member),
      List.map_cons, List.eraseP_map]
    exact congrArg (fun has => f key :: (keys.eraseP has).map f) same.symm
  · have absent : f key ∉ keys.map f := by rwa [List.mem_map_of_injective injective]
    rw [moveToFront_of_not_mem member, moveToFront_of_not_mem absent, List.map_cons,
      List.length_map, apply_ite (List.map f), List.map_dropLast]

end NdcOdfWeb.Foundation
