import Mathlib.Data.List.Nodup
import Mathlib.Logic.Function.Basic

/-! Items that are in at most one place each: in one of several lists, in somebody's hands, or
nowhere any more.
-/

namespace NdcOdfWeb.Foundation

variable {P S : Type}

/-- No item is twice in a place, in two places, or both in a place and in hands. -/
structure OnePlace (places : P → List S) (hands : List S) : Prop where
  nodup : ∀ p, (places p).Nodup
  one : ∀ {p q s}, s ∈ places p → s ∈ places q → p = q
  nodupHands : hands.Nodup
  notInHands : ∀ {p s}, s ∈ places p → s ∉ hands

namespace OnePlace

variable {places : P → List S} {hands : List S}

/-- At first, nothing is anywhere. -/
theorem empty : OnePlace (fun _ : P => ([] : List S)) [] where
  nodup _ := .nil
  one member := absurd member List.not_mem_nil
  nodupHands := .nil
  notInHands member := absurd member List.not_mem_nil

/-- Items get lost. -/
theorem sublist (apart : OnePlace places hands) {fewer : P → List S} {left : List S}
    (places' : ∀ p, (fewer p).Sublist (places p)) (hands' : left.Sublist hands)
    : OnePlace fewer left where
  nodup p := (apart.nodup p).sublist (places' p)
  one here there := apart.one ((places' _).subset here) ((places' _).subset there)
  nodupHands := apart.nodupHands.sublist hands'
  notInHands here inHands := apart.notInHands ((places' _).subset here) (hands'.subset inHands)

/-- An item that is nowhere else gets into somebody's hands. -/
theorem hand (apart : OnePlace places hands) {s : S} (nowhere : ∀ p, s ∉ places p)
    (notInHands : s ∉ hands)
    : OnePlace places (s :: hands) where
  nodup := apart.nodup
  one := apart.one
  nodupHands := List.nodup_cons.mpr ⟨notInHands, apart.nodupHands⟩
  notInHands := by
    intro p other here inHands
    rcases List.mem_cons.mp inHands with rfl | inHands
    · exact nowhere p here
    · exact apart.notInHands here inHands

variable [DecidableEq P] [DecidableEq S]

/-- An item in hands is put into a place. -/
theorem put (apart : OnePlace places hands) (p : P) {s : S} (held : s ∈ hands)
    : OnePlace (Function.update places p (places p ++ [s])) (hands.erase s) := by
  have nowhere (q : P) : s ∉ places q := fun here => apart.notInHands here held
  have moved {q : P} {other : S}
      (here : other ∈ Function.update places p (places p ++ [s]) q)
      : other ∈ places q ∨ q = p ∧ other = s := by
    by_cases same : q = p
    · subst same
      rw [Function.update_self, List.mem_append, List.mem_singleton] at here
      exact here.imp_right (fun equal => ⟨rfl, equal⟩)
    · rw [Function.update_of_ne same] at here
      exact .inl here
  constructor
  · intro q
    by_cases same : q = p
    · subst same
      rw [Function.update_self, ← List.concat_eq_append]
      exact (apart.nodup q).concat (nowhere q)
    · rw [Function.update_of_ne same]
      exact apart.nodup q
  · intro q r other here there
    rcases moved here with before | ⟨rfl, same⟩ <;> rcases moved there with after | ⟨rfl, same'⟩
    · exact apart.one before after
    · exact absurd (same' ▸ before) (nowhere q)
    · exact absurd (same ▸ after) (nowhere r)
    · rfl
  · exact apart.nodupHands.erase s
  · intro q other here inHands
    rw [apart.nodupHands.mem_erase_iff] at inHands
    rcases moved here with here | ⟨-, same⟩
    · exact apart.notInHands here inHands.2
    · exact inHands.1 same

/-- An item is taken from its place; it may get into somebody's hands. -/
theorem take (apart : OnePlace places hands) {p : P} {s : S} (member : s ∈ places p)
    : OnePlace (Function.update places p ((places p).erase s)) (s :: hands) := by
  have fewer (q : P) : (Function.update places p ((places p).erase s) q).Sublist (places q) := by
    by_cases same : q = p
    · subst same
      rw [Function.update_self]
      exact List.erase_sublist
    · rw [Function.update_of_ne same]
  refine (apart.sublist fewer (List.Sublist.refl hands)).hand ?_ (apart.notInHands member)
  intro q here
  have same : q = p := apart.one ((fewer q).subset here) member
  subst same
  rw [Function.update_self, (apart.nodup q).mem_erase_iff] at here
  exact here.1 rfl

end OnePlace

end NdcOdfWeb.Foundation
