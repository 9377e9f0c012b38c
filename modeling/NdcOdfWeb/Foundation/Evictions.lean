import Mathlib.Algebra.GroupWithZero.Nat

/-! One pass over entries that evicts some of them, until their total size is small enough. -/

namespace NdcOdfWeb.Foundation

variable {ε : Type}

/-- The sizes of entries, together. -/
def sizes (size : ε → Nat) (entries : List ε) : Nat :=
  (entries.map size).sum

/-- The total size that is left after the pass; whether an entry is evicted depends on the
total size that the pass has left at it.
-/
def evictionPass (evicts : Nat → ε → Bool) (size : ε → Nat) (total : Nat) : List ε → Nat
  | [] => total
  | entry :: rest =>
      if evicts total entry then evictionPass evicts size (total - size entry) rest
      else evictionPass evicts size total rest

variable {evicts : Nat → ε → Bool} {size : ε → Nat}

/-- By induction on the entries. -/
theorem evictionPass_le (total : Nat) (entries : List ε)
    : evictionPass evicts size total entries ≤ total := by
  induction entries generalizing total with
  | nil => exact Nat.le_refl total
  | cons entry rest ih =>
      rw [evictionPass]
      split
      · exact Nat.le_trans (ih _) (Nat.sub_le total (size entry))
      · exact ih total

variable {keeps : ε → Bool}

/-- Entries that are never evicted are left. -/
theorem sizes_kept_le (kept : ∀ total entry, keeps entry = true → evicts total entry = false)
    {total : Nat} {entries : List ε} (inside : sizes size entries ≤ total)
    : sizes size (entries.filter keeps) + total
      ≤ evictionPass evicts size total entries + sizes size entries := by
  induction entries generalizing total with
  | nil => exact Nat.le_of_eq (Nat.add_comm 0 total)
  | cons entry rest ih =>
      have split : sizes size (entry :: rest) = size entry + sizes size rest := rfl
      rw [split] at inside ⊢
      rw [evictionPass, List.filter_cons]
      cases evicted : evicts total entry with
      | true =>
          have other : ¬ keeps entry = true := fun keep => by
            rw [kept total entry keep] at evicted
            exact Bool.false_ne_true evicted
          rw [if_neg other, if_pos rfl]
          have later := @ih (total - size entry) (by omega)
          omega
      | false =>
          rw [if_neg Bool.false_ne_true]
          have later := @ih total (by omega)
          split
          · have split' : sizes size (entry :: rest.filter keeps)
                = size entry + sizes size (rest.filter keeps) := rfl
            omega
          · omega

/-- Where all others are evicted above a limit, the pass gets to the limit, or only the kept
ones are left.
-/
theorem evictionPass_limit {limit : Nat}
    (kept : ∀ total entry, keeps entry = true → evicts total entry = false)
    (evicted : ∀ total entry, limit < total → keeps entry = false → evicts total entry = true)
    {total : Nat} {entries : List ε} (inside : sizes size entries ≤ total)
    : evictionPass evicts size total entries ≤ limit
      ∨ evictionPass evicts size total entries + sizes size entries
        = total + sizes size (entries.filter keeps) := by
  induction entries generalizing total with
  | nil => exact .inr rfl
  | cons entry rest ih =>
      by_cases small : total ≤ limit
      · exact .inl (Nat.le_trans (evictionPass_le total _) small)
      have split : sizes size (entry :: rest) = size entry + sizes size rest := rfl
      rw [split] at inside ⊢
      rw [evictionPass, List.filter_cons]
      cases keep : keeps entry with
      | true =>
          rw [kept total entry keep, if_neg Bool.false_ne_true, if_pos rfl]
          rcases @ih total (by omega) with below | rest'
          · exact .inl below
          · have split' : sizes size (entry :: rest.filter keeps)
                = size entry + sizes size (rest.filter keeps) := rfl
            exact .inr (by omega)
      | false =>
          rw [evicted total entry (Nat.lt_of_not_le small) keep, if_pos rfl,
            if_neg Bool.false_ne_true]
          rcases @ih (total - size entry) (by omega) with below | rest'
          · exact .inl below
          · exact .inr (by omega)

/-- The pass gets to the limit exactly if the kept entries fit it, in whatever order the
entries come.
-/
theorem evictionPass_le_iff {limit : Nat}
    (kept : ∀ total entry, keeps entry = true → evicts total entry = false)
    (evicted : ∀ total entry, limit < total → keeps entry = false → evicts total entry = true)
    (entries : List ε)
    : evictionPass evicts size (sizes size entries) entries ≤ limit
      ↔ sizes size (entries.filter keeps) ≤ limit := by
  have least := sizes_kept_le kept (Nat.le_refl (sizes size entries))
  rcases evictionPass_limit kept evicted (Nat.le_refl (sizes size entries)) with below | only
  · exact ⟨fun _ => by omega, fun _ => below⟩
  · rw [show evictionPass evicts size (sizes size entries) entries
        = sizes size (entries.filter keeps) by omega]

end NdcOdfWeb.Foundation
