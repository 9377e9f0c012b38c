import Mathlib.Data.List.Basic
import Mathlib.Order.MinMax

/-! The edit distance of two lists: the recursive definition gives the least cost of an
alignment, so it does not matter from which end the lists are compared.
-/

namespace NdcOdfWeb.Foundation

variable {α : Type}

/-- One list becomes the other one when elements are kept, replaced, inserted and deleted; all but
the first cost one.
-/
inductive Aligned : List α → List α → Nat → Prop where
  | nil : Aligned [] [] 0
  | keep {xs ys cost} (x : α) (rest : Aligned xs ys cost) : Aligned (x :: xs) (x :: ys) cost
  | replace {xs ys cost} (x y : α) (rest : Aligned xs ys cost)
    : Aligned (x :: xs) (y :: ys) (cost + 1)
  | insert {xs ys cost} (y : α) (rest : Aligned xs ys cost) : Aligned xs (y :: ys) (cost + 1)
  | delete {xs ys cost} (x : α) (rest : Aligned xs ys cost) : Aligned (x :: xs) ys (cost + 1)

namespace Aligned

variable {xs ys : List α} {cost : Nat}

/-- By induction on the first alignment. -/
theorem append {more others : List α} {moreCost : Nat} (front : Aligned xs ys cost)
    (back : Aligned more others moreCost)
    : Aligned (xs ++ more) (ys ++ others) (cost + moreCost) := by
  induction front with
  | nil => rwa [Nat.zero_add]
  | keep x _ ih => exact ih.keep x
  | replace x y _ ih =>
      rw [Nat.add_right_comm]
      exact ih.replace x y
  | insert y _ ih =>
      rw [Nat.add_right_comm]
      exact ih.insert y
  | delete x _ ih =>
      rw [Nat.add_right_comm]
      exact ih.delete x

/-- An alignment can be read from the other end. -/
theorem reverse (aligned : Aligned xs ys cost) : Aligned xs.reverse ys.reverse cost := by
  induction aligned with
  | nil => exact .nil
  | keep x _ ih =>
      rw [List.reverse_cons, List.reverse_cons]
      exact ih.append (nil.keep x)
  | replace x y _ ih =>
      rw [List.reverse_cons, List.reverse_cons]
      exact ih.append (nil.replace x y)
  | insert y _ ih =>
      have both := ih.append (nil.insert y)
      rwa [List.append_nil, ← List.reverse_cons] at both
  | delete x _ ih =>
      have both := ih.append (nil.delete x)
      rwa [List.append_nil, ← List.reverse_cons] at both

/-- Each element is inserted. -/
theorem inserts (ys : List α) : Aligned [] ys ys.length := by
  induction ys with
  | nil => exact .nil
  | cons y ys ih => exact ih.insert y

/-- Each element is deleted. -/
theorem deletes (xs : List α) : Aligned xs [] xs.length := by
  induction xs with
  | nil => exact .nil
  | cons x xs ih => exact ih.delete x

end Aligned

variable [DecidableEq α]

/-- The recursive Levenshtein distance. -/
def levenshtein : List α → List α → Nat
  | [], ys => ys.length
  | x :: xs, [] => (x :: xs).length
  | x :: xs, y :: ys =>
      if x = y then levenshtein xs ys
      else
        1 + min (min (levenshtein (x :: xs) ys) (levenshtein xs (y :: ys))) (levenshtein xs ys)

/-- All elements are inserted. -/
theorem levenshtein_nil_left (ys : List α) : levenshtein [] ys = ys.length := by
  rw [levenshtein]

/-- All elements are deleted. -/
theorem levenshtein_nil_right (xs : List α) : levenshtein xs [] = xs.length := by
  cases xs with
  | nil => rw [levenshtein]
  | cons x xs => rw [levenshtein]

/-- Each element is kept. -/
theorem levenshtein_self (xs : List α) : levenshtein xs xs = 0 := by
  induction xs with
  | nil => rw [levenshtein, List.length_nil]
  | cons x xs ih => rw [levenshtein, if_pos rfl, ih]

/-- The distance is the cost of an alignment. -/
theorem aligned_levenshtein (xs ys : List α) : Aligned xs ys (levenshtein xs ys) := by
  fun_induction levenshtein xs ys with
  | case1 ys => exact .inserts ys
  | case2 x xs => exact .deletes (x :: xs)
  | case3 xs y ys ih => exact ih.keep y
  | case4 x xs y ys _ insertIh deleteIh replaceIh =>
      rw [Nat.add_comm 1]
      rcases min_choice (min (levenshtein (x :: xs) ys) (levenshtein xs (y :: ys)))
        (levenshtein xs ys) with least | least
      · rw [least]
        rcases min_choice (levenshtein (x :: xs) ys) (levenshtein xs (y :: ys)) with less | less
        · rw [less]
          exact insertIh.insert y
        · rw [less]
          exact deleteIh.delete x
      · rw [least]
        exact replaceIh.replace x y

/-- The new element is inserted in front. -/
theorem levenshtein_cons_right_le_of {ys : List α}
    (shorter : ∀ x (xs : List α), levenshtein xs ys ≤ levenshtein (x :: xs) ys + 1)
    (xs : List α) (y : α)
    : levenshtein xs (y :: ys) ≤ levenshtein xs ys + 1 := by
  cases xs with
  | nil =>
      rw [levenshtein_nil_left, levenshtein_nil_left]
      exact Nat.le_refl _
  | cons x xs =>
      rw [levenshtein]
      split
      · exact shorter x xs
      · omega

/-- An element less costs one more at most. -/
theorem levenshtein_le_cons_left (ys : List α)
    : ∀ x (xs : List α), levenshtein xs ys ≤ levenshtein (x :: xs) ys + 1 := by
  induction ys with
  | nil =>
      intro x xs
      rw [levenshtein_nil_right, levenshtein_nil_right, List.length_cons]
      omega
  | cons y ys ih =>
      intro x xs
      have inserted := levenshtein_cons_right_le_of ih xs y
      have deleted := ih x xs
      rw [levenshtein.eq_def (x :: xs) (y :: ys)]
      dsimp only
      split <;> omega

/-- One insertion more is enough. -/
theorem levenshtein_cons_right_le (xs : List α) (y : α) (ys : List α)
    : levenshtein xs (y :: ys) ≤ levenshtein xs ys + 1 :=
  levenshtein_cons_right_le_of (levenshtein_le_cons_left ys) xs y

/-- By induction on the recursion: insertions and deletions change places. -/
theorem levenshtein_comm (xs ys : List α) : levenshtein xs ys = levenshtein ys xs := by
  fun_induction levenshtein xs ys with
  | case1 ys => rw [levenshtein_nil_right]
  | case2 x xs => rw [levenshtein_nil_left]
  | case3 xs y ys ih => rw [levenshtein, if_pos rfl, ih]
  | case4 x xs y ys other insertIh deleteIh replaceIh =>
      rw [levenshtein, if_neg (Ne.symm other), insertIh, deleteIh, replaceIh,
        Nat.min_comm (levenshtein ys (x :: xs))]

/-- One deletion more is enough. -/
theorem levenshtein_cons_left_le (x : α) (xs ys : List α)
    : levenshtein (x :: xs) ys ≤ levenshtein xs ys + 1 := by
  rw [levenshtein_comm (x :: xs), levenshtein_comm xs]
  exact levenshtein_cons_right_le ys x xs

/-- No alignment costs less. -/
theorem levenshtein_le {xs ys : List α} {cost : Nat} (aligned : Aligned xs ys cost)
    : levenshtein xs ys ≤ cost := by
  induction aligned with
  | nil => exact Nat.le_of_eq (levenshtein_nil_left [])
  | keep x _ ih => rwa [levenshtein, if_pos rfl]
  | @replace xs ys cost x y _ ih =>
      rw [levenshtein]
      split <;> omega
  | @insert xs ys cost y _ ih =>
      have inserted := levenshtein_cons_right_le xs y ys
      omega
  | @delete xs ys cost x _ ih =>
      have deleted := levenshtein_cons_left_le x xs ys
      omega

/-- The lists can be compared from the other end. -/
theorem levenshtein_reverse (xs ys : List α)
    : levenshtein xs.reverse ys.reverse = levenshtein xs ys := by
  apply Nat.le_antisymm
  · exact levenshtein_le (aligned_levenshtein xs ys).reverse
  · have back := (aligned_levenshtein xs.reverse ys.reverse).reverse
    rw [List.reverse_reverse, List.reverse_reverse] at back
    exact levenshtein_le back

end NdcOdfWeb.Foundation
