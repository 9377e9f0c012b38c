import Mathlib.Data.List.Perm.Basic

/-! Replacing the first element of a list that looks like a new one.
An approximate test `like` stands for the exact one, `same`; the replacement is exact when
the first look-alike is the same, and everything that is the same looks alike.
-/

namespace NdcOdfWeb.Foundation

variable {α : Type}

/-- At most one element was taken out of `queue`, and it was the same as the new one. -/
def TakesOnly (same : α → Bool) (queue kept : List α) : Prop :=
  kept = queue
  ∨ ∃ element before after,
      queue = before ++ element :: after ∧ kept = before ++ after ∧ same element = true

/-- Only the first element found is erased. -/
theorem takesOnly_eraseP_iff {same like : α → Bool} {queue : List α}
    : TakesOnly same queue (queue.eraseP like)
      ↔ ∀ element, queue.find? like = some element → same element = true := by
  rcases List.exists_or_eq_self_of_eraseP like queue
    with unchanged | ⟨first, before, after, notLike, isLike, shape, erased⟩
  · have absent : queue.find? like = none := by
      rw [List.find?_eq_none]
      exact List.eraseP_eq_self_iff.mp unchanged
    simp [TakesOnly, unchanged, absent]
  · have found : queue.find? like = some first := by
      rw [shape, List.find?_append, List.find?_eq_none.mpr notLike]
      simp [isLike]
    rw [found]
    simp only [Option.some.injEq, forall_eq']
    constructor
    · rintro (unchanged | ⟨element, front, back, split, kept, isSame⟩)
      · have length := congrArg List.length unchanged
        rw [erased, shape] at length
        simp only [List.length_append, List.length_cons] at length
        omega
      · -- both elements complete the same rest to the same queue
        have perm : (first :: (before ++ after)).Perm (element :: (before ++ after)) := by
          have one : queue.Perm (first :: (before ++ after)) := shape ▸ List.perm_middle
          have other : queue.Perm (element :: (front ++ back)) := split ▸ List.perm_middle
          rw [← kept, erased] at other
          exact one.symm.trans other
        have equal : first = element := by
          have singles := (List.perm_append_right_iff (before ++ after)).mp
            (show ([first] ++ (before ++ after)).Perm ([element] ++ (before ++ after)) from perm)
          exact List.singleton_perm_singleton.mp singles
        rw [equal]
        exact isSame
    · intro isSame
      exact .inr ⟨first, before, after, shape, erased, isSame⟩

/-- Erasing an element that a filter drops anyway. -/
theorem filter_eraseP_of_dropped {keep like : α → Bool} {queue : List α}
    (dropped : ∀ element ∈ queue, like element = true → keep element = false)
    : (queue.eraseP like).filter keep = queue.filter keep := by
  rcases List.exists_or_eq_self_of_eraseP like queue
    with unchanged | ⟨first, before, after, -, isLike, shape, erased⟩
  · rw [unchanged]
  · have gone : keep first = false := dropped first (by simp [shape]) isLike
    rw [erased, shape, List.filter_append, List.filter_append, List.filter_cons_of_neg (by simp [gone])]

/-- An erased element is taken from the filtered ones, or none is. -/
theorem filter_eraseP_sublist (same like : α → Bool) (queue : List α)
    : ((queue.eraseP like).filter same).Sublist (queue.filter same) :=
  List.eraseP_sublist.filter same

/-- The replacement takes out only the same element and leaves only one of its kind, exactly
when the first look-alike is the same and all that are the same look alike.
-/
theorem replace_iff {same like : α → Bool} {queue : List α} {new : α}
    (isSame : same new = true) (unique : (queue.filter same).length ≤ 1)
    : TakesOnly same queue (queue.eraseP like)
        ∧ ((queue.eraseP like ++ [new]).filter same).length ≤ 1
      ↔ (∀ element, queue.find? like = some element → same element = true)
        ∧ ∀ element ∈ queue, same element = true → like element = true := by
  rw [takesOnly_eraseP_iff, List.filter_append, List.length_append]
  have one : [new].filter same = [new] := by simp [isSame]
  rw [one, List.length_singleton]
  refine and_congr_right (fun first => ?_)
  constructor
  · intro bound element member elementSame
    have none : (queue.eraseP like).filter same = [] := List.length_eq_zero_iff.mp (by omega)
    by_contra notLike
    have kept : element ∈ queue.eraseP like := (List.mem_eraseP_of_neg notLike).mpr member
    have inFilter : element ∈ (queue.eraseP like).filter same :=
      List.mem_filter.mpr ⟨kept, elementSame⟩
    rw [none] at inFilter
    cases inFilter
  · intro alike
    rcases List.exists_or_eq_self_of_eraseP like queue
      with unchanged | ⟨found, before, after, notLike, isLike, shape, erased⟩
    · have absent : (queue.eraseP like).filter same = [] := by
        rw [unchanged, List.filter_eq_nil_iff]
        intro element member elementSame
        exact List.eraseP_eq_self_iff.mp unchanged element member (alike element member elementSame)
      simp [absent]
    · have foundSame : same found = true := by
        refine first found ?_
        rw [shape, List.find?_append, List.find?_eq_none.mpr notLike]
        simp [isLike]
      rw [shape, List.filter_append, List.filter_cons, foundSame, if_pos rfl,
        List.length_append, List.length_cons] at unique
      rw [erased, List.filter_append, List.length_append]
      omega

end NdcOdfWeb.Foundation
