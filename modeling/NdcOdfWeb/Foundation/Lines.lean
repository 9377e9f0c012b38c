import Mathlib.Data.List.Basic
import Mathlib.Data.List.TakeWhile

/-! Lines of a text, and the fields of a line. -/

namespace NdcOdfWeb.Foundation

variable {α : Type} [DecidableEq α]

/-- The lines that are read one after the other until one is empty, which the end of the text
is as well. The first one goes on behind `current`, which is kept in reverse.
-/
def readLines (newline : α) : List α → List α → List (List α)
  | [], current => if current = [] then [] else [current.reverse]
  | c :: rest, current =>
      if c = newline then
        if current = [] then [] else current.reverse :: readLines newline rest []
      else readLines newline rest (c :: current)

/-- Every line is ended by a newline. -/
def joinLines (newline : α) (lines : List (List α)) : List α :=
  lines.flatMap (fun line => line ++ [newline])

/-- By induction on the line. -/
theorem readLines_append {newline : α} {line : List α} (whole : newline ∉ line)
    (rest current : List α)
    : readLines newline (line ++ rest) current
      = readLines newline rest (line.reverse ++ current) := by
  induction line generalizing current with
  | nil => rfl
  | cons c line ih =>
      have other : c ≠ newline := fun same => whole (same ▸ List.mem_cons_self)
      have later : newline ∉ line := fun member => whole (List.mem_cons_of_mem _ member)
      rw [List.cons_append, readLines, if_neg other, ih later, List.reverse_cons,
        List.append_assoc]
      rfl

/-- Lines that are not empty and have no newline are read back. -/
theorem readLines_joinLines {newline : α} {lines : List (List α)}
    (whole : ∀ line ∈ lines, line ≠ [] ∧ newline ∉ line)
    : readLines newline (joinLines newline lines) [] = lines := by
  induction lines with
  | nil => rfl
  | cons line lines ih =>
      obtain ⟨some', clean⟩ := whole line List.mem_cons_self
      rw [joinLines, List.flatMap_cons, List.append_assoc, readLines_append clean,
        List.append_nil, List.singleton_append, readLines, if_pos rfl,
        if_neg (by simpa using some'), List.reverse_reverse]
      exact congrArg (line :: ·)
        (ih (fun other member => whole other (List.mem_cons_of_mem _ member)))

/-- A field ends at the first separator. -/
theorem takeWhile_field {sep : α} {field : List α} (absent : sep ∉ field) (rest : List α)
    : (field ++ sep :: rest).takeWhile (fun c => !decide (c = sep)) = field := by
  have inside : ∀ c ∈ field, (!decide (c = sep)) = true := by
    intro c member
    have other : c ≠ sep := fun same => absent (same ▸ member)
    rw [decide_eq_false other]
    rfl
  rw [List.takeWhile_append_of_pos inside, List.takeWhile_cons_of_neg (by simp),
    List.append_nil]

/-- The field ends at the first separator. -/
theorem dropWhile_field {sep : α} {field : List α} (absent : sep ∉ field) (rest : List α)
    : (field ++ sep :: rest).dropWhile (fun c => !decide (c = sep)) = sep :: rest := by
  have inside : ∀ c ∈ field, (!decide (c = sep)) = true := by
    intro c member
    have other : c ≠ sep := fun same => absent (same ▸ member)
    rw [decide_eq_false other]
    rfl
  rw [List.dropWhile_append_of_pos inside, List.dropWhile_cons_of_neg (by simp)]

end NdcOdfWeb.Foundation
