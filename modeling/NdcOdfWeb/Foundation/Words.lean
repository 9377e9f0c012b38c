import Mathlib.Data.List.Infix
import Mathlib.Order.Defs.LinearOrder

/-! Substring search in texts that consist of words behind separators.
A pattern that starts with the separator is found at the first word with the rest of the
pattern as a prefix; no position inside a word has to be considered.
-/

namespace NdcOdfWeb.Foundation

-----------------------------------------------------------------------------------------
-- Comparing characters and words
-----------------------------------------------------------------------------------------

instance lawfulText : LawfulBEq (List Char) :=
  inferInstance

instance lawfulKey {α : Type} [LinearOrder α] : LawfulBEq α :=
  inferInstance

/-- What holds of all members of a list is decided along the list, also where the type is finite. -/
instance (priority := high) decidableAllMembers {α : Type} (holds : α → Prop)
    [DecidablePred holds] (list : List α)
    : Decidable (∀ member ∈ list, holds member) :=
  List.decidableBAll holds list

-----------------------------------------------------------------------------------------
-- Words behind separators
-----------------------------------------------------------------------------------------

variable {α : Type} [DecidableEq α]

/-- Every word with the separator in front of it. -/
def spaced (sep : α) (words : List (List α)) : List α :=
  words.flatMap (sep :: ·)

omit [DecidableEq α] in
/-- No words. -/
@[simp] theorem spaced_nil (sep : α) : spaced sep [] = [] := rfl

omit [DecidableEq α] in
/-- The separator, the word, and the rest. -/
@[simp] theorem spaced_cons (sep : α) (word : List α) (words : List (List α))
    : spaced sep (word :: words) = sep :: (word ++ spaced sep words) := by
  simp [spaced]

omit [DecidableEq α] in
/-- The words of both lists. -/
theorem spaced_append (sep : α) (left right : List (List α))
    : spaced sep (left ++ right) = spaced sep left ++ spaced sep right := by
  simp [spaced]

omit [DecidableEq α] in
/-- Only the words and the separator are in the text. -/
theorem not_mem_spaced {sep c : α} {words : List (List α)} (other : c ≠ sep)
    (absent : ∀ word ∈ words, c ∉ word)
    : c ∉ spaced sep words := by
  intro member
  obtain ⟨word, inWords, found⟩ := List.mem_flatMap.mp member
  rcases List.mem_cons.mp found with same | inWord
  · exact other same
  · exact absent word inWords inWord

omit [DecidableEq α] in
/-- The text starts with the separator. -/
theorem head?_spaced (sep : α) (words : List (List α))
    : spaced sep words = [] ∨ (spaced sep words).head? = some sep := by
  cases words <;> simp

omit [DecidableEq α] in
/-- A pattern without the separator that starts a word and what follows it starts the
word: otherwise the pattern would run into the separator behind the word.
-/
theorem prefix_word {sep : α} {pattern word rest : List α} (absent : sep ∉ pattern)
    (boundary : rest = [] ∨ rest.head? = some sep) (starts : pattern <+: word ++ rest)
    : pattern <+: word := by
  rcases Nat.le_total pattern.length word.length with short | long
  · exact List.prefix_of_prefix_length_le starts (List.prefix_append word rest) short
  · obtain ⟨tail, rfl⟩ :=
      List.prefix_of_prefix_length_le (List.prefix_append word rest) starts long
    have inRest : tail <+: rest := (List.prefix_append_right_inj word).mp starts
    cases tail with
    | nil => simp
    | cons c tail =>
        obtain ⟨more, rfl⟩ := inRest
        have same : c = sep := by simpa using boundary
        exact absurd (by simp [same]) absent

/-- The first position at which `pattern` occurs in a list. -/
def find (pattern : List α) : List α → Option Nat
  | [] => if pattern = [] then some 0 else none
  | c :: rest =>
      if pattern.isPrefixOf (c :: rest) then some 0
      else (find pattern rest).map (· + 1)

/-- The test, for texts that do not start so. -/
theorem isPrefixOf_eq_false {pattern text : List α} (other : ¬ pattern <+: text)
    : pattern.isPrefixOf text = false := by
  rw [Bool.eq_false_iff, ne_eq, List.isPrefixOf_iff_prefix]
  exact other

/-- The search stops at the start. -/
theorem find_at_start {pattern text : List α} (starts : pattern <+: text)
    : find pattern text = some 0 := by
  cases text with
  | nil => simpa [find] using starts
  | cons c rest => simp [find, List.isPrefixOf_iff_prefix.mpr starts]

/-- A pattern is found exactly when it is a contiguous part of the text. -/
theorem find_isSome_iff {pattern text : List α}
    : (find pattern text).isSome = true ↔ pattern <:+: text := by
  induction text with
  | nil => simp [find]
  | cons c rest ih =>
      by_cases starts : pattern <+: c :: rest
      · simp [find_at_start starts, starts.isInfix]
      · have here := isPrefixOf_eq_false starts
        rw [List.infix_cons_iff]
        simp [find, here, ih, starts]

/-- What follows a text makes no difference to the first position in it. -/
theorem find_append_right {pattern text : List α} {position : Nat}
    (found : find pattern text = some position) (more : List α)
    : find pattern (text ++ more) = some position
      ∧ position + pattern.length ≤ text.length := by
  induction text generalizing position with
  | nil =>
      rw [find] at found
      split at found
      · next empty =>
          cases found
          rw [empty]
          exact ⟨find_at_start (List.nil_prefix), Nat.le_refl _⟩
      · cases found
  | cons c rest ih =>
      rw [find] at found
      split at found
      · next here =>
          cases found
          have starts := List.isPrefixOf_iff_prefix.mp here
          refine ⟨find_at_start (starts.trans (List.prefix_append _ _)), ?_⟩
          rw [Nat.zero_add]
          exact starts.length_le
      · next other =>
          obtain ⟨later, inRest, rfl⟩ := Option.map_eq_some_iff.mp found
          obtain ⟨foundMore, inside⟩ := ih inRest
          have absent : pattern.isPrefixOf (c :: (rest ++ more)) = false := by
            refine isPrefixOf_eq_false fun starts => other ?_
            have whole : c :: rest <+: c :: (rest ++ more) :=
              (List.prefix_append_right_inj [c]).mpr (List.prefix_append rest more)
            exact List.isPrefixOf_iff_prefix.mpr (List.prefix_of_prefix_length_le starts whole
              (by rw [List.length_cons]; omega))
          refine ⟨?_, by rw [List.length_cons]; omega⟩
          rw [List.cons_append, find, absent, if_neg Bool.false_ne_true, foundMore]
          rfl

/-- If the pattern occurs at no position of `before`, the search goes on behind it. -/
theorem find_append {pattern before text : List α}
    (absent : ∀ suffix, suffix <:+ before → suffix ≠ [] → ¬ pattern <+: suffix ++ text)
    : find pattern (before ++ text) = (find pattern text).map (· + before.length) := by
  induction before with
  | nil => simp
  | cons c rest ih =>
      have here : pattern.isPrefixOf (c :: (rest ++ text)) = false :=
        isPrefixOf_eq_false (absent (c :: rest) List.suffix_rfl (by simp))
      have later := ih (fun suffix tail => absent suffix (tail.trans (List.suffix_cons c rest)))
      simp only [List.cons_append, find, here, Bool.false_eq_true, if_false, later,
        Option.map_map, List.length_cons]
      rfl

/-- The separator is not in front, so nothing is found there. -/
theorem find_skip {sep : α} {pattern before text : List α} (absent : sep ∉ before)
    : find (sep :: pattern) (before ++ text)
      = (find (sep :: pattern) text).map (· + before.length) := by
  apply find_append
  intro suffix tail nonempty starts
  cases suffix with
  | nil => exact nonempty rfl
  | cons c rest =>
      have same : sep = c := by
        obtain ⟨more, joined⟩ := starts
        simpa using congrArg List.head? joined
      exact absent (tail.subset (by simp [same]))

/-- By induction on the words: the pattern starts behind a separator only. -/
theorem find_spaced_skip {sep : α} {pattern : List α} {words : List (List α)}
    {rest : List α} (clean : sep ∉ pattern) (absent : ∀ word ∈ words, sep ∉ word)
    (other : ∀ word ∈ words, ¬ pattern <+: word)
    (boundary : rest = [] ∨ rest.head? = some sep)
    : find (sep :: pattern) (spaced sep words ++ rest)
      = (find (sep :: pattern) rest).map (· + (spaced sep words).length) := by
  induction words with
  | nil => simp
  | cons word words ih =>
      have later := ih (fun w member => absent w (by simp [member]))
        (fun w member => other w (by simp [member]))
      have next : spaced sep words ++ rest = [] ∨ (spaced sep words ++ rest).head? = some sep := by
        cases words with
        | nil => simpa using boundary
        | cons head tail => simp
      have here : (sep :: pattern).isPrefixOf (sep :: (word ++ (spaced sep words ++ rest))) = false := by
        refine isPrefixOf_eq_false (fun same => ?_)
        obtain ⟨-, starts⟩ := List.cons_prefix_cons.mp same
        exact other word (by simp) (prefix_word clean next starts)
      simp only [spaced_cons, List.cons_append, List.append_assoc, find, here,
        Bool.false_eq_true, if_false, find_skip (absent word (by simp)), later,
        Option.map_map, List.length_cons, List.length_append]
      congr 1
      funext position
      simp only [Function.comp]
      omega

/-- The search stops at the first word that starts with the pattern. -/
theorem find_spaced {sep : α} {pattern head word : List α} {before after : List (List α)}
    (clean : sep ∉ pattern) (headClean : sep ∉ head)
    (absent : ∀ other ∈ before, sep ∉ other)
    (other : ∀ other ∈ before, ¬ pattern <+: other) (starts : pattern <+: word)
    : find (sep :: pattern) (head ++ spaced sep (before ++ word :: after))
      = some (head ++ spaced sep before).length := by
  have here : find (sep :: pattern) (spaced sep (word :: after)) = some 0 := by
    apply find_at_start
    rw [spaced_cons, List.cons_prefix_cons]
    exact ⟨rfl, starts.trans (List.prefix_append word _)⟩
  rw [find_skip headClean, spaced_append,
    find_spaced_skip clean absent other (head?_spaced sep _), here]
  simp [Nat.add_comm]

omit [DecidableEq α] in
/-- Two words in front of boundaries are equal when one text starts the other. -/
theorem word_eq_of_starts {sep : α} {left right rest more : List α} (leftClean : sep ∉ left)
    (rightClean : sep ∉ right) (boundary : rest.head? = some sep)
    (stops : more = [] ∨ more.head? = some sep) (starts : left ++ rest <+: right ++ more)
    : left = right ∧ rest <+: more := by
  have leftStarts : left <+: right :=
    prefix_word leftClean stops ((List.prefix_append left rest).trans starts)
  obtain ⟨tail, rfl⟩ := leftStarts
  rw [List.append_assoc, List.prefix_append_right_inj] at starts
  cases tail with
  | nil => exact ⟨by simp, starts⟩
  | cons c tail =>
      obtain ⟨after, joined⟩ := starts
      obtain ⟨behind, rfl⟩ : ∃ behind, rest = sep :: behind :=
        List.head?_eq_some_iff.mp boundary
      have same : sep = c := by simpa using congrArg List.head? joined
      exact absurd (by simp [same]) rightClean

omit [DecidableEq α] in
/-- A line of words starts another one when its words do, where only the last one may be
cut short.
-/
theorem spaced_prefix_iff {sep : α} {words others : List (List α)} {last : List α}
    (wordsClean : ∀ word ∈ words, sep ∉ word) (lastClean : sep ∉ last)
    (othersClean : ∀ word ∈ others, sep ∉ word)
    : spaced sep (words ++ [last]) <+: spaced sep others
      ↔ ∃ next tail, others = words ++ next :: tail ∧ last <+: next := by
  induction words generalizing others with
  | nil =>
      cases others with
      | nil => simp
      | cons other others =>
          constructor
          · intro starts
            simp only [List.nil_append, spaced_cons, spaced_nil, List.append_nil] at starts
            obtain ⟨-, inWord⟩ := List.cons_prefix_cons.mp starts
            exact ⟨other, others, rfl, prefix_word lastClean (head?_spaced sep others) inWord⟩
          · rintro ⟨next, tail, same, inNext⟩
            cases same
            simp only [List.nil_append, spaced_cons, spaced_nil, List.append_nil]
            exact List.cons_prefix_cons.mpr ⟨rfl, inNext.trans (List.prefix_append _ _)⟩
  | cons word words ih =>
      cases others with
      | nil => simp
      | cons other others =>
          have later := @ih others (fun w member => wordsClean w (by simp [member]))
            (fun w member => othersClean w (by simp [member]))
          have boundary : (spaced sep (words ++ [last])).head? = some sep := by
            cases words <;> simp
          constructor
          · intro starts
            simp only [List.cons_append, spaced_cons] at starts
            obtain ⟨-, inWord⟩ := List.cons_prefix_cons.mp starts
            obtain ⟨rfl, rest⟩ := word_eq_of_starts (wordsClean word (by simp))
              (othersClean other (by simp)) boundary (head?_spaced sep others) inWord
            obtain ⟨next, tail, rfl, inNext⟩ := later.mp rest
            exact ⟨next, tail, rfl, inNext⟩
          · rintro ⟨next, tail, same, inNext⟩
            simp only [List.cons_append, List.cons.injEq] at same
            obtain ⟨rfl, rfl⟩ := same
            simp only [List.cons_append, spaced_cons]
            refine List.cons_prefix_cons.mpr ⟨rfl, ?_⟩
            rw [List.prefix_append_right_inj]
            exact later.mpr ⟨next, tail, rfl, inNext⟩

end NdcOdfWeb.Foundation
