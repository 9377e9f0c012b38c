import NdcOdfWeb.Protocol.WordTokens

/-! Both ways in which a message is cut into tokens: `tokenize` keeps the white space other
than blanks that `StringTokenizer` trims.
-/

namespace NdcOdfWeb.Protocol

open NdcOdfWeb.Foundation

/-- What `TOK_TRIM` leaves of a token. -/
def trim (token : Text) : Text :=
  (token.dropWhile isSpace).rdropWhile isSpace

/-- Every line consists of words behind delimiters. -/
theorem exists_spaced (delimeter : Char) {line : Text} (noLine : '\n' ∉ line)
    : ∃ head words,
        line = head ++ spaced delimeter words
        ∧ LineWord delimeter head
        ∧ ∀ word ∈ words, LineWord delimeter word := by
  induction line with
  | nil => exact ⟨[], [], rfl, ⟨List.not_mem_nil, List.not_mem_nil⟩, by simp⟩
  | cons c line ih =>
      rw [List.mem_cons, not_or] at noLine
      obtain ⟨head, words, rfl, clean, wordsClean⟩ := ih noLine.2
      by_cases delimits : c = delimeter
      · subst delimits
        refine ⟨[], head :: words, by simp, ⟨List.not_mem_nil, List.not_mem_nil⟩, ?_⟩
        intro word member
        rcases List.mem_cons.mp member with rfl | later
        · exact clean
        · exact wordsClean word later
      · refine ⟨c :: head, words, rfl, ⟨?_, ?_⟩, wordsClean⟩
        · rw [List.mem_cons, not_or]
          exact ⟨Ne.symm delimits, clean.1⟩
        · rw [List.mem_cons, not_or]
          exact ⟨noLine.1, clean.2⟩

/-- Two lines with a blank between them have the tokens of both. -/
theorem tokenize_join {left : Text} (noLine : '\n' ∉ left) (right : Text)
    : tokenize ' ' (left ++ ' ' :: right) = tokenize ' ' left ++ tokenize ' ' right := by
  obtain ⟨head, words, rfl, clean, wordsClean⟩ := exists_spaced ' ' noLine
  rw [tokenize_append (by decide) clean wordsClean, tokenize_spaced (by decide) clean wordsClean]

/-- The parts of a line may have blanks themselves. -/
theorem tokenize_parts {head : Text} {parts : List Text} (headLine : '\n' ∉ head)
    (lines : ∀ part ∈ parts, '\n' ∉ part)
    : tokenize ' ' (head ++ spaced ' ' parts) = (head :: parts).flatMap (tokenize ' ') := by
  induction parts generalizing head with
  | nil => rw [spaced_nil, List.append_nil, List.flatMap_singleton]
  | cons part parts ih =>
      rw [List.forall_mem_cons] at lines
      rw [spaced_cons, tokenize_join headLine, ih lines.1 lines.2, ← List.flatMap_cons]

/-- A word is one token. -/
theorem tokenize_clean {word : Text} (clean : LineWord ' ' word) (nonempty : word ≠ [])
    : tokenize ' ' word = [word] := by
  have words := tokenize_spaced (by decide) clean (List.forall_mem_nil (LineWord ' '))
  rw [spaced_nil, List.append_nil] at words
  rw [words, List.filter_cons_of_pos (by simpa using nonempty), List.filter_nil]

/-- Tokens are words. -/
theorem tokenize_words {line : Text} (noLine : '\n' ∉ line)
    : ∀ token ∈ tokenize ' ' line, LineWord ' ' token ∧ token ≠ [] := by
  obtain ⟨head, words, rfl, clean, wordsClean⟩ := exists_spaced ' ' noLine
  rw [tokenize_spaced (by decide) clean wordsClean]
  intro token member
  obtain ⟨inside, nonempty⟩ := List.mem_filter.mp member
  refine ⟨?_, by simpa using nonempty⟩
  rcases List.mem_cons.mp inside with rfl | later
  · exact clean
  · exact wordsClean token later

/-- A line that starts with `start` has a first token that does so, too. -/
theorem tokenize_starts {start : Text} (clean : LineWord ' ' start) (nonempty : start ≠ [])
    {line : Text} (noLine : '\n' ∉ line)
    : ∃ word words,
        LineWord ' ' word
        ∧ line = word ++ spaced ' ' words
        ∧ tokenize ' ' (start ++ line) = (start ++ word) :: words.filter (· ≠ []) := by
  obtain ⟨word, words, rfl, wordClean, wordsClean⟩ := exists_spaced ' ' noLine
  refine ⟨word, words, wordClean, rfl, ?_⟩
  rw [← List.append_assoc, tokenize_spaced (by decide) (clean.append wordClean) wordsClean,
    List.filter_cons_of_pos (by simp [nonempty])]

/-- By induction on the words. -/
theorem splitOn_spaced {delimeter : Char} {head : Text} {words : List Text}
    (clean : delimeter ∉ head) (wordsClean : ∀ word ∈ words, delimeter ∉ word)
    : (head ++ spaced delimeter words).splitOn delimeter = head :: words := by
  induction words generalizing head with
  | nil => rw [spaced_nil, List.append_nil, List.splitOn_eq_singleton clean]
  | cons word words ih =>
      rw [spaced_cons, List.splitOn_append_cons_self_of_not_mem clean,
        ih (wordsClean word List.mem_cons_self)
          (fun other member => wordsClean other (List.mem_cons_of_mem word member))]

/-- Tokens that are not blank are trimmed, and none is dropped. -/
theorem stringTokenizer_spaced {delimeter : Char} {head : Text} {words : List Text}
    (clean : ∀ word ∈ head :: words, delimeter ∉ word ∧ trim word ≠ [])
    : stringTokenizer delimeter (head ++ spaced delimeter words)
      = (head :: words).map trim := by
  rw [stringTokenizer, splitOn_spaced (clean head List.mem_cons_self).1
    (fun word member => (clean word (List.mem_cons_of_mem head member)).1)]
  refine List.filter_eq_self.mpr (fun token member => ?_)
  obtain ⟨word, inside, rfl⟩ := List.mem_map.mp member
  exact decide_eq_true (clean word inside).2

/-- `StringTokenizer` trims the tokens of `tokenize`, and drops those that are blank. -/
theorem stringTokenizer_eq {delimeter : Char} (notLine : delimeter ≠ '\n') {line : Text}
    (noLine : '\n' ∉ line)
    : stringTokenizer delimeter line
      = ((tokenize delimeter line).map trim).filter (· ≠ []) := by
  obtain ⟨head, words, rfl, clean, wordsClean⟩ := exists_spaced delimeter noLine
  rw [stringTokenizer, splitOn_spaced clean.1 (fun word member => (wordsClean word member).1),
    tokenize_spaced notLine clean wordsClean]
  -- an empty word is also empty when it is trimmed
  generalize head :: words = tokens
  induction tokens with
  | nil => rfl
  | cons token tokens ih =>
      by_cases empty : token = []
      · subst empty
        simpa using ih
      · rw [List.filter_cons_of_pos (by simpa using empty), List.map_cons, List.map_cons,
          List.filter_cons, List.filter_cons, ih]
        rfl

/-- There is no blank to take away. -/
theorem trim_of_clean {token : Text} (clean : ∀ c ∈ token, isSpace c = false)
    : trim token = token := by
  have front : token.dropWhile isSpace = token := by
    refine List.dropWhile_eq_self_iff.mpr (fun inside => ?_)
    simp [clean _ (List.getElem_mem inside)]
  have back : token.rdropWhile isSpace = token := by
    refine List.rdropWhile_eq_self_iff.mpr (fun nonempty => ?_)
    simp [clean _ (List.getLast_mem nonempty)]
  rw [trim, front, back]

/-- A first token without white space is the first one either way. -/
theorem head?_stringTokenizer {line name : Text} {rest : List Text} (noLine : '\n' ∉ line)
    (tokens : tokenize ' ' line = name :: rest) (clean : ∀ c ∈ name, isSpace c = false)
    (nonempty : name ≠ [])
    : stringTokenizer ' ' line = name :: (rest.map trim).filter (· ≠ []) := by
  rw [stringTokenizer_eq (by decide) noLine, tokens, List.map_cons, trim_of_clean clean,
    List.filter_cons_of_pos (by simpa using nonempty)]

/-- The line ends at the first line feed. -/
theorem not_mem_getFirstLine (message : Text) : '\n' ∉ getFirstLine message := by
  intro member
  have notLine := List.mem_takeWhile_imp member
  simp at notLine

/-- The first line has one line. -/
theorem getFirstLine_idem (message : Text)
    : getFirstLine (getFirstLine message) = getFirstLine message := by
  refine List.takeWhile_eq_self_iff.mpr ?_
  intro c member
  have notLine : c ≠ '\n' := fun same => not_mem_getFirstLine message (same ▸ member)
  exact bne_iff_ne.mpr notLine

end NdcOdfWeb.Protocol
