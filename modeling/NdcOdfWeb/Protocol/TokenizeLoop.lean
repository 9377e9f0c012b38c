import NdcOdfWeb.Protocol.TrimmedTokens

/-! The loop of `tokenize` over a buffer, with its pointers, and the tokens that it finds. -/

namespace NdcOdfWeb.Protocol

open NdcOdfWeb.Foundation

/-- The characters between two pointers, if they are inside of the buffer. -/
def between (data : Text) (start end_ : Nat) : Option Text :=
  if start ≤ end_ ∧ end_ ≤ data.length then some ((data.take end_).drop start) else none

/-- The token that ends at a delimiter. -/
def foundToken (data : Text) (delimeter : Char) (start end_ : Nat) : Option (List Text) :=
  if start = end_ then some []
  else
    data[start]?.bind fun first =>
      if first = delimeter then some [] else (between data start end_).map ([·])

/-- The token at the end of the loop. -/
def foundLast (data : Text) (delimeter : Char) (start end_ : Nat) : Option (List Text) :=
  if start = end_ then some []
  else
    data[start]?.bind fun first =>
      if first = delimeter ∨ first = '\n' then some [] else (between data start end_).map ([·])

/-- The loop, with the number of characters that are left, and the pointers `start` and `end`
(which is at `data + i`). There is no result if a character outside of the buffer is read.
-/
def tokenizeLoop (data : Text) (delimeter : Char) : Nat → Nat → Nat → Option (List Text)
  | 0, start, end_ => foundLast data delimeter start end_
  | left + 1, start, end_ =>
      data[end_]?.bind fun c =>
        if c = '\n' then foundLast data delimeter start end_
        else if c = delimeter then do
          let token ← foundToken data delimeter start end_
          let tokens ← tokenizeLoop data delimeter left end_ (end_ + 1)
          return token ++ tokens
        else
          data[start]?.bind fun first =>
            tokenizeLoop data delimeter left (if first = delimeter then start + 1 else start)
              (end_ + 1)

/-- `tokenize` of a buffer. -/
def tokenizeBuffer (delimeter : Char) (data : Text) : Option (List Text) :=
  if data.length = 0 then some [] else tokenizeLoop data delimeter data.length 0 0

-----------------------------------------------------------------------------------------
-- The loop and the tokens
-----------------------------------------------------------------------------------------

variable {data : Text} {delimeter : Char} {start end_ : Nat}

/-- The pointers are ordered and inside the text. -/
theorem between_eq (order : start ≤ end_) (inside : end_ ≤ data.length)
    : between data start end_ = some ((data.take end_).drop start) :=
  if_pos ⟨order, inside⟩

/-- The first character between two pointers is the one that `start` points to. -/
theorem head?_between (order : start < end_)
    : ((data.take end_).drop start).head? = data[start]? := by
  rw [List.head?_drop, List.getElem?_take_of_lt order]

/-- An empty range has equal pointers. -/
theorem between_eq_nil_iff (order : start ≤ end_) (inside : end_ ≤ data.length)
    : (data.take end_).drop start = [] ↔ start = end_ := by
  rw [List.drop_eq_nil_iff, List.length_take, Nat.min_eq_left inside]
  omega

/-- The loop's token is the one between the pointers. -/
theorem foundToken_eq (order : start ≤ end_) (inside : end_ ≤ data.length)
    : foundToken data delimeter start end_
      = some (delimitedToken delimeter ((data.take end_).drop start)) := by
  rw [foundToken, delimitedToken]
  by_cases same : start = end_
  · rw [if_pos same, if_neg]
    rw [(between_eq_nil_iff order inside).mpr same]
    exact fun token => token.1 rfl
  · have before : start < end_ := Nat.lt_of_le_of_ne order same
    have bound : start < data.length := Nat.lt_of_lt_of_le before inside
    have first : data[start]? = some data[start] := List.getElem?_eq_getElem bound
    rw [if_neg same, head?_between before, first, Option.bind_some, between_eq order inside]
    split
    · next delimits => rw [if_neg (fun token => token.2 (congrArg some delimits))]
    · next other =>
        rw [if_pos ⟨fun empty => same ((between_eq_nil_iff order inside).mp empty),
          fun delimits => other (Option.some.inj delimits)⟩]
        rfl

/-- The last token ends with the line. -/
theorem foundLast_eq (order : start ≤ end_) (inside : end_ ≤ data.length)
    : foundLast data delimeter start end_
      = some (lastToken delimeter ((data.take end_).drop start)) := by
  rw [foundLast, lastToken]
  by_cases same : start = end_
  · rw [if_pos same, if_neg]
    rw [(between_eq_nil_iff order inside).mpr same]
    exact fun token => token.1 rfl
  · have before : start < end_ := Nat.lt_of_le_of_ne order same
    have bound : start < data.length := Nat.lt_of_lt_of_le before inside
    have first : data[start]? = some data[start] := List.getElem?_eq_getElem bound
    rw [if_neg same, head?_between before, first, Option.bind_some, between_eq order inside]
    split
    · next ends =>
        rw [if_neg]
        rintro ⟨_, notDelimeter, notLine⟩
        rcases ends with delimits | line
        · exact notDelimeter (congrArg some delimits)
        · exact notLine (congrArg some line)
    · next other =>
        rw [not_or] at other
        rw [if_pos ⟨fun empty => same ((between_eq_nil_iff order inside).mp empty),
          fun delimits => other.1 (Option.some.inj delimits),
          fun line => other.2 (Option.some.inj line)⟩]
        rfl

/-- The next character goes behind the token. -/
theorem between_next {c : Char} (order : start ≤ end_) (next : data[end_]? = some c)
    : (data.take (end_ + 1)).drop start = (data.take end_).drop start ++ [c] := by
  obtain ⟨inside, _⟩ := List.getElem?_eq_some_iff.mp next
  rw [List.take_add_one, next, List.drop_append_of_le_length]
  · rfl
  · rw [List.length_take]
    omega

/-- The pointers hold the token that the loop over the characters collects. -/
theorem tokenizeLoop_eq (left : Nat) (rest : end_ + left = data.length) (order : start ≤ end_)
    : tokenizeLoop data delimeter left start end_
      = some (tokenizeFrom delimeter ((data.take end_).drop start) (data.drop end_)) := by
  induction left generalizing start end_ with
  | zero =>
      have atEnd : data.drop end_ = [] := List.drop_eq_nil_of_le (by omega)
      rw [tokenizeLoop, atEnd, tokenizeFrom]
      exact foundLast_eq order (by omega)
  | succ left ih =>
      have inside : end_ < data.length := by omega
      have next : data[end_]? = some data[end_] := List.getElem?_eq_getElem inside
      rw [tokenizeLoop, next, Option.bind_some, List.drop_eq_getElem_cons inside, tokenizeFrom]
      by_cases line : data[end_] = '\n'
      · rw [if_pos line, if_pos line]
        exact foundLast_eq order (by omega)
      · rw [if_neg line, if_neg line]
        by_cases delimits : data[end_] = delimeter
        · have single : (data.take (end_ + 1)).drop end_ = [data[end_]] := by
            rw [between_next (Nat.le_refl end_) next,
              (between_eq_nil_iff (Nat.le_refl end_) (by omega)).mpr rfl]
            rfl
          rw [if_pos delimits, if_pos delimits, foundToken_eq order (by omega),
            ih (by omega) (Nat.le_succ end_), single]
          rfl
        · have bound : start < data.length := by omega
          have first : data[start]? = some data[start] := List.getElem?_eq_getElem bound
          rw [if_neg delimits, if_neg delimits, first, Option.bind_some]
          rcases Nat.lt_or_eq_of_le order with before | rfl
          · rw [head?_between before, first]
            by_cases skips : data[start] = delimeter
            · rw [if_pos skips, if_pos (congrArg some skips), ih (by omega) (by omega),
                between_next before next, List.tail_drop]
            · rw [if_neg skips, if_neg (fun same => skips (Option.some.inj same)),
                ih (by omega) (by omega), between_next order next]
          · have empty : (data.take start).drop start = [] :=
              (between_eq_nil_iff (Nat.le_refl start) (by omega)).mpr rfl
            rw [if_neg delimits, ih (by omega) (by omega), between_next order next, empty,
              if_neg (by simp)]

/-- The loop reads only inside of the buffer, and finds the tokens. -/
theorem tokenizeBuffer_eq (delimeter : Char) (data : Text)
    : tokenizeBuffer delimeter data = some (tokenize delimeter data) := by
  rw [tokenizeBuffer]
  split
  · next empty =>
      rw [List.length_eq_zero_iff.mp empty]
      rfl
  · rw [tokenizeLoop_eq data.length (Nat.zero_add _) (Nat.le_refl 0)]
    rfl

/-- The parts of the first line between the delimiters, without the empty ones. -/
def firstLineSegments (delimeter : Char) (data : Text) : List Text :=
  ((data.takeWhile (· ≠ '\n')).splitOn delimeter).filter (· ≠ [])

/-- What follows behind the first line does not matter. -/
theorem tokenizeFrom_firstLine (start data : Text)
    : tokenizeFrom delimeter start (data.takeWhile (· ≠ '\n'))
      = tokenizeFrom delimeter start data := by
  induction data generalizing start with
  | nil => rfl
  | cons c rest ih =>
      by_cases line : c = '\n'
      · rw [List.takeWhile_cons_of_neg (by simpa using line), tokenizeFrom, tokenizeFrom,
          if_pos line]
      · rw [List.takeWhile_cons_of_pos (by simpa using line), tokenizeFrom, tokenizeFrom,
          if_neg line, if_neg line]
        split
        · rw [ih]
        · rw [ih]

/-- The tokens of a line are its segments, less the empty ones. -/
theorem tokenize_line {line : Text} (noLine : '\n' ∉ line)
    : tokenize delimeter line = (line.splitOn delimeter).filter (· ≠ []) := by
  obtain ⟨head, words, rfl, clean, wordsClean⟩ := exists_spaced delimeter noLine
  rw [splitOn_spaced clean.1 (fun word member => (wordsClean word member).1)]
  by_cases newline : delimeter = '\n'
  · -- a line has no newlines that could delimit words
    have single : words = [] := by
      cases words with
      | nil => rfl
      | cons word words =>
          refine absurd ?_ noLine
          rw [spaced_cons, newline]
          exact List.mem_append_right head List.mem_cons_self
    rw [single, spaced_nil, tokenize_word clean, tokenizeFrom, lastToken_clean clean]
  · exact tokenize_spaced newline clean wordsClean

/-- Only the first line is read. -/
theorem tokenize_eq_segments (delimeter : Char) (data : Text)
    : tokenize delimeter data = firstLineSegments delimeter data := by
  have noLine : '\n' ∉ data.takeWhile (· ≠ '\n') := by
    intro member
    have other := List.mem_takeWhile_imp member
    simp at other
  rw [firstLineSegments, ← tokenize_line noLine, tokenize, tokenize, tokenizeFrom_firstLine]

/-- `tokenize` reads only inside of the buffer, and returns the segments of the first line. -/
theorem tokenizeBuffer_segments (delimeter : Char) (data : Text)
    : tokenizeBuffer delimeter data = some (firstLineSegments delimeter data) := by
  rw [tokenizeBuffer_eq, tokenize_eq_segments]

example : firstLineSegments ' ' " a  bc \nd".toList = ["a".toList, "bc".toList] := by
  decide +kernel

end NdcOdfWeb.Protocol
