import NdcOdfWeb.Protocol.Tokens

/-! The token functions on messages that are written as words behind blanks. -/

namespace NdcOdfWeb.Protocol

open NdcOdfWeb.Foundation

/-- A word of a message line: no delimiter and no newline. -/
def LineWord (delimeter : Char) (word : Text) : Prop :=
  delimeter ∉ word ∧ '\n' ∉ word

instance (delimeter : Char) (word : Text) : Decidable (LineWord delimeter word) :=
  inferInstanceAs (Decidable (_ ∧ _))

/-- Neither text has the delimiter or a line's end. -/
theorem LineWord.append {delimeter : Char} {left right : Text}
    (hl : LineWord delimeter left) (hr : LineWord delimeter right)
    : LineWord delimeter (left ++ right) := by
  simp only [LineWord, List.mem_append, not_or]
  exact ⟨⟨hl.1, hr.1⟩, hl.2, hr.2⟩

/-- The line ends at the first line feed. -/
theorem getFirstLine_append {line : Text} (clean : '\n' ∉ line) (rest : Text)
    : getFirstLine (line ++ '\n' :: rest) = line := by
  rw [getFirstLine, List.takeWhile_append_of_pos]
  · simp
  · intro c member
    simp only [bne_iff_ne, ne_eq]
    intro same
    exact clean (same ▸ member)

/-- A word that is under way grows by the characters of a delimiter-free text. -/
theorem tokenizeFrom_word {delimeter : Char} {start word : Text}
    (clean : delimeter ∉ start) (wordClean : LineWord delimeter word) (rest : Text)
    : tokenizeFrom delimeter start (word ++ rest)
      = tokenizeFrom delimeter (start ++ word) rest := by
  induction word generalizing start with
  | nil => simp
  | cons c word ih =>
      obtain ⟨absent, line⟩ := wordClean
      simp only [List.mem_cons, not_or] at absent line
      have head : start.head? ≠ some delimeter := by
        intro same
        exact clean (List.mem_of_mem_head? same)
      have next : delimeter ∉ start ++ [c] := by simp [clean, absent.1]
      rw [List.cons_append, tokenizeFrom, if_neg (Ne.symm line.1), if_neg (Ne.symm absent.1),
        if_neg head, ih next ⟨absent.2, line.2⟩, List.append_assoc, List.singleton_append]

/-- A start without the delimiter is one token, unless it is empty. -/
theorem delimitedToken_clean {delimeter : Char} {start : Text} (clean : delimeter ∉ start)
    : delimitedToken delimeter start = [start].filter (· ≠ []) := by
  have head : start.head? ≠ some delimeter := fun same => clean (List.mem_of_mem_head? same)
  by_cases empty : start = [] <;> simp [delimitedToken, head, empty]

/-- The last word is one token, unless it is empty. -/
theorem lastToken_clean {delimeter : Char} {start : Text}
    (clean : LineWord delimeter start)
    : lastToken delimeter start = [start].filter (· ≠ []) := by
  have head : start.head? ≠ some delimeter :=
    fun same => clean.1 (List.mem_of_mem_head? same)
  have line : start.head? ≠ some '\n' := fun same => clean.2 (List.mem_of_mem_head? same)
  by_cases empty : start = [] <;> simp [lastToken, head, line, empty]

/-- Behind a delimiter the loop starts anew. -/
theorem tokenizeFrom_delimeter {delimeter : Char} (notLine : delimeter ≠ '\n') (rest : Text)
    : tokenizeFrom delimeter [delimeter] rest = tokenize delimeter rest := by
  cases rest with
  | nil => simp [tokenize, tokenizeFrom, lastToken]
  | cons c rest => simp [tokenize, tokenizeFrom, lastToken, delimitedToken, notLine]

/-- The delimiter ends the word before it. -/
theorem tokenizeFrom_cons_delimeter {delimeter : Char} {start : Text}
    (notLine : delimeter ≠ '\n') (clean : LineWord delimeter start) (rest : Text)
    : tokenizeFrom delimeter start (delimeter :: rest)
      = [start].filter (· ≠ []) ++ tokenize delimeter rest := by
  rw [tokenizeFrom, if_neg notLine, if_pos rfl, delimitedToken_clean clean.1,
    tokenizeFrom_delimeter notLine]

/-- The word is kept up to the next delimiter. -/
theorem tokenize_word {delimeter : Char} {word : Text} (clean : LineWord delimeter word)
    (rest : Text)
    : tokenize delimeter (word ++ rest) = tokenizeFrom delimeter word rest :=
  tokenizeFrom_word (List.not_mem_nil) clean rest

/-- The words at the start of a message are its first tokens, whatever follows them. -/
theorem tokenize_append {delimeter : Char} (notLine : delimeter ≠ '\n') {head : Text}
    {words : List Text} (clean : LineWord delimeter head)
    (wordsClean : ∀ word ∈ words, LineWord delimeter word) (rest : Text)
    : tokenize delimeter (head ++ spaced delimeter words ++ delimeter :: rest)
      = (head :: words).filter (· ≠ []) ++ tokenize delimeter rest := by
  induction words generalizing head with
  | nil =>
      rw [spaced_nil, List.append_nil, tokenize_word clean,
        tokenizeFrom_cons_delimeter notLine clean]
  | cons word words ih =>
      have later := ih (wordsClean word (by simp)) (fun w member => wordsClean w (by simp [member]))
      rw [spaced_cons, List.append_assoc, tokenize_word clean, List.cons_append,
        tokenizeFrom_cons_delimeter notLine clean, later, ← List.append_assoc,
        ← List.filter_append, List.singleton_append]

/-- `tokenize` returns the nonempty words of a message, in order. -/
theorem tokenize_spaced {delimeter : Char} (notLine : delimeter ≠ '\n') {head : Text}
    {words : List Text} (clean : LineWord delimeter head)
    (wordsClean : ∀ word ∈ words, LineWord delimeter word)
    : tokenize delimeter (head ++ spaced delimeter words)
      = (head :: words).filter (· ≠ []) := by
  induction words generalizing head with
  | nil =>
      rw [spaced_nil, tokenize_word clean, tokenizeFrom, lastToken_clean clean]
  | cons word words ih =>
      have later := ih (wordsClean word (by simp)) (fun w member => wordsClean w (by simp [member]))
      rw [spaced_cons, tokenize_word clean, tokenizeFrom_cons_delimeter notLine clean, later,
        ← List.filter_append, List.singleton_append]

/-- The first word is the first token, whatever follows it. -/
theorem tokenize_head {delimeter : Char} {head rest : Text} (notLine : delimeter ≠ '\n')
    (clean : LineWord delimeter head) (nonempty : head ≠ [])
    (boundary : rest = [] ∨ rest.head? = some delimeter)
    : ∃ tokens, tokenize delimeter (head ++ rest) = head :: tokens := by
  rcases boundary with rfl | starts
  · refine ⟨[], ?_⟩
    rw [tokenize_word clean, tokenizeFrom, lastToken_clean clean]
    simp [nonempty]
  · obtain ⟨behind, rfl⟩ := List.head?_eq_some_iff.mp starts
    refine ⟨tokenize delimeter behind, ?_⟩
    rw [tokenize_word clean, tokenizeFrom_cons_delimeter notLine clean]
    simp [nonempty]

/-- The token is what stands in front of the delimiter. -/
theorem getFirstToken_prefix (delim : Char) (message : Text)
    : getFirstToken delim message <+: message :=
  List.takeWhile_prefix _

/-- The first token ends at the first delimiter. -/
theorem getFirstToken_spaced {delim : Char} {head : Text} (clean : delim ∉ head)
    (words : List Text)
    : getFirstToken delim (head ++ spaced delim words) = head := by
  have inside : ∀ c ∈ head, (c != delim) = true := by
    intro c member
    simp only [bne_iff_ne, ne_eq]
    rintro rfl
    exact clean member
  rw [getFirstToken, List.takeWhile_append_of_pos inside]
  cases words <;> simp

/-- What `getFirstToken` finds is the first of the tokens. -/
theorem tokenize_of_getFirstToken {delimeter : Char} {head message : Text}
    (notLine : delimeter ≠ '\n') (clean : LineWord delimeter head) (nonempty : head ≠ [])
    (first : getFirstToken delimeter message = head)
    : ∃ tokens, tokenize delimeter message = head :: tokens := by
  have parts : head ++ message.dropWhile (· != delimeter) = message := by
    rw [← first]
    exact List.takeWhile_append_dropWhile
  have boundary : message.dropWhile (· != delimeter) = []
      ∨ (message.dropWhile (· != delimeter)).head? = some delimeter := by
    cases behind : message.dropWhile (· != delimeter) with
    | nil => exact .inl rfl
    | cons c rest =>
        have stopped := List.head_dropWhile_not (· != delimeter)
          (by rw [behind]; exact List.cons_ne_nil c rest)
        simp only [behind, List.head_cons, bne_eq_false_iff_eq] at stopped
        exact .inr (congrArg some stopped)
  rw [← parts]
  exact tokenize_head notLine clean nonempty boundary

/-- A token `name=value` has exactly the name it is written with. -/
theorem hasName_iff {name key value : Text} (nameClean : '=' ∉ name) (keyClean : '=' ∉ key)
    : hasName (name ++ '=' :: value) key = true ↔ key = name := by
  simp only [hasName, Bool.and_eq_true, List.isPrefixOf_iff_prefix, beq_iff_eq]
  constructor
  · rintro ⟨starts, equals⟩
    have short : key <+: name := by
      refine prefix_word keyClean ?_ starts
      exact Or.inr rfl
    obtain ⟨tail, rfl⟩ := short
    cases tail with
    | nil => simp
    | cons c tail =>
        have same : c = '=' := by simpa using equals
        exact absurd (by simp [same]) nameClean
  · rintro rfl
    simp

/-- The name ends at the first equals sign. -/
theorem parseNameValuePair_field {name : Text} (clean : '=' ∉ name) (value : Text)
    : parseNameValuePair (name ++ '=' :: value) = some (name, value) := by
  have inside : ∀ c ∈ name, (c != '=') = true := by
    intro c member
    simp only [bne_iff_ne, ne_eq]
    rintro rfl
    exact clean member
  rw [parseNameValuePair, List.dropWhile_append_of_pos inside,
    List.takeWhile_append_of_pos inside]
  simp

/-- Without an equals sign, there is no pair. -/
theorem parseNameValuePair_none {token : Text} (clean : '=' ∉ token)
    : parseNameValuePair token = none := by
  have inside : ∀ c ∈ token, (c != '=') = true := by
    intro c member
    simp only [bne_iff_ne, ne_eq]
    rintro rfl
    exact clean member
  rw [parseNameValuePair, List.dropWhile_eq_nil_iff.mpr inside]

/-- Without an equals sign, no name stands in front of one. -/
theorem hasName_none {token : Text} (clean : '=' ∉ token) (name : Text)
    : hasName token name = false := by
  have absent : token[name.length]? ≠ some '=' := by
    intro found
    exact clean (List.mem_of_getElem? found)
  simp [hasName, absent]

-----------------------------------------------------------------------------------------
-- Searching a name in a message
-----------------------------------------------------------------------------------------

/-- Inside a word, behind at least one of its characters, no occurrence counts as a name:
it has no blank in front of it.
-/
theorem tokenStringFrom_inside {name word rest : Text} {previous : Char} {skip : Nat}
    (positive : 0 < name.length) (clean : ' ' ∉ name) (inner : previous ≠ ' ')
    (wordClean : ' ' ∉ word) (bound : skip ≤ word.length)
    (boundary : rest = [] ∨ rest.head? = some ' ')
    : ∃ last, tokenStringFrom name (some previous) skip (word ++ rest)
        = tokenStringFrom name (some last) 0 rest := by
  induction word generalizing previous skip with
  | nil =>
      have none : skip = 0 := by simpa using bound
      exact ⟨previous, by simp [none]⟩
  | cons c word ih =>
      simp only [List.mem_cons, not_or] at wordClean
      have other : c ≠ ' ' := Ne.symm wordClean.1
      cases skip with
      | succ skip =>
          obtain ⟨last, found⟩ := ih other wordClean.2 (by simpa using bound)
          exact ⟨last, by simpa [tokenStringFrom] using found⟩
      | zero =>
          by_cases starts : name <+: c :: (word ++ rest)
          · have inWord : name <+: c :: word := by
              refine prefix_word clean boundary ?_
              simpa using starts
            have short : name.length - 1 ≤ word.length := by
              have := inWord.length_le
              simp only [List.length_cons] at this
              omega
            obtain ⟨last, found⟩ := ih other wordClean.2 short
            refine ⟨last, ?_⟩
            rw [List.cons_append, tokenStringFrom,
              if_pos (List.isPrefixOf_iff_prefix.mpr starts), if_neg (by simp [inner])]
            exact found
          · obtain ⟨last, found⟩ := ih other wordClean.2 (Nat.zero_le _)
            refine ⟨last, ?_⟩
            rw [List.cons_append, tokenStringFrom, if_neg (by simpa using starts)]
            exact found

/-- At the start of a word either the word has the name, and the search succeeds with its
value, or the search goes on behind the word.
-/
theorem tokenStringFrom_word {name word rest : Text} (previous : Option Char)
    (positive : 0 < name.length) (clean : ' ' ∉ name)
    (start : previous = none ∨ previous = some ' ') (wordClean : ' ' ∉ word)
    (boundary : rest = [] ∨ rest.head? = some ' ')
    : if hasName word name = true then
        ∃ value, tokenStringFrom name previous 0 (word ++ rest) = some value
      else ∃ last, tokenStringFrom name previous 0 (word ++ rest)
        = tokenStringFrom name last 0 rest := by
  cases word with
  | nil =>
      have other : hasName [] name = false := by simp [hasName]
      rw [if_neg (by simp [other])]
      exact ⟨previous, by simp⟩
  | cons c word =>
      have notBlank : c ≠ ' ' := by
        rintro rfl
        exact wordClean (by simp)
      have tailClean : ' ' ∉ word := fun member => wordClean (List.mem_cons_of_mem c member)
      by_cases starts : name <+: c :: (word ++ rest)
      · have inWord : name <+: c :: word := by
          refine prefix_word clean boundary ?_
          simpa using starts
        have prefixed := List.isPrefixOf_iff_prefix.mpr starts
        have wordPrefixed := List.isPrefixOf_iff_prefix.mpr inWord
        have lookup : (c :: (word ++ rest))[name.length]? = some '='
            ↔ (c :: word)[name.length]? = some '=' := by
          have bound := inWord.length_le
          rw [← List.cons_append]
          rcases Nat.lt_or_ge name.length (c :: word).length with inside | outside
          · rw [List.getElem?_append_left inside]
          · have same : name.length = (c :: word).length := by omega
            rw [List.getElem?_append_right outside, same, Nat.sub_self,
              List.getElem?_eq_none (Nat.le_refl _)]
            rcases boundary with rfl | blank
            · simp
            · rw [← List.head?_eq_getElem?, blank]
              simp
        by_cases equals : (c :: word)[name.length]? = some '='
        · rw [if_pos (by simp [hasName, wordPrefixed, equals])]
          rw [List.cons_append, tokenStringFrom, if_pos prefixed,
            if_pos ⟨start, lookup.mpr equals⟩]
          exact ⟨_, rfl⟩
        · rw [if_neg (by simp [hasName, equals])]
          have short : name.length - 1 ≤ word.length := by
            have := inWord.length_le
            simp only [List.length_cons] at this
            omega
          obtain ⟨last, found⟩ :=
            tokenStringFrom_inside positive clean notBlank tailClean short boundary
          refine ⟨some last, ?_⟩
          rw [List.cons_append, tokenStringFrom, if_pos prefixed,
            if_neg (fun both => equals (lookup.mp both.2))]
          exact found
      · have other : ¬ name <+: c :: word := by
          intro inWord
          exact starts (by simpa using inWord.trans (List.prefix_append (c :: word) rest))
        rw [if_neg (by simp [hasName, other])]
        obtain ⟨last, found⟩ :=
          tokenStringFrom_inside positive clean notBlank tailClean (Nat.zero_le _) boundary
        refine ⟨some last, ?_⟩
        rw [List.cons_append, tokenStringFrom, if_neg (by simpa using starts)]
        exact found

end NdcOdfWeb.Protocol
