import NdcOdfWeb.Protocol.TrimmedTokens

/-! Looking a value up in a message, and in the tokens of the message. -/

namespace NdcOdfWeb.Protocol

open NdcOdfWeb.Foundation

variable {name : Text}

/-- The value follows the name and the equals sign. -/
theorem getTokenString_eq (word : Text)
    : getTokenString word name
      = if hasName word name = true then some (word.drop (name.length + 1)) else none := by
  rw [getTokenString]
  by_cases named : hasName word name = true
  · have long : word.length ≥ name.length + 1 := by
      have found := named
      simp only [hasName, Bool.and_eq_true, beq_iff_eq] at found
      obtain ⟨inside, _⟩ := List.getElem?_eq_some_iff.mp found.2
      exact inside
    rw [if_pos ⟨long, named⟩, if_pos named]
  · rw [if_neg (fun both => named both.2), if_neg named]

/-- At the start of a word that has the name, the search succeeds with the value of the word. -/
theorem tokenStringFrom_named {word rest : Text} {previous : Option Char}
    (start : previous = none ∨ previous = some ' ') (wordClean : LineWord ' ' word)
    (boundary : rest = [] ∨ rest.head? = some ' ') (named : hasName word name = true)
    : tokenStringFrom name previous 0 (word ++ rest) = some (word.drop (name.length + 1)) := by
  simp only [hasName, Bool.and_eq_true, beq_iff_eq, List.isPrefixOf_iff_prefix] at named
  obtain ⟨starts, equals⟩ := named
  obtain ⟨inside, _⟩ := List.getElem?_eq_some_iff.mp equals
  have valueClean : ∀ c ∈ word.drop (name.length + 1), (c != ' ' && c != '\n') = true := by
    intro c member
    have inWord := List.mem_of_mem_drop member
    have notBlank : c ≠ ' ' := fun same => wordClean.1 (same ▸ inWord)
    have notLine : c ≠ '\n' := fun same => wordClean.2 (same ▸ inWord)
    simp [notBlank, notLine]
  have ends : rest.takeWhile (fun c => c != ' ' && c != '\n') = [] := by
    rcases boundary with rfl | blank
    · rfl
    · cases rest with
      | nil => rfl
      | cons c rest =>
          rw [Option.some.inj blank]
          rfl
  cases word with
  | nil => exact absurd inside (Nat.not_lt_zero _)
  | cons c word =>
      have prefixed : name.isPrefixOf (c :: (word ++ rest)) = true :=
        List.isPrefixOf_iff_prefix.mpr (starts.trans (List.prefix_append (c :: word) rest))
      have found : (c :: (word ++ rest))[name.length]? = some '=' := by
        rw [← List.cons_append, List.getElem?_append_left inside]
        exact equals
      rw [List.cons_append, tokenStringFrom, if_pos prefixed, if_pos ⟨start, found⟩,
        ← List.cons_append, List.drop_append_of_le_length inside,
        List.takeWhile_append_of_pos valueClean, ends, List.append_nil]

/-- By induction on the words: a name is found at a word's start only. -/
theorem tokenStringFrom_words (positive : 0 < name.length) (clean : ' ' ∉ name)
    {words : List Text} (wordsClean : ∀ word ∈ words, LineWord ' ' word)
    (previous : Option Char)
    : tokenStringFrom name previous 0 (spaced ' ' words)
      = words.findSome? (getTokenString · name) := by
  induction words generalizing previous with
  | nil => rfl
  | cons word words ih =>
      rw [List.forall_mem_cons] at wordsClean
      have blank : ¬ name <+: ' ' :: (word ++ spaced ' ' words) := by
        intro starts
        cases name with
        | nil => exact absurd positive (Nat.lt_irrefl 0)
        | cons c name =>
            obtain ⟨same, _⟩ := List.cons_prefix_cons.mp starts
            exact clean (same ▸ List.mem_cons_self)
      have step := tokenStringFrom_word (some ' ') positive clean (.inr rfl) wordsClean.1.1
        (head?_spaced ' ' words)
      rw [spaced_cons, tokenStringFrom, if_neg (by simpa using blank), List.findSome?_cons,
        getTokenString_eq]
      by_cases named : hasName word name = true
      · rw [if_pos named, tokenStringFrom_named (.inr rfl) wordsClean.1 (head?_spaced ' ' words)
          named]
      · rw [if_neg named] at step ⊢
        obtain ⟨last, goesOn⟩ := step
        rw [goesOn, ih wordsClean.2 last]

/-- The first word, then the others. -/
theorem tokenStringFrom_line (positive : 0 < name.length) (clean : ' ' ∉ name) {head : Text}
    {words : List Text} (headClean : LineWord ' ' head)
    (wordsClean : ∀ word ∈ words, LineWord ' ' word)
    : tokenStringFrom name none 0 (head ++ spaced ' ' words)
      = (head :: words).findSome? (getTokenString · name) := by
  have step := tokenStringFrom_word none positive clean (.inl rfl) headClean.1
    (head?_spaced ' ' words)
  rw [List.findSome?_cons, getTokenString_eq]
  by_cases named : hasName head name = true
  · rw [if_pos named, tokenStringFrom_named (.inl rfl) headClean (head?_spaced ' ' words) named]
  · rw [if_neg named] at step ⊢
    obtain ⟨last, goesOn⟩ := step
    rw [goesOn, tokenStringFrom_words positive clean wordsClean last]

/-- Empty words have no value. -/
theorem findSome?_words (words : List Text)
    : (words.filter (· ≠ [])).findSome? (getTokenString · name)
      = words.findSome? (getTokenString · name) := by
  induction words with
  | nil => rfl
  | cons word words ih =>
      by_cases empty : word = []
      · have nothing : getTokenString [] name = none := by
          rw [getTokenString, if_neg (fun both => absurd both.1 (Nat.not_succ_le_zero _))]
        rw [List.filter_cons_of_neg (by simpa using empty), ih, List.findSome?_cons, empty, nothing]
      · rw [List.filter_cons_of_pos (by simpa using empty), List.findSome?_cons,
          List.findSome?_cons, ih]

/-- The search finds what the first token with the name holds. -/
theorem tokenStringFrom_eq_tokens (nonempty : name ≠ []) (clean : ' ' ∉ name) {message : Text}
    (noLine : '\n' ∉ message)
    : tokenStringFrom name none 0 message
      = getTokenStringFromTokens (tokenize ' ' message) name := by
  obtain ⟨head, words, rfl, headClean, wordsClean⟩ := exists_spaced ' ' noLine
  rw [tokenStringFrom_line (List.length_pos_iff.mpr nonempty) clean headClean wordsClean,
    tokenize_spaced (by decide) headClean wordsClean, getTokenStringFromTokens, findSome?_words]

-----------------------------------------------------------------------------------------
-- The shortest message
-----------------------------------------------------------------------------------------

/-- By induction on the words. -/
theorem infix_spaced {word : Text} {words : List Text} (member : word ∈ words)
    : word <:+: spaced ' ' words := by
  induction words with
  | nil => exact absurd member List.not_mem_nil
  | cons first words ih =>
      rw [spaced_cons]
      rcases List.mem_cons.mp member with rfl | later
      · exact List.infix_cons (List.prefix_append word (spaced ' ' words)).isInfix
      · exact List.infix_cons ((ih later).trans (List.suffix_append first _).isInfix)

/-- A token is a part of its message. -/
theorem infix_of_mem_tokenize {message token : Text} (noLine : '\n' ∉ message)
    (member : token ∈ tokenize ' ' message)
    : token <:+: message := by
  obtain ⟨head, words, rfl, headClean, wordsClean⟩ := exists_spaced ' ' noLine
  rw [tokenize_spaced (by decide) headClean wordsClean] at member
  rcases List.mem_cons.mp (List.mem_of_mem_filter member) with rfl | later
  · exact (List.prefix_append token (spaced ' ' words)).isInfix
  · exact (infix_spaced later).trans (List.suffix_append head _).isInfix

/-- A message that is no longer than the name and its `=` has no value behind other text. -/
theorem eq_of_short {message value : Text} (noLine : '\n' ∉ message)
    (short : ¬ message.length > name.length + 1)
    (found : getTokenStringFromTokens (tokenize ' ' message) name = some value)
    : message = name ++ ['='] := by
  obtain ⟨token, member, has⟩ := List.exists_of_findSome?_eq_some found
  rw [getTokenString] at has
  split at has
  · next both =>
      have whole : token = message :=
        (infix_of_mem_tokenize noLine member).eq_of_length_le (by omega)
      subst whole
      obtain ⟨long, named⟩ := both
      simp only [hasName, Bool.and_eq_true, beq_iff_eq, List.isPrefixOf_iff_prefix] at named
      obtain ⟨⟨behind, rfl⟩, equals⟩ := named
      rw [List.length_append] at short long
      rw [List.getElem?_append_right (Nat.le_refl _), Nat.sub_self] at equals
      cases behind with
      | nil => cases equals
      | cons c rest =>
          rw [Option.some.inj equals]
          rw [List.length_cons] at short
          rw [List.length_eq_zero_iff.mp (by omega : rest.length = 0)]
  · cases has

/-- The only token is the name with an empty value. -/
theorem tokens_of_name (nonempty : name ≠ []) (clean : ' ' ∉ name)
    (noLine : '\n' ∉ name ++ ['='])
    : getTokenStringFromTokens (tokenize ' ' (name ++ ['='])) name = some [] := by
  have noBlank : ' ' ∉ name ++ ['='] := by
    rw [List.mem_append, List.mem_singleton, not_or]
    exact ⟨clean, by decide⟩
  have named : hasName (name ++ ['=']) name = true := by
    simp only [hasName, Bool.and_eq_true, beq_iff_eq, List.isPrefixOf_iff_prefix]
    exact ⟨List.prefix_append name _, List.getElem?_concat_length⟩
  rw [tokenize_clean ⟨noBlank, noLine⟩ (List.append_ne_nil_of_left_ne_nil nonempty _),
    getTokenStringFromTokens, List.findSome?_cons, getTokenString_eq, if_pos named,
    List.drop_eq_nil_of_le]
  rw [List.length_append]
  exact Nat.le_refl _

/-- The lookup in a message and the lookup in its tokens agree, if and only if the message is
more than the name and its `=`.
-/
theorem lookups_agree_iff {message name : Text} (noLine : '\n' ∉ message)
    (nonempty : name ≠ []) (clean : ' ' ∉ name)
    : getTokenStringFromMessage message name
        = getTokenStringFromTokens (tokenize ' ' message) name
      ↔ message ≠ name ++ ['='] := by
  rw [getTokenStringFromMessage]
  by_cases long : message.length > name.length + 1
  · rw [if_pos long, tokenStringFrom_eq_tokens nonempty clean noLine]
    refine iff_of_true rfl ?_
    rintro rfl
    rw [List.length_append] at long
    exact Nat.lt_irrefl _ long
  · rw [if_neg long]
    constructor
    · rintro none' rfl
      rw [tokens_of_name nonempty clean noLine] at none'
      cases none'
    · intro other
      cases found : getTokenStringFromTokens (tokenize ' ' message) name with
      | none => rfl
      | some value => exact absurd (eq_of_short noLine long found) other

/-- A message with the name and a value. -/
theorem lookups_agree_part
    : getTokenStringFromMessage "tile part=0 width=256".toList "part".toList
      = getTokenStringFromTokens (tokenize ' ' "tile part=0 width=256".toList) "part".toList :=
  (lookups_agree_iff (by decide +kernel) (by decide +kernel) (by decide +kernel)).mpr
    (by decide +kernel)

/-- An empty value is not found in the shortest message that has it. -/
theorem shortest_message_differs
    : getTokenStringFromMessage "url=".toList "url".toList = none
      ∧ getTokenStringFromTokens (tokenize ' ' "url=".toList) "url".toList = some [] := by
  decide +kernel

end NdcOdfWeb.Protocol
