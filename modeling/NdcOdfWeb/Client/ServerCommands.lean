import NdcOdfWeb.Protocol.WordTokens
import NdcOdfWeb.Tiles.TileDescCodec

/-! What the browser's `parseServerCmd` reads from a message. -/

namespace NdcOdfWeb.Client

open NdcOdfWeb.Foundation
open NdcOdfWeb.Protocol
open NdcOdfWeb.Tiles

/-- `msg.split(/[ \n]+/)`; an empty string at either end is no field and left out. -/
def splitWords (msg : Text) : List Text :=
  (msg.splitOnP (fun c => c == ' ' || c == '\n')).filter (· ≠ [])

/-- The test `token.substring(0, n) === 'name='`, and what is behind it. -/
def fieldText (name : String) (token : Text) : Option Text :=
  if (name.toList ++ ['=']).isPrefixOf token then some (token.drop (name.toList.length + 1))
  else none

/-- The command's property that is set from the field `name`: the last token counts, and
without one it is undefined.
-/
def commandText (name : String) (msg : Text) : Option Text :=
  ((splitWords msg).filterMap (fieldText name)).getLast?

/-- The words have neither blanks nor line feeds. -/
theorem splitOnP_spaced {head : Text} {words : List Text} (clean : LineWord ' ' head)
    (wordsClean : ∀ word ∈ words, LineWord ' ' word)
    : (head ++ spaced ' ' words).splitOnP (fun c => c == ' ' || c == '\n')
      = head :: words := by
  have plain : ∀ word : Text, LineWord ' ' word
      → ∀ c ∈ word, (c == ' ' || c == '\n') = false := by
    intro word clean c member
    have blank : c ≠ ' ' := fun same => clean.1 (same ▸ member)
    have line : c ≠ '\n' := fun same => clean.2 (same ▸ member)
    simp [blank, line]
  induction words generalizing head with
  | nil => rw [spaced_nil, List.append_nil, List.splitOnP_eq_singleton (plain head clean)]
  | cons word words ih =>
      rw [List.forall_mem_cons] at wordsClean
      rw [spaced_cons,
        List.splitOnP_append_cons_of_forall_mem (plain head clean) ' ' (by decide),
        ih wordsClean.1 wordsClean.2]

/-- The words of a line are found again. -/
theorem splitWords_spaced {head : Text} {words : List Text} (clean : LineWord ' ' head)
    (wordsClean : ∀ word ∈ words, LineWord ' ' word)
    : splitWords (head ++ spaced ' ' words) = (head :: words).filter (· ≠ []) := by
  rw [splitWords, splitOnP_spaced clean wordsClean]

/-- The name is compared up to the equals sign. -/
theorem fieldText_word {name other : String} {value : Text} (clean : '=' ∉ name.toList)
    (otherClean : '=' ∉ other.toList)
    : fieldText name (word other value) = if name = other then some value else none := by
  unfold fieldText word
  by_cases same : name = other
  · subst same
    rw [if_pos rfl, if_pos]
    · rw [← List.singleton_append, ← List.append_assoc, ← List.length_singleton (a := '='),
        ← List.length_append, List.drop_left]
    · rw [List.isPrefixOf_iff_prefix]
      exact ⟨value, by simp⟩
  · rw [if_neg same, if_neg]
    rw [List.isPrefixOf_iff_prefix]
    intro starts
    have names := (word_eq_of_starts clean otherClean rfl (Or.inr rfl) starts).1
    exact same (String.toList_inj.mp names)

/-- A token without an equals sign has no field. -/
theorem fieldText_plain {name : String} {token : Text} (clean : '=' ∉ token)
    : fieldText name token = none := by
  unfold fieldText
  rw [if_neg]
  rw [List.isPrefixOf_iff_prefix]
  intro starts
  exact clean (starts.subset (by simp))

end NdcOdfWeb.Client
