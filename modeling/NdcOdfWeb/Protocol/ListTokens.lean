import NdcOdfWeb.Protocol.Tokens

/-! Lists of entries with a separator between them or behind each of them. -/

namespace NdcOdfWeb.Protocol

open NdcOdfWeb.Foundation

/-- An entry that the tokenizer neither cuts, nor trims, nor drops. -/
structure ListEntry (separator : Char) (entry : Text) : Prop where
  nonempty : entry ≠ []
  whole : separator ∉ entry
  trimmed : ∀ c ∈ entry, isSpace c = false

/-- An entry neither starts nor ends with a blank. -/
theorem ListEntry.trim {separator : Char} {entry : Text} (clean : ListEntry separator entry)
    : (entry.dropWhile isSpace).rdropWhile isSpace = entry := by
  have front : entry.dropWhile isSpace = entry := by
    refine List.dropWhile_eq_self_iff.mpr (fun inside => ?_)
    simp [clean.trimmed _ (List.getElem_mem inside)]
  have back : entry.rdropWhile isSpace = entry := by
    refine List.rdropWhile_eq_self_iff.mpr (fun nonempty => ?_)
    simp [clean.trimmed _ (List.getLast_mem nonempty)]
  rw [front, back]

/-- Each entry is clean. -/
theorem map_trim {separator : Char} {entries : List Text}
    (clean : ∀ entry ∈ entries, ListEntry separator entry)
    : (entries.map (fun entry => (entry.dropWhile isSpace).rdropWhile isSpace)).filter (· ≠ [])
      = entries := by
  have trimmed : entries.map (fun entry => (entry.dropWhile isSpace).rdropWhile isSpace)
      = entries := by
    conv_rhs => rw [← List.map_id entries]
    exact List.map_congr_left (fun entry member => (clean entry member).trim)
  rw [trimmed, List.filter_eq_self]
  intro entry member
  simpa using (clean entry member).nonempty

/-- Every entry with the separator behind it. -/
def terminated (separator : Char) (entries : List Text) : Text :=
  entries.flatMap (· ++ [separator])

/-- By induction on the entries: a separator follows each one. -/
theorem terminated_eq {separator : Char} {entries : List Text} (nonempty : entries ≠ [])
    : terminated separator entries = [separator].intercalate entries ++ [separator] := by
  induction entries with
  | nil => exact absurd rfl nonempty
  | cons entry rest ih =>
      cases rest with
      | nil => simp [terminated]
      | cons next rest =>
          have later := ih (by simp)
          simp only [terminated, List.flatMap_cons] at later ⊢
          rw [later, List.intercalate_cons_cons]
          simp

/-- The entries have no separator, so they are read back. -/
theorem stringTokenizer_intercalate {separator : Char} {entries : List Text}
    (clean : ∀ entry ∈ entries, ListEntry separator entry)
    : stringTokenizer separator ([separator].intercalate entries) = entries := by
  by_cases empty : entries = []
  · rw [empty]
    simp [stringTokenizer]
  · rw [stringTokenizer,
      List.splitOn_intercalate separator (fun entry member => (clean entry member).whole) empty]
    exact map_trim clean

/-- The empty token behind the last separator is dropped. -/
theorem stringTokenizer_terminated {separator : Char} {entries : List Text}
    (clean : ∀ entry ∈ entries, ListEntry separator entry)
    : stringTokenizer separator (terminated separator entries) = entries := by
  have shape : terminated separator entries = [separator].intercalate (entries ++ [[]]) := by
    induction entries with
    | nil => simp [terminated]
    | cons entry rest ih =>
        have later := ih (fun other member => clean other (List.mem_cons_of_mem entry member))
        rw [List.cons_append, List.intercalate_cons_of_ne_nil (by simp), ← later]
        simp [terminated]
  have whole : ∀ entry ∈ entries ++ [[]], separator ∉ entry := by
    intro entry member
    rcases List.mem_append.mp member with inside | last
    · exact (clean entry inside).whole
    · simp [List.mem_singleton.mp last]
  rw [stringTokenizer, shape, List.splitOn_intercalate separator whole (by simp),
    List.map_append, List.filter_append, map_trim clean]
  simp

/-- A number has neither separators nor blanks. -/
theorem showInt_listEntry (value : Int) : ListEntry ',' (showInt value) where
  nonempty := showInt_ne_nil value
  whole := not_mem_showInt value (by decide) (by decide)
  trimmed := by
    intro c member
    rcases mem_showInt member with rfl | digit
    · decide
    · exact isSpace_of_isDigit digit

/-- A number has neither separators nor blanks. -/
theorem showNat_listEntry (value : Nat) : ListEntry ',' (showNat value) :=
  showInt_listEntry (.ofNat value)

end NdcOdfWeb.Protocol
