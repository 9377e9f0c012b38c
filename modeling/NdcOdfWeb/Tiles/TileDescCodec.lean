import NdcOdfWeb.Protocol.TrimmedTokens
import NdcOdfWeb.Tiles.TileDesc

/-! Serialised tile descriptors as lines of words, and their parsing.
The words before `ver` identify a request; the optional words follow it.
-/

namespace NdcOdfWeb.Tiles

open NdcOdfWeb.Foundation
open NdcOdfWeb.Protocol

/-- A field is one word if its name and its value are. -/
theorem word_lineWord {name : String} {value : Text} (hn : LineWord ' ' name.toList)
    (hv : LineWord ' ' value)
    : LineWord ' ' (word name value) := by
  have equals : LineWord ' ' ['='] := by decide
  simpa [word] using hn.append (equals.append hv)

/-- A written integer is one word. -/
theorem showInt_lineWord (value : Int) : LineWord ' ' (showInt value) :=
  ⟨not_mem_showInt value (by decide) (by decide), not_mem_showInt value (by decide) (by decide)⟩

/-- A written number is one word. -/
theorem showNat_lineWord (value : Nat) : LineWord ' ' (showNat value) :=
  ⟨not_mem_showNat value (by decide), not_mem_showNat value (by decide)⟩

/-- The words of integer fields. -/
def intWords (fields : List (String × Int32)) : List Text :=
  fields.map (fun entry => word entry.1 (showInt entry.2.toInt))

/-- Fields of one name are equal if and only if their values are. -/
theorem word_inj {name : String} {left right : Text}
    : word name left = word name right ↔ left = right := by
  simp [word]

/-- Integer words of the same names are equal only for equal values. -/
theorem intWords_inj {left right : List (String × Int32)}
    (names : left.map Prod.fst = right.map Prod.fst) (same : intWords left = intWords right)
    : left = right := by
  induction left generalizing right with
  | nil =>
      rw [List.map_nil, eq_comm, List.map_eq_nil_iff] at names
      exact names.symm
  | cons entry rest ih =>
      cases right with
      | nil => simp at names
      | cons other others =>
          simp only [List.map_cons, List.cons.injEq] at names
          simp only [intWords, List.map_cons, List.cons.injEq] at same
          rw [names.1, word_inj] at same
          have value := Int32.toInt_inj.mp (showInt_inj same.1)
          rw [ih names.2 same.2, Prod.ext names.1 value]

/-- Integer fields are words. -/
theorem intWords_lineWord {fields : List (String × Int32)}
    (names : ∀ entry ∈ fields, LineWord ' ' entry.1.toList)
    : ∀ text ∈ intWords fields, LineWord ' ' text := by
  intro text member
  obtain ⟨entry, inFields, rfl⟩ := List.mem_map.mp member
  exact word_lineWord (names entry inFields) (showInt_lineWord _)

/-- The integer fields in front of the wire ids. -/
def TileDesc.headFields (tile : TileDesc) : List (String × Int32) :=
  [
    ("nviewid", tile.normalizedViewId), ("part", tile.part), ("width", tile.width),
    ("height", tile.height), ("tileposx", tile.tilePosX), ("tileposy", tile.tilePosY),
    ("tilewidth", tile.tileWidth), ("tileheight", tile.tileHeight)
  ]

/-- The integer fields from `ver` on. -/
def TileDesc.tailFields (tile : TileDesc) : List (String × Int32) :=
  ("ver", tile.ver)
    :: ((if tile.id ≥ 0 then [("id", tile.id)] else [])
      ++ (if tile.imgSize > 0 then [("imgsize", tile.imgSize)] else []))

/-- The words in front of the version: they identify a request. -/
def TileDesc.headWords (tile : TileDesc) : List Text :=
  intWords tile.headFields
    ++ [word "oldwid" (showNat tile.oldWireId.toNat), word "wid" (showNat tile.wireId.toNat)]

/-- The words from the version on. -/
def TileDesc.tailWords (tile : TileDesc) : List Text :=
  intWords tile.tailFields ++ (if tile.broadcast then [word "broadcast" "yes".toList] else [])

/-- All words of a serialised descriptor. -/
def TileDesc.words (tile : TileDesc) : List Text :=
  tile.headWords ++ tile.tailWords

/-- A tile is written as its words. -/
theorem TileDesc.serialize_eq (initial : Text) (tile : TileDesc)
    : tile.serialize initial = initial ++ spaced ' ' tile.words := by
  have tail : spaced ' ' tile.tailWords
      = field "ver" (showInt tile.ver.toInt)
        ++ ((if tile.id ≥ 0 then field "id" (showInt tile.id.toInt) else [])
          ++ ((if tile.imgSize > 0 then field "imgsize" (showInt tile.imgSize.toInt) else [])
            ++ (if tile.broadcast then field "broadcast" "yes".toList else []))) := by
    simp only [TileDesc.tailWords, TileDesc.tailFields, intWords, List.map_cons, List.map_append,
      apply_ite (List.map _), List.map_nil, spaced_append, spaced_cons, spaced_nil,
      apply_ite (spaced ' '), field, List.append_nil, List.append_assoc, List.cons_append]
  simp only [TileDesc.serialize, TileDesc.words, TileDesc.headWords, TileDesc.headFields,
    intWords, List.map_cons, List.map_nil, tail, spaced_cons, field, List.cons_append,
    List.nil_append, List.append_assoc]

/-- The fields at the end, of which two are optional. -/
theorem TileDesc.tailFields_names (tile : TileDesc)
    : (tile.tailFields.map Prod.fst).Sublist ["ver", "id", "imgsize"] := by
  simp only [TileDesc.tailFields, List.map_cons, List.map_append, List.cons_sublist_cons]
  split <;> split <;> simp

/-- The names of all fields of a descriptor. -/
def fieldNames : List String :=
  ["nviewid", "part", "width", "height", "tileposx", "tileposy", "tilewidth", "tileheight",
    "oldwid", "wid", "ver", "id", "imgsize", "broadcast"]

/-- Every word is one of the fields, with a number or the word `yes` as its value. -/
theorem TileDesc.words_shape (tile : TileDesc)
    : ∀ text ∈ tile.words, ∃ name ∈ fieldNames, ∃ value,
        text = word name value ∧ (value = "yes".toList ∨ ∃ number : Int, value = showInt number) := by
  have ints : ∀ fields : List (String × Int32), (∀ entry ∈ fields, entry.1 ∈ fieldNames)
      → ∀ text ∈ intWords fields, ∃ name ∈ fieldNames, ∃ value,
          text = word name value
          ∧ (value = "yes".toList ∨ ∃ number : Int, value = showInt number) := by
    intro fields names text member
    obtain ⟨entry, inFields, rfl⟩ := List.mem_map.mp member
    exact ⟨entry.1, names entry inFields, _, rfl, Or.inr ⟨_, rfl⟩⟩
  have head : ∀ entry ∈ tile.headFields, entry.1 ∈ fieldNames := by
    simp [TileDesc.headFields, fieldNames]
  have tail : ∀ entry ∈ tile.tailFields, entry.1 ∈ fieldNames := by
    intro entry member
    have name := tile.tailFields_names.subset (List.mem_map_of_mem member)
    simp only [List.mem_cons, List.not_mem_nil, or_false] at name
    rcases name with name | name | name <;> simp [name, fieldNames]
  intro text member
  simp only [TileDesc.words, TileDesc.headWords, TileDesc.tailWords, List.mem_append,
    List.mem_cons, List.not_mem_nil, or_false] at member
  rcases member with (int | rfl | rfl) | (int | flag)
  · exact ints _ head text int
  · exact ⟨"oldwid", by simp [fieldNames], _, rfl, Or.inr ⟨Int.ofNat _, rfl⟩⟩
  · exact ⟨"wid", by simp [fieldNames], _, rfl, Or.inr ⟨Int.ofNat _, rfl⟩⟩
  · exact ints _ tail text int
  · split at flag
    · exact ⟨"broadcast", by simp [fieldNames], _, List.mem_singleton.mp flag, Or.inl rfl⟩
    · cases flag

/-- A character that is in no name, no number and no flag is in no word. -/
theorem TileDesc.words_not_mem (tile : TileDesc) {c : Char} (minus : c ≠ '-')
    (digit : c.isDigit = false) (equals : c ≠ '=')
    (names : ∀ name ∈ fieldNames, c ∉ name.toList) (flag : c ∉ "yes".toList)
    : ∀ text ∈ tile.words, c ∉ text := by
  intro text member
  obtain ⟨name, inNames, value, rfl, values⟩ := tile.words_shape text member
  have inValue : c ∉ value := by
    rcases values with rfl | ⟨number, rfl⟩
    · exact flag
    · exact not_mem_showInt number minus digit
  simp only [word, List.mem_append, List.mem_cons, not_or]
  exact ⟨names name inNames, equals, inValue⟩

/-- The words hold no blank and no line end. -/
theorem TileDesc.words_lineWord (tile : TileDesc)
    : ∀ text ∈ tile.words, LineWord ' ' text := by
  intro text member
  exact ⟨tile.words_not_mem (by decide) (by decide) (by decide) (by decide) (by decide) text
      member,
    tile.words_not_mem (by decide) (by decide) (by decide) (by decide) (by decide) text member⟩

/-- The tokens of a written tile are its words. -/
theorem TileDesc.tokenize_serialize {initial : Text} (clean : LineWord ' ' initial)
    (tile : TileDesc)
    : tokenize ' ' (tile.serialize initial) = (initial :: tile.words).filter (· ≠ []) := by
  rw [tile.serialize_eq, tokenize_spaced (by decide) clean tile.words_lineWord]

-----------------------------------------------------------------------------------------
-- Parsing one word
-----------------------------------------------------------------------------------------

/-- A token without a value is no number. -/
theorem getTokenUInt32_none {token : Text} (clean : '=' ∉ token) (name : Text)
    (value : UInt32)
    : getTokenUInt32 token name value = (false, value) := by
  simp [getTokenUInt32, hasName_none clean]

/-- A field of another name is not read. -/
theorem getTokenUInt32_other {name : String} {key : Text} (nameClean : '=' ∉ name.toList)
    (keyClean : '=' ∉ key) (other : key ≠ name.toList) (text : Text) (value : UInt32)
    : getTokenUInt32 (word name text) key value = (false, value) := by
  have absent : ¬ hasName (word name text) key = true :=
    fun named => other ((hasName_iff nameClean keyClean).mp named)
  rw [getTokenUInt32, if_neg (fun both => absent both.2)]

/-- A written number is read back. -/
theorem getTokenUInt32_word {name : String} (clean : '=' ∉ name.toList)
    (number value : UInt32)
    : getTokenUInt32 (word name (showNat number.toNat)) name.toList value = (true, number) := by
  have named : hasName (word name (showNat number.toNat)) name.toList = true :=
    (hasName_iff clean clean).mpr rfl
  have digits : 0 < (showNat number.toNat).length :=
    List.length_pos_iff.mpr (showNat_ne_nil _)
  have long : (word name (showNat number.toNat)).length > name.toList.length + 1 := by
    simp only [word, List.length_append, List.length_cons]
    omega
  have text : (word name (showNat number.toNat)).drop (name.toList.length + 1)
      = showNat number.toNat := by
    simp [word, List.drop_append]
  have bound : number.toNat < 2 ^ 64 := Nat.lt_trans number.toNat_lt (by decide)
  have scanned := scanNumber_showNat number.toNat endsNumber_nil
  have read := strtoul_showNat bound endsNumber_nil
  simp only [List.append_nil] at scanned read
  rw [getTokenUInt32, if_pos ⟨long, named⟩]
  simp only [text, scanned, read, Option.isSome_some, UInt32.ofNat_toNat]

/-- A written integer is read back. -/
theorem stringToInteger_showInt (value : Int32)
    : stringToInteger (showInt value.toInt) = .ok (some value) := by
  have read := stoi_showInt value endsNumber_nil
  rw [List.append_nil] at read
  simp only [stringToInteger, read]

/-- An integer word of any other name than the wire ids sets the pair of that name. -/
theorem ParseState.token_pair (state : ParseState) {name : String}
    (clean : '=' ∉ name.toList) (notOld : name.toList ≠ "oldwid".toList)
    (notWire : name.toList ≠ "wid".toList) (value : Int32)
    : state.token (word name (showInt value.toInt))
      = .ok { state with pairs := Function.update state.pairs name.toList value } := by
  have old := getTokenUInt32_other clean (by decide) (Ne.symm notOld) (showInt value.toInt)
    state.oldWireId
  have wire := getTokenUInt32_other clean (by decide) (Ne.symm notWire) (showInt value.toInt)
    state.wireId
  have pair : parseNameIntegerPair (word name (showInt value.toInt))
      = .ok (some (name.toList, value)) := by
    rw [parseNameIntegerPair, word, parseNameValuePair_field clean]
    simp only [stringToInteger_showInt]
    rfl
  simp only [ParseState.token, old, wire, pair, Bool.false_eq_true, if_false]
  rfl

/-- The token with the old wire id sets it. -/
theorem ParseState.token_oldwid (state : ParseState) (number : UInt32)
    : state.token (word "oldwid" (showNat number.toNat))
      = .ok { state with oldWireId := number } := by
  have clean : '=' ∉ "oldwid".toList := by decide
  simp only [ParseState.token, getTokenUInt32_word clean, if_true]

/-- The token with the wire id sets it. -/
theorem ParseState.token_wid (state : ParseState) (number : UInt32)
    : state.token (word "wid" (showNat number.toNat))
      = .ok { state with wireId := number } := by
  have clean : '=' ∉ "wid".toList := by decide
  have keyClean : '=' ∉ "oldwid".toList := by decide
  have other : "oldwid".toList ≠ "wid".toList := by decide
  have old := getTokenUInt32_other clean keyClean other (showNat number.toNat)
    state.oldWireId
  simp only [ParseState.token, old, getTokenUInt32_word clean, Bool.false_eq_true, if_false,
    if_true]

/-- A token without a value is skipped. -/
theorem ParseState.token_plain (state : ParseState) {token : Text} (clean : '=' ∉ token)
    : state.token token = .ok state := by
  simp only [ParseState.token, getTokenUInt32_none clean, Bool.false_eq_true, if_false,
    parseNameIntegerPair, parseNameValuePair_none clean]
  rfl

/-- A word with a value that is no number changes nothing. -/
theorem ParseState.token_text (state : ParseState) {name : String} {value : Text}
    (clean : '=' ∉ name.toList) (notOld : "oldwid".toList ≠ name.toList)
    (notWire : "wid".toList ≠ name.toList)
    (pair : parseNameIntegerPair (word name value) = .ok none)
    : state.token (word name value) = .ok state := by
  have old := getTokenUInt32_other clean (by decide) notOld value state.oldWireId
  have wire := getTokenUInt32_other clean (by decide) notWire value state.wireId
  simp only [ParseState.token, old, wire, pair, Bool.false_eq_true, if_false]
  rfl

/-- The broadcast flag is no integer, and is skipped here. -/
theorem ParseState.token_broadcast (state : ParseState)
    : state.token (word "broadcast" "yes".toList) = .ok state :=
  state.token_text (by decide) (by decide) (by decide) (by decide)

-----------------------------------------------------------------------------------------
-- Parsing a serialised descriptor
-----------------------------------------------------------------------------------------

/-- A map after fields have been set one after the other. -/
def setPairs {β : Type} (pairs : Text → β) (fields : List (String × β)) : Text → β :=
  fields.foldl (fun pairs entry => Function.update pairs entry.1.toList entry.2) pairs

/-- Fields are set one after the other. -/
theorem setPairs_append {β : Type} (pairs : Text → β) (left right : List (String × β))
    : setPairs (setPairs pairs left) right = setPairs pairs (left ++ right) := by
  simp [setPairs]

/-- A field that is not set keeps its value, by induction on those that are. -/
theorem setPairs_of_not_mem {β : Type} (pairs : Text → β) {fields : List (String × β)}
    {name : Text} (absent : name ∉ fields.map (fun entry => entry.1.toList))
    : setPairs pairs fields name = pairs name := by
  induction fields generalizing pairs with
  | nil => rfl
  | cons entry rest ih =>
      simp only [List.map_cons, List.mem_cons, not_or] at absent
      have step := ih (Function.update pairs entry.1.toList entry.2) absent.2
      rw [Function.update_of_ne absent.1] at step
      exact step

/-- With pairwise different names, every field keeps the value it was given. -/
theorem setPairs_of_mem {β : Type} (pairs : Text → β) {fields : List (String × β)}
    {name : String} {value : β}
    (unique : (fields.map (fun entry => entry.1.toList)).Nodup)
    (member : (name, value) ∈ fields)
    : setPairs pairs fields name.toList = value := by
  induction fields generalizing pairs with
  | nil => cases member
  | cons entry rest ih =>
      obtain ⟨absent, tailUnique⟩ := List.nodup_cons.mp unique
      rcases List.mem_cons.mp member with rfl | later
      · exact (setPairs_of_not_mem _ absent).trans (Function.update_self _ _ _)
      · exact ih _ tailUnique later

/-- A field name that is not read as a wire id. -/
def PairName (name : String) : Prop :=
  '=' ∉ name.toList ∧ name.toList ≠ "oldwid".toList ∧ name.toList ≠ "wid".toList

instance (name : String) : Decidable (PairName name) :=
  inferInstanceAs (Decidable (_ ∧ _))

/-- All integers are set, by induction on the fields. -/
theorem foldlM_intWords {fields : List (String × Int32)}
    (names : ∀ entry ∈ fields, PairName entry.1) (state : ParseState)
    : (intWords fields).foldlM ParseState.token state
      = .ok { state with pairs := setPairs state.pairs fields } := by
  induction fields generalizing state with
  | nil => rfl
  | cons entry rest ih =>
      obtain ⟨clean, notOld, notWire⟩ := names entry (by simp)
      have step := state.token_pair clean notOld notWire entry.2
      have later := ih (fun next member => names next (by simp [member]))
        { state with pairs := Function.update state.pairs entry.1.toList entry.2 }
      simp only [intWords, List.map_cons, List.foldlM_cons, step]
      exact later

/-- The parser reads the words of a tile from the front to the back. -/
theorem TileDesc.foldlM_words (tile : TileDesc)
    : tile.words.foldlM ParseState.token ParseState.initial
      = .ok {
          pairs := setPairs ParseState.initial.pairs (tile.headFields ++ tile.tailFields)
          oldWireId := tile.oldWireId
          wireId := tile.wireId
        } := by
  have headNames : ∀ entry ∈ tile.headFields, PairName entry.1 := by
    simp only [TileDesc.headFields, List.forall_mem_cons]
    decide
  have tailNames : ∀ entry ∈ tile.tailFields, PairName entry.1 := by
    intro entry member
    have name := tile.tailFields_names.subset (List.mem_map_of_mem member)
    simp only [List.mem_cons, List.not_mem_nil, or_false] at name
    rcases name with name | name | name <;> rw [name] <;> decide
  simp only [TileDesc.words, TileDesc.headWords, TileDesc.tailWords, List.foldlM_append,
    foldlM_intWords headNames, foldlM_intWords tailNames, List.foldlM_cons, List.foldlM_nil,
    bind, Except.bind, ParseState.token_oldwid, ParseState.token_wid, pure, Except.pure]
  rw [setPairs_append]
  split
  · simp only [List.foldlM_cons, List.foldlM_nil, ParseState.token_broadcast]
    rfl
  · rfl

/-- A written text is read back. -/
theorem getTokenString_word {name : String} (clean : '=' ∉ name.toList) (value : Text)
    : getTokenString (word name value) name.toList = some value := by
  have named : hasName (word name value) name.toList = true := (hasName_iff clean clean).mpr rfl
  have long : (word name value).length ≥ name.toList.length + 1 := by
    simp only [word, List.length_append, List.length_cons]
    omega
  rw [getTokenString, if_pos ⟨long, named⟩]
  simp [word, List.drop_append]

/-- A field of another name is not read. -/
theorem getTokenString_other {name : String} {key : Text} (nameClean : '=' ∉ name.toList)
    (keyClean : '=' ∉ key) (other : key ≠ name.toList) (value : Text)
    : getTokenString (word name value) key = none := by
  have absent : ¬ hasName (word name value) key = true :=
    fun named => other ((hasName_iff nameClean keyClean).mp named)
  rw [getTokenString, if_neg (fun both => absent both.2)]

/-- No integer field has the name. -/
theorem getTokenString_intWords {fields : List (String × Int32)} {key : Text}
    (keyClean : '=' ∉ key)
    (other : ∀ entry ∈ fields, '=' ∉ entry.1.toList ∧ key ≠ entry.1.toList)
    : getTokenStringFromTokens (intWords fields) key = none := by
  refine List.findSome?_eq_none_iff.mpr (fun text member => ?_)
  obtain ⟨entry, inFields, rfl⟩ := List.mem_map.mp member
  exact getTokenString_other (other entry inFields).1 keyClean (other entry inFields).2 _

/-- The broadcast flag is read back. -/
theorem TileDesc.broadcast_words (tile : TileDesc)
    : getTokenStringFromTokens tile.words "broadcast".toList
      = if tile.broadcast then some "yes".toList else none := by
  have keyClean : '=' ∉ "broadcast".toList := by decide
  have headNames : ∀ entry ∈ tile.headFields,
      '=' ∉ entry.1.toList ∧ "broadcast".toList ≠ entry.1.toList := by
    simp only [TileDesc.headFields, List.forall_mem_cons]
    decide
  have tailNames : ∀ entry ∈ tile.tailFields,
      '=' ∉ entry.1.toList ∧ "broadcast".toList ≠ entry.1.toList := by
    intro entry member
    have name := tile.tailFields_names.subset (List.mem_map_of_mem member)
    simp only [List.mem_cons, List.not_mem_nil, or_false] at name
    rcases name with name | name | name <;> rw [name] <;> decide
  have head := getTokenString_intWords keyClean headNames
  have tail := getTokenString_intWords keyClean tailNames
  have oldwid : getTokenString (word "oldwid" (showNat tile.oldWireId.toNat))
      "broadcast".toList = none :=
    getTokenString_other (by decide) keyClean (by decide) _
  have wid : getTokenString (word "wid" (showNat tile.wireId.toNat))
      "broadcast".toList = none :=
    getTokenString_other (by decide) keyClean (by decide) _
  have flag := getTokenString_word keyClean "yes".toList
  simp only [getTokenStringFromTokens] at head tail ⊢
  simp only [TileDesc.words, TileDesc.headWords, TileDesc.tailWords, List.findSome?_append,
    head, tail, List.findSome?_cons, List.findSome?_nil, oldwid, wid, Option.none_or]
  split
  · simp only [List.findSome?_cons, flag]
  · rfl

/-- A field is not empty. -/
theorem word_ne_nil (name : String) (value : Text) : word name value ≠ [] := by
  simp [word]

/-- The words of a tile are not empty. -/
theorem TileDesc.words_ne_nil (tile : TileDesc) : ∀ text ∈ tile.words, text ≠ [] := by
  intro text member
  obtain ⟨name, -, value, rfl, -⟩ := tile.words_shape text member
  exact word_ne_nil name value

/-- The tokens of a serialised descriptor are its words behind a nonempty initial text. -/
theorem TileDesc.tokens_serialize {initial : Text} (clean : LineWord ' ' initial)
    (tile : TileDesc)
    : tokenize ' ' (tile.serialize initial) = [initial].filter (· ≠ []) ++ tile.words := by
  have words : tile.words.filter (· ≠ []) = tile.words :=
    List.filter_eq_self.mpr (fun text member => by simpa using tile.words_ne_nil text member)
  rw [tile.tokenize_serialize clean, ← List.singleton_append, List.filter_append, words]

/-- The version is the first word that starts with `ver`. -/
theorem TileDesc.headWords_other (tile : TileDesc)
    : ∀ text ∈ tile.headWords, ¬ "ver".toList <+: text := by
  have names : ∀ name ∈ fieldNames, name ≠ "ver" → ¬ "ver".toList <+: name.toList := by decide
  have other : ∀ name ∈ fieldNames, name ≠ "ver" → ∀ value, ¬ "ver".toList <+: word name value := by
    intro name member different value starts
    exact names name member different (prefix_word (by decide) (Or.inr rfl) starts)
  have fields : ∀ entry ∈ tile.headFields, entry.1 ∈ fieldNames ∧ entry.1 ≠ "ver" := by
    simp [TileDesc.headFields, fieldNames]
  intro text member
  simp only [TileDesc.headWords, List.mem_append, List.mem_cons, List.not_mem_nil,
    or_false] at member
  rcases member with int | rfl | rfl
  · obtain ⟨entry, inFields, rfl⟩ := List.mem_map.mp int
    exact other entry.1 (fields entry inFields).1 (fields entry inFields).2 _
  · exact other "oldwid" (by decide) (by decide) _
  · exact other "wid" (by decide) (by decide) _

/-- The descriptor that is read back: every negative id becomes -1. -/
def TileDesc.withReadId (tile : TileDesc) : TileDesc :=
  { tile with id := if tile.id ≥ 0 then tile.id else -1 }

/-- No negative id is written. -/
theorem TileDesc.serialize_withReadId (initial : Text) (tile : TileDesc)
    : tile.withReadId.serialize initial = tile.serialize initial := by
  by_cases preview : tile.id ≥ 0
  · have same : tile.withReadId = tile := by
      simp only [TileDesc.withReadId, preview, if_true]
    rw [same]
  · have negative : ¬ (-1 : Int32) ≥ 0 := by decide
    simp only [TileDesc.serialize, TileDesc.withReadId, preview, negative, if_false]

/-- No field is written twice. -/
theorem TileDesc.headFields_unique (tile : TileDesc)
    : ((tile.headFields ++ tile.tailFields).map (fun entry => entry.1.toList)).Nodup := by
  have names : ((tile.headFields ++ tile.tailFields).map Prod.fst).Sublist
      ["nviewid", "part", "width", "height", "tileposx", "tileposy", "tilewidth",
        "tileheight", "ver", "id", "imgsize"] := by
    rw [List.map_append]
    exact tile.tailFields_names.append_left _
  have unique := names.map String.toList
  rw [List.map_map] at unique
  exact unique.nodup (by decide)

/-- The constructor accepts the values of a tile, since these are valid. -/
theorem TileDesc.make_self (tile : TileDesc)
    : TileDesc.make tile.normalizedViewId tile.part tile.width tile.height tile.tilePosX
        tile.tilePosY tile.tileWidth tile.tileHeight tile.ver tile.imgSize tile.id
        tile.broadcast
      = .ok { tile with oldWireId := 0, wireId := 0 } := by
  rw [TileDesc.make, dif_neg (by simp [tile.valid])]

/-- The image size of a valid tile is not negative. -/
theorem TileDesc.imgSize_nonneg (tile : TileDesc) : ¬ tile.imgSize < 0 := by
  have valid := tile.valid
  simp only [invalidDescriptor, Bool.or_eq_false_iff, decide_eq_false_iff_not] at valid
  exact valid.2

/-- The id is read back, or it is -1 where none was written. -/
theorem TileDesc.setPairs_id (tile : TileDesc)
    : setPairs ParseState.initial.pairs (tile.headFields ++ tile.tailFields) "id".toList
      = tile.withReadId.id := by
  by_cases preview : tile.id ≥ 0
  · have member : ("id", tile.id) ∈ tile.headFields ++ tile.tailFields := by
      simp [TileDesc.tailFields, preview]
    rw [setPairs_of_mem _ tile.headFields_unique member]
    simp [TileDesc.withReadId, preview]
  · rw [setPairs_of_not_mem]
    · simp [TileDesc.withReadId, preview, ParseState.initial]
    · simp only [TileDesc.headFields, TileDesc.tailFields, preview, if_false, List.map_append,
        List.map_cons, List.map_nil, List.nil_append, apply_ite (List.map _)]
      split <;> decide

/-- The image size is read back, or it is 0 where none was written. -/
theorem TileDesc.setPairs_imgsize (tile : TileDesc)
    : setPairs ParseState.initial.pairs (tile.headFields ++ tile.tailFields) "imgsize".toList
      = tile.imgSize := by
  by_cases image : tile.imgSize > 0
  · exact setPairs_of_mem _ tile.headFields_unique (by simp [TileDesc.tailFields, image])
  · have zero : tile.imgSize = 0 :=
      Int32.le_antisymm (Int32.not_lt.mp image) (Int32.not_lt.mp tile.imgSize_nonneg)
    rw [setPairs_of_not_mem, zero]
    · decide
    · simp only [TileDesc.headFields, TileDesc.tailFields, image, if_false, List.map_append,
        List.map_cons, List.map_nil, List.append_nil, apply_ite (List.map _)]
      split <;> decide

/-- `parse` reads back every field that `serialize` wrote. -/
theorem TileDesc.parse_serialize {initial : Text} (clean : LineWord ' ' initial)
    (equals : '=' ∉ initial) (tile : TileDesc)
    : TileDesc.parse (tile.serialize initial) = .ok tile.withReadId := by
  have plain : ∀ state : ParseState,
      ([initial].filter (· ≠ [])).foldlM ParseState.token state = .ok state := by
    intro state
    by_cases empty : initial = []
    · simp only [empty, ne_eq, not_true_eq_false, decide_false, List.filter_cons_of_neg,
        Bool.false_eq_true, not_false_eq_true, List.filter_nil, List.foldlM_nil]
      rfl
    · simp only [empty, ne_eq, not_false_eq_true, decide_true, List.filter_cons_of_pos,
        List.filter_nil, List.foldlM_cons, state.token_plain equals, List.foldlM_nil]
      rfl
  have notFlag : getTokenStringFromTokens ([initial].filter (· ≠ [])) "broadcast".toList
      = none := by
    refine List.findSome?_eq_none_iff.mpr (fun text member => ?_)
    have same := List.mem_singleton.mp (List.mem_filter.mp member).1
    rw [same, getTokenString, if_neg (by simp [hasName_none equals])]
  have flag := tile.broadcast_words
  have pairs : ∀ name value, (name, value) ∈ tile.headFields ++ tile.tailFields
      → setPairs ParseState.initial.pairs (tile.headFields ++ tile.tailFields) name.toList
        = value :=
    fun name value member => setPairs_of_mem _ tile.headFields_unique member
  have nviewid := pairs "nviewid" tile.normalizedViewId (by simp [TileDesc.headFields])
  have part := pairs "part" tile.part (by simp [TileDesc.headFields])
  have width := pairs "width" tile.width (by simp [TileDesc.headFields])
  have height := pairs "height" tile.height (by simp [TileDesc.headFields])
  have tileposx := pairs "tileposx" tile.tilePosX (by simp [TileDesc.headFields])
  have tileposy := pairs "tileposy" tile.tilePosY (by simp [TileDesc.headFields])
  have tilewidth := pairs "tilewidth" tile.tileWidth (by simp [TileDesc.headFields])
  have tileheight := pairs "tileheight" tile.tileHeight (by simp [TileDesc.headFields])
  have ver := pairs "ver" tile.ver (by simp [TileDesc.tailFields])
  have id := tile.setPairs_id
  have imgsize := tile.setPairs_imgsize
  rw [TileDesc.parse, TileDesc.parseTokens, tile.tokens_serialize clean, List.foldlM_append,
    plain]
  simp only [bind, Except.bind, tile.foldlM_words, getTokenStringFromTokens,
    List.findSome?_append] at notFlag flag ⊢
  rw [notFlag, flag]
  simp only [nviewid, part, width, height, tileposx, tileposy, tilewidth, tileheight, ver, id,
    imgsize, Option.none_or]
  have made := tile.withReadId.make_self
  have flagged : ((if tile.broadcast = true then some "yes".toList else none) == some "yes".toList)
      = tile.broadcast := by
    cases tile.broadcast <;> decide
  rw [flagged]
  exact congrArg (fun made : Except Exception TileDesc =>
    made.bind (fun result =>
      .ok { result with oldWireId := tile.oldWireId, wireId := tile.wireId })) made

/-- A further word that is not read leaves the tile as it is. -/
theorem TileDesc.parse_append {line word : Text} (lineEnds : '\n' ∉ line)
    (clean : LineWord ' ' word) (nonempty : word ≠ [])
    (unread : ∀ state : ParseState, state.token word = .ok state)
    (notFlag : getTokenString word "broadcast".toList = none)
    : TileDesc.parse (line ++ ' ' :: word) = TileDesc.parse line := by
  have flag : getTokenStringFromTokens (tokenize ' ' line ++ [word]) "broadcast".toList
      = getTokenStringFromTokens (tokenize ' ' line) "broadcast".toList := by
    rw [getTokenStringFromTokens, List.findSome?_append, List.findSome?_singleton, notFlag,
      Option.or_none, ← getTokenStringFromTokens]
  have read (state : ParseState) : [word].foldlM ParseState.token state = .ok state := by
    rw [List.foldlM_cons, unread]
    rfl
  have tokens : tokenize ' ' (line ++ ' ' :: word) = tokenize ' ' line ++ [word] := by
    rw [tokenize_join lineEnds, tokenize_clean clean nonempty]
  rw [TileDesc.parse, tokens, TileDesc.parseTokens, flag, List.foldlM_append, TileDesc.parse,
    TileDesc.parseTokens]
  cases (tokenize ' ' line).foldlM ParseState.token ParseState.initial with
  | error exception => rfl
  | ok state => simp only [bind, Except.bind, read]

end NdcOdfWeb.Tiles
