import NdcOdfWeb.Client.ServerCommands
import NdcOdfWeb.Rendering.SenderQueue

/-! What the browser answers to a tile message (`_onTileMsg`). -/

namespace NdcOdfWeb.Client

open NdcOdfWeb.Foundation
open NdcOdfWeb.Protocol
open NdcOdfWeb.Tiles
open NdcOdfWeb.Rendering

/-- The value of a hexadecimal digit. -/
def hexDigit (c : Char) : Option Nat :=
  if c.isDigit then some (c.toNat - '0'.toNat)
  else if 'a' ≤ c ∧ c ≤ 'f' then some (c.toNat - 'a'.toNat + 10)
  else if 'A' ≤ c ∧ c ≤ 'F' then some (c.toNat - 'A'.toNat + 10)
  else none

/-- `parseInt`; a text without a number is not a number. -/
def parseInt (text : Text) : Option Int :=
  let (negative, rest) := splitSign (text.dropWhile isSpace)
  if "0x".toList.isPrefixOf rest || "0X".toList.isPrefixOf rest then
    match ((rest.drop 2).map hexDigit).takeWhile Option.isSome with
    | [] => none
    | digits =>
        some
          (signed negative (digits.foldl (fun value digit => 16 * value + digit.getD 0) 0))
  else (scanNumber text).map (fun number => signed number.1 number.2)

/-- The field of a token that has one of the names. -/
def fieldOf (names : List String) (token : Text) : Option Text :=
  names.findSome? (fieldText · token)

/-- The command's property that is set from the fields of these names. -/
def lastField (names : List String) (msg : Text) : Option Text :=
  ((splitWords msg).filterMap (fieldOf names)).getLast?

/-- A number as it is put into a string. -/
def numberText (names : List String) (msg : Text) : Text :=
  match lastField names msg with
  | none => "undefined".toList
  | some text =>
      match parseInt text with
      | none => "NaN".toList
      | some number => showInt number

/-- The id that `_onTileMsg` sends back. -/
def tileMsgID (textMsg : Text) : Text :=
  numberText ["part"] textMsg
    ++ ":".toList ++ numberText ["tileposx", "x"] textMsg
    ++ ":".toList ++ numberText ["tileposy", "y"] textMsg
    ++ ":".toList ++ numberText ["tilewidth"] textMsg
    ++ ":".toList ++ numberText ["tileheight"] textMsg
    ++ ":".toList ++ (lastField ["nviewid"] textMsg).getD "undefined".toList

/-- The answer of a browser that gets a message: an acknowledgment of a tile message. -/
def onSocketMessage (data : Text) : Option Text :=
  let textMsg := getFirstLine data
  if "tile:".toList.isPrefixOf textMsg then
    some ("tileprocessed tile=".toList ++ tileMsgID textMsg)
  else none

-----------------------------------------------------------------------------------------
-- Fields
-----------------------------------------------------------------------------------------

/-- A number is read back. -/
theorem parseInt_showInt (value : Int) : parseInt (showInt value) = some value := by
  have scanned := scanNumber_showInt value endsNumber_nil
  rw [List.append_nil] at scanned
  have noX : ∀ c : Char, c = 'x' ∨ c = 'X' → c ∉ showInt value := by
    rintro c (rfl | rfl) <;> exact not_mem_showInt value (by decide) (by decide)
  have inside : ∀ c ∈ (splitSign ((showInt value).dropWhile isSpace)).2, c ∈ showInt value := by
    intro c member
    apply (List.dropWhile_suffix isSpace).subset
    generalize (showInt value).dropWhile isSpace = text at member ⊢
    unfold splitSign at member
    split at member
    · exact List.mem_cons_of_mem _ member
    · exact List.mem_cons_of_mem _ member
    · exact member
  unfold parseInt
  generalize splitSign ((showInt value).dropWhile isSpace) = sign at inside
  obtain ⟨negative, rest⟩ := sign
  have decimal : ("0x".toList.isPrefixOf rest || "0X".toList.isPrefixOf rest) = false := by
    rw [Bool.or_eq_false_iff, Bool.eq_false_iff, Bool.eq_false_iff, ne_eq, ne_eq,
      List.isPrefixOf_iff_prefix, List.isPrefixOf_iff_prefix]
    constructor
    · intro starts
      exact noX 'x' (Or.inl rfl) (inside 'x' (starts.subset (by decide)))
    · intro starts
      exact noX 'X' (Or.inr rfl) (inside 'X' (starts.subset (by decide)))
  dsimp only
  rw [decimal, if_neg Bool.false_ne_true, scanned, Option.map_some, signed_natAbs]

/-- By induction on the names. -/
theorem fieldOf_word {names : List String} {name : String}
    (clean : ∀ name ∈ names, '=' ∉ name.toList) (nameClean : '=' ∉ name.toList) (value : Text)
    : fieldOf names (word name value) = if name ∈ names then some value else none := by
  induction names with
  | nil => rfl
  | cons first names ih =>
      rw [List.forall_mem_cons] at clean
      rw [fieldOf, List.findSome?_cons, fieldText_word clean.1 nameClean]
      by_cases same : first = name
      · rw [if_pos same, if_pos (by simp [same])]
      · rw [if_neg same]
        dsimp only
        rw [← fieldOf, ih clean.2]
        simp [Ne.symm same]

/-- A token without an equals sign sets no field. -/
theorem fieldOf_plain {names : List String} {token : Text} (clean : '=' ∉ token)
    : fieldOf names token = none := by
  rw [fieldOf, List.findSome?_eq_none_iff]
  exact fun name _ => fieldText_plain clean

/-- By induction on the fields. -/
theorem filterMap_intWords {names : List String} (clean : ∀ name ∈ names, '=' ∉ name.toList)
    {fields : List (String × Int32)} (fieldsClean : ∀ field ∈ fields, '=' ∉ field.1.toList)
    : (intWords fields).filterMap (fieldOf names)
      = (fields.filter (·.1 ∈ names)).map (fun field => showInt field.2.toInt) := by
  induction fields with
  | nil => rfl
  | cons field fields ih =>
      rw [List.forall_mem_cons] at fieldsClean
      have read := fieldOf_word clean fieldsClean.1 (showInt field.2.toInt)
      rw [intWords, List.map_cons, ← intWords]
      by_cases member : field.1 ∈ names
      · rw [if_pos member] at read
        rw [List.filterMap_cons_some read, List.filter_cons_of_pos (by simpa using member),
          List.map_cons, ih fieldsClean.2]
      · rw [if_neg member] at read
        rw [List.filterMap_cons_none read, List.filter_cons_of_neg (by simpa using member),
          ih fieldsClean.2]

/-- The names of the words that no acknowledgment looks at. -/
def otherNames : List String :=
  ["oldwid", "wid", "ver", "id", "imgsize", "broadcast", "renderid"]

/-- The other names are not asked for. -/
theorem fieldOf_other {names : List String} (clean : ∀ name ∈ names, '=' ∉ name.toList)
    (others : ∀ name ∈ otherNames, name ∉ names) {name : String} (other : name ∈ otherNames)
    (value : Text)
    : fieldOf names (word name value) = none := by
  have nameClean : ∀ name ∈ otherNames, '=' ∉ name.toList := by decide
  rw [fieldOf_word clean (nameClean name other), if_neg (others name other)]

/-- The browser finds the fields in front of the wire ids. -/
theorem lastField_tileLine {names : List String} (clean : ∀ name ∈ names, '=' ∉ name.toList)
    (others : ∀ name ∈ otherNames, name ∉ names) (tile : TileDesc) (cached : Bool)
    : lastField names (Message.tileLine tile cached)
      = ((tile.headFields.filter (·.1 ∈ names)).map
          (fun field => showInt field.2.toInt)).getLast? := by
  have words := Message.tileLine_words tile cached
  have nonempty : ∀ text
      ∈ "tile:".toList :: (tile.words
        ++ if cached then [word "renderid" "cached".toList] else []), text ≠ [] := by
    rw [List.forall_mem_cons, List.forall_mem_append]
    refine ⟨by decide, tile.words_ne_nil, ?_⟩
    cases cached with
    | false => exact List.forall_mem_nil _
    | true =>
        rw [if_pos rfl, List.forall_mem_singleton]
        exact word_ne_nil _ _
  have split : splitWords (Message.tileLine tile cached)
      = "tile:".toList :: (tile.words
        ++ if cached then [word "renderid" "cached".toList] else []) := by
    rw [Message.tileLine_eq, splitWords_spaced (by decide) words, List.filter_eq_self]
    exact fun text member => by simpa using nonempty text member
  have head : ∀ field ∈ tile.headFields, '=' ∉ field.1.toList := by
    simp only [TileDesc.headFields, List.forall_mem_cons]
    decide
  have mark : (if cached then [word "renderid" "cached".toList] else []).filterMap
        (fieldOf names)
      = [] := by
    cases cached with
    | false => rfl
    | true =>
        rw [if_pos rfl, List.filterMap_cons_none (fieldOf_other clean others (by decide) _),
          List.filterMap_nil]
  have tail : tile.tailWords.filterMap (fieldOf names) = [] := by
    rw [List.filterMap_eq_nil_iff]
    intro text member
    unfold TileDesc.tailWords at member
    rcases List.mem_append.mp member with int | flag
    · obtain ⟨field, inFields, rfl⟩ := List.mem_map.mp int
      apply fieldOf_other clean others
      have name := tile.tailFields_names.subset (List.mem_map_of_mem inFields)
      have included : ["ver", "id", "imgsize"] ⊆ otherNames := by decide
      exact included name
    · split at flag
      · rw [List.mem_singleton.mp flag]
        exact fieldOf_other clean others (by decide) _
      · cases flag
  rw [lastField, split, List.filterMap_cons_none (fieldOf_plain (by decide)),
    List.filterMap_append, mark, List.append_nil, TileDesc.words, List.filterMap_append, tail,
    List.append_nil, TileDesc.headWords, List.filterMap_append,
    List.filterMap_cons_none (fieldOf_other clean others (by decide) _),
    List.filterMap_cons_none (fieldOf_other clean others (by decide) _), List.filterMap_nil,
    List.append_nil, filterMap_intWords clean head]

/-- The id that the browser builds from a tile message is the one that wsd has generated. -/
theorem tileMsgID_tileLine (tile : TileDesc) (cached : Bool)
    : tileMsgID (Message.tileLine tile cached) = generateTileID tile := by
  have number {names : List String} {value : Int32}
      (field : lastField names (Message.tileLine tile cached) = some (showInt value.toInt))
      : numberText names (Message.tileLine tile cached) = showInt value.toInt := by
    rw [numberText, field]
    dsimp only
    rw [parseInt_showInt]
  have part : lastField ["part"] (Message.tileLine tile cached) = some (showInt tile.part.toInt) := by
    rw [lastField_tileLine (by decide) (by decide)]
    simp [TileDesc.headFields]
  have x : lastField ["tileposx", "x"] (Message.tileLine tile cached)
      = some (showInt tile.tilePosX.toInt) := by
    rw [lastField_tileLine (by decide) (by decide)]
    simp [TileDesc.headFields]
  have y : lastField ["tileposy", "y"] (Message.tileLine tile cached)
      = some (showInt tile.tilePosY.toInt) := by
    rw [lastField_tileLine (by decide) (by decide)]
    simp [TileDesc.headFields]
  have width : lastField ["tilewidth"] (Message.tileLine tile cached)
      = some (showInt tile.tileWidth.toInt) := by
    rw [lastField_tileLine (by decide) (by decide)]
    simp [TileDesc.headFields]
  have height : lastField ["tileheight"] (Message.tileLine tile cached)
      = some (showInt tile.tileHeight.toInt) := by
    rw [lastField_tileLine (by decide) (by decide)]
    simp [TileDesc.headFields]
  have view : lastField ["nviewid"] (Message.tileLine tile cached)
      = some (showInt tile.normalizedViewId.toInt) := by
    rw [lastField_tileLine (by decide) (by decide)]
    simp [TileDesc.headFields]
  rw [tileMsgID, number part, number x, number y, number width, number height, view,
    Option.getD_some, generateTileID]

/-- The browser acknowledges a tile message, and no other one. -/
theorem onSocketMessage_tile (tile : TileDesc) (cached : Bool) (image : Text)
    : onSocketMessage (Message.tile tile cached image).data
      = some ("tileprocessed tile=".toList ++ generateTileID tile) := by
  have starts : "tile:".toList.isPrefixOf (Message.tileLine tile cached) = true := by
    rw [List.isPrefixOf_iff_prefix, Message.tileLine_eq]
    exact List.prefix_append _ _
  have line : getFirstLine (Message.tile tile cached image).data = Message.tileLine tile cached :=
    Message.firstLine_tile tile cached image
  rw [onSocketMessage, line, starts, if_pos rfl, tileMsgID_tileLine]

/-- Another message is no tile. -/
theorem onSocketMessage_other {data : Text} (noTile : ¬ "tile:".toList <+: data)
    : onSocketMessage data = none := by
  rw [onSocketMessage, if_neg]
  rw [List.isPrefixOf_iff_prefix]
  intro starts
  exact noTile (starts.trans (List.takeWhile_prefix _))

end NdcOdfWeb.Client
