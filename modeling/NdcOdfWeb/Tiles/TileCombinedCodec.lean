import Mathlib.Data.List.Nodup
import NdcOdfWeb.Protocol.ListTokens
import NdcOdfWeb.Tiles.TileCombined
import NdcOdfWeb.Tiles.TileDescCodec

/-! Serialised tile combinations, and what the constructor makes of lists of numbers. -/

namespace NdcOdfWeb.Tiles

open NdcOdfWeb.Foundation
open NdcOdfWeb.Protocol

-----------------------------------------------------------------------------------------
-- List fields
-----------------------------------------------------------------------------------------

/-- A list is written behind what was written before, by induction on its values. -/
theorem written_writeList (stream : OutputStream) (values : List Text)
    : (writeList stream values).written = stream.written ++ terminated ',' values := by
  induction values generalizing stream with
  | nil => simp [writeList, terminated]
  | cons value values ih =>
      have later := ih ((stream.write value).write [','])
      simp only [writeList, List.foldl_cons] at later ⊢
      simp [later, terminated]

/-- A list is written to a fresh stream, whose position stays at its end. -/
theorem buffer_writeList (values : List Text)
    : (writeList OutputStream.empty values).buffer = terminated ',' values := by
  have atEnd : ∀ stream : OutputStream, stream.position = stream.buffer.length
      → (writeList stream values).position = (writeList stream values).buffer.length := by
    induction values with
    | nil => exact fun _ atEnd => atEnd
    | cons value values ih =>
        intro stream atEnd
        exact ih _ (OutputStream.write_atEnd (OutputStream.write_atEnd atEnd value) [','])
  rw [OutputStream.buffer_eq_written (atEnd OutputStream.empty rfl), written_writeList]
  simp

/-- The word of a list field; without entries, seeking back goes over the equals sign. -/
def listWord (name : String) (values : List Text) : Text :=
  if values = [] then name.toList else word name ([','].intercalate values)

/-- A field of values is written as its name and its list; the last comma is taken back. -/
theorem written_writeField (stream : OutputStream) (name : String) (values : List Text)
    : (writeField stream name values).written
      = stream.written ++ ' ' :: listWord name values := by
  by_cases empty : values = []
  · have equals : stream.written ++ field name []
        = (stream.written ++ ' ' :: name.toList) ++ ['='] := by
      simp [field, word]
    simp only [writeField, OutputStream.written_seekBack, written_writeList,
      OutputStream.written_write, empty, terminated, List.flatMap_nil, List.append_nil, equals,
      List.dropLast_concat]
    simp [listWord]
  · simp only [writeField, OutputStream.written_seekBack, written_writeList,
      OutputStream.written_write, terminated_eq empty, ← List.append_assoc,
      List.dropLast_concat]
    simp [field, listWord, word, empty]

/-- Words that are joined by commas are one word, by induction on them. -/
theorem intercalate_lineWord {values : List Text}
    (clean : ∀ value ∈ values, LineWord ' ' value)
    : LineWord ' ' ([','].intercalate values) := by
  induction values with
  | nil => simp [LineWord]
  | cons value rest ih =>
      have later := ih (fun other member => clean other (List.mem_cons_of_mem value member))
      by_cases last : rest = []
      · simpa [last] using clean value (by simp)
      · rw [List.intercalate_cons_of_ne_nil last]
        have comma : LineWord ' ' [','] := by decide
        exact ((clean value (by simp)).append comma).append later

/-- A field of words is one word. -/
theorem listWord_lineWord {name : String} {values : List Text}
    (names : LineWord ' ' name.toList) (clean : ∀ value ∈ values, LineWord ' ' value)
    : LineWord ' ' (listWord name values) := by
  unfold listWord
  split
  · exact names
  · exact word_lineWord names (intercalate_lineWord clean)

/-- The position and version lists of a tile list. -/
def tileInts (tiles : List TileDesc) (show' : TileDesc → Int32) : List Text :=
  tiles.map (fun tile => showInt (show' tile).toInt)

/-- The wire id lists of a tile list. -/
def tileWires (tiles : List TileDesc) (show' : TileDesc → UInt32) : List Text :=
  tiles.map (fun tile => showNat (show' tile).toNat)

/-- Written integers are words. -/
theorem tileInts_lineWord (tiles : List TileDesc) (show' : TileDesc → Int32)
    : ∀ value ∈ tileInts tiles show', LineWord ' ' value := by
  intro value member
  obtain ⟨tile, -, rfl⟩ := List.mem_map.mp member
  exact showInt_lineWord _

/-- Written wire ids are words. -/
theorem tileWires_lineWord (tiles : List TileDesc) (show' : TileDesc → UInt32)
    : ∀ value ∈ tileWires tiles show', LineWord ' ' value := by
  intro value member
  obtain ⟨tile, -, rfl⟩ := List.mem_map.mp member
  exact showNat_lineWord _

/-- Written integers hold no comma. -/
theorem tileInts_listEntry (tiles : List TileDesc) (show' : TileDesc → Int32)
    : ∀ value ∈ tileInts tiles show', ListEntry ',' value := by
  intro value member
  obtain ⟨tile, -, rfl⟩ := List.mem_map.mp member
  exact showInt_listEntry _

/-- Written wire ids hold no comma. -/
theorem tileWires_listEntry (tiles : List TileDesc) (show' : TileDesc → UInt32)
    : ∀ value ∈ tileWires tiles show', ListEntry ',' value := by
  intro value member
  obtain ⟨tile, -, rfl⟩ := List.mem_map.mp member
  exact showNat_listEntry _

-----------------------------------------------------------------------------------------
-- The constructor
-----------------------------------------------------------------------------------------

/-- The lists of a constructor call hold the numbers of `tiles`, entry by entry; without
image sizes, these are all 0.
-/
structure TileLists.Of (lists : TileLists) (tiles : List TileDesc) : Prop where
  tilePositionsX : stringTokenizer ',' lists.tilePositionsX = tileInts tiles TileDesc.tilePosX
  tilePositionsY : stringTokenizer ',' lists.tilePositionsY = tileInts tiles TileDesc.tilePosY
  vers : stringTokenizer ',' lists.vers = tileInts tiles TileDesc.ver
  imgSizes
    : stringTokenizer ',' lists.imgSizes = tileInts tiles TileDesc.imgSize
      ∨ lists.imgSizes = [] ∧ ∀ tile ∈ tiles, tile.imgSize = 0
  oldWireIds : stringTokenizer ',' lists.oldWireIds = tileWires tiles TileDesc.oldWireId
  wireIds : stringTokenizer ',' lists.wireIds = tileWires tiles TileDesc.wireId

/-- The lists of the same tiles are equally long. -/
theorem TileLists.Of.equalCounts {lists : TileLists} {tiles : List TileDesc}
    (of : lists.Of tiles)
    : unequalCounts lists = false := by
  have images : (!lists.imgSizes.isEmpty
      && (tileInts tiles TileDesc.tilePosX).length
        != (stringTokenizer ',' lists.imgSizes).length) = false := by
    rcases of.imgSizes with given | ⟨absent, -⟩
    · simp [given, tileInts]
    · simp [absent]
  simp only [unequalCounts, of.tilePositionsX, of.tilePositionsY, of.vers, of.oldWireIds,
    of.wireIds, images]
  simp [tileInts, tileWires]

/-- An entry that is there and that is read. -/
theorem listEntry_read {α : Type} {read : Text → Except Exception (Option α)} {what : String}
    {initial value : α} {tokens : List Text} {i : Nat} {token : Text}
    (there : tokens[i]? = some token) (reads : read token = .ok (some value))
    : listEntry read what initial tokens i = .ok value := by
  simp only [listEntry, there, reads]
  rfl

/-- The integer of a tile is read back from its list. -/
theorem listEntry_int {tiles : List TileDesc} {i : Nat} {tile : TileDesc}
    (there : tiles[i]? = some tile) (show' : TileDesc → Int32) (what : String)
    (initial : Int32)
    : listEntry stringToInteger what initial (tileInts tiles show') i = .ok (show' tile) :=
  listEntry_read (by simp [tileInts, there]) (stringToInteger_showInt _)

/-- A wire id is read back, since it fits the range of the conversion. -/
theorem stringToUInt32_showNat (value : UInt32)
    : stringToUInt32 (showNat value.toNat) = .ok (some value) := by
  have bound : value.toNat < 2 ^ 64 := Nat.lt_trans value.toNat_lt (by decide)
  have read := stoul_showNat bound endsNumber_nil
  rw [List.append_nil] at read
  simp only [stringToUInt32, read, UInt32.ofNat_toNat]

/-- The wire id of a tile is read back from its list. -/
theorem listEntry_wire {tiles : List TileDesc} {i : Nat} {tile : TileDesc}
    (there : tiles[i]? = some tile) (show' : TileDesc → UInt32) (what : String)
    (initial : UInt32)
    : listEntry stringToUInt32 what initial (tileWires tiles show') i = .ok (show' tile) :=
  listEntry_read (by simp [tileWires, there]) (stringToUInt32_showNat _)

/-- The loop over the positions reads back tile `i`. -/
theorem TileHeader.tileAt_of {header : TileHeader} {lists : TileLists} {tiles : List TileDesc}
    (of : lists.Of tiles) {i : Nat} {tile : TileDesc} (there : tiles[i]? = some tile)
    (agrees : tile.header = header ∧ tile.broadcast = false)
    : header.tileAt lists i = .ok ⟨tile, agrees⟩ := by
  obtain ⟨rfl, plain⟩ := agrees
  have image : listEntry stringToInteger "Invalid 'imgsize' in tilecombine descriptor." 0
      (stringTokenizer ',' lists.imgSizes) i = .ok tile.imgSize := by
    rcases of.imgSizes with given | ⟨absent, zero⟩
    · rw [given]
      exact listEntry_int there TileDesc.imgSize _ _
    · rw [absent, zero tile (List.mem_of_getElem? there)]
      rfl
  have made : TileDesc.make tile.header.normalizedViewId tile.header.part tile.header.width
      tile.header.height tile.tilePosX tile.tilePosY tile.header.tileWidth
      tile.header.tileHeight tile.ver tile.imgSize tile.header.id false
      = .ok { tile with oldWireId := 0, wireId := 0 } := by
    have self := tile.make_self
    rw [plain] at self ⊢
    exact self
  simp only [TileHeader.tileAt, of.tilePositionsX, of.tilePositionsY, of.vers, of.oldWireIds,
    of.wireIds, image, listEntry_int there, listEntry_wire there, bind, Except.bind]
  split
  · next failed => rw [made] at failed; cases failed
  · next made' => rw [made] at made'; cases made'; rfl

/-- What is read for each index is read for the whole list, by induction on it. -/
theorem mapM_range {α : Type} {f : Nat → Except Exception α} {values : List α}
    (reads : ∀ i value, values[i]? = some value → f i = .ok value)
    : (List.range values.length).mapM f = .ok values := by
  induction values generalizing f with
  | nil => rfl
  | cons value values ih =>
      have later := @ih (fun i => f (i + 1)) (fun i next there => reads (i + 1) next there)
      have first := reads 0 value rfl
      rw [List.length_cons, List.range_succ_eq_map, List.mapM_cons, List.mapM_map, first]
      simp only [bind, Except.bind, Function.comp_def, later]
      rfl

/-- The constructor builds the combination from lists of its tiles' numbers. -/
theorem TileCombined.make_of (combined : TileCombined) {lists : TileLists}
    (of : lists.Of combined.tiles)
    : TileCombined.make combined.toTileHeader lists = .ok combined := by
  have unattached : (combined.tiles.attachWith _ combined.agree).unattach = combined.tiles :=
    List.unattach_attachWith
  have count : (stringTokenizer ',' lists.tilePositionsX).length
      = (combined.tiles.attachWith _ combined.agree).length := by
    simp [of.tilePositionsX, tileInts]
  have reads : ∀ i tile, (combined.tiles.attachWith _ combined.agree)[i]? = some tile
      → combined.toTileHeader.tileAt lists i = .ok tile := by
    intro i tile there
    have inTiles : combined.tiles[i]? = some tile.val := by
      rw [← unattached, List.getElem?_unattach, there]
      rfl
    exact TileHeader.tileAt_of of inTiles tile.property
  rw [TileCombined.make, dif_neg (by simp [combined.valid]),
    if_neg (by simp [of.equalCounts]), count, mapM_range reads]
  simp only [bind, Except.bind, pure, Except.pure, unattached]

/-- The tile as it is listed in a combined request: no id, image size or broadcast. -/
def TileDesc.component (tile : TileDesc) : TileDesc :=
  { tile with
    id := -1
    imgSize := 0
    broadcast := false
    valid := by
      have valid := tile.valid
      simp only [invalidDescriptor, Bool.or_eq_false_iff, decide_eq_false_iff_not] at valid ⊢
      exact ⟨valid.1, by decide⟩ }

/-- `create` lists the components of tiles that share a header. -/
theorem TileCombined.create_eq {first : TileDesc} {others : List TileDesc}
    (same : ∀ tile ∈ others, tile.component.header = first.component.header)
    : ∃ combined : TileCombined,
        TileCombined.create first others = .ok combined
        ∧ combined.toTileHeader = first.component.header
        ∧ combined.tiles = (first :: others).map TileDesc.component := by
  have valid : invalidCombined first.normalizedViewId first.part first.width first.height
      first.tileWidth first.tileHeight = false := by
    have whole := first.valid
    simp only [invalidDescriptor, invalidCombined, Bool.or_eq_false_iff] at whole ⊢
    tauto
  have agree : ∀ tile ∈ (first :: others).map TileDesc.component,
      tile.header = first.component.header ∧ tile.broadcast = false := by
    intro tile member
    obtain ⟨original, inside, rfl⟩ := List.mem_map.mp member
    refine ⟨?_, rfl⟩
    rcases List.mem_cons.mp inside with rfl | later
    · rfl
    · exact same original later
  let combined : TileCombined := {
    toTileHeader := first.component.header
    tiles := (first :: others).map TileDesc.component
    valid := valid
    agree := agree
  }
  refine ⟨combined, TileCombined.make_of combined ?_, rfl, rfl⟩
  have ints : ∀ show' : TileDesc → Int32, (∀ tile, show' tile.component = show' tile)
      → stringTokenizer ','
          (writeList OutputStream.empty (tileInts (first :: others) show')).buffer
        = tileInts combined.tiles show' := by
    intro show' kept
    rw [buffer_writeList, stringTokenizer_terminated (tileInts_listEntry _ show')]
    simp [combined, tileInts, kept]
  have wires : ∀ show' : TileDesc → UInt32, (∀ tile, show' tile.component = show' tile)
      → stringTokenizer ','
          (writeList OutputStream.empty (tileWires (first :: others) show')).buffer
        = tileWires combined.tiles show' := by
    intro show' kept
    rw [buffer_writeList, stringTokenizer_terminated (tileWires_listEntry _ show')]
    simp [combined, tileWires, kept]
  exact {
    tilePositionsX := ints TileDesc.tilePosX (fun _ => rfl)
    tilePositionsY := ints TileDesc.tilePosY (fun _ => rfl)
    vers := ints TileDesc.ver (fun _ => rfl)
    imgSizes := Or.inr ⟨rfl, by simp [combined, TileDesc.component]⟩
    oldWireIds := wires TileDesc.oldWireId (fun _ => rfl)
    wireIds := wires TileDesc.wireId (fun _ => rfl)
  }

-----------------------------------------------------------------------------------------
-- Parsing a serialised combination
-----------------------------------------------------------------------------------------

/-- The integer fields in front of the first list. -/
def TileHeader.frontFields (header : TileHeader) : List (String × Int32) :=
  [
    ("nviewid", header.normalizedViewId), ("part", header.part), ("width", header.width),
    ("height", header.height)
  ]

/-- The integer fields between the lists. -/
def TileHeader.sizeFields (header : TileHeader) : List (String × Int32) :=
  [("tilewidth", header.tileWidth), ("tileheight", header.tileHeight)]

/-- The optional integer field behind the lists. -/
def TileHeader.idFields (header : TileHeader) : List (String × Int32) :=
  if header.id ≥ 0 then [("id", header.id)] else []

/-- The list fields in front of the tile size. -/
def positionLists (tiles : List TileDesc) : List (String × List Text) :=
  [
    ("tileposx", tileInts tiles TileDesc.tilePosX), ("tileposy", tileInts tiles TileDesc.tilePosY),
    ("imgsize", tileInts tiles TileDesc.imgSize)
  ]

/-- The list fields behind the tile size. -/
def versionLists (tiles : List TileDesc) : List (String × List Text) :=
  [
    ("ver", tileInts tiles TileDesc.ver), ("oldwid", tileWires tiles TileDesc.oldWireId),
    ("wid", tileWires tiles TileDesc.wireId)
  ]

/-- The words of list fields. -/
def listWords (lists : List (String × List Text)) : List Text :=
  lists.map (fun entry => listWord entry.1 entry.2)

/-- All words of a serialised combination. -/
def TileCombined.words (combined : TileCombined) : List Text :=
  intWords combined.frontFields ++ listWords (positionLists combined.tiles)
    ++ intWords combined.sizeFields ++ listWords (versionLists combined.tiles)
    ++ intWords combined.idFields

/-- A combination is written as its words. -/
theorem TileCombined.serialize_eq (initial : Text) (combined : TileCombined)
    : combined.serialize initial = initial ++ spaced ' ' combined.words := by
  have id : spaced ' ' (intWords combined.idFields)
      = if combined.id ≥ 0 then field "id" (showInt combined.id.toInt) else [] := by
    simp only [TileHeader.idFields, intWords, apply_ite (List.map _), List.map_cons,
      List.map_nil, apply_ite (spaced ' '), spaced_cons, spaced_nil, List.append_nil, field]
  simp only [TileCombined.serialize, apply_ite OutputStream.written,
    OutputStream.written_write, written_writeField, OutputStream.written_empty,
    TileCombined.words, spaced_append, id]
  simp only [intWords, listWords, TileHeader.frontFields, TileHeader.sizeFields, positionLists,
    versionLists, tileInts, tileWires, List.map_cons, List.map_nil, spaced_cons, spaced_nil,
    field, List.append_assoc, List.cons_append, List.nil_append]
  split <;> simp

/-- A token without a value is skipped. -/
theorem CombinedState.token_plain (state : CombinedState) {token : Text} (clean : '=' ∉ token)
    : state.token token = .ok state := by
  simp only [CombinedState.token, parseNameValuePair_none clean]

/-- A token with an integer sets its field. -/
theorem CombinedState.token_int (state : CombinedState) {name : String}
    (clean : '=' ∉ name.toList) (notList : name.toList ∉ listNames) (value : Int32)
    : state.token (word name (showInt value.toInt))
      = .ok { state with pairs := Function.update state.pairs name.toList value } := by
  have pair := parseNameValuePair_field clean (showInt value.toInt)
  simp only [CombinedState.token, word, pair, notList, if_false, stringToInteger_showInt]
  rfl

/-- A token with a list sets its text. -/
theorem CombinedState.token_list (state : CombinedState) {name : String}
    (clean : '=' ∉ name.toList) (isList : name.toList ∈ listNames) {values : List Text}
    (nonempty : values ≠ [])
    : state.token (listWord name values)
      = .ok { state with
          texts := Function.update state.texts name.toList ([','].intercalate values) } := by
  have pair := parseNameValuePair_field clean ([','].intercalate values)
  simp only [CombinedState.token, listWord, nonempty, if_false, word, pair, isList, if_true]

/-- All integers are set, by induction on the fields. -/
theorem CombinedState.foldlM_ints {fields : List (String × Int32)}
    (names : ∀ entry ∈ fields, '=' ∉ entry.1.toList ∧ entry.1.toList ∉ listNames)
    (state : CombinedState)
    : (intWords fields).foldlM CombinedState.token state
      = .ok { state with pairs := setPairs state.pairs fields } := by
  induction fields generalizing state with
  | nil => rfl
  | cons entry rest ih =>
      obtain ⟨clean, notList⟩ := names entry (by simp)
      have step := state.token_int clean notList entry.2
      have later := ih (fun next member => names next (by simp [member]))
        { state with pairs := Function.update state.pairs entry.1.toList entry.2 }
      simp only [intWords, List.map_cons, List.foldlM_cons, step]
      exact later

/-- The texts of the list fields that have entries. -/
def listTexts (lists : List (String × List Text)) : List (String × Text) :=
  (lists.filter (fun entry => entry.2 ≠ [])).map
    (fun entry => (entry.1, [','].intercalate entry.2))

/-- All lists are set, by induction on them. -/
theorem CombinedState.foldlM_lists {lists : List (String × List Text)}
    (names : ∀ entry ∈ lists, '=' ∉ entry.1.toList ∧ entry.1.toList ∈ listNames)
    (state : CombinedState)
    : (listWords lists).foldlM CombinedState.token state
      = .ok { state with texts := setPairs state.texts (listTexts lists) } := by
  induction lists generalizing state with
  | nil => rfl
  | cons entry rest ih =>
      obtain ⟨clean, isList⟩ := names entry (by simp)
      have later := ih (fun next member => names next (by simp [member]))
      by_cases empty : entry.2 = []
      · have step := state.token_plain clean
        have same : listTexts (entry :: rest) = listTexts rest := by
          simp [listTexts, empty]
        simp only [listWords, List.map_cons, List.foldlM_cons, listWord, empty, if_true, step,
          same]
        exact later state
      · have step := state.token_list clean isList empty
        have same : listTexts (entry :: rest)
            = (entry.1, [','].intercalate entry.2) :: listTexts rest := by
          simp [listTexts, empty]
        simp only [listWords, List.map_cons, List.foldlM_cons, step, same]
        exact later _

/-- A list variable holds the text of its field; it stays empty for a field without
entries.
-/
theorem setPairs_listTexts {lists : List (String × List Text)} {name : String}
    {values : List Text} (unique : (lists.map (fun entry => entry.1.toList)).Nodup)
    (member : (name, values) ∈ lists)
    : setPairs CombinedState.initial.texts (listTexts lists) name.toList
      = [','].intercalate values := by
  have kept : ((listTexts lists).map (fun entry => entry.1.toList)).Nodup := by
    have sublist : (lists.filter (fun entry => entry.2 ≠ [])).Sublist lists :=
      List.filter_sublist
    simp only [listTexts, List.map_map]
    exact (sublist.map (fun entry => entry.1.toList)).nodup unique
  by_cases empty : values = []
  · rw [setPairs_of_not_mem, empty]
    · rfl
    · intro found
      simp only [listTexts, List.map_map, List.mem_map, List.mem_filter,
        decide_eq_true_eq] at found
      obtain ⟨entry, ⟨inLists, entries⟩, same⟩ := found
      have equal := List.inj_on_of_nodup_map unique inLists member same
      simp [equal, empty] at entries
  · refine setPairs_of_mem _ kept ?_
    simp only [listTexts, List.mem_map, List.mem_filter, decide_eq_true_eq]
    exact ⟨(name, values), ⟨member, empty⟩, rfl⟩

/-- The optional field is the id. -/
theorem TileHeader.idFields_names (header : TileHeader)
    : (header.idFields.map Prod.fst).Sublist ["id"] := by
  simp only [TileHeader.idFields]
  split <;> simp

/-- The integer fields of a serialised combination. -/
def TileHeader.fields (header : TileHeader) : List (String × Int32) :=
  header.frontFields ++ header.sizeFields ++ header.idFields

/-- The list fields of a serialised combination. -/
def tileLists (tiles : List TileDesc) : List (String × List Text) :=
  positionLists tiles ++ versionLists tiles

/-- The parser reads the words of a combination from the front to the back: integers, lists,
integers.
-/
theorem TileCombined.foldlM_words (combined : TileCombined)
    : combined.words.foldlM CombinedState.token CombinedState.initial
      = .ok {
          pairs := setPairs CombinedState.initial.pairs combined.fields
          texts := setPairs CombinedState.initial.texts (listTexts (tileLists combined.tiles))
        } := by
  have front : ∀ entry ∈ combined.frontFields,
      '=' ∉ entry.1.toList ∧ entry.1.toList ∉ listNames := by
    simp only [TileHeader.frontFields, List.forall_mem_cons]
    decide
  have size : ∀ entry ∈ combined.sizeFields,
      '=' ∉ entry.1.toList ∧ entry.1.toList ∉ listNames := by
    simp only [TileHeader.sizeFields, List.forall_mem_cons]
    decide
  have id : ∀ entry ∈ combined.idFields,
      '=' ∉ entry.1.toList ∧ entry.1.toList ∉ listNames := by
    intro entry member
    have name := combined.idFields_names.subset (List.mem_map_of_mem member)
    rw [List.mem_singleton.mp name]
    decide
  have positions : ∀ entry ∈ positionLists combined.tiles,
      '=' ∉ entry.1.toList ∧ entry.1.toList ∈ listNames := by
    simp only [positionLists, List.forall_mem_cons]
    decide
  have versions : ∀ entry ∈ versionLists combined.tiles,
      '=' ∉ entry.1.toList ∧ entry.1.toList ∈ listNames := by
    simp only [versionLists, List.forall_mem_cons]
    decide
  simp only [TileCombined.words, List.foldlM_append, CombinedState.foldlM_ints front,
    CombinedState.foldlM_ints size, CombinedState.foldlM_ints id,
    CombinedState.foldlM_lists positions, CombinedState.foldlM_lists versions, bind,
    Except.bind, setPairs_append]
  simp only [TileHeader.fields, tileLists, listTexts, List.filter_append, List.map_append]

/-- No field of the header is written twice. -/
theorem TileHeader.fields_unique (header : TileHeader)
    : (header.fields.map (fun entry => entry.1.toList)).Nodup := by
  have names : (header.fields.map Prod.fst).Sublist
      ["nviewid", "part", "width", "height", "tilewidth", "tileheight", "id"] := by
    rw [TileHeader.fields, List.map_append]
    exact header.idFields_names.append_left _
  have unique := names.map String.toList
  rw [List.map_map] at unique
  exact unique.nodup (by decide)

/-- No list is written twice. -/
theorem tileLists_unique (tiles : List TileDesc)
    : ((tileLists tiles).map (fun entry => entry.1.toList)).Nodup := by
  simp only [tileLists, positionLists, versionLists, List.cons_append, List.nil_append,
    List.map_cons, List.map_nil]
  decide

/-- The words hold no blank and no line end. -/
theorem TileCombined.words_lineWord (combined : TileCombined)
    : ∀ text ∈ combined.words, LineWord ' ' text := by
  have lists : ∀ fields : List (String × List Text),
      (∀ entry ∈ fields, LineWord ' ' entry.1.toList
        ∧ ∀ value ∈ entry.2, LineWord ' ' value)
      → ∀ text ∈ listWords fields, LineWord ' ' text := by
    intro fields clean text member
    obtain ⟨entry, inFields, rfl⟩ := List.mem_map.mp member
    exact listWord_lineWord (clean entry inFields).1 (clean entry inFields).2
  have id : ∀ entry ∈ combined.idFields, LineWord ' ' entry.1.toList := by
    intro entry member
    have name := combined.idFields_names.subset (List.mem_map_of_mem member)
    rw [List.mem_singleton.mp name]
    decide
  intro text member
  simp only [TileCombined.words, List.mem_append] at member
  rcases member with (((front | positions) | size) | versions) | last
  · refine intWords_lineWord ?_ text front
    simp only [TileHeader.frontFields, List.forall_mem_cons]
    decide
  · refine lists _ ?_ text positions
    simp only [positionLists, List.forall_mem_cons]
    exact ⟨⟨by decide, tileInts_lineWord _ _⟩, ⟨by decide, tileInts_lineWord _ _⟩,
      ⟨by decide, tileInts_lineWord _ _⟩, by simp⟩
  · refine intWords_lineWord ?_ text size
    simp only [TileHeader.sizeFields, List.forall_mem_cons]
    decide
  · refine lists _ ?_ text versions
    simp only [versionLists, List.forall_mem_cons]
    exact ⟨⟨by decide, tileInts_lineWord _ _⟩, ⟨by decide, tileWires_lineWord _ _⟩,
      ⟨by decide, tileWires_lineWord _ _⟩, by simp⟩
  · exact intWords_lineWord id text last

/-- The words are not empty. -/
theorem TileCombined.words_ne_nil (combined : TileCombined)
    : ∀ text ∈ combined.words, text ≠ [] := by
  intro text member
  have lists : ∀ fields : List (String × List Text), (∀ entry ∈ fields, entry.1.toList ≠ [])
      → ∀ text ∈ listWords fields, text ≠ [] := by
    intro fields names text member
    obtain ⟨entry, inFields, rfl⟩ := List.mem_map.mp member
    unfold listWord
    split
    · exact names entry inFields
    · exact word_ne_nil _ _
  have ints : ∀ fields, ∀ text ∈ intWords fields, text ≠ [] := by
    intro fields text member
    obtain ⟨entry, -, rfl⟩ := List.mem_map.mp member
    exact word_ne_nil _ _
  simp only [TileCombined.words, List.mem_append] at member
  rcases member with (((front | positions) | size) | versions) | last
  · exact ints _ text front
  · refine lists _ ?_ text positions
    simp only [positionLists, List.forall_mem_cons]
    decide
  · exact ints _ text size
  · refine lists _ ?_ text versions
    simp only [versionLists, List.forall_mem_cons]
    decide
  · exact ints _ text last

/-- A header whose negative id has become -1. -/
def TileHeader.withReadId (header : TileHeader) : TileHeader :=
  { header with id := if header.id ≥ 0 then header.id else -1 }

/-- The combination that is read back: every negative id becomes -1. -/
def TileCombined.withReadId (combined : TileCombined) : TileCombined where
  toTileHeader := combined.toTileHeader.withReadId
  tiles := combined.tiles.map TileDesc.withReadId
  valid := combined.valid
  agree := by
    intro tile member
    obtain ⟨original, inside, rfl⟩ := List.mem_map.mp member
    obtain ⟨same, plain⟩ := combined.agree original inside
    rw [← same]
    exact ⟨rfl, plain⟩

/-- The id is read back, or it is -1 where none was written. -/
theorem TileHeader.setPairs_id (header : TileHeader)
    : setPairs CombinedState.initial.pairs header.fields "id".toList = header.withReadId.id := by
  by_cases preview : header.id ≥ 0
  · have member : ("id", header.id) ∈ header.fields := by
      simp [TileHeader.fields, TileHeader.idFields, preview]
    rw [setPairs_of_mem _ header.fields_unique member]
    simp [TileHeader.withReadId, preview]
  · rw [setPairs_of_not_mem]
    · simp [TileHeader.withReadId, preview, CombinedState.initial]
    · simp only [TileHeader.fields, TileHeader.frontFields, TileHeader.sizeFields,
        TileHeader.idFields, preview, if_false, List.append_nil, List.cons_append,
        List.nil_append, List.map_cons, List.map_nil]
      decide

/-- The constructor's lists as they are written. -/
def intercalatedLists (tiles : List TileDesc) : TileLists where
  tilePositionsX := [','].intercalate (tileInts tiles TileDesc.tilePosX)
  tilePositionsY := [','].intercalate (tileInts tiles TileDesc.tilePosY)
  vers := [','].intercalate (tileInts tiles TileDesc.ver)
  imgSizes := [','].intercalate (tileInts tiles TileDesc.imgSize)
  oldWireIds := [','].intercalate (tileWires tiles TileDesc.oldWireId)
  wireIds := [','].intercalate (tileWires tiles TileDesc.wireId)

/-- No list depends on the id that is read back. -/
theorem intercalatedLists_of (tiles : List TileDesc)
    : (intercalatedLists tiles).Of (tiles.map TileDesc.withReadId) := by
  have ints : ∀ show' : TileDesc → Int32, (∀ tile, show' tile.withReadId = show' tile)
      → stringTokenizer ',' ([','].intercalate (tileInts tiles show'))
        = tileInts (tiles.map TileDesc.withReadId) show' := by
    intro show' kept
    rw [stringTokenizer_intercalate (tileInts_listEntry _ show')]
    simp [tileInts, kept]
  have wires : ∀ show' : TileDesc → UInt32, (∀ tile, show' tile.withReadId = show' tile)
      → stringTokenizer ',' ([','].intercalate (tileWires tiles show'))
        = tileWires (tiles.map TileDesc.withReadId) show' := by
    intro show' kept
    rw [stringTokenizer_intercalate (tileWires_listEntry _ show')]
    simp [tileWires, kept]
  exact {
    tilePositionsX := ints TileDesc.tilePosX (fun _ => rfl)
    tilePositionsY := ints TileDesc.tilePosY (fun _ => rfl)
    vers := ints TileDesc.ver (fun _ => rfl)
    imgSizes := Or.inl (ints TileDesc.imgSize (fun _ => rfl))
    oldWireIds := wires TileDesc.oldWireId (fun _ => rfl)
    wireIds := wires TileDesc.wireId (fun _ => rfl)
  }

/-- The tokens of a written combination are its words. -/
theorem TileCombined.tokenize_serialize {initial : Text} (clean : LineWord ' ' initial)
    (combined : TileCombined)
    : tokenize ' ' (combined.serialize initial)
      = [initial].filter (· ≠ []) ++ combined.words := by
  have words : combined.words.filter (· ≠ []) = combined.words :=
    List.filter_eq_self.mpr (fun text member => by simpa using combined.words_ne_nil text member)
  rw [combined.serialize_eq initial,
    tokenize_spaced (by decide) clean combined.words_lineWord, ← List.singleton_append,
    List.filter_append, words]

/-- `parse` reads back the header and every tile that `serialize` wrote. -/
theorem TileCombined.parse_serialize {initial : Text} (clean : LineWord ' ' initial)
    (equals : '=' ∉ initial) (combined : TileCombined)
    : TileCombined.parse (combined.serialize initial) = .ok combined.withReadId := by
  have tokens := combined.tokenize_serialize clean
  have plain : ∀ state : CombinedState,
      ([initial].filter (· ≠ [])).foldlM CombinedState.token state = .ok state := by
    intro state
    by_cases empty : initial = []
    · simp only [empty, ne_eq, not_true_eq_false, decide_false, List.filter_cons_of_neg,
        Bool.false_eq_true, not_false_eq_true, List.filter_nil, List.foldlM_nil]
      rfl
    · simp only [empty, ne_eq, not_false_eq_true, decide_true, List.filter_cons_of_pos,
        List.filter_nil, List.foldlM_cons, state.token_plain equals, List.foldlM_nil]
      rfl
  have ints : ∀ name value, (name, value) ∈ combined.fields
      → setPairs CombinedState.initial.pairs combined.fields name.toList = value :=
    fun name value member => setPairs_of_mem _ combined.fields_unique member
  have texts : ∀ name values, (name, values) ∈ tileLists combined.tiles
      → setPairs CombinedState.initial.texts (listTexts (tileLists combined.tiles)) name.toList
        = [','].intercalate values :=
    fun name values member => setPairs_listTexts (tileLists_unique combined.tiles) member
  have nviewid := ints "nviewid" combined.normalizedViewId
    (by simp [TileHeader.fields, TileHeader.frontFields])
  have part := ints "part" combined.part (by simp [TileHeader.fields, TileHeader.frontFields])
  have width := ints "width" combined.width
    (by simp [TileHeader.fields, TileHeader.frontFields])
  have height := ints "height" combined.height
    (by simp [TileHeader.fields, TileHeader.frontFields])
  have tilewidth := ints "tilewidth" combined.tileWidth
    (by simp [TileHeader.fields, TileHeader.sizeFields])
  have tileheight := ints "tileheight" combined.tileHeight
    (by simp [TileHeader.fields, TileHeader.sizeFields])
  have id := combined.setPairs_id
  have tileposx := texts "tileposx" (tileInts combined.tiles TileDesc.tilePosX)
    (by simp [tileLists, positionLists])
  have tileposy := texts "tileposy" (tileInts combined.tiles TileDesc.tilePosY)
    (by simp [tileLists, positionLists])
  have imgsize := texts "imgsize" (tileInts combined.tiles TileDesc.imgSize)
    (by simp [tileLists, positionLists])
  have ver := texts "ver" (tileInts combined.tiles TileDesc.ver)
    (by simp [tileLists, versionLists])
  have oldwid := texts "oldwid" (tileWires combined.tiles TileDesc.oldWireId)
    (by simp [tileLists, versionLists])
  have wid := texts "wid" (tileWires combined.tiles TileDesc.wireId)
    (by simp [tileLists, versionLists])
  rw [TileCombined.parse, TileCombined.parseTokens, tokens, List.foldlM_append, plain]
  simp only [bind, Except.bind, combined.foldlM_words, nviewid, part, width, height, tilewidth,
    tileheight, id, tileposx, tileposy, imgsize, ver, oldwid, wid]
  exact TileCombined.make_of combined.withReadId (intercalatedLists_of combined.tiles)

-----------------------------------------------------------------------------------------
-- Both descriptors
-----------------------------------------------------------------------------------------

/-- An id from -1 on is read back as it is. -/
theorem readId_eq {id : Int32} (atLeast : -1 ≤ id) : (if id ≥ 0 then id else -1) = id := by
  split
  · rfl
  · next negative =>
      simp only [Int32.le_iff_toInt_le, ge_iff_le] at atLeast negative
      apply Int32.toInt_inj.mp
      have minusOne : (-1 : Int32).toInt = -1 := by decide
      have zero : (0 : Int32).toInt = 0 := by decide
      omega

/-- A tile with an id from -1 on is read back as it is. -/
theorem TileDesc.withReadId_eq {tile : TileDesc} (atLeast : -1 ≤ tile.id)
    : tile.withReadId = tile := by
  simp only [TileDesc.withReadId, readId_eq atLeast]

/-- Combinations are equal if their headers and their tiles are. -/
theorem TileCombined.eq_of {left right : TileCombined}
    (header : left.toTileHeader = right.toTileHeader) (tiles : left.tiles = right.tiles)
    : left = right := by
  obtain ⟨leftHeader, leftTiles, _, _⟩ := left
  obtain ⟨rightHeader, rightTiles, _, _⟩ := right
  cases header
  cases tiles
  rfl

/-- A combination with an id from -1 on is read back as it is. -/
theorem TileCombined.withReadId_eq {combined : TileCombined} (atLeast : -1 ≤ combined.id)
    : combined.withReadId = combined := by
  have header : combined.toTileHeader.withReadId = combined.toTileHeader := by
    simp only [TileHeader.withReadId, readId_eq atLeast]
  have tiles : combined.tiles.map TileDesc.withReadId = combined.tiles := by
    conv_rhs => rw [← List.map_id combined.tiles]
    refine List.map_congr_left (fun tile member => TileDesc.withReadId_eq ?_)
    have same := congrArg TileHeader.id (combined.agree tile member).1
    exact Int32.le_trans atLeast (Int32.le_of_eq same.symm)
  exact TileCombined.eq_of header tiles

/-- Behind an initial text without `=` and blanks, `parse` inverts `serialize`: for every
tile whose id is at least -1, and for every combination up to a negative id, which stands
for no id and is read back as -1.
-/
theorem parse_serialize_inverse {initial : Text}
    (clean : ∀ c ∈ initial, c ≠ '=' ∧ isSpace c = false)
    : (∀ tile : TileDesc, -1 ≤ tile.id → TileDesc.parse (tile.serialize initial) = .ok tile)
      ∧ (∀ combined : TileCombined,
          TileCombined.parse (combined.serialize initial) = .ok combined.withReadId)
      ∧ ∀ combined : TileCombined,
          -1 ≤ combined.id
          → TileCombined.parse (combined.serialize initial) = .ok combined := by
  have equals : '=' ∉ initial := fun member => (clean '=' member).1 rfl
  have words : LineWord ' ' initial := by
    constructor
    · intro member
      exact absurd (clean ' ' member).2 (by decide)
    · intro member
      exact absurd (clean '\n' member).2 (by decide)
  refine ⟨?_, ?_, ?_⟩
  · intro tile atLeast
    rw [tile.parse_serialize words equals, TileDesc.withReadId_eq atLeast]
  · intro combined
    exact combined.parse_serialize words equals
  · intro combined atLeast
    rw [combined.parse_serialize words equals, TileCombined.withReadId_eq atLeast]

/-- The tile at the origin of the first part. -/
def originTile : TileDesc where
  normalizedViewId := 0
  part := 0
  width := 256
  height := 256
  tilePosX := 0
  tilePosY := 0
  tileWidth := 3840
  tileHeight := 3840
  ver := 7
  imgSize := 0
  id := -1
  broadcast := false
  oldWireId := 0
  wireId := 42
  valid := by decide

/-- A combination of the origin tile alone. -/
def originCombined : TileCombined where
  toTileHeader := originTile.header
  tiles := [originTile]
  valid := by decide
  agree := by simp [originTile]

/-- The sizes and positions are all within the checks. -/
theorem nextTile_valid : invalidDescriptor 0 0 256 256 3840 0 3840 3840 0 = false := by
  decide

/-- The tile next to the origin. -/
def nextTile : TileDesc :=
  { originTile with tilePosX := 3840, oldWireId := 5, valid := nextTile_valid }

/-- A combination of the first two tiles of the first row. -/
def rowCombined : TileCombined where
  toTileHeader := originTile.header
  tiles := [originTile, nextTile]
  valid := by decide
  agree := by simp [originTile, nextTile, TileDesc.header]

/-- A tile with an old wire id, and two tiles of one row. -/
theorem parse_serialize_inverse_row
    : TileDesc.parse (nextTile.serialize "tile".toList) = .ok nextTile
      ∧ TileCombined.parse (rowCombined.serialize "tilecombine".toList)
        = .ok rowCombined.withReadId
      ∧ TileCombined.parse (rowCombined.serialize "tilecombine".toList) = .ok rowCombined :=
  ⟨(parse_serialize_inverse (by decide)).1 nextTile (by decide),
    (parse_serialize_inverse (by decide)).2.1 rowCombined,
    (parse_serialize_inverse (by decide)).2.2 rowCombined (by decide)⟩

/-- A request for one tile, with a negative id. -/
def negativeIdRequest : Text :=
  ("tilecombine nviewid=0 part=0 width=256 height=256 tileposx=0 tileposy=0"
    ++ " tilewidth=3840 tileheight=3840 id=-5").toList

/-- The parser accepts the negative id, but it is not written and not read back. -/
theorem negativeIdRequest_id_lost
    : ∃ combined : TileCombined,
        TileCombined.parse negativeIdRequest = .ok combined
        ∧ combined.tiles ≠ []
        ∧ ∀ result,
            TileCombined.parse (combined.serialize "tilecombine".toList) = .ok result
            → result.id ≠ combined.id := by
  have request : (TileCombined.parse negativeIdRequest).map
      (fun combined => (combined.tiles.length, combined.id)) = .ok (1, -5) := by
    decide +kernel
  cases parsed : TileCombined.parse negativeIdRequest with
  | error exception => simp [parsed, Except.map] at request
  | ok combined =>
      simp only [parsed, Except.map, Except.ok.injEq, Prod.mk.injEq] at request
      have nonempty : combined.tiles ≠ [] := by
        intro empty
        simp [empty] at request
      refine ⟨combined, rfl, nonempty, ?_⟩
      intro result again
      rw [combined.parse_serialize (by decide) (by decide)] at again
      cases again
      have minusOne : combined.withReadId.id = -1 := by
        simp only [TileCombined.withReadId, TileHeader.withReadId, request.2]
        decide
      rw [minusOne, request.2]
      decide

end NdcOdfWeb.Tiles
