import NdcOdfWeb.Foundation.OutputStream
import NdcOdfWeb.Tiles.TileDesc

/-! The combined tile descriptor: one header, and a list of tiles that agree with it. -/

namespace NdcOdfWeb.Tiles

open NdcOdfWeb.Foundation
open NdcOdfWeb.Protocol

/-- The argument check of the `TileCombined` constructor. -/
def invalidCombined (normalizedViewId part width height tileWidth tileHeight : Int32) : Bool :=
  normalizedViewId < 0 || part < 0 || width ≤ 0 || height ≤ 0 || tileWidth ≤ 0 || tileHeight ≤ 0

/-- The members of `TileCombined` other than its tiles. -/
structure TileHeader where
  normalizedViewId : Int32
  part : Int32
  width : Int32
  height : Int32
  tileWidth : Int32
  tileHeight : Int32
  id : Int32
deriving DecidableEq

/-- The header of a combination that has the tile in it. -/
def TileDesc.header (tile : TileDesc) : TileHeader where
  normalizedViewId := tile.normalizedViewId
  part := tile.part
  width := tile.width
  height := tile.height
  tileWidth := tile.tileWidth
  tileHeight := tile.tileHeight
  id := tile.id

/-- `TileCombined`: its constructor checks the header and gives every tile that header. -/
structure TileCombined extends TileHeader where
  tiles : List TileDesc
  valid : invalidCombined normalizedViewId part width height tileWidth tileHeight = false
  agree : ∀ tile ∈ tiles, tile.header = toTileHeader ∧ tile.broadcast = false

deriving instance DecidableEq for TileCombined

/-- `TileCombined::setNormalizedViewId`. -/
def TileCombined.setNormalizedViewId (combined : TileCombined) (viewId : Int32)
    (nonneg : ¬ viewId < 0)
    : TileCombined where
  toTileHeader := { combined.toTileHeader with normalizedViewId := viewId }
  tiles := combined.tiles.map (·.setNormalizedViewId viewId nonneg)
  valid := by
    have valid := combined.valid
    simp only [invalidCombined, Bool.or_eq_false_iff, decide_eq_false_iff_not] at valid ⊢
    exact ⟨⟨⟨⟨⟨nonneg, valid.1.1.1.1.2⟩, valid.1.1.1.2⟩, valid.1.1.2⟩, valid.1.2⟩, valid.2⟩
  agree := by
    intro tile member
    obtain ⟨before, inside, rfl⟩ := List.mem_map.mp member
    obtain ⟨header, broadcast⟩ := combined.agree before inside
    exact ⟨congrArg (fun it : TileHeader => { it with normalizedViewId := viewId }) header,
      broadcast⟩

-----------------------------------------------------------------------------------------
-- Construction
-----------------------------------------------------------------------------------------

/-- The comma-separated arguments of the constructor. -/
structure TileLists where
  tilePositionsX : Text
  tilePositionsY : Text
  vers : Text
  imgSizes : Text
  oldWireIds : Text
  wireIds : Text

/-- The count check: a list that is given has one entry for each position. -/
def unequalCounts (lists : TileLists) : Bool :=
  let numberOfPositions := (stringTokenizer ',' lists.tilePositionsX).length
  let unequal (list : Text) : Bool :=
    numberOfPositions != (stringTokenizer ',' list).length
  unequal lists.tilePositionsY
    || (!lists.imgSizes.isEmpty && unequal lists.imgSizes)
    || (!lists.vers.isEmpty && unequal lists.vers)
    || (!lists.oldWireIds.isEmpty && unequal lists.oldWireIds)
    || (!lists.wireIds.isEmpty && unequal lists.wireIds)

/-- Entry `i` of a list, read with `read`; a list without entries leaves the initial value. -/
def listEntry {α : Type} (read : Text → Except Exception (Option α)) (what : String)
    (initial : α) (tokens : List Text) (i : Nat)
    : Except Exception α :=
  match tokens[i]? with
  | none => .ok initial
  | some token => do
      match ← read token with
      | none => throw (.badArgument what)
      | some value => return value

/-- The constructor keeps the values it was given. -/
theorem TileDesc.make_header {normalizedViewId part width height tilePosX tilePosY tileWidth
      tileHeight ver imgSize id : Int32} {broadcast : Bool} {tile : TileDesc}
    (made
      : TileDesc.make normalizedViewId part width height tilePosX tilePosY tileWidth tileHeight
          ver imgSize id broadcast
        = .ok tile)
    : tile.header = ⟨normalizedViewId, part, width, height, tileWidth, tileHeight, id⟩
      ∧ tile.broadcast = broadcast := by
  unfold TileDesc.make at made
  split at made
  · cases made
  · cases made
    exact ⟨rfl, rfl⟩

/-- One pass through the constructor's loop over the positions. -/
def TileHeader.tileAt (header : TileHeader) (lists : TileLists) (i : Nat)
    : Except Exception { tile : TileDesc // tile.header = header ∧ tile.broadcast = false } := do
  let int := listEntry stringToInteger
  let wire := listEntry stringToUInt32 "Invalid tilecombine descriptor." 0
  let x ← int "Invalid 'tileposx' in tilecombine descriptor." 0
    (stringTokenizer ',' lists.tilePositionsX) i
  let y ← int "Invalid 'tileposy' in tilecombine descriptor." 0
    (stringTokenizer ',' lists.tilePositionsY) i
  let imgSize ← int "Invalid 'imgsize' in tilecombine descriptor." 0
    (stringTokenizer ',' lists.imgSizes) i
  let ver ← int "Invalid 'ver' in tilecombine descriptor." (-1)
    (stringTokenizer ',' lists.vers) i
  let oldWireId ← wire (stringTokenizer ',' lists.oldWireIds) i
  let wireId ← wire (stringTokenizer ',' lists.wireIds) i
  match made : TileDesc.make header.normalizedViewId header.part header.width header.height x y
      header.tileWidth header.tileHeight ver imgSize header.id false with
  | .error exception => .error exception
  | .ok tile =>
      have agrees := TileDesc.make_header made
      .ok ⟨{ tile with oldWireId, wireId }, agrees⟩

/-- The constructor of `TileCombined`. -/
def TileCombined.make (header : TileHeader) (lists : TileLists)
    : Except Exception TileCombined :=
  if invalid : invalidCombined header.normalizedViewId header.part header.width header.height
      header.tileWidth header.tileHeight = true then
    .error (.badArgument "Invalid tilecombine descriptor.")
  else if unequalCounts lists then
    .error
      (.badArgument "Invalid tilecombine descriptor. Unequal number of tiles in parameters.")
  else do
    let tiles ← (List.range (stringTokenizer ',' lists.tilePositionsX).length).mapM
      (header.tileAt lists)
    return {
      toTileHeader := header
      tiles := tiles.unattach
      valid := Bool.eq_false_iff.mpr invalid
      agree := fun _ member => (List.mem_unattach.mp member).1
    }

-----------------------------------------------------------------------------------------
-- Text form
-----------------------------------------------------------------------------------------

/-- Write every value with a comma behind it. -/
def writeList (stream : OutputStream) (values : List Text) : OutputStream :=
  values.foldl (fun stream value => (stream.write value).write [',']) stream

/-- Write a list field, then seek back over the last comma, which is overwritten below. -/
def writeField (stream : OutputStream) (name : String) (values : List Text) : OutputStream :=
  (writeList (stream.write (field name [])) values).seekBack

/-- `TileCombined::serialize`. -/
def TileCombined.serialize (initial : Text) (combined : TileCombined) : Text :=
  let ints (show' : TileDesc → Int32) : List Text :=
    combined.tiles.map (fun tile => showInt (show' tile).toInt)
  let wires (show' : TileDesc → UInt32) : List Text :=
    combined.tiles.map (fun tile => showNat (show' tile).toNat)
  let oss := OutputStream.empty.write initial
  let oss := oss.write (field "nviewid" (showInt combined.normalizedViewId.toInt))
  let oss := oss.write (field "part" (showInt combined.part.toInt))
  let oss := oss.write (field "width" (showInt combined.width.toInt))
  let oss := oss.write (field "height" (showInt combined.height.toInt))
  let oss := writeField oss "tileposx" (ints TileDesc.tilePosX)
  let oss := writeField oss "tileposy" (ints TileDesc.tilePosY)
  let oss := writeField oss "imgsize" (ints TileDesc.imgSize)
  let oss := oss.write (field "tilewidth" (showInt combined.tileWidth.toInt))
  let oss := oss.write (field "tileheight" (showInt combined.tileHeight.toInt))
  let oss := writeField oss "ver" (ints TileDesc.ver)
  let oss := writeField oss "oldwid" (wires TileDesc.oldWireId)
  let oss := writeField oss "wid" (wires TileDesc.wireId)
  let oss :=
    if combined.id ≥ 0 then oss.write (field "id" (showInt combined.id.toInt)) else oss
  -- A trailing comma that was not overwritten is behind the put position.
  oss.written

/-- The names whose values `TileCombined::parse` keeps as text. -/
def listNames : List Text :=
  ["tileposx", "tileposy", "imgsize", "ver", "oldwid", "wid"].map String.toList

/-- The variables of `TileCombined::parse`; a list variable goes by its token's name. -/
structure CombinedState where
  pairs : Text → Int32
  texts : Text → Text

/-- The variables before the first token: `id` is optional. -/
def CombinedState.initial : CombinedState where
  pairs name := if name = "id".toList then -1 else 0
  texts _ := []

/-- One pass through the token loop of `TileCombined::parse`. -/
def CombinedState.token (state : CombinedState) (token : Text)
    : Except Exception CombinedState :=
  match parseNameValuePair token with
  | none => .ok state
  | some (name, value) =>
      if name ∈ listNames then
        .ok { state with texts := Function.update state.texts name value }
      else do
        match ← stringToInteger value with
        | none => return state
        | some number => return { state with pairs := Function.update state.pairs name number }

/-- `TileCombined::parse` of a tokenized message. -/
def TileCombined.parseTokens (tokens : List Text) : Except Exception TileCombined := do
  let state ← tokens.foldlM CombinedState.token CombinedState.initial
  let pairs (name : String) : Int32 := state.pairs name.toList
  let texts (name : String) : Text := state.texts name.toList
  TileCombined.make {
    normalizedViewId := pairs "nviewid"
    part := pairs "part"
    width := pairs "width"
    height := pairs "height"
    tileWidth := pairs "tilewidth"
    tileHeight := pairs "tileheight"
    id := pairs "id"
  } {
    tilePositionsX := texts "tileposx"
    tilePositionsY := texts "tileposy"
    vers := texts "ver"
    imgSizes := texts "imgsize"
    oldWireIds := texts "oldwid"
    wireIds := texts "wid"
  }

/-- `TileCombined::parse` of a message. -/
def TileCombined.parse (message : Text) : Except Exception TileCombined :=
  TileCombined.parseTokens (tokenize ' ' message)

/-- `TileCombined::create`, of a vector that is asserted not to be empty; only the `vers`
stream is moved back, and `str()` returns its whole buffer all the same.
-/
def TileCombined.create (first : TileDesc) (others : List TileDesc)
    : Except Exception TileCombined :=
  let list (show' : TileDesc → Text) : OutputStream :=
    writeList OutputStream.empty ((first :: others).map show')
  TileCombined.make { first.header with id := -1 } {
    tilePositionsX := (list (fun tile => showInt tile.tilePosX.toInt)).buffer
    tilePositionsY := (list (fun tile => showInt tile.tilePosY.toInt)).buffer
    vers := (list (fun tile => showInt tile.ver.toInt)).seekBack.buffer
    imgSizes := []
    oldWireIds := (list (fun tile => showNat tile.oldWireId.toNat)).buffer
    wireIds := (list (fun tile => showNat tile.wireId.toNat)).buffer
  }

end NdcOdfWeb.Tiles
