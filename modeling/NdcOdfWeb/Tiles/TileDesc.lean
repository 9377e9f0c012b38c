import Mathlib.Logic.Function.Basic
import NdcOdfWeb.Protocol.Tokens

/-! The tile descriptor: construction, geometry and its text form. -/

namespace NdcOdfWeb.Tiles

open NdcOdfWeb.Foundation
open NdcOdfWeb.Protocol

/-- The argument check of the `TileDesc` constructor. -/
def invalidDescriptor (normalizedViewId part width height tilePosX tilePosY tileWidth
    tileHeight imgSize : Int32)
    : Bool :=
  normalizedViewId < 0 || part < 0 || width ≤ 0 || height ≤ 0 || tilePosX < 0
    || tilePosY < 0 || tileWidth ≤ 0 || tileHeight ≤ 0 || imgSize < 0

/-- `TileDesc`: a tile's coordinates and dimensions, as its constructor accepts them. -/
structure TileDesc where
  normalizedViewId : Int32
  part : Int32
  width : Int32
  height : Int32
  tilePosX : Int32
  tilePosY : Int32
  tileWidth : Int32
  tileHeight : Int32
  ver : Int32
  imgSize : Int32
  id : Int32
  broadcast : Bool
  oldWireId : UInt32
  wireId : UInt32
  valid
    : invalidDescriptor normalizedViewId part width height tilePosX tilePosY tileWidth
          tileHeight imgSize
        = false
deriving DecidableEq

/-- The constructor of `TileDesc`; the wire ids start at 0. -/
def TileDesc.make (normalizedViewId part width height tilePosX tilePosY tileWidth tileHeight
    ver imgSize id : Int32) (broadcast : Bool)
    : Except Exception TileDesc :=
  if invalid : invalidDescriptor normalizedViewId part width height tilePosX tilePosY
      tileWidth tileHeight imgSize = true then
    .error (.badArgument "Invalid tile descriptor.")
  else
    .ok {
      normalizedViewId, part, width, height, tilePosX, tilePosY, tileWidth, tileHeight, ver,
      imgSize, id, broadcast
      oldWireId := 0
      wireId := 0
      valid := Bool.eq_false_iff.mpr invalid
    }

/-- `TileDesc::setNormalizedViewId`; canonical view ids are not negative. -/
def TileDesc.setNormalizedViewId (tile : TileDesc) (viewId : Int32) (nonneg : ¬ viewId < 0)
    : TileDesc :=
  {
    tile with
    normalizedViewId := viewId
    valid := by
      have valid := tile.valid
      simp only [invalidDescriptor, Bool.or_eq_false_iff, decide_eq_false_iff_not] at valid ⊢
      exact ⟨⟨⟨⟨⟨⟨⟨⟨nonneg, valid.1.1.1.1.1.1.1.2⟩, valid.1.1.1.1.1.1.2⟩, valid.1.1.1.1.1.2⟩,
        valid.1.1.1.1.2⟩, valid.1.1.1.2⟩, valid.1.1.2⟩, valid.1.2⟩, valid.2⟩
  }

/-- `TileDesc::rectanglesIntersect`. -/
def rectanglesIntersect (x1 y1 w1 h1 x2 y2 w2 h2 : Int32) : Bool :=
  x1 + w1 ≥ x2 && x1 ≤ x2 + w2 && y1 + h1 ≥ y2 && y1 ≤ y2 + h2

/-- `TileDesc::intersectsWithRect`. -/
def TileDesc.intersectsWithRect (tile : TileDesc) (x y w h : Int32) : Bool :=
  rectanglesIntersect tile.tilePosX tile.tilePosY tile.tileWidth tile.tileHeight x y w h

/-- `TileDesc::onSameRow`. -/
def TileDesc.onSameRow (tile other : TileDesc) : Bool :=
  if other.part ≠ tile.part ∨ other.width ≠ tile.width ∨ other.height ≠ tile.height
      ∨ other.tileWidth ≠ tile.tileWidth ∨ other.tileHeight ≠ tile.tileHeight
      ∨ other.normalizedViewId ≠ tile.normalizedViewId then
    false
  else
    other.tilePosY + other.tileHeight ≥ tile.tilePosY
      && other.tilePosY ≤ tile.tilePosY + tile.tileHeight

/-- `TileDesc::canCombine`. -/
def TileDesc.canCombine (tile other : TileDesc) : Bool :=
  if tile.onSameRow other = false then false
  else
    let gridX := tile.tilePosX / tile.tileWidth
    let gridXOther := other.tilePosX / other.tileWidth
    let delta := gridX - gridXOther
    !(delta < -16 || delta > 16)

/-- The word `name=value`. -/
def word (name : String) (value : Text) : Text :=
  name.toList ++ '=' :: value

/-- What `<< " name=" << value` writes. -/
def field (name : String) (value : Text) : Text :=
  ' ' :: word name value

/-- `TileDesc::serialize`, with the text put in front as `initial`. -/
def TileDesc.serialize (initial : Text) (tile : TileDesc) : Text :=
  initial
    ++ field "nviewid" (showInt tile.normalizedViewId.toInt)
    ++ field "part" (showInt tile.part.toInt)
    ++ field "width" (showInt tile.width.toInt)
    ++ field "height" (showInt tile.height.toInt)
    ++ field "tileposx" (showInt tile.tilePosX.toInt)
    ++ field "tileposy" (showInt tile.tilePosY.toInt)
    ++ field "tilewidth" (showInt tile.tileWidth.toInt)
    ++ field "tileheight" (showInt tile.tileHeight.toInt)
    ++ field "oldwid" (showNat tile.oldWireId.toNat)
    ++ field "wid" (showNat tile.wireId.toNat)
    -- Anything after ver is optional.
    ++ field "ver" (showInt tile.ver.toInt)
    ++ (if tile.id ≥ 0 then field "id" (showInt tile.id.toInt) else [])
    ++ (if tile.imgSize > 0 then field "imgsize" (showInt tile.imgSize.toInt) else [])
    ++ (if tile.broadcast then field "broadcast" "yes".toList else [])

/-- The variables of `TileDesc::parse` while it goes through the tokens. -/
structure ParseState where
  pairs : Text → Int32
  oldWireId : UInt32
  wireId : UInt32

/-- The variables before the first token: a missing field is 0, `ver` and `id` are -1. -/
def ParseState.initial : ParseState where
  pairs name := if name = "ver".toList ∨ name = "id".toList then -1 else 0
  oldWireId := 0
  wireId := 0

/-- One pass through the token loop of `TileDesc::parse`. -/
def ParseState.token (state : ParseState) (token : Text) : Except Exception ParseState :=
  let (isOld, oldWireId) := getTokenUInt32 token "oldwid".toList state.oldWireId
  if isOld then .ok { state with oldWireId }
  else
    let (isWire, wireId) := getTokenUInt32 token "wid".toList state.wireId
    if isWire then .ok { state with oldWireId, wireId }
    else do
      match ← parseNameIntegerPair token with
      | none => return { state with oldWireId, wireId }
      | some (name, value) =>
          return { pairs := Function.update state.pairs name value, oldWireId, wireId }

/-- `TileDesc::parse` of a tokenized message. -/
def TileDesc.parseTokens (tokens : List Text) : Except Exception TileDesc := do
  let state ← tokens.foldlM ParseState.token ParseState.initial
  let broadcast := getTokenStringFromTokens tokens "broadcast".toList == some "yes".toList
  let pairs (name : String) : Int32 := state.pairs name.toList
  let result ← TileDesc.make (pairs "nviewid") (pairs "part") (pairs "width") (pairs "height")
    (pairs "tileposx") (pairs "tileposy") (pairs "tilewidth") (pairs "tileheight")
    (pairs "ver") (pairs "imgsize") (pairs "id") broadcast
  return { result with oldWireId := state.oldWireId, wireId := state.wireId }

/-- `TileDesc::parse` of a message. -/
def TileDesc.parse (message : Text) : Except Exception TileDesc :=
  TileDesc.parseTokens (tokenize ' ' message)

end NdcOdfWeb.Tiles
