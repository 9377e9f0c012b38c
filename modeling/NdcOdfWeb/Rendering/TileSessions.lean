import Mathlib.Data.Finset.Basic
import NdcOdfWeb.Tiles.TileCombinedCodec

/-! What a client's session knows about tiles (`ClientSession`): those it waits for, those that
are on the way to the client, and the wire ids of those that the client has.
-/

namespace NdcOdfWeb.Rendering

open NdcOdfWeb.Foundation
open NdcOdfWeb.Tiles

/-- `TILE_ROUNDTRIP_TIMEOUT_MS`. -/
def tileRoundtripTimeoutMs : Int :=
  5000

/-- `Util::Rectangle`. -/
structure Rectangle where
  x1 : Int32
  y1 : Int32
  x2 : Int32
  y2 : Int32
deriving DecidableEq, Repr

/-- The constructor from a position and a size. -/
def Rectangle.ofSize (x y width height : Int32) : Rectangle :=
  ⟨x, y, x + width, y + height⟩

/-- `Rectangle::hasSurface`. -/
def Rectangle.hasSurface (rectangle : Rectangle) : Bool :=
  rectangle.x1 < rectangle.x2 && rectangle.y1 < rectangle.y2

/-- `Rectangle::intersects`. -/
def Rectangle.intersects (rectangle other : Rectangle) : Bool :=
  max rectangle.x1 other.x1 ≤ min rectangle.x2 other.x2
    && max rectangle.y1 other.y1 ≤ min rectangle.y2 other.y2

/-- The members of `ClientSession` that have to do with tiles. Of the sender queue, these are
the tile messages; times are those of the steady clock, in milliseconds.
-/
structure TileSession where
  canonicalViewId : { viewId : Int32 // ¬ viewId < 0 }
  clientVisibleArea : Rectangle
  clientSelectedPart : Int32
  tileWidthPixel : Int32
  tileHeightPixel : Int32
  tileWidthTwips : Int32
  tileHeightTwips : Int32
  isTextDocument : Bool
  tilesOnFly : List (Text × Int)
  tilesBeingRendered : Finset Text
  requestedTiles : List TileDesc
  oldWireIds : Text → Option UInt32
  senderQueue : List TileDesc

/-- The first view has the id 0. -/
theorem firstView_nonneg : ¬ (0 : Int32) < 0 := by
  decide

/-- The second view has the id 1. -/
theorem secondView_nonneg : ¬ (1 : Int32) < 0 := by
  decide

/-- A new session. -/
def TileSession.new (canonicalViewId : { viewId : Int32 // ¬ viewId < 0 }) : TileSession where
  canonicalViewId := canonicalViewId
  clientVisibleArea := ⟨Int32.maxValue, Int32.maxValue, Int32.minValue, Int32.minValue⟩
  clientSelectedPart := -1
  tileWidthPixel := 0
  tileHeightPixel := 0
  tileWidthTwips := 0
  tileHeightTwips := 0
  isTextDocument := false
  tilesOnFly := []
  tilesBeingRendered := ∅
  requestedTiles := []
  oldWireIds _ := none
  senderQueue := []

/-- `generateTileID`. -/
def generateTileID (tile : TileDesc) : Text :=
  showInt tile.part.toInt
    ++ ":".toList ++ showInt tile.tilePosX.toInt
    ++ ":".toList ++ showInt tile.tilePosY.toInt
    ++ ":".toList ++ showInt tile.tileWidth.toInt
    ++ ":".toList ++ showInt tile.tileHeight.toInt
    ++ ":".toList ++ showInt tile.normalizedViewId.toInt

/-- The comparison of tiles, which `SenderQueue::deduplicate` uses. -/
def isSameTile (tile other : TileDesc) : Bool :=
  tile.part = other.part
    && tile.width = other.width && tile.height = other.height
    && tile.tilePosX = other.tilePosX && tile.tilePosY = other.tilePosY
    && tile.tileWidth = other.tileWidth && tile.tileHeight = other.tileHeight
    && tile.id = other.id && tile.broadcast = other.broadcast

namespace TileSession

variable (session : TileSession)

/-- `getNormalizedVisibleArea`. -/
def getNormalizedVisibleArea : Rectangle where
  x1 := max session.clientVisibleArea.x1 0
  y1 := max session.clientVisibleArea.y1 0
  x2 := session.clientVisibleArea.x2
  y2 := session.clientVisibleArea.y2

/-- `resetWireIdMap`. -/
def resetWireIdMap : TileSession :=
  { session with oldWireIds := fun _ => none }

/-- `traceSubscribeToTile`. -/
def traceSubscribeToTile (cacheName : Text) : TileSession :=
  { session with tilesBeingRendered := insert cacheName session.tilesBeingRendered }

/-- `traceUnSubscribeToTile`. -/
def traceUnSubscribeToTile (cacheName : Text) : TileSession :=
  { session with tilesBeingRendered := session.tilesBeingRendered.erase cacheName }

/-- `removeOutdatedTilesOnFly`: only the beginning of the list is checked. -/
def removeOutdatedTilesOnFly (now : Int) : TileSession :=
  {
    session with
    tilesOnFly := session.tilesOnFly.dropWhile (fun tile => now - tile.2 > tileRoundtripTimeoutMs)
  }

/-- `countIdenticalTilesOnFly`. -/
def countIdenticalTilesOnFly (tile : TileDesc) : Nat :=
  session.tilesOnFly.countP (fun onFly => onFly.1 = generateTileID tile)

/-- The part of `tileprocessed` that takes the tile off the list. -/
def tileProcessed (tileID : Text) : TileSession :=
  { session with tilesOnFly := session.tilesOnFly.eraseP (fun onFly => onFly.1 = tileID) }

/-- The wire id of a sent tile is tracked if it is already, or the tile lies in the visible
area.
-/
def isTracked (tile : TileDesc) : Bool :=
  (session.oldWireIds (generateTileID tile)).isSome
    || (session.clientVisibleArea.hasSurface
      && tile.tilePosX ≥ session.clientVisibleArea.x1
      && tile.tilePosX ≤ session.clientVisibleArea.x2
      && tile.tilePosY ≥ session.clientVisibleArea.y1
      && tile.tilePosY ≤ session.clientVisibleArea.y2)

/-- `traceTileBySend`. -/
def traceTileBySend (now : Int) (tile : TileDesc) (deduplicated : Bool) : TileSession :=
  {
    session with
    oldWireIds :=
      if session.isTracked tile then
        Function.update session.oldWireIds (generateTileID tile) (some tile.wireId)
      else session.oldWireIds
    tilesOnFly :=
      if deduplicated then session.tilesOnFly
      else session.tilesOnFly ++ [(generateTileID tile, now)]
  }

/-- The client has the tile already, as far as is known. -/
def isShown (tile : TileDesc) : Bool :=
  tile.wireId ≠ 0 && session.oldWireIds (generateTileID tile) = some tile.wireId

/-- `enqueueSendMessage` of a tile that is not filtered out. -/
def enqueueTile (now : Int) (tile : TileDesc) : TileSession :=
  let queue := session.senderQueue.eraseP (isSameTile tile) ++ [tile]
  { session with senderQueue := queue }.traceTileBySend now tile
    (queue.length = session.senderQueue.length)

end TileSession

end NdcOdfWeb.Rendering
