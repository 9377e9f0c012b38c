import Mathlib.Data.Finset.Card
import NdcOdfWeb.Rendering.TileCache

/-! Requests for tiles, and the kit's answers (`DocumentBroker`). -/

namespace NdcOdfWeb.Rendering

open NdcOdfWeb.Foundation
open NdcOdfWeb.Protocol
open NdcOdfWeb.Tiles

/-- What a handler finds outside: the steady clock, and the names of the tiles that lie in the
cache directory (`lookupTile`).
-/
structure World where
  now : Int
  cached : Text → Bool

/-- The conversion of `_tileVersion` to the version of a tile. -/
def versionOf (tileVersion : Nat) : Int32 :=
  Int32.ofNat tileVersion

namespace Wsd

variable {S : Type} [DecidableEq S]

/-- `tile.setVersion(++_tileVersion)`. -/
def nextVersion (wsd : Wsd S) (tile : TileDesc) : TileDesc × Wsd S :=
  (
    { tile with ver := versionOf (wsd.tileVersion + 1) },
    { wsd with tileVersion := wsd.tileVersion + 1 }
  )

def send (wsd : Wsd S) (request : KitRequest) : Wsd S :=
  { wsd with toKit := wsd.toKit ++ [request] }

/-- Tiles that need rendering are requested together, as tiles of the first one's kind. -/
def sendCombined (wsd : Wsd S) : List TileDesc → Wsd S
  | [] => wsd
  | first :: others =>
      match TileCombined.create first others with
      | .ok combined => wsd.send (.tilecombine combined)
      -- `create` does not throw for tiles
      | .error _ => wsd

/-- `handleTileRequest`. -/
def handleTileRequest (world : World) (wsd : Wsd S) (tile : TileDesc) (id : S) : Wsd S :=
  let (tile, wsd) := wsd.nextVersion tile
  if world.cached (cacheFileName tile) then wsd.enqueueSendMessage world.now id tile.withReadId
  else
    let subscribers := if tile.broadcast then wsd.sessions else [id]
    let wsd :=
      subscribers.foldl (fun wsd id => wsd.subscribeToTileRendering world.now tile id) wsd
    wsd.send (.tile tile)

/-- The first loop of `handleTileCombinedRequest`: all tiles get versions, and those that need
rendering are registered.
-/
def registerTiles (world : World) (wsd : Wsd S)
    : List TileDesc → List TileDesc × List TileDesc × Wsd S
  | [] => ([], [], wsd)
  | tile :: tiles =>
      let (tile, wsd) := wsd.nextVersion tile
      if world.cached (cacheFileName tile) then
        let (versioned, needsRendering, wsd) := registerTiles world wsd tiles
        (tile :: versioned, needsRendering, wsd)
      else
        let (versioned, needsRendering, wsd) :=
          registerTiles world (wsd.registerTileBeingRendered world.now tile) tiles
        (tile :: versioned, tile :: needsRendering, wsd)

/-- One pass of the loop that drops duplicated tiles, but uses the newer version. -/
def addRequestedTile (requestedTiles : List TileDesc) (newTile : TileDesc) : List TileDesc :=
  match requestedTiles with
  | [] => [newTile]
  | oldTile :: rest =>
      if oldTile.tilePosX = newTile.tilePosX ∧ oldTile.tilePosY = newTile.tilePosY then
        {
          oldTile with
          ver := newTile.ver
          oldWireId := newTile.oldWireId
          wireId := newTile.wireId
        } :: rest
      else oldTile :: addRequestedTile rest newTile

/-- Accumulate tiles. -/
def addRequestedTiles (requestedTiles newTiles : List TileDesc) : List TileDesc :=
  if requestedTiles = [] then newTiles else newTiles.foldl addRequestedTile requestedTiles

/-- How many tiles a session may have on the fly. Above the minimum, the limit is a number of
floating point: `upperLimit` gives the least count that is not below
`max(10.0f, tilesInVisArea * 1.1f)`.
-/
def tilesOnFlyUpperLimit (upperLimit : Int32 → Nat) (session : TileSession) : Nat :=
  let area := session.getNormalizedVisibleArea
  if area.hasSurface ∧ session.tileWidthTwips ≠ 0 ∧ session.tileHeightTwips ≠ 0 then
    let tilesFitOnWidth :=
      area.x2 / session.tileWidthTwips - area.x1 / session.tileWidthTwips + 1
    let tilesFitOnHeight :=
      area.y2 / session.tileHeightTwips - area.y1 / session.tileHeightTwips + 1
    upperLimit (tilesFitOnWidth * tilesFitOnHeight)
  else 200

/-- `removeOutdatedTileSubscriptions`. -/
def removeOutdatedTileSubscriptions (now : Int) (wsd : Wsd S) (id : S) : Wsd S :=
  wsd.modifySession id (fun session =>
    {
      session with
      tilesBeingRendered :=
        session.tilesBeingRendered.filter (fun name =>
          let elapsedTime := wsd.getTileBeingRenderedElapsedTimeMs now name
          ¬ (elapsedTime < 0 ∧ elapsedTime > 200))
    })

/-- What the loop of `sendRequestedTiles` leaves: the tiles to be requested from the kit and
those that are still to be sent.
-/
structure Sending (S : Type) where
  wsd : Wsd S
  needsRendering : List TileDesc
  requestedTiles : List TileDesc

/-- The loop of `sendRequestedTiles`. The session's list consists of the tiles that were not
looked at yet and, behind them, the delayed ones; when only those are left, the loop ends.
-/
def sendLoop (world : World) (limit : Nat) (id : S) (wsd : Wsd S)
    (needsRendering delayedTiles : List TileDesc)
    : List TileDesc → Sending S
  | [] => ⟨wsd, needsRendering, delayedTiles⟩
  | tile :: rest =>
      let session := wsd.session id
      if session.tilesOnFly.length + session.tilesBeingRendered.card ≥ limit then
        ⟨wsd, needsRendering, tile :: rest ++ delayedTiles⟩
      -- not a third version of a tile, until one of the first two is processed
      else if session.countIdenticalTilesOnFly tile ≥ 2 then
        sendLoop world limit id wsd needsRendering (delayedTiles ++ [tile]) rest
      else if world.cached (cacheFileName tile) then
        sendLoop world limit id (wsd.enqueueSendMessage world.now id tile.withReadId)
          needsRendering delayedTiles rest
      else if !wsd.hasTileBeingRendered tile || wsd.getTileBeingRenderedVersion tile < tile.ver then
        -- not in progress, or we need a newer version
        let (tile, wsd) := wsd.nextVersion tile
        sendLoop world limit id (wsd.subscribeToTileRendering world.now tile id)
          (needsRendering ++ [tile]) delayedTiles rest
      else
        sendLoop world limit id (wsd.subscribeToTileRendering world.now tile id)
          needsRendering delayedTiles rest

/-- `sendRequestedTiles`. -/
def sendRequestedTiles (upperLimit : Int32 → Nat) (world : World) (wsd : Wsd S) (id : S)
    : Wsd S :=
  let limit := tilesOnFlyUpperLimit upperLimit (wsd.session id)
  let wsd := wsd.removeOutdatedTileSubscriptions world.now id
  let wsd := wsd.modifySession id (·.removeOutdatedTilesOnFly world.now)
  let sending := sendLoop world limit id wsd [] [] (wsd.session id).requestedTiles
  let wsd :=
    sending.wsd.modifySession id ({ · with requestedTiles := sending.requestedTiles })
  wsd.sendCombined sending.needsRendering

/-- `handleTileCombinedRequest`. -/
def handleTileCombinedRequest (upperLimit : Int32 → Nat) (world : World) (wsd : Wsd S)
    (tiles : List TileDesc) (id : S)
    : Wsd S :=
  let (versioned, needsRendering, wsd) := wsd.registerTiles world tiles
  let wsd := wsd.sendCombined needsRendering
  let wsd :=
    wsd.modifySession id (fun session =>
      { session with requestedTiles := addRequestedTiles session.requestedTiles versioned })
  wsd.sendRequestedTiles upperLimit world id

/-- `cancelTileRequests`. -/
def cancelTileRequests (wsd : Wsd S) (id : S) : Wsd S :=
  let wsd :=
    wsd.modifySession id (fun session =>
      {
        session.resetWireIdMap with
        tilesOnFly := []
        requestedTiles := []
        tilesBeingRendered := ∅
      })
  match wsd.cancelTiles id with
  | ([], wsd) => wsd
  | (versions, wsd) => wsd.send (.canceltiles versions)

/-- `handleTileResponse` and `handleTileCombinedResponse`, with the tiles as they are read from
the message.
-/
def handleTileResponse (now : Int) (wsd : Wsd S) (tiles : List TileDesc) : Wsd S :=
  tiles.foldl (saveTileAndNotify now) wsd

/-- The numbers from one to the other. The counter of the loop would overflow behind the largest
`int`, which only tiles of one twip have as their last index; this is left out.
-/
def tileRange (first last : Int32) : List Int32 :=
  (List.range (last.toInt - first.toInt + 1).toNat).map (fun i => first + Int32.ofNat i)

/-- The tiles of the visible area that an invalidation affects. -/
def invalidTiles (session : TileSession) (part : Int32) (invalidateRect : Rectangle)
    : Except Exception (List TileDesc) := do
  let area := session.getNormalizedVisibleArea
  let rows := tileRange (area.y1 / session.tileHeightTwips) (area.y2 / session.tileHeightTwips)
  let columns := tileRange (area.x1 / session.tileWidthTwips) (area.x2 / session.tileWidthTwips)
  let positions :=
    rows.flatMap (fun i =>
      columns.map (fun j => (j * session.tileWidthTwips, i * session.tileHeightTwips)))
  let affected :=
    positions.filter (fun position =>
      invalidateRect.intersects
        (.ofSize position.1 position.2 session.tileWidthTwips session.tileHeightTwips))
  affected.mapM (fun position => do
    let tile ←
      TileDesc.make session.canonicalViewId.1 part session.tileWidthPixel
        session.tileHeightPixel position.1 position.2 session.tileWidthTwips
        session.tileHeightTwips (-1) 0 (-1) false
    return {
      tile with
      oldWireId := (session.oldWireIds (generateTileID tile)).getD 0
      wireId := 0
    })

/-- `ClientSession::handleTileInvalidation`, with the part and the rectangle of the message
(`parseInvalidateMsg`). After an exception nothing is requested.
-/
def handleTileInvalidation (upperLimit : Int32 → Nat) (world : World) (wsd : Wsd S) (id : S)
    (part : Int32) (invalidateRect : Rectangle)
    : Wsd S :=
  let session := wsd.session id
  -- no client visible area data yet
  if !session.clientVisibleArea.hasSurface
      || session.tileWidthPixel = 0 || session.tileHeightPixel = 0
      || session.tileWidthTwips = 0 || session.tileHeightTwips = 0
      || (session.clientSelectedPart = -1 && !session.isTextDocument) then
    wsd
  else if !session.getNormalizedVisibleArea.intersects invalidateRect then wsd
  else
    let part := if part = -1 then session.clientSelectedPart else part
    if part = session.clientSelectedPart || session.isTextDocument then
      match invalidTiles session part invalidateRect with
      | .ok (first :: others) =>
          match TileCombined.create first others with
          | .ok combined =>
              let combined :=
                combined.setNormalizedViewId session.canonicalViewId.1 session.canonicalViewId.2
              wsd.handleTileCombinedRequest upperLimit world combined.tiles id
          | .error _ => wsd
      | _ => wsd
    else wsd

end Wsd

end NdcOdfWeb.Rendering
