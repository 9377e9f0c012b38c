import Mathlib.Data.Char
import Mathlib.Data.List.Lex
import Mathlib.Data.List.Sort
import NdcOdfWeb.Rendering.TileSessions

/-! The tiles that are being rendered, and the sessions that wait for them (`TileCache`). -/

namespace NdcOdfWeb.Rendering

open NdcOdfWeb.Foundation
open NdcOdfWeb.Tiles

/-- `COMMAND_TIMEOUT_MS`. -/
def commandTimeoutMs : Int :=
  5000

/-- `cacheFileName`. -/
def cacheFileName (tile : TileDesc) : Text :=
  showInt tile.normalizedViewId.toInt
    ++ "_".toList ++ showInt tile.part.toInt
    ++ "_".toList ++ showInt tile.width.toInt
    ++ "x".toList ++ showInt tile.height.toInt
    ++ ".".toList ++ showInt tile.tilePosX.toInt
    ++ ",".toList ++ showInt tile.tilePosY.toInt
    ++ ".".toList ++ showInt tile.tileWidth.toInt
    ++ "x".toList ++ showInt tile.tileHeight.toInt
    ++ ".png".toList

/-- `TileBeingRendered`. A subscriber is a weak reference: the session may be gone. -/
structure TileBeingRendered (S : Type) where
  subscribers : List S
  startTime : Int
  tile : TileDesc
  cachedName : Text

/-- `setVersion`. -/
def TileBeingRendered.setVersion {S : Type} (entry : TileBeingRendered S) (version : Int32)
    : TileBeingRendered S :=
  { entry with tile := { entry.tile with ver := version } }

def TileBeingRendered.addSubscriber {S : Type} (entry : TileBeingRendered S) (subscriber : S)
    : TileBeingRendered S :=
  { entry with subscribers := entry.subscribers ++ [subscriber] }

/-- What has happened to the tiles of a session. -/
inductive Notice (S : Type) where
  | subscribed (cacheName : Text) (session : S) (version : Int32)
  | canceled (session : S)
  /-- A rendered tile is handed to a subscriber. -/
  | answered (cacheName : Text) (session : S) (version : Int32)
  | enqueued (session : S) (tile : TileDesc)
  /-- A tile message is filtered out, since the client has the tile. -/
  | filtered (session : S) (tile : TileDesc)

/-- A message to the kit. -/
inductive KitRequest where
  | tile (tile : TileDesc)
  | tilecombine (combined : TileCombined)
  | canceltiles (versions : List Int32)

/-- The tiles of a document in wsd: the sessions, the members of the broker and of its tile
cache, the messages to the kit, and, newest first, what has happened.
-/
structure Wsd (S : Type) where
  sessions : List S
  session : S → TileSession
  tilesBeingRendered : List (TileBeingRendered S)
  tileVersion : Nat
  toKit : List KitRequest
  log : List (Notice S)

namespace Wsd

variable {S : Type} [DecidableEq S] (wsd : Wsd S)

/-- A session changes. -/
def modifySession (id : S) (change : TileSession → TileSession) : Wsd S :=
  { wsd with session := Function.update wsd.session id (change (wsd.session id)) }

def note (notice : Notice S) : Wsd S :=
  { wsd with log := notice :: wsd.log }

/-- `ClientSession::enqueueSendMessage` of a tile. -/
def enqueueSendMessage (now : Int) (id : S) (tile : TileDesc) : Wsd S :=
  -- avoid sending a tile if it has the same wire id as the previously sent tile
  if (wsd.session id).isShown tile then wsd.note (.filtered id tile)
  else (wsd.modifySession id (·.enqueueTile now tile)).note (.enqueued id tile)

/-- `findTileBeingRendered`. -/
def findTileBeingRendered (tile : TileDesc) : Option (TileBeingRendered S) :=
  wsd.tilesBeingRendered.find? (fun entry => entry.cachedName = cacheFileName tile)

/-- `hasTileBeingRendered`. -/
def hasTileBeingRendered (tile : TileDesc) : Bool :=
  (wsd.findTileBeingRendered tile).isSome

/-- `getTileBeingRenderedVersion`. -/
def getTileBeingRenderedVersion (tile : TileDesc) : Int32 :=
  match wsd.findTileBeingRendered tile with
  | some entry => entry.tile.ver
  | none => 0

/-- `getTileBeingRenderedElapsedTimeMs`; a negative value means that there is no such tile. -/
def getTileBeingRenderedElapsedTimeMs (now : Int) (cacheName : Text) : Int :=
  match wsd.tilesBeingRendered.find? (fun entry => entry.cachedName = cacheName) with
  | some entry => now - entry.startTime
  | none => -1

/-- The entries of a name change. -/
def modifyEntry (cacheName : Text) (change : TileBeingRendered S → TileBeingRendered S)
    : Wsd S :=
  {
    wsd with
    tilesBeingRendered :=
      wsd.tilesBeingRendered.map
        (fun entry => if entry.cachedName = cacheName then change entry else entry)
  }

/-- A new entry, in the order of the names. -/
def insertEntry (now : Int) (tile : TileDesc) (subscribers : List S) : Wsd S :=
  {
    wsd with
    tilesBeingRendered :=
      wsd.tilesBeingRendered.orderedInsert
        (fun entry other => entry.cachedName ≤ other.cachedName)
        { subscribers, startTime := now, tile, cachedName := cacheFileName tile }
  }

/-- Tile painting has stalled; a new request reissues it. -/
def isStalled (now : Int) (entry : TileBeingRendered S) : Bool :=
  now - entry.startTime > commandTimeoutMs

/-- The subscriber tracks tiles other than thumbnails. -/
def traceSubscription (tile : TileDesc) (subscriber : S) : Wsd S :=
  if tile.id = -1 then
    wsd.modifySession subscriber (·.traceSubscribeToTile (cacheFileName tile))
  else wsd

/-- `subscribeToTileRendering`. -/
def subscribeToTileRendering (now : Int) (tile : TileDesc) (subscriber : S) : Wsd S :=
  let cacheName := cacheFileName tile
  let wsd := wsd.note (.subscribed cacheName subscriber tile.ver)
  match wsd.findTileBeingRendered tile with
  | some entry =>
      -- redundant request to subscribe on the tile
      if subscriber ∈ entry.subscribers then
        wsd.modifyEntry cacheName (·.setVersion tile.ver)
      else
        let wsd := wsd.modifyEntry cacheName (·.addSubscriber subscriber)
        let wsd := wsd.traceSubscription tile subscriber
        if isStalled now entry then wsd.modifyEntry cacheName (·.setVersion tile.ver) else wsd
  | none => (wsd.insertEntry now tile [subscriber]).traceSubscription tile subscriber

/-- `registerTileBeingRendered`. -/
def registerTileBeingRendered (now : Int) (tile : TileDesc) : Wsd S :=
  match wsd.findTileBeingRendered tile with
  | some entry =>
      if isStalled now entry then wsd.modifyEntry (cacheFileName tile) (·.setVersion tile.ver)
      else wsd
  | none => wsd.insertEntry now tile []

/-- `forgetTileBeingRendered`. -/
def forgetTileBeingRendered (entry : TileBeingRendered S) (tile : TileDesc) : Wsd S :=
  let untraced :=
    entry.subscribers.foldl
      (fun wsd subscriber =>
        if subscriber ∈ wsd.sessions ∧ tile.id = -1 then
          wsd.modifySession subscriber (·.traceUnSubscribeToTile entry.cachedName)
        else wsd)
      wsd
  {
    untraced with
    tilesBeingRendered :=
      untraced.tilesBeingRendered.filter (fun other => other.cachedName ≠ entry.cachedName)
  }

/-- The tile is sent to one subscriber. -/
def answer (now : Int) (tile : TileDesc) (wsd : Wsd S) (subscriber : S) : Wsd S :=
  if subscriber ∈ wsd.sessions then
    (wsd.note (.answered (cacheFileName tile) subscriber tile.ver)).enqueueSendMessage now
      subscriber tile
  else wsd

/-- `saveTileAndNotify`. -/
def saveTileAndNotify (now : Int) (wsd : Wsd S) (tile : TileDesc) : Wsd S :=
  match wsd.findTileBeingRendered tile with
  | some entry =>
      let notified := entry.subscribers.foldl (answer now tile) wsd
      -- remove subscriptions
      if entry.tile.ver ≤ tile.ver then notified.forgetTileBeingRendered entry tile else notified
  | none => wsd

/-- What is left of an entry when a subscriber cancels its tiles. -/
def cancelEntry (subscriber : S) (entry : TileBeingRendered S)
    : Option (TileBeingRendered S) :=
  -- tile is for a thumbnail, don't cancel it
  if entry.tile.id ≥ 0 ∨ subscriber ∉ entry.subscribers then some entry
  else
    let subscribers := entry.subscribers.erase subscriber
    if subscribers = [] then none else some { entry with subscribers }

/-- `cancelTiles`: the versions of the entries that are removed, and the cache. -/
def cancelTiles (subscriber : S) : List Int32 × Wsd S :=
  (
    (wsd.tilesBeingRendered.filter (fun entry => (cancelEntry subscriber entry).isNone)).map
      (·.tile.ver),
    {
      wsd with
      tilesBeingRendered := wsd.tilesBeingRendered.filterMap (cancelEntry subscriber)
      log := .canceled subscriber :: wsd.log
    }
  )

end Wsd

end NdcOdfWeb.Rendering
