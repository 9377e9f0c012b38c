import NdcOdfWeb.Foundation.StepRun
import NdcOdfWeb.Queue.CancelTiles
import NdcOdfWeb.Rendering.TileRequests

/-! The tiles of one document: wsd with its sessions, the kit with its queue, and the messages
between them.
-/

namespace NdcOdfWeb.Rendering

open NdcOdfWeb.Foundation
open NdcOdfWeb.Protocol
open NdcOdfWeb.Tiles
open NdcOdfWeb.Queue

/-- The text of a request, as the kit puts it into its queue. -/
def KitRequest.text : KitRequest → Payload
  | .tile desc => (⟨.direct, desc⟩ : Request).text
  | .tilecombine combined => combined.serialize "tilecombine".toList
  | .canceltiles versions => cancelTilesMessage versions

/-- A painted tile: the hash of its content (0 for an empty one), the wire id that the PNG
cache has for it, and the size of the image.
-/
structure Painted where
  hash : UInt64
  wireId : UInt32
  imgSize : Int32
  nonneg : ¬ imgSize < 0

/-- The tile content is identical to what the client already has, so it is skipped. -/
def isUnchanged (painted : Painted) (tile : TileDesc) : Bool :=
  painted.hash ≠ 0 && tile.oldWireId = painted.wireId

/-- `setWireId` and `setImgSize` of a tile that is sent. -/
def Painted.tile (painted : Painted) (tile : TileDesc) : TileDesc :=
  {
    tile with
    wireId := painted.wireId
    imgSize := painted.imgSize
    valid := by
      have valid := tile.valid
      simp only [invalidDescriptor, Bool.or_eq_false_iff, decide_eq_false_iff_not] at valid ⊢
      exact ⟨valid.1, painted.nonneg⟩
  }

/-- A message back to wsd; it carries the images of its tiles. -/
inductive KitResponse where
  | tile (tile : TileDesc)
  | tilecombine (combined : TileCombined)

/-- The tiles that wsd reads from a message. -/
def KitResponse.tiles : KitResponse → List TileDesc
  | .tile desc => [desc.withReadId]
  | .tilecombine combined => combined.tiles.map TileDesc.withReadId

/-- What the kit finds when it renders: whether the document is loaded, how many views it has,
which canonical view ids its sessions have, what it paints, and which images can be encoded.
-/
structure Canvas where
  hasDocument : Bool
  viewsCount : Int32
  hasSession : Int32 → Bool
  paint : TileDesc → Painted
  encodes : TileDesc → Bool

/-- A request that comes before the document is loaded, or without views, or after the session
has exited, gets no answer.
-/
def Canvas.canRender (canvas : Canvas) (normalizedViewId : Int32) : Bool :=
  canvas.hasDocument && 0 < canvas.viewsCount && canvas.hasSession normalizedViewId

/-- `renderTile`. -/
def renderTile (canvas : Canvas) (tile : TileDesc) : Option KitResponse :=
  if !canvas.canRender tile.normalizedViewId then none
  else if isUnchanged (canvas.paint tile) tile then none
  -- failed to encode tile into PNG
  else if !canvas.encodes tile then none
  else some (.tile { tile with wireId := (canvas.paint tile).wireId })

/-- `renderCombinedTiles`; if all tiles are skipped, there is no answer. -/
def renderCombinedTiles (canvas : Canvas) (combined : TileCombined) : Option KitResponse :=
  let sent := combined.tiles.filter (fun tile => !isUnchanged (canvas.paint tile) tile)
  if !canvas.canRender combined.normalizedViewId then none
  -- the first image that cannot be encoded ends the rendering
  else if !sent.all canvas.encodes then none
  else if sent = [] then none
  else
    some
      (.tilecombine {
        combined with
        tiles := sent.map (fun tile => (canvas.paint tile).tile tile)
        agree := by
          intro tile member
          obtain ⟨before, inside, rfl⟩ := List.mem_map.mp member
          exact combined.agree before (List.mem_filter.mp inside).1
      })

/-- A pass of the kit's loop for a message; those that request no tiles are left out. -/
def renderMessage (canvas : Canvas) (input : Payload) : Option KitResponse :=
  let tokens := tokenize ' ' input
  if tokens.head? = some "tile".toList then
    match TileDesc.parseTokens tokens with
    | .ok tile => renderTile canvas tile
    | .error _ => none
  else if tokens.head? = some "tilecombine".toList then
    match TileCombined.parseTokens tokens with
    | .ok combined => renderCombinedTiles canvas combined
    | .error _ => none
  else none

-----------------------------------------------------------------------------------------
-- Runs
-----------------------------------------------------------------------------------------

/-- All that takes part in rendering. A session's identity is used once. -/
structure System (S : Type) where
  wsd : Wsd S
  used : List S
  queue : TileQueue
  /-- The message that the kit has taken from its queue. -/
  rendering : Option Payload
  toWsd : List KitResponse

inductive Event (S : Type) where
  | addSession (id : S) (canonicalViewId : { viewId : Int32 // ¬ viewId < 0 })
  | removeSession (id : S)
  /-- `clientvisiblearea`. -/
  | setVisibleArea (id : S) (area : Rectangle)
  /-- `clientzoom`. -/
  | setZoom (id : S) (widthPixel heightPixel widthTwips heightTwips : Int32)
  /-- `setclientpart`, and what the kit says about the part. -/
  | setPart (id : S) (part : Int32)
  | setTextDocument (id : S) (isTextDocument : Bool)
  /-- A client's message `tile` or `tilecombine`, as it is read. -/
  | tile (id : S) (tile : TileDesc) (world : World)
  | tilecombine (id : S) (combined : TileCombined) (world : World)
  | tileprocessed (id : S) (tileID : Text) (world : World)
  | canceltiles (id : S)
  /-- A view's `invalidatetiles`. -/
  | invalidatetiles (id : S) (part : Int32) (invalidateRect : Rectangle) (world : World)
  /-- The client takes a tile message. -/
  | written (id : S)
  /-- The kit receives a message. -/
  | received
  /-- Another message for the kit's queue. -/
  | other (message : Payload)
  | cursorUpdated (viewId part x y width height : Int32)
  | cursorRemoved (viewId : Int32)
  /-- The kit takes a message from its queue. -/
  | taken
  | rendered (canvas : Canvas)
  /-- wsd receives an answer. -/
  | answered (now : Int)

/-- A message that requests no tiles, and that the queue does not look into. -/
def isOther (message : Payload) : Bool :=
  message ≠ []
    && (tokenize ' ' message).head? ≠ some "tile".toList
    && (tokenize ' ' message).head? ≠ some "tilecombine".toList
    && !("tile".toList.isPrefixOf message)
    && !("callback".toList.isPrefixOf message)
    && !("canceltiles".toList.isPrefixOf message)

namespace System

variable {S : Type} [LinearOrder S]

/-- A step that only a session of the document takes. -/
def ofSession (system : System S) (id : S) (step : Wsd S → Wsd S) : Option (System S) :=
  if id ∈ system.wsd.sessions then some { system with wsd := step system.wsd } else none

/-- The session's `change` makes its record of wire ids obsolete. -/
def changeView (system : System S) (id : S) (change : TileSession → TileSession)
    : Option (System S) :=
  system.ofSession id (·.modifySession id (fun session => (change session).resetWireIdMap))

/-- One step. -/
def step (upperLimit : Int32 → Nat) (viewIdOf : Text → Except Exception Text)
    (system : System S)
    : Event S → Option (System S)
  | .addSession id canonicalViewId =>
      if id ∈ system.used then none
      else
        some
          {
            system with
            wsd :=
              {
                system.wsd.modifySession id (fun _ => .new canonicalViewId) with
                sessions := system.wsd.sessions.orderedInsert (· ≤ ·) id
              }
            used := id :: system.used
          }
  | .removeSession id =>
      system.ofSession id (fun wsd => { wsd with sessions := wsd.sessions.erase id })
  | .setVisibleArea id area => system.changeView id ({ · with clientVisibleArea := area })
  | .setZoom id widthPixel heightPixel widthTwips heightTwips =>
      system.changeView id (fun session =>
        {
          session with
          tileWidthPixel := widthPixel
          tileHeightPixel := heightPixel
          tileWidthTwips := widthTwips
          tileHeightTwips := heightTwips
        })
  | .setPart id part => system.changeView id ({ · with clientSelectedPart := part })
  | .setTextDocument id isTextDocument =>
      system.ofSession id (·.modifySession id ({ · with isTextDocument }))
  | .tile id tile world =>
      system.ofSession id (fun wsd =>
        let viewId := (wsd.session id).canonicalViewId
        wsd.handleTileRequest world (tile.setNormalizedViewId viewId.1 viewId.2) id)
  | .tilecombine id combined world =>
      system.ofSession id (fun wsd =>
        let viewId := (wsd.session id).canonicalViewId
        wsd.handleTileCombinedRequest upperLimit world
          (combined.setNormalizedViewId viewId.1 viewId.2).tiles id)
  | .tileprocessed id tileID world =>
      system.ofSession id (fun wsd =>
        (wsd.modifySession id (·.tileProcessed tileID)).sendRequestedTiles upperLimit world id)
  | .canceltiles id => system.ofSession id (·.cancelTileRequests id)
  | .invalidatetiles id part invalidateRect world =>
      system.ofSession id (·.handleTileInvalidation upperLimit world id part invalidateRect)
  | .written id =>
      system.ofSession id (·.modifySession id (fun session =>
        { session with senderQueue := session.senderQueue.tail }))
  | .received =>
      match system.wsd.toKit with
      | [] => none
      | request :: later =>
          let wsd := { system.wsd with toKit := later }
          match system.queue.put viewIdOf request.text with
          | .ok queue => some { system with wsd, queue }
          | .error _ => some { system with wsd }
  | .other message =>
      if isOther message then
        match system.queue.put viewIdOf message with
        | .ok queue => some { system with queue }
        | .error _ => some system
      else none
  | .cursorUpdated viewId part x y width height =>
      some { system with queue := system.queue.updateCursorPosition viewId part x y width height }
  | .cursorRemoved viewId =>
      some { system with queue := system.queue.removeCursorPosition viewId }
  | .taken =>
      match system.rendering, system.queue.get with
      | none, some (.ok payload, queue) => some { system with queue, rendering := some payload }
      | _, _ => none
  | .rendered canvas =>
      match system.rendering with
      | none => none
      | some payload =>
          some
            {
              system with
              rendering := none
              toWsd := system.toWsd ++ (renderMessage canvas payload).toList
            }
  | .answered now =>
      match system.toWsd with
      | [] => none
      | response :: later =>
          some
            { system with wsd := system.wsd.handleTileResponse now response.tiles, toWsd := later }

/-- A new document. -/
def start : System S where
  wsd :=
    {
      sessions := []
      session := fun _ => .new ⟨0, firstView_nonneg⟩
      tilesBeingRendered := []
      tileVersion := 0
      toKit := []
      log := []
    }
  used := []
  queue := .empty
  rendering := none
  toWsd := []

end System

/-- Ten tiles may be on the fly, and no callback message has a view id. -/
abbrev plainStep : System Nat → Event Nat → Option (System Nat) :=
  System.step (fun _ => 10) (fun _ => .error .json)

/-- Nothing lies in the cache directory. -/
def emptyCache : World :=
  ⟨0, fun _ => false⟩

/-- All tiles have the same content, an image of 100 bytes. -/
def paintSame : Canvas where
  hasDocument := true
  viewsCount := 1
  hasSession _ := true
  paint _ := ⟨1, 2, 100, by decide⟩
  encodes _ := true

end NdcOdfWeb.Rendering
