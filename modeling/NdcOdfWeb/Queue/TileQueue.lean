import NdcOdfWeb.Queue.Callbacks
import NdcOdfWeb.Tiles.TileCombined

/-! The message queue with priority handling of tiles (`TileQueue`). -/

namespace NdcOdfWeb.Queue

open NdcOdfWeb.Foundation
open NdcOdfWeb.Protocol
open NdcOdfWeb.Tiles

/-- `TileQueue::CursorPosition`. -/
structure CursorPosition where
  part : Int32 := 0
  x : Int32 := 0
  y : Int32 := 0
  width : Int32 := 0
  height : Int32 := 0

/-- `TileQueue`: the queued messages, the cursor of each view, and the views from the least
to the most recently moved one.
-/
structure TileQueue where
  queue : List Payload
  cursorPositions : Int32 → Option CursorPosition
  viewOrder : List Int32

namespace TileQueue

/-- A new queue. -/
def empty : TileQueue where
  queue := []
  cursorPositions _ := none
  viewOrder := []

/-- `updateCursorPosition`. -/
def updateCursorPosition (queue : TileQueue) (viewId part x y width height : Int32)
    : TileQueue :=
  { queue with
    cursorPositions :=
      Function.update queue.cursorPositions viewId (some { part, x, y, width, height })
    viewOrder := queue.viewOrder.erase viewId ++ [viewId] }

/-- `removeCursorPosition`. -/
def removeCursorPosition (queue : TileQueue) (viewId : Int32) : TileQueue :=
  { queue with
    cursorPositions := Function.update queue.cursorPositions viewId none
    viewOrder := queue.viewOrder.erase viewId }

/-- The search in `priority`, through the views from the newest to the oldest; a view's
index is the number of older ones.
-/
def priorityAmong (queue : TileQueue) (tile : TileDesc) : List Int32 → Int
  | [] => -1
  | view :: older =>
      let cursor := (queue.cursorPositions view).getD {}
      if tile.intersectsWithRect cursor.x cursor.y cursor.width cursor.height then older.length
      else priorityAmong queue tile older

/-- `priority`: -1, or the index of the newest view whose cursor the tile intersects. -/
def priority (queue : TileQueue) (tileMsg : Text) : Except Exception Int := do
  let tile ← TileDesc.parse tileMsg
  return queue.priorityAmong tile queue.viewOrder.reverse

/-- The part of `text` that a C string function sees. -/
def cString (text : Text) : Text :=
  text.takeWhile (· != '\x00')

/-- The test of `removeTileDuplicate`: `strncmp` finds the texts equal up to `newMsgPos`. -/
def sameUpTo (newMsgPos : Nat) (tileMsg : Text) (it : Payload) : Bool :=
  it.length > newMsgPos && cString (tileMsg.take newMsgPos) == cString (it.take newMsgPos)

/-- Where the comparison of `removeTileDuplicate` ends: in front of `ver`. -/
def comparedLength (tileMsg : Text) : Nat :=
  match find " ver".toList tileMsg with
  | some newMsgPos => newMsgPos
  | none => tileMsg.length - 1

/-- `removeTileDuplicate`. -/
def removeTileDuplicate (queue : List Payload) (tileMsg : Text) : List Payload :=
  queue.eraseP (sameUpTo (comparedLength tileMsg) tileMsg)

/-- The removal test of `canceltiles`. -/
def canceled (tokens : List Text) (s : Payload) : Bool :=
  -- Tile is for a thumbnail, don't cancel it
  if (find "id=".toList s).isSome then false
  else tokens.any (fun token => (find ("ver=".toList ++ token) s).isSome)

/-- Put one tile request: the loop body of `tilecombine`, and the branch of `tile`. -/
def putTile (queue : List Payload) (tileMsg : Text) : List Payload :=
  removeTileDuplicate queue tileMsg ++ [tileMsg]

/-- `TileQueue::put_impl` on the queued messages. -/
def putMessage (viewIdOf : Text → Except Exception Text) (queue : List Payload) (msg : Text)
    : Except Exception (List Payload) :=
  let firstToken := getFirstToken ' ' msg
  if firstToken = "canceltiles".toList then do
    let seqs ← substr msg 12
    let tokens := stringTokenizer ',' seqs
    return queue.filter (fun v => !canceled tokens v)
  else if firstToken = "tilecombine".toList then do
    let tileCombined ← TileCombined.parse msg
    return tileCombined.tiles.foldl
      (fun queue tile => putTile queue (tile.serialize "tile".toList)) queue
  else if firstToken = "tile".toList then
    .ok (putTile queue msg)
  else if firstToken = "callback".toList then do
    let (queue, newMsg) ← removeCallbackDuplicate viewIdOf queue msg
    return queue ++ [if newMsg = [] then msg else newMsg]
  else .ok (queue ++ [msg])

/-- `put`; what an exception leaves of the queue is `afterException`. -/
def put (viewIdOf : Text → Except Exception Text) (queue : TileQueue) (value : Payload)
    : Except Exception TileQueue :=
  if value = [] then .error (.runtimeError "Cannot queue empty item.")
  else do
    let messages ← putMessage viewIdOf queue.queue value
    return { queue with queue := messages }

/-- What an exception in `put_impl` leaves of the queued messages: invalidations that were
merged are erased before the text of their merge is written.
-/
def leftMessages (queue : List Payload) (msg : Text) : List Payload :=
  if getFirstToken ' ' msg = "callback".toList then
    match tokenize ' ' msg with
    | token0 :: token1 :: token2 :: rest =>
        if token2 = "0".toList then
          match extractRectangle (token0 :: token1 :: token2 :: rest) with
          | some rect => (mergeInvalidations token0 token1 token2 rect false queue).queue
          | none => queue
        else queue
    | _ => queue
  else queue

/-- The queue after an exception in `put`. -/
def afterException (queue : TileQueue) (value : Payload) : TileQueue :=
  { queue with queue := leftMessages queue.queue value }

-----------------------------------------------------------------------------------------
-- get
-----------------------------------------------------------------------------------------

/-- A message that starts like a tile request. -/
def isTile (message : Payload) : Bool :=
  matchPrefix "tile".toList message

/-- A tile request with an id. -/
def isPreview (message : Payload) : Bool :=
  isTile message && (getTokenStringFromMessage message "id".toList).isSome

/-- A tile request without id: only these are combined. -/
def isPlainTile (message : Payload) : Bool :=
  isTile message && !(getTokenStringFromMessage message "id".toList).isSome

/-- The loop of `deprioritizePreviews`, with the number of passes left. -/
def rotatePreviews : Nat → List Payload → List Payload
  | passes + 1, front :: rest =>
      if isPreview front then rotatePreviews passes (rest ++ [front]) else front :: rest
  | _, queue => queue

/-- `deprioritizePreviews`. -/
def deprioritizePreviews (queue : List Payload) : List Payload :=
  rotatePreviews queue.length queue

/-- The tile found so far by the priority search of `get_impl`. -/
structure Prioritized where
  prioritized : Nat
  prioritySoFar : Int
  msg : Text

/-- The priority search, from index `i` on. -/
def prioritize (queue : TileQueue) (i : Nat) (best : Prioritized)
    : List Payload → Except Exception Prioritized
  | [] => .ok best
  | prio :: rest =>
      -- avoid starving - stop the search when we reach a non-tile
      if isPlainTile prio = false then .ok best
      else do
        let p ← queue.priority prio
        if p > best.prioritySoFar then
          let best := { prioritized := i, prioritySoFar := p, msg := prio }
          -- found the highest priority already?
          if p = (queue.viewOrder.length : Int) - 1 then return best
          else prioritize queue (i + 1) best rest
        else prioritize queue (i + 1) best rest

/-- The combining loop of `get_impl`: the tiles joined to the first one, and the queue that
is left; after an exception this is the queue as far as it was searched.
-/
def combineTiles (first : TileDesc) : List Payload
    → Except Exception (List TileDesc) × List Payload
  | [] => (.ok [], [])
  | it :: rest =>
      let keep :=
        let (tiles, left) := combineTiles first rest
        (tiles, it :: left)
      -- Don't combine non-tiles or tiles with id.
      if isPlainTile it = false then keep
      else
        match TileDesc.parse it with
        | .error exception => (.error exception, it :: rest)
        | .ok tile2 =>
            if first.canCombine tile2 then
              let (tiles, left) := combineTiles first rest
              (tiles.map (tile2 :: ·), left)
            else keep

/-- The message that is returned for the combined tiles. -/
def tilesMessage (first : TileDesc) : List TileDesc → Except Exception Payload
  | [] => .ok (first.serialize "tile".toList)
  | second :: others => do
      let tileCombined ← TileCombined.create first (second :: others)
      return tileCombined.serialize "tilecombine".toList

/-- The part of `get_impl` that handles a plain tile at the front. -/
def getTiles (queue : TileQueue) (front : Payload)
    : Except Exception Payload × List Payload :=
  match queue.prioritize 0 { prioritized := 0, prioritySoFar := -1, msg := front } queue.queue with
  | .error exception => (.error exception, queue.queue)
  | .ok best =>
      let rest := queue.queue.eraseIdx best.prioritized
      match TileDesc.parse best.msg with
      | .error exception => (.error exception, rest)
      | .ok first =>
          let (tiles, left) := combineTiles first rest
          (tiles.bind (tilesMessage first), left)

/-- `get_impl` on the queued messages, for a queue that is not empty. -/
def getMessage (queue : TileQueue) (front : Payload) (rest : List Payload)
    : Except Exception Payload × List Payload :=
  if isPlainTile front then queue.getTiles front
  else if isPreview front then (.ok front, deprioritizePreviews rest)
  else (.ok front, rest)

/-- `get`: it waits while the queue is empty. -/
def get (queue : TileQueue) : Option (Except Exception Payload × TileQueue) :=
  match queue.queue with
  | [] => none
  | front :: rest =>
      let (payload, messages) := queue.getMessage front rest
      some (payload, { queue with queue := messages })

end TileQueue

end NdcOdfWeb.Queue
