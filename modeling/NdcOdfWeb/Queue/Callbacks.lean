import NdcOdfWeb.Tiles.TileDesc

/-! De-duplication of the callbacks in a queue (`TileQueue::removeCallbackDuplicate`).
The JSON parser is a parameter: `viewIdOf` gives the text of the member `viewId`.
-/

namespace NdcOdfWeb.Queue

open NdcOdfWeb.Foundation
open NdcOdfWeb.Protocol
open NdcOdfWeb.Tiles

/-- A queued message. -/
abbrev Payload := Text

/-- `std::string::substr` from a position to the end. -/
def substr (text : Text) (position : Nat) : Except Exception Text :=
  if position > text.length then .error (.std .outOfRange) else .ok (text.drop position)

/-- `extractViewId`: the JSON text starts behind the first three tokens and three spaces;
a length below 0 is a huge unsigned number.
-/
def extractViewId (viewIdOf : Text → Except Exception Text) (origMsg : Text)
    (token0 token1 token2 : Text)
    : Except Exception Text :=
  let nonJson := token0.length + token1.length + token2.length + 3
  if nonJson > origMsg.length then .error (.std .lengthError)
  else viewIdOf (origMsg.drop nonJson)

/-- `extractUnoCommand`. -/
def extractUnoCommand (command : Text) : Text :=
  if matchPrefix ".uno:".toList command = false then []
  else command.takeWhile (· != '=')

/-- What `extractRectangle` finds in an invalidation callback. -/
structure Invalidation where
  x : Int32
  y : Int32
  w : Int32
  h : Int32
  part : Int32
deriving DecidableEq

/-- `INT_MAX`. -/
def intMax : Int32 := 2147483647

/-- `extractRectangle`; the arguments of a failed call are not used. -/
def extractRectangle (tokens : List Text) : Option Invalidation :=
  match tokens with
  | _ :: _ :: _ :: token3 :: token4 :: rest =>
      if token3 = "EMPTY,".toList then
        some { x := 0, y := 0, w := intMax, h := intMax, part := atoi token4 }
      else
        match rest with
        | token5 :: token6 :: token7 :: _ =>
            some {
              x := atoi token3
              y := atoi token4
              w := atoi token5
              h := atoi token6
              part := atoi token7
            }
        | _ => none
  | _ => none

/-- The queued invalidation is fully covered by the message. -/
def Invalidation.covers (msg queued : Invalidation) : Bool :=
  msg.x ≤ queued.x && queued.x + queued.w ≤ msg.x + msg.w
    && msg.y ≤ queued.y && queued.y + queued.h ≤ msg.y + msg.h

/-- The bounding rectangle of both. -/
def Invalidation.join (msg queued : Invalidation) : Invalidation where
  x := min msg.x queued.x
  y := min msg.y queued.y
  w := max (msg.x + msg.w) (queued.x + queued.w) - min msg.x queued.x
  h := max (msg.y + msg.h) (queued.y + queued.h) - min msg.y queued.y
  part := msg.part

/-- 4x tile at 100% zoom. -/
def reasonableSizeX : Int32 := 4 * 3840

/-- 2x tile at 100% zoom. -/
def reasonableSizeY : Int32 := 2 * 3840

/-- The rectangle of a queued message, if it is an invalidation with the same first tokens. -/
def queuedInvalidation (token0 token1 token2 : Text) (queued : Payload) : Option Invalidation :=
  match tokenize ' ' queued with
  | queued0 :: queued1 :: queued2 :: rest =>
      if queued0 ≠ token0 ∨ queued1 ≠ token1 ∨ queued2 ≠ token2 then none
      else extractRectangle (queued0 :: queued1 :: queued2 :: rest)
  | _ => none

/-- The message's rectangle, whether it was merged, and what is left of the queue. -/
structure Merge where
  msg : Invalidation
  performedMerge : Bool
  queue : List Payload

/-- The loop over the queue; it always travels the entire queue. -/
def mergeInvalidations (token0 token1 token2 : Text) (msg : Invalidation)
    (performedMerge : Bool)
    : List Payload → Merge
  | [] => { msg, performedMerge, queue := [] }
  | it :: rest =>
      let keep : Merge :=
        let merge := mergeInvalidations token0 token1 token2 msg performedMerge rest
        { merge with queue := it :: merge.queue }
      match queuedInvalidation token0 token1 token2 it with
      | none => keep
      | some queued =>
          if msg.part ≠ queued.part then keep
          else if msg.covers queued then
            mergeInvalidations token0 token1 token2 msg performedMerge rest
          else if rectanglesIntersect msg.x msg.y msg.w msg.h queued.x queued.y queued.w
              queued.h then
            if (msg.join queued).w > reasonableSizeX ∨ (msg.join queued).h > reasonableSizeY then
              keep
            else mergeInvalidations token0 token1 token2 (msg.join queued) true rest
          else keep

/-- The text of the merged invalidation: the message with the four numbers replaced. A
message without the numbers (`EMPTY, part`) is merged only where a sum overflows; a token that
it does not have counts as empty here.
-/
def mergeResult (callbackMsg : Text) (tokens : List Text) (msg : Invalidation)
    : Except Exception Text := do
  let size (i : Nat) : Nat := (tokens.getD i []).length
  let pre := size 0 + size 1 + size 2 + 3
  let post := pre + size 3 + size 4 + size 5 + size 6 + 4
  let rest ← substr callbackMsg post
  return callbackMsg.take pre
    ++ showInt msg.x.toInt ++ ", ".toList
    ++ showInt msg.y.toInt ++ ", ".toList
    ++ showInt msg.w.toInt ++ ", ".toList
    ++ showInt msg.h.toInt ++ ", ".toList ++ rest

-----------------------------------------------------------------------------------------
-- Obsolete states and positions
-----------------------------------------------------------------------------------------

/-- Whether a queued message is a state of the same .uno: command. -/
def sameUnoCommand (token0 token1 token2 unoCommand : Text) (queued : Payload) : Bool :=
  match tokenize ' ' queued with
  | queued0 :: queued1 :: queued2 :: queued3 :: _ =>
      queued0 == token0 && queued1 == token1 && queued2 == token2
        && extractUnoCommand queued3 != [] && unoCommand == extractUnoCommand queued3
  | _ => false

/-- The types with one position or value for each target. -/
def valueTypes : List Text :=
  ["1", "5", "10", "13", "17"].map String.toList

/-- The types with one position or value for each target and view id. -/
def viewTypes : List Text :=
  ["24", "26", "28"].map String.toList

/-- Whether a queued message has the message's target and type, and its view id if the
message has one.
-/
def sameCallback (viewIdOf : Text → Except Exception Text) (token1 token2 : Text)
    (viewId : Option Text) (queued : Payload)
    : Except Exception Bool :=
  if matchPrefix "callback".toList queued = false then .ok false
  else
    match tokenize ' ' queued with
    | queued0 :: queued1 :: queued2 :: _ =>
        if queued1 = token1 ∧ queued2 = token2 then
          match viewId with
          | none => .ok true
          | some viewId => do
              let queuedViewId ← extractViewId viewIdOf queued queued0 queued1 queued2
              return viewId == queuedViewId
        else .ok false
    | _ => .ok false

/-- Remove the first queued message for which `obsolete` holds. -/
def eraseObsolete (obsolete : Payload → Except Exception Bool)
    : List Payload → Except Exception (List Payload)
  | [] => .ok []
  | it :: rest => do
      if ← obsolete it then return rest
      else return it :: (← eraseObsolete obsolete rest)

/-- The branch of `removeCallbackDuplicate` for an invalidation. -/
def removeInvalidations (queue : List Payload) (callbackMsg token0 token1 token2 : Text)
    (rest : List Text)
    : Except Exception (List Payload × Text) :=
  match extractRectangle (token0 :: token1 :: token2 :: rest) with
  | none => .ok (queue, [])
  | some msg =>
      let merge := mergeInvalidations token0 token1 token2 msg false queue
      if merge.performedMerge then do
        let result ← mergeResult callbackMsg (token0 :: token1 :: token2 :: rest) merge.msg
        return (merge.queue, result)
      else .ok (merge.queue, [])

/-- The branch for a changed state. -/
def removeState (queue : List Payload) (token0 token1 token2 : Text) (rest : List Text)
    : List Payload :=
  match rest with
  | [] => queue
  | token3 :: _ =>
      if extractUnoCommand token3 = [] then queue
      -- remove obsolete states of the same .uno: command
      else queue.eraseP (sameUnoCommand token0 token1 token2 (extractUnoCommand token3))

/-- The branch for a moved cursor and the like; a view callback is first asked for its view
id.
-/
def removeValue (viewIdOf : Text → Except Exception Text) (queue : List Payload)
    (callbackMsg token0 token1 token2 : Text)
    : Except Exception (List Payload) := do
  if token2 ∈ viewTypes then
    let viewId ← extractViewId viewIdOf callbackMsg token0 token1 token2
    eraseObsolete (sameCallback viewIdOf token1 token2 (some viewId)) queue
  else eraseObsolete (sameCallback viewIdOf token1 token2 none) queue

/-- `TileQueue::removeCallbackDuplicate`: the queue that is left and the message to put; an
empty text stands for the original one.
-/
def removeCallbackDuplicate (viewIdOf : Text → Except Exception Text) (queue : List Payload)
    (callbackMsg : Text)
    : Except Exception (List Payload × Text) :=
  match tokenize ' ' callbackMsg with
  | token0 :: token1 :: token2 :: rest =>
      -- the message is "callback <view> <id> ..."
      if token2 = "0".toList then
        removeInvalidations queue callbackMsg token0 token1 token2 rest
      else if token2 = "8".toList then
        .ok (removeState queue token0 token1 token2 rest, [])
      else if token2 ∈ valueTypes ∨ token2 ∈ viewTypes then do
        let left ← removeValue viewIdOf queue callbackMsg token0 token1 token2
        return (left, [])
      else .ok (queue, [])
  | _ => .ok (queue, [])

end NdcOdfWeb.Queue
