import NdcOdfWeb.Kit.CallbackDelivery
import NdcOdfWeb.Kit.InvalidationPayloads
import NdcOdfWeb.Queue.QueuedInvalidations
import NdcOdfWeb.Rendering.CacheInvalidation

/-! An invalidation on its way from the kit's queue to the tile cache in wsd: it removes the tiles
of a session's view that have one of its points.
-/

namespace NdcOdfWeb.Rendering

open NdcOdfWeb.Foundation
open NdcOdfWeb.Protocol
open NdcOdfWeb.Tiles
open NdcOdfWeb.Queue
open NdcOdfWeb.Kit

/-- The points of the tiles with this key. -/
def CacheKey.area (key : CacheKey) : Set (Int × Int) :=
  closedArea key.tilePosX.toInt key.tilePosY.toInt
    (key.tilePosX.toInt + key.tileWidth.toInt) (key.tilePosY.toInt + key.tileHeight.toInt)

/-- The point of a part is in the tile. A text document has only one part. -/
def InTile (docType : LibreOfficeKitDocumentType) (key : CacheKey)
    (point : Int32 × (Int × Int))
    : Prop :=
  (docType = .text ∨ point.1 = key.part) ∧ point.2 ∈ key.area

/-- The keys of a view's tiles: their far corners fit an `int`, and Writer renders everything as
part 0.
-/
structure Shown (docType : LibreOfficeKitDocumentType) (nViewId : Int32) (key : CacheKey)
    : Prop where
  view : key.nViewId = nViewId
  part : docType = .text → key.part = 0
  right : key.tilePosX.toInt + key.tileWidth.toInt < 2 ^ 31
  bottom : key.tilePosY.toInt + key.tileHeight.toInt < 2 ^ 31

/-- wsd takes the message for an invalidation. -/
def isTileInvalidation (message : Text) : Prop :=
  (tokenize ' ' message).head? = some "invalidatetiles:".toList

instance (message : Text) : Decidable (isTileInvalidation message) :=
  inferInstanceAs (Decidable (_ = _))

/-- The message removes the file of the tile. -/
def Removes (nViewId : Int32) (message : Text) (tile : TileDesc) : Prop :=
  isTileInvalidation message
  ∧ ∃ part rectangle,
      parseInvalidateMsg message = .ok (part, rectangle)
      ∧ intersectsTile (cacheFileName tile) part rectangle.x1 rectangle.y1
          (rectangle.x2 - rectangle.x1) (rectangle.y2 - rectangle.y1) nViewId = true

/-- The first token is the command. -/
theorem isTileInvalidation_of_blank (rest : Text)
    : isTileInvalidation ("invalidatetiles:".toList ++ ' ' :: rest) := by
  have tokens := @tokenize_append ' ' (by decide) "invalidatetiles:".toList [] (by decide)
    (List.forall_mem_nil _) rest
  rw [spaced_nil, List.append_nil] at tokens
  rw [isTileInvalidation, tokens]
  rfl

/-- The first token is the command. -/
theorem isTileInvalidation_invalidatetiles (part x y width height : Int32)
    : isTileInvalidation (invalidatetiles part x y width height) := by
  have blank : " part=".toList = ' ' :: "part=".toList := by decide
  unfold invalidatetiles
  rw [blank]
  simp only [List.append_assoc, List.cons_append]
  exact isTileInvalidation_of_blank _

section Removing

variable {docType : LibreOfficeKitDocumentType} {nViewId : Int32} {tile : TileDesc}

/-- A rectangle that touches the tile removes it. -/
theorem removes_of_touches {message : Text} {part x y width height : Int32}
    (shown : Shown docType nViewId (cacheKey tile)) (invalidation : isTileInvalidation message)
    (parsed : parseInvalidateMsg message = .ok (part, .ofSize x y width height))
    (chosen : part = -1 ∨ tile.part = part)
    (right : x.toInt + width.toInt < 2 ^ 31) (bottom : y.toInt + height.toInt < 2 ^ 31)
    (touches : Touches x y width height tile)
    : Removes nViewId message tile := by
  refine ⟨invalidation, part, _, parsed, ?_⟩
  have back (a b : Int32) : a + b - a = b := by
    rw [Int32.add_comm, Int32.add_sub_cancel]
  dsimp only [Rectangle.ofSize]
  rw [back, back]
  exact (intersectsTile_iff tile part x y width height nViewId).mpr
    ⟨shown.view, chosen, ⟨right, bottom, shown.right, shown.bottom⟩, touches.wrapped⟩

/-- A rectangle from the origin to `INT_MAX` touches all tiles. -/
theorem removes_of_whole {message : Text} {part : Int32}
    (shown : Shown docType nViewId (cacheKey tile)) (invalidation : isTileInvalidation message)
    (parsed
      : parseInvalidateMsg message
        = .ok (part, .ofSize 0 0 Int32.maxValue Int32.maxValue))
    (chosen : part = -1 ∨ tile.part = part)
    : Removes nViewId message tile := by
  have largest : (0 : Int32).toInt + Int32.maxValue.toInt = 2 ^ 31 - 1 := by decide
  have origin : (0 : Int32).toInt = 0 := by decide
  obtain ⟨⟨posX, wide⟩, posY, high⟩ := tile_bounds tile
  have right : tile.tilePosX.toInt + tile.tileWidth.toInt < 2 ^ 31 := shown.right
  have bottom : tile.tilePosY.toInt + tile.tileHeight.toInt < 2 ^ 31 := shown.bottom
  refine removes_of_touches shown invalidation parsed chosen (by omega) (by omega) ?_
  rw [Touches, closedArea_meets, largest, origin]
  omega

/-- An int fits an int. -/
theorem isInt_toInt (value : Int32) : IsInt value.toInt :=
  ⟨value.le_toInt, value.toInt_lt⟩

/-- A rectangle with a point of the tile removes it. -/
theorem removes_of_rectangle {rect : Invalidation} (safe : rect.Safe)
    (shown : Shown docType nViewId (cacheKey tile)) {point : Int32 × (Int × Int)}
    (inTile : InTile docType (cacheKey tile) point)
    (inside : rect.part = point.1 ∧ point.2 ∈ rect.area)
    : ∃ message,
        invalidateMessage docType rect.payload = some message ∧ Removes nViewId message tile := by
  have text
      : rect.payload
        = (InvalidatedTiles.rectangle rect.x.toInt rect.y.toInt rect.w.toInt rect.h.toInt
            rect.part.toInt).payload :=
    rfl
  rw [text]
  rcases invalidateMessage_rectangle docType rect.x.toInt rect.y.toInt rect.w.toInt rect.h.toInt
      rect.part.toInt with
    ⟨-, x, y, width, height, part, sent, ⟨sameX, sameY⟩, ⟨sameW, sameH⟩, samePart⟩ | ⟨large, -⟩
  swap
  · exact absurd
      ⟨⟨isInt_toInt _, isInt_toInt _, isInt_toInt _, isInt_toInt _⟩, .inr (isInt_toInt _)⟩ large
  obtain rfl := Int32.toInt_inj.mp sameX
  obtain rfl := Int32.toInt_inj.mp sameY
  obtain rfl := Int32.toInt_inj.mp sameW
  obtain rfl := Int32.toInt_inj.mp sameH
  refine ⟨_, sent, removes_of_touches shown (isTileInvalidation_invalidatetiles ..)
    (parseInvalidateMsg_invalidatetiles ..) (.inr ?_) safe.right safe.bottom
    ⟨point.2, ?_, inTile.2⟩⟩
  · apply Int32.toInt_inj.mp
    rw [samePart]
    split
    · next writer => exact congrArg Int32.toInt (shown.part writer)
    · next other =>
        rw [inside.1]
        exact congrArg Int32.toInt (inTile.1.resolve_left other).symm
  · obtain ⟨⟨left, beforeRight⟩, top, beforeBottom⟩ := inside.2
    exact ⟨⟨left, top⟩, ⟨beforeRight.le, beforeBottom.le⟩⟩

/-- The payload is passed on. -/
theorem invalidateMessage_empty (docType : LibreOfficeKitDocumentType)
    : invalidateMessage docType "EMPTY".toList
      = some ("invalidatetiles: ".toList ++ "EMPTY".toList) := by
  have tokens : stringTokenizer ',' "EMPTY".toList = ["EMPTY".toList] := by decide
  unfold invalidateMessage
  rw [tokens]

/-- A text document has one part. -/
theorem invalidateMessage_emptyPart (docType : LibreOfficeKitDocumentType) (part : Int)
    : invalidateMessage docType (InvalidatedTiles.emptyPart part).payload
      = some ("invalidatetiles: EMPTY, ".toList
          ++ showInt (if docType = .text then 0 else part)) := by
  unfold invalidateMessage
  rw [emptyPart_tokens]
  dsimp only
  rw [if_pos rfl]
  split
  · rfl
  · rfl

/-- Everything in a part is removed. -/
theorem removes_of_emptyPart (shown : Shown docType nViewId (cacheKey tile)) {part : Int32}
    (inTile : docType = .text ∨ part = tile.part)
    : ∃ message,
        invalidateMessage docType (InvalidationPayload.emptyPart part).text = some message
        ∧ Removes nViewId message tile := by
  have sent := invalidateMessage_emptyPart docType part.toInt
  have same : (if docType = .text then 0 else part.toInt) = tile.part.toInt := by
    split
    · next writer => exact (congrArg Int32.toInt (shown.part writer)).symm
    · next other => exact congrArg Int32.toInt (inTile.resolve_left other)
  rw [same] at sent
  refine ⟨_, sent, ?_⟩
  rcases parseInvalidateMsg_emptyPart tile.part.toInt with ⟨-, part', value, parsed⟩ | ⟨large, -⟩
  · refine removes_of_whole shown ?_ parsed (.inr (Int32.toInt_inj.mp value).symm)
    have blank
        : "invalidatetiles: EMPTY, ".toList
          = "invalidatetiles:".toList ++ ' ' :: "EMPTY, ".toList := by
      decide
    rw [blank, List.append_assoc, List.cons_append]
    exact isTileInvalidation_of_blank _
  · exact absurd (isInt_toInt tile.part) large

/-- An invalidation with a point of the tile removes it. -/
theorem removes_of_point (payload : InvalidationPayload)
    (shown : Shown docType nViewId (cacheKey tile)) {point : Int32 × (Int × Int)}
    (inTile : InTile docType (cacheKey tile) point) (inside : point ∈ payload.points)
    : ∃ message,
        invalidateMessage docType payload.text = some message
        ∧ Removes nViewId message tile := by
  cases payload with
  | rectangle rect safe => exact removes_of_rectangle safe shown inTile inside
  | empty =>
      refine ⟨_, invalidateMessage_empty docType, removes_of_whole shown ?_ ?_ (.inl rfl)⟩
      · decide +kernel
      · decide +kernel
  | emptyPart part =>
      have same : part = point.1 := inside.1
      exact removes_of_emptyPart shown (same ▸ inTile.1)

end Removing

-----------------------------------------------------------------------------------------
-- The callback
-----------------------------------------------------------------------------------------

/-- Each payload of the office has a message, by cases on it. -/
theorem invalidateMessage_isSome (docType : LibreOfficeKitDocumentType)
    (payload : InvalidationPayload)
    : ∃ message, invalidateMessage docType payload.text = some message := by
  cases payload with
  | rectangle rect safe =>
      rcases invalidateMessage_rectangle docType rect.x.toInt rect.y.toInt rect.w.toInt
          rect.h.toInt rect.part.toInt with
        ⟨-, x, y, width, height, part, sent, -⟩ | ⟨-, sent⟩
      · exact ⟨_, sent⟩
      · exact ⟨_, sent⟩
  | empty => exact ⟨_, invalidateMessage_empty docType⟩
  | emptyPart part => exact ⟨_, invalidateMessage_emptyPart docType part.toInt⟩

section Callback

variable (json : Json)

/-- The callback sends the one message. -/
theorem sendCallback_invalidateTiles (office : Office) (session : ChildSession) (payload : Text)
    : sendCallback json office session .invalidateTiles payload
      = (invalidateMessage session.docType payload).map ([·]) :=
  rfl

/-- An invalidation changes the cursor's fields at most. -/
theorem loKitCallback_invalidateTiles (office : Office) (session : ChildSession)
    (payload : InvalidationPayload)
    : ∃ frames next,
        loKitCallback json office session .invalidateTiles payload.text = some (frames, next) := by
  obtain ⟨message, sent⟩ := invalidateMessage_isSome session.docType payload
  unfold loKitCallback
  dsimp only
  split
  · exact ⟨_, _, rfl⟩
  · split
    · exact ⟨_, _, rfl⟩
    · split
      · rw [sendCallback_invalidateTiles, sent]
        exact ⟨_, _, rfl⟩
      · rw [rememberEventsForInactiveUser]
        exact ⟨_, _, rfl⟩

/-- An invalidation is no exception for any session. -/
theorem callback_invalidateTiles (office : Office) (view : KitView) (payload : InvalidationPayload)
    : ∃ frames next,
        view.callback json office .invalidateTiles payload.text = some (frames, next) := by
  unfold KitView.callback
  split
  · exact ⟨_, _, rfl⟩
  · obtain ⟨frames, next, sent⟩ :=
      loKitCallback_invalidateTiles json office view.session payload
    rw [sent]
    exact ⟨_, _, rfl⟩

/-- The session gets callbacks. -/
structure Active (session : ChildSession) : Prop where
  notClosing : session.isCloseFrame = false
  connected : session.isDisconnected = false
  active : session.isActive = true

/-- An active view sends the message at once. -/
theorem callback_active (office : Office) {view : KitView} (active : Active view.session)
    {payload message : Text} (sent : invalidateMessage view.session.docType payload = some message)
    : ∃ next, view.callback json office .invalidateTiles payload = some ([message], next) := by
  unfold KitView.callback loKitCallback
  dsimp only
  rw [active.notClosing, active.connected, active.active, sendCallback_invalidateTiles, sent]
  exact ⟨_, rfl⟩

/-- The queue's message for an invalidation is for all sessions with a view. -/
theorem runCallback_allInvalidation (office : Int32 → Office) (payload : InvalidationPayload)
    (views : List KitView)
    : runCallback json office (allInvalidation payload) views
      = forwardCallback json office ⟨true, -1, -1⟩ .invalidateTiles payload.text views := by
  have zero : "0".toList = showInt (0 : Int32).toInt := by decide
  rw [allInvalidation, invalidationMessage, zero]
  exact runCallback_message allViews 0 payload.text views rfl

end Callback

end NdcOdfWeb.Rendering
