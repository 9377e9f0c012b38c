import NdcOdfWeb.Kit.StateRecorder
import NdcOdfWeb.Queue.CallbackMessages
import NdcOdfWeb.Tiles.TileDescCodec

/-! Callbacks of the office core on their way through the kit: `ViewCallback` writes a message for
the queue, and `Document::run` reads it back and hands it to the sessions that it is for.
-/

namespace NdcOdfWeb.Kit

open NdcOdfWeb.Foundation
open NdcOdfWeb.Protocol
open NdcOdfWeb.Queue
open NdcOdfWeb.Tiles

-----------------------------------------------------------------------------------------
-- Types
-----------------------------------------------------------------------------------------

/-- The callback types with the numbers from 0 on. -/
def callbackTypes : List LibreOfficeKitCallbackType :=
  [
    .invalidateTiles, .invalidateVisibleCursor, .textSelection, .textSelectionStart,
    .textSelectionEnd, .cursorVisible, .graphicSelection, .hyperlinkClicked, .stateChanged,
    .statusIndicatorStart, .statusIndicatorSetValue, .statusIndicatorFinish, .searchNotFound,
    .documentSizeChanged, .setPart, .searchResultSelection, .unoCommandResult, .cellCursor,
    .mousePointer, .cellFormula, .documentPassword, .documentPasswordToModify, .error,
    .contextMenu, .invalidateViewCursor, .textViewSelection, .cellViewCursor,
    .graphicViewSelection, .viewCursorVisible, .viewLock, .redlineTableSizeChanged,
    .redlineTableEntryModified, .comment, .invalidateHeader, .cellAddress, .rulerUpdate, .window,
    .validityListButton, .clipboardChanged, .contextChanged, .signatureStatus, .profileFrame,
    .cellSelectionArea, .cellAutoFillArea, .tableSelected
  ]

/-- The callback type with this number. -/
def callbackType (type : Int32) : LibreOfficeKitCallbackType :=
  match type.toInt with
  | .ofNat number =>
      if number = 1000 then .msgbox
      else (callbackTypes[number]?).getD (.unknown number)
  | .negSucc _ => .unknown type.toInt

/-- The numbers of the types that `ViewCallback` looks at. -/
def invalidateTilesType : Int32 := 0

def invalidateVisibleCursorType : Int32 := 1

def documentSizeChangedType : Int32 := 13

def cellCursorType : Int32 := 17

def invalidateViewCursorType : Int32 := 24

def cellViewCursorType : Int32 := 26

/-- All views have to be in sync. -/
def isForAll (type : Int32) : Prop :=
  type = invalidateTilesType ∨ type = documentSizeChangedType

/-- These should go to all views but the one that triggered it. -/
def isForOthers (type : Int32) : Prop :=
  type = invalidateViewCursorType ∨ type = cellViewCursorType

instance (type : Int32) : Decidable (isForAll type) :=
  inferInstanceAs (Decidable (_ ∨ _))

instance (type : Int32) : Decidable (isForOthers type) :=
  inferInstanceAs (Decidable (_ ∨ _))

-----------------------------------------------------------------------------------------
-- `ViewCallback`
-----------------------------------------------------------------------------------------

/-- What `ViewCallback` uses of the JSON parser, `none` for an exception. -/
structure CursorJson where
  /-- The text `rectangle` of an object. -/
  rectangle : Text → Option Text
  /-- The number `viewId` and the texts `part` and `rectangle` of an object. -/
  viewCursor : Text → Option (Int32 × Text × Text)

/-- The cursor of a view moves to a rectangle. The payload may be `EMPTY`. -/
def moveCursor (queue : TileQueue) (viewId part : Except StdError Int32) (rectangle : Text)
    : Except StdError TileQueue :=
  match stringTokenizer ',' rectangle with
  | [x, y, width, height] => do
      let cursorX ← stoi x
      let cursorY ← stoi y
      let cursorWidth ← stoi width
      let cursorHeight ← stoi height
      let viewId ← viewId
      let part ← part
      return queue.updateCursorPosition viewId part cursorX cursorY cursorWidth cursorHeight
  | _ => .ok queue

/-- What `ViewCallback` does about a cursor: the target view, if the content says one, and the
queue, `none` for an exception.
-/
def readCursor (json : CursorJson) (queue : TileQueue) (type : Int32) (payload : Text)
    : Option (Option Int32 × TileQueue) :=
  if type = cellCursorType then
    (moveCursor queue (.ok 0) (.ok 0) payload).toOption.map ((none, ·))
  else if type = invalidateVisibleCursorType then do
    let rectangle ← json.rectangle payload
    let queue ← (moveCursor queue (.ok 0) (.ok 0) rectangle).toOption
    return (none, queue)
  else if isForOthers type then do
    let (targetViewId, part, rectangle) ← json.viewCursor payload
    let queue ← (moveCursor queue (.ok targetViewId) (stoi part) rectangle).toOption
    return (some targetViewId, queue)
  else some (none, queue)

/-- The message that `ViewCallback` puts into the queue. -/
def viewCallbackMessage (viewId type : Int32) (targetViewId : Option Int32) (payload : Text)
    : Payload :=
  let targetViewId := (targetViewId.map (fun viewId => showInt viewId.toInt)).getD []
  if isForAll type then callbackMessage "all".toList (showInt type.toInt) payload
  else if isForOthers type then
    callbackMessage ("except-".toList ++ targetViewId) (showInt type.toInt) payload
  else callbackMessage (showInt viewId.toInt) (showInt type.toInt) payload

/-- `Document::ViewCallback` of a view, `none` for an exception. -/
def viewCallback (json : CursorJson) (viewIdOf : Text → Except Exception Text) (viewId : Int32)
    (queue : TileQueue) (type : Int32) (payload : Text)
    : Option TileQueue := do
  let (targetViewId, queue) ← readCursor json queue type payload
  (queue.put viewIdOf (viewCallbackMessage viewId type targetViewId payload)).toOption

-----------------------------------------------------------------------------------------
-- The callback branch of `Document::run`
-----------------------------------------------------------------------------------------

/-- A session of the kit's document, with its id and its view. -/
structure KitView where
  id : Text
  viewId : Int32
  session : ChildSession

/-- The variables for the target of a callback. -/
structure CallbackTarget where
  broadcast : Bool
  viewId : Int32
  exceptViewId : Int32

def readTarget (target : Text) : Except StdError CallbackTarget :=
  if target = "all".toList then .ok ⟨true, -1, -1⟩
  else if matchPrefix "except-".toList target then do
    let exceptViewId ← stoi (target.drop 7)
    return ⟨true, -1, exceptViewId⟩
  else do
    let viewId ← stoi target
    return ⟨false, viewId, -1⟩

/-- The callback is for this view. -/
def CallbackTarget.selects (target : CallbackTarget) (viewId : Int32) : Bool :=
  (target.broadcast && viewId != target.exceptViewId)
    || (!target.broadcast && viewId == target.viewId)

/-- What the sessions have sent, with their ids, and the sessions afterwards; an exception ends
`Document::run`.
-/
structure Forwarded where
  frames : List (Text × Text)
  views : List KitView
  running : Bool

/-- A session gets a callback; one that is closing does not. -/
def KitView.callback (json : Json) (office : Office) (type : LibreOfficeKitCallbackType)
    (payload : Text) (view : KitView)
    : Option (List Text × KitView) :=
  if view.session.isCloseFrame then some ([], view)
  else
    (loKitCallback json office view.session type payload).map
      (fun (frames, session) => (frames, { view with session }))

/-- One more session is done. -/
def Forwarded.cons (frames : List Text) (view : KitView) (rest : Forwarded) : Forwarded :=
  { rest with frames := frames.map (view.id, ·) ++ rest.frames, views := view :: rest.views }

section Forward

variable (json : Json) (office : Int32 → Office)

/-- The loop over the sessions; the office core answers for the session's view. -/
def forwardCallback (target : CallbackTarget) (type : LibreOfficeKitCallbackType) (payload : Text)
    : List KitView → Forwarded
  | [] => ⟨[], [], true⟩
  | view :: views =>
      if target.selects view.viewId then
        match view.callback json (office view.viewId) type payload with
        | none => ⟨[], view :: views, false⟩
        | some (frames, view) =>
            if target.broadcast then (forwardCallback target type payload views).cons frames view
            else (⟨[], views, true⟩ : Forwarded).cons frames view
      else (forwardCallback target type payload views).cons [] view

/-- The callback branch of `Document::run`. -/
def runCallback (input : Payload) (views : List KitView) : Forwarded :=
  match tokenize ' ' input with
  | token0 :: token1 :: token2 :: _ =>
      match readTarget token1, stoi token2 with
      | .ok target, .ok type =>
          -- payload is the rest of the message
          let offset := token0.length + token1.length + token2.length + 3
          if input.length < offset then ⟨[], views, false⟩
          else forwardCallback json office target (callbackType type) (input.drop offset) views
      | _, _ => ⟨[], views, false⟩
  | _ => ⟨[], views, true⟩

end Forward

-----------------------------------------------------------------------------------------
-- What `ViewCallback` puts
-----------------------------------------------------------------------------------------

/-- Neither the word nor the number has a blank. -/
theorem exceptName_lineWord (viewId : Option Int32)
    : LineWord ' '
        ("except-".toList ++ (viewId.map (fun viewId => showInt viewId.toInt)).getD []) := by
  have name : LineWord ' ' "except-".toList := by decide
  refine name.append ?_
  cases viewId with
  | none => decide
  | some viewId => exact showInt_lineWord _

/-- A cursor moves no message. -/
theorem moveCursor_queue {queue next : TileQueue} {viewId part : Except StdError Int32}
    {rectangle : Text} (moved : moveCursor queue viewId part rectangle = .ok next)
    : next.queue = queue.queue := by
  unfold moveCursor at moved
  split at moved
  · simp only [bind, Except.bind] at moved
    repeat' split at moved
    all_goals
      cases moved
      try rfl
  · cases moved
    rfl

/-- Only a result without an error has a value. -/
theorem ok_of_toOption {α ε : Type} {result : Except ε α} {value : α}
    (found : result.toOption = some value)
    : result = .ok value := by
  cases result with
  | error exception => cases found
  | ok other => exact congrArg Except.ok (Option.some.inj found)

/-- The cursor is kept beside the queue. -/
theorem readCursor_queue {json : CursorJson} {queue next : TileQueue} {type : Int32}
    {payload : Text} {targetViewId : Option Int32}
    (read : readCursor json queue type payload = some (targetViewId, next))
    : next.queue = queue.queue := by
  have moved {viewId part : Except StdError Int32} {rectangle : Text} {after : TileQueue}
      (found : (moveCursor queue viewId part rectangle).toOption = some after)
      : after.queue = queue.queue :=
    moveCursor_queue (ok_of_toOption found)
  unfold readCursor at read
  split at read
  · obtain ⟨after, found, same⟩ := Option.map_eq_some_iff.mp read
    cases same
    exact moved found
  · split at read
    · obtain ⟨rectangle, -, later⟩ := Option.bind_eq_some_iff.mp read
      obtain ⟨after, found, same⟩ := Option.bind_eq_some_iff.mp later
      cases same
      exact moved found
    · split at read
      · obtain ⟨view, -, later⟩ := Option.bind_eq_some_iff.mp read
        obtain ⟨after, found, same⟩ := Option.bind_eq_some_iff.mp later
        cases same
        exact moved found
      · cases read
        rfl

/-- A callback puts its message into the queue. -/
theorem viewCallback_put {json : CursorJson} {viewIdOf : Text → Except Exception Text}
    {viewId type : Int32} {queue next : TileQueue} {payload : Text}
    (called : viewCallback json viewIdOf viewId queue type payload = some next)
    : ∃ (targetViewId : Option Int32) (before : TileQueue),
        readCursor json queue type payload = some (targetViewId, before)
        ∧ before.queue = queue.queue
        ∧ before.put viewIdOf (viewCallbackMessage viewId type targetViewId payload)
          = .ok next := by
  obtain ⟨⟨targetViewId, before⟩, read, put⟩ := Option.bind_eq_some_iff.mp called
  exact ⟨targetViewId, before, read, readCursor_queue read, ok_of_toOption put⟩

-----------------------------------------------------------------------------------------
-- What the loop sends
-----------------------------------------------------------------------------------------

/-- A callback changes the view's state only. -/
theorem KitView.callback_id {json : Json} {office : Office} {type : LibreOfficeKitCallbackType}
    {payload : Text} {view next : KitView} {frames : List Text}
    (called : view.callback json office type payload = some (frames, next))
    : next.id = view.id := by
  unfold KitView.callback at called
  split at called
  · cases called
    rfl
  · obtain ⟨result, -, same⟩ := Option.map_eq_some_iff.mp called
    cases same
    rfl

/-- A callback that is no exception for any session reaches every session that it selects. -/
theorem mem_forwardCallback {json : Json} {office : Int32 → Office} {target : CallbackTarget}
    {type : LibreOfficeKitCallbackType} {payload : Text} (broadcast : target.broadcast = true)
    (handled
      : ∀ view : KitView,
          ∃ frames next, view.callback json (office view.viewId) type payload = some (frames, next))
    {views : List KitView} {view next : KitView} (member : view ∈ views)
    (selected : target.selects view.viewId = true) {frames : List Text}
    (called : view.callback json (office view.viewId) type payload = some (frames, next))
    {frame : Text} (sent : frame ∈ frames)
    : (view.id, frame) ∈ (forwardCallback json office target type payload views).frames := by
  induction views with
  | nil => exact absurd member List.not_mem_nil
  | cons first views ih =>
      unfold forwardCallback
      rcases List.mem_cons.mp member with rfl | later
      · rw [if_pos selected, called]
        dsimp only
        rw [if_pos broadcast]
        refine List.mem_append_left _ (List.mem_map.mpr ⟨frame, sent, ?_⟩)
        rw [KitView.callback_id called]
      · by_cases chosen : target.selects first.viewId = true
        · obtain ⟨others, after, answered⟩ := handled first
          rw [if_pos chosen, answered]
          dsimp only
          rw [if_pos broadcast]
          exact List.mem_append_right _ (ih later)
        · rw [if_neg chosen]
          exact List.mem_append_right _ (ih later)

-----------------------------------------------------------------------------------------
-- Whom a callback reaches
-----------------------------------------------------------------------------------------

section Reach

variable (json : Json) (office : Int32 → Office)

/-- The callback is handed to these sessions, one after the other, until there is an exception. -/
def handOut (isFor : KitView → Prop) [DecidablePred isFor] (type : LibreOfficeKitCallbackType)
    (payload : Text)
    : List KitView → Forwarded
  | [] => ⟨[], [], true⟩
  | view :: views =>
      if isFor view then
        match view.callback json (office view.viewId) type payload with
        | none => ⟨[], view :: views, false⟩
        | some (frames, view) => (handOut isFor type payload views).cons frames view
      else (handOut isFor type payload views).cons [] view

/-- The sessions that a callback of a view is for: all that have a view, all but the one that the
payload names, or that of the view.
-/
def IsFor (cursorJson : CursorJson) (viewId type : Int32) (payload : Text) (view : KitView)
    : Prop :=
  if isForAll type then view.viewId ≠ -1
  else if isForOthers type then (cursorJson.viewCursor payload).map Prod.fst ≠ some view.viewId
  else view.viewId = viewId

instance (cursorJson : CursorJson) (viewId type : Int32) (payload : Text)
    : DecidablePred (IsFor cursorJson viewId type payload) :=
  fun view =>
    inferInstanceAs
      (Decidable
        (if isForAll type then view.viewId ≠ -1
        else if isForOthers type then
          (cursorJson.viewCursor payload).map Prod.fst ≠ some view.viewId
        else view.viewId = viewId))

variable {json office}

/-- By induction on the views. -/
theorem handOut_of_none {isFor : KitView → Prop} [DecidablePred isFor]
    {type : LibreOfficeKitCallbackType} {payload : Text} {views : List KitView}
    (none' : ∀ view ∈ views, ¬ isFor view)
    : handOut json office isFor type payload views = ⟨[], views, true⟩ := by
  induction views with
  | nil => rfl
  | cons view views ih =>
      rw [List.forall_mem_cons] at none'
      rw [handOut, if_neg none'.1, ih none'.2]
      rfl

/-- By induction on the views. -/
theorem handOut_congr {isFor isFor' : KitView → Prop} [DecidablePred isFor]
    [DecidablePred isFor'] (same : ∀ view, isFor view ↔ isFor' view)
    (type : LibreOfficeKitCallbackType) (payload : Text) (views : List KitView)
    : handOut json office isFor type payload views
      = handOut json office isFor' type payload views := by
  induction views with
  | nil => rfl
  | cons view views ih =>
      unfold handOut
      rw [ih]
      by_cases chosen : isFor view
      · rw [if_pos chosen, if_pos ((same view).mp chosen)]
      · rw [if_neg chosen, if_neg (fun other => chosen ((same view).mpr other))]

/-- A broadcast does not stop at the first session. -/
theorem forwardCallback_broadcast (exceptViewId : Int32) (type : LibreOfficeKitCallbackType)
    (payload : Text) (views : List KitView)
    : forwardCallback json office ⟨true, -1, exceptViewId⟩ type payload views
      = handOut json office (fun view => view.viewId ≠ exceptViewId) type payload views := by
  induction views with
  | nil => rfl
  | cons view views ih =>
      have selects (viewId : Int32)
          : CallbackTarget.selects ⟨true, -1, exceptViewId⟩ viewId = true
            ↔ viewId ≠ exceptViewId := by
        simp [CallbackTarget.selects]
      unfold forwardCallback handOut
      by_cases chosen : view.viewId ≠ exceptViewId
      · rw [if_pos chosen, if_pos ((selects _).mpr chosen), ih]
        rfl
      · rw [if_neg chosen, if_neg (fun other => chosen ((selects _).mp other)), ih]

/-- Only one session has the view. -/
theorem forwardCallback_one {viewId : Int32} (own : viewId ≠ -1)
    (type : LibreOfficeKitCallbackType) (payload : Text) {views : List KitView}
    (apart : views.Pairwise (fun view other => view.viewId = other.viewId → view.viewId = -1))
    : forwardCallback json office ⟨false, viewId, -1⟩ type payload views
      = handOut json office (fun view => view.viewId = viewId) type payload views := by
  induction views with
  | nil => rfl
  | cons view views ih =>
      obtain ⟨here, later⟩ := List.pairwise_cons.mp apart
      have selects (other : Int32)
          : CallbackTarget.selects ⟨false, viewId, -1⟩ other = true ↔ other = viewId := by
        simp [CallbackTarget.selects]
      unfold forwardCallback handOut
      by_cases chosen : view.viewId = viewId
      · have rest : ∀ other ∈ views, ¬ other.viewId = viewId := by
          intro other member same
          exact own (chosen ▸ here other member (chosen.trans same.symm))
        rw [if_pos chosen, if_pos ((selects _).mpr chosen), handOut_of_none rest]
        rfl
      · rw [if_neg chosen, if_neg (fun other => chosen ((selects _).mp other)), ih later]

-----------------------------------------------------------------------------------------
-- Reading a message back
-----------------------------------------------------------------------------------------

/-- The type and the payload of a message are read back, whatever the payload looks like. -/
theorem runCallback_message (view : View) (type : Int32) (payload : Text) (views : List KitView)
    {target : CallbackTarget} (read : readTarget view.name = .ok target)
    : runCallback json office (callbackMessage view.name (showInt type.toInt) payload) views
      = forwardCallback json office target (callbackType type) payload views := by
  have number : stoi (showInt type.toInt) = .ok type := by
    have scanned := stoi_showInt type endsNumber_nil
    rwa [List.append_nil] at scanned
  have inside : ¬ (callbackHeader view.name (showInt type.toInt) ++ payload).length
      < (callbackHeader view.name (showInt type.toInt)).length := by
    rw [List.length_append]
    omega
  rw [runCallback, tokenize_callbackMessage view (showInt_ne_nil _) (showInt_lineWord _)]
  dsimp only
  rw [read, number]
  dsimp only
  rw [← length_callbackHeader, callbackMessage_eq_header, if_neg inside, List.drop_left]

/-- The number of a view is read back. -/
theorem readTarget_showInt (viewId : Int32)
    : readTarget (showInt viewId.toInt) = .ok ⟨false, viewId, -1⟩ := by
  have number : stoi (showInt viewId.toInt) = .ok viewId := by
    have scanned := stoi_showInt viewId endsNumber_nil
    rwa [List.append_nil] at scanned
  have letter (c : Char) (noMinus : c ≠ '-') (noDigit : c.isDigit = false) {rest : Text}
      : showInt viewId.toInt ≠ c :: rest := by
    intro same
    have member : c ∈ showInt viewId.toInt := by
      rw [same]
      exact List.mem_cons_self
    exact not_mem_showInt _ noMinus noDigit member
  have noExcept : ¬ matchPrefix "except-".toList (showInt viewId.toInt) = true := by
    rw [matchPrefix, List.isPrefixOf_iff_prefix]
    rintro ⟨rest, same⟩
    exact letter 'e' (by decide) (by decide) same.symm
  have noAll : showInt viewId.toInt ≠ "all".toList := by
    have all : "all".toList = 'a' :: "ll".toList := by decide
    rw [all]
    exact letter 'a' (by decide) (by decide)
  rw [readTarget, if_neg noAll, if_neg noExcept, number]
  rfl

/-- The number behind the word is read back. -/
theorem readTarget_except (viewId : Int32)
    : readTarget ("except-".toList ++ showInt viewId.toInt) = .ok ⟨true, -1, viewId⟩ := by
  have number : stoi (showInt viewId.toInt) = .ok viewId := by
    have scanned := stoi_showInt viewId endsNumber_nil
    rwa [List.append_nil] at scanned
  have noAll : "except-".toList ++ showInt viewId.toInt ≠ "all".toList := by
    intro same
    have first : some 'e' = some 'a' := congrArg List.head? same
    exact absurd first (by decide)
  have starts : matchPrefix "except-".toList ("except-".toList ++ showInt viewId.toInt) = true := by
    rw [matchPrefix, List.isPrefixOf_iff_prefix]
    exact List.prefix_append _ _
  have behind : ("except-".toList ++ showInt viewId.toInt).drop 7 = showInt viewId.toInt := by
    have length : "except-".toList.length = 7 := by decide
    rw [← length, List.drop_left]
  rw [readTarget, if_neg noAll, if_pos starts, behind, number]
  rfl

/-- The view that is left out is the one that the payload names. -/
theorem readCursor_target {cursorJson : CursorJson} {queue next : TileQueue} {type : Int32}
    {payload : Text} {targetViewId : Option Int32}
    (read : readCursor cursorJson queue type payload = some (targetViewId, next))
    (others : isForOthers type)
    : targetViewId = (cursorJson.viewCursor payload).map Prod.fst
      ∧ ∃ viewId, targetViewId = some viewId := by
  have noCell : type ≠ cellCursorType := by
    rcases others with rfl | rfl <;> decide
  have noVisible : type ≠ invalidateVisibleCursorType := by
    rcases others with rfl | rfl <;> decide
  rw [readCursor, if_neg noCell, if_neg noVisible, if_pos others] at read
  obtain ⟨⟨viewId, part, rectangle⟩, found, later⟩ := Option.bind_eq_some_iff.mp read
  obtain ⟨after, -, same⟩ := Option.bind_eq_some_iff.mp later
  cases same
  rw [found]
  exact ⟨rfl, viewId, rfl⟩

/-- A callback of a view is handed to exactly the sessions that it is for, with its type and its
payload, whatever the payload looks like: the kit's loop reads back what `ViewCallback` puts into
the queue.
-/
theorem viewCallback_reaches_views {cursorJson : CursorJson}
    {viewIdOf : Text → Except Exception Text} {viewId type : Int32} {queue next : TileQueue}
    {payload : Text} (own : viewId ≠ -1)
    (called : viewCallback cursorJson viewIdOf viewId queue type payload = some next)
    : ∃ (before : TileQueue) (message : Payload),
        before.queue = queue.queue
        ∧ before.put viewIdOf message = .ok next
        ∧ ∀ views : List KitView,
            views.Pairwise (fun view other => view.viewId = other.viewId → view.viewId = -1)
            → runCallback json office message views
              = handOut json office (IsFor cursorJson viewId type payload) (callbackType type)
                  payload views := by
  obtain ⟨targetViewId, before, read, same, put⟩ := viewCallback_put called
  refine ⟨before, viewCallbackMessage viewId type targetViewId payload, same, put,
    fun views apart => ?_⟩
  unfold viewCallbackMessage
  dsimp only
  by_cases all : isForAll type
  · have isFor (view : KitView) : view.viewId ≠ -1 ↔ IsFor cursorJson viewId type payload view := by
      rw [IsFor, if_pos all]
    rw [if_pos all, ← handOut_congr isFor, ← forwardCallback_broadcast]
    exact runCallback_message allViews type payload views rfl
  · by_cases others : isForOthers type
    · obtain ⟨named, target, rfl⟩ := readCursor_target read others
      have isFor (view : KitView)
          : view.viewId ≠ target ↔ IsFor cursorJson viewId type payload view := by
        rw [IsFor, if_neg all, if_pos others, ← named, ne_eq, ne_eq, Option.some.injEq, eq_comm]
      rw [if_neg all, if_pos others, ← handOut_congr isFor, ← forwardCallback_broadcast]
      exact runCallback_message
        ⟨_, List.append_ne_nil_of_left_ne_nil (by decide) _, exceptName_lineWord (some target)⟩
        type payload views (readTarget_except target)
    · have isFor (view : KitView)
          : view.viewId = viewId ↔ IsFor cursorJson viewId type payload view := by
        rw [IsFor, if_neg all, if_neg others]
      rw [if_neg all, if_neg others, ← handOut_congr isFor, ← forwardCallback_one own _ _ apart]
      exact runCallback_message ⟨_, showInt_ne_nil _, showInt_lineWord _⟩ type payload views
        (readTarget_showInt viewId)

/-- No text is an object. -/
def noObject : Json :=
  ⟨fun _ => none, fun _ => none⟩

/-- The office core has nothing to say. -/
def silentOffice (_ : Int32) : Office :=
  ⟨[], [], 0⟩

/-- All texts are cursors of the view 2. -/
def cursorOfTwo : CursorJson where
  rectangle _ := none
  viewCursor _ := some (2, "0".toList, "EMPTY".toList)

/-- The second view's cursor is hidden, in a document of two views. -/
theorem viewCallback_reaches_views_cursor
    : ∃ next : TileQueue,
        viewCallback cursorOfTwo (fun _ => .ok "2".toList) 2 .empty invalidateViewCursorType
            "viewId 2\nEMPTY".toList
          = some next
        ∧ ∃ (before : TileQueue) (message : Payload),
            before.queue = TileQueue.empty.queue
            ∧ before.put (fun _ => .ok "2".toList) message = .ok next
            ∧ ∀ views : List KitView,
                views.Pairwise
                  (fun view other => view.viewId = other.viewId → view.viewId = -1)
                → runCallback noObject silentOffice message views
                  = handOut noObject silentOffice
                      (IsFor cursorOfTwo 2 invalidateViewCursorType "viewId 2\nEMPTY".toList)
                      (callbackType invalidateViewCursorType) "viewId 2\nEMPTY".toList views := by
  have called
      : (viewCallback cursorOfTwo (fun _ => .ok "2".toList) 2 .empty invalidateViewCursorType
          "viewId 2\nEMPTY".toList).isSome = true := by
    decide +kernel
  obtain ⟨next, done⟩ := Option.isSome_iff_exists.mp called
  exact ⟨next, done, viewCallback_reaches_views (by decide) done⟩

end Reach

end NdcOdfWeb.Kit
