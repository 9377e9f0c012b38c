import NdcOdfWeb.Foundation.Visits
import NdcOdfWeb.Protocol.Tokens

/-! Callbacks of the office core to a session in the kit, and what it records of them for an
inactive user. The JSON parser is a parameter, as is the order in which an `unordered_map` is
visited.
-/

namespace NdcOdfWeb.Kit

open NdcOdfWeb.Foundation
open NdcOdfWeb.Protocol

/-- `LibreOfficeKitDocumentType`. -/
inductive LibreOfficeKitDocumentType where
  | text
  | spreadsheet
  | presentation
  | drawing
  | other
deriving DecidableEq

/-- `LibreOfficeKitCallbackType`, `unknown` for numbers that are none. -/
inductive LibreOfficeKitCallbackType where
  | invalidateTiles
  | invalidateVisibleCursor
  | textSelection
  | textSelectionStart
  | textSelectionEnd
  | cursorVisible
  | graphicSelection
  | hyperlinkClicked
  | stateChanged
  | statusIndicatorStart
  | statusIndicatorSetValue
  | statusIndicatorFinish
  | searchNotFound
  | documentSizeChanged
  | setPart
  | searchResultSelection
  | unoCommandResult
  | cellCursor
  | mousePointer
  | cellFormula
  | documentPassword
  | documentPasswordToModify
  | error
  | contextMenu
  | invalidateViewCursor
  | textViewSelection
  | cellViewCursor
  | graphicViewSelection
  | viewCursorVisible
  | viewLock
  | redlineTableSizeChanged
  | redlineTableEntryModified
  | comment
  | invalidateHeader
  | cellAddress
  | rulerUpdate
  | window
  | validityListButton
  | clipboardChanged
  | contextChanged
  | signatureStatus
  | profileFrame
  | cellSelectionArea
  | cellAutoFillArea
  | tableSelected
  | msgbox
  | unknown (type : Int)
deriving DecidableEq

/-- `RecordedEvent`. -/
structure RecordedEvent where
  type : LibreOfficeKitCallbackType
  payload : Text
deriving DecidableEq

/-- What the callbacks use of the JSON parser. -/
structure Json where
  /-- The number `viewId` of an object, unless an exception is thrown. -/
  viewId : Text → Option Int32
  /-- The texts `cmd`, `kind` and `code` of an object, unless an exception is thrown. -/
  error : Text → Option (Text × Text × Text)

/-- What the office core says when it is asked. -/
structure Office where
  documentStatus : Text
  textSelection : Text
  part : Int32

/-- When the session is inactive, we need to record its state for a replay. -/
structure StateRecorder where
  invalidate : Bool
  recordedStates : KeyedMap Text Text
  recordedViewEvents : KeyedMap Int32 (KeyedMap LibreOfficeKitCallbackType RecordedEvent)
  recordedEvents : KeyedMap LibreOfficeKitCallbackType RecordedEvent
  recordedEventsVector : List RecordedEvent

namespace StateRecorder

def clear : StateRecorder :=
  ⟨false, ∅, ∅, ∅, []⟩

def recordInvalidate (recorder : StateRecorder) : StateRecorder :=
  { recorder with invalidate := true }

def recordEvent (recorder : StateRecorder) (type : LibreOfficeKitCallbackType) (payload : Text)
    : StateRecorder :=
  { recorder with recordedEvents := recorder.recordedEvents.insert type ⟨type, payload⟩ }

def recordViewEvent (recorder : StateRecorder) (viewId : Int32)
    (type : LibreOfficeKitCallbackType) (payload : Text)
    : StateRecorder :=
  let events := (recorder.recordedViewEvents.lookup viewId).getD ∅
  {
    recorder with
    recordedViewEvents :=
      recorder.recordedViewEvents.insert viewId (events.insert type ⟨type, payload⟩)
  }

def recordState (recorder : StateRecorder) (name value : Text) : StateRecorder :=
  { recorder with recordedStates := recorder.recordedStates.insert name value }

/-- In the case we need to rememeber all the events that come, not just the final state. -/
def recordEventSequence (recorder : StateRecorder) (type : LibreOfficeKitCallbackType)
    (payload : Text)
    : StateRecorder :=
  { recorder with recordedEventsVector := recorder.recordedEventsVector ++ [⟨type, payload⟩] }

end StateRecorder

/-- `rememberEventsForInactiveUser`, `none` for an exception. -/
def rememberEventsForInactiveUser (json : Json) (recorder : StateRecorder)
    (type : LibreOfficeKitCallbackType) (payload : Text)
    : Option StateRecorder :=
  match type with
  | .invalidateTiles => some recorder.recordInvalidate
  | .invalidateVisibleCursor
  | .cursorVisible
  | .textSelection
  | .textSelectionStart
  | .textSelectionEnd
  | .cellFormula
  | .cellCursor
  | .graphicSelection
  | .documentSizeChanged
  | .invalidateHeader
  | .cellAddress =>
      some (recorder.recordEvent type payload)
  | .invalidateViewCursor
  | .textViewSelection
  | .cellViewCursor
  | .graphicViewSelection
  | .viewCursorVisible
  | .viewLock =>
      (json.viewId payload).map (fun viewId => recorder.recordViewEvent viewId type payload)
  | .stateChanged =>
      match parseNameValuePair payload with
      | some (name, _) => some (recorder.recordState name payload)
      | none => some recorder
  | .redlineTableSizeChanged
  | .redlineTableEntryModified
  | .comment =>
      some (recorder.recordEventSequence type payload)
  | _ => some recorder

-----------------------------------------------------------------------------------------
-- Callbacks
-----------------------------------------------------------------------------------------

/-- What the callbacks use of a `ChildSession`. -/
structure ChildSession where
  isCloseFrame : Bool
  isDisconnected : Bool
  isActive : Bool
  docType : LibreOfficeKitDocumentType
  copyToClipboard : Bool
  stateRecorder : StateRecorder

/-- `getStatus`. -/
def getStatus (office : Office) : List Text :=
  if office.documentStatus = [] then [] else ["status: ".toList ++ office.documentStatus]

/-- The message for a rectangle of a part. -/
def invalidatetiles (part x y width height : Int32) : Text :=
  "invalidatetiles:".toList
    ++ " part=".toList ++ showInt part.toInt
    ++ " x=".toList ++ showInt x.toInt
    ++ " y=".toList ++ showInt y.toInt
    ++ " width=".toList ++ showInt width.toInt
    ++ " height=".toList ++ showInt height.toInt

/-- Writer renders everything as part 0. -/
def invalidatedPart (docType : LibreOfficeKitDocumentType) (part : Text)
    : Except StdError Int32 :=
  if docType = .text then .ok 0 else stoi part

/-- The message for five numbers; if one is out of range, it is everything in the part 0. -/
def invalidateRectangle (docType : LibreOfficeKitDocumentType) (x y width height part : Text)
    : Option Text :=
  let message : Except StdError Text := do
    let x ← stoi x
    let y ← stoi y
    let width ← stoi width
    let height ← stoi height
    let part ← invalidatedPart docType part
    return invalidatetiles part x y width height
  match message with
  | .ok message => some message
  | .error .outOfRange => some (invalidatetiles 0 0 0 Int32.maxValue Int32.maxValue)
  | .error _ => none

/-- The message for an invalidation. -/
def invalidateMessage (docType : LibreOfficeKitDocumentType) (payload : Text) : Option Text :=
  match stringTokenizer ',' payload with
  | [x, y, width, height, part] => invalidateRectangle docType x y width height part
  | [empty, part] =>
      if empty = "EMPTY".toList then
        -- Writer renders everything as part 0.
        some ("invalidatetiles: EMPTY, ".toList
          ++ if docType = .text then "0".toList else part)
      else some ("invalidatetiles: ".toList ++ payload)
  | _ => some ("invalidatetiles: ".toList ++ payload)

/-- What the `switch` of `loKitCallback` sends, `none` for an exception. -/
def sendCallback (json : Json) (office : Office) (session : ChildSession)
    (type : LibreOfficeKitCallbackType) (payload : Text)
    : Option (List Text) :=
  let send (name : String) : Option (List Text) := some [name.toList ++ payload]
  match type with
  | .invalidateTiles => (invalidateMessage session.docType payload).map ([·])
  | .invalidateVisibleCursor => send "invalidatecursor: "
  | .textSelection => send "textselection: "
  | .textSelectionStart => send "textselectionstart: "
  | .textSelectionEnd => send "textselectionend: "
  | .cursorVisible => send "cursorvisible: "
  | .graphicSelection => send "graphicselection: "
  | .cellCursor => send "cellcursor: "
  | .cellFormula => send "cellformula: "
  | .mousePointer => send "mousepointer: "
  | .hyperlinkClicked => send "hyperlinkclicked: "
  | .stateChanged => send "statechanged: "
  | .searchNotFound => send "searchnotfound: "
  | .searchResultSelection => send "searchresultselection: "
  | .documentSizeChanged => some (getStatus office)
  | .setPart => send "setpart: "
  | .unoCommandResult => send "unocommandresult: "
  | .error =>
      (json.error payload).map
        (fun (cmd, kind, code) =>
          ["error: cmd=".toList ++ cmd ++ " kind=".toList ++ kind ++ " code=".toList ++ code])
  | .contextMenu => send "contextmenu: "
  | .statusIndicatorStart => some ["statusindicatorstart:".toList]
  | .statusIndicatorSetValue => send "statusindicatorsetvalue: "
  | .statusIndicatorFinish => some ["statusindicatorfinish:".toList]
  | .invalidateViewCursor => send "invalidateviewcursor: "
  | .textViewSelection => send "textviewselection: "
  | .cellViewCursor => send "cellviewcursor: "
  | .graphicViewSelection => send "graphicviewselection: "
  | .viewCursorVisible => send "viewcursorvisible: "
  | .viewLock => send "viewlock: "
  | .redlineTableSizeChanged => send "redlinetablechanged: "
  | .redlineTableEntryModified => send "redlinetablemodified: "
  | .comment => send "comment: "
  | .invalidateHeader => send "invalidateheader: "
  | .cellAddress => send "celladdress: "
  | .rulerUpdate => send "rulerupdate: "
  | .window => send "window: "
  | .validityListButton => send "validitylistbutton: "
  | .clipboardChanged =>
      let selection := if session.copyToClipboard then office.textSelection else []
      some ["clipboardchanged: ".toList ++ selection]
  | .contextChanged => send "context: "
  | .signatureStatus => send "signaturestatus: "
  -- these are not handled here.
  | .profileFrame | .documentPassword | .documentPasswordToModify => some []
  | .cellSelectionArea => send "cellselectionarea: "
  | .cellAutoFillArea => send "cellautofillarea: "
  | .tableSelected => send "tableselected: "
  | .msgbox => send "msgbox: "
  | .unknown _ => some []

/-- The text occurs in the other one. -/
def occursIn (text within : Text) : Bool :=
  within.tails.any (text.isPrefixOf ·)

/-- `loKitCallback`: what is sent, and the session afterwards, `none` for an exception. -/
def loKitCallback (json : Json) (office : Office) (session : ChildSession)
    (type : LibreOfficeKitCallbackType) (payload : Text)
    : Option (List Text × ChildSession) :=
  let sent (session : ChildSession) : Option (List Text × ChildSession) :=
    (sendCallback json office session type payload).map
      (fun frames =>
        (frames,
          if type = .clipboardChanged then { session with copyToClipboard := false }
          else session))
  if session.isCloseFrame then some ([], session)
  else if session.isDisconnected then some ([], session)
  else if session.isActive then sent session
  else
    match rememberEventsForInactiveUser json session.stateRecorder type payload with
    | none => none
    | some stateRecorder =>
        let session := { session with stateRecorder }
        -- Pass save notifications through.
        if type ≠ .unoCommandResult ∨ occursIn ".uno:Save".toList payload = false then
          some ([], session)
        else sent session

/-- `loKitCallback` for one event after the other. -/
def loKitCallbacks (json : Json) (office : Office)
    : List RecordedEvent → ChildSession → Option (List Text × ChildSession)
  | [], session => some ([], session)
  | event :: events, session =>
      match loKitCallback json office session event.type event.payload with
      | none => none
      | some (frames, session) =>
          (loKitCallbacks json office events session).map
            (fun (more, session) => (frames ++ more, session))

/-- The loop over the recorded view events. -/
def StateRecorder.viewEvents (iteration : Iteration) (recorder : StateRecorder)
    : List RecordedEvent :=
  (iteration.order recorder.recordedViewEvents.entries).flatMap
    (fun viewPair => (iteration.order viewPair.2.entries).map Sigma.snd)

/-- The loop over the recorded events. -/
def StateRecorder.lastEvents (iteration : Iteration) (recorder : StateRecorder)
    : List RecordedEvent :=
  (iteration.order recorder.recordedEvents.entries).map Sigma.snd

/-- The loop over the recorded states. -/
def StateRecorder.stateEvents (iteration : Iteration) (recorder : StateRecorder)
    : List RecordedEvent :=
  (iteration.order recorder.recordedStates.entries).map (fun pair => ⟨.stateChanged, pair.2⟩)

/-- The recorded events, in the order of the loops that replay them. -/
def StateRecorder.replayed (iteration : Iteration) (recorder : StateRecorder)
    : List RecordedEvent :=
  recorder.viewEvents iteration ++ recorder.lastEvents iteration
    ++ recorder.stateEvents iteration ++ recorder.recordedEventsVector

/-- The part that the user sees. -/
def curPart (office : Office) (session : ChildSession) : Int32 :=
  if session.docType = .text then 0 else office.part

/-- The payload that invalidates everything in a part. -/
def wholePayload (part : Int32) : Text :=
  "0, 0, ".toList ++ showInt Int32.maxValue.toInt ++ ", ".toList
    ++ showInt Int32.maxValue.toInt ++ ", ".toList ++ showInt part.toInt

/-- Invalidate if we have to. -/
def replayedInvalidation (office : Office) (session : ChildSession) : List RecordedEvent :=
  if session.stateRecorder.invalidate then
    [⟨.invalidateTiles, wholePayload (curPart office session)⟩]
  else []

/-- What is replayed of an inactive time. -/
def replayedEvents (iteration : Iteration) (office : Office) (session : ChildSession)
    : List RecordedEvent :=
  replayedInvalidation office session ++ session.stateRecorder.replayed iteration

/-- The parts that the client is told when it gets active. -/
def partFrames (office : Office) (session : ChildSession) : List Text :=
  if session.docType = .text then []
  else
    [
      "curpart: part=".toList ++ showInt (curPart office session).toInt,
      "setpart: part=".toList ++ showInt (curPart office session).toInt
    ]

/-- `_handleInput` of `useractive`: client is getting active again; send invalidation and other
sync-up messages. An exception leaves the session active.
-/
def userActive (json : Json) (iteration : Iteration) (office : Office) (session : ChildSession)
    : List Text × ChildSession :=
  let active := { session with isActive := true }
  match loKitCallbacks json office (replayedEvents iteration office session) active with
  | none => (partFrames office session, active)
  | some (frames, after) =>
      (partFrames office session ++ frames, { after with stateRecorder := .clear })

/-- `_handleInput` of `userinactive`. -/
def userInactive (session : ChildSession) : ChildSession :=
  { session with isActive := false }

end NdcOdfWeb.Kit
