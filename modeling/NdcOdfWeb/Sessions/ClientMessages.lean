import Mathlib.Data.Nat.Digits.Defs
import NdcOdfWeb.Sessions.LoadOptions
import NdcOdfWeb.Tiles.TileCombined

/-! The messages of a client: `ClientSession::_handleInput` and `filterMessage`. -/

namespace NdcOdfWeb.Sessions

open NdcOdfWeb.Foundation
open NdcOdfWeb.Protocol
open NdcOdfWeb.Tiles

/-- The commands that a client may send. -/
inductive Command where
  | loolclient
  | load
  | setmodified
  | canceltiles
  | tileprocessed
  | clientzoom
  | clientvisiblearea
  | outlinestate
  | commandvalues
  | closedocument
  | versionrestore
  | downloadas
  | getchildid
  | gettextselection
  | paste
  | insertfile
  | insertpicture
  | changepicture
  | key
  | textinput
  | windowkey
  | mouse
  | windowmouse
  | partpagerectangles
  | ping
  | renderfont
  | requestloksession
  | resetselection
  | save
  | saveas
  | savetostorage
  | selectgraphic
  | selecttext
  | setclientpart
  | selectclientpart
  | moveselectedclientparts
  | setpage
  | status
  | statusupdate
  | tile
  | tilecombine
  | uno
  | getunostates
  | runmacroCommand
  | useractive
  | userinactive
  | paintwindow
  | windowcommand
  | signdocument
  | asksignaturestatus
  | rendershapeselection
  | getgraphicgelection
  | removesession
  | renamefile
deriving DecidableEq, Repr

/-- The tokens that `_handleInput` compares the first token with. -/
def commandNames : List (Text × Command) :=
  [
    ("loolclient".toList, .loolclient),
    ("load".toList, .load),
    ("setmodified".toList, .setmodified),
    ("canceltiles".toList, .canceltiles),
    ("tileprocessed".toList, .tileprocessed),
    ("clientzoom".toList, .clientzoom),
    ("clientvisiblearea".toList, .clientvisiblearea),
    ("outlinestate".toList, .outlinestate),
    ("commandvalues".toList, .commandvalues),
    ("closedocument".toList, .closedocument),
    ("versionrestore".toList, .versionrestore),
    ("downloadas".toList, .downloadas),
    ("getchildid".toList, .getchildid),
    ("gettextselection".toList, .gettextselection),
    ("paste".toList, .paste),
    ("insertfile".toList, .insertfile),
    ("insertpicture".toList, .insertpicture),
    ("changepicture".toList, .changepicture),
    ("key".toList, .key),
    ("textinput".toList, .textinput),
    ("windowkey".toList, .windowkey),
    ("mouse".toList, .mouse),
    ("windowmouse".toList, .windowmouse),
    ("partpagerectangles".toList, .partpagerectangles),
    ("ping".toList, .ping),
    ("renderfont".toList, .renderfont),
    ("requestloksession".toList, .requestloksession),
    ("resetselection".toList, .resetselection),
    ("save".toList, .save),
    ("saveas".toList, .saveas),
    ("savetostorage".toList, .savetostorage),
    ("selectgraphic".toList, .selectgraphic),
    ("selecttext".toList, .selecttext),
    ("setclientpart".toList, .setclientpart),
    ("selectclientpart".toList, .selectclientpart),
    ("moveselectedclientparts".toList, .moveselectedclientparts),
    ("setpage".toList, .setpage),
    ("status".toList, .status),
    ("statusupdate".toList, .statusupdate),
    ("tile".toList, .tile),
    ("tilecombine".toList, .tilecombine),
    ("uno".toList, .uno),
    ("getunostates".toList, .getunostates),
    ("runmacro".toList, .runmacroCommand),
    ("useractive".toList, .useractive),
    ("userinactive".toList, .userinactive),
    ("paintwindow".toList, .paintwindow),
    ("windowcommand".toList, .windowcommand),
    ("signdocument".toList, .signdocument),
    ("asksignaturestatus".toList, .asksignaturestatus),
    ("rendershapeselection".toList, .rendershapeselection),
    ("getgraphicgelection".toList, .getgraphicgelection),
    ("removesession".toList, .removesession),
    ("renamefile".toList, .renamefile)
  ]

def commandOf (token : Text) : Option Command :=
  commandNames.lookup token

-----------------------------------------------------------------------------------------
-- The session
-----------------------------------------------------------------------------------------

/-- The fields of the WOPI file info that the messages depend on. -/
structure WopiFileInfo where
  disablePrint : Bool
  disableExport : Bool
  disableCopy : Bool
  enableOwnerTermination : Bool
deriving DecidableEq, Repr

structure Rectangle where
  x : Int32
  y : Int32
  width : Int32
  height : Int32
deriving DecidableEq, Repr

/-- A client's session; its canonical view id is not negative. -/
structure ClientSession extends Session where
  id : Text
  isDocumentOwner : Bool
  wopiFileInfo : Option WopiFileInfo
  keyEvents : Nat
  clientVisibleArea : Rectangle
  clientSelectedPart : Int32
  tileWidthPixel : Int32
  tileHeightPixel : Int32
  tileWidthTwips : Int32
  tileHeightTwips : Int32
  isTextDocument : Bool
  canonicalViewId : Int32
  tilesOnFly : List Text
  validViewId : ¬ canonicalViewId < 0

/-- What the session asks of its `DocumentBroker`, of its tile cache and of the process. -/
structure Broker where
  /-- The numbers of the protocol version. -/
  protocolVersion : Int32 × Int32
  /-- The version information of the server, as JSON. -/
  serverVersion : Text
  lokitVersion : Text
  isDocumentChangedInStorage : Bool
  renderedTileCount : Nat
  /-- `getTextFile`. -/
  textFile : Text → Option Text
  /-- `lookupCachedFile` of a font rendering. -/
  fontFile : Text → Option Text
  /-- The result of `saveToStorage`. -/
  saveToStorage : Bool

/-- What the session does on a message. -/
inductive Action where
  | sendText (frame : Text)
  | sendBinary (frame : Text)
  | setModified
  | cancelTileRequests
  | closeDocument (reason : Text)
  | stop (reason : Text)
  | handleTileRequest (tile : TileDesc)
  | handleTileCombinedRequest (combined : TileCombined)
  | sendUnoSave (dontTerminateEdit dontSaveIfUnmodified : Bool) (extendedData : Text)
  | saveToStorage
  | saveAsToStorage (filename : Text) (isRename : Bool)
  | broadcastMessage (message : Text)
  | removeSession (id : Text)
  | resetWireIdMap
  | sendRequestedTiles
  | forwardToChild (message : Text)
deriving DecidableEq

/-- How the handling of a message ends. Without a token that is read, the behaviour is
undefined; the returned value is not used by the caller.
-/
inductive Ending where
  | returned
  | threw
  | undefined
deriving DecidableEq, Repr

structure Outcome where
  session : ClientSession
  actions : List Action
  ending : Ending

/-- The message is handled by the actions. -/
def Outcome.act (session : ClientSession) (actions : List Action) : Outcome :=
  ⟨session, actions, .returned⟩

/-- The answer to a message with an error. -/
def Outcome.error (session : ClientSession) (command kind : Text) : Outcome :=
  .act session [.sendText ("error: cmd=".toList ++ command ++ " kind=".toList ++ kind)]

/-- `filterMessage`. -/
def ClientSession.filterMessage (session : ClientSession) (message : Text) : Bool :=
  let tokens := stringTokenizer ' ' message
  let disables (flag : WopiFileInfo → Bool) : Bool := session.wopiFileInfo.any flag
  let command := tokens.head?
  if command = some "downloadas".toList then
    match tokens[2]?.bind (getTokenString · "id".toList) with
    | some id =>
        !(id = "print".toList && disables WopiFileInfo.disablePrint)
        && !(id = "export".toList && disables WopiFileInfo.disableExport)
    | none => false
  else if command = some "gettextselection".toList ∨ command = some ".uno:Copy".toList then
    !disables WopiFileInfo.disableCopy
  else if session.isReadOnly then
    -- by default, nothing is allowed
    if command = some "userinactive".toList ∨ command = some "useractive".toList
        ∨ command = some "saveas".toList then true
    else if command = some "uno".toList then tokens[1]? = some ".uno:ExecuteSearch".toList
    else command = some "setpage".toList && decide (tokens.length > 1)
  else true

-----------------------------------------------------------------------------------------
-- The commands
-----------------------------------------------------------------------------------------

/-- The values of the tokens behind the command, if there are as many as names and each one
is an integer with its name.
-/
def integerTokens (tokens : List Text) (names : List Text) : Option (List Int32) :=
  if tokens.length ≠ names.length + 1 then none
  else
    ((tokens.drop 1).zip names).mapM (fun (token, name) =>
      match getTokenInteger token name 0 with
      | (true, value) => some value
      | (false, _) => none)

/-- The 32 bits of a number in hexadecimal, as `Util::encodeId` writes them. -/
def encodeId (number : Int32) (padding : Nat) : Text :=
  let digits := Nat.toDigits 16 number.toUInt32.toNat
  List.replicate (padding - digits.length) '0' ++ digits

/-- The file name of a renamefile message. -/
def renamedFile (tokens : List Text) : Option Text :=
  tokens[1]?.bind (getTokenString · "filename".toList)

/-- The command save of a session that is not read-only. -/
def handleSave (host : Host) (session : ClientSession) (tokens : List Text) : Outcome :=
  let flag (i : Nat) (name : Text) : Bool :=
    match tokens[i]? with
    | some token => (getTokenInteger token name 1).2 ≠ 0
    | none => true
  let (extendedData, throws) :=
    match tokens[3]? with
    | some token => host.decode ((getTokenString token "extendedData".toList).getD [])
    | none => ([], false)
  if throws then ⟨session, [], .threw⟩
  else
    .act session
      [.sendUnoSave (flag 1 "dontTerminateEdit".toList) (flag 2 "dontSaveIfUnmodified".toList)
        extendedData]

/-- The command tileprocessed. -/
def handleTileProcessed (session : ClientSession) (tokens : List Text) : Outcome :=
  match tokens with
  | [_, token] =>
      match getTokenString token "tile".toList with
      | some tileID =>
          .act { session with tilesOnFly := session.tilesOnFly.erase tileID }
            [.sendRequestedTiles]
      | none => .error session "tileprocessed".toList "syntax".toList
  | _ => .error session "tileprocessed".toList "syntax".toList

/-- `getCommandValues`. -/
def getCommandValues (broker : Broker) (session : ClientSession) (buffer : Text)
    (tokens : List Text)
    : Outcome :=
  match tokens with
  | [_, token] =>
      match getTokenString token "command".toList with
      | some command =>
          match broker.textFile ("cmdValues".toList ++ command ++ ".txt".toList) with
          | some cmdValues => .act session [.sendText cmdValues]
          | none => .act session [.forwardToChild buffer]
      | none => .error session "commandvalues".toList "syntax".toList
  | _ => .error session "commandvalues".toList "syntax".toList

/-- `sendFontRendering`. -/
def sendFontRendering (broker : Broker) (session : ClientSession) (buffer : Text)
    (tokens : List Text)
    : Outcome :=
  match tokens[1]?.bind (getTokenString · "font".toList) with
  | none => .error session "renderfont".toList "syntax".toList
  | some font =>
      match tokens[2]? with
      | none => ⟨session, [], .undefined⟩
      | some token =>
          let text := (getTokenString token "char".toList).getD []
          let response := "renderfont: ".toList ++ [' '].intercalate (tokens.drop 1) ++ ['\n']
          match broker.fontFile (font ++ text) with
          | some rendering => .act session [.sendBinary (response ++ rendering)]
          | none => .act session [.forwardToChild buffer]

/-- `sendTile`. -/
def sendTile (session : ClientSession) (tokens : List Text) : Outcome :=
  match TileDesc.parseTokens tokens with
  | .ok tile =>
      .act session
        [.handleTileRequest (tile.setNormalizedViewId session.canonicalViewId session.validViewId)]
  | .error _ => .error session "tile".toList "invalid".toList

/-- `sendCombinedTiles`. -/
def sendCombinedTiles (session : ClientSession) (tokens : List Text) : Outcome :=
  match TileCombined.parseTokens tokens with
  | .ok combined =>
      .act session
        [.handleTileCombinedRequest
          (combined.setNormalizedViewId session.canonicalViewId session.validViewId)]
  | .error _ => .error session "tile".toList "invalid".toList

/-- The command loolclient. -/
def handleLoolClient (broker : Broker) (session : ClientSession) (tokens : List Text) : Outcome :=
  match tokens with
  | _ :: version :: _ =>
      match parseVersion version with
      | .error _ => ⟨session, [], .threw⟩
      | .ok numbers =>
          if numbers ≠ broker.protocolVersion then
            .error session "loolclient".toList "badprotocolversion".toList
          else
            .act session
              [.sendText ("loolserver ".toList ++ broker.serverVersion),
                .sendText ("lokitversion ".toList ++ broker.lokitVersion)]
  | _ => ⟨session, [], .undefined⟩

/-- The command load, with what `loadDocument` sends. -/
def handleLoadCommand (host : Host) (session : ClientSession) (tokens : List Text) : Outcome :=
  let loaded := handleLoad host session.toSession tokens
  {
    session := { session with toSession := loaded.session }
    actions := loaded.sent.map .sendText ++ (loaded.forwarded.map .forwardToChild).toList
    ending := if loaded.escapes then .threw else .returned
  }

/-- The command closedocument. -/
def handleCloseDocument (broker : Broker) (session : ClientSession) : Outcome :=
  if session.isDocumentOwner && session.wopiFileInfo.any WopiFileInfo.enableOwnerTermination then
    .act session [.closeDocument "ownertermination".toList]
  else if broker.isDocumentChangedInStorage then
    .act session [.stop ("documentconflict ".toList ++ session.userName)]
  else .act session []

/-- The command removesession. -/
def handleRemoveSession (session : ClientSession) (firstLine : Text) (tokens : List Text)
    : Outcome :=
  match tokens[1]? with
  | none => ⟨session, [], .undefined⟩
  | some number =>
      match stoi number with
      | .error _ => ⟨session, [], .threw⟩
      | .ok number =>
          .act session [.broadcastMessage firstLine, .removeSession (encodeId number 4)]

/-- The command renamefile. -/
def handleRenameFile (host : Host) (session : ClientSession) (tokens : List Text) : Outcome :=
  match renamedFile tokens with
  | none => .error session "renamefile".toList "syntax".toList
  | some encoded =>
      let (filename, throws) := host.decode encoded
      if throws then ⟨session, [], .threw⟩
      else .act session [.saveAsToStorage filename true]

/-- The commands that only the child handles, if the filter allows them. -/
def handleFiltered (session : ClientSession) (buffer : Text) (command : Command) : Outcome :=
  let session :=
    if command = .key then { session with keyEvents := session.keyEvents + 1 } else session
  if session.filterMessage (getFirstLine buffer) = false then
    .act session [.forwardToChild "dummymsg".toList]
  else if command ≠ .requestloksession then .act session [.forwardToChild buffer]
  else .act session []

/-- The commands of `_handleInput` for a loaded document. -/
def handleCommand (host : Host) (broker : Broker) (session : ClientSession) (buffer : Text)
    (tokens : List Text)
    : Command → Outcome
  | .canceltiles => .act session [.cancelTileRequests]
  | .commandvalues => getCommandValues broker session buffer tokens
  | .closedocument => handleCloseDocument broker session
  | .versionrestore =>
      if tokens[1]? = some "prerestore".toList then
        .act session [.closeDocument "versionrestore: prerestore_ack".toList]
      else .act session []
  | .partpagerectangles => .act session [.sendText "partpagerectangles: ".toList]
  | .ping =>
      .act session [.sendText ("pong rendercount=".toList ++ showNat broker.renderedTileCount)]
  | .renderfont => sendFontRendering broker session buffer tokens
  | .status | .statusupdate | .getunostates | .runmacroCommand =>
      .act session [.forwardToChild (getFirstLine buffer)]
  | .tile => sendTile session tokens
  | .tilecombine => sendCombinedTiles session tokens
  | .save =>
      if session.isReadOnly then .act session []
      else handleSave host session tokens
  | .savetostorage =>
      .act session
        (.saveToStorage
          :: if broker.saveToStorage then
              [.broadcastMessage ("commandresult: \x7b \"command\": \"savetostorage\", ".toList
                ++ "\"success\": true \x7d".toList)]
            else [])
  | .clientvisiblearea =>
      match integerTokens tokens ["x".toList, "y".toList, "width".toList, "height".toList] with
      | some [x, y, width, height] =>
          .act { session with clientVisibleArea := ⟨x, y, width, height⟩ }
            [.resetWireIdMap, .forwardToChild buffer]
      | _ => .error session "clientvisiblearea".toList "syntax".toList
  | .setclientpart =>
      if session.isTextDocument then .act session []
      else
        match integerTokens tokens ["part".toList] with
        | some [part] =>
            .act { session with clientSelectedPart := part }
              [.resetWireIdMap, .forwardToChild buffer]
        | _ => .error session "setclientpart".toList "syntax".toList
  | .selectclientpart =>
      if session.isTextDocument then .act session []
      else if (integerTokens tokens ["part".toList, "how".toList]).isSome then
        .act session [.forwardToChild buffer]
      else .error session "selectclientpart".toList "syntax".toList
  | .moveselectedclientparts =>
      if session.isTextDocument then .act session []
      else if (integerTokens tokens ["position".toList]).isSome then
        .act session [.forwardToChild buffer]
      else .error session "moveselectedclientparts".toList "syntax".toList
  | .clientzoom =>
      match
        integerTokens tokens
          ["tilepixelwidth".toList, "tilepixelheight".toList, "tiletwipwidth".toList,
            "tiletwipheight".toList]
      with
      | some [tilePixelWidth, tilePixelHeight, tileTwipWidth, tileTwipHeight] =>
          .act
            {
              session with
              tileWidthPixel := tilePixelWidth
              tileHeightPixel := tilePixelHeight
              tileWidthTwips := tileTwipWidth
              tileHeightTwips := tileTwipHeight
            }
            [.resetWireIdMap, .forwardToChild buffer]
      | _ => .error session "clientzoom".toList "syntax".toList
  | .tileprocessed => handleTileProcessed session tokens
  | .removesession => handleRemoveSession session (getFirstLine buffer) tokens
  | .renamefile => handleRenameFile host session tokens
  | command => handleFiltered session buffer command

/-- The known commands of `_handleInput`, in front of and behind the test for a document. -/
def handleKnown (host : Host) (broker : Broker) (session : ClientSession) (buffer name : Text)
    (tokens : List Text)
    : Command → Outcome
  | .loolclient => handleLoolClient broker session tokens
  | .load => handleLoadCommand host session tokens
  | .setmodified => .act session [.setModified]
  | command =>
      if session.docURL = [] then .error session name "nodocloaded".toList
      else handleCommand host broker session buffer tokens command

/-- `ClientSession::_handleInput`. -/
def handleInput (host : Host) (broker : Broker) (session : ClientSession) (buffer : Text)
    : Outcome :=
  let tokens := tokenize ' ' (getFirstLine buffer)
  match tokens with
  | [] => ⟨session, [], .undefined⟩
  | name :: _ =>
      match commandOf name with
      | none => .error session name "unknown".toList
      | some command => handleKnown host broker session buffer name tokens command

end NdcOdfWeb.Sessions
