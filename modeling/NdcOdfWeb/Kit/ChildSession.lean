import NdcOdfWeb.Sessions.ClientMessages

/-! The messages of a loaded session in the kit: `ChildSession::_handleInput`.
A handler that reads a token which does not exist has no ending.
-/

namespace NdcOdfWeb.Kit

open NdcOdfWeb.Foundation
open NdcOdfWeb.Protocol
open NdcOdfWeb.Sessions

/-- How the handling of a message ends. -/
inductive ChildEnding where
  /-- The arguments are accepted; what comes of them is up to the office core. -/
  | handled
  | ignored
  | error (reply : Text)
  /-- An exception, which `Session::handleMessage` catches. -/
  | threw
  /-- An assertion that the command is known fails. -/
  | assertion
deriving DecidableEq, Repr

/-- What the handlers use of the libraries. -/
structure Core where
  host : Host
  /-- The scheme and the path segments of a `Poco::URI`, unless its constructor throws. -/
  uri : Text → Option (Text × List Text)

/-- An error reply. -/
def errorReply (command kind : Text) : ChildEnding :=
  .error ("error: cmd=".toList ++ command ++ " kind=".toList ++ kind)

/-- `getTokenKeyword`: whether the value of the token, without quotes, is one of the keywords. -/
def getTokenKeyword (token name : Text) (keywords : List Text) : Bool :=
  match getTokenString token name with
  | none => false
  | some t =>
      let t :=
        if t.head? = some '\'' ∧ t.getLast? = some '\'' then (t.drop 1).take (t.length - 2)
        else t
      keywords.contains t

def isInteger (name token : Text) : Bool :=
  (getTokenInteger token name 0).1

def isUInt32 (name token : Text) : Bool :=
  (getTokenUInt32 token name 0).1

def isString (name token : Text) : Bool :=
  (getTokenString token name).isSome

def isKeyword (name : Text) (keywords : List Text) (token : Text) : Bool :=
  getTokenKeyword token name keywords

/-- A token that is read whatever it says. -/
def isAnything (_token : Text) : Bool := true

/-- A chain of checks on the tokens from a place on, up to the first that fails. -/
def checkTokens (tokens : List Text) : Nat → List (Text → Bool) → Option Bool
  | _, [] => some true
  | i, check :: checks =>
      match tokens[i]? with
      | none => none
      | some token => if check token then checkTokens tokens (i + 1) checks else some false

/-- A handler that first asks for the number of tokens and for their contents from a place on. -/
def handleArguments (tokens : List Text) (reply : ChildEnding) (sized : Bool) (start : Nat)
    (checks : List (Text → Bool)) (accepted : ChildEnding)
    : Option ChildEnding :=
  if sized then
    (checkTokens tokens start checks).map (fun passed => if passed then accepted else reply)
  else some reply

/-- The value of an argument that has been checked. -/
def argument (tokens : List Text) (i : Nat) (name : Text) : Text :=
  (tokens[i]?.bind (getTokenString · name)).getD []

-----------------------------------------------------------------------------------------
-- Handlers
-----------------------------------------------------------------------------------------

/-- `sendFontRendering`. -/
def sendFontRendering (core : Core) (tokens : List Text) : Option ChildEnding :=
  let reply := errorReply "renderfont".toList "syntax".toList
  let throws (name : Text) (i : Nat) := (core.host.decode (argument tokens i name)).2
  handleArguments tokens reply (decide (3 ≤ tokens.length)) 1
    [isString "font".toList, isAnything]
    (if throws "font".toList 1 || throws "char".toList 2 then reply else .handled)

/-- `getCommandValues`. -/
def getCommandValues (tokens : List Text) : Option ChildEnding :=
  handleArguments tokens (errorReply "commandvalues".toList "syntax".toList)
    (decide (tokens.length = 2)) 1 [isString "command".toList] .handled

/-- `clientZoom`. -/
def clientZoom (tokens : List Text) : Option ChildEnding :=
  handleArguments tokens (errorReply "clientzoom".toList "syntax".toList)
    (decide (tokens.length = 5)) 1
    [isInteger "tilepixelwidth".toList, isInteger "tilepixelheight".toList,
      isInteger "tiletwipwidth".toList, isInteger "tiletwipheight".toList]
    .handled

/-- `clientVisibleArea`. -/
def clientVisibleArea (tokens : List Text) : Option ChildEnding :=
  handleArguments tokens (errorReply "clientvisiblearea".toList "syntax".toList)
    (decide (tokens.length = 5)) 1
    [isInteger "x".toList, isInteger "y".toList, isInteger "width".toList,
      isInteger "height".toList]
    .handled

/-- `outlineState`. -/
def outlineState (tokens : List Text) : Option ChildEnding :=
  let isOneOf (name : Text) (values : List Text) (token : Text) :=
    (getTokenString token name).any (values.contains ·)
  handleArguments tokens (errorReply "outlinestate".toList "syntax".toList)
    (decide (tokens.length = 5)) 1
    [isOneOf "type".toList ["column".toList, "row".toList], isInteger "level".toList,
      isInteger "index".toList, isOneOf "state".toList ["visible".toList, "hidden".toList]]
    .handled

/-- `downloadAs`. -/
def downloadAs (tokens : List Text) : Option ChildEnding :=
  handleArguments tokens (errorReply "downloadas".toList "syntax".toList)
    (decide (5 ≤ tokens.length)) 1
    [isString "name".toList, isString "id".toList, isAnything, isAnything] .handled

/-- `getTextSelection`. -/
def getTextSelection (tokens : List Text) : Option ChildEnding :=
  handleArguments tokens (errorReply "gettextselection".toList "syntax".toList)
    (decide (tokens.length = 2)) 1 [isString "mimetype".toList] .handled

/-- `paste`. -/
def paste (tokens : List Text) : Option ChildEnding :=
  handleArguments tokens (errorReply "paste".toList "syntax".toList)
    (decide (2 ≤ tokens.length)) 1
    [fun token => (getTokenString token "mimetype".toList).any (· ≠ [])] .handled

/-- `insertFile`. -/
def insertFile (core : Core) (tokens : List Text) : Option ChildEnding :=
  let accepted : ChildEnding :=
    let type := argument tokens 2 "type".toList
    if type = "graphic".toList then .handled
    else if type = "graphicurl".toList then
      if (core.host.decode (argument tokens 1 "name".toList)).2 then .threw else .handled
    else .ignored
  handleArguments tokens (errorReply "insertfile".toList "syntax".toList)
    (decide (tokens.length = 3)) 1 [isString "name".toList, isString "type".toList] accepted

/-- `insertPicture`, also for a picture that is changed. -/
def insertPicture (tokens : List Text) : Option ChildEnding :=
  handleArguments tokens (errorReply "insertpicture".toList "syntax".toList)
    (decide (tokens.length = 2)) 1 [isString "data".toList] .handled

/-- `extTextInputEvent`. -/
def extTextInputEvent (core : Core) (name : Text) (tokens : List Text) : Option ChildEnding :=
  let isId (token : Text) : Bool :=
    match getTokenInteger token "id".toList 0 with
    | (true, id) => decide (¬ id < 0)
    | (false, _) => false
  let accepted : ChildEnding :=
    if (core.host.decode (argument tokens 3 "text".toList)).2 then .threw else .handled
  handleArguments tokens (errorReply name "syntax".toList) (decide (4 ≤ tokens.length)) 1
    [isId, isKeyword "type".toList ["input".toList, "end".toList], isString "text".toList]
    accepted

/-- `keyEvent`, for the document or for a window. -/
def keyEvent (isWindow : Bool) (name : Text) (tokens : List Text) : Option ChildEnding :=
  let handleKey (start expectedTokens : Nat) : Option ChildEnding :=
    handleArguments tokens (.error ("error: cmd=".toList ++ name ++ "  kind=syntax".toList))
      (decide (tokens.length = expectedTokens)) start
      [isKeyword "type".toList ["input".toList, "up".toList], isInteger "char".toList,
        isInteger "key".toList]
      .handled
  if isWindow then
    let reply := errorReply name "syntax".toList
    if tokens.length ≤ 1 then some reply
    else
      tokens[1]?.bind (fun id =>
        if isUInt32 "id".toList id then handleKey 2 5 else some reply)
  else handleKey 1 4

/-- The type of a mouse event. -/
def isMouseType (token : Text) : Bool :=
  getTokenKeyword token "type".toList ["buttondown".toList, "buttonup".toList, "move".toList]

/-- The checks of `mouseEvent` behind the one for the window: whether the tokens from a place on
are the type, the position and the count, and those behind them the buttons and the modifier,
if they are there.
-/
def checkMouse (tokens : List Text) (success : Bool) (counter minTokens : Nat) : Option Bool := do
  let passed ←
    if tokens.length < minTokens then some false
    else
      checkTokens tokens counter
        [isMouseType, isInteger "x".toList, isInteger "y".toList, isInteger "count".toList]
  let optional := [isInteger "buttons".toList, isInteger "modifier".toList]
  return success && passed
    && ((tokens.drop (counter + 4)).zip optional).all (fun (token, check) => check token)

/-- The checks of `mouseEvent`. -/
def checkMouseEvent (isWindow : Bool) (tokens : List Text) : Option Bool :=
  if isWindow then
    if tokens.length ≤ 1 then checkMouse tokens false 1 5
    else
      tokens[1]?.bind (fun id =>
        -- without an id, the place moves on but the number of tokens asked for does not
        if isUInt32 "id".toList id then checkMouse tokens true 2 6
        else checkMouse tokens false 2 5)
  else checkMouse tokens true 1 5

/-- `mouseEvent`, for the document or for a window. -/
def mouseEvent (isWindow : Bool) (name : Text) (tokens : List Text) : Option ChildEnding :=
  (checkMouseEvent isWindow tokens).map (fun success =>
    if success then .handled else errorReply name "syntax".toList)

/-- `unoCommand`, `unoStates` and `runMacro` ask for one argument at least. -/
def handleAny (tokens : List Text) (reply : ChildEnding) : Option ChildEnding :=
  handleArguments tokens reply (decide (1 < tokens.length)) 1 [isAnything] .handled

/-- `unoCommand`. -/
def unoCommand (tokens : List Text) : Option ChildEnding :=
  handleAny tokens (errorReply "uno".toList "syntax".toList)

/-- `unoStates`. -/
def unoStates (tokens : List Text) : Option ChildEnding :=
  handleAny tokens
    (errorReply "getunostates".toList ".uno:Acommand,.uno:Bcommand[,.uno:Ccommand]".toList)

/-- `runMacro`. -/
def runMacro (tokens : List Text) : Option ChildEnding :=
  handleAny tokens (errorReply "runmacro".toList "macro:///Library.module.macro()".toList)

/-- `selectText`. -/
def selectText (tokens : List Text) : Option ChildEnding :=
  handleArguments tokens (errorReply "selecttext".toList "syntax".toList)
    (decide (tokens.length = 4)) 1
    [isKeyword "type".toList ["start".toList, "end".toList, "reset".toList],
      isInteger "x".toList, isInteger "y".toList]
    .handled

/-- `selectGraphic`. -/
def selectGraphic (tokens : List Text) : Option ChildEnding :=
  handleArguments tokens (errorReply "selectgraphic".toList "syntax".toList)
    (decide (tokens.length = 4)) 1
    [isKeyword "type".toList ["start".toList, "end".toList], isInteger "x".toList,
      isInteger "y".toList]
    .handled

/-- `resetSelection`. -/
def resetSelection (tokens : List Text) : Option ChildEnding :=
  handleArguments tokens (errorReply "resetselection".toList "syntax".toList)
    (decide (tokens.length = 1)) 1 [] .handled

/-- The handlers throw for a window id that is no number. -/
def windowIdThrows (tokens : List Text) : Bool :=
  tokens[1]?.any (fun token => (stoul token).toOption.isNone)

/-- `renderWindow`: the id is read once more for the response. -/
def renderWindow (core : Core) (tokens : List Text) : Option ChildEnding :=
  let dpiScaleThrows :=
    (tokens[3]?.bind (getTokenString · "dpiscale".toList)).any
      (fun dpiScale => (core.host.stod dpiScale).isNone)
  if windowIdThrows tokens || dpiScaleThrows then some .threw
  else tokens[1]?.map (fun _ => .handled)

/-- `sendWindowCommand`. -/
def sendWindowCommand (core : Core) (tokens : List Text) : Option ChildEnding :=
  if windowIdThrows tokens then some .threw
  else if tokens[2]? = some "close".toList then some .handled
  else if tokens[2]? = some "paste".toList then
    match tokens[3]? with
    | none => some .ignored
    | some data =>
        if (core.host.decode data).2 then
          some (errorReply "windowcommand".toList "syntax".toList)
        else some .handled
  else some .ignored

/-- `saveAs`. -/
def saveAs (core : Core) (tokens : List Text) : Option ChildEnding :=
  let reply := errorReply "saveas".toList "syntax".toList
  let accepted : ChildEnding :=
    match core.uri (argument tokens 1 "url".toList) with
    | none => .threw
    | some (scheme, pathSegments) =>
        if scheme = "wopi".toList ∧ pathSegments = [] then reply else .handled
  handleArguments tokens reply (decide (1 < tokens.length)) 1 [isString "url".toList] accepted

/-- `setClientPart`. -/
def setClientPart (tokens : List Text) : Option ChildEnding :=
  handleArguments tokens (errorReply "setclientpart".toList "invalid".toList)
    (decide (2 ≤ tokens.length)) 1 [isInteger "part".toList] .handled

/-- `selectClientPart`. -/
def selectClientPart (tokens : List Text) : Option ChildEnding :=
  handleArguments tokens (errorReply "selectclientpart".toList "invalid".toList)
    (decide (3 ≤ tokens.length)) 1 [isInteger "part".toList, isInteger "how".toList] .handled

/-- `moveSelectedClientParts`. -/
def moveSelectedClientParts (tokens : List Text) : Option ChildEnding :=
  handleArguments tokens (errorReply "moveselectedclientparts".toList "invalid".toList)
    (decide (2 ≤ tokens.length)) 1 [isInteger "position".toList] .handled

/-- `setPage`. -/
def setPage (tokens : List Text) : Option ChildEnding :=
  handleArguments tokens (errorReply "setpage".toList "invalid".toList)
    (decide (2 ≤ tokens.length)) 1 [isInteger "page".toList] .handled

/-- `renderShapeSelection`. -/
def renderShapeSelection (tokens : List Text) : Option ChildEnding :=
  handleArguments tokens (errorReply "rendershapeselection".toList "syntax".toList)
    (decide (tokens.length = 2)) 1
    [fun token => getTokenString token "mimetype".toList = some "image/svg+xml".toList]
    .handled

/-- `getGraphicSelection`. -/
def getGraphicSelection (tokens : List Text) : Option ChildEnding :=
  handleArguments tokens (errorReply "getgraphicgelection id=????".toList "syntax".toList)
    (decide (tokens.length = 2)) 1 [isString "id".toList] .handled

/-- The handlers of a loaded session. -/
def handleChildCommand (core : Core) (name : Text) (tokens : List Text)
    : Command → Option ChildEnding
  | .commandvalues => getCommandValues tokens
  | .load => some (errorReply "load".toList "docalreadyloaded".toList)
  | .renderfont => sendFontRendering core tokens
  | .setclientpart => setClientPart tokens
  | .selectclientpart => selectClientPart tokens
  | .moveselectedclientparts => moveSelectedClientParts tokens
  | .setpage => setPage tokens
  | .status => some .handled
  | .paintwindow => renderWindow core tokens
  | .requestloksession | .canceltiles => some .ignored
  | .clientzoom => clientZoom tokens
  | .clientvisiblearea => clientVisibleArea tokens
  | .outlinestate => outlineState tokens
  | .downloadas => downloadAs tokens
  | .getchildid => some .handled
  | .gettextselection => getTextSelection tokens
  | .paste => paste tokens
  | .insertfile => insertFile core tokens
  | .insertpicture | .changepicture => insertPicture tokens
  | .key => keyEvent false name tokens
  | .textinput => extTextInputEvent core name tokens
  | .windowkey => keyEvent true name tokens
  | .mouse => mouseEvent false name tokens
  | .windowmouse => mouseEvent true name tokens
  | .uno => unoCommand tokens
  | .getunostates => unoStates tokens
  | .runmacroCommand => runMacro tokens
  | .selecttext => selectText tokens
  | .selectgraphic => selectGraphic tokens
  | .resetselection => resetSelection tokens
  | .saveas => saveAs core tokens
  | .useractive | .userinactive => some .handled
  | .windowcommand => sendWindowCommand core tokens
  | .signdocument | .asksignaturestatus => some .handled
  | .rendershapeselection => renderShapeSelection tokens
  | .getgraphicgelection => getGraphicSelection tokens
  | .tile | .tilecombine => some .assertion
  | _ => some .assertion

/-- `ChildSession::_handleInput` of a loaded session. Apart from `dummymsg`, it knows no command
that a client may not send.
-/
def handleChildInput (core : Core) (message : Text) : Option ChildEnding :=
  let tokens := tokenize ' ' (getFirstLine message)
  match tokens with
  | [] => none
  | name :: _ =>
      if name = "dummymsg".toList then some .ignored
      else
        match commandOf name with
        | none => some .assertion
        | some command => handleChildCommand core name tokens command

end NdcOdfWeb.Kit
