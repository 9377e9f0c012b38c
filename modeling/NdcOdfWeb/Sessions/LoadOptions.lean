import NdcOdfWeb.Protocol.Tokens

/-! The options of the load command: `Session::parseDocOptions`, and the messages of a client
that reach it (`ClientSession::loadDocument`).
-/

namespace NdcOdfWeb.Sessions

open NdcOdfWeb.Foundation
open NdcOdfWeb.Protocol

/-- What the sessions use of Poco, of the standard library and of the configuration. -/
structure Host where
  /-- `Poco::URI::decode`: the text that it appends to its result, and whether it throws
  behind it.
-/
  decode : Text → Text × Bool
  /-- `Poco::URI::encode`: the text that it appends to its result. -/
  encode : Text → Text
  /-- `std::stod`; it may throw. -/
  stod : Text → Option Float
  anonymizeUsername : Text → Text
  /-- The public URI of the document. -/
  publicUri : Text
  /-- The opacity of the configuration, as it is written to a stream. -/
  opacity : Text
  /-- The watermark as a JSON object, for its text. -/
  watermarkJson : Text → Text

/-- The fields of a session that the load command reads and writes. -/
structure Session where
  docURL : Text
  jailedFilePath : Text
  jailedFilePathAnonym : Text
  userId : Text
  userIdAnonym : Text
  userName : Text
  userNameAnonym : Text
  userExtraInfo : Text
  isReadOnly : Bool
  docPassword : Text
  haveDocPassword : Bool
  lang : Text
  timezone : Text
  watermarkText : Text
  watermarkOpacity : Float
  docOptions : Text
  /-- The template source of the WOPI file info, empty without it. -/
  templateSource : Text

/-- What the storage's file info says about a user. -/
structure UserInfo where
  userId : Text
  username : Text
  userExtraInfo : Text
  watermarkText : Text
  userCanWrite : Bool
  isViewFileExtension : Bool

/-- The part of `DocumentBroker::load` that sets the fields of the session. -/
def Session.setUserInfo (session : Session) (info : UserInfo) : Session :=
  {
    session with
    isReadOnly := session.isReadOnly || !info.userCanWrite || info.isViewFileExtension
    userId := info.userId
    userName := info.username
    userExtraInfo := info.userExtraInfo
    watermarkText := info.watermarkText
  }

-----------------------------------------------------------------------------------------
-- The options
-----------------------------------------------------------------------------------------

inductive OptionName where
  | url
  | jail
  | xjail
  | authorid
  | xauthorid
  | author
  | xauthor
  | authorextrainfo
  | readonly
  | password
  | lang
  | timezone
  | watermarkText
  | watermarkOpacity
  | timestamp
  | template
deriving DecidableEq, Repr

/-- The option of a name. -/
def optionName (name : Text) : Option OptionName :=
  if name = "url".toList then some .url
  else if name = "jail".toList then some .jail
  else if name = "xjail".toList then some .xjail
  else if name = "authorid".toList then some .authorid
  else if name = "xauthorid".toList then some .xauthorid
  else if name = "author".toList then some .author
  else if name = "xauthor".toList then some .xauthor
  else if name = "authorextrainfo".toList then some .authorextrainfo
  else if name = "readonly".toList then some .readonly
  else if name = "password".toList then some .password
  else if name = "lang".toList then some .lang
  else if name = "timezone".toList then some .timezone
  else if name = "watermarkText".toList then some .watermarkText
  else if name = "watermarkOpacity".toList then some .watermarkOpacity
  else if name = "timestamp".toList then some .timestamp
  else if name = "template".toList then some .template
  else none

/-- A token with a name and a value, if it is an option; other tokens are skipped. -/
def readOption (token : Text) : Option (OptionName × Text) := do
  let (name, value) ← parseNameValuePair token
  let option ← optionName name
  return (option, value)

/-- What ends the parsing: a `Poco::SyntaxException`, or an exception of `std::stod`. -/
inductive Thrown where
  | syntaxException
  | stdException
deriving DecidableEq, Repr

/-- The session with the other results of the parsing. -/
structure DocOptions where
  session : Session
  part : Int32
  timestamp : Text
  doctemplate : Text
  offset : Nat

def DocOptions.next (options : DocOptions) : DocOptions :=
  { options with offset := options.offset + 1 }

/-- The body of the loop in `parseDocOptions` for an option with its value. -/
def DocOptions.setOption (host : Host) (options : DocOptions) (name : OptionName) (value : Text)
    : DocOptions × Option Thrown :=
  let session := options.session
  let (decoded, throws) := host.decode value
  let assign (session : Session) : DocOptions × Option Thrown :=
    ({ options with session := session }.next, none)
  -- what is decoded is appended to the field, also in front of what makes `decode` throw
  let assignDecoded (session : Session) : DocOptions × Option Thrown :=
    if throws then ({ options with session := session }, some .syntaxException)
    else ({ options with session := session }.next, none)
  match name with
  | .url => assign { session with docURL := value }
  | .jail => assign { session with jailedFilePath := value }
  | .xjail => assign { session with jailedFilePathAnonym := value }
  | .authorid => assignDecoded { session with userId := session.userId ++ decoded }
  | .xauthorid => assignDecoded { session with userIdAnonym := session.userIdAnonym ++ decoded }
  | .author => assignDecoded { session with userName := session.userName ++ decoded }
  | .xauthor =>
      assignDecoded { session with userNameAnonym := session.userNameAnonym ++ decoded }
  | .authorextrainfo =>
      assignDecoded { session with userExtraInfo := session.userExtraInfo ++ decoded }
  | .readonly => assign { session with isReadOnly := value != ['0'] }
  | .password =>
      assignDecoded
        {
          session with
          docPassword := session.docPassword ++ decoded
          haveDocPassword := session.haveDocPassword || !throws
        }
  | .lang => assign { session with lang := value }
  | .timezone => assign { session with timezone := value }
  | .watermarkText =>
      assignDecoded { session with watermarkText := session.watermarkText ++ decoded }
  | .watermarkOpacity =>
      match host.stod value with
      | some opacity => assign { session with watermarkOpacity := opacity }
      | none => (options, some .stdException)
  | .timestamp => ({ options with timestamp := value }.next, none)
  | .template => ({ options with doctemplate := value }.next, none)

/-- The loop of `parseDocOptions`; an exception ends it. -/
def DocOptions.setOptions (host : Host) : List Text → DocOptions → DocOptions × Option Thrown
  | [], options => (options, none)
  | token :: tokens, options =>
      match readOption token with
      | none => setOptions host tokens options
      | some (name, value) =>
          match options.setOption host name value with
          | (options, none) => setOptions host tokens options
          | (options, some thrown) => (options, some thrown)

/-- The tokens that the loop of `parseDocOptions` goes through, with the part in front. -/
def loadTokens (tokens : List Text) (part : Int32) : Int32 × List Text :=
  match tokens with
  | _ :: first :: second :: rest =>
      if "part=".toList <+: first then
        ((getTokenInteger first "part".toList part).2, second :: rest)
      else (part, first :: second :: rest)
  | _ => (part, tokens.drop 1)

/-- `Session::parseDocOptions`. -/
def parseDocOptions (host : Host) (session : Session) (tokens : List Text) (part : Int32)
    : DocOptions × Option Thrown :=
  let (part, options) := loadTokens tokens part
  let start : DocOptions :=
    {
      session
      part
      timestamp := []
      doctemplate := []
      offset := tokens.length - options.length
    }
  match start.setOptions host options with
  | (parsed, some thrown) => (parsed, some thrown)
  | (parsed, none) =>
      -- the tokens behind as many as were options
      match tokens.drop parsed.offset with
      | [] => (parsed, none)
      | first :: rest =>
          match getTokenString first "options".toList with
          | none => (parsed, none)
          | some docOptions =>
              let docOptions := docOptions ++ [' '].intercalate rest
              ({ parsed with session := { parsed.session with docOptions } }, none)

/-- What comes of a client's load message. -/
structure LoadOutcome where
  session : Session
  /-- The text frames sent to the client. -/
  sent : List Text
  /-- The message forwarded to the child. -/
  forwarded : Option Text
  /-- An exception that leaves `loadDocument`. -/
  escapes : Bool

/-- The load message that `loadDocument` composes for the child. -/
def loadMessage (host : Host) (parsed : DocOptions) : Text :=
  let session := parsed.session
  let encodedUserId := host.encode session.userId
  let encodedUserName := host.encode session.userName
  "load url=".toList ++ host.publicUri
  ++ (if session.userId ≠ [] ∧ session.userName ≠ [] then
        -- the second `encode` appends to the result of the first
        " authorid=".toList ++ encodedUserId
        ++ " xauthorid=".toList ++ encodedUserId
        ++ host.encode (host.anonymizeUsername session.userId)
        ++ " author=".toList ++ encodedUserName
        ++ " xauthor=".toList ++ encodedUserName
        ++ host.encode (host.anonymizeUsername session.userName)
      else [])
  ++ (if session.userExtraInfo ≠ [] then
        " authorextrainfo=".toList ++ host.encode session.userExtraInfo
      else [])
  ++ " readonly=".toList ++ [if session.isReadOnly then '1' else '0']
  ++ (if parsed.part ≥ 0 then " part=".toList ++ showInt parsed.part.toInt else [])
  ++ (if session.haveDocPassword then " password=".toList ++ host.encode session.docPassword
      else [])
  ++ (if session.lang ≠ [] then " lang=".toList ++ session.lang else [])
  ++ (if session.timezone ≠ [] then " timezone=".toList ++ session.timezone else [])
  ++ (if session.watermarkText ≠ [] then
        " watermarkText=".toList ++ host.encode session.watermarkText
        ++ " watermarkOpacity=".toList ++ host.opacity
      else [])
  ++ (if session.docOptions ≠ [] then " options=".toList ++ session.docOptions else [])
  ++ (if session.templateSource ≠ [] then " template=".toList ++ session.templateSource else [])

/-- `ClientSession::loadDocument`. -/
def loadDocument (host : Host) (session : Session) (tokens : List Text) : LoadOutcome :=
  if tokens.length < 2 then
    ⟨session, ["error: cmd=load kind=syntax".toList], none, false⟩
  else
    match parseDocOptions host session tokens (-1) with
    | (parsed, some .syntaxException) =>
        ⟨parsed.session, ["error: cmd=load kind=uriinvalid".toList], none, false⟩
    | (parsed, some .stdException) => ⟨parsed.session, [], none, true⟩
    | (parsed, none) =>
        let text := parsed.session.watermarkText
        let watermark := if text ≠ [] then ["watermark: ".toList ++ host.watermarkJson text] else []
        ⟨parsed.session, watermark, some (loadMessage host parsed), false⟩

/-- The load command in `ClientSession::_handleInput`. -/
def handleLoad (host : Host) (session : Session) (tokens : List Text) : LoadOutcome :=
  if session.docURL ≠ [] then
    ⟨session, ["error: cmd=load kind=docalreadyloaded".toList], none, false⟩
  else loadDocument host session tokens

end NdcOdfWeb.Sessions
