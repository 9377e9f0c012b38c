import NdcOdfWeb.Foundation.StepRun
import NdcOdfWeb.Queue.TileQueue
import NdcOdfWeb.Sessions.LoadMessages

/-! The sessions of a document, in wsd and in the kit, and the messages between them. All sessions
share one connection, where the address of a session stands in front of its messages; in the kit
the messages wait in the queue of the tile requests.
-/

namespace NdcOdfWeb.Sessions

open NdcOdfWeb.Foundation
open NdcOdfWeb.Protocol
open NdcOdfWeb.Queue

/-- The id of a session: hexadecimal digits, as `GetConnectionId` writes a number. -/
structure SessionId where
  text : Text
  nonempty : text ≠ []
  digits : ∀ c ∈ text, c ∈ "0123456789abcdef".toList
deriving DecidableEq

/-- `parseNameValuePair`, for any delimiter. -/
def parseNameValuePairAt (delim : Char) (token : Text) : Option (Text × Text) :=
  match token.dropWhile (· != delim) with
  | [] => none
  | _ :: value => some (token.takeWhile (· != delim), value)

-----------------------------------------------------------------------------------------
-- Messages
-----------------------------------------------------------------------------------------

/-- What the broker knows of the document. -/
structure DocumentNames where
  docKey : Text
  docId : Text
  uriJailed : Text
  uriJailedAnonym : Text
  docKey_word : LineWord ' ' docKey
  docKey_nonempty : docKey ≠ []
  docId_word : LineWord ' ' docId
  docId_nonempty : docId ≠ []
  uriJailed_word : LineWord ' ' uriJailed
  uriJailedAnonym_word : LineWord ' ' uriJailedAnonym

/-- The kit's requests for tiles, and those to cancel them. -/
def queuedCommands : List Text :=
  ["tile", "tilecombine", "canceltiles", "paintwindow"].map String.toList

/-- A request for tiles, or to cancel tiles. -/
structure TilesMessage where
  text : Text
  command : ∃ first ∈ queuedCommands, (tokenize ' ' text).head? = first

/-- A message from wsd to the kit. -/
inductive ToKit where
  | session (id : SessionId)
  | child (id : SessionId) (message : Text)
  | tiles (message : TilesMessage)

def ToKit.text (names : DocumentNames) : ToKit → Text
  | session id =>
      "session".toList ++ ' ' :: id.text ++ ' ' :: names.docKey ++ ' ' :: names.docId
  | child id message => "child-".toList ++ id.text ++ ' ' :: message
  | tiles message => message.text

/-- What `DocumentBroker::forwardToChild` sends for a session, without its address: the options
of a load message must come last. There is no message if it reads behind the last token.
-/
def rewriteLoad (names : DocumentNames) (message : Text) : Option Text :=
  match tokenize ' ' message with
  | command :: rest =>
      if command = "load".toList then
        match rest with
        | [] => none
        | url :: rest =>
            some
              (command ++ ' ' :: url ++ " jail=".toList ++ names.uriJailed
                ++ " xjail=".toList ++ names.uriJailedAnonym
                ++ ' ' :: [' '].intercalate rest)
      else some message
  | [] => some message

/-- A message to the broker itself has no address. -/
structure BrokerMessage where
  text : Text
  plain : '-' ∉ getFirstToken ' ' text

/-- A message from the kit to wsd: of a session to its client, to all clients (`notifyAll`), or to
the broker.
-/
inductive ToWsd where
  | client (id : SessionId) (payload : Text)
  | clients (payload : Text)
  | broker (message : BrokerMessage)

def ToWsd.text : ToWsd → Text
  | client id payload => "client-".toList ++ id.text ++ ' ' :: payload
  | clients payload => "client-all".toList ++ ' ' :: payload
  | broker message => message.text

/-- `Message::getForwardToken`. -/
def getForwardToken (text : Text) : Text :=
  let forward := getFirstToken ' ' text
  if '-' ∈ forward then forward else []

/-- The constructor of `Message`: the forward token, and the data behind it. Without a token in
the data it reads outside of its buffers.
-/
def readMessage (text : Text) : Option (Text × Text) :=
  let forwardToken := getForwardToken text
  let data := (text.drop forwardToken.length).dropWhile (· == ' ')
  match tokenize ' ' data with
  | [] => none
  | _ :: _ => some (forwardToken, data)

-----------------------------------------------------------------------------------------
-- The kit
-----------------------------------------------------------------------------------------

/-- A kit's process: the URL of its document, once there is one, and the sessions of the document.
An exception of the queue's consumer ends `Document::run`, one of the socket's handler closes the
connection.
-/
structure KitProcess where
  url : Option Text
  sessions : List Text
  queue : TileQueue
  running : Bool
  connected : Bool

namespace KitProcess

def start : KitProcess where
  url := none
  sessions := []
  queue := .empty
  running := true
  connected := true

/-- `Document::createSession`, for the document that the first session creates. -/
def createSession (kit : KitProcess) (sessionId url : Text) : KitProcess :=
  let kit := { kit with url := some (kit.url.getD url) }
  if kit.url = some url ∧ sessionId ∉ kit.sessions then
    { kit with sessions := kit.sessions ++ [sessionId] }
  else kit

/-- `KitWebSocketHandler::handleMessage`, without the messages `exit` and `setconfig`. -/
def handleMessage (viewIdOf : Text → Except Exception Text) (decode : Text → Text)
    (kit : KitProcess) (message : Text)
    : Option KitProcess :=
  match tokenize ' ' message with
  | [] => none
  | first :: rest =>
      if first = "session".toList then
        match rest with
        | sessionId :: docKey :: _ :: _ => some (kit.createSession sessionId (decode docKey))
        | _ => none
      else if first ∈ queuedCommands ∨ getFirstToken '-' first = "child".toList then
        -- Without a document there is nothing to do.
        if kit.url = none then some kit
        else
          match kit.queue.put viewIdOf message with
          | .ok queue => some { kit with queue }
          | .error _ => some { kit with connected := false }
      else some kit

/-- `Document::forwardToChild`: what its session handles of the input. -/
def forwardToChild (kit : KitProcess) (first input : Text) : KitProcess × List (Text × Text) :=
  let data := (input.drop first.length).dropWhile (· == ' ')
  match parseNameValuePairAt '-' first with
  | none => (kit, [])
  | some (name, sessionId) =>
      if name = "child".toList ∧ sessionId ∈ kit.sessions then
        if data = "disconnect".toList then
          ({ kit with sessions := kit.sessions.erase sessionId }, [])
        else (kit, [(sessionId, data)])
      else (kit, [])

/-- A pass of the loop of `Document::run`; `fails` says whether there is an exception in the
rendering of tiles, or in the handling of a callback.
-/
def run (kit : KitProcess) (fails : Bool) : Option (KitProcess × List (Text × Text)) :=
  if kit.running then
    match kit.queue.get with
    | none => none
    | some (.error _, queue) => some ({ kit with queue, running := false }, [])
    | some (.ok input, queue) =>
        match tokenize ' ' input with
        | [] => none
        | first :: _ =>
            if first = "eof".toList then some ({ kit with queue, running := false }, [])
            else if getFirstToken '-' first = "child".toList then
              some (forwardToChild { kit with queue } first input)
            else some ({ kit with queue, running := !fails }, [])
  else none

end KitProcess

-----------------------------------------------------------------------------------------
-- Both processes
-----------------------------------------------------------------------------------------

/-- The broker's sessions and the kit, with the messages that are under way in both directions.
What has happened up to now is recorded: the messages that were forwarded for a session, those that
the kit's sessions have handled, those that the kit has sent, those that the sessions in wsd have
got, and how many messages of the kit had come before a session was added.
-/
structure Channels where
  sessions : List SessionId
  used : List SessionId
  isLoaded : Bool
  toKit : List ToKit
  kit : KitProcess
  toWsd : List ToWsd
  forwarded : List (SessionId × Text)
  handled : List (Text × Text)
  sent : List ToWsd
  delivered : List (SessionId × Text)
  missed : SessionId → Nat

namespace Channels

def start : Channels where
  sessions := []
  used := []
  isLoaded := false
  toKit := []
  kit := .start
  toWsd := []
  forwarded := []
  handled := []
  sent := []
  delivered := []
  missed _ := 0

end Channels

/-- What happens to the sessions and between the processes. -/
inductive ChannelEvent where
  | addSession (id : SessionId)
  | forwardToChild (id : SessionId) (message : Text)
  | removeSession (id : SessionId)
  | setLoaded
  | requestTiles (message : TilesMessage)
  | received
  | callback (message : Text) (command : getFirstToken ' ' message = "callback".toList)
  | run (fails : Bool)
  | send (message : ToWsd)
  | handleInput

namespace Channels

/-- The sessions that a message of the kit is forwarded to (`forwardToClient`). -/
def recipients (system : Channels) (forwardToken : Text) : List SessionId :=
  match parseNameValuePairAt '-' forwardToken with
  | none => []
  | some (name, sid) =>
      if name = "client".toList then
        if sid = "all".toList then system.sessions
        else system.sessions.filter (·.text = sid)
      else []

/-- `DocumentBroker::handleInput`, for the messages to sessions. Each of these reads the message
once more (`handleKitToClientMessage`).
-/
def handleInput (system : Channels) (text : Text) : Option Channels :=
  match readMessage text with
  | none => none
  | some (forwardToken, data) =>
      match system.recipients forwardToken with
      | [] => some system
      | recipients =>
          match readMessage data with
          | none => none
          | some (_, payload) =>
              some
                {
                  system with
                  delivered := system.delivered ++ recipients.map (fun id => (id, payload))
                }

/-- One step. Ids are used once. Messages to sessions that the broker does not have are ignored, and
so are those about a user's activity before the document is loaded.
-/
def step (viewIdOf : Text → Except Exception Text) (decode : Text → Text) (names : DocumentNames)
    (system : Channels)
    : ChannelEvent → Option Channels
  | .addSession id =>
      if id ∈ system.used then none
      else
        some
          {
            system with
            sessions := system.sessions ++ [id]
            used := id :: system.used
            toKit := system.toKit ++ [.session id]
            missed :=
              Function.update system.missed id (system.sent.length - system.toWsd.length)
          }
  | .forwardToChild id message =>
      if id ∉ system.sessions
          ∨ (system.isLoaded = false
            ∧ (message = "userinactive".toList ∨ message = "useractive".toList)) then some system
      else
        (rewriteLoad names message).map (fun message =>
          {
            system with
            toKit := system.toKit ++ [.child id message]
            forwarded := system.forwarded ++ [(id, message)]
          })
  | .removeSession id =>
      if id ∈ system.sessions then
        some
          {
            system with
            sessions := system.sessions.erase id
            toKit := system.toKit ++ [.child id "disconnect".toList]
          }
      else some system
  | .setLoaded => some { system with isLoaded := true }
  | .requestTiles message => some { system with toKit := system.toKit ++ [.tiles message] }
  | .received =>
      match system.toKit with
      | [] => none
      | message :: toKit =>
          if system.kit.connected then
            (system.kit.handleMessage viewIdOf decode (message.text names)).map (fun kit =>
              { system with toKit, kit })
          else none
  | .callback message _ =>
      match system.kit.queue.put viewIdOf message with
      | .ok queue => some { system with kit := { system.kit with queue } }
      | .error _ =>
          let queue := system.kit.queue.afterException message
          some { system with kit := { system.kit with queue } }
  | .run fails =>
      (system.kit.run fails).map (fun (kit, handled) =>
        { system with kit, handled := system.handled ++ handled })
  | .send message =>
      some { system with toWsd := system.toWsd ++ [message], sent := system.sent ++ [message] }
  | .handleInput =>
      match system.toWsd with
      | [] => none
      | message :: toWsd => { system with toWsd }.handleInput message.text

/-- The messages that were forwarded for a session. -/
def forwardedFor (system : Channels) (id : SessionId) : List Text :=
  system.forwarded.filterMap (fun (other, message) => if other = id then some message else none)

/-- The messages that the kit's session has handled. -/
def handledBy (system : Channels) (id : SessionId) : List Text :=
  system.handled.filterMap (fun (other, data) => if other = id.text then some data else none)

/-- The messages that the session in wsd has got from the kit. -/
def deliveredTo (system : Channels) (id : SessionId) : List Text :=
  system.delivered.filterMap (fun (other, payload) => if other = id then some payload else none)

end Channels

end NdcOdfWeb.Sessions
