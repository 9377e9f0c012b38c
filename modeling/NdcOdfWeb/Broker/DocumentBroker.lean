import Mathlib.Data.List.Sort
import NdcOdfWeb.Foundation.Decimal

/-! Saving a document and removing its sessions (`DocumentBroker`). Sessions stand in the
order of their ids.
-/

namespace NdcOdfWeb.Broker

open NdcOdfWeb.Foundation

/-- `StorageBase::SaveResult::Result`. -/
inductive SaveStatus where
  | ok
  | diskFull
  | unauthorized
  | forbidden
  | docChanged
  | conflict
  | failed
  | notFound
  | requestEntityTooLarge
  | internalServerError
  | notImplemented
  | statusCode499
deriving DecidableEq, Repr

/-- `StorageBase::SaveResult`, with the modification time that the storage's file info has
afterwards.
-/
structure SaveResult where
  status : SaveStatus
  saveAsName : Text
  saveAsUrl : Text
  responseString : Text
  modifiedTime : Int

/-- The world when a file is to be uploaded: the steady clock, the modification time of the
local file, and what the storage answers if it is asked.
-/
structure Upload where
  now : Int
  fileModifiedTime : Int
  answer : SaveResult

/-- How the broker writes URLs, file names and times into messages. -/
structure Writer where
  normalizeUrl : Text → Text
  encode : Text → Text
  anonymizeUrl : Text → Text
  showTime : Int → Text

/-- `per_document` configuration; a duration that is not positive turns a timed save off. -/
structure Config where
  alwaysSaveOnExit : Bool
  idleSaveDurationMs : Int
  autoSaveDurationMs : Int

/-- What the broker asks of a `ClientSession`. -/
structure Member where
  isReadOnly : Bool
  isViewLoaded : Bool
  isDocumentOwner : Bool
  isCloseFrame : Bool
deriving DecidableEq, Repr

structure DocumentBroker (S : Type) where
  sessions : List S
  member : S → Member
  hasStorage : Bool
  isLoaded : Bool
  childIsAlive : Bool
  isModified : Bool
  markToDestroy : Bool
  stop : Bool
  documentChangedInStorage : Bool
  /-- Steady times in milliseconds. -/
  lastActivityTime : Int
  lastSaveTime : Int
  lastSaveRequestTime : Int
  lastSaveResponseTime : Int
  /-- File times. -/
  lastFileModifiedTime : Int
  documentLastModifiedTime : Int
  /-- The state of `_storage`. -/
  storageModifiedTime : Int
  storageIsUserModified : Bool
  storageIsAutosave : Bool
  storageIsExitSave : Bool
  storageExtendedData : Text
  /-- The state of `_tileCache`. -/
  tileCacheLastModified : Int
  tileCacheUnsavedChanges : Bool

inductive Output (S : Type) where
  | toSession (session : S) (frame : Text)
  | broadcast (frame : Text)
  | forwardToChild (session : S) (message : Text)
  | childDisconnect (session : S)

namespace DocumentBroker

variable {S : Type} [DecidableEq S] (broker : DocumentBroker S)

/-- `isPossiblyModified`. -/
def isPossiblyModified : Bool :=
  broker.isModified || broker.lastSaveRequestTime < broker.lastActivityTime

/-- `isMarkedToDestroy`. -/
def isMarkedToDestroy : Bool :=
  broker.markToDestroy || broker.stop

/-- `setModified`. -/
def setModified (value : Bool) : DocumentBroker S :=
  {
    broker with
    isModified := value
    storageIsUserModified := value
    tileCacheUnsavedChanges := value
  }

/-- A session that may save. -/
def isEditable (session : S) : Bool :=
  !(broker.member session).isReadOnly && (broker.member session).isViewLoaded

/-- `haveAnotherEditableSession`. -/
def haveAnotherEditableSession (id : S) : Bool :=
  broker.sessions.any (fun session => session != id && broker.isEditable session)

/-- The arguments of `.uno:Save`. -/
def saveArgs (dontTerminateEdit dontSaveIfUnmodified : Bool) : Text :=
  let argument (name : String) : Text :=
    "\"".toList ++ name.toList ++ "\":\x7b\"type\":\"boolean\",\"value\":true\x7d".toList
  "\x7b".toList
  ++ (if dontTerminateEdit then argument "DontTerminateEdit" else [])
  ++ (if dontSaveIfUnmodified then
        (if dontTerminateEdit then ",".toList else []) ++ argument "DontSaveIfUnmodified"
      else [])
  ++ "\x7d".toList

/-- `sendUnoSave`; the timestamp is invalidated to force persisting. -/
def sendUnoSave (now : Int) (session : S) (dontTerminateEdit dontSaveIfUnmodified isAutosave
    isExitSave : Bool) (extendedData : Text)
    : DocumentBroker S × List (Output S) × Bool :=
  if session ∈ broker.sessions then
    let command := "uno .uno:Save ".toList ++ saveArgs dontTerminateEdit dontSaveIfUnmodified
    ({
      broker with
      lastFileModifiedTime := 0
      storageIsAutosave := isAutosave
      storageIsExitSave := isExitSave
      storageExtendedData := extendedData
      lastSaveRequestTime := now
    }, [.forwardToChild session command], true)
  else (broker, [], false)

/-- The loop that chooses the session to save through, with the choice so far: an editable
session, or the first; the first document owner ends the loop.
-/
def chooseSession (chosen : Option S) : List S → Option S
  | [] => chosen
  | session :: sessions =>
      let next := if chosen.isNone || broker.isEditable session then some session else chosen
      if (broker.member session).isDocumentOwner then some session
      else chooseSession next sessions

def savingSession : Option S :=
  broker.chooseSession none broker.sessions

/-- `autoSave`: whether a save was sent. -/
def autoSave (config : Config) (now : Int) (force dontSaveIfUnmodified : Bool)
    : DocumentBroker S × List (Output S) × Bool :=
  match broker.savingSession with
  | none => (broker, [], false)
  | some session =>
      if !broker.hasStorage || !broker.isLoaded || !broker.childIsAlive
          || (!broker.isModified && !force) then
        (broker, [], false)
      else if force then broker.sendUnoSave now session true dontSaveIfUnmodified false true []
      else if (config.idleSaveDurationMs > 0
              ∧ now - broker.lastActivityTime ≥ config.idleSaveDurationMs)
            ∨ (config.autoSaveDurationMs > 0
              ∧ now - broker.lastSaveTime ≥ config.autoSaveDurationMs) then
        broker.sendUnoSave now session true true true false []
      else (broker, [], false)

-----------------------------------------------------------------------------------------
-- Uploading
-----------------------------------------------------------------------------------------

/-- What comes of an upload; `asked` says whether the storage was asked to save. -/
structure UploadOutcome (S : Type) where
  broker : DocumentBroker S
  outputs : List (Output S)
  asked : Bool
  result : Bool

/-- The messages about an upload that failed. -/
def failureMessages (session : S) (isRename : Bool) (answer : SaveResult) : List (Output S) :=
  match answer.status with
  | .ok => []
  | .diskFull =>
      broker.sessions.map (.toSession · "error: cmd=storage kind=savediskfull".toList)
  | .unauthorized => [.toSession session "error: cmd=storage kind=code401".toList]
  | .forbidden => [.toSession session "error: cmd=storage kind=code403".toList]
  | .failed =>
      [.toSession session
        ("error: cmd=storage kind=".toList
          ++ if isRename then "renamefailed".toList else "savefailed".toList)]
  | .conflict | .statusCode499 =>
      [.toSession session ("warning: ".toList ++ answer.responseString)]
  | .docChanged =>
      [.broadcast
        (if broker.isModified then "error: cmd=storage kind=documentconflict".toList
          else "close: documentconflict".toList)]
  | .notFound => [.toSession session "error: cmd=storage kind=code404".toList]
  | .requestEntityTooLarge => [.toSession session "error: cmd=storage kind=code413".toList]
  | .internalServerError => [.toSession session "error: cmd=storage kind=code500".toList]
  | .notImplemented => [.toSession session "error: cmd=storage kind=code501".toList]

/-- The storage has taken the document itself: update flags and timestamps. -/
def uploaded (upload : Upload) : DocumentBroker S :=
  {
    broker.setModified false with
    lastFileModifiedTime := upload.fileModifiedTime
    tileCacheLastModified := upload.fileModifiedTime
    lastSaveTime := upload.now
    documentLastModifiedTime := upload.answer.modifiedTime
    documentChangedInStorage := false
  }

/-- The message about a file that was renamed or saved under another name. -/
def renamedMessage (writer : Writer) (session : S) (isRename : Bool) (answer : SaveResult)
    : Output S :=
  let encodedName := writer.encode answer.saveAsName
  let url := writer.normalizeUrl answer.saveAsUrl
  if isRename then
    .broadcast ("renamefile: filename=".toList ++ encodedName ++ " url=".toList ++ url)
  else
    .toSession session
      ("saveas: url=".toList ++ url ++ " filename=".toList ++ encodedName
        ++ " xfilename=".toList ++ writer.anonymizeUrl answer.saveAsName)

/-- The storage is asked to save the file. -/
def uploadFile (writer : Writer) (upload : Upload) (session : S) (isSaveAs isRename : Bool)
    : UploadOutcome S :=
  let answer := upload.answer
  let broker := { broker with storageModifiedTime := answer.modifiedTime }
  match answer.status with
  | .ok =>
      let isOwn := !isSaveAs && !isRename
      let broker := if isOwn then broker.uploaded upload else broker
      let lastModified := "lastmodtime: ".toList ++ writer.showTime broker.documentLastModifiedTime
      {
        broker
        outputs :=
          (if isOwn then [] else [renamedMessage writer session isRename answer])
          ++ [.toSession session lastModified, .broadcast lastModified]
        asked := true
        result := true
      }
  | .docChanged =>
      {
        broker := { broker with documentChangedInStorage := true }
        outputs := broker.failureMessages session isRename answer
        asked := true
        result := false
      }
  | _ =>
      {
        broker
        outputs := broker.failureMessages session isRename answer
        asked := true
        result := false
      }

/-- `saveToStorageInternal`. -/
def saveToStorageInternal (writer : Writer) (upload : Upload) (session : S) (success : Bool)
    (result saveAsPath : Text) (isRename force : Bool)
    : UploadOutcome S :=
  let broker := { broker with lastSaveResponseTime := upload.now }
  if !success && result = "unmodified".toList && !isRename && !force then
    ⟨{ broker with lastSaveTime := upload.now }, [], false, true⟩
  else if session ∉ broker.sessions then ⟨broker, [], false, false⟩
  else if !success && !force then
    ⟨broker, [.toSession session "error: cmd=storage kind=savefailed".toList], false, false⟩
  else
    let isSaveAs : Bool := saveAsPath ≠ []
    -- if the file timestamp has not changed, saving is skipped
    if !isSaveAs && upload.fileModifiedTime = broker.lastFileModifiedTime && !isRename then
      ⟨broker, [], false, true⟩
    else broker.uploadFile writer upload session isSaveAs isRename

/-- `removeSessionInternal`. -/
def removeSessionInternal (id : S) : DocumentBroker S × List (Output S) :=
  if id ∈ broker.sessions then
    ({ broker with sessions := broker.sessions.erase id }, [.childDisconnect id])
  else (broker, [])

/-- Whether a call of `saveToStorage` is forced, as it may be on exit. -/
def isForced (config : Config) (force : Bool) : Bool :=
  force || (broker.isMarkedToDestroy && config.alwaysSaveOnExit)

/-- If marked to be destroyed, or if the session is disconnected, it is removed. -/
def removeIfClosed (id : S) : DocumentBroker S × List (Output S) :=
  if broker.markToDestroy || (id ∈ broker.sessions && (broker.member id).isCloseFrame) then
    broker.removeSessionInternal id
  else (broker, [])

/-- `saveToStorage`. -/
def saveToStorage (config : Config) (writer : Writer) (upload : Upload) (session : S)
    (success : Bool) (result : Text) (force : Bool)
    : UploadOutcome S :=
  let outcome :=
    broker.saveToStorageInternal writer upload session success result [] false
      (broker.isForced config force)
  let (after, more) := outcome.broker.removeIfClosed session
  {
    outcome with
    broker := { after with stop := after.stop || after.markToDestroy || after.sessions.isEmpty }
    outputs := outcome.outputs ++ more
  }

/-- `saveAsToStorage`. -/
def saveAsToStorage (writer : Writer) (upload : Upload) (session : S) (saveAsPath : Text)
    (isRename : Bool)
    : UploadOutcome S :=
  broker.saveToStorageInternal writer upload session true [] saveAsPath isRename false

/-- The end of `addSessionInternal`, behind `load`. -/
def addSession [LinearOrder S] (id : S) (member : Member) : DocumentBroker S :=
  if id ∈ broker.sessions then broker
  else
    {
      broker with
      sessions := broker.sessions.orderedInsert (· ≤ ·) id
      member := Function.update broker.member id member
    }

/-- Whether `removeSession` leaves the session until its save has been uploaded. -/
def lastEditableSession (id : S) : Bool :=
  !(broker.member id).isReadOnly && !broker.haveAnotherEditableSession id

/-- `removeSession`. -/
def removeSession (config : Config) (now : Int) (id : S) : DocumentBroker S × List (Output S) :=
  if id ∉ broker.sessions then (broker, [])
  else
    let broker := { broker with markToDestroy := broker.sessions.length ≤ 1 }
    if !broker.lastEditableSession id then broker.removeSessionInternal id
    else
      -- if it is the last editable one, save, and remove it after uploading to storage
      match broker.autoSave config now broker.isPossiblyModified (!config.alwaysSaveOnExit) with
      | (saving, outputs, true) => (saving, outputs)
      | (broker, outputs, false) =>
          let (removed, more) := broker.removeSessionInternal id
          (removed, outputs ++ more)

end DocumentBroker

end NdcOdfWeb.Broker
