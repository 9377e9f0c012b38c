import NdcOdfWeb.Broker.DocumentBroker
import NdcOdfWeb.Foundation.StepRun

/-! What happens to a document: sessions that come and go, saves that are sent to the kit, and
their results.
-/

namespace NdcOdfWeb.Broker

open NdcOdfWeb.Foundation

/-- A save that was sent to the kit through a session, and the session whose removal waits
for it.
-/
structure SaveRequest (S : Type) where
  through : S
  deferred : Option S
deriving DecidableEq, Repr

/-- The broker with the saves under way. A session id is used once. -/
structure System (S : Type) where
  broker : DocumentBroker S
  pending : List (SaveRequest S)
  used : List S
  /-- The sessions whose removal waited for a save that has been handled. -/
  handled : List S

inductive Event (S : Type) where
  | addSession (id : S) (member : Member)
  /-- The flags of a session other than its close flag, and those of the document. -/
  | update (id : S) (isReadOnly isViewLoaded isDocumentOwner isLoaded childIsAlive : Bool)
  | userActivity (now : Int)
  | setModified (value : Bool)
  | requestSave (now : Int) (id : S) (dontTerminateEdit dontSaveIfUnmodified : Bool)
    (extendedData : Text)
  | autoSave (now : Int) (force dontSaveIfUnmodified : Bool)
  | removeSession (now : Int) (id : S)
  /-- `onDisconnect`. -/
  | disconnect (now : Int) (id : S)
  /-- The kit's result for one of the saves under way. -/
  | saveResult (request : SaveRequest S) (upload : Upload) (success : Bool) (result : Text)
  /-- Another upload, without a save. -/
  | saveToStorage (id : S) (upload : Upload) (force : Bool)
  | saveAsToStorage (id : S) (upload : Upload) (saveAsPath : Text) (isRename : Bool)

section Steps

variable {S : Type} [LinearOrder S]

/-- The saves that were sent with some outputs. -/
def saveRequests (deferred : Option S) (outputs : List (Output S)) : List (SaveRequest S) :=
  outputs.filterMap (fun output =>
    match output with
    | .forwardToChild through _ => some { through, deferred }
    | _ => none)

def System.send (system : System S) (deferred : Option S) (broker : DocumentBroker S)
    (outputs : List (Output S))
    : System S :=
  { system with broker := broker, pending := system.pending ++ saveRequests deferred outputs }

/-- `removeSession`; the session waits for the save if it is still there. -/
def System.removeSession (config : Config) (now : Int) (id : S) (system : System S) : System S :=
  let (broker, outputs) := system.broker.removeSession config now id
  system.send (if id ∈ broker.sessions then some id else none) broker outputs

/-- `closeFrame` of a session. -/
def System.closeFrame (id : S) (system : System S) : System S :=
  let member := { system.broker.member id with isCloseFrame := true }
  {
    system with
    broker := { system.broker with member := Function.update system.broker.member id member }
  }

/-- One step. A session that is not there does not get the result of its save. -/
def System.step (config : Config) (writer : Writer) (system : System S)
    : Event S → Option (System S)
  | .addSession id member =>
      if id ∈ system.used then none
      else
        some
          {
            system with
            broker := system.broker.addSession id { member with isCloseFrame := false }
            used := id :: system.used
          }
  | .update id isReadOnly isViewLoaded isDocumentOwner isLoaded childIsAlive =>
      let member :=
        { system.broker.member id with isReadOnly, isViewLoaded, isDocumentOwner }
      some
        {
          system with
          broker :=
            {
              system.broker with
              member := Function.update system.broker.member id member
              isLoaded
              childIsAlive
            }
        }
  | .userActivity now =>
      some { system with broker := { system.broker with lastActivityTime := now } }
  | .setModified value => some { system with broker := system.broker.setModified value }
  | .requestSave now id dontTerminateEdit dontSaveIfUnmodified extendedData =>
      let (broker, outputs, _) :=
        system.broker.sendUnoSave now id dontTerminateEdit dontSaveIfUnmodified false false
          extendedData
      some (system.send none broker outputs)
  | .autoSave now force dontSaveIfUnmodified =>
      let (broker, outputs, _) := system.broker.autoSave config now force dontSaveIfUnmodified
      some (system.send none broker outputs)
  | .removeSession now id => some (system.removeSession config now id)
  | .disconnect now id => some ((system.removeSession config now id).closeFrame id)
  | .saveResult request upload success result =>
      if request ∉ system.pending then none
      else
        let system := { system with pending := system.pending.erase request }
        if request.through ∉ system.broker.sessions then some system
        else
          let outcome :=
            system.broker.saveToStorage config writer upload request.through success result false
          some
            {
              system with
              broker := outcome.broker
              handled := request.deferred.toList ++ system.handled
            }
  | .saveToStorage id upload force =>
      let outcome := system.broker.saveToStorage config writer upload id true [] force
      some { system with broker := outcome.broker }
  | .saveAsToStorage id upload saveAsPath isRename =>
      let outcome := system.broker.saveAsToStorage writer upload id saveAsPath isRename
      some { system with broker := outcome.broker }

end Steps

end NdcOdfWeb.Broker
