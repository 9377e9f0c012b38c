import NdcOdfWeb.Broker.FailedUploads

/-! Removals of sessions that wait for a save. -/

namespace NdcOdfWeb.Broker

open NdcOdfWeb.Foundation

/-- The sessions whose save has been handled are gone. -/
def Completed {S : Type} (system : System S) : Prop :=
  ∀ id ∈ system.handled, id ∉ system.broker.sessions

/-- The sessions of a new document. -/
def Starts {S : Type} (system : System S) : Prop :=
  system.broker.sessions = [] ∧ system.pending = [] ∧ system.used = [] ∧ system.handled = []

/-- A result leads to the removal of the session that waits for it: that session is gone, or
the save was issued through it, and it is disconnected or the document is to be destroyed.
-/
def ResultRemoves {S : Type} (system : System S) : Event S → Prop
  | .saveResult request _ _ _ =>
      ∀ id,
        request.deferred = some id
        → request.through ∈ system.broker.sessions
        → id ∈ system.broker.sessions
        → request.through = id
          ∧ (system.broker.markToDestroy = true
            ∨ (system.broker.member id).isCloseFrame = true)
  | _ => True

variable {S : Type}

/-- The removal of a session is deferred: it is the last editable one, and there may be
something to save.
-/
structure DocumentBroker.Defers [DecidableEq S] (broker : DocumentBroker S) (id : S) : Prop where
  present : id ∈ broker.sessions
  last : broker.lastEditableSession id = true
  canSave : broker.hasStorage = true ∧ broker.isLoaded = true ∧ broker.childIsAlive = true
  modified : broker.isPossiblyModified = true

/-- Only disconnected sessions wait, and each one for a save that is issued through it. -/
def DefersToItself [DecidableEq S] (system : System S) : Event S → Prop
  | .removeSession _ id => ¬ system.broker.Defers id
  | .disconnect _ id => system.broker.Defers id → system.broker.savingSession = some id
  | _ => True

-----------------------------------------------------------------------------------------
-- The session that saves
-----------------------------------------------------------------------------------------

/-- The chosen session is one of those that are tried, or the one to start with. By induction on
them.
-/
theorem chooseSession_mem {broker : DocumentBroker S} {chosen : Option S} {sessions : List S}
    {session : S} (found : broker.chooseSession chosen sessions = some session)
    : session ∈ sessions ∨ chosen = some session := by
  induction sessions generalizing chosen with
  | nil => exact .inr found
  | cons first sessions ih =>
      rw [DocumentBroker.chooseSession] at found
      split at found
      · obtain rfl := Option.some.inj found
        exact .inl List.mem_cons_self
      · rcases ih found with later | next
        · exact .inl (List.mem_cons_of_mem first later)
        · split at next
          · obtain rfl := Option.some.inj next
            exact .inl List.mem_cons_self
          · exact .inr next

/-- Among some sessions, one is chosen, by induction on them. -/
theorem chooseSession_isSome {broker : DocumentBroker S} {chosen : Option S} {sessions : List S}
    (starts : chosen.isSome = true ∨ sessions ≠ [])
    : (broker.chooseSession chosen sessions).isSome = true := by
  induction sessions generalizing chosen with
  | nil => exact starts.resolve_right (fun nonempty => nonempty rfl)
  | cons first sessions ih =>
      rw [DocumentBroker.chooseSession]
      split
      · rfl
      · refine ih (.inl ?_)
        cases chosen with
        | none => rfl
        | some session =>
            split <;> rfl

/-- The choice depends on the members only, by induction on the sessions. -/
theorem chooseSession_congr {broker other : DocumentBroker S} (same : broker.member = other.member)
    (chosen : Option S) (sessions : List S)
    : broker.chooseSession chosen sessions = other.chooseSession chosen sessions := by
  induction sessions generalizing chosen with
  | nil => rfl
  | cons first sessions ih =>
      simp only [DocumentBroker.chooseSession, DocumentBroker.isEditable, same]
      split
      · rfl
      · exact ih _

-----------------------------------------------------------------------------------------
-- Sessions in one call
-----------------------------------------------------------------------------------------

/-- A call leaves the sessions and the mark to destroy the document alone. -/
structure SameSessions (before after : DocumentBroker S) : Prop where
  sessions : after.sessions = before.sessions
  member : after.member = before.member
  markToDestroy : after.markToDestroy = before.markToDestroy

/-- To ask the kit for a save leaves the sessions as they are. -/
theorem sendUnoSave_same [DecidableEq S] (broker : DocumentBroker S) (now : Int) (session : S)
    (dontTerminateEdit dontSaveIfUnmodified isAutosave isExitSave : Bool) (extendedData : Text)
    : SameSessions broker
        (broker.sendUnoSave now session dontTerminateEdit dontSaveIfUnmodified isAutosave
          isExitSave extendedData).1 := by
  unfold DocumentBroker.sendUnoSave
  split <;> exact ⟨rfl, rfl, rfl⟩

/-- So does the automatic save. -/
theorem autoSave_same [DecidableEq S] (config : Config) (broker : DocumentBroker S) (now : Int)
    (force dontSaveIfUnmodified : Bool)
    : SameSessions broker (broker.autoSave config now force dontSaveIfUnmodified).1 := by
  unfold DocumentBroker.autoSave
  split
  · exact ⟨rfl, rfl, rfl⟩
  · split
    · exact ⟨rfl, rfl, rfl⟩
    · split
      · exact sendUnoSave_same ..
      · split
        · exact sendUnoSave_same ..
        · exact ⟨rfl, rfl, rfl⟩

/-- So does an upload. -/
theorem uploadFile_same [DecidableEq S] (writer : Writer) (broker : DocumentBroker S)
    (upload : Upload) (session : S) (isSaveAs isRename : Bool)
    : SameSessions broker (broker.uploadFile writer upload session isSaveAs isRename).broker := by
  unfold DocumentBroker.uploadFile
  dsimp only
  split
  · dsimp only
    split <;> exact ⟨rfl, rfl, rfl⟩
  · exact ⟨rfl, rfl, rfl⟩
  · exact ⟨rfl, rfl, rfl⟩

/-- So does what follows the kit's answer to a save. -/
theorem saveToStorageInternal_same [DecidableEq S] (writer : Writer) (broker : DocumentBroker S)
    (upload : Upload) (session : S) (success : Bool) (result saveAsPath : Text)
    (isRename force : Bool)
    : SameSessions broker
        (broker.saveToStorageInternal writer upload session success result saveAsPath isRename
          force).broker := by
  unfold DocumentBroker.saveToStorageInternal
  dsimp only
  split
  · exact ⟨rfl, rfl, rfl⟩
  · split
    · exact ⟨rfl, rfl, rfl⟩
    · split
      · exact ⟨rfl, rfl, rfl⟩
      · split
        · exact ⟨rfl, rfl, rfl⟩
        · have same := uploadFile_same writer { broker with lastSaveResponseTime := upload.now }
            upload session (decide (saveAsPath ≠ [])) isRename
          exact ⟨same.sessions, same.member, same.markToDestroy⟩

/-- A session is erased, and no save is asked for. -/
theorem removeSessionInternal_sessions [DecidableEq S] (broker : DocumentBroker S) (id : S)
    : (broker.removeSessionInternal id).1.sessions = broker.sessions.erase id
      ∧ (broker.removeSessionInternal id).1.member = broker.member
      ∧ saveRequests none (broker.removeSessionInternal id).2 = [] := by
  unfold DocumentBroker.removeSessionInternal
  split
  · exact ⟨rfl, rfl, rfl⟩
  · next absent => exact ⟨(List.erase_of_not_mem absent).symm, rfl, rfl⟩

/-- `saveToStorage` removes its own session or none. -/
theorem saveToStorage_sessions [DecidableEq S] (config : Config) (writer : Writer)
    (broker : DocumentBroker S) (upload : Upload) (session : S) (success : Bool) (result : Text)
    (force : Bool)
    : let after :=
        (broker.saveToStorage config writer upload session success result force).broker
      after.sessions
        = (if broker.markToDestroy = true
              ∨ (session ∈ broker.sessions ∧ (broker.member session).isCloseFrame = true) then
            broker.sessions.erase session
          else broker.sessions)
      ∧ after.member = broker.member := by
  have same := saveToStorageInternal_same writer broker upload session success result [] false
    (broker.isForced config force)
  have removed := removeSessionInternal_sessions
    (broker.saveToStorageInternal writer upload session success result [] false
      (broker.isForced config force)).broker session
  unfold DocumentBroker.saveToStorage DocumentBroker.removeIfClosed
  dsimp only
  simp only [same.sessions, same.member, same.markToDestroy, Bool.or_eq_true, Bool.and_eq_true,
    decide_eq_true_eq] at removed ⊢
  split
  · exact ⟨removed.1, removed.2.1⟩
  · exact ⟨same.sessions, same.member⟩

/-- A forced automatic save goes through the chosen session, where a save is possible. -/
theorem autoSave_forced [DecidableEq S] (config : Config) {broker : DocumentBroker S} (now : Int)
    (dontSaveIfUnmodified : Bool) {through : S} (saves : broker.savingSession = some through)
    : (broker.hasStorage = true ∧ broker.isLoaded = true ∧ broker.childIsAlive = true
        ∧ broker.isPossiblyModified = true
        ∧ ∃ after command,
            broker.autoSave config now broker.isPossiblyModified dontSaveIfUnmodified
              = (after, [.forwardToChild through command], true))
      ∨ (¬ (broker.hasStorage = true ∧ broker.isLoaded = true ∧ broker.childIsAlive = true
          ∧ broker.isPossiblyModified = true)
        ∧ broker.autoSave config now broker.isPossiblyModified dontSaveIfUnmodified
          = (broker, [], false)) := by
  have inside : through ∈ broker.sessions :=
    (chooseSession_mem saves).resolve_right (fun same => nomatch same)
  have modified : broker.isModified = true → broker.isPossiblyModified = true := by
    intro isModified
    rw [DocumentBroker.isPossiblyModified, isModified, Bool.true_or]
  unfold DocumentBroker.autoSave
  simp only [saves]
  by_cases can : broker.hasStorage = true ∧ broker.isLoaded = true ∧ broker.childIsAlive = true
      ∧ broker.isPossiblyModified = true
  · refine .inl ⟨can.1, can.2.1, can.2.2.1, can.2.2.2, ?_⟩
    obtain ⟨hasStorage, isLoaded, childIsAlive, possibly⟩ := can
    simp only [hasStorage, isLoaded, childIsAlive, possibly, DocumentBroker.sendUnoSave,
      if_pos inside, Bool.not_true, Bool.and_false, Bool.or_false,
      Bool.false_eq_true, if_false, if_true]
    exact ⟨_, _, rfl⟩
  · refine .inr ⟨can, ?_⟩
    rw [if_pos]
    cases storage : broker.hasStorage <;> cases loaded : broker.isLoaded <;>
      cases alive : broker.childIsAlive <;> cases possibly : broker.isPossiblyModified <;>
      cases isModified : broker.isModified <;> simp_all

/-- A removal is deferred for a save through the chosen session, or is done at once. -/
theorem removeSession_cases [DecidableEq S] (config : Config) (broker : DocumentBroker S)
    (now : Int) (id : S)
    : let removed := broker.removeSession config now id
      removed.1.member = broker.member
      ∧ ((broker.Defers id
            ∧ removed.1.sessions = broker.sessions
            ∧ ∃ through command,
                broker.savingSession = some through
                ∧ removed.2 = [.forwardToChild through command])
          ∨ (¬ broker.Defers id
            ∧ removed.1.sessions = broker.sessions.erase id
            ∧ ∀ deferred, saveRequests deferred removed.2 = [])) := by
  have noRequest (outputs : List (Output S)) (none' : saveRequests none outputs = [])
      (deferred : Option S)
      : saveRequests deferred outputs = [] := by
    simp only [saveRequests, List.filterMap_eq_nil_iff] at none' ⊢
    intro output member
    have without := none' output member
    split at without
    · cases without
    · rfl
  unfold DocumentBroker.removeSession
  by_cases present : id ∈ broker.sessions
  · rw [if_neg (not_not.mpr present)]
    dsimp only
    -- the mark to destroy the document does not matter for the choice
    have marked
        : ∃ marked : DocumentBroker S,
            marked = { broker with markToDestroy := decide (broker.sessions.length ≤ 1) } :=
      ⟨_, rfl⟩
    obtain ⟨marked, isMarked⟩ := marked
    rw [← isMarked]
    have sessions : marked.sessions = broker.sessions := by rw [isMarked]
    have member : marked.member = broker.member := by rw [isMarked]
    have removal := removeSessionInternal_sessions marked id
    split
    · next notLast =>
        refine ⟨removal.2.1.trans member, .inr ⟨?_, by rw [removal.1, sessions], ?_⟩⟩
        · intro defers
          have last : marked.lastEditableSession id = true := by
            rw [isMarked]
            exact defers.last
          rw [last] at notLast
          cases notLast
        · exact noRequest _ removal.2.2
    · next last =>
        have chosen : marked.savingSession = broker.savingSession := by
          rw [DocumentBroker.savingSession, DocumentBroker.savingSession, sessions]
          exact chooseSession_congr member none broker.sessions
        have isSome : broker.savingSession.isSome = true :=
          chooseSession_isSome (.inr (List.ne_nil_of_mem present))
        obtain ⟨through, saves⟩ := Option.isSome_iff_exists.mp isSome
        have same := autoSave_same config marked now marked.isPossiblyModified
          (!config.alwaysSaveOnExit)
        rcases autoSave_forced config now (!config.alwaysSaveOnExit) (chosen.trans saves) with
          ⟨hasStorage, isLoaded, childIsAlive, possibly, after, command, sent⟩ | ⟨cannot, sent⟩
        · rw [sent] at same ⊢
          dsimp only at same ⊢
          refine ⟨same.member.trans member,
            .inl ⟨⟨present, ?_, ?_, ?_⟩, same.sessions.trans sessions, through, command, saves, rfl⟩⟩
          · have isLast : marked.lastEditableSession id = true := by simpa using last
            rw [isMarked] at isLast
            exact isLast
          · rw [isMarked] at hasStorage isLoaded childIsAlive
            exact ⟨hasStorage, isLoaded, childIsAlive⟩
          · rw [isMarked] at possibly
            exact possibly
        · rw [sent]
          dsimp only
          refine ⟨removal.2.1.trans member, .inr ⟨?_, by rw [removal.1, sessions], ?_⟩⟩
          · intro defers
            refine cannot ?_
            rw [isMarked]
            exact ⟨defers.canSave.1, defers.canSave.2.1, defers.canSave.2.2, defers.modified⟩
          · exact noRequest _ removal.2.2
  · rw [if_pos present]
    refine ⟨rfl, .inr ⟨fun defers => present defers.present,
      (List.erase_of_not_mem present).symm, fun _ => rfl⟩⟩

-----------------------------------------------------------------------------------------
-- Runs
-----------------------------------------------------------------------------------------

/-- Sessions, also those that wait, have ids that were used. -/
structure WellFormed (system : System S) : Prop where
  distinct : system.broker.sessions.Nodup
  sessions : ∀ id ∈ system.broker.sessions, id ∈ system.used
  pending : ∀ request ∈ system.pending, ∀ id, request.deferred = some id → id ∈ system.used
  handled : ∀ id ∈ system.handled, id ∈ system.used

/-- What a step that is no result does to the sessions and the saves under way. -/
structure QuietStep (system next : System S) : Prop where
  sessions : next.broker.sessions.Sublist system.broker.sessions
  used : next.used = system.used
  handled : next.handled = system.handled
  pending
    : ∀ request ∈ next.pending,
        request ∈ system.pending
        ∨ ∀ id, request.deferred = some id → id ∈ system.broker.sessions

/-- A quiet step keeps the system well formed. -/
theorem QuietStep.wellFormed {system next : System S} (quiet : QuietStep system next)
    (wellFormed : WellFormed system)
    : WellFormed next where
  distinct := wellFormed.distinct.sublist quiet.sessions
  sessions := by
    intro id member
    rw [quiet.used]
    exact wellFormed.sessions id (quiet.sessions.subset member)
  pending := by
    intro request member id deferred
    rw [quiet.used]
    rcases quiet.pending request member with old | new
    · exact wellFormed.pending request old id deferred
    · exact wellFormed.sessions id (new id deferred)
  handled := by
    rw [quiet.handled, quiet.used]
    exact wellFormed.handled

/-- A quiet step handles no answer, so all removals stay completed. -/
theorem QuietStep.completed {system next : System S} (quiet : QuietStep system next)
    (completed : Completed system)
    : Completed next := by
  intro id member inside
  rw [quiet.handled] at member
  exact completed id member (quiet.sessions.subset inside)

/-- A save request comes from a forwarded message. -/
theorem mem_saveRequests {deferred : Option S} {outputs : List (Output S)}
    {request : SaveRequest S} (member : request ∈ saveRequests deferred outputs)
    : request.deferred = deferred ∧ ∃ command, .forwardToChild request.through command ∈ outputs := by
  obtain ⟨output, inside, sent⟩ := List.mem_filterMap.mp member
  split at sent
  · obtain rfl := Option.some.inj sent
    exact ⟨rfl, _, inside⟩
  · cases sent

/-- Outputs of a broker with the same sessions. -/
theorem quietStep_send {system : System S} {broker : DocumentBroker S} {outputs : List (Output S)}
    (same : SameSessions system.broker broker)
    : QuietStep system (system.send none broker outputs) where
  sessions := by
    rw [System.send, same.sessions]
  used := rfl
  handled := rfl
  pending := by
    intro request member
    rcases List.mem_append.mp member with old | new
    · exact .inl old
    · refine .inr (fun id deferred => ?_)
      rw [(mem_saveRequests new).1] at deferred
      cases deferred

/-- Each session that waits is disconnected, and waits for a save through itself. -/
def Waits (system : System S) : Prop :=
  ∀ request ∈ system.pending, ∀ id,
    request.deferred = some id
    → request.through = id ∧ (system.broker.member id).isCloseFrame = true

/-- Who waits for a save still waits when more is sent. -/
theorem Waits.of_send {system : System S} {broker : DocumentBroker S} {outputs : List (Output S)}
    (waits : Waits system) (same : broker.member = system.broker.member)
    : Waits (system.send none broker outputs) := by
  intro request member id deferred
  rcases List.mem_append.mp member with old | new
  · simp only [System.send, same]
    exact waits request old id deferred
  · rw [(mem_saveRequests new).1] at deferred
    cases deferred

/-- Who waits for a save still waits when answers have come. -/
theorem Waits.of_sublist {system next : System S} (waits : Waits system)
    (pending : ∀ request ∈ next.pending, request ∈ system.pending)
    (same : next.broker.member = system.broker.member)
    : Waits next := by
  intro request member id deferred
  rw [same]
  exact waits request (pending request member) id deferred

/-- At first, nothing is pending and nothing was handled. -/
theorem Starts.wellFormed {system : System S} (starts : Starts system)
    : WellFormed system ∧ Completed system ∧ Waits system := by
  obtain ⟨sessions, pending, -, handled⟩ := starts
  refine ⟨⟨?_, ?_, ?_, ?_⟩, ?_, ?_⟩ <;>
    simp [sessions, pending, handled, Completed, Waits]

variable [LinearOrder S]

/-- A removed session is erased, or its removal waits for a save. -/
theorem quietStep_removeSession (config : Config) (now : Int) (id : S) (system : System S)
    : QuietStep system (system.removeSession config now id) := by
  obtain ⟨-, cases⟩ := removeSession_cases config system.broker now id
  have sublist : (system.broker.removeSession config now id).1.sessions.Sublist
      system.broker.sessions := by
    rcases cases with ⟨-, same, -⟩ | ⟨-, erased, -⟩
    · rw [same]
    · rw [erased]
      exact List.erase_sublist
  refine ⟨sublist, rfl, rfl, ?_⟩
  intro request member
  rcases List.mem_append.mp member with old | new
  · exact .inl old
  · refine .inr (fun other deferred => ?_)
    rw [(mem_saveRequests new).1] at deferred
    split at deferred
    · next inside =>
        obtain rfl := Option.some.inj deferred
        exact sublist.subset inside
    · cases deferred

/-- The steps other than additions and results. -/
def Event.isQuiet : Event S → Bool
  | .addSession .. | .saveResult .. => false
  | _ => true

/-- The steps that handle no answer, by cases on the events. -/
theorem quietStep {config : Config} {writer : Writer} {system next : System S} {event : Event S}
    (isQuiet : event.isQuiet = true) (step : system.step config writer event = some next)
    : QuietStep system next := by
  have unchanged (broker : DocumentBroker S)
      (sublist : broker.sessions.Sublist system.broker.sessions)
      : QuietStep system { system with broker := broker } :=
    ⟨sublist, rfl, rfl, fun request member => .inl member⟩
  cases event with
  | addSession | saveResult => cases isQuiet
  | update | userActivity | setModified =>
      cases step
      exact unchanged _ (List.Sublist.refl _)
  | requestSave =>
      cases step
      exact quietStep_send (sendUnoSave_same ..)
  | autoSave =>
      cases step
      exact quietStep_send (autoSave_same ..)
  | removeSession now id =>
      cases step
      exact quietStep_removeSession config now id system
  | disconnect now id =>
      cases step
      have quiet := quietStep_removeSession config now id system
      exact ⟨quiet.sessions, quiet.used, quiet.handled, quiet.pending⟩
  | saveToStorage id upload force =>
      cases step
      refine unchanged _ ?_
      rw [(saveToStorage_sessions config writer system.broker upload id true [] force).1]
      split
      · exact List.erase_sublist
      · exact List.Sublist.refl _
  | saveAsToStorage id upload saveAsPath isRename =>
      cases step
      refine unchanged _ ?_
      rw [DocumentBroker.saveAsToStorage, (saveToStorageInternal_same ..).sessions]

/-- A new session has an id that was not used. -/
theorem addSession_step {config : Config} {writer : Writer} {system next : System S} {id : S}
    {member : Member} (wellFormed : WellFormed system) (completed : Completed system)
    (step : system.step config writer (.addSession id member) = some next)
    : WellFormed next ∧ Completed next := by
  rw [System.step] at step
  split at step
  · cases step
  · next unused =>
      cases step
      have absent : id ∉ system.broker.sessions :=
        fun inside => unused (wellFormed.sessions id inside)
      have sessions
          : (system.broker.addSession id { member with isCloseFrame := false }).sessions
            = system.broker.sessions.orderedInsert (· ≤ ·) id := by
        rw [DocumentBroker.addSession, if_neg absent]
      have perm := List.perm_orderedInsert (· ≤ ·) id system.broker.sessions
      refine ⟨⟨?_, ?_, ?_, ?_⟩, ?_⟩
      · simp only [sessions]
        exact perm.nodup_iff.mpr (List.nodup_cons.mpr ⟨absent, wellFormed.distinct⟩)
      · simp only [sessions]
        intro other inside
        rcases List.mem_cons.mp (perm.mem_iff.mp inside) with rfl | old
        · exact List.mem_cons_self
        · exact List.mem_cons_of_mem id (wellFormed.sessions other old)
      · intro request pending other deferred
        exact List.mem_cons_of_mem id (wellFormed.pending request pending other deferred)
      · intro other handled
        exact List.mem_cons_of_mem id (wellFormed.handled other handled)
      · intro other handled inside
        simp only [sessions] at inside
        rcases List.mem_cons.mp (perm.mem_iff.mp inside) with rfl | old
        · exact unused (wellFormed.handled other handled)
        · exact completed other handled old

/-- The result of a save is handled: the session that waits for it is gone exactly if the
result removes it.
-/
theorem saveResult_step {config : Config} {writer : Writer} {system next : System S}
    {request : SaveRequest S} {upload : Upload} {success : Bool} {result : Text}
    (wellFormed : WellFormed system) (completed : Completed system)
    (step
      : system.step config writer (.saveResult request upload success result) = some next)
    : WellFormed next
      ∧ (Completed next ↔ ResultRemoves system (.saveResult request upload success result)) := by
  rw [System.step] at step
  split at step
  · cases step
  · next isPending =>
      have inPending : request ∈ system.pending := not_not.mp isPending
      have fewer : ∀ other ∈ system.pending.erase request, other ∈ system.pending :=
        fun other member => List.mem_of_mem_erase member
      dsimp only at step
      split at step
      · next gone =>
          cases step
          refine ⟨⟨wellFormed.distinct, wellFormed.sessions,
            fun other member => wellFormed.pending other (fewer other member),
            wellFormed.handled⟩, ?_⟩
          exact ⟨fun _ id _ there => absurd there gone, fun _ => completed⟩
      · next there =>
          have inSessions : request.through ∈ system.broker.sessions := not_not.mp there
          cases step
          obtain ⟨sessions, -⟩ := saveToStorage_sessions config writer system.broker upload
            request.through success result false
          have sublist
              : (system.broker.saveToStorage config writer upload request.through success result
                  false).broker.sessions.Sublist system.broker.sessions := by
            rw [sessions]
            split
            · exact List.erase_sublist
            · exact List.Sublist.refl _
          refine ⟨⟨wellFormed.distinct.sublist sublist, ?_, ?_, ?_⟩, ?_⟩
          · exact fun id member => wellFormed.sessions id (sublist.subset member)
          · exact fun other member => wellFormed.pending other (fewer other member)
          · intro id member
            rcases List.mem_append.mp member with new | old
            · exact wellFormed.pending request inPending id (Option.mem_toList.mp new)
            · exact wellFormed.handled id old
          · constructor
            · intro completes id deferred _ present
              have removed := completes id
                (List.mem_append_left _ (Option.mem_toList.mpr deferred))
              rw [sessions] at removed
              split at removed
              · next closes =>
                  have same : request.through = id := by
                    by_contra differs
                    exact removed ((List.mem_erase_of_ne (Ne.symm differs)).mpr present)
                  subst same
                  exact ⟨rfl, closes.imp_right And.right⟩
              · exact absurd present removed
            · intro removes id member inside
              rcases List.mem_append.mp member with new | old
              · have present := sublist.subset inside
                obtain ⟨rfl, closes⟩ :=
                  removes id (Option.mem_toList.mp new) inSessions present
                simp only [sessions] at inside
                rw [if_pos (closes.imp_right (fun closed => ⟨inSessions, closed⟩))] at inside
                exact wellFormed.distinct.not_mem_erase inside
              · exact completed id old (sublist.subset inside)

/-- A removal that needs a save asks for it. -/
theorem removeSession_pending (config : Config) (now : Int) (id : S) (system : System S)
    : (system.removeSession config now id).pending
      = system.pending
        ++ saveRequests
          (if id ∈ (system.broker.removeSession config now id).1.sessions then some id else none)
          (system.broker.removeSession config now id).2 :=
  rfl

/-- Without a deferred removal, no save is sent. -/
theorem Waits.of_removeSession {config : Config} {system : System S} (waits : Waits system)
    (now : Int) {id : S} (atOnce : ¬ system.broker.Defers id)
    : Waits (system.removeSession config now id) := by
  obtain ⟨same, cases⟩ := removeSession_cases config system.broker now id
  rcases cases with ⟨defers, -⟩ | ⟨-, -, noRequest⟩
  · exact absurd defers atOnce
  · refine waits.of_sublist (fun request member => ?_) same
    rw [removeSession_pending] at member
    rcases List.mem_append.mp member with old | new
    · exact old
    · rw [noRequest] at new
      exact absurd new List.not_mem_nil

/-- A close frame marks its own session. -/
theorem closeFrame_isCloseFrame (system : System S) (id other : S)
    : ((system.closeFrame id).broker.member other).isCloseFrame
      = (decide (other = id) || (system.broker.member other).isCloseFrame) := by
  by_cases same : other = id
  · subst same
    simp [System.closeFrame]
  · simp [System.closeFrame, same]

/-- A disconnected session waits for a save through itself. -/
theorem Waits.of_disconnect {config : Config} {system : System S} (waits : Waits system)
    (now : Int) {id : S}
    (itself : system.broker.Defers id → system.broker.savingSession = some id)
    : Waits ((system.removeSession config now id).closeFrame id) := by
  obtain ⟨same, cases⟩ := removeSession_cases config system.broker now id
  intro request member other deferred
  rw [closeFrame_isCloseFrame]
  have sameMember
      : (system.removeSession config now id).broker.member = system.broker.member :=
    same
  rw [sameMember]
  have inside : request ∈ (system.removeSession config now id).pending := member
  rw [removeSession_pending] at inside
  rcases List.mem_append.mp inside with old | new
  · obtain ⟨through, closed⟩ := waits request old other deferred
    exact ⟨through, by rw [closed, Bool.or_true]⟩
  · obtain ⟨deferredIs, command, sent⟩ := mem_saveRequests new
    rw [deferredIs] at deferred
    split at deferred
    · obtain rfl := Option.some.inj deferred
      rcases cases with ⟨defers, -, through, message, saves, outputs⟩ | ⟨-, -, noRequest⟩
      · rw [outputs] at sent
        obtain ⟨rfl, -⟩ := Output.forwardToChild.inj (List.mem_singleton.mp sent)
        rw [itself defers] at saves
        obtain rfl := Option.some.inj saves
        exact ⟨rfl, by rw [decide_eq_true rfl, Bool.true_or]⟩
      · rw [noRequest] at new
        exact absurd new List.not_mem_nil
    · cases deferred

/-- One step, by cases on the events: a deferred removal waits until the answer to its save has
come.
-/
theorem waits_step {config : Config} {writer : Writer} {system next : System S}
    {event : Event S} (wellFormed : WellFormed system) (waits : Waits system)
    (itself : DefersToItself system event) (step : system.step config writer event = some next)
    : Waits next := by
  cases event with
  | addSession id member =>
      rw [System.step] at step
      split at step
      · cases step
      · next unused =>
          cases step
          intro request pending other deferred
          obtain ⟨through, closed⟩ := waits request pending other deferred
          have differs : other ≠ id := by
            rintro rfl
            exact unused (wellFormed.pending request pending other deferred)
          refine ⟨through, ?_⟩
          simp only [DocumentBroker.addSession]
          split
          · exact closed
          · simp only [Function.update_of_ne differs]
            exact closed
  | update id =>
      cases step
      intro request pending other deferred
      obtain ⟨through, closed⟩ := waits request pending other deferred
      refine ⟨through, ?_⟩
      by_cases same : other = id
      · subst same
        simpa using closed
      · simpa [Function.update_of_ne same] using closed
  | userActivity | setModified =>
      cases step
      exact waits
  | requestSave =>
      cases step
      exact waits.of_send (sendUnoSave_same ..).member
  | autoSave =>
      cases step
      exact waits.of_send (autoSave_same ..).member
  | removeSession now id =>
      cases step
      exact waits.of_removeSession now itself
  | disconnect now id =>
      cases step
      exact waits.of_disconnect now itself
  | saveResult request upload success result =>
      rw [System.step] at step
      split at step
      · cases step
      · dsimp only at step
        split at step <;> cases step
        · exact waits.of_sublist (fun other member => List.mem_of_mem_erase member) rfl
        · exact waits.of_sublist (fun other member => List.mem_of_mem_erase member)
            (saveToStorage_sessions ..).2
  | saveToStorage id upload force =>
      cases step
      exact waits.of_sublist (fun _ member => member) (saveToStorage_sessions ..).2
  | saveAsToStorage id upload saveAsPath isRename =>
      cases step
      exact waits.of_sublist (fun _ member => member) (saveToStorageInternal_same ..).member

/-- A save of a session that waits removes it. -/
theorem Waits.resultRemoves {system next : System S} {config : Config} {writer : Writer}
    {event : Event S} (waits : Waits system) (step : system.step config writer event = some next)
    : ResultRemoves system event := by
  cases event with
  | saveResult request upload success result =>
      intro id deferred _ _
      rw [System.step] at step
      split at step
      · cases step
      · next isPending =>
          obtain ⟨through, closed⟩ := waits request (not_not.mp isPending) id deferred
          exact ⟨through, .inr closed⟩
  | _ => exact trivial

/-- One step leads to a state in which the sessions whose save was handled are gone exactly
if its result removes the session that waits for it.
-/
theorem completed_step {config : Config} {writer : Writer} {system next : System S}
    {event : Event S} (wellFormed : WellFormed system) (completed : Completed system)
    (step : system.step config writer event = some next)
    : WellFormed next ∧ (Completed next ↔ ResultRemoves system event) := by
  cases isQuiet : event.isQuiet with
  | true =>
      have quiet := quietStep isQuiet step
      refine ⟨quiet.wellFormed wellFormed, ?_⟩
      have meets : ResultRemoves system event := by
        cases event with
        | saveResult => cases isQuiet
        | _ => exact trivial
      exact ⟨fun _ => meets, fun _ => quiet.completed completed⟩
  | false =>
      cases event with
      | addSession id member =>
          obtain ⟨next', completed'⟩ := addSession_step wellFormed completed step
          exact ⟨next', fun _ => trivial, fun _ => completed'⟩
      | saveResult => exact saveResult_step wellFormed completed step
      | _ => cases isQuiet

/-- In a run of a document, every session whose removal waited for a save is gone once the
result of the save was handled, exactly if every result removes the session that waits for
it. That is so if only disconnected sessions wait, each one for a save that is issued through
it.
-/
theorem run_completes_iff {config : Config} {writer : Writer} {system final : System S}
    {events : List (Event S)} (starts : Starts system)
    (ran : stepRun (System.step config writer) system events = some final)
    : (AllStates (System.step config writer) Completed system events
        ↔ AllSteps (System.step config writer) ResultRemoves system events)
      ∧ (AllSteps (System.step config writer) DefersToItself system events
          → AllStates (System.step config writer) Completed system events) := by
  obtain ⟨wellFormed, completed, waits⟩ := starts.wellFormed
  constructor
  · have keeps
        : ∀ (state : System S) (event : Event S) next,
            (WellFormed state ∧ Completed state)
            → ResultRemoves state event
            → state.step config writer event = some next
            → WellFormed next ∧ Completed next := by
      intro state event next invariant meets step
      obtain ⟨next', iff⟩ := completed_step invariant.1 invariant.2 step
      exact ⟨next', iff.mpr meets⟩
    refine allStates_iff_allSteps keeps (fun state invariant => invariant.2) ?_
      ⟨wellFormed, completed⟩ ran
    intro state event next invariant step completes
    exact (completed_step invariant.1 invariant.2 step).2.mp completes
  · intro all done rest reached split reaches
    have keeps
        : ∀ (state : System S) (event : Event S) next,
            (WellFormed state ∧ Completed state ∧ Waits state)
            → DefersToItself state event
            → state.step config writer event = some next
            → WellFormed next ∧ Completed next ∧ Waits next := by
      intro state event next invariant itself step
      obtain ⟨next', iff⟩ := completed_step invariant.1 invariant.2.1 step
      exact ⟨next', iff.mpr (invariant.2.2.resultRemoves step),
        waits_step invariant.1 invariant.2.2 itself step⟩
    have invariant := allStates_of_meets keeps ⟨wellFormed, completed, waits⟩ all done rest reached
      split reaches
    exact invariant.2.1

/-- A modified document without sessions. -/
def emptySystem : System Nat where
  broker := openDocument [] (fun _ => editor)
  pending := []
  used := []
  handled := []

/-- An editor and a further session; the editor disconnects, and the save goes through the
given session.
-/
def editorLeaves (other : Member) (through : Nat) : List (Event Nat) :=
  [.addSession 0 editor, .addSession 1 other, .disconnect 5 0,
    .saveResult ⟨through, some 0⟩ (uploadWith 7 .ok) true []]

/-- A viewer joins the editor, who leaves. -/
theorem run_completes_iff_viewer
    : let step := System.step plainConfig plainWriter
      let events := editorLeaves { editor with isReadOnly := true } 0
      (AllStates step Completed emptySystem events ↔ AllSteps step ResultRemoves emptySystem events)
      ∧ (AllSteps step DefersToItself emptySystem events
          → AllStates step Completed emptySystem events) :=
  have ran
      : stepRun (System.step plainConfig plainWriter) emptySystem
          (editorLeaves { editor with isReadOnly := true } 0)
        = some _ :=
    rfl
  run_completes_iff ⟨rfl, rfl, rfl, rfl⟩ ran

/-- The other session is read-only, but of the document's owner: the save goes through it, and
the session that waits for the save stays.
-/
theorem editor_stays
    : ∃ final,
        stepRun (System.step plainConfig plainWriter) emptySystem
          (editorLeaves { editor with isReadOnly := true, isDocumentOwner := true } 1)
          = some final
        ∧ 0 ∈ final.handled
        ∧ 0 ∈ final.broker.sessions
        ∧ (final.broker.member 0).isCloseFrame = true
        ∧ final.pending = []
        ∧ ¬ Completed final := by
  refine ⟨_, rfl, by decide, by decide, by decide, by decide, ?_⟩
  intro completed
  exact completed 0 (by decide) (by decide)

end NdcOdfWeb.Broker
