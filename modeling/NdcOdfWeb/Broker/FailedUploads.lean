import NdcOdfWeb.Broker.Events

/-! A failed upload is tried again: what decides about an upload stays as it was. -/

namespace NdcOdfWeb.Broker

open NdcOdfWeb.Foundation

/-- What decides whether an upload is needed. -/
structure UploadState where
  isModified : Bool
  lastFileModifiedTime : Int
  lastSaveTime : Int
  documentLastModifiedTime : Int
  tileCacheLastModified : Int
deriving DecidableEq, Repr

variable {S : Type}

def DocumentBroker.uploadState (broker : DocumentBroker S) : UploadState where
  isModified := broker.isModified
  lastFileModifiedTime := broker.lastFileModifiedTime
  lastSaveTime := broker.lastSaveTime
  documentLastModifiedTime := broker.documentLastModifiedTime
  tileCacheLastModified := broker.tileCacheLastModified

variable {config : Config} {writer : Writer}

/-- An upload that fails changes nothing that decides about the next one. -/
theorem uploadFile_failed [DecidableEq S] (writer : Writer) (broker : DocumentBroker S)
    (session : S) (isSaveAs isRename : Bool) {upload : Upload}
    (failed : upload.answer.status ≠ .ok)
    : (broker.uploadFile writer upload session isSaveAs isRename).result = false
      ∧ (broker.uploadFile writer upload session isSaveAs isRename).broker.uploadState
        = broker.uploadState := by
  unfold DocumentBroker.uploadFile
  dsimp only
  split
  · next ok => exact absurd ok failed
  · exact ⟨rfl, rfl⟩
  · exact ⟨rfl, rfl⟩

/-- Every branch has sent the file. -/
theorem uploadFile_asked [DecidableEq S] (broker : DocumentBroker S) (upload : Upload)
    (session : S) (isSaveAs isRename : Bool)
    : (broker.uploadFile writer upload session isSaveAs isRename).asked = true := by
  unfold DocumentBroker.uploadFile
  dsimp only
  split <;> rfl

/-- The storage is asked for a changed file, if its session is there and the save succeeded or
is forced.
-/
theorem saveToStorageInternal_eq_uploadFile [DecidableEq S] {broker : DocumentBroker S}
    {upload : Upload} {session : S} {success force : Bool} {result : Text}
    (present : session ∈ broker.sessions) (saves : success = true ∨ force = true)
    (changed : upload.fileModifiedTime ≠ broker.lastFileModifiedTime)
    : broker.saveToStorageInternal writer upload session success result [] false force
      = DocumentBroker.uploadFile { broker with lastSaveResponseTime := upload.now } writer upload
          session false false := by
  have notFailed : ¬ ((!success && !force) = true) := by
    rcases saves with rfl | rfl
    · exact Bool.false_ne_true
    · rw [Bool.not_true, Bool.and_false]
      exact Bool.false_ne_true
  have notUnmodified
      : ¬ ((!success && decide (result = "unmodified".toList) && !false && !force) = true) := by
    rcases saves with rfl | rfl
    · exact Bool.false_ne_true
    · rw [Bool.not_true, Bool.and_false]
      exact Bool.false_ne_true
  have notSkipped
      : ¬ ((!decide (([] : Text) ≠ [])
          && decide (upload.fileModifiedTime = broker.lastFileModifiedTime) && !false) = true) := by
    rw [decide_eq_false changed, Bool.and_false]
    exact Bool.false_ne_true
  unfold DocumentBroker.saveToStorageInternal
  dsimp only
  rw [if_neg notUnmodified, if_neg (not_not.mpr present), if_neg notFailed, if_neg notSkipped]
  rfl

/-- The three guards in front of the upload, by cases on them. -/
theorem saveToStorageInternal_asked_iff [DecidableEq S] {broker : DocumentBroker S}
    {upload : Upload} {session : S} {success force : Bool} {result : Text}
    : (broker.saveToStorageInternal writer upload session success result [] false force).asked
        = true
      ↔ (session ∈ broker.sessions ∧ (success = true ∨ force = true)
        ∧ upload.fileModifiedTime ≠ broker.lastFileModifiedTime) := by
  constructor
  · intro asked
    unfold DocumentBroker.saveToStorageInternal at asked
    dsimp only at asked
    split at asked
    · cases asked
    · split at asked
      · cases asked
      · next present =>
          split at asked
          · cases asked
          · next saves =>
              split at asked
              · cases asked
              · next changed =>
                  refine ⟨not_not.mp present, ?_, fun same => changed ?_⟩
                  · cases success <;> cases force <;> simp at saves ⊢
                  · rw [same]
                    simp
  · rintro ⟨present, saves, changed⟩
    rw [saveToStorageInternal_eq_uploadFile present saves changed]
    exact uploadFile_asked _ _ _ _ _

/-- Where LOK did not save an unmodified document, the call succeeds without an upload. -/
theorem saveToStorageInternal_unmodified [DecidableEq S] (broker : DocumentBroker S)
    (upload : Upload) (session : S)
    : (broker.saveToStorageInternal writer upload session false "unmodified".toList [] false
        false).result = true := by
  unfold DocumentBroker.saveToStorageInternal
  dsimp only
  rw [if_pos (by decide)]

/-- Only the sessions change. -/
theorem removeSessionInternal_eq [DecidableEq S] (broker : DocumentBroker S) (id : S)
    : ∃ sessions, (broker.removeSessionInternal id).1 = { broker with sessions := sessions } := by
  unfold DocumentBroker.removeSessionInternal
  split
  · exact ⟨_, rfl⟩
  · exact ⟨broker.sessions, rfl⟩

/-- Only the sessions change. -/
theorem removeIfClosed_eq [DecidableEq S] (broker : DocumentBroker S) (id : S)
    : ∃ sessions, (broker.removeIfClosed id).1 = { broker with sessions := sessions } := by
  unfold DocumentBroker.removeIfClosed
  split
  · exact removeSessionInternal_eq broker id
  · exact ⟨broker.sessions, rfl⟩

/-- Behind the upload, only sessions go and the broker may stop. -/
theorem saveToStorage_eq [DecidableEq S] (config : Config) (writer : Writer)
    (broker : DocumentBroker S) (upload : Upload) (session : S) (success : Bool) (result : Text) (force : Bool)
    : let inner :=
        broker.saveToStorageInternal writer upload session success result [] false
          (broker.isForced config force)
      let outcome := broker.saveToStorage config writer upload session success result force
      outcome.asked = inner.asked ∧ outcome.result = inner.result
      ∧ ∃ sessions stop,
          outcome.broker = { inner.broker with sessions := sessions, stop := stop } := by
  refine ⟨rfl, rfl, ?_⟩
  unfold DocumentBroker.saveToStorage
  dsimp only
  obtain ⟨sessions, removed⟩ := removeIfClosed_eq
    (broker.saveToStorageInternal writer upload session success result [] false
      (broker.isForced config force)).broker session
  rw [removed]
  exact ⟨sessions, _, rfl⟩

-----------------------------------------------------------------------------------------
-- The timestamp over a run
-----------------------------------------------------------------------------------------

/-- The event is an upload of the document that the storage takes. -/
def Event.stores : Event S → Bool
  | .saveResult _ upload _ _ | .saveToStorage _ upload _ => upload.answer.status = .ok
  | .saveAsToStorage _ upload saveAsPath isRename =>
      upload.answer.status = .ok && saveAsPath = [] && !isRename
  | _ => false

/-- The event may send a save to the kit. -/
def Event.maySave : Event S → Bool
  | .requestSave .. | .autoSave .. | .removeSession .. | .disconnect .. => true
  | _ => false

/-- Only a stored document gets a new time. -/
theorem uploadFile_fileTime [DecidableEq S] {broker : DocumentBroker S} {upload : Upload}
    {session : S} {isSaveAs isRename : Bool}
    (notStored : ¬ (upload.answer.status = .ok ∧ isSaveAs = false ∧ isRename = false))
    : (broker.uploadFile writer upload session isSaveAs isRename).broker.lastFileModifiedTime
      = broker.lastFileModifiedTime := by
  unfold DocumentBroker.uploadFile
  dsimp only
  split
  · next ok =>
      have other : ¬ ((!isSaveAs && !isRename) = true) := by
        simpa [ok] using notStored
      rw [if_neg other]
  · rfl
  · rfl

/-- The branches without an upload keep the time. -/
theorem saveToStorageInternal_fileTime [DecidableEq S] {broker : DocumentBroker S}
    {upload : Upload} {session : S} {success isRename force : Bool} {result saveAsPath : Text}
    (notStored : ¬ (upload.answer.status = .ok ∧ saveAsPath = [] ∧ isRename = false))
    : (broker.saveToStorageInternal writer upload session success result saveAsPath isRename
        force).broker.lastFileModifiedTime
      = broker.lastFileModifiedTime := by
  unfold DocumentBroker.saveToStorageInternal
  dsimp only
  split
  · rfl
  · split
    · rfl
    · split
      · rfl
      · split
        · rfl
        · refine uploadFile_fileTime ?_
          simpa using notStored

/-- The removal of sessions behind the upload keeps the time. -/
theorem saveToStorage_fileTime [DecidableEq S] {broker : DocumentBroker S} {upload : Upload}
    {session : S} {success force : Bool} {result : Text} (notStored : upload.answer.status ≠ .ok)
    : (broker.saveToStorage config writer upload session success result
        force).broker.lastFileModifiedTime
      = broker.lastFileModifiedTime := by
  obtain ⟨-, -, sessions, stop, after⟩ :=
    saveToStorage_eq config writer broker upload session success result force
  rw [after]
  exact saveToStorageInternal_fileTime (fun stored => notStored stored.1)

/-- A save command changes no time of the file. -/
theorem sendUnoSave_fileTime [DecidableEq S] (broker : DocumentBroker S) (now : Int) (session : S)
    (dontTerminateEdit dontSaveIfUnmodified isAutosave isExitSave : Bool) (extendedData : Text)
    : let after :=
        (broker.sendUnoSave now session dontTerminateEdit dontSaveIfUnmodified isAutosave
          isExitSave extendedData).1
      after.lastFileModifiedTime = broker.lastFileModifiedTime
      ∨ after.lastFileModifiedTime = 0 := by
  unfold DocumentBroker.sendUnoSave
  split
  · exact .inr rfl
  · exact .inl rfl

/-- The time is kept or invalidated, by the branches of the source. -/
theorem autoSave_fileTime [DecidableEq S] (config : Config) (broker : DocumentBroker S)
    (now : Int) (force dontSaveIfUnmodified : Bool)
    : let after := (broker.autoSave config now force dontSaveIfUnmodified).1
      after.lastFileModifiedTime = broker.lastFileModifiedTime
      ∨ after.lastFileModifiedTime = 0 := by
  unfold DocumentBroker.autoSave
  split
  · exact .inl rfl
  · split
    · exact .inl rfl
    · split
      · exact sendUnoSave_fileTime ..
      · split
        · exact sendUnoSave_fileTime ..
        · exact .inl rfl

/-- The last editor's save may invalidate the time. -/
theorem removeSession_fileTime [DecidableEq S] (broker : DocumentBroker S) (now : Int) (id : S)
    : let after := (broker.removeSession config now id).1
      after.lastFileModifiedTime = broker.lastFileModifiedTime
      ∨ after.lastFileModifiedTime = 0 := by
  unfold DocumentBroker.removeSession
  split
  · exact .inl rfl
  · dsimp only
    split
    · obtain ⟨sessions, removed⟩ := removeSessionInternal_eq
        { broker with markToDestroy := decide (broker.sessions.length ≤ 1) } id
      rw [removed]
      exact .inl rfl
    · have saved := autoSave_fileTime config
        { broker with markToDestroy := decide (broker.sessions.length ≤ 1) } now
        (DocumentBroker.isPossiblyModified
          { broker with markToDestroy := decide (broker.sessions.length ≤ 1) })
        (!config.alwaysSaveOnExit)
      split
      · next same =>
          rw [same] at saved
          exact saved
      · next same =>
          rw [same] at saved
          dsimp only at saved ⊢
          obtain ⟨sessions, removed⟩ := removeSessionInternal_eq _ id
          rw [removed]
          exact saved

/-- No file has the invalidated time 0. -/
theorem ne_of_invalidated {before after time : Int} (changed : before ≠ time)
    (timed : time ≠ 0) (invalidated : after = before ∨ after = 0)
    : after ≠ time := by
  rcases invalidated with same | zero
  · exact same ▸ changed
  · exact zero ▸ timed.symm

/-- A step leaves the file's timestamp different from the broker's, unless the storage takes
the document, or a save is sent while the file's timestamp is the epoch.
-/
theorem step_fileTime [LinearOrder S] {system next : System S} {event : Event S} {time : Int}
    (changed : system.broker.lastFileModifiedTime ≠ time) (notStored : event.stores = false)
    (timed : time ≠ 0 ∨ event.maySave = false)
    (step : system.step config writer event = some next)
    : next.broker.lastFileModifiedTime ≠ time := by
  cases event with
  | addSession id member =>
      rw [System.step] at step
      split at step
      · cases step
      · cases step
        simp only [DocumentBroker.addSession]
        split <;> exact changed
  | update | userActivity | setModified =>
      cases step
      exact changed
  | requestSave =>
      cases step
      exact ne_of_invalidated changed (timed.resolve_right (fun same => nomatch same))
        (sendUnoSave_fileTime ..)
  | autoSave =>
      cases step
      exact ne_of_invalidated changed (timed.resolve_right (fun same => nomatch same))
        (autoSave_fileTime ..)
  | removeSession | disconnect =>
      cases step
      exact ne_of_invalidated changed (timed.resolve_right (fun same => nomatch same))
        (removeSession_fileTime ..)
  | saveResult request upload success result =>
      rw [System.step] at step
      split at step
      · cases step
      · dsimp only at step
        split at step
        · cases step
          exact changed
        · cases step
          have failed : upload.answer.status ≠ .ok := of_decide_eq_false notStored
          simp only [saveToStorage_fileTime failed]
          exact changed
  | saveToStorage id upload force =>
      cases step
      have failed : upload.answer.status ≠ .ok := of_decide_eq_false notStored
      simp only [saveToStorage_fileTime failed]
      exact changed
  | saveAsToStorage id upload saveAsPath isRename =>
      cases step
      have other : ¬ (upload.answer.status = .ok ∧ saveAsPath = [] ∧ isRename = false) := by
        rintro ⟨ok, own, isSave⟩
        simp [Event.stores, ok, own, isSave] at notStored
      simp only [DocumentBroker.saveAsToStorage, saveToStorageInternal_fileTime other]
      exact changed

/-- A failed upload leaves what decides about an upload as it was. After any run in which the
storage does not take the document, a call for the same file asks the storage again, if its
session is there and the save succeeded or is forced; a call for a save that did not succeed
asks for nothing, and returns true where the document was unmodified.
-/
theorem failed_upload_retries [LinearOrder S] (config : Config) {broker : DocumentBroker S}
    {upload : Upload} {session : S} {success force : Bool} {result : Text}
    (asked
      : (broker.saveToStorageInternal writer upload session success result [] false force).asked
        = true)
    (failed : upload.answer.status ≠ .ok)
    : let outcome :=
        broker.saveToStorageInternal writer upload session success result [] false force
      outcome.result = false
      ∧ outcome.broker.uploadState = broker.uploadState
      ∧ ∀ (system later : System S) (events : List (Event S)),
          system.broker = outcome.broker
          → stepRun (System.step config writer) system events = some later
          → (∀ event ∈ events, event.stores = false)
          → (upload.fileModifiedTime ≠ 0 ∨ ∀ event ∈ events, event.maySave = false)
          → ∀ (again : Upload) (id : S) (saved forces : Bool) (message : Text),
              again.fileModifiedTime = upload.fileModifiedTime
              → let retried :=
                  later.broker.saveToStorage config writer again id saved message forces
                (retried.asked = true
                  ↔ (id ∈ later.broker.sessions
                    ∧ (saved = true ∨ later.broker.isForced config forces = true)))
                ∧ (saved = false
                  → later.broker.isForced config forces = false
                  → retried.asked = false
                    ∧ (message = "unmodified".toList → retried.result = true)) := by
  obtain ⟨present, saves, changed⟩ := saveToStorageInternal_asked_iff.mp asked
  rw [saveToStorageInternal_eq_uploadFile present saves changed]
  obtain ⟨refused, same⟩ := uploadFile_failed writer
    { broker with lastSaveResponseTime := upload.now } session false false failed
  refine ⟨refused, same, ?_⟩
  intro system later events starts ran notStored timed again id saved forces message sameFile
  have before : system.broker.lastFileModifiedTime ≠ upload.fileModifiedTime := by
    rw [starts]
    have unchanged := congrArg UploadState.lastFileModifiedTime same
    exact fun time => changed (time.symm.trans unchanged)
  have steps
      : AllSteps (System.step config writer)
          (fun _ event =>
            event.stores = false ∧ (upload.fileModifiedTime ≠ 0 ∨ event.maySave = false))
          system events := by
    rintro done event rest reached rfl -
    have member : event ∈ done ++ event :: rest :=
      List.mem_append_right _ List.mem_cons_self
    exact ⟨notStored event member, timed.imp_right (fun none' => none' event member)⟩
  have keeps := allStates_of_meets
    (fun state event next changed' meets step =>
      step_fileTime changed' meets.1 meets.2 step) before steps
  have after : later.broker.lastFileModifiedTime ≠ upload.fileModifiedTime :=
    keeps events [] later (List.append_nil events).symm ran
  obtain ⟨sameAsked, sameResult, -⟩ :=
    saveToStorage_eq config writer later.broker again id saved message forces
  dsimp only
  rw [sameAsked, sameResult]
  have asks
      : (later.broker.saveToStorageInternal writer again id saved message [] false
            (later.broker.isForced config forces)).asked
          = true
        ↔ _ :=
    saveToStorageInternal_asked_iff
  rw [sameFile] at asks
  refine ⟨asks.trans ⟨fun asks => ⟨asks.1, asks.2.1⟩, fun asks => ⟨asks.1, asks.2, after.symm⟩⟩,
    ?_⟩
  intro notSaved notForced
  refine ⟨?_, fun unmodified => ?_⟩
  · by_contra asked
    rcases (asks.mp (Bool.not_eq_false _ |>.mp asked)).2.1 with saves | forces
    · exact Bool.false_ne_true (notSaved.symm.trans saves)
    · exact Bool.false_ne_true (notForced.symm.trans forces)
  · rw [notSaved, notForced, unmodified]
    exact saveToStorageInternal_unmodified later.broker again id

/-- A document with the given sessions. -/
def openDocument (sessions : List Nat) (member : Nat → Member) : DocumentBroker Nat where
  sessions := sessions
  member := member
  hasStorage := true
  isLoaded := true
  childIsAlive := true
  isModified := true
  markToDestroy := false
  stop := false
  documentChangedInStorage := false
  lastActivityTime := 0
  lastSaveTime := 0
  lastSaveRequestTime := 0
  lastSaveResponseTime := 0
  lastFileModifiedTime := 0
  documentLastModifiedTime := 0
  storageModifiedTime := 0
  storageIsUserModified := true
  storageIsAutosave := false
  storageIsExitSave := false
  storageExtendedData := []
  tileCacheLastModified := 0
  tileCacheUnsavedChanges := true

def editor : Member where
  isReadOnly := false
  isViewLoaded := true
  isDocumentOwner := false
  isCloseFrame := false

def plainWriter : Writer where
  normalizeUrl url := url
  encode text := text
  anonymizeUrl url := url
  showTime := showInt

def plainConfig : Config where
  alwaysSaveOnExit := false
  idleSaveDurationMs := 30000
  autoSaveDurationMs := 300000

/-- An upload of a file of the given time that the storage answers with a status. -/
def uploadWith (fileModifiedTime : Int) (status : SaveStatus) : Upload where
  now := 1
  fileModifiedTime := fileModifiedTime
  answer := ⟨status, [], [], [], 0⟩

/-- One session, and a storage whose disk is full. -/
theorem failed_upload_retries_diskFull
    : let broker := openDocument [0] (fun _ => editor)
      let outcome := broker.saveToStorageInternal plainWriter (uploadWith 5 .diskFull) 0 true []
        [] false false
      outcome.result = false
      ∧ outcome.broker.uploadState = broker.uploadState
      ∧ ((outcome.broker.saveToStorage plainConfig plainWriter (uploadWith 5 .ok) 0 true []
            false).asked = true
          ↔ (0 ∈ outcome.broker.sessions
            ∧ (true = true ∨ outcome.broker.isForced plainConfig false = true)))
      ∧ (outcome.broker.saveToStorage plainConfig plainWriter (uploadWith 5 .ok) 0 false
          "unmodified".toList false).result = true := by
  have asked
      : ((openDocument [0] (fun _ => editor)).saveToStorageInternal plainWriter
          (uploadWith 5 .diskFull) 0 true [] [] false false).asked = true := by
    decide +kernel
  have failed : (uploadWith 5 .diskFull).answer.status ≠ .ok := by decide
  obtain ⟨refused, same, retries⟩ := failed_upload_retries plainConfig asked failed
  have again := retries ⟨_, [], [], []⟩ _ [] rfl rfl (fun _ member => absurd member List.not_mem_nil)
    (.inr fun _ member => absurd member List.not_mem_nil) (uploadWith 5 .ok) 0
  exact ⟨refused, same, (again true false [] rfl).1,
    ((again false false "unmodified".toList rfl).2 rfl (by decide +kernel)).2 rfl⟩

/-- After a failed upload, a call with the result that the document is unmodified returns
true, and the storage is not asked again.
-/
theorem failed_upload_unmodified
    : let broker := openDocument [0] (fun _ => editor)
      let outcome := broker.saveToStorageInternal plainWriter (uploadWith 5 .failed) 0 true []
        [] false false
      let again := outcome.broker.saveToStorage plainConfig plainWriter (uploadWith 5 .ok) 0
        false "unmodified".toList false
      outcome.asked = true ∧ outcome.result = false ∧ again.asked = false ∧ again.result = true := by
  decide +kernel

end NdcOdfWeb.Broker
