import NdcOdfWeb.Protocol.TrimmedTokens
import NdcOdfWeb.Sessions.ClientMessages
import NdcOdfWeb.Sessions.Credentials

/-! What a read-only session, or one without copying, can reach with its messages. -/

namespace NdcOdfWeb.Sessions

open NdcOdfWeb.Foundation
open NdcOdfWeb.Protocol

/-- Whether `ChildSession` changes the document, its parts or a stored copy for a command. -/
def Command.changes (tokens : List Text) : Command → Bool
  | .paste | .insertfile | .insertpicture | .changepicture | .key | .textinput | .windowkey
  | .mouse | .windowmouse | .windowcommand | .selectgraphic | .outlinestate | .signdocument
  | .saveas => true
  | .uno | .runmacroCommand => tokens.length > 1
  | .moveselectedclientparts =>
      tokens[1]?.any (fun token => (getTokenInteger token "position".toList 0).1)
  | _ => false

/-- The command of a message, with its tokens; both processes cut it in the same way. -/
def messageCommand (message : Text) : Option (Command × List Text) :=
  let tokens := tokenize ' ' (getFirstLine message)
  tokens.head?.bind (fun name => (commandOf name).map (·, tokens))

/-- Whether the kit changes something for a message. -/
def kitChanges (message : Text) : Bool :=
  (messageCommand message).any (fun (command, tokens) => command.changes tokens)

/-- Whether a message asks for a change in the kit, or in wsd for a save, an upload, a rename, a
mark as modified, or the end of the document or of a session, which saves.
-/
def asksForChange (message : Text) : Bool :=
  (messageCommand message).any (fun (command, tokens) =>
    match command with
    | .setmodified | .save | .savetostorage | .renamefile | .closedocument | .removesession => true
    | .versionrestore => tokens[1]? = some "prerestore".toList
    | _ => command.changes tokens)

/-- The command that `unoCommand` hands on as a C string. -/
def unoCommand (tokens : List Text) : Option Text :=
  tokens[1]?.map (·.takeWhile (· != '\x00'))

/-- Whether the kit copies for a message, where LibreOfficeKit copies for some commands. -/
def copies (isCopy : Text → Bool) (message : Text) : Bool :=
  (messageCommand message).any (fun (command, tokens) =>
    command = .uno && (unoCommand tokens).any isCopy)

-----------------------------------------------------------------------------------------
-- Enforcement
-----------------------------------------------------------------------------------------

/-- Whether an action is a save, a rename or a modification. A close request, and the removal of
the last session that may edit, save and upload what may be modified; a stop drops what is
not saved, for all sessions.
-/
def Action.changes : Action → Bool
  | .setModified | .sendUnoSave .. | .saveToStorage | .saveAsToStorage .. => true
  | .closeDocument _ | .stop _ | .removeSession _ => true
  | .forwardToChild message => kitChanges message
  | _ => false

def ClientSession.disablesCopy (session : ClientSession) : Bool :=
  session.wopiFileInfo.any WopiFileInfo.disableCopy

/-- What a session's rights ask of the actions on a message. -/
structure Enforces (isCopy : Text → Bool) (session : ClientSession) (message : Text)
    (actions : List Action)
    : Prop where
  onlyAllowed
    : session.isReadOnly = true
      → ∀ action ∈ actions,
          action.changes = true
          → ∃ forwarded,
              action = .forwardToChild forwarded
              ∧ session.filterMessage (getFirstLine forwarded) = true
  dummyOnly
    : session.isReadOnly = true
      → asksForChange message = true
      → session.filterMessage (getFirstLine message) = false
      → ∀ action ∈ actions,
          action = .forwardToChild "dummymsg".toList ∨ ∃ frame, action = .sendText frame
  noCopy
    : session.disablesCopy = true
      → ∀ forwarded, .forwardToChild forwarded ∈ actions → copies isCopy forwarded = false

/-- The session may end the document for all, or the document has changed in the storage. -/
def mayClose (broker : Broker) (session : ClientSession) : Bool :=
  session.isDocumentOwner && session.wopiFileInfo.any WopiFileInfo.enableOwnerTermination
  || broker.isDocumentChangedInStorage

/-- The messages that get past the check for read-only sessions. -/
def PassesCheck (host : Host) (broker : Broker) (session : ClientSession) (message : Text)
    : Prop :=
  match messageCommand message with
  | some (.setmodified, _) => True
  | some (.savetostorage, _) => session.docURL ≠ []
  | some (.renamefile, tokens) =>
      session.docURL ≠ [] ∧ ∃ file, renamedFile tokens = some file ∧ (host.decode file).2 = false
  | some (.moveselectedclientparts, tokens) =>
      session.docURL ≠ [] ∧ session.isTextDocument = false
      ∧ (integerTokens tokens ["position".toList]).isSome
  | some (.runmacroCommand, tokens) => session.docURL ≠ [] ∧ 1 < tokens.length
  | some (.closedocument, _) => session.docURL ≠ [] ∧ mayClose broker session = true
  | some (.versionrestore, tokens) =>
      session.docURL ≠ [] ∧ tokens[1]? = some "prerestore".toList
  | some (.removesession, tokens) =>
      session.docURL ≠ [] ∧ ∃ number id, tokens[1]? = some number ∧ stoi number = .ok id
  | _ => False

variable {isCopy : Text → Bool} {session : ClientSession} {message : Text}

/-- The command stands in the first line of the message. -/
theorem messageCommand_getFirstLine (message : Text)
    : messageCommand (getFirstLine message) = messageCommand message := by
  rw [messageCommand, messageCommand, getFirstLine_idem]

/-- The action neither changes anything nor copies. -/
def Views (isCopy : Text → Bool) (action : Action) : Prop :=
  action.changes = false
  ∧ ∀ forwarded, action = .forwardToChild forwarded → copies isCopy forwarded = false

/-- To forward a command that changes nothing is to view, except for the uno commands, which may
copy.
-/
theorem views_forwardToChild {command : Command} {tokens : List Text}
    (isCommand : messageCommand message = some (command, tokens))
    (harmless : command.changes tokens = false) (notUno : command ≠ .uno)
    : Views isCopy (.forwardToChild message) := by
  refine ⟨?_, ?_⟩
  · rw [Action.changes, kitChanges, isCommand]
    exact harmless
  · rintro forwarded same
    obtain rfl := Action.forwardToChild.inj same
    rw [copies, isCommand, Option.any_some]
    dsimp only
    rw [decide_eq_false notUno, Bool.false_and]

/-- The dummy message is no command of the kit. -/
theorem views_dummymsg : Views isCopy (.forwardToChild "dummymsg".toList) := by
  have unknown : messageCommand "dummymsg".toList = none := by decide
  refine ⟨?_, ?_⟩
  · rw [Action.changes, kitChanges, unknown]
    rfl
  · rintro forwarded same
    obtain rfl := Action.forwardToChild.inj same
    rw [copies, unknown]
    rfl

/-- What is not forwarded and changes nothing is viewing. -/
theorem views_other {action : Action} (harmless : action.changes = false)
    (other : ∀ forwarded, action ≠ .forwardToChild forwarded)
    : Views isCopy action :=
  ⟨harmless, fun forwarded same => absurd same (other forwarded)⟩

/-- A message that asks for no change is handled well by actions that only view. -/
theorem enforces_of_views {actions : List Action} (asks : asksForChange message = false)
    (views : ∀ action ∈ actions, Views isCopy action)
    : Enforces isCopy session message actions where
  onlyAllowed := by
    intro _ action member changes
    exact absurd changes (Bool.eq_false_iff.mp (views action member).1)
  dummyOnly := by
    intro _ asks'
    exact absurd asks' (Bool.eq_false_iff.mp asks)
  noCopy := by
    intro _ forwarded member
    exact (views _ member).2 forwarded rfl

/-- An answer to the client is no effect. -/
theorem enforces_of_texts {actions : List Action}
    (texts : ∀ action ∈ actions, ∃ frame, action = .sendText frame)
    : Enforces isCopy session message actions where
  onlyAllowed := by
    intro _ action member changes
    obtain ⟨frame, rfl⟩ := texts action member
    cases changes
  dummyOnly := by
    intro _ _ _ action member
    exact .inr (texts action member)
  noCopy := by
    intro _ forwarded member
    obtain ⟨frame, same⟩ := texts _ member
    cases same

/-- An error is only sent to the client. -/
theorem enforces_error (command kind : Text)
    : Enforces isCopy session message (Outcome.error session command kind).actions := by
  refine enforces_of_texts ?_
  intro action member
  exact ⟨_, List.mem_singleton.mp member⟩

/-- Where nothing is done, the rights are kept. -/
theorem enforces_nil : Enforces isCopy session message [] :=
  enforces_of_texts (fun _ member => absurd member List.not_mem_nil)

-----------------------------------------------------------------------------------------
-- Commands that only view
-----------------------------------------------------------------------------------------

/-- To send a text to the client is to view. -/
theorem views_sendText (frame : Text) : Views isCopy (.sendText frame) :=
  views_other rfl (fun _ same => nomatch same)

/-- The actions of an error are those of sending it. -/
theorem views_error (command kind : Text)
    : ∀ action ∈ (Outcome.error session command kind).actions, Views isCopy action := by
  intro action member
  rw [List.mem_singleton.mp member]
  exact views_sendText _

/-- One action that is viewing. -/
theorem views_act_singleton {action : Action} (views : Views isCopy action)
    : ∀ it ∈ (Outcome.act session [action]).actions, Views isCopy it := by
  intro it member
  rw [List.mem_singleton.mp member]
  exact views

/-- No action at all. -/
theorem views_nil : ∀ it ∈ ([] : List Action), Views isCopy it :=
  fun _ member => absurd member List.not_mem_nil

/-- The wire ids are reset before a message is forwarded. -/
theorem views_resetAndForward (forward : Views isCopy (.forwardToChild message))
    : ∀ it ∈ (Outcome.act session [.resetWireIdMap, .forwardToChild message]).actions,
        Views isCopy it := by
  intro it member
  rcases List.mem_cons.mp member with rfl | member
  · exact views_other rfl (fun _ same => nomatch same)
  · rw [List.mem_singleton.mp member]
    exact forward

/-- Command values come from the cache, or the request is forwarded. -/
theorem views_getCommandValues {broker : Broker} {tokens : List Text}
    (forward : Views isCopy (.forwardToChild message))
    : ∀ it ∈ (getCommandValues broker session message tokens).actions, Views isCopy it := by
  unfold getCommandValues
  split
  · split
    · split
      · exact views_act_singleton (views_sendText _)
      · exact views_act_singleton forward
    · exact views_error _ _
  · exact views_error _ _

/-- A font rendering comes from the cache, or the request is forwarded. -/
theorem views_sendFontRendering {broker : Broker} {tokens : List Text}
    (forward : Views isCopy (.forwardToChild message))
    : ∀ it ∈ (sendFontRendering broker session message tokens).actions, Views isCopy it := by
  unfold sendFontRendering
  split
  · exact views_error _ _
  · split
    · exact views_nil
    · dsimp only
      split
      · exact views_act_singleton (views_other rfl (fun _ same => nomatch same))
      · exact views_act_singleton forward

/-- A tile request is viewing, also one that is not well formed. -/
theorem views_sendTile {tokens : List Text}
    : ∀ it ∈ (sendTile session tokens).actions, Views isCopy it := by
  unfold sendTile
  split
  · exact views_act_singleton (views_other rfl (fun _ same => nomatch same))
  · exact views_error _ _

/-- So is a combined request. -/
theorem views_sendCombinedTiles {tokens : List Text}
    : ∀ it ∈ (sendCombinedTiles session tokens).actions, Views isCopy it := by
  unfold sendCombinedTiles
  split
  · exact views_act_singleton (views_other rfl (fun _ same => nomatch same))
  · exact views_error _ _

/-- So is the report of a processed tile. -/
theorem views_handleTileProcessed {tokens : List Text}
    : ∀ it ∈ (handleTileProcessed session tokens).actions, Views isCopy it := by
  unfold handleTileProcessed
  split
  · split
    · exact views_act_singleton (views_other rfl (fun _ same => nomatch same))
    · exact views_error _ _
  · exact views_error _ _

/-- The handshake only sends texts to the client. -/
theorem views_handleLoolClient {broker : Broker} {tokens : List Text}
    : ∀ it ∈ (handleLoolClient broker session tokens).actions, Views isCopy it := by
  unfold handleLoolClient
  split
  · split
    · exact views_nil
    · split
      · exact views_error _ _
      · intro it member
        rcases List.mem_cons.mp member with rfl | member
        · exact views_sendText _
        · rw [List.mem_singleton.mp member]
          exact views_sendText _
  · exact views_nil

/-- The message that `loadDocument` composes is a load message in the kit as well. -/
theorem messageCommand_loadMessage (host : Host) (parsed : DocOptions)
    : ∃ tokens, messageCommand (loadMessage host parsed) = some (.load, tokens) := by
  obtain ⟨rest, starts⟩ : ∃ rest, loadMessage host parsed = "load".toList ++ ' ' :: rest := by
    have split : "load url=".toList = "load".toList ++ ' ' :: "url=".toList := by decide
    unfold loadMessage
    rw [split]
    simp only [List.append_assoc, List.cons_append]
    exact ⟨_, rfl⟩
  have firstLine : getFirstLine (loadMessage host parsed)
      = "load".toList ++ ' ' :: rest.takeWhile (· != '\n') := by
    rw [starts]
    rfl
  have clean : LineWord ' ' "load".toList := by decide
  obtain ⟨tokens, cut⟩ := tokenize_head (by decide) clean (by decide)
    (.inr rfl : ' ' :: rest.takeWhile (· != '\n') = [] ∨ _ = some ' ')
  refine ⟨"load".toList :: tokens, ?_⟩
  rw [messageCommand, firstLine, cut]
  rfl

/-- A load command sends its texts and forwards the load of the document. -/
theorem views_handleLoadCommand {host : Host} {tokens : List Text}
    : ∀ it ∈ (handleLoadCommand host session tokens).actions, Views isCopy it := by
  intro it member
  rcases List.mem_append.mp member with sent | forwarded
  · obtain ⟨frame, -, rfl⟩ := List.mem_map.mp sent
    exact views_sendText frame
  · obtain ⟨load, loaded, rfl⟩ : ∃ message,
        (handleLoad host session.toSession tokens).forwarded = some message
        ∧ it = .forwardToChild message := by
      cases loaded : (handleLoad host session.toSession tokens).forwarded with
      | none => simp [loaded] at forwarded
      | some message =>
          simp only [loaded, Option.map_some, Option.toList_some, List.mem_singleton] at forwarded
          exact ⟨message, rfl, forwarded⟩
    obtain ⟨parsed, rfl⟩ : ∃ parsed, load = loadMessage host parsed := by
      unfold handleLoad loadDocument at loaded
      split at loaded
      · cases loaded
      · split at loaded
        · cases loaded
        · split at loaded
          · cases loaded
          · cases loaded
          · exact ⟨_, (Option.some.inj loaded).symm⟩
    obtain ⟨tokens, isLoad⟩ := messageCommand_loadMessage host parsed
    exact views_forwardToChild isLoad rfl (by decide)

-----------------------------------------------------------------------------------------
-- Commands behind the filter
-----------------------------------------------------------------------------------------

/-- A message with a command starts with its name. -/
theorem messageCommand_eq_some {command : Command} {tokens : List Text}
    (isCommand : messageCommand message = some (command, tokens))
    : ∃ name rest,
        tokens = name :: rest
        ∧ tokenize ' ' (getFirstLine message) = name :: rest
        ∧ (name, command) ∈ commandNames
        ∧ commandOf name = some command := by
  unfold messageCommand at isCommand
  cases cut : tokenize ' ' (getFirstLine message) with
  | nil => simp [cut] at isCommand
  | cons name rest =>
      cases found : commandOf name with
      | none => simp [cut, found] at isCommand
      | some known =>
          simp only [cut, List.head?_cons, Option.bind_some, found, Option.map_some,
            Option.some.injEq, Prod.mk.injEq] at isCommand
          obtain ⟨rfl, rfl⟩ := isCommand
          refine ⟨name, rest, rfl, rfl, ?_, found⟩
          obtain ⟨before, behind, split, -⟩ := List.lookup_eq_some_iff.mp found
          rw [split]
          exact List.mem_append_right _ List.mem_cons_self

/-- No command name has white space. -/
theorem commandNames_clean
    : ∀ entry ∈ commandNames, entry.1 ≠ [] ∧ ∀ c ∈ entry.1, isSpace c = false := by
  decide +kernel

/-- The filter's first token is the name of the command. -/
theorem filter_tokens {command : Command} {tokens : List Text}
    (isCommand : messageCommand message = some (command, tokens))
    : ∃ name rest,
        tokens = name :: rest
        ∧ (name, command) ∈ commandNames
        ∧ stringTokenizer ' ' (getFirstLine message)
          = name :: (rest.map trim).filter (· ≠ []) := by
  obtain ⟨name, rest, rfl, cut, member, -⟩ := messageCommand_eq_some isCommand
  obtain ⟨nonempty, clean⟩ := commandNames_clean _ member
  exact ⟨name, rest, rfl, member,
    head?_stringTokenizer (not_mem_getFirstLine message) cut clean nonempty⟩

/-- In a read-only session, only commands of the list pass. -/
theorem filterMessage_readOnly {command : Command} {tokens : List Text}
    (isCommand : messageCommand message = some (command, tokens))
    (readOnly : session.isReadOnly = true)
    (unlisted
      : ∀ entry ∈ commandNames,
          entry.2 = command
          → entry.1 ∉ ["downloadas".toList, "gettextselection".toList, ".uno:Copy".toList,
              "userinactive".toList, "useractive".toList, "saveas".toList, "uno".toList,
              "setpage".toList])
    : session.filterMessage (getFirstLine message) = false := by
  obtain ⟨name, rest, -, member, cut⟩ := filter_tokens isCommand
  have other := unlisted _ member rfl
  simp only [List.mem_cons, List.not_mem_nil, or_false, not_or] at other
  simp only [ClientSession.filterMessage, cut, readOnly, List.head?_cons, Option.some.injEq,
    other, or_self, if_false, if_true, decide_false, Bool.false_and]

/-- A read-only session may send the search among the uno commands, and any other session all of
them.
-/
theorem filterMessage_uno {tokens : List Text}
    (isCommand : messageCommand message = some (.uno, tokens))
    : session.filterMessage (getFirstLine message)
      = if session.isReadOnly then
          decide
            (((tokens.tail.map trim).filter (· ≠ []))[0]? = some ".uno:ExecuteSearch".toList)
        else true := by
  obtain ⟨name, rest, rfl, member, cut⟩ := filter_tokens isCommand
  have isUno : ∀ entry ∈ commandNames, entry.2 = .uno → entry.1 = "uno".toList := by decide +kernel
  obtain rfl := isUno _ member rfl
  have other
      : ∀ text ∈ ["downloadas".toList, "gettextselection".toList, ".uno:Copy".toList,
          "userinactive".toList, "useractive".toList, "saveas".toList],
          "uno".toList ≠ text := by
    decide
  simp only [List.forall_mem_cons, List.not_mem_nil, false_implies, implies_true, and_true] at other
  simp only [ClientSession.filterMessage, cut, List.head?_cons, Option.some.injEq,
    List.tail_cons, other, or_self, if_false, if_true, List.getElem?_cons_succ]
  rfl

/-- Searching, and a command of white space, copy nothing. -/
def CopiesNoSearch (isCopy : Text → Bool) : Prop :=
  ∀ command,
    trim command = ".uno:ExecuteSearch".toList ∨ trim command = []
    → isCopy (command.takeWhile (· != '\x00')) = false

/-- Only uno commands copy. -/
theorem copies_of_ne_uno {command : Command} {tokens : List Text}
    (isCommand : messageCommand message = some (command, tokens)) (notUno : command ≠ .uno)
    : copies isCopy message = false := by
  rw [copies, isCommand, Option.any_some]
  dsimp only
  rw [decide_eq_false notUno, Bool.false_and]

/-- What a read-only session may send to the kit does not copy. -/
theorem copies_of_readOnly {command : Command} {tokens : List Text}
    (noSearch : CopiesNoSearch isCopy)
    (isCommand : messageCommand message = some (command, tokens))
    (readOnly : session.isReadOnly = true)
    (allowed : session.filterMessage (getFirstLine message) = true)
    : copies isCopy message = false := by
  by_cases notUno : command ≠ .uno
  · exact copies_of_ne_uno isCommand notUno
  · obtain rfl := not_not.mp notUno
    rw [filterMessage_uno isCommand, if_pos readOnly, decide_eq_true_eq] at allowed
    rw [copies, isCommand, Option.any_some]
    simp only [decide_true, Bool.true_and, unoCommand]
    obtain ⟨name, rest, rfl, -⟩ := messageCommand_eq_some isCommand
    cases rest with
    | nil => rfl
    | cons first rest =>
        simp only [List.getElem?_cons_succ, List.getElem?_cons_zero, Option.map_some,
          Option.any_some]
        refine noSearch first ?_
        by_cases blank : trim first = []
        · exact .inr blank
        · rw [List.tail_cons, List.map_cons, List.filter_cons_of_pos (by simpa using blank),
            List.getElem?_cons_zero, Option.some.injEq] at allowed
          exact .inl allowed

/-- A filtered message is forwarded to read-only sessions only if it is allowed; what is missing is
the test of the copies of the other sessions.
-/
theorem handleFiltered_enforces_iff {command : Command} {tokens : List Text}
    (noSearch : CopiesNoSearch isCopy)
    (isCommand : messageCommand message = some (command, tokens))
    : Enforces isCopy session message (handleFiltered session message command).actions
      ↔ (session.disablesCopy = true
        → session.isReadOnly = false
        → copies isCopy message = false) := by
  have sameFilter
      : (if command = .key then { session with keyEvents := session.keyEvents + 1 }
          else session).filterMessage (getFirstLine message)
        = session.filterMessage (getFirstLine message) := by
    split <;> rfl
  unfold handleFiltered
  dsimp only
  rw [sameFilter]
  cases allowed : session.filterMessage (getFirstLine message) with
  | false =>
      rw [if_pos rfl]
      refine iff_of_true ⟨?_, ?_, ?_⟩ ?_
      · intro _ action member changes
        rw [List.mem_singleton.mp member] at changes
        exact absurd changes (Bool.eq_false_iff.mp (@views_dummymsg isCopy).1)
      · intro _ _ _ action member
        exact .inl (List.mem_singleton.mp member)
      · intro _ forwarded member
        exact views_dummymsg.2 forwarded (List.mem_singleton.mp member).symm
      · intro _ writable
        by_contra copied
        have isUno : command = .uno := by
          by_contra notUno
          exact copied (copies_of_ne_uno isCommand notUno)
        subst isUno
        rw [filterMessage_uno isCommand, writable, if_neg Bool.false_ne_true] at allowed
        cases allowed
  | true =>
      rw [if_neg (fun same => nomatch same)]
      by_cases request : command = .requestloksession
      · rw [if_neg (not_not.mpr request)]
        refine iff_of_true enforces_nil (fun _ _ => ?_)
        exact copies_of_ne_uno isCommand (by simp [request])
      · rw [if_pos request]
        constructor
        · intro enforces disables _
          exact enforces.noCopy disables message (List.mem_singleton_self _)
        · intro noCopy
          refine ⟨?_, ?_, ?_⟩
          · intro _ action member _
            exact ⟨message, List.mem_singleton.mp member, allowed⟩
          · intro _ _ filtered
            exact absurd allowed (Bool.eq_false_iff.mp filtered)
          · intro disables forwarded member
            obtain rfl := Action.forwardToChild.inj (List.mem_singleton.mp member)
            cases readOnly : session.isReadOnly with
            | true => exact copies_of_readOnly noSearch isCommand readOnly allowed
            | false => exact noCopy disables readOnly

/-- A session is writable if and only if nothing that passes the check was read-only. -/
theorem writable_iff {readOnly : Bool} {passes : Prop} (holds : passes)
    : readOnly = false ↔ (readOnly = true → ¬ passes) := by
  cases readOnly <;> simp [holds]

/-- A change in wsd breaks the rights of a read-only session. -/
theorem enforces_change_iff {action : Action} {actions : List Action} (member : action ∈ actions)
    (changes : action.changes = true)
    (noForward : ∀ forwarded, .forwardToChild forwarded ∉ actions)
    : Enforces isCopy session message actions ↔ session.isReadOnly = false := by
  constructor
  · intro enforces
    by_contra readOnly
    obtain ⟨forwarded, rfl, -⟩ :=
      enforces.onlyAllowed (Bool.not_eq_false _ |>.mp readOnly) action member changes
    exact noForward forwarded member
  · intro writable
    refine ⟨?_, ?_, fun _ forwarded member => absurd member (noForward forwarded)⟩
    · intro readOnly
      exact absurd readOnly (Bool.eq_false_iff.mp writable)
    · intro readOnly
      exact absurd readOnly (Bool.eq_false_iff.mp writable)

/-- A single change in wsd breaks them. -/
theorem enforces_single_iff {action : Action} (changes : action.changes = true)
    (noForward : ∀ forwarded, .forwardToChild forwarded ≠ action)
    : Enforces isCopy session message [action] ↔ session.isReadOnly = false :=
  enforces_change_iff (List.mem_singleton_self action) changes
    (fun forwarded member => noForward forwarded (List.mem_singleton.mp member))

/-- A change in the kit that the filter would not allow breaks them, too. -/
theorem enforces_forward_iff {forwarded : Text} (changes : kitChanges forwarded = true)
    (noCopy : copies isCopy forwarded = false)
    (unallowed
      : session.isReadOnly = true → session.filterMessage (getFirstLine forwarded) = false)
    : Enforces isCopy session message [.forwardToChild forwarded]
      ↔ session.isReadOnly = false := by
  constructor
  · intro enforces
    by_contra readOnly
    have readOnly := Bool.not_eq_false _ |>.mp readOnly
    obtain ⟨other, same, allowed⟩ :=
      enforces.onlyAllowed readOnly _ (List.mem_singleton_self _) changes
    obtain rfl := Action.forwardToChild.inj same
    exact absurd allowed (Bool.eq_false_iff.mp (unallowed readOnly))
  · intro writable
    refine ⟨?_, ?_, ?_⟩
    · intro readOnly
      exact absurd readOnly (Bool.eq_false_iff.mp writable)
    · intro readOnly
      exact absurd readOnly (Bool.eq_false_iff.mp writable)
    · intro _ other member
      obtain rfl := Action.forwardToChild.inj (List.mem_singleton.mp member)
      exact noCopy

/-- The wsd side's test of the position is the kit's. -/
theorem changes_of_integerTokens {tokens : List Text}
    (isPosition : (integerTokens tokens ["position".toList]).isSome)
    : Command.moveselectedclientparts.changes tokens = true := by
  unfold integerTokens at isPosition
  split at isPosition
  · cases isPosition
  · next two =>
      match tokens, two with
      | [name, position], _ =>
          simp only [List.drop_succ_cons, List.drop_zero, List.zip_cons_cons, List.zip_nil_left,
            List.mapM_cons, List.mapM_nil] at isPosition
          simp only [Command.changes, List.getElem?_cons_succ, List.getElem?_cons_zero,
            Option.any_some]
          by_contra notNumber
          have notNumber := Bool.not_eq_true _ |>.mp notNumber
          generalize getTokenInteger position "position".toList 0 = read at isPosition notNumber
          obtain ⟨found, value⟩ := read
          obtain rfl : found = false := notNumber
          cases isPosition
      | [], two => exact absurd (by simp) two
      | [_], two => exact absurd (by simp) two
      | _ :: _ :: _ :: _, two => exact absurd (by simp) two

-----------------------------------------------------------------------------------------
-- All messages
-----------------------------------------------------------------------------------------

/-- The message is not one that passes the check of the session's rights. -/
def RespectsRights (host : Host) (broker : Broker) (isCopy : Text → Bool) (session : ClientSession)
    (message : Text)
    : Prop :=
  (session.isReadOnly = true → ¬ PassesCheck host broker session message)
  ∧ (session.disablesCopy = true
    → session.isReadOnly = false
    → session.docURL ≠ []
    → copies isCopy message = false)

/-- Without an uno command, all that counts is the check of read-only sessions. -/
theorem respectsRights_iff_of_ne_uno {host : Host} {broker : Broker} {command : Command} {tokens : List Text}
    (isCommand : messageCommand message = some (command, tokens)) (notUno : command ≠ .uno)
    : RespectsRights host broker isCopy session message
      ↔ (session.isReadOnly = true → ¬ PassesCheck host broker session message) :=
  ⟨And.left, fun check => ⟨check, fun _ _ _ => copies_of_ne_uno isCommand notUno⟩⟩

/-- The commands whose messages may break a session's rights. -/
def checkedCommands : List Command :=
  [
    .setmodified, .savetostorage, .renamefile, .moveselectedclientparts, .runmacroCommand,
    .closedocument, .versionrestore, .removesession, .uno
  ]

/-- The uno commands are among those that are checked. -/
theorem ne_uno_of_plain {command : Command} (plain : command ∉ checkedCommands)
    : command ≠ .uno := by
  rintro rfl
  exact plain (by decide)

/-- For most commands there is nothing to pass. -/
theorem respectsRights_of_plain {host : Host} {broker : Broker} {command : Command} {tokens : List Text}
    (isCommand : messageCommand message = some (command, tokens))
    (plain : command ∉ checkedCommands)
    : RespectsRights host broker isCopy session message := by
  refine (respectsRights_iff_of_ne_uno isCommand (ne_uno_of_plain plain)).mpr
    (fun _ passes => ?_)
  simp only [checkedCommands, List.mem_cons, List.not_mem_nil, or_false, not_or] at plain
  unfold PassesCheck at passes
  rw [isCommand] at passes
  split at passes <;> simp_all

/-- Without a document, only the mark as modified passes. -/
theorem respectsRights_of_noDocument {host : Host} {broker : Broker} {command : Command} {tokens : List Text}
    (isCommand : messageCommand message = some (command, tokens)) (other : command ≠ .setmodified)
    (noDocument : session.docURL = [])
    : RespectsRights host broker isCopy session message := by
  refine ⟨fun _ passes => ?_, fun _ _ loaded => absurd noDocument loaded⟩
  unfold PassesCheck at passes
  rw [isCommand] at passes
  split at passes
  · next same => exact other (Prod.mk.inj (Option.some.inj same)).1
  all_goals simp_all

/-- Commands that change nothing are handled well by actions that only view. -/
theorem enforces_iff_of_views {host : Host} {broker : Broker} {command : Command} {tokens : List Text}
    (isCommand : messageCommand message = some (command, tokens))
    (plain : command ∉ checkedCommands)
    (notSave : command ≠ .save) (harmless : command.changes tokens = false)
    {actions : List Action} (views : ∀ action ∈ actions, Views isCopy action)
    : Enforces isCopy session message actions ↔ RespectsRights host broker isCopy session message := by
  refine iff_of_true (enforces_of_views ?_ views) (respectsRights_of_plain isCommand plain)
  simp only [checkedCommands, List.mem_cons, List.not_mem_nil, or_false, not_or] at plain
  rw [asksForChange, isCommand, Option.any_some]
  dsimp only
  split <;> simp_all

/-- Commands that are filtered and that nothing else is checked for. -/
theorem enforces_iff_of_filtered {host : Host} {broker : Broker} {command : Command} {tokens : List Text}
    (noSearch : CopiesNoSearch isCopy)
    (isCommand : messageCommand message = some (command, tokens))
    (plain : command ∉ checkedCommands)
    : Enforces isCopy session message (handleFiltered session message command).actions
      ↔ RespectsRights host broker isCopy session message := by
  refine iff_of_true ?_ (respectsRights_of_plain isCommand plain)
  refine (handleFiltered_enforces_iff noSearch isCommand).mpr (fun _ _ => ?_)
  exact copies_of_ne_uno isCommand (ne_uno_of_plain plain)

/-- A save either does nothing or sends one save command to the kit. -/
theorem handleSave_actions (host : Host) (session : ClientSession) (tokens : List Text)
    : (handleSave host session tokens).actions = []
      ∨ ∃ dontTerminateEdit dontSaveIfUnmodified extendedData,
          (handleSave host session tokens).actions
            = [.sendUnoSave dontTerminateEdit dontSaveIfUnmodified extendedData] := by
  unfold handleSave
  dsimp only
  split
  · split
    · exact .inl rfl
    · exact .inr ⟨_, _, _, rfl⟩
  · exact .inr ⟨_, _, _, rfl⟩

/-- A read-only session saves nothing. -/
theorem handleSave_enforces_iff {host : Host} {broker : Broker} {tokens : List Text}
    (isCommand : messageCommand message = some (.save, tokens))
    : Enforces isCopy session message
        (if session.isReadOnly then Outcome.act session []
          else handleSave host session tokens).actions
      ↔ RespectsRights host broker isCopy session message := by
  refine iff_of_true ?_ (respectsRights_of_plain isCommand (by decide))
  split
  · exact enforces_nil
  · next writable =>
      rcases handleSave_actions host session tokens with threw | ⟨_, _, _, saves⟩
      · rw [threw]
        exact enforces_nil
      · rw [saves]
        refine (enforces_single_iff rfl ?_).mpr (Bool.not_eq_true _ |>.mp writable)
        exact fun _ same => nomatch same

/-- `savetostorage` saves without asking for rights. -/
theorem saveToStorage_enforces_iff {host : Host} {broker : Broker} {tokens : List Text} {others : List Action}
    (isCommand : messageCommand message = some (.savetostorage, tokens))
    (loaded : session.docURL ≠ []) (noForward : ∀ forwarded, .forwardToChild forwarded ∉ others)
    : Enforces isCopy session message (.saveToStorage :: others)
      ↔ RespectsRights host broker isCopy session message := by
  rw [respectsRights_iff_of_ne_uno isCommand (by decide),
    enforces_change_iff List.mem_cons_self rfl]
  · unfold PassesCheck
    rw [isCommand]
    simp [loaded]
  · intro forwarded member
    rcases List.mem_cons.mp member with same | later
    · cases same
    · exact noForward forwarded later

/-- `renamefile` is forwarded without asking for rights. -/
theorem handleRenameFile_enforces_iff {host : Host} {broker : Broker} {tokens : List Text}
    (isCommand : messageCommand message = some (.renamefile, tokens))
    (loaded : session.docURL ≠ [])
    : Enforces isCopy session message (handleRenameFile host session tokens).actions
      ↔ RespectsRights host broker isCopy session message := by
  rw [respectsRights_iff_of_ne_uno isCommand (by decide)]
  unfold PassesCheck handleRenameFile
  rw [isCommand]
  dsimp only
  cases named : renamedFile tokens with
  | none => exact iff_of_true (enforces_error _ _) (by simp)
  | some file =>
      dsimp only
      cases throws : (host.decode file).2 with
      | true => exact iff_of_true enforces_nil (by simp [throws])
      | false =>
          rw [if_neg Bool.false_ne_true, Outcome.act, enforces_single_iff rfl]
          · simp [loaded, throws]
          · exact fun _ same => nomatch same

/-- `moveselectedclientparts` is forwarded without asking for rights, unless it is a text document
or the message is not well formed.
-/
theorem moveSelectedClientParts_enforces_iff {host : Host} {broker : Broker} {tokens : List Text}
    (isCommand : messageCommand message = some (.moveselectedclientparts, tokens))
    (loaded : session.docURL ≠ [])
    : Enforces isCopy session message
        (if session.isTextDocument then Outcome.act session []
          else if (integerTokens tokens ["position".toList]).isSome then
            .act session [.forwardToChild message]
          else .error session "moveselectedclientparts".toList "syntax".toList).actions
      ↔ RespectsRights host broker isCopy session message := by
  rw [respectsRights_iff_of_ne_uno isCommand (by decide)]
  unfold PassesCheck
  rw [isCommand]
  dsimp only
  split
  · next text => exact iff_of_true enforces_nil (by simp [text])
  · next noText =>
      split
      · next isPosition =>
          rw [Outcome.act, enforces_forward_iff]
          · exact writable_iff ⟨loaded, Bool.not_eq_true _ |>.mp noText, isPosition⟩
          · rw [kitChanges, isCommand]
            exact changes_of_integerTokens isPosition
          · exact copies_of_ne_uno isCommand (by decide)
          · intro readOnly
            exact filterMessage_readOnly isCommand readOnly (by decide +kernel)
      · next noPosition =>
          exact iff_of_true (enforces_error _ _) (fun _ passes => noPosition passes.2.2)

/-- A macro is forwarded without asking for rights. -/
theorem runMacro_enforces_iff {host : Host} {broker : Broker} {tokens : List Text}
    (isCommand : messageCommand message = some (.runmacroCommand, tokens))
    (loaded : session.docURL ≠ [])
    : Enforces isCopy session message [.forwardToChild (getFirstLine message)]
      ↔ RespectsRights host broker isCopy session message := by
  have forwarded := (messageCommand_getFirstLine message).trans isCommand
  rw [respectsRights_iff_of_ne_uno isCommand (by decide)]
  unfold PassesCheck
  rw [isCommand]
  by_cases hasMacro : 1 < tokens.length
  · rw [enforces_forward_iff]
    · simp [loaded, hasMacro]
    · rw [kitChanges, forwarded]
      exact decide_eq_true hasMacro
    · exact copies_of_ne_uno forwarded (by decide)
    · intro readOnly
      exact filterMessage_readOnly forwarded readOnly (by decide +kernel)
  · refine iff_of_true (enforces_of_views ?_ ?_) (by simp [hasMacro])
    · rw [asksForChange, isCommand]
      exact decide_eq_false hasMacro
    · intro action member
      rw [List.mem_singleton.mp member]
      exact views_forwardToChild forwarded (decide_eq_false hasMacro) (by decide)

/-- A message that closes the document is an effect if it is allowed to close it. -/
theorem handleCloseDocument_enforces_iff {host : Host} {broker : Broker} {tokens : List Text}
    (isCommand : messageCommand message = some (.closedocument, tokens))
    (loaded : session.docURL ≠ [])
    : Enforces isCopy session message (handleCloseDocument broker session).actions
      ↔ RespectsRights host broker isCopy session message := by
  rw [respectsRights_iff_of_ne_uno isCommand (by decide)]
  unfold PassesCheck handleCloseDocument
  rw [isCommand]
  simp only [mayClose, Bool.or_eq_true]
  split
  · next owner =>
      rw [Outcome.act, enforces_single_iff rfl]
      · exact writable_iff ⟨loaded, .inl owner⟩
      · exact fun _ same => nomatch same
  · next notOwner =>
      split
      · next changed =>
          rw [Outcome.act, enforces_single_iff rfl]
          · exact writable_iff ⟨loaded, .inr changed⟩
          · exact fun _ same => nomatch same
      · next unchanged =>
          exact iff_of_true enforces_nil
            (fun _ passes => passes.2.elim notOwner unchanged)

/-- The acknowledgement of a restore closes the document, whoever sends it. -/
theorem versionRestore_enforces_iff {host : Host} {broker : Broker} {tokens : List Text}
    (isCommand : messageCommand message = some (.versionrestore, tokens))
    (loaded : session.docURL ≠ [])
    : Enforces isCopy session message
        (if tokens[1]? = some "prerestore".toList then
          Outcome.act session [.closeDocument "versionrestore: prerestore_ack".toList]
        else .act session []).actions
      ↔ RespectsRights host broker isCopy session message := by
  rw [respectsRights_iff_of_ne_uno isCommand (by decide)]
  unfold PassesCheck
  rw [isCommand]
  dsimp only
  split
  · next prerestore =>
      rw [Outcome.act, enforces_single_iff rfl]
      · exact writable_iff ⟨loaded, prerestore⟩
      · exact fun _ same => nomatch same
  · next other => exact iff_of_true enforces_nil (fun _ passes => other passes.2)

/-- A session is removed for every message with a number. -/
theorem handleRemoveSession_enforces_iff {host : Host} {broker : Broker} {tokens : List Text}
    (isCommand : messageCommand message = some (.removesession, tokens))
    (loaded : session.docURL ≠ [])
    : Enforces isCopy session message
        (handleRemoveSession session (getFirstLine message) tokens).actions
      ↔ RespectsRights host broker isCopy session message := by
  rw [respectsRights_iff_of_ne_uno isCommand (by decide)]
  unfold PassesCheck handleRemoveSession
  rw [isCommand]
  dsimp only
  cases found : tokens[1]? with
  | none => exact iff_of_true enforces_nil (by simp)
  | some number =>
      dsimp only
      cases read : stoi number with
      | error exception => exact iff_of_true enforces_nil (by simp [read])
      | ok id =>
          have removes : Action.removeSession (encodeId id 4)
              ∈ [.broadcastMessage (getFirstLine message), .removeSession (encodeId id 4)] :=
            List.mem_cons_of_mem _ (List.mem_singleton_self _)
          refine (enforces_change_iff removes rfl ?_).trans
            (writable_iff ⟨loaded, number, id, rfl, read⟩)
          intro forwarded member
          rcases List.mem_cons.mp member with same | later
          · cases same
          · cases List.mem_singleton.mp later

/-- A command of a session with a loaded document, by cases on the command. -/
theorem handleCommand_enforces_iff {host : Host} {broker : Broker} {command : Command}
    {tokens : List Text} (noSearch : CopiesNoSearch isCopy)
    (isCommand : messageCommand message = some (command, tokens))
    (known : command ≠ .setmodified) (loaded : session.docURL ≠ [])
    : Enforces isCopy session message
        (handleCommand host broker session message tokens command).actions
      ↔ RespectsRights host broker isCopy session message := by
  cases command with
  | setmodified => exact absurd rfl known
  | save => exact handleSave_enforces_iff isCommand
  | savetostorage =>
      refine saveToStorage_enforces_iff isCommand loaded ?_
      intro forwarded member
      split at member
      · cases List.mem_singleton.mp member
      · exact List.not_mem_nil member
  | renamefile => exact handleRenameFile_enforces_iff isCommand loaded
  | moveselectedclientparts => exact moveSelectedClientParts_enforces_iff isCommand loaded
  | runmacroCommand => exact runMacro_enforces_iff isCommand loaded
  | uno =>
      refine (handleFiltered_enforces_iff noSearch isCommand).trans ?_
      have passesNot : ¬ PassesCheck host broker session message := by
        unfold PassesCheck
        rw [isCommand]
        exact id
      exact ⟨fun noCopy => ⟨fun _ => passesNot, fun disables writable _ => noCopy disables writable⟩,
        fun rights disables writable => rights.2 disables writable loaded⟩
  | canceltiles | partpagerectangles | ping =>
      refine enforces_iff_of_views isCommand (by decide) (by decide) rfl ?_
      exact views_act_singleton (views_other rfl (fun _ same => nomatch same))
  | status | statusupdate | getunostates =>
      refine enforces_iff_of_views isCommand (by decide) (by decide) rfl ?_
      have forwarded := (messageCommand_getFirstLine message).trans isCommand
      exact views_act_singleton (views_forwardToChild forwarded rfl (by decide))
  | commandvalues =>
      refine enforces_iff_of_views isCommand (by decide) (by decide) rfl ?_
      exact views_getCommandValues (views_forwardToChild isCommand rfl (by decide))
  | renderfont =>
      refine enforces_iff_of_views isCommand (by decide) (by decide) rfl ?_
      exact views_sendFontRendering (views_forwardToChild isCommand rfl (by decide))
  | closedocument => exact handleCloseDocument_enforces_iff isCommand loaded
  | versionrestore => exact versionRestore_enforces_iff isCommand loaded
  | tile => exact enforces_iff_of_views isCommand (by decide) (by decide) rfl views_sendTile
  | tilecombine =>
      exact enforces_iff_of_views isCommand (by decide) (by decide) rfl views_sendCombinedTiles
  | tileprocessed =>
      exact enforces_iff_of_views isCommand (by decide) (by decide) rfl views_handleTileProcessed
  | removesession => exact handleRemoveSession_enforces_iff isCommand loaded
  | clientvisiblearea | clientzoom =>
      refine enforces_iff_of_views isCommand (by decide) (by decide) rfl ?_
      rw [handleCommand]
      split
      · exact views_resetAndForward (views_forwardToChild isCommand rfl (by decide))
      · exact views_error _ _
  | setclientpart =>
      refine enforces_iff_of_views isCommand (by decide) (by decide) rfl ?_
      rw [handleCommand]
      split
      · exact views_nil
      · split
        · exact views_resetAndForward (views_forwardToChild isCommand rfl (by decide))
        · exact views_error _ _
  | selectclientpart =>
      refine enforces_iff_of_views isCommand (by decide) (by decide) rfl ?_
      rw [handleCommand]
      split
      · exact views_nil
      · split
        · exact views_act_singleton (views_forwardToChild isCommand rfl (by decide))
        · exact views_error _ _
  | _ => exact enforces_iff_of_filtered noSearch isCommand (by decide)

/-- A known command, by the cases in which it is handled before a document is loaded. -/
theorem handleKnown_enforces_iff {host : Host} {broker : Broker} {command : Command}
    {tokens : List Text} (noSearch : CopiesNoSearch isCopy) (name : Text)
    (isCommand : messageCommand message = some (command, tokens))
    : Enforces isCopy session message
        (handleKnown host broker session message name tokens command).actions
      ↔ RespectsRights host broker isCopy session message := by
  unfold handleKnown
  split
  · exact enforces_iff_of_views isCommand (by decide) (by decide) rfl views_handleLoolClient
  · exact enforces_iff_of_views isCommand (by decide) (by decide) rfl views_handleLoadCommand
  · rw [respectsRights_iff_of_ne_uno isCommand (by decide), Outcome.act, enforces_single_iff rfl]
    · refine writable_iff ?_
      unfold PassesCheck
      rw [isCommand]
      exact trivial
    · exact fun _ same => nomatch same
  · next notLoolClient notLoad notSetModified =>
      split
      · next noDocument =>
          exact iff_of_true (enforces_error _ _)
            (respectsRights_of_noDocument isCommand notSetModified noDocument)
      · next loaded => exact handleCommand_enforces_iff noSearch isCommand notSetModified loaded

/-- A client's message has no effect that the session's rights forbid exactly if it is not one
of those that pass the check.
-/
theorem handleInput_enforces_iff (host : Host) (broker : Broker) (session : ClientSession)
    (message : Text) (noSearch : CopiesNoSearch isCopy)
    : Enforces isCopy session message (handleInput host broker session message).actions
      ↔ RespectsRights host broker isCopy session message := by
  have unknown (none' : messageCommand message = none)
      : RespectsRights host broker isCopy session message := by
    refine ⟨fun _ passes => ?_, fun _ _ _ => by rw [copies, none']; rfl⟩
    unfold PassesCheck at passes
    rwa [none'] at passes
  unfold handleInput
  dsimp only
  cases cut : tokenize ' ' (getFirstLine message) with
  | nil => exact iff_of_true enforces_nil (unknown (by rw [messageCommand, cut]; rfl))
  | cons name rest =>
      dsimp only
      cases found : commandOf name with
      | none =>
          refine iff_of_true (enforces_error _ _) (unknown ?_)
          rw [messageCommand, cut]
          simp [found]
      | some command =>
          refine handleKnown_enforces_iff noSearch name ?_
          rw [messageCommand, cut]
          simp [found]

/-- LibreOfficeKit copies for one command. -/
def isUnoCopy (command : Text) : Bool :=
  command = ".uno:Copy".toList

/-- The search is not one of the copying commands, by their names. -/
theorem isUnoCopy_noSearch : CopiesNoSearch isUnoCopy := by
  intro command trimmed
  refine decide_eq_false (fun copy => ?_)
  -- the command starts with the name of the copy command, which `trim` does not change
  obtain ⟨rest, rfl⟩ : ∃ rest, command = ".uno:Copy".toList ++ rest :=
    ⟨command.dropWhile (· != '\x00'), by rw [← copy, List.takeWhile_append_dropWhile]⟩
  have front : (".uno:Copy".toList ++ rest).dropWhile isSpace = ".uno:Copy".toList ++ rest := rfl
  have back : ∃ more, (".uno:Copy".toList ++ rest).rdropWhile isSpace
      = ".uno:Copy".toList ++ more := by
    rw [List.rdropWhile, List.reverse_append, List.dropWhile_append]
    split
    · exact ⟨[], by decide⟩
    · rw [List.reverse_append, List.reverse_reverse]
      exact ⟨_, rfl⟩
  obtain ⟨more, kept⟩ := back
  rw [trim, front, kept] at trimmed
  rcases trimmed with search | blank
  · have sixth := congrArg (·[5]?) search
    rw [List.getElem?_append_left (by decide)] at sixth
    exact absurd sixth (by decide)
  · exact absurd (List.append_eq_nil_iff.mp blank).1 (by decide)

/-- A session with a loaded document. -/
def loadedSession (readOnly disableCopy : Bool) : ClientSession where
  toSession := { newSession readOnly with docURL := "x".toList }
  id := "0001".toList
  isDocumentOwner := false
  wopiFileInfo := some ⟨false, false, disableCopy, false⟩
  keyEvents := 1
  clientVisibleArea := ⟨0, 0, 0, 0⟩
  clientSelectedPart := 0
  tileWidthPixel := 256
  tileHeightPixel := 256
  tileWidthTwips := 3840
  tileHeightTwips := 3840
  isTextDocument := false
  canonicalViewId := 0
  tilesOnFly := []
  validViewId := by decide

def emptyBroker : Broker where
  protocolVersion := (0, 1)
  serverVersion := "{}".toList
  lokitVersion := "{}".toList
  isDocumentChangedInStorage := false
  renderedTileCount := 0
  textFile _ := none
  fontFile _ := none
  saveToStorage := true

/-- A read-only session pastes. -/
theorem handleInput_enforces_iff_paste
    : Enforces isUnoCopy (loadedSession true true) "paste mimetype=text/plain".toList
        (handleInput plainHost emptyBroker (loadedSession true true)
          "paste mimetype=text/plain".toList).actions
      ↔ RespectsRights plainHost emptyBroker isUnoCopy (loadedSession true true)
          "paste mimetype=text/plain".toList :=
  handleInput_enforces_iff _ _ _ _ isUnoCopy_noSearch

/-- A read-only session moves parts, and one that may not copy copies. -/
theorem handleInput_passes
    : ¬ Enforces isUnoCopy (loadedSession true false)
        "moveselectedclientparts position=0".toList
        (handleInput plainHost emptyBroker (loadedSession true false)
          "moveselectedclientparts position=0".toList).actions
      ∧ ¬ Enforces isUnoCopy (loadedSession false true) "uno .uno:Copy".toList
        (handleInput plainHost emptyBroker (loadedSession false true)
          "uno .uno:Copy".toList).actions := by
  refine ⟨fun enforces => ?_, fun enforces => ?_⟩
  · have actions
        : (handleInput plainHost emptyBroker (loadedSession true false)
            "moveselectedclientparts position=0".toList).actions
          = [.forwardToChild "moveselectedclientparts position=0".toList] := by
      decide +kernel
    rw [actions] at enforces
    obtain ⟨forwarded, same, allowed⟩ :=
      enforces.onlyAllowed rfl _ (List.mem_singleton_self _) (by decide +kernel)
    obtain rfl := Action.forwardToChild.inj same
    exact absurd allowed (by decide +kernel)
  · have actions
        : (handleInput plainHost emptyBroker (loadedSession false true)
            "uno .uno:Copy".toList).actions
          = [.forwardToChild "uno .uno:Copy".toList] := by
      decide +kernel
    rw [actions] at enforces
    have noCopy := enforces.noCopy rfl _ (List.mem_singleton_self _)
    exact absurd noCopy (by decide +kernel)

end NdcOdfWeb.Sessions
