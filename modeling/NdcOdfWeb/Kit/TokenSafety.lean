import NdcOdfWeb.Kit.TokenReads
import NdcOdfWeb.Sessions.ReadOnly

/-! Which messages of a client lead the two dispatchers outside of their tokens. -/

namespace NdcOdfWeb.Kit

open NdcOdfWeb.Foundation
open NdcOdfWeb.Protocol
open NdcOdfWeb.Sessions

/-- A message without a known command, or with fewer arguments than its command needs. -/
def Malformed (message : Text) : Prop :=
  ∀ command tokens,
    messageCommand message = some (command, tokens) → tokens.length < leastTokens command

/-- `_handleInput` asserts that the first line of a status message is all of it. -/
def AssertsLength (session : ClientSession) (message : Text) : Prop :=
  ∀ command tokens,
    messageCommand message = some (command, tokens)
    → command = .status ∨ command = .statusupdate
    → session.docURL ≠ []
    → (getFirstLine message).length = message.length

/-- An action that does no more than to reply with an error, or that the kit rejects. -/
def Rejected (core : Core) (action : Action) : Prop :=
  (∃ text, action = .sendText ("error: ".toList ++ text))
  ∨ ∃ forwarded ending,
      action = .forwardToChild forwarded ∧ handleChildInput core forwarded = some ending
      ∧ ending.rejects = true

/-- Nothing goes wrong in the outcome: `malformed` messages have no effect. -/
structure OutcomeSafe (core : Core) (malformed : Prop) (outcome : Outcome) : Prop where
  reads : outcome.ending ≠ .undefined
  child
    : ∀ forwarded,
        .forwardToChild forwarded ∈ outcome.actions
        → ∃ ending, handleChildInput core forwarded = some ending ∧ ending ≠ .assertion
  rejected : malformed → ∀ action ∈ outcome.actions, Rejected core action

/-- Both dispatchers stay inside the tokens of a message and keep their assertions. -/
structure TokenSafe (core : Core) (broker : Broker) (session : ClientSession) (message : Text)
    : Prop where
  outcome : OutcomeSafe core (Malformed message) (handleInput core.host broker session message)
  asserts : AssertsLength session message

/-- What keeps a command for a loaded document inside its tokens. -/
def KeepsCommand (session : ClientSession) (message : Text) (tokens : List Text)
    : Command → Prop
  | .status => '\n' ∉ message
  | .statusupdate => False
  | .renderfont => ∀ name font, tokens = [name, font] → isString "font".toList font = false
  | .removesession => 1 < tokens.length
  | .paintwindow => session.isReadOnly = false → ReadsTokens tokens .paintwindow
  | .windowmouse => session.isReadOnly = false → ReadsTokens tokens .windowmouse
  | _ => True

/-- What keeps a known command inside its tokens: only some need a document. -/
def KeepsKnown (session : ClientSession) (message : Text) (tokens : List Text) : Command → Prop
  | .loolclient => 1 < tokens.length
  | .load | .setmodified => True
  | command => session.docURL ≠ [] → KeepsCommand session message tokens command

/-- What keeps a message inside its tokens. -/
structure KeepsToTokens (session : ClientSession) (message : Text) : Prop where
  notBlank : tokenize ' ' (getFirstLine message) ≠ []
  known
    : ∀ command tokens,
        messageCommand message = some (command, tokens)
        → KeepsKnown session message tokens command

variable {core : Core} {session : ClientSession} {message : Text} {malformed : Prop}

/-- An outcome without actions. -/
theorem safe_nil {ending : Ending} (returns : ending ≠ .undefined)
    : OutcomeSafe core malformed ⟨session, [], ending⟩ where
  reads := returns
  child := fun _ member => absurd member List.not_mem_nil
  rejected := fun _ _ member => absurd member List.not_mem_nil

/-- An error forwards nothing. -/
theorem safe_error (command kind : Text)
    : OutcomeSafe core malformed (Outcome.error session command kind) where
  reads := fun same => nomatch same
  child := by
    intro forwarded member
    cases List.mem_singleton.mp member
  rejected := by
    intro _ action member
    rw [List.mem_singleton.mp member]
    have split : "error: cmd=".toList = "error: ".toList ++ "cmd=".toList := by decide
    refine .inl ⟨"cmd=".toList ++ command ++ " kind=".toList ++ kind, ?_⟩
    rw [split]
    simp only [List.append_assoc]

/-- A well-formed message that is handled without the kit. -/
theorem safe_local {next : ClientSession} {actions : List Action} (wellFormed : ¬ malformed)
    (noForward : ∀ forwarded, .forwardToChild forwarded ∉ actions)
    : OutcomeSafe core malformed (.act next actions) where
  reads := fun same => nomatch same
  child := fun forwarded member => absurd member (noForward forwarded)
  rejected := fun isMalformed => absurd isMalformed wellFormed

/-- One action that forwards nothing. -/
theorem safe_local_singleton {next : ClientSession} {action : Action} (wellFormed : ¬ malformed)
    (noForward : ∀ forwarded, action ≠ .forwardToChild forwarded)
    : OutcomeSafe core malformed (.act next [action]) := by
  apply safe_local wellFormed
  intro forwarded member
  exact noForward forwarded (List.mem_singleton.mp member).symm

/-- A message that the kit handles well may be forwarded. -/
theorem safe_forward {next : ClientSession} {least : Nat} {tokens : List Text} {forwarded : Text}
    (handles : Handles least tokens (handleChildInput core forwarded))
    : OutcomeSafe core (tokens.length < least) (.act next [.forwardToChild forwarded]) where
  reads := fun same => nomatch same
  child := by
    intro other member
    rw [Action.forwardToChild.inj (List.mem_singleton.mp member)]
    exact handles.known
  rejected := by
    intro short action member
    rw [List.mem_singleton.mp member]
    obtain ⟨ending, handled, rejects⟩ := handles.rejected short
    exact .inr ⟨forwarded, ending, rfl, handled, rejects⟩

/-- A message that is forwarded is as safe as the kit's handling of it. -/
theorem safe_resetAndForward {next : ClientSession} {least : Nat} {tokens : List Text}
    {forwarded : Text} (handles : Handles least tokens (handleChildInput core forwarded))
    (enough : least ≤ tokens.length)
    : OutcomeSafe core (tokens.length < least)
        (.act next [.resetWireIdMap, .forwardToChild forwarded]) where
  reads := fun same => nomatch same
  child := by
    intro other member
    rcases List.mem_cons.mp member with same | member
    · cases same
    · rw [Action.forwardToChild.inj (List.mem_singleton.mp member)]
      exact handles.known
  rejected := fun short => absurd enough (by omega)

/-- The kit finds the same command as wsd. -/
theorem handleChildInput_of_command (core : Core) {command : Command} {tokens : List Text}
    (isCommand : messageCommand message = some (command, tokens))
    : ∃ name,
        handleChildInput core message = handleChildCommand core name tokens command
        ∧ tokens ≠ [] := by
  obtain ⟨name, rest, rfl, cut, member, found⟩ := messageCommand_eq_some isCommand
  refine ⟨name, ?_, List.cons_ne_nil _ _⟩
  have notDummy : ∀ entry ∈ commandNames, entry.1 ≠ "dummymsg".toList := by decide +kernel
  unfold handleChildInput
  dsimp only
  rw [cut]
  dsimp only
  rw [if_neg (notDummy _ member), found]

/-- The kit ignores the dummy message. -/
theorem handleChildInput_dummymsg : handleChildInput core "dummymsg".toList = some .ignored := by
  have cut : tokenize ' ' (getFirstLine "dummymsg".toList) = ["dummymsg".toList] := by decide
  unfold handleChildInput
  dsimp only
  rw [cut]
  exact if_pos rfl

/-- A command of the kit, once its tokens are there. -/
theorem handles_command {command : Command} {tokens : List Text}
    (isCommand : messageCommand message = some (command, tokens))
    (isKnown : command ∈ childCommands) (reads : ReadsTokens tokens command)
    : Handles (leastTokens command) tokens (handleChildInput core message) := by
  obtain ⟨name, handled, nonempty⟩ := handleChildInput_of_command core isCommand
  rw [handled]
  exact handleChildCommand_handles core name isKnown nonempty reads

-----------------------------------------------------------------------------------------
-- Commands
-----------------------------------------------------------------------------------------

variable {tokens : List Text} {broker : Broker} {command : Command}

/-- The wsd side asks for as many integers as it has names. -/
theorem length_of_integerTokens {names : List Text} {values : List Int32}
    (isRead : integerTokens tokens names = some values)
    : tokens.length = names.length + 1 := by
  unfold integerTokens at isRead
  split at isRead
  · cases isRead
  · next sized => exact not_not.mp sized

/-- Command values come from the cache, or the kit handles the message. -/
theorem safe_getCommandValues
    (handles : Handles (leastTokens .commandvalues) tokens (handleChildInput core message))
    : OutcomeSafe core (tokens.length < leastTokens .commandvalues)
        (Sessions.getCommandValues broker session message tokens) := by
  unfold Sessions.getCommandValues
  split
  · split
    · split
      · apply safe_local_singleton
        · exact Nat.lt_irrefl 2
        · exact fun _ same => nomatch same
      · exact safe_forward handles
    · exact safe_error _ _
  · exact safe_error _ _

/-- A font rendering comes from the cache, or the kit handles the message. -/
theorem safe_sendFontRendering
    (handles : Handles (leastTokens .renderfont) tokens (handleChildInput core message))
    (keeps : KeepsCommand session message tokens .renderfont) (nonempty : tokens ≠ [])
    : OutcomeSafe core (tokens.length < leastTokens .renderfont)
        (Sessions.sendFontRendering broker session message tokens) := by
  unfold Sessions.sendFontRendering
  split
  · exact safe_error _ _
  · next font isFont =>
      split
      · next noText =>
          match tokens, nonempty with
          | [name], _ => cases isFont
          | [name, token], _ =>
              have noFont : (getTokenString token "font".toList).isSome = false :=
                keeps name token rfl
              rw [List.getElem?_cons_succ, List.getElem?_cons_zero, Option.bind_some] at isFont
              rw [isFont] at noFont
              cases noFont
          | _ :: _ :: _ :: _, _ => cases noText
      · next text isText =>
          have several : 2 < tokens.length := (List.getElem?_eq_some_iff.mp isText).1
          dsimp only
          split
          · apply safe_local_singleton
            · exact Nat.not_lt.mpr several
            · exact fun _ same => nomatch same
          · exact safe_forward handles

/-- A request for tiles has arguments, or it is invalid. -/
theorem several_of_parsed {α : Type} {parse : List Text → Except Exception α} {parsed : α}
    (name : Text) (named : ∀ entry ∈ commandNames, entry.2 = command → entry.1 = name)
    (invalid : (parse [name]).toBool = false)
    (isCommand : messageCommand message = some (command, tokens))
    (isParsed : parse tokens = .ok parsed)
    : ¬ tokens.length < 2 := by
  obtain ⟨first, rest, rfl, -, member, -⟩ := messageCommand_eq_some isCommand
  obtain rfl := named _ member rfl
  cases rest with
  | nil =>
      rw [isParsed] at invalid
      cases invalid
  | cons second rest => simp

/-- A tile request with too few tokens is not parsed. -/
theorem safe_sendTile (isCommand : messageCommand message = some (.tile, tokens))
    : OutcomeSafe core (tokens.length < leastTokens .tile) (sendTile session tokens) := by
  unfold sendTile
  split
  · next parsed isParsed =>
      apply safe_local_singleton
      · exact several_of_parsed "tile".toList (by decide +kernel) (by decide +kernel) isCommand
          isParsed
      · exact fun _ same => nomatch same
  · exact safe_error _ _

/-- A combined request with too few tokens is not parsed. -/
theorem safe_sendCombinedTiles (isCommand : messageCommand message = some (.tilecombine, tokens))
    : OutcomeSafe core (tokens.length < leastTokens .tilecombine)
        (sendCombinedTiles session tokens) := by
  unfold sendCombinedTiles
  split
  · next parsed isParsed =>
      apply safe_local_singleton
      · exact several_of_parsed "tilecombine".toList (by decide +kernel) (by decide +kernel)
          isCommand isParsed
      · exact fun _ same => nomatch same
  · exact safe_error _ _

/-- The report of a tile is checked for its tokens. -/
theorem safe_handleTileProcessed
    : OutcomeSafe core (tokens.length < leastTokens .tileprocessed)
        (handleTileProcessed session tokens) := by
  unfold handleTileProcessed
  split
  · split
    · apply safe_local_singleton
      · exact Nat.lt_irrefl 2
      · exact fun _ same => nomatch same
    · exact safe_error _ _
  · exact safe_error _ _

/-- The handshake reads its second token. -/
theorem safe_handleLoolClient (several : 1 < tokens.length)
    : OutcomeSafe core (tokens.length < leastTokens .loolclient)
        (handleLoolClient broker session tokens) := by
  unfold handleLoolClient
  split
  · split
    · exact safe_nil (fun same => nomatch same)
    · split
      · exact safe_error _ _
      · apply safe_local
        · exact Nat.not_lt.mpr several
        · intro forwarded member
          rcases List.mem_cons.mp member with same | member
          · cases same
          · cases List.mem_singleton.mp member
  · next short =>
      match tokens, several with
      | first :: second :: rest, _ => exact absurd rfl (short first second rest)

/-- The removal of a session reads its second token. -/
theorem safe_handleRemoveSession (several : 1 < tokens.length) (firstLine : Text)
    : OutcomeSafe core (tokens.length < leastTokens .removesession)
        (handleRemoveSession session firstLine tokens) := by
  unfold handleRemoveSession
  rw [List.getElem?_eq_getElem several]
  dsimp only
  split
  · exact safe_nil (fun same => nomatch same)
  · apply safe_local
    · exact Nat.not_lt.mpr several
    · intro forwarded member
      rcases List.mem_cons.mp member with same | member
      · cases same
      · cases List.mem_singleton.mp member

/-- A new file name is checked for its token. -/
theorem safe_handleRenameFile {host : Host}
    : OutcomeSafe core (tokens.length < leastTokens .renamefile)
        (handleRenameFile host session tokens) := by
  unfold handleRenameFile
  split
  · exact safe_error _ _
  · next named =>
      have several : 1 < tokens.length := by
        by_contra short
        rw [renamedFile, List.getElem?_eq_none (by omega)] at named
        cases named
      dsimp only
      split
      · exact safe_nil (fun same => nomatch same)
      · apply safe_local_singleton
        · exact Nat.not_lt.mpr several
        · exact fun _ same => nomatch same

/-- To close the document takes no token. -/
theorem safe_handleCloseDocument (wellFormed : ¬ malformed)
    : OutcomeSafe core malformed (handleCloseDocument broker session) := by
  unfold handleCloseDocument
  split
  · exact safe_local_singleton wellFormed (fun _ same => nomatch same)
  · split
    · exact safe_local_singleton wellFormed (fun _ same => nomatch same)
    · exact safe_nil (fun same => nomatch same)

/-- To save takes options only. -/
theorem safe_handleSave {host : Host} (wellFormed : ¬ malformed)
    : OutcomeSafe core malformed
        (if session.isReadOnly then Outcome.act session []
          else handleSave host session tokens) := by
  split
  · exact safe_nil (fun same => nomatch same)
  · unfold handleSave
    dsimp only
    split
    · split
      · exact safe_nil (fun same => nomatch same)
      · exact safe_local_singleton wellFormed (fun _ same => nomatch same)
    · exact safe_local_singleton wellFormed (fun _ same => nomatch same)

/-- A load message is answered with errors, or forwarded as a load message. -/
theorem handleLoad_cases (host : Host) (session : Session) (tokens : List Text)
    : ((handleLoad host session tokens).forwarded = none
        ∧ ∀ frame ∈ (handleLoad host session tokens).sent,
            ∃ text, frame = "error: ".toList ++ text)
      ∨ (1 < tokens.length
        ∧ ∃ parsed, (handleLoad host session tokens).forwarded = some (loadMessage host parsed)) := by
  have isError (kind : Text) (starts : "error: ".toList.isPrefixOf kind = true)
      : ∀ frame ∈ [kind], ∃ text, frame = "error: ".toList ++ text := by
    intro frame member
    rw [List.mem_singleton.mp member]
    obtain ⟨text, split⟩ := List.isPrefixOf_iff_prefix.mp starts
    exact ⟨text, split.symm⟩
  unfold handleLoad loadDocument
  split
  · exact .inl ⟨rfl, isError _ (by decide)⟩
  · split
    · exact .inl ⟨rfl, isError _ (by decide)⟩
    · next several =>
        split
        · exact .inl ⟨rfl, isError _ (by decide)⟩
        · exact .inl ⟨rfl, fun _ member => absurd member List.not_mem_nil⟩
        · exact .inr ⟨by omega, _, rfl⟩

/-- The command load: the kit only says that a document is loaded already. -/
theorem safe_handleLoadCommand {host : Host}
    : OutcomeSafe core (tokens.length < leastTokens .load)
        (handleLoadCommand host session tokens) := by
  have inKit : ∀ forwarded,
      .forwardToChild forwarded ∈ (handleLoadCommand host session tokens).actions
      → 1 < tokens.length
        ∧ ∃ ending, handleChildInput core forwarded = some ending ∧ ending ≠ .assertion := by
    intro forwarded member
    rcases List.mem_append.mp member with sent | member
    · obtain ⟨frame, -, same⟩ := List.mem_map.mp sent
      cases same
    · rcases handleLoad_cases host session.toSession tokens with ⟨nothing, -⟩ | ⟨several, parsed, loads⟩
      · rw [nothing] at member
        exact absurd member List.not_mem_nil
      · rw [loads] at member
        obtain rfl := Action.forwardToChild.inj (List.mem_singleton.mp member)
        obtain ⟨loadTokens, isLoad⟩ := messageCommand_loadMessage host parsed
        exact ⟨several, (handles_command isLoad (by decide) trivial).known⟩
  refine ⟨?_, fun forwarded member => (inKit forwarded member).2, ?_⟩
  · rw [handleLoadCommand]
    dsimp only
    split <;> exact fun same => nomatch same
  · intro short action member
    rcases handleLoad_cases host session.toSession tokens with ⟨nothing, errors⟩ | ⟨several, -⟩
    · rcases List.mem_append.mp member with sent | member
      · obtain ⟨frame, sends, rfl⟩ := List.mem_map.mp sent
        obtain ⟨text, rfl⟩ := errors frame sends
        exact .inl ⟨text, rfl⟩
      · rw [nothing] at member
        exact absurd member List.not_mem_nil
    · exact absurd short (Nat.not_lt.mpr several)

/-- The filter hands a message on, or a dummy in its place. -/
theorem safe_handleFiltered (isKnown : command ∈ childCommands)
    (isCommand : messageCommand message = some (command, tokens))
    (reads
      : session.filterMessage (getFirstLine message) = true → ReadsTokens tokens command)
    : OutcomeSafe core (tokens.length < leastTokens command)
        (handleFiltered session message command) := by
  have sameFilter
      : (if command = .key then { session with keyEvents := session.keyEvents + 1 }
          else session).filterMessage (getFirstLine message)
        = session.filterMessage (getFirstLine message) := by
    split <;> rfl
  unfold handleFiltered
  dsimp only
  rw [sameFilter]
  split
  · apply safe_forward
    rw [handleChildInput_dummymsg]
    exact handles_of_rejects rfl
  · next allowed =>
      split
      · exact safe_forward
          (handles_command isCommand isKnown (reads (Bool.not_eq_false _ |>.mp allowed)))
      · exact safe_nil (fun same => by cases same)

/-- A read-only session does not get the kit's two unchecked commands past the filter. -/
theorem writable_of_filter (isCommand : messageCommand message = some (command, tokens))
    (unchecked : command = .paintwindow ∨ command = .windowmouse)
    (allowed : session.filterMessage (getFirstLine message) = true)
    : session.isReadOnly = false := by
  by_contra readOnly
  have filtered := filterMessage_readOnly isCommand (Bool.not_eq_false _ |>.mp readOnly)
    (by rcases unchecked with rfl | rfl <;> decide +kernel)
  rw [filtered] at allowed
  cases allowed

/-- The two unchecked commands pass the filter of a writable session. -/
theorem filter_of_writable (isCommand : messageCommand message = some (command, tokens))
    (unchecked : command = .paintwindow ∨ command = .windowmouse)
    (writable : session.isReadOnly = false)
    : session.filterMessage (getFirstLine message) = true := by
  obtain ⟨name, rest, -, member, cut⟩ := filter_tokens isCommand
  have unlisted
      : ∀ entry ∈ commandNames,
          (entry.2 = .paintwindow ∨ entry.2 = .windowmouse)
          → entry.1
              ∉ ["downloadas".toList, "gettextselection".toList, ".uno:Copy".toList] := by
    decide +kernel
  have other := unlisted _ member unchecked
  simp only [List.mem_cons, List.not_mem_nil, or_false, not_or] at other
  simp only [ClientSession.filterMessage, cut, writable, List.head?_cons, Option.some.injEq,
    other, or_self, if_false, Bool.false_eq_true]

/-- A command for a loaded document is safe if it keeps to its tokens. -/
theorem safe_handleCommand (isCommand : messageCommand message = some (command, tokens))
    (inDocument : command ∉ [.loolclient, .load, .setmodified])
    (keeps : KeepsCommand session message tokens command)
    : OutcomeSafe core (tokens.length < leastTokens command)
        (handleCommand core.host broker session message tokens command) := by
  obtain ⟨-, -, nonempty⟩ := handleChildInput_of_command core isCommand
  have wellFormed : ¬ tokens.length < 1 := Nat.not_lt.mpr (List.length_pos_of_ne_nil nonempty)
  have firstLine := (messageCommand_getFirstLine message).trans isCommand
  cases command with
  | loolclient | load | setmodified => exact absurd inDocument (by decide)
  | canceltiles | partpagerectangles | ping =>
      exact safe_local_singleton wellFormed (fun _ same => by cases same)
  | closedocument => exact safe_handleCloseDocument wellFormed
  | versionrestore =>
      rw [handleCommand]
      split
      · next restore =>
          apply safe_local_singleton
          · exact Nat.not_lt.mpr (List.getElem?_eq_some_iff.mp restore).1
          · exact fun _ same => by cases same
      · exact safe_nil (fun same => by cases same)
  | save => exact safe_handleSave wellFormed
  | savetostorage =>
      apply safe_local wellFormed
      intro forwarded member
      rcases List.mem_cons.mp member with same | member
      · cases same
      · split at member
        · cases List.mem_singleton.mp member
        · exact List.not_mem_nil member
  | statusupdate => exact keeps.elim
  | status | getunostates | runmacroCommand =>
      exact safe_forward (handles_command firstLine (by decide) trivial)
  | commandvalues => exact safe_getCommandValues (handles_command isCommand (by decide) trivial)
  | renderfont =>
      exact safe_sendFontRendering (handles_command isCommand (by decide) trivial) keeps nonempty
  | tile => exact safe_sendTile isCommand
  | tilecombine => exact safe_sendCombinedTiles isCommand
  | tileprocessed => exact safe_handleTileProcessed
  | removesession => exact safe_handleRemoveSession keeps _
  | renamefile => exact safe_handleRenameFile
  | clientvisiblearea | clientzoom =>
      rw [handleCommand]
      split
      · next areRead =>
          exact safe_resetAndForward (handles_command isCommand (by decide) trivial)
            (length_of_integerTokens areRead).ge
      · exact safe_error _ _
  | setclientpart =>
      rw [handleCommand]
      split
      · exact safe_nil (fun same => by cases same)
      · split
        · next isRead =>
            exact safe_resetAndForward (handles_command isCommand (by decide) trivial)
              (length_of_integerTokens isRead).ge
        · exact safe_error _ _
  | selectclientpart | moveselectedclientparts =>
      rw [handleCommand]
      split
      · exact safe_nil (fun same => by cases same)
      · split
        · exact safe_forward (handles_command isCommand (by decide) trivial)
        · exact safe_error _ _
  | paintwindow =>
      exact safe_handleFiltered (by decide) isCommand
        (fun allowed => keeps (writable_of_filter isCommand (.inl rfl) allowed))
  | windowmouse =>
      exact safe_handleFiltered (by decide) isCommand
        (fun allowed => keeps (writable_of_filter isCommand (.inr rfl) allowed))
  | _ => exact safe_handleFiltered (by decide) isCommand (fun _ => trivial)

-----------------------------------------------------------------------------------------
-- All messages
-----------------------------------------------------------------------------------------

/-- A known command, by the cases in which it is handled before a document is loaded. -/
theorem safe_handleKnown (isCommand : messageCommand message = some (command, tokens))
    (keeps : KeepsKnown session message tokens command) (name : Text)
    : OutcomeSafe core (tokens.length < leastTokens command)
        (handleKnown core.host broker session message name tokens command) := by
  obtain ⟨-, -, nonempty⟩ := handleChildInput_of_command core isCommand
  have wellFormed : ¬ tokens.length < 1 := Nat.not_lt.mpr (List.length_pos_of_ne_nil nonempty)
  unfold handleKnown
  split
  · exact safe_handleLoolClient keeps
  · exact safe_handleLoadCommand
  · exact safe_local_singleton wellFormed (fun _ same => nomatch same)
  · next notLoolClient notLoad notSetModified =>
      split
      · exact safe_error _ _
      · next loaded =>
          apply safe_handleCommand isCommand
          · simp only [List.mem_cons, List.not_mem_nil, or_false, not_or]
            exact ⟨notLoolClient, notLoad, notSetModified⟩
          · unfold KeepsKnown at keeps
            split at keeps
            · exact absurd rfl notLoolClient
            · exact absurd rfl notLoad
            · exact absurd rfl notSetModified
            · exact keeps loaded

/-- The first line is the whole message if and only if there is no line end. -/
theorem getFirstLine_length_iff
    : (getFirstLine message).length = message.length ↔ '\n' ∉ message := by
  constructor
  · intro whole
    have same : getFirstLine message = message :=
      (List.takeWhile_prefix _).eq_of_length whole
    exact same ▸ not_mem_getFirstLine message
  · intro oneLine
    rw [getFirstLine, List.takeWhile_eq_self_iff.mpr]
    intro c member
    exact bne_iff_ne.mpr (fun newline => oneLine (newline ▸ member))

/-- The assertion on the length holds exactly where the message is one line. -/
theorem assertsLength_of_keeps (keeps : KeepsToTokens session message)
    : AssertsLength session message := by
  intro command tokens isCommand isStatus loaded
  have known := keeps.known command tokens isCommand
  rcases isStatus with rfl | rfl
  · exact getFirstLine_length_iff.mpr (known loaded)
  · exact (known loaded).elim

/-- A message with a known command is handled as that. -/
theorem handleInput_of_command (host : Host) (broker : Broker) (session : ClientSession)
    (isCommand : messageCommand message = some (command, tokens))
    : ∃ name,
        handleInput host broker session message
        = handleKnown host broker session message name tokens command := by
  obtain ⟨name, rest, rfl, cut, -, found⟩ := messageCommand_eq_some isCommand
  refine ⟨name, ?_⟩
  unfold handleInput
  dsimp only
  rw [cut]
  dsimp only
  rw [found]

/-- A message with its tokens is safe, by whether it has a known command. -/
theorem tokenSafe_of_keeps (keeps : KeepsToTokens session message)
    : TokenSafe core broker session message := by
  refine ⟨?_, assertsLength_of_keeps keeps⟩
  cases isCommand : messageCommand message with
  | some known =>
      obtain ⟨command, tokens⟩ := known
      obtain ⟨name, handled⟩ := handleInput_of_command core.host broker session isCommand
      have safe : OutcomeSafe core (tokens.length < leastTokens command)
          (handleKnown core.host broker session message name tokens command) :=
        safe_handleKnown isCommand (keeps.known _ _ isCommand) name
      rw [handled]
      exact ⟨safe.reads, safe.child, fun bad => safe.rejected (bad _ _ isCommand)⟩
  | none =>
      unfold handleInput
      dsimp only
      cases cut : tokenize ' ' (getFirstLine message) with
      | nil => exact absurd cut keeps.notBlank
      | cons name rest =>
          dsimp only
          cases found : commandOf name with
          | none => exact safe_error _ _
          | some command => simp [messageCommand, cut, found] at isCommand

/-- A message for a loaded document goes to the handler of its command. -/
theorem handleInput_of_loaded {host : Host}
    (isCommand : messageCommand message = some (command, tokens))
    (inDocument : command ∉ [.loolclient, .load, .setmodified]) (loaded : session.docURL ≠ [])
    : handleInput host broker session message
      = handleCommand host broker session message tokens command := by
  obtain ⟨name, handled⟩ := handleInput_of_command host broker session isCommand
  rw [handled]
  simp only [List.mem_cons, List.not_mem_nil, or_false, not_or] at inDocument
  unfold handleKnown
  split
  · exact absurd rfl inDocument.1
  · exact absurd rfl inDocument.2.1
  · exact absurd rfl inDocument.2.2
  · exact if_neg loaded

-----------------------------------------------------------------------------------------
-- Messages that overrun
-----------------------------------------------------------------------------------------

/-- An unchecked command of a writable session reaches the kit, which then has to find its
tokens.
-/
theorem readsTokens_of_safe (isCommand : messageCommand message = some (command, tokens))
    (unchecked : command = .paintwindow ∨ command = .windowmouse)
    (loaded : session.docURL ≠ []) (safe : TokenSafe core broker session message)
    (writable : session.isReadOnly = false)
    : ReadsTokens tokens command := by
  have allowed := filter_of_writable isCommand unchecked writable
  have forwards : .forwardToChild message
      ∈ (handleInput core.host broker session message).actions := by
    rw [handleInput_of_loaded isCommand (by rcases unchecked with rfl | rfl <;> decide) loaded]
    have filtered : handleCommand core.host broker session message tokens command
        = handleFiltered session message command := by
      rcases unchecked with rfl | rfl <;> rfl
    have notKey : command ≠ .key := by rcases unchecked with rfl | rfl <;> decide
    have notRequest : command ≠ .requestloksession := by
      rcases unchecked with rfl | rfl <;> decide
    rw [filtered, handleFiltered, if_neg notKey, if_neg (Bool.not_eq_false _ |>.mpr allowed),
      if_pos notRequest]
    exact List.mem_singleton_self _
  obtain ⟨ending, handled, -⟩ := safe.outcome.child message forwards
  obtain ⟨name, same, -⟩ := handleChildInput_of_command core isCommand
  apply readsTokens_of_isSome core name
  rw [← same, handled]
  rfl

/-- A message that is safe has the tokens of its command, by cases on the commands that read
unchecked ones.
-/
theorem keepsCommand_of_safe (isCommand : messageCommand message = some (command, tokens))
    (loaded : session.docURL ≠ []) (safe : TokenSafe core broker session message)
    : KeepsCommand session message tokens command := by
  cases command with
  | status =>
      exact getFirstLine_length_iff.mp (safe.asserts _ _ isCommand (.inl rfl) loaded)
  | statusupdate =>
      have outcome := safe.outcome
      rw [handleInput_of_loaded isCommand (by decide) loaded] at outcome
      obtain ⟨ending, handled, known⟩ :=
        outcome.child (getFirstLine message) (List.mem_singleton_self _)
      obtain ⟨name, same, -⟩ := handleChildInput_of_command core
        ((messageCommand_getFirstLine message).trans isCommand)
      rw [same] at handled
      exact known (Option.some.inj handled).symm
  | renderfont =>
      rintro name font rfl
      by_contra isFont
      apply safe.outcome.reads
      rw [handleInput_of_loaded isCommand (by decide) loaded]
      obtain ⟨value, named⟩ := Option.isSome_iff_exists.mp (Bool.not_eq_false _ |>.mp isFont)
      rw [handleCommand, Sessions.sendFontRendering, List.getElem?_cons_succ,
        List.getElem?_cons_zero, Option.bind_some, named]
      rfl
  | removesession =>
      by_contra short
      apply safe.outcome.reads
      rw [handleInput_of_loaded isCommand (by decide) loaded, handleCommand,
        handleRemoveSession, List.getElem?_eq_none (Nat.not_lt.mp short)]
  | paintwindow => exact readsTokens_of_safe isCommand (.inl rfl) loaded safe
  | windowmouse => exact readsTokens_of_safe isCommand (.inr rfl) loaded safe
  | _ => trivial

/-- A message that is safe has its tokens, as every one that is missing is read or asserted. -/
theorem keeps_of_tokenSafe (safe : TokenSafe core broker session message)
    : KeepsToTokens session message := by
  refine ⟨?_, ?_⟩
  · intro blank
    apply safe.outcome.reads
    unfold handleInput
    dsimp only
    rw [blank]
  · intro command tokens isCommand
    unfold KeepsKnown
    split
    · by_contra short
      apply safe.outcome.reads
      obtain ⟨name, handled⟩ := handleInput_of_command core.host broker session isCommand
      rw [handled]
      match tokens, short with
      | [], _ => rfl
      | [_], _ => rfl
      | _ :: _ :: _, short => exact absurd (by simp) short
    · trivial
    · trivial
    · exact fun loaded => keepsCommand_of_safe isCommand loaded safe

/-- A client's message leads no dispatcher outside of its tokens and no assertion fails exactly
if it keeps to its tokens: it is not blank, its command is one of the few with an unchecked
argument only if that argument is there, and it does not ask for the status in a way that
wsd or the kit does not expect.
-/
theorem handleInput_tokenSafe_iff (core : Core) (broker : Broker) (session : ClientSession)
    (message : Text)
    : TokenSafe core broker session message ↔ KeepsToTokens session message :=
  ⟨keeps_of_tokenSafe, tokenSafe_of_keeps⟩

def plainCore : Core where
  host := plainHost
  uri _ := none

/-- Without its version, the first message of a client reads a second token in wsd; a mouse
event for a window that is none reads a sixth one in the kit.
-/
theorem handleInput_overruns
    : ¬ TokenSafe plainCore emptyBroker (loadedSession false false) "loolclient".toList
      ∧ ¬ TokenSafe plainCore emptyBroker (loadedSession false false)
            "windowmouse id= type=move x=0 y=0".toList := by
  refine ⟨fun safe => ?_, fun safe => ?_⟩
  · have undefined
        : (handleInput plainHost emptyBroker (loadedSession false false)
            "loolclient".toList).ending = .undefined := by
      decide +kernel
    exact safe.outcome.reads undefined
  · have forwards
        : (handleInput plainHost emptyBroker (loadedSession false false)
            "windowmouse id= type=move x=0 y=0".toList).actions
          = [.forwardToChild "windowmouse id= type=move x=0 y=0".toList] := by
      decide +kernel
    have overruns
        : handleChildInput plainCore "windowmouse id= type=move x=0 y=0".toList = none := by
      decide +kernel
    obtain ⟨ending, handled, -⟩ := safe.outcome.child "windowmouse id= type=move x=0 y=0".toList
      (forwards ▸ List.mem_singleton_self _)
    rw [overruns] at handled
    cases handled

end NdcOdfWeb.Kit
