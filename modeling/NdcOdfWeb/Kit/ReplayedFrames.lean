import NdcOdfWeb.Kit.Replay

/-! The frames of a replay: what each event sends, and what the client invalidates. -/

namespace NdcOdfWeb.Kit

open NdcOdfWeb.Foundation
open NdcOdfWeb.Protocol
open NdcOdfWeb.Tiles
open NdcOdfWeb.Rendering

/-- What an active session sends for a callback. -/
def messages (json : Json) (office : Office) (session : ChildSession) (event : RecordedEvent)
    : List Text :=
  (sendCallback json office session event.type event.payload).getD []

/-- A frame is an invalidation of a point in a part, as the receiver reads it; the part -1
stands for all.
-/
def Invalidates (frame : Text) (part : Int) (point : Int × Int) : Prop :=
  "invalidatetiles:".toList <+: frame
  ∧ ∃ read : Int32 × Rectangle,
      readInvalidateMsg frame = .ok (some read)
      ∧ (read.1 = -1 ∨ read.1.toInt = part)
      ∧ point
        ∈ closedArea read.2.x1.toInt read.2.y1.toInt
            (read.2.x1.toInt + (read.2.x2 - read.2.x1).toInt)
            (read.2.y1.toInt + (read.2.y2 - read.2.y1).toInt)

-----------------------------------------------------------------------------------------
-- Reading an invalidation
-----------------------------------------------------------------------------------------

/-- The number behind the name is read back. -/
theorem integerToken_word {name : String} (clean : '=' ∉ name.toList) (value : Int32)
    : integerToken (word name (showInt value.toInt)) name = some value := by
  have named : hasName (word name (showInt value.toInt)) name.toList = true :=
    (hasName_iff clean clean).mpr rfl
  have digits : 0 < (showInt value.toInt).length := List.length_pos_iff.mpr (showInt_ne_nil _)
  have long : (word name (showInt value.toInt)).length > name.toList.length + 1 := by
    simp only [word, List.length_append, List.length_cons]
    omega
  have text : (word name (showInt value.toInt)).drop (name.toList.length + 1)
      = showInt value.toInt := by
    simp [word, List.drop_append]
  have scanned := scanNumber_showInt value.toInt endsNumber_nil
  have read := atoi_showInt value endsNumber_nil
  rw [List.append_nil] at scanned read
  rw [integerToken, getTokenInteger, if_pos ⟨long, named⟩]
  simp only [text, scanned, read, Option.isSome_some]

/-- The command, and its five words. -/
theorem invalidatetiles_eq (part x y width height : Int32)
    : invalidatetiles part x y width height
      = "invalidatetiles:".toList
        ++ spaced ' '
            [word "part" (showInt part.toInt), word "x" (showInt x.toInt),
              word "y" (showInt y.toInt), word "width" (showInt width.toInt),
              word "height" (showInt height.toInt)] := by
  have field (name : String) (shown : Text) (same : shown = ' ' :: (name.toList ++ ['=']))
      (value rest : Text)
      : shown ++ (value ++ rest) = ' ' :: (word name value ++ rest) := by
    rw [same, word]
    simp
  have last (name : String) (shown : Text) (same : shown = ' ' :: (name.toList ++ ['=']))
      (value : Text)
      : shown ++ value = ' ' :: word name value := by
    rw [same, word]
    simp
  unfold invalidatetiles
  simp only [List.append_assoc, spaced_cons, spaced_nil, List.append_nil]
  rw [field "part" " part=".toList (by decide), field "x" " x=".toList (by decide),
    field "y" " y=".toList (by decide), field "width" " width=".toList (by decide),
    last "height" " height=".toList (by decide)]

/-- The receiver reads the part and the rectangle back. -/
theorem readInvalidateMsg_invalidatetiles (part x y width height : Int32)
    : readInvalidateMsg (invalidatetiles part x y width height)
      = .ok (some (part, .ofSize x y width height)) := by
  have clean (name : String) (blank : ∀ c ∈ name.toList, isSpace c = false) (value : Int32)
      : ∀ c ∈ word name (showInt value.toInt), isSpace c = false := by
    intro c member
    rw [word, List.mem_append, List.mem_cons] at member
    rcases member with inName | rfl | inValue
    · exact blank c inName
    · decide
    · rcases mem_showInt inValue with rfl | digit
      · decide
      · exact isSpace_of_isDigit digit
  have trimmed (name : String) (blank : ∀ c ∈ name.toList, isSpace c = false) (value : Int32)
      : trim (word name (showInt value.toInt)) = word name (showInt value.toInt) :=
    trim_of_clean (clean name blank value)
  have token (name : String) (blank : ∀ c ∈ name.toList, isSpace c = false) (value : Int32)
      : ' ' ∉ word name (showInt value.toInt) ∧ trim (word name (showInt value.toInt)) ≠ [] := by
    refine ⟨fun member => absurd (clean name blank value _ member) (by decide), ?_⟩
    rw [trimmed name blank]
    simp [word]
  have tokens
      : stringTokenizer ' ' (invalidatetiles part x y width height)
        = [
            "invalidatetiles:".toList, word "part" (showInt part.toInt),
            word "x" (showInt x.toInt), word "y" (showInt y.toInt),
            word "width" (showInt width.toInt), word "height" (showInt height.toInt)
          ] := by
    have name : trim "invalidatetiles:".toList = "invalidatetiles:".toList := by decide
    rw [invalidatetiles_eq, stringTokenizer_spaced]
    · simp only [List.map_cons, List.map_nil, name, trimmed "part" (by decide),
        trimmed "x" (by decide), trimmed "y" (by decide), trimmed "width" (by decide),
        trimmed "height" (by decide)]
    · simp only [List.forall_mem_cons]
      exact ⟨by decide, token "part" (by decide) part, token "x" (by decide) x,
        token "y" (by decide) y, token "width" (by decide) width,
        token "height" (by decide) height, List.forall_mem_nil _⟩
  rw [readInvalidateMsg, tokens]
  simp only [integerToken_word (by decide : '=' ∉ "part".toList),
    integerToken_word (by decide : '=' ∉ "x".toList),
    integerToken_word (by decide : '=' ∉ "y".toList),
    integerToken_word (by decide : '=' ∉ "width".toList),
    integerToken_word (by decide : '=' ∉ "height".toList)]
  rfl

-----------------------------------------------------------------------------------------
-- What the replayed events send
-----------------------------------------------------------------------------------------

/-- The four numbers of the whole document, and the part. -/
theorem wholePayload_eq (part : Int32)
    : wholePayload part
      = "0".toList
        ++ spaced ','
            [" 0".toList, " 2147483647".toList, " 2147483647".toList,
              ' ' :: showInt part.toInt] := by
  have number : showInt Int32.maxValue.toInt = "2147483647".toList := by decide +kernel
  have front
      : "0, 0, ".toList ++ "2147483647".toList ++ ", ".toList ++ "2147483647".toList
          ++ ", ".toList
        = "0".toList
          ++ spaced ',' [" 0".toList, " 2147483647".toList, " 2147483647".toList]
          ++ [',', ' '] := by
    decide
  unfold wholePayload
  simp only [number]
  rw [front]
  simp only [spaced_cons, spaced_nil, List.append_assoc, List.cons_append, List.nil_append,
    List.append_nil]

/-- Writer renders everything as part 0. -/
def shownPart (docType : LibreOfficeKitDocumentType) (part : Int32) : Int32 :=
  if docType = .text then 0 else part

/-- The numbers fit an int, so the message has them all. -/
theorem invalidateMessage_whole (docType : LibreOfficeKitDocumentType) (part : Int32)
    : invalidateMessage docType (wholePayload part)
      = some (invalidatetiles (shownPart docType part) 0 0 Int32.maxValue Int32.maxValue) := by
  have blank : ∀ c ∈ showInt part.toInt, isSpace c = false := by
    intro c member
    rcases mem_showInt member with rfl | digit
    · decide
    · exact isSpace_of_isDigit digit
  have trimmed : trim (' ' :: showInt part.toInt) = showInt part.toInt := by
    rw [trim, List.dropWhile_cons_of_pos (by decide)]
    exact trim_of_clean blank
  have tokens
      : stringTokenizer ',' (wholePayload part)
        = ["0".toList, "0".toList, "2147483647".toList, "2147483647".toList,
            showInt part.toInt] := by
    have zero : trim "0".toList = "0".toList := by decide
    have zero' : trim " 0".toList = "0".toList := by decide
    have number : trim " 2147483647".toList = "2147483647".toList := by decide
    rw [wholePayload_eq, stringTokenizer_spaced]
    · simp only [List.map_cons, List.map_nil, trimmed]
      rw [zero, zero', number]
    · simp only [List.forall_mem_cons, trimmed]
      refine ⟨by decide, by decide, by decide, by decide, ⟨?_, showInt_ne_nil _⟩,
        List.forall_mem_nil _⟩
      rw [List.mem_cons, not_or]
      exact ⟨by decide, not_mem_showInt _ (by decide) (by decide)⟩
  have zero : stoi "0".toList = .ok 0 := by decide
  have largest : stoi "2147483647".toList = .ok Int32.maxValue := by decide +kernel
  have read := stoi_showInt part endsNumber_nil
  rw [List.append_nil] at read
  have here : invalidatedPart docType (showInt part.toInt) = .ok (shownPart docType part) := by
    rw [invalidatedPart, read, shownPart]
    split <;> rfl
  rw [invalidateMessage, tokens]
  dsimp only
  rw [invalidateRectangle, zero, largest, here]
  rfl

/-- A frame with another name is no invalidation. -/
theorem not_invalidatetiles {name : Text}
    (other : ¬ "invalidatetiles:".toList <+: name ∧ ¬ name <+: "invalidatetiles:".toList)
    (rest : Text)
    : ¬ "invalidatetiles:".toList <+: name ++ rest := by
  intro starts
  rcases List.prefix_or_prefix_of_prefix starts (List.prefix_append name rest) with
    first | second
  · exact other.1 first
  · exact other.2 second

/-- A callback that was recorded, other than an invalidation, throws nothing and invalidates
nothing.
-/
theorem sendCallback_recorded (json : Json) (office : Office) (session : ChildSession)
    {type : LibreOfficeKitCallbackType} (payload : Text)
    (kind : kindOf type ≠ .invalidation ∧ kindOf type ≠ .nothing)
    : ∃ frames,
        sendCallback json office session type payload = some frames
        ∧ ∀ frame ∈ frames, ¬ "invalidatetiles:".toList <+: frame := by
  have named (name : String)
      (other : ¬ "invalidatetiles:".toList <+: name.toList
        ∧ ¬ name.toList <+: "invalidatetiles:".toList)
      (rest : Text)
      : ∀ frame ∈ [name.toList ++ rest], ¬ "invalidatetiles:".toList <+: frame := by
    intro frame member
    rw [List.mem_singleton.mp member]
    exact not_invalidatetiles other rest
  cases type
  case documentSizeChanged =>
    refine ⟨_, rfl, ?_⟩
    unfold getStatus
    split
    · exact nofun
    · exact named "status: " (by decide) _
  all_goals first
    | exact absurd rfl kind.1
    | exact absurd rfl kind.2
    | exact ⟨_, rfl, named _ (by decide) payload⟩

/-- Neither invalidations nor unrecorded events are replayed. -/
theorem Recorded.kind_of_mem {json : Json} {recorder : StateRecorder}
    {missed : List RecordedEvent} (recorded : Recorded json recorder missed)
    (iteration : Iteration) {event : RecordedEvent}
    (member : event ∈ recorder.replayed iteration)
    : kindOf event.type ≠ .invalidation ∧ kindOf event.type ≠ .nothing := by
  rw [StateRecorder.replayed, List.mem_append] at member
  rcases member with keyed | sequence
  · obtain ⟨key, last⟩ := recorder.last_of_mem iteration keyed
    have found := recorded.key_of_last last
    unfold keyOf at found
    split at found <;> simp_all
  · rw [recorded.sequence] at sequence
    have kind := of_decide_eq_true (List.mem_filter.mp sequence).2
    simp [kind]

/-- Events that throw nothing are sent one after the other. -/
theorem loKitCallbacks_eq {json : Json} {office : Office} {session : ChildSession}
    (opened : session.isCloseFrame = false) (connected : session.isDisconnected = false)
    (active : session.isActive = true) {events : List RecordedEvent}
    (safe
      : ∀ event ∈ events,
          event.type ≠ .clipboardChanged
          ∧ (sendCallback json office session event.type event.payload).isSome = true)
    : loKitCallbacks json office events session
      = some (events.flatMap (messages json office session), session) := by
  induction events with
  | nil => rfl
  | cons event events ih =>
      obtain ⟨here, rest⟩ := List.forall_mem_cons.mp safe
      obtain ⟨frames, sent⟩ := Option.isSome_iff_exists.mp here.2
      have first
          : loKitCallback json office session event.type event.payload
            = some (messages json office session event, session) := by
        simp [loKitCallback, opened, connected, active, messages, sent, here.1]
      rw [loKitCallbacks, first, List.flatMap_cons]
      dsimp only
      rw [ih rest]
      rfl

section Sent

variable {json : Json} {session : ChildSession} {missed : List RecordedEvent}
  (recorded : Recorded json session.stateRecorder missed) (iteration : Iteration)
  (office : Office)

/-- A text document's current part is 0 already. -/
theorem curPart_shown
    : shownPart session.docType (curPart office session) = curPart office session := by
  unfold shownPart curPart
  split <;> rfl

/-- One invalidation, if one was missed. -/
theorem messages_replayedInvalidation
    : (replayedInvalidation office session).flatMap (messages json office session)
      = if session.stateRecorder.invalidate then
          [invalidatetiles (curPart office session) 0 0 Int32.maxValue Int32.maxValue]
        else [] := by
  unfold replayedInvalidation
  split
  · simp [messages, sendCallback, invalidateMessage_whole, curPart_shown]
  · rfl

include recorded

/-- Everything that is replayed is sent, and the session starts over. -/
theorem userActive_eq (opened : session.isCloseFrame = false)
    (connected : session.isDisconnected = false)
    : userActive json iteration office session
      = (partFrames office session
          ++ (replayedEvents iteration office session).flatMap (messages json office session),
          { session with isActive := true, stateRecorder := .clear }) := by
  have sent := @loKitCallbacks_eq json office { session with isActive := true } opened connected
    rfl (replayedEvents iteration office session) (by
      intro event member
      rcases List.mem_append.mp member with invalidation | replayed
      · unfold replayedInvalidation at invalidation
        split at invalidation
        · cases List.mem_singleton.mp invalidation
          simp [sendCallback, invalidateMessage_whole]
        · cases invalidation
      · have kind := recorded.kind_of_mem iteration replayed
        obtain ⟨frames, sent, -⟩ :=
          sendCallback_recorded json office { session with isActive := true } event.payload kind
        refine ⟨fun clipboard => kind.2 (by rw [clipboard]; rfl), ?_⟩
        rw [sent]
        rfl)
  unfold userActive
  dsimp only
  rw [sent]
  rfl

end Sent

end NdcOdfWeb.Kit
