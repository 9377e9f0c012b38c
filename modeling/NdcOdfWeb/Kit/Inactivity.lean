import NdcOdfWeb.Kit.ReplayedFrames

/-! Runs of a session in the kit: what a user catches up on after an inactive time. -/

namespace NdcOdfWeb.Kit

open NdcOdfWeb.Foundation
open NdcOdfWeb.Protocol
open NdcOdfWeb.Rendering

inductive SessionEvent where
  | callback (office : Office) (type : LibreOfficeKitCallbackType) (payload : Text)
  | useractive (office : Office)
  | userinactive

/-- A session, with the callbacks that it got since its user is inactive. -/
structure Watched where
  session : ChildSession
  missed : List RecordedEvent

/-- A new session is active. -/
def Watched.start (docType : LibreOfficeKitDocumentType) : Watched where
  session :=
    {
      isCloseFrame := false
      isDisconnected := false
      isActive := true
      docType
      copyToClipboard := false
      stateRecorder := .clear
    }
  missed := []

/-- One event; an exception leaves the session as it was. -/
def watch (json : Json) (iteration : Iteration) (watched : Watched) : SessionEvent → Watched
  | .callback office type payload =>
      {
        session :=
          ((loKitCallback json office watched.session type payload).map Prod.snd).getD
            watched.session
        missed :=
          if watched.session.isActive then watched.missed
          else watched.missed ++ [⟨type, payload⟩]
      }
  | .useractive office =>
      ⟨(userActive json iteration office watched.session).2, []⟩
  | .userinactive => ⟨userInactive watched.session, watched.missed⟩

/-- The parts of a document: writer renders everything as part 0. -/
def IsPart (docType : LibreOfficeKitDocumentType) (part : Int) : Prop :=
  docType = .text → part = 0

/-- A missed callback invalidates a point: an active session would have sent a message for it. -/
def MissedInvalidation (json : Json) (office : Office) (watched : Watched) (part : Int)
    (point : Int × Int)
    : Prop :=
  ∃ event ∈ watched.missed,
    event.type = .invalidateTiles
    ∧ ∃ frame ∈ messages json office watched.session event, Invalidates frame part point

/-- The user who gets active catches up on everything that was missed: what was invalidated of
any part is invalidated, the last value of every key is replayed once, and all callbacks of a
sequence are, in order.
-/
structure CatchesUp (json : Json) (iteration : Iteration) (office : Office) (watched : Watched)
    : Prop where
  sent
    : (userActive json iteration office watched.session).1
      = partFrames office watched.session
        ++ (replayedEvents iteration office watched.session).flatMap
            (messages json office watched.session)
  covered
    : ∀ part point,
        IsPart watched.session.docType part
        → MissedInvalidation json office watched part point
        → ∃ frame ∈ (userActive json iteration office watched.session).1,
            Invalidates frame part point
  last
    : ∀ key,
        (replayedEvents iteration office watched.session).filter (hasKey json key)
        = ((watched.missed.filter (hasKey json key)).getLast?).toList
  sequence
    : (replayedEvents iteration office watched.session).filter inSequence
      = watched.missed.filter inSequence

/-- What was invalidated is in the part that the user sees now, and in the range of `int`
from 0 on.
-/
def MissedInView (json : Json) (office : Office) (watched : Watched) : Prop :=
  ∀ part point,
    IsPart watched.session.docType part
    → MissedInvalidation json office watched part point
    → (curPart office watched.session = -1 ∨ (curPart office watched.session).toInt = part)
      ∧ 0 ≤ point.1
      ∧ 0 ≤ point.2
      ∧ point.1 ≤ 2147483647
      ∧ point.2 ≤ 2147483647

-----------------------------------------------------------------------------------------
-- The invariant
-----------------------------------------------------------------------------------------

/-- The session is open, its recorder has what was missed, and nothing is missed while the user
is active.
-/
structure Keeps (json : Json) (watched : Watched) : Prop where
  opened : watched.session.isCloseFrame = false
  connected : watched.session.isDisconnected = false
  recorded : Recorded json watched.session.stateRecorder watched.missed
  active : watched.session.isActive = true → watched.missed = []

/-- A new session has missed nothing. -/
theorem keeps_start (json : Json) (docType : LibreOfficeKitDocumentType)
    : Keeps json (.start docType) :=
  ⟨rfl, rfl, recorded_clear json, fun _ => rfl⟩

/-- A callback changes the recorder of an inactive session, and nothing else that matters. -/
theorem loKitCallback_session (json : Json) (office : Office) {session : ChildSession}
    (opened : session.isCloseFrame = false) (connected : session.isDisconnected = false)
    (type : LibreOfficeKitCallbackType) (payload : Text)
    : ∃ copyToClipboard,
        ((loKitCallback json office session type payload).map Prod.snd).getD session
        = {
            session with
            copyToClipboard
            stateRecorder :=
              if session.isActive then session.stateRecorder
              else
                (rememberEventsForInactiveUser json session.stateRecorder type payload).getD
                  session.stateRecorder
          } := by
  have sent (changed : ChildSession)
      : ∃ copyToClipboard,
          (((sendCallback json office changed type payload).map
              (fun frames =>
                (frames,
                  if type = .clipboardChanged then { changed with copyToClipboard := false }
                  else changed))).map Prod.snd).getD changed
          = { changed with copyToClipboard } := by
    cases sendCallback json office changed type payload with
    | none => exact ⟨changed.copyToClipboard, rfl⟩
    | some frames =>
        by_cases clipboard : type = .clipboardChanged
        · exact ⟨false, by simp [clipboard]⟩
        · exact ⟨changed.copyToClipboard, by simp [clipboard]⟩
  unfold loKitCallback
  dsimp only
  rw [if_neg (by simp [opened]), if_neg (by simp [connected])]
  by_cases active : session.isActive = true
  · rw [if_pos active, if_pos active]
    exact sent session
  · rw [if_neg active, if_neg active]
    cases remembered : rememberEventsForInactiveUser json session.stateRecorder type payload with
    | none => exact ⟨session.copyToClipboard, rfl⟩
    | some stateRecorder =>
        dsimp only
        split
        · exact ⟨session.copyToClipboard, rfl⟩
        · next passes =>
            obtain rfl : type = .unoCommandResult := by simp_all
            cases remembered
            exact sent session

/-- By cases on the event: it is recorded, or all is replayed. -/
theorem Keeps.step {json : Json} {watched : Watched} (keeps : Keeps json watched)
    (iteration : Iteration) (event : SessionEvent)
    : Keeps json (watch json iteration watched event) := by
  cases event with
  | callback office type payload =>
      obtain ⟨copyToClipboard, after⟩ :=
        loKitCallback_session json office keeps.opened keeps.connected type payload
      refine ⟨?_, ?_, ?_, ?_⟩
      all_goals simp only [watch, after]
      · exact keeps.opened
      · exact keeps.connected
      · split
        · exact keeps.recorded
        · exact keeps.recorded.remember type payload
      · intro active
        rw [if_pos active]
        exact keeps.active active
  | useractive office =>
      refine ⟨?_, ?_, ?_, fun _ => rfl⟩
      all_goals
        simp only [watch, userActive_eq keeps.recorded iteration office keeps.opened keeps.connected]
      · exact keeps.opened
      · exact keeps.connected
      · exact recorded_clear json
  | userinactive =>
      exact ⟨keeps.opened, keeps.connected, keeps.recorded, fun active => nomatch active⟩

-----------------------------------------------------------------------------------------
-- Catching up
-----------------------------------------------------------------------------------------

/-- The rectangle reaches from 0 to the largest number. -/
theorem invalidates_whole {cur : Int32} {part : Int} {point : Int × Int}
    : Invalidates (invalidatetiles cur 0 0 Int32.maxValue Int32.maxValue) part point
      ↔ (cur = -1 ∨ cur.toInt = part)
        ∧ 0 ≤ point.1
        ∧ 0 ≤ point.2
        ∧ point.1 ≤ 2147483647
        ∧ point.2 ≤ 2147483647 := by
  have named
      : "invalidatetiles:".toList <+: invalidatetiles cur 0 0 Int32.maxValue Int32.maxValue := by
    rw [invalidatetiles_eq]
    exact List.prefix_append _ _
  have edge : (0 + Int32.maxValue - 0 : Int32).toInt = 2147483647 := by decide
  have zero : (0 : Int32).toInt = 0 := by decide
  constructor
  · rintro ⟨-, read, found, shown, inside⟩
    rw [readInvalidateMsg_invalidatetiles] at found
    cases found
    refine ⟨shown, ?_⟩
    simp only [Rectangle.ofSize, edge, zero, closedArea, Set.mem_Icc, Prod.le_def] at inside
    omega
  · rintro ⟨shown, inside⟩
    refine ⟨named, _, readInvalidateMsg_invalidatetiles .., shown, ?_⟩
    simp only [Rectangle.ofSize, edge, zero, closedArea, Set.mem_Icc, Prod.le_def]
    omega

section Replay

variable {json : Json} {watched : Watched} (keeps : Keeps json watched) (iteration : Iteration)
  (office : Office)

include keeps

/-- Among the frames of a replay the one for everything is the only invalidation. -/
theorem Keeps.invalidates_iff (part : Int) (point : Int × Int)
    : (∃ frame ∈ (userActive json iteration office watched.session).1,
          Invalidates frame part point)
      ↔ watched.session.stateRecorder.invalidate = true
        ∧ Invalidates
            (invalidatetiles (curPart office watched.session) 0 0 Int32.maxValue Int32.maxValue)
            part point := by
  have parts : ∀ frame ∈ partFrames office watched.session,
      ¬ "invalidatetiles:".toList <+: frame := by
    unfold partFrames
    split
    · exact nofun
    · intro frame member
      rw [List.mem_cons, List.mem_singleton] at member
      rcases member with rfl | rfl
      · exact not_invalidatetiles (by decide) _
      · exact not_invalidatetiles (by decide) _
  have others : ∀ event ∈ watched.session.stateRecorder.replayed iteration,
      ∀ frame ∈ messages json office watched.session event,
        ¬ "invalidatetiles:".toList <+: frame := by
    intro event member
    obtain ⟨frames, sent, named⟩ := sendCallback_recorded json office watched.session
      event.payload (keeps.recorded.kind_of_mem iteration member)
    rw [messages, sent]
    exact named
  rw [userActive_eq keeps.recorded iteration office keeps.opened keeps.connected,
    replayedEvents, List.flatMap_append, messages_replayedInvalidation]
  constructor
  · rintro ⟨frame, member, invalidates⟩
    simp only [List.mem_append] at member
    rcases member with part' | whole | replayed
    · exact absurd invalidates.1 (parts frame part')
    · split at whole
      · next flagged =>
          cases List.mem_singleton.mp whole
          exact ⟨flagged, invalidates⟩
      · cases whole
    · obtain ⟨event, inside, sent⟩ := List.mem_flatMap.mp replayed
      exact absurd invalidates.1 (others event inside frame sent)
  · rintro ⟨flagged, invalidates⟩
    refine ⟨_, ?_, invalidates⟩
    rw [if_pos flagged]
    simp

/-- The recorder holds the last event of each key. -/
theorem Keeps.replayed_last (key : ReplayKey)
    : (replayedEvents iteration office watched.session).filter (hasKey json key)
      = ((watched.missed.filter (hasKey json key)).getLast?).toList := by
  have invalidation
      : (replayedInvalidation office watched.session).filter (hasKey json key) = [] := by
    unfold replayedInvalidation
    split
    · rfl
    · rfl
  have kept : watched.missed.filter (hasKey json key)
      = watched.missed.filter (fun event => keyOf json event == some key) :=
    List.filter_congr (fun event _ => by rw [hasKey, beq_eq_decide])
  rw [replayedEvents, List.filter_append, invalidation, List.nil_append,
    keeps.recorded.replayed_last, lastValues_apply, kept]

/-- The recorder holds the other events in their order. -/
theorem Keeps.replayed_sequence
    : (replayedEvents iteration office watched.session).filter inSequence
      = watched.missed.filter inSequence := by
  have invalidation : (replayedInvalidation office watched.session).filter inSequence = [] := by
    unfold replayedInvalidation
    split
    · rfl
    · rfl
  rw [replayedEvents, List.filter_append, invalidation, List.nil_append,
    keeps.recorded.replayed_sequence]

/-- The user catches up exactly if everything that was invalidated is in view. -/
theorem Keeps.catchesUp_iff
    : CatchesUp json iteration office watched ↔ MissedInView json office watched := by
  constructor
  · intro catches part point isPart missed
    have covered := catches.covered part point isPart missed
    have whole := ((keeps.invalidates_iff iteration office part point).mp covered).2
    exact invalidates_whole.mp whole
  · intro inView
    refine ⟨?_, ?_, keeps.replayed_last iteration office, keeps.replayed_sequence iteration office⟩
    · rw [userActive_eq keeps.recorded iteration office keeps.opened keeps.connected]
    · intro part point isPart missed
      have whole := invalidates_whole.mpr (inView part point isPart missed)
      refine (keeps.invalidates_iff iteration office part point).mpr ⟨?_, whole⟩
      obtain ⟨event, member, type, -⟩ := missed
      rw [keeps.recorded.invalidate]
      exact List.any_eq_true.mpr ⟨event, member, by rw [isInvalidation, type]; rfl⟩

end Replay

/-- In every run, and for every moment at which the user may get active: the user catches up on
what was missed exactly if all that was invalidated is in the part on view.
-/
theorem userActive_catchesUp_iff (json : Json) (iteration : Iteration)
    (docType : LibreOfficeKitDocumentType) (events : List SessionEvent)
    : AllStates (fun watched event => some (watch json iteration watched event))
        (fun watched =>
          ∀ office, CatchesUp json iteration office watched ↔ MissedInView json office watched)
        (.start docType) events := by
  intro done rest reached split ran
  have kept := allStates_of_keeps
    (fun watched event next (keeps : Keeps json watched) done =>
      Option.some.inj done ▸ keeps.step iteration event)
    (keeps_start json docType) events
  exact (kept done rest reached split ran).catchesUp_iff iteration

/-- The second sheet is invalidated while the user is inactive; the user gets active on the
first one, and is not told.
-/
theorem other_sheet_is_not_invalidated
    : ∃ (json : Json) (iteration : Iteration),
        ¬ AllStates (fun watched event => some (watch json iteration watched event))
            (fun watched => ∀ office, CatchesUp json iteration office watched)
            (.start .spreadsheet)
            [.userinactive,
              .callback ⟨[], [], 0⟩ .invalidateTiles "0, 0, 100, 100, 1".toList] := by
  let json : Json := ⟨fun _ => none, fun _ => none⟩
  let iteration : Iteration := ⟨fun entries => entries, .refl⟩
  let office : Office := ⟨[], [], 0⟩
  let callback : SessionEvent := .callback office .invalidateTiles "0, 0, 100, 100, 1".toList
  refine ⟨json, iteration, fun all => ?_⟩
  have keeps := ((keeps_start json .spreadsheet).step iteration .userinactive).step iteration
    callback
  have catches := all [.userinactive, callback] [] _ rfl rfl office
  have named : "invalidatetiles:".toList <+: invalidatetiles 1 0 0 100 100 := by decide +kernel
  have sent
      : messages json office (userInactive (Watched.start .spreadsheet).session)
          ⟨.invalidateTiles, "0, 0, 100, 100, 1".toList⟩
        = [invalidatetiles 1 0 0 100 100] := by
    decide +kernel
  have invalidates : Invalidates (invalidatetiles 1 0 0 100 100) 1 (0, 0) :=
    ⟨named, _, readInvalidateMsg_invalidatetiles .., .inr rfl, by
      simp only [closedArea, Set.mem_Icc, Prod.le_def]
      decide⟩
  have inView := (keeps.catchesUp_iff iteration office).mp catches 1 (0, 0)
    (fun same => by cases same)
    ⟨_, List.mem_singleton.mpr rfl, rfl, _, sent ▸ List.mem_singleton.mpr rfl, invalidates⟩
  exact absurd inView.1 (by decide)

end NdcOdfWeb.Kit
