import NdcOdfWeb.Foundation.LastWriter
import NdcOdfWeb.Foundation.StepRun
import NdcOdfWeb.Kit.StateRecorder
import NdcOdfWeb.Rendering.CacheFiles

/-! What a user who gets active again is sent of the callbacks that were missed. -/

namespace NdcOdfWeb.Kit

open NdcOdfWeb.Foundation
open NdcOdfWeb.Protocol
open NdcOdfWeb.Rendering

/-- What is kept of a callback for an inactive user. -/
inductive EventKind where
  | invalidation
  | last
  | lastOfView
  | lastOfCommand
  | sequence
  | nothing
deriving DecidableEq

def kindOf : LibreOfficeKitCallbackType → EventKind
  | .invalidateTiles => .invalidation
  | .invalidateVisibleCursor
  | .cursorVisible
  | .textSelection
  | .textSelectionStart
  | .textSelectionEnd
  | .cellFormula
  | .cellCursor
  | .graphicSelection
  | .documentSizeChanged
  | .invalidateHeader
  | .cellAddress =>
      .last
  | .invalidateViewCursor
  | .textViewSelection
  | .cellViewCursor
  | .graphicViewSelection
  | .viewCursorVisible
  | .viewLock =>
      .lastOfView
  | .stateChanged => .lastOfCommand
  | .redlineTableSizeChanged
  | .redlineTableEntryModified
  | .comment =>
      .sequence
  | _ => .nothing

/-- What the last value is kept for. -/
inductive ReplayKey where
  | event (type : LibreOfficeKitCallbackType)
  | view (viewId : Int32) (type : LibreOfficeKitCallbackType)
  | state (name : Text)
deriving DecidableEq

/-- The key of a callback: its type, its view and type, or its command. -/
def keyOf (json : Json) (event : RecordedEvent) : Option ReplayKey :=
  match kindOf event.type with
  | .last => some (.event event.type)
  | .lastOfView => (json.viewId event.payload).map (ReplayKey.view · event.type)
  | .lastOfCommand => (parseNameValuePair event.payload).map (fun pair => .state pair.1)
  | _ => none

def inSequence (event : RecordedEvent) : Bool :=
  decide (kindOf event.type = .sequence)

def isInvalidation (event : RecordedEvent) : Bool :=
  decide (kindOf event.type = .invalidation)

/-- The recorder's value of a key. -/
def StateRecorder.last (recorder : StateRecorder) : ReplayKey → Option RecordedEvent
  | .event type => recorder.recordedEvents.lookup type
  | .view viewId type => (recorder.recordedViewEvents.lookup viewId).bind (·.lookup type)
  | .state name => (recorder.recordedStates.lookup name).map (⟨.stateChanged, ·⟩)

/-- A recorder has what was missed: the last values, all of the sequences, and whether anything
was invalidated.
-/
structure Recorded (json : Json) (recorder : StateRecorder) (missed : List RecordedEvent)
    : Prop where
  last : ∀ key, recorder.last key = lastValues (keyOf json) missed key
  sequence : recorder.recordedEventsVector = missed.filter inSequence
  invalidate : recorder.invalidate = missed.any isInvalidation

-----------------------------------------------------------------------------------------
-- Recording
-----------------------------------------------------------------------------------------

/-- The switch of the source, by the kind of the callback's type. -/
theorem rememberEvents_eq (json : Json) (recorder : StateRecorder)
    (type : LibreOfficeKitCallbackType) (payload : Text)
    : rememberEventsForInactiveUser json recorder type payload
      = match kindOf type with
        | .invalidation => some recorder.recordInvalidate
        | .last => some (recorder.recordEvent type payload)
        | .lastOfView =>
            (json.viewId payload).map (fun viewId => recorder.recordViewEvent viewId type payload)
        | .lastOfCommand =>
            match parseNameValuePair payload with
            | some (name, _) => some (recorder.recordState name payload)
            | none => some recorder
        | .sequence => some (recorder.recordEventSequence type payload)
        | .nothing => some recorder := by
  cases type <;> rfl

/-- An empty recorder holds no events. -/
theorem recorded_clear (json : Json) : Recorded json .clear [] where
  last key := by cases key <;> rfl
  sequence := rfl
  invalidate := rfl

section Recording

variable {json : Json} {recorder : StateRecorder} {missed : List RecordedEvent}

/-- A callback that none of the last values is kept for. -/
theorem Recorded.unkeyed (recorded : Recorded json recorder missed) {event : RecordedEvent}
    (key : keyOf json event = none) {after : StateRecorder} (last : after.last = recorder.last)
    (sequence
      : after.recordedEventsVector
        = recorder.recordedEventsVector ++ [event].filter inSequence)
    (invalidate : after.invalidate = (recorder.invalidate || isInvalidation event))
    : Recorded json after (missed ++ [event]) where
  last other := by
    rw [last, recorded.last, lastValues_append_singleton, receive, key]
  sequence := by rw [sequence, recorded.sequence, List.filter_append]
  invalidate := by
    rw [invalidate, recorded.invalidate, List.any_append, List.any_cons, List.any_nil,
      Bool.or_false]

/-- A callback whose value is kept for its key. -/
theorem Recorded.keyed (recorded : Recorded json recorder missed) {event : RecordedEvent}
    {key : ReplayKey} (found : keyOf json event = some key) {after : StateRecorder}
    (last : after.last = Function.update recorder.last key (some event))
    (sequence : after.recordedEventsVector = recorder.recordedEventsVector)
    (invalidate : after.invalidate = recorder.invalidate)
    : Recorded json after (missed ++ [event]) := by
  have kind : kindOf event.type ≠ .sequence ∧ kindOf event.type ≠ .invalidation := by
    unfold keyOf at found
    split at found <;> simp_all
  refine ⟨fun other => ?_, ?_, ?_⟩
  · have before : recorder.last = lastValues (keyOf json) missed := funext recorded.last
    rw [last, before, lastValues_append_singleton, receive, found]
  · simp [sequence, recorded.sequence, inSequence, kind.1]
  · simp [invalidate, recorded.invalidate, isInvalidation, kind.2]

/-- An event replaces the one of its type. -/
theorem last_recordEvent (type : LibreOfficeKitCallbackType) (payload : Text)
    : (recorder.recordEvent type payload).last
      = Function.update recorder.last (.event type) (some ⟨type, payload⟩) := by
  funext key
  by_cases same : key = .event type
  · rw [same, Function.update_self]
    exact AList.lookup_insert recorder.recordedEvents
  · rw [Function.update_of_ne same]
    cases key with
    | event other =>
        exact AList.lookup_insert_ne (fun equal => same (congrArg ReplayKey.event equal))
    | view viewId other => rfl
    | state name => rfl

/-- A state replaces the one of its name. -/
theorem last_recordState (name payload : Text)
    : (recorder.recordState name payload).last
      = Function.update recorder.last (.state name) (some ⟨.stateChanged, payload⟩) := by
  funext key
  by_cases same : key = .state name
  · rw [same, Function.update_self]
    exact congrArg (Option.map _) (AList.lookup_insert recorder.recordedStates)
  · rw [Function.update_of_ne same]
    cases key with
    | event other => rfl
    | view viewId other => rfl
    | state other =>
        exact congrArg (Option.map _)
          (AList.lookup_insert_ne (fun equal => same (congrArg ReplayKey.state equal)))

/-- A view's event replaces the one of its view and type. -/
theorem last_recordViewEvent (viewId : Int32) (type : LibreOfficeKitCallbackType)
    (payload : Text)
    : (recorder.recordViewEvent viewId type payload).last
      = Function.update recorder.last (.view viewId type) (some ⟨type, payload⟩) := by
  funext key
  cases key with
  | event other => rw [Function.update_of_ne (by simp)]; rfl
  | state name => rw [Function.update_of_ne (by simp)]; rfl
  | view otherView other =>
      by_cases sameView : otherView = viewId
      · subst sameView
        have stored
            : (recorder.recordViewEvent otherView type payload).recordedViewEvents.lookup otherView
              = some (((recorder.recordedViewEvents.lookup otherView).getD ∅).insert type
                  ⟨type, payload⟩) :=
          AList.lookup_insert recorder.recordedViewEvents
        rw [StateRecorder.last, stored, Option.bind_some]
        by_cases same : other = type
        · rw [same, AList.lookup_insert, Function.update_self]
        · rw [AList.lookup_insert_ne same,
            Function.update_of_ne (fun equal => same (ReplayKey.view.inj equal).2),
            StateRecorder.last]
          cases recorder.recordedViewEvents.lookup otherView <;> rfl
      · rw [Function.update_of_ne (fun equal => sameView (ReplayKey.view.inj equal).1)]
        exact congrArg (Option.bind · _) (AList.lookup_insert_ne sameView)

/-- What was missed is recorded with one more callback; one that throws leaves no trace. -/
theorem Recorded.remember (recorded : Recorded json recorder missed)
    (type : LibreOfficeKitCallbackType) (payload : Text)
    : Recorded json
        ((rememberEventsForInactiveUser json recorder type payload).getD recorder)
        (missed ++ [⟨type, payload⟩]) := by
  rw [rememberEvents_eq]
  cases kind : kindOf type with
  | invalidation =>
      exact recorded.unkeyed (by simp [keyOf, kind]) rfl (by simp [inSequence, kind, StateRecorder.recordInvalidate])
        (by simp [isInvalidation, kind, StateRecorder.recordInvalidate])
  | last =>
      exact recorded.keyed (by simp [keyOf, kind]) (last_recordEvent type payload) rfl rfl
  | lastOfView =>
      cases view : json.viewId payload with
      | none =>
          exact recorded.unkeyed (by simp [keyOf, kind, view]) rfl (by simp [inSequence, kind])
            (by simp [isInvalidation, kind])
      | some viewId =>
          exact recorded.keyed (by simp [keyOf, kind, view])
            (last_recordViewEvent viewId type payload) rfl rfl
  | lastOfCommand =>
      have state : type = .stateChanged := by
        cases type <;> first | rfl | cases kind
      subst state
      dsimp only
      cases command : parseNameValuePair payload with
      | none =>
          exact recorded.unkeyed (by simp [keyOf, kind, command]) rfl
            (by simp [inSequence, kind]) (by simp [isInvalidation, kind])
      | some pair =>
          exact recorded.keyed (by simp [keyOf, kind, command])
            (last_recordState pair.1 payload) rfl rfl
  | sequence =>
      exact recorded.unkeyed (by simp [keyOf, kind]) rfl
        (by simp [inSequence, kind, StateRecorder.recordEventSequence])
        (by simp [isInvalidation, kind, StateRecorder.recordEventSequence])
  | nothing =>
      exact recorded.unkeyed (by simp [keyOf, kind]) rfl (by simp [inSequence, kind])
        (by simp [isInvalidation, kind])

end Recording

-----------------------------------------------------------------------------------------
-- The replayed events
-----------------------------------------------------------------------------------------

/-- Whether a callback has this key. -/
def hasKey (json : Json) (key : ReplayKey) (event : RecordedEvent) : Bool :=
  decide (keyOf json event = some key)

/-- An event with a key is not kept in the sequence. -/
theorem inSequence_of_key {json : Json} {event : RecordedEvent} {key : ReplayKey}
    (found : keyOf json event = some key)
    : inSequence event = false := by
  unfold keyOf at found
  unfold inSequence
  split at found <;> simp_all

section Replaying

variable {json : Json} {recorder : StateRecorder} {missed : List RecordedEvent}
  (iteration : Iteration) (recorded : Recorded json recorder missed)

include recorded

/-- A value is kept for its own key. -/
theorem Recorded.key_of_last {key : ReplayKey} {event : RecordedEvent}
    (found : recorder.last key = some event)
    : keyOf json event = some key := by
  rw [recorded.last, lastValues_apply] at found
  have member := List.mem_of_getLast? found
  simpa using (List.mem_filter.mp member).2

/-- An event is kept under its own key. -/
theorem Recorded.hasKey_of_last {key other : ReplayKey} {event : RecordedEvent}
    (found : recorder.last other = some event)
    : hasKey json key event = true ↔ other = key := by
  simp [hasKey, recorded.key_of_last found]

omit recorded in
/-- Each of the three loops sends what the maps hold. -/
theorem StateRecorder.last_of_mem {event : RecordedEvent}
    (member
      : event
        ∈ recorder.viewEvents iteration ++ recorder.lastEvents iteration
          ++ recorder.stateEvents iteration)
    : ∃ key, recorder.last key = some event := by
  simp only [List.mem_append] at member
  rcases member with (member | member) | member
  · obtain ⟨viewPair, outer, inner⟩ := List.mem_flatMap.mp member
    obtain ⟨pair, inside, rfl⟩ := List.mem_map.mp inner
    refine ⟨.view viewPair.1 pair.1, ?_⟩
    rw [StateRecorder.last, iteration.lookup_of_mem outer, Option.bind_some,
      iteration.lookup_of_mem inside]
  · obtain ⟨pair, inside, rfl⟩ := List.mem_map.mp member
    exact ⟨.event pair.1, iteration.lookup_of_mem inside⟩
  · obtain ⟨pair, inside, rfl⟩ := List.mem_map.mp member
    refine ⟨.state pair.1, ?_⟩
    rw [StateRecorder.last, iteration.lookup_of_mem inside]
    rfl

/-- Of what is shown of a map, the part with one of its keys. -/
theorem Recorded.filter_shown {α β : Type} [DecidableEq α] (map : KeyedMap α β)
    {shown : Sigma (fun _ : α => β) → RecordedEvent} {keyed : α → ReplayKey}
    (distinct : Function.Injective keyed)
    (last
      : ∀ index value,
          map.lookup index = some value
          → recorder.last (keyed index) = some (shown ⟨index, value⟩))
    (index : α)
    : ((iteration.order map.entries).map shown).filter (hasKey json (keyed index))
      = ((map.lookup index).map (fun value => shown ⟨index, value⟩)).toList := by
  apply iteration.filter_map
  intro other value found
  exact (recorded.hasKey_of_last (last other value found)).trans distinct.eq_iff

/-- A map of another kind holds no event under the key. -/
theorem Recorded.filter_shown_other {α β : Type} [DecidableEq α] (map : KeyedMap α β)
    {shown : Sigma (fun _ : α => β) → RecordedEvent} {keyed : α → ReplayKey} {key : ReplayKey}
    (last
      : ∀ index value,
          map.lookup index = some value
          → recorder.last (keyed index) = some (shown ⟨index, value⟩))
    (other : ∀ index, keyed index ≠ key)
    : ((iteration.order map.entries).map shown).filter (hasKey json key) = [] := by
  refine List.filter_eq_nil_iff.mpr (fun event member => ?_)
  obtain ⟨entry, inside, rfl⟩ := List.mem_map.mp member
  have kept := last entry.1 entry.2 (iteration.lookup_of_mem inside)
  exact fun wanted => other entry.1 ((recorded.hasKey_of_last kept).mp wanted)

/-- The first loop sends the last event of a view's key. -/
theorem Recorded.filter_viewEvents (key : ReplayKey)
    : (recorder.viewEvents iteration).filter (hasKey json key)
      = match key with
        | .view _ _ => (recorder.last key).toList
        | _ => [] := by
  have last (viewId : Int32) (events : KeyedMap LibreOfficeKitCallbackType RecordedEvent)
      (found : recorder.recordedViewEvents.lookup viewId = some events)
      (type : LibreOfficeKitCallbackType) (event : RecordedEvent)
      (found' : events.lookup type = some event)
      : recorder.last (.view viewId type) = some event := by
    rw [StateRecorder.last, found, Option.bind_some, found']
  rw [StateRecorder.viewEvents, List.filter_flatMap]
  cases key with
  | view viewId type =>
      rw [iteration.flatMap_entry _ viewId]
      · dsimp only
        rw [StateRecorder.last]
        cases found : recorder.recordedViewEvents.lookup viewId with
        | none => rfl
        | some events =>
            have distinct : Function.Injective (ReplayKey.view viewId) :=
              fun _ _ equal => (ReplayKey.view.inj equal).2
            rw [Option.map_some, Option.getD_some, Option.bind_some,
              recorded.filter_shown iteration events distinct (last viewId events found) type,
              Option.map_id']
      · intro other events found differs
        exact recorded.filter_shown_other iteration events (last other events found)
          (fun type equal => differs (ReplayKey.view.inj equal).1)
  | event type =>
      refine List.flatMap_eq_nil_iff.mpr (fun viewPair member => ?_)
      exact recorded.filter_shown_other iteration viewPair.2
        (last _ _ (iteration.lookup_of_mem member)) (fun _ equal => nomatch equal)
  | state name =>
      refine List.flatMap_eq_nil_iff.mpr (fun viewPair member => ?_)
      exact recorded.filter_shown_other iteration viewPair.2
        (last _ _ (iteration.lookup_of_mem member)) (fun _ equal => nomatch equal)

/-- The second loop sends the last event of a type's key. -/
theorem Recorded.filter_lastEvents (key : ReplayKey)
    : (recorder.lastEvents iteration).filter (hasKey json key)
      = match key with
        | .event _ => (recorder.last key).toList
        | _ => [] := by
  have last (type : LibreOfficeKitCallbackType) (event : RecordedEvent)
      (found : recorder.recordedEvents.lookup type = some event)
      : recorder.last (.event type) = some event :=
    found
  have distinct : Function.Injective ReplayKey.event := fun _ _ equal => ReplayKey.event.inj equal
  cases key with
  | event type =>
      refine (recorded.filter_shown iteration recorder.recordedEvents distinct last type).trans ?_
      rw [Option.map_id']
      rfl
  | view viewId type =>
      exact recorded.filter_shown_other iteration _ last (fun _ equal => nomatch equal)
  | state name =>
      exact recorded.filter_shown_other iteration _ last (fun _ equal => nomatch equal)

/-- The third loop sends the last event of a state's key. -/
theorem Recorded.filter_stateEvents (key : ReplayKey)
    : (recorder.stateEvents iteration).filter (hasKey json key)
      = match key with
        | .state _ => (recorder.last key).toList
        | _ => [] := by
  have last (name payload : Text) (found : recorder.recordedStates.lookup name = some payload)
      : recorder.last (.state name) = some ⟨.stateChanged, payload⟩ :=
    congrArg (Option.map _) found
  have distinct : Function.Injective ReplayKey.state := fun _ _ equal => ReplayKey.state.inj equal
  cases key with
  | state name =>
      exact recorded.filter_shown iteration recorder.recordedStates distinct last name
  | view viewId type =>
      exact recorded.filter_shown_other iteration _ last (fun _ equal => nomatch equal)
  | event type =>
      exact recorded.filter_shown_other iteration _ last (fun _ equal => nomatch equal)

/-- The vector holds no event with a key. -/
theorem Recorded.filter_sequence (key : ReplayKey)
    : recorder.recordedEventsVector.filter (hasKey json key) = [] := by
  refine List.filter_eq_nil_iff.mpr (fun event member wanted => ?_)
  rw [recorded.sequence] at member
  have unkeyed := inSequence_of_key (of_decide_eq_true wanted)
  exact absurd ((List.mem_filter.mp member).2.symm.trans unkeyed) (by decide)

/-- Of every key the last value is replayed, and nothing else. -/
theorem Recorded.replayed_last (key : ReplayKey)
    : (recorder.replayed iteration).filter (hasKey json key)
      = (lastValues (keyOf json) missed key).toList := by
  rw [StateRecorder.replayed, List.filter_append, List.filter_append, List.filter_append,
    recorded.filter_viewEvents, recorded.filter_lastEvents, recorded.filter_stateEvents,
    recorded.filter_sequence, ← recorded.last]
  cases key <;> simp

/-- The sequences are replayed as they came. -/
theorem Recorded.replayed_sequence
    : (recorder.replayed iteration).filter inSequence = missed.filter inSequence := by
  have others
      : (recorder.viewEvents iteration ++ recorder.lastEvents iteration
          ++ recorder.stateEvents iteration).filter inSequence
        = [] := by
    refine List.filter_eq_nil_iff.mpr (fun event member => ?_)
    obtain ⟨key, last⟩ := recorder.last_of_mem iteration member
    simp [inSequence_of_key (recorded.key_of_last last)]
  rw [StateRecorder.replayed, List.filter_append, others, List.nil_append, recorded.sequence,
    List.filter_filter]
  simp

end Replaying

end NdcOdfWeb.Kit
