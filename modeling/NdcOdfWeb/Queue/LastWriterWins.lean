import NdcOdfWeb.Queue.CallbackKeys
import NdcOdfWeb.Queue.Runs
import NdcOdfWeb.Queue.Service

/-! The receiver of a tile queue ends with the last value of every callback key.
The queue's callbacks refine a line in which a message takes out waiting ones of its own key.
-/

namespace NdcOdfWeb.Queue

open NdcOdfWeb.Foundation
open NdcOdfWeb.Protocol
open NdcOdfWeb.Tiles
open TileQueue

/-- The messages of a client: callbacks of any type, where the payload of a view callback is
an object with a view id, and messages that are no callbacks.
-/
inductive MixedMessage (viewIdOf : Text → Except Exception Text) where
  | callback (view : View) (type : Text) (nonempty : type ≠ []) (clean : LineWord ' ' type)
    (payload : Text) (object : type ∈ viewTypes → ∃ viewId, viewIdOf payload = .ok viewId)
  | other (message : Payload) (notCallback : ¬ "callback".toList <+: message)

variable {viewIdOf : Text → Except Exception Text}

def MixedMessage.text : MixedMessage viewIdOf → Payload
  | callback view type _ _ payload _ => callbackMessage view.name type payload
  | other message _ => message

-----------------------------------------------------------------------------------------
-- View ids of queued messages
-----------------------------------------------------------------------------------------

/-- The view id can be read from the message if the queue asks for it. -/
def KnownView (viewIdOf : Text → Except Exception Text) (it : Payload) : Prop :=
  matchPrefix "callback".toList it = true
  → ∀ token0 view type rest,
      tokenize ' ' it = token0 :: view :: type :: rest
      → type ∈ viewTypes
      → ∃ viewId, extractViewId viewIdOf it token0 view type = .ok viewId

/-- The view of a callback with a proper object is known. -/
theorem knownView_callback (view : View) {type : Text} (nonempty : type ≠ [])
    (clean : LineWord ' ' type) {payload : Text}
    (object : type ∈ viewTypes → ∃ viewId, viewIdOf payload = .ok viewId)
    : KnownView viewIdOf (callbackMessage view.name type payload) := by
  intro _ token0 view' type' rest tokens viewType
  rw [tokenize_callbackMessage view nonempty clean] at tokens
  simp only [List.cons.injEq] at tokens
  obtain ⟨rfl, rfl, rfl, -⟩ := tokens
  rw [extractViewId_callbackMessage]
  exact object viewType

/-- What is no callback has no view to look for. -/
theorem knownView_other {it : Payload} (notCallback : ¬ "callback".toList <+: it)
    : KnownView viewIdOf it :=
  fun starts => absurd (List.isPrefixOf_iff_prefix.mp starts) notCallback

/-- A tile request is no callback. -/
theorem not_callback_of_isTile {it : Payload} (tile : isTile it = true)
    : ¬ "callback".toList <+: it := by
  intro callback
  rw [isTile, matchPrefix, List.isPrefixOf_iff_prefix] at tile
  obtain ⟨more, rfl⟩ := tile
  obtain ⟨rest, joined⟩ := callback
  have heads := congrArg List.head? joined
  cases heads

/-- A message with a key is a callback, and so no tile request. -/
theorem isTile_of_isKeyed {it : Payload}
    (keyed : isKeyed (callbackKey viewIdOf) it = true)
    : isTile it = false := by
  by_contra tile
  have starts := getFirstToken_prefix ' ' it
  rw [callbackKey_isKeyed keyed] at starts
  exact not_callback_of_isTile (Bool.not_eq_false _ ▸ tile) starts

/-- The views of the messages are known, by cases on them. -/
theorem MixedMessage.knownView (message : MixedMessage viewIdOf)
    : KnownView viewIdOf message.text := by
  cases message with
  | callback view type nonempty clean payload object =>
      exact knownView_callback view nonempty clean object
  | other message notCallback => exact knownView_other notCallback

/-- What merging makes of a client's message is an invalidation again. -/
theorem MixedMessage.merged {message : MixedMessage viewIdOf} {queue left : List Payload}
    {newMsg : Payload} (first : getFirstToken ' ' message.text = "callback".toList)
    (isNew : newMsg ≠ [])
    (removed : removeCallbackDuplicate viewIdOf queue message.text = .ok (left, newMsg))
    : ∃ view : View, ∃ payload,
        newMsg = callbackMessage view.name "0".toList payload := by
  cases message with
  | other message notCallback =>
      exact absurd (first ▸ getFirstToken_prefix ' ' message) notCallback
  | callback view type nonempty clean payload object =>
      obtain ⟨token0, token1, rest, msg, merged, tokens, -, result⟩ :=
        removeCallbackDuplicate_merged isNew removed
      rw [MixedMessage.text, tokenize_callbackMessage view nonempty clean] at tokens
      simp only [List.cons.injEq] at tokens
      obtain ⟨rfl, rfl, rfl, -⟩ := tokens
      obtain ⟨newPayload, same⟩ := mergeResult_callbackMessage result
      exact ⟨view, newPayload, same⟩

/-- A merged invalidation has no key. -/
theorem callbackKey_merged (view : View) (payload : Text)
    : callbackKey viewIdOf (callbackMessage view.name "0".toList payload) = none :=
  callbackKey_invalidation (tokenize_callbackMessage view (by decide) (by decide) payload)

/-- All view ids that the queue may ask for can be read. -/
def KnownViews (viewIdOf : Text → Except Exception Text) (queue : List Payload) : Prop :=
  ∀ it ∈ queue, KnownView viewIdOf it

/-- A put keeps the views known, by the ways in which messages get into the queue. -/
theorem KnownViews.putMessage {queue next : List Payload} (known : KnownViews viewIdOf queue)
    {message : MixedMessage viewIdOf}
    (done : TileQueue.putMessage viewIdOf queue message.text = .ok next)
    : KnownViews viewIdOf next := by
  intro it member
  rcases putMessage_mem done member with old | rfl | ⟨tile, rfl⟩ | ⟨first, isNew, left, removed⟩
  · exact known it old
  · exact message.knownView
  · exact knownView_other (not_callback_of_isTile (isTile_serialize tile))
  · obtain ⟨view, payload, rfl⟩ := MixedMessage.merged first isNew removed
    have notView : "0".toList ∉ viewTypes := by decide
    exact knownView_callback view (by decide) (by decide)
      (fun viewType => absurd viewType notView)

-----------------------------------------------------------------------------------------
-- Callbacks with a key are accepted
-----------------------------------------------------------------------------------------

/-- Where every message is decided, the loop does not throw. By induction on the queue. -/
theorem eraseObsolete_ok {obsolete : Payload → Except Exception Bool} {queue : List Payload}
    (decided : ∀ it ∈ queue, ∃ isObsolete, obsolete it = .ok isObsolete)
    : ∃ left, eraseObsolete obsolete queue = .ok left := by
  induction queue with
  | nil => exact ⟨[], rfl⟩
  | cons it rest ih =>
      obtain ⟨isObsolete, found⟩ := decided it (List.mem_cons_self ..)
      obtain ⟨kept, later⟩ := ih (fun other member => decided other (List.mem_cons_of_mem it member))
      rw [eraseObsolete, found]
      cases isObsolete with
      | true => exact ⟨rest, rfl⟩
      | false => exact ⟨it :: kept, by simp [bind, Except.bind, later, pure, Except.pure]⟩

/-- A comparison with a known view does not throw. -/
theorem sameCallback_ok {it view type : Payload} {viewId : Option Text}
    (known : KnownView viewIdOf it) (asked : viewId = none ∨ type ∈ viewTypes)
    : ∃ same, sameCallback viewIdOf view type viewId it = .ok same := by
  unfold sameCallback
  split
  · exact ⟨false, rfl⟩
  · next starts =>
      split
      · next queued0 queued1 queued2 rest tokens =>
          split
          · next target =>
              cases viewId with
              | none => exact ⟨true, rfl⟩
              | some viewId =>
                  have viewType : queued2 ∈ viewTypes := by
                    rw [target.2]
                    exact asked.resolve_left nofun
                  obtain ⟨queuedId, read⟩ :=
                    known (by simpa using starts) _ _ _ _ tokens viewType
                  exact ⟨viewId == queuedId, by simp only [read, bind, Except.bind, pure, Except.pure]⟩
          · exact ⟨false, rfl⟩
      · exact ⟨false, rfl⟩

/-- A callback with a key only removes others and is queued as it is. -/
theorem removeCallbackDuplicate_keyed {queue : List Payload} {message : Payload}
    (known : KnownViews viewIdOf queue)
    (keyed : isKeyed (callbackKey viewIdOf) message = true)
    : ∃ left, removeCallbackDuplicate viewIdOf queue message = .ok (left, []) := by
  have first := callbackKey_isKeyed keyed
  unfold removeCallbackDuplicate
  split
  · next token0 view type rest tokens =>
      split
      · next invalidation =>
          rw [invalidation] at tokens
          rw [isKeyed, callbackKey_invalidation tokens] at keyed
          cases keyed
      · split
        · exact ⟨_, rfl⟩
        · next notState =>
            split
            · next types =>
                suffices found : ∃ left,
                    removeValue viewIdOf queue message token0 view type = .ok left by
                  obtain ⟨left, done⟩ := found
                  exact ⟨left, by simp only [done, bind, Except.bind, pure, Except.pure]⟩
                unfold removeValue
                split
                · next viewType =>
                    have notValue : type ∉ valueTypes := by
                      intro value
                      have disjoint : ∀ text ∈ viewTypes, text ∉ valueTypes := by decide
                      exact disjoint type viewType value
                    rw [isKeyed, callbackKey_tokens first tokens, if_neg notState,
                      if_neg notValue, if_pos viewType] at keyed
                    split at keyed
                    · next viewId read =>
                        rw [read]
                        exact eraseObsolete_ok
                          (fun it member => sameCallback_ok (known it member) (.inr viewType))
                    · cases keyed
                · exact eraseObsolete_ok
                    (fun it member => sameCallback_ok (known it member) (.inl rfl))
            · exact ⟨queue, rfl⟩
  · exact ⟨queue, rfl⟩

/-- A callback with a key is put without an exception. -/
theorem put_keyed {queue : TileQueue} {message : Payload}
    (known : KnownViews viewIdOf queue.queue)
    (keyed : isKeyed (callbackKey viewIdOf) message = true)
    : ∃ next, queue.put viewIdOf message = .ok next := by
  obtain ⟨left, removed⟩ := removeCallbackDuplicate_keyed known keyed
  have first := callbackKey_isKeyed keyed
  have nonempty := ne_nil_of_getFirstToken first (by decide)
  refine ⟨{ queue with queue := left ++ [message] }, ?_⟩
  rw [TileQueue.put, if_neg nonempty, putMessage_callback viewIdOf first, removed]
  rfl

-----------------------------------------------------------------------------------------
-- What a put keeps
-----------------------------------------------------------------------------------------

/-- At least the command is compared. -/
theorem comparedLength_pos {tileMsg : Payload} (tile : isTile tileMsg = true)
    : 0 < comparedLength tileMsg := by
  rw [isTile, matchPrefix, List.isPrefixOf_iff_prefix] at tile
  obtain ⟨more, rfl⟩ := tile
  have other : (" ver".toList).isPrefixOf ("tile".toList ++ more) = false := rfl
  have shape : "tile".toList ++ more = 't' :: 'i' :: 'l' :: 'e' :: more := rfl
  unfold comparedLength
  split
  · next position found =>
      rw [shape] at other found
      rw [find, other, if_neg Bool.false_ne_true, Option.map_eq_some_iff] at found
      obtain ⟨before, -, rfl⟩ := found
      omega
  · rw [shape]
    simp

/-- The comparison of tile requests finds nothing but texts with the same first character. -/
theorem head?_of_sameUpTo {tileMsg it : Payload} (tile : isTile tileMsg = true)
    (same : sameUpTo (comparedLength tileMsg) tileMsg it = true)
    : it.head? = some 't' := by
  have long := comparedLength_pos tile
  obtain ⟨length, shape⟩ : ∃ length, comparedLength tileMsg = length + 1 :=
    ⟨comparedLength tileMsg - 1, by omega⟩
  rw [isTile, matchPrefix, List.isPrefixOf_iff_prefix] at tile
  obtain ⟨more, rfl⟩ := tile
  rw [shape] at same
  simp only [sameUpTo, Bool.and_eq_true, beq_iff_eq] at same
  cases it with
  | nil =>
      have heads := congrArg List.head? same.2
      cases heads
  | cons c rest =>
      have heads := congrArg List.head? same.2
      have start : "tile".toList ++ more = 't' :: 'i' :: 'l' :: 'e' :: more := rfl
      have nul : ('t' != '\x00') = true := by decide
      rw [start, List.take_succ_cons, List.take_succ_cons] at heads
      simp only [cString, List.takeWhile_cons, nul, if_true] at heads
      split at heads
      · exact heads.symm
      · cases heads

/-- A tile request that is put leaves the callbacks with keys as they are. -/
theorem putTile_filter {queue : List Payload} {tileMsg : Payload}
    (tile : isTile tileMsg = true)
    : (putTile queue tileMsg).filter (isKeyed (callbackKey viewIdOf))
      = queue.filter (isKeyed (callbackKey viewIdOf)) := by
  have unkeyed {it : Payload} (isTileIt : isTile it = true)
      : isKeyed (callbackKey viewIdOf) it = false := by
    by_contra keyed
    rw [Bool.not_eq_false] at keyed
    exact Bool.false_ne_true ((isTile_of_isKeyed keyed).symm.trans isTileIt)
  rw [putTile, filter_isKeyed_append _ (unkeyed tile)]
  refine filter_eraseP_of_dropped (fun it _ same => ?_)
  have head := head?_of_sameUpTo tile same
  by_contra keyed
  rw [Bool.not_eq_false] at keyed
  have starts := getFirstToken_prefix ' ' it
  rw [callbackKey_isKeyed keyed] at starts
  obtain ⟨more, rfl⟩ := starts
  cases head

/-- So do several of them, by induction on the tiles. -/
theorem putTiles_filter {queue : List Payload} (tiles : List TileDesc)
    : (tiles.foldl (fun queue tile => putTile queue (tile.serialize "tile".toList)) queue).filter
        (isKeyed (callbackKey viewIdOf))
      = queue.filter (isKeyed (callbackKey viewIdOf)) := by
  induction tiles generalizing queue with
  | nil => rfl
  | cons tile tiles ih =>
      rw [List.foldl_cons, ih, putTile_filter (isTile_serialize tile)]

/-- A put of `canceltiles` takes no callback with a key for a tile. -/
def SparesCallbacks (viewIdOf : Text → Except Exception Text) (queue : List Payload)
    (message : MixedMessage viewIdOf) : Prop :=
  getFirstToken ' ' message.text = "canceltiles".toList
  → ∀ it ∈ queue,
      isKeyed (callbackKey viewIdOf) it = true
      → canceled (stringTokenizer ',' (message.text.drop 12)) it = false

/-- Of the queued messages with a key, a put takes out only some with the key of the message;
the message itself goes to the end.
-/
structure Overwrites (viewIdOf : Text → Except Exception Text) (queue : List Payload)
    (message : Payload) (next kept : List Payload)
    : Prop where
  sublist : kept.Sublist queue
  others
    : kept.filter (hasOtherKey (callbackKey viewIdOf) message)
      = queue.filter (hasOtherKey (callbackKey viewIdOf) message)
  added
    : next.filter (isKeyed (callbackKey viewIdOf))
      = (kept ++ [message]).filter (isKeyed (callbackKey viewIdOf))

/-- A message without a key overwrites none. -/
theorem Overwrites.of_unkeyed {queue next : List Payload} {message : Payload}
    (unkeyed : isKeyed (callbackKey viewIdOf) message = false)
    (same
      : next.filter (isKeyed (callbackKey viewIdOf))
        = queue.filter (isKeyed (callbackKey viewIdOf)))
    : Overwrites viewIdOf queue message next queue where
  sublist := .refl _
  others := rfl
  added := by
    rw [same, filter_isKeyed_append _ unkeyed]

/-- A put overwrites the callbacks of its key, by cases on the messages. -/
theorem putMessage_overwrites {queue next : List Payload} {message : MixedMessage viewIdOf}
    (spares : SparesCallbacks viewIdOf queue message)
    (done : TileQueue.putMessage viewIdOf queue message.text = .ok next)
    : ∃ kept, Overwrites viewIdOf queue message.text next kept := by
  have unkeyed (notCallback : getFirstToken ' ' message.text ≠ "callback".toList)
      : isKeyed (callbackKey viewIdOf) message.text = false := by
    by_contra keyed
    exact notCallback (callbackKey_isKeyed (Bool.not_eq_false _ ▸ keyed))
  cases putMessage_outcome done with
  | canceled first =>
      refine ⟨queue, .of_unkeyed (unkeyed (first ▸ by decide)) ?_⟩
      rw [List.filter_filter]
      refine List.filter_congr (fun it member => ?_)
      cases keyed : isKeyed (callbackKey viewIdOf) it with
      | false => rfl
      | true => rw [spares first it member keyed]; rfl
  | combined tiles first =>
      exact ⟨queue, .of_unkeyed (unkeyed (first ▸ by decide)) (putTiles_filter tiles.tiles)⟩
  | tile first =>
      have tile : isTile message.text = true := by
        rw [isTile, matchPrefix, List.isPrefixOf_iff_prefix, ← first]
        exact getFirstToken_prefix ' ' message.text
      exact ⟨queue, .of_unkeyed (unkeyed (first ▸ by decide)) (putTile_filter tile)⟩
  | @callback left newMsg first removed =>
      have nonempty := ne_nil_of_getFirstToken first (by decide)
      refine ⟨left, (removeCallbackDuplicate_sublist nonempty removed).1,
        removeCallbackDuplicate_filter first removed, ?_⟩
      split
      · rfl
      · next isNew =>
          -- both the message and what merging made of it are invalidations, without key
          obtain ⟨token0, token1, rest, msg, merged, tokens, -⟩ :=
            removeCallbackDuplicate_merged isNew removed
          obtain ⟨view, payload, rfl⟩ := MixedMessage.merged first isNew removed
          have old : isKeyed (callbackKey viewIdOf) message.text = false := by
            rw [isKeyed, callbackKey_invalidation tokens]
            rfl
          have new : isKeyed (callbackKey viewIdOf)
              (callbackMessage view.name "0".toList payload) = false := by
            rw [isKeyed, callbackKey_merged]
            rfl
          rw [filter_isKeyed_append _ new, filter_isKeyed_append _ old]
  | other _ _ _ notCallback =>
      exact ⟨queue,
        .of_unkeyed (unkeyed notCallback) (filter_isKeyed_append _ (unkeyed notCallback))⟩

/-- What `put` does with a queue. -/
theorem put_eq_ok {queue next : TileQueue} {message : Payload}
    (done : queue.put viewIdOf message = .ok next)
    : TileQueue.putMessage viewIdOf queue.queue message = .ok next.queue := by
  unfold TileQueue.put at done
  split at done
  · cases done
  · obtain ⟨messages, put, rest⟩ := bind_ok done
    cases rest
    exact put

-----------------------------------------------------------------------------------------
-- Runs
-----------------------------------------------------------------------------------------

/-- Callbacks with keys are among the messages that wait. -/
theorem keyed_waiting {queue left : List Payload}
    (same : waitingMessages left = waitingMessages queue)
    : left.filter (isKeyed (callbackKey viewIdOf))
      = queue.filter (isKeyed (callbackKey viewIdOf)) := by
  have keyed (messages : List Payload)
      : messages.filter (isKeyed (callbackKey viewIdOf))
        = (waitingMessages messages).filter (isKeyed (callbackKey viewIdOf)) := by
    rw [waitingMessages, List.filter_filter]
    refine List.filter_congr (fun it _ => ?_)
    cases found : isKeyed (callbackKey viewIdOf) it with
    | false => rfl
    | true => rw [isTile_of_isKeyed found]; rfl
  rw [keyed left, keyed queue, same]

/-- In a run, all views stay known. By induction on the run. -/
theorem run_knownViews {events : List (Event (MixedMessage viewIdOf))} {queue : TileQueue}
    (run : GuardedRun viewIdOf MixedMessage.text (SparesCallbacks viewIdOf) events queue)
    : KnownViews viewIdOf queue.queue := by
  refine run.queue_induction (fun _ member => nomatch member) ?_ ?_ ?_
  · intro queue message next known _ done
    exact known.putMessage done
  · intro queue message known it member
    exact known it ((leftMessages_sublist queue message.text).subset member)
  · intro queue front rest known shape it member
    have smaller := getMessage_subperm shape
    rw [← shape] at smaller
    exact known it (smaller.subset member)

/-- What `get` returns comes from the front of the callbacks with a key. -/
theorem getMessage_keyed {M : Type} {queue : TileQueue} {front : Payload}
    {rest : List Payload}
    (shape : queue.queue = front :: rest)
    : queue.queue.filter (isKeyed (callbackKey viewIdOf))
      = (Event.received (.got (queue.getMessage front rest).1 : Event M)).filter
          (isKeyed (callbackKey viewIdOf))
        ++ (queue.getMessage front rest).2.filter (isKeyed (callbackKey viewIdOf)) := by
  rcases getMessage_waiting shape with ⟨-, returned⟩ | ⟨waiting, tile⟩
  · rw [returned, shape, Event.received, ← List.filter_append, List.singleton_append]
  · have unkeyed : (Event.received (.got (queue.getMessage front rest).1 : Event M)).filter
        (isKeyed (callbackKey viewIdOf)) = [] := by
      cases result : (queue.getMessage front rest).1 with
      | error exception => rfl
      | ok payload =>
          refine List.filter_eq_nil_iff.mpr (fun it member keyed => ?_)
          cases List.mem_singleton.mp member
          exact Bool.false_ne_true ((isTile_of_isKeyed keyed).symm.trans (tile payload result))
    rw [unkeyed, List.nil_append, keyed_waiting waiting]

/-- The callbacks with a key that were put, returned, and are still queued are those of a run
of a last-writer line.
-/
theorem run_line {events : List (Event (MixedMessage viewIdOf))} {queue : TileQueue}
    (run : GuardedRun viewIdOf MixedMessage.text (SparesCallbacks viewIdOf) events queue)
    : LastWriterLine (callbackKey viewIdOf)
        ((events.flatMap (Event.sent MixedMessage.text)).filter
          (isKeyed (callbackKey viewIdOf)))
        ((events.flatMap Event.received).filter (isKeyed (callbackKey viewIdOf)))
        (queue.queue.filter (isKeyed (callbackKey viewIdOf))) := by
  induction run with
  | initial => exact .new
  | @put events queue message next run met done ih =>
      obtain ⟨kept, overwrites⟩ := putMessage_overwrites met (put_eq_ok done)
      rw [List.flatMap_append, List.flatMap_append, overwrites.added]
      simp only [List.flatMap_singleton, Event.sent, Event.received, List.append_nil]
      exact ih.sendAny overwrites.sublist overwrites.others
  | @rejected events queue message exception run failed ih =>
      have unkeyed : isKeyed (callbackKey viewIdOf) message.text = false := by
        by_contra keyed
        obtain ⟨next, accepted⟩ :=
          put_keyed (run_knownViews run) (Bool.not_eq_false _ ▸ keyed)
        cases failed.symm.trans accepted
      rw [List.flatMap_append, List.flatMap_append]
      simp only [List.flatMap_singleton, Event.sent, Event.received, List.append_nil]
      rw [filter_isKeyed_append _ unkeyed]
      have kept : (queue.afterException message.text).queue.filter
          (isKeyed (callbackKey viewIdOf)) = queue.queue.filter (isKeyed (callbackKey viewIdOf)) :=
        leftMessages_filter message.text
          (fun _ _ _ _ _ found => queuedInvalidation_unkeyed found)
      rw [kept]
      exact ih
  | @get events queue result next run done ih =>
      rw [List.flatMap_append, List.flatMap_append]
      simp only [List.flatMap_singleton, Event.sent, List.append_nil]
      unfold TileQueue.get at done
      split at done
      · cases done
      · next front rest shape =>
          simp only [Option.some.injEq, Prod.mk.injEq] at done
          obtain ⟨rfl, rfl⟩ := done
          rw [getMessage_keyed shape] at ih
          rw [List.filter_append]
          exact ih.receiveAll
  | cursorUpdated viewId part x y width height _ ih =>
      rw [List.flatMap_append, List.flatMap_append]
      simp only [List.flatMap_singleton, Event.sent, Event.received, List.append_nil]
      exact ih
  | cursorRemoved viewId _ ih =>
      rw [List.flatMap_append, List.flatMap_append]
      simp only [List.flatMap_singleton, Event.sent, Event.received, List.append_nil]
      exact ih

/-- Callbacks of other keys stay as they are. -/
theorem Overwrites.others_next {queue next kept : List Payload} {message : Payload}
    (overwrites : Overwrites viewIdOf queue message next kept)
    : next.filter (hasOtherKey (callbackKey viewIdOf) message)
      = queue.filter (hasOtherKey (callbackKey viewIdOf) message) := by
  have own : hasOtherKey (callbackKey viewIdOf) message message = false := by
    simp [hasOtherKey]
  have added := congrArg (List.filter (hasOtherKey (callbackKey viewIdOf) message))
    overwrites.added
  rw [filter_isKeyed_hasOtherKey, filter_isKeyed_hasOtherKey, List.filter_append,
    List.filter_cons_of_neg (by simp [own]), List.filter_nil, List.append_nil,
    overwrites.others] at added
  exact added

/-- The last writer wins. In every run in which no put of `canceltiles` takes a callback with
a key for a tile, what was returned and what is still queued sets the same values as
everything that was put, and comes in the order of the puts. A further message with a key is
accepted, and no message takes out one with another key.
-/
theorem run_lastWriterWins {events : List (Event (MixedMessage viewIdOf))} {queue : TileQueue}
    (run : GuardedRun viewIdOf MixedMessage.text (SparesCallbacks viewIdOf) events queue)
    : lastValues (callbackKey viewIdOf) (events.flatMap Event.received ++ queue.queue)
        = lastValues (callbackKey viewIdOf) (events.flatMap (Event.sent MixedMessage.text))
      ∧ ((events.flatMap Event.received ++ queue.queue).filter
          (isKeyed (callbackKey viewIdOf))).Sublist
        ((events.flatMap (Event.sent MixedMessage.text)).filter
          (isKeyed (callbackKey viewIdOf)))
      ∧ ∀ message : MixedMessage viewIdOf,
          (isKeyed (callbackKey viewIdOf) message.text = true
            → ∃ next, queue.put viewIdOf message.text = .ok next)
          ∧ (SparesCallbacks viewIdOf queue.queue message
            → ∀ next,
                queue.put viewIdOf message.text = .ok next
                → next.queue.filter (hasOtherKey (callbackKey viewIdOf) message.text)
                  = queue.queue.filter (hasOtherKey (callbackKey viewIdOf) message.text)) := by
  have line := run_line run
  refine ⟨?_, ?_, fun message => ⟨put_keyed (run_knownViews run), ?_⟩⟩
  · have values := line.values
    rw [← List.filter_append, lastValues_filter, lastValues_filter] at values
    exact values
  · rw [List.filter_append]
    exact line.order
  · intro spares next done
    obtain ⟨kept, overwrites⟩ := putMessage_overwrites spares (put_eq_ok done)
    exact overwrites.others_next

/-- A put that is accepted, from what it makes of the queued messages. -/
theorem put_of_putMessage {queue : TileQueue} {message : Payload} {messages : List Payload}
    (nonempty : message ≠ [])
    (done : TileQueue.putMessage viewIdOf queue.queue message = .ok messages)
    : queue.put viewIdOf message = .ok { queue with queue := messages } := by
  rw [TileQueue.put, if_neg nonempty, done]
  rfl

/-- A JSON parser that finds no object. -/
def noObject (_ : Text) : Except Exception Text := .error .json

/-- The state of the command `.uno:Bold`. -/
def boldState (value : Text) : MixedMessage noObject :=
  .callback allViews "8".toList (by decide) (by decide) (".uno:Bold=".toList ++ value)
    (fun viewType => absurd viewType (by decide))

/-- The second state replaces the first one. -/
theorem run_lastWriterWins_bold
    : lastValues (callbackKey noObject) [(boldState "false".toList).text]
      = lastValues (callbackKey noObject)
          [(boldState "true".toList).text, (boldState "false".toList).text] := by
  have spares (queue : List Payload) (value : Text)
      : SparesCallbacks noObject queue (boldState value) := by
    intro first
    rw [boldState, MixedMessage.text, getFirstToken_callbackMessage] at first
    exact absurd first (by decide)
  have first : TileQueue.putMessage noObject TileQueue.empty.queue
      (boldState "true".toList).text = .ok [(boldState "true".toList).text] := by
    decide +kernel
  have second : TileQueue.putMessage noObject [(boldState "true".toList).text]
      (boldState "false".toList).text = .ok [(boldState "false".toList).text] := by
    decide +kernel
  have run := (GuardedRun.initial.put (spares _ _)
      (put_of_putMessage (callbackMessage_ne_nil _ _ _) first)).put (spares _ _)
    (put_of_putMessage (callbackMessage_ne_nil _ _ _) second)
  exact (run_lastWriterWins run).1

/-- A state whose value looks like a version. -/
def styleState : MixedMessage noObject :=
  .callback allViews "8".toList (by decide) (by decide) ".uno:StyleApply=ver=7".toList
    (fun viewType => absurd viewType (by decide))

/-- The request to cancel the tiles of version 7. -/
def cancelSeven : MixedMessage noObject :=
  .other "canceltiles 7,".toList (by decide)

/-- Cancelling the tiles of version 7 drops the only state of a command. -/
theorem styleState_dropped
    : ∃ events : List (Event (MixedMessage noObject)), ∃ queue,
        Run noObject MixedMessage.text events queue
        ∧ lastValues (callbackKey noObject)
            (events.flatMap Event.received ++ queue.queue)
          ≠ lastValues (callbackKey noObject)
              (events.flatMap (Event.sent MixedMessage.text)) := by
  have first : TileQueue.putMessage noObject TileQueue.empty.queue styleState.text
      = .ok [styleState.text] := by
    decide +kernel
  have second : TileQueue.putMessage noObject [styleState.text] cancelSeven.text
      = .ok [] := by
    decide +kernel
  have nonempty : cancelSeven.text ≠ [] := by decide
  have stored : Run noObject MixedMessage.text [.put styleState] _ :=
    GuardedRun.initial.put trivial (put_of_putMessage (callbackMessage_ne_nil _ _ _) first)
  have run : Run noObject MixedMessage.text ([.put styleState] ++ [.put cancelSeven]) _ :=
    stored.put trivial (put_of_putMessage nonempty second)
  refine ⟨_, _, run, fun same => ?_⟩
  have value : (lastValues (callbackKey noObject)
      [styleState.text, cancelSeven.text]
      ⟨"all".toList, "8".toList, ".uno:StyleApply".toList⟩).isSome = true := by
    decide +kernel
  have lost := congrFun same ⟨"all".toList, "8".toList, ".uno:StyleApply".toList⟩
  rw [← Option.ne_none_iff_isSome] at value
  exact value lost.symm

end NdcOdfWeb.Queue
