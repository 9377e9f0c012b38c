import NdcOdfWeb.Queue.InvalidationCoverage
import NdcOdfWeb.Queue.LastWriterWins

/-! The invalidations in the kit's queue that are for all views: whatever else is put and taken,
the points that they tell of stay queued until they are taken.
-/

namespace NdcOdfWeb.Queue

open NdcOdfWeb.Foundation
open NdcOdfWeb.Protocol
open NdcOdfWeb.Tiles
open TileQueue

/-- The points of an invalidation, each with its part. -/
def InvalidationPayload.points : InvalidationPayload → Set (Int32 × (Int × Int))
  | rectangle rect _ => { point | rect.part = point.1 ∧ point.2 ∈ rect.area }
  | empty => { point | point.2 ∈ (wholePart point.1).area }
  | emptyPart part => { point | part = point.1 ∧ point.2 ∈ (wholePart part).area }

/-- The message is no invalidation. -/
def NoInvalidation (message : Payload) : Prop :=
  ∀ view rest, tokenize ' ' message ≠ "callback".toList :: view :: "0".toList :: rest

/-- The message for an invalidation; all views have to be in sync. -/
def allInvalidation (payload : InvalidationPayload) : Payload :=
  invalidationMessage allViews payload

/-- All queued invalidations are for all views. -/
def SharedQueue (queue : List Payload) : Prop :=
  ∀ it ∈ queue, (∃ payload, it = allInvalidation payload) ∨ NoInvalidation it

/-- Some queued invalidation tells of the point. -/
def QueuedPoint (queue : List Payload) (point : Int32 × (Int × Int)) : Prop :=
  ∃ payload, allInvalidation payload ∈ queue ∧ point ∈ payload.points

/-- A part of a shared queue is shared. -/
theorem SharedQueue.subset {queue left : List Payload} (shared : SharedQueue queue)
    (subset : left ⊆ queue)
    : SharedQueue left :=
  fun it member => shared it (subset member)

/-- A queued point stays queued where its invalidation stays. -/
theorem QueuedPoint.subset {queue more : List Payload} {point : Int32 × (Int × Int)}
    (queued : QueuedPoint queue point)
    (kept : ∀ payload, allInvalidation payload ∈ queue → allInvalidation payload ∈ more)
    : QueuedPoint more point := by
  obtain ⟨payload, member, inside⟩ := queued
  exact ⟨payload, kept payload member, inside⟩

/-- What is no invalidation has no rectangle. -/
theorem invalidationOf_of_none {message : Payload} (none' : NoInvalidation message) (view : Text)
    : invalidationOf view message = none := by
  cases found : invalidationOf view message with
  | none => rfl
  | some rect =>
      obtain ⟨rest, tokens, -⟩ := tokens_of_invalidationOf found
      exact absurd tokens (none' view rest)

/-- The rectangles of a shared queue do not overflow. -/
theorem SharedQueue.safe {queue : List Payload} (shared : SharedQueue queue)
    : SafeQueue queue := by
  intro it member view rect found
  rcases shared it member with ⟨payload, rfl⟩ | none'
  · rw [allInvalidation, invalidationOf_message] at found
    split at found
    · exact InvalidationPayload.invalidation_safe found
    · cases found
  · cases (invalidationOf_of_none none' view).symm.trans found

/-- What the queue takes for the area of a message are the points of its invalidation. -/
theorem mem_invalidatedArea_iff (payload : InvalidationPayload) (part : Int32)
    (point : Int × Int)
    : point ∈ invalidatedArea "all".toList part (allInvalidation payload)
      ↔ (part, point) ∈ payload.points := by
  have read : invalidationOf "all".toList (allInvalidation payload) = payload.invalidation? :=
    (invalidationOf_message allViews payload "all".toList).trans (if_pos rfl)
  have words : tokenize ' ' (allInvalidation payload)
      = "callback".toList :: "all".toList :: "0".toList :: payload.tokens :=
    tokenize_invalidationMessage allViews payload
  simp only [invalidatedArea, read, words, Set.mem_ofPred_eq, List.cons.injEq, true_and]
  cases payload with
  | rectangle rect safe =>
      simp [InvalidationPayload.invalidation?, InvalidationPayload.tokens, Invalidation.tokens,
        InvalidationPayload.points]
  | empty =>
      simp [InvalidationPayload.invalidation?, InvalidationPayload.tokens,
        InvalidationPayload.points]
  | emptyPart other =>
      simp only [InvalidationPayload.invalidation?, InvalidationPayload.tokens,
        InvalidationPayload.points, List.cons.injEq, Option.some.injEq, reduceCtorEq, and_false,
        false_and, false_or, exists_eq_left', Set.mem_ofPred_eq]
      rfl

/-- What is no invalidation covers nothing. -/
theorem invalidatedArea_of_none {message : Payload} (none' : NoInvalidation message) (part : Int32)
    (point : Int × Int)
    : point ∉ invalidatedArea "all".toList part message := by
  rintro (⟨tokens, -⟩ | ⟨rect, found, -⟩)
  · exact none' _ _ tokens
  · cases (invalidationOf_of_none none' _).symm.trans found

/-- The points of the queued invalidations are those that the queue covers for all views. -/
theorem SharedQueue.queuedPoint_iff {queue : List Payload} (shared : SharedQueue queue)
    (part : Int32) (point : Int × Int)
    : QueuedPoint queue (part, point) ↔ point ∈ coverage "all".toList part queue := by
  constructor
  · rintro ⟨payload, member, inside⟩
    exact ⟨_, member, (mem_invalidatedArea_iff payload part point).mpr inside⟩
  · rintro ⟨it, member, inside⟩
    rcases shared it member with ⟨payload, rfl⟩ | none'
    · exact ⟨payload, member, (mem_invalidatedArea_iff payload part point).mp inside⟩
    · exact absurd inside (invalidatedArea_of_none none' part point)

/-- One more message, for all views or about something else. -/
theorem SharedQueue.append {queue : List Payload} (shared : SharedQueue queue) {message : Payload}
    (new : (∃ payload, message = allInvalidation payload) ∨ NoInvalidation message)
    : SharedQueue (queue ++ [message]) := by
  intro it member
  rcases List.mem_append.mp member with old | last
  · exact shared it old
  · rw [List.mem_singleton.mp last]
    exact new

-----------------------------------------------------------------------------------------
-- Putting an invalidation
-----------------------------------------------------------------------------------------

/-- An invalidation is put: it is merged with the others, and every point of them stays queued. -/
theorem SharedQueue.putInvalidation (viewIdOf : Text → Except Exception Text) {queue : TileQueue}
    (shared : SharedQueue queue.queue) (payload : InvalidationPayload)
    : ∃ next,
        queue.put viewIdOf (allInvalidation payload) = .ok { queue with queue := next }
        ∧ SharedQueue next
        ∧ ∀ point,
            QueuedPoint queue.queue point ∨ point ∈ payload.points → QueuedPoint next point := by
  obtain ⟨kept, added, result, absorbs⟩ :=
    putMessage_invalidation viewIdOf allViews payload (shared.safe.fits allViews payload)
  obtain ⟨added, rfl⟩ := absorbs.added_safe shared.safe
  have sharedNext : SharedQueue (kept ++ [allInvalidation added]) :=
    (shared.subset absorbs.sublist.subset).append (.inl ⟨added, rfl⟩)
  have sharedPut : SharedQueue (queue.queue ++ [allInvalidation payload]) :=
    shared.append (.inl ⟨payload, rfl⟩)
  refine ⟨kept ++ [allInvalidation added], ?_, sharedNext, ?_⟩
  · have nonempty : allInvalidation payload ≠ [] := callbackMessage_ne_nil _ _ _
    rw [TileQueue.put, if_neg nonempty, allInvalidation, result]
    rfl
  · rintro ⟨part, point⟩ told
    have put : QueuedPoint (queue.queue ++ [allInvalidation payload]) (part, point) := by
      rcases told with queued | new
      · exact queued.subset (fun _ member => List.mem_append_left _ member)
      · exact ⟨payload, List.mem_append_right _ (List.mem_singleton.mpr rfl), new⟩
    rw [sharedPut.queuedPoint_iff] at put
    rw [sharedNext.queuedPoint_iff]
    exact absorbs.coverage_subset _ _ put

-----------------------------------------------------------------------------------------
-- Putting other messages
-----------------------------------------------------------------------------------------

/-- The third token of an invalidation. -/
def hasInvalidationType (it : Payload) : Bool :=
  match tokenize ' ' it with
  | _ :: _ :: type :: _ => type == "0".toList
  | _ => false

/-- An invalidation is of type 0. -/
theorem hasInvalidationType_allInvalidation (payload : InvalidationPayload)
    : hasInvalidationType (allInvalidation payload) = true := by
  have words : tokenize ' ' (allInvalidation payload)
      = "callback".toList :: "all".toList :: "0".toList :: payload.tokens :=
    tokenize_invalidationMessage allViews payload
  rw [hasInvalidationType, words]
  rfl

/-- A state is compared with states only. -/
theorem sameUnoCommand_type {token0 token1 token2 command : Text} {it : Payload}
    (same : sameUnoCommand token0 token1 token2 command it = true)
    (other : token2 ≠ "0".toList)
    : hasInvalidationType it = false := by
  unfold sameUnoCommand at same
  split at same
  · next tokens =>
      simp only [Bool.and_eq_true, beq_iff_eq] at same
      rw [hasInvalidationType, tokens]
      exact beq_eq_false_iff_ne.mpr (same.1.1.2 ▸ other)
  · cases same

/-- A callback of another type is not compared with invalidations. -/
theorem sameCallback_type {viewIdOf : Text → Except Exception Text} {token1 token2 : Text}
    {viewId : Option Text} {it : Payload}
    (same : sameCallback viewIdOf token1 token2 viewId it = .ok true)
    (other : token2 ≠ "0".toList)
    : hasInvalidationType it = false := by
  unfold sameCallback at same
  split at same
  · cases same
  · split at same
    · next tokens =>
        split at same
        · next target =>
            rw [hasInvalidationType, tokens]
            exact beq_eq_false_iff_ne.mpr (target.2 ▸ other)
        · cases same
    · cases same

/-- A callback of another type takes out no invalidation. -/
theorem removeCallbackDuplicate_type {viewIdOf : Text → Except Exception Text}
    {queue left : List Payload} {message newMsg : Payload}
    (first : getFirstToken ' ' message = "callback".toList) (none' : NoInvalidation message)
    (removed : removeCallbackDuplicate viewIdOf queue message = .ok (left, newMsg))
    : newMsg = [] ∧ left.filter hasInvalidationType = queue.filter hasInvalidationType := by
  obtain ⟨words, head⟩ := tokenize_of_getFirstToken (by decide) (by decide) (by decide) first
  unfold removeCallbackDuplicate at removed
  split at removed
  · next token0 token1 token2 rest tokens =>
      have callback : token0 = "callback".toList := (List.cons.inj (tokens.symm.trans head)).1
      have other : token2 ≠ "0".toList := by
        rintro rfl
        exact none' token1 rest (callback ▸ tokens)
      rw [if_neg other] at removed
      split at removed
      · cases removed
        refine ⟨rfl, ?_⟩
        unfold removeState
        split
        · rfl
        · split
          · rfl
          · exact filter_eraseP_of_dropped (fun it _ same => sameUnoCommand_type same other)
      · split at removed
        · obtain ⟨kept, erased, done⟩ := bind_ok removed
          cases done
          refine ⟨rfl, ?_⟩
          unfold removeValue at erased
          split at erased
          · obtain ⟨viewId, -, erased⟩ := bind_ok erased
            exact eraseObsolete_filter (fun it _ same => sameCallback_type same other) erased
          · exact eraseObsolete_filter (fun it _ same => sameCallback_type same other) erased
        · cases removed
          exact ⟨rfl, rfl⟩
  · cases removed
    exact ⟨rfl, rfl⟩

/-- A number holds no equals sign. -/
theorem showInt_noEquals (value : Int) : '=' ∉ showInt value :=
  not_mem_showInt value (by decide) (by decide)

/-- A rectangle holds no equals sign. -/
theorem Invalidation.payload_noEquals (rect : Invalidation) : '=' ∉ rect.payload := by
  have comma : '=' ∉ ", ".toList := by decide
  unfold Invalidation.payload
  generalize ", ".toList = separator at comma ⊢
  simp only [List.mem_append, showInt_noEquals, comma, or_self, not_false_eq_true]

/-- A payload holds no equals sign. -/
theorem InvalidationPayload.text_noEquals (payload : InvalidationPayload) : '=' ∉ payload.text := by
  have empty : '=' ∉ "EMPTY, ".toList := by decide
  unfold InvalidationPayload.text
  cases payload with
  | rectangle rect safe => exact rect.payload_noEquals
  | empty =>
      dsimp only
      decide
  | emptyPart part =>
      dsimp only
      rw [List.mem_append, not_or]
      exact ⟨empty, showInt_noEquals _⟩

/-- An invalidation holds no equals sign, and so no id. -/
theorem allInvalidation_noEquals (payload : InvalidationPayload)
    : '=' ∉ allInvalidation payload := by
  have header : '=' ∉ callbackHeader allViews.name "0".toList := by decide +kernel
  rw [allInvalidation, invalidationMessage, callbackMessage_eq_header, List.mem_append, not_or]
  exact ⟨header, payload.text_noEquals⟩

/-- `canceltiles` finds no version in an invalidation. -/
theorem canceled_allInvalidation (tokens : List Text) (payload : InvalidationPayload)
    : canceled tokens (allInvalidation payload) = false := by
  unfold canceled
  split
  · rfl
  · rw [List.any_eq_false]
    intro token _ found
    have inside := find_isSome_iff.mp found
    have sign : '=' ∈ "ver=".toList ++ token := List.mem_append_left _ (by decide)
    exact allInvalidation_noEquals payload (inside.subset sign)

/-- A tile request that is put replaces tile requests only. -/
theorem mem_putTile_of_mem {queue : List Payload} {tileMsg : Payload}
    (tile : isTile tileMsg = true) {payload : InvalidationPayload}
    (member : allInvalidation payload ∈ queue)
    : allInvalidation payload ∈ putTile queue tileMsg := by
  refine List.mem_append_left _ ((List.mem_eraseP_of_neg ?_).mpr member)
  intro same
  obtain ⟨rest, shape⟩ := List.head?_eq_some_iff.mp (head?_of_sameUpTo tile same)
  have starts := getFirstToken_prefix ' ' (allInvalidation payload)
  rw [allInvalidation, getFirstToken_invalidationMessage, ← allInvalidation, shape] at starts
  obtain ⟨more, letters⟩ := starts
  exact absurd (List.cons.inj letters).1 (by decide)

/-- So do several of them, by induction on the tiles. -/
theorem mem_putTiles_of_mem {payload : InvalidationPayload} (tiles : List TileDesc)
    {queue : List Payload} (member : allInvalidation payload ∈ queue)
    : allInvalidation payload
      ∈ tiles.foldl (fun queue tile => putTile queue (tile.serialize "tile".toList)) queue := by
  induction tiles generalizing queue with
  | nil => exact member
  | cons tile tiles ih => exact ih (mem_putTile_of_mem (isTile_serialize tile) member)

/-- No other message takes out an invalidation. -/
theorem mem_putMessage_of_mem {viewIdOf : Text → Except Exception Text}
    {queue next : List Payload} {message : Payload} (none' : NoInvalidation message)
    (done : putMessage viewIdOf queue message = .ok next) {payload : InvalidationPayload}
    (member : allInvalidation payload ∈ queue)
    : allInvalidation payload ∈ next := by
  cases putMessage_outcome done with
  | canceled _ =>
      refine List.mem_filter.mpr ⟨member, ?_⟩
      rw [canceled_allInvalidation]
      rfl
  | combined tiles _ => exact mem_putTiles_of_mem tiles.tiles member
  | tile first =>
      refine mem_putTile_of_mem ?_ member
      rw [isTile, matchPrefix, List.isPrefixOf_iff_prefix, ← first]
      exact getFirstToken_prefix ' ' message
  | @callback left newMsg first removed =>
      have same := (removeCallbackDuplicate_type first none' removed).2
      have kept : allInvalidation payload ∈ left.filter hasInvalidationType := by
        rw [same]
        exact List.mem_filter.mpr ⟨member, hasInvalidationType_allInvalidation payload⟩
      exact List.mem_append_left _ (List.mem_filter.mp kept).1
  | other _ _ _ _ => exact List.mem_append_left _ member

/-- A tile request is no invalidation. -/
theorem noInvalidation_tile (tile : TileDesc)
    : NoInvalidation (tile.serialize "tile".toList) := by
  intro view rest tokens
  rw [← Request.split_text, Request.tokenize_text] at tokens
  exact absurd (List.cons.inj tokens).1 (by decide)

/-- Another message, by the ways in which messages get into the queue. -/
theorem SharedQueue.putOther {viewIdOf : Text → Except Exception Text}
    {queue next : List Payload} {message : Payload} (shared : SharedQueue queue)
    (none' : NoInvalidation message) (done : putMessage viewIdOf queue message = .ok next)
    : SharedQueue next := by
  intro it member
  rcases putMessage_mem done member with old | rfl | ⟨tile, rfl⟩ | ⟨first, isNew, left, removed⟩
  · exact shared it old
  · exact .inr none'
  · exact .inr (noInvalidation_tile tile)
  · exact absurd (removeCallbackDuplicate_type first none' removed).1 isNew

-----------------------------------------------------------------------------------------
-- Taking a message
-----------------------------------------------------------------------------------------

/-- An invalidation is no tile request. -/
theorem isTile_allInvalidation (payload : InvalidationPayload)
    : isTile (allInvalidation payload) = false := by
  by_contra tile
  rw [Bool.not_eq_false, isTile, matchPrefix, List.isPrefixOf_iff_prefix] at tile
  obtain ⟨rest, shape⟩ := tile
  have starts := getFirstToken_prefix ' ' (allInvalidation payload)
  rw [allInvalidation, getFirstToken_invalidationMessage, ← allInvalidation, ← shape] at starts
  obtain ⟨more, letters⟩ := starts
  exact absurd (List.cons.inj letters).1 (by decide)

/-- What is taken from a queue: it is not empty, and its first message is served. -/
theorem get_cases {queue next : TileQueue} {result : Except Exception Payload}
    (taken : queue.get = some (result, next))
    : ∃ front rest,
        queue.queue = front :: rest
        ∧ result = (queue.getMessage front rest).1
        ∧ next = { queue with queue := (queue.getMessage front rest).2 } := by
  unfold TileQueue.get at taken
  split at taken
  · cases taken
  · next front rest shape =>
      obtain ⟨same, same'⟩ := Prod.mk.inj (Option.some.inj taken)
      exact ⟨front, rest, shape, same.symm, same'.symm⟩

/-- An invalidation stays queued until it is taken itself. -/
theorem mem_get_of_mem {queue next : TileQueue} {result : Except Exception Payload}
    (taken : queue.get = some (result, next)) {payload : InvalidationPayload}
    (member : allInvalidation payload ∈ queue.queue)
    : result = .ok (allInvalidation payload) ∨ allInvalidation payload ∈ next.queue := by
  obtain ⟨front, rest, shape, rfl, rfl⟩ := get_cases taken
  rcases getMessage_waiting shape with ⟨-, first⟩ | ⟨same, -⟩
  · rw [first]
    rw [shape] at member
    exact (List.mem_cons.mp member).imp_left (fun equal => congrArg Except.ok equal.symm)
  · right
    have waiting : allInvalidation payload ∈ waitingMessages queue.queue :=
      List.mem_filter.mpr ⟨member, by rw [isTile_allInvalidation]; rfl⟩
    rw [← same] at waiting
    exact (List.mem_filter.mp waiting).1

/-- What is left behind a service is part of the queue. -/
theorem SharedQueue.get {queue next : TileQueue} {result : Except Exception Payload}
    (shared : SharedQueue queue.queue) (taken : queue.get = some (result, next))
    : SharedQueue next.queue := by
  obtain ⟨front, rest, shape, rfl, rfl⟩ := get_cases taken
  have smaller := getMessage_subperm shape
  rw [← shape] at smaller
  exact shared.subset smaller.subset

end NdcOdfWeb.Queue
