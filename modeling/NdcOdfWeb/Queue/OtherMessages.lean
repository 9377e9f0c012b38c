import Mathlib.Data.List.Infix
import NdcOdfWeb.Queue.Invalidations
import NdcOdfWeb.Queue.TileQueue

/-! Messages other than tile requests: they only take messages out of the queue, and add at
most one, which is no tile request either.
-/

namespace NdcOdfWeb.Queue

open NdcOdfWeb.Foundation
open NdcOdfWeb.Protocol
open NdcOdfWeb.Tiles

/-- The queue behind a put, for each kind of message. -/
inductive PutOutcome (viewIdOf : Text → Except Exception Text) (queue : List Payload)
    (message : Payload)
    : List Payload → Prop where
  | canceled (first : getFirstToken ' ' message = "canceltiles".toList)
    : PutOutcome viewIdOf queue message
        (queue.filter
          (fun it => !TileQueue.canceled (stringTokenizer ',' (message.drop 12)) it))
  | combined (tiles : TileCombined) (first : getFirstToken ' ' message = "tilecombine".toList)
    : PutOutcome viewIdOf queue message
        (tiles.tiles.foldl
          (fun queue tile => TileQueue.putTile queue (tile.serialize "tile".toList)) queue)
  | tile (first : getFirstToken ' ' message = "tile".toList)
    : PutOutcome viewIdOf queue message (TileQueue.putTile queue message)
  | callback {left newMsg} (first : getFirstToken ' ' message = "callback".toList)
    (removed : removeCallbackDuplicate viewIdOf queue message = .ok (left, newMsg))
    : PutOutcome viewIdOf queue message (left ++ [if newMsg = [] then message else newMsg])
  | other (notCancel : getFirstToken ' ' message ≠ "canceltiles".toList)
    (notCombined : getFirstToken ' ' message ≠ "tilecombine".toList)
    (notTile : getFirstToken ' ' message ≠ "tile".toList)
    (notCallback : getFirstToken ' ' message ≠ "callback".toList)
    : PutOutcome viewIdOf queue message (queue ++ [message])

/-- By the branches of the source. -/
theorem putMessage_outcome {viewIdOf : Text → Except Exception Text}
    {queue next : List Payload} {message : Payload}
    (done : TileQueue.putMessage viewIdOf queue message = .ok next)
    : PutOutcome viewIdOf queue message next := by
  unfold TileQueue.putMessage at done
  simp only at done
  split at done
  · next first =>
      obtain ⟨seqs, read, removed⟩ := bind_ok done
      cases removed
      unfold substr at read
      split at read
      · cases read
      · cases read
        exact .canceled first
  · next notCancel =>
      split at done
      · next first =>
          obtain ⟨tiles, -, put⟩ := bind_ok done
          cases put
          exact .combined tiles first
      · next notCombined =>
          split at done
          · next first =>
              cases done
              exact .tile first
          · next notTile =>
              split at done
              · next first =>
                  obtain ⟨⟨left, newMsg⟩, removed, rest⟩ := bind_ok done
                  cases rest
                  exact .callback first removed
              · next notCallback =>
                  cases done
                  exact .other notCancel notCombined notTile notCallback

/-- The tile is added, the duplicates are erased. -/
theorem mem_putTile {queue : List Payload} {tileMsg it : Payload}
    (member : it ∈ TileQueue.putTile queue tileMsg)
    : it ∈ queue ∨ it = tileMsg := by
  rcases List.mem_append.mp member with old | new
  · exact .inl (List.eraseP_subset old)
  · exact .inr (List.mem_singleton.mp new)

/-- By induction on the tiles. -/
theorem mem_putTiles {queue : List Payload} {tiles : List TileDesc} {it : Payload}
    (member
      : it ∈ tiles.foldl
          (fun queue tile => TileQueue.putTile queue (tile.serialize "tile".toList)) queue)
    : it ∈ queue ∨ ∃ tile : TileDesc, it = tile.serialize "tile".toList := by
  induction tiles generalizing queue with
  | nil => exact .inl member
  | cons tile tiles ih =>
      rcases ih member with put | new
      · exact (mem_putTile put).imp_right (fun same => ⟨tile, same⟩)
      · exact .inr new

-----------------------------------------------------------------------------------------
-- What is taken out
-----------------------------------------------------------------------------------------

/-- By induction on the queue. -/
theorem eraseObsolete_sublist {obsolete : Payload → Except Exception Bool}
    {queue left : List Payload} (erased : eraseObsolete obsolete queue = .ok left)
    : left.Sublist queue := by
  induction queue generalizing left with
  | nil =>
      cases erased
      exact .slnil
  | cons it rest ih =>
      rw [eraseObsolete] at erased
      cases found : obsolete it with
      | error exception => simp [found, bind, Except.bind] at erased
      | ok isObsolete =>
          simp only [found, bind, Except.bind, pure, Except.pure] at erased
          cases isObsolete with
          | true =>
              cases erased
              exact List.sublist_cons_self it _
          | false =>
              cases later : eraseObsolete obsolete rest with
              | error exception => simp [later] at erased
              | ok kept =>
                  simp only [later, Bool.false_eq_true, if_false, Except.ok.injEq] at erased
                  rw [← erased]
                  exact (ih later).cons_cons it

/-- The merged message starts like the original one. -/
theorem mergeResult_head {callbackMsg result : Text} {tokens : List Text} {msg : Invalidation}
    (merged : mergeResult callbackMsg tokens msg = .ok result) (nonempty : callbackMsg ≠ [])
    : result.head? = callbackMsg.head? := by
  obtain ⟨c, text, rfl⟩ := List.exists_cons_of_ne_nil nonempty
  obtain ⟨rest, -, done⟩ := bind_ok merged
  cases done
  simp [List.take_succ_cons]

/-- The merged message replaces what it was merged from. -/
theorem removeInvalidations_sublist {queue left : List Payload}
    {callbackMsg newMsg token0 token1 token2 : Text} {rest : List Text}
    (nonempty : callbackMsg ≠ [])
    (removed
      : removeInvalidations queue callbackMsg token0 token1 token2 rest = .ok (left, newMsg))
    : left.Sublist queue ∧ (newMsg = [] ∨ newMsg.head? = callbackMsg.head?) := by
  unfold removeInvalidations at removed
  split at removed
  · cases removed
    exact ⟨.refl _, .inl rfl⟩
  · simp only at removed
    split at removed
    · obtain ⟨result, merged, done⟩ := bind_ok removed
      cases done
      exact ⟨mergeInvalidations_sublist _ _ _ _ _ _, .inr (mergeResult_head merged nonempty)⟩
    · cases removed
      exact ⟨mergeInvalidations_sublist _ _ _ _ _ _, .inl rfl⟩

/-- The state of the same name is erased. -/
theorem removeState_sublist (queue : List Payload) (token0 token1 token2 : Text)
    (rest : List Text)
    : (removeState queue token0 token1 token2 rest).Sublist queue := by
  unfold removeState
  split
  · exact .refl _
  · split
    · exact .refl _
    · exact List.eraseP_sublist

/-- The value of the same type and view is erased. -/
theorem removeValue_sublist {viewIdOf : Text → Except Exception Text}
    {queue left : List Payload} {callbackMsg token0 token1 token2 : Text}
    (removed : removeValue viewIdOf queue callbackMsg token0 token1 token2 = .ok left)
    : left.Sublist queue := by
  unfold removeValue at removed
  split at removed
  · obtain ⟨viewId, -, erased⟩ := bind_ok removed
    exact eraseObsolete_sublist erased
  · exact eraseObsolete_sublist removed

/-- What `removeCallbackDuplicate` leaves of the queue, and what it makes of the message. -/
theorem removeCallbackDuplicate_sublist {viewIdOf : Text → Except Exception Text}
    {queue left : List Payload} {callbackMsg newMsg : Text} (nonempty : callbackMsg ≠ [])
    (removed : removeCallbackDuplicate viewIdOf queue callbackMsg = .ok (left, newMsg))
    : left.Sublist queue ∧ (newMsg = [] ∨ newMsg.head? = callbackMsg.head?) := by
  unfold removeCallbackDuplicate at removed
  split at removed
  · split at removed
    · exact removeInvalidations_sublist nonempty removed
    · split at removed
      · cases removed
        exact ⟨removeState_sublist _ _ _ _ _, .inl rfl⟩
      · split at removed
        · obtain ⟨kept, erased, done⟩ := bind_ok removed
          cases done
          exact ⟨removeValue_sublist erased, .inl rfl⟩
        · cases removed
          exact ⟨.refl _, .inl rfl⟩
  · cases removed
    exact ⟨.refl _, .inl rfl⟩

/-- An exception leaves a part of the queue, in order. -/
theorem leftMessages_sublist (queue : List Payload) (msg : Text)
    : (TileQueue.leftMessages queue msg).Sublist queue := by
  unfold TileQueue.leftMessages
  split
  · split
    · split
      · split
        · exact mergeInvalidations_sublist _ _ _ _ _ _
        · exact .refl _
      · exact .refl _
    · exact .refl _
  · exact .refl _

/-- An exception takes out invalidations only: what else there is stays as it is. -/
theorem leftMessages_filter {keep : Payload → Bool} {queue : List Payload} (msg : Text)
    (dropped
      : ∀ token0 token1, ∀ it ∈ queue, ∀ queued,
          queuedInvalidation token0 token1 "0".toList it = some queued → keep it = false)
    : (TileQueue.leftMessages queue msg).filter keep = queue.filter keep := by
  unfold TileQueue.leftMessages
  split
  · split
    · next token0 token1 token2 rest _ =>
        split
        · next invalidation =>
            split
            · exact mergeInvalidations_filter _ _ (invalidation ▸ dropped token0 token1)
            · rfl
        · rfl
    · rfl
  · rfl

/-- A new text comes from merging an invalidation. -/
theorem removeCallbackDuplicate_merged {viewIdOf : Text → Except Exception Text}
    {queue left : List Payload} {callbackMsg newMsg : Text} (isNew : newMsg ≠ [])
    (removed : removeCallbackDuplicate viewIdOf queue callbackMsg = .ok (left, newMsg))
    : ∃ token0 token1 rest msg merged,
        tokenize ' ' callbackMsg = token0 :: token1 :: "0".toList :: rest
        ∧ extractRectangle (token0 :: token1 :: "0".toList :: rest) = some msg
        ∧ mergeResult callbackMsg (token0 :: token1 :: "0".toList :: rest) merged
          = .ok newMsg := by
  unfold removeCallbackDuplicate at removed
  split at removed
  · next token0 token1 token2 rest tokens =>
      split at removed
      · next invalidation =>
          rw [invalidation] at tokens removed
          unfold removeInvalidations at removed
          split at removed
          · cases removed
            exact absurd rfl isNew
          · next msg read =>
              simp only at removed
              split at removed
              · obtain ⟨result, merged, done⟩ := bind_ok removed
                cases done
                exact ⟨token0, token1, rest, msg, _, tokens, read, merged⟩
              · cases removed
                exact absurd rfl isNew
      · split at removed
        · cases removed
          exact absurd rfl isNew
        · split at removed
          · obtain ⟨kept, -, done⟩ := bind_ok removed
            cases done
            exact absurd rfl isNew
          · cases removed
            exact absurd rfl isNew
  · cases removed
    exact absurd rfl isNew

/-- An empty message has no token. -/
theorem ne_nil_of_getFirstToken {message token : Payload}
    (first : getFirstToken ' ' message = token) (nonempty : token ≠ [])
    : message ≠ [] := by
  rintro rfl
  exact nonempty first.symm

/-- Where the messages behind a put come from. -/
theorem putMessage_mem {viewIdOf : Text → Except Exception Text} {queue next : List Payload}
    {message it : Payload} (done : TileQueue.putMessage viewIdOf queue message = .ok next)
    (member : it ∈ next)
    : it ∈ queue
      ∨ it = message
      ∨ (∃ tile : TileDesc, it = tile.serialize "tile".toList)
      ∨ getFirstToken ' ' message = "callback".toList
        ∧ it ≠ []
        ∧ ∃ left, removeCallbackDuplicate viewIdOf queue message = .ok (left, it) := by
  cases putMessage_outcome done with
  | canceled _ => exact .inl (List.mem_of_mem_filter member)
  | combined tiles _ =>
      rcases mem_putTiles member with old | new
      · exact .inl old
      · exact .inr (.inr (.inl new))
  | tile _ =>
      rcases mem_putTile member with old | new
      · exact .inl old
      · exact .inr (.inl new)
  | @callback left newMsg first removed =>
      have nonempty := ne_nil_of_getFirstToken first (by decide)
      rcases List.mem_append.mp member with old | last
      · exact .inl ((removeCallbackDuplicate_sublist nonempty removed).1.subset old)
      · have new := List.mem_singleton.mp last
        split at new
        · exact .inr (.inl new)
        · next isNew =>
            rw [← new] at removed isNew
            exact .inr (.inr (.inr ⟨first, isNew, left, removed⟩))
  | other _ _ _ _ =>
      rcases List.mem_append.mp member with old | last
      · exact .inl old
      · exact .inr (.inl (List.mem_singleton.mp last))

/-- A message whose first token is neither `tile` nor `tilecombine` takes messages out of the
queue and adds at most one, which is no tile request.
-/
theorem putMessage_notRequest {viewIdOf : Text → Except Exception Text}
    {queue next : List Payload} {message : Payload}
    (notTile : getFirstToken ' ' message ≠ "tile".toList)
    (notCombined : getFirstToken ' ' message ≠ "tilecombine".toList)
    (done : TileQueue.putMessage viewIdOf queue message = .ok next)
    : ∃ kept, kept.Sublist queue
        ∧ (next = kept
          ∨ ∃ added, next = kept ++ [added] ∧ getFirstToken ' ' added ≠ "tile".toList) := by
  cases putMessage_outcome done with
  | canceled _ => exact ⟨_, List.filter_sublist, .inl rfl⟩
  | combined tiles first => exact absurd first notCombined
  | tile first => exact absurd first notTile
  | other _ _ _ _ => exact ⟨queue, .refl _, .inr ⟨message, rfl, notTile⟩⟩
  | @callback left newMsg callback removed =>
      have head : message.head? = some 'c' := by
        have starts := getFirstToken_prefix ' ' message
        rw [callback] at starts
        obtain ⟨more, rfl⟩ := starts
        rfl
      have nonempty := ne_nil_of_getFirstToken callback (by decide)
      obtain ⟨sublist, starts⟩ := removeCallbackDuplicate_sublist nonempty removed
      refine ⟨left, sublist, .inr ⟨_, rfl, ?_⟩⟩
      split
      · exact notTile
      · next isNew =>
          intro tile
          have tileHead := getFirstToken_prefix ' ' newMsg
          rw [tile] at tileHead
          obtain ⟨more, rfl⟩ := tileHead
          rcases starts with empty | same
          · exact isNew empty
          · rw [head] at same
            cases same

end NdcOdfWeb.Queue
