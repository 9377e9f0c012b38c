import NdcOdfWeb.Foundation.FirstMaximum
import NdcOdfWeb.Queue.OtherMessages
import NdcOdfWeb.Queue.Service

/-! The tile that a queue returns first, and the order of the views that decides about it. -/

namespace NdcOdfWeb.Queue

open NdcOdfWeb.Foundation
open NdcOdfWeb.Protocol
open NdcOdfWeb.Tiles
open TileQueue

/-- A message that wsd sends to the kit: a request for tiles, or anything that does not start
like one.
-/
inductive KitMessage where
  | tile (request : Request)
  | combined (tiles : TileCombined)
  | other (message : Payload) (notTile : ¬ "tile".toList <+: message)

def KitMessage.text : KitMessage → Payload
  | tile request => request.text
  | combined tiles => tiles.serialize "tilecombine".toList
  | other message _ => message

/-- A call of one of the queue's public functions. -/
inductive QueueCall where
  | put (message : KitMessage)
  | get
  | updateCursorPosition (viewId part x y width height : Int32)
  | removeCursorPosition (viewId : Int32)

/-- The queue after a call; an exception may leave less of it, and an empty queue waits. -/
def TileQueue.call (viewIdOf : Text → Except Exception Text) (queue : TileQueue)
    : QueueCall → TileQueue
  | .put message =>
      match queue.put viewIdOf message.text with
      | .ok next => next
      | .error _ => queue.afterException message.text
  | .get =>
      match queue.get with
      | some (_, next) => next
      | none => queue
  | .updateCursorPosition viewId part x y width height =>
      queue.updateCursorPosition viewId part x y width height
  | .removeCursorPosition viewId => queue.removeCursorPosition viewId

/-- A new queue after some calls. -/
def TileQueue.run (viewIdOf : Text → Except Exception Text) (calls : List QueueCall) : TileQueue :=
  calls.foldl (TileQueue.call viewIdOf) .empty

variable {viewIdOf : Text → Except Exception Text}

/-- The last call is made in the state that the others left. -/
theorem run_append (calls : List QueueCall) (call : QueueCall)
    : TileQueue.run viewIdOf (calls ++ [call])
      = (TileQueue.run viewIdOf calls).call viewIdOf call := by
  rw [TileQueue.run, List.foldl_append]
  rfl

/-- A message with the start of a callback does not start like a tile request. -/
theorem isTile_of_head {it : Payload} (head : it.head? = some 'c') : isTile it = false := by
  cases it with
  | nil => cases head
  | cons c rest =>
      obtain rfl := Option.some.inj head
      rfl

/-- A put of wsd's message leaves a queue of requests and other messages. -/
theorem requestTexts_put {queue next : List Payload} (texts : RequestTexts queue)
    (message : KitMessage) (done : putMessage viewIdOf queue message.text = .ok next)
    : RequestTexts next := by
  intro it member tile
  rcases putMessage_mem done member with old | rfl | ⟨desc, rfl⟩ | ⟨callback, isNew, left, merged⟩
  · exact texts it old tile
  · cases message with
    | tile request => exact ⟨request, rfl⟩
    | combined tiles =>
        have put := putMessage_combined viewIdOf queue tiles
        cases done.symm.trans put
        rcases mem_putTiles member with old | ⟨desc, same⟩
        · exact texts _ old tile
        · exact ⟨⟨.split, desc⟩, same⟩
    | other message notTile => exact absurd (List.isPrefixOf_iff_prefix.mp tile) notTile
  · exact ⟨⟨.split, desc⟩, rfl⟩
  · have starts := getFirstToken_prefix ' ' message.text
    rw [callback] at starts
    have head : message.text.head? = some 'c' := by
      obtain ⟨more, shape⟩ := starts
      rw [← shape]
      rfl
    have nonempty := ne_nil_of_getFirstToken callback (by decide)
    rcases (removeCallbackDuplicate_sublist nonempty merged).2 with empty | same
    · exact absurd empty isNew
    · rw [isTile_of_head (same.trans head)] at tile
      cases tile

/-- A call adds requests as their texts, or removes some. -/
theorem requestTexts_call {queue : TileQueue} (texts : RequestTexts queue.queue)
    (call : QueueCall)
    : RequestTexts (queue.call viewIdOf call).queue := by
  cases call with
  | put message =>
      rw [TileQueue.call]
      split
      · next next done =>
          unfold TileQueue.put at done
          split at done
          · cases done
          · obtain ⟨messages, put, same⟩ := bind_ok done
            cases same
            exact requestTexts_put texts message put
      · exact texts.subset (leftMessages_sublist queue.queue message.text).subset
  | get =>
      rw [TileQueue.call]
      split
      · next result next taken =>
          unfold TileQueue.get at taken
          split at taken
          · cases taken
          · next front rest shape =>
              obtain ⟨-, same⟩ := Prod.mk.inj (Option.some.inj taken)
              rw [← same]
              exact texts.subset (shape ▸ (getMessage_subperm shape).subset)
      · exact texts
  | updateCursorPosition | removeCursorPosition => exact texts

/-- By induction on the calls. -/
theorem requestTexts_run (calls : List QueueCall)
    : RequestTexts (TileQueue.run viewIdOf calls).queue := by
  induction calls using List.reverseRecOn with
  | nil => exact fun _ member => absurd member List.not_mem_nil
  | append_singleton calls call ih =>
      rw [run_append]
      exact requestTexts_call ih call

-----------------------------------------------------------------------------------------
-- The search
-----------------------------------------------------------------------------------------

/-- The priority of a tile request that can be read. -/
def TileQueue.priorityOf (queue : TileQueue) (it : Payload) : Int :=
  match queue.priority it with
  | .ok priority => priority
  | .error _ => -1

/-- By induction on the views: the priority is an index of one, or -1. -/
theorem priorityAmong_bounds (queue : TileQueue) (tile : TileDesc) (views : List Int32)
    : -1 ≤ queue.priorityAmong tile views ∧ queue.priorityAmong tile views ≤ views.length - 1 := by
  induction views with
  | nil => exact ⟨le_refl _, le_refl _⟩
  | cons view older ih =>
      rw [priorityAmong, List.length_cons]
      split
      · omega
      · omega

/-- The priority can be read, and is that of a view or -1. -/
structure Readable (queue : TileQueue) (it : Payload) : Prop where
  read : queue.priority it = .ok (queue.priorityOf it)
  least : -1 ≤ queue.priorityOf it
  greatest : queue.priorityOf it ≤ queue.viewOrder.length - 1

/-- A request's text is parsed back. -/
theorem readable_text (queue : TileQueue) (request : Request) : Readable queue request.text := by
  have read
      : queue.priority request.text
        = .ok (queue.priorityAmong request.tile.withReadId queue.viewOrder.reverse) := by
    rw [priority, request.parse_text]
    rfl
  have same
      : queue.priorityOf request.text
        = queue.priorityAmong request.tile.withReadId queue.viewOrder.reverse := by
    rw [priorityOf, read]
  obtain ⟨least, greatest⟩ :=
    priorityAmong_bounds queue request.tile.withReadId queue.viewOrder.reverse
  rw [List.length_reverse] at greatest
  exact ⟨read.trans (congrArg Except.ok same.symm), same ▸ least, same ▸ greatest⟩

/-- All plain tiles in front of the first other message can be read. -/
theorem readable_of_texts {queue : TileQueue} {messages : List Payload}
    (texts : RequestTexts messages)
    : ∀ it ∈ messages, isPlainTile it = true → Readable queue it := by
  intro it member plain
  obtain ⟨request, rfl⟩ := texts it member (isTile_of_isPlainTile plain)
  exact readable_text queue request

/-- The best tile so far is the first of the greatest priority, among those that were looked at. -/
structure BestSoFar (queue : TileQueue) (seen : List Payload) (best : Prioritized) : Prop where
  first : FirstMaximum queue.priorityOf seen best.prioritized best.msg
  prioritySoFar : queue.priorityOf best.msg = best.prioritySoFar

/-- No tile behind one of the highest priority has a greater one. -/
theorem BestSoFar.highest {queue : TileQueue} {seen rest : List Payload} {best : Prioritized}
    (before : BestSoFar queue seen best)
    (highest : best.prioritySoFar = (queue.viewOrder.length : Int) - 1)
    (readable : ∀ it ∈ rest, isPlainTile it = true → Readable queue it)
    : BestSoFar queue (seen ++ rest.takeWhile isPlainTile) best := by
  refine ⟨before.first.skip ?_, before.prioritySoFar⟩
  intro other member
  rw [before.prioritySoFar, highest]
  exact (readable other (List.takeWhile_subset _ member)
    (List.mem_takeWhile_imp member)).greatest

/-- The search goes on from some tiles that were looked at; it ends early only if no priority is
greater than the best one.
-/
theorem prioritize_best {queue : TileQueue} {seen rest : List Payload} {best : Prioritized}
    (before : BestSoFar queue seen best)
    (readable : ∀ it ∈ rest, isPlainTile it = true → Readable queue it)
    : ∃ result,
        queue.prioritize seen.length best rest = .ok result
        ∧ BestSoFar queue (seen ++ rest.takeWhile isPlainTile) result := by
  induction rest generalizing seen best with
  | nil =>
      refine ⟨best, rfl, ?_⟩
      rw [List.takeWhile_nil, List.append_nil]
      exact before
  | cons prio rest ih =>
      have later : ∀ it ∈ rest, isPlainTile it = true → Readable queue it :=
        fun it member => readable it (List.mem_cons_of_mem prio member)
      rw [prioritize]
      by_cases plain : isPlainTile prio = true
      · rw [if_neg (by simp [plain]), List.takeWhile_cons_of_pos plain, List.append_cons]
        have here := (readable prio List.mem_cons_self plain).read
        have length : seen.length + 1 = (seen ++ [prio]).length := by simp
        simp only [here, bind, Except.bind, pure, Except.pure, length]
        split
        · next greater =>
            have next : BestSoFar queue (seen ++ [prio])
                ⟨seen.length, queue.priorityOf prio, prio⟩ :=
              ⟨before.first.take (before.prioritySoFar ▸ greater), rfl⟩
            split
            · next highest => exact ⟨_, rfl, next.highest highest later⟩
            · exact ih next later
        · next atMost =>
            have same : BestSoFar queue (seen ++ [prio]) best := by
              refine ⟨before.first.skip ?_, before.prioritySoFar⟩
              intro other member
              rw [List.mem_singleton.mp member, before.prioritySoFar]
              exact not_lt.mp atMost
            exact ih same later
      · rw [if_pos (by simpa using plain), List.takeWhile_cons_of_neg plain, List.append_nil]
        exact ⟨best, rfl, before⟩

/-- The search in front of a plain tile finds the first tile of the greatest priority. -/
theorem prioritize_first {queue : TileQueue} {front : Payload} {rest : List Payload}
    (plain : isPlainTile front = true)
    (readable : ∀ it ∈ front :: rest, isPlainTile it = true → Readable queue it)
    : ∃ best,
        queue.prioritize 0 { prioritized := 0, prioritySoFar := -1, msg := front }
            (front :: rest)
          = .ok best
        ∧ FirstMaximum queue.priorityOf ((front :: rest).takeWhile isPlainTile)
            best.prioritized best.msg := by
  have here := readable front List.mem_cons_self plain
  have later : ∀ it ∈ rest, isPlainTile it = true → Readable queue it :=
    fun it member => readable it (List.mem_cons_of_mem front member)
  have start : BestSoFar queue [front] ⟨0, queue.priorityOf front, front⟩ :=
    ⟨.single _ _, rfl⟩
  rw [prioritize, if_neg (by simp [plain]), List.takeWhile_cons_of_pos plain]
  simp only [here.read, bind, Except.bind, pure, Except.pure]
  split
  · split
    · next highest => exact ⟨_, rfl, (start.highest highest later).first⟩
    · obtain ⟨result, found, best⟩ := prioritize_best start later
      exact ⟨result, found, best.first⟩
  · next atMost =>
      -- no cursor is at the front tile
      have lowest : queue.priorityOf front = -1 := le_antisymm (not_lt.mp atMost) here.least
      rw [lowest] at start
      obtain ⟨result, found, best⟩ := prioritize_best start later
      exact ⟨result, found, best.first⟩

/-- With a plain tile at the front, what is returned is or contains the first tile of the greatest
priority among those in front of the first other message.
-/
structure ReturnsFirst (queue : TileQueue) (payload : Payload) : Prop where
  isTile : isTile payload = true
  first
    : ∃ i, ∃ request : Request,
        FirstMaximum queue.priorityOf (queue.queue.takeWhile isPlainTile) i request.text
        ∧ request.tile.component ∈ receivedComponents payload

/-- The search finds the first request of the highest priority. -/
theorem getTiles_first {queue : TileQueue} {front : Payload} {rest : List Payload}
    (shape : queue.queue = front :: rest) (texts : RequestTexts queue.queue)
    (plain : isPlainTile front = true)
    : ∃ payload left, queue.getTiles front = (.ok payload, left) ∧ ReturnsFirst queue payload := by
  obtain ⟨best, searched, first⟩ :=
    prioritize_first plain ((readable_of_texts (shape ▸ texts) : ∀ it ∈ front :: rest, isPlainTile it = true → Readable queue it))
  rw [← shape] at searched first
  have member := first.mem
  obtain ⟨request, bestText⟩ :=
    texts best.msg (List.takeWhile_subset _ member)
      (isTile_of_isPlainTile (List.mem_takeWhile_imp member))
  have left := List.eraseIdx_sublist queue.queue best.prioritized
  have parsed
      : ∀ it ∈ queue.queue.eraseIdx best.prioritized,
          isPlainTile it = true → ∃ tile, TileDesc.parse it = .ok tile := by
    intro it inside isPlain
    obtain ⟨other, rfl⟩ := texts it (left.subset inside) (isTile_of_isPlainTile isPlain)
    exact ⟨_, other.parse_text⟩
  obtain ⟨taken, tiles, read, -, -, joined⟩ :=
    combineTiles_taken request.tile.withReadId parsed
  obtain ⟨payload, message, isTilePayload, received⟩ := tilesMessage_received joined
  refine ⟨payload, (combineTiles request.tile.withReadId
    (queue.queue.eraseIdx best.prioritized)).2, ?_, isTilePayload, best.prioritized, request,
    bestText ▸ first, ?_⟩
  · simp only [getTiles, searched, bestText, request.parse_text, read, Except.bind, message]
  · rw [received]
    exact List.mem_cons_self

-----------------------------------------------------------------------------------------
-- The order of the views
-----------------------------------------------------------------------------------------

/-- The call moves the cursor of the view. -/
def QueueCall.updates (viewId : Int32) : QueueCall → Bool
  | .updateCursorPosition other _ _ _ _ _ => other = viewId
  | _ => false

/-- The last update of one view's cursor lies before the last one of the other's. -/
structure UpdatedBefore (calls : List QueueCall) (older newer : Int32) : Prop where
  split
    : ∃ before after,
        calls = before ++ after
        ∧ before.any (QueueCall.updates older) = true
        ∧ after.any (QueueCall.updates newer) = true
        ∧ after.any (QueueCall.updates older) = false

/-- A call that is not about the older view changes no order. -/
theorem UpdatedBefore.append {calls : List QueueCall} {older newer : Int32}
    (updated : UpdatedBefore calls older newer) {call : QueueCall}
    (other : call.updates older = false)
    : UpdatedBefore (calls ++ [call]) older newer := by
  obtain ⟨before, after, rfl, first, last, none'⟩ := updated.split
  refine ⟨before, after ++ [call], List.append_assoc .., first, ?_, ?_⟩
  · rw [List.any_append, last, Bool.true_or]
  · rw [List.any_append, none', List.any_cons, other, List.any_nil]
    rfl

/-- The views are listed once each, in the order of the last updates of their cursors. -/
structure ViewOrder (calls : List QueueCall) (queue : TileQueue) : Prop where
  nodup : queue.viewOrder.Nodup
  views : ∀ viewId, viewId ∈ queue.viewOrder ↔ (queue.cursorPositions viewId).isSome
  updated : ∀ viewId ∈ queue.viewOrder, calls.any (QueueCall.updates viewId) = true
  ordered : queue.viewOrder.Pairwise (UpdatedBefore calls)

/-- A call that moves no cursor. -/
theorem ViewOrder.keep {calls : List QueueCall} {queue next : TileQueue} {call : QueueCall}
    (order : ViewOrder calls queue) (other : ∀ viewId, call.updates viewId = false)
    (viewOrder : next.viewOrder = queue.viewOrder)
    (cursors : next.cursorPositions = queue.cursorPositions)
    : ViewOrder (calls ++ [call]) next := by
  refine ⟨viewOrder ▸ order.nodup, ?_, ?_, ?_⟩
  · rw [viewOrder, cursors]
    exact order.views
  · intro viewId member
    rw [viewOrder] at member
    rw [List.any_append, order.updated viewId member, Bool.true_or]
  · rw [viewOrder]
    exact order.ordered.imp (fun updated => updated.append (other _))

/-- The updated view moves to the end. -/
theorem ViewOrder.update {calls : List QueueCall} {queue : TileQueue}
    (order : ViewOrder calls queue) (viewId part x y width height : Int32)
    : ViewOrder (calls ++ [.updateCursorPosition viewId part x y width height])
        (queue.updateCursorPosition viewId part x y width height) := by
  have others {other : Int32} (member : other ∈ queue.viewOrder.erase viewId)
      : other ∈ queue.viewOrder ∧ other ≠ viewId :=
    ⟨List.mem_of_mem_erase member, (order.nodup.mem_erase_iff.mp member).1⟩
  have notOther {other : Int32} (differs : other ≠ viewId)
      : (QueueCall.updateCursorPosition viewId part x y width height).updates other = false :=
    decide_eq_false (Ne.symm differs)
  refine ⟨?_, ?_, ?_, ?_⟩
  · apply List.Nodup.append (order.nodup.erase viewId) (List.nodup_singleton viewId)
    intro other member single
    exact (others member).2 (List.mem_singleton.mp single)
  · intro other
    change other ∈ queue.viewOrder.erase viewId ++ [viewId]
      ↔ (Function.update queue.cursorPositions viewId (some _) other).isSome
    rw [List.mem_append, List.mem_singleton, Function.update_apply]
    by_cases same : other = viewId
    · simp [same]
    · rw [if_neg same, order.nodup.mem_erase_iff, ← order.views other]
      simp [same]
  · intro other member
    rw [List.any_append]
    rcases List.mem_append.mp member with old | last
    · rw [order.updated other (others old).1, Bool.true_or]
    · rw [List.mem_singleton.mp last]
      simp [QueueCall.updates]
  · refine List.pairwise_append.mpr ⟨?_, List.pairwise_singleton .., ?_⟩
    · refine (order.ordered.sublist List.erase_sublist).imp_of_mem ?_
      intro older newer member _ updated
      exact updated.append (notOther (others member).2)
    · intro older member newest last
      obtain ⟨old, differs⟩ := others member
      rw [List.mem_singleton.mp last]
      refine ⟨calls, _, rfl, order.updated older old, ?_, ?_⟩
      · simp [QueueCall.updates]
      · rw [List.any_cons, notOther differs]
        rfl

/-- The removed view leaves the others as they are. -/
theorem ViewOrder.remove {calls : List QueueCall} {queue : TileQueue}
    (order : ViewOrder calls queue) (viewId : Int32)
    : ViewOrder (calls ++ [.removeCursorPosition viewId])
        (queue.removeCursorPosition viewId) := by
  refine ⟨order.nodup.erase viewId, ?_, ?_, ?_⟩
  · intro other
    change other ∈ queue.viewOrder.erase viewId
      ↔ (Function.update queue.cursorPositions viewId none other).isSome
    rw [order.nodup.mem_erase_iff, order.views other, Function.update_apply]
    by_cases same : other = viewId
    · simp [same]
    · simp [same]
  · intro other member
    rw [List.any_append, order.updated other (List.mem_of_mem_erase member), Bool.true_or]
  · exact (order.ordered.sublist List.erase_sublist).imp (fun updated => updated.append rfl)

/-- By induction on the calls. -/
theorem viewOrder_run (calls : List QueueCall)
    : ViewOrder calls (TileQueue.run viewIdOf calls) := by
  induction calls using List.reverseRecOn with
  | nil =>
      exact ⟨List.nodup_nil, fun _ => iff_of_false List.not_mem_nil Bool.false_ne_true,
        fun _ member => absurd member List.not_mem_nil, List.Pairwise.nil⟩
  | append_singleton calls call ih =>
      rw [run_append]
      cases call with
      | updateCursorPosition viewId part x y width height =>
          exact ih.update viewId part x y width height
      | removeCursorPosition viewId => exact ih.remove viewId
      | put message =>
          rw [TileQueue.call]
          split
          · next next done =>
              unfold TileQueue.put at done
              split at done
              · cases done
              · obtain ⟨messages, -, same⟩ := bind_ok done
                cases same
                exact ih.keep (fun _ => rfl) rfl rfl
          · exact ih.keep (fun _ => rfl) rfl rfl
      | get =>
          rw [TileQueue.call]
          split
          · next result next taken =>
              unfold TileQueue.get at taken
              split at taken
              · cases taken
              · obtain ⟨-, same⟩ := Prod.mk.inj (Option.some.inj taken)
                rw [← same]
                exact ih.keep (fun _ => rfl) rfl rfl
          · exact ih.keep (fun _ => rfl) rfl rfl

/-- After every sequence of calls, the views are listed once each in the order of their last
updates, and `get` returns the first tile of the greatest priority if a plain tile is at the front.
-/
theorem get_priorityOrder (viewIdOf : Text → Except Exception Text) (calls : List QueueCall)
    : ViewOrder calls (TileQueue.run viewIdOf calls)
      ∧ ((TileQueue.run viewIdOf calls).queue.head?.any isPlainTile = true
        → ∃ payload next,
            (TileQueue.run viewIdOf calls).get = some (.ok payload, next)
            ∧ ReturnsFirst (TileQueue.run viewIdOf calls) payload) := by
  refine ⟨viewOrder_run calls, ?_⟩
  intro front'
  have texts : RequestTexts (TileQueue.run viewIdOf calls).queue := requestTexts_run calls
  generalize TileQueue.run viewIdOf calls = queue at front' texts ⊢
  cases shape : queue.queue with
  | nil =>
      rw [shape] at front'
      cases front'
  | cons front rest =>
      rw [shape] at front'
      have plain : isPlainTile front = true := front'
      obtain ⟨payload, left, got, first⟩ := getTiles_first shape texts plain
      refine ⟨payload, { queue with queue := left }, ?_, first⟩
      simp only [TileQueue.get, shape, getMessage, plain, if_true, got]

end NdcOdfWeb.Queue
