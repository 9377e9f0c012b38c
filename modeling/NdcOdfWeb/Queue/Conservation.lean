import NdcOdfWeb.Queue.Runs
import NdcOdfWeb.Queue.Service

/-! No message is lost or doubled on its way through a tile queue.
The queue refines a pool of tiles next to a line of messages; in the pool, a tile is only
displaced by a later one at the same place.
-/

namespace NdcOdfWeb.Queue

open NdcOdfWeb.Foundation
open NdcOdfWeb.Protocol
open NdcOdfWeb.Tiles
open TileQueue

/-- The messages of a client that sends tile requests, and others that the queue does not
look into.
-/
inductive ClientMessage where
  | tile (request : Request)
  | combined (tiles : TileCombined)
  | other (message : Payload) (nonempty : message ≠ [])
    (notTile : ¬ "tile".toList <+: message)
    (notCallback : ¬ "callback".toList <+: message)
    (notCancel : ¬ "canceltiles".toList <+: message)

def ClientMessage.text : ClientMessage → Payload
  | tile request => request.text
  | combined tiles => tiles.serialize "tilecombine".toList
  | other message _ _ _ _ => message

/-- The tiles that a call puts into the queue. -/
def tilesPut : Event ClientMessage → List TileDesc
  | .put (.tile request) => [request.tile.component]
  | .put (.combined tiles) => tiles.tiles.map TileDesc.component
  | _ => []

/-- The other messages that a call puts into the queue. -/
def messagesPut : Event ClientMessage → List Payload
  | .put (.other message _ _ _ _) => [message]
  | _ => []

/-- The tiles that a call returns, alone or combined. -/
def tilesGot : Event ClientMessage → List TileDesc
  | .got (.ok payload) => if isTile payload then receivedComponents payload else []
  | _ => []

/-- The other messages that a call returns. -/
def messagesGot : Event ClientMessage → List Payload
  | .got (.ok payload) => if isTile payload then [] else [payload]
  | _ => []

/-- A call as events of a pool: the components of a combination come one after the other. -/
def observed (event : Event ClientMessage) : List (PoolEvent TileDesc Payload) :=
  PoolEvent.call (tilesPut event) (messagesPut event) (tilesGot event) (messagesGot event)

/-- Event by event. -/
theorem flatMap_observed {β : Type} {read : PoolEvent TileDesc Payload → List β}
    {count : Event ClientMessage → List β}
    (single : ∀ event, (observed event).flatMap read = count event)
    (events : List (Event ClientMessage))
    : (events.flatMap observed).flatMap read = events.flatMap count := by
  rw [List.flatMap_assoc]
  exact List.flatMap_congr (fun event _ => single event)

-----------------------------------------------------------------------------------------
-- put
-----------------------------------------------------------------------------------------

/-- A queue as a pool. -/
def poolOf (queue : List Payload) (displaced : Multiset (TileDesc × TileDesc))
    : Pool TileDesc Payload :=
  ⟨pendingTiles queue, waitingMessages queue, displaced⟩

/-- Putting a request adds its tile and displaces at most one, at the same place. -/
theorem putTile_step {queue : List Payload} (texts : RequestTexts queue) (request : Request)
    (displaced : Multiset (TileDesc × TileDesc))
    : ∃ next, Pool.Step SamePlace (poolOf queue displaced) (.item request.tile.component)
        (poolOf (putTile queue request.text) next) := by
  have pending : ∀ left : List Payload, pendingTiles (left ++ [request.text])
      = request.tile.component ::ₘ pendingTiles left := by
    intro left
    rw [pendingTiles_perm (List.perm_append_singleton request.text left), pendingTiles_cons,
      request.isTile_text, if_pos rfl, receivedComponents_text]
    rfl
  have waiting : ∀ left : List Payload, waitingMessages (left ++ [request.text])
      = waitingMessages left := by
    intro left
    simp [waitingMessages, request.isTile_text]
  rcases List.exists_or_eq_self_of_eraseP (sameUpTo (comparedLength request.text) request.text)
    queue with none | ⟨it, before, after, -, same, shape, erased⟩
  · refine ⟨displaced, ?_⟩
    simp only [poolOf, putTile, removeTileDuplicate, none, pending, waiting]
    exact .item
  · obtain ⟨queued, rfl, shadows⟩ := exists_request_of_sameUpTo texts (by simp [shape]) same
    refine ⟨(queued.tile.component, request.tile.component) ::ₘ displaced, ?_⟩
    have victim : pendingTiles queue
        = queued.tile.component ::ₘ pendingTiles (before ++ after) := by
      rw [shape, pendingTiles_perm List.perm_middle, pendingTiles_cons, queued.isTile_text,
        if_pos rfl, receivedComponents_text]
      rfl
    have others : waitingMessages (before ++ after) = waitingMessages queue := by
      simp [shape, waitingMessages, queued.isTile_text]
    have place : SamePlace queued.tile.component request.tile.component := shadows.place
    simp only [poolOf, putTile, removeTileDuplicate, erased, pending, waiting, others]
    exact .displace victim place

/-- The components of a combined request are put one after the other. -/
theorem putTiles_run {queue : List Payload} (texts : RequestTexts queue)
    (tiles : List TileDesc) (displaced : Multiset (TileDesc × TileDesc))
    : ∃ next,
        RequestTexts (tiles.foldl
          (fun queue tile => putTile queue (tile.serialize "tile".toList)) queue)
        ∧ Pool.Run SamePlace (poolOf queue displaced)
            (tiles.map (fun tile => .item tile.component))
            (poolOf (tiles.foldl
              (fun queue tile => putTile queue (tile.serialize "tile".toList)) queue) next) := by
  induction tiles generalizing queue displaced with
  | nil => exact ⟨displaced, texts, .nil⟩
  | cons tile tiles ih =>
      let request : Request := ⟨.split, tile⟩
      obtain ⟨middle, step⟩ := putTile_step texts request displaced
      obtain ⟨next, later, run⟩ := ih (texts.putTile request) middle
      exact ⟨next, later, .cons step run⟩

/-- A message has a command. -/
theorem ClientMessage.text_ne_nil (message : ClientMessage) : message.text ≠ [] := by
  cases message with
  | tile request => exact request.text_ne_nil
  | combined tiles =>
      intro empty
      have tile := isTile_combined tiles
      have text : tiles.serialize "tilecombine".toList = [] := empty
      rw [text] at tile
      exact absurd tile (by decide)
  | other message nonempty => exact nonempty

/-- Every message of the client is accepted, and the pool follows. -/
theorem put_follows (viewIdOf : Text → Except Exception Text) {queue : TileQueue}
    (texts : RequestTexts queue.queue) (message : ClientMessage)
    (displaced : Multiset (TileDesc × TileDesc))
    : ∃ next after,
        queue.put viewIdOf message.text = .ok next
        ∧ RequestTexts next.queue
        ∧ Pool.Run SamePlace (poolOf queue.queue displaced) (observed (.put message))
            (poolOf next.queue after) := by
  have accepted : ∀ messages, putMessage viewIdOf queue.queue message.text = .ok messages
      → queue.put viewIdOf message.text = .ok { queue with queue := messages } := by
    intro messages done
    simp only [TileQueue.put, if_neg message.text_ne_nil, done, bind, Except.bind, pure,
      Except.pure]
  have idle : ∀ pool : Pool TileDesc Payload, Pool.Run SamePlace pool [.servedItems []] pool :=
    fun _ => .single (.servedItems (zero_add _).symm)
  cases message with
  | tile request =>
      obtain ⟨after, step⟩ := putTile_step texts request displaced
      exact ⟨_, after, accepted _ (putMessage_request viewIdOf _ request),
        texts.putTile request, (Pool.Run.single step).append (idle _)⟩
  | combined tiles =>
      obtain ⟨after, kept, run⟩ := putTiles_run texts tiles.tiles displaced
      refine ⟨_, after, accepted _ (putMessage_combined viewIdOf _ tiles), kept, ?_⟩
      have events : observed (.put (.combined tiles))
          = tiles.tiles.map (fun tile => .item tile.component) ++ [.servedItems []] := by
        simp [observed, PoolEvent.call, tilesPut, messagesPut, tilesGot, messagesGot,
          Function.comp_def]
      rw [events]
      exact run.append (idle _)
  | other message nonempty notTile notCallback notCancel =>
      have other : isTile message = false := isPrefixOf_eq_false notTile
      have pool : poolOf (queue.queue ++ [message]) displaced
          = { poolOf queue.queue displaced with
              waiting := waitingMessages queue.queue ++ [message] } := by
        simp [poolOf, pendingTiles, waitingMessages, other]
      refine ⟨_, displaced, accepted _
        (putMessage_other viewIdOf queue.queue notTile notCallback notCancel),
        texts.append (fun tile => absurd (other.symm.trans tile) Bool.false_ne_true), ?_⟩
      have run : Pool.Run SamePlace (poolOf queue.queue displaced)
          ([.message message] ++ [.servedItems []]) (poolOf (queue.queue ++ [message]) displaced) :=
        (Pool.Run.single (pool ▸ .message)).append (idle _)
      exact run

/-- The group that is taken is served at once. -/
theorem served_follows {before left : List Payload} {payload : Payload}
    (served : Served before payload left) (displaced : Multiset (TileDesc × TileDesc))
    : Pool.Run SamePlace (poolOf before displaced) (observed (.got (.ok payload)))
        (poolOf left displaced) := by
  cases served with
  | message other =>
      have events : observed (.got (.ok payload))
          = [.servedItems [], .servedMessage payload] := by
        simp [observed, PoolEvent.call, tilesPut, messagesPut, tilesGot, messagesGot, other]
      rw [events]
      have pending : pendingTiles (payload :: left) = pendingTiles left := by
        rw [pendingTiles_cons, other, if_neg Bool.false_ne_true, zero_add]
      have waiting : waitingMessages (payload :: left) = payload :: waitingMessages left := by
        simp [waitingMessages, other]
      simp only [poolOf, pending, waiting]
      exact .cons (.servedItems (zero_add _).symm) (.single (.servedMessage rfl))
  | tiles tile items messages _ =>
      have events : observed (.got (.ok payload))
          = [.servedItems (receivedComponents payload)] := by
        simp [observed, PoolEvent.call, tilesPut, messagesPut, tilesGot, messagesGot, tile]
      rw [events]
      simp only [poolOf, messages]
      exact .single (.servedItems items)

/-- A call of `get` on a queue that is not empty succeeds, and the pool follows. -/
theorem get_follows {queue : TileQueue} (nonempty : queue.queue ≠ [])
    (texts : RequestTexts queue.queue) (displaced : Multiset (TileDesc × TileDesc))
    : ∃ payload next,
        queue.get = some (.ok payload, next)
        ∧ RequestTexts next.queue
        ∧ next.queue.length < queue.queue.length
        ∧ Pool.Run SamePlace (poolOf queue.queue displaced) (observed (.got (.ok payload)))
            (poolOf next.queue displaced) := by
  obtain ⟨front, rest, shape⟩ := List.exists_cons_of_ne_nil nonempty
  obtain ⟨payload, left, result, served⟩ := getMessage_served shape texts
  have subperm := getMessage_subperm shape
  rw [result, ← shape] at subperm
  refine ⟨payload, { queue with queue := left }, ?_, texts.subset subperm.subset,
    served.length_lt, served_follows served displaced⟩
  simp only [TileQueue.get, shape, result]

-----------------------------------------------------------------------------------------
-- Runs
-----------------------------------------------------------------------------------------

variable {viewIdOf : Text → Except Exception Text}

/-- Along every run of the client, the queue refines a pool; nothing is rejected, and no
call of `get` throws.
-/
theorem run_follows {events : List (Event ClientMessage)} {queue : TileQueue}
    (run : Run viewIdOf ClientMessage.text events queue)
    : RequestTexts queue.queue
      ∧ ∃ displaced, Pool.Run SamePlace Pool.empty (events.flatMap observed)
          (poolOf queue.queue displaced) := by
  have idle : ∀ pool : Pool TileDesc Payload, Pool.Run SamePlace pool [.servedItems []] pool :=
    fun _ => .single (.servedItems (zero_add _).symm)
  induction run with
  | initial => exact ⟨by simp [RequestTexts, TileQueue.empty], 0, .nil⟩
  | @put events queue message next _ _ done ih =>
      obtain ⟨texts, displaced, pool⟩ := ih
      obtain ⟨other, after, accepted, kept, step⟩ := put_follows viewIdOf texts message displaced
      cases done.symm.trans accepted
      refine ⟨kept, after, ?_⟩
      simpa using pool.append step
  | @rejected events queue message exception _ failed ih =>
      obtain ⟨texts, displaced, -⟩ := ih
      obtain ⟨next, after, accepted, -⟩ := put_follows viewIdOf texts message displaced
      cases failed.symm.trans accepted
  | @get events queue result next _ done ih =>
      obtain ⟨texts, displaced, pool⟩ := ih
      have nonempty : queue.queue ≠ [] := by
        intro empty
        simp [TileQueue.get, empty] at done
      obtain ⟨payload, other, served, kept, -, step⟩ := get_follows nonempty texts displaced
      cases done.symm.trans served
      refine ⟨kept, displaced, ?_⟩
      simpa using pool.append step
  | cursorUpdated viewId part x y width height _ ih =>
      obtain ⟨texts, displaced, pool⟩ := ih
      refine ⟨texts, displaced, ?_⟩
      rw [List.flatMap_append, List.flatMap_singleton]
      exact pool.append (idle _)
  | cursorRemoved viewId _ ih =>
      obtain ⟨texts, displaced, pool⟩ := ih
      refine ⟨texts, displaced, ?_⟩
      rw [List.flatMap_append, List.flatMap_singleton]
      exact pool.append (idle _)

/-- Conservation of messages. After every run the other messages put are those returned and
those still waiting, in order; the tiles put are those returned, alone or combined, those
still pending, and those that a later request for a tile at the same place displaced while
they were pending. No put is rejected, and every `get` returns something and shortens the
queue, so that a queue can be drained.
-/
theorem run_conserves {events : List (Event ClientMessage)} {queue : TileQueue}
    (run : Run viewIdOf ClientMessage.text events queue)
    : (∀ message : ClientMessage, ∃ next, queue.put viewIdOf message.text = .ok next)
      ∧ (queue.queue ≠ []
          → ∃ payload next,
              queue.get = some (.ok payload, next)
              ∧ next.queue.length < queue.queue.length)
      ∧ events.flatMap messagesPut = events.flatMap messagesGot ++ waitingMessages queue.queue
      ∧ ∃ displaced : Multiset (TileDesc × TileDesc),
          Pool.Run SamePlace Pool.empty (events.flatMap observed) (poolOf queue.queue displaced)
          ∧ (∀ pair ∈ displaced, SamePlace pair.1 pair.2)
          ∧ (events.flatMap tilesPut : List TileDesc)
            = (events.flatMap tilesGot : List TileDesc) + pendingTiles queue.queue
              + displaced.map Prod.fst := by
  obtain ⟨texts, displaced, pool⟩ := run_follows run
  have messages := pool.messages
  rw [flatMap_observed (fun _ => PoolEvent.messages_call _ _ _ _),
    flatMap_observed (fun _ => PoolEvent.servedMessages_call _ _ _ _)] at messages
  have items := pool.items
  rw [flatMap_observed (fun _ => PoolEvent.items_call _ _ _ _),
    flatMap_observed (fun _ => PoolEvent.served_call _ _ _ _)] at items
  refine ⟨?_, ?_, messages, displaced, pool, pool.displaced (by simp [Pool.empty]), ?_⟩
  · intro message
    obtain ⟨next, -, accepted, -⟩ := put_follows viewIdOf texts message displaced
    exact ⟨next, accepted⟩
  · intro nonempty
    obtain ⟨payload, next, served, -, shorter, -⟩ := get_follows nonempty texts displaced
    exact ⟨payload, next, served, shorter⟩
  · simpa [Pool.unserved, Pool.empty, poolOf, add_assoc] using items

/-- A combined request for two tiles of a row is put as two requests; `get` returns both in one
message, and none is displaced.
-/
theorem run_conserves_row
    : ∃ payload queue, ∃ displaced : Multiset (TileDesc × TileDesc),
        Run (fun _ => .error .json) ClientMessage.text
          [.put (.combined rowCombined), .got (.ok payload)] queue
        ∧ (receivedTiles payload).length = 2
        ∧ ([Event.put (.combined rowCombined), .got (.ok payload)].flatMap tilesPut
            : List TileDesc)
          = ([Event.put (.combined rowCombined), .got (.ok payload)].flatMap tilesGot
              : List TileDesc)
            + pendingTiles queue.queue + displaced.map Prod.fst := by
  have computed
      : (TileQueue.empty.put (fun _ => .error .json)
            (ClientMessage.combined rowCombined).text).toOption.any
          (fun filled =>
            filled.get.any (fun served =>
              served.1.toOption.any (fun payload => (receivedTiles payload).length = 2)))
        = true := by
    decide +kernel
  obtain ⟨filled, puts, gets⟩ := (Option.any_eq_true _ _).mp computed
  obtain ⟨⟨result, next⟩, served, found⟩ := (Option.any_eq_true _ _).mp gets
  obtain ⟨payload, isOk, two⟩ := (Option.any_eq_true _ _).mp found
  obtain rfl : result = .ok payload := by
    cases result with
    | ok other => exact congrArg Except.ok (Option.some.inj isOk)
    | error exception => cases isOk
  have accepted
      : TileQueue.empty.put (fun _ => .error .json) (ClientMessage.combined rowCombined).text
        = .ok filled := by
    generalize TileQueue.empty.put (fun _ => .error .json)
      (ClientMessage.combined rowCombined).text = outcome at puts
    cases outcome with
    | ok other => exact congrArg Except.ok (Option.some.inj puts)
    | error exception => cases puts
  have run : Run (fun _ => .error .json) ClientMessage.text _ next :=
    (GuardedRun.initial.put trivial accepted).get served
  obtain ⟨displaced, -, -, items⟩ := (run_conserves run).2.2.2
  exact ⟨payload, next, displaced, run, of_decide_eq_true two, items⟩

end NdcOdfWeb.Queue
