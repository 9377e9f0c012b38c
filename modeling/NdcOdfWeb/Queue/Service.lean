import Mathlib.Data.List.Perm.Subperm
import NdcOdfWeb.Foundation.Pool
import NdcOdfWeb.Queue.Requests

/-! What `get` takes out of a queue: a message from the front, a preview, or a group of tiles. -/

namespace NdcOdfWeb.Queue

open NdcOdfWeb.Foundation
open NdcOdfWeb.Protocol
open NdcOdfWeb.Tiles

namespace TileQueue

/-- Plain tile requests are tile requests. -/
theorem isTile_of_isPlainTile {it : Payload} (plain : isPlainTile it = true)
    : isTile it = true := by
  simp only [isPlainTile, Bool.and_eq_true] at plain
  exact plain.1

/-- Previews are tile requests. -/
theorem isTile_of_isPreview {it : Payload} (preview : isPreview it = true)
    : isTile it = true := by
  simp only [isPreview, Bool.and_eq_true] at preview
  exact preview.1

/-- A tile request is plain or a preview. -/
theorem isTile_eq_false {it : Payload} (plain : ¬ isPlainTile it = true)
    (preview : ¬ isPreview it = true)
    : isTile it = false := by
  by_contra tile
  rw [Bool.not_eq_false] at tile
  cases hasId : (getTokenStringFromMessage it "id".toList).isSome with
  | true => exact preview (by rw [isPreview, tile, hasId]; rfl)
  | false => exact plain (by rw [isPlainTile, tile, hasId]; rfl)

/-- The messages of a queue that are no tile requests. -/
def waitingMessages (queue : List Payload) : List Payload :=
  queue.filter (fun it => !isTile it)

/-- To rotate the previews keeps the messages, by induction on the passes. -/
theorem rotatePreviews_perm (passes : Nat) (queue : List Payload)
    : (rotatePreviews passes queue).Perm queue := by
  induction passes generalizing queue with
  | zero => cases queue <;> exact .rfl
  | succ passes ih =>
      cases queue with
      | nil => exact .rfl
      | cons front rest =>
          rw [rotatePreviews]
          split
          · exact (ih (rest ++ [front])).trans (List.perm_append_singleton front rest)
          · exact .rfl

/-- Rotating previews moves no other message. -/
theorem rotatePreviews_waiting (passes : Nat) (queue : List Payload)
    : waitingMessages (rotatePreviews passes queue) = waitingMessages queue := by
  induction passes generalizing queue with
  | zero => cases queue <;> rfl
  | succ passes ih =>
      cases queue with
      | nil => rfl
      | cons front rest =>
          rw [rotatePreviews]
          split
          · next preview =>
              rw [ih]
              simp [waitingMessages, isTile_of_isPreview preview]
          · rfl

/-- The search ends at its best candidate so far or at a plain tile behind it, whose text
it has read.
-/
theorem prioritize_found {queue : TileQueue} {i : Nat} {best result : Prioritized}
    {rest : List Payload}
    (behind : ∀ j : Nat, (queue.queue.drop i)[j]? = rest[j]?)
    (current : queue.queue[best.prioritized]? = some best.msg ∧ isPlainTile best.msg = true)
    (found : queue.prioritize i best rest = .ok result)
    : queue.queue[result.prioritized]? = some result.msg ∧ isPlainTile result.msg = true := by
  induction rest generalizing i best with
  | nil =>
      cases found
      exact current
  | cons prio rest ih =>
      have here : queue.queue[i]? = some prio := by
        have first := behind 0
        simpa using first
      have later : ∀ j : Nat, (queue.queue.drop (i + 1))[j]? = rest[j]? := by
        intro j
        have next := behind (j + 1)
        simp only [List.getElem?_drop, List.getElem?_cons_succ] at next ⊢
        rw [← next]
        congr 1
        omega
      rw [prioritize] at found
      split at found
      · cases found
        exact current
      · next plain =>
          cases p : queue.priority prio with
          | error exception => simp [p, bind, Except.bind] at found
          | ok p' =>
              simp only [p, bind, Except.bind] at found
              split at found
              · split at found
                · cases found
                  exact ⟨here, by simpa using plain⟩
                · exact ih later ⟨here, by simpa using plain⟩ found
              · exact ih later current found

/-- The search ends without an exception when every plain tile can be parsed. -/
theorem prioritize_ok (queue : TileQueue) (i : Nat) (best : Prioritized)
    {rest : List Payload}
    (parsed : ∀ it ∈ rest, isPlainTile it = true → ∃ tile, TileDesc.parse it = .ok tile)
    : ∃ result, queue.prioritize i best rest = .ok result := by
  induction rest generalizing i best with
  | nil => exact ⟨best, rfl⟩
  | cons prio rest ih =>
      have later := fun i best => ih i best (fun it member => parsed it (by simp [member]))
      rw [prioritize]
      split
      · exact ⟨best, rfl⟩
      · next plain =>
          obtain ⟨tile, read⟩ := parsed prio (by simp) (by simpa using plain)
          simp only [priority, read, bind, Except.bind, pure, Except.pure]
          split
          · split
            · exact ⟨_, rfl⟩
            · exact later _ _
          · exact later _ _

/-- What is not combined stays in its order, by induction on the queue. -/
theorem combineTiles_sublist (first : TileDesc) (rest : List Payload)
    : (combineTiles first rest).2.Sublist rest := by
  induction rest with
  | nil => exact .slnil
  | cons it rest ih =>
      rw [combineTiles]
      split
      · exact ih.cons_cons it
      · split
        · exact .refl _
        · split
          · exact ih.cons it
          · exact ih.cons_cons it

/-- Only tile requests are combined, by induction on the queue. -/
theorem combineTiles_waiting (first : TileDesc) (rest : List Payload)
    : waitingMessages (combineTiles first rest).2 = waitingMessages rest := by
  induction rest with
  | nil => rfl
  | cons it rest ih =>
      simp only [waitingMessages] at ih ⊢
      rw [combineTiles]
      split
      · simp only [List.filter_cons, ih]
      · next plain =>
          have tile : isTile it = true := isTile_of_isPlainTile (by simpa using plain)
          split
          · rfl
          · split
            · simp only [List.filter_cons, tile, Bool.not_true, Bool.false_eq_true, if_false, ih]
            · simp only [List.filter_cons, ih]

/-- The loop reads every plain tile; those that can be combined are taken out, in order. -/
theorem combineTiles_taken (first : TileDesc) {rest : List Payload}
    (parsed : ∀ it ∈ rest, isPlainTile it = true → ∃ tile, TileDesc.parse it = .ok tile)
    : ∃ taken tiles,
        (combineTiles first rest).1 = .ok tiles
        ∧ rest.Perm (taken ++ (combineTiles first rest).2)
        ∧ List.Forall₂ (fun it tile => isPlainTile it = true ∧ TileDesc.parse it = .ok tile)
            taken tiles
        ∧ ∀ tile ∈ tiles, first.canCombine tile = true := by
  induction rest with
  | nil => exact ⟨[], [], rfl, .rfl, .nil, by simp⟩
  | cons it rest ih =>
      obtain ⟨taken, tiles, read, split', pairs, combined⟩ :=
        ih (fun next member => parsed next (by simp [member]))
      have kept : (it :: rest).Perm (taken ++ it :: (combineTiles first rest).2) :=
        (split'.cons it).trans List.perm_middle.symm
      rw [combineTiles]
      split
      · exact ⟨taken, tiles, read, kept, pairs, combined⟩
      · next plain =>
          have isPlain : isPlainTile it = true := by simpa using plain
          obtain ⟨tile, readTile⟩ := parsed it (by simp) isPlain
          simp only [readTile]
          split
          · next joins =>
              refine ⟨it :: taken, tile :: tiles, ?_, split'.cons it,
                .cons ⟨isPlain, readTile⟩ pairs, ?_⟩
              · simp only [read, Except.map]
              · intro other member
                rcases List.mem_cons.mp member with rfl | later
                · exact joins
                · exact combined other later
          · exact ⟨taken, tiles, read, kept, pairs, combined⟩

-----------------------------------------------------------------------------------------
-- Receiving
-----------------------------------------------------------------------------------------

/-- The tiles that a receiver reads from a tile message. -/
def receivedTiles (payload : Payload) : List TileDesc :=
  if getFirstToken ' ' payload = "tilecombine".toList then
    match TileCombined.parse payload with
    | .ok combined => combined.tiles
    | .error _ => []
  else
    match TileDesc.parse payload with
    | .ok tile => [tile]
    | .error _ => []

/-- What the queue keeps of a tile on its way through: its place, versions and wire ids. -/
def receivedComponents (payload : Payload) : List TileDesc :=
  (receivedTiles payload).map TileDesc.component

/-- The tiles that a queue's requests ask for. -/
def pendingTiles (queue : List Payload) : Multiset TileDesc :=
  (queue.filter isTile).flatMap receivedComponents

/-- The pending tiles do not depend on the order. -/
theorem pendingTiles_perm {left right : List Payload} (perm : left.Perm right)
    : pendingTiles left = pendingTiles right :=
  Multiset.coe_eq_coe.mpr ((perm.filter isTile).flatMap_right receivedComponents)

/-- The pending tiles of two parts of a queue. -/
theorem pendingTiles_append (left right : List Payload)
    : pendingTiles (left ++ right) = pendingTiles left + pendingTiles right := by
  simp [pendingTiles]

/-- The pending tiles of a message and of the rest. -/
theorem pendingTiles_cons (it : Payload) (rest : List Payload)
    : pendingTiles (it :: rest)
      = (if isTile it then (receivedComponents it : Multiset TileDesc) else 0)
        + pendingTiles rest := by
  rw [← List.singleton_append, pendingTiles_append]
  congr 1
  cases tile : isTile it <;> simp [pendingTiles, tile]

/-- A request is received as its tile. -/
theorem receivedComponents_text (request : Request)
    : receivedComponents request.text = [request.tile.component] := by
  have other : "tile".toList ≠ "tilecombine".toList := by decide
  rw [receivedComponents, receivedTiles, request.getFirstToken_text, if_neg other,
    request.parse_text]
  rfl

/-- A written tile is received as it is. -/
theorem receivedComponents_serialize (tile : TileDesc)
    : receivedComponents (tile.serialize "tile".toList) = [tile.component] :=
  receivedComponents_text ⟨.split, tile⟩

/-- A written combination is received tile by tile. -/
theorem receivedTiles_combined (combined : TileCombined)
    : receivedTiles (combined.serialize "tilecombine".toList)
      = combined.tiles.map TileDesc.withReadId := by
  rw [receivedTiles, combined.serialize_eq, getFirstToken_spaced (by decide), if_pos rfl,
    ← combined.serialize_eq, combined.parse_serialize (by decide) (by decide)]
  rfl

/-- A combined request is a tile request. -/
theorem isTile_combined (combined : TileCombined)
    : isTile (combined.serialize "tilecombine".toList) = true := by
  have starts : "tile".toList <+: "tilecombine".toList := by decide
  rw [isTile, matchPrefix, List.isPrefixOf_iff_prefix, combined.serialize_eq]
  exact starts.trans (List.prefix_append _ _)

/-- Tiles that can be combined agree in their headers. -/
theorem component_header_of_canCombine {tile other : TileDesc}
    (joins : tile.canCombine other = true)
    : other.component.header = tile.component.header := by
  have row : tile.onSameRow other = true := by
    by_contra different
    simp [TileDesc.canCombine, different] at joins
  unfold TileDesc.onSameRow at row
  split at row
  · cases row
  · next same =>
      simp only [ne_eq, not_or, Decidable.not_not] at same
      simp only [TileDesc.header, TileDesc.component, same.1, same.2.1, same.2.2.1,
        same.2.2.2.1, same.2.2.2.2.1, same.2.2.2.2.2]

/-- The message for a group of tiles carries exactly their components. -/
theorem tilesMessage_received {first : TileDesc} {others : List TileDesc}
    (joined : ∀ tile ∈ others, first.canCombine tile = true)
    : ∃ payload, tilesMessage first others = .ok payload
        ∧ isTile payload = true
        ∧ receivedComponents payload = (first :: others).map TileDesc.component := by
  cases others with
  | nil =>
      exact ⟨_, rfl, Request.isTile_text ⟨.split, first⟩, receivedComponents_serialize first⟩
  | cons second others =>
      obtain ⟨combined, created, -, tiles⟩ := TileCombined.create_eq
        (fun tile member => component_header_of_canCombine (joined tile member))
      refine ⟨combined.serialize "tilecombine".toList, ?_, isTile_combined combined, ?_⟩
      · simp only [tilesMessage, created, bind, Except.bind, pure, Except.pure]
      · rw [receivedComponents, receivedTiles_combined, tiles]
        simp only [List.map_map]
        exact List.map_congr_left (fun tile _ => rfl)

-----------------------------------------------------------------------------------------
-- One call of get
-----------------------------------------------------------------------------------------

/-- Whatever happens, `get` only takes messages out of the queue and moves others. -/
theorem getMessage_subperm {queue : TileQueue} {front : Payload} {rest : List Payload}
    (shape : queue.queue = front :: rest)
    : (queue.getMessage front rest).2.Subperm (front :: rest) := by
  have dropped : rest.Subperm (front :: rest) := (List.sublist_cons_self front rest).subperm
  unfold getMessage
  split
  · unfold getTiles
    split
    · exact shape ▸ List.Subperm.refl _
    · split
      · exact shape ▸ (List.eraseIdx_sublist _ _).subperm
      · exact shape ▸ ((combineTiles_sublist _ _).trans (List.eraseIdx_sublist _ _)).subperm
  · split
    · exact (rotatePreviews_perm rest.length rest).subperm.trans dropped
    · exact dropped

/-- A tile request that is taken out leaves the other messages waiting, by induction on the queue.
-/
theorem waitingMessages_eraseIdx {queue : List Payload} {i : Nat} {it : Payload}
    (there : queue[i]? = some it) (tile : isTile it = true)
    : waitingMessages (queue.eraseIdx i) = waitingMessages queue := by
  induction queue generalizing i with
  | nil => simp at there
  | cons head rest ih =>
      cases i with
      | zero =>
          have same : head = it := by simpa using there
          simp [waitingMessages, same, tile]
      | succ i =>
          have later := ih (by simpa using there)
          simp only [waitingMessages, List.eraseIdx_cons_succ, List.filter_cons] at later ⊢
          rw [later]

/-- A written tile is a tile request. -/
theorem isTile_serialize (tile : TileDesc)
    : isTile (tile.serialize "tile".toList) = true :=
  Request.isTile_text ⟨.split, tile⟩

/-- What is served for tiles is a tile request, whether it is of one tile or combined. -/
theorem tilesMessage_isTile {first : TileDesc} {others : List TileDesc} {payload : Payload}
    (message : tilesMessage first others = .ok payload)
    : isTile payload = true := by
  cases others with
  | nil =>
      cases message
      exact isTile_serialize first
  | cons second others =>
      rw [tilesMessage] at message
      cases created : TileCombined.create first (second :: others) with
      | error exception => simp [created, bind, Except.bind] at message
      | ok combined =>
          simp only [created, bind, Except.bind, pure, Except.pure, Except.ok.injEq] at message
          rw [← message]
          exact isTile_combined combined

/-- To serve tiles leaves the other messages waiting. -/
theorem getTiles_waiting {queue : TileQueue} {front : Payload} {rest : List Payload}
    (shape : queue.queue = front :: rest) (plain : isPlainTile front = true)
    : waitingMessages (queue.getTiles front).2 = waitingMessages queue.queue
      ∧ ∀ payload, (queue.getTiles front).1 = .ok payload → isTile payload = true := by
  unfold getTiles
  split
  · exact ⟨rfl, nofun⟩
  · next best searched =>
      obtain ⟨there, bestPlain⟩ := prioritize_found (by simp) ⟨by simp [shape], plain⟩ searched
      have erased := waitingMessages_eraseIdx there (isTile_of_isPlainTile bestPlain)
      split
      · exact ⟨erased, nofun⟩
      · next first _ =>
          refine ⟨(combineTiles_waiting first _).trans erased, ?_⟩
          intro payload result
          cases tiles : (combineTiles first (queue.queue.eraseIdx best.prioritized)).1 with
          | error exception => simp [tiles, Except.bind] at result
          | ok others =>
              simp only [tiles, Except.bind] at result
              exact tilesMessage_isTile result

/-- Whatever the tile requests look like, `get` returns something that starts like one and
leaves the other messages, or it returns the first of these.
-/
theorem getMessage_waiting {queue : TileQueue} {front : Payload} {rest : List Payload}
    (shape : queue.queue = front :: rest)
    : (isTile front = false ∧ queue.getMessage front rest = (.ok front, rest))
      ∨ (waitingMessages (queue.getMessage front rest).2 = waitingMessages queue.queue
        ∧ ∀ payload, (queue.getMessage front rest).1 = .ok payload → isTile payload = true) := by
  unfold getMessage
  split
  · next plain => exact .inr (getTiles_waiting shape plain)
  · split
    · next preview =>
        have tile := isTile_of_isPreview preview
        refine .inr ⟨?_, ?_⟩
        · rw [deprioritizePreviews, rotatePreviews_waiting, shape]
          simp [waitingMessages, tile]
        · intro payload result
          cases result
          exact tile
    · next plain preview =>
        exact .inl ⟨isTile_eq_false plain preview, rfl⟩

/-- Every queued message that starts like a tile request is one. -/
def RequestTexts (queue : List Payload) : Prop :=
  ∀ it ∈ queue, isTile it = true → ∃ request : Request, it = request.text

/-- A part of a queue of requests. -/
theorem RequestTexts.subset {queue left : List Payload} (texts : RequestTexts queue)
    (subset : left ⊆ queue)
    : RequestTexts left :=
  fun it member => texts it (subset member)

/-- One more message. -/
theorem RequestTexts.append {queue : List Payload} (texts : RequestTexts queue)
    {message : Payload}
    (new : isTile message = true → ∃ request : Request, message = request.text)
    : RequestTexts (queue ++ [message]) := by
  intro it member
  rcases List.mem_append.mp member with old | last
  · exact texts it old
  · rw [List.mem_singleton.mp last]
    exact new

/-- A request that is put. -/
theorem RequestTexts.putTile {queue : List Payload} (texts : RequestTexts queue)
    (request : Request)
    : RequestTexts (putTile queue request.text) :=
  (texts.subset List.eraseP_subset).append (fun _ => ⟨request, rfl⟩)

/-- A duplicate is a request for a tile at the same place. -/
theorem exists_request_of_sameUpTo {queue : List Payload} (texts : RequestTexts queue)
    {request : Request} {it : Payload} (member : it ∈ queue)
    (same : sameUpTo (comparedLength request.text) request.text it = true)
    : ∃ queued : Request, it = queued.text ∧ request.Shadows queued := by
  have starts : "tile".toList <+: it :=
    (List.prefix_append _ _).trans ((request.sameUpTo_iff it).mp same).2
  obtain ⟨queued, rfl⟩ := texts it member (List.isPrefixOf_iff_prefix.mpr starts)
  exact ⟨queued, rfl, Request.sameUpTo_text.mp same⟩

/-- What a call of `get` may do to a queue: it returns a message from the front, or some
tiles from anywhere; all other tiles stay, and all other messages in their order.
-/
inductive Served : List Payload → Payload → List Payload → Prop
  | message {front rest} (other : isTile front = false) : Served (front :: rest) front rest
  | tiles {before payload left} (tile : isTile payload = true)
    (items : pendingTiles before = receivedComponents payload + pendingTiles left)
    (messages : waitingMessages left = waitingMessages before)
    (shorter : left.length < before.length)
    : Served before payload left

/-- Every service makes the queue shorter. -/
theorem Served.length_lt {before left : List Payload} {payload : Payload}
    (served : Served before payload left)
    : left.length < before.length := by
  cases served with
  | message other => simp
  | tiles tile items messages shorter => exact shorter

/-- The tiles that are taken are those of the messages, by induction on them. -/
theorem pendingTiles_taken {taken : List Payload} {tiles : List TileDesc}
    (texts : RequestTexts taken)
    (pairs
      : List.Forall₂ (fun it tile => isPlainTile it = true ∧ TileDesc.parse it = .ok tile)
          taken tiles)
    : pendingTiles taken = (tiles.map TileDesc.component : List TileDesc) := by
  induction pairs with
  | nil => rfl
  | @cons it tile taken tiles pair pairs ih =>
      have later := ih (fun other member => texts other (by simp [member]))
      obtain ⟨request, rfl⟩ := texts it (by simp) (isTile_of_isPlainTile pair.1)
      have read := pair.2
      rw [request.parse_text] at read
      cases read
      rw [pendingTiles_cons, later, isTile_of_isPlainTile pair.1, if_pos rfl,
        receivedComponents_text]
      rfl

/-- With a plain tile at the front, `get` returns a tile and those combined with it. -/
theorem getTiles_served {queue : TileQueue} {front : Payload} {rest : List Payload}
    (shape : queue.queue = front :: rest) (texts : RequestTexts queue.queue)
    (plain : isPlainTile front = true)
    : ∃ payload left, queue.getTiles front = (.ok payload, left)
        ∧ Served queue.queue payload left := by
  have parsed : ∀ it ∈ queue.queue, isPlainTile it = true
      → ∃ tile, TileDesc.parse it = .ok tile := by
    intro it member isPlain
    obtain ⟨request, rfl⟩ := texts it member (isTile_of_isPlainTile isPlain)
    exact ⟨_, request.parse_text⟩
  obtain ⟨best, searched⟩ := prioritize_ok queue 0
    { prioritized := 0, prioritySoFar := -1, msg := front } parsed
  obtain ⟨there, bestPlain⟩ := prioritize_found (by simp)
    ⟨by simp [shape], plain⟩ searched
  have bestTile := isTile_of_isPlainTile bestPlain
  have removed : queue.queue.Perm (best.msg :: queue.queue.eraseIdx best.prioritized) := by
    obtain ⟨inside, same⟩ := List.getElem?_eq_some_iff.mp there
    rw [← same]
    exact (List.getElem_cons_eraseIdx_perm inside).symm
  obtain ⟨request, bestText⟩ := texts best.msg (List.mem_of_getElem? there) bestTile
  have left := List.eraseIdx_sublist queue.queue best.prioritized
  obtain ⟨taken, tiles, read, split', pairs, joined⟩ := combineTiles_taken
    request.tile.withReadId (fun it member => parsed it (left.subset member))
  have takenTexts : RequestTexts taken := fun it member =>
    texts it (left.subset (split'.mem_iff.mpr (List.mem_append_left _ member)))
  obtain ⟨payload, message, isTilePayload, received⟩ := tilesMessage_received joined
  have items : pendingTiles queue.queue = receivedComponents payload
      + pendingTiles (combineTiles request.tile.withReadId
          (queue.queue.eraseIdx best.prioritized)).2 := by
    rw [pendingTiles_perm removed, pendingTiles_cons, bestTile, if_pos rfl,
      pendingTiles_perm split', pendingTiles_append, pendingTiles_taken takenTexts pairs,
      bestText, receivedComponents_text, received, ← add_assoc]
    rfl
  have messages : waitingMessages (combineTiles request.tile.withReadId
      (queue.queue.eraseIdx best.prioritized)).2 = waitingMessages queue.queue := by
    rw [combineTiles_waiting, waitingMessages_eraseIdx there bestTile]
  have shorter : (combineTiles request.tile.withReadId
      (queue.queue.eraseIdx best.prioritized)).2.length < queue.queue.length := by
    have size := removed.length_eq
    have taken := (combineTiles_sublist request.tile.withReadId
      (queue.queue.eraseIdx best.prioritized)).length_le
    simp only [List.length_cons] at size
    omega
  refine ⟨payload, _, ?_, .tiles isTilePayload items messages shorter⟩
  simp only [getTiles, searched, bestText, request.parse_text, read, Except.bind, message]

/-- A call of `get` on a queue of requests and other messages returns one of the former or
the first of the latter; it never throws.
-/
theorem getMessage_served {queue : TileQueue} {front : Payload} {rest : List Payload}
    (shape : queue.queue = front :: rest) (texts : RequestTexts queue.queue)
    : ∃ payload left, queue.getMessage front rest = (.ok payload, left)
        ∧ Served queue.queue payload left := by
  unfold getMessage
  split
  · next plain => exact getTiles_served shape texts plain
  · split
    · next preview =>
        have tile := isTile_of_isPreview preview
        have perm := rotatePreviews_perm rest.length rest
        refine ⟨front, _, rfl, .tiles tile ?_ ?_ ?_⟩
        · rw [shape, pendingTiles_cons, tile, if_pos rfl, deprioritizePreviews,
            pendingTiles_perm perm]
        · rw [shape, deprioritizePreviews, rotatePreviews_waiting]
          simp [waitingMessages, tile]
        · rw [shape, deprioritizePreviews, perm.length_eq]
          simp
    · next plain preview =>
        exact ⟨front, rest, rfl, shape ▸ .message (isTile_eq_false plain preview)⟩

end TileQueue

end NdcOdfWeb.Queue
