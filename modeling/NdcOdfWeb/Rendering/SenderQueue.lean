import NdcOdfWeb.Rendering.TileSessions

/-! The messages that wait for a client's socket (`SenderQueue`), with their texts. -/

namespace NdcOdfWeb.Rendering

open NdcOdfWeb.Foundation
open NdcOdfWeb.Protocol
open NdcOdfWeb.Tiles

/-- A message to a client: a tile with its image, as wsd composes it, perhaps with the mark of
the cache, or another one, which has a first token, but not that of a tile.
-/
inductive Message where
  | tile (tile : TileDesc) (cached : Bool) (image : Text)
  | other (data : Text) (noTile : ¬ "tile:".toList <+: data)
    (named : ∃ token ∈ (tokenize ' ' data).head?, token ≠ "tile:".toList)

namespace Message

/-- The first line of a tile message. -/
def tileLine (tile : TileDesc) (cached : Bool) : Text :=
  tile.serialize "tile:".toList ++ if cached then " renderid=cached".toList else []

def data : Message → Text
  | .tile desc cached image => tileLine desc cached ++ '\n' :: image
  | .other text _ _ => text

def firstToken (message : Message) : Text :=
  (tokenize ' ' message.data).headD []

def firstLine (message : Message) : Text :=
  getFirstLine message.data

/-- `jsonString`: what follows the first token, if it is an object. -/
def jsonString (message : Message) : Text :=
  match tokenize ' ' message.data with
  | first :: second :: _ =>
      if second = "\x7b".toList then message.data.drop first.length else []
  | _ => []

/-- The descriptor of a tile message. A queued one was read before, when it was enqueued. -/
def readTile (message : Message) : Option TileDesc :=
  if message.firstToken = "tile:".toList then (TileDesc.parse message.firstLine).toOption
  else none

end Message

/-- `SenderQueue::deduplicate`: what is left of the queue. The view id of a cursor is read with
a JSON parser, which may throw.
-/
def deduplicate (viewIdOf : Text → Except Exception Text) (queue : List Message)
    (item : Message)
    : Except Exception (List Message) :=
  let command := item.firstToken
  if command = "tile:".toList then do
    -- use the most recent of identical tiles
    let newTile ← TileDesc.parse item.firstLine
    return queue.eraseP (fun cur => cur.readTile.any (isSameTile newTile))
  else if command = "statusindicatorsetvalue:".toList ∨ command = "invalidatecursor:".toList
      ∨ command = "setpart:".toList then
    .ok (queue.eraseP (fun cur => cur.firstToken = command))
  else if command = "invalidateviewcursor:".toList then do
    let viewId ← viewIdOf item.jsonString
    return queue.eraseP (fun cur =>
      cur.firstToken = command && (viewIdOf cur.jsonString).toOption = some viewId)
  else .ok queue

/-- `SenderQueue::enqueue`. -/
def enqueue (viewIdOf : Text → Except Exception Text) (queue : List Message) (item : Message)
    : Except Exception (List Message) := do
  return (← deduplicate viewIdOf queue item) ++ [item]

-----------------------------------------------------------------------------------------
-- Tile messages
-----------------------------------------------------------------------------------------

namespace Message

/-- The tile of a message, as it is read again. -/
def sentTile : Message → Option TileDesc
  | .tile desc _ _ => some desc.withReadId
  | .other _ _ _ => none

/-- The line is its words. -/
theorem tileLine_eq (tile : TileDesc) (cached : Bool)
    : tileLine tile cached
      = "tile:".toList
        ++ spaced ' ' (tile.words ++ if cached then [word "renderid" "cached".toList] else []) := by
  have mark : " renderid=cached".toList = ' ' :: word "renderid" "cached".toList := by decide
  rw [tileLine, tile.serialize_eq, spaced_append, ← List.append_assoc]
  congr 1
  cases cached with
  | false => rfl
  | true => rw [if_pos rfl, if_pos rfl, mark, spaced_cons, spaced_nil, List.append_nil]

/-- No word has a blank or a line's end. -/
theorem tileLine_words (tile : TileDesc) (cached : Bool)
    : ∀ text ∈ tile.words ++ (if cached then [word "renderid" "cached".toList] else []),
        LineWord ' ' text := by
  rw [List.forall_mem_append]
  refine ⟨tile.words_lineWord, ?_⟩
  cases cached with
  | false => exact List.forall_mem_nil _
  | true =>
      rw [if_pos rfl, List.forall_mem_singleton]
      decide

/-- The line has no line's end. -/
theorem tileLine_line (tile : TileDesc) (cached : Bool) : '\n' ∉ tileLine tile cached := by
  rw [tileLine_eq, List.mem_append, not_or]
  exact ⟨by decide, not_mem_spaced (by decide)
    (fun text member => (tileLine_words tile cached text member).2)⟩

/-- The image follows on the next line. -/
theorem firstLine_tile (tile : TileDesc) (cached : Bool) (image : Text)
    : (Message.tile tile cached image).firstLine = tileLine tile cached :=
  getFirstLine_append (tileLine_line tile cached) image

/-- The line starts with the command. -/
theorem firstToken_tile (tile : TileDesc) (cached : Bool) (image : Text)
    : (Message.tile tile cached image).firstToken = "tile:".toList := by
  obtain ⟨first, more, words⟩ : ∃ first more, tile.words = first :: more := ⟨_, _, rfl⟩
  have starts : LineWord ' ' "tile:".toList := by decide
  obtain ⟨tokens, split⟩ := @tokenize_head ' ' _
    (spaced ' ' (tile.words ++ if cached then [word "renderid" "cached".toList] else [])
      ++ '\n' :: image)
    (by decide) starts (by decide) (by
      right
      rw [words, List.cons_append, spaced_cons]
      rfl)
  rw [firstToken, data, tileLine_eq, List.append_assoc, split, List.headD_cons]

/-- The other messages start with another command. -/
theorem firstToken_other {data : Text} (noTile : ¬ "tile:".toList <+: data)
    (named : ∃ token ∈ (tokenize ' ' data).head?, token ≠ "tile:".toList)
    : (Message.other data noTile named).firstToken ≠ "tile:".toList := by
  obtain ⟨token, first, other⟩ := named
  rw [firstToken, Message.data, List.headD_eq_head?_getD, Option.mem_def.mp first, Option.getD_some]
  exact other

/-- The line is parsed back to the tile. -/
theorem parse_tileLine (tile : TileDesc) (cached : Bool)
    : TileDesc.parse (tileLine tile cached) = .ok tile.withReadId := by
  have plain := tile.parse_serialize (by decide : LineWord ' ' "tile:".toList) (by decide)
  cases cached with
  | false =>
      rw [tileLine, if_neg Bool.false_ne_true, List.append_nil]
      exact plain
  | true =>
      have mark : " renderid=cached".toList = ' ' :: word "renderid" "cached".toList := by decide
      have ends := tileLine_line tile false
      rw [tileLine, if_neg Bool.false_ne_true, List.append_nil] at ends
      rw [tileLine, if_pos rfl, mark,
        TileDesc.parse_append ends (by decide) (by decide) _ (by decide)]
      · exact plain
      · exact fun state =>
          state.token_text (by decide) (by decide) (by decide) (by decide)

/-- Queued tile messages are read as they were sent. -/
theorem readTile_eq (message : Message) : message.readTile = message.sentTile := by
  unfold readTile
  cases message with
  | tile desc cached image =>
      rw [firstToken_tile, if_pos rfl, firstLine_tile, parse_tileLine]
      rfl
  | other data noTile named =>
      rw [if_neg (firstToken_other noTile named)]
      rfl

end Message

variable {viewIdOf : Text → Except Exception Text}

/-- A tile message replaces the first queued one of an identical tile. -/
theorem enqueue_tile (queue : List Message) (tile : TileDesc) (cached : Bool) (image : Text)
    : enqueue viewIdOf queue (.tile tile cached image)
      = .ok (queue.eraseP (fun cur => cur.sentTile.any (isSameTile tile.withReadId))
          ++ [.tile tile cached image]) := by
  rw [enqueue, deduplicate, Message.firstToken_tile, if_pos rfl, Message.firstLine_tile,
    Message.parse_tileLine]
  simp only [Message.readTile_eq]
  rfl

/-- Other messages are erased, and no tile. -/
theorem sentTile_eraseP {drops : Message → Bool} {queue : List Message}
    (others : ∀ cur, drops cur = true → cur.firstToken ≠ "tile:".toList)
    : (queue.eraseP drops).filterMap Message.sentTile = queue.filterMap Message.sentTile := by
  rcases List.exists_or_eq_self_of_eraseP drops queue with same | found
  · rw [same]
  · obtain ⟨cur, left, right, -, dropped, rfl, rest⟩ := found
    have noTile : cur.sentTile = none := by
      cases cur with
      | tile desc cached image =>
          exact absurd (Message.firstToken_tile desc cached image) (others _ dropped)
      | other data noTile named => rfl
    rw [rest, List.filterMap_append, List.filterMap_append, List.filterMap_cons_none noTile]

/-- Other messages leave the tile messages of the queue as they are. -/
theorem enqueue_other {queue after : List Message} {data : Text}
    {noTile : ¬ "tile:".toList <+: data}
    {named : ∃ token ∈ (tokenize ' ' data).head?, token ≠ "tile:".toList}
    (enqueued : enqueue viewIdOf queue (.other data noTile named) = .ok after)
    : after.filterMap Message.sentTile = queue.filterMap Message.sentTile := by
  have notTile := Message.firstToken_other noTile named
  have kept : ∀ left,
      deduplicate viewIdOf queue (.other data noTile named) = .ok left
      → left.filterMap Message.sentTile = queue.filterMap Message.sentTile := by
    intro left deduplicated
    unfold deduplicate at deduplicated
    dsimp only at deduplicated
    rw [if_neg notTile] at deduplicated
    split at deduplicated
    · cases deduplicated
      apply sentTile_eraseP
      intro cur drops
      rw [of_decide_eq_true drops]
      exact notTile
    · split at deduplicated
      · obtain ⟨viewId, -, done⟩ := bind_ok deduplicated
        cases done
        apply sentTile_eraseP
        intro cur drops
        rw [Bool.and_eq_true] at drops
        rw [of_decide_eq_true drops.1]
        exact notTile
      · cases deduplicated
        rfl
  unfold enqueue at enqueued
  obtain ⟨left, deduplicated, done⟩ := bind_ok enqueued
  cases done
  rw [List.filterMap_append, kept left deduplicated]
  exact List.append_nil _

end NdcOdfWeb.Rendering
