import NdcOdfWeb.Foundation.Replace
import NdcOdfWeb.Queue.OtherMessages
import NdcOdfWeb.Queue.Runs
import NdcOdfWeb.Queue.Service

/-! Which queued request a new one replaces.
The queue compares texts up to the version. This finds a request for the same tile only in
the same form, and it takes a request for another tile for one when the new wire id is the
beginning of the queued one, or when only the id behind the version differs.
-/

namespace NdcOdfWeb.Queue

open NdcOdfWeb.Foundation
open NdcOdfWeb.Protocol
open NdcOdfWeb.Tiles
open TileQueue

/-- Two requests for the same tile: only the version may differ. -/
structure SameTile (left right : TileDesc) : Prop where
  place : SamePlace left right
  oldWireId : left.oldWireId = right.oldWireId
  wireId : left.wireId = right.wireId
  id : left.withReadId.id = right.withReadId.id

/-- What makes two requests ask for the same tile. -/
theorem sameTile_iff {left right : TileDesc}
    : SameTile left right
      ↔ SamePlace left right
        ∧ left.oldWireId = right.oldWireId
        ∧ left.wireId = right.wireId
        ∧ left.withReadId.id = right.withReadId.id :=
  ⟨fun same => ⟨same.place, same.oldWireId, same.wireId, same.id⟩,
    fun ⟨place, oldWireId, wireId, id⟩ => ⟨place, oldWireId, wireId, id⟩⟩

instance (left right : TileDesc) : Decidable (SameTile left right) :=
  decidable_of_iff _ sameTile_iff.symm

/-- A tile is the same as itself. -/
theorem SameTile.refl (tile : TileDesc) : SameTile tile tile :=
  ⟨headFields_eq_iff.mp rfl, rfl, rfl, rfl⟩

/-- By the place, the wire ids and the id. -/
theorem SameTile.symm {left right : TileDesc} (same : SameTile left right)
    : SameTile right left :=
  ⟨same.place.symm, same.oldWireId.symm, same.wireId.symm, same.id.symm⟩

/-- By the place, the wire ids and the id. -/
theorem SameTile.trans {left middle right : TileDesc} (same : SameTile left middle)
    (other : SameTile middle right)
    : SameTile left right :=
  ⟨same.place.trans other.place, same.oldWireId.trans other.oldWireId,
    same.wireId.trans other.wireId, same.id.trans other.id⟩

/-- Whether a queued message is a request for the tile. -/
def asksFor (tile : TileDesc) (it : Payload) : Bool :=
  getFirstToken ' ' it == "tile".toList
    && match TileDesc.parse it with
      | .ok queued => decide (SameTile queued tile)
      | .error _ => false

/-- A request asks for its own tile. -/
theorem asksFor_text (tile : TileDesc) (request : Request)
    : asksFor tile request.text = decide (SameTile request.tile tile) := by
  have idempotent : request.tile.withReadId.withReadId.id = request.tile.withReadId.id := by
    rw [TileDesc.withReadId_eq]
    simp only [TileDesc.withReadId]
    split
    · next preview => exact Int32.le_trans (by decide) preview
    · exact Int32.le_refl _
  simp only [asksFor, request.getFirstToken_text, request.parse_text, beq_self_eq_true,
    Bool.true_and, decide_eq_decide, sameTile_iff, idempotent]
  rfl

/-- Every queued message with the first token `tile` is a request. -/
def RequestQueue (queue : List Payload) : Prop :=
  ∀ it ∈ queue, getFirstToken ' ' it = "tile".toList → ∃ request : Request, it = request.text

/-- A message that asks for a tile is a request for it. -/
theorem RequestQueue.exists_of_asksFor {queue : List Payload} (texts : RequestQueue queue)
    {tile : TileDesc} {it : Payload} (member : it ∈ queue) (asks : asksFor tile it = true)
    : ∃ queued : Request, it = queued.text ∧ SameTile queued.tile tile := by
  have first := asks
  rw [asksFor, Bool.and_eq_true, beq_iff_eq] at first
  obtain ⟨queued, rfl⟩ := texts it member first.1
  rw [asksFor_text, decide_eq_true_iff] at asks
  exact ⟨queued, rfl, asks⟩

/-- What looks like a duplicate to the queue has the first token `tile`. -/
theorem RequestQueue.exists_of_sameUpTo {queue : List Payload} (texts : RequestQueue queue)
    {request : Request} {it : Payload} (member : it ∈ queue)
    (like : sameUpTo (comparedLength request.text) request.text it = true)
    : ∃ queued : Request, it = queued.text ∧ request.Shadows queued := by
  have starts := ((request.sameUpTo_iff it).mp like).2
  obtain ⟨more, rfl⟩ := starts
  have first : getFirstToken ' ' (request.comparedText ++ more) = "tile".toList := by
    obtain ⟨word, words, shape⟩ : ∃ word words, request.comparedWords = word :: words := by
      rw [request.comparedWords_eq]
      cases request.form <;> exact ⟨_, _, rfl⟩
    have inside : ∀ c ∈ "tile".toList, (c != ' ') = true := by decide
    rw [Request.comparedText, shape, getFirstToken, List.append_assoc,
      List.takeWhile_append_of_pos inside]
    simp
  obtain ⟨queued, same⟩ := texts _ member first
  rw [same] at like
  exact ⟨queued, same, Request.sameUpTo_text.mp like⟩

/-- A request takes out only a request for the same tile, and is then the only one. -/
def Replaces (queue : List Payload) (request : Request) : Prop :=
  ∃ kept,
    putTile queue request.text = kept ++ [request.text]
    ∧ TakesOnly (asksFor request.tile) queue kept
    ∧ ((putTile queue request.text).filter (asksFor request.tile)).length ≤ 1

/-- The first queued request that the new one shadows is for the same tile, and every queued
request for this tile is written in the same form.
-/
structure Exact (queue : List Payload) (request : Request) : Prop where
  firstShadowed
    : ∀ (queued : Request) before after,
        queue = before ++ queued.text :: after
        → request.Shadows queued
        → (∀ other : Request, other.text ∈ before → ¬ request.Shadows other)
        → SameTile queued.tile request.tile
  sameForm
    : ∀ queued : Request,
        queued.text ∈ queue
        → SameTile queued.tile request.tile
        → queued.form = request.form

/-- A request replaces exactly the one for its tile, said about the messages. -/
theorem exact_iff {queue : List Payload} (texts : RequestQueue queue) (request : Request)
    : Exact queue request
      ↔ (∀ it, queue.find? (sameUpTo (comparedLength request.text) request.text) = some it
          → asksFor request.tile it = true)
        ∧ ∀ it ∈ queue, asksFor request.tile it = true
            → sameUpTo (comparedLength request.text) request.text it = true := by
  constructor
  · rintro ⟨firstShadowed, sameForm⟩
    constructor
    · intro it found
      obtain ⟨like, before, after, shape, earlier⟩ := List.find?_eq_some_iff_append.mp found
      obtain ⟨queued, rfl, shadows⟩ := texts.exists_of_sameUpTo (List.mem_of_find?_eq_some found)
        like
      rw [asksFor_text, decide_eq_true_iff]
      refine firstShadowed queued before after shape shadows (fun other member shadowed => ?_)
      have unlike := earlier other.text member
      rw [Request.sameUpTo_text.mpr shadowed] at unlike
      cases unlike
    · intro it member asks
      obtain ⟨queued, rfl, same⟩ := texts.exists_of_asksFor member asks
      refine Request.sameUpTo_text.mpr ⟨sameForm queued member same, same.place, same.oldWireId, ?_⟩
      rw [same.wireId]
  · rintro ⟨first, alike⟩
    constructor
    · intro queued before after shape shadows earlier
      have found : queue.find? (sameUpTo (comparedLength request.text) request.text)
          = some queued.text := by
        refine List.find?_eq_some_iff_append.mpr
          ⟨Request.sameUpTo_text.mpr shadows, before, after, shape, ?_⟩
        intro it member
        rw [Bool.not_eq_true']
        by_contra like
        rw [Bool.not_eq_false] at like
        obtain ⟨other, rfl, shadowed⟩ := texts.exists_of_sameUpTo
          (by rw [shape]; exact List.mem_append_left _ member) like
        exact earlier other member shadowed
      have asks := first queued.text found
      rwa [asksFor_text, decide_eq_true_iff] at asks
    · intro queued member same
      have like := alike queued.text member (by rw [asksFor_text, decide_eq_true_iff]; exact same)
      exact (Request.sameUpTo_text.mp like).form

/-- With at most one queued request for the tile, a request is put as it should be exactly
when the comparison of texts is exact.
-/
theorem replaces_iff {queue : List Payload} (texts : RequestQueue queue) (request : Request)
    (unique : (queue.filter (asksFor request.tile)).length ≤ 1)
    : Replaces queue request ↔ Exact queue request := by
  have self : asksFor request.tile request.text = true := by
    rw [asksFor_text, decide_eq_true_iff]
    exact SameTile.refl _
  rw [exact_iff texts, ← replace_iff self unique]
  constructor
  · rintro ⟨kept, put, takes, bound⟩
    have same : queue.eraseP (sameUpTo (comparedLength request.text) request.text) = kept :=
      List.append_cancel_right put
    exact ⟨same ▸ takes, bound⟩
  · rintro ⟨takes, bound⟩
    exact ⟨_, rfl, takes, bound⟩

-----------------------------------------------------------------------------------------
-- Runs
-----------------------------------------------------------------------------------------

/-- At most one queued request for every tile. -/
def OnePerTile (queue : List Payload) : Prop :=
  ∀ tile, (queue.filter (asksFor tile)).length ≤ 1

/-- The invariant of the runs in which the comparison of texts is always exact. -/
structure ExactQueue (queue : List Payload) : Prop where
  texts : RequestQueue queue
  unique : OnePerTile queue

/-- A part of the queue, in any order. -/
theorem ExactQueue.subperm {queue left : List Payload} (inv : ExactQueue queue)
    (subperm : left.Subperm queue)
    : ExactQueue left where
  texts it member := inv.texts it (subperm.subset member)
  unique tile := (subperm.filter _).length_le.trans (inv.unique tile)

/-- A message that is no request for any tile can be added. -/
theorem ExactQueue.append {queue : List Payload} (inv : ExactQueue queue) {added : Payload}
    (other : getFirstToken ' ' added ≠ "tile".toList)
    : ExactQueue (queue ++ [added]) where
  texts := by
    intro it member first
    rcases List.mem_append.mp member with old | new
    · exact inv.texts it old first
    · rw [List.mem_singleton.mp new] at first
      exact absurd first other
  unique := by
    intro tile
    have not : asksFor tile added = false := by
      rw [asksFor, beq_eq_false_iff_ne.mpr other, Bool.false_and]
    rw [List.filter_append, List.filter_singleton, not]
    simpa using inv.unique tile

/-- A request that replaces exactly the one for its tile. -/
theorem ExactQueue.putTile {queue : List Payload} (inv : ExactQueue queue) {request : Request}
    (exact' : Exact queue request)
    : ExactQueue (putTile queue request.text) where
  texts := by
    intro it member first
    rcases List.mem_append.mp member with old | new
    · exact inv.texts it (List.eraseP_subset old) first
    · exact ⟨request, List.mem_singleton.mp new⟩
  unique := by
    intro tile
    by_cases same : SameTile request.tile tile
    · obtain ⟨-, -, -, bound⟩ := (replaces_iff inv.texts request (inv.unique _)).mpr exact'
      have asks : ∀ it ∈ TileQueue.putTile queue request.text,
          asksFor tile it = asksFor request.tile it := by
        intro it member
        simp only [asksFor]
        congr 1
        split
        · rw [decide_eq_decide]
          exact ⟨fun is => is.trans same.symm, fun is => is.trans same⟩
        · rfl
      rw [List.filter_congr asks]
      exact bound
    · have new : asksFor tile request.text = false := by
        rw [asksFor_text, decide_eq_false_iff_not]
        exact same
      rw [TileQueue.putTile, List.filter_append, List.filter_singleton, new]
      have kept := (filter_eraseP_sublist (asksFor tile)
        (sameUpTo (comparedLength request.text) request.text) queue).length_le
      have bound := inv.unique tile
      simp only [removeTileDuplicate, cond_false, List.append_nil]
      exact kept.trans bound

/-- A property of every component of a combined request, in the state that it finds. -/
def EachPut (P : List Payload → Request → Prop) : List Payload → List TileDesc → Prop
  | _, [] => True
  | queue, tile :: tiles =>
      P queue ⟨.split, tile⟩ ∧ EachPut P (putTile queue (tile.serialize "tile".toList)) tiles

/-- Several of them, by induction on the tiles. -/
theorem ExactQueue.putTiles {queue : List Payload} (inv : ExactQueue queue)
    {tiles : List TileDesc} (each : EachPut Exact queue tiles)
    : ExactQueue (tiles.foldl
        (fun queue tile => TileQueue.putTile queue (tile.serialize "tile".toList)) queue) := by
  induction tiles generalizing queue with
  | nil => exact inv
  | cons tile tiles ih =>
      have head := inv.putTile each.1
      rw [Request.split_text] at head
      rw [List.foldl_cons]
      exact ih head each.2

/-- Tile by tile, to replace what asks for the tile is to replace exactly that. By induction on the
tiles.
-/
theorem ExactQueue.eachPut_iff {queue : List Payload} (inv : ExactQueue queue)
    (tiles : List TileDesc)
    : EachPut Replaces queue tiles ↔ EachPut Exact queue tiles := by
  induction tiles generalizing queue with
  | nil => exact Iff.rfl
  | cons tile tiles ih =>
      have head := replaces_iff inv.texts ⟨.split, tile⟩ (inv.unique _)
      have rest (first : Exact queue ⟨.split, tile⟩) := ih (inv.putTile first)
      rw [Request.split_text] at rest
      constructor
      · rintro ⟨first, later⟩
        exact ⟨head.mp first, (rest (head.mp first)).mp later⟩
      · rintro ⟨first, later⟩
        exact ⟨head.mpr first, (rest first).mpr later⟩

/-- The messages of a client: requests in either form, combined requests, and everything
else.
-/
inductive AnyMessage where
  | tile (request : Request)
  | combined (tiles : TileCombined)
  | other (message : Payload) (notTile : getFirstToken ' ' message ≠ "tile".toList)
    (notCombined : getFirstToken ' ' message ≠ "tilecombine".toList)

def AnyMessage.text : AnyMessage → Payload
  | tile request => request.text
  | combined tiles => tiles.serialize "tilecombine".toList
  | other message _ _ => message

/-- The comparison of texts is exact for every request that the message puts. -/
def ExactMessage (queue : List Payload) : AnyMessage → Prop
  | .tile request => Exact queue request
  | .combined tiles => EachPut Exact queue tiles.tiles
  | .other _ _ _ => True

variable {viewIdOf : Text → Except Exception Text}

/-- In a run of exact requests, no tile is asked for twice. By induction on the run. -/
theorem run_exactQueue {events : List (Event AnyMessage)} {queue : TileQueue}
    (run : GuardedRun viewIdOf AnyMessage.text ExactMessage events queue)
    : ExactQueue queue.queue := by
  refine run.queue_induction ⟨by simp [RequestQueue], by simp [OnePerTile]⟩ ?_ ?_ ?_
  · intro queue message next inv met done
    cases message with
    | tile request =>
        cases (putMessage_request viewIdOf queue request).symm.trans done
        exact inv.putTile met
    | combined tiles =>
        cases (putMessage_combined viewIdOf queue tiles).symm.trans done
        exact inv.putTiles met
    | other message notTile notCombined =>
        obtain ⟨kept, sublist, rfl | ⟨added, rfl, other⟩⟩ :=
          putMessage_notRequest notTile notCombined done
        · exact inv.subperm sublist.subperm
        · exact (inv.subperm sublist.subperm).append other
  · intro queue message inv
    exact inv.subperm (leftMessages_sublist queue message.text).subperm
  · intro queue front rest inv shape
    exact inv.subperm (shape ▸ getMessage_subperm shape)

/-- In every run whose requests are all put with an exact comparison, the queue holds at most
one request for every tile, and a further request, alone or in a combination, replaces
exactly a request for its tile if and only if the comparison is exact for it as well.
-/
theorem run_replaces_iff {events : List (Event AnyMessage)} {queue : TileQueue}
    (run : GuardedRun viewIdOf AnyMessage.text ExactMessage events queue)
    : OnePerTile queue.queue
      ∧ (∀ request, Replaces queue.queue request ↔ Exact queue.queue request)
      ∧ ∀ tiles, EachPut Replaces queue.queue tiles ↔ EachPut Exact queue.queue tiles := by
  have inv := run_exactQueue run
  exact ⟨inv.unique, fun request => replaces_iff inv.texts request (inv.unique _),
    inv.eachPut_iff⟩

/-- The first request is queued as it is. -/
theorem put_request_empty (viewIdOf : Text → Except Exception Text) (request : Request)
    : TileQueue.empty.put viewIdOf request.text
      = .ok { TileQueue.empty with queue := [request.text] } := by
  rw [TileQueue.put, if_neg request.text_ne_nil, putMessage_request]
  rfl

/-- The first request of a run is put with an exact comparison. -/
theorem run_replaces_iff_origin
    : OnePerTile [Request.text ⟨.direct, originTile⟩]
      ∧ (∀ request, Replaces [Request.text ⟨.direct, originTile⟩] request
          ↔ Exact [Request.text ⟨.direct, originTile⟩] request)
      ∧ ∀ tiles, EachPut Replaces [Request.text ⟨.direct, originTile⟩] tiles
          ↔ EachPut Exact [Request.text ⟨.direct, originTile⟩] tiles := by
  have exact' : Exact [] ⟨.direct, originTile⟩ := by
    constructor
    · intro queued before after shape
      cases before <;> cases shape
    · intro queued member
      cases member
  have run : GuardedRun (fun _ => .error .json) AnyMessage.text ExactMessage
      [.put (.tile ⟨.direct, originTile⟩)] _ :=
    GuardedRun.initial.put exact' (put_request_empty _ ⟨.direct, originTile⟩)
  exact run_replaces_iff run

/-- With a request with wire id 12 in the queue, a request for the same place with wire id 1
takes it for a duplicate.
-/
theorem wireId_shadowed
    : ∃ queue,
        Run (fun _ => .error .json) AnyMessage.text
          [.put (.tile ⟨.split, { originTile with wireId := 12 }⟩)] queue
        ∧ ¬ Replaces queue.queue ⟨.split, { originTile with wireId := 1 }⟩ := by
  let queued : Request := ⟨.split, { originTile with wireId := 12 }⟩
  let new : Request := ⟨.split, { originTile with wireId := 1 }⟩
  refine ⟨_, GuardedRun.initial.put trivial (put_request_empty _ queued), ?_⟩
  intro replaces
  have texts : RequestQueue [queued.text] := fun it member _ =>
    ⟨queued, List.mem_singleton.mp member⟩
  have unique : ([queued.text].filter (asksFor new.tile)).length ≤ 1 :=
    List.length_filter_le _ _
  have exact' := (replaces_iff texts new unique).mp replaces
  have shadows : new.Shadows queued := ⟨rfl, by decide, rfl, by decide⟩
  have same := exact'.firstShadowed queued [] [] rfl shadows (fun _ member => nomatch member)
  exact absurd same.wireId (by decide)

end NdcOdfWeb.Queue
