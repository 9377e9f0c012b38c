import NdcOdfWeb.Queue.CancelTiles
import NdcOdfWeb.Queue.Conservation

/-! The tiles that wait in a queue. A request is only dropped for another one of the same tile;
where requests come in the order of their versions, that is a later one.
-/

namespace NdcOdfWeb.Queue

open NdcOdfWeb.Foundation
open NdcOdfWeb.Protocol
open NdcOdfWeb.Tiles
open TileQueue

/-- The tile is the requested one, in the requested version or a later one. -/
def Covers (tile requested : TileDesc) : Prop :=
  SamePlace tile requested ∧ requested.ver ≤ tile.ver

/-- The same place and the same version. -/
theorem Covers.refl (tile : TileDesc) : Covers tile tile :=
  ⟨SamePlace.refl tile, Int32.le_refl _⟩

/-- A place is compared for equality, and versions ascend. -/
theorem Covers.trans {last tile first : TileDesc} (later : Covers last tile)
    (earlier : Covers tile first)
    : Covers last first :=
  ⟨SamePlace.trans later.1 earlier.1, Int32.le_trans earlier.2 later.2⟩

/-- The component keeps its place and version. -/
theorem Covers.component (tile : TileDesc) : Covers tile.component tile :=
  Covers.refl tile

-----------------------------------------------------------------------------------------
-- Putting requests
-----------------------------------------------------------------------------------------

/-- A request takes the place of at most one other, for the same tile. -/
theorem putTile_pending {queue : List Payload} (texts : RequestTexts queue) (request : Request)
    : pendingTiles (putTile queue request.text) = request.tile.component ::ₘ pendingTiles queue
      ∨ ∃ victim rest,
          pendingTiles queue = victim ::ₘ rest
          ∧ SamePlace victim request.tile.component
          ∧ pendingTiles (putTile queue request.text) = request.tile.component ::ₘ rest := by
  obtain ⟨next, step⟩ := putTile_step texts request 0
  generalize before : poolOf queue 0 = pool at step
  generalize after : poolOf (putTile queue request.text) next = pool' at step
  have pending : pool.pending = pendingTiles queue := before ▸ rfl
  have pending' : pool'.pending = pendingTiles (putTile queue request.text) := after ▸ rfl
  rw [← pending, ← pending']
  cases step with
  | item => exact .inl rfl
  | displace shape same => exact .inr ⟨_, _, shape, same, rfl⟩

/-- Tiles that wait in a queue are covered by those of another one. -/
def Covered (queue next : List Payload) : Prop :=
  ∀ tile ∈ pendingTiles queue, ∃ kept ∈ pendingTiles next, Covers kept tile

/-- All that waits is not newer than the tile. -/
def Awaits (queue : List Payload) (new : TileDesc) : Prop :=
  ∀ tile ∈ pendingTiles queue, tile.ver ≤ new.ver

/-- The queue holds the request and what it held before. -/
theorem putTile_sources {queue : List Payload} (texts : RequestTexts queue) (request : Request)
    : ∀ tile ∈ pendingTiles (putTile queue request.text),
        tile = request.tile.component ∨ tile ∈ pendingTiles queue := by
  intro tile member
  rcases putTile_pending texts request with shape | ⟨victim, rest, before, -, after⟩
  · rw [shape] at member
    exact Multiset.mem_cons.mp member
  · rw [after] at member
    rw [before]
    exact (Multiset.mem_cons.mp member).imp_right Multiset.mem_cons_of_mem

/-- The request takes the place of those it makes obsolete. -/
theorem putTile_covered {queue : List Payload} (texts : RequestTexts queue) (request : Request)
    (awaits : Awaits queue request.tile)
    : request.tile.component ∈ pendingTiles (putTile queue request.text)
      ∧ Covered queue (putTile queue request.text) := by
  rcases putTile_pending texts request with shape | ⟨victim, rest, before, same, after⟩
  · rw [Covered, shape]
    refine ⟨Multiset.mem_cons_self .., ?_⟩
    exact fun tile member => ⟨tile, Multiset.mem_cons_of_mem member, .refl tile⟩
  · rw [Covered, after]
    refine ⟨Multiset.mem_cons_self .., ?_⟩
    intro tile member
    have older := awaits tile member
    rw [before] at member
    rcases Multiset.mem_cons.mp member with rfl | inside
    · exact ⟨_, Multiset.mem_cons_self .., SamePlace.symm same, older⟩
    · exact ⟨tile, Multiset.mem_cons_of_mem inside, .refl tile⟩

/-- What the queue holds after the requests of a combination. -/
structure PutTilesSpec (queue : List Payload) (tiles : List TileDesc) (next : List Payload)
    : Prop where
  texts : RequestTexts next
  sources
    : ∀ tile ∈ pendingTiles next,
        tile ∈ pendingTiles queue ∨ ∃ new ∈ tiles, tile = new.component
  covered : Covered queue next
  put : ∀ new ∈ tiles, ∃ kept ∈ pendingTiles next, Covers kept new

/-- The requests of a combination, in the order of their versions. -/
theorem putTiles_spec {queue : List Payload} {tiles : List TileDesc} (texts : RequestTexts queue)
    (awaits : ∀ new ∈ tiles, Awaits queue new)
    (ascending : tiles.Pairwise (fun earlier later => earlier.ver ≤ later.ver))
    : PutTilesSpec queue tiles
        (tiles.foldl (fun queue tile => putTile queue (tile.serialize "tile".toList))
          queue) := by
  induction tiles generalizing queue with
  | nil =>
      exact ⟨texts, fun _ member => .inl member, fun tile member => ⟨tile, member, .refl tile⟩,
        fun _ member => absurd member List.not_mem_nil⟩
  | cons first tiles ih =>
      let request : Request := ⟨.split, first⟩
      obtain ⟨before, later⟩ := List.pairwise_cons.mp ascending
      obtain ⟨here, kept⟩ := putTile_covered texts request (awaits first List.mem_cons_self)
      have before' := putTile_sources texts request
      have awaits' : ∀ new ∈ tiles, Awaits (putTile queue request.text) new := by
        intro new inside tile member
        rcases before' tile member with rfl | old
        · exact before new inside
        · exact awaits new (List.mem_cons_of_mem first inside) tile old
      have spec := ih (texts.putTile request) awaits' later
      refine ⟨spec.texts, ?_, ?_, ?_⟩
      · intro tile member
        rcases spec.sources tile member with old | ⟨new, inside, rfl⟩
        · rcases before' tile old with rfl | older
          · exact .inr ⟨first, List.mem_cons_self, rfl⟩
          · exact .inl older
        · exact .inr ⟨new, List.mem_cons_of_mem first inside, rfl⟩
      · intro tile member
        obtain ⟨next, inside, covers⟩ := kept tile member
        obtain ⟨last, isLast, covers'⟩ := spec.covered next inside
        exact ⟨last, isLast, covers'.trans covers⟩
      · intro new member
        rcases List.mem_cons.mp member with rfl | inside
        · obtain ⟨last, isLast, covers⟩ := spec.covered _ here
          exact ⟨last, isLast, covers⟩
        · exact spec.put new inside

/-- No request is taken out of the queue by `canceltiles`. -/
theorem pendingTiles_cancel {queue : List Payload} (texts : RequestTexts queue)
    (tokens : List Text)
    : pendingTiles (queue.filter (fun it => !canceled tokens it)) = pendingTiles queue := by
  have same
      : (queue.filter (fun it => !canceled tokens it)).filter isTile = queue.filter isTile := by
    rw [List.filter_filter]
    apply List.filter_congr
    intro it member
    cases tile : isTile it with
    | false => rfl
    | true =>
        obtain ⟨request, rfl⟩ := texts it member tile
        have kept : canceled tokens request.text = false := canceled_tile tokens _ request.tile
        rw [kept]
        rfl
  rw [pendingTiles, same, pendingTiles]

/-- A request for one tile, or a combined one. -/
def IsRequest (payload : Payload) : Prop :=
  (∃ request : Request, payload = request.text)
  ∨ ∃ combined : TileCombined, payload = combined.serialize "tilecombine".toList

/-- One tile is sent as a tile, more as a combination. -/
theorem tilesMessage_isRequest {first : TileDesc} {others : List TileDesc} {payload : Payload}
    (message : tilesMessage first others = .ok payload)
    : IsRequest payload := by
  cases others with
  | nil =>
      cases message
      exact .inl ⟨⟨.split, first⟩, rfl⟩
  | cons second others =>
      rw [tilesMessage] at message
      obtain ⟨combined, -, done⟩ := bind_ok message
      cases done
      exact .inr ⟨combined, rfl⟩

/-- What starts like a tile request when it is taken is one. -/
theorem getMessage_isRequest {queue : TileQueue} {front payload : Payload}
    {rest left : List Payload} (shape : queue.queue = front :: rest)
    (texts : RequestTexts queue.queue)
    (taken : queue.getMessage front rest = (.ok payload, left)) (tile : isTile payload = true)
    : IsRequest payload := by
  have single (same : payload = front) : IsRequest payload := by
    rw [same] at tile ⊢
    exact .inl (texts front (shape ▸ List.mem_cons_self) tile)
  unfold getMessage at taken
  split at taken
  · unfold getTiles at taken
    split at taken
    · cases taken
    · split at taken
      · cases taken
      · next first _ =>
          obtain ⟨message, -⟩ := Prod.mk.inj taken
          obtain ⟨others, -, done⟩ := bind_ok message
          exact tilesMessage_isRequest done
  · split at taken
    · cases taken
      exact single rfl
    · cases taken
      exact single rfl

end NdcOdfWeb.Queue
