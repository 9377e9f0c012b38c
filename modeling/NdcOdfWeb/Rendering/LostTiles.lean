import NdcOdfWeb.Rendering.RequestedTiles

/-! What becomes of the tiles of a combined request, and of those that were requested before. -/

namespace NdcOdfWeb.Rendering

open NdcOdfWeb.Foundation
open NdcOdfWeb.Protocol
open NdcOdfWeb.Tiles
open NdcOdfWeb.Queue
open Wsd

variable {S : Type} [DecidableEq S]

/-- `handleTileCombinedRequest` up to the call of `sendRequestedTiles`. -/
def accumulateTiles (world : World) (wsd : Wsd S) (tiles : List TileDesc) (id : S) : Wsd S :=
  let (versioned, needsRendering, wsd) := wsd.registerTiles world tiles
  (wsd.sendCombined needsRendering).modifySession id (fun session =>
    { session with requestedTiles := addRequestedTiles session.requestedTiles versioned })

/-- The tiles are added to the list, and then sent. -/
theorem handleTileCombinedRequest_eq (upperLimit : Int32 → Nat) (world : World) (wsd : Wsd S)
    (tiles : List TileDesc) (id : S)
    : wsd.handleTileCombinedRequest upperLimit world tiles id
      = (accumulateTiles world wsd tiles id).sendRequestedTiles upperLimit world id :=
  rfl

/-- The tiles of a request with the versions that they get, after `tileVersion` others. -/
def versionedTiles (tileVersion : Nat) : List TileDesc → List TileDesc
  | [] => []
  | tile :: tiles =>
      { tile with ver := versionOf (tileVersion + 1) } :: versionedTiles (tileVersion + 1) tiles

omit [DecidableEq S] in
/-- The registration takes no version. -/
theorem registerTileBeingRendered_version (now : Int) (wsd : Wsd S) (tile : TileDesc)
    : (wsd.registerTileBeingRendered now tile).tileVersion = wsd.tileVersion := by
  unfold registerTileBeingRendered
  split
  · split <;> rfl
  · rfl

omit [DecidableEq S] in
/-- Each tile gets the next version, by induction on the tiles. -/
theorem registerTiles_fst (world : World) (wsd : Wsd S) (tiles : List TileDesc)
    : (wsd.registerTiles world tiles).1 = versionedTiles wsd.tileVersion tiles := by
  induction tiles generalizing wsd with
  | nil => rfl
  | cons tile tiles ih =>
      unfold registerTiles nextVersion
      dsimp only
      split
      · rw [ih]
        rfl
      · rw [ih, registerTileBeingRendered_version]
        rfl

omit [DecidableEq S] in
/-- By induction on the tiles. -/
theorem registerTiles_keeps (world : World) (wsd : Wsd S) (tiles : List TileDesc)
    : (wsd.registerTiles world tiles).2.2.log = wsd.log
      ∧ (wsd.registerTiles world tiles).2.2.session = wsd.session := by
  induction tiles generalizing wsd with
  | nil => exact ⟨rfl, rfl⟩
  | cons tile tiles ih =>
      unfold registerTiles nextVersion
      dsimp only
      split
      · exact ih _
      · obtain ⟨log, session⟩ := ih
          (registerTileBeingRendered { wsd with tileVersion := wsd.tileVersion + 1 } world.now
            { tile with ver := versionOf (wsd.tileVersion + 1) })
        have spec := registerTileBeingRendered_spec
          { wsd with tileVersion := wsd.tileVersion + 1 } world.now
          { tile with ver := versionOf (wsd.tileVersion + 1) }
        exact ⟨log.trans spec.log, session.trans spec.session⟩

omit [DecidableEq S] in
/-- The message goes to the kit only. -/
theorem sendCombined_keeps (wsd : Wsd S) (tiles : List TileDesc)
    : (wsd.sendCombined tiles).log = wsd.log
      ∧ (wsd.sendCombined tiles).session = wsd.session := by
  unfold sendCombined
  split
  · exact ⟨rfl, rfl⟩
  · split <;> exact ⟨rfl, rfl⟩

/-- The state in which `sendRequestedTiles` is called. -/
theorem accumulateTiles_spec (world : World) (wsd : Wsd S) (tiles : List TileDesc) (id : S)
    : (accumulateTiles world wsd tiles id).log = wsd.log
      ∧ ((accumulateTiles world wsd tiles id).session id).requestedTiles
        = addRequestedTiles (wsd.session id).requestedTiles
            (versionedTiles wsd.tileVersion tiles) := by
  obtain ⟨log, session⟩ := registerTiles_keeps world wsd tiles
  obtain ⟨log', session'⟩ := sendCombined_keeps (wsd.registerTiles world tiles).2.2
    (wsd.registerTiles world tiles).2.1
  refine ⟨log'.trans log, ?_⟩
  rw [accumulateTiles, modifySession_session, if_pos rfl, session', session,
    registerTiles_fst]

/-- What a call of `sendRequestedTiles` does with the tiles of the list. -/
theorem sendRequestedTiles_spec (upperLimit : Int32 → Nat) (world : World) (wsd : Wsd S) (id : S)
    : ∃ sending more,
        SendingSpec wsd id (wsd.session id).requestedTiles sending more
        ∧ (wsd.sendRequestedTiles upperLimit world id).log = sending.wsd.log
        ∧ ((wsd.sendRequestedTiles upperLimit world id).session id).requestedTiles
          = sending.requestedTiles := by
  unfold sendRequestedTiles
  dsimp only
  rw [removeOutdatedTileSubscriptions_eq]
  have list
      : ((wsd.modifySession id (·.removeOutdatedTilesOnFly world.now)).session id).requestedTiles
        = (wsd.session id).requestedTiles := by
    rw [modifySession_session, if_pos rfl]
    rfl
  rw [list]
  obtain ⟨more, spec⟩ := sendLoop_spec world (tilesOnFlyUpperLimit upperLimit (wsd.session id)) id
    (wsd.modifySession id (·.removeOutdatedTilesOnFly world.now)) [] []
    (wsd.session id).requestedTiles
  rw [List.append_nil] at spec
  refine ⟨_, more, ⟨spec.log, spec.served, spec.only, spec.requested⟩, ?_, ?_⟩
  · exact (sendCombined_keeps _ _).1
  · rw [(sendCombined_keeps _ _).2, modifySession_session, if_pos rfl]

-----------------------------------------------------------------------------------------
-- Requests that lose no tile
-----------------------------------------------------------------------------------------

/-- After the call the tile is in the session's list, with a version for which `newEnough` holds,
or it was sent to the session or subscribed to in the call.
-/
def Kept (before after : Wsd S) (id : S) (newEnough : Int32 → Prop) (tile : TileDesc) : Prop :=
  (∃ kept ∈ (after.session id).requestedTiles, SamePlace kept tile ∧ newEnough kept.ver)
  ∨ ∃ more, after.log = more ++ before.log ∧ ∃ notice ∈ more, Serves id tile notice

/-- No tile of the request is lost, and none that was requested before. -/
structure LosesNone (before after : Wsd S) (id : S) (tiles : List TileDesc) : Prop where
  new
    : ∀ tile ∈ versionedTiles before.tileVersion tiles,
        Kept before after id (tile.ver ≤ ·) tile
  old : ∀ tile ∈ (before.session id).requestedTiles, Kept before after id (fun _ => True) tile

/-- Only the versions of the tiles change. -/
theorem versionedTiles_from {tileVersion : Nat} {tiles : List TileDesc} {tile : TileDesc}
    (member : tile ∈ versionedTiles tileVersion tiles)
    : ∃ before ∈ tiles, tile = { before with ver := tile.ver } := by
  induction tiles generalizing tileVersion with
  | nil => exact absurd member List.not_mem_nil
  | cons first tiles ih =>
      rcases List.mem_cons.mp member with rfl | inside
      · exact ⟨first, List.mem_cons_self, rfl⟩
      · obtain ⟨before, isIn, same⟩ := ih inside
        exact ⟨before, List.mem_cons_of_mem first isIn, same⟩

/-- By induction on the tiles. -/
theorem versionedTiles_has {tileVersion : Nat} {tiles : List TileDesc} {tile : TileDesc}
    (member : tile ∈ tiles)
    : ∃ version, { tile with ver := version } ∈ versionedTiles tileVersion tiles := by
  induction tiles generalizing tileVersion with
  | nil => exact absurd member List.not_mem_nil
  | cons first tiles ih =>
      rcases List.mem_cons.mp member with rfl | inside
      · exact ⟨_, List.mem_cons_self⟩
      · obtain ⟨version, isIn⟩ := @ih (tileVersion + 1) inside
        exact ⟨version, List.mem_cons_of_mem _ isIn⟩

/-- A version below 2^31 fits an int. -/
theorem versionOf_le {earlier later : Nat} (order : earlier ≤ later) (fits : later < 2 ^ 31)
    : versionOf earlier ≤ versionOf later := by
  rw [versionOf, versionOf, Int32.le_iff_toInt_le, Int32.toInt_ofNat_of_lt (by omega),
    Int32.toInt_ofNat_of_lt fits]
  exact Int.ofNat_le.mpr order

/-- The versions ascend as long as they are not too large for a tile. -/
theorem versionedTiles_ascending {tileVersion : Nat} {tiles : List TileDesc}
    (fits : tileVersion + tiles.length < 2 ^ 31)
    : (versionedTiles tileVersion tiles).Pairwise (fun earlier later => earlier.ver ≤ later.ver) := by
  have above {first : Nat} {others : List TileDesc} (fits : first + others.length < 2 ^ 31)
      : ∀ tile ∈ versionedTiles first others, versionOf first ≤ tile.ver := by
    induction others generalizing first with
    | nil => exact fun _ member => absurd member List.not_mem_nil
    | cons next others ih =>
        rw [List.length_cons] at fits
        intro tile member
        rcases List.mem_cons.mp member with rfl | inside
        · exact versionOf_le (Nat.le_succ first) (by omega)
        · exact Int32.le_trans (versionOf_le (Nat.le_succ first) (by omega))
            (ih (by omega) tile inside)
  induction tiles generalizing tileVersion with
  | nil => exact .nil
  | cons tile tiles ih =>
      rw [List.length_cons] at fits
      exact .cons (above (by omega)) (ih (by omega))

/-- The tiles of a combination have its header. -/
theorem versionedTiles_header {tileVersion : Nat} (combined : TileCombined)
    : ∀ tile ∈ versionedTiles tileVersion combined.tiles,
        ∀ other ∈ versionedTiles tileVersion combined.tiles, tile.header = other.header := by
  have header (tile : TileDesc) (member : tile ∈ versionedTiles tileVersion combined.tiles)
      : tile.header = combined.toTileHeader := by
    obtain ⟨before, inside, same⟩ := versionedTiles_from member
    rw [same]
    exact (combined.agree before inside).1
  exact fun tile member other inside => (header tile member).trans (header other inside).symm

/-- The version is no part of the place. -/
theorem mergesAlike_versionedTiles {requested tiles : List TileDesc} {tileVersion : Nat}
    : MergesAlike requested (versionedTiles tileVersion tiles) ↔ MergesAlike requested tiles := by
  constructor
  · intro alike tile member old found
    obtain ⟨version, inside⟩ := @versionedTiles_has tileVersion _ _ member
    exact alike _ inside old found
  · intro alike tile member old found
    obtain ⟨before, inside, same⟩ := versionedTiles_from member
    rw [same] at found ⊢
    exact alike before inside old found

omit [DecidableEq S] in
/-- Tiles at one place have one name in the cache. -/
theorem Serves.of_samePlace {id : S} {tile other : TileDesc} {notice : Notice S}
    (serves : Serves id tile notice) (same : SamePlace tile other)
    : Serves id other notice := by
  cases notice with
  | subscribed => exact ⟨serves.1, serves.2.trans (cacheFileName_eq_iff.mpr same)⟩
  | enqueued | filtered => exact ⟨serves.1, SamePlace.trans serves.2 same⟩
  | canceled | answered => exact serves.elim

omit [DecidableEq S] in
/-- A call keeps the tiles of the list that it starts with. -/
theorem kept_of_mem {before middle after : Wsd S} {id : S} {newEnough : Int32 → Prop}
    {sending : Sending S} {more : List (Notice S)} {tile kept : TileDesc}
    (spec : SendingSpec middle id (middle.session id).requestedTiles sending more)
    (log : middle.log = before.log) (log' : after.log = sending.wsd.log)
    (list : (after.session id).requestedTiles = sending.requestedTiles)
    (member : kept ∈ (middle.session id).requestedTiles) (same : SamePlace kept tile)
    (version : newEnough kept.ver)
    : Kept before after id newEnough tile := by
  rcases spec.served kept member with stays | ⟨notice, isIn, serves⟩
  · exact .inl ⟨kept, list ▸ stays, same, version⟩
  · exact .inr ⟨more, by rw [log', spec.log, log], notice, isIn, serves.of_samePlace same⟩

/-- A combined request loses no tile as long as its versions fit into `int` and each of its tiles
is the same tile as the first one that is requested at its position, if there is one. In a list
with one tile for a position, as all requests leave it, a request that does not meet the second
condition loses a tile.
-/
theorem combinedRequest_loses_none (upperLimit : Int32 → Nat) (world : World) (wsd : Wsd S)
    (combined : TileCombined) (id : S)
    : (wsd.tileVersion + combined.tiles.length < 2 ^ 31
        → MergesAlike (wsd.session id).requestedTiles combined.tiles
        → LosesNone wsd (wsd.handleTileCombinedRequest upperLimit world combined.tiles id) id
            combined.tiles)
      ∧ (OneTilePerPosition (wsd.session id).requestedTiles
        → LosesNone wsd (wsd.handleTileCombinedRequest upperLimit world combined.tiles id) id
            combined.tiles
        → MergesAlike (wsd.session id).requestedTiles combined.tiles)
      ∧ (OneTilePerPosition (wsd.session id).requestedTiles
        → OneTilePerPosition
            ((wsd.handleTileCombinedRequest upperLimit world combined.tiles id).session
              id).requestedTiles) := by
  rw [handleTileCombinedRequest_eq]
  obtain ⟨log, list⟩ := accumulateTiles_spec world wsd combined.tiles id
  obtain ⟨sending, more, spec, log', list'⟩ :=
    sendRequestedTiles_spec upperLimit world (accumulateTiles world wsd combined.tiles id) id
  have header := @versionedTiles_header wsd.tileVersion combined
  refine ⟨?_, ?_, ?_⟩
  · intro fits alike
    constructor
    · intro tile member
      have there
          : ∃ kept ∈ ((accumulateTiles world wsd combined.tiles id).session id).requestedTiles,
              SamePlace kept tile ∧ tile.ver ≤ kept.ver := by
        rw [list]
        by_cases empty : (wsd.session id).requestedTiles = []
        · rw [addRequestedTiles, if_pos empty]
          exact ⟨tile, member, SamePlace.refl tile, Int32.le_refl _⟩
        · rw [addRequestedTiles_eq empty]
          exact foldl_addRequestedTile_has (mergesAlike_versionedTiles.mpr alike) header
            (versionedTiles_ascending fits) tile member
      obtain ⟨kept, inside, same, version⟩ := there
      exact kept_of_mem spec log log' list' inside same version
    · intro tile member
      have there
          : ∃ kept ∈ ((accumulateTiles world wsd combined.tiles id).session id).requestedTiles,
              SamePlace kept tile := by
        rw [list, addRequestedTiles_eq (List.ne_nil_of_mem member)]
        obtain ⟨kept, inside, same, -⟩ := foldl_addRequestedTile_keeps member
        exact ⟨kept, inside, same⟩
      obtain ⟨kept, inside, same⟩ := there
      exact kept_of_mem spec log log' list' inside same trivial
  · intro one losesNone tile member old found
    obtain ⟨version, isNew⟩ := @versionedTiles_has wsd.tileVersion _ _ member
    have there
        : ∃ kept ∈ ((accumulateTiles world wsd combined.tiles id).session id).requestedTiles,
            SamePlace kept tile := by
      rcases losesNone.new _ isNew with ⟨kept, inside, same, -⟩ | ⟨more', log'', notice, isIn, serves⟩
      · rw [list'] at inside
        exact ⟨kept, spec.requested kept inside, same⟩
      · rw [log', spec.log, log] at log''
        rw [← List.append_cancel_right log''] at isIn
        obtain ⟨kept, inside, only⟩ := spec.only notice isIn
        exact ⟨kept, inside, only _ serves⟩
    obtain ⟨kept, inside, same⟩ := there
    have isOld := List.mem_of_find?_eq_some found
    have atOld : samePosition tile old := List.find?_some found
    rw [list, addRequestedTiles_eq (List.ne_nil_of_mem isOld)] at inside
    have atKept := samePosition_trans (samePosition_symm atOld)
      (samePosition_symm (samePosition_of_samePlace same))
    rcases foldl_addRequestedTile_from inside with ⟨other, isOther, same'⟩ | ⟨-, free⟩
    · have alike := one old isOld other isOther
        (samePosition_trans atKept (samePosition_of_samePlace same'))
      exact SamePlace.trans alike (SamePlace.trans (SamePlace.symm same') same)
    · exact absurd atKept (free old isOld)
  · intro one
    rw [list']
    have merged := oneTilePerPosition_addRequestedTiles one header
    rw [← list] at merged
    exact fun tile member other inside =>
      merged tile (spec.requested tile member) other (spec.requested other inside)

/-- A session that still waits with the tile at the origin of the first part. -/
def pendingOrigin : Wsd Nat where
  sessions := [0]
  session _ := { TileSession.new ⟨0, firstView_nonneg⟩ with requestedTiles := [originTile] }
  tilesBeingRendered := []
  tileVersion := 7
  toKit := []
  log := []

/-- A combination of the tile at the origin of the second part. -/
def secondPart : TileCombined where
  toTileHeader := { originTile.header with part := 1 }
  tiles := [{ originTile with part := 1, valid := by decide }]
  valid := by decide
  agree := by simp [originTile, TileDesc.header]

/-- The request for the second part becomes a newer version of the one for the first part. -/
theorem otherPart_lost
    : OneTilePerPosition (pendingOrigin.session 0).requestedTiles
      ∧ ¬ LosesNone pendingOrigin
          (pendingOrigin.handleTileCombinedRequest (fun _ => 10) emptyCache secondPart.tiles 0)
          0 secondPart.tiles := by
  constructor
  · intro tile member other inside _
    rw [List.mem_singleton.mp member, List.mem_singleton.mp inside]
    exact SamePlace.refl originTile
  · intro losesNone
    have first
        : ∃ tile, tile ∈ versionedTiles pendingOrigin.tileVersion secondPart.tiles :=
      ⟨_, List.mem_cons_self⟩
    obtain ⟨tile, member⟩ := first
    rcases losesNone.new tile member with ⟨kept, inside, -⟩ | ⟨more, log, notice, isIn, serves⟩
    · have none'
          : (((pendingOrigin.handleTileCombinedRequest (fun _ => 10) emptyCache secondPart.tiles
                0).session 0).requestedTiles).length = 0 := by
        decide +kernel
      rw [List.length_eq_zero_iff.mp none'] at inside
      exact List.not_mem_nil inside
    · have unserved
          : ∀ tile ∈ versionedTiles pendingOrigin.tileVersion secondPart.tiles,
              ∀ notice
                ∈ (pendingOrigin.handleTileCombinedRequest (fun _ => 10) emptyCache
                    secondPart.tiles 0).log,
                ¬ Serves 0 tile notice := by
        decide +kernel
      have all := log.trans (List.append_nil more)
      exact unserved tile member notice (all ▸ isIn) serves

end NdcOdfWeb.Rendering
