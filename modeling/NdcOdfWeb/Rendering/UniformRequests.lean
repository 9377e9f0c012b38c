import NdcOdfWeb.Rendering.RequestLists

/-! Render requests that denote the tiles which a session has subscribed to: this is so in runs
whose combined requests are of the kind of the tiles that the session waits with.
-/

namespace NdcOdfWeb.Rendering

open NdcOdfWeb.Foundation
open NdcOdfWeb.Protocol
open NdcOdfWeb.Tiles
open NdcOdfWeb.Queue
open Wsd

variable {S : Type} [LinearOrder S] {upperLimit : Int32 → Nat}
variable {viewIdOf : Text → Except Exception Text}

/-- Without such a call, no session gets tiles to wait with. -/
theorem requests_of_no_call {system next : System S} {event : Event S}
    (step : system.step upperLimit viewIdOf event = some next)
    (call : sendingCall system.wsd event = none) (id : S)
    : (next.wsd.session id).requestedTiles ⊆ (system.wsd.session id).requestedTiles := by
  have modified {id' : S} {change : TileSession → TileSession}
      (step : system.ofSession id' (·.modifySession id' change) = some next)
      (same : ∀ session, (change session).requestedTiles = session.requestedTiles)
      : (next.wsd.session id).requestedTiles ⊆ (system.wsd.session id).requestedTiles := by
    obtain ⟨-, rfl⟩ := ofSession_eq step
    rw [(sameRequests_modifySession system.wsd id' same).same id]
    exact List.Subset.refl _
  cases event with
  | addSession other canonicalViewId =>
      rw [System.step] at step
      split at step
      · cases step
      · cases step
        dsimp only
        rw [modifySession_session]
        split
        · exact List.nil_subset _
        · exact List.Subset.refl _
  | removeSession other =>
      rw [System.step] at step
      obtain ⟨-, rfl⟩ := ofSession_eq step
      exact List.Subset.refl _
  | setVisibleArea | setZoom | setPart | setTextDocument | written =>
      rw [System.step] at step
      exact modified step (fun _ => rfl)
  | tile other tile world =>
      rw [System.step] at step
      obtain ⟨-, rfl⟩ := ofSession_eq step
      dsimp only
      rw [(sameRequests_handleTileRequest world system.wsd _ other).same id]
      exact List.Subset.refl _
  | tilecombine | tileprocessed => cases call
  | canceltiles other =>
      rw [System.step] at step
      obtain ⟨-, rfl⟩ := ofSession_eq step
      dsimp only
      have spec := cancelTileRequests_spec system.wsd other
      by_cases itself : id = other
      · rw [itself, spec.cleared.2.1]
        exact List.nil_subset _
      · rw [spec.session id itself]
        exact List.Subset.refl _
  | invalidatetiles other part invalidateRect world =>
      rw [System.step] at step
      obtain ⟨-, rfl⟩ := ofSession_eq step
      dsimp only
      rw [handleTileInvalidation_eq]
      simp only [sendingCall, requestOf] at call
      split at call
      · next none' =>
          rw [if_pos none']
          exact List.Subset.refl _
      · cases call
  | received =>
      rw [System.step] at step
      split at step
      · cases step
      · split at step <;> cases step <;> exact List.Subset.refl _
  | other message =>
      rw [System.step] at step
      split at step
      · split at step <;> cases step <;> exact List.Subset.refl _
      · cases step
  | cursorUpdated | cursorRemoved =>
      cases step
      exact List.Subset.refl _
  | taken =>
      rw [System.step] at step
      split at step
      · cases step
        exact List.Subset.refl _
      · cases step
  | rendered paint =>
      rw [System.step] at step
      split at step
      · cases step
      · cases step
        exact List.Subset.refl _
  | answered now =>
      rw [System.step] at step
      split at step
      · cases step
      · next response later waits =>
          cases step
          dsimp only
          rw [(sameRequests_handleTileResponse now system.wsd response.tiles).same id]
          exact List.Subset.refl _

/-- All tiles of a list are of one kind. -/
def Uniform (tiles : List TileDesc) : Prop :=
  ∀ tile ∈ tiles, ∀ other ∈ tiles, kind tile = kind other

/-- Fewer tiles, fewer pairs. -/
theorem Uniform.subset {tiles others : List TileDesc} (uniform : Uniform others)
    (inside : tiles ⊆ others)
    : Uniform tiles :=
  fun tile member other member' => uniform tile (inside member) other (inside member')

/-- Requests of the kind of the list keep it uniform. -/
theorem uniform_addRequestedTiles {requested newTiles : List TileDesc}
    (uniform : Uniform requested) (new : Uniform newTiles)
    (alike : ∀ old ∈ requested, ∀ tile ∈ newTiles, kind old = kind tile)
    : Uniform (addRequestedTiles requested newTiles) := by
  by_cases empty : requested = []
  · rw [addRequestedTiles, if_pos empty]
    exact new
  · rw [addRequestedTiles_eq empty]
    -- all tiles are of the kind of the first one
    obtain ⟨first, isFirst⟩ := List.exists_mem_of_ne_nil requested empty
    have same (tile : TileDesc) (member : tile ∈ newTiles.foldl addRequestedTile requested)
        : kind tile = kind first := by
      rcases foldl_addRequestedTile_from member with ⟨old, isOld, same⟩ | ⟨⟨other, isNew, same⟩, -⟩
      · exact (kind_of_samePlace same).trans (uniform old isOld first isFirst)
      · exact (kind_of_samePlace same).trans (alike first isFirst other isNew).symm
    exact fun tile member other inside => (same tile member).trans (same other inside).symm

/-- The version is no part of the header. -/
theorem uniform_versionedTiles {tileVersion : Nat} {tiles : List TileDesc}
    (uniform : Uniform tiles)
    : Uniform (versionedTiles tileVersion tiles) := by
  intro tile member other inside
  obtain ⟨before, isIn, same⟩ := versionedTiles_from member
  obtain ⟨before', isIn', same'⟩ := versionedTiles_from inside
  rw [same, same']
  exact uniform before isIn before' isIn'

/-- The tiles of a combination have its header. -/
theorem uniform_combined (combined : TileCombined) : Uniform combined.tiles := by
  intro tile member other inside
  rw [kind, kind, (combined.agree tile member).1, (combined.agree other inside).1]

/-- The invalidated tiles are read as one combination. -/
theorem uniform_invalidationTiles (session : TileSession) (part : Int32)
    (invalidateRect : Rectangle)
    : Uniform (invalidationTiles session part invalidateRect) := by
  have empty : Uniform [] := fun _ member => absurd member List.not_mem_nil
  unfold invalidationTiles
  dsimp only
  split
  · exact empty
  · split
    · exact empty
    · generalize (if part = -1 then session.clientSelectedPart else part) = chosen
      split
      · split
        · split
          · exact uniform_combined _
          · exact empty
        · exact empty
      · exact empty

omit [LinearOrder S] in
/-- By cases on the event. -/
theorem uniform_requestOf {wsd : Wsd S} {event : Event S} {world : World} {id : S}
    {tiles : List TileDesc} (request : requestOf wsd event = some (world, id, tiles))
    : Uniform tiles := by
  cases event with
  | tilecombine other combined world' =>
      cases request
      exact uniform_combined _
  | invalidatetiles other part invalidateRect world' =>
      simp only [requestOf] at request
      split at request
      · cases request
      · cases request
        exact uniform_invalidationTiles (wsd.session id) part invalidateRect
  | _ => cases request

-----------------------------------------------------------------------------------------
-- Runs
-----------------------------------------------------------------------------------------

/-- A combined request is of the kind of the tiles that its session waits with. -/
def AddsAlike (system : System S) (event : Event S) : Prop :=
  ∀ world id tiles,
    requestOf system.wsd event = some (world, id, tiles)
    → ∀ old ∈ (system.wsd.session id).requestedTiles, ∀ tile ∈ tiles, kind old = kind tile

instance decidableAddsAlike (system : System S) (event : Event S)
    : Decidable (AddsAlike system event) :=
  decidable_of_iff
    (∀ request ∈ requestOf system.wsd event,
      ∀ old ∈ (system.wsd.session request.2.1).requestedTiles,
        ∀ tile ∈ request.2.2, kind old = kind tile)
    ⟨fun all world id tiles request => all (world, id, tiles) request,
      fun alike request made => alike request.1 request.2.1 request.2.2 made⟩

/-- Every session waits with tiles of one kind. -/
def UniformLists (wsd : Wsd S) : Prop :=
  ∀ id, Uniform (wsd.session id).requestedTiles

/-- The lists in which a call of `sendRequestedTiles` finds its tiles. -/
theorem uniformLists_sendingCall {system : System S} {event : Event S} {world : World}
    {wsd : Wsd S} {id : S} (uniform : UniformLists system.wsd) (alike : AddsAlike system event)
    (call : sendingCall system.wsd event = some (world, wsd, id))
    : UniformLists wsd := by
  have accumulated {world' : World} {tiles : List TileDesc} {id' : S}
      (request : requestOf system.wsd event = some (world', id', tiles))
      : UniformLists (accumulateTiles world' system.wsd tiles id') := by
    intro other
    by_cases same : other = id'
    · rw [same, (accumulateTiles_spec ..).2]
      apply uniform_addRequestedTiles (uniform id')
      · exact uniform_versionedTiles (uniform_requestOf request)
      · intro old isOld tile member
        obtain ⟨before, inside, isVersion⟩ := versionedTiles_from member
        rw [isVersion]
        exact alike world' id' tiles request old isOld before inside
    · rw [accumulateTiles, modifySession_session, if_neg same, (sendCombined_keeps ..).2,
        (registerTiles_keeps ..).2]
      exact uniform other
  cases event with
  | tileprocessed other tileID world' =>
      cases call
      intro session
      have same := @sameRequests_modifySession S _ system.wsd id (·.tileProcessed tileID)
        (fun _ => rfl)
      rw [same.same session]
      exact uniform session
  | tilecombine | invalidatetiles =>
      simp only [sendingCall] at call
      obtain ⟨⟨world', id', tiles⟩, request, same⟩ := Option.map_eq_some_iff.mp call
      cases same
      exact accumulated request
  | _ => cases call

/-- Only a call that sends tiles adds to a list. -/
theorem uniformLists_step {system next : System S} {event : Event S}
    (uniform : UniformLists system.wsd) (alike : AddsAlike system event)
    (step : system.step upperLimit viewIdOf event = some next)
    : UniformLists next.wsd := by
  intro id
  cases call : sendingCall system.wsd event with
  | none => exact (uniform id).subset (requests_of_no_call step call id)
  | some called =>
      obtain ⟨world, wsd, sender⟩ := called
      rw [sendingCall_eq step call]
      exact (uniformLists_sendingCall uniform alike call id).subset
        (sendRequestedTiles_requests upperLimit world wsd sender id)

omit [LinearOrder S] in
/-- A session that waits with tiles of one kind has tiles of one kind combined. -/
theorem uniform_needsRendering [DecidableEq S] (upperLimit : Int32 → Nat) (world : World)
    {wsd : Wsd S} {id : S} (uniform : Uniform (wsd.session id).requestedTiles)
    : Uniform (sendingOf upperLimit world wsd id).needsRendering := by
  obtain ⟨spec, -⟩ := sendingOf_spec upperLimit world wsd id
  intro tile member other inside
  rcases spec.rendered tile member with new | ⟨⟨requested, isIn, same⟩, -⟩
  · exact absurd new List.not_mem_nil
  · rcases spec.rendered other inside with new | ⟨⟨requested', isIn', same'⟩, -⟩
    · exact absurd new List.not_mem_nil
    · exact same.trans ((uniform requested isIn requested' isIn').trans same'.symm)

/-- The tiles that the event's call of `sendRequestedTiles` combines are of one kind, the request
for the kit, read again, names exactly these tiles, and the session is subscribed to them.
-/
def CombinesAlike (upperLimit : Int32 → Nat) (system : System S) (event : Event S) : Prop :=
  ∀ world wsd id,
    sendingCall system.wsd event = some (world, wsd, id)
    → Uniform (sendingOf upperLimit world wsd id).needsRendering
      ∧ (∀ tile ∈ (sendingOf upperLimit world wsd id).needsRendering,
          (wsd.sendRequestedTiles upperLimit world id).Subscribed (cacheFileName tile) id)
      ∧ ((sendingOf upperLimit world wsd id).needsRendering ≠ []
        → ∃ combined before,
            (wsd.sendRequestedTiles upperLimit world id).toKit
              = before ++ [KitRequest.tilecombine combined]
            ∧ ∃ read,
                TileCombined.parse (KitRequest.tilecombine combined).text = .ok read
                ∧ read.tiles.map cacheKey
                  = (sendingOf upperLimit world wsd id).needsRendering.map cacheKey)

/-- What the loop takes from a uniform list is uniform. -/
theorem combinesAlike_of_uniform {system : System S} {event : Event S}
    (uniform
      : ∀ world wsd id,
          sendingCall system.wsd event = some (world, wsd, id) → UniformLists wsd)
    : CombinesAlike upperLimit system event := by
  intro world wsd id call
  obtain ⟨spec, -⟩ := sendingOf_spec upperLimit world wsd id
  have alike := uniform_needsRendering upperLimit world (uniform world wsd id call id)
  rw [sendRequestedTiles_eq]
  refine ⟨alike, ?_, ?_⟩
  · intro tile member
    rcases spec.rendered tile member with new | ⟨-, subscribed⟩
    · exact absurd new List.not_mem_nil
    · unfold sendCombined
      split
      · exact subscribed
      · split <;> exact subscribed
  · generalize (sendingOf upperLimit world wsd id).needsRendering = tiles at alike
    intro some'
    obtain ⟨first, others, rfl⟩ := List.exists_cons_of_ne_nil some'
    obtain ⟨combined, created, -, components⟩ := @TileCombined.create_eq first others
      (fun tile member =>
        alike tile (List.mem_cons_of_mem first member) first List.mem_cons_self)
    refine ⟨combined, (sendingOf upperLimit world wsd id).wsd.toKit, ?_, combined.withReadId,
      combined.parse_serialize (by decide) (by decide), ?_⟩
    · unfold sendCombined
      dsimp only
      rw [created]
      rfl
    · change (combined.tiles.map TileDesc.withReadId).map cacheKey = _
      rw [components, List.map_map, List.map_map]
      rfl

/-- In a run whose combined requests are all of the kind of the tiles that their session waits
with, every render request that `sendRequestedTiles` combines denotes the tiles that the session
subscribed to.
-/
theorem requests_combine_alike {events : List (Event S)}
    (alike : AllSteps (System.step upperLimit viewIdOf) AddsAlike System.start events)
    : AllSteps (System.step upperLimit viewIdOf) (CombinesAlike upperLimit) System.start
        events := by
  have uniform
      : AllStates (System.step upperLimit viewIdOf) (fun system => UniformLists system.wsd)
          System.start events := by
    refine allStates_of_meets ?_ ?_ alike
    · exact fun system event next uniform alike step => uniformLists_step uniform alike step
    · exact fun id tile member => absurd member List.not_mem_nil
  intro done event rest reached split reaches
  apply combinesAlike_of_uniform
  intro world wsd id call
  exact uniformLists_sendingCall (uniform done (event :: rest) reached split reaches)
    (alike done event rest reached split reaches) call

/-- All tiles lie in the cache directory. -/
def fullCache : World :=
  ⟨0, fun _ => true⟩

/-- A view has two versions of two tiles on the fly, and requests both once more. They are
rendered and invalidated.
-/
def requestThrice (first second : TileCombined) : List (Event Nat) :=
  let sendTwice (combined : TileCombined) : List (Event Nat) :=
    combined.tiles.flatMap (fun tile =>
      [.tile 0 tile fullCache, .written 0, .tile 0 tile fullCache, .written 0])
  let render : List (Event Nat) := [.received, .taken, .rendered paintSame, .answered 0]
  .addSession 0 ⟨0, firstView_nonneg⟩ :: sendTwice first ++ sendTwice second
    ++ [.tilecombine 0 first emptyCache, .tilecombine 0 second emptyCache]
    ++ render ++ render
    ++ [.invalidatetiles 0 (-1) (.ofSize 0 0 Int32.maxValue Int32.maxValue) emptyCache]

/-- The sizes are within the checks. -/
theorem nextCombined_valid
    : invalidCombined originTile.header.normalizedViewId originTile.header.part
        originTile.header.width originTile.header.height originTile.header.tileWidth
        originTile.header.tileHeight
      = false := by
  decide

/-- The tile has the sizes of the combination. -/
theorem nextCombined_agree
    : ∀ tile ∈ [nextTile], tile.header = originTile.header ∧ tile.broadcast = false := by
  intro tile member
  obtain rfl := List.mem_singleton.mp member
  exact ⟨rfl, rfl⟩

/-- A combination of the tile next to the origin. -/
def nextCombined : TileCombined where
  toTileHeader := originTile.header
  tiles := [nextTile]
  valid := nextCombined_valid
  agree := nextCombined_agree

/-- The second request adds its tile to the list in which the tile of the first one waits. When
the client reports a tile after it was silent for too long, both are combined.
-/
theorem requests_combine_alike_row
    : ∃ reached,
        stepRun plainStep System.start (requestThrice originCombined nextCombined) = some reached
        ∧ (reached.wsd.session 0).requestedTiles.length = 2
        ∧ (sendingOf (fun _ => 10) { emptyCache with now := 10000 }
            (reached.wsd.modifySession 0 (·.tileProcessed [])) 0).needsRendering.length = 2
        ∧ CombinesAlike (fun _ => 10) reached
            (.tileprocessed 0 [] { emptyCache with now := 10000 }) := by
  have runs
      : ((stepRun plainStep System.start (requestThrice originCombined nextCombined)).any
          (fun reached =>
            (reached.wsd.session 0).requestedTiles.length = 2
            ∧ (sendingOf (fun _ => 10) { emptyCache with now := 10000 }
                (reached.wsd.modifySession 0 (·.tileProcessed [])) 0).needsRendering.length
              = 2)) := by
    decide +kernel
  obtain ⟨reached, ran, found⟩ := (Option.any_eq_true _ _).mp runs
  obtain ⟨waiting, combined⟩ := of_decide_eq_true found
  have alike
      : AllSteps plainStep AddsAlike System.start
          (requestThrice originCombined nextCombined
            ++ [.tileprocessed 0 [] { emptyCache with now := 10000 }]) :=
    .of_test (fun _ _ passed => of_decide_eq_true passed) (by decide +kernel)
  exact ⟨reached, ran, waiting, combined, requests_combine_alike alike _ _ [] reached rfl ran⟩

/-- A combination of the tile next to the origin, in the second part. -/
def secondPartNext : TileCombined where
  toTileHeader := secondPart.toTileHeader
  tiles := [{ originTile with part := 1, tilePosX := 3840, valid := by decide }]
  valid := secondPart.valid
  agree := by simp [secondPart, originTile, TileDesc.header]

/-- The session waits with a tile of each part. When the client reports a tile after it was silent
for too long, both are combined, as tiles of the first part.
-/
theorem parts_combined
    : ∃ reached,
        stepRun plainStep System.start (requestThrice originCombined secondPartNext)
          = some reached
        ∧ 0 ∈ reached.wsd.sessions
        ∧ ¬ CombinesAlike (fun _ => 10) reached
            (.tileprocessed 0 [] { emptyCache with now := 10000 }) := by
  have runs
      : ((stepRun plainStep System.start (requestThrice originCombined secondPartNext)).any
          (fun reached =>
            0 ∈ reached.wsd.sessions
            ∧ (sendingOf (fun _ => 10) { emptyCache with now := 10000 }
                (reached.wsd.modifySession 0 (·.tileProcessed []))
                0).needsRendering.map (·.part) = [0, 1])) := by
    decide +kernel
  obtain ⟨reached, ran, found⟩ := (Option.any_eq_true _ _).mp runs
  obtain ⟨present, parts⟩ := of_decide_eq_true found
  refine ⟨reached, ran, present, ?_⟩
  intro alike
  obtain ⟨uniform, -⟩ := alike _ _ _ rfl
  have same (part : Int32)
      (member
        : part
          ∈ (sendingOf (fun _ => 10) { emptyCache with now := 10000 }
              (reached.wsd.modifySession 0 (·.tileProcessed [])) 0).needsRendering.map (·.part))
      : part = 0 := by
    obtain ⟨tile, inside, rfl⟩ := List.mem_map.mp member
    obtain ⟨first, isFirst, zero⟩ := List.mem_map.mp (parts ▸ List.mem_cons_self : (0 : Int32)
      ∈ (sendingOf (fun _ => 10) { emptyCache with now := 10000 }
          (reached.wsd.modifySession 0 (·.tileProcessed [])) 0).needsRendering.map (·.part))
    exact (congrArg TileHeader.part (uniform tile inside first isFirst)).trans zero
  have one := same 1 (parts ▸ List.mem_cons_of_mem 0 List.mem_cons_self)
  exact absurd one (by decide)

end NdcOdfWeb.Rendering
