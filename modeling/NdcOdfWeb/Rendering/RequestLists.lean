import NdcOdfWeb.Rendering.LostTiles
import NdcOdfWeb.Rendering.SystemSteps

/-! Where the tiles come from that a session requests, and those that are combined for the kit. -/

namespace NdcOdfWeb.Rendering

open NdcOdfWeb.Foundation
open NdcOdfWeb.Protocol
open NdcOdfWeb.Tiles
open NdcOdfWeb.Queue
open Wsd

-----------------------------------------------------------------------------------------
-- Operations that leave the lists of requested tiles alone
-----------------------------------------------------------------------------------------

section Same

variable {S : Type}

/-- A call that leaves the requested tiles of all sessions alone. -/
structure SameRequests (before after : Wsd S) : Prop where
  same : ∀ id, (after.session id).requestedTiles = (before.session id).requestedTiles

/-- Nothing happens. -/
theorem SameRequests.refl (wsd : Wsd S) : SameRequests wsd wsd :=
  ⟨fun _ => rfl⟩

/-- Two steps that keep the lists, by composing the equations. -/
theorem SameRequests.trans {before middle after : Wsd S} (first : SameRequests before middle)
    (second : SameRequests middle after)
    : SameRequests before after :=
  ⟨fun id => (second.same id).trans (first.same id)⟩

variable [DecidableEq S]

/-- A change of a session's state that keeps its list. -/
theorem sameRequests_modifySession (wsd : Wsd S) (id : S) {change : TileSession → TileSession}
    (same : ∀ session, (change session).requestedTiles = session.requestedTiles)
    : SameRequests wsd (wsd.modifySession id change) := by
  constructor
  intro other
  rw [modifySession_session]
  split
  · next itself => rw [same, itself]
  · rfl

/-- Sending a tile counts it, and keeps the lists. -/
theorem sameRequests_enqueueSendMessage (now : Int) (wsd : Wsd S) (id : S) (tile : TileDesc)
    : SameRequests wsd (wsd.enqueueSendMessage now id tile) := by
  rw [enqueueSendMessage_eq]
  have modified
      : SameRequests wsd
          (wsd.modifySession id (fun session =>
            if session.isShown tile then session else session.enqueueTile now tile)) := by
    apply sameRequests_modifySession
    intro session
    split <;> rfl
  exact ⟨modified.same⟩

/-- A subscription only traces the tile. -/
theorem sameRequests_subscribe (now : Int) (wsd : Wsd S) (tile : TileDesc) (id : S)
    : SameRequests wsd (wsd.subscribeToTileRendering now tile id) := by
  constructor
  intro other
  rcases (wsd.subscribeToTileRendering_spec now tile id).session other with same | ⟨-, same⟩
  · rw [same]
  · rw [same]
    rfl

/-- So do the subscriptions of several sessions, by induction on them. -/
theorem sameRequests_subscribeAll (now : Int) (tile : TileDesc) (wsd : Wsd S) (ids : List S)
    : SameRequests wsd
        (ids.foldl (fun wsd id => wsd.subscribeToTileRendering now tile id) wsd) := by
  induction ids generalizing wsd with
  | nil => exact .refl wsd
  | cons id ids ih => exact (sameRequests_subscribe now wsd tile id).trans (ih _)

/-- A direct request answers from the cache or subscribes; its tile is not put into the list. -/
theorem sameRequests_handleTileRequest (world : World) (wsd : Wsd S) (tile : TileDesc) (id : S)
    : SameRequests wsd (wsd.handleTileRequest world tile id) := by
  unfold handleTileRequest nextVersion
  dsimp only
  split
  · exact ⟨(sameRequests_enqueueSendMessage ..).same⟩
  · exact ⟨(sameRequests_subscribeAll ..).same⟩

/-- Answering a subscriber sends the tile, if the session is there. -/
theorem sameRequests_answer (now : Int) (tile : TileDesc) (wsd : Wsd S) (id : S)
    : SameRequests wsd (answer now tile wsd id) := by
  unfold answer
  split
  · exact ⟨(sameRequests_enqueueSendMessage ..).same⟩
  · exact .refl wsd

/-- An answer serves the subscribers one by one and may forget the entry. -/
theorem sameRequests_saveTileAndNotify (now : Int) (wsd : Wsd S) (tile : TileDesc)
    : SameRequests wsd (saveTileAndNotify now wsd tile) := by
  have answered (ids : List S) : SameRequests wsd (ids.foldl (answer now tile) wsd) := by
    have keeps (state : Wsd S) (id : S) (same : SameRequests wsd state)
        : SameRequests wsd (answer now tile state id) :=
      same.trans (sameRequests_answer now tile state id)
    exact foldl_keeps keeps ids (.refl wsd)
  rcases saveTileAndNotify_cases now wsd tile with
    ⟨same, -⟩ | ⟨entry, -, -, ⟨-, spec⟩ | ⟨-, same⟩⟩
  · rw [same]
    exact .refl wsd
  · refine (answered entry.subscribers).trans ⟨?_⟩
    intro id
    rw [spec.session]
    split <;> rfl
  · rw [same]
    exact answered entry.subscribers

/-- The answers of the kit, by induction on their tiles. -/
theorem sameRequests_handleTileResponse (now : Int) (wsd : Wsd S) (tiles : List TileDesc)
    : SameRequests wsd (wsd.handleTileResponse now tiles) := by
  have keeps (state : Wsd S) (tile : TileDesc) (same : SameRequests wsd state)
      : SameRequests wsd (state.saveTileAndNotify now tile) :=
    same.trans (sameRequests_saveTileAndNotify now state tile)
  exact foldl_keeps keeps tiles (.refl wsd)

-----------------------------------------------------------------------------------------
-- The tiles that are combined
-----------------------------------------------------------------------------------------

/-- What a combination takes from its first tile. -/
def kind (tile : TileDesc) : TileHeader :=
  { tile.header with id := -1 }

omit [DecidableEq S] in
/-- Tiles of one place are combined alike, since their headers agree in all that counts. -/
theorem kind_of_samePlace {tile other : TileDesc} (same : SamePlace tile other)
    : kind tile = kind other := by
  obtain ⟨view, part, width, height, -, -, tileWidth, tileHeight⟩ := same
  rw [kind, kind, TileDesc.header, TileDesc.header, view, part, width, height, tileWidth,
    tileHeight]

/-- What the loop of `sendRequestedTiles` does, starting with some tiles to be rendered. -/
structure LoopSpec (before : Wsd S) (id : S) (needsRendering tiles : List TileDesc)
    (sending : Sending S)
    : Prop where
  requests : SameRequests before sending.wsd
  subscribed : ∀ name other, before.Subscribed name other → sending.wsd.Subscribed name other
  rendered
    : ∀ tile ∈ sending.needsRendering,
        tile ∈ needsRendering
        ∨ ((∃ requested ∈ tiles, kind tile = kind requested)
          ∧ sending.wsd.Subscribed (cacheFileName tile) id)

/-- The loop of `sendRequestedTiles`, by induction on the tiles that are left: each is answered from
the cache, delayed, or subscribed to.
-/
theorem sendLoop_loopSpec (world : World) (limit : Nat) (id : S) (wsd : Wsd S)
    (needsRendering delayed tiles : List TileDesc)
    : LoopSpec wsd id needsRendering tiles
        (sendLoop world limit id wsd needsRendering delayed tiles) := by
  induction tiles generalizing wsd needsRendering delayed with
  | nil => exact ⟨.refl wsd, fun _ _ there => there, fun _ member => .inl member⟩
  | cons tile tiles ih =>
      -- the tiles behind the first one
      have later {before middle : Wsd S} {sending : Sending S} {needs : List TileDesc}
          (same : SameRequests before middle)
          (more : ∀ name other, before.Subscribed name other → middle.Subscribed name other)
          (spec : LoopSpec middle id needs tiles sending)
          : LoopSpec before id needs (tile :: tiles) sending := by
        refine ⟨same.trans spec.requests, ?_, ?_⟩
        · exact fun name other there => spec.subscribed name other (more name other there)
        · intro rendered member
          refine (spec.rendered rendered member).imp_right (fun ⟨source, there⟩ => ⟨?_, there⟩)
          obtain ⟨requested, inside, same⟩ := source
          exact ⟨requested, List.mem_cons_of_mem tile inside, same⟩
      have keeps (wsd : Wsd S) (tile : TileDesc) (name : Text) (other : S)
          (there : wsd.Subscribed name other)
          : (wsd.subscribeToTileRendering world.now tile id).Subscribed name other :=
        ((wsd.subscribeToTileRendering_spec world.now tile id).subscribed name other).mpr
          (.inl there)
      unfold sendLoop
      dsimp only
      split
      · exact ⟨.refl wsd, fun _ _ there => there, fun _ member => .inl member⟩
      · split
        · exact later (.refl wsd) (fun _ _ there => there) (ih wsd needsRendering _)
        · split
          · apply later (sameRequests_enqueueSendMessage world.now wsd id tile.withReadId)
            · exact fun name other =>
                (enqueueSendMessage_same world.now wsd id tile.withReadId).subscribed.mpr
            · exact ih _ needsRendering delayed
          · split
            · have same
                  : SameRequests wsd
                      ((wsd.nextVersion tile).2.subscribeToTileRendering world.now
                        (wsd.nextVersion tile).1 id) :=
                ⟨(sameRequests_subscribe world.now (wsd.nextVersion tile).2
                  (wsd.nextVersion tile).1 id).same⟩
              have spec := ih
                ((wsd.nextVersion tile).2.subscribeToTileRendering world.now
                  (wsd.nextVersion tile).1 id)
                (needsRendering ++ [(wsd.nextVersion tile).1]) delayed
              obtain ⟨requests, subscribed, rendered⟩ := later same
                (fun name other => keeps (wsd.nextVersion tile).2 _ name other) spec
              refine ⟨requests, subscribed, ?_⟩
              intro other member
              rcases rendered other member with inside | found
              · rcases List.mem_append.mp inside with old | new
                · exact .inl old
                · rw [List.mem_singleton.mp new]
                  refine .inr ⟨⟨tile, List.mem_cons_self, rfl⟩, ?_⟩
                  apply spec.subscribed
                  exact ((subscribeToTileRendering_spec ..).subscribed _ _).mpr (.inr ⟨rfl, rfl⟩)
              · exact .inr found
            · exact later (sameRequests_subscribe world.now wsd tile id)
                (fun name other => keeps wsd tile name other) (ih _ needsRendering delayed)

/-- The loop of a call of `sendRequestedTiles`. -/
def sendingOf (upperLimit : Int32 → Nat) (world : World) (wsd : Wsd S) (id : S) : Sending S :=
  let limit := tilesOnFlyUpperLimit upperLimit (wsd.session id)
  let wsd := wsd.removeOutdatedTileSubscriptions world.now id
  let wsd := wsd.modifySession id (·.removeOutdatedTilesOnFly world.now)
  sendLoop world limit id wsd [] [] (wsd.session id).requestedTiles

/-- `sendRequestedTiles` stores what is left of the list and sends one combined request. -/
theorem sendRequestedTiles_eq (upperLimit : Int32 → Nat) (world : World) (wsd : Wsd S) (id : S)
    : wsd.sendRequestedTiles upperLimit world id
      = ((sendingOf upperLimit world wsd id).wsd.modifySession id
          ({ · with
            requestedTiles := (sendingOf upperLimit world wsd id).requestedTiles })).sendCombined
          (sendingOf upperLimit world wsd id).needsRendering :=
  rfl

/-- The whole loop: it starts with no tile to render, and it keeps no tile that was not in the list.
-/
theorem sendingOf_spec (upperLimit : Int32 → Nat) (world : World) (wsd : Wsd S) (id : S)
    : LoopSpec wsd id [] (wsd.session id).requestedTiles (sendingOf upperLimit world wsd id)
      ∧ ∀ tile ∈ (sendingOf upperLimit world wsd id).requestedTiles,
          tile ∈ (wsd.session id).requestedTiles := by
  unfold sendingOf
  dsimp only
  rw [removeOutdatedTileSubscriptions_eq]
  have same : SameRequests wsd (wsd.modifySession id (·.removeOutdatedTilesOnFly world.now)) :=
    sameRequests_modifySession wsd id (fun _ => rfl)
  rw [same.same id]
  have spec := sendLoop_loopSpec world (tilesOnFlyUpperLimit upperLimit (wsd.session id)) id
    (wsd.modifySession id (·.removeOutdatedTilesOnFly world.now)) [] []
    (wsd.session id).requestedTiles
  obtain ⟨more, sends⟩ := sendLoop_spec world (tilesOnFlyUpperLimit upperLimit (wsd.session id))
    id (wsd.modifySession id (·.removeOutdatedTilesOnFly world.now)) [] []
    (wsd.session id).requestedTiles
  rw [List.append_nil] at sends
  exact ⟨⟨same.trans spec.requests, spec.subscribed, spec.rendered⟩, sends.requested⟩

/-- The list of the session itself gets shorter; those of the others stay. -/
theorem sendRequestedTiles_requests (upperLimit : Int32 → Nat) (world : World) (wsd : Wsd S)
    (id other : S)
    : ((wsd.sendRequestedTiles upperLimit world id).session other).requestedTiles
      ⊆ (wsd.session other).requestedTiles := by
  obtain ⟨spec, shorter⟩ := sendingOf_spec upperLimit world wsd id
  rw [sendRequestedTiles_eq, (sendCombined_keeps _ _).2, modifySession_session]
  split
  · next itself =>
      rw [itself]
      exact shorter
  · rw [spec.requests.same other]
    exact List.Subset.refl _

end Same

-----------------------------------------------------------------------------------------
-- The requests of an event
-----------------------------------------------------------------------------------------

/-- The tiles that `ClientSession::handleTileInvalidation` requests. -/
def invalidationTiles (session : TileSession) (part : Int32) (invalidateRect : Rectangle)
    : List TileDesc :=
  if !session.clientVisibleArea.hasSurface
      || session.tileWidthPixel = 0 || session.tileHeightPixel = 0
      || session.tileWidthTwips = 0 || session.tileHeightTwips = 0
      || (session.clientSelectedPart = -1 && !session.isTextDocument) then
    []
  else if !session.getNormalizedVisibleArea.intersects invalidateRect then []
  else
    let part := if part = -1 then session.clientSelectedPart else part
    if part = session.clientSelectedPart || session.isTextDocument then
      match invalidTiles session part invalidateRect with
      | .ok (first :: others) =>
          match TileCombined.create first others with
          | .ok combined =>
              (combined.setNormalizedViewId session.canonicalViewId.1
                session.canonicalViewId.2).tiles
          | .error _ => []
      | _ => []
    else []

section Requests

variable {S : Type} [LinearOrder S] {upperLimit : Int32 → Nat}

/-- An invalidation is a combined request for its tiles, if there are any. -/
theorem handleTileInvalidation_eq (world : World) (wsd : Wsd S) (id : S) (part : Int32)
    (invalidateRect : Rectangle)
    : wsd.handleTileInvalidation upperLimit world id part invalidateRect
      = if invalidationTiles (wsd.session id) part invalidateRect = [] then wsd
        else
          wsd.handleTileCombinedRequest upperLimit world
            (invalidationTiles (wsd.session id) part invalidateRect) id := by
  unfold handleTileInvalidation invalidationTiles
  dsimp only
  split
  · rfl
  · split
    · rfl
    · generalize (if part = -1 then (wsd.session id).clientSelectedPart else part) = chosen
      by_cases shown
        : (decide (chosen = (wsd.session id).clientSelectedPart)
            || (wsd.session id).isTextDocument) = true
      · rw [if_pos shown, if_pos shown]
        cases affected : invalidTiles (wsd.session id) chosen invalidateRect with
        | error => rfl
        | ok tiles =>
            cases tiles with
            | nil => rfl
            | cons first others =>
                dsimp only
                have result
                    : (∃ combined, TileCombined.create first others = .ok combined)
                      ∨ ∃ exception, TileCombined.create first others = .error exception := by
                  cases TileCombined.create first others with
                  | ok combined => exact .inl ⟨combined, rfl⟩
                  | error exception => exact .inr ⟨exception, rfl⟩
                rcases result with ⟨combined, created⟩ | ⟨exception, created⟩
                · have some' : (combined.setNormalizedViewId (wsd.session id).canonicalViewId.1
                      (wsd.session id).canonicalViewId.2).tiles ≠ [] := by
                    change combined.tiles.map _ ≠ []
                    rw [create_invalidTiles affected created]
                    exact List.cons_ne_nil _ _
                  simp only [created]
                  rw [if_neg some']
                · simp only [created]
                  rfl
      · rw [if_neg shown, if_neg shown]
        rfl

omit [LinearOrder S] in
/-- Canonical view ids are not negative, by their type. -/
theorem Wsd.viewId_nonneg (wsd : Wsd S) (id : S) : ¬ (wsd.session id).canonicalViewId.1 < 0 :=
  (wsd.session id).canonicalViewId.2

/-- The combined request that an event makes: the session and its tiles. -/
def requestOf (wsd : Wsd S) : Event S → Option (World × S × List TileDesc)
  | .tilecombine id combined world =>
      let viewId := (wsd.session id).canonicalViewId.1
      some (world, id, (combined.setNormalizedViewId viewId (wsd.viewId_nonneg id)).tiles)
  | .invalidatetiles id part invalidateRect world =>
      let tiles := invalidationTiles (wsd.session id) part invalidateRect
      if tiles = [] then none else some (world, id, tiles)
  | _ => none

/-- The call of `sendRequestedTiles` that an event makes. -/
def sendingCall (wsd : Wsd S) : Event S → Option (World × Wsd S × S)
  | .tileprocessed id tileID world =>
      some (world, wsd.modifySession id (·.tileProcessed tileID), id)
  | event =>
      (requestOf wsd event).map (fun (world, id, tiles) =>
        (world, accumulateTiles world wsd tiles id, id))

variable {viewIdOf : Text → Except Exception Text}

/-- A step with such a call ends with it, by cases on the events that have one. -/
theorem sendingCall_eq {system next : System S} {event : Event S} {world : World} {wsd : Wsd S}
    {id : S} (step : system.step upperLimit viewIdOf event = some next)
    (call : sendingCall system.wsd event = some (world, wsd, id))
    : next.wsd = wsd.sendRequestedTiles upperLimit world id := by
  cases event with
  | tileprocessed other tileID world' =>
      rw [System.step] at step
      obtain ⟨-, rfl⟩ := ofSession_eq step
      cases call
      rfl
  | tilecombine other combined world' =>
      rw [System.step] at step
      obtain ⟨-, rfl⟩ := ofSession_eq step
      cases call
      exact handleTileCombinedRequest_eq ..
  | invalidatetiles other part invalidateRect world' =>
      rw [System.step] at step
      obtain ⟨-, rfl⟩ := ofSession_eq step
      dsimp only
      rw [handleTileInvalidation_eq]
      simp only [sendingCall, requestOf] at call
      split at call
      · cases call
      · next some' =>
          cases call
          rw [if_neg some']
          exact handleTileCombinedRequest_eq ..
  | _ => cases call

end Requests

end NdcOdfWeb.Rendering
