import NdcOdfWeb.Foundation.EachStep
import NdcOdfWeb.Queue.OtherMessages
import NdcOdfWeb.Rendering.RequestSteps

/-! What a step of the system does to wsd. -/

namespace NdcOdfWeb.Rendering

open NdcOdfWeb.Foundation
open NdcOdfWeb.Protocol
open NdcOdfWeb.Tiles
open NdcOdfWeb.Queue

/-- A step that does not concern the tiles of the sessions. -/
structure QuietStep {S : Type} (before after : Wsd S) : Prop where
  sessions : after.sessions.Sublist before.sessions
  tilesBeingRendered : after.tilesBeingRendered = before.tilesBeingRendered
  tileVersion : after.tileVersion = before.tileVersion
  log : after.log = before.log
  traced : ∀ id, (after.session id).tilesBeingRendered = (before.session id).tilesBeingRendered
  requestedTiles : ∀ id, (after.session id).requestedTiles = (before.session id).requestedTiles
  /-- Of the wire ids, none are left or all. -/
  oldWireIds
    : ∀ id name wireId,
        (after.session id).oldWireIds name = some wireId
        → (before.session id).oldWireIds name = some wireId

/-- No change is a quiet one. -/
theorem QuietStep.refl {S : Type} (wsd : Wsd S) : QuietStep wsd wsd :=
  ⟨List.Sublist.refl _, rfl, rfl, rfl, fun _ => rfl, fun _ => rfl, fun _ _ _ found => found⟩

/-- The event is a request for tiles, or lets the session request those that it waits with. -/
def Event.asks {S : Type} : Event S → Bool
  | .tile _ _ _ | .tilecombine _ _ _ | .tileprocessed _ _ _ | .invalidatetiles _ _ _ _ => true
  | _ => false

/-- The wire ids in a client's request. -/
def Event.wireIds {S : Type} : Event S → List UInt32
  | .tile _ desc _ => [desc.wireId]
  | .tilecombine _ combined _ => combined.tiles.map (·.wireId)
  | _ => []

variable {S : Type} [LinearOrder S]

/-- The steps of the system, as far as wsd is concerned. -/
inductive StepKind (allowed : UInt32 → Prop) (system : System S) : Event S → System S → Prop
  | quiet {event next} (used : next.used = system.used) (step : QuietStep system.wsd next.wsd)
    : StepKind allowed system event next
  | added {canonicalViewId next} (id : S) (unused : id ∉ system.used)
    (used : next.used = id :: system.used)
    (sessions : next.wsd.sessions = system.wsd.sessions.orderedInsert (· ≤ ·) id)
    (session
      : next.wsd.session = Function.update system.wsd.session id (.new canonicalViewId))
    (same : next.wsd.tilesBeingRendered = system.wsd.tilesBeingRendered)
    (log : next.wsd.log = system.wsd.log)
    : StepKind allowed system (.addSession id canonicalViewId) next
  | requests {event next} (used : next.used = system.used)
    (steps : system.wsd.RequestsAllowed allowed → Wsd.RequestSteps allowed system.wsd next.wsd)
    (asks : event.asks = true)
    : StepKind allowed system event next
  | canceled {next} (id : S) (used : next.used = system.used)
    (present : id ∈ system.wsd.sessions) (cancels : next.wsd = system.wsd.cancelTileRequests id)
    : StepKind allowed system (.canceltiles id) next
  | answered {next} (now : Int) (response : KitResponse) (later : List KitResponse)
    (used : next.used = system.used) (waits : system.toWsd = response :: later)
    (saves : next.wsd = system.wsd.handleTileResponse now response.tiles)
    : StepKind allowed system (.answered now) next

/-- Only a session of the document takes the step. -/
theorem ofSession_eq {system next : System S} {id : S} {change : Wsd S → Wsd S}
    (step : system.ofSession id change = some next)
    : id ∈ system.wsd.sessions ∧ next = { system with wsd := change system.wsd } := by
  unfold System.ofSession at step
  split at step
  · next present => exact ⟨present, (Option.some.inj step).symm⟩
  · cases step

/-- A session changes something other than its tiles. -/
theorem quietStep_modifySession (wsd : Wsd S) (id : S) {change : TileSession → TileSession}
    (traced : ∀ session, (change session).tilesBeingRendered = session.tilesBeingRendered)
    (requested : ∀ session, (change session).requestedTiles = session.requestedTiles)
    (wireIds
      : ∀ session name wireId,
          (change session).oldWireIds name = some wireId
          → session.oldWireIds name = some wireId)
    : QuietStep wsd (wsd.modifySession id change) where
  sessions := List.Sublist.refl _
  tilesBeingRendered := rfl
  tileVersion := rfl
  log := rfl
  traced := by
    intro other
    rw [Wsd.modifySession_session]
    split
    · next same => rw [traced, same]
    · rfl
  requestedTiles := by
    intro other
    rw [Wsd.modifySession_session]
    split
    · next same => rw [requested, same]
    · rfl
  oldWireIds := by
    intro other name wireId found
    rw [Wsd.modifySession_session] at found
    split at found
    · next same =>
        rw [same]
        exact wireIds _ name wireId found
    · exact found

/-- The view's fields belong to no request. -/
theorem quiet_changeView {allowed : UInt32 → Prop} {system next : System S} {event : Event S}
    {id : S} {change : TileSession → TileSession}
    (step : system.changeView id change = some next)
    (traced : ∀ session, (change session).tilesBeingRendered = session.tilesBeingRendered)
    (requested : ∀ session, (change session).requestedTiles = session.requestedTiles)
    : StepKind allowed system event next := by
  obtain ⟨-, rfl⟩ := ofSession_eq step
  refine .quiet rfl ?_
  dsimp only
  apply quietStep_modifySession
  · exact fun session => traced session
  · exact fun session => requested session
  · exact fun session name wireId found => nomatch found

variable {upperLimit : Int32 → Nat} {viewIdOf : Text → Except Exception Text}

/-- The view id changes no wire id. -/
theorem setNormalizedViewId_wireIds {allowed : UInt32 → Prop} {combined : TileCombined}
    (ok : ∀ wireId ∈ combined.tiles.map (·.wireId), allowed wireId) (viewId : Int32)
    (nonneg : ¬ viewId < 0)
    : ∀ tile ∈ (combined.setNormalizedViewId viewId nonneg).tiles, allowed tile.wireId := by
  intro tile member
  obtain ⟨before, inside, rfl⟩ := List.mem_map.mp member
  exact ok before.wireId (List.mem_map_of_mem inside)

/-- By induction on the values read. -/
theorem mem_of_mapM {α β : Type} {read : α → Except Exception β} {values : List α}
    {results : List β} (done : values.mapM read = .ok results)
    : ∀ result ∈ results, ∃ value ∈ values, read value = .ok result := by
  induction values generalizing results with
  | nil =>
      cases done
      exact fun _ member => absurd member List.not_mem_nil
  | cons value values ih =>
      rw [List.mapM_cons] at done
      obtain ⟨first, here, done⟩ := bind_ok done
      obtain ⟨rest, later, done⟩ := bind_ok done
      cases done
      intro result member
      rcases List.mem_cons.mp member with rfl | inside
      · exact ⟨value, List.mem_cons_self, here⟩
      · obtain ⟨other, inValues, reads⟩ := ih later result inside
        exact ⟨other, List.mem_cons_of_mem value inValues, reads⟩

/-- The tiles that an invalidation requests: the old wire id is the one on record. -/
theorem invalidTiles_tile {session : TileSession} {part : Int32} {invalidateRect : Rectangle}
    {tiles : List TileDesc} (affected : Wsd.invalidTiles session part invalidateRect = .ok tiles)
    : ∀ tile ∈ tiles,
        tile.wireId = 0
        ∧ tile.oldWireId = (session.oldWireIds (generateTileID tile)).getD 0
        ∧ tile.header
          = ⟨session.canonicalViewId.1, part, session.tileWidthPixel, session.tileHeightPixel,
              session.tileWidthTwips, session.tileHeightTwips, -1⟩ := by
  intro tile member
  obtain ⟨position, -, read⟩ := mem_of_mapM affected tile member
  obtain ⟨made, makes, done⟩ := bind_ok read
  cases done
  exact ⟨rfl, rfl, (TileDesc.make_header makes).1⟩

/-- The tiles of an invalidation are combined as they are. -/
theorem create_invalidTiles {session : TileSession} {part : Int32} {invalidateRect : Rectangle}
    {first : TileDesc} {others : List TileDesc} {combined : TileCombined}
    (affected : Wsd.invalidTiles session part invalidateRect = .ok (first :: others))
    (created : TileCombined.create first others = .ok combined)
    : combined.tiles = (first :: others).map TileDesc.component := by
  have kind := invalidTiles_tile affected
  obtain ⟨result, made, -, tiles⟩ := @TileCombined.create_eq first others (by
    intro tile member
    have here := (kind tile (List.mem_cons_of_mem first member)).2.2
    have there := (kind first List.mem_cons_self).2.2
    exact congrArg (fun header : TileHeader => { header with id := -1 }) (here.trans there.symm))
  rw [created] at made
  cases made
  exact tiles

/-- The invalidated tiles have the wire id 0. -/
theorem handleTileInvalidation_steps {allowed : UInt32 → Prop} (zero : allowed 0)
    (world : World) {wsd : Wsd S} {id : S} (part : Int32) (invalidateRect : Rectangle)
    (present : id ∈ wsd.sessions) (ok : wsd.RequestsAllowed allowed)
    : Wsd.RequestSteps allowed wsd
        (wsd.handleTileInvalidation upperLimit world id part invalidateRect) := by
  unfold Wsd.handleTileInvalidation
  dsimp only
  split
  · exact .refl
  · split
    · exact .refl
    · generalize (if part = -1 then (wsd.session id).clientSelectedPart else part) = chosen
      split
      · split
        · next first others affected =>
            split
            · next combined created =>
                refine Wsd.handleTileCombinedRequest_steps upperLimit world present ok ?_
                apply setNormalizedViewId_wireIds
                rw [create_invalidTiles affected created, List.map_map]
                intro wireId member
                obtain ⟨tile, inside, rfl⟩ := List.mem_map.mp member
                have none' := (invalidTiles_tile affected tile inside).1
                change allowed tile.wireId
                rw [none']
                exact zero
            · exact .refl
        · exact .refl
      · exact .refl

/-- Each event is one of the kinds of step, by cases on the event. -/
theorem stepKind {allowed : UInt32 → Prop} (zero : allowed 0) {system next : System S}
    {event : Event S} (wireIds : ∀ wireId ∈ event.wireIds, allowed wireId)
    (step : system.step upperLimit viewIdOf event = some next)
    : StepKind allowed system event next := by
  cases event with
  | addSession id canonicalViewId =>
      rw [System.step] at step
      split at step
      · cases step
      · next unused =>
          cases step
          exact .added id unused rfl rfl rfl rfl rfl
  | removeSession id =>
      rw [System.step] at step
      obtain ⟨-, rfl⟩ := ofSession_eq step
      exact .quiet rfl
        ⟨List.erase_sublist, rfl, rfl, rfl, fun _ => rfl, fun _ => rfl, fun _ _ _ found => found⟩
  | setVisibleArea | setZoom | setPart =>
      rw [System.step] at step
      exact quiet_changeView step (fun _ => rfl) (fun _ => rfl)
  | setTextDocument id isTextDocument =>
      rw [System.step] at step
      obtain ⟨-, rfl⟩ := ofSession_eq step
      refine .quiet rfl ?_
      dsimp only
      apply quietStep_modifySession
      · exact fun _ => rfl
      · exact fun _ => rfl
      · exact fun _ _ _ found => found
  | tile id tile world =>
      rw [System.step] at step
      obtain ⟨present, rfl⟩ := ofSession_eq step
      exact .requests rfl (fun _ =>
        Wsd.handleTileRequest_steps world present (wireIds _ List.mem_cons_self)) rfl
  | tilecombine id combined world =>
      rw [System.step] at step
      obtain ⟨present, rfl⟩ := ofSession_eq step
      exact .requests rfl (fun ok =>
        Wsd.handleTileCombinedRequest_steps upperLimit world present ok
          (setNormalizedViewId_wireIds wireIds _ _)) rfl
  | tileprocessed id tileID world =>
      rw [System.step] at step
      obtain ⟨present, rfl⟩ := ofSession_eq step
      refine .requests rfl (fun ok => ?_) rfl
      have processed
          : Wsd.RequestStep allowed system.wsd
              (system.wsd.modifySession id (·.tileProcessed tileID)) :=
        .onFly id _
      exact .head processed
        (Wsd.sendRequestedTiles_steps upperLimit world present (processed.requestsAllowed ok))
  | canceltiles id =>
      rw [System.step] at step
      obtain ⟨present, rfl⟩ := ofSession_eq step
      exact .canceled id rfl present rfl
  | invalidatetiles id part invalidateRect world =>
      rw [System.step] at step
      obtain ⟨present, rfl⟩ := ofSession_eq step
      exact .requests rfl
        (handleTileInvalidation_steps zero world part invalidateRect present) rfl
  | written id =>
      rw [System.step] at step
      obtain ⟨-, rfl⟩ := ofSession_eq step
      refine .quiet rfl ?_
      dsimp only
      apply quietStep_modifySession
      · exact fun _ => rfl
      · exact fun _ => rfl
      · exact fun _ _ _ found => found
  | received =>
      rw [System.step] at step
      split at step
      · cases step
      · split at step <;> cases step <;> exact .quiet rfl ⟨List.Sublist.refl _, rfl, rfl, rfl,
          fun _ => rfl, fun _ => rfl, fun _ _ _ found => found⟩
  | other message =>
      rw [System.step] at step
      split at step
      · split at step <;> cases step <;> exact .quiet rfl (.refl _)
      · cases step
  | cursorUpdated | cursorRemoved =>
      cases step
      exact .quiet rfl (.refl _)
  | taken =>
      rw [System.step] at step
      split at step
      · cases step
        exact .quiet rfl (.refl _)
      · cases step
  | rendered canvas =>
      rw [System.step] at step
      split at step
      · cases step
      · cases step
        exact .quiet rfl (.refl _)
  | answered now =>
      rw [System.step] at step
      split at step
      · cases step
      · next response later waits =>
          cases step
          exact .answered now response later rfl waits rfl

/-- What `cancelTileRequests` does. -/
structure CancelRequestsSpec (before after : Wsd S) (id : S) : Prop where
  sessions : after.sessions = before.sessions
  log : after.log = .canceled id :: before.log
  uniqueNames : before.UniqueNames → after.UniqueNames
  subscribed
    : ∀ name other, other ≠ id → (after.Subscribed name other ↔ before.Subscribed name other)
  cleared
    : (after.session id).tilesBeingRendered = ∅
      ∧ (after.session id).requestedTiles = []
      ∧ (after.session id).oldWireIds = fun _ => none
  session : ∀ other, other ≠ id → after.session other = before.session other

/-- The session's subscriptions and requests go, nobody else's. -/
theorem cancelTileRequests_spec (wsd : Wsd S) (id : S)
    : CancelRequestsSpec wsd (wsd.cancelTileRequests id) id := by
  have cleared (change : TileSession → TileSession)
      (empty : ∀ session, (change session).tilesBeingRendered = ∅)
      (none' : ∀ session, (change session).requestedTiles = [])
      (reset : ∀ session, (change session).oldWireIds = fun _ => none)
      : CancelRequestsSpec wsd ((wsd.modifySession id change).cancelTiles id).2 id := by
    have canceled := Wsd.cancelTiles_spec (wsd.modifySession id change) id
    refine ⟨canceled.sessions, canceled.log, canceled.uniqueNames, canceled.subscribed, ?_, ?_⟩
    · rw [canceled.session, Wsd.modifySession_session, if_pos rfl]
      exact ⟨empty _, none' _, reset _⟩
    · intro other differs
      rw [canceled.session, Wsd.modifySession_session, if_neg differs]
  unfold Wsd.cancelTileRequests
  dsimp only
  have spec := cleared (fun session =>
    {
      session.resetWireIdMap with
      tilesOnFly := []
      requestedTiles := []
      tilesBeingRendered := ∅
    }) (fun _ => rfl) (fun _ => rfl) (fun _ => rfl)
  split
  · next wsd' canceled =>
      rw [canceled] at spec
      exact spec
  · next versions wsd' _ canceled =>
      rw [canceled] at spec
      exact ⟨spec.sessions, spec.log, spec.uniqueNames, spec.subscribed, spec.cleared,
        spec.session⟩

/-- By induction on the tiles of the answer. -/
theorem handleTileResponse_sessions {wsd : Wsd S} (unique : wsd.UniqueNames) (now : Int)
    (tiles : List TileDesc)
    : (wsd.handleTileResponse now tiles).UniqueNames
      ∧ (wsd.handleTileResponse now tiles).sessions = wsd.sessions := by
  have keeps (state : Wsd S) (tile : TileDesc)
      (both : state.UniqueNames ∧ state.sessions = wsd.sessions)
      : (state.saveTileAndNotify now tile).UniqueNames
        ∧ (state.saveTileAndNotify now tile).sessions = wsd.sessions := by
    have spec := Wsd.saveTileAndNotify_spec both.1 now tile
    exact ⟨spec.uniqueNames, spec.sessions.trans both.2⟩
  exact foldl_keeps keeps tiles ⟨unique, rfl⟩

/-- The sessions have identities that were used, and a tile has one entry. -/
structure WellFormed (system : System S) : Prop where
  sessions : ∀ id ∈ system.wsd.sessions, id ∈ system.used
  uniqueNames : system.wsd.UniqueNames

omit [LinearOrder S] in
/-- At first, there are no sessions. -/
theorem wellFormed_start : WellFormed (System.start : System S) :=
  ⟨fun _ member => absurd member List.not_mem_nil, List.nodup_nil⟩

/-- Only a subscription adds an entry, if it finds none of the name. -/
theorem RequestSteps.uniqueNames {allowed : UInt32 → Prop} {before after : Wsd S}
    (steps : Wsd.RequestSteps allowed before after) (unique : before.UniqueNames)
    : after.UniqueNames := by
  refine Wsd.RequestSteps.keep ?_ steps unique
  intro before after step unique
  cases step with
  | subscribe => exact (Wsd.subscribeToTileRendering_spec ..).uniqueNames unique
  | register => exact (Wsd.registerTileBeingRendered_spec ..).uniqueNames unique
  | enqueue => exact (Wsd.enqueueSendMessage_same ..).uniqueNames.mpr unique
  | request | onFly | version | send => exact unique

/-- By cases on the kind of the step. -/
theorem StepKind.wellFormed {system next : System S} {event : Event S}
    (kind : StepKind (fun _ => True) system event next) (wellFormed : WellFormed system)
    : WellFormed next := by
  cases kind with
  | quiet used step =>
      refine ⟨?_, ?_⟩
      · intro id member
        rw [used]
        exact wellFormed.sessions id (step.sessions.subset member)
      · rw [Wsd.UniqueNames, step.tilesBeingRendered]
        exact wellFormed.uniqueNames
  | added id unused used sessions session same log =>
      refine ⟨?_, ?_⟩
      · intro other member
        rw [used]
        rw [sessions] at member
        rcases List.mem_cons.mp ((List.perm_orderedInsert _ _ _).mem_iff.mp member) with
          rfl | old
        · exact List.mem_cons_self
        · exact List.mem_cons_of_mem id (wellFormed.sessions other old)
      · rw [Wsd.UniqueNames, same]
        exact wellFormed.uniqueNames
  | requests used steps =>
      have steps := steps (fun _ _ _ => trivial)
      refine ⟨?_, RequestSteps.uniqueNames steps wellFormed.uniqueNames⟩
      rw [Wsd.RequestSteps.sessions steps, used]
      exact wellFormed.sessions
  | canceled id used present cancels =>
      have spec := cancelTileRequests_spec system.wsd id
      rw [← cancels] at spec
      refine ⟨?_, spec.uniqueNames wellFormed.uniqueNames⟩
      rw [spec.sessions, used]
      exact wellFormed.sessions
  | answered now response later used waits saves =>
      obtain ⟨unique, sessions⟩ :=
        handleTileResponse_sessions wellFormed.uniqueNames now response.tiles
      rw [← saves] at unique sessions
      refine ⟨?_, unique⟩
      rw [sessions, used]
      exact wellFormed.sessions

end NdcOdfWeb.Rendering
