import Mathlib.Logic.Relation
import NdcOdfWeb.Rendering.Entries

/-! The handlers of requests as sequences of steps: what each step keeps, every handler keeps. -/

namespace NdcOdfWeb.Rendering

open NdcOdfWeb.Foundation
open NdcOdfWeb.Protocol
open NdcOdfWeb.Tiles

namespace Wsd

variable {S : Type} [DecidableEq S]

/-- A step of a handler of requests. The tiles that are sent from the cache, and those that a
session waits with, have allowed wire ids.
-/
inductive RequestStep (allowed : UInt32 → Prop) : Wsd S → Wsd S → Prop
  | subscribe {wsd} (now : Int) (tile : TileDesc) {id : S} (present : id ∈ wsd.sessions)
    : RequestStep allowed wsd (wsd.subscribeToTileRendering now tile id)
  | register {wsd} (now : Int) (tile : TileDesc)
    : RequestStep allowed wsd (wsd.registerTileBeingRendered now tile)
  | enqueue {wsd} (now : Int) {tile : TileDesc} {id : S} (present : id ∈ wsd.sessions)
    (ok : allowed tile.wireId)
    : RequestStep allowed wsd (wsd.enqueueSendMessage now id tile)
  | request {wsd} (id : S) {tiles : List TileDesc} (ok : ∀ tile ∈ tiles, allowed tile.wireId)
    : RequestStep allowed wsd (wsd.modifySession id ({ · with requestedTiles := tiles }))
  | onFly {wsd} (id : S) (tiles : List (Text × Int))
    : RequestStep allowed wsd (wsd.modifySession id ({ · with tilesOnFly := tiles }))
  | version {wsd} (tileVersion : Nat)
    : RequestStep allowed wsd { wsd with tileVersion := tileVersion }
  | send {wsd} (request : KitRequest) : RequestStep allowed wsd (wsd.send request)

/-- Some steps. -/
abbrev RequestSteps (allowed : UInt32 → Prop) : Wsd S → Wsd S → Prop :=
  Relation.ReflTransGen (RequestStep allowed)

variable {allowed : UInt32 → Prop}

/-- No step adds or removes a session. -/
theorem RequestStep.sessions {before after : Wsd S} (step : RequestStep allowed before after)
    : after.sessions = before.sessions := by
  cases step with
  | subscribe => exact (subscribeToTileRendering_spec ..).sessions
  | register => exact (registerTileBeingRendered_spec ..).sessions
  | enqueue => exact (enqueueSendMessage_same ..).sessions
  | request | onFly | version | send => rfl

/-- Steps keep what each of them keeps. -/
theorem RequestSteps.keep {holds : Wsd S → Prop}
    (keeps : ∀ before after, RequestStep allowed before after → holds before → holds after)
    {before after : Wsd S} (steps : RequestSteps allowed before after) (start : holds before)
    : holds after := by
  induction steps with
  | refl => exact start
  | tail _ last ih => exact keeps _ _ last ih

/-- By induction on the steps. -/
theorem RequestSteps.sessions {before after : Wsd S} (steps : RequestSteps allowed before after)
    : after.sessions = before.sessions :=
  steps.keep (fun _ _ step same => step.sessions.trans same) rfl

/-- A message to the kit, or no message for no tiles. -/
theorem sendCombined_steps (wsd : Wsd S) (tiles : List TileDesc)
    : RequestSteps allowed wsd (wsd.sendCombined tiles) := by
  unfold sendCombined
  split
  · exact .refl
  · split
    · exact .single (.send _)
    · exact .refl

/-- One subscription for each session, by induction on the sessions. -/
theorem subscribeAll_steps (now : Int) (tile : TileDesc) {wsd : Wsd S} {ids : List S}
    (present : ∀ id ∈ ids, id ∈ wsd.sessions)
    : RequestSteps allowed wsd
        (ids.foldl (fun wsd id => wsd.subscribeToTileRendering now tile id) wsd) := by
  induction ids generalizing wsd with
  | nil => exact .refl
  | cons id ids ih =>
      have step : RequestStep allowed wsd (wsd.subscribeToTileRendering now tile id) :=
        .subscribe now tile (present id List.mem_cons_self)
      refine .head step (ih ?_)
      intro other member
      rw [step.sessions]
      exact present other (List.mem_cons_of_mem id member)

/-- A version, then a subscription or an answer, and perhaps a message. -/
theorem handleTileRequest_steps (world : World) {wsd : Wsd S} {tile : TileDesc} {id : S}
    (present : id ∈ wsd.sessions) (ok : allowed tile.wireId)
    : RequestSteps allowed wsd (wsd.handleTileRequest world tile id) := by
  refine .head (.version (wsd.tileVersion + 1)) ?_
  unfold handleTileRequest nextVersion
  dsimp only
  split
  · exact .single (.enqueue world.now present ok)
  · refine .trans (subscribeAll_steps world.now _ ?_) (.single (.send _))
    intro other member
    split at member
    · exact member
    · rw [List.mem_singleton.mp member]
      exact present

/-- By induction on the tiles. -/
theorem registerTiles_steps (world : World) (wsd : Wsd S) {tiles : List TileDesc}
    (ok : ∀ tile ∈ tiles, allowed tile.wireId)
    : RequestSteps allowed wsd (wsd.registerTiles world tiles).2.2
      ∧ ∀ tile ∈ (wsd.registerTiles world tiles).1, allowed tile.wireId := by
  induction tiles generalizing wsd with
  | nil => exact ⟨.refl, fun _ member => absurd member List.not_mem_nil⟩
  | cons tile tiles ih =>
      have later : ∀ other ∈ tiles, allowed other.wireId :=
        fun other member => ok other (List.mem_cons_of_mem tile member)
      have first : allowed tile.wireId := ok tile List.mem_cons_self
      have counted : RequestStep allowed wsd { wsd with tileVersion := wsd.tileVersion + 1 } :=
        .version _
      unfold registerTiles nextVersion
      dsimp only
      split
      · obtain ⟨steps, allowed'⟩ := ih { wsd with tileVersion := wsd.tileVersion + 1 } later
        refine ⟨.head counted steps, ?_⟩
        intro other member
        rcases List.mem_cons.mp member with rfl | inside
        · exact first
        · exact allowed' other inside
      · obtain ⟨steps, allowed'⟩ :=
          ih
            (registerTileBeingRendered { wsd with tileVersion := wsd.tileVersion + 1 } world.now
              { tile with ver := versionOf (wsd.tileVersion + 1) })
            later
        refine ⟨.head counted (.head (.register _ _) steps), ?_⟩
        intro other member
        rcases List.mem_cons.mp member with rfl | inside
        · exact first
        · exact allowed' other inside

/-- The new tile's wire id is kept, or the old one's. -/
theorem addRequestedTile_allowed {requested : List TileDesc} {newTile : TileDesc}
    (ok : ∀ tile ∈ requested, allowed tile.wireId) (new : allowed newTile.wireId)
    : ∀ tile ∈ addRequestedTile requested newTile, allowed tile.wireId := by
  induction requested with
  | nil =>
      intro tile member
      rw [List.mem_singleton.mp member]
      exact new
  | cons old rest ih =>
      intro tile member
      have later : ∀ tile ∈ rest, allowed tile.wireId :=
        fun tile inside => ok tile (List.mem_cons_of_mem old inside)
      unfold addRequestedTile at member
      split at member
      · rcases List.mem_cons.mp member with rfl | inside
        · exact new
        · exact later tile inside
      · rcases List.mem_cons.mp member with rfl | inside
        · exact ok tile List.mem_cons_self
        · exact ih later tile inside

/-- By induction on the new tiles. -/
theorem addRequestedTiles_allowed {requested newTiles : List TileDesc}
    (ok : ∀ tile ∈ requested, allowed tile.wireId) (new : ∀ tile ∈ newTiles, allowed tile.wireId)
    : ∀ tile ∈ addRequestedTiles requested newTiles, allowed tile.wireId := by
  unfold addRequestedTiles
  split
  · exact new
  · induction newTiles generalizing requested with
    | nil => exact ok
    | cons first rest ih =>
        by_cases empty : addRequestedTile requested first = []
        · cases requested with
          | nil => cases empty
          | cons old others =>
              unfold addRequestedTile at empty
              split at empty <;> cases empty
        · exact ih (addRequestedTile_allowed ok (new first List.mem_cons_self))
            (fun tile member => new tile (List.mem_cons_of_mem first member)) empty

/-- The time-out of subscriptions never drops one: no time is negative and above the limit. -/
theorem removeOutdatedTileSubscriptions_eq (now : Int) (wsd : Wsd S) (id : S)
    : wsd.removeOutdatedTileSubscriptions now id = wsd := by
  have never (elapsed : Int) : ¬ (elapsed < 0 ∧ elapsed > 200) := by omega
  simp [removeOutdatedTileSubscriptions, modifySession, never]

/-- By induction on the tiles: one is answered, delayed or registered. -/
theorem sendLoop_steps (world : World) (limit : Nat) {id : S} {wsd : Wsd S}
    (needsRendering : List TileDesc) {delayed tiles : List TileDesc}
    (present : id ∈ wsd.sessions) (delayedOk : ∀ tile ∈ delayed, allowed tile.wireId)
    (ok : ∀ tile ∈ tiles, allowed tile.wireId)
    : RequestSteps allowed wsd (sendLoop world limit id wsd needsRendering delayed tiles).wsd
      ∧ ∀ tile ∈ (sendLoop world limit id wsd needsRendering delayed tiles).requestedTiles,
          allowed tile.wireId := by
  induction tiles generalizing wsd needsRendering delayed with
  | nil => exact ⟨.refl, delayedOk⟩
  | cons tile tiles ih =>
      have later : ∀ other ∈ tiles, allowed other.wireId :=
        fun other member => ok other (List.mem_cons_of_mem tile member)
      have first : allowed tile.wireId := ok tile List.mem_cons_self
      unfold sendLoop
      dsimp only
      split
      · refine ⟨.refl, ?_⟩
        intro other member
        rcases List.mem_append.mp member with inside | inside
        · exact ok other inside
        · exact delayedOk other inside
      · split
        · refine ih needsRendering present ?_ later
          intro other member
          rcases List.mem_append.mp member with inside | inside
          · exact delayedOk other inside
          · rw [List.mem_singleton.mp inside]
            exact first
        · split
          · have step
                : RequestStep allowed wsd (wsd.enqueueSendMessage world.now id tile.withReadId) :=
              .enqueue world.now present first
            obtain ⟨steps, left⟩ := ih needsRendering (step.sessions ▸ present) delayedOk later
            exact ⟨.head step steps, left⟩
          · split
            · have counted
                  : RequestStep allowed wsd { wsd with tileVersion := wsd.tileVersion + 1 } :=
                .version _
              have step
                  : RequestStep allowed { wsd with tileVersion := wsd.tileVersion + 1 }
                      (wsd.nextVersion tile |>.2.subscribeToTileRendering world.now
                        (wsd.nextVersion tile).1 id) :=
                .subscribe world.now (wsd.nextVersion tile).1 present
              obtain ⟨steps, left⟩ :=
                ih (needsRendering ++ [(wsd.nextVersion tile).1]) (step.sessions ▸ present)
                  delayedOk later
              exact ⟨.head counted (.head step steps), left⟩
            · have step
                  : RequestStep allowed wsd (wsd.subscribeToTileRendering world.now tile id) :=
                .subscribe world.now tile present
              obtain ⟨steps, left⟩ := ih needsRendering (step.sessions ▸ present) delayedOk later
              exact ⟨.head step steps, left⟩

/-- The tiles that the sessions wait with have allowed wire ids. -/
def RequestsAllowed (allowed : UInt32 → Prop) (wsd : Wsd S) : Prop :=
  ∀ id, ∀ tile ∈ (wsd.session id).requestedTiles, allowed tile.wireId

/-- Only a step that sets the list changes it, to an allowed one. -/
theorem RequestStep.requestsAllowed {before after : Wsd S}
    (step : RequestStep allowed before after) (ok : RequestsAllowed allowed before)
    : RequestsAllowed allowed after := by
  cases step with
  | @subscribe now tile id present =>
      intro other desc member
      rcases (subscribeToTileRendering_spec before now tile id).session other with
        same | ⟨-, same⟩ <;> rw [same] at member
      · exact ok other desc member
      · exact ok other desc member
  | register now tile =>
      rw [RequestsAllowed, (registerTileBeingRendered_spec before now tile).session]
      exact ok
  | enqueue =>
      intro other desc member
      rw [enqueueSendMessage_eq, note_session, modifySession_session] at member
      split at member
      · next same =>
          subst same
          split at member
          · exact ok other desc member
          · exact ok other desc member
      · exact ok other desc member
  | request id new =>
      intro other desc member
      rw [modifySession_session] at member
      split at member
      · exact new desc member
      · exact ok other desc member
  | onFly id =>
      intro other desc member
      rw [modifySession_session] at member
      split at member
      · next same =>
          subst same
          exact ok other desc member
      · exact ok other desc member
  | version | send => exact ok

/-- By induction on the steps. -/
theorem RequestSteps.requestsAllowed {before after : Wsd S}
    (steps : RequestSteps allowed before after) (ok : RequestsAllowed allowed before)
    : RequestsAllowed allowed after :=
  steps.keep (fun _ _ step => step.requestsAllowed) ok

/-- The old subscriptions go, the loop runs, and the tiles are sent. -/
theorem sendRequestedTiles_steps (upperLimit : Int32 → Nat) (world : World) {wsd : Wsd S}
    {id : S} (present : id ∈ wsd.sessions) (ok : RequestsAllowed allowed wsd)
    : RequestSteps allowed wsd (wsd.sendRequestedTiles upperLimit world id) := by
  unfold sendRequestedTiles
  dsimp only
  rw [removeOutdatedTileSubscriptions_eq]
  have dropped
      : RequestStep allowed wsd
          (wsd.modifySession id (·.removeOutdatedTilesOnFly world.now)) :=
    .onFly id _
  have there : id ∈ (wsd.modifySession id (·.removeOutdatedTilesOnFly world.now)).sessions :=
    present
  obtain ⟨steps, left⟩ :=
    sendLoop_steps world (tilesOnFlyUpperLimit upperLimit (wsd.session id)) [] there
      (fun _ member => absurd member List.not_mem_nil)
      (dropped.requestsAllowed ok id)
  exact (Relation.ReflTransGen.head dropped steps).trans
    (.head (.request id left) (sendCombined_steps _ _))

/-- The tiles are registered, added to the list, and sent. -/
theorem handleTileCombinedRequest_steps (upperLimit : Int32 → Nat) (world : World)
    {wsd : Wsd S} {tiles : List TileDesc} {id : S} (present : id ∈ wsd.sessions)
    (ok : RequestsAllowed allowed wsd) (new : ∀ tile ∈ tiles, allowed tile.wireId)
    : RequestSteps allowed wsd (wsd.handleTileCombinedRequest upperLimit world tiles id) := by
  obtain ⟨registered, versioned⟩ := registerTiles_steps world wsd new
  unfold handleTileCombinedRequest
  dsimp only
  have sent : RequestSteps allowed wsd _ := registered.trans
    (sendCombined_steps (wsd.registerTiles world tiles).2.2 (wsd.registerTiles world tiles).2.1)
  have accumulated : RequestSteps allowed wsd _ := sent.tail
    (.request id (addRequestedTiles_allowed (sent.requestsAllowed ok id) versioned))
  exact accumulated.trans
    (sendRequestedTiles_steps upperLimit world (accumulated.sessions ▸ present)
      (accumulated.requestsAllowed ok))

end Wsd

end NdcOdfWeb.Rendering
