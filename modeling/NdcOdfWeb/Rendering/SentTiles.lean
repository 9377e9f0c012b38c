import NdcOdfWeb.Foundation.OpenItems
import NdcOdfWeb.Queue.QueuedTiles
import NdcOdfWeb.Rendering.UniformRequests

/-! The entries that the handlers of requests open, and the tiles that they send to the kit: a
new or newer entry comes with a request that ends it.
-/

namespace NdcOdfWeb.Rendering

open NdcOdfWeb.Foundation
open NdcOdfWeb.Protocol
open NdcOdfWeb.Tiles
open NdcOdfWeb.Queue
open Wsd

variable {S : Type}

/-- A rendering of the tile ends the entry. -/
def Closes (tile : TileDesc) (entry : TileBeingRendered S) : Prop :=
  cacheFileName tile = entry.cachedName ∧ entry.tile.ver ≤ tile.ver

/-- The entry waits for no later version than it did before. -/
def Eases (before after : TileBeingRendered S) : Prop :=
  before.cachedName = after.cachedName ∧ after.tile.ver ≤ before.tile.ver

/-- What closes an entry also closes it when its version is lowered. -/
theorem easing : Easing (@Closes S) Eases where
  refl _ := ⟨rfl, Int32.le_refl _⟩
  trans first second := ⟨first.1.trans second.1, Int32.le_trans second.2 first.2⟩
  closes closes eases := ⟨closes.1.trans eases.1, Int32.le_trans eases.2 closes.2⟩

/-- A tile that covers another one closes its entry. -/
theorem Closes.of_covers {tile requested : TileDesc} {entry : TileBeingRendered S}
    (closes : Closes requested entry) (covers : Covers tile requested)
    : Closes tile entry :=
  ⟨(cacheFileName_eq_iff.mpr covers.1).trans closes.1, Int32.le_trans closes.2 covers.2⟩

/-- The tiles that a message asks the kit for. -/
def KitRequest.tiles : KitRequest → List TileDesc
  | .tile desc => [desc.component]
  | .tilecombine combined => combined.tiles.map TileDesc.component
  | .canceltiles _ => []

/-- The requested tiles that are on their way to the kit. -/
def tilesToKit (wsd : Wsd S) : List TileDesc :=
  wsd.toKit.flatMap KitRequest.tiles

-----------------------------------------------------------------------------------------
-- Versions
-----------------------------------------------------------------------------------------

/-- The tiles have got ascending versions between the two, if these fit. -/
structure Numbered (first last : Nat) (tiles : List TileDesc) : Prop where
  le : first ≤ last
  between
    : last < 2 ^ 31
      → ∀ tile ∈ tiles, versionOf first ≤ tile.ver ∧ tile.ver ≤ versionOf last
  ascending : last < 2 ^ 31 → tiles.Pairwise (fun earlier later => earlier.ver ≤ later.ver)

/-- No tile was numbered. -/
theorem Numbered.nil {first last : Nat} (le : first ≤ last) : Numbered first last [] :=
  ⟨le, fun _ _ member => absurd member List.not_mem_nil, fun _ => .nil⟩

/-- A tile with the next version. -/
theorem Numbered.next (version : Nat) (tile : TileDesc)
    : Numbered version (version + 1) [{ tile with ver := versionOf (version + 1) }] := by
  refine ⟨Nat.le_succ _, ?_, fun _ => List.pairwise_singleton ..⟩
  intro fits other member
  rw [List.mem_singleton.mp member]
  exact ⟨versionOf_le (Nat.le_succ _) fits, Int32.le_refl _⟩

/-- Later tiles have later versions. -/
theorem Numbered.append {first middle last : Nat} {tiles more : List TileDesc}
    (numbered : Numbered first middle tiles) (later : Numbered middle last more)
    : Numbered first last (tiles ++ more) := by
  refine ⟨numbered.le.trans later.le, ?_, ?_⟩
  · intro fits tile member
    have fits' := Nat.lt_of_le_of_lt later.le fits
    rcases List.mem_append.mp member with old | new
    · obtain ⟨above, below⟩ := numbered.between fits' tile old
      exact ⟨above, Int32.le_trans below (versionOf_le later.le fits)⟩
    · obtain ⟨above, below⟩ := later.between fits tile new
      exact ⟨Int32.le_trans (versionOf_le numbered.le fits') above, below⟩
  · intro fits
    have fits' := Nat.lt_of_le_of_lt later.le fits
    refine List.pairwise_append.mpr ⟨numbered.ascending fits', later.ascending fits, ?_⟩
    intro old isOld new isNew
    exact Int32.le_trans (numbered.between fits' old isOld).2 (later.between fits new isNew).1

/-- Only the versions count. -/
theorem Numbered.components {first last : Nat} {tiles : List TileDesc}
    (numbered : Numbered first last tiles)
    : Numbered first last (tiles.map TileDesc.component) := by
  refine ⟨numbered.le, ?_, fun fits => (List.pairwise_map).mpr (numbered.ascending fits)⟩
  intro fits tile member
  obtain ⟨before, inside, rfl⟩ := List.mem_map.mp member
  exact numbered.between fits before inside

-----------------------------------------------------------------------------------------
-- Opening entries
-----------------------------------------------------------------------------------------

/-- The entries of `after` are easier than those of `before`, or one of the tiles ends them. -/
abbrev OpenedFor (before after : Wsd S) (tiles : List TileDesc) : Prop :=
  OpenedWith Closes Eases before.tilesBeingRendered after.tilesBeingRendered tiles

/-- A part of a handler, with the tiles that the kit is still to be asked for. -/
structure Opens (before after : Wsd S) (tiles : List TileDesc) : Prop where
  opened : OpenedFor before after tiles
  toKit : after.toKit = before.toKit
  numbered : Numbered before.tileVersion after.tileVersion tiles

/-- A handler, with the tiles that it has asked the kit for. -/
structure Sends (before after : Wsd S) (tiles : List TileDesc) : Prop where
  opened : OpenedFor before after tiles
  sent : tilesToKit after = tilesToKit before ++ tiles
  numbered : Numbered before.tileVersion after.tileVersion tiles

/-- A change of other things. -/
theorem opens_of_same {before after : Wsd S}
    (entries : after.tilesBeingRendered = before.tilesBeingRendered)
    (toKit : after.toKit = before.toKit) (tileVersion : after.tileVersion = before.tileVersion)
    : Opens before after [] := by
  refine ⟨?_, toKit, .nil tileVersion.ge⟩
  rw [OpenedFor, entries]
  exact .refl easing _

/-- Two steps, one after the other: the tiles of both are opened. -/
theorem Opens.trans {before middle after : Wsd S} {tiles more : List TileDesc}
    (first : Opens before middle tiles) (second : Opens middle after more)
    : Opens before after (tiles ++ more) :=
  ⟨first.opened.trans easing second.opened, second.toKit.trans first.toKit,
    first.numbered.append second.numbered⟩

/-- Two steps, one after the other: the tiles of both are sent. -/
theorem Sends.trans {before middle after : Wsd S} {tiles more : List TileDesc}
    (first : Sends before middle tiles) (second : Sends middle after more)
    : Sends before after (tiles ++ more) := by
  refine ⟨first.opened.trans easing second.opened, ?_, first.numbered.append second.numbered⟩
  rw [second.sent, first.sent, List.append_assoc]

/-- Where there is nothing to ask for. -/
theorem Opens.sends {before after : Wsd S} (opens : Opens before after [])
    : Sends before after [] := by
  refine ⟨opens.opened, ?_, opens.numbered⟩
  rw [tilesToKit, opens.toKit, List.append_nil, tilesToKit]

/-- A version number is used up. -/
theorem opens_nextVersion (wsd : Wsd S) (tile : TileDesc)
    : Opens wsd (wsd.nextVersion tile).2 [] :=
  ⟨.refl easing _, rfl, .nil (Nat.le_succ _)⟩

/-- A step that changes none of what counts. -/
theorem sends_of_same {before after : Wsd S}
    (entries : after.tilesBeingRendered = before.tilesBeingRendered)
    (toKit : after.toKit = before.toKit) (tileVersion : after.tileVersion = before.tileVersion)
    : Sends before after [] :=
  (opens_of_same entries toKit tileVersion).sends

/-- A tile gets a version, and is subscribed to or registered. -/
theorem opens_of_openedFor {before after : Wsd S} {tile : TileDesc}
    (opened
      : OpenedFor before after [(before.nextVersion tile).1]
        ∧ after.toKit = before.toKit
        ∧ after.tileVersion = (before.nextVersion tile).2.tileVersion)
    : Opens before after [(before.nextVersion tile).1] := by
  refine ⟨opened.1, opened.2.1, ?_⟩
  rw [opened.2.2]
  exact .next before.tileVersion tile

/-- Tiles close what their components close. -/
theorem OpenedWith.components {before after : Wsd S} {tiles : List TileDesc}
    (opened : OpenedFor before after tiles)
    : OpenedFor before after (tiles.map TileDesc.component) := by
  intro entry member
  rcases opened entry member with old | ⟨tile, inside, closes⟩
  · exact .inl old
  · exact .inr ⟨tile.component, List.mem_map_of_mem inside, closes⟩

/-- A request for one tile. -/
theorem Opens.send_tile {before after : Wsd S} {tile : TileDesc}
    (opens : Opens before after [tile])
    : Sends before (after.send (.tile tile)) [tile.component] := by
  refine ⟨OpenedWith.components opens.opened, ?_, opens.numbered.components⟩
  rw [tilesToKit, send, opens.toKit, List.flatMap_append, tilesToKit]
  rfl

/-- A request for tiles of one kind asks for all of them. -/
theorem Opens.sendCombined {before after : Wsd S} {tiles : List TileDesc}
    (opens : Opens before after tiles) (uniform : Uniform tiles)
    : Sends before (after.sendCombined tiles) (tiles.map TileDesc.component) := by
  cases tiles with
  | nil => exact opens.sends
  | cons first others =>
      obtain ⟨combined, created, -, components⟩ := @TileCombined.create_eq first others
        (fun tile member =>
          uniform tile (List.mem_cons_of_mem first member) first List.mem_cons_self)
      have sends
          : after.sendCombined (first :: others) = after.send (.tilecombine combined) := by
        unfold Wsd.sendCombined
        dsimp only
        rw [created]
      rw [sends]
      refine ⟨OpenedWith.components opens.opened, ?_, opens.numbered.components⟩
      rw [tilesToKit, send, opens.toKit, List.flatMap_append, tilesToKit, List.flatMap_singleton,
        KitRequest.tiles, components, List.map_map]
      rfl

-----------------------------------------------------------------------------------------
-- The operations of the cache
-----------------------------------------------------------------------------------------

/-- An entry that gets the version of a tile is ended by this tile. -/
theorem openedFor_setVersion (wsd : Wsd S) (tile : TileDesc)
    : OpenedFor wsd (wsd.modifyEntry (cacheFileName tile) (·.setVersion tile.ver)) [tile] := by
  intro entry member
  obtain ⟨before, inside, rfl⟩ := mem_modifyEntry.mp member
  by_cases same : before.cachedName = cacheFileName tile
  · rw [if_pos same]
    exact .inr ⟨tile, List.mem_cons_self, same.symm, Int32.le_refl _⟩
  · rw [if_neg same]
    exact .inl ⟨before, inside, easing.refl before⟩

/-- A further subscriber does not matter. -/
theorem openedFor_addSubscriber (wsd : Wsd S) (cacheName : Text) (id : S)
    : OpenedFor wsd (wsd.modifyEntry cacheName (·.addSubscriber id)) [] := by
  intro entry member
  obtain ⟨before, inside, rfl⟩ := mem_modifyEntry.mp member
  refine .inl ⟨before, inside, ?_⟩
  split <;> exact easing.refl before

/-- A new entry is ended by its tile. -/
theorem openedFor_insertEntry (wsd : Wsd S) (now : Int) (tile : TileDesc) (subscribers : List S)
    : OpenedFor wsd (wsd.insertEntry now tile subscribers) [tile] := by
  intro entry member
  rcases List.mem_cons.mp ((wsd.insertEntry_perm now tile subscribers).mem_iff.mp member) with
    rfl | old
  · exact .inr ⟨tile, List.mem_cons_self, rfl, Int32.le_refl _⟩
  · exact .inl ⟨entry, old, easing.refl entry⟩

/-- A registration opens an entry for its tile or uses the one that is there. -/
theorem openedFor_registerTileBeingRendered (wsd : Wsd S) (now : Int) (tile : TileDesc)
    : OpenedFor wsd (wsd.registerTileBeingRendered now tile) [tile]
      ∧ (wsd.registerTileBeingRendered now tile).toKit = wsd.toKit
      ∧ (wsd.registerTileBeingRendered now tile).tileVersion = wsd.tileVersion := by
  unfold registerTileBeingRendered
  split
  · split
    · exact ⟨openedFor_setVersion wsd tile, rfl, rfl⟩
    · exact ⟨(OpenedWith.refl easing _).mono (List.nil_subset _), rfl, rfl⟩
  · exact ⟨openedFor_insertEntry wsd now tile [], rfl, rfl⟩

variable [DecidableEq S]

/-- The trace changes none of what counts. -/
theorem traceSubscription_keeps (wsd : Wsd S) (tile : TileDesc) (id : S)
    : (wsd.traceSubscription tile id).tilesBeingRendered = wsd.tilesBeingRendered
      ∧ (wsd.traceSubscription tile id).toKit = wsd.toKit
      ∧ (wsd.traceSubscription tile id).tileVersion = wsd.tileVersion := by
  rw [traceSubscription_eq]
  exact ⟨rfl, rfl, rfl⟩

/-- A subscription opens an entry for its tile or uses the one that is there. -/
theorem openedFor_subscribeToTileRendering (wsd : Wsd S) (now : Int) (tile : TileDesc) (id : S)
    : OpenedFor wsd (wsd.subscribeToTileRendering now tile id) [tile]
      ∧ (wsd.subscribeToTileRendering now tile id).toKit = wsd.toKit
      ∧ (wsd.subscribeToTileRendering now tile id).tileVersion = wsd.tileVersion := by
  unfold subscribeToTileRendering
  dsimp only
  split
  · split
    · exact ⟨openedFor_setVersion wsd tile, rfl, rfl⟩
    · -- the entry gets a subscriber, and perhaps the version
      have pushed := openedFor_addSubscriber wsd (cacheFileName tile) id
      obtain ⟨entries, toKit, tileVersion⟩ := traceSubscription_keeps
        ((wsd.note (.subscribed (cacheFileName tile) id tile.ver)).modifyEntry
          (cacheFileName tile) (·.addSubscriber id)) tile id
      have traced
          : OpenedFor wsd
              (((wsd.note (.subscribed (cacheFileName tile) id tile.ver)).modifyEntry
                (cacheFileName tile) (·.addSubscriber id)).traceSubscription tile id) [] := by
        rw [OpenedFor, entries]
        exact pushed
      split
      · exact ⟨traced.trans easing (openedFor_setVersion _ tile), toKit, tileVersion⟩
      · exact ⟨traced.mono (List.nil_subset _), toKit, tileVersion⟩
  · obtain ⟨entries, toKit, tileVersion⟩ := traceSubscription_keeps
      ((wsd.note (.subscribed (cacheFileName tile) id tile.ver)).insertEntry now tile [id]) tile
      id
    refine ⟨?_, toKit, tileVersion⟩
    rw [OpenedFor, entries]
    exact openedFor_insertEntry wsd now tile [id]

-----------------------------------------------------------------------------------------
-- The handlers
-----------------------------------------------------------------------------------------

/-- Sending a tile to a client opens nothing. -/
theorem opens_enqueueSendMessage (now : Int) (wsd : Wsd S) (id : S) (tile : TileDesc)
    : Opens wsd (wsd.enqueueSendMessage now id tile) [] := by
  rw [enqueueSendMessage_eq]
  exact opens_of_same rfl rfl rfl

/-- Several sessions subscribe to one tile, by induction on them. -/
theorem openedFor_subscribeAll (now : Int) (tile : TileDesc) (wsd : Wsd S) (ids : List S)
    : OpenedFor wsd (ids.foldl (fun wsd id => wsd.subscribeToTileRendering now tile id) wsd) [tile]
      ∧ (ids.foldl (fun wsd id => wsd.subscribeToTileRendering now tile id) wsd).toKit = wsd.toKit
      ∧ (ids.foldl (fun wsd id => wsd.subscribeToTileRendering now tile id) wsd).tileVersion
        = wsd.tileVersion := by
  induction ids generalizing wsd with
  | nil => exact ⟨(OpenedWith.refl easing _).mono (List.nil_subset _), rfl, rfl⟩
  | cons id ids ih =>
      obtain ⟨first, toKit, tileVersion⟩ := openedFor_subscribeToTileRendering wsd now tile id
      obtain ⟨later, toKit', tileVersion'⟩ := ih (wsd.subscribeToTileRendering now tile id)
      refine ⟨(first.trans easing later).mono ?_, toKit'.trans toKit,
        tileVersion'.trans tileVersion⟩
      simp

/-- A direct request sends its tile to the kit unless it is answered from the cache. -/
theorem sends_handleTileRequest (world : World) (wsd : Wsd S) (tile : TileDesc) (id : S)
    : ∃ tiles, Sends wsd (wsd.handleTileRequest world tile id) tiles := by
  unfold handleTileRequest
  dsimp only
  split
  · have opens := (opens_nextVersion wsd tile).trans
      (opens_enqueueSendMessage world.now (wsd.nextVersion tile).2 id
        (wsd.nextVersion tile).1.withReadId)
    exact ⟨[], opens.sends⟩
  · exact ⟨_, (opens_of_openedFor (openedFor_subscribeAll ..)).send_tile⟩

omit [DecidableEq S] in
/-- The tiles of a combined request, by induction on them. -/
theorem opens_registerTiles (world : World) (wsd : Wsd S) (tiles : List TileDesc)
    : Opens wsd (wsd.registerTiles world tiles).2.2 (wsd.registerTiles world tiles).2.1 := by
  induction tiles generalizing wsd with
  | nil => exact ⟨.refl easing _, rfl, .nil (Nat.le_refl _)⟩
  | cons tile tiles ih =>
      unfold registerTiles
      dsimp only
      split
      · exact (opens_nextVersion wsd tile).trans (ih _)
      · exact (opens_of_openedFor
          (openedFor_registerTileBeingRendered (wsd.nextVersion tile).2 world.now
            (wsd.nextVersion tile).1)).trans (ih _)

omit [DecidableEq S] in
/-- The tiles that need rendering are among those that get versions. -/
theorem registerTiles_needsRendering (world : World) (wsd : Wsd S) (tiles : List TileDesc)
    : (wsd.registerTiles world tiles).2.1 ⊆ (wsd.registerTiles world tiles).1 := by
  induction tiles generalizing wsd with
  | nil => exact List.Subset.refl _
  | cons tile tiles ih =>
      unfold registerTiles
      dsimp only
      split
      · exact List.subset_cons_of_subset _ (ih _)
      · exact List.cons_subset_cons _ (ih _)

/-- The first part of a combined request. -/
theorem sends_accumulateTiles (world : World) (wsd : Wsd S) {tiles : List TileDesc} (id : S)
    (uniform : Uniform tiles)
    : ∃ sent, Sends wsd (accumulateTiles world wsd tiles id) sent := by
  have needed : Uniform (wsd.registerTiles world tiles).2.1 := by
    apply Uniform.subset _ (registerTiles_needsRendering world wsd tiles)
    rw [registerTiles_fst]
    exact uniform_versionedTiles uniform
  have sends := (opens_registerTiles world wsd tiles).sendCombined needed
  exact ⟨_, sends.opened, sends.sent, sends.numbered⟩

/-- A tile in progress, in the wanted version, is only subscribed to. -/
theorem openedFor_inProgress (wsd : Wsd S) (now : Int) (tile : TileDesc) (id : S)
    (present : wsd.hasTileBeingRendered tile = true)
    (current : ¬ wsd.getTileBeingRenderedVersion tile < tile.ver)
    : OpenedFor wsd (wsd.subscribeToTileRendering now tile id) [] := by
  obtain ⟨old, found⟩ := Option.isSome_iff_exists.mp present
  obtain ⟨member, named⟩ := find_mem found
  have newer : tile.ver ≤ old.tile.ver := by
    rw [getTileBeingRenderedVersion, found] at current
    exact Int32.not_lt.mp current
  intro entry inside
  rcases (openedFor_subscribeToTileRendering wsd now tile id).1 entry inside with
    before | ⟨job, isTile, closes⟩
  · exact .inl before
  · rw [List.mem_singleton.mp isTile] at closes
    exact .inl ⟨old, member, named.trans closes.1, Int32.le_trans closes.2 newer⟩

/-- The loop of `sendRequestedTiles`, by induction on the tiles that are left. -/
theorem opens_sendLoop (world : World) (limit : Nat) (id : S) (wsd : Wsd S)
    (needsRendering delayed tiles : List TileDesc)
    : ∃ more,
        (sendLoop world limit id wsd needsRendering delayed tiles).needsRendering
          = needsRendering ++ more
        ∧ Opens wsd (sendLoop world limit id wsd needsRendering delayed tiles).wsd more := by
  induction tiles generalizing wsd needsRendering delayed with
  | nil => exact ⟨[], (List.append_nil _).symm, opens_of_same rfl rfl rfl⟩
  | cons tile tiles ih =>
      unfold sendLoop
      dsimp only
      split
      · exact ⟨[], (List.append_nil _).symm, opens_of_same rfl rfl rfl⟩
      · split
        · exact ih wsd needsRendering _
        · split
          · obtain ⟨more, needs, opens⟩ :=
              ih (wsd.enqueueSendMessage world.now id tile.withReadId) needsRendering delayed
            exact ⟨more, needs, (opens_enqueueSendMessage ..).trans opens⟩
          · split
            · obtain ⟨more, needs, opens⟩ :=
                ih
                  ((wsd.nextVersion tile).2.subscribeToTileRendering world.now
                    (wsd.nextVersion tile).1 id)
                  (needsRendering ++ [(wsd.nextVersion tile).1]) delayed
              refine ⟨(wsd.nextVersion tile).1 :: more, ?_, ?_⟩
              · rw [needs, List.append_assoc]
                rfl
              · exact (opens_of_openedFor
                  (openedFor_subscribeToTileRendering (wsd.nextVersion tile).2 world.now
                    (wsd.nextVersion tile).1 id)).trans opens
            · next progress =>
                simp only [Bool.or_eq_true, Bool.not_eq_true', decide_eq_true_eq, not_or,
                  Bool.not_eq_false] at progress
                obtain ⟨more, needs, opens⟩ :=
                  ih (wsd.subscribeToTileRendering world.now tile id) needsRendering delayed
                obtain ⟨-, toKit, tileVersion⟩ :=
                  openedFor_subscribeToTileRendering wsd world.now tile id
                have subscribed : Opens wsd (wsd.subscribeToTileRendering world.now tile id) [] :=
                  ⟨openedFor_inProgress wsd world.now tile id progress.1 progress.2, toKit,
                    .nil tileVersion.ge⟩
                exact ⟨more, needs, subscribed.trans opens⟩

/-- What the loop has opened is sent in one combined request, since the tiles agree in their
headers.
-/
theorem sends_sendRequestedTiles (upperLimit : Int32 → Nat) (world : World) {wsd : Wsd S}
    {id : S} (uniform : Uniform (wsd.session id).requestedTiles)
    : ∃ sent, Sends wsd (wsd.sendRequestedTiles upperLimit world id) sent := by
  have needed := uniform_needsRendering upperLimit world uniform
  rw [sendRequestedTiles_eq]
  unfold sendingOf at needed ⊢
  dsimp only at needed ⊢
  rw [removeOutdatedTileSubscriptions_eq] at needed ⊢
  obtain ⟨more, needs, opens⟩ :=
    opens_sendLoop world (tilesOnFlyUpperLimit upperLimit (wsd.session id)) id
      (wsd.modifySession id (·.removeOutdatedTilesOnFly world.now)) [] []
      ((wsd.modifySession id (·.removeOutdatedTilesOnFly world.now)).session id).requestedTiles
  rw [List.nil_append] at needs
  rw [needs] at needed ⊢
  exact ⟨_, Opens.sendCombined ⟨opens.opened, opens.toKit, opens.numbered⟩ needed⟩

/-- The entries that are left when a session cancels its tiles wait for what they waited for. -/
theorem cancelEntry_eases {id : S} {entry left : TileBeingRendered S}
    (kept : cancelEntry id entry = some left)
    : Eases entry left := by
  unfold cancelEntry at kept
  split at kept
  · cases kept
    exact easing.refl _
  · dsimp only at kept
    split at kept
    · cases kept
    · cases kept
      exact ⟨rfl, Int32.le_refl _⟩

/-- A cancellation removes entries at most. -/
theorem sends_cancelTileRequests (wsd : Wsd S) (id : S)
    : Sends wsd (wsd.cancelTileRequests id) [] := by
  have canceled (change : TileSession → TileSession)
      : Opens wsd ((wsd.modifySession id change).cancelTiles id).2 [] := by
    refine ⟨?_, rfl, .nil (Nat.le_refl _)⟩
    intro left member
    obtain ⟨entry, inside, kept⟩ := List.mem_filterMap.mp member
    exact .inl ⟨entry, inside, cancelEntry_eases kept⟩
  unfold cancelTileRequests
  dsimp only
  have opens := canceled (fun session =>
    {
      session.resetWireIdMap with
      tilesOnFly := []
      requestedTiles := []
      tilesBeingRendered := ∅
    })
  split
  · next wsd' same =>
      rw [same] at opens
      exact opens.sends
  · next versions wsd' _ same =>
      rw [same] at opens
      refine ⟨opens.sends.opened, ?_, opens.numbered⟩
      have none' : [KitRequest.canceltiles versions].flatMap KitRequest.tiles = [] := rfl
      rw [tilesToKit, send, List.flatMap_append, none', List.append_nil]
      exact opens.sends.sent

-----------------------------------------------------------------------------------------
-- Answers
-----------------------------------------------------------------------------------------

/-- An answer leaves no entry that its tile ends, and changes none. -/
theorem saveTileAndNotify_entries {wsd : Wsd S} (unique : wsd.UniqueNames) (now : Int)
    (tile : TileDesc)
    : (saveTileAndNotify now wsd tile).tilesBeingRendered ⊆ wsd.tilesBeingRendered
      ∧ ∀ entry ∈ (saveTileAndNotify now wsd tile).tilesBeingRendered, ¬ Closes tile entry := by
  rcases saveTileAndNotify_cases now wsd tile with
    ⟨same, absent⟩ | ⟨entry, member, named, ⟨-, spec⟩ | ⟨stays, same⟩⟩
  · rw [same]
    exact ⟨List.Subset.refl _, fun entry member closes => absent entry member closes.1.symm⟩
  · rw [spec.tilesBeingRendered, (foldl_answer_same ..).tilesBeingRendered]
    refine ⟨List.filter_subset_self _, ?_⟩
    intro other inside closes
    exact of_decide_eq_true (List.mem_filter.mp inside).2 (closes.1.symm.trans named.symm)
  · rw [same, (foldl_answer_same ..).tilesBeingRendered]
    refine ⟨List.Subset.refl _, ?_⟩
    intro other inside closes
    rw [unique.eq member inside (named.trans closes.1)] at stays
    exact stays closes.2

/-- Behind an answer, no entry is left that one of its tiles closes. By induction on the tiles. -/
theorem handleTileResponse_entries {wsd : Wsd S} (unique : wsd.UniqueNames) (now : Int)
    (tiles : List TileDesc)
    : (wsd.handleTileResponse now tiles).tilesBeingRendered ⊆ wsd.tilesBeingRendered
      ∧ ∀ tile ∈ tiles,
          ∀ entry ∈ (wsd.handleTileResponse now tiles).tilesBeingRendered,
            ¬ Closes tile entry := by
  induction tiles generalizing wsd with
  | nil => exact ⟨List.Subset.refl _, fun _ member => absurd member List.not_mem_nil⟩
  | cons first tiles ih =>
      obtain ⟨fewer, ended⟩ := saveTileAndNotify_entries unique now first
      obtain ⟨fewer', ended'⟩ := ih (saveTileAndNotify_spec unique now first).uniqueNames
      refine ⟨List.Subset.trans fewer' fewer, ?_⟩
      intro tile member
      rcases List.mem_cons.mp member with rfl | inside
      · exact fun entry isLeft => ended entry (fewer' isLeft)
      · exact ended' tile inside

/-- An answer asks for nothing. -/
theorem handleTileResponse_keeps (now : Int) (wsd : Wsd S) (tiles : List TileDesc)
    : (wsd.handleTileResponse now tiles).toKit = wsd.toKit
      ∧ (wsd.handleTileResponse now tiles).tileVersion = wsd.tileVersion := by
  let Same (state : Wsd S) : Prop := state.toKit = wsd.toKit ∧ state.tileVersion = wsd.tileVersion
  have answered (tile : TileDesc) (state : Wsd S) (id : S) (same : Same state)
      : Same (answer now tile state id) := by
    unfold answer
    split
    · rw [enqueueSendMessage_eq]
      exact same
    · exact same
  have keeps (state : Wsd S) (tile : TileDesc) (same : Same state)
      : Same (state.saveTileAndNotify now tile) := by
    unfold saveTileAndNotify
    split
    · next entry _ =>
        have notified := foldl_keeps (answered tile) entry.subscribers same
        dsimp only
        split
        · refine @foldl_keeps _ _ _ Same ?_ _ entry.subscribers notified
          intro state id same
          split <;> exact same
        · exact notified
    · exact same
  exact foldl_keeps keeps tiles ⟨rfl, rfl⟩

end NdcOdfWeb.Rendering
