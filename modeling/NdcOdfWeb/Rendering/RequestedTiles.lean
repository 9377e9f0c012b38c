import NdcOdfWeb.Rendering.CacheFiles
import NdcOdfWeb.Rendering.RequestSteps

/-! The list of the tiles that a session has requested: how new requests are merged into it, and
what the loop that sends them does with its tiles.
-/

namespace NdcOdfWeb.Rendering

open NdcOdfWeb.Foundation
open NdcOdfWeb.Protocol
open NdcOdfWeb.Tiles
open NdcOdfWeb.Queue
open Wsd

/-- What merging compares of two tiles. -/
def samePosition (tile other : TileDesc) : Bool :=
  tile.tilePosX = other.tilePosX && tile.tilePosY = other.tilePosY

/-- The comparison of the positions, as a proposition. -/
theorem samePosition_iff {tile other : TileDesc}
    : samePosition tile other ↔ tile.tilePosX = other.tilePosX ∧ tile.tilePosY = other.tilePosY := by
  simp [samePosition]

/-- The position is part of the place. -/
theorem samePosition_of_samePlace {tile other : TileDesc} (same : SamePlace tile other)
    : samePosition tile other :=
  samePosition_iff.mpr ⟨same.2.2.2.2.1, same.2.2.2.2.2.1⟩

/-- Positions are compared for equality. -/
theorem samePosition_symm {tile other : TileDesc} (same : samePosition tile other)
    : samePosition other tile := by
  rw [samePosition_iff] at same ⊢
  exact ⟨same.1.symm, same.2.symm⟩

/-- Positions are compared for equality. -/
theorem samePosition_trans {tile middle other : TileDesc} (first : samePosition tile middle)
    (second : samePosition middle other)
    : samePosition tile other := by
  rw [samePosition_iff] at first second ⊢
  exact ⟨first.1.trans second.1, first.2.trans second.2⟩

/-- Tiles of one combination differ in their positions only. -/
theorem samePlace_of_header {tile other : TileDesc} (header : tile.header = other.header)
    (position : samePosition tile other)
    : SamePlace tile other := by
  obtain ⟨x, y⟩ := samePosition_iff.mp position
  rw [TileDesc.header, TileDesc.header, TileHeader.mk.injEq] at header
  obtain ⟨view, part, width, height, tileWidth, tileHeight, -⟩ := header
  exact ⟨view, part, width, height, x, y, tileWidth, tileHeight⟩

-----------------------------------------------------------------------------------------
-- Merging
-----------------------------------------------------------------------------------------

/-- What a requested tile takes over from a new request for its position. -/
def withNewer (old new : TileDesc) : TileDesc :=
  { old with ver := new.ver, oldWireId := new.oldWireId, wireId := new.wireId }

/-- Only the version and the wire ids are replaced. -/
theorem withNewer_samePlace (old new : TileDesc) : SamePlace (withNewer old new) old :=
  SamePlace.refl old

/-- The search stops at the first tile at the new one's position. -/
theorem addRequestedTile_cons (old new : TileDesc) (rest : List TileDesc)
    : addRequestedTile (old :: rest) new
      = if samePosition old new then withNewer old new :: rest
        else old :: addRequestedTile rest new := by
  rw [addRequestedTile, samePosition, withNewer]
  by_cases same : old.tilePosX = new.tilePosX ∧ old.tilePosY = new.tilePosY
  · rw [if_pos same, if_pos (by simpa using same)]
  · rw [if_neg same, if_neg (by simpa using same)]

/-- Merging keeps every tile, with its own version or with the new one. -/
theorem addRequestedTile_keeps {requested : List TileDesc} {new tile : TileDesc}
    (member : tile ∈ requested)
    : ∃ kept ∈ addRequestedTile requested new,
        SamePlace kept tile ∧ (kept.ver = tile.ver ∨ kept.ver = new.ver) := by
  induction requested with
  | nil => exact absurd member List.not_mem_nil
  | cons old rest ih =>
      rw [addRequestedTile_cons]
      rcases List.mem_cons.mp member with rfl | inside
      · split
        · exact ⟨_, List.mem_cons_self, withNewer_samePlace tile new, .inr rfl⟩
        · exact ⟨tile, List.mem_cons_self, SamePlace.refl tile, .inl rfl⟩
      · split
        · exact ⟨tile, List.mem_cons_of_mem _ inside, SamePlace.refl tile, .inl rfl⟩
        · obtain ⟨kept, isIn, facts⟩ := ih inside
          exact ⟨kept, List.mem_cons_of_mem _ isIn, facts⟩

/-- The first tile at a position is the one that was there, or else the new one. -/
theorem addRequestedTile_find (requested : List TileDesc) (new place : TileDesc)
    : (addRequestedTile requested new).find? (samePosition place)
      = if samePosition place new then
          some (((requested.find? (samePosition place)).map (withNewer · new)).getD new)
        else requested.find? (samePosition place) := by
  induction requested with
  | nil =>
      by_cases here : samePosition place new <;> simp [addRequestedTile, here]
  | cons old rest ih =>
      rw [addRequestedTile_cons]
      by_cases merges : samePosition old new
      · rw [if_pos merges]
        by_cases here : samePosition place new
        · have atOld := samePosition_trans here (samePosition_symm merges)
          have atMerged : samePosition place (withNewer old new) := atOld
          rw [if_pos here, List.find?_cons_of_pos atMerged, List.find?_cons_of_pos atOld]
          rfl
        · have apart : ¬ samePosition place old :=
            fun atOld => here (samePosition_trans atOld merges)
          have apart' : ¬ samePosition place (withNewer old new) := apart
          rw [if_neg here, List.find?_cons_of_neg apart', List.find?_cons_of_neg apart]
      · rw [if_neg merges]
        by_cases atOld : samePosition place old
        · have apart : ¬ samePosition place new :=
            fun here => merges (samePosition_trans (samePosition_symm atOld) here)
          rw [if_neg apart, List.find?_cons_of_pos atOld, List.find?_cons_of_pos atOld]
        · rw [List.find?_cons_of_neg atOld, List.find?_cons_of_neg atOld]
          exact ih

/-- The tiles of the merged list are the old ones, and the new one if its position was free. -/
theorem addRequestedTile_from {requested : List TileDesc} {new tile : TileDesc}
    (member : tile ∈ addRequestedTile requested new)
    : (∃ old ∈ requested, SamePlace tile old)
      ∨ (tile = new ∧ ∀ old ∈ requested, ¬ samePosition old new) := by
  induction requested with
  | nil =>
      exact .inr ⟨List.mem_singleton.mp member, fun _ inside => absurd inside List.not_mem_nil⟩
  | cons old rest ih =>
      rw [addRequestedTile_cons] at member
      split at member
      · rcases List.mem_cons.mp member with rfl | inside
        · exact .inl ⟨old, List.mem_cons_self, withNewer_samePlace old new⟩
        · exact .inl ⟨tile, List.mem_cons_of_mem _ inside, SamePlace.refl tile⟩
      · next apart =>
          rcases List.mem_cons.mp member with rfl | inside
          · exact .inl ⟨tile, List.mem_cons_self, SamePlace.refl tile⟩
          · rcases ih inside with ⟨older, isIn, same⟩ | ⟨rfl, free⟩
            · exact .inl ⟨older, List.mem_cons_of_mem _ isIn, same⟩
            · refine .inr ⟨rfl, ?_⟩
              intro other isIn
              rcases List.mem_cons.mp isIn with rfl | later
              · exact apart
              · exact free other later

-----------------------------------------------------------------------------------------
-- Merging all tiles of a request
-----------------------------------------------------------------------------------------

/-- Tiles of a list at one position are the same tile. -/
def OneTilePerPosition (requested : List TileDesc) : Prop :=
  ∀ tile ∈ requested, ∀ other ∈ requested, samePosition tile other → SamePlace tile other

/-- Each new tile is the same tile as the first requested one at its position, if there is one. -/
def MergesAlike (requested newTiles : List TileDesc) : Prop :=
  ∀ tile ∈ newTiles, ∀ old ∈ requested.find? (samePosition tile), SamePlace old tile

/-- The new tiles are added one after the other. -/
theorem addRequestedTiles_eq {requested newTiles : List TileDesc} (nonempty : requested ≠ [])
    : addRequestedTiles requested newTiles = newTiles.foldl addRequestedTile requested :=
  if_neg nonempty

/-- Merging a tile does not change whether the later ones merge alike. -/
theorem MergesAlike.step {requested rest : List TileDesc} {new : TileDesc}
    (alike : MergesAlike requested (new :: rest))
    (header : ∀ tile ∈ rest, new.header = tile.header)
    : MergesAlike (addRequestedTile requested new) rest := by
  intro tile member old found
  rw [addRequestedTile_find] at found
  split at found
  · next here =>
      have same := samePlace_of_header (header tile member) (samePosition_symm here)
      obtain rfl := Option.some.inj found
      cases first : requested.find? (samePosition tile) with
      | none => exact same
      | some older =>
          exact alike tile (List.mem_cons_of_mem new member) older (by rw [first]; rfl)
  · exact alike tile (List.mem_cons_of_mem new member) old found

/-- A tile that merges alike is in the list with its version. -/
theorem addRequestedTile_has {requested : List TileDesc} {new : TileDesc}
    (alike : ∀ old ∈ requested.find? (samePosition new), SamePlace old new)
    : ∃ kept ∈ addRequestedTile requested new, SamePlace kept new ∧ kept.ver = new.ver := by
  have first := addRequestedTile_find requested new new
  rw [if_pos (samePosition_of_samePlace (SamePlace.refl new))] at first
  refine ⟨_, List.mem_of_find?_eq_some first, ?_⟩
  cases found : requested.find? (samePosition new) with
  | none => exact ⟨SamePlace.refl new, rfl⟩
  | some old =>
      exact ⟨SamePlace.trans (withNewer_samePlace old new) (alike old (by rw [found]; rfl)), rfl⟩

/-- Later requests keep a tile, with its version or a later one. -/
theorem foldl_addRequestedTile_keeps {requested newTiles : List TileDesc} {tile : TileDesc}
    (member : tile ∈ requested)
    : ∃ kept ∈ newTiles.foldl addRequestedTile requested,
        SamePlace kept tile ∧ (kept.ver = tile.ver ∨ ∃ new ∈ newTiles, kept.ver = new.ver) := by
  induction newTiles generalizing requested tile with
  | nil => exact ⟨tile, member, SamePlace.refl tile, .inl rfl⟩
  | cons new newTiles ih =>
      obtain ⟨next, isIn, same, version⟩ := @addRequestedTile_keeps requested new tile member
      obtain ⟨kept, inside, same', version'⟩ := ih isIn
      refine ⟨kept, inside, SamePlace.trans same' same, ?_⟩
      rcases version' with version' | ⟨other, later, version'⟩
      · rcases version with version | version
        · exact .inl (version'.trans version)
        · exact .inr ⟨new, List.mem_cons_self, version'.trans version⟩
      · exact .inr ⟨other, List.mem_cons_of_mem new later, version'⟩

/-- By induction on the new tiles, whose versions ascend. -/
theorem foldl_addRequestedTile_has {requested newTiles : List TileDesc}
    (alike : MergesAlike requested newTiles)
    (header : ∀ tile ∈ newTiles, ∀ other ∈ newTiles, tile.header = other.header)
    (ascending : newTiles.Pairwise (fun earlier later => earlier.ver ≤ later.ver))
    : ∀ tile ∈ newTiles, ∃ kept ∈ newTiles.foldl addRequestedTile requested,
        SamePlace kept tile ∧ tile.ver ≤ kept.ver := by
  induction newTiles generalizing requested with
  | nil => exact fun _ member => absurd member List.not_mem_nil
  | cons new newTiles ih =>
      obtain ⟨first, later⟩ := List.pairwise_cons.mp ascending
      intro tile member
      rcases List.mem_cons.mp member with rfl | inside
      · obtain ⟨kept, isIn, same, version⟩ := addRequestedTile_has (alike tile List.mem_cons_self)
        obtain ⟨final, inFinal, same', version'⟩ :=
          @foldl_addRequestedTile_keeps _ newTiles _ isIn
        refine ⟨final, inFinal, SamePlace.trans same' same, ?_⟩
        rcases version' with version' | ⟨other, isOther, version'⟩
        · rw [version', version]
          exact Int32.le_refl _
        · rw [version']
          exact first other isOther
      · apply ih _ _ later tile inside
        · exact alike.step (fun other isIn =>
            header new List.mem_cons_self other (List.mem_cons_of_mem new isIn))
        · exact fun one isOne other isOther =>
            header one (List.mem_cons_of_mem new isOne) other (List.mem_cons_of_mem new isOther)

/-- A tile of the merged list was requested before, or its position was free before. -/
theorem foldl_addRequestedTile_from {requested newTiles : List TileDesc} {tile : TileDesc}
    (member : tile ∈ newTiles.foldl addRequestedTile requested)
    : (∃ old ∈ requested, SamePlace tile old)
      ∨ ((∃ new ∈ newTiles, SamePlace tile new)
        ∧ ∀ old ∈ requested, ¬ samePosition old tile) := by
  induction newTiles generalizing requested with
  | nil => exact .inl ⟨tile, member, SamePlace.refl tile⟩
  | cons new newTiles ih =>
      rcases ih member with ⟨next, isIn, same⟩ | ⟨⟨later, isIn, same⟩, free⟩
      · rcases addRequestedTile_from isIn with ⟨old, inside, same'⟩ | ⟨rfl, free⟩
        · exact .inl ⟨old, inside, SamePlace.trans same same'⟩
        · refine .inr ⟨⟨next, List.mem_cons_self, same⟩, ?_⟩
          intro old inside at'
          exact free old inside (samePosition_trans at' (samePosition_of_samePlace same))
      · refine .inr ⟨⟨later, List.mem_cons_of_mem new isIn, same⟩, ?_⟩
        intro old inside at'
        obtain ⟨kept, isKept, same', -⟩ := @addRequestedTile_keeps requested new old inside
        exact free kept isKept (samePosition_trans (samePosition_of_samePlace same') at')

/-- Tiles with one header differ by their positions only. -/
theorem oneTilePerPosition_of_header {tiles : List TileDesc}
    (header : ∀ tile ∈ tiles, ∀ other ∈ tiles, tile.header = other.header)
    : OneTilePerPosition tiles :=
  fun tile member other inside => samePlace_of_header (header tile member other inside)

/-- Requests keep a list at one tile for a position. -/
theorem oneTilePerPosition_addRequestedTiles {requested newTiles : List TileDesc}
    (one : OneTilePerPosition requested)
    (header : ∀ tile ∈ newTiles, ∀ other ∈ newTiles, tile.header = other.header)
    : OneTilePerPosition (addRequestedTiles requested newTiles) := by
  by_cases empty : requested = []
  · rw [addRequestedTiles, if_pos empty]
    exact oneTilePerPosition_of_header header
  · rw [addRequestedTiles_eq empty]
    intro tile member other inside position
    rcases foldl_addRequestedTile_from member with ⟨old, isOld, same⟩ | ⟨⟨new, isNew, same⟩, free⟩
    · have atOld := samePosition_trans (samePosition_symm (samePosition_of_samePlace same)) position
      rcases foldl_addRequestedTile_from inside with ⟨old', isOld', same'⟩ | ⟨-, free⟩
      · have position' := samePosition_trans atOld (samePosition_of_samePlace same')
        have alike := one old isOld old' isOld' position'
        exact SamePlace.trans same (SamePlace.trans alike (SamePlace.symm same'))
      · exact absurd atOld (free old isOld)
    · rcases foldl_addRequestedTile_from inside with ⟨old', isOld', same'⟩ | ⟨⟨new', isNew', same'⟩, -⟩
      · have atTile := samePosition_trans position (samePosition_of_samePlace same')
        exact absurd (samePosition_symm atTile) (free old' isOld')
      · have position' : samePosition new new' :=
          samePosition_trans (samePosition_symm (samePosition_of_samePlace same))
            (samePosition_trans position (samePosition_of_samePlace same'))
        have alike := samePlace_of_header (header new isNew new' isNew') position'
        exact SamePlace.trans same (SamePlace.trans alike (SamePlace.symm same'))

-----------------------------------------------------------------------------------------
-- Sending the tiles of the list
-----------------------------------------------------------------------------------------

/-- The tile is sent to the session, or the session subscribes to it. -/
def Serves {S : Type} (id : S) (tile : TileDesc) : Notice S → Prop
  | .subscribed cacheName session _ => session = id ∧ cacheName = cacheFileName tile
  | .enqueued session sent => session = id ∧ SamePlace sent tile
  | .filtered session sent => session = id ∧ SamePlace sent tile
  | .canceled _ => False
  | .answered _ _ _ => False

instance {S : Type} [DecidableEq S] (id : S) (tile : TileDesc)
    : (notice : Notice S) → Decidable (Serves id tile notice)
  | .subscribed _ _ _ => inferInstanceAs (Decidable (_ ∧ _))
  | .enqueued _ _ => inferInstanceAs (Decidable (_ ∧ _))
  | .filtered _ _ => inferInstanceAs (Decidable (_ ∧ _))
  | .canceled _ => .isFalse False.elim
  | .answered _ _ _ => .isFalse False.elim

variable {S : Type} [DecidableEq S]

/-- What becomes of the tiles that are sent: each is still requested, or it is served. -/
structure SendingSpec (before : Wsd S) (id : S) (tiles : List TileDesc) (sending : Sending S)
    (more : List (Notice S))
    : Prop where
  log : sending.wsd.log = more ++ before.log
  served
    : ∀ tile ∈ tiles, tile ∈ sending.requestedTiles ∨ ∃ notice ∈ more, Serves id tile notice
  only
    : ∀ notice ∈ more, ∃ tile ∈ tiles, ∀ other, Serves id other notice → SamePlace tile other
  requested : ∀ tile ∈ sending.requestedTiles, tile ∈ tiles

omit [DecidableEq S] in
/-- One more tile is served in front of the others. -/
theorem SendingSpec.cons {before middle : Wsd S} {id : S} {tile : TileDesc}
    {tiles : List TileDesc} {sending : Sending S} {more : List (Notice S)} {notice : Notice S}
    (log : middle.log = notice :: before.log) (serves : Serves id tile notice)
    (exact' : ∀ other, Serves id other notice → SamePlace tile other)
    (spec : SendingSpec middle id tiles sending more)
    : SendingSpec before id (tile :: tiles) sending (more ++ [notice]) where
  log := by
    rw [spec.log, log, List.append_assoc]
    rfl
  served := by
    intro other member
    rcases List.mem_cons.mp member with rfl | inside
    · exact .inr ⟨notice, List.mem_append_right more List.mem_cons_self, serves⟩
    · exact (spec.served other inside).imp_right (fun ⟨found, isIn, serves'⟩ =>
        ⟨found, List.mem_append_left [notice] isIn, serves'⟩)
  only := by
    intro found member
    rcases List.mem_append.mp member with inside | last
    · obtain ⟨other, isIn, facts⟩ := spec.only found inside
      exact ⟨other, List.mem_cons_of_mem tile isIn, facts⟩
    · rw [List.mem_singleton.mp last]
      exact ⟨tile, List.mem_cons_self, exact'⟩
  requested := fun other member => List.mem_cons_of_mem tile (spec.requested other member)

/-- The log gets one notice, of this session and this tile. -/
theorem serves_enqueueSendMessage (now : Int) (wsd : Wsd S) (id : S) (tile : TileDesc)
    : ∃ notice,
        (wsd.enqueueSendMessage now id tile.withReadId).log = notice :: wsd.log
        ∧ Serves id tile notice
        ∧ ∀ other, Serves id other notice → SamePlace tile other := by
  rw [enqueueSendMessage_eq]
  refine ⟨_, rfl, ?_, ?_⟩
  · split <;> exact ⟨rfl, SamePlace.refl tile⟩
  · intro other
    split <;> exact fun serves => serves.2

/-- The log gets one notice, of this session and this tile. -/
theorem serves_subscribeToTileRendering (now : Int) (wsd : Wsd S) (id : S) (tile : TileDesc)
    : ∃ notice,
        (wsd.subscribeToTileRendering now tile id).log = notice :: wsd.log
        ∧ Serves id tile notice
        ∧ ∀ other, Serves id other notice → SamePlace tile other := by
  refine ⟨_, (wsd.subscribeToTileRendering_spec now tile id).log, ⟨rfl, rfl⟩, ?_⟩
  exact fun other serves => cacheFileName_eq_iff.mp serves.2

/-- By induction on the tiles: each one is served now or stays in the list. -/
theorem sendLoop_spec (world : World) (limit : Nat) (id : S) (wsd : Wsd S)
    (needsRendering delayed tiles : List TileDesc)
    : ∃ more,
        SendingSpec wsd id (tiles ++ delayed)
          (sendLoop world limit id wsd needsRendering delayed tiles) more := by
  induction tiles generalizing wsd needsRendering delayed with
  | nil =>
      exact ⟨[], rfl, fun _ member => .inl member,
        fun _ member => absurd member List.not_mem_nil, fun _ member => member⟩
  | cons tile tiles ih =>
      unfold sendLoop
      dsimp only
      split
      · exact ⟨[], rfl, fun _ member => .inl member,
          fun _ member => absurd member List.not_mem_nil, fun _ member => member⟩
      · split
        · -- a delayed tile goes behind the others
          obtain ⟨more, spec⟩ := ih wsd needsRendering (delayed ++ [tile])
          have members (other : TileDesc)
              : other ∈ tiles ++ (delayed ++ [tile]) ↔ other ∈ tile :: tiles ++ delayed := by
            simp only [List.mem_append, List.mem_cons, List.not_mem_nil, or_false]
            tauto
          refine ⟨more, spec.log, ?_, ?_, ?_⟩
          · exact fun other member => spec.served other ((members other).mpr member)
          · intro notice member
            obtain ⟨other, inside, facts⟩ := spec.only notice member
            exact ⟨other, (members other).mp inside, facts⟩
          · exact fun other member => (members other).mp (spec.requested other member)
        · split
          · obtain ⟨notice, log, serves, exact'⟩ :=
              serves_enqueueSendMessage world.now wsd id tile
            obtain ⟨more, spec⟩ := ih _ needsRendering delayed
            exact ⟨_, spec.cons log serves exact'⟩
          · split
            · obtain ⟨notice, log, serves, exact'⟩ :=
                serves_subscribeToTileRendering world.now (wsd.nextVersion tile).2 id
                  (wsd.nextVersion tile).1
              obtain ⟨more, spec⟩ := ih _ (needsRendering ++ [(wsd.nextVersion tile).1]) delayed
              exact ⟨_, spec.cons log serves exact'⟩
            · obtain ⟨notice, log, serves, exact'⟩ :=
                serves_subscribeToTileRendering world.now wsd id tile
              obtain ⟨more, spec⟩ := ih _ needsRendering delayed
              exact ⟨_, spec.cons log serves exact'⟩

end NdcOdfWeb.Rendering
