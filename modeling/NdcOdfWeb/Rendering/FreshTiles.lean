import NdcOdfWeb.Foundation.Coherence
import NdcOdfWeb.Rendering.RemovedTiles
import NdcOdfWeb.Rendering.System
import NdcOdfWeb.Sessions.ChildMessages

/-! The tile cache and what is painted: a document in the office core, the kit with its queue and
its sessions, the connection to wsd, and the files that wsd keeps of the tiles. A file shows the
document as it is now, as long as no invalidation of its tile is under way.
-/

namespace NdcOdfWeb.Rendering

open NdcOdfWeb.Foundation
open NdcOdfWeb.Protocol
open NdcOdfWeb.Tiles
open NdcOdfWeb.Queue
open NdcOdfWeb.Kit

-----------------------------------------------------------------------------------------
-- The files
-----------------------------------------------------------------------------------------

/-- The files in the cache directory, with their contents. -/
structure TileFiles (C : Type) where
  names : Finset Text
  data : Text → C

namespace TileFiles

variable {C : Type}

/-- `lookupTile`. -/
def lookupTile (files : TileFiles C) (tile : TileDesc) : Option C :=
  if cacheFileName tile ∈ files.names then some (files.data (cacheFileName tile)) else none

/-- `saveDataToFileSafely` for a tile: if it fails, the file is removed. -/
def saveTile (saved : Bool) (files : TileFiles C) (tile : TileDesc) (content : C) : TileFiles C :=
  if saved then
    {
      names := insert (cacheFileName tile) files.names
      data := Function.update files.data (cacheFileName tile) content
    }
  else { files with names := files.names.erase (cacheFileName tile) }

/-- `invalidateTiles` of a message. -/
def invalidate (files : TileFiles C) (message : Text) (nViewId : Int32)
    : Except Exception (TileFiles C) :=
  (invalidateTiles files.names message nViewId).map (fun names => { files with names })

/-- What the files hold for the keys of tiles. -/
def holds (files : TileFiles C) : Holds CacheKey C :=
  fun key content => ∃ tile, cacheKey tile = key ∧ files.lookupTile tile = some content

/-- The file exists, and its content is read. -/
theorem lookupTile_eq_some {files : TileFiles C} {tile : TileDesc} {content : C}
    : files.lookupTile tile = some content
      ↔ cacheFileName tile ∈ files.names ∧ files.data (cacheFileName tile) = content := by
  unfold lookupTile
  split
  · next present => simp [present]
  · next absent => simp [absent]

/-- The name has the six numbers of the key. -/
theorem cacheFileName_eq_iff_key {left right : TileDesc}
    : cacheFileName left = cacheFileName right ↔ cacheKey left = cacheKey right :=
  cacheFileName_eq_iff.trans cacheKey_eq_iff.symm

/-- Saving a tile does what its message says, or removes the file. -/
theorem holds_saveTile {saved : Bool} {files : TileFiles C} {tile : TileDesc} {content : C}
    {key : CacheKey} {value : C} (found : (files.saveTile saved tile content).holds key value)
    : files.holds.receive (.store (cacheKey tile) content) key value := by
  obtain ⟨other, rfl, present⟩ := found
  rw [lookupTile_eq_some] at present
  by_cases same : cacheKey other = cacheKey tile
  · have name := cacheFileName_eq_iff_key.mpr same
    unfold saveTile at present
    split at present
    · dsimp only at present
      rw [name, Function.update_self] at present
      exact .inl ⟨same, present.2.symm⟩
    · rw [name] at present
      exact absurd present.1 (Finset.notMem_erase _ _)
  · have name : cacheFileName other ≠ cacheFileName tile :=
      fun equal => same (cacheFileName_eq_iff_key.mp equal)
    refine .inr ⟨same, other, rfl, lookupTile_eq_some.mpr ?_⟩
    unfold saveTile at present
    split at present
    · dsimp only at present
      rw [Finset.mem_insert, Function.update_of_ne name] at present
      exact ⟨present.1.resolve_left name, present.2⟩
    · exact ⟨Finset.mem_of_mem_erase present.1, present.2⟩

/-- An invalidation removes the files of the tiles that it touches. -/
theorem holds_invalidate {files left : TileFiles C} {message : Text} {nViewId : Int32}
    (done : files.invalidate message nViewId = .ok left) {key : CacheKey} {value : C}
    (found : left.holds key value)
    : files.holds key value
      ∧ ¬ ∃ tile, cacheKey tile = key ∧ Removes nViewId message tile := by
  obtain ⟨tile, rfl, present⟩ := found
  unfold invalidate invalidateTiles at done
  cases parsed : parseInvalidateMsg message with
  | error exception =>
      rw [parsed] at done
      cases done
  | ok read =>
      rw [parsed] at done
      cases done
      rw [lookupTile_eq_some] at present
      obtain ⟨⟨before, stays⟩, content⟩ := present.imp_left (Finset.mem_filter.mp ·)
      refine ⟨⟨tile, rfl, lookupTile_eq_some.mpr ⟨before, content⟩⟩, ?_⟩
      rintro ⟨other, same, -, part, rectangle, readBack, touches⟩
      cases parsed.symm.trans readBack
      rw [cacheFileName_eq_iff_key.mpr same] at touches
      rw [touches] at stays
      cases stays

end TileFiles

-----------------------------------------------------------------------------------------
-- The system
-----------------------------------------------------------------------------------------

/-- A frame of the kit on its way to wsd: a message of a session to its client, or painted tiles
with their images.
-/
inductive KitFrame (C : Type) where
  | client (id : Text) (message : Text)
  | tiles (painted : List (TileDesc × C))

/-- What is outside of the kit and of wsd: the images of the tiles, what the office core says when
it is asked, and the JSON parser.
-/
structure OfficeCore (D C : Type) where
  render : D → CacheKey → C
  office : Int32 → Office
  json : Json
  cursorJson : CursorJson
  viewIdOf : Text → Except Exception Text

/-- The document, and the invalidations that the office core has not called back for; the kit with
the message that it has taken from its queue; and wsd with the canonical views of its sessions.
-/
structure CacheSystem (D C : Type) where
  document : D
  untold : List InvalidationPayload
  queue : TileQueue
  input : Option Payload
  running : Bool
  views : List KitView
  toWsd : List (KitFrame C)
  sessions : Text → Option Int32
  cache : TileFiles C

/-- What happens to the document and between the processes. The sessions come, go and change in
any way.
-/
inductive CacheEvent (D : Type) where
  | change (document : D) (payloads : List InvalidationPayload)
  | tell (viewId : Int32)
  | callback (viewId type : Int32) (payload : Text)
  | put (message : Payload)
  | updateCursor (viewId part x y width height : Int32)
  | removeCursor (viewId : Int32)
  | taken
  | processed (canvas : Canvas)
  | setViews (views : List KitView)
  | send (id message : Text)
  | setSessions (sessions : Text → Option Int32)
  | received (saved : TileDesc → Bool)

namespace CacheSystem

variable {D C : Type} (core : OfficeCore D C)

/-- A pass of the loop of `Document::run`, for a message that was taken. -/
def process (system : CacheSystem D C) (canvas : Canvas) (payload : Payload)
    : CacheSystem D C :=
  let first := (tokenize ' ' payload).head?
  if first = some "eof".toList then { system with running := false }
  else if first = some "callback".toList then
    let forwarded := runCallback core.json core.office payload system.views
    {
      system with
      views := forwarded.views
      running := forwarded.running
      toWsd :=
        system.toWsd ++ forwarded.frames.map (fun frame => .client frame.1 frame.2)
    }
  else
    {
      system with
      toWsd :=
        system.toWsd
          ++ (renderMessage canvas payload).toList.map (fun response =>
              .tiles (response.tiles.map
                (fun tile => (tile, core.render system.document (cacheKey tile)))))
    }

/-- wsd handles a frame: `handleKitToClientMessage` of its session, or the tiles are saved. -/
def receive (system : CacheSystem D C) (saved : TileDesc → Bool)
    : KitFrame C → Option (CacheSystem D C)
  | .client id message =>
      match system.sessions id with
      | none => some system
      | some nViewId =>
          if isTileInvalidation message then
            match system.cache.invalidate message nViewId with
            | .ok cache => some { system with cache }
            | .error _ => none
          else some system
  | .tiles painted =>
      some
        {
          system with
          cache :=
            painted.foldl
              (fun cache tile => cache.saveTile (saved tile.1) tile.1 tile.2)
              system.cache
        }

/-- One step. The other messages for the kit's queue are no callbacks; an exception of a callback
leaves the queued messages as they are.
-/
def step (system : CacheSystem D C) : CacheEvent D → Option (CacheSystem D C)
  | .change document payloads =>
      some { system with document, untold := system.untold ++ payloads }
  | .tell viewId =>
      match system.untold with
      | [] => none
      | payload :: untold =>
          (viewCallback core.cursorJson core.viewIdOf viewId system.queue invalidateTilesType
            payload.text).map (fun queue => { system with untold, queue })
  | .callback viewId type payload =>
      if type = invalidateTilesType then none
      else
        match viewCallback core.cursorJson core.viewIdOf viewId system.queue type payload with
        | some queue => some { system with queue }
        | none => some system
  | .put message =>
      if (tokenize ' ' message).head? = some "callback".toList then none
      else
        match system.queue.put core.viewIdOf message with
        | .ok queue => some { system with queue }
        | .error _ => some system
  | .updateCursor viewId part x y width height =>
      some { system with queue := system.queue.updateCursorPosition viewId part x y width height }
  | .removeCursor viewId =>
      some { system with queue := system.queue.removeCursorPosition viewId }
  | .taken =>
      if system.running then
        match system.input, system.queue.get with
        | none, some (.ok payload, queue) => some { system with queue, input := some payload }
        | none, some (.error _, queue) => some { system with queue, running := false }
        | _, _ => none
      else none
  | .processed canvas =>
      system.input.map (fun payload =>
        { system with input := none }.process core canvas payload)
  | .setViews views => some { system with views }
  | .send id message => some { system with toWsd := system.toWsd ++ [.client id message] }
  | .setSessions sessions => some { system with sessions }
  | .received saved =>
      match system.toWsd with
      | [] => none
      | frame :: toWsd => { system with toWsd }.receive saved frame

end CacheSystem

end NdcOdfWeb.Rendering
