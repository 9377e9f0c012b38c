import Mathlib.Data.List.Sort
import NdcOdfWeb.Foundation.Grouping
import NdcOdfWeb.Protocol.ListTokens

/-! The requests that the browser sends for a queue of tiles (`GridLayer._addTiles`): the tiles
are grouped into rectangular areas, and each group is requested by one message.
-/

namespace NdcOdfWeb.Client

open NdcOdfWeb.Foundation
open NdcOdfWeb.Protocol

/-- The coordinates of a tile in the grid. They are JavaScript numbers, which are exact up to 2^53:
so are the coordinates here and, in the messages, their positions in twips.
-/
structure TileCoords where
  x : Int
  y : Int
  z : Int
  part : Int
deriving DecidableEq

/-- What the loops use of a `GridLayer`. -/
structure GridLayer where
  tileCache : Text → Option Text
  tileZoom : Int
  selectedPart : Int
  tileWidthPx : Int
  tileHeightPx : Int
  tileWidthTwips : Int
  tileHeightTwips : Int
  positive : 0 < tileWidthTwips ∧ 0 < tileHeightTwips

/-- A queue of different tiles of the selected part. The callers set `coords.z = zoom`. -/
structure TileRequests (layer : GridLayer) where
  coordsQueue : List TileCoords
  distinct : coordsQueue.Nodup
  zoom : ∀ coords ∈ coordsQueue, coords.z = layer.tileZoom
  selected : ∀ coords ∈ coordsQueue, coords.part = layer.selectedPart

/-- A `tilecombine` message. -/
structure CombineRequest where
  part : Int
  width : Int
  height : Int
  tilePositionsX : Text
  tilePositionsY : Text
  tileWidth : Int
  tileHeight : Int

/-- The text of the message. -/
def CombineRequest.msg (request : CombineRequest) : Text :=
  "tilecombine ".toList
    ++ "nviewid=0".toList
    ++ " part=".toList ++ showInt request.part
    ++ " width=".toList ++ showInt request.width
    ++ " height=".toList ++ showInt request.height
    ++ " tileposx=".toList ++ request.tilePositionsX
    ++ " tileposy=".toList ++ request.tilePositionsY
    ++ " tilewidth=".toList ++ showInt request.tileWidth
    ++ " tileheight=".toList ++ showInt request.tileHeight

/-- `_tileCoordsToKey`. -/
def tileCoordsToKey (coords : TileCoords) : Text :=
  showInt coords.x
    ++ ":".toList ++ showInt coords.y
    ++ ":".toList ++ showInt coords.z
    ++ ":".toList ++ showInt coords.part

namespace GridLayer

variable (layer : GridLayer)

/-- The image of the tile is in the cache. -/
def cached (coords : TileCoords) : Bool :=
  (layer.tileCache (tileCoordsToKey coords)).any (· ≠ [])

/-- Tiles that do not interest us. -/
def ignores (coords : TileCoords) : Bool :=
  layer.cached coords || coords.part ≠ layer.selectedPart

/-- The order of the tiles by the rows. -/
def rowOrder (coords other : TileCoords) : Prop :=
  coords.y < other.y ∨ (coords.y = other.y ∧ coords.x ≤ other.x)

instance : DecidableRel rowOrder := fun coords other =>
  inferInstanceAs (Decidable (coords.y < other.y ∨ (coords.y = other.y ∧ coords.x ≤ other.x)))

/-- The rectangle that is found so far. -/
structure Bound where
  x : Int
  y : Int
  rowLocked : Bool
  hasHole : Bool

def Bound.of (coords : TileCoords) : Bound := ⟨coords.x, coords.y, false, false⟩

/-- Extend the bound vertically if possible (so far it was continuous). -/
def Bound.extend (bound : Bound) (current : TileCoords) : Bound :=
  if !bound.hasHole && current.y = bound.y + 1 then
    { bound with rowLocked := true, y := bound.y + 1 }
  else bound

/-- The body of the loop that finds the close tiles. -/
def closePass (bound : Bound) (current : TileCoords) : ScanDecision × Bound :=
  let bound := bound.extend current
  if current.y > bound.y then (.stop, bound)
  else if !bound.rowLocked then
    if current.y = bound.y ∧ current.x = bound.x + 1 then
      -- extend the bound horizontally
      (.take, { bound with x := bound.x + 1 })
    else
      -- ignore the rest of the row
      (.leave, { bound with rowLocked := true })
  else if current.x ≤ bound.x ∧ current.y ≤ bound.y then
    -- we are inside the bound
    (.take, bound)
  else
    -- ignore this one, but there still may be other tiles
    (.leave, { bound with hasHole := true })

/-- The loops over the sorted queue; both end, since each step shortens what is left of it. -/
def rectangles (coordsQueue : List TileCoords) : List (List TileCoords) :=
  groups closePass Bound.of layer.ignores (coordsQueue.insertionSort rowOrder)

/-- The loop that lists the positions of a rectangle in one direction. -/
def tilePositions (position : TileCoords → Int) (rectQueue : List TileCoords) : Text :=
  rectQueue.foldl
    (fun positions coords =>
      (if positions ≠ [] then positions ++ ",".toList else positions)
        ++ showInt (position coords))
    []

/-- The message for a rectangle; its part is that of the last tile. -/
def combineRequest (rectQueue : List TileCoords) : CombineRequest where
  part := (rectQueue.getLast?.map TileCoords.part).getD layer.selectedPart
  width := layer.tileWidthPx
  height := layer.tileHeightPx
  tilePositionsX := tilePositions (·.x * layer.tileWidthTwips) rectQueue
  tilePositionsY := tilePositions (·.y * layer.tileHeightTwips) rectQueue
  tileWidth := layer.tileWidthTwips
  tileHeight := layer.tileHeightTwips

/-- The messages that `_addTiles` sends. -/
def addTiles (coordsQueue : List TileCoords) : List CombineRequest :=
  (layer.rectangles coordsQueue).map layer.combineRequest

end GridLayer

/-- The positions in the lists of a message. -/
def CombineRequest.xs (request : CombineRequest) : List Text :=
  stringTokenizer ',' request.tilePositionsX

def CombineRequest.ys (request : CombineRequest) : List Text :=
  stringTokenizer ',' request.tilePositionsY

def listedPositions (messages : List CombineRequest) : List (Text × Text) :=
  messages.flatMap (fun request => request.xs.zip request.ys)

/-- The position of a tile in the document, as it is listed. -/
def GridLayer.twips (layer : GridLayer) (coords : TileCoords) : Text × Text :=
  (showInt (coords.x * layer.tileWidthTwips), showInt (coords.y * layer.tileHeightTwips))

/-- The messages list every tile of the queue that is not in the cache once, and no other. -/
structure ListsUncached (layer : GridLayer) (coordsQueue : List TileCoords)
    (messages : List CombineRequest)
    : Prop where
  lengths : ∀ request ∈ messages, request.xs.length = request.ys.length
  once
    : ∀ coords ∈ coordsQueue,
        layer.cached coords = false
        → (listedPositions messages).count (layer.twips coords) = 1
  noOther
    : ∀ position ∈ listedPositions messages,
        ∃ coords ∈ coordsQueue, layer.cached coords = false ∧ position = layer.twips coords

-----------------------------------------------------------------------------------------
-- The listed positions
-----------------------------------------------------------------------------------------

/-- The positions behind a first one, by induction on them. -/
theorem foldl_positions (position : TileCoords → Int) (text : Text) (nonempty : text ≠ [])
    (rectQueue : List TileCoords)
    : rectQueue.foldl
        (fun positions coords =>
          (if positions ≠ [] then positions ++ ",".toList else positions)
            ++ showInt (position coords))
        text
      = [','].intercalate (text :: rectQueue.map (fun coords => showInt (position coords))) := by
  induction rectQueue generalizing text with
  | nil => rw [List.foldl_nil, List.map_nil, List.intercalate_singleton]
  | cons coords rest ih =>
      rw [List.foldl_cons, if_pos nonempty, List.map_cons, List.intercalate_cons_cons,
        ih _ (by simp [nonempty])]
      cases rest with
      | nil => simp only [List.map_nil, List.intercalate_singleton]; rfl
      | cons next rest =>
          simp only [List.map_cons, List.intercalate_cons_cons, List.append_assoc]
          rfl

/-- The loop joins the positions with commas. -/
theorem tilePositions_eq (position : TileCoords → Int) (rectQueue : List TileCoords)
    : GridLayer.tilePositions position rectQueue
      = [','].intercalate (rectQueue.map (fun coords => showInt (position coords))) := by
  cases rectQueue with
  | nil => rfl
  | cons coords rest =>
      exact foldl_positions position (showInt (position coords)) (showInt_ne_nil _) rest

/-- A list of a message holds the positions of the tiles of its rectangle. -/
theorem stringTokenizer_tilePositions (position : TileCoords → Int)
    (rectQueue : List TileCoords)
    : stringTokenizer ',' (GridLayer.tilePositions position rectQueue)
      = rectQueue.map (fun coords => showInt (position coords)) := by
  rw [tilePositions_eq, stringTokenizer_intercalate]
  intro entry member
  obtain ⟨coords, _, rfl⟩ := List.mem_map.mp member
  exact showInt_listEntry _

namespace GridLayer

variable (layer : GridLayer)

/-- The lists of a message are equally long and list the tiles of the rectangle pair by pair. -/
theorem combineRequest_positions (rectQueue : List TileCoords)
    : (layer.combineRequest rectQueue).xs.length = (layer.combineRequest rectQueue).ys.length
      ∧ (layer.combineRequest rectQueue).xs.zip (layer.combineRequest rectQueue).ys
        = rectQueue.map layer.twips := by
  have xs : (layer.combineRequest rectQueue).xs
      = rectQueue.map (fun coords => showInt (coords.x * layer.tileWidthTwips)) :=
    stringTokenizer_tilePositions _ rectQueue
  have ys : (layer.combineRequest rectQueue).ys
      = rectQueue.map (fun coords => showInt (coords.y * layer.tileHeightTwips)) :=
    stringTokenizer_tilePositions _ rectQueue
  rw [xs, ys, List.length_map, List.length_map, List.zip_map']
  exact ⟨rfl, rfl⟩

/-- In every message, the lists are equally long. -/
theorem addTiles_lengths (coordsQueue : List TileCoords)
    : ∀ request ∈ layer.addTiles coordsQueue, request.xs.length = request.ys.length := by
  intro request member
  obtain ⟨rectQueue, _, rfl⟩ := List.mem_map.mp member
  exact (layer.combineRequest_positions rectQueue).1

/-- The messages list the tiles of the rectangles. -/
theorem listedPositions_addTiles (coordsQueue : List TileCoords)
    : listedPositions (layer.addTiles coordsQueue)
      = (layer.rectangles coordsQueue).flatten.map layer.twips := by
  rw [listedPositions, addTiles, List.flatMap_map, List.map_flatten, List.flatMap_def]
  exact congrArg List.flatten
    (List.map_congr_left (fun rectQueue _ => (layer.combineRequest_positions rectQueue).2))

/-- The positions of different tiles differ. -/
theorem twips_inj {coords other : TileCoords} (same : layer.twips coords = layer.twips other)
    : coords.x = other.x ∧ coords.y = other.y := by
  have x := showInt_inj (congrArg Prod.fst same)
  have y := showInt_inj (congrArg Prod.snd same)
  exact
    ⟨Int.eq_of_mul_eq_mul_right (Int.ne_of_gt layer.positive.1) x,
      Int.eq_of_mul_eq_mul_right (Int.ne_of_gt layer.positive.2) y⟩

variable (requests : TileRequests layer)

/-- Sorting keeps the tiles of the queue. -/
theorem sorted_perm
    : (requests.coordsQueue.insertionSort rowOrder).Perm requests.coordsQueue :=
  List.perm_insertionSort rowOrder requests.coordsQueue

/-- The rectangles consist of tiles of the queue, since grouping only moves them. -/
theorem mem_of_mem_rectangles {coords : TileCoords}
    (member : coords ∈ (layer.rectangles requests.coordsQueue).flatten)
    : coords ∈ requests.coordsQueue :=
  (layer.sorted_perm requests).subset (mem_of_mem_groups closePass Bound.of layer.ignores member)

/-- Only the cache decides about the tiles of the selected part. -/
theorem ignores_eq {coords : TileCoords} (member : coords ∈ requests.coordsQueue)
    : layer.ignores coords = layer.cached coords := by
  rw [ignores, requests.selected coords member]
  simp

/-- The tiles of a queue have one zoom level and one part. -/
theorem eq_of_place_eq {coords other : TileCoords} (member : coords ∈ requests.coordsQueue)
    (otherMember : other ∈ requests.coordsQueue) (x : coords.x = other.x) (y : coords.y = other.y)
    : coords = other := by
  rcases coords with ⟨_, _, _, _⟩
  rcases other with ⟨_, _, _, _⟩
  have z := (requests.zoom _ member).trans (requests.zoom _ otherMember).symm
  have part := (requests.selected _ member).trans (requests.selected _ otherMember).symm
  exact TileCoords.mk.injEq .. ▸ ⟨x, y, z, part⟩

/-- Different tiles of a queue are at different positions, as twips are positive. -/
theorem eq_of_twips_eq {coords other : TileCoords} (member : coords ∈ requests.coordsQueue)
    (otherMember : other ∈ requests.coordsQueue)
    (same : layer.twips coords = layer.twips other)
    : coords = other := by
  obtain ⟨x, y⟩ := layer.twips_inj same
  exact layer.eq_of_place_eq requests member otherMember x y

/-- A tile is in one rectangle at most: grouping permutes the queue, whose tiles differ. -/
theorem rectangles_nodup : (layer.rectangles requests.coordsQueue).flatten.Nodup := by
  obtain ⟨dropped, all, _⟩ := groups_perm closePass Bound.of layer.ignores
    (requests.coordsQueue.insertionSort rowOrder)
  have nodup := (all.trans (layer.sorted_perm requests)).nodup_iff.mpr requests.distinct
  exact nodup.of_append_left

/-- A tile that is not in the cache is in a rectangle: grouping drops only what is ignored. -/
theorem mem_rectangles {coords : TileCoords} (member : coords ∈ requests.coordsQueue)
    (uncached : layer.cached coords = false)
    : coords ∈ (layer.rectangles requests.coordsQueue).flatten := by
  have kept := groups_filter_perm closePass Bound.of layer.ignores
    (requests.coordsQueue.insertionSort rowOrder)
  have inSorted : coords ∈ (requests.coordsQueue.insertionSort rowOrder).filter
      (!layer.ignores ·) := by
    rw [List.mem_filter, layer.ignores_eq requests member, uncached]
    exact ⟨(layer.sorted_perm requests).mem_iff.mpr member, rfl⟩
  exact (List.mem_filter.mp (kept.mem_iff.mpr inSorted)).1

/-- No position is listed twice. -/
theorem listedPositions_nodup
    : (listedPositions (layer.addTiles requests.coordsQueue)).Nodup := by
  rw [listedPositions_addTiles]
  apply (layer.rectangles_nodup requests).map_on
  intro coords member other otherMember same
  exact layer.eq_of_twips_eq requests (layer.mem_of_mem_rectangles requests member)
    (layer.mem_of_mem_rectangles requests otherMember) same

/-- The requests are right if and only if the rectangles hold no cached tile. -/
theorem listsUncached_iff_rectangles
    : ListsUncached layer requests.coordsQueue (layer.addTiles requests.coordsQueue)
      ↔ ∀ coords ∈ (layer.rectangles requests.coordsQueue).flatten,
          layer.cached coords = false := by
  constructor
  · intro lists coords member
    obtain ⟨other, otherMember, uncached, same⟩ := lists.noOther (layer.twips coords)
      (by rw [listedPositions_addTiles]; exact List.mem_map_of_mem member)
    have equal := layer.eq_of_twips_eq requests (layer.mem_of_mem_rectangles requests member)
      otherMember same
    exact equal ▸ uncached
  · intro all
    constructor
    · exact layer.addTiles_lengths requests.coordsQueue
    · intro coords member uncached
      apply List.count_eq_one_of_mem (layer.listedPositions_nodup requests)
      rw [listedPositions_addTiles]
      exact List.mem_map_of_mem (layer.mem_rectangles requests member uncached)
    · intro position member
      rw [listedPositions_addTiles] at member
      obtain ⟨coords, listed, rfl⟩ := List.mem_map.mp member
      exact ⟨coords, layer.mem_of_mem_rectangles requests listed, all coords listed, rfl⟩

end GridLayer

end NdcOdfWeb.Client
