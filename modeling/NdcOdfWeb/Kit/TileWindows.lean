import Mathlib.Order.CompletePartialOrder
import NdcOdfWeb.Foundation.Blocks
import NdcOdfWeb.Rendering.InvalidationRequests

/-! The windows of the tiles in the pixmap that a combination is rendered into
(`renderCombinedTiles`).
-/

namespace NdcOdfWeb.Rendering.Rectangle

/-- `Rectangle::extend`. -/
def extend (area rectangle : Rectangle) : Rectangle where
  x1 := if rectangle.x1 < area.x1 then rectangle.x1 else area.x1
  y1 := if rectangle.y1 < area.y1 then rectangle.y1 else area.y1
  x2 := if rectangle.x2 > area.x2 then rectangle.x2 else area.x2
  y2 := if rectangle.y2 > area.y2 then rectangle.y2 else area.y2

/-- `Rectangle::getWidth`. -/
def getWidth (rectangle : Rectangle) : Int32 :=
  rectangle.x2 - rectangle.x1

/-- `Rectangle::getHeight`. -/
def getHeight (rectangle : Rectangle) : Int32 :=
  rectangle.y2 - rectangle.y1

end NdcOdfWeb.Rendering.Rectangle

namespace NdcOdfWeb.Kit

open NdcOdfWeb.Foundation
open NdcOdfWeb.Queue
open NdcOdfWeb.Rendering
open NdcOdfWeb.Tiles

/-- An `int` as a `size_t`. -/
def sizeT (value : Int32) : Nat :=
  (value.toInt % 2 ^ 64).toNat

/-- The rectangle of a tile in the document. -/
def tileRectangle (combined : TileCombined) (tile : TileDesc) : Rectangle :=
  .ofSize tile.tilePosX tile.tilePosY combined.tileWidth combined.tileHeight

/-- The loop that collects the rectangles of the tiles and the area around them. -/
def collectRectangle (combined : TileCombined) (collected : Rectangle × List Rectangle)
    (tile : TileDesc)
    : Rectangle × List Rectangle :=
  let (renderArea, tileRecs) := collected
  let rectangle := tileRectangle combined tile
  (if tileRecs.isEmpty then rectangle else renderArea.extend rectangle, tileRecs ++ [rectangle])

def collectRectangles (combined : TileCombined) : Rectangle × List Rectangle :=
  combined.tiles.foldl (collectRectangle combined)
    (⟨Int32.maxValue, Int32.maxValue, Int32.minValue, Int32.minValue⟩, [])

/-- The area that is rendered. -/
def renderArea (combined : TileCombined) : Rectangle :=
  (collectRectangles combined).1

def tileRecs (combined : TileCombined) : List Rectangle :=
  (collectRectangles combined).2

/-- The pixels of so many tiles of a size, as a `size_t`. -/
def tilesPixels (tiles size : Int32) : Nat :=
  sizeT tiles * sizeT size % 2 ^ 64

def pixmapWidth (combined : TileCombined) : Nat :=
  tilesPixels ((renderArea combined).getWidth / combined.tileWidth) combined.width

def pixmapHeight (combined : TileCombined) : Nat :=
  tilesPixels ((renderArea combined).getHeight / combined.tileHeight) combined.height

/-- The bytes of the pixmap. -/
def pixmapSize (combined : TileCombined) : Nat :=
  4 * pixmapWidth combined * pixmapHeight combined % 2 ^ 64

/-- Where the window of a tile starts, as an `int`. -/
def offsetX (combined : TileCombined) (tileRect : Rectangle) : Int32 :=
  Int32.ofNat
    (tilesPixels ((tileRect.x1 - (renderArea combined).x1) / combined.tileWidth)
      combined.width)

def offsetY (combined : TileCombined) (tileRect : Rectangle) : Int32 :=
  Int32.ofNat
    (tilesPixels ((tileRect.y1 - (renderArea combined).y1) / combined.tileHeight)
      combined.height)

/-- Where row `y` of a window starts in the pixmap, in bytes (`hashSubBuffer` and
`impl_encodeSubBufferToPNG`).
-/
def rowPosition (startX startY y : Nat) (bufferWidth : Int32) : Nat :=
  ((startY + y) * sizeT bufferWidth * 4 + startX * 4) % 2 ^ 64

/-- The bytes of the pixmap that are read for a tile. -/
def windowBytes (combined : TileCombined) (tileRect : Rectangle) : Set Nat :=
  { byte |
    ∃ y k : Nat,
      (y : Int) < combined.height.toInt
      ∧ (k : Int) < combined.width.toInt * 4
      ∧ byte
        = rowPosition (sizeT (offsetX combined tileRect)) (sizeT (offsetY combined tileRect))
            y (Int32.ofNat (pixmapWidth combined))
          + k }

/-- The points of the document that a rectangle covers. -/
def documentArea (rectangle : Rectangle) : Set (Int × Int) :=
  { point |
    (rectangle.x1.toInt ≤ point.1 ∧ point.1 < rectangle.x2.toInt)
    ∧ rectangle.y1.toInt ≤ point.2 ∧ point.2 < rectangle.y2.toInt }

/-- The coordinate arithmetic does not overflow: the far corners of the tiles, and the
numbers of pixels, fit an `int`.
-/
structure FitsInt (combined : TileCombined) : Prop where
  right
    : ∀ tile ∈ combined.tiles, tile.tilePosX.toInt + combined.tileWidth.toInt < 2 ^ 31
  bottom
    : ∀ tile ∈ combined.tiles, tile.tilePosY.toInt + combined.tileHeight.toInt < 2 ^ 31
  width
    : ((renderArea combined).x2.toInt - (renderArea combined).x1.toInt)
          / combined.tileWidth.toInt * combined.width.toInt
        < 2 ^ 31
  height
    : ((renderArea combined).y2.toInt - (renderArea combined).y1.toInt)
          / combined.tileHeight.toInt * combined.height.toInt
        < 2 ^ 31

-----------------------------------------------------------------------------------------
-- The area around the tiles
-----------------------------------------------------------------------------------------

/-- A rectangle of a tile inside the rendered area, at coordinates that are not negative. -/
structure InsideArea (combined : TileCombined) (area rectangle : Rectangle) : Prop where
  left : 0 ≤ area.x1.toInt ∧ area.x1.toInt ≤ rectangle.x1.toInt
  top : 0 ≤ area.y1.toInt ∧ area.y1.toInt ≤ rectangle.y1.toInt
  right
    : rectangle.x2.toInt = rectangle.x1.toInt + combined.tileWidth.toInt
      ∧ rectangle.x2.toInt ≤ area.x2.toInt
  bottom
    : rectangle.y2.toInt = rectangle.y1.toInt + combined.tileHeight.toInt
      ∧ rectangle.y2.toInt ≤ area.y2.toInt

section

variable {combined : TileCombined} {area rectangle other : Rectangle}

/-- Each corner is the smaller or the larger one of the two. -/
theorem toInt_extend (area other : Rectangle)
    : (
        (area.extend other).x1.toInt = min area.x1.toInt other.x1.toInt
        ∧ (area.extend other).y1.toInt = min area.y1.toInt other.y1.toInt
      )
      ∧ (area.extend other).x2.toInt = max area.x2.toInt other.x2.toInt
      ∧ (area.extend other).y2.toInt = max area.y2.toInt other.y2.toInt := by
  unfold Rectangle.extend
  refine ⟨⟨?_, ?_⟩, ?_, ?_⟩ <;> dsimp only <;> split <;>
    simp only [gt_iff_lt, Int32.lt_iff_toInt_lt] at * <;> omega

/-- A rectangle stays inside when the area is extended. -/
theorem InsideArea.extend (inside : InsideArea combined area rectangle)
    (left : 0 ≤ other.x1.toInt) (top : 0 ≤ other.y1.toInt)
    : InsideArea combined (area.extend other) rectangle := by
  obtain ⟨left', top', right', bottom'⟩ := inside
  obtain ⟨⟨x1, y1⟩, x2, y2⟩ := toInt_extend area other
  constructor <;> omega

/-- The area is extended by the rectangle. -/
theorem InsideArea.extended (inside : InsideArea combined other other)
    (left : 0 ≤ area.x1.toInt) (top : 0 ≤ area.y1.toInt)
    : InsideArea combined (area.extend other) other := by
  obtain ⟨left', top', right', bottom'⟩ := inside
  obtain ⟨⟨x1, y1⟩, x2, y2⟩ := toInt_extend area other
  constructor <;> omega

/-- What the constructors check. -/
theorem positive_sizes (combined : TileCombined)
    : (0 < combined.width.toInt ∧ 0 < combined.height.toInt)
      ∧ 0 < combined.tileWidth.toInt ∧ 0 < combined.tileHeight.toInt := by
  have valid := combined.valid
  simp only [invalidCombined, Bool.or_eq_false_iff, decide_eq_false_iff_not,
    Int32.le_iff_toInt_le, Int32.toInt_zero] at valid
  omega

/-- A tile with a negative position is not constructed. -/
theorem nonneg_position (tile : TileDesc) : 0 ≤ tile.tilePosX.toInt ∧ 0 ≤ tile.tilePosY.toInt := by
  have valid := tile.valid
  simp only [invalidDescriptor, Bool.or_eq_false_iff, decide_eq_false_iff_not,
    Int32.lt_iff_toInt_lt, Int32.toInt_zero] at valid
  omega

/-- The rectangle of a tile whose corners fit an `int` is inside itself. -/
theorem tileRectangle_inside {tile : TileDesc}
    (right : tile.tilePosX.toInt + combined.tileWidth.toInt < 2 ^ 31)
    (bottom : tile.tilePosY.toInt + combined.tileHeight.toInt < 2 ^ 31)
    : InsideArea combined (tileRectangle combined tile) (tileRectangle combined tile) := by
  obtain ⟨_, width, height⟩ := positive_sizes combined
  obtain ⟨left, top⟩ := nonneg_position tile
  have x2 := @toInt_add_of_bounds tile.tilePosX combined.tileWidth (by omega) right
  have y2 := @toInt_add_of_bounds tile.tilePosY combined.tileHeight (by omega) bottom
  exact
    ⟨⟨left, Int.le_refl _⟩, ⟨top, Int.le_refl _⟩, ⟨x2, Int.le_refl _⟩, y2, Int.le_refl _⟩

/-- There is one rectangle for each tile. -/
theorem tileRecs_eq (combined : TileCombined)
    : tileRecs combined = combined.tiles.map (tileRectangle combined) := by
  have collect (tiles : List TileDesc) (collected : Rectangle × List Rectangle)
      : (tiles.foldl (collectRectangle combined) collected).2
        = collected.2 ++ tiles.map (tileRectangle combined) := by
    induction tiles generalizing collected with
    | nil => exact (List.append_nil _).symm
    | cons tile tiles ih =>
        rw [List.foldl_cons, ih, List.map_cons, List.append_cons]
        rfl
  exact collect combined.tiles _

/-- The area that was collected is around every rectangle. -/
theorem foldl_collectRectangle {tiles : List TileDesc}
    (right : ∀ tile ∈ tiles, tile.tilePosX.toInt + combined.tileWidth.toInt < 2 ^ 31)
    (bottom : ∀ tile ∈ tiles, tile.tilePosY.toInt + combined.tileHeight.toInt < 2 ^ 31)
    {collected : Rectangle × List Rectangle}
    (before : ∀ rectangle ∈ collected.2, InsideArea combined collected.1 rectangle)
    : ∀ rectangle ∈ (tiles.foldl (collectRectangle combined) collected).2,
        InsideArea combined (tiles.foldl (collectRectangle combined) collected).1 rectangle := by
  induction tiles generalizing collected with
  | nil => exact before
  | cons tile tiles ih =>
      rw [List.forall_mem_cons] at right bottom
      apply ih right.2 bottom.2
      have new := tileRectangle_inside right.1 bottom.1
      obtain ⟨area, tileRecs⟩ := collected
      intro rectangle member
      unfold collectRectangle at member ⊢
      dsimp only at before member ⊢
      cases tileRecs with
      | nil =>
          rw [List.nil_append, List.mem_singleton] at member
          rw [member]
          exact new
      | cons first rest =>
          rw [List.isEmpty_cons, if_neg Bool.false_ne_true]
          rcases List.mem_append.mp member with earlier | last
          · exact (before rectangle earlier).extend new.left.1 new.top.1
          · have around := before first List.mem_cons_self
            rw [List.mem_singleton.mp last]
            exact new.extended around.left.1 around.top.1

/-- The area was extended by every tile's rectangle. -/
theorem FitsInt.inside (fits : FitsInt combined) (member : rectangle ∈ tileRecs combined)
    : InsideArea combined (renderArea combined) rectangle :=
  foldl_collectRectangle fits.right fits.bottom
    (fun _ member => absurd member List.not_mem_nil) rectangle member

end

-----------------------------------------------------------------------------------------
-- One axis
-----------------------------------------------------------------------------------------

/-- A number that is not negative is converted as it is. -/
theorem sizeT_of_nonneg {value : Int32} (nonneg : 0 ≤ value.toInt)
    : (sizeT value : Int) = value.toInt := by
  have upper := value.toInt_lt
  unfold sizeT
  omega

/-- The product of two numbers of 31 bits fits a `size_t`. -/
theorem tilesPixels_eq {tiles size : Int32} (nonneg : 0 ≤ tiles.toInt)
    (positive : 0 < size.toInt)
    : (tilesPixels tiles size : Int) = tiles.toInt * size.toInt := by
  have upper := tiles.toInt_lt
  have upper' := size.toInt_lt
  have bound : tiles.toInt * size.toInt < 2 ^ 64 := by
    calc
      tiles.toInt * size.toInt ≤ 2 ^ 31 * 2 ^ 31 :=
        Int.mul_le_mul upper.le upper'.le positive.le (by decide)
      _ < 2 ^ 64 := by decide
  have product := Int.mul_nonneg nonneg positive.le
  unfold tilesPixels
  rw [Int.natCast_mod, Int.natCast_mul, sizeT_of_nonneg nonneg, sizeT_of_nonneg positive.le]
  exact Int.emod_eq_of_lt product bound

/-- A tile ends before the area does, counted in tiles. -/
theorem position_lt {start finish left size : Int} (positive : 0 < size)
    (right : left + size ≤ finish)
    : (left - start) / size + 1 ≤ (finish - start) / size := by
  have next : (left - start + size) / size = (left - start) / size + 1 := by
    rw [Int.add_ediv_of_dvd_right (Int.dvd_refl size), Int.ediv_self (Int.ne_of_gt positive)]
  rw [← next]
  exact Int.ediv_le_ediv positive (by omega)

/-- Tiles that do not overlap are at different positions. -/
theorem position_ne {start left other size : Int} (positive : 0 < size)
    (apart : left + size ≤ other ∨ other + size ≤ left)
    : (left - start) / size ≠ (other - start) / size := by
  rcases apart with before | after
  · have later := @position_lt start other left size positive before
    omega
  · have later := @position_lt start left other size positive after
    omega

/-- What one axis of a window is: `size` pixels from a multiple of `size` on, inside the
pixmap.
-/
structure AxisWindow (start size : Int32) (position : Int) (pixels : Nat) : Prop where
  nonneg : 0 ≤ position
  start_eq : (sizeT start : Int) = position * size.toInt
  inside : (position + 1) * size.toInt ≤ pixels
  fits : (pixels : Int) < 2 ^ 31

/-- Windows of one size that share a row or column are at one position. -/
theorem AxisWindow.position_eq {start other size : Int32} {position position' : Int}
    {pixels : Nat} (window : AxisWindow start size position pixels)
    (window' : AxisWindow other size position' pixels) (value : Int)
    (inside : sizeT start ≤ value ∧ value < sizeT start + size.toInt)
    (inside' : sizeT other ≤ value ∧ value < sizeT other + size.toInt)
    : position = position' := by
  have positive : 0 < size.toInt := by
    omega
  have next := Int.add_mul position 1 size.toInt
  have next' := Int.add_mul position' 1 size.toInt
  rw [window.start_eq] at inside
  rw [window'.start_eq] at inside'
  have le : position < position' + 1 :=
    Int.lt_of_mul_lt_mul_right (show _ < _ * size.toInt by omega) positive.le
  have ge : position' < position + 1 :=
    Int.lt_of_mul_lt_mul_right (show _ < _ * size.toInt by omega) positive.le
  omega

/-- None of the products and differences overflows. -/
theorem axisWindow {first last left tileSize size : Int32} (nonneg : 0 ≤ first.toInt)
    (le : first.toInt ≤ left.toInt) (right : left.toInt + tileSize.toInt ≤ last.toInt)
    (positive : 0 < tileSize.toInt) (positive' : 0 < size.toInt)
    (fits : (last.toInt - first.toInt) / tileSize.toInt * size.toInt < 2 ^ 31)
    : AxisWindow (Int32.ofNat (tilesPixels ((left - first) / tileSize) size)) size
        ((left.toInt - first.toInt) / tileSize.toInt)
        (tilesPixels ((last - first) / tileSize) size) := by
  have upper := last.toInt_lt
  have span : (last - first).toInt = last.toInt - first.toInt :=
    toInt_sub_of_bounds (by omega) (by omega)
  have inner : (left - first).toInt = left.toInt - first.toInt :=
    toInt_sub_of_bounds (by omega) (by omega)
  have tiles : ((last - first) / tileSize).toInt
      = (last.toInt - first.toInt) / tileSize.toInt := by
    rw [toInt_div_of_nonneg (by omega) positive, span]
  have position : ((left - first) / tileSize).toInt
      = (left.toInt - first.toInt) / tileSize.toInt := by
    rw [toInt_div_of_nonneg (by omega) positive, inner]
  have tilesNonneg : 0 ≤ (last.toInt - first.toInt) / tileSize.toInt :=
    Int.ediv_nonneg (by omega) positive.le
  have positionNonneg : 0 ≤ (left.toInt - first.toInt) / tileSize.toInt :=
    Int.ediv_nonneg (by omega) positive.le
  have pixels := tilesPixels_eq (tiles ▸ tilesNonneg) positive'
  have offset := tilesPixels_eq (position ▸ positionNonneg) positive'
  rw [tiles] at pixels
  rw [position] at offset
  have inside
      : ((left.toInt - first.toInt) / tileSize.toInt + 1) * size.toInt
        ≤ (last.toInt - first.toInt) / tileSize.toInt * size.toInt :=
    Int.mul_le_mul_of_nonneg_right (position_lt positive right) positive'.le
  have next := Int.add_mul ((left.toInt - first.toInt) / tileSize.toInt) 1 size.toInt
  have product := Int.mul_nonneg positionNonneg positive'.le
  refine ⟨positionNonneg, ?_, by omega, by omega⟩
  have small : tilesPixels ((left - first) / tileSize) size < 2 ^ 31 := by
    omega
  rw [← offset, sizeT_of_nonneg]
  · rw [Int32.toInt_ofNat_of_lt small]
  · rw [Int32.toInt_ofNat_of_lt small]
    exact Int.natCast_nonneg _

-----------------------------------------------------------------------------------------
-- The windows
-----------------------------------------------------------------------------------------

section

variable {combined : TileCombined} {tileRect other : Rectangle}

/-- The window of a tile, axis by axis. -/
theorem FitsInt.window (fits : FitsInt combined) (member : tileRect ∈ tileRecs combined)
    : AxisWindow (offsetX combined tileRect) combined.width
          ((tileRect.x1.toInt - (renderArea combined).x1.toInt) / combined.tileWidth.toInt)
          (pixmapWidth combined)
        ∧ AxisWindow (offsetY combined tileRect) combined.height
          ((tileRect.y1.toInt - (renderArea combined).y1.toInt) / combined.tileHeight.toInt)
          (pixmapHeight combined) := by
  obtain ⟨⟨width, height⟩, tileWidth, tileHeight⟩ := positive_sizes combined
  obtain ⟨left, top, right, bottom⟩ := fits.inside member
  exact
    ⟨axisWindow left.1 left.2 (right.1 ▸ right.2) tileWidth width fits.width,
      axisWindow top.1 top.2 (bottom.1 ▸ bottom.2) tileHeight height fits.height⟩

/-- A pixmap whose sides fit an `int` has a size that fits a `size_t`. -/
theorem pixmap_lt {width height : Nat} (width_lt : (width : Int) < 2 ^ 31)
    (height_lt : (height : Int) < 2 ^ 31)
    : height * (width * 4) < 2 ^ 64 := by
  calc
    height * (width * 4) ≤ (2 ^ 31 - 1) * ((2 ^ 31 - 1) * 4) :=
      Nat.mul_le_mul (by omega) (Nat.mul_le_mul_right 4 (by omega))
    _ < 2 ^ 64 := by decide

/-- A byte of a window is in a row and a column of the window. -/
theorem FitsInt.mem_windowBytes (fits : FitsInt combined)
    (member : tileRect ∈ tileRecs combined) {byte : Nat}
    (inside : byte ∈ windowBytes combined tileRect)
    : ∃ row column : Nat,
        (
          column < pixmapWidth combined * 4
          ∧ row < pixmapHeight combined
          ∧ byte = row * (pixmapWidth combined * 4) + column
        )
        ∧ (
          sizeT (offsetX combined tileRect) * 4 ≤ column
          ∧ column < sizeT (offsetX combined tileRect) * 4 + combined.width.toInt * 4
        )
        ∧ sizeT (offsetY combined tileRect) ≤ row
        ∧ row < sizeT (offsetY combined tileRect) + combined.height.toInt := by
  obtain ⟨⟨widthPositive, _⟩, _⟩ := positive_sizes combined
  obtain ⟨columns, rows⟩ := fits.window member
  obtain ⟨y, k, yBound, kBound, rfl⟩ := inside
  have right := columns.inside
  have bottom := rows.inside
  rw [Int.add_mul, ← columns.start_eq] at right
  rw [Int.add_mul, ← rows.start_eq] at bottom
  have column : sizeT (offsetX combined tileRect) * 4 + k < pixmapWidth combined * 4 := by
    omega
  have row : sizeT (offsetY combined tileRect) + y < pixmapHeight combined := by
    omega
  have width : sizeT (Int32.ofNat (pixmapWidth combined)) = pixmapWidth combined := by
    have fits := columns.fits
    have number := Int32.toInt_ofNat_of_lt (n := pixmapWidth combined) (by omega)
    have exact' := @sizeT_of_nonneg (Int32.ofNat (pixmapWidth combined)) (by omega)
    omega
  refine ⟨_, _, ⟨column, row, ?_⟩, ⟨by omega, by omega⟩, by omega, by omega⟩
  have bound : _ < pixmapHeight combined * (pixmapWidth combined * 4) :=
    @rowMajor_lt _ _ _ (sizeT (offsetX combined tileRect) * 4) (by omega) row
  have size := pixmap_lt columns.fits rows.fits
  rw [← Nat.mul_assoc] at bound
  unfold rowPosition
  rw [width, Nat.mod_eq_of_lt (Nat.lt_trans bound size), Nat.mul_assoc, Nat.add_assoc]

/-- The last byte of a window lies inside the pixmap. -/
theorem FitsInt.windowBytes_subset (fits : FitsInt combined)
    (member : tileRect ∈ tileRecs combined)
    : windowBytes combined tileRect ⊆ { byte | byte < pixmapSize combined } := by
  obtain ⟨columns, rows⟩ := fits.window member
  intro byte inside
  obtain ⟨row, column, ⟨column_lt, row_lt, rfl⟩, _⟩ := fits.mem_windowBytes member inside
  have size : pixmapSize combined = pixmapHeight combined * (pixmapWidth combined * 4) := by
    have whole := pixmap_lt columns.fits rows.fits
    rw [Nat.mul_comm] at whole
    unfold pixmapSize
    rw [Nat.mul_comm 4, Nat.mod_eq_of_lt whole, Nat.mul_comm]
  change _ < pixmapSize combined
  rw [size]
  exact rowMajor_lt column_lt row_lt

/-- Areas of the document that do not overlap are apart in one direction. -/
theorem FitsInt.apart (fits : FitsInt combined) (member : tileRect ∈ tileRecs combined)
    (member' : other ∈ tileRecs combined)
    (disjoint : Disjoint (documentArea tileRect) (documentArea other))
    : (
        tileRect.x1.toInt + combined.tileWidth.toInt ≤ other.x1.toInt
        ∨ other.x1.toInt + combined.tileWidth.toInt ≤ tileRect.x1.toInt
      )
      ∨ tileRect.y1.toInt + combined.tileHeight.toInt ≤ other.y1.toInt
      ∨ other.y1.toInt + combined.tileHeight.toInt ≤ tileRect.y1.toInt := by
  obtain ⟨_, tileWidth, tileHeight⟩ := positive_sizes combined
  obtain ⟨_, _, right, bottom⟩ := fits.inside member
  obtain ⟨_, _, right', bottom'⟩ := fits.inside member'
  by_contra overlap
  -- the upper left corner of the overlap
  let corner : Int × Int :=
    (max tileRect.x1.toInt other.x1.toInt, max tileRect.y1.toInt other.y1.toInt)
  have inside : corner ∈ documentArea tileRect := by
    refine ⟨⟨?_, ?_⟩, ?_, ?_⟩ <;> dsimp only [corner] <;> omega
  have inside' : corner ∈ documentArea other := by
    refine ⟨⟨?_, ?_⟩, ?_, ?_⟩ <;> dsimp only [corner] <;> omega
  exact Set.disjoint_left.mp disjoint inside inside'

/-- Disjoint tiles differ in their column or their row. -/
theorem FitsInt.disjoint_windows (fits : FitsInt combined)
    (member : tileRect ∈ tileRecs combined) (member' : other ∈ tileRecs combined)
    (disjoint : Disjoint (documentArea tileRect) (documentArea other))
    : Disjoint (windowBytes combined tileRect) (windowBytes combined other) := by
  obtain ⟨⟨width, height⟩, tileWidth, tileHeight⟩ := positive_sizes combined
  obtain ⟨columns, rows⟩ := fits.window member
  obtain ⟨columns', rows'⟩ := fits.window member'
  rw [Set.disjoint_left]
  intro byte inside inside'
  obtain ⟨row, column, ⟨column_lt, _, byte_eq⟩, inColumns, inRows⟩ :=
    fits.mem_windowBytes member inside
  obtain ⟨row', column', ⟨column_lt', _, byte_eq'⟩, inColumns', inRows'⟩ :=
    fits.mem_windowBytes member' inside'
  obtain ⟨rfl, rfl⟩ := rowMajor_inj column_lt column_lt' (byte_eq.symm.trans byte_eq')
  have sameColumn := columns.position_eq columns' ((column : Int) / 4) (by omega) (by omega)
  have sameRow := rows.position_eq rows' row (by omega) (by omega)
  rcases fits.apart member member' disjoint with byColumn | byRow
  · exact position_ne tileWidth byColumn sameColumn
  · exact position_ne tileHeight byRow sameRow

end

/-- The window of a tile is inside the pixmap. -/
structure InPixmap (combined : TileCombined) (tileRect : Rectangle) : Prop where
  right
    : sizeT (offsetX combined tileRect) + sizeT combined.width ≤ pixmapWidth combined
  bottom
    : sizeT (offsetY combined tileRect) + sizeT combined.height ≤ pixmapHeight combined
  bytes : windowBytes combined tileRect ⊆ { byte | byte < pixmapSize combined }

/-- The window starts and ends inside the pixmap. -/
theorem FitsInt.inPixmap {combined : TileCombined} (fits : FitsInt combined)
    {tileRect : Rectangle} (member : tileRect ∈ tileRecs combined)
    : InPixmap combined tileRect := by
  obtain ⟨⟨width, height⟩, _⟩ := positive_sizes combined
  obtain ⟨columns, rows⟩ := fits.window member
  have right := columns.inside
  have bottom := rows.inside
  rw [Int.add_mul, ← columns.start_eq] at right
  rw [Int.add_mul, ← rows.start_eq] at bottom
  have width_eq := sizeT_of_nonneg width.le
  have height_eq := sizeT_of_nonneg height.le
  exact ⟨by omega, by omega, fits.windowBytes_subset member⟩

/-- Every window is inside the pixmap, and tiles that do not overlap have windows that do
not.
-/
theorem renderCombinedTiles_windows (combined : TileCombined) (fits : FitsInt combined)
    : (∀ tile ∈ combined.tiles, InPixmap combined (tileRectangle combined tile))
      ∧ ∀ tile ∈ combined.tiles,
          ∀ other ∈ combined.tiles,
            Disjoint (documentArea (tileRectangle combined tile))
              (documentArea (tileRectangle combined other))
            → Disjoint (windowBytes combined (tileRectangle combined tile))
              (windowBytes combined (tileRectangle combined other)) := by
  have listed {tile : TileDesc} (member : tile ∈ combined.tiles)
      : tileRectangle combined tile ∈ tileRecs combined := by
    rw [tileRecs_eq]
    exact List.mem_map_of_mem member
  constructor
  · intro tile member
    exact fits.inPixmap (listed member)
  · intro tile member other member' disjoint
    exact fits.disjoint_windows (listed member) (listed member') disjoint

/-- A tile of 256 pixels, at a position. -/
def tileAt (tilePosX tilePosY : Int32)
    (valid : invalidDescriptor 0 0 256 256 tilePosX tilePosY 3840 3840 0 = false)
    : TileDesc where
  normalizedViewId := 0
  part := 0
  width := 256
  height := 256
  tilePosX := tilePosX
  tilePosY := tilePosY
  tileWidth := 3840
  tileHeight := 3840
  ver := -1
  imgSize := 0
  id := -1
  broadcast := false
  oldWireId := 0
  wireId := 0
  valid := valid

/-- The sizes and the position are within the checks. -/
theorem firstWindow_valid : invalidDescriptor 0 0 256 256 3840 0 3840 3840 0 = false := by
  decide

/-- The sizes and the position are within the checks. -/
theorem secondWindow_valid : invalidDescriptor 0 0 256 256 11520 7680 3840 3840 0 = false := by
  decide

/-- The sizes are within the checks. -/
theorem twoTiles_valid : invalidCombined 0 0 256 256 3840 3840 = false := by
  decide

/-- The tile whose window is the first. -/
def firstWindow : TileDesc :=
  tileAt 3840 0 firstWindow_valid

/-- The tile whose window is the second. -/
def secondWindow : TileDesc :=
  tileAt 11520 7680 secondWindow_valid

/-- Both tiles have the sizes of the combination. -/
theorem twoTiles_agree
    : ∀ tile ∈ [firstWindow, secondWindow],
        tile.header = ⟨0, 0, 256, 256, 3840, 3840, -1⟩ ∧ tile.broadcast = false := by
  intro tile member
  rw [List.mem_cons, List.mem_singleton] at member
  rcases member with rfl | rfl <;> exact ⟨rfl, rfl⟩

/-- Two tiles with a gap between them. -/
def twoTiles : TileCombined where
  normalizedViewId := 0
  part := 0
  width := 256
  height := 256
  tileWidth := 3840
  tileHeight := 3840
  id := -1
  tiles := [firstWindow, secondWindow]
  valid := twoTiles_valid
  agree := twoTiles_agree

/-- Two tiles, in different columns and rows. -/
theorem renderCombinedTiles_windows_twoTiles
    : let first := tileRectangle twoTiles firstWindow
      let second := tileRectangle twoTiles secondWindow
      (InPixmap twoTiles first ∧ InPixmap twoTiles second)
      ∧ Disjoint (windowBytes twoTiles first) (windowBytes twoTiles second) := by
  have fits : FitsInt twoTiles := by
    constructor <;> decide +kernel
  have second : secondWindow ∈ twoTiles.tiles := List.mem_cons_of_mem _ List.mem_cons_self
  obtain ⟨inside, apart⟩ := renderCombinedTiles_windows twoTiles fits
  refine ⟨⟨inside _ List.mem_cons_self, inside _ second⟩,
    apart _ List.mem_cons_self _ second ?_⟩
  -- the first tile ends in front of the gap, and the second one begins behind it
  refine Set.disjoint_left.mpr (fun point here there => ?_)
  have right : point.1 < 7680 := here.1.2
  have left : 11520 ≤ point.1 := there.1.1
  omega

end NdcOdfWeb.Kit
