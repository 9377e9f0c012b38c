import NdcOdfWeb.Rendering.CacheFiles
import NdcOdfWeb.Rendering.UniformRequests

/-! The tiles of the visible area that a session requests after an invalidation. -/

namespace NdcOdfWeb.Rendering

open NdcOdfWeb.Foundation
open NdcOdfWeb.Protocol
open NdcOdfWeb.Tiles
open NdcOdfWeb.Queue
open Wsd

-----------------------------------------------------------------------------------------
-- The grid of tiles
-----------------------------------------------------------------------------------------

/-- The session shows tiles: its visible area starts at no negative coordinate, the tiles have a
size, and a part is selected.
-/
structure ShowsTiles (session : TileSession) : Prop where
  hasSurface : session.clientVisibleArea.hasSurface = true
  left : 0 ≤ session.clientVisibleArea.x1.toInt
  top : 0 ≤ session.clientVisibleArea.y1.toInt
  widthPixel : 0 < session.tileWidthPixel.toInt
  heightPixel : 0 < session.tileHeightPixel.toInt
  widthTwips : 0 < session.tileWidthTwips.toInt
  heightTwips : 0 < session.tileHeightTwips.toInt
  part : 0 ≤ session.clientSelectedPart.toInt

/-- The points of a rectangle, with its border. -/
def Rectangle.area (rectangle : Rectangle) : Set (Int × Int) :=
  closedArea rectangle.x1.toInt rectangle.y1.toInt rectangle.x2.toInt rectangle.y2.toInt

/-- The points that the tile in the row `i` and the column `j` of the grid shows: each point is
shown by one tile.
-/
def gridCell (session : TileSession) (i j : Int) : Set (Int × Int) :=
  Set.Ico (j * session.tileWidthTwips.toInt)
      (j * session.tileWidthTwips.toInt + session.tileWidthTwips.toInt)
    ×ˢ Set.Ico (i * session.tileHeightTwips.toInt)
        (i * session.tileHeightTwips.toInt + session.tileHeightTwips.toInt)

/-- The rectangle of this tile, with its border. -/
def gridRectangle (session : TileSession) (i j : Int) : Set (Int × Int) :=
  closedArea (j * session.tileWidthTwips.toInt) (i * session.tileHeightTwips.toInt)
    (j * session.tileWidthTwips.toInt + session.tileWidthTwips.toInt)
    (i * session.tileHeightTwips.toInt + session.tileHeightTwips.toInt)

/-- The tile of this place, as the session sees it. -/
structure GridTile (session : TileSession) (i j : Int) (tile : TileDesc) : Prop where
  posX : tile.tilePosX.toInt = j * session.tileWidthTwips.toInt
  posY : tile.tilePosY.toInt = i * session.tileHeightTwips.toInt
  header
    : tile.header
      = ⟨session.canonicalViewId.1, session.clientSelectedPart, session.tileWidthPixel,
          session.tileHeightPixel, session.tileWidthTwips, session.tileHeightTwips, -1⟩

/-- The place is in the index range of the visible area. -/
structure InVisibleRange (session : TileSession) (i j : Int) : Prop where
  top : session.clientVisibleArea.y1.toInt / session.tileHeightTwips.toInt ≤ i
  bottom : i ≤ session.clientVisibleArea.y2.toInt / session.tileHeightTwips.toInt
  left : session.clientVisibleArea.x1.toInt / session.tileWidthTwips.toInt ≤ j
  right : j ≤ session.clientVisibleArea.x2.toInt / session.tileWidthTwips.toInt

/-- A division of such numbers rounds down and never overflows. -/
theorem toInt_div_of_nonneg {value size : Int32} (nonneg : 0 ≤ value.toInt)
    (positive : 0 < size.toInt)
    : (value / size).toInt = value.toInt / size.toInt := by
  have upper := value.toInt_lt
  have most := Int.ediv_le_self size.toInt nonneg
  have least := Int.ediv_nonneg nonneg positive.le
  rw [Int32.toInt_div, Int.tdiv_eq_ediv_of_nonneg nonneg, Int.bmod_def]
  split_ifs <;> omega

/-- The loop counts from the first index to the last one. -/
theorem mem_tileRange {first last index : Int32} (nonneg : 0 ≤ first.toInt)
    : index ∈ tileRange first last
      ↔ first.toInt ≤ index.toInt ∧ index.toInt ≤ last.toInt := by
  have upper := last.toInt_lt
  have number (i : Nat) (inside : i < (last.toInt - first.toInt + 1).toNat)
      : (first + Int32.ofNat i).toInt = first.toInt + i := by
    have small : i < 2 ^ 31 := by omega
    rw [Int32.toInt_add, Int32.toInt_ofNat_of_lt small, Int.bmod_def]
    split_ifs <;> omega
  unfold tileRange
  rw [List.mem_map]
  constructor
  · rintro ⟨i, member, rfl⟩
    have inside := List.mem_range.mp member
    rw [number i inside]
    omega
  · rintro ⟨least, most⟩
    have inside
        : (index.toInt - first.toInt).toNat < (last.toInt - first.toInt + 1).toNat := by
      omega
    refine ⟨(index.toInt - first.toInt).toNat, List.mem_range.mpr inside, ?_⟩
    apply Int32.toInt_inj.mp
    rw [number _ inside]
    omega

/-- In one direction, a tile shows a point of the area exactly if its index is in the range. -/
theorem shows_iff {size index first last : Int} (positive : 0 < size) (ordered : first ≤ last)
    : (Set.Ico (index * size) (index * size + size) ∩ Set.Icc first last).Nonempty
      ↔ first / size ≤ index ∧ index ≤ last / size := by
  have lower : first / size ≤ index ↔ first < index * size + size := by
    rw [← Int.lt_add_one_iff, Int.ediv_lt_iff_lt_mul positive, Int.add_mul, Int.one_mul]
  rw [Int.le_ediv_iff_mul_le positive, lower]
  constructor
  · rintro ⟨point, ⟨atLeast, less⟩, behind, before⟩
    omega
  · rintro ⟨below, above⟩
    refine ⟨max (index * size) first, ⟨?_, ?_⟩, ?_, ?_⟩ <;> omega

/-- A cell of the grid meets the visible area if its indexes lie in the ranges. -/
theorem gridCell_meets {session : TileSession} (shows' : ShowsTiles session) {i j : Int}
    : (gridCell session i j ∩ session.clientVisibleArea.area).Nonempty
      ↔ InVisibleRange session i j := by
  have surface := shows'.hasSurface
  simp only [Rectangle.hasSurface, Bool.and_eq_true, decide_eq_true_eq,
    Int32.lt_iff_toInt_lt] at surface
  have product
      : session.clientVisibleArea.area
        = Set.Icc session.clientVisibleArea.x1.toInt session.clientVisibleArea.x2.toInt
            ×ˢ Set.Icc session.clientVisibleArea.y1.toInt session.clientVisibleArea.y2.toInt :=
    (Set.Icc_prod_Icc ..).symm
  rw [gridCell, product, Set.prod_inter_prod, Set.prod_nonempty_iff,
    shows_iff shows'.widthTwips surface.1.le, shows_iff shows'.heightTwips surface.2.le]
  exact ⟨fun both => ⟨both.2.1, both.2.2, both.1.1, both.1.2⟩,
    fun range => ⟨⟨range.left, range.right⟩, range.top, range.bottom⟩⟩

-----------------------------------------------------------------------------------------
-- The tiles that an invalidation affects
-----------------------------------------------------------------------------------------

/-- Two areas meet if both their projections do. -/
theorem closedArea_inter {x y right bottom x' y' right' bottom' : Int}
    : (closedArea x y right bottom ∩ closedArea x' y' right' bottom').Nonempty
      ↔ max x x' ≤ min right right' ∧ max y y' ≤ min bottom bottom' := by
  rw [closedArea, closedArea, Set.Icc_inter_Icc, Set.nonempty_Icc]
  exact Prod.mk_le_mk

/-- An edge that does not fit into an `int` lies in front of the tile, which meets nothing. -/
theorem intersects_ofSize {rectangle : Rectangle} {x y width height : Int32}
    (left : 0 ≤ x.toInt) (top : 0 ≤ y.toInt) (wide : 0 < width.toInt) (high : 0 < height.toInt)
    : rectangle.intersects (.ofSize x y width height) = true
      ↔ x.toInt + width.toInt < 2 ^ 31
        ∧ y.toInt + height.toInt < 2 ^ 31
        ∧ (closedArea x.toInt y.toInt (x.toInt + width.toInt) (y.toInt + height.toInt)
            ∩ rectangle.area).Nonempty := by
  have edge {start size : Int32} (nonneg : 0 ≤ start.toInt) (positive : 0 < size.toInt)
      : (start + size).toInt
        = if start.toInt + size.toInt < 2 ^ 31 then start.toInt + size.toInt
          else start.toInt + size.toInt - 2 ^ 32 := by
    rw [toInt_add_wraps, wrapped]
    split_ifs <;> omega
  have upperX := x.toInt_lt
  have upperY := y.toInt_lt
  have upperWidth := width.toInt_lt
  have upperHeight := height.toInt_lt
  rw [Rectangle.area, closedArea_inter, Rectangle.intersects, Bool.and_eq_true,
    decide_eq_true_eq, decide_eq_true_eq, Int32.le_iff_toInt_le, Int32.le_iff_toInt_le,
    toInt_max, toInt_max, toInt_min, toInt_min]
  dsimp only [Rectangle.ofSize]
  rw [edge left wide, edge top high]
  constructor
  · rintro ⟨horizontal, vertical⟩
    split_ifs at horizontal vertical <;> omega
  · rintro ⟨right, bottom, horizontal, vertical⟩
    rw [if_pos right, if_pos bottom]
    omega

/-- By induction on the values read. -/
theorem mapM_ok {α β : Type} {read : α → Except Exception β} {values : List α}
    (reads : ∀ value ∈ values, ∃ result, read value = .ok result)
    : ∃ results,
        values.mapM read = .ok results
        ∧ ∀ value ∈ values, ∀ result, read value = .ok result → result ∈ results := by
  induction values with
  | nil => exact ⟨[], rfl, fun _ member => absurd member List.not_mem_nil⟩
  | cons value values ih =>
      obtain ⟨first, here⟩ := reads value List.mem_cons_self
      obtain ⟨rest, later, members⟩ :=
        ih (fun other member => reads other (List.mem_cons_of_mem value member))
      refine ⟨first :: rest, ?_, ?_⟩
      · rw [List.mapM_cons, here, later]
        rfl
      · intro other member result read'
        rcases List.mem_cons.mp member with rfl | inside
        · rw [here] at read'
          cases read'
          exact List.mem_cons_self
        · exact List.mem_cons_of_mem first (members other inside result read')

/-- The index of a tile, times its size. -/
theorem toInt_mul_index {index size last : Int32} (nonneg : 0 ≤ index.toInt)
    (positive : 0 < size.toInt) (most : index.toInt ≤ last.toInt / size.toInt)
    : (index * size).toInt = index.toInt * size.toInt ∧ 0 ≤ index.toInt * size.toInt := by
  have least := Int.mul_nonneg nonneg positive.le
  have below := (Int.le_ediv_iff_mul_le positive).mp most
  have upper := last.toInt_lt
  refine ⟨?_, least⟩
  rw [Int32.toInt_mul, Int.bmod_def]
  split_ifs <;> omega

/-- The tile that `ClientSession::handleTileInvalidation` makes for a place. -/
def readInvalidTile (session : TileSession) (part : Int32) (position : Int32 × Int32)
    : Except Exception TileDesc := do
  let tile ←
    TileDesc.make session.canonicalViewId.1 part session.tileWidthPixel
      session.tileHeightPixel position.1 position.2 session.tileWidthTwips
      session.tileHeightTwips (-1) 0 (-1) false
  return {
    tile with
    oldWireId := (session.oldWireIds (generateTileID tile)).getD 0
    wireId := 0
  }

/-- A position that is not negative makes a tile of the session's sizes. -/
theorem readInvalidTile_ok {session : TileSession} (shows' : ShowsTiles session)
    {position : Int32 × Int32} (left : 0 ≤ position.1.toInt) (top : 0 ≤ position.2.toInt)
    : ∃ tile,
        readInvalidTile session session.clientSelectedPart position = .ok tile
        ∧ tile.tilePosX = position.1
        ∧ tile.tilePosY = position.2
        ∧ tile.header
          = ⟨session.canonicalViewId.1, session.clientSelectedPart, session.tileWidthPixel,
              session.tileHeightPixel, session.tileWidthTwips, session.tileHeightTwips, -1⟩ := by
  obtain ⟨-, -, -, widthPixel, heightPixel, widthTwips, heightTwips, part⟩ := shows'
  have view := session.canonicalViewId.2
  have valid
      : ¬ invalidDescriptor session.canonicalViewId.1 session.clientSelectedPart
            session.tileWidthPixel session.tileHeightPixel position.1 position.2
            session.tileWidthTwips session.tileHeightTwips 0 = true := by
    simp only [invalidDescriptor, Bool.or_eq_true, decide_eq_true_eq, Int32.lt_iff_toInt_lt,
      Int32.le_iff_toInt_le, Int32.toInt_zero] at view ⊢
    omega
  unfold readInvalidTile TileDesc.make
  rw [dif_neg valid]
  exact ⟨_, rfl, rfl, rfl, rfl⟩

/-- The places that are looked at. -/
theorem mem_positions {session : TileSession} (shows' : ShowsTiles session)
    {row column : Int32}
    : (row ∈ tileRange (session.getNormalizedVisibleArea.y1 / session.tileHeightTwips)
          (session.getNormalizedVisibleArea.y2 / session.tileHeightTwips)
        ∧ column ∈ tileRange (session.getNormalizedVisibleArea.x1 / session.tileWidthTwips)
            (session.getNormalizedVisibleArea.x2 / session.tileWidthTwips))
      ↔ InVisibleRange session row.toInt column.toInt := by
  have surface := shows'.hasSurface
  simp only [Rectangle.hasSurface, Bool.and_eq_true, decide_eq_true_eq,
    Int32.lt_iff_toInt_lt] at surface
  obtain ⟨-, left, top, -, -, widthTwips, heightTwips, -⟩ := shows'
  have normalized {edge : Int32} (nonneg : 0 ≤ edge.toInt) : max edge 0 = edge := by
    apply Int32.toInt_inj.mp
    rw [toInt_max, Int32.toInt_zero]
    omega
  simp only [TileSession.getNormalizedVisibleArea, normalized left, normalized top]
  have firstRow := toInt_div_of_nonneg top heightTwips
  have firstColumn := toInt_div_of_nonneg left widthTwips
  rw [mem_tileRange (by rw [firstRow]; exact Int.ediv_nonneg top heightTwips.le),
    mem_tileRange (by rw [firstColumn]; exact Int.ediv_nonneg left widthTwips.le),
    firstRow, firstColumn, toInt_div_of_nonneg (top.trans surface.2.le) heightTwips,
    toInt_div_of_nonneg (left.trans surface.1.le) widthTwips]
  exact ⟨fun both => ⟨both.1.1, both.1.2, both.2.1, both.2.2⟩,
    fun range => ⟨⟨range.top, range.bottom⟩, range.left, range.right⟩⟩

/-- The places of the tiles that are affected. -/
def affectedPositions (session : TileSession) (invalidateRect : Rectangle)
    : List (Int32 × Int32) :=
  let area := session.getNormalizedVisibleArea
  let rows := tileRange (area.y1 / session.tileHeightTwips) (area.y2 / session.tileHeightTwips)
  let columns := tileRange (area.x1 / session.tileWidthTwips) (area.x2 / session.tileWidthTwips)
  (rows.flatMap (fun i =>
    columns.map (fun j => (j * session.tileWidthTwips, i * session.tileHeightTwips)))).filter
    (fun position =>
      invalidateRect.intersects
        (.ofSize position.1 position.2 session.tileWidthTwips session.tileHeightTwips))

/-- The tiles are read one after the other, at the affected positions. -/
theorem invalidTiles_eq (session : TileSession) (part : Int32) (invalidateRect : Rectangle)
    : invalidTiles session part invalidateRect
      = (affectedPositions session invalidateRect).mapM (readInvalidTile session part) :=
  rfl

/-- An affected place is one of the grid, and its rectangle meets the invalidated one. -/
structure Affected (session : TileSession) (invalidateRect : Rectangle) (i j : Int) : Prop where
  visible : InVisibleRange session i j
  right : j * session.tileWidthTwips.toInt + session.tileWidthTwips.toInt < 2 ^ 31
  bottom : i * session.tileHeightTwips.toInt + session.tileHeightTwips.toInt < 2 ^ 31
  meets : (gridRectangle session i j ∩ invalidateRect.area).Nonempty

/-- The two loops visit the pairs of affected indexes. -/
theorem mem_affectedPositions {session : TileSession} (shows' : ShowsTiles session)
    {invalidateRect : Rectangle} {position : Int32 × Int32}
    : position ∈ affectedPositions session invalidateRect
      ↔ ∃ i j,
          Affected session invalidateRect i j
          ∧ position.1.toInt = j * session.tileWidthTwips.toInt
          ∧ position.2.toInt = i * session.tileHeightTwips.toInt := by
  have product {row column : Int32} (range : InVisibleRange session row.toInt column.toInt)
      : ((column * session.tileWidthTwips).toInt = column.toInt * session.tileWidthTwips.toInt
          ∧ 0 ≤ column.toInt * session.tileWidthTwips.toInt)
        ∧ (row * session.tileHeightTwips).toInt = row.toInt * session.tileHeightTwips.toInt
          ∧ 0 ≤ row.toInt * session.tileHeightTwips.toInt :=
    ⟨toInt_mul_index ((Int.ediv_nonneg shows'.left shows'.widthTwips.le).trans range.left)
        shows'.widthTwips range.right,
      toInt_mul_index ((Int.ediv_nonneg shows'.top shows'.heightTwips.le).trans range.top)
        shows'.heightTwips range.bottom⟩
  unfold affectedPositions
  dsimp only
  rw [List.mem_filter, List.mem_flatMap]
  constructor
  · rintro ⟨⟨row, isRow, inRow⟩, affected⟩
    obtain ⟨column, isColumn, rfl⟩ := List.mem_map.mp inRow
    have range := (mem_positions shows').mp ⟨isRow, isColumn⟩
    obtain ⟨⟨posX, left⟩, posY, top⟩ := product range
    have fits := (intersects_ofSize (posX ▸ left) (posY ▸ top) shows'.widthTwips
      shows'.heightTwips).mp affected
    dsimp only at fits ⊢
    rw [posX, posY] at fits
    exact ⟨row.toInt, column.toInt, ⟨range, fits.1, fits.2.1, fits.2.2⟩, posX, posY⟩
  · rintro ⟨i, j, ⟨range, right, bottom, meets⟩, posX, posY⟩
    have index {number last size : Int32} {i : Int} (most : i ≤ last.toInt / size.toInt)
        (least : number.toInt / size.toInt ≤ i) (nonneg : 0 ≤ number.toInt)
        (positive : 0 < size.toInt) (ordered : number.toInt ≤ last.toInt)
        : (Int32.ofInt i).toInt = i := by
      have least' := Int.ediv_nonneg nonneg positive.le
      have most' := Int.ediv_le_self size.toInt (nonneg.trans ordered)
      have upper := last.toInt_lt
      exact Int32.toInt_ofInt_of_le (by omega) (by omega)
    have surface := shows'.hasSurface
    simp only [Rectangle.hasSurface, Bool.and_eq_true, decide_eq_true_eq,
      Int32.lt_iff_toInt_lt] at surface
    have row := index range.bottom range.top shows'.top shows'.heightTwips surface.2.le
    have column := index range.right range.left shows'.left shows'.widthTwips surface.1.le
    have range' : InVisibleRange session (Int32.ofInt i).toInt (Int32.ofInt j).toInt := by
      rw [row, column]
      exact range
    obtain ⟨⟨posX', left⟩, posY', top⟩ := product range'
    obtain ⟨isRow, isColumn⟩ := (mem_positions shows').mpr range'
    rw [column] at posX' left
    rw [row] at posY' top
    have same
        : position
          = (Int32.ofInt j * session.tileWidthTwips, Int32.ofInt i * session.tileHeightTwips) :=
      Prod.ext (Int32.toInt_inj.mp (posX.trans posX'.symm))
        (Int32.toInt_inj.mp (posY.trans posY'.symm))
    refine ⟨⟨Int32.ofInt i, isRow, List.mem_map.mpr ⟨Int32.ofInt j, isColumn, same.symm⟩⟩, ?_⟩
    apply (intersects_ofSize (posX ▸ left) (posY ▸ top) shows'.widthTwips
      shows'.heightTwips).mpr
    rw [posX, posY]
    exact ⟨right, bottom, meets⟩

/-- The affected places and the tiles that are made for them. -/
theorem invalidTiles_spec {session : TileSession} (shows' : ShowsTiles session)
    (invalidateRect : Rectangle)
    : ∃ tiles,
        invalidTiles session session.clientSelectedPart invalidateRect = .ok tiles
        ∧ (∀ i j,
            Affected session invalidateRect i j → ∃ tile ∈ tiles, GridTile session i j tile)
        ∧ ∀ tile ∈ tiles, ∃ i j, Affected session invalidateRect i j ∧ GridTile session i j tile := by
  have nonneg {i j : Int} (affected : Affected session invalidateRect i j)
      : 0 ≤ j * session.tileWidthTwips.toInt ∧ 0 ≤ i * session.tileHeightTwips.toInt :=
    ⟨Int.mul_nonneg
        ((Int.ediv_nonneg shows'.left shows'.widthTwips.le).trans affected.visible.left)
        shows'.widthTwips.le,
      Int.mul_nonneg
        ((Int.ediv_nonneg shows'.top shows'.heightTwips.le).trans affected.visible.top)
        shows'.heightTwips.le⟩
  have reads (position : Int32 × Int32)
      (member : position ∈ affectedPositions session invalidateRect)
      : ∃ i j, Affected session invalidateRect i j
          ∧ ∃ tile, readInvalidTile session session.clientSelectedPart position = .ok tile
            ∧ GridTile session i j tile := by
    obtain ⟨i, j, affected, posX, posY⟩ := (mem_affectedPositions shows').mp member
    obtain ⟨left, top⟩ := nonneg affected
    obtain ⟨tile, read, atX, atY, header⟩ :=
      readInvalidTile_ok shows' (posX ▸ left) (posY ▸ top)
    exact ⟨i, j, affected, tile, read, atX ▸ posX, atY ▸ posY, header⟩
  have readable
      : ∀ position ∈ affectedPositions session invalidateRect,
          ∃ tile, readInvalidTile session session.clientSelectedPart position = .ok tile := by
    intro position member
    obtain ⟨i, j, -, tile, read, -⟩ := reads position member
    exact ⟨tile, read⟩
  obtain ⟨tiles, made, all⟩ := mapM_ok readable
  refine ⟨tiles, invalidTiles_eq .. ▸ made, ?_, ?_⟩
  · intro i j affected
    obtain ⟨left, top⟩ := nonneg affected
    have fitX
        : (Int32.ofInt (j * session.tileWidthTwips.toInt)).toInt
          = j * session.tileWidthTwips.toInt := by
      have size := shows'.widthTwips
      have right := affected.right
      exact Int32.toInt_ofInt_of_le (by omega) (by omega)
    have fitY
        : (Int32.ofInt (i * session.tileHeightTwips.toInt)).toInt
          = i * session.tileHeightTwips.toInt := by
      have size := shows'.heightTwips
      have bottom := affected.bottom
      exact Int32.toInt_ofInt_of_le (by omega) (by omega)
    have member
        : (Int32.ofInt (j * session.tileWidthTwips.toInt),
            Int32.ofInt (i * session.tileHeightTwips.toInt))
          ∈ affectedPositions session invalidateRect :=
      (mem_affectedPositions shows').mpr ⟨i, j, affected, fitX, fitY⟩
    obtain ⟨tile, read, atX, atY, header⟩ := @readInvalidTile_ok session shows'
      (Int32.ofInt (j * session.tileWidthTwips.toInt),
        Int32.ofInt (i * session.tileHeightTwips.toInt))
      (by rw [fitX]; exact left) (by rw [fitY]; exact top)
    exact ⟨tile, all _ member tile read, atX ▸ fitX, atY ▸ fitY, header⟩
  · intro tile member
    obtain ⟨position, inside, read⟩ := mem_of_mapM made tile member
    obtain ⟨i, j, affected, other, read', grid⟩ := reads position inside
    rw [read] at read'
    cases read'
    exact ⟨i, j, affected, grid⟩

-----------------------------------------------------------------------------------------
-- The request
-----------------------------------------------------------------------------------------

/-- The combined request names the same tiles. -/
theorem GridTile.combined {session : TileSession} {i j : Int} {tile : TileDesc}
    (grid : GridTile session i j tile)
    : GridTile session i j
        (tile.component.setNormalizedViewId session.canonicalViewId.1
          session.canonicalViewId.2) := by
  obtain ⟨posX, posY, header⟩ := grid
  refine ⟨posX, posY, ?_⟩
  have fields := header
  simp only [TileDesc.header, TileHeader.mk.injEq] at fields
  simp only [TileDesc.header, TileDesc.setNormalizedViewId, TileDesc.component,
    TileHeader.mk.injEq, true_and, and_true]
  exact ⟨fields.2.1, fields.2.2.1, fields.2.2.2.1, fields.2.2.2.2.1, fields.2.2.2.2.2.1⟩

/-- The four comparisons, as a common point of the two areas. -/
theorem Rectangle.intersects_iff {rectangle other : Rectangle}
    : rectangle.intersects other = true ↔ (rectangle.area ∩ other.area).Nonempty := by
  rw [Rectangle.area, Rectangle.area, closedArea_inter, Rectangle.intersects, Bool.and_eq_true,
    decide_eq_true_eq, decide_eq_true_eq, Int32.le_iff_toInt_le, Int32.le_iff_toInt_le,
    toInt_max, toInt_max, toInt_min, toInt_min]

/-- The invalidation names the selected part, or none. -/
def OfSelectedPart (session : TileSession) (part : Int32) : Prop :=
  part = -1 ∨ part = session.clientSelectedPart

/-- What is requested after an invalidation that meets the visible area. -/
theorem invalidationTiles_spec {session : TileSession} (shows' : ShowsTiles session)
    {part : Int32} (selected : OfSelectedPart session part) {invalidateRect : Rectangle}
    (meets : (session.clientVisibleArea.area ∩ invalidateRect.area).Nonempty)
    : (∀ i j,
        Affected session invalidateRect i j
        → ∃ tile ∈ invalidationTiles session part invalidateRect, GridTile session i j tile)
      ∧ ∀ tile ∈ invalidationTiles session part invalidateRect,
          ∃ i j, Affected session invalidateRect i j ∧ GridTile session i j tile := by
  have known
      : ¬ (!session.clientVisibleArea.hasSurface
          || session.tileWidthPixel = 0 || session.tileHeightPixel = 0
          || session.tileWidthTwips = 0 || session.tileHeightTwips = 0
          || (session.clientSelectedPart = -1 && !session.isTextDocument)) = true := by
    have zero {value : Int32} (positive : 0 < value.toInt) : value ≠ 0 := by
      rintro rfl
      exact absurd positive (by decide)
    have chosen : session.clientSelectedPart ≠ -1 := by
      intro none'
      have nonneg := shows'.part
      rw [none'] at nonneg
      exact absurd nonneg (by decide)
    simp [shows'.hasSurface, zero shows'.widthPixel, zero shows'.heightPixel,
      zero shows'.widthTwips, zero shows'.heightTwips, chosen]
  have normalized : session.getNormalizedVisibleArea = session.clientVisibleArea := by
    have same {edge : Int32} (nonneg : 0 ≤ edge.toInt) : max edge 0 = edge := by
      apply Int32.toInt_inj.mp
      rw [toInt_max, Int32.toInt_zero]
      omega
    rw [TileSession.getNormalizedVisibleArea, same shows'.left, same shows'.top]
  have inside : session.getNormalizedVisibleArea.intersects invalidateRect = true := by
    rw [normalized]
    exact Rectangle.intersects_iff.mpr meets
  have chosen
      : (if part = -1 then session.clientSelectedPart else part)
        = session.clientSelectedPart := by
    rcases selected with rfl | rfl
    · rfl
    · split <;> rfl
  obtain ⟨tiles, made, all, only⟩ := invalidTiles_spec shows' invalidateRect
  unfold invalidationTiles
  rw [if_neg known, if_neg (by simp [inside])]
  dsimp only
  rw [chosen, if_pos (by simp), made]
  cases tiles with
  | nil =>
      refine ⟨?_, fun _ member => absurd member List.not_mem_nil⟩
      intro i j affected
      obtain ⟨tile, member, -⟩ := all i j affected
      exact absurd member List.not_mem_nil
  | cons first others =>
      obtain ⟨combined, created, -, -⟩ := @TileCombined.create_eq first others (by
        intro tile member
        have here := (invalidTiles_tile made tile (List.mem_cons_of_mem first member)).2.2
        have there := (invalidTiles_tile made first List.mem_cons_self).2.2
        exact congrArg (fun header : TileHeader => { header with id := -1 })
          (here.trans there.symm))
      have components := create_invalidTiles made created
      simp only [created]
      refine ⟨?_, ?_⟩
      · intro i j affected
        obtain ⟨tile, member, grid⟩ := all i j affected
        refine ⟨_, List.mem_map_of_mem ?_, grid.combined⟩
        rw [components]
        exact List.mem_map_of_mem member
      · intro tile member
        obtain ⟨component, isComponent, rfl⟩ := List.mem_map.mp member
        rw [components] at isComponent
        obtain ⟨source, isSource, rfl⟩ := List.mem_map.mp isComponent
        obtain ⟨i, j, affected, grid⟩ := only source isSource
        exact ⟨i, j, affected, grid.combined⟩

/-- All tiles that show something of the visible area and meet the invalidated rectangle are
requested.
-/
def RequestsMeeting (session : TileSession) (part : Int32) (invalidateRect : Rectangle) : Prop :=
  ∀ i j,
    (gridCell session i j ∩ session.clientVisibleArea.area).Nonempty
    → (gridRectangle session i j ∩ invalidateRect.area).Nonempty
    → ∃ tile ∈ invalidationTiles session part invalidateRect, GridTile session i j tile

/-- An invalidation that meets the visible area is a request for exactly the tiles that show
something of it and meet the invalidated rectangle, as far as their edges fit into an `int`.
-/
theorem handleTileInvalidation_requests {S : Type} [LinearOrder S] (upperLimit : Int32 → Nat)
    (world : World) (wsd : Wsd S) (id : S) {part : Int32} {invalidateRect : Rectangle}
    (shows' : ShowsTiles (wsd.session id)) (selected : OfSelectedPart (wsd.session id) part)
    (meets : ((wsd.session id).clientVisibleArea.area ∩ invalidateRect.area).Nonempty)
    : wsd.handleTileInvalidation upperLimit world id part invalidateRect
        = (if invalidationTiles (wsd.session id) part invalidateRect = [] then wsd
          else
            wsd.handleTileCombinedRequest upperLimit world
              (invalidationTiles (wsd.session id) part invalidateRect) id)
      ∧ (∀ i j,
          (gridCell (wsd.session id) i j ∩ (wsd.session id).clientVisibleArea.area).Nonempty
          → (gridRectangle (wsd.session id) i j ∩ invalidateRect.area).Nonempty
          → j * (wsd.session id).tileWidthTwips.toInt + (wsd.session id).tileWidthTwips.toInt
            < 2 ^ 31
          → i * (wsd.session id).tileHeightTwips.toInt + (wsd.session id).tileHeightTwips.toInt
            < 2 ^ 31
          → ∃ tile ∈ invalidationTiles (wsd.session id) part invalidateRect,
              GridTile (wsd.session id) i j tile)
      ∧ ∀ tile ∈ invalidationTiles (wsd.session id) part invalidateRect,
          ∃ i j,
            GridTile (wsd.session id) i j tile
            ∧ InVisibleRange (wsd.session id) i j
            ∧ (gridRectangle (wsd.session id) i j ∩ invalidateRect.area).Nonempty := by
  obtain ⟨all, only⟩ := invalidationTiles_spec shows' selected meets
  refine ⟨handleTileInvalidation_eq .., ?_, ?_⟩
  · intro i j visible affected right bottom
    exact all i j ⟨(gridCell_meets shows').mp visible, right, bottom, affected⟩
  · intro tile member
    obtain ⟨i, j, affected, grid⟩ := only tile member
    exact ⟨i, j, grid, affected.visible, affected.meets⟩

/-- A session that sees the upper left corner of the first tile. -/
def cornerSession : TileSession :=
  {
    TileSession.new ⟨0, firstView_nonneg⟩ with
    clientVisibleArea := .ofSize 0 0 1000 1000
    clientSelectedPart := 0
    tileWidthPixel := 256
    tileHeightPixel := 256
    tileWidthTwips := 3840
    tileHeightTwips := 3840
  }

/-- All its sizes are positive, and its products fit. -/
theorem cornerSession_shows : ShowsTiles cornerSession :=
  ⟨by decide, by decide, by decide, by decide, by decide, by decide, by decide, by decide⟩

/-- The first tile is visible and meets the rectangle, so it is requested, and no other tile. -/
theorem handleTileInvalidation_requests_corner
    : let wsd : Wsd Nat := ⟨[0], fun _ => cornerSession, [], 0, [], []⟩
      let tiles := invalidationTiles cornerSession (-1) (.ofSize 500 500 100 100)
      wsd.handleTileInvalidation (fun _ => 10) emptyCache 0 (-1) (.ofSize 500 500 100 100)
          = (if tiles = [] then wsd
            else wsd.handleTileCombinedRequest (fun _ => 10) emptyCache tiles 0)
        ∧ (∃ tile ∈ tiles, GridTile cornerSession 0 0 tile)
        ∧ ∀ tile ∈ tiles,
            ∃ i j,
              GridTile cornerSession i j tile
              ∧ InVisibleRange cornerSession i j
              ∧ (gridRectangle cornerSession i j
                  ∩ (Rectangle.ofSize 500 500 100 100).area).Nonempty := by
  have visible : (gridCell cornerSession 0 0 ∩ cornerSession.clientVisibleArea.area).Nonempty :=
    (gridCell_meets cornerSession_shows).mpr ⟨by decide, by decide, by decide, by decide⟩
  have affected
      : (gridRectangle cornerSession 0 0 ∩ (Rectangle.ofSize 500 500 100 100).area).Nonempty :=
    closedArea_inter.mpr ⟨by decide, by decide⟩
  have selected : OfSelectedPart cornerSession (-1) := .inl rfl
  have meets
      : (cornerSession.clientVisibleArea.area
          ∩ (Rectangle.ofSize 500 500 100 100).area).Nonempty :=
    Rectangle.intersects_iff.mp (by decide)
  obtain ⟨requested, all, only⟩ :=
    handleTileInvalidation_requests (fun _ => 10) emptyCache
      ⟨[0], fun _ => cornerSession, [], 0, [], []⟩ (0 : Nat) cornerSession_shows selected meets
  exact ⟨requested, all 0 0 visible affected (by decide) (by decide), only⟩

/-- The invalidated rectangle lies in the first tile, but not in the visible area: the tile is not
requested.
-/
theorem invalidation_beside_area
    : ShowsTiles cornerSession
      ∧ OfSelectedPart cornerSession 0
      ∧ ¬ RequestsMeeting cornerSession 0 (.ofSize 3000 3000 100 100) := by
  refine ⟨cornerSession_shows, .inr rfl, ?_⟩
  intro requests
  have none' : invalidationTiles cornerSession 0 (.ofSize 3000 3000 100 100) = [] := by
    decide
  have visible : (gridCell cornerSession 0 0 ∩ cornerSession.clientVisibleArea.area).Nonempty :=
    (gridCell_meets cornerSession_shows).mpr
      ⟨by decide, by decide, by decide, by decide⟩
  have affected
      : (gridRectangle cornerSession 0 0 ∩ (Rectangle.ofSize 3000 3000 100 100).area).Nonempty :=
    closedArea_inter.mpr ⟨by decide, by decide⟩
  obtain ⟨tile, member, -⟩ := requests 0 0 visible affected
  rw [none'] at member
  exact List.not_mem_nil member

end NdcOdfWeb.Rendering
