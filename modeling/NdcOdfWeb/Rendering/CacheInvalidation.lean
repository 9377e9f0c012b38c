import NdcOdfWeb.Rendering.CacheFiles

/-! An invalidation removes the cached tiles that it touches, and no others, as long as no sum
of a coordinate and a size overflows.
-/

namespace NdcOdfWeb.Rendering

open NdcOdfWeb.Foundation
open NdcOdfWeb.Protocol
open NdcOdfWeb.Tiles
open NdcOdfWeb.Queue

/-- The tile has a point in common with the rectangle. -/
def Touches (x y width height : Int32) (tile : TileDesc) : Prop :=
  (closedArea x.toInt y.toInt (x.toInt + width.toInt) (y.toInt + height.toInt)
    ∩ tileArea tile).Nonempty

/-- The tile belongs to the view and to the part, and touches the rectangle. -/
structure Invalid (part x y width height nViewId : Int32) (tile : TileDesc) : Prop where
  view : tile.normalizedViewId = nViewId
  part : part = -1 ∨ tile.part = part
  touches : Touches x y width height tile

/-- No overflow hides that the tile touches the rectangle, and none makes it touch: the far edges
of a tile that does fit into `int`, and a far edge of the rectangle that falls below the least
`int` does not come back from above to a tile that does not.
-/
structure NoOverflow (x y width height : Int32) (tile : TileDesc) : Prop where
  fits : Touches x y width height tile → EdgesFit x y width height tile
  apart
    : EdgesFit x y width height tile
      → (closedArea x.toInt y.toInt (wrapped (x.toInt + width.toInt))
          (wrapped (y.toInt + height.toInt)) ∩ tileArea tile).Nonempty
      → Touches x y width height tile

/-- A rectangle that touches a tile does not reach below the least `int`. -/
theorem Touches.wrapped {x y width height : Int32} {tile : TileDesc}
    (touches : Touches x y width height tile)
    : (closedArea x.toInt y.toInt (wrapped (x.toInt + width.toInt))
        (wrapped (y.toInt + height.toInt)) ∩ tileArea tile).Nonempty := by
  obtain ⟨⟨posX, -⟩, posY, -⟩ := tile_bounds tile
  obtain ⟨horizontal, vertical⟩ := closedArea_meets.mp touches
  have right : ¬ x.toInt + width.toInt < -2 ^ 31 := by omega
  have bottom : ¬ y.toInt + height.toInt < -2 ^ 31 := by omega
  rw [Rendering.wrapped, if_neg right, Rendering.wrapped, if_neg bottom]
  exact touches

/-- The comparison of the source is right where no sum overflows. -/
theorem intersectsTile_eq_invalid_iff {part x y width height nViewId : Int32} {tile : TileDesc}
    : (intersectsTile (cacheFileName tile) part x y width height nViewId
        ↔ Invalid part x y width height nViewId tile)
      ↔ (tile.normalizedViewId = nViewId
        → (part = -1 ∨ tile.part = part)
        → NoOverflow x y width height tile) := by
  rw [intersectsTile_iff]
  constructor
  · intro same view chosen
    refine ⟨?_, ?_⟩
    · exact fun touches => (same.mpr ⟨view, chosen, touches⟩).2.2.1
    · exact fun fit meets => (same.mp ⟨view, chosen, fit, meets⟩).touches
  · intro safe
    constructor
    · rintro ⟨view, chosen, fit, meets⟩
      exact ⟨view, chosen, (safe view chosen).apart fit meets⟩
    · rintro ⟨view, chosen, touches⟩
      exact ⟨view, chosen, (safe view chosen).fits touches, touches.wrapped⟩

/-- The message is read, and the files are tested one by one. -/
theorem invalidateTiles_eq {message : Text} {part x y width height : Int32}
    (parsed : readInvalidateMsg message = .ok (some (part, .ofSize x y width height)))
    (files : Finset Text) (nViewId : Int32)
    : invalidateTiles files message nViewId
      = .ok (invalidateFiles files part x y width height nViewId) := by
  have back (a b : Int32) : a + b - a = b := by
    rw [Int32.add_comm, Int32.add_sub_cancel]
  rw [invalidateTiles, parseInvalidateMsg, parsed]
  change Except.ok (invalidateFiles files part x y (x + width - x) (y + height - y) nViewId) = _
  rw [back, back]

/-- The cache's file names are read back, and differ for different tiles. An invalidation removes
the tiles of its view and part that touch its rectangle, and no others, exactly if no overflow
is in the way for a tile of the view and the part.
-/
theorem invalidateTiles_exact_iff {message : Text} {part x y width height : Int32}
    (parsed : readInvalidateMsg message = .ok (some (part, .ofSize x y width height)))
    (nViewId : Int32) (tiles : Finset TileDesc)
    : (∀ tile ∈ tiles, parseCacheFileName (cacheFileName tile) = some (cacheKey tile))
      ∧ (∀ tile ∈ tiles, ∀ other ∈ tiles,
          cacheFileName tile = cacheFileName other ↔ SamePlace tile other)
      ∧ ((∃ left ⊆ tiles.image cacheFileName,
            invalidateTiles (tiles.image cacheFileName) message nViewId = .ok left
            ∧ ∀ tile ∈ tiles,
                cacheFileName tile ∈ left ↔ ¬ Invalid part x y width height nViewId tile)
        ↔ ∀ tile ∈ tiles,
            tile.normalizedViewId = nViewId
            → (part = -1 ∨ tile.part = part)
            → NoOverflow x y width height tile) := by
  refine ⟨fun tile _ => parseCacheFileName_cacheFileName tile,
    fun _ _ _ _ => cacheFileName_eq_iff, ?_⟩
  rw [invalidateTiles_eq parsed]
  have removed (tile : TileDesc) (member : tile ∈ tiles)
      : cacheFileName tile
          ∈ invalidateFiles (tiles.image cacheFileName) part x y width height nViewId
        ↔ ¬ intersectsTile (cacheFileName tile) part x y width height nViewId := by
    rw [invalidateFiles, Finset.mem_filter]
    simp [Finset.mem_image_of_mem cacheFileName member]
  constructor
  · rintro ⟨left, -, same, exact'⟩ tile member
    rw [← Except.ok.inj same] at exact'
    apply intersectsTile_eq_invalid_iff.mp
    exact not_iff_not.mp ((removed tile member).symm.trans (exact' tile member))
  · intro safe
    refine ⟨invalidateFiles (tiles.image cacheFileName) part x y width height nViewId,
      Finset.filter_subset _ _, rfl, ?_⟩
    intro tile member
    rw [removed tile member, not_iff_not]
    exact intersectsTile_eq_invalid_iff.mpr (safe tile member)

/-- The sizes and positions are all within the checks. -/
theorem otherViewTile_valid : invalidDescriptor 1 0 256 256 0 0 3840 3840 0 = false := by
  decide

/-- The tile at the origin in another view. -/
def otherViewTile : TileDesc :=
  { originTile with normalizedViewId := 1, valid := otherViewTile_valid }

/-- Two tiles of different views: everything in one view is invalidated, and the tile of the other
view stays.
-/
theorem empty_removes_originTile
    : ∃ left ⊆ ({originTile, otherViewTile} : Finset TileDesc).image cacheFileName,
        invalidateTiles (({originTile, otherViewTile} : Finset TileDesc).image cacheFileName)
          "invalidatetiles: EMPTY".toList 0 = .ok left
        ∧ cacheFileName originTile ∉ left
        ∧ cacheFileName otherViewTile ∈ left := by
  have parsed
      : readInvalidateMsg "invalidatetiles: EMPTY".toList
        = .ok (some (-1, .ofSize 0 0 Int32.maxValue Int32.maxValue)) := by
    rfl
  have safe
      : ∀ tile ∈ ({originTile, otherViewTile} : Finset TileDesc),
          tile.normalizedViewId = 0
          → ((-1 : Int32) = -1 ∨ tile.part = -1)
          → NoOverflow 0 0 Int32.maxValue Int32.maxValue tile := by
    intro tile member view chosen
    rcases Finset.mem_insert.mp member with rfl | other
    · exact ⟨fun _ => ⟨by decide, by decide, by decide, by decide⟩, fun _ meets => meets⟩
    · obtain rfl := Finset.mem_singleton.mp other
      exact absurd view (by decide)
  obtain ⟨left, subset, removed, exact'⟩ :=
    (invalidateTiles_exact_iff parsed 0 {originTile, otherViewTile}).2.2.mpr safe
  refine ⟨left, subset, removed, ?_, ?_⟩
  · rw [exact' originTile (Finset.mem_insert_self _ _), not_not]
    exact ⟨rfl, .inl rfl, closedArea_meets.mpr (by decide)⟩
  · rw [exact' otherViewTile (Finset.mem_insert_of_mem (Finset.mem_singleton_self _))]
    exact fun invalid => absurd invalid.1 (by decide)

/-- The right edge of a wide rectangle overflows, and the tile that it covers stays. -/
theorem wide_rectangle_keeps_tile
    : readInvalidateMsg "invalidatetiles: part=0 x=1 y=0 width=2147483647 height=100".toList
        = .ok (some (0, .ofSize 1 0 2147483647 100))
      ∧ invalidateTiles {cacheFileName originTile}
          "invalidatetiles: part=0 x=1 y=0 width=2147483647 height=100".toList 0
        = .ok {cacheFileName originTile}
      ∧ Invalid 0 1 0 2147483647 100 0 originTile := by
  refine ⟨rfl, rfl, rfl, .inr rfl, ?_⟩
  apply closedArea_meets.mpr
  decide

end NdcOdfWeb.Rendering
