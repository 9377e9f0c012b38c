import Mathlib.Order.ConditionallyCompleteLattice.Basic
import Mathlib.Data.Finset.Image
import Mathlib.Data.Int.ConditionallyCompleteOrder
import Mathlib.Order.Interval.Set.Basic
import NdcOdfWeb.Queue.Invalidations
import NdcOdfWeb.Queue.Requests
import NdcOdfWeb.Rendering.TileCache

/-! The files of the tile cache: their names, and those that an invalidation removes. -/

namespace NdcOdfWeb.Rendering

open NdcOdfWeb.Foundation
open NdcOdfWeb.Protocol
open NdcOdfWeb.Tiles
open NdcOdfWeb.Queue

-----------------------------------------------------------------------------------------
-- File names
-----------------------------------------------------------------------------------------

/-- What `%d` of `sscanf` reads, and the text behind it. -/
def scanInteger (text : Text) : Option (Int32 × Text) :=
  let rest := (splitSign (text.dropWhile isSpace)).2
  if (rest.takeWhile Char.isDigit) = [] then none
  else some (atoi text, rest.dropWhile Char.isDigit)

/-- `sscanf` of numbers with single characters between them; whether all numbers are read. -/
def scanIntegers : List Char → Text → Option (List Int32)
  | [], text => (scanInteger text).map (fun number => [number.1])
  | separator :: separators, text =>
      match scanInteger text with
      | some (number, c :: rest) =>
          if c = separator then (scanIntegers separators rest).map (number :: ·) else none
      | _ => none

/-- The variables of `parseCacheFileName`. -/
structure CacheKey where
  nViewId : Int32
  part : Int32
  width : Int32
  height : Int32
  tilePosX : Int32
  tilePosY : Int32
  tileWidth : Int32
  tileHeight : Int32
deriving DecidableEq

/-- `parseCacheFileName`; what follows the last number is not compared. -/
def parseCacheFileName (fileName : Text) : Option CacheKey :=
  match scanIntegers ['_', '_', 'x', '.', ',', '.', 'x'] fileName with
  | some [nViewId, part, width, height, tilePosX, tilePosY, tileWidth, tileHeight] =>
      some ⟨nViewId, part, width, height, tilePosX, tilePosY, tileWidth, tileHeight⟩
  | _ => none

/-- The fields of a tile that its file name shows. -/
def cacheKey (tile : TileDesc) : CacheKey where
  nViewId := tile.normalizedViewId
  part := tile.part
  width := tile.width
  height := tile.height
  tilePosX := tile.tilePosX
  tilePosY := tile.tilePosY
  tileWidth := tile.tileWidth
  tileHeight := tile.tileHeight

/-- The key has the six numbers of the place. -/
theorem cacheKey_eq_iff {left right : TileDesc}
    : cacheKey left = cacheKey right ↔ SamePlace left right := by
  simp [cacheKey, SamePlace]

/-- The digits are read up to the number's end. -/
theorem dropWhile_isDigit_showNat (value : Nat) {rest : Text} (ends : EndsNumber rest)
    : (showNat value ++ rest).dropWhile Char.isDigit = rest := by
  have all := List.takeWhile_append_dropWhile (p := Char.isDigit) (l := showNat value ++ rest)
  rw [takeWhile_isDigit_showNat value ends] at all
  exact List.append_cancel_left all

/-- A number is read back, up to its end. -/
theorem scanInteger_showInt (value : Int32) {rest : Text} (ends : EndsNumber rest)
    : scanInteger (showInt value.toInt ++ rest) = some (value, rest) := by
  have read := atoi_showInt value ends
  unfold scanInteger
  rw [read]
  cases value.toInt with
  | ofNat number =>
      obtain ⟨c, tail, shape⟩ := List.exists_cons_of_ne_nil (showNat_ne_nil number)
      have digit : c.isDigit = true := isDigit_of_mem_showNat (by rw [shape]; simp)
      have start
          : splitSign ((showNat number ++ rest).dropWhile isSpace)
            = (false, showNat number ++ rest) := by
        rw [shape, List.cons_append, List.dropWhile_cons_of_neg (by simp [isSpace_of_isDigit digit]),
          splitSign_of_isDigit digit]
      simp only [showInt, start, takeWhile_isDigit_showNat number ends,
        dropWhile_isDigit_showNat number ends, showNat_ne_nil, if_false]
  | negSucc number =>
      have start
          : splitSign (('-' :: (showNat (number + 1) ++ rest)).dropWhile isSpace)
            = (true, showNat (number + 1) ++ rest) := by
        rw [List.dropWhile_cons_of_neg (by decide)]
        rfl
      simp only [showInt, List.cons_append, start, takeWhile_isDigit_showNat (number + 1) ends,
        dropWhile_isDigit_showNat (number + 1) ends, showNat_ne_nil, if_false]

/-- Numbers with a separator behind each one. -/
def separated : List (Int32 × Char) → Text → Text
  | [], rest => rest
  | (number, separator) :: more, rest =>
      showInt number.toInt ++ separator :: separated more rest

/-- By induction on the numbers. -/
theorem scanIntegers_separated {numbers : List (Int32 × Char)} {last : Int32} {rest : Text}
    (separators : ∀ number ∈ numbers, number.2.isDigit = false) (ends : EndsNumber rest)
    : scanIntegers (numbers.map Prod.snd) (separated numbers (showInt last.toInt ++ rest))
      = some (numbers.map Prod.fst ++ [last]) := by
  induction numbers with
  | nil => simp [scanIntegers, separated, scanInteger_showInt last ends]
  | cons number numbers ih =>
      have here := separators number List.mem_cons_self
      simp only [List.map_cons, scanIntegers, separated,
        scanInteger_showInt number.1 (endsNumber_cons _ here), if_true]
      rw [ih (fun other member => separators other (List.mem_cons_of_mem number member))]
      rfl

/-- A file name is read back. -/
theorem parseCacheFileName_cacheFileName (tile : TileDesc)
    : parseCacheFileName (cacheFileName tile) = some (cacheKey tile) := by
  have name
      : cacheFileName tile
        = separated
            [(tile.normalizedViewId, '_'), (tile.part, '_'), (tile.width, 'x'),
              (tile.height, '.'), (tile.tilePosX, ','), (tile.tilePosY, '.'),
              (tile.tileWidth, 'x')]
            (showInt tile.tileHeight.toInt ++ ".png".toList) := by
    simp [cacheFileName, separated]
  have scanned := @scanIntegers_separated
    [(tile.normalizedViewId, '_'), (tile.part, '_'), (tile.width, 'x'), (tile.height, '.'),
      (tile.tilePosX, ','), (tile.tilePosY, '.'), (tile.tileWidth, 'x')]
    tile.tileHeight ".png".toList (by simp) (endsNumber_cons _ rfl)
  rw [← name] at scanned
  have read
      : scanIntegers ['_', '_', 'x', '.', ',', '.', 'x'] (cacheFileName tile)
        = some [tile.normalizedViewId, tile.part, tile.width, tile.height, tile.tilePosX,
            tile.tilePosY, tile.tileWidth, tile.tileHeight] :=
    scanned
  rw [parseCacheFileName, read]
  rfl

/-- Different tiles have different files. -/
theorem cacheFileName_eq_iff {left right : TileDesc}
    : cacheFileName left = cacheFileName right ↔ SamePlace left right := by
  constructor
  · intro same
    have keys := congrArg parseCacheFileName same
    rw [parseCacheFileName_cacheFileName, parseCacheFileName_cacheFileName] at keys
    exact cacheKey_eq_iff.mp (Option.some.inj keys)
  · rintro ⟨view, part, width, height, posX, posY, tileWidth, tileHeight⟩
    rw [cacheFileName, view, part, width, height, posX, posY, tileWidth, tileHeight]
    rfl

/-- `intersectsTile`. -/
def intersectsTile (fileName : Text) (part x y width height normalizedViewId : Int32) : Bool :=
  match parseCacheFileName fileName with
  | some key =>
      if part ≠ -1 ∧ key.part ≠ part then false
      else if key.nViewId ≠ normalizedViewId then false
      else
        let left := max x key.tilePosX
        let right := min (x + width) (key.tilePosX + key.tileWidth)
        let top := max y key.tilePosY
        let bottom := min (y + height) (key.tilePosY + key.tileHeight)
        left ≤ right && top ≤ bottom
  | none => false

/-- The number of a token with this name. -/
def integerToken (token : Text) (name : String) : Option Int32 :=
  match getTokenInteger token name.toList 0 with
  | (true, value) => some value
  | (false, _) => none

/-- The branches of `parseInvalidateMsg` that read a part and a rectangle. -/
def readInvalidateMsg (tiles : Text) : Except Exception (Option (Int32 × Rectangle)) :=
  match stringTokenizer ' ' tiles with
  | [_, empty] =>
      if empty = "EMPTY".toList then
        .ok (some (-1, .ofSize 0 0 Int32.maxValue Int32.maxValue))
      else .ok none
  | [_, empty, part] =>
      if empty = "EMPTY,".toList then do
        let part ← stringToInteger part
        return part.map (fun part => (part, .ofSize 0 0 Int32.maxValue Int32.maxValue))
      else .ok none
  | [_, part, x, y, width, height] =>
      .ok (do
        let part ← integerToken part "part"
        let x ← integerToken x "x"
        let y ← integerToken y "y"
        let width ← integerToken width "width"
        let height ← integerToken height "height"
        return (part, .ofSize x y width height))
  | _ => .ok none

/-- `parseInvalidateMsg`; an unexpected message gives an empty rectangle. -/
def parseInvalidateMsg (tiles : Text) : Except Exception (Int32 × Rectangle) := do
  let read ← readInvalidateMsg tiles
  return read.getD (-1, .ofSize 0 0 0 0)

/-- `TileCache::invalidateTiles`, on the names of the files in the cache directory. -/
def invalidateFiles (files : Finset Text) (part x y width height nViewId : Int32)
    : Finset Text :=
  files.filter (fun fileName => !intersectsTile fileName part x y width height nViewId)

/-- `TileCache::invalidateTiles` of a message. -/
def invalidateTiles (files : Finset Text) (tiles : Text) (normalizedViewId : Int32)
    : Except Exception (Finset Text) := do
  let (part, invalidateRect) ← parseInvalidateMsg tiles
  return invalidateFiles files part invalidateRect.x1 invalidateRect.y1
    (invalidateRect.x2 - invalidateRect.x1) (invalidateRect.y2 - invalidateRect.y1)
    normalizedViewId

-----------------------------------------------------------------------------------------
-- Areas that touch
-----------------------------------------------------------------------------------------

/-- The points of a rectangle and of its border. -/
def closedArea (x y right bottom : Int) : Set (Int × Int) :=
  Set.Icc (x, y) (right, bottom)

/-- The points of a tile. -/
def tileArea (tile : TileDesc) : Set (Int × Int) :=
  closedArea tile.tilePosX.toInt tile.tilePosY.toInt
    (tile.tilePosX.toInt + tile.tileWidth.toInt) (tile.tilePosY.toInt + tile.tileHeight.toInt)

/-- Two areas meet if both their projections do. -/
theorem closedArea_meets {x y right bottom : Int} {tile : TileDesc}
    : (closedArea x y right bottom ∩ tileArea tile).Nonempty
      ↔ max x tile.tilePosX.toInt ≤ min right (tile.tilePosX.toInt + tile.tileWidth.toInt)
        ∧ max y tile.tilePosY.toInt
          ≤ min bottom (tile.tilePosY.toInt + tile.tileHeight.toInt) := by
  rw [closedArea, tileArea, closedArea, Set.Icc_inter_Icc, Set.nonempty_Icc]
  exact Prod.mk_le_mk

/-- A sum below the least `int` comes back from above. -/
def wrapped (edge : Int) : Int :=
  if edge < -2 ^ 31 then edge + 2 ^ 32 else edge

/-- No sum is above the largest `int`. -/
structure EdgesFit (x y width height : Int32) (tile : TileDesc) : Prop where
  right : x.toInt + width.toInt < 2 ^ 31
  bottom : y.toInt + height.toInt < 2 ^ 31
  tileRight : tile.tilePosX.toInt + tile.tileWidth.toInt < 2 ^ 31
  tileBottom : tile.tilePosY.toInt + tile.tileHeight.toInt < 2 ^ 31

/-- A sum above the bound wraps to a negative number. -/
theorem toInt_add_wraps (a b : Int32)
    : (a + b).toInt
      = if a.toInt + b.toInt < 2 ^ 31 then wrapped (a.toInt + b.toInt)
        else a.toInt + b.toInt - 2 ^ 32 := by
  have lowerA := a.le_toInt
  have lowerB := b.le_toInt
  have upperA := a.toInt_lt
  have upperB := b.toInt_lt
  rw [Int32.toInt_add, Int.bmod_def, wrapped]
  split_ifs <;> omega

/-- The comparison of one direction, for a tile that starts at no negative coordinate. -/
theorem overlap_iff {start size tileStart tileSize : Int32} (nonneg : 0 ≤ tileStart.toInt)
    (positive : 0 < tileSize.toInt)
    : max start tileStart ≤ min (start + size) (tileStart + tileSize)
      ↔ start.toInt + size.toInt < 2 ^ 31
        ∧ tileStart.toInt + tileSize.toInt < 2 ^ 31
        ∧ max start.toInt tileStart.toInt
          ≤ min (wrapped (start.toInt + size.toInt)) (tileStart.toInt + tileSize.toInt) := by
  have upperSize := size.toInt_lt
  have upperStart := start.toInt_lt
  have upperTile := tileStart.toInt_lt
  have upperTileSize := tileSize.toInt_lt
  have tileEdge : wrapped (tileStart.toInt + tileSize.toInt) = tileStart.toInt + tileSize.toInt := by
    unfold wrapped
    rw [if_neg (by omega)]
  rw [Int32.le_iff_toInt_le, toInt_max, toInt_min, toInt_add_wraps, toInt_add_wraps, tileEdge]
  by_cases fits : start.toInt + size.toInt < 2 ^ 31
  · by_cases tileFits : tileStart.toInt + tileSize.toInt < 2 ^ 31
    · rw [if_pos fits, if_pos tileFits]
      exact ⟨fun meets => ⟨fits, tileFits, meets⟩, fun all => all.2.2⟩
    · rw [if_neg tileFits]
      constructor
      · intro meets
        omega
      · exact fun all => absurd all.2.1 tileFits
  · rw [if_neg fits]
    constructor
    · intro meets
      omega
    · exact fun all => absurd all.1 fits

/-- A tile with other numbers is not constructed. -/
theorem tile_bounds (tile : TileDesc)
    : (0 ≤ tile.tilePosX.toInt ∧ 0 < tile.tileWidth.toInt)
      ∧ 0 ≤ tile.tilePosY.toInt ∧ 0 < tile.tileHeight.toInt := by
  have valid := tile.valid
  simp only [invalidDescriptor, Bool.or_eq_false_iff, decide_eq_false_iff_not,
    Int32.lt_iff_toInt_lt, Int32.le_iff_toInt_le, Int32.toInt_zero] at valid
  omega

/-- The tiles that are removed. -/
theorem intersectsTile_iff (tile : TileDesc) (part x y width height nViewId : Int32)
    : intersectsTile (cacheFileName tile) part x y width height nViewId
      ↔ tile.normalizedViewId = nViewId
        ∧ (part = -1 ∨ tile.part = part)
        ∧ EdgesFit x y width height tile
        ∧ (closedArea x.toInt y.toInt (wrapped (x.toInt + width.toInt))
            (wrapped (y.toInt + height.toInt)) ∩ tileArea tile).Nonempty := by
  obtain ⟨⟨posX, wide⟩, posY, high⟩ := tile_bounds tile
  have shape
      : intersectsTile (cacheFileName tile) part x y width height nViewId
        ↔ tile.normalizedViewId = nViewId
          ∧ (part = -1 ∨ tile.part = part)
          ∧ max x tile.tilePosX ≤ min (x + width) (tile.tilePosX + tile.tileWidth)
          ∧ max y tile.tilePosY ≤ min (y + height) (tile.tilePosY + tile.tileHeight) := by
    simp only [intersectsTile, parseCacheFileName_cacheFileName, cacheKey]
    by_cases chosen : part = -1 ∨ tile.part = part
    · have notOther : ¬ (part ≠ -1 ∧ tile.part ≠ part) :=
        fun other => chosen.elim other.1 other.2
      rw [if_neg notOther]
      by_cases view : tile.normalizedViewId = nViewId
      · rw [if_neg (not_not.mpr view), Bool.and_eq_true, decide_eq_true_eq, decide_eq_true_eq]
        exact ⟨fun both => ⟨view, chosen, both⟩, fun all => all.2.2⟩
      · rw [if_pos view]
        exact iff_of_false Bool.false_ne_true (fun all => view all.1)
    · rw [not_or] at chosen
      rw [if_pos chosen]
      exact iff_of_false Bool.false_ne_true (fun all => all.2.1.elim chosen.1 chosen.2)
  rw [shape, overlap_iff posX wide, overlap_iff posY high, closedArea_meets]
  constructor
  · rintro ⟨view, chosen, ⟨right, tileRight, horizontal⟩, bottom, tileBottom, vertical⟩
    exact ⟨view, chosen, ⟨right, bottom, tileRight, tileBottom⟩, horizontal, vertical⟩
  · rintro ⟨view, chosen, fit, horizontal, vertical⟩
    exact ⟨view, chosen, ⟨fit.right, fit.tileRight, horizontal⟩, fit.bottom, fit.tileBottom,
      vertical⟩

end NdcOdfWeb.Rendering
