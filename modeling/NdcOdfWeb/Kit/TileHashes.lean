import NdcOdfWeb.Kit.SpookyHash

/-! The hash of a tile's pixels, where the tile is rendered alone and where it is a window of a
larger pixmap.
-/

namespace NdcOdfWeb.Kit

open NdcOdfWeb.Foundation

/-- Seeds can be anything. -/
def tileSeed : UInt64 := 1073741789

/-- The pixels of `count` points of a row of the pixmap; there are none outside of it. -/
def pixelRow (pixmap : List UInt8) (bufferWidth x y count : Nat) : Option (List UInt8) :=
  slice pixmap (y * bufferWidth * 4 + x * 4) (count * 4)

/-- `Png::hashBuffer`. -/
def hashBuffer (pixmap : List UInt8) (width height : Nat) : Option UInt64 :=
  (slice pixmap 0 (width * height * 4)).map (fun pixels => hash64 pixels tileSeed)

/-- `Png::hashSubBuffer`; a window that is larger than the pixmap has the hash 0. -/
def hashSubBuffer (pixmap : List UInt8)
    (startX startY width height bufferWidth bufferHeight : Nat) : Option UInt64 :=
  if bufferWidth < width ∨ bufferHeight < height then some 0
  else
    let hash :=
      (List.range height).foldlM
        (fun (hash : SpookyHash) y =>
          (pixelRow pixmap bufferWidth startX (startY + y) width).map hash.update)
        (SpookyHash.init tileSeed tileSeed)
    hash.map (fun hash => hash.final.1)

/-- The rows of a window are hashed one after the other. -/
theorem foldlM_update (row : Nat → Option (List UInt8)) (rows : List Nat) (hash : SpookyHash)
    : rows.foldlM (fun hash y => (row y).map hash.update) hash
      = (rows.mapM row).map (fun pieces => pieces.foldl SpookyHash.update hash) := by
  induction rows generalizing hash with
  | nil => rfl
  | cons y rows ih =>
      rw [List.foldlM_cons, List.mapM_cons]
      cases row y with
      | none => rfl
      | some piece =>
          simp only [Option.map_some, Option.bind_eq_bind, Option.bind_some, ih]
          cases rows.mapM row with
          | none => rfl
          | some pieces => rfl

/-- The first rows of a pixmap are its first bytes. -/
theorem pixelRows_take {pixmap : List UInt8} {width count : Nat}
    (inside : count * (width * 4) ≤ pixmap.length)
    : ∃ rows,
        (List.range count).mapM (fun y => pixelRow pixmap width 0 y width) = some rows
        ∧ rows.flatten = pixmap.take (count * (width * 4)) := by
  induction count with
  | zero => exact ⟨[], rfl, by rw [Nat.zero_mul, List.take_zero, List.flatten_nil]⟩
  | succ count ih =>
      rw [Nat.succ_mul] at inside ⊢
      obtain ⟨rows, read, first⟩ := ih (by omega)
      have position : count * width * 4 + 0 * 4 = count * (width * 4) := by
        rw [Nat.mul_assoc, Nat.zero_mul, Nat.add_zero]
      have last
          : pixelRow pixmap width 0 count width
            = some ((pixmap.drop (count * (width * 4))).take (width * 4)) := by
        rw [pixelRow, position, slice, if_pos inside]
      refine ⟨rows ++ [(pixmap.drop (count * (width * 4))).take (width * 4)], ?_, ?_⟩
      · rw [List.range_succ, List.mapM_append, read]
        simp only [List.mapM_cons, List.mapM_nil, last]
        rfl
      · rw [List.flatten_append, first, List.flatten_singleton, List.take_add]

/-- By induction on the count. -/
theorem mapM_range_congr {α : Type} {row other : Nat → Option α} {count : Nat}
    (same : ∀ y < count, row y = other y)
    : (List.range count).mapM row = (List.range count).mapM other := by
  induction count with
  | zero => rfl
  | succ count ih =>
      rw [List.range_succ, List.mapM_append, List.mapM_append,
        ih (fun y bound => same y (Nat.lt_succ_of_lt bound))]
      simp only [List.mapM_cons, List.mapM_nil, same count (Nat.lt_succ_self count)]

/-- A window has the hash that a tile with the same pixels has where it is rendered alone. -/
theorem hashSubBuffer_eq {pixmap tile : List UInt8}
    {startX startY width height bufferWidth bufferHeight : Nat}
    (fits : width ≤ bufferWidth ∧ height ≤ bufferHeight)
    (size : tile.length = width * height * 4) (bound : tile.length < 2 ^ 64)
    (same
      : ∀ y < height,
          pixelRow pixmap bufferWidth startX (startY + y) width = pixelRow tile width 0 y width)
    : hashSubBuffer pixmap startX startY width height bufferWidth bufferHeight
      = hashBuffer tile width height := by
  have all : height * (width * 4) = tile.length := by
    rw [size, ← Nat.mul_assoc, Nat.mul_comm height]
  obtain ⟨rows, read, whole⟩ := pixelRows_take (Nat.le_of_eq all)
  rw [all, List.take_length] at whole
  have small : ¬ (bufferWidth < width ∨ bufferHeight < height) := by omega
  have pixels : slice tile 0 (width * height * 4) = some tile := by
    rw [slice, if_pos (by omega), List.drop_zero, ← size, List.take_length]
  unfold hashSubBuffer hashBuffer
  rw [if_neg small, pixels]
  dsimp only
  rw [foldlM_update, mapM_range_congr same, read]
  subst whole
  have has := SpookyHash.has_pieces (SpookyHash.has_init tileSeed tileSeed) bound
  rw [Option.map_some, Option.map_some, has.final]
  rfl

/-- The lower right corner of a pixmap with three rows and columns, and a tile of these two rows
and columns.
-/
theorem hashSubBuffer_eq_corner
    : hashSubBuffer ((List.range 36).map UInt8.ofNat) 1 1 2 2 3 3
      = hashBuffer [16, 17, 18, 19, 20, 21, 22, 23, 28, 29, 30, 31, 32, 33, 34, 35] 2 2 :=
  hashSubBuffer_eq (by decide) (by decide) (by decide) (by decide)

end NdcOdfWeb.Kit
