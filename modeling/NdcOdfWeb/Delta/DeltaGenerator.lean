import NdcOdfWeb.Foundation.Blocks

/-! The generator of deltas between bitmaps (`DeltaGenerator`). -/

namespace NdcOdfWeb.Delta

open NdcOdfWeb.Foundation

/-- A pixel: four bytes. -/
abbrev Pixel := UInt32

/-- `DeltaBitmapRow`: only the pixels tell rows apart, `_crc` is 0 in all of them. -/
abbrev DeltaBitmapRow := List Pixel

/-- `DeltaData`: a bitmap with its wire id. -/
structure DeltaData where
  wid : UInt32
  width : Nat
  height : Nat
  rows : List DeltaBitmapRow
  rows_length : rows.length = height
  row_length : ∀ row ∈ rows, row.length = width

/-- The row `y` of a bitmap. -/
def DeltaData.row (data : DeltaData) (y : Nat) : DeltaBitmapRow :=
  data.rows.getD y []

/-- The bytes of a pixel in memory. -/
def pixelBytes (pixel : Pixel) : List UInt8 :=
  [pixel.toUInt8, (pixel >>> 8).toUInt8, (pixel >>> 16).toUInt8, (pixel >>> 24).toUInt8]

/-- The bytes of rows in memory. -/
def rowsBytes (rows : List DeltaBitmapRow) : List UInt8 :=
  rows.flatMap (fun row => row.flatMap pixelBytes)

/-- A `char` as an `int`. -/
def signedChar (byte : UInt8) : Int :=
  byte.toInt8.toInt

/-- What the loop over the rows carries: the output, and as `size_t` the offset of the last
match and the position of the last copy's count (0 without one).
-/
structure DeltaState where
  output : List UInt8
  lastMatchOffset : Nat
  lastCopy : Nat

/-- The row of `prev` that the search for other rows finds. -/
def huntRow (prev : DeltaData) (curRow : DeltaBitmapRow) (y lastMatchOffset : Nat)
    : Option Nat :=
  ((List.range prev.height).map
    (fun yn => (y + lastMatchOffset + yn) % 2 ^ 64 % prev.height)).find?
    (fun found => prev.row found == curRow)

/-- The last copy goes on with this row. -/
def continuesCopy (output : List UInt8) (lastCopy found y : Nat) : Bool :=
  let cnt := signedChar (output.getD lastCopy 0)
  signedChar (output.getD (lastCopy + 1) 0) + cnt == signedChar (UInt8.ofNat found)
    && signedChar (output.getD (lastCopy + 2) 0) + cnt == signedChar (UInt8.ofNat y)

/-- Write that row `y` is the row `found` of the previous bitmap. -/
def copyRow (state : DeltaState) (found y : Nat) : DeltaState :=
  if 0 < state.lastCopy ∧ continuesCopy state.output state.lastCopy found y = true then
    { state with output := state.output.modify state.lastCopy (· + 1) }
  else
    {
      output := state.output ++ ['c'.toUInt8, 1, UInt8.ofNat found, UInt8.ofNat y]
      lastMatchOffset := (found + 2 ^ 64 - y) % 2 ^ 64
      lastCopy := state.output.length + 1
    }

/-- The loop over `same`, on the pixels of both rows from `x` on. -/
def samePixels : List (Pixel × Pixel) → Nat
  | [] => 0
  | (prev, cur) :: rest => if prev = cur then samePixels rest + 1 else 0

/-- The loop over `diff`. -/
def diffPixels (diff : Nat) : List (Pixel × Pixel) → Nat
  | [] => diff
  | (prev, cur) :: rest =>
      if (prev = cur ∨ diff < 2) ∧ diff < 254 then diffPixels (diff + 1) rest else diff

/-- By induction on the pixels. -/
theorem diffPixels_le (diff : Nat) (pixels : List (Pixel × Pixel))
    : diff ≤ diffPixels diff pixels ∧ diffPixels diff pixels ≤ diff + pixels.length := by
  induction pixels generalizing diff with
  | nil => exact ⟨Nat.le_refl _, Nat.le_refl _⟩
  | cons pixel rest ih =>
      obtain ⟨prev, cur⟩ := pixel
      have later := ih (diff + 1)
      rw [diffPixels]
      split <;> simp only [List.length_cons] <;> omega

/-- The command `d` for a run of new pixels. -/
def newRun (y x : Nat) (pixels : List Pixel) : List UInt8 :=
  'd'.toUInt8 :: UInt8.ofNat y :: UInt8.ofNat x :: UInt8.ofNat pixels.length
    :: pixels.flatMap pixelBytes

/-- The loop over `x`, on the pixels of both rows from `x` on. -/
def newRuns (y x : Nat) (pixels : List (Pixel × Pixel)) : List UInt8 :=
  let same := samePixels pixels
  let diff := diffPixels 0 (pixels.drop same)
  if _positive : 0 < diff then
    newRun y (x + same) (((pixels.drop same).take diff).map Prod.snd)
      ++ newRuns y (x + same + diff) ((pixels.drop same).drop diff)
  else []
termination_by pixels.length
decreasing_by
  have positive : 0 < diffPixels 0 (pixels.drop (samePixels pixels)) := _positive
  have bound := (diffPixels_le 0 (pixels.drop (samePixels pixels))).2
  simp only [List.length_drop] at bound ⊢
  omega

/-- The loop body for row `y`. -/
def encodeRow (prev cur : DeltaData) (state : DeltaState) (y : Nat) : DeltaState :=
  -- Life is good where rows match
  if prev.row y = cur.row y then state
  else
    match huntRow prev (cur.row y) y state.lastMatchOffset with
    | some found => copyRow state found y
    -- Our row is just that different
    | none =>
        { state with output := state.output ++ newRuns y 0 ((prev.row y).zip (cur.row y)) }

/-- `makeDelta`: nothing for bitmaps of different sizes. -/
def makeDelta (prev cur : DeltaData) (output : List UInt8) : Option (List UInt8) :=
  if prev.width ≠ cur.width ∨ prev.height ≠ cur.height then none
  else
    some
      ((List.range prev.height).foldl (encodeRow prev cur)
        { output := output ++ ['D'.toUInt8], lastMatchOffset := 0, lastCopy := 0 }).output

end NdcOdfWeb.Delta
