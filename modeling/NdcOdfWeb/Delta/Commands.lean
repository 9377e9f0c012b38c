import Mathlib.Data.List.GetD
import NdcOdfWeb.Delta.ApplyDelta

/-! The commands of a delta, as their effect on the rows of a bitmap.
The decoder on bytes does to a bitmap what the commands do to its rows.
-/

namespace NdcOdfWeb.Delta

open NdcOdfWeb.Foundation

/-- The commands of a delta. -/
inductive Command where
  | copy (count srcRow destRow : Nat)
  | run (destRow destCol : Nat) (pixels : List Pixel)

namespace Command

/-- The bytes of a command. -/
def bytes : Command → List UInt8
  | copy count srcRow destRow =>
      ['c'.toUInt8, UInt8.ofNat count, UInt8.ofNat srcRow, UInt8.ofNat destRow]
  | run destRow destCol pixels => newRun destRow destCol pixels

/-- Every number of the command is a byte. -/
def Fits : Command → Prop
  | copy count srcRow destRow => count < 256 ∧ srcRow < 256 ∧ destRow < 256
  | run destRow destCol pixels => destRow < 256 ∧ destCol < 256 ∧ pixels.length < 256

/-- Every row and column that the command names is inside the bitmap. -/
def Inside (width height : Nat) : Command → Prop
  | copy count srcRow destRow => srcRow + count ≤ height ∧ destRow + count ≤ height
  | run destRow destCol pixels => destRow < height ∧ destCol + pixels.length ≤ width

/-- Copy a row of the previous bitmap. -/
def copyOne (prev : List DeltaBitmapRow) (srcRow destRow : Nat) (rows : List DeltaBitmapRow)
    : List DeltaBitmapRow :=
  rows.set destRow (prev.getD srcRow [])

/-- The effect of a command on the rows. -/
def apply (prev : List DeltaBitmapRow) (rows : List DeltaBitmapRow)
    : Command → List DeltaBitmapRow
  | copy count srcRow destRow =>
      (List.range count).foldl
        (fun rows cnt => copyOne prev (srcRow + cnt) (destRow + cnt) rows) rows
  | run destRow destCol pixels =>
      rows.set destRow (splice (rows.getD destRow []) destCol pixels)

end Command

/-- Rows that make up a bitmap. -/
structure Bitmap (width height : Nat) (rows : List DeltaBitmapRow) : Prop where
  rows_length : rows.length = height
  row_length : ∀ row ∈ rows, row.length = width

/-- A row of the right length takes a row's place. -/
theorem Bitmap.set {width height y : Nat} {rows : List DeltaBitmapRow} {row : DeltaBitmapRow}
    (bitmap : Bitmap width height rows) (length : row.length = width)
    : Bitmap width height (rows.set y row) where
  rows_length := by rw [List.length_set, bitmap.rows_length]
  row_length other member := by
    rcases List.mem_or_eq_of_mem_set member with old | same
    · exact bitmap.row_length other old
    · rw [same, length]

/-- A row inside the bitmap has its width. -/
theorem Bitmap.getD_length {width height y : Nat} {rows : List DeltaBitmapRow}
    (bitmap : Bitmap width height rows) (inside : y < height)
    : (rows.getD y []).length = width := by
  have bound : y < rows.length := bitmap.rows_length ▸ inside
  rw [List.getD_eq_getElem _ _ bound]
  exact bitmap.row_length _ (List.getElem_mem bound)

/-- A pixel has four channels. -/
theorem length_pixelBytes (pixel : Pixel) : (pixelBytes pixel).length = 4 := rfl

/-- Each row takes four bytes for each pixel. -/
theorem rowBytes_sized {width height : Nat} {rows : List DeltaBitmapRow}
    (bitmap : Bitmap width height rows)
    : ∀ block ∈ rows.map (List.flatMap pixelBytes), block.length = width * 4 := by
  intro block member
  obtain ⟨row, inRows, rfl⟩ := List.mem_map.mp member
  rw [length_flatMap_of_size length_pixelBytes, bitmap.row_length row inRows, Nat.mul_comm]

/-- The bytes of the rows, one row behind the other. -/
theorem rowsBytes_eq (rows : List DeltaBitmapRow)
    : rowsBytes rows = (rows.map (List.flatMap pixelBytes)).flatten :=
  List.flatMap_def

/-- As many rows as the height, each of the width. -/
theorem length_rowsBytes {width height : Nat} {rows : List DeltaBitmapRow}
    (bitmap : Bitmap width height rows)
    : (rowsBytes rows).length = width * height * 4 := by
  rw [rowsBytes_eq, length_flatten_of_size (rowBytes_sized bitmap), List.length_map,
    bitmap.rows_length, Nat.mul_right_comm]

/-- A row's bytes start behind the rows above it. -/
theorem slice_rowsBytes {width height y : Nat} {rows : List DeltaBitmapRow}
    (bitmap : Bitmap width height rows) (inside : y < height)
    : slice (rowsBytes rows) (width * y * 4) (width * 4)
      = some ((rows.getD y []).flatMap pixelBytes) := by
  have bound : y < rows.length := bitmap.rows_length ▸ inside
  rw [rowsBytes_eq, Nat.mul_right_comm,
    slice_block (rowBytes_sized bitmap) (by rwa [List.length_map]), List.getElem_map,
    List.getD_eq_getElem _ _ bound]

/-- Pixels written into a row's bytes change this row only. -/
theorem overwrite_rowsBytes {width height y : Nat} {rows : List DeltaBitmapRow}
    (bitmap : Bitmap width height rows) (inside : y < height) (x : Nat) (pixels : List Pixel)
    (fits : x + pixels.length ≤ width)
    : overwrite (rowsBytes rows) (width * y * 4 + x * 4) (pixels.flatMap pixelBytes)
      = some (rowsBytes (rows.set y (splice (rows.getD y []) x pixels))) := by
  have bound : y < rows.length := bitmap.rows_length ▸ inside
  have room : x * 4 + (pixels.flatMap pixelBytes).length ≤ width * 4 := by
    rw [length_flatMap_of_size length_pixelBytes]
    omega
  rw [rowsBytes_eq, Nat.mul_right_comm,
    overwrite_block (rowBytes_sized bitmap) (by rwa [List.length_map]) room, List.getElem_map,
    Nat.mul_comm x 4, splice_flatMap length_pixelBytes, rowsBytes_eq, List.map_set,
    List.getD_eq_getElem _ _ bound]

/-- A row is written whole. -/
theorem overwrite_row {width height y : Nat} {rows : List DeltaBitmapRow}
    {row : DeltaBitmapRow} (bitmap : Bitmap width height rows) (inside : y < height)
    (length : row.length = width)
    : overwrite (rowsBytes rows) (width * y * 4) (row.flatMap pixelBytes)
      = some (rowsBytes (rows.set y row)) := by
  have written := overwrite_rowsBytes bitmap inside 0 row (by omega)
  rw [splice_whole (length.trans (bitmap.getD_length inside).symm)] at written
  rw [← written, Nat.zero_mul, Nat.add_zero]

-----------------------------------------------------------------------------------------
-- Decoding commands
-----------------------------------------------------------------------------------------

/-- A command inside the bitmap keeps its size. -/
theorem Command.apply_bitmap {width height : Nat} {prev rows : List DeltaBitmapRow}
    {command : Command} (prevBitmap : Bitmap width height prev)
    (bitmap : Bitmap width height rows) (inside : command.Inside width height)
    : Bitmap width height (command.apply prev rows) := by
  cases command with
  | run destRow destCol pixels =>
      obtain ⟨row, column⟩ := inside
      refine bitmap.set ?_
      have length := bitmap.getD_length row
      rw [length_splice (by omega), length]
  | copy count srcRow destRow =>
      obtain ⟨src, -⟩ := inside
      rw [Command.apply]
      induction count with
      | zero => exact bitmap
      | succ count ih =>
          rw [List.range_succ, List.foldl_append]
          exact (ih (by omega)).set (prevBitmap.getD_length (by omega))

/-- The first of the rows is copied first. -/
theorem Command.apply_copy_succ (prev rows : List DeltaBitmapRow) (count srcRow destRow : Nat)
    : (Command.copy (count + 1) srcRow destRow).apply prev rows
      = (Command.copy count (srcRow + 1) (destRow + 1)).apply prev
          (Command.copyOne prev srcRow destRow rows) := by
  rw [Command.apply, Command.apply, List.range_succ_eq_map, List.foldl_cons, List.foldl_map]
  simp only [Nat.add_zero, Nat.succ_eq_add_one, Nat.add_assoc, Nat.add_comm 1]

/-- By induction on the count of rows. -/
theorem copyRows_rows {width height : Nat} {prev rows : List DeltaBitmapRow}
    (prevBitmap : Bitmap width height prev) (bitmap : Bitmap width height rows)
    {count srcRow destRow : Nat} (src : srcRow + count ≤ height) (dest : destRow + count ≤ height)
    : copyRows width (rowsBytes prev) srcRow destRow count (rowsBytes rows)
      = some (rowsBytes ((Command.copy count srcRow destRow).apply prev rows)) := by
  induction count generalizing rows srcRow destRow with
  | zero => rfl
  | succ count ih =>
      have length := prevBitmap.getD_length (y := srcRow) (by omega)
      rw [copyRows, slice_rowsBytes prevBitmap (by omega)]
      simp only [bind, Option.bind]
      rw [overwrite_row bitmap (by omega) length]
      simp only [Command.apply_copy_succ]
      exact ih (bitmap.set length) (by omega) (by omega)

/-- The decoder does not read behind the end of the previous bitmap. -/
theorem copyRows_none {width height : Nat} {prev : List DeltaBitmapRow}
    (prevBitmap : Bitmap width height prev) (positive : 0 < width) {count srcRow : Nat}
    (outside : height < srcRow + count) (some' : 0 < count) (destRow : Nat) (output : List UInt8)
    : copyRows width (rowsBytes prev) srcRow destRow count output = none := by
  induction count generalizing srcRow destRow output with
  | zero => cases some'
  | succ count ih =>
      rw [copyRows]
      by_cases last : height ≤ srcRow
      · have far : ¬ width * srcRow * 4 + width * 4 ≤ (rowsBytes prev).length := by
          rw [length_rowsBytes prevBitmap]
          have rows := Nat.mul_le_mul_left width last
          omega
        rw [slice, if_neg far]
        rfl
      · cases read : slice (rowsBytes prev) (width * srcRow * 4) (width * 4) with
        | none => rfl
        | some src =>
            simp only [bind, Option.bind]
            cases written : overwrite output (width * destRow * 4) src with
            | none => rfl
            | some next => exact ih (by omega) (by omega) _ _

/-- A number that fits a byte is read back. -/
theorem toNat_ofNat_of_lt {n : Nat} (bound : n < 256) : (UInt8.ofNat n).toNat = n := by
  rw [UInt8.toNat_ofNat']
  exact Nat.mod_eq_of_lt bound

/-- The decoder reads a copy's three numbers, and copies the rows. -/
theorem applyCommands_copy {width : Nat} {prev : List DeltaBitmapRow}
    {count srcRow destRow : Nat} (fits : (Command.copy count srcRow destRow).Fits)
    (rest output : List UInt8)
    : applyCommands width (rowsBytes prev)
        ((Command.copy count srcRow destRow).bytes ++ rest) output
      = (copyRows width (rowsBytes prev) srcRow destRow count output).bind
          (applyCommands width (rowsBytes prev) rest) := by
  obtain ⟨countFits, srcFits, destFits⟩ := fits
  simp only [Command.bytes, List.cons_append, List.nil_append]
  rw [applyCommands, if_pos rfl, toNat_ofNat_of_lt countFits, toNat_ofNat_of_lt srcFits,
    toNat_ofNat_of_lt destFits]
  rfl

/-- The decoder reads a run's numbers, and writes its pixels. -/
theorem applyCommands_run {width destRow destCol : Nat} {pixels : List Pixel}
    (pixmap : List UInt8) (fits : (Command.run destRow destCol pixels).Fits)
    (room : destCol + pixels.length ≤ width) (narrow : width < 2 ^ 32)
    (rest output : List UInt8)
    : applyCommands width pixmap ((Command.run destRow destCol pixels).bytes ++ rest) output
      = (overwrite output (width * destRow * 4 + destCol * 4) (pixels.flatMap pixelBytes)).bind
          (applyCommands width pixmap rest) := by
  obtain ⟨rowFits, colFits, lengthFits⟩ := fits
  have other : 'd'.toUInt8 ≠ 'c'.toUInt8 := by decide
  have size : (pixels.flatMap pixelBytes).length = pixels.length * 4 := by
    rw [length_flatMap_of_size length_pixelBytes, Nat.mul_comm]
  have columns : pixels.length ≤ columnsLeft width destCol := by
    unfold columnsLeft
    omega
  simp only [Command.bytes, newRun, List.cons_append]
  rw [applyCommands, if_neg other, if_pos rfl, toNat_ofNat_of_lt rowFits,
    toNat_ofNat_of_lt colFits, toNat_ofNat_of_lt lengthFits, if_pos columns, ← size,
    List.take_left, List.drop_left]
  rfl

/-- Decoding commands that stay inside the bitmap. -/
theorem applyCommands_inside {width height : Nat} {prev rows : List DeltaBitmapRow}
    (prevBitmap : Bitmap width height prev) (bitmap : Bitmap width height rows)
    (narrow : width < 2 ^ 32) {commands : List Command}
    (fits : ∀ command ∈ commands, command.Fits)
    (inside : ∀ command ∈ commands, command.Inside width height) (rest : List UInt8)
    : applyCommands width (rowsBytes prev) (commands.flatMap Command.bytes ++ rest)
        (rowsBytes rows)
      = applyCommands width (rowsBytes prev) rest
          (rowsBytes (commands.foldl (Command.apply prev) rows)) := by
  induction commands generalizing rows with
  | nil => rfl
  | cons command commands ih =>
      have here := inside command (List.mem_cons_self ..)
      have hereFits := fits command (List.mem_cons_self ..)
      have next := ih (Command.apply_bitmap prevBitmap bitmap here)
        (fun other member => fits other (List.mem_cons_of_mem command member))
        (fun other member => inside other (List.mem_cons_of_mem command member))
      rw [List.flatMap_cons, List.append_assoc, List.foldl_cons, ← next]
      cases command with
      | copy count srcRow destRow =>
          rw [applyCommands_copy hereFits]
          rw [copyRows_rows prevBitmap bitmap here.1 here.2]
          rfl
      | run destRow destCol pixels =>
          rw [applyCommands_run _ hereFits here.2 narrow,
            overwrite_rowsBytes bitmap here.1 destCol pixels here.2]
          rfl

/-- Decoding stops at a copy of rows that the previous bitmap does not have. -/
theorem applyCommands_outside {width height : Nat} {prev : List DeltaBitmapRow}
    (prevBitmap : Bitmap width height prev) (positive : 0 < width) (narrow : width < 2 ^ 32)
    {commands : List Command} (fits : ∀ command ∈ commands, command.Fits)
    (columns
      : ∀ destRow destCol pixels,
          Command.run destRow destCol pixels ∈ commands → destCol + pixels.length ≤ width)
    {count srcRow destRow : Nat} (copied : 0 < count) (outside : height < srcRow + count)
    (member : Command.copy count srcRow destRow ∈ commands) (output : List UInt8)
    : applyCommands width (rowsBytes prev) (commands.flatMap Command.bytes) output = none := by
  induction commands generalizing output with
  | nil => cases member
  | cons command commands ih =>
      have hereFits := fits command (List.mem_cons_self ..)
      rw [List.flatMap_cons]
      rcases List.mem_cons.mp member with rfl | later
      · rw [applyCommands_copy hereFits, copyRows_none prevBitmap positive outside copied]
        rfl
      · have next := ih (fun other inRest => fits other (List.mem_cons_of_mem command inRest))
          (fun row col pixels inRest => columns row col pixels (List.mem_cons_of_mem command inRest))
          later
        cases command with
        | copy count srcRow destRow =>
            rw [applyCommands_copy hereFits]
            exact Option.bind_eq_none_iff.mpr (fun output _ => next output)
        | run destRow destCol pixels =>
            rw [applyCommands_run _ hereFits (columns _ _ _ (List.mem_cons_self ..)) narrow]
            exact Option.bind_eq_none_iff.mpr (fun output _ => next output)

end NdcOdfWeb.Delta
