import NdcOdfWeb.Delta.DeltaGenerator

/-! The decoder of deltas (`DeltaTests::applyDelta`).
A failed assertion and an access outside of the bitmap or the delta are `none`. For bitmaps
of at most 256 by 256 pixels no position overflows an unsigned 32-bit number.
-/

namespace NdcOdfWeb.Delta

open NdcOdfWeb.Foundation

/-- The loop of `copy row`, for the rows that are left. -/
def copyRows (width : Nat) (pixmap : List UInt8) (srcRow destRow : Nat)
    : Nat → List UInt8 → Option (List UInt8)
  | 0, output => some output
  | count + 1, output => do
      let src ← slice pixmap (width * srcRow * 4) (width * 4)
      let output ← overwrite output (width * destRow * 4) src
      copyRows width pixmap (srcRow + 1) (destRow + 1) count output

/-- `width - destCol`, an unsigned difference. -/
def columnsLeft (width destCol : Nat) : Nat :=
  (width + 2 ^ 32 - destCol) % 2 ^ 32

/-- The loop over the commands; a run at the end of the delta may be short. -/
def applyCommands (width : Nat) (pixmap delta output : List UInt8) : Option (List UInt8) :=
  match delta with
  | [] => some output
  | code :: arguments =>
      if code = 'c'.toUInt8 then
        match arguments with
        | count :: srcRow :: destRow :: rest => do
            let output ← copyRows width pixmap srcRow.toNat destRow.toNat count.toNat output
            applyCommands width pixmap rest output
        | _ => none
      else if code = 'd'.toUInt8 then
        match arguments with
        | destRow :: destCol :: length :: rest =>
            if length.toNat ≤ columnsLeft width destCol.toNat then do
              let output ← overwrite output (width * destRow.toNat * 4 + destCol.toNat * 4)
                (rest.take (length.toNat * 4))
              applyCommands width pixmap (rest.drop (length.toNat * 4)) output
            else none
        | _ => none
      else none
termination_by delta.length
decreasing_by
  · simp only [List.length_cons]
    omega
  · simp only [List.length_cons, List.length_drop]
    omega

/-- `applyDelta`: nothing is decoded onto an empty bitmap. -/
def applyDelta (pixmap : List UInt8) (width height : Nat) (delta : List UInt8)
    : Option (List UInt8) :=
  if delta.length < 4 ∨ delta.head? ≠ some 'D'.toUInt8 ∨ pixmap.length ≠ width * height * 4
      ∨ pixmap = [] then
    none
  else applyCommands width pixmap delta.tail pixmap

end NdcOdfWeb.Delta
