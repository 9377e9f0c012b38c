import Mathlib.Data.List.Basic
import NdcOdfWeb.Foundation.Decimal

/-! A string output stream with a put position that can be moved back over what was written.
Text behind the put position stays in the buffer until it is overwritten.
-/

namespace NdcOdfWeb.Foundation

/-- `std::ostringstream`: its buffer, and the put position inside it. -/
structure OutputStream where
  buffer : Text
  position : Nat
  inside : position ≤ buffer.length

namespace OutputStream

def empty : OutputStream := ⟨[], 0, Nat.le_refl 0⟩

/-- `<<`: overwrite from the put position on. -/
def write (stream : OutputStream) (text : Text) : OutputStream where
  buffer := stream.buffer.take stream.position ++ text
    ++ stream.buffer.drop (stream.position + text.length)
  position := stream.position + text.length
  inside := by
    have inside := stream.inside
    simp only [List.length_append, List.length_take, List.length_drop]
    omega

/-- `seekp(-1, std::ios_base::cur)`. -/
def seekBack (stream : OutputStream) : OutputStream where
  buffer := stream.buffer
  position := stream.position - 1
  inside := Nat.le_trans (Nat.sub_le _ _) stream.inside

/-- `str().substr(0, tellp())`: the text in front of the put position. -/
def written (stream : OutputStream) : Text :=
  stream.buffer.take stream.position

/-- At first, nothing is written. -/
@[simp] theorem written_empty : empty.written = [] := rfl

/-- A text is written behind the others. -/
@[simp] theorem written_write (stream : OutputStream) (text : Text)
    : (stream.write text).written = stream.written ++ text := by
  have inside := stream.inside
  have size : (stream.buffer.take stream.position ++ text).length
      = stream.position + text.length := by
    simp only [List.length_append, List.length_take]
    omega
  simp only [written, write]
  rw [List.take_append_of_le_length (Nat.le_of_eq size.symm), ← size, List.take_length]

/-- The last character will be overwritten. -/
@[simp] theorem written_seekBack (stream : OutputStream)
    : stream.seekBack.written = stream.written.dropLast := by
  have inside := stream.inside
  simp only [written, seekBack, List.dropLast_eq_take, List.take_take, List.length_take]
  congr 1
  omega

/-- At the end of the buffer, everything in it is in front of the put position. -/
theorem buffer_eq_written {stream : OutputStream}
    (atEnd : stream.position = stream.buffer.length)
    : stream.buffer = stream.written := by
  rw [written, atEnd, List.take_length]

/-- Nothing is written behind the position. -/
theorem write_atEnd {stream : OutputStream} (atEnd : stream.position = stream.buffer.length)
    (text : Text)
    : (stream.write text).position = (stream.write text).buffer.length := by
  simp only [write, List.length_append, List.length_take, List.length_drop]
  omega

end OutputStream

end NdcOdfWeb.Foundation
