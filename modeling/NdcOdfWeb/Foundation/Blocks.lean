import Mathlib.Algebra.Group.Int.Defs
import Mathlib.Algebra.Group.Nat.Defs
import Mathlib.Data.List.Flatten
import Mathlib.Data.List.TakeDrop
import NdcOdfWeb.Foundation.Words

/-! Reading and overwriting parts of a list, and of a list that consists of blocks of one
size, such as the rows of a grid.
-/

namespace NdcOdfWeb.Foundation

variable {α : Type}

/-- The list with `block` written over what stands from the position on. -/
def splice (list : List α) (position : Nat) (block : List α) : List α :=
  list.take position ++ block ++ list.drop (position + block.length)

/-- Overwriting inside the bounds of a buffer. -/
def overwrite (buffer : List α) (position : Nat) (block : List α) : Option (List α) :=
  if position + block.length ≤ buffer.length then some (splice buffer position block) else none

/-- Reading inside the bounds of a buffer. -/
def slice (buffer : List α) (position count : Nat) : Option (List α) :=
  if position + count ≤ buffer.length then some ((buffer.drop position).take count) else none

/-- Moving a part of a buffer to the front, behind what was moved before. -/
def moveFront (state : List α × Nat) (span : Nat × Nat) : Option (List α × Nat) := do
  let block ← slice state.1 span.1 span.2
  let buffer ← overwrite state.1 state.2 block
  some (buffer, state.2 + span.2)

/-- As many elements are replaced as are written. -/
theorem length_splice {list block : List α} {position : Nat}
    (inside : position + block.length ≤ list.length)
    : (splice list position block).length = list.length := by
  simp only [splice, List.length_append, List.length_take, List.length_drop]
  omega

/-- Overwriting a part of the middle of a list. -/
theorem splice_middle {before middle after block : List α} {position : Nat}
    (inside : position + block.length ≤ middle.length)
    : splice (before ++ (middle ++ after)) (before.length + position) block
      = before ++ (splice middle position block ++ after) := by
  have front : (before ++ (middle ++ after)).take (before.length + position)
      = before ++ middle.take position := by
    rw [List.take_length_add_append, List.take_append_of_le_length (by omega)]
  have back : (before ++ (middle ++ after)).drop (before.length + position + block.length)
      = middle.drop (position + block.length) ++ after := by
    rw [Nat.add_assoc, List.drop_length_add_append, List.drop_append_of_le_length inside]
  rw [splice, splice, front, back]
  simp only [List.append_assoc]

/-- What stands between two parts of a buffer is read whole. -/
theorem slice_middle (before middle after : List α)
    : slice (before ++ (middle ++ after)) before.length middle.length = some middle := by
  have inside : before.length + middle.length ≤ (before ++ (middle ++ after)).length := by
    simp only [List.length_append]
    omega
  rw [slice, if_pos inside, List.drop_left, List.take_left]

/-- A block with what stands around it. -/
structure Framed (α : Type) where
  before : List α
  block : List α
  after : List α

def Framed.bytes (framed : Framed α) : List α :=
  framed.before ++ (framed.block ++ framed.after)

/-- The positions and lengths of the blocks, from a position on. -/
def spansFrom (position : Nat) : List (Framed α) → List (Nat × Nat)
  | [] => []
  | framed :: more =>
      (position + framed.before.length, framed.block.length)
        :: spansFrom (position + framed.bytes.length) more

/-- A block is moved over a gap, which then stands behind it. -/
theorem moveFront_gap (out gap block rest : List α)
    : ∃ left : List α,
        left.length = gap.length
        ∧ moveFront (out ++ (gap ++ (block ++ rest)), out.length)
            (out.length + gap.length, block.length)
          = some (out ++ (block ++ (left ++ rest)), out.length + block.length) := by
  have read := slice_middle (out ++ gap) block rest
  rw [List.length_append, List.append_assoc] at read
  have room : out.length + block.length ≤ (out ++ (gap ++ (block ++ rest))).length := by
    simp only [List.length_append]
    omega
  refine ⟨(gap ++ block).drop block.length, ?_, ?_⟩
  · rw [List.length_drop, List.length_append, Nat.add_sub_cancel]
  · have written : splice (out ++ (gap ++ (block ++ rest))) out.length block
        = out ++ (block ++ ((gap ++ block).drop block.length ++ rest)) := by
      have inside : block.length ≤ (gap ++ block).length := by
        rw [List.length_append]
        omega
      rw [splice, List.take_left, List.drop_length_add_append, ← List.append_assoc gap,
        List.drop_append_of_le_length inside, List.append_assoc]
    rw [moveFront]
    simp only [read, bind, Option.bind, overwrite, room, if_true, written]

/-- All blocks are moved to the front, in order. -/
theorem foldlM_moveFront (out gap : List α) (framed : List (Framed α)) (rest : List α)
    : ∃ left : List α,
        out.length + gap.length + (framed.flatMap Framed.bytes).length
          = out.length + (framed.flatMap Framed.block).length + left.length
        ∧ (spansFrom (out.length + gap.length) framed).foldlM moveFront
            (out ++ (gap ++ (framed.flatMap Framed.bytes ++ rest)), out.length)
          = some (out ++ (framed.flatMap Framed.block ++ (left ++ rest)),
              out.length + (framed.flatMap Framed.block).length) := by
  induction framed generalizing out gap with
  | nil => exact ⟨gap, by simp, rfl⟩
  | cons first framed ih =>
      obtain ⟨moved, size, step⟩ := moveFront_gap out (gap ++ first.before) first.block
        (first.after ++ (framed.flatMap Framed.bytes ++ rest))
      obtain ⟨left, total, later⟩ := ih (out ++ first.block) (moved ++ first.after)
      rw [List.length_append] at size
      refine ⟨left, ?_, ?_⟩
      · simp only [List.flatMap_cons, List.length_append, Framed.bytes] at total ⊢
        omega
      · have position : (out ++ first.block).length + (moved ++ first.after).length
            = out.length + gap.length + first.bytes.length := by
          simp only [List.length_append, Framed.bytes]
          omega
        rw [position] at later
        simp only [List.length_append, List.append_assoc, ← Nat.add_assoc] at step later
        rw [spansFrom, List.foldlM_cons]
        simp only [List.flatMap_cons, Framed.bytes, List.append_assoc] at step later ⊢
        rw [step]
        simp only [bind, Option.bind]
        rw [later]
        simp only [List.length_append, Nat.add_assoc]

variable {size : Nat} {blocks : List (List α)}

/-- By induction on the blocks. -/
theorem length_flatten_of_size (sized : ∀ block ∈ blocks, block.length = size)
    : blocks.flatten.length = size * blocks.length := by
  induction blocks with
  | nil => rfl
  | cons block blocks ih =>
      have later := ih (fun other member => sized other (List.mem_cons_of_mem block member))
      rw [List.flatten_cons, List.length_append, later, sized block (List.mem_cons_self ..),
        List.length_cons, Nat.mul_succ, Nat.add_comm]

/-- A block stands behind the blocks in front of it. -/
theorem flatten_split (i : Nat) (inside : i < blocks.length)
    : blocks.flatten
      = (blocks.take i).flatten ++ (blocks[i] ++ (blocks.drop (i + 1)).flatten) := by
  rw [← List.flatten_cons, ← List.drop_eq_getElem_cons inside, ← List.flatten_append,
    List.take_append_drop]

/-- The blocks in front have one size. -/
theorem length_flatten_take (sized : ∀ block ∈ blocks, block.length = size) {i : Nat}
    (inside : i < blocks.length)
    : (blocks.take i).flatten.length = size * i := by
  rw [length_flatten_of_size (fun block member => sized block (List.mem_of_mem_take member)),
    List.length_take, Nat.min_eq_left (Nat.le_of_lt inside)]

/-- The blocks in front are dropped, those behind are not taken. -/
theorem slice_block (sized : ∀ block ∈ blocks, block.length = size) {i : Nat}
    (inside : i < blocks.length)
    : slice blocks.flatten (size * i) size = some blocks[i] := by
  have length := sized blocks[i] (List.getElem_mem inside)
  have bound : size * i + size ≤ blocks.flatten.length := by
    rw [length_flatten_of_size sized, ← Nat.mul_succ]
    exact Nat.mul_le_mul_left size inside
  rw [slice, if_pos bound, flatten_split i inside, ← length_flatten_take sized inside,
    List.drop_left, ← length, List.take_left]

/-- Overwriting a part of one block. -/
theorem overwrite_block (sized : ∀ block ∈ blocks, block.length = size) {i position : Nat}
    (inside : i < blocks.length) {part : List α} (fits : position + part.length ≤ size)
    : overwrite blocks.flatten (size * i + position) part
      = some (blocks.set i (splice blocks[i] position part)).flatten := by
  have length := sized blocks[i] (List.getElem_mem inside)
  have bound : size * i + position + part.length ≤ blocks.flatten.length := by
    have room : size * i + size ≤ size * blocks.length := by
      rw [← Nat.mul_succ]
      exact Nat.mul_le_mul_left size inside
    rw [length_flatten_of_size sized]
    omega
  rw [overwrite, if_pos bound, flatten_split i inside, ← length_flatten_take sized inside,
    splice_middle (length ▸ fits), List.set_eq_take_append_cons_drop, if_pos inside,
    List.flatten_append, List.flatten_cons]

/-- The whole block is replaced. -/
theorem splice_whole {block new : List α} (same : new.length = block.length)
    : splice block 0 new = new := by
  rw [splice, List.take_zero, List.nil_append, Nat.zero_add, same, List.drop_length,
    List.append_nil]

variable {β : Type} {write : β → List α}

/-- By induction on the list. -/
theorem take_flatMap (sized : ∀ b, (write b).length = size) (list : List β) (i : Nat)
    : (list.flatMap write).take (size * i) = (list.take i).flatMap write := by
  induction list generalizing i with
  | nil => simp
  | cons b list ih =>
      cases i with
      | zero => simp
      | succ i =>
          have position : size * (i + 1) = (write b).length + size * i := by
            rw [sized, Nat.mul_succ, Nat.add_comm]
          rw [List.flatMap_cons, position, List.take_length_add_append, ih, List.take_succ_cons,
            List.flatMap_cons]

/-- By induction on the list. -/
theorem drop_flatMap (sized : ∀ b, (write b).length = size) (list : List β) (i : Nat)
    : (list.flatMap write).drop (size * i) = (list.drop i).flatMap write := by
  induction list generalizing i with
  | nil => simp
  | cons b list ih =>
      cases i with
      | zero => simp
      | succ i =>
          have position : size * (i + 1) = (write b).length + size * i := by
            rw [sized, Nat.mul_succ, Nat.add_comm]
          rw [List.flatMap_cons, position, List.drop_length_add_append, ih, List.drop_succ_cons]

/-- Each element writes as much. -/
theorem length_flatMap_of_size (sized : ∀ b, (write b).length = size) (list : List β)
    : (list.flatMap write).length = size * list.length := by
  rw [List.flatMap_def, length_flatten_of_size, List.length_map]
  intro block member
  obtain ⟨b, -, rfl⟩ := List.mem_map.mp member
  exact sized b

/-- Blocks are replaced by blocks. -/
theorem splice_flatMap (sized : ∀ b, (write b).length = size) (list new : List β)
    (position : Nat)
    : splice (list.flatMap write) (size * position) (new.flatMap write)
      = (splice list position new).flatMap write := by
  simp only [splice, List.flatMap_append, take_flatMap sized, length_flatMap_of_size sized,
    ← Nat.mul_add, drop_flatMap sized]

-----------------------------------------------------------------------------------------
-- Cells of a grid that are numbered row by row
-----------------------------------------------------------------------------------------

/-- A number belongs to one cell. -/
theorem rowMajor_inj {width row column row' column' : Nat} (inside : column < width)
    (inside' : column' < width) (same : row * width + column = row' * width + column')
    : row = row' ∧ column = column' := by
  have positive : 0 < width := Nat.zero_lt_of_lt inside
  have rows : row = row' := by
    have quotient := congrArg (· / width) same
    simpa [Nat.mul_add_div, Nat.mul_comm _ width, Nat.div_eq_of_lt inside,
      Nat.div_eq_of_lt inside', positive] using quotient
  subst rows
  exact ⟨rfl, Nat.add_left_cancel same⟩

/-- The cells of the rows below one are numbered before it. -/
theorem rowMajor_lt {width height row column : Nat} (inside : column < width)
    (below : row < height)
    : row * width + column < height * width := by
  calc
    row * width + column < row * width + width := Nat.add_lt_add_left inside _
    _ = (row + 1) * width := (Nat.succ_mul row width).symm
    _ ≤ height * width := Nat.mul_le_mul_right width below

end NdcOdfWeb.Foundation
