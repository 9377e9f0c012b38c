import Mathlib.Data.List.TakeDrop

/-! Mixing data into a state, block by block: it makes no difference where the data is cut, as long
as what is left of one part goes in front of the next one.
-/

namespace NdcOdfWeb.Foundation

variable {σ α : Type} (mix : σ → List α → σ) (size : Nat)

/-- Mix blocks at the front of the data; the rest of it is left. -/
def absorb : Nat → σ → List α → σ × List α
  | 0, state, data => (state, data)
  | count + 1, state, data => absorb count (mix state (data.take size)) (data.drop size)

/-- Mix all whole blocks. -/
def absorbAll (state : σ) (data : List α) : σ × List α :=
  absorb mix size (data.length / size) state data

variable {mix size}

/-- By induction on the first count. -/
theorem absorb_add (count more : Nat) (state : σ) (data : List α)
    : absorb mix size (count + more) state data
      = absorb mix size more (absorb mix size count state data).1
          (absorb mix size count state data).2 := by
  induction count generalizing state data with
  | zero => rw [Nat.zero_add, absorb]
  | succ count ih => rw [Nat.succ_add, absorb, ih, absorb]

/-- By induction on the count: each step takes a block. -/
theorem length_absorb (count : Nat) (state : σ) (data : List α)
    : (absorb mix size count state data).2.length = data.length - count * size := by
  induction count generalizing state data with
  | zero => rw [absorb, Nat.zero_mul, Nat.sub_zero]
  | succ count ih => rw [absorb, ih, List.length_drop, Nat.succ_mul, Nat.sub_sub, Nat.add_comm]

/-- What stands behind the blocks is left behind the rest. -/
theorem absorb_append {count : Nat} {front : List α} (whole : count * size ≤ front.length)
    (state : σ) (back : List α)
    : absorb mix size count state (front ++ back)
      = ((absorb mix size count state front).1,
          (absorb mix size count state front).2 ++ back) := by
  induction count generalizing state front with
  | zero => rfl
  | succ count ih =>
      rw [Nat.succ_mul] at whole
      have first : size ≤ front.length := by omega
      have later : count * size ≤ (front.drop size).length := by
        rw [List.length_drop]
        omega
      rw [absorb, absorb, List.take_append_of_le_length first,
        List.drop_append_of_le_length first, ih later]

/-- Less than a block is left. -/
theorem absorbAll_short {data : List α} (short : data.length < size) (state : σ)
    : absorbAll mix size state data = (state, data) := by
  rw [absorbAll, Nat.div_eq_of_lt short, absorb]

/-- What is left is shorter than a block. -/
theorem length_absorbAll (state : σ) (data : List α)
    : (absorbAll mix size state data).2.length = data.length % size := by
  rw [absorbAll, length_absorb, Nat.mod_eq_sub_div_mul]

/-- The whole blocks of two parts: what the first one leaves is in front of the second one. -/
theorem absorbAll_append (positive : 0 < size) (state : σ) (front back : List α)
    : absorbAll mix size state (front ++ back)
      = absorbAll mix size (absorbAll mix size state front).1
          ((absorbAll mix size state front).2 ++ back) := by
  have whole : front.length / size * size ≤ front.length := Nat.div_mul_le_self _ _
  have blocks
      : (front ++ back).length / size
        = front.length / size
          + ((absorbAll mix size state front).2 ++ back).length / size := by
    rw [List.length_append, List.length_append, length_absorbAll]
    have split := Nat.div_add_mod front.length size
    have all
        : front.length + back.length
          = size * (front.length / size) + (front.length % size + back.length) := by
      omega
    rw [all, Nat.mul_add_div positive]
  rw [absorbAll, blocks, absorb_add, absorb_append whole]
  rfl

/-- A block at the front is mixed first. -/
theorem absorbAll_block {block : List α} (positive : 0 < size) (whole : block.length = size)
    (state : σ) (data : List α)
    : absorbAll mix size state (block ++ data) = absorbAll mix size (mix state block) data := by
  have one : absorbAll mix size state block = (mix state block, []) := by
    rw [absorbAll, whole, Nat.div_self positive, absorb, absorb, ← whole, List.take_length,
      List.drop_length]
  rw [absorbAll_append positive, one, List.nil_append]

end NdcOdfWeb.Foundation
