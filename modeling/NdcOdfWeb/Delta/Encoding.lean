import NdcOdfWeb.Delta.NewRuns

/-! The commands that the generator writes, row by row.
The generator changes the count of its last copy in place; the commands of the output change
accordingly.
-/

namespace NdcOdfWeb.Delta

open NdcOdfWeb.Foundation

/-- A byte as a signed number. -/
def signed (n : Nat) : Int :=
  if n < 128 then n else n - 256

/-- A byte as a signed number, checked for all bytes. -/
theorem signedChar_ofNat {n : Nat} (bound : n < 256) : signedChar (UInt8.ofNat n) = signed n := by
  have all : ∀ n < 256, signedChar (UInt8.ofNat n) = signed n := by decide +kernel
  exact all n bound

/-- What is known of the numbers of the last copy before row `y`: neither rows nor count go
over the largest signed character, except that row 0 may follow row 255.
-/
structure CopyNumbers (count srcRow destRow y : Nat) : Prop where
  positive : 0 < count
  src_lt : srcRow < 256
  dest_lt : destRow < 256
  count_le : count ≤ 128
  src_signed : signed srcRow + count ≤ 128
  dest_signed : signed destRow + count ≤ 128
  differs : srcRow ≠ destRow
  above : destRow + count ≤ y

/-- The numbers of a copy are still right in the next row. -/
theorem CopyNumbers.mono {count srcRow destRow y : Nat}
    (numbers : CopyNumbers count srcRow destRow y)
    : CopyNumbers count srcRow destRow (y + 1) :=
  { numbers with above := Nat.le_succ_of_le numbers.above }

/-- The numbers of a new copy of one row. -/
theorem CopyNumbers.new {srcRow destRow : Nat} (src : srcRow < 256) (dest : destRow < 256)
    (differs : srcRow ≠ destRow)
    : CopyNumbers 1 srcRow destRow (destRow + 1) where
  positive := by omega
  src_lt := src
  dest_lt := dest
  count_le := by omega
  src_signed := by
    unfold signed
    split <;> omega
  dest_signed := by
    unfold signed
    split <;> omega
  differs := differs
  above := Nat.le_refl _

/-- The comparison of characters: the row continues the copy, where row 0 continues row
255.
-/
def Continues (count srcRow destRow found y : Nat) : Prop :=
  signed srcRow + signed count = signed found ∧ signed destRow + signed count = signed y

/-- A copy that goes on: the test of the bytes means that the rows follow each other, or that the
source wraps.
-/
theorem CopyNumbers.continues {count srcRow destRow found y : Nat}
    (numbers : CopyNumbers count srcRow destRow y) (foundBound : found < 256)
    (yBound : y < 256) (continues : Continues count srcRow destRow found y)
    : y = destRow + count
      ∧ (found = srcRow + count ∨ found + 256 = srcRow + count)
      ∧ CopyNumbers (count + 1) srcRow destRow (y + 1) := by
  obtain ⟨src, dest⟩ := continues
  obtain ⟨positive, srcLt, destLt, countLe, srcSigned, destSigned, differs, above⟩ := numbers
  have short : count < 128 := by
    unfold signed at *
    split_ifs at * <;> omega
  have facts : y = destRow + count
      ∧ (found = srcRow + count ∨ found + 256 = srcRow + count)
      ∧ signed srcRow + ((count + 1 : Nat) : Int) ≤ 128
      ∧ signed destRow + ((count + 1 : Nat) : Int) ≤ 128 := by
    unfold signed at *
    split_ifs at * <;> omega
  obtain ⟨row, source, srcNext, destNext⟩ := facts
  exact ⟨row, source, by omega, srcLt, destLt, by omega, srcNext, destNext, differs, by omega⟩

/-- Row 0 continues a copy that ends with row 255, except into row 128. -/
theorem CopyNumbers.continues_zero {count srcRow destRow y : Nat}
    (numbers : CopyNumbers count srcRow destRow y) (ends : srcRow + count = 256)
    (row : y = destRow + count) (yBound : y < 256) (notHalf : y ≠ 128)
    : Continues count srcRow destRow 0 y := by
  obtain ⟨positive, srcLt, destLt, countLe, srcSigned, destSigned, differs, above⟩ := numbers
  unfold Continues signed at *
  split_ifs at * <;> omega

section CopyBytes

variable (front back : List UInt8) (count srcRow destRow : Nat)

/-- An output with a copy in it. -/
def copyInside : List UInt8 :=
  front ++ ((Command.copy count srcRow destRow).bytes ++ back)

/-- The three bytes of the copy. -/
theorem getD_copyInside
    : (copyInside front back count srcRow destRow).getD (front.length + 1) 0 = UInt8.ofNat count
      ∧ (copyInside front back count srcRow destRow).getD (front.length + 2) 0
        = UInt8.ofNat srcRow
      ∧ (copyInside front back count srcRow destRow).getD (front.length + 3) 0
        = UInt8.ofNat destRow := by
  refine ⟨?_, ?_, ?_⟩ <;>
    simp [copyInside, Command.bytes, List.getD_eq_getElem?_getD]

/-- To change a byte behind the front, by induction on the front. -/
theorem modify_append_right {α : Type} (front back : List α) (i : Nat) (f : α → α)
    : (front ++ back).modify (front.length + i) f = front ++ back.modify i f := by
  induction front with
  | nil => simp
  | cons a front ih =>
      rw [List.cons_append, List.length_cons, Nat.add_right_comm, List.modify_succ_cons, ih,
        List.cons_append]

/-- To raise the count of the copy. -/
theorem modify_copyInside
    : (copyInside front back count srcRow destRow).modify (front.length + 1) (· + 1)
      = copyInside front back (count + 1) srcRow destRow := by
  have next : UInt8.ofNat count + 1 = UInt8.ofNat (count + 1) := by
    rw [UInt8.ofNat_add]
    rfl
  rw [copyInside, modify_append_right]
  simp only [copyInside, Command.bytes, List.cons_append, List.modify_succ_cons,
    List.modify_zero_cons, next]

/-- The test of the bytes is one of the numbers, which fit bytes. -/
theorem continuesCopy_iff {count srcRow destRow found y : Nat} (countBound : count < 256)
    (srcBound : srcRow < 256) (destBound : destRow < 256) (foundBound : found < 256)
    (yBound : y < 256)
    : continuesCopy (copyInside front back count srcRow destRow) (front.length + 1) found y = true
      ↔ Continues count srcRow destRow found y := by
  obtain ⟨countByte, srcByte, destByte⟩ := getD_copyInside front back count srcRow destRow
  simp only [continuesCopy, countByte, srcByte, destByte, Bool.and_eq_true, beq_iff_eq,
    signedChar_ofNat, countBound, srcBound, destBound, foundBound, yBound, Continues]

end CopyBytes

-----------------------------------------------------------------------------------------
-- One row
-----------------------------------------------------------------------------------------

/-- The numbers of a copy. -/
structure Copy where
  count : Nat
  srcRow : Nat
  destRow : Nat

def Copy.command (copy : Copy) : Command :=
  .copy copy.count copy.srcRow copy.destRow

/-- The commands written so far, with the last copy apart. -/
structure Plan where
  before : List Command
  copy : Option Copy
  after : List Command

namespace Plan

def commands (plan : Plan) : List Command :=
  plan.before ++ plan.copy.toList.map Copy.command ++ plan.after

/-- The position of the last copy's count in the output. -/
def lastCopy (start : List UInt8) (plan : Plan) : Nat :=
  match plan.copy with
  | none => 0
  | some _ => (start ++ plan.before.flatMap Command.bytes).length + 1

/-- The state of the generator that has written the commands behind `start`. -/
def state (start : List UInt8) (plan : Plan) (lastMatchOffset : Nat) : DeltaState where
  output := start ++ plan.commands.flatMap Command.bytes
  lastMatchOffset := lastMatchOffset
  lastCopy := plan.lastCopy start

/-- The numbers of the commands are bytes, and those of the last copy are as `CopyNumbers`
says.
-/
structure Valid (y : Nat) (plan : Plan) : Prop where
  fits : ∀ command ∈ plan.commands, command.Fits
  numbers
    : ∀ copy, plan.copy = some copy → CopyNumbers copy.count copy.srcRow copy.destRow y

end Plan

/-- What the loop body does to the commands at row `y`, with the offset of the last match in
front of it and behind it.
-/
inductive RowStep (prev cur : DeltaData) (y offset : Nat) (plan : Plan) : Plan → Nat → Prop where
  | same (identical : prev.row y = cur.row y)
    : RowStep prev cur y offset plan plan offset
  | continued {copy found} (different : prev.row y ≠ cur.row y)
    (hunted : huntRow prev (cur.row y) y offset = some found) (last : plan.copy = some copy)
    (continues : Continues copy.count copy.srcRow copy.destRow found y)
    : RowStep prev cur y offset plan
        { plan with copy := some { copy with count := copy.count + 1 } } offset
  | copied {found} (different : prev.row y ≠ cur.row y)
    (hunted : huntRow prev (cur.row y) y offset = some found)
    (breaks
      : ∀ copy,
          plan.copy = some copy → ¬ Continues copy.count copy.srcRow copy.destRow found y)
    : RowStep prev cur y offset plan
        { before := plan.commands, copy := some ⟨1, found, y⟩, after := [] }
        ((found + 2 ^ 64 - y) % 2 ^ 64)
  | drawn {runs} (different : prev.row y ≠ cur.row y)
    (hunted : huntRow prev (cur.row y) y offset = none)
    (isRun : ∀ command ∈ runs, IsRun y prev.width command)
    (current
      : ∀ rows : List DeltaBitmapRow,
          y < rows.length
          → rows.getD y [] = prev.row y
          → runs.foldl (Command.apply prev.rows) rows = rows.set y (cur.row y))
    : RowStep prev cur y offset plan { plan with after := plan.after ++ runs } offset

/-- A row that is found is the same as the one that was looked for. -/
theorem huntRow_found {prev : DeltaData} {curRow : DeltaBitmapRow} {y offset found : Nat}
    (hunted : huntRow prev curRow y offset = some found)
    : found < prev.height ∧ prev.row found = curRow := by
  have member := List.mem_of_find?_eq_some hunted
  have same := List.find?_some hunted
  simp only [List.mem_map, List.mem_range] at member
  obtain ⟨yn, bound, rfl⟩ := member
  exact ⟨Nat.mod_lt _ (by omega), by simpa using same⟩

namespace Plan

variable {start : List UInt8} {y offset : Nat} {plan : Plan}

/-- A plan stays valid for the next row. -/
theorem Valid.mono (valid : plan.Valid y) : plan.Valid (y + 1) :=
  { valid with numbers := fun copy last => (valid.numbers copy last).mono }

/-- The output of a plan with a last copy. -/
theorem output_eq {copy : Copy} (last : plan.copy = some copy)
    : (plan.state start offset).output
      = copyInside (start ++ plan.before.flatMap Command.bytes)
          (plan.after.flatMap Command.bytes) copy.count copy.srcRow copy.destRow := by
  simp only [state, commands, last, Option.toList_some, List.map_cons, List.map_nil, copyInside,
    Copy.command, List.flatMap_append, List.flatMap_cons, List.flatMap_nil, List.append_nil,
    List.append_assoc]

/-- The last copy stands behind the commands before it. -/
theorem lastCopy_eq {copy : Copy} (last : plan.copy = some copy)
    : plan.lastCopy start = (start ++ plan.before.flatMap Command.bytes).length + 1 := by
  rw [lastCopy, last]

/-- The generator goes on with the last copy exactly when the numbers allow it. -/
theorem continuesCopy_state {copy : Copy} {found : Nat} (valid : plan.Valid y)
    (last : plan.copy = some copy) (foundBound : found < 256) (bound : y < 256)
    : continuesCopy (plan.state start offset).output (plan.lastCopy start) found y = true
      ↔ Continues copy.count copy.srcRow copy.destRow found y := by
  have numbers := valid.numbers copy last
  have countBound : copy.count < 256 := Nat.lt_of_le_of_lt numbers.count_le (by omega)
  rw [output_eq last, lastCopy_eq last,
    continuesCopy_iff _ _ countBound numbers.src_lt numbers.dest_lt foundBound bound]

/-- A copy goes on with the next row. -/
theorem Valid.continued {copy : Copy} {found : Nat} (valid : plan.Valid y)
    (last : plan.copy = some copy) (foundBound : found < 256) (bound : y < 256)
    (continues : Continues copy.count copy.srcRow copy.destRow found y)
    : Valid (y + 1) { plan with copy := some { copy with count := copy.count + 1 } } := by
  obtain ⟨-, -, next⟩ := (valid.numbers copy last).continues foundBound bound continues
  refine ⟨?_, ?_⟩
  · intro command member
    simp only [commands, Option.toList_some, List.map_cons, List.map_nil, List.mem_append,
      List.mem_singleton] at member
    rcases member with (front | rfl) | back
    · exact valid.fits command (by simp [commands, front])
    · exact ⟨Nat.lt_of_le_of_lt next.count_le (by omega), next.src_lt, next.dest_lt⟩
    · exact valid.fits command (by simp [commands, back])
  · intro other same
    cases same
    exact next

/-- A new copy begins. -/
theorem Valid.copied {found : Nat} (valid : plan.Valid y) (foundBound : found < 256)
    (bound : y < 256) (differs : found ≠ y)
    : Valid (y + 1) { before := plan.commands, copy := some ⟨1, found, y⟩, after := [] } := by
  refine ⟨?_, ?_⟩
  · intro command member
    have split : command ∈ plan.commands ++ [Command.copy 1 found y] := by
      simpa [Plan.commands, Copy.command] using member
    rcases List.mem_append.mp split with old | new
    · exact valid.fits command old
    · rw [List.mem_singleton.mp new]
      exact ⟨by decide, foundBound, bound⟩
  · intro other same
    cases same
    exact .new foundBound bound differs

/-- A row is drawn in runs. -/
theorem Valid.drawn {runs : List Command} {width : Nat} (valid : plan.Valid y)
    (bound : y < 256) (narrow : width ≤ 256) (isRun : ∀ command ∈ runs, IsRun y width command)
    : Valid (y + 1) { plan with after := plan.after ++ runs } := by
  refine ⟨?_, fun copy last => (valid.numbers copy last).mono⟩
  intro command member
  simp only [commands, ← List.append_assoc] at member
  rcases List.mem_append.mp member with old | new
  · exact valid.fits command old
  · have run := isRun command new
    cases command with
    | copy => cases run
    | run destRow destCol pixels =>
        obtain ⟨rfl, columns, positive, short⟩ := run
        exact ⟨bound, by omega, by omega⟩

end Plan

/-- Going on with the last copy, or starting a new one. -/
theorem copyRow_step {prev cur : DeltaData} {start : List UInt8} {y offset found : Nat}
    {plan : Plan} (valid : plan.Valid y) (bound : y < 256) (height : prev.height ≤ 256)
    (different : prev.row y ≠ cur.row y)
    (hunted : huntRow prev (cur.row y) y offset = some found)
    : ∃ next nextOffset,
        copyRow (plan.state start offset) found y = next.state start nextOffset
        ∧ RowStep prev cur y offset plan next nextOffset
        ∧ next.Valid (y + 1) := by
  obtain ⟨foundHeight, foundRow⟩ := huntRow_found hunted
  have foundBound : found < 256 := Nat.lt_of_lt_of_le foundHeight height
  have differs : found ≠ y := by
    rintro rfl
    exact different foundRow
  unfold copyRow
  split
  · next continued =>
      obtain ⟨isCopy, continues⟩ := continued
      cases last : plan.copy with
      | none =>
          simp only [Plan.state, Plan.lastCopy, last] at isCopy
          omega
      | some copy =>
          have goesOn := (Plan.continuesCopy_state valid last foundBound bound).mp continues
          refine ⟨_, _, ?_, .continued different hunted last goesOn,
            valid.continued last foundBound bound goesOn⟩
          have position : (plan.state start offset).lastCopy
              = (start ++ plan.before.flatMap Command.bytes).length + 1 :=
            Plan.lastCopy_eq last
          rw [position, Plan.output_eq last, modify_copyInside]
          simp only [Plan.state, Plan.lastCopy, Plan.commands, Copy.command, copyInside,
            Option.toList_some, List.map_cons, List.map_nil, List.flatMap_append,
            List.flatMap_cons, List.flatMap_nil, List.append_nil, List.append_assoc, last]
  · next breaks =>
      refine ⟨_, _, ?_, .copied different hunted ?_, valid.copied foundBound bound differs⟩
      · simp only [Plan.state, Plan.lastCopy, Plan.commands, Copy.command, Option.toList_some,
          List.map_cons, List.map_nil, List.flatMap_append, List.flatMap_cons, List.flatMap_nil,
          List.append_nil, List.append_assoc]
        rfl
      · intro copy last continues
        refine breaks ⟨?_, (Plan.continuesCopy_state valid last foundBound bound).mpr continues⟩
        rw [show (plan.state start offset).lastCopy = _ from Plan.lastCopy_eq last]
        omega

/-- A row is as long as the bitmap is wide. -/
theorem row_length {data : DeltaData} {y : Nat} (inside : y < data.height)
    : (data.row y).length = data.width :=
  Bitmap.getD_length ⟨data.rows_length, data.row_length⟩ inside

/-- Every row that the loop body handles is one of the four steps. -/
theorem encodeRow_step {prev cur : DeltaData} (start : List UInt8) {y : Nat} (offset : Nat)
    {plan : Plan} (sameWidth : prev.width = cur.width) (sameHeight : prev.height = cur.height)
    (narrow : prev.width ≤ 256) (low : prev.height ≤ 256) (valid : plan.Valid y)
    (inside : y < prev.height)
    : ∃ next nextOffset,
        encodeRow prev cur (plan.state start offset) y = next.state start nextOffset
        ∧ RowStep prev cur y offset plan next nextOffset
        ∧ next.Valid (y + 1) := by
  have bound : y < 256 := Nat.lt_of_lt_of_le inside low
  unfold encodeRow
  split
  · next identical => exact ⟨plan, offset, rfl, .same identical, valid.mono⟩
  · next different =>
      split
      · next found hunted => exact copyRow_step valid bound low different hunted
      · next hunted =>
          obtain ⟨runs, bytes, isRun, applied⟩ :=
            newRuns_commands prev.rows y 0 ((prev.row y).zip (cur.row y))
          have prevLength := row_length inside
          have curLength := row_length (sameHeight ▸ inside : y < cur.height)
          have zipped : 0 + ((prev.row y).zip (cur.row y)).length = prev.width := by
            rw [List.length_zip]
            omega
          rw [zipped] at isRun
          have current (rows : List DeltaBitmapRow) (row : y < rows.length)
              (old : rows.getD y [] = prev.row y)
              : runs.foldl (Command.apply prev.rows) rows = rows.set y (cur.row y) := by
            have done := applied rows [] rfl row
            rw [List.map_fst_zip (by omega), List.map_snd_zip (by omega)] at done
            exact done old
          refine ⟨_, _, ?_, .drawn different hunted isRun current,
            valid.drawn bound narrow isRun⟩
          simp only [Plan.state, Plan.lastCopy, Plan.commands, bytes, List.flatMap_append,
            List.append_assoc]

end NdcOdfWeb.Delta
