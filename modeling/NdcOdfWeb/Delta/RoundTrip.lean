import NdcOdfWeb.Delta.Encoding

/-! Applying a delta gives the current bitmap, unless a copy goes over the last row. -/

namespace NdcOdfWeb.Delta

open NdcOdfWeb.Foundation

variable (prev cur : DeltaData)

/-- The row of the previous bitmap that row `y` is copied from, if the search for it starts
with the given offset.
-/
def copySource (y lastMatchOffset : Nat) : Option Nat :=
  if prev.row y = cur.row y then none else huntRow prev (cur.row y) y lastMatchOffset

/-- The offset of the last match in front of row `y`. -/
def matchOffset : Nat → Nat
  | 0 => 0
  | y + 1 =>
      match copySource prev cur y (matchOffset y) with
      | some found => (found + 2 ^ 64 - y) % 2 ^ 64
      | none => matchOffset y

/-- The row of the previous bitmap that row `y` is copied from. -/
def sourceRow (y : Nat) : Option Nat :=
  copySource prev cur y (matchOffset prev cur y)

/-- Row `y` is copied from row 255, the last one, and the row behind it, which is not row
128, is new there and the same as row 0 of the previous bitmap.
-/
structure WrapsAt (y : Nat) : Prop where
  height : prev.height = 256
  inside : y + 1 < 256
  notHalf : y + 1 ≠ 128
  last : sourceRow prev cur y = some 255
  different : prev.row (y + 1) ≠ cur.row (y + 1)
  first : prev.row 0 = cur.row (y + 1)

variable {prev cur}

/-- A row that differs is looked for. -/
theorem sourceRow_of_hunt {y found : Nat} (different : prev.row y ≠ cur.row y)
    (hunted : huntRow prev (cur.row y) y (matchOffset prev cur y) = some found)
    : sourceRow prev cur y = some found := by
  rw [sourceRow, copySource, if_neg different, hunted]

/-- The offset is that of the row found last. -/
theorem matchOffset_of_source {y found : Nat} (source : sourceRow prev cur y = some found)
    : matchOffset prev cur (y + 1) = (found + 2 ^ 64 - y) % 2 ^ 64 := by
  rw [sourceRow] at source
  rw [matchOffset, source]

/-- No row found, no new offset. -/
theorem matchOffset_of_none {y : Nat} (none' : sourceRow prev cur y = none)
    : matchOffset prev cur (y + 1) = matchOffset prev cur y := by
  rw [sourceRow] at none'
  rw [matchOffset, none']

/-- A search that starts at row 0 finds it. -/
theorem huntRow_zero {row : DeltaBitmapRow} {y offset : Nat} (height : prev.height = 256)
    (start : (y + offset) % 2 ^ 64 % 256 = 0) (same : prev.row 0 = row)
    : huntRow prev row y offset = some 0 := by
  rw [huntRow, height, List.range_succ_eq_map, List.map_cons, Nat.add_zero, start]
  exact List.find?_cons_of_pos (by simpa using same)

/-- The rows of the bitmap whose first rows are those of the current one. -/
def rowsUpTo (prev cur : DeltaData) (y : Nat) : List DeltaBitmapRow :=
  cur.rows.take y ++ prev.rows.drop y

/-- The rows not yet encoded are the old ones. -/
theorem row_rowsUpTo (sameHeight : prev.height = cur.height) {y : Nat}
    (inside : y < prev.height)
    : (rowsUpTo prev cur y).getD y [] = prev.row y := by
  have length : (cur.rows.take y).length = y := by
    rw [List.length_take, cur.rows_length]
    omega
  rw [rowsUpTo, DeltaData.row, List.getD_eq_getElem?_getD, List.getD_eq_getElem?_getD,
    List.getElem?_append_right (by omega), length, Nat.sub_self, List.getElem?_drop, Nat.add_zero]

/-- Writing the next row. -/
theorem set_rowsUpTo (sameHeight : prev.height = cur.height) {y : Nat}
    (inside : y < prev.height)
    : (rowsUpTo prev cur y).set y (cur.row y) = rowsUpTo prev cur (y + 1) := by
  have bound : y < cur.rows.length := by
    rw [cur.rows_length]
    omega
  have prevBound : y < prev.rows.length := by rwa [prev.rows_length]
  have length : (cur.rows.take y).length = y := by
    rw [List.length_take]
    omega
  have taken : cur.rows.take (y + 1) = cur.rows.take y ++ [cur.row y] := by
    rw [List.take_add_one, DeltaData.row, List.getD_eq_getElem _ _ bound,
      List.getElem?_eq_getElem bound]
    rfl
  rw [rowsUpTo, rowsUpTo, List.set_append_right _ _ (by omega), length, Nat.sub_self,
    List.drop_eq_getElem_cons prevBound, List.set_cons_zero, taken, List.append_assoc,
    List.singleton_append]

/-- An equal row changes nothing. -/
theorem rowsUpTo_same (sameHeight : prev.height = cur.height) {y : Nat}
    (inside : y < prev.height) (same : prev.row y = cur.row y)
    : rowsUpTo prev cur (y + 1) = rowsUpTo prev cur y := by
  have bitmap : y < (rowsUpTo prev cur y).length := by
    simp only [rowsUpTo, List.length_append, List.length_take, List.length_drop,
      prev.rows_length, cur.rows_length]
    omega
  rw [← set_rowsUpTo sameHeight inside, ← same, ← row_rowsUpTo sameHeight inside,
    List.getD_eq_getElem _ _ bitmap, List.set_getElem_self]

-----------------------------------------------------------------------------------------
-- The rows before the first one that goes wrong
-----------------------------------------------------------------------------------------

/-- What is known of the last copy as long as no copy goes over the last row: its distance
and where its last row comes from, and that it is the last command if it ends in front of
row `y`.
-/
structure CopyOrigin (prev cur : DeltaData) (y offset : Nat) (after : List Command)
    (copy : Copy) : Prop where
  offset_eq : offset = (copy.srcRow + 2 ^ 64 - copy.destRow) % 2 ^ 64
  last
    : sourceRow prev cur (copy.destRow + copy.count - 1) = some (copy.srcRow + copy.count - 1)
  behind : after ≠ [] → copy.destRow + copy.count < y

/-- The commands so far make the rows in front of `y` current. -/
structure Faithful (prev cur : DeltaData) (y : Nat) (plan : Plan) (offset : Nat) : Prop where
  inside : ∀ command ∈ plan.commands, command.Inside prev.width prev.height
  applied : plan.commands.foldl (Command.apply prev.rows) prev.rows = rowsUpTo prev cur y
  offset_eq : offset = matchOffset prev cur y
  noWrap : ∀ row, row + 1 < y → ¬ WrapsAt prev cur row
  origin : ∀ copy, plan.copy = some copy → CopyOrigin prev cur y offset plan.after copy
  ended
    : ∀ row found,
        row + 1 = y
        → sourceRow prev cur row = some found
        → ∃ copy, plan.copy = some copy ∧ copy.destRow + copy.count = y

/-- Some copy goes over the last row of the previous bitmap. -/
structure Wrapped (prev cur : DeltaData) (plan : Plan) : Prop where
  wraps : ∃ row, WrapsAt prev cur row
  columns
    : ∀ destRow destCol pixels,
        .run destRow destCol pixels ∈ plan.commands → destCol + pixels.length ≤ prev.width
  outside
    : ∃ count srcRow destRow,
        .copy count srcRow destRow ∈ plan.commands ∧ 0 < count ∧ prev.height < srcRow + count

variable {y offset found : Nat} {plan : Plan}

/-- A row that is equal is not looked for. -/
theorem sourceRow_of_same (identical : prev.row y = cur.row y)
    : sourceRow prev cur y = none := by
  rw [sourceRow, copySource, if_pos identical]

/-- At first, no command is written. -/
theorem Faithful.start : Faithful prev cur 0 ⟨[], none, []⟩ 0 where
  inside command member := nomatch member
  applied := by simp [Plan.commands, rowsUpTo]
  offset_eq := rfl
  noWrap row before := by omega
  origin copy last := nomatch last
  ended row found before := by omega

/-- A copy that ends with row 255 in front of row `y` makes the search for row `y` start at
row 0.
-/
theorem Faithful.hunt_of_wraps {row : Nat} (faithful : Faithful prev cur y plan offset)
    (before : row + 1 = y) (wraps : WrapsAt prev cur row)
    : huntRow prev (cur.row y) y offset = some 0
      ∧ ∃ copy,
          plan.copy = some copy
          ∧ copy.destRow + copy.count = y
          ∧ copy.srcRow + copy.count = 256 := by
  obtain ⟨copy, last, ends⟩ := faithful.ended row 255 before wraps.last
  have origin := faithful.origin copy last
  have source := origin.last
  rw [show copy.destRow + copy.count - 1 = row by omega, wraps.last] at source
  have lastRow : 255 = copy.srcRow + copy.count - 1 := Option.some.inj source
  have height := wraps.height
  have inside : copy.srcRow + copy.count ≤ prev.height ∧ copy.destRow + copy.count ≤ prev.height :=
    faithful.inside copy.command (by simp [Plan.commands, last])
  have total : copy.srcRow + copy.count = 256 := by omega
  refine ⟨huntRow_zero wraps.height ?_ (before ▸ wraps.first), copy, last, ends, total⟩
  rw [origin.offset_eq]
  omega

/-- An equal row writes no command. -/
theorem Faithful.same (faithful : Faithful prev cur y plan offset)
    (sameHeight : prev.height = cur.height) (row : y < prev.height)
    (identical : prev.row y = cur.row y)
    : Faithful prev cur (y + 1) plan offset where
  inside := faithful.inside
  applied := by rw [faithful.applied, rowsUpTo_same sameHeight row identical]
  offset_eq := by rw [matchOffset_of_none (sourceRow_of_same identical), faithful.offset_eq]
  noWrap other before wraps := by
    rcases Nat.lt_succ_iff_lt_or_eq.mp before with old | rfl
    · exact faithful.noWrap other old wraps
    · exact wraps.different identical
  origin copy last :=
    let origin := faithful.origin copy last
    { origin with behind := fun some' => Nat.lt_succ_of_lt (origin.behind some') }
  ended other found same source := by
    obtain rfl : other = y := by omega
    rw [sourceRow_of_same identical] at source
    cases source

/-- The row behind the others, by cases. -/
theorem Faithful.noWrap_succ (faithful : Faithful prev cur y plan offset)
    (others : ∀ row, row + 1 = y → ¬ WrapsAt prev cur row)
    : ∀ row, row + 1 < y + 1 → ¬ WrapsAt prev cur row := by
  intro row before
  rcases Nat.lt_succ_iff_lt_or_eq.mp before with old | here
  · exact faithful.noWrap row old
  · exact others row here

/-- New pixels. -/
theorem Faithful.drawn {runs : List Command} (faithful : Faithful prev cur y plan offset)
    (valid : plan.Valid y) (sameHeight : prev.height = cur.height) (row : y < prev.height)
    (different : prev.row y ≠ cur.row y) (hunted : huntRow prev (cur.row y) y offset = none)
    (isRun : ∀ command ∈ runs, IsRun y prev.width command)
    (current
      : ∀ rows : List DeltaBitmapRow,
          y < rows.length
          → rows.getD y [] = prev.row y
          → runs.foldl (Command.apply prev.rows) rows = rows.set y (cur.row y))
    : Faithful prev cur (y + 1) { plan with after := plan.after ++ runs } offset := by
  have noSource : sourceRow prev cur y = none := by
    rw [sourceRow, copySource, if_neg different, ← faithful.offset_eq, hunted]
  have commands : ({ plan with after := plan.after ++ runs } : Plan).commands
      = plan.commands ++ runs := by
    simp only [Plan.commands, List.append_assoc]
  refine ⟨?_, ?_, ?_, faithful.noWrap_succ ?_, ?_, ?_⟩
  · intro command member
    rw [commands] at member
    rcases List.mem_append.mp member with old | new
    · exact faithful.inside command old
    · have run := isRun command new
      cases command with
      | copy => cases run
      | run destRow destCol pixels =>
          obtain ⟨rfl, columns, -, -⟩ := run
          exact ⟨row, columns⟩
  · have length : y < (rowsUpTo prev cur y).length := by
      simp only [rowsUpTo, List.length_append, List.length_take, List.length_drop,
        prev.rows_length, cur.rows_length]
      omega
    rw [commands, List.foldl_append, faithful.applied,
      current _ length (row_rowsUpTo sameHeight row), set_rowsUpTo sameHeight row]
  · rw [matchOffset_of_none noSource, faithful.offset_eq]
  · intro other before wraps
    rw [(faithful.hunt_of_wraps before wraps).1] at hunted
    cases hunted
  · intro copy last
    have origin := faithful.origin copy last
    have above := (valid.numbers copy last).above
    exact { origin with behind := fun _ => by omega }
  · intro other found same source
    obtain rfl : other = y := by omega
    rw [noSource] at source
    cases source

/-- A new copy. -/
theorem Faithful.copied (faithful : Faithful prev cur y plan offset) (valid : plan.Valid y)
    (sameHeight : prev.height = cur.height) (row : y < prev.height) (low : prev.height ≤ 256)
    (different : prev.row y ≠ cur.row y)
    (hunted : huntRow prev (cur.row y) y offset = some found)
    (breaks
      : ∀ copy,
          plan.copy = some copy → ¬ Continues copy.count copy.srcRow copy.destRow found y)
    : Faithful prev cur (y + 1)
        { before := plan.commands, copy := some ⟨1, found, y⟩, after := [] }
        ((found + 2 ^ 64 - y) % 2 ^ 64) := by
  obtain ⟨foundHeight, foundRow⟩ := huntRow_found hunted
  have source : sourceRow prev cur y = some found :=
    sourceRow_of_hunt different (faithful.offset_eq ▸ hunted)
  have commands : Plan.commands ⟨plan.commands, some ⟨1, found, y⟩, []⟩
      = plan.commands ++ [.copy 1 found y] := by
    rw [Plan.commands, List.append_nil]
    rfl
  refine ⟨?_, ?_, (matchOffset_of_source source).symm, faithful.noWrap_succ ?_, ?_, ?_⟩
  · intro command member
    rw [commands] at member
    rcases List.mem_append.mp member with old | new
    · exact faithful.inside command old
    · rw [List.mem_singleton.mp new]
      exact ⟨foundHeight, row⟩
  · rw [commands, List.foldl_append, faithful.applied, List.foldl_cons, List.foldl_nil,
      ← set_rowsUpTo sameHeight row, ← foundRow]
    rfl
  · intro other before wraps
    obtain ⟨zero, copy, last, ends, total⟩ := faithful.hunt_of_wraps before wraps
    rw [zero] at hunted
    obtain rfl : 0 = found := Option.some.inj hunted
    have notHalf := wraps.notHalf
    exact breaks copy last
      ((valid.numbers copy last).continues_zero total ends.symm (by omega) (by omega))
  · intro copy last
    cases last
    exact ⟨rfl, by simpa using source, fun some' => absurd rfl some'⟩
  · intro other _ same _
    exact ⟨⟨1, found, y⟩, rfl, rfl⟩

/-- The last copy goes on: with the row behind its last one, or with row 0. -/
theorem Faithful.continued {copy : Copy} (faithful : Faithful prev cur y plan offset)
    (sameHeight : prev.height = cur.height) (row : y < prev.height)
    (low : prev.height ≤ 256) (different : prev.row y ≠ cur.row y)
    (hunted : huntRow prev (cur.row y) y offset = some found) (last : plan.copy = some copy)
    (consecutive : found = copy.srcRow + copy.count) (next : y = copy.destRow + copy.count)
    : Faithful prev cur (y + 1)
        { plan with copy := some { copy with count := copy.count + 1 } } offset := by
  obtain ⟨foundHeight, foundRow⟩ := huntRow_found hunted
  have source : sourceRow prev cur y = some found :=
    sourceRow_of_hunt different (faithful.offset_eq ▸ hunted)
  have origin := faithful.origin copy last
  have lastCommand : plan.after = [] := by
    by_contra some'
    have behind := origin.behind some'
    omega
  have commands : plan.commands = plan.before ++ [copy.command] := by
    simp only [Plan.commands, last, lastCommand, List.append_nil, Option.toList_some,
      List.map_cons, List.map_nil]
  have commands' : Plan.commands
      { plan with copy := some { copy with count := copy.count + 1 } }
      = plan.before ++ [.copy (copy.count + 1) copy.srcRow copy.destRow] := by
    simp only [Plan.commands, Copy.command, lastCommand, List.append_nil, Option.toList_some,
      List.map_cons, List.map_nil]
  refine ⟨?_, ?_, ?_, faithful.noWrap_succ ?_, ?_, ?_⟩
  · intro command member
    rw [commands'] at member
    rcases List.mem_append.mp member with old | new
    · exact faithful.inside command (by simp [commands, old])
    · rw [List.mem_singleton.mp new]
      exact ⟨by omega, by omega⟩
  · have applied := faithful.applied
    rw [commands, List.foldl_append, List.foldl_cons, List.foldl_nil, Copy.command,
      Command.apply] at applied
    rw [commands', List.foldl_append, List.foldl_cons, List.foldl_nil, Command.apply,
      List.range_succ, List.foldl_append, applied, List.foldl_cons, List.foldl_nil,
      Command.copyOne, ← consecutive, ← next, ← set_rowsUpTo sameHeight row, ← foundRow]
    rfl
  · rw [matchOffset_of_source source, origin.offset_eq]
    omega
  · intro other before wraps
    obtain ⟨-, copy', last', ends, total⟩ := faithful.hunt_of_wraps before wraps
    obtain rfl : copy = copy' := Option.some.inj (last.symm.trans last')
    omega
  · intro copy' last'
    obtain rfl : { copy with count := copy.count + 1 } = copy' := Option.some.inj last'
    refine ⟨origin.offset_eq, ?_, fun some' => absurd lastCommand some'⟩
    show sourceRow prev cur (copy.destRow + copy.count) = some (copy.srcRow + copy.count)
    rw [← next, ← consecutive, source]
  · intro other _ _ _
    refine ⟨_, rfl, ?_⟩
    show copy.destRow + (copy.count + 1) = y + 1
    omega

-----------------------------------------------------------------------------------------
-- A copy over the last row
-----------------------------------------------------------------------------------------

/-- The character behind 255 is 0: the last copy goes over the last row. -/
theorem Faithful.wrapped {copy : Copy} (faithful : Faithful prev cur y plan offset)
    (valid : plan.Valid y) (row : y < prev.height) (low : prev.height ≤ 256)
    (different : prev.row y ≠ cur.row y)
    (hunted : huntRow prev (cur.row y) y offset = some found) (last : plan.copy = some copy)
    (continues : Continues copy.count copy.srcRow copy.destRow found y)
    (beyond : found + 256 = copy.srcRow + copy.count) (next : y = copy.destRow + copy.count)
    : Wrapped prev cur { plan with copy := some { copy with count := copy.count + 1 } } := by
  have numbers := valid.numbers copy last
  have origin := faithful.origin copy last
  have inside : copy.srcRow + copy.count ≤ prev.height ∧ _ :=
    faithful.inside copy.command (by simp [Plan.commands, last])
  obtain rfl : found = 0 := by omega
  have height : prev.height = 256 := by omega
  have positive := numbers.positive
  have notHalf : y ≠ 128 := by
    obtain ⟨src, dest⟩ := continues
    have countLe := numbers.count_le
    have destSigned := numbers.dest_signed
    unfold signed at *
    split_ifs at * <;> omega
  have lastSource := origin.last
  rw [← next, beyond.symm, Nat.zero_add] at lastSource
  have wraps : WrapsAt prev cur (y - 1) := by
    have behind : y - 1 + 1 = y := by omega
    constructor
    · exact height
    · omega
    · omega
    · exact lastSource
    · rwa [behind]
    · rw [behind]
      exact (huntRow_found hunted).2
  refine ⟨⟨_, wraps⟩, ?_, ⟨copy.count + 1, copy.srcRow, copy.destRow, ?_, ?_, ?_⟩⟩
  · intro destRow destCol pixels member
    have old : .run destRow destCol pixels ∈ plan.commands := by
      simpa [Plan.commands, Copy.command, last] using member
    exact (faithful.inside _ old).2
  · simp [Plan.commands, Copy.command]
  · exact Nat.succ_pos _
  · omega

/-- Once a copy has gone over the last row, it stays so. -/
theorem Wrapped.step {next : Plan} {nextOffset : Nat} (wrapped : Wrapped prev cur plan)
    (step : RowStep prev cur y offset plan next nextOffset)
    : Wrapped prev cur next := by
  obtain ⟨wraps, columns, count, srcRow, destRow, member, positive, outside⟩ := wrapped
  cases step with
  | same => exact ⟨wraps, columns, count, srcRow, destRow, member, positive, outside⟩
  | @copied found _ _ _ =>
      have commands : Plan.commands ⟨plan.commands, some ⟨1, found, y⟩, []⟩
          = plan.commands ++ [.copy 1 found y] := by
        rw [Plan.commands, List.append_nil]
        rfl
      refine ⟨wraps, ?_, count, srcRow, destRow, ?_, positive, outside⟩
      · intro row col pixels inNext
        rw [commands] at inNext
        exact columns row col pixels (by simpa using inNext)
      · rw [commands]
        exact List.mem_append_left _ member
  | @drawn runs _ _ isRun _ =>
      refine ⟨wraps, ?_, count, srcRow, destRow, ?_, positive, outside⟩
      · intro row col pixels inNext
        simp only [Plan.commands, ← List.append_assoc] at inNext
        rcases List.mem_append.mp inNext with old | new
        · exact columns row col pixels old
        · exact (isRun _ new).2.1
      · simp only [Plan.commands, ← List.append_assoc]
        exact List.mem_append_left _ member
  | @continued copy found _ _ last _ =>
      have old : (∃ other ∈ [copy], other.command = .copy count srcRow destRow)
          ∨ .copy count srcRow destRow ∈ plan.before ++ plan.after := by
        simp only [Plan.commands, last, List.mem_append, Option.toList_some, List.mem_map]
          at member
        rcases member with (front | this) | back
        · exact .inr (List.mem_append_left _ front)
        · exact .inl this
        · exact .inr (List.mem_append_right _ back)
      have inNext (row col : Nat) (pixels : List Pixel)
          (inside
            : .run row col pixels
              ∈ Plan.commands { plan with copy := some { copy with count := copy.count + 1 } })
          : col + pixels.length ≤ prev.width := by
        refine columns row col pixels ?_
        simpa [Plan.commands, Copy.command, last] using inside
      rcases old with ⟨other, isLast, same⟩ | elsewhere
      · obtain rfl := List.mem_singleton.mp isLast
        obtain ⟨rfl, rfl, rfl⟩ := Command.copy.inj same
        refine ⟨wraps, inNext, other.count + 1, other.srcRow, other.destRow, ?_, ?_, ?_⟩
        · simp [Plan.commands, Copy.command]
        · exact Nat.succ_pos _
        · omega
      · refine ⟨wraps, inNext, count, srcRow, destRow, ?_, positive, outside⟩
        rcases List.mem_append.mp elsewhere with front | back
        · simp [Plan.commands, front]
        · simp [Plan.commands, back]

/-- A row keeps the commands faithful, or a copy goes over the last row. -/
theorem Faithful.step {next : Plan} {nextOffset : Nat}
    (faithful : Faithful prev cur y plan offset) (valid : plan.Valid y)
    (sameHeight : prev.height = cur.height) (row : y < prev.height) (low : prev.height ≤ 256)
    (step : RowStep prev cur y offset plan next nextOffset)
    : Faithful prev cur (y + 1) next nextOffset ∨ Wrapped prev cur next := by
  cases step with
  | same identical => exact .inl (faithful.same sameHeight row identical)
  | copied different hunted breaks =>
      exact .inl (faithful.copied valid sameHeight row low different hunted breaks)
  | drawn different hunted isRun current =>
      exact .inl (faithful.drawn valid sameHeight row different hunted isRun current)
  | continued different hunted last continues =>
      have foundBound := Nat.lt_of_lt_of_le (huntRow_found hunted).1 low
      obtain ⟨next, source, -⟩ := (valid.numbers _ last).continues foundBound
        (Nat.lt_of_lt_of_le row low) continues
      rcases source with consecutive | beyond
      · exact .inl (faithful.continued sameHeight row low different hunted last consecutive next)
      · exact .inr (faithful.wrapped valid row low different hunted last continues beyond next)

/-- The commands in front of row `y`, as the generator has written them. -/
theorem encodeRows_plan (sameWidth : prev.width = cur.width)
    (sameHeight : prev.height = cur.height) (narrow : prev.width ≤ 256)
    (low : prev.height ≤ 256) (start : List UInt8) (y : Nat) (rows : y ≤ prev.height)
    : ∃ plan offset,
        (List.range y).foldl (encodeRow prev cur)
            { output := start, lastMatchOffset := 0, lastCopy := 0 }
          = Plan.state start plan offset
        ∧ plan.Valid y
        ∧ (Faithful prev cur y plan offset ∨ Wrapped prev cur plan) := by
  induction y with
  | zero =>
      refine ⟨⟨[], none, []⟩, 0, ?_, ⟨?_, ?_⟩, .inl .start⟩
      rotate_left
      · exact fun _ member => nomatch member
      · exact fun _ last => nomatch last
      simp [Plan.state, Plan.commands, Plan.lastCopy]
  | succ y ih =>
      obtain ⟨plan, offset, state, valid, invariant⟩ := ih (by omega)
      obtain ⟨next, nextOffset, encoded, step, nextValid⟩ :=
        encodeRow_step start offset sameWidth sameHeight narrow low valid
          rows
      refine ⟨next, nextOffset, ?_, nextValid, ?_⟩
      · rw [List.range_succ, List.foldl_append, state, List.foldl_cons, List.foldl_nil, encoded]
      · rcases invariant with faithful | wrapped
        · exact faithful.step valid sameHeight rows low step
        · exact .inr (wrapped.step step)

end NdcOdfWeb.Delta
