import NdcOdfWeb.Delta.RoundTrip

/-! Applying a whole delta to the previous bitmap. -/

namespace NdcOdfWeb.Delta

open NdcOdfWeb.Foundation

/-- The decoder makes the current bitmap of the previous one, and the delta spells commands
that stay inside the bitmap.
-/
structure RoundTrips (prev cur : DeltaData) (delta : List UInt8) : Prop where
  decoded
    : applyCommands prev.width (rowsBytes prev.rows) delta.tail (rowsBytes prev.rows)
      = some (rowsBytes cur.rows)
  inside
    : ∃ commands : List Command,
        delta = 'D'.toUInt8 :: commands.flatMap Command.bytes
        ∧ ∀ command ∈ commands, command.Fits ∧ command.Inside prev.width prev.height

variable {prev cur : DeltaData}

/-- The constructed data has rows of its width. -/
theorem DeltaData.bitmap (data : DeltaData) : Bitmap data.width data.height data.rows :=
  ⟨data.rows_length, data.row_length⟩

/-- Equal bitmaps, row by row. -/
theorem row_eq_of_rows_eq (same : prev.rows = cur.rows) (y : Nat) : prev.row y = cur.row y := by
  rw [DeltaData.row, DeltaData.row, same]

/-- Nothing is written for bitmaps with the same rows. -/
theorem encodeRows_of_rows_eq (same : prev.rows = cur.rows) (state : DeltaState) (y : Nat)
    : (List.range y).foldl (encodeRow prev cur) state = state := by
  induction y with
  | zero => rfl
  | succ y ih =>
      rw [List.range_succ, List.foldl_append, ih, List.foldl_cons, List.foldl_nil, encodeRow,
        if_pos (row_eq_of_rows_eq same y)]

/-- Bitmaps of one height are equal if their rows are. -/
theorem rows_ext (sameHeight : prev.height = cur.height)
    (same : ∀ y < prev.height, prev.row y = cur.row y)
    : prev.rows = cur.rows := by
  refine List.ext_getElem (by rw [prev.rows_length, cur.rows_length, sameHeight]) ?_
  intro y prevBound curBound
  have row := same y (prev.rows_length ▸ prevBound)
  rwa [DeltaData.row, DeltaData.row, List.getD_eq_getElem _ _ prevBound,
    List.getD_eq_getElem _ _ curBound] at row

/-- Bitmaps with different rows have pixels. -/
theorem rowsBytes_ne_nil (sameWidth : prev.width = cur.width)
    (sameHeight : prev.height = cur.height) (differ : prev.rows ≠ cur.rows)
    : 0 < prev.width ∧ rowsBytes prev.rows ≠ [] := by
  obtain ⟨y, inside, different⟩ : ∃ y < prev.height, prev.row y ≠ cur.row y := by
    by_contra none'
    refine differ (rows_ext sameHeight fun y inside => ?_)
    by_contra different
    exact none' ⟨y, inside, different⟩
  have positive : 0 < prev.width := by
    by_contra zero
    have prevLength := row_length inside
    have curLength := row_length (sameHeight ▸ inside : y < cur.height)
    have prevNil : prev.row y = [] := List.eq_nil_of_length_eq_zero (by omega)
    have curNil : cur.row y = [] := List.eq_nil_of_length_eq_zero (by omega)
    exact different (prevNil.trans curNil.symm)
  refine ⟨positive, fun nil => ?_⟩
  have length := length_rowsBytes prev.bitmap
  rw [nil, List.length_nil] at length
  have pixels := Nat.mul_pos positive (Nat.zero_lt_of_lt inside)
  omega

/-- A command has at least four bytes. -/
theorem length_bytes (command : Command) : 4 ≤ command.bytes.length := by
  cases command <;> simp [Command.bytes, newRun]

/-- The delta of a plan that made all rows current. -/
theorem Faithful.decoded {plan : Plan} {offset : Nat}
    (faithful : Faithful prev cur prev.height plan offset) (valid : plan.Valid prev.height)
    (sameHeight : prev.height = cur.height) (narrow : prev.width ≤ 256)
    : applyCommands prev.width (rowsBytes prev.rows) (plan.commands.flatMap Command.bytes)
        (rowsBytes prev.rows)
      = some (rowsBytes cur.rows) := by
  have all := applyCommands_inside prev.bitmap prev.bitmap (by omega) valid.fits
    faithful.inside []
  have current : rowsUpTo prev cur prev.height = cur.rows := by
    rw [rowsUpTo, sameHeight, ← cur.rows_length, List.take_length, cur.rows_length, ← sameHeight,
      ← prev.rows_length, List.drop_length, List.append_nil]
  rw [List.append_nil, faithful.applied, current] at all
  rw [all, applyCommands]

/-- Each row has been passed. -/
theorem Faithful.noWraps {plan : Plan} {offset : Nat}
    (faithful : Faithful prev cur prev.height plan offset) (row : Nat)
    : ¬ WrapsAt prev cur row := by
  intro wraps
  refine faithful.noWrap row ?_ wraps
  rw [wraps.height]
  exact wraps.inside

/-- A bitmap that differs needs a command. -/
theorem Faithful.commands_ne_nil {plan : Plan} {offset : Nat}
    (faithful : Faithful prev cur prev.height plan offset)
    (sameHeight : prev.height = cur.height) (differ : prev.rows ≠ cur.rows)
    : plan.commands ≠ [] := by
  intro nil
  have applied := faithful.applied
  rw [nil, List.foldl_nil, rowsUpTo, sameHeight, ← cur.rows_length, List.take_length,
    cur.rows_length, ← sameHeight, ← prev.rows_length, List.drop_length, List.append_nil]
    at applied
  exact differ applied

/-- The wrapped row is one that differs. -/
theorem Wrapped.differ {plan : Plan} (wrapped : Wrapped prev cur plan)
    : prev.rows ≠ cur.rows := by
  intro same
  obtain ⟨row, wraps⟩ := wrapped.wraps
  exact wraps.different (row_eq_of_rows_eq same (row + 1))

/-- The decoder does not get over a copy that goes over the last row. -/
theorem Wrapped.decoded {plan : Plan} {y : Nat} (wrapped : Wrapped prev cur plan)
    (valid : plan.Valid y) (positive : 0 < prev.width) (narrow : prev.width ≤ 256)
    : applyCommands prev.width (rowsBytes prev.rows) (plan.commands.flatMap Command.bytes)
        (rowsBytes prev.rows)
      = none := by
  obtain ⟨count, srcRow, destRow, member, copied, outside⟩ := wrapped.outside
  exact applyCommands_outside prev.bitmap positive (by omega) valid.fits wrapped.columns copied
    outside member _

/-- A delta turns the previous bitmap into the current one exactly when no copy goes over
the last row; the assertion about the delta's size holds unless the bitmaps are the same.
-/
theorem makeDelta_roundTrips_iff (sameWidth : prev.width = cur.width)
    (sameHeight : prev.height = cur.height) (narrow : prev.width ≤ 256)
    (low : prev.height ≤ 256) (output : List UInt8)
    : ∃ delta,
        makeDelta prev cur output = some (output ++ delta)
        ∧ (RoundTrips prev cur delta ↔ ∀ y, ¬ WrapsAt prev cur y)
        ∧ (applyDelta (rowsBytes prev.rows) prev.width prev.height delta
            = some (rowsBytes cur.rows)
          ↔ prev.rows ≠ cur.rows ∧ ∀ y, ¬ WrapsAt prev cur y) := by
  obtain ⟨plan, offset, state, valid, invariant⟩ :=
    encodeRows_plan sameWidth sameHeight narrow low (output ++ ['D'.toUInt8]) prev.height
      (Nat.le_refl _)
  have size := length_rowsBytes prev.bitmap
  refine ⟨'D'.toUInt8 :: plan.commands.flatMap Command.bytes, ?_, ?_⟩
  · have sizes : ¬ (prev.width ≠ cur.width ∨ prev.height ≠ cur.height) := by
      rintro (width | height)
      · exact width sameWidth
      · exact height sameHeight
    rw [makeDelta, if_neg sizes, state, Plan.state, List.append_assoc, List.singleton_append]
  · rcases invariant with faithful | wrapped
    · have decoded := faithful.decoded valid sameHeight narrow
      have noWraps := faithful.noWraps
      refine ⟨⟨fun _ => noWraps, fun _ => ⟨decoded, _, rfl, fun command member =>
        ⟨valid.fits command member, faithful.inside command member⟩⟩⟩, ?_⟩
      constructor
      · intro applied
        refine ⟨fun same => ?_, noWraps⟩
        have empty := congrArg DeltaState.output state
        rw [encodeRows_of_rows_eq same, Plan.state] at empty
        have nil : plan.commands.flatMap Command.bytes = [] := by simpa using empty
        rw [applyDelta, nil, if_pos (.inl (by decide))] at applied
        cases applied
      · rintro ⟨differ, -⟩
        obtain ⟨positive, pixels⟩ := rowsBytes_ne_nil sameWidth sameHeight differ
        have long : 4 ≤ (plan.commands.flatMap Command.bytes).length := by
          obtain ⟨command, rest, shape⟩ :=
            List.exists_cons_of_ne_nil (faithful.commands_ne_nil sameHeight differ)
          have first := length_bytes command
          rw [shape, List.flatMap_cons, List.length_append]
          omega
        rw [applyDelta, if_neg ?_]
        · exact decoded
        · rintro (short | head | length | nil)
          · rw [List.length_cons] at short
            omega
          · exact head rfl
          · exact length size
          · exact pixels nil
    · obtain ⟨positive, -⟩ := rowsBytes_ne_nil sameWidth sameHeight wrapped.differ
      have decoded := wrapped.decoded valid positive narrow
      obtain ⟨row, wraps⟩ := wrapped.wraps
      refine ⟨⟨fun roundTrips => ?_, fun noWraps => absurd wraps (noWraps row)⟩, ?_⟩
      · have applied := roundTrips.decoded
        rw [List.tail_cons, decoded] at applied
        cases applied
      · refine ⟨fun applied => ?_, fun both => absurd wraps (both.2 row)⟩
        rw [applyDelta, List.tail_cons, decoded, ite_self] at applied
        cases applied

/-- Two rows of a pixel each. -/
def twoRows (wid : UInt32) (second : Pixel) : DeltaData where
  wid := wid
  width := 1
  height := 2
  rows := [[0], [second]]
  rows_length := rfl
  row_length := by simp

/-- Two rows of one pixel, both of which change. -/
theorem makeDelta_roundTrips_iff_twoRows
    : ∃ delta,
        makeDelta (twoRows 1 7) (twoRows 2 9) [] = some ([] ++ delta)
        ∧ (RoundTrips (twoRows 1 7) (twoRows 2 9) delta
          ↔ ∀ y, ¬ WrapsAt (twoRows 1 7) (twoRows 2 9) y)
        ∧ (applyDelta (rowsBytes (twoRows 1 7).rows) 1 2 delta
            = some (rowsBytes (twoRows 2 9).rows)
          ↔ (twoRows 1 7).rows ≠ (twoRows 2 9).rows
            ∧ ∀ y, ¬ WrapsAt (twoRows 1 7) (twoRows 2 9) y) := by
  have narrow : (twoRows 1 7).width ≤ 256 := by decide
  have low : (twoRows 1 7).height ≤ 256 := by decide
  have sameWidth : (twoRows 1 7).width = (twoRows 2 9).width := rfl
  exact makeDelta_roundTrips_iff sameWidth rfl narrow low []

/-- A bitmap of 256 rows of a pixel each. -/
def wrapPrev : DeltaData where
  wid := 1
  width := 1
  height := 256
  rows := [2] :: List.replicate 254 [0] ++ [[1]]
  rows_length := by decide +kernel
  row_length := by decide +kernel

/-- The same bitmap, where row 255 and row 0 follow each other at the top. -/
def wrapCur : DeltaData where
  wid := 2
  width := 1
  height := 256
  rows := [1] :: [2] :: List.replicate 253 [0] ++ [[1]]
  rows_length := by decide +kernel
  row_length := by decide +kernel

/-- Two rows from row 255 on are copied: the decoder reads behind the bitmap. -/
theorem makeDelta_wraps
    : makeDelta wrapPrev wrapCur []
        = some ('D'.toUInt8 :: (Command.copy 2 255 0).bytes)
      ∧ applyCommands 1 (rowsBytes wrapPrev.rows) (Command.copy 2 255 0).bytes
          (rowsBytes wrapPrev.rows)
        = none
      ∧ applyDelta (rowsBytes wrapPrev.rows) 1 256
          ('D'.toUInt8 :: (Command.copy 2 255 0).bytes)
        = none
      ∧ ¬ (Command.copy 2 255 0).Inside 1 256 := by
  have decoded : applyCommands 1 (rowsBytes wrapPrev.rows) (Command.copy 2 255 0).bytes
      (rowsBytes wrapPrev.rows) = none := by
    have fits : (Command.copy 2 255 0).Fits := ⟨by decide, by decide, by decide⟩
    have stops := copyRows_none wrapPrev.bitmap Nat.one_pos
      (show 256 < 255 + 2 by decide) (by decide) 0 (rowsBytes wrapPrev.rows)
    have read : applyCommands 1 (rowsBytes wrapPrev.rows)
        ((Command.copy 2 255 0).bytes ++ []) (rowsBytes wrapPrev.rows) = _ :=
      applyCommands_copy fits [] (rowsBytes wrapPrev.rows)
    rw [← List.append_nil (Command.copy 2 255 0).bytes, read]
    exact Option.bind_eq_none_iff.mpr fun _ done => nomatch stops.symm.trans done
  refine ⟨by decide +kernel, decoded, ?_, ?_⟩
  · rw [applyDelta, List.tail_cons, decoded, ite_self]
  · intro inside
    exact absurd inside.1 (by decide)

end NdcOdfWeb.Delta
