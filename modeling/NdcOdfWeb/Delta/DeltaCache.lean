import NdcOdfWeb.Delta.Encoding
import NdcOdfWeb.Foundation.StepRun

/-! The bitmaps that the generator of deltas keeps (`createDelta`). -/

namespace NdcOdfWeb.Delta

open NdcOdfWeb.Foundation

/-- The pixels that were rendered, row by row. -/
structure Pixmap where
  pixels : List Pixel
  bufferWidth : Nat
  bufferHeight : Nat
  sized : pixels.length = bufferWidth * bufferHeight

/-- A call of `createDelta`: the window in the pixmap, what was output before, and the wire
ids of the tile and of the one that the client has.
-/
structure DeltaCall where
  pixmap : Pixmap
  startX : Nat
  startY : Nat
  width : Nat
  height : Nat
  output : List UInt8
  wid : UInt32
  oldWid : UInt32

/-- What a call leaves and returns. -/
structure DeltaResult where
  deltaEntries : List DeltaData
  output : List UInt8
  created : Bool

namespace DeltaCall

variable (call : DeltaCall)

/-- The window is inside the pixmap, as the assertions of `dataToDeltaData` have it. -/
def Inside : Prop :=
  call.startX + call.width ≤ call.pixmap.bufferWidth
  ∧ call.startY + call.height ≤ call.pixmap.bufferHeight

instance : Decidable call.Inside :=
  inferInstanceAs (Decidable (_ ∧ _))

/-- The pixels of a row of the window. -/
def windowRow (y : Nat) : DeltaBitmapRow :=
  let position := (call.startY + y) * call.pixmap.bufferWidth + call.startX
  (call.pixmap.pixels.drop position).take call.width

variable {call} in
/-- A window inside the pixmap has whole rows. -/
theorem length_windowRow (inside : call.Inside) {y : Nat} (bound : y < call.height)
    : (call.windowRow y).length = call.width := by
  obtain ⟨right, bottom⟩ := inside
  have rows
      : (call.startY + y + 1) * call.pixmap.bufferWidth
        ≤ call.pixmap.bufferWidth * call.pixmap.bufferHeight := by
    rw [Nat.mul_comm]
    exact Nat.mul_le_mul_left _ (by omega)
  rw [Nat.succ_mul] at rows
  unfold windowRow
  dsimp only
  rw [List.length_take, List.length_drop, call.pixmap.sized]
  omega

/-- `dataToDeltaData`; nothing where an assertion fails. -/
def dataToDeltaData : Option DeltaData :=
  if inside : call.Inside then
    some
      {
        wid := call.wid
        width := call.width
        height := call.height
        rows := (List.range call.height).map call.windowRow
        rows_length := by rw [List.length_map, List.length_range]
        row_length := by
          intro row member
          obtain ⟨y, listed, rfl⟩ := List.mem_map.mp member
          exact length_windowRow inside (List.mem_range.mp listed)
      }
  else none

end DeltaCall

/-- `createDelta`. -/
def createDelta (deltaEntries : List DeltaData) (call : DeltaCall) : Option DeltaResult :=
  -- First store a copy for later
  let kept := if deltaEntries.length > 6 then deltaEntries.drop 1 else deltaEntries
  call.dataToDeltaData.map (fun update =>
    let deltaEntries := kept ++ [update]
    match deltaEntries.find? (fun old => call.oldWid = old.wid) with
    | none => ⟨deltaEntries, call.output, false⟩
    | some old =>
        match makeDelta old update call.output with
        | none => ⟨deltaEntries, call.output, false⟩
        | some output => ⟨deltaEntries, output, true⟩)

/-- The bitmaps that are kept after a call. -/
def cacheStep (deltaEntries : List DeltaData) (call : DeltaCall) : Option (List DeltaData) :=
  (createDelta deltaEntries call).map DeltaResult.deltaEntries

-----------------------------------------------------------------------------------------
-- What is output before a delta
-----------------------------------------------------------------------------------------

/-- The state of the loop over the rows behind an earlier output. -/
def DeltaState.behind (earlier : List UInt8) (state : DeltaState) : DeltaState where
  output := earlier ++ state.output
  lastMatchOffset := state.lastMatchOffset
  lastCopy := if state.lastCopy = 0 then 0 else earlier.length + state.lastCopy

/-- An index behind the front. -/
theorem getD_append_length {α : Type} (front back : List α) (i : Nat) (default : α)
    : (front ++ back).getD (front.length + i) default = back.getD i default := by
  rw [List.getD_eq_getElem?_getD, List.getD_eq_getElem?_getD,
    List.getElem?_append_right (Nat.le_add_right _ _), Nat.add_sub_cancel_left]

/-- Only the bytes since the last copy are read. -/
theorem continuesCopy_behind (earlier output : List UInt8) (lastCopy found y : Nat)
    : continuesCopy (earlier ++ output) (earlier.length + lastCopy) found y
      = continuesCopy output lastCopy found y := by
  unfold continuesCopy
  rw [Nat.add_assoc, Nat.add_assoc, getD_append_length, getD_append_length,
    getD_append_length]

/-- The new command is written behind. -/
theorem copyRow_behind (earlier : List UInt8) (state : DeltaState) (found y : Nat)
    : copyRow (state.behind earlier) found y = (copyRow state found y).behind earlier := by
  have new
      : DeltaState.behind earlier
          {
            output := state.output ++ ['c'.toUInt8, 1, UInt8.ofNat found, UInt8.ofNat y]
            lastMatchOffset := (found + 2 ^ 64 - y) % 2 ^ 64
            lastCopy := state.output.length + 1
          }
        = {
            output :=
              (earlier ++ state.output) ++ ['c'.toUInt8, 1, UInt8.ofNat found, UInt8.ofNat y]
            lastMatchOffset := (found + 2 ^ 64 - y) % 2 ^ 64
            lastCopy := (earlier ++ state.output).length + 1
          } := by
    unfold DeltaState.behind
    rw [if_neg (Nat.succ_ne_zero _), List.append_assoc, List.length_append, Nat.add_assoc]
  unfold copyRow
  by_cases first : state.lastCopy = 0
  · have none' : (state.behind earlier).lastCopy = 0 := if_pos first
    rw [if_neg (by omega), if_neg (by omega)]
    exact new.symm
  · have position : (state.behind earlier).lastCopy = earlier.length + state.lastCopy :=
      if_neg first
    have same
        : continuesCopy (state.behind earlier).output (state.behind earlier).lastCopy found y
          = continuesCopy state.output state.lastCopy found y := by
      rw [position]
      exact continuesCopy_behind earlier state.output state.lastCopy found y
    rw [same]
    by_cases continues : continuesCopy state.output state.lastCopy found y = true
    · rw [if_pos ⟨by omega, continues⟩, if_pos ⟨by omega, continues⟩, position]
      unfold DeltaState.behind
      dsimp only
      rw [modify_append_right]
      simp only [first, if_false]
    · rw [if_neg (fun both => continues both.2), if_neg (fun both => continues both.2)]
      exact new.symm

/-- A row is encoded alike, behind any output. -/
theorem encodeRow_behind (prev cur : DeltaData) (earlier : List UInt8) (state : DeltaState)
    (y : Nat)
    : encodeRow prev cur (state.behind earlier) y
      = (encodeRow prev cur state y).behind earlier := by
  unfold encodeRow
  by_cases same : prev.row y = cur.row y
  · rw [if_pos same, if_pos same]
  rw [if_neg same, if_neg same]
  have offset : (state.behind earlier).lastMatchOffset = state.lastMatchOffset := rfl
  rw [offset]
  cases huntRow prev (cur.row y) y state.lastMatchOffset with
  | some found => exact copyRow_behind earlier state found y
  | none =>
      unfold DeltaState.behind
      rw [List.append_assoc]

/-- A delta does not depend on what was output before it. -/
theorem makeDelta_append (prev cur : DeltaData) (output : List UInt8)
    : makeDelta prev cur output = (makeDelta prev cur []).map (output ++ ·) := by
  unfold makeDelta
  by_cases differ : prev.width ≠ cur.width ∨ prev.height ≠ cur.height
  · rw [if_pos differ, if_pos differ]
    rfl
  rw [if_neg differ, if_neg differ, Option.map_some, Option.some.injEq]
  have rows (list : List Nat) (state : DeltaState)
      : list.foldl (encodeRow prev cur) (state.behind output)
        = (list.foldl (encodeRow prev cur) state).behind output := by
    induction list generalizing state with
    | nil => rfl
    | cons y list ih => rw [List.foldl_cons, encodeRow_behind, ih, List.foldl_cons]
  exact congrArg DeltaState.output (rows (List.range prev.height) ⟨['D'.toUInt8], 0, 0⟩)

-----------------------------------------------------------------------------------------
-- The law
-----------------------------------------------------------------------------------------

/-- The cached bitmap that a delta starts from: the first with the wire id, which has the
size of the new one.
-/
structure DeltaOrigin (deltaEntries : List DeltaData) (oldWid : UInt32) (update old : DeltaData)
    : Prop where
  first : deltaEntries.find? (fun old => oldWid = old.wid) = some old
  width : old.width = update.width
  height : old.height = update.height

/-- What a call does to the bitmaps and to the output. -/
structure DeltaLaw (before : List DeltaData) (call : DeltaCall) (update : DeltaData)
    (result : DeltaResult)
    : Prop where
  wid : update.wid = call.wid
  bounded : result.deltaEntries.length ≤ 7
  added : result.deltaEntries = before.drop (before.length - 6) ++ [update]
  created
    : result.created = true
      ↔ ∃ old, DeltaOrigin result.deltaEntries call.oldWid update old
  delta
    : result.created = true →
      ∃ old ∈ result.deltaEntries,
        old.wid = call.oldWid
        ∧ (old.width = update.width ∧ old.height = update.height)
        ∧ ∃ delta, makeDelta old update [] = some delta ∧ result.output = call.output ++ delta
  unchanged : result.created = false → result.output = call.output

/-- The law holds of a call; only an assertion keeps it from having a result. -/
def Lawful (deltaEntries : List DeltaData) (call : DeltaCall) : Prop :=
  match call.dataToDeltaData, createDelta deltaEntries call with
  | none, none => ¬ call.Inside
  | some update, some result => DeltaLaw deltaEntries call update result
  | _, _ => False

section

variable {deltaEntries : List DeltaData} {call : DeltaCall} {update : DeltaData}

/-- The bitmaps that are left when there is no room for another one. -/
def keptEntries (deltaEntries : List DeltaData) : List DeltaData :=
  if deltaEntries.length > 6 then deltaEntries.drop 1 else deltaEntries

/-- The six newest ones are left. -/
theorem keptEntries_eq (bounded : deltaEntries.length ≤ 7)
    : keptEntries deltaEntries = deltaEntries.drop (deltaEntries.length - 6) := by
  unfold keptEntries
  by_cases full : deltaEntries.length > 6
  · rw [if_pos full, show deltaEntries.length - 6 = 1 by omega]
  · rw [if_neg full, Nat.sub_eq_zero_of_le (by omega), List.drop_zero]

/-- The result of a call, by the first bitmap with the wire id. -/
def deltaResult (deltaEntries : List DeltaData) (call : DeltaCall) (update : DeltaData)
    : DeltaResult :=
  match deltaEntries.find? (fun old => call.oldWid = old.wid) with
  | none => ⟨deltaEntries, call.output, false⟩
  | some old =>
      match makeDelta old update call.output with
      | none => ⟨deltaEntries, call.output, false⟩
      | some output => ⟨deltaEntries, output, true⟩

/-- The new tile is kept, and compared with an old one. -/
theorem createDelta_eq (deltaEntries : List DeltaData) (call : DeltaCall)
    : createDelta deltaEntries call
      = call.dataToDeltaData.map (fun update =>
          deltaResult (keptEntries deltaEntries ++ [update]) call update) :=
  rfl

/-- A delta is made from bitmaps of one size only. -/
theorem makeDelta_cases (prev cur : DeltaData) (output : List UInt8)
    : (
        (prev.width = cur.width ∧ prev.height = cur.height)
        ∧ ∃ delta,
            makeDelta prev cur [] = some delta
            ∧ makeDelta prev cur output = some (output ++ delta)
      )
      ∨ (
        ¬ (prev.width = cur.width ∧ prev.height = cur.height)
        ∧ makeDelta prev cur output = none
      ) := by
  by_cases same : prev.width = cur.width ∧ prev.height = cur.height
  · left
    have equal : ¬ (prev.width ≠ cur.width ∨ prev.height ≠ cur.height) := by
      simp [same]
    refine ⟨same, _, if_neg equal, ?_⟩
    rw [makeDelta_append]
    exact congrArg (Option.map (output ++ ·)) (if_neg equal)
  · right
    have differ : prev.width ≠ cur.width ∨ prev.height ≠ cur.height := by
      rwa [not_and_or] at same
    exact ⟨same, if_pos differ⟩

/-- A call outputs the delta from the first bitmap with the wire id, or nothing. -/
theorem deltaResult_cases (deltaEntries : List DeltaData) (call : DeltaCall)
    (update : DeltaData)
    : (
        ∃ old delta,
          DeltaOrigin deltaEntries call.oldWid update old
          ∧ makeDelta old update [] = some delta
          ∧ deltaResult deltaEntries call update
            = ⟨deltaEntries, call.output ++ delta, true⟩
      )
      ∨ (
        (∀ old, ¬ DeltaOrigin deltaEntries call.oldWid update old)
        ∧ deltaResult deltaEntries call update = ⟨deltaEntries, call.output, false⟩
      ) := by
  unfold deltaResult
  cases first : deltaEntries.find? (fun old => call.oldWid = old.wid) with
  | none =>
      right
      refine ⟨fun old origin => ?_, rfl⟩
      have found := origin.first
      rw [first] at found
      exact absurd found.symm (Option.some_ne_none old)
  | some old =>
      rcases makeDelta_cases old update call.output with ⟨size, delta, made, output⟩ | other
      · left
        refine ⟨old, delta, ⟨first, size.1, size.2⟩, made, ?_⟩
        dsimp only
        rw [output]
      · right
        obtain ⟨differ, failed⟩ := other
        refine ⟨fun old' origin => ?_, ?_⟩
        · obtain rfl := Option.some.inj (origin.first.symm.trans first)
          exact differ ⟨origin.width, origin.height⟩
        · dsimp only
          rw [failed]

/-- The tile found has the old id, so the delta is from it. -/
theorem deltaResult_law (bounded : deltaEntries.length ≤ 7) (wid : update.wid = call.wid)
    : DeltaLaw deltaEntries call update
        (deltaResult (keptEntries deltaEntries ++ [update]) call update) := by
  rw [keptEntries_eq bounded]
  have length : (deltaEntries.drop (deltaEntries.length - 6) ++ [update]).length ≤ 7 := by
    rw [List.length_append, List.length_singleton, List.length_drop]
    omega
  rcases deltaResult_cases (deltaEntries.drop _ ++ [update]) call update with
    ⟨old, delta, origin, made, result⟩ | ⟨none', result⟩
  · rw [result]
    have cached := List.mem_of_find?_eq_some origin.first
    have same : call.oldWid = old.wid := by
      simpa using List.find?_some origin.first
    exact
      {
        wid := wid
        bounded := length
        added := rfl
        created := ⟨fun _ => ⟨old, origin⟩, fun _ => rfl⟩
        delta := fun _ =>
          ⟨old, cached, same.symm, ⟨origin.width, origin.height⟩, delta, made, rfl⟩
        unchanged := fun failed => absurd failed.symm Bool.false_ne_true
      }
  · rw [result]
    exact
      {
        wid := wid
        bounded := length
        added := rfl
        created := by
          refine ⟨fun created => absurd created Bool.false_ne_true, ?_⟩
          rintro ⟨old, origin⟩
          exact absurd origin (none' old)
        delta := fun created => absurd created Bool.false_ne_true
        unchanged := fun _ => rfl
      }

/-- A full cache loses its first entry, the others stay. -/
theorem lawful_of_bounded (bounded : deltaEntries.length ≤ 7) (call : DeltaCall)
    : Lawful deltaEntries call := by
  unfold Lawful
  rw [createDelta_eq]
  unfold DeltaCall.dataToDeltaData
  by_cases inside : call.Inside
  · rw [dif_pos inside, Option.map_some]
    exact deltaResult_law bounded rfl
  · rw [dif_neg inside, Option.map_none]
    exact inside

/-- One entry is added, and one goes when there are seven. -/
theorem cacheStep_bounded {next : List DeltaData} (bounded : deltaEntries.length ≤ 7)
    (step : cacheStep deltaEntries call = some next)
    : next.length ≤ 7 := by
  obtain ⟨result, created, rfl⟩ := Option.map_eq_some_iff.mp step
  rw [createDelta_eq] at created
  obtain ⟨update, data, rfl⟩ := Option.map_eq_some_iff.mp created
  have wid : update.wid = call.wid := by
    unfold DeltaCall.dataToDeltaData at data
    by_cases inside : call.Inside
    · rw [dif_pos inside] at data
      cases data
      rfl
    · rw [dif_neg inside] at data
      exact absurd data.symm (Option.some_ne_none update)
  exact (deltaResult_law bounded wid).bounded

end

/-- Every call of every sequence of calls keeps the law. -/
theorem createDelta_lawful (calls : List DeltaCall) : AllSteps cacheStep Lawful [] calls := by
  intro done call rest deltaEntries split ran
  have start : ([] : List DeltaData).length ≤ 7 := Nat.zero_le 7
  have bounded : AllStates cacheStep (fun entries => entries.length ≤ 7) [] calls :=
    allStates_of_keeps (fun _ _ _ => cacheStep_bounded) start calls
  exact lawful_of_bounded (bounded done (call :: rest) deltaEntries split ran) call

end NdcOdfWeb.Delta
