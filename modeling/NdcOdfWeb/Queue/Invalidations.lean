import Mathlib.Data.Set.Basic
import Mathlib.Order.MinMax
import NdcOdfWeb.Protocol.WordTokens
import NdcOdfWeb.Queue.Callbacks

/-! The areas of invalidations, and how merging them keeps every point covered. -/

namespace NdcOdfWeb.Queue

open NdcOdfWeb.Foundation
open NdcOdfWeb.Protocol
open NdcOdfWeb.Tiles

/-- A sum between the bounds does not wrap. -/
theorem toInt_add_of_bounds {a b : Int32} (lower : -2 ^ 31 ≤ a.toInt + b.toInt)
    (upper : a.toInt + b.toInt < 2 ^ 31)
    : (a + b).toInt = a.toInt + b.toInt := by
  rw [Int32.toInt_add]
  exact Int.bmod_eq_of_le (by omega) (by omega)

/-- A difference between the bounds does not wrap. -/
theorem toInt_sub_of_bounds {a b : Int32} (lower : -2 ^ 31 ≤ a.toInt - b.toInt)
    (upper : a.toInt - b.toInt < 2 ^ 31)
    : (a - b).toInt = a.toInt - b.toInt := by
  rw [Int32.toInt_sub]
  exact Int.bmod_eq_of_le (by omega) (by omega)

/-- The order is that of the integers. -/
theorem toInt_min (a b : Int32) : (min a b).toInt = min a.toInt b.toInt := by
  have unfolded : min a b = if a ≤ b then a else b := rfl
  rw [unfolded]
  split <;> next order => rw [Int32.le_iff_toInt_le] at order; omega

/-- The order is that of the integers. -/
theorem toInt_max (a b : Int32) : (max a b).toInt = max a.toInt b.toInt := by
  have unfolded : max a b = if a ≤ b then b else a := rfl
  rw [unfolded]
  split <;> next order => rw [Int32.le_iff_toInt_le] at order; omega

-----------------------------------------------------------------------------------------
-- Areas
-----------------------------------------------------------------------------------------

/-- Coordinates that are not negative, and a far corner inside the range of `int`. -/
structure Invalidation.Safe (rect : Invalidation) : Prop where
  x : 0 ≤ rect.x.toInt
  y : 0 ≤ rect.y.toInt
  right : rect.x.toInt + rect.w.toInt < 2 ^ 31
  bottom : rect.y.toInt + rect.h.toInt < 2 ^ 31

/-- The points of a rectangle. -/
def Invalidation.area (rect : Invalidation) : Set (Int × Int) :=
  { point |
    (rect.x.toInt ≤ point.1 ∧ point.1 < rect.x.toInt + rect.w.toInt)
    ∧ rect.y.toInt ≤ point.2 ∧ point.2 < rect.y.toInt + rect.h.toInt }

/-- The far corner fits an `int`. -/
structure Invalidation.CornerFits (rect : Invalidation) : Prop where
  left : -2 ^ 31 ≤ rect.x.toInt + rect.w.toInt
  right : rect.x.toInt + rect.w.toInt < 2 ^ 31
  top : -2 ^ 31 ≤ rect.y.toInt + rect.h.toInt
  bottom : rect.y.toInt + rect.h.toInt < 2 ^ 31

/-- The numbers that the loop computes when it merges any of these rectangles fit an `int`: the
far corner of each, and the extent from the near sides of one to the far sides of another.
-/
structure MergesFit (rects : Set Invalidation) : Prop where
  corner : ∀ rect ∈ rects, rect.CornerFits
  width
    : ∀ rect ∈ rects, ∀ other ∈ rects,
        rect.x.toInt + rect.w.toInt - other.x.toInt < 2 ^ 31
  height
    : ∀ rect ∈ rects, ∀ other ∈ rects,
        rect.y.toInt + rect.h.toInt - other.y.toInt < 2 ^ 31

/-- Each side of the rectangle is a side of one of these. -/
structure Invalidation.SpannedBy (rects : Set Invalidation) (rect : Invalidation) : Prop where
  x : ∃ other ∈ rects, rect.x.toInt = other.x.toInt
  y : ∃ other ∈ rects, rect.y.toInt = other.y.toInt
  right
    : ∃ other ∈ rects, rect.x.toInt + rect.w.toInt = other.x.toInt + other.w.toInt
  bottom
    : ∃ other ∈ rects, rect.y.toInt + rect.h.toInt = other.y.toInt + other.h.toInt

/-- A rectangle of the set is spanned by itself. -/
theorem Invalidation.SpannedBy.of_mem {rects : Set Invalidation} {rect : Invalidation}
    (member : rect ∈ rects)
    : rect.SpannedBy rects :=
  ⟨⟨rect, member, rfl⟩, ⟨rect, member, rfl⟩, ⟨rect, member, rfl⟩, ⟨rect, member, rfl⟩⟩

/-- The conditions are about every pair of rectangles. -/
theorem MergesFit.mono {rects more : Set Invalidation} (fits : MergesFit more)
    (subset : rects ⊆ more)
    : MergesFit rects where
  corner rect member := fits.corner rect (subset member)
  width rect member other otherMember := fits.width rect (subset member) other (subset otherMember)
  height rect member other otherMember :=
    fits.height rect (subset member) other (subset otherMember)

/-- The four rectangles that span it are still there. -/
theorem Invalidation.SpannedBy.mono {rects more : Set Invalidation} {rect : Invalidation}
    (spanned : rect.SpannedBy rects) (subset : rects ⊆ more)
    : rect.SpannedBy more := by
  obtain ⟨⟨left, leftMember, x⟩, ⟨top, topMember, y⟩, ⟨last, lastMember, right⟩,
    ⟨low, lowMember, bottom⟩⟩ := spanned
  exact ⟨⟨left, subset leftMember, x⟩, ⟨top, subset topMember, y⟩,
    ⟨last, subset lastMember, right⟩, ⟨low, subset lowMember, bottom⟩⟩

/-- Merging safe rectangles never overflows: no near side is negative. -/
theorem mergesFit_safe : MergesFit { rect | rect.Safe } where
  corner rect safe := by
    obtain ⟨x, y, right, bottom⟩ : rect.Safe := safe
    have width := rect.w.le_toInt
    have height := rect.h.le_toInt
    exact ⟨by omega, right, by omega, bottom⟩
  width rect safe other otherSafe := by
    have right := safe.right
    have x := otherSafe.x
    omega
  height rect safe other otherSafe := by
    have bottom := safe.bottom
    have y := otherSafe.y
    omega

/-- What safe rectangles span is safe, by its four sides. -/
theorem Invalidation.SpannedBy.safe {rect : Invalidation}
    (spanned : rect.SpannedBy { rect | rect.Safe })
    : rect.Safe := by
  obtain ⟨⟨left, leftSafe, x⟩, ⟨top, topSafe, y⟩, ⟨last, lastSafe, right⟩,
    ⟨low, lowSafe, bottom⟩⟩ := spanned
  exact {
    x := x ▸ leftSafe.x
    y := y ▸ topSafe.y
    right := right ▸ lastSafe.right
    bottom := bottom ▸ lowSafe.bottom
  }

variable {rects : Set Invalidation}

/-- The far corner of a spanned rectangle fits, since the corners of the set do. -/
theorem Invalidation.SpannedBy.cornerFits {rect : Invalidation} (fits : MergesFit rects)
    (spanned : rect.SpannedBy rects)
    : rect.CornerFits := by
  obtain ⟨last, lastMember, right⟩ := spanned.right
  obtain ⟨low, lowMember, bottom⟩ := spanned.bottom
  have corner := fits.corner last lastMember
  have lowCorner := fits.corner low lowMember
  exact {
    left := right ▸ corner.left
    right := right ▸ corner.right
    top := bottom ▸ lowCorner.top
    bottom := bottom ▸ lowCorner.bottom
  }

/-- The right edge does not wrap. -/
theorem Invalidation.CornerFits.toInt_right {rect : Invalidation} (fits : rect.CornerFits)
    : (rect.x + rect.w).toInt = rect.x.toInt + rect.w.toInt :=
  toInt_add_of_bounds fits.left fits.right

/-- The lower edge does not wrap. -/
theorem Invalidation.CornerFits.toInt_bottom {rect : Invalidation} (fits : rect.CornerFits)
    : (rect.y + rect.h).toInt = rect.y.toInt + rect.h.toInt :=
  toInt_add_of_bounds fits.top fits.bottom

/-- From a near side to a far side of spanned rectangles it is less than the range of `int`. -/
theorem Invalidation.SpannedBy.extent {rect other : Invalidation} (fits : MergesFit rects)
    (spanned : rect.SpannedBy rects) (otherSpanned : other.SpannedBy rects)
    : rect.x.toInt + rect.w.toInt - other.x.toInt < 2 ^ 31
      ∧ rect.y.toInt + rect.h.toInt - other.y.toInt < 2 ^ 31 := by
  obtain ⟨last, lastMember, right⟩ := spanned.right
  obtain ⟨low, lowMember, bottom⟩ := spanned.bottom
  obtain ⟨first, firstMember, x⟩ := otherSpanned.x
  obtain ⟨top, topMember, y⟩ := otherSpanned.y
  rw [right, bottom, x, y]
  exact ⟨fits.width last lastMember first firstMember, fits.height low lowMember top topMember⟩

/-- A covered invalidation adds no point. -/
theorem Invalidation.covers_area {msg queued : Invalidation} (fits : msg.CornerFits)
    (queuedFits : queued.CornerFits) (covers : msg.covers queued = true)
    : queued.area ⊆ msg.area := by
  simp only [Invalidation.covers, Bool.and_eq_true, decide_eq_true_eq,
    Int32.le_iff_toInt_le, fits.toInt_right, fits.toInt_bottom, queuedFits.toInt_right,
    queuedFits.toInt_bottom] at covers
  rintro ⟨px, py⟩ ⟨⟨left, right⟩, top, bottom⟩
  obtain ⟨⟨⟨left', right'⟩, top'⟩, bottom'⟩ := covers
  exact ⟨⟨by omega, by omega⟩, by omega, by omega⟩

/-- The sides of a join are the outermost sides of both: the sums of the join fit, as they are
extents of spanned rectangles.
-/
theorem Invalidation.join_corner {msg queued : Invalidation} (fits : MergesFit rects)
    (spanned : msg.SpannedBy rects) (queuedSpanned : queued.SpannedBy rects)
    : (msg.join queued).x.toInt = min msg.x.toInt queued.x.toInt
      ∧ (msg.join queued).y.toInt = min msg.y.toInt queued.y.toInt
      ∧ (msg.join queued).x.toInt + (msg.join queued).w.toInt
        = max (msg.x.toInt + msg.w.toInt) (queued.x.toInt + queued.w.toInt)
      ∧ (msg.join queued).y.toInt + (msg.join queued).h.toInt
        = max (msg.y.toInt + msg.h.toInt) (queued.y.toInt + queued.h.toInt) := by
  have corner := spanned.cornerFits fits
  have queuedCorner := queuedSpanned.cornerFits fits
  obtain ⟨ownWidth, ownHeight⟩ := spanned.extent fits spanned
  obtain ⟨toQueued, toQueuedY⟩ := spanned.extent fits queuedSpanned
  obtain ⟨fromQueued, fromQueuedY⟩ := queuedSpanned.extent fits spanned
  obtain ⟨queuedWidth, queuedHeight⟩ := queuedSpanned.extent fits queuedSpanned
  have lowW := msg.w.le_toInt
  have lowH := msg.h.le_toInt
  have width : (max (msg.x + msg.w) (queued.x + queued.w) - min msg.x queued.x).toInt
      = max (msg.x.toInt + msg.w.toInt) (queued.x.toInt + queued.w.toInt)
        - min msg.x.toInt queued.x.toInt := by
    rw [toInt_sub_of_bounds] <;>
      simp only [toInt_max, toInt_min, corner.toInt_right, queuedCorner.toInt_right] <;> omega
  have height : (max (msg.y + msg.h) (queued.y + queued.h) - min msg.y queued.y).toInt
      = max (msg.y.toInt + msg.h.toInt) (queued.y.toInt + queued.h.toInt)
        - min msg.y.toInt queued.y.toInt := by
    rw [toInt_sub_of_bounds] <;>
      simp only [toInt_max, toInt_min, corner.toInt_bottom, queuedCorner.toInt_bottom] <;> omega
  simp only [Invalidation.join, width, height, toInt_min]
  exact ⟨trivial, trivial, by omega, by omega⟩

/-- A join is spanned again: each of its sides is a side of one of both. -/
theorem Invalidation.join_spanned {msg queued : Invalidation} (fits : MergesFit rects)
    (spanned : msg.SpannedBy rects) (queuedSpanned : queued.SpannedBy rects)
    : (msg.join queued).SpannedBy rects := by
  obtain ⟨x, y, right, bottom⟩ := Invalidation.join_corner fits spanned queuedSpanned
  refine ⟨?_, ?_, ?_, ?_⟩
  · rw [x]
    rcases min_choice msg.x.toInt queued.x.toInt with own | theirs
    · exact own.symm ▸ spanned.x
    · exact theirs.symm ▸ queuedSpanned.x
  · rw [y]
    rcases min_choice msg.y.toInt queued.y.toInt with own | theirs
    · exact own.symm ▸ spanned.y
    · exact theirs.symm ▸ queuedSpanned.y
  · rw [right]
    rcases max_choice (msg.x.toInt + msg.w.toInt) (queued.x.toInt + queued.w.toInt)
      with own | theirs
    · exact own.symm ▸ spanned.right
    · exact theirs.symm ▸ queuedSpanned.right
  · rw [bottom]
    rcases max_choice (msg.y.toInt + msg.h.toInt) (queued.y.toInt + queued.h.toInt)
      with own | theirs
    · exact own.symm ▸ spanned.bottom
    · exact theirs.symm ▸ queuedSpanned.bottom

/-- The bounding rectangle covers both. -/
theorem Invalidation.join_area {msg queued : Invalidation} (fits : MergesFit rects)
    (spanned : msg.SpannedBy rects) (queuedSpanned : queued.SpannedBy rects)
    : msg.area ∪ queued.area ⊆ (msg.join queued).area := by
  obtain ⟨x, y, right, bottom⟩ := Invalidation.join_corner fits spanned queuedSpanned
  rintro ⟨px, py⟩ (⟨⟨l, r⟩, t, b⟩ | ⟨⟨l, r⟩, t, b⟩) <;>
    exact ⟨⟨by rw [x]; omega, by rw [right]; omega⟩, by rw [y]; omega, by rw [bottom]; omega⟩

-----------------------------------------------------------------------------------------
-- The merging loop
-----------------------------------------------------------------------------------------

/-- What the loop does with one queued message: it stays, or the rectangle covers it, or the
rectangle grows by it.
-/
inductive MergeStep (token0 token1 token2 : Text) (msg : Invalidation) (performedMerge : Bool)
    (it : Payload) (rest : List Payload)
    : Merge → Prop where
  | keep
    : MergeStep token0 token1 token2 msg performedMerge it rest
        { mergeInvalidations token0 token1 token2 msg performedMerge rest with
          queue :=
            it :: (mergeInvalidations token0 token1 token2 msg performedMerge rest).queue }
  | covered (queued : Invalidation)
    (found : queuedInvalidation token0 token1 token2 it = some queued)
    (samePart : queued.part = msg.part) (covers : msg.covers queued = true)
    : MergeStep token0 token1 token2 msg performedMerge it rest
        (mergeInvalidations token0 token1 token2 msg performedMerge rest)
  | joined (queued : Invalidation)
    (found : queuedInvalidation token0 token1 token2 it = some queued)
    (samePart : queued.part = msg.part)
    (fits
      : ¬ ((msg.join queued).w > reasonableSizeX ∨ (msg.join queued).h > reasonableSizeY))
    : MergeStep token0 token1 token2 msg performedMerge it rest
        (mergeInvalidations token0 token1 token2 (msg.join queued) true rest)

/-- One turn of the loop, by the branches of its body. -/
theorem mergeInvalidations_step (token0 token1 token2 : Text) (msg : Invalidation)
    (performedMerge : Bool) (it : Payload) (rest : List Payload)
    : MergeStep token0 token1 token2 msg performedMerge it rest
        (mergeInvalidations token0 token1 token2 msg performedMerge (it :: rest)) := by
  rw [mergeInvalidations]
  split
  · exact .keep
  · next queued found =>
      split
      · exact .keep
      · next samePart =>
          rw [ne_eq, not_not] at samePart
          split
          · next covers => exact .covered queued found samePart.symm covers
          · split
            · split
              · exact .keep
              · next fits => exact .joined queued found samePart.symm fits
            · exact .keep

/-- By induction on the queue: messages are erased only. -/
theorem mergeInvalidations_sublist (token0 token1 token2 : Text) (msg : Invalidation)
    (performedMerge : Bool) (queue : List Payload)
    : (mergeInvalidations token0 token1 token2 msg performedMerge queue).queue.Sublist
        queue := by
  induction queue generalizing msg performedMerge with
  | nil => exact .slnil
  | cons it rest ih =>
      have step := mergeInvalidations_step token0 token1 token2 msg performedMerge it rest
      generalize mergeInvalidations token0 token1 token2 msg performedMerge (it :: rest)
        = merge at step ⊢
      cases step with
      | keep => exact (ih _ _).cons_cons it
      | covered queued _ _ _ => exact (ih _ _).cons it
      | joined queued _ _ _ => exact (ih _ _).cons it

/-- The loop takes out invalidations with the message's first tokens only. -/
theorem mergeInvalidations_filter {token0 token1 token2 : Text} {keep : Payload → Bool}
    (msg : Invalidation) (performedMerge : Bool) {queue : List Payload}
    (dropped
      : ∀ it ∈ queue, ∀ queued,
          queuedInvalidation token0 token1 token2 it = some queued → keep it = false)
    : (mergeInvalidations token0 token1 token2 msg performedMerge queue).queue.filter keep
      = queue.filter keep := by
  induction queue generalizing msg performedMerge with
  | nil => rfl
  | cons it rest ih =>
      have later := fun msg performedMerge => ih msg performedMerge
        (fun other member => dropped other (List.mem_cons_of_mem it member))
      have gone (queued : Invalidation)
          (found : queuedInvalidation token0 token1 token2 it = some queued)
          : ¬ keep it = true := by
        simp [dropped it (List.mem_cons_self ..) queued found]
      have step := mergeInvalidations_step token0 token1 token2 msg performedMerge it rest
      generalize mergeInvalidations token0 token1 token2 msg performedMerge (it :: rest)
        = merge at step ⊢
      cases step with
      | keep => rw [List.filter_cons, List.filter_cons, later]
      | covered queued found _ _ => rw [List.filter_cons_of_neg (gone queued found), later]
      | joined queued found _ _ => rw [List.filter_cons_of_neg (gone queued found), later]

/-- Without a merge, the rectangle of the message stays as it is. -/
theorem mergeInvalidations_unmerged {token0 token1 token2 : Text} {msg : Invalidation}
    {performedMerge : Bool} {queue : List Payload}
    (unmerged
      : (mergeInvalidations token0 token1 token2 msg performedMerge queue).performedMerge
        = false)
    : (mergeInvalidations token0 token1 token2 msg performedMerge queue).msg = msg
      ∧ performedMerge = false := by
  induction queue generalizing msg performedMerge with
  | nil => exact ⟨rfl, unmerged⟩
  | cons it rest ih =>
      have step := mergeInvalidations_step token0 token1 token2 msg performedMerge it rest
      generalize mergeInvalidations token0 token1 token2 msg performedMerge (it :: rest)
        = merge at step unmerged
      cases step with
      | keep => exact ih unmerged
      | covered queued _ _ _ => exact ih unmerged
      | joined queued _ _ _ => cases (ih unmerged).2

/-- Whether a queued message is an invalidation of the part, with the given first tokens. -/
def invalidatesPart (token0 token1 token2 : Text) (part : Int32) (it : Payload) : Bool :=
  match queuedInvalidation token0 token1 token2 it with
  | some queued => queued.part == part
  | none => false

/-- The loop collects: the rectangle grows over everything that is taken out of the queue,
and nothing but invalidations of its part is.
-/
structure MergeSpec (token0 token1 token2 : Text) (msg : Invalidation) (queue : List Payload)
    (merge : Merge)
    : Prop where
  part : merge.msg.part = msg.part
  grows : msg.area ⊆ merge.msg.area
  others
    : merge.queue.filter (fun it => !invalidatesPart token0 token1 token2 msg.part it)
      = queue.filter (fun it => !invalidatesPart token0 token1 token2 msg.part it)
  covers
    : ∀ it ∈ queue, ∀ queued,
        queuedInvalidation token0 token1 token2 it = some queued
        → queued.part = msg.part
        → it ∈ merge.queue ∨ queued.area ⊆ merge.msg.area

/-- Where the sums of the merges fit, the loop loses no area. By induction on the queue: the
rectangle stays spanned by the message's and the queued ones.
-/
theorem mergeInvalidations_spec {token0 token1 token2 : Text} {msg : Invalidation}
    {queue : List Payload} (fits : MergesFit rects) (spanned : msg.SpannedBy rects)
    (queued
      : ∀ it ∈ queue, ∀ queued,
          queuedInvalidation token0 token1 token2 it = some queued
          → queued.part = msg.part
          → queued ∈ rects)
    (performedMerge : Bool)
    : MergeSpec token0 token1 token2 msg queue
        (mergeInvalidations token0 token1 token2 msg performedMerge queue)
      ∧ (mergeInvalidations token0 token1 token2 msg performedMerge queue).msg.SpannedBy
          rects := by
  induction queue generalizing msg performedMerge with
  | nil =>
      exact ⟨{
        part := rfl
        grows := subset_rfl
        others := rfl
        covers := fun _ member => nomatch member
      }, spanned⟩
  | cons it rest ih =>
      have restQueued := fun other (member : other ∈ rest) =>
        queued other (List.mem_cons_of_mem it member)
      -- the message stays in the queue
      have keep : MergeSpec token0 token1 token2 msg (it :: rest)
          { mergeInvalidations token0 token1 token2 msg performedMerge rest with
            queue := it
              :: (mergeInvalidations token0 token1 token2 msg performedMerge rest).queue } := by
        have later := (ih spanned restQueued performedMerge).1
        refine { later with others := ?_, covers := ?_ }
        · simp only [List.filter_cons, later.others]
        · intro other member queued found samePart
          rcases List.mem_cons.mp member with rfl | inRest
          · exact .inl (List.mem_cons_self ..)
          · exact (later.covers other inRest queued found samePart).imp_left
              (List.mem_cons_of_mem it)
      -- the message is taken out, and the rectangle covers it from then on
      have take (taken next : Invalidation) (flag : Bool)
          (found : queuedInvalidation token0 token1 token2 it = some taken)
          (samePart : taken.part = msg.part) (nextPart : next.part = msg.part)
          (nextSpanned : next.SpannedBy rects) (grows : msg.area ⊆ next.area)
          (covered : taken.area ⊆ next.area)
          : MergeSpec token0 token1 token2 msg (it :: rest)
              (mergeInvalidations token0 token1 token2 next flag rest)
            ∧ (mergeInvalidations token0 token1 token2 next flag rest).msg.SpannedBy
                rects := by
        obtain ⟨later, laterSpanned⟩ :=
          ih nextSpanned (fun other member queued found samePart =>
            restQueued other member queued found (samePart.trans nextPart)) flag
        have ours : invalidatesPart token0 token1 token2 msg.part it = true := by
          simp [invalidatesPart, found, samePart]
        refine ⟨{
          part := later.part.trans nextPart
          grows := grows.trans later.grows
          others := ?_
          covers := ?_
        }, laterSpanned⟩
        · rw [List.filter_cons, ours, ← nextPart]
          exact later.others
        · intro other member otherQueued otherFound otherPart
          rcases List.mem_cons.mp member with rfl | inRest
          · cases found.symm.trans otherFound
            exact .inr (covered.trans later.grows)
          · exact later.covers other inRest otherQueued otherFound (otherPart.trans nextPart.symm)
      have step := mergeInvalidations_step token0 token1 token2 msg performedMerge it rest
      generalize mergeInvalidations token0 token1 token2 msg performedMerge (it :: rest)
        = merge at step ⊢
      cases step with
      | keep => exact ⟨keep, (ih spanned restQueued performedMerge).2⟩
      | covered taken found samePart covers =>
          have takenSpanned := Invalidation.SpannedBy.of_mem
            (queued it (List.mem_cons_self ..) taken found samePart)
          exact take taken msg performedMerge found samePart rfl spanned subset_rfl
            (Invalidation.covers_area (spanned.cornerFits fits) (takenSpanned.cornerFits fits)
              covers)
      | joined taken found samePart _ =>
          have takenSpanned := Invalidation.SpannedBy.of_mem
            (queued it (List.mem_cons_self ..) taken found samePart)
          have both := Invalidation.join_area fits spanned takenSpanned
          exact take taken (msg.join taken) true found samePart rfl
            (Invalidation.join_spanned fits spanned takenSpanned)
            (Set.subset_union_left.trans both) (Set.subset_union_right.trans both)

end NdcOdfWeb.Queue
