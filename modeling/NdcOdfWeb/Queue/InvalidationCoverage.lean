import NdcOdfWeb.Queue.CallbackMessages
import NdcOdfWeb.Queue.Runs
import NdcOdfWeb.Queue.Service

/-! Merging invalidations in the queue loses no area. -/

namespace NdcOdfWeb.Queue

open NdcOdfWeb.Foundation
open NdcOdfWeb.Protocol
open NdcOdfWeb.Tiles

-----------------------------------------------------------------------------------------
-- Invalidation messages
-----------------------------------------------------------------------------------------

/-- The payload `x, y, width, height, part`. -/
def Invalidation.payload (rect : Invalidation) : Text :=
  showInt rect.x.toInt ++ ", ".toList ++ showInt rect.y.toInt ++ ", ".toList
    ++ showInt rect.w.toInt ++ ", ".toList ++ showInt rect.h.toInt ++ ", ".toList
    ++ showInt rect.part.toInt

/-- The tokens of a rectangle payload. -/
def Invalidation.tokens (rect : Invalidation) : List Text :=
  [
    showInt rect.x.toInt ++ [','], showInt rect.y.toInt ++ [','], showInt rect.w.toInt ++ [','],
    showInt rect.h.toInt ++ [','], showInt rect.part.toInt
  ]

/-- The rectangle that stands for a whole part. -/
def wholePart (part : Int32) : Invalidation where
  x := 0
  y := 0
  w := intMax
  h := intMax
  part := part

/-- The greatest number of 32 bits. -/
theorem toInt_intMax : intMax.toInt = 2147483647 := by decide

/-- The rectangle of a whole part does not overflow. -/
theorem wholePart_safe (part : Int32) : (wholePart part).Safe where
  x := by simp [wholePart]
  y := by simp [wholePart]
  right := by simp [wholePart, toInt_intMax]
  bottom := by simp [wholePart, toInt_intMax]

/-- The payloads of invalidations. -/
inductive InvalidationPayload where
  | rectangle (rect : Invalidation) (safe : rect.Safe)
  | empty
  | emptyPart (part : Int32)

def InvalidationPayload.text : InvalidationPayload → Text
  | rectangle rect _ => rect.payload
  | empty => "EMPTY".toList
  | emptyPart part => "EMPTY, ".toList ++ showInt part.toInt

def InvalidationPayload.tokens : InvalidationPayload → List Text
  | rectangle rect _ => rect.tokens
  | empty => ["EMPTY".toList]
  | emptyPart part => ["EMPTY,".toList, showInt part.toInt]

/-- The rectangle that the queue reads from a payload; it ignores `EMPTY` without part. -/
def InvalidationPayload.invalidation? : InvalidationPayload → Option Invalidation
  | rectangle rect _ => some rect
  | empty => none
  | emptyPart part => some (wholePart part)

/-- The message `callback <view> 0 <payload>`. -/
def invalidationMessage (view : View) (payload : InvalidationPayload) : Payload :=
  callbackMessage view.name "0".toList payload.text

/-- The same message for any rectangle, as merging writes it. -/
def rectangleMessage (view : View) (rect : Invalidation) : Payload :=
  callbackMessage view.name "0".toList rect.payload

/-- A rectangle is written as its tokens. -/
theorem Invalidation.payload_eq (rect : Invalidation)
    : ' ' :: rect.payload = spaced ' ' rect.tokens := by
  have comma : ", ".toList = [',', ' '] := by decide
  unfold Invalidation.payload
  rw [comma]
  simp only [Invalidation.tokens, spaced_cons, spaced_nil, List.append_assoc, List.cons_append,
    List.nil_append, List.append_nil]

/-- A payload is written as its tokens. -/
theorem InvalidationPayload.text_eq (payload : InvalidationPayload)
    : ' ' :: payload.text = spaced ' ' payload.tokens := by
  cases payload with
  | rectangle rect safe => exact rect.payload_eq
  | empty => rfl
  | emptyPart part =>
      have name : "EMPTY, ".toList = "EMPTY,".toList ++ [' '] := by decide
      unfold InvalidationPayload.text InvalidationPayload.tokens
      simp only [name, spaced_cons, spaced_nil, List.append_assoc, List.cons_append,
        List.nil_append, List.append_nil]

/-- A number and its comma are one word. -/
theorem showInt_comma_lineWord (value : Int) : LineWord ' ' (showInt value ++ [',']) := by
  have comma : LineWord ' ' [','] := by decide
  have number : LineWord ' ' (showInt value) :=
    ⟨not_mem_showInt value (by decide) (by decide), not_mem_showInt value (by decide) (by decide)⟩
  exact number.append comma

/-- The tokens of a rectangle are words. -/
theorem Invalidation.tokens_clean (rect : Invalidation)
    : ∀ token ∈ rect.tokens, token ≠ [] ∧ LineWord ' ' token := by
  have part : showInt rect.part.toInt ≠ [] ∧ LineWord ' ' (showInt rect.part.toInt) :=
    ⟨showInt_ne_nil _, not_mem_showInt _ (by decide) (by decide),
      not_mem_showInt _ (by decide) (by decide)⟩
  have number (value : Int) : showInt value ++ [','] ≠ []
      ∧ LineWord ' ' (showInt value ++ [',']) :=
    ⟨by simp, showInt_comma_lineWord value⟩
  simp only [Invalidation.tokens, List.forall_mem_cons]
  exact ⟨number _, number _, number _, number _, part, nofun⟩

/-- The tokens of a payload are words. -/
theorem InvalidationPayload.tokens_clean (payload : InvalidationPayload)
    : ∀ token ∈ payload.tokens, token ≠ [] ∧ LineWord ' ' token := by
  cases payload with
  | rectangle rect safe => exact rect.tokens_clean
  | empty =>
      simp only [InvalidationPayload.tokens, List.forall_mem_cons]
      exact ⟨by decide, nofun⟩
  | emptyPart value =>
      have part : showInt value.toInt ≠ [] ∧ LineWord ' ' (showInt value.toInt) :=
        ⟨showInt_ne_nil _, not_mem_showInt _ (by decide) (by decide),
          not_mem_showInt _ (by decide) (by decide)⟩
      simp only [InvalidationPayload.tokens, List.forall_mem_cons]
      exact ⟨by decide, part, nofun⟩

/-- The tokens of an invalidation, for a payload of clean tokens. -/
theorem tokenize_invalidation (view : View) {payload : Text} {tokens : List Text}
    (text : ' ' :: payload = spaced ' ' tokens)
    (clean : ∀ token ∈ tokens, token ≠ [] ∧ LineWord ' ' token)
    : tokenize ' ' (callbackMessage view.name "0".toList payload)
      = "callback".toList :: view.name :: "0".toList :: tokens := by
  have type : "0".toList ≠ [] ∧ LineWord ' ' "0".toList := by decide
  have clean : ∀ token ∈ view.name :: "0".toList :: tokens,
      token ≠ [] ∧ LineWord ' ' token := by
    simp only [List.forall_mem_cons]
    exact ⟨⟨view.nonempty, view.clean⟩, type, clean⟩
  have kept : ("callback".toList :: view.name :: "0".toList :: tokens).filter (· ≠ [])
      = "callback".toList :: view.name :: "0".toList :: tokens := by
    refine List.filter_eq_self.mpr (fun token member => ?_)
    rcases List.mem_cons.mp member with rfl | later
    · decide
    · simpa using (clean token later).1
  rw [callbackMessage_eq, text, List.append_assoc, ← spaced_append,
    tokenize_spaced (by decide) (by decide) (fun token member =>
      (clean token (by simpa using member)).2)]
  exact kept

/-- The tokens of an invalidation are read back. -/
theorem tokenize_invalidationMessage (view : View) (payload : InvalidationPayload)
    : tokenize ' ' (invalidationMessage view payload)
      = "callback".toList :: view.name :: "0".toList :: payload.tokens :=
  tokenize_invalidation view payload.text_eq payload.tokens_clean

/-- The tokens of a merged invalidation are read back. -/
theorem tokenize_rectangleMessage (view : View) (rect : Invalidation)
    : tokenize ' ' (rectangleMessage view rect)
      = "callback".toList :: view.name :: "0".toList :: rect.tokens :=
  tokenize_invalidation view rect.payload_eq rect.tokens_clean

/-- An invalidation is a callback. -/
theorem getFirstToken_invalidationMessage (view : View) (payload : InvalidationPayload)
    : getFirstToken ' ' (invalidationMessage view payload) = "callback".toList := by
  rw [invalidationMessage, callbackMessage_eq, payload.text_eq, List.append_assoc,
    ← spaced_append, getFirstToken_spaced (by decide)]

/-- The queue reads the rectangle back that a message was written from. -/
theorem Invalidation.extractRectangle_tokens (rect : Invalidation)
    (token0 token1 token2 : Text)
    : extractRectangle (token0 :: token1 :: token2 :: rect.tokens) = some rect := by
  have comma (value : Int32) : atoi (showInt value.toInt ++ [',']) = value :=
    atoi_showInt value (endsNumber_cons [] (by decide))
  have last (value : Int32) : atoi (showInt value.toInt) = value := by
    have read := atoi_showInt value endsNumber_nil
    rwa [List.append_nil] at read
  have number : showInt rect.x.toInt ++ [','] ≠ "EMPTY,".toList := by
    intro same
    have letter : 'E' ∈ showInt rect.x.toInt ++ [','] := by
      rw [same]
      decide
    rcases List.mem_append.mp letter with digit | comma
    · exact not_mem_showInt _ (by decide) (by decide) digit
    · exact absurd comma (by decide)
  simp only [Invalidation.tokens, extractRectangle, number, if_false, comma, last]

/-- The rectangle of a payload is read back from its tokens. -/
theorem InvalidationPayload.extractRectangle_tokens (payload : InvalidationPayload)
    (token0 token1 token2 : Text)
    : extractRectangle (token0 :: token1 :: token2 :: payload.tokens) = payload.invalidation? := by
  cases payload with
  | rectangle rect safe => exact rect.extractRectangle_tokens token0 token1 token2
  | empty => rfl
  | emptyPart part =>
      have read : atoi (showInt part.toInt) = part := by
        have ended := atoi_showInt part endsNumber_nil
        rwa [List.append_nil] at ended
      simp only [InvalidationPayload.tokens, extractRectangle, if_true, read]
      rfl

/-- The rectangle of a payload does not overflow. -/
theorem InvalidationPayload.invalidation_safe {payload : InvalidationPayload}
    {rect : Invalidation} (read : payload.invalidation? = some rect)
    : rect.Safe := by
  cases payload with
  | rectangle rect safe =>
      cases read
      exact safe
  | empty => cases read
  | emptyPart part =>
      cases read
      exact wholePart_safe part

-----------------------------------------------------------------------------------------
-- Putting an invalidation
-----------------------------------------------------------------------------------------

/-- A whole part covers everything and is never merged: with it, only near sides that are not
negative leave room for the extents, so that a join would always be too large.
-/
theorem mergeInvalidations_wholePart {token0 token1 token2 : Text} {part : Int32}
    {rects : Set Invalidation} (fits : MergesFit rects) (whole : wholePart part ∈ rects)
    {queue : List Payload}
    (queued
      : ∀ it ∈ queue, ∀ queued,
          queuedInvalidation token0 token1 token2 it = some queued
          → queued.part = part
          → queued ∈ rects)
    : (mergeInvalidations token0 token1 token2 (wholePart part) false queue).performedMerge
      = false := by
  induction queue with
  | nil => rfl
  | cons it rest ih =>
      have later := ih (fun other member => queued other (List.mem_cons_of_mem it member))
      have step :=
        mergeInvalidations_step token0 token1 token2 (wholePart part) false it rest
      generalize mergeInvalidations token0 token1 token2 (wholePart part) false (it :: rest)
        = merge at step ⊢
      cases step with
      | keep => exact later
      | covered queued _ _ _ => exact later
      | joined taken found samePart small =>
          have member := queued it (List.mem_cons_self ..) taken found samePart
          obtain ⟨x, -, right, -⟩ := Invalidation.join_corner fits (.of_mem whole) (.of_mem member)
          refine absurd (.inl ?_) small
          have left := fits.width _ whole _ member
          have limit : reasonableSizeX.toInt = 15360 := by decide
          simp only [wholePart, toInt_intMax, Int32.toInt_zero] at x right left
          rw [gt_iff_lt, Int32.lt_iff_toInt_lt]
          simp only [wholePart]
          omega

/-- The merged text is an invalidation of the same view again. -/
theorem mergeResult_message (view : View) (rect merged : Invalidation) (safe : rect.Safe)
    (samePart : merged.part = rect.part)
    : mergeResult (invalidationMessage view (.rectangle rect safe))
        ("callback".toList :: view.name :: "0".toList :: rect.tokens) merged
      = .ok (rectangleMessage view merged) := by
  have text : invalidationMessage view (.rectangle rect safe)
      = ("callback ".toList ++ view.name ++ ' ' :: "0".toList ++ [' '])
        ++ ((showInt rect.x.toInt ++ ", ".toList ++ showInt rect.y.toInt ++ ", ".toList
          ++ showInt rect.w.toInt ++ ", ".toList ++ showInt rect.h.toInt ++ ", ".toList)
          ++ showInt rect.part.toInt) := by
    unfold invalidationMessage callbackMessage InvalidationPayload.text Invalidation.payload
    generalize "callback ".toList = start, "0".toList = zero, ", ".toList = comma
    simp only [List.append_assoc, List.cons_append, List.nil_append]
  have name : "callback".toList.length = 8 := by decide
  have start : "callback ".toList.length = 9 := by decide
  have zero : "0".toList.length = 1 := by decide
  have comma : ", ".toList.length = 2 := by decide
  unfold Invalidation.tokens
  rw [text]
  refine (mergeResult_parts merged ?_ ?_).trans (congrArg Except.ok ?_)
  · simp only [List.length_append, List.length_cons, List.length_nil, name, start, zero]
    omega
  · simp only [List.length_append, List.length_cons, List.length_nil, comma]
    omega
  · unfold rectangleMessage callbackMessage Invalidation.payload
    rw [samePart]
    generalize "callback ".toList = start, "0".toList = zero, ", ".toList = comma
    simp only [List.append_assoc, List.cons_append, List.nil_append]

/-- The rectangle of a queued invalidation for a view. -/
def invalidationOf (view : Text) (it : Payload) : Option Invalidation :=
  queuedInvalidation "callback".toList view "0".toList it

/-- Every queued invalidation has a safe rectangle. -/
def SafeQueue (queue : List Payload) : Prop :=
  ∀ it ∈ queue, ∀ view rect, invalidationOf view it = some rect → rect.Safe

/-- The rectangles that meet in the merging loop: the message's, and the queued ones of its view
and part.
-/
def mergedRectangles (view : View) (msg : Invalidation) (queue : List Payload)
    : Set Invalidation :=
  { rect |
    rect = msg ∨ ∃ it ∈ queue, invalidationOf view.name it = some rect ∧ rect.part = msg.part }

/-- No sum of the loop can overflow when the invalidation is put. -/
def InvalidationFits (view : View) (payload : InvalidationPayload) (queue : List Payload) : Prop :=
  ∀ msg, payload.invalidation? = some msg → MergesFit (mergedRectangles view msg queue)

/-- The rectangles that are merged do not overflow. -/
theorem SafeQueue.mergedRectangles_subset {queue : List Payload} (safe : SafeQueue queue)
    (view : View) {msg : Invalidation} (msgSafe : msg.Safe)
    : mergedRectangles view msg queue ⊆ { rect | rect.Safe } := by
  rintro rect (rfl | ⟨it, member, found, -⟩)
  · exact msgSafe
  · exact safe it member view.name rect found

/-- Queued rectangles that are safe leave room for all sums. -/
theorem SafeQueue.fits {queue : List Payload} (safe : SafeQueue queue) (view : View)
    (payload : InvalidationPayload)
    : InvalidationFits view payload queue :=
  fun _ read =>
    mergesFit_safe.mono
      (safe.mergedRectangles_subset view (InvalidationPayload.invalidation_safe read))

/-- The text that is queued for a rectangle: the message, or the text of a merge. -/
inductive AddedText (view : View) (payload : InvalidationPayload) (rect : Invalidation)
    : Payload → Prop where
  | unmerged (read : payload.invalidation? = some rect)
    : AddedText view payload rect (invalidationMessage view payload)
  | merged : AddedText view payload rect (rectangleMessage view rect)

/-- How a put takes in an invalidation: `EMPTY` without a part goes to the end, everything
else goes through the merging loop, and the loop's rectangle is queued.
-/
inductive Absorbs (view : View) (queue : List Payload)
    : InvalidationPayload → List Payload → Payload → Prop
  | empty : Absorbs view queue .empty queue (invalidationMessage view .empty)
  | merged {payload : InvalidationPayload} {added : Payload} {msg : Invalidation} {merge : Merge}
    (read : payload.invalidation? = some msg) (written : AddedText view payload merge.msg added)
    (sublist : merge.queue.Sublist queue)
    (spec : MergeSpec "callback".toList view.name "0".toList msg queue merge)
    (spanned : merge.msg.SpannedBy (mergedRectangles view msg queue))
    : Absorbs view queue payload merge.queue added

/-- The queue loses messages only. -/
theorem Absorbs.sublist {view : View} {queue kept : List Payload}
    {payload : InvalidationPayload} {added : Payload}
    (absorbs : Absorbs view queue payload kept added)
    : kept.Sublist queue := by
  cases absorbs with
  | empty => exact .refl _
  | merged _ _ sublist _ _ => exact sublist

/-- What is queued where all rectangles are safe is an invalidation of a safe one. -/
theorem Absorbs.added_safe {view : View} {queue kept : List Payload}
    {payload : InvalidationPayload} {added : Payload}
    (absorbs : Absorbs view queue payload kept added) (safe : SafeQueue queue)
    : ∃ written, added = invalidationMessage view written := by
  cases absorbs with
  | empty => exact ⟨.empty, rfl⟩
  | merged read written _ _ spanned =>
      cases written with
      | unmerged => exact ⟨payload, rfl⟩
      | merged =>
          have inSafe := spanned.mono
            (safe.mergedRectangles_subset view (InvalidationPayload.invalidation_safe read))
          exact ⟨.rectangle _ inSafe.safe, rfl⟩

/-- An invalidation is compared with the other invalidations of its view. -/
theorem removeCallbackDuplicate_invalidation (viewIdOf : Text → Except Exception Text)
    (queue : List Payload) (view : View) (payload : InvalidationPayload)
    : removeCallbackDuplicate viewIdOf queue (invalidationMessage view payload)
      = removeInvalidations queue (invalidationMessage view payload) "callback".toList view.name
          "0".toList payload.tokens := by
  simp only [removeCallbackDuplicate, tokenize_invalidationMessage, if_true]

/-- Putting an invalidation where no sum of the loop overflows. -/
theorem putMessage_invalidation (viewIdOf : Text → Except Exception Text)
    {queue : List Payload} (view : View) (payload : InvalidationPayload)
    (fits : InvalidationFits view payload queue)
    : ∃ kept added,
        TileQueue.putMessage viewIdOf queue (invalidationMessage view payload)
          = .ok (kept ++ [added])
        ∧ Absorbs view queue payload kept added := by
  rw [putMessage_callback viewIdOf (getFirstToken_invalidationMessage view payload),
    removeCallbackDuplicate_invalidation, removeInvalidations,
    payload.extractRectangle_tokens]
  have sublist (msg : Invalidation) :=
    mergeInvalidations_sublist "callback".toList view.name "0".toList msg false queue
  have own (msg : Invalidation) : msg ∈ mergedRectangles view msg queue := .inl rfl
  have queued (msg : Invalidation) : ∀ it ∈ queue, ∀ queued,
      queuedInvalidation "callback".toList view.name "0".toList it = some queued
      → queued.part = msg.part
      → queued ∈ mergedRectangles view msg queue :=
    fun it member queued found samePart => .inr ⟨it, member, found, samePart⟩
  cases payload with
  | empty => exact ⟨queue, _, rfl, .empty⟩
  | emptyPart part =>
      have room := fits _ rfl
      obtain ⟨spec, spanned⟩ :=
        mergeInvalidations_spec room (.of_mem (own (wholePart part))) (queued _) false
      have unmerged := mergeInvalidations_wholePart room (own (wholePart part)) (queued (wholePart part))
      have same := (mergeInvalidations_unmerged unmerged).1
      refine ⟨_, _, ?_, .merged rfl (.unmerged (congrArg some same.symm)) (sublist _) spec spanned⟩
      simp only [InvalidationPayload.invalidation?, unmerged, Bool.false_eq_true, if_false]
      rfl
  | rectangle rect safe =>
      obtain ⟨spec, spanned⟩ :=
        mergeInvalidations_spec (fits rect rfl) (.of_mem (own rect)) (queued rect) false
      cases merged : (mergeInvalidations "callback".toList view.name "0".toList rect false
          queue).performedMerge with
      | true =>
          refine ⟨_, _, ?_, .merged rfl .merged (sublist _) spec spanned⟩
          have text := mergeResult_message view rect _ safe spec.part
          simp only [InvalidationPayload.invalidation?, merged, if_true,
            InvalidationPayload.tokens, text, bind, Except.bind, pure, Except.pure,
            Except.map]
          rw [if_neg (show rectangleMessage view _ ≠ [] from callbackMessage_ne_nil _ _ _)]
      | false =>
          have same := (mergeInvalidations_unmerged merged).1
          refine ⟨_, _, ?_,
            .merged rfl (.unmerged (congrArg some same.symm)) (sublist _) spec spanned⟩
          simp only [InvalidationPayload.invalidation?, merged, Bool.false_eq_true, if_false,
            Except.map, if_true]

-----------------------------------------------------------------------------------------
-- Coverage
-----------------------------------------------------------------------------------------

/-- The points of a part that a queued message invalidates for a view; `EMPTY` alone stands
for all parts.
-/
def invalidatedArea (view : Text) (part : Int32) (it : Payload) : Set (Int × Int) :=
  { point |
    (tokenize ' ' it = ["callback".toList, view, "0".toList, "EMPTY".toList]
      ∧ point ∈ (wholePart part).area)
    ∨ ∃ rect, invalidationOf view it = some rect ∧ rect.part = part ∧ point ∈ rect.area }

/-- The points of a part that the queue invalidates for a view. -/
def coverage (view : Text) (part : Int32) (queue : List Payload) : Set (Int × Int) :=
  { point | ∃ it ∈ queue, point ∈ invalidatedArea view part it }

/-- Whether a queued message invalidates the part for the view. -/
def invalidates (view : View) (part : Int32) (it : Payload) : Bool :=
  invalidatesPart "callback".toList view.name "0".toList part it

/-- The tokens of a queued invalidation. -/
theorem tokens_of_invalidationOf {view : Text} {it : Payload} {rect : Invalidation}
    (found : invalidationOf view it = some rect)
    : ∃ rest, tokenize ' ' it = "callback".toList :: view :: "0".toList :: rest
        ∧ extractRectangle ("callback".toList :: view :: "0".toList :: rest) = some rect := by
  unfold invalidationOf queuedInvalidation at found
  split at found
  · next queued0 queued1 queued2 rest tokens =>
      split at found
      · cases found
      · next same =>
          simp only [ne_eq, not_or, not_not] at same
          obtain ⟨rfl, rfl, rfl⟩ := same
          exact ⟨rest, tokens, found⟩
  · cases found

/-- A message with a rectangle invalidates nothing else. -/
theorem invalidatedArea_of_found {view other : Text} {part : Int32} {it : Payload}
    {rect : Invalidation} (found : invalidationOf view it = some rect) {point : Int × Int}
    (covered : point ∈ invalidatedArea other part it)
    : other = view ∧ rect.part = part ∧ point ∈ rect.area := by
  obtain ⟨rest, tokens, read⟩ := tokens_of_invalidationOf found
  rcases covered with ⟨empty, -⟩ | ⟨otherRect, otherFound, samePart, inside⟩
  · rw [tokens] at empty
    cases empty
    cases read
  · obtain ⟨otherRest, otherTokens, -⟩ := tokens_of_invalidationOf otherFound
    have same := tokens.symm.trans otherTokens
    simp only [List.cons.injEq, true_and] at same
    obtain ⟨rfl, -⟩ := same
    cases found.symm.trans otherFound
    exact ⟨rfl, samePart, inside⟩

/-- The rectangle of an invalidation, for its own view. -/
theorem invalidationOf_message (view : View) (payload : InvalidationPayload) (other : Text)
    : invalidationOf other (invalidationMessage view payload)
      = if view.name = other then payload.invalidation? else none := by
  simp only [invalidationOf, queuedInvalidation, tokenize_invalidationMessage, ne_eq,
    not_true_eq_false, false_or, or_false]
  by_cases same : view.name = other
  · simp only [same, not_true_eq_false, if_false, if_true, payload.extractRectangle_tokens]
  · simp only [same, not_false_eq_true, if_true, if_false]

/-- The rectangle of a merged invalidation, for its own view. -/
theorem invalidationOf_rectangle (view : View) (rect : Invalidation) (other : Text)
    : invalidationOf other (rectangleMessage view rect)
      = if view.name = other then some rect else none := by
  simp only [invalidationOf, queuedInvalidation, tokenize_rectangleMessage, ne_eq,
    not_true_eq_false, false_or, or_false]
  by_cases same : view.name = other
  · simp only [same, not_true_eq_false, if_false, if_true, rect.extractRectangle_tokens]
  · simp only [same, not_false_eq_true, if_true, if_false]

/-- The queue reads the rectangle of the loop back from the text that is queued. -/
theorem AddedText.invalidationOf {view : View} {payload : InvalidationPayload}
    {rect : Invalidation} {added : Payload} (written : AddedText view payload rect added)
    : Queue.invalidationOf view.name added = some rect := by
  cases written with
  | unmerged read => rw [invalidationOf_message, if_pos rfl, read]
  | merged => rw [invalidationOf_rectangle, if_pos rfl]

/-- Taking in an invalidation loses no point of any view and part. -/
theorem Absorbs.coverage_subset {view : View} {queue kept : List Payload}
    {payload : InvalidationPayload} {added : Payload}
    (absorbs : Absorbs view queue payload kept added) (other : Text) (part : Int32)
    : coverage other part (queue ++ [invalidationMessage view payload])
      ⊆ coverage other part (kept ++ [added]) := by
  cases absorbs with
  | empty => exact subset_rfl
  | @merged _ _ msg merge read written _ spec _ =>
      have addedFound := written.invalidationOf
      -- the rectangle that is queued covers what is taken out of the queue
      have byAdded (point : Int × Int) (inside : point ∈ merge.msg.area)
          (samePart : msg.part = part) (sameView : other = view.name)
          : point ∈ coverage other part (merge.queue ++ [added]) := by
        refine ⟨_, List.mem_append_right _ (List.mem_singleton.mpr rfl), .inr ?_⟩
        exact ⟨merge.msg, sameView ▸ addedFound, spec.part.trans samePart, inside⟩
      rintro point ⟨it, member, covered⟩
      rcases List.mem_append.mp member with queued | new
      · by_cases ours : invalidates view msg.part it = true
        · unfold invalidates invalidatesPart at ours
          split at ours
          · next rect found =>
              have rectPart : rect.part = msg.part := by simpa using ours
              rcases spec.covers it queued rect found rectPart with stays | swallowed
              · exact ⟨it, List.mem_append_left _ stays, covered⟩
              · obtain ⟨sameView, samePart, inside⟩ := invalidatedArea_of_found found covered
                exact byAdded point (swallowed inside) (rectPart.symm.trans samePart) sameView
          · cases ours
        · have stays : it ∈ merge.queue := by
            have kept : it ∈ queue.filter (fun it => !invalidates view msg.part it) :=
              List.mem_filter.mpr ⟨queued, by simpa using ours⟩
            exact (List.mem_filter.mp (spec.others ▸ kept)).1
          exact ⟨it, List.mem_append_left _ stays, covered⟩
      · cases List.mem_singleton.mp new
        have found : Queue.invalidationOf view.name (invalidationMessage view payload)
            = some msg := by
          rw [invalidationOf_message, if_pos rfl, read]
        obtain ⟨sameView, samePart, inside⟩ := invalidatedArea_of_found found covered
        exact byAdded point (spec.grows inside) samePart sameView

/-- What putting an invalidation does to the queue: it loses no point of any view and part,
and takes out invalidations of the message's view and part only.
-/
structure CoverageKept (queue : List Payload) (view : View) (payload : InvalidationPayload)
    (kept : List Payload) (added : Payload)
    : Prop where
  sublist : kept.Sublist queue
  covered
    : ∀ other part,
        coverage other part (queue ++ [invalidationMessage view payload])
          ⊆ coverage other part (kept ++ [added])
  unread
    : payload.invalidation? = none → kept = queue ∧ added = invalidationMessage view payload
  others
    : ∀ msg, payload.invalidation? = some msg →
        (invalidationOf view.name added).map Invalidation.part = some msg.part
        ∧ kept.filter (fun it => !invalidates view msg.part it)
          = queue.filter (fun it => !invalidates view msg.part it)

/-- What is absorbed stays covered. -/
theorem Absorbs.coverageKept {view : View} {queue kept : List Payload}
    {payload : InvalidationPayload} {added : Payload}
    (absorbs : Absorbs view queue payload kept added)
    : CoverageKept queue view payload kept added where
  sublist := absorbs.sublist
  covered := absorbs.coverage_subset
  unread unread := by
    cases absorbs with
    | empty => exact ⟨rfl, rfl⟩
    | merged read _ _ _ _ => cases unread.symm.trans read
  others msg read := by
    cases absorbs with
    | empty => cases read
    | merged found written _ spec _ =>
        cases found.symm.trans read
        exact ⟨by rw [written.invalidationOf, Option.map_some, spec.part], spec.others⟩

-----------------------------------------------------------------------------------------
-- Runs
-----------------------------------------------------------------------------------------

/-- A part of a safe queue is safe. -/
theorem SafeQueue.subset {queue left : List Payload} (safe : SafeQueue queue)
    (subset : left ⊆ queue)
    : SafeQueue left :=
  fun it member => safe it (subset member)

/-- A safe queue with a safe message is safe. -/
theorem SafeQueue.append {queue : List Payload} (safe : SafeQueue queue) {message : Payload}
    (new : ∀ view rect, invalidationOf view message = some rect → rect.Safe)
    : SafeQueue (queue ++ [message]) := by
  intro it member
  rcases List.mem_append.mp member with old | last
  · exact safe it old
  · rw [List.mem_singleton.mp last]
    exact new

/-- A tile request is no invalidation. -/
theorem invalidationOf_tile (tile : TileDesc) (view : Text)
    : invalidationOf view (tile.serialize "tile".toList) = none := by
  cases found : invalidationOf view (tile.serialize "tile".toList) with
  | none => rfl
  | some rect =>
      obtain ⟨rest, tokens, -⟩ := tokens_of_invalidationOf found
      rw [← Request.split_text, Request.tokenize_text] at tokens
      exact absurd (List.cons.inj tokens).1 (by decide)

/-- Another message leaves the queue safe, by the ways in which messages get into it. -/
theorem SafeQueue.putMessage_other {viewIdOf : Text → Except Exception Text}
    {queue next : List Payload} (safe : SafeQueue queue) {message : Payload}
    (harmless : ∀ view, invalidationOf view message = none)
    (done : TileQueue.putMessage viewIdOf queue message = .ok next)
    : SafeQueue next := by
  intro it member view rect found
  rcases putMessage_mem done member with old | rfl | ⟨tile, rfl⟩ | ⟨first, isNew, left, removed⟩
  · exact safe it old view rect found
  · cases (harmless view).symm.trans found
  · cases (invalidationOf_tile tile view).symm.trans found
  · -- a callback in which the queue finds no invalidation is not merged
    obtain ⟨words, head⟩ := tokenize_of_getFirstToken (by decide) (by decide) (by decide) first
    obtain ⟨token0, token1, rest, msg, merged, tokens, read, -⟩ :=
      removeCallbackDuplicate_merged isNew removed
    have same := (List.cons.inj (head.symm.trans tokens)).1
    have unread := harmless token1
    simp only [invalidationOf, queuedInvalidation, tokens, same, ne_eq, not_true_eq_false,
      or_self, if_false] at unread
    cases unread.symm.trans read

/-- The messages of a client: invalidations, and any others. -/
inductive QueueMessage where
  | invalidation (view : View) (payload : InvalidationPayload)
  | other (message : Payload)

def QueueMessage.text : QueueMessage → Payload
  | invalidation view payload => invalidationMessage view payload
  | other message => message

/-- An invalidation finds rectangles in the queue with which no sum of the loop overflows. -/
def InvalidationsFit (queue : List Payload) : QueueMessage → Prop
  | .invalidation view payload => InvalidationFits view payload queue
  | .other _ => True

/-- An invalidation is taken in, and the coverage is kept. -/
def KeepsCoverage (viewIdOf : Text → Except Exception Text) (queue : List Payload)
    : QueueMessage → Prop
  | .invalidation view payload =>
      ∃ kept added,
        TileQueue.putMessage viewIdOf queue (invalidationMessage view payload)
          = .ok (kept ++ [added])
        ∧ CoverageKept queue view payload kept added
  | .other _ => True

/-- One put keeps the coverage if its rectangles fit, by cases on the messages. -/
theorem keepsCoverage_of_fits (viewIdOf : Text → Except Exception Text) {queue : List Payload}
    {message : QueueMessage} (fits : InvalidationsFit queue message)
    : KeepsCoverage viewIdOf queue message := by
  cases message with
  | other message => trivial
  | invalidation view payload =>
      obtain ⟨kept, added, result, absorbs⟩ :=
        putMessage_invalidation viewIdOf view payload fits
      exact ⟨kept, added, result, absorbs.coverageKept⟩

/-- The messages of a client that puts invalidations of safe rectangles only. -/
def SafeMessages (_queue : List Payload) : QueueMessage → Prop
  | .invalidation _ _ => True
  | .other message => ∀ view, invalidationOf view message = none

/-- With such a client no sum of the loop can overflow, in any state: all queued rectangles are
safe. By induction on the run.
-/
theorem run_fits {viewIdOf : Text → Except Exception Text} {events : List (Event QueueMessage)}
    {queue : TileQueue}
    (run : GuardedRun viewIdOf QueueMessage.text SafeMessages events queue) (view : View)
    (payload : InvalidationPayload)
    : InvalidationFits view payload queue.queue := by
  refine SafeQueue.fits ?_ view payload
  refine run.queue_induction (fun _ member => nomatch member) ?_ ?_ ?_
  · intro queue message next safe harmless done
    cases message with
    | other message => exact safe.putMessage_other harmless done
    | invalidation view payload =>
        obtain ⟨kept, added, result, absorbs⟩ :=
          putMessage_invalidation viewIdOf view payload (safe.fits view payload)
        cases result.symm.trans done
        obtain ⟨written, rfl⟩ := absorbs.added_safe safe
        refine (safe.subset absorbs.sublist.subset).append (fun other rect found => ?_)
        rw [invalidationOf_message] at found
        split at found
        · exact InvalidationPayload.invalidation_safe found
        · cases found
  · intro queue message safe
    exact safe.subset (leftMessages_sublist queue message.text).subset
  · intro queue front rest safe shape
    have smaller := TileQueue.getMessage_subperm shape
    rw [← shape] at smaller
    exact safe.subset smaller.subset

/-- In every run whose invalidations meet rectangles with which no sum of the loop overflows,
each of them is taken in and keeps the coverage, and so does the next one.
-/
theorem run_coverage {viewIdOf : Text → Except Exception Text}
    {events : List (Event QueueMessage)} {queue : TileQueue}
    (run : GuardedRun viewIdOf QueueMessage.text InvalidationsFit events queue)
    : GuardedRun viewIdOf QueueMessage.text (KeepsCoverage viewIdOf) events queue
      ∧ ∀ message, InvalidationsFit queue.queue message
          → KeepsCoverage viewIdOf queue.queue message :=
  ⟨run.mono (fun _ _ fits => keepsCoverage_of_fits viewIdOf fits),
    fun _ fits => keepsCoverage_of_fits viewIdOf fits⟩

/-- The first invalidation is queued as it is. -/
theorem put_invalidation_empty (viewIdOf : Text → Except Exception Text) (view : View)
    (payload : InvalidationPayload)
    : TileQueue.empty.put viewIdOf (invalidationMessage view payload)
      = .ok { TileQueue.empty with queue := [invalidationMessage view payload] } := by
  have nonempty : invalidationMessage view payload ≠ [] := callbackMessage_ne_nil _ _ _
  rw [TileQueue.put, if_neg nonempty,
    putMessage_callback viewIdOf (getFirstToken_invalidationMessage view payload),
    removeCallbackDuplicate_invalidation, removeInvalidations, payload.extractRectangle_tokens]
  cases payload <;> rfl

/-- A square of a hundred twips near the origin of the first part. -/
def cornerSquare : Invalidation where
  x := 10
  y := 10
  w := 100
  h := 100
  part := 0

/-- The square does not overflow. -/
theorem cornerSquare_safe : cornerSquare.Safe where
  x := by decide
  y := by decide
  right := by decide
  bottom := by decide

/-- The whole first part is put behind the square. -/
theorem run_coverage_cornerSquare
    : KeepsCoverage (fun _ => .error .json)
        [invalidationMessage allViews (.rectangle cornerSquare cornerSquare_safe)]
        (.invalidation allViews (.emptyPart 0)) := by
  have safeQueue : SafeQueue
      [invalidationMessage allViews (.rectangle cornerSquare cornerSquare_safe)] := by
    intro it member view rect found
    rw [List.mem_singleton.mp member, invalidationOf_message] at found
    split at found
    · exact InvalidationPayload.invalidation_safe found
    · cases found
  have noQueue : SafeQueue TileQueue.empty.queue := fun _ member => nomatch member
  have run : GuardedRun (fun _ => .error .json) QueueMessage.text InvalidationsFit
      [.put (.invalidation allViews (.rectangle cornerSquare cornerSquare_safe))] _ :=
    GuardedRun.initial.put (noQueue.fits allViews _) (put_invalidation_empty _ _ _)
  exact (run_coverage run).2 (.invalidation allViews (.emptyPart 0)) (safeQueue.fits allViews _)

/-- A square that reaches over the upper left corner of the document. -/
def outerSquare : Invalidation where
  x := -1
  y := -1
  w := 10
  h := 10
  part := 0

/-- A strip along the top of the document, as wide as an `int` can tell. -/
def topStrip : Invalidation where
  x := 0
  y := 0
  w := intMax
  h := 10
  part := 0

/-- The strip does not overflow. -/
theorem topStrip_safe : topStrip.Safe where
  x := by decide
  y := by decide
  right := by decide
  bottom := by decide

/-- What is left when the strip is merged with the square: the width of both does not fit. -/
def overflownStrip : Invalidation where
  x := -1
  y := -1
  w := -2147483648
  h := 11
  part := 0

/-- The sum of the widths has overflown, and the strip covers nothing. -/
theorem overflownStrip_area : overflownStrip.area = ∅ := by
  have x : overflownStrip.x.toInt = -1 := by decide
  have w : overflownStrip.w.toInt = -2147483648 := by decide
  refine Set.eq_empty_of_forall_notMem (fun point inside => ?_)
  obtain ⟨⟨left, right⟩, -⟩ := inside
  rw [x] at left right
  rw [w] at right
  omega

/-- The points that a message for a rectangle invalidates are those of the rectangle. -/
theorem invalidatedArea_rectangle (view : View) (rect : Invalidation) (part : Int32)
    (point : Int × Int)
    : point ∈ invalidatedArea view.name part (rectangleMessage view rect)
      ↔ rect.part = part ∧ point ∈ rect.area := by
  have words := tokenize_rectangleMessage view rect
  have read := (invalidationOf_rectangle view rect view.name).trans (if_pos rfl)
  simp only [invalidatedArea, read, words, Set.mem_ofPred_eq, List.cons.injEq,
    Invalidation.tokens, reduceCtorEq, and_false, false_and, false_or, Option.some.injEq,
    exists_eq_left']

/-- The first rectangle is queued as it is. -/
theorem put_rectangle_empty (viewIdOf : Text → Except Exception Text) (view : View)
    (rect : Invalidation)
    : TileQueue.empty.put viewIdOf (rectangleMessage view rect)
      = .ok { TileQueue.empty with queue := [rectangleMessage view rect] } := by
  have nonempty : rectangleMessage view rect ≠ [] := callbackMessage_ne_nil _ _ _
  have first : getFirstToken ' ' (rectangleMessage view rect) = "callback".toList := by
    rw [rectangleMessage, callbackMessage_eq, rect.payload_eq, List.append_assoc,
      ← spaced_append, getFirstToken_spaced (by decide)]
  rw [TileQueue.put, if_neg nonempty, putMessage_callback viewIdOf first]
  simp only [removeCallbackDuplicate, tokenize_rectangleMessage, if_true, removeInvalidations,
    rect.extractRectangle_tokens]
  rfl

/-- The loop joins the strip with the queued square: it takes it for a rectangle of a negative
width, which is not too large.
-/
theorem mergeInvalidations_topStrip
    : mergeInvalidations "callback".toList allViews.name "0".toList topStrip false
        [rectangleMessage allViews outerSquare]
      = { msg := overflownStrip, performedMerge := true, queue := [] } := by
  have found : queuedInvalidation "callback".toList allViews.name "0".toList
      (rectangleMessage allViews outerSquare) = some outerSquare :=
    (invalidationOf_rectangle allViews outerSquare allViews.name).trans (if_pos rfl)
  have joined : topStrip.join outerSquare = overflownStrip := by decide
  have apart : topStrip.covers outerSquare = false := by decide
  have meets : rectanglesIntersect topStrip.x topStrip.y topStrip.w topStrip.h outerSquare.x
      outerSquare.y outerSquare.w outerSquare.h = true := by decide
  have small : ¬ (overflownStrip.w > reasonableSizeX ∨ overflownStrip.h > reasonableSizeY) := by
    decide
  simp only [mergeInvalidations, found, joined, apart, meets, small, if_true, if_false,
    Bool.false_eq_true]
  rfl

/-- The strip is merged with the square outside, and the width overflows. -/
theorem put_topStrip
    : TileQueue.putMessage (fun _ => .error .json) [rectangleMessage allViews outerSquare]
        (invalidationMessage allViews (.rectangle topStrip topStrip_safe))
      = .ok [rectangleMessage allViews overflownStrip] := by
  rw [putMessage_callback _ (getFirstToken_invalidationMessage allViews _),
    removeCallbackDuplicate_invalidation, removeInvalidations,
    InvalidationPayload.extractRectangle_tokens]
  have text := mergeResult_message allViews topStrip overflownStrip topStrip_safe rfl
  simp only [InvalidationPayload.invalidation?, mergeInvalidations_topStrip, if_true,
    InvalidationPayload.tokens, text, bind, Except.bind, pure, Except.pure, Except.map]
  rw [if_neg (show rectangleMessage allViews overflownStrip ≠ [] from
    callbackMessage_ne_nil _ _ _)]
  rfl

/-- The strip behind the square: the queued square is merged into nothing, and with it the
origin, which both cover, is lost.
-/
theorem put_loses_origin
    : ∃ (queue next : TileQueue) (events : List (Event QueueMessage)),
        Run (fun _ => .error .json) QueueMessage.text events queue
        ∧ queue.put (fun _ => .error .json)
            (invalidationMessage allViews (.rectangle topStrip topStrip_safe)) = .ok next
        ∧ (0, 0) ∈ coverage allViews.name 0 queue.queue
        ∧ (0, 0) ∉ coverage allViews.name 0 next.queue := by
  refine ⟨{ TileQueue.empty with queue := [rectangleMessage allViews outerSquare] },
    { TileQueue.empty with queue := [rectangleMessage allViews overflownStrip] },
    [.put (.other (rectangleMessage allViews outerSquare))], ?_, ?_, ?_, ?_⟩
  · exact GuardedRun.initial.put trivial (put_rectangle_empty _ allViews outerSquare)
  · rw [TileQueue.put, if_neg (show invalidationMessage allViews _ ≠ [] from
      callbackMessage_ne_nil _ _ _), put_topStrip]
    rfl
  · refine ⟨_, List.mem_singleton.mpr rfl,
      (invalidatedArea_rectangle allViews outerSquare 0 (0, 0)).mpr ⟨rfl, ?_⟩⟩
    exact ⟨⟨by decide, by decide⟩, by decide, by decide⟩
  · rintro ⟨it, member, inside⟩
    rw [List.mem_singleton.mp member, invalidatedArea_rectangle, overflownStrip_area] at inside
    exact inside.2

end NdcOdfWeb.Queue
