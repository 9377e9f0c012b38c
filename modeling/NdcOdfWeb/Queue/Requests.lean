import NdcOdfWeb.Queue.TileQueue
import NdcOdfWeb.Tiles.TileCombinedCodec

/-! The texts of queued tile requests, and what the queue's text tests say about them. -/

namespace NdcOdfWeb.Queue

open NdcOdfWeb.Foundation
open NdcOdfWeb.Protocol
open NdcOdfWeb.Tiles

/-- How a request is written: by the broker, as a serialised tile behind `tile` and a blank,
or by the queue itself, as a component of a combined request.
-/
inductive Form where
  | direct
  | split
deriving DecidableEq

def Form.initial : Form → Text
  | direct => "tile ".toList
  | split => "tile".toList

/-- The empty word between the two blanks of the broker's form. -/
def Form.gap : Form → List Text
  | direct => [[]]
  | split => []

/-- A request for one tile. -/
structure Request where
  form : Form
  tile : TileDesc

def Request.text (request : Request) : Payload :=
  request.tile.serialize request.form.initial

/-- The tile of a combined request is queued as it is written. -/
theorem Request.split_text (tile : TileDesc)
    : (⟨.split, tile⟩ : Request).text = tile.serialize "tile".toList :=
  rfl

/-- The words of a request behind `tile`. -/
def Request.words (request : Request) : List Text :=
  request.form.gap ++ request.tile.words

/-- A request is written as its words. -/
theorem Request.text_eq (request : Request)
    : request.text = "tile".toList ++ spaced ' ' request.words := by
  rw [Request.text, TileDesc.serialize_eq, Request.words, spaced_append]
  cases request.form with
  | direct =>
      rw [show Form.direct.initial = "tile".toList ++ [' '] by decide]
      simp only [Form.gap, spaced_cons, spaced_nil, List.append_assoc, List.nil_append]
  | split => rfl

/-- A character that no name, number or flag holds is in none of the words. -/
theorem Request.words_not_mem (request : Request) {c : Char} (minus : c ≠ '-')
    (digit : c.isDigit = false) (equals : c ≠ '=')
    (names : ∀ name ∈ fieldNames, c ∉ name.toList) (flag : c ∉ "yes".toList)
    : ∀ text ∈ request.words, c ∉ text := by
  intro text member
  rcases List.mem_append.mp member with gap | inTile
  · cases same : request.form with
    | direct =>
        rw [same, Form.gap, List.mem_singleton] at gap
        simp [gap]
    | split => simp [same, Form.gap] at gap
  · exact request.tile.words_not_mem minus digit equals names flag text inTile

/-- The words hold no blank. -/
theorem Request.words_blank (request : Request) : ∀ text ∈ request.words, ' ' ∉ text :=
  request.words_not_mem (by decide) (by decide) (by decide) (by decide) (by decide)

/-- The words hold no blank and no line end. -/
theorem Request.words_line (request : Request) : ∀ text ∈ request.words, LineWord ' ' text :=
  fun text member => ⟨request.words_blank text member,
    request.words_not_mem (by decide) (by decide) (by decide) (by decide) (by decide) text
      member⟩

/-- The empty word is dropped: both forms have the same tokens. -/
theorem Request.tokenize_text (request : Request)
    : tokenize ' ' request.text = "tile".toList :: request.tile.words := by
  have words : request.tile.words.filter (· ≠ []) = request.tile.words :=
    List.filter_eq_self.mpr
      (fun text member => by simpa using request.tile.words_ne_nil text member)
  have gap : request.form.gap.filter (· ≠ []) = [] := by
    cases request.form <;> simp [Form.gap]
  have head : ["tile".toList].filter (· ≠ []) = ["tile".toList] := by decide
  rw [request.text_eq, tokenize_spaced (by decide) (by decide) request.words_line,
    ← List.singleton_append, List.filter_append, head, Request.words, List.filter_append, gap,
    words, List.nil_append, List.singleton_append]

/-- A request is parsed as its tile. -/
theorem Request.parse_text (request : Request)
    : TileDesc.parse request.text = .ok request.tile.withReadId := by
  have plain : LineWord ' ' "tile".toList := by decide
  have equals : '=' ∉ "tile".toList := by decide
  have split := (⟨.split, request.tile⟩ : Request).tokenize_text
  rw [← request.tile.parse_serialize plain equals, TileDesc.parse, TileDesc.parse,
    request.tokenize_text]
  exact congrArg TileDesc.parseTokens split.symm

/-- A request starts with its command. -/
theorem Request.getFirstToken_text (request : Request)
    : getFirstToken ' ' request.text = "tile".toList := by
  rw [request.text_eq, getFirstToken_spaced (by decide)]

/-- A request is a tile request. -/
theorem Request.isTile_text (request : Request) : TileQueue.isTile request.text = true := by
  rw [TileQueue.isTile, matchPrefix, List.isPrefixOf_iff_prefix, request.text_eq]
  exact List.prefix_append _ _

/-- A request is not empty. -/
theorem Request.text_ne_nil (request : Request) : request.text ≠ [] := by
  rw [request.text_eq]
  have long : "tile".toList ≠ [] := by decide
  simp only [ne_eq, List.append_eq_nil_iff, not_and]
  exact fun empty => absurd empty long

-----------------------------------------------------------------------------------------
-- Comparing requests
-----------------------------------------------------------------------------------------

/-- The words in front of the version. -/
def Request.comparedWords (request : Request) : List Text :=
  request.form.gap ++ request.tile.headWords

/-- The text in front of the version. -/
def Request.comparedText (request : Request) : Text :=
  "tile".toList ++ spaced ' ' request.comparedWords

/-- The words up to the version, and those from there on. -/
theorem Request.words_eq (request : Request)
    : request.words = request.comparedWords ++ request.tile.tailWords := by
  simp [Request.words, Request.comparedWords, TileDesc.words]

/-- What is compared stands in front of the request. -/
theorem Request.comparedText_prefix (request : Request)
    : request.comparedText <+: request.text := by
  rw [request.text_eq, request.words_eq, spaced_append, ← List.append_assoc]
  exact List.prefix_append _ _

/-- The comparison ends in front of the blank before `ver`. -/
theorem Request.comparedLength_text (request : Request)
    : TileQueue.comparedLength request.text = request.comparedText.length := by
  have gap : ∀ text ∈ request.form.gap, ¬ "ver".toList <+: text := by
    cases request.form <;> simp [Form.gap]
  have other : ∀ text ∈ request.comparedWords, ¬ "ver".toList <+: text := by
    intro text member
    rcases List.mem_append.mp member with inGap | inHead
    · exact gap text inGap
    · exact request.tile.headWords_other text inHead
  have blank : ∀ text ∈ request.comparedWords, ' ' ∉ text := by
    intro text member
    refine request.words_blank text ?_
    rw [request.words_eq]
    exact List.mem_append_left _ member
  obtain ⟨version, after, shape, starts⟩ : ∃ version after,
      request.tile.tailWords = version :: after ∧ "ver".toList <+: version := by
    refine ⟨word "ver" (showInt request.tile.ver.toInt), _, rfl, ?_⟩
    exact List.prefix_append _ _
  have pattern : " ver".toList = ' ' :: "ver".toList := by decide
  rw [TileQueue.comparedLength, pattern, request.text_eq, request.words_eq, shape,
    find_spaced (by decide) (by decide) blank other starts]
  rfl

/-- A request holds no zero byte. -/
theorem Request.text_nul (request : Request) : '\x00' ∉ request.text := by
  have blank : '\x00' ≠ ' ' := by decide
  have words := not_mem_spaced blank
    (request.words_not_mem (by decide) (by decide) (by decide) (by decide) (by decide))
  rw [request.text_eq, List.mem_append]
  rintro (head | rest)
  · revert head
    decide
  · exact words rest

/-- A text without a zero byte is its own C string. -/
theorem cString_eq {text : Text} (clean : '\x00' ∉ text) : TileQueue.cString text = text := by
  refine List.takeWhile_eq_self_iff.mpr (fun c member => ?_)
  rw [bne_iff_ne]
  rintro rfl
  exact clean member

/-- A queued message is removed as a duplicate when it starts with the request's text up to
the version and goes on behind it.
-/
theorem Request.sameUpTo_iff (request : Request) (it : Payload)
    : TileQueue.sameUpTo (TileQueue.comparedLength request.text) request.text it = true
      ↔ request.comparedText.length < it.length ∧ request.comparedText <+: it := by
  have front : request.text.take request.comparedText.length = request.comparedText :=
    (List.prefix_iff_eq_take.mp request.comparedText_prefix).symm
  have clean : '\x00' ∉ request.comparedText :=
    fun member => request.text_nul (request.comparedText_prefix.subset member)
  simp only [TileQueue.sameUpTo, request.comparedLength_text, front, cString_eq clean,
    Bool.and_eq_true, decide_eq_true_eq, beq_iff_eq, gt_iff_lt]
  refine and_congr_right (fun longer => ?_)
  have size : (it.take request.comparedText.length).length = request.comparedText.length := by
    rw [List.length_take]
    omega
  constructor
  · intro same
    have inside : TileQueue.cString (it.take request.comparedText.length)
        <+: it.take request.comparedText.length := List.takeWhile_prefix _
    rw [← same] at inside
    exact inside.trans (List.take_prefix _ _)
  · intro starts
    rw [← List.prefix_iff_eq_take.mp starts, cString_eq clean]

/-- Equal nviewid, part, pixel size, tile position and tile size. -/
def SamePlace (left right : TileDesc) : Prop :=
  left.normalizedViewId = right.normalizedViewId
  ∧ left.part = right.part
  ∧ left.width = right.width
  ∧ left.height = right.height
  ∧ left.tilePosX = right.tilePosX
  ∧ left.tilePosY = right.tilePosY
  ∧ left.tileWidth = right.tileWidth
  ∧ left.tileHeight = right.tileHeight

instance (left right : TileDesc) : Decidable (SamePlace left right) :=
  inferInstanceAs (Decidable (_ ∧ _))

/-- Tiles are at one place if and only if their fields up to the version agree. -/
theorem headFields_eq_iff {left right : TileDesc}
    : left.headFields = right.headFields ↔ SamePlace left right := by
  simp [TileDesc.headFields, SamePlace]

/-- A tile is at its own place. -/
theorem SamePlace.refl (tile : TileDesc) : SamePlace tile tile :=
  headFields_eq_iff.mp rfl

/-- By the fields of both tiles. -/
theorem SamePlace.symm {left right : TileDesc} (same : SamePlace left right)
    : SamePlace right left :=
  headFields_eq_iff.mp (headFields_eq_iff.mpr same).symm

/-- By the fields of the three tiles. -/
theorem SamePlace.trans {left middle right : TileDesc} (same : SamePlace left middle)
    (other : SamePlace middle right)
    : SamePlace left right :=
  headFields_eq_iff.mp ((headFields_eq_iff.mpr same).trans (headFields_eq_iff.mpr other))

/-- What the duplicate test compares: the form, every number in front of the last wire id,
and the last wire id only as far as the new one goes.
-/
structure Request.Shadows (request queued : Request) : Prop where
  form : queued.form = request.form
  place : SamePlace queued.tile request.tile
  oldWireId : queued.tile.oldWireId = request.tile.oldWireId
  wireId : showNat request.tile.wireId.toNat <+: showNat queued.tile.wireId.toNat

/-- The words of a request in front of its last wire id. -/
theorem Request.comparedWords_eq (request : Request)
    : request.comparedWords
      = (request.form.gap ++ (intWords request.tile.headFields
          ++ [word "oldwid" (showNat request.tile.oldWireId.toNat)]))
        ++ [word "wid" (showNat request.tile.wireId.toNat)] := by
  simp [Request.comparedWords, TileDesc.headWords]

/-- The words in front of the last wire id and those from it on are told apart by their
number, once the forms agree.
-/
theorem Request.words_split {request queued : Request} {next : Text} {tail : List Text}
    (same : queued.words
      = (request.form.gap ++ (intWords request.tile.headFields
          ++ [word "oldwid" (showNat request.tile.oldWireId.toNat)])) ++ next :: tail)
    : queued.form = request.form
      ∧ SamePlace queued.tile request.tile
      ∧ queued.tile.oldWireId = request.tile.oldWireId
      ∧ next = word "wid" (showNat queued.tile.wireId.toNat) := by
  have forms : queued.form = request.form := by
    have heads := congrArg List.head? same
    have headWord : ∀ tile : TileDesc, ∃ value, intWords tile.headFields
        = word "nviewid" value :: intWords tile.headFields.tail := fun _ => ⟨_, rfl⟩
    obtain ⟨value, shape⟩ := headWord queued.tile
    obtain ⟨other, otherShape⟩ := headWord request.tile
    cases left : queued.form with
    | direct =>
        cases right : request.form with
        | direct => rfl
        | split =>
            simp only [Request.words, left, right, Form.gap, otherShape, List.nil_append,
              List.cons_append, List.head?_cons, Option.some.injEq] at heads
            exact absurd heads.symm (word_ne_nil _ _)
    | split =>
        cases right : request.form with
        | direct =>
            simp only [Request.words, TileDesc.words, TileDesc.headWords, left, right, Form.gap,
              shape, List.nil_append, List.cons_append, List.head?_cons,
              Option.some.injEq] at heads
            exact absurd heads (word_ne_nil _ _)
        | split => rfl
  simp only [Request.words, TileDesc.words, TileDesc.headWords, forms, List.append_assoc,
    List.append_cancel_left_eq] at same
  have sizes : (intWords queued.tile.headFields).length
      = (intWords request.tile.headFields).length := by
    simp [intWords, TileDesc.headFields]
  obtain ⟨head, rest⟩ := List.append_inj same sizes
  have fields : queued.tile.headFields = request.tile.headFields := intWords_inj rfl head
  simp only [List.cons_append, List.nil_append, List.cons.injEq] at rest
  obtain ⟨old, wire, -⟩ := rest
  have number := showNat_inj (word_inj.mp old)
  exact ⟨forms, headFields_eq_iff.mp fields, UInt32.toNat_inj.mp number, wire.symm⟩

/-- What is compared is found in front of another request if and only if that is of the same place
and form.
-/
theorem Request.comparedText_prefix_iff {request queued : Request}
    : request.comparedText <+: queued.text ↔ request.Shadows queued := by
  have blank : ∀ text ∈ request.comparedWords, ' ' ∉ text := by
    intro text member
    refine request.words_blank text ?_
    rw [request.words_eq]
    exact List.mem_append_left _ member
  rw [request.comparedWords_eq] at blank
  rw [Request.comparedText, queued.text_eq, List.prefix_append_right_inj,
    request.comparedWords_eq,
    spaced_prefix_iff (fun text member => blank text (List.mem_append_left _ member))
      (blank _ (by simp)) queued.words_blank]
  constructor
  · rintro ⟨next, tail, same, starts⟩
    obtain ⟨form, place, oldWireId, rfl⟩ := Request.words_split same
    simp only [word, List.prefix_append_right_inj, List.cons_prefix_cons, true_and] at starts
    exact ⟨form, place, oldWireId, starts⟩
  · rintro ⟨form, place, oldWireId, wireId⟩
    refine ⟨word "wid" (showNat queued.tile.wireId.toNat), queued.tile.tailWords, ?_, ?_⟩
    · rw [queued.words_eq, queued.comparedWords_eq, form, headFields_eq_iff.mpr place, oldWireId]
      simp
    · simp only [word, List.prefix_append_right_inj, List.cons_prefix_cons, true_and]
      exact wireId

/-- A queued request is found as a duplicate exactly when the new request shadows it. -/
theorem Request.sameUpTo_text {request queued : Request}
    : TileQueue.sameUpTo (TileQueue.comparedLength request.text) request.text queued.text = true
      ↔ request.Shadows queued := by
  rw [request.sameUpTo_iff, Request.comparedText_prefix_iff, and_iff_right_iff_imp]
  rintro ⟨form, place, oldWireId, wireId⟩
  have shorter : request.comparedText.length ≤ queued.comparedText.length := by
    rw [Request.comparedText, Request.comparedText, request.comparedWords_eq,
      queued.comparedWords_eq, form, headFields_eq_iff.mpr place, oldWireId]
    have digits := wireId.length_le
    simp only [List.length_append, spaced_append, spaced_cons, spaced_nil, List.length_cons,
      List.length_nil, word]
    omega
  have tail : queued.text = queued.comparedText ++ spaced ' ' queued.tile.tailWords := by
    rw [queued.text_eq, queued.words_eq, spaced_append, ← List.append_assoc]
    rfl
  have version : 0 < (spaced ' ' queued.tile.tailWords).length := by
    simp [TileDesc.tailWords, TileDesc.tailFields, intWords]
  rw [tail, List.length_append]
  omega

/-- A message that the queue does not look into goes to its end. -/
theorem putMessage_other (viewIdOf : Text → Except Exception Text) (queue : List Payload)
    {message : Payload} (notTile : ¬ "tile".toList <+: message)
    (notCallback : ¬ "callback".toList <+: message)
    (notCancel : ¬ "canceltiles".toList <+: message)
    : TileQueue.putMessage viewIdOf queue message = .ok (queue ++ [message]) := by
  have starts := getFirstToken_prefix ' ' message
  have cancel : getFirstToken ' ' message ≠ "canceltiles".toList :=
    fun same => notCancel (same ▸ starts)
  have combine : getFirstToken ' ' message ≠ "tilecombine".toList := by
    intro same
    have tile : "tile".toList <+: "tilecombine".toList := by decide
    exact notTile (tile.trans (same ▸ starts))
  have tile : getFirstToken ' ' message ≠ "tile".toList := fun same => notTile (same ▸ starts)
  have callback : getFirstToken ' ' message ≠ "callback".toList :=
    fun same => notCallback (same ▸ starts)
  simp only [TileQueue.putMessage, cancel, combine, tile, callback, if_false]

/-- A request is put as a tile. -/
theorem putMessage_request (viewIdOf : Text → Except Exception Text) (queue : List Payload)
    (request : Request)
    : TileQueue.putMessage viewIdOf queue request.text = .ok (TileQueue.putTile queue request.text) := by
  have cancel : "tile".toList ≠ "canceltiles".toList := by decide
  have combine : "tile".toList ≠ "tilecombine".toList := by decide
  rw [TileQueue.putMessage, request.getFirstToken_text, if_neg cancel, if_neg combine, if_pos rfl]

/-- A combined request is put tile by tile. -/
theorem putMessage_combined (viewIdOf : Text → Except Exception Text) (queue : List Payload)
    (tiles : TileCombined)
    : TileQueue.putMessage viewIdOf queue (tiles.serialize "tilecombine".toList)
      = .ok (tiles.tiles.foldl
          (fun queue tile => TileQueue.putTile queue (tile.serialize "tile".toList)) queue) := by
  have first : getFirstToken ' ' (tiles.serialize "tilecombine".toList)
      = "tilecombine".toList := by
    rw [tiles.serialize_eq, getFirstToken_spaced (by decide)]
  have cancel : "tilecombine".toList ≠ "canceltiles".toList := by decide
  have same : tiles.withReadId.tiles.foldl
      (fun queue tile => TileQueue.putTile queue (tile.serialize "tile".toList)) queue
      = tiles.tiles.foldl
        (fun queue tile => TileQueue.putTile queue (tile.serialize "tile".toList)) queue := by
    simp only [TileCombined.withReadId, List.foldl_map, TileDesc.serialize_withReadId]
  rw [TileQueue.putMessage, first, if_neg cancel, if_pos rfl, tiles.parse_serialize (by decide) (by decide),
    ← same]
  rfl

end NdcOdfWeb.Queue
