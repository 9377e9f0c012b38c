import NdcOdfWeb.Foundation.Slices
import NdcOdfWeb.Rendering.System

/-! The kit's answer to a combined request, with its images, and how wsd cuts it. -/

namespace NdcOdfWeb.Rendering

open NdcOdfWeb.Foundation
open NdcOdfWeb.Protocol
open NdcOdfWeb.Tiles
open NdcOdfWeb.Queue

-----------------------------------------------------------------------------------------
-- The kit
-----------------------------------------------------------------------------------------

/-- What the PNG encoder appends for an image; its length fits into an `int`. -/
structure Png where
  bytes : Text
  nonempty : bytes ≠ []
  bounded : bytes.length < 2 ^ 31

/-- A rectangle of the painted area: the hash of its pixels (0 if they are all clear), the
wire id that the PNG cache has for it, and what `encodeSubBufferToPNG` appends, from the
cache or afresh; it may fail.
-/
structure PaintedRect where
  hash : UInt64
  wireId : UInt32
  png : Option Png

/-- The rectangle as it is recorded in its tile. -/
def PaintedRect.painted (rect : PaintedRect) (png : Png) : Painted where
  hash := rect.hash
  wireId := rect.wireId
  imgSize := Int32.ofNat png.bytes.length
  nonneg := by
    have bounded := png.bounded
    rw [Int32.lt_iff_toInt_lt, Int32.toInt_ofNat_of_lt bounded]
    exact Int.not_lt.mpr (Int.natCast_nonneg _)

/-- The client already has the content of the tile. -/
def PaintedRect.isMatch (rect : PaintedRect) (tile : TileDesc) : Bool :=
  rect.hash ≠ 0 && tile.oldWireId = rect.wireId

/-- `tiles.erase(tiles.begin() + tileIndex)`. -/
def eraseTile (combined : TileCombined) (tileIndex : Nat) : TileCombined where
  toTileHeader := combined.toTileHeader
  tiles := combined.tiles.eraseIdx tileIndex
  valid := combined.valid
  agree tile member := combined.agree tile (List.mem_of_mem_eraseIdx member)

/-- `tiles[tileIndex].setWireId` and `.setImgSize`. -/
def setImage (combined : TileCombined) (tileIndex : Nat) (painted : Painted)
    : TileCombined where
  toTileHeader := combined.toTileHeader
  tiles := combined.tiles.modify tileIndex painted.tile
  valid := combined.valid
  agree := by
    intro tile member
    obtain ⟨i, found⟩ := List.mem_iff_getElem?.mp member
    rw [List.getElem?_modify] at found
    obtain ⟨before, inside, rfl⟩ := Option.map_eq_some_iff.mp found
    have agrees := combined.agree before (List.mem_of_getElem? inside)
    split
    · exact agrees
    · exact agrees

/-- The variables of the tile loop in `renderCombinedTiles`. -/
structure TileLoop where
  combined : TileCombined
  tileIndex : Nat
  output : Text

inductive RenderError where
  /-- `tiles[tileIndex]` is outside the vector. -/
  | outOfRange
  /-- Failed to encode tile into PNG. -/
  | encoding
deriving DecidableEq

/-- One pass through the tile loop. -/
def TileLoop.next (state : TileLoop) (rect : PaintedRect) : Except RenderError TileLoop :=
  match state.combined.tiles[state.tileIndex]? with
  | none => .error .outOfRange
  | some tile =>
      if rect.isMatch tile then
        .ok { state with combined := eraseTile state.combined state.tileIndex }
      else
        match rect.png with
        | none => .error .encoding
        | some png =>
            .ok {
              combined := setImage state.combined state.tileIndex (rect.painted png)
              tileIndex := state.tileIndex + 1
              output := state.output ++ png.bytes
            }

/-- `renderCombinedTiles` behind the painting: rectangle `i` is that of the tile `i` of the
request. If all tiles are skipped, there is no message.
-/
def answerCombined (combined : TileCombined) (rect : Nat → PaintedRect)
    : Except RenderError (Option Payload) := do
  let tileRecs := (List.range combined.tiles.length).map rect
  let state ← tileRecs.foldlM TileLoop.next ⟨combined, 0, []⟩
  if state.tileIndex = 0 then
    return none
  else
    return some (state.combined.serialize "tilecombine:".toList ++ '\n' :: state.output)

/-- The loop of `handleTileCombinedResponse`: the tiles it saves, and the stretch of the
payload that each is saved with.
-/
def savedTiles (offset : Nat) : List TileDesc → List (TileDesc × Slice)
  | [] => []
  | tile :: tiles =>
      let imgSize := tile.imgSize.toInt.toNat
      (tile, ⟨offset, imgSize⟩) :: savedTiles (offset + imgSize) tiles

/-- `handleTileCombinedResponse`; an exception is logged. -/
def handleTileCombinedResponse (payload : Payload) : List (TileDesc × Slice) :=
  let firstLine := getFirstLine payload
  let length := payload.length
  -- Without payload, `length - 1` is the greatest number there is.
  if length = 0 ∨ firstLine.length < length - 1 then
    match TileCombined.parse firstLine with
    | .ok combined => savedTiles (firstLine.length + 1) combined.tiles
    | .error _ => []
  else []

/-- A tile that is sent, and its image. -/
structure SentTile where
  tile : TileDesc
  image : Text

/-- What is sent of one tile: nothing if the client has its content. -/
def sentTile (tile : TileDesc) (rect : PaintedRect) : Option SentTile :=
  if rect.isMatch tile then none
  else rect.png.map (fun png => ⟨(rect.painted png).tile tile, png.bytes⟩)

/-- The tiles of a request that are not left out, in order. -/
def sentTiles (tiles : List TileDesc) (rects : List PaintedRect) : List SentTile :=
  (tiles.zip rects).filterMap (fun pair => sentTile pair.1 pair.2)

/-- A tile that has not changed is left out. -/
theorem sentTiles_cons (tile : TileDesc) (tiles : List TileDesc) (rect : PaintedRect)
    (rects : List PaintedRect)
    : sentTiles (tile :: tiles) (rect :: rects)
      = (sentTile tile rect).toList ++ sentTiles tiles rects := by
  rw [sentTiles, List.zip_cons_cons, List.filterMap_cons]
  cases sentTile tile rect with
  | none => rfl
  | some sent => rfl

/-- The loop is behind the tiles `done`, and `rest` of the request is to come. -/
structure TileLoop.At (state : TileLoop) (header : TileHeader) (done : List SentTile)
    (rest : List TileDesc)
    : Prop where
  header : state.combined.toTileHeader = header
  tiles : state.combined.tiles = done.map SentTile.tile ++ rest
  index : state.tileIndex = done.length
  output : state.output = (done.map SentTile.image).flatten

/-- By induction on the front. -/
theorem modify_behind {α : Type} (change : α → α) (front : List α) (a : α) (rest : List α)
    : (front ++ a :: rest).modify front.length change = front ++ change a :: rest := by
  induction front with
  | nil => rfl
  | cons b front ih => simpa using ih

/-- The image of a tile that is not left out cannot be encoded. -/
def Fails (pair : TileDesc × PaintedRect) : Prop :=
  pair.2.isMatch pair.1 = false ∧ pair.2.png = none

/-- One pass appends what is sent of the next tile, or fails to encode it. -/
theorem TileLoop.At.next {state : TileLoop} {header : TileHeader} {done : List SentTile}
    {tile : TileDesc} {rest : List TileDesc}
    (at_ : state.At header done (tile :: rest)) (rect : PaintedRect)
    : (Fails (tile, rect) ∧ state.next rect = .error .encoding)
      ∨ (¬ Fails (tile, rect)
        ∧ ∃ after,
            state.next rect = .ok after
            ∧ after.At header (done ++ (sentTile tile rect).toList) rest) := by
  have here : state.combined.tiles[state.tileIndex]? = some tile := by
    rw [at_.tiles, at_.index, List.getElem?_append_right (by simp)]
    simp
  unfold TileLoop.next sentTile
  simp only [here]
  by_cases isMatch : rect.isMatch tile = true
  · rw [if_pos isMatch, if_pos isMatch]
    refine Or.inr ⟨fun fails => ?_, _, rfl, ⟨at_.header, ?_, ?_, ?_⟩⟩
    · exact Bool.false_ne_true (fails.1.symm.trans isMatch)
    · simp only [eraseTile, at_.tiles, at_.index, Option.toList_none, List.append_nil]
      rw [List.eraseIdx_append_of_length_le (by simp)]
      simp
    · simpa using at_.index
    · simpa using at_.output
  · rw [if_neg isMatch, if_neg isMatch]
    cases encoded : rect.png with
    | none => exact Or.inl ⟨⟨by simpa using isMatch, encoded⟩, rfl⟩
    | some png =>
        refine Or.inr ⟨fun fails => ?_, _, rfl, ⟨at_.header, ?_, ?_, ?_⟩⟩
        · exact Option.some_ne_none png (encoded.symm.trans fails.2)
        · simp only [setImage, at_.tiles, at_.index, Option.map_some, Option.toList_some]
          have front : done.length = (done.map SentTile.tile).length := by simp
          rw [front, modify_behind]
          simp
        · simp [at_.index]
        · simp [at_.output]

/-- The loop ends behind the last tile, or fails at one whose image cannot be encoded. The
induction is on the tiles: each pass appends what is sent of one.
-/
theorem tileLoop_run {header : TileHeader} {tiles : List TileDesc} {rects : List PaintedRect}
    (sameLength : tiles.length = rects.length) {state : TileLoop} {done : List SentTile}
    (at_ : state.At header done tiles)
    : (rects.foldlM TileLoop.next state = .error .encoding
        ∧ ∃ pair ∈ tiles.zip rects, Fails pair)
      ∨ ((∀ pair ∈ tiles.zip rects, ¬ Fails pair)
        ∧ ∃ final,
            rects.foldlM TileLoop.next state = .ok final
            ∧ final.At header (done ++ sentTiles tiles rects) []) := by
  induction tiles generalizing rects state done with
  | nil =>
      obtain rfl : rects = [] := List.eq_nil_of_length_eq_zero sameLength.symm
      refine Or.inr ⟨fun _ member => absurd member List.not_mem_nil, state, rfl, ?_⟩
      simpa [sentTiles] using at_
  | cons tile tiles ih =>
      obtain ⟨rect, rects, rfl⟩ : ∃ rect later, rects = rect :: later :=
        List.exists_cons_of_length_eq_add_one sameLength.symm
      have sameLength : tiles.length = rects.length := by simpa using sameLength
      rcases at_.next rect with ⟨failed, stops⟩ | ⟨encoded, after, next, atNext⟩
      · left
        rw [List.foldlM_cons, stops]
        exact ⟨rfl, (tile, rect), List.mem_cons_self, failed⟩
      · rw [List.foldlM_cons, next, sentTiles_cons, ← List.append_assoc]
        rcases ih sameLength atNext with ⟨stops, pair, member, failed⟩ | ⟨others, ends⟩
        · exact Or.inl ⟨stops, pair, List.mem_cons_of_mem _ member, failed⟩
        · exact Or.inr ⟨List.forall_mem_cons.mpr ⟨encoded, others⟩, ends⟩

/-- The rectangles of a request's tiles. -/
def rectsOf (combined : TileCombined) (rect : Nat → PaintedRect) : List PaintedRect :=
  (List.range combined.tiles.length).map rect

/-- The answer lists what is sent, and the images follow it. -/
structure Answers (combined : TileCombined) (sent : List SentTile) (message : Payload)
    (answer : TileCombined)
    : Prop where
  header : answer.toTileHeader = combined.toTileHeader
  tiles : answer.tiles = sent.map SentTile.tile
  text
    : message
      = answer.serialize "tilecombine:".toList ++ '\n' :: (sent.map SentTile.image).flatten

/-- The three outcomes of a combined request: an image that cannot be encoded, no tile that is
sent, or an answer; by the run of the loop from the start.
-/
theorem answerCombined_cases (combined : TileCombined) (rect : Nat → PaintedRect)
    : (answerCombined combined rect = .error .encoding
        ∧ ∃ pair ∈ combined.tiles.zip (rectsOf combined rect), Fails pair)
      ∨ ((∀ pair ∈ combined.tiles.zip (rectsOf combined rect), ¬ Fails pair)
        ∧ ((answerCombined combined rect = .ok none
            ∧ sentTiles combined.tiles (rectsOf combined rect) = [])
          ∨ ∃ message answer,
              answerCombined combined rect = .ok (some message)
              ∧ sentTiles combined.tiles (rectsOf combined rect) ≠ []
              ∧ Answers combined (sentTiles combined.tiles (rectsOf combined rect)) message
                  answer)) := by
  have sameLength : combined.tiles.length = (rectsOf combined rect).length := by
    simp [rectsOf]
  have start : (⟨combined, 0, []⟩ : TileLoop).At combined.toTileHeader [] combined.tiles :=
    ⟨rfl, rfl, rfl, rfl⟩
  rcases tileLoop_run sameLength start with ⟨stops, failed⟩ | ⟨encoded, final, ends, at_⟩
  · refine Or.inl ⟨?_, failed⟩
    rw [rectsOf] at stops
    simp only [answerCombined, stops, bind, Except.bind]
  · rw [List.nil_append] at at_
    rw [rectsOf] at ends
    refine Or.inr ⟨encoded, ?_⟩
    have index := at_.index
    by_cases nothing : final.tileIndex = 0
    · rw [nothing] at index
      refine Or.inl ⟨?_, List.eq_nil_of_length_eq_zero index.symm⟩
      simp only [answerCombined, ends, bind, Except.bind, if_pos nothing, pure, Except.pure]
    · refine Or.inr
        ⟨final.combined.serialize "tilecombine:".toList ++ '\n' :: final.output,
          final.combined, ?_, ?_, ?_⟩
      · simp only [answerCombined, ends, bind, Except.bind, if_neg nothing, pure, Except.pure]
      · intro empty
        rw [empty] at index
        exact nothing index
      · exact ⟨at_.header, by simpa using at_.tiles, by rw [at_.output]⟩

/-- The message is a single line. -/
theorem not_mem_serialize (combined : TileCombined)
    : '\n' ∉ combined.serialize "tilecombine:".toList := by
  rw [combined.serialize_eq]
  intro member
  rcases List.mem_append.mp member with initial | words
  · exact absurd initial (by decide)
  · exact not_mem_spaced (by decide) (fun word inside => (combined.words_lineWord word inside).2)
      words

-----------------------------------------------------------------------------------------
-- wsd's cut
-----------------------------------------------------------------------------------------

/-- By induction on the tiles: each one takes the bytes behind the one before. -/
theorem savedTiles_eq (offset : Nat) (tiles : List TileDesc)
    : savedTiles offset tiles
      = tiles.zip (slices offset (tiles.map (fun tile => tile.imgSize.toInt.toNat))) := by
  induction tiles generalizing offset with
  | nil => rfl
  | cons tile tiles ih => rw [savedTiles, ih, List.map_cons, slices, List.zip_cons_cons]

/-- wsd reads the list of tiles back, and saves each with the stretch that its size gives. -/
theorem handleTileCombinedResponse_answer {combined answer : TileCombined}
    {sent : List SentTile} {message : Payload} (nonempty : sent ≠ [])
    (images : ∀ tile ∈ sent,
      tile.tile.imgSize.toInt.toNat = tile.image.length ∧ tile.image ≠ [])
    (answers : Answers combined sent message answer)
    : handleTileCombinedResponse message
      = (sent.map (fun tile => tile.tile.withReadId)).zip
          (slices ((getFirstLine message).length + 1)
            ((sent.map SentTile.image).map List.length)) := by
  have firstLine : getFirstLine message = answer.serialize "tilecombine:".toList := by
    rw [answers.text, getFirstLine_append (not_mem_serialize answer)]
  have longer : (getFirstLine message).length < message.length - 1 := by
    obtain ⟨first, later, rfl⟩ := List.exists_cons_of_ne_nil nonempty
    have image := List.length_pos_iff.mpr (images first List.mem_cons_self).2
    rw [firstLine, answers.text]
    simp only [List.length_append, List.length_cons, List.map_cons, List.flatten_cons]
    omega
  have read : answer.withReadId.tiles = sent.map (fun tile => tile.tile.withReadId) := by
    change answer.tiles.map TileDesc.withReadId = _
    rw [answers.tiles, List.map_map]
    rfl
  have clean : LineWord ' ' "tilecombine:".toList := by decide
  have parsed := answer.parse_serialize clean (by decide)
  unfold handleTileCombinedResponse
  rw [if_pos (Or.inr longer), firstLine]
  simp only [parsed, savedTiles_eq, read, List.map_map]
  congr 2
  apply List.map_congr_left
  intro tile member
  exact (images tile member).1

/-- The saved tiles have their own images, which use up the bytes behind the first line. -/
theorem Answers.cut {combined answer : TileCombined} {sent : List SentTile}
    {message : Payload} (answers : Answers combined sent message answer) (nonempty : sent ≠ [])
    (images : ∀ tile ∈ sent,
      tile.tile.imgSize.toInt.toNat = tile.image.length ∧ tile.image ≠ [])
    : (handleTileCombinedResponse message).map (fun saved => (saved.1, saved.2.of message))
          = sent.map (fun sent => (sent.tile.withReadId, sent.image))
      ∧ (∀ saved ∈ handleTileCombinedResponse message, saved.2.Within message)
      ∧ ((handleTileCombinedResponse message).map (fun saved => saved.2.of message)).flatten
          = message.drop ((getFirstLine message).length + 1) := by
  have saved := handleTileCombinedResponse_answer nonempty images answers
  let header := answer.serialize "tilecombine:".toList ++ ['\n']
  have text : message = header ++ (sent.map SentTile.image).flatten := by
    rw [answers.text, List.append_assoc, List.singleton_append]
  have length : (getFirstLine message).length + 1 = header.length := by
    rw [answers.text, getFirstLine_append (not_mem_serialize answer), List.length_append,
      List.length_singleton]
  have pieces := slices_map_of header (sent.map SentTile.image)
  have within := slices_within header (sent.map SentTile.image)
  rw [← text, ← length] at pieces within
  have own : (handleTileCombinedResponse message).map
        (fun saved => (saved.1, saved.2.of message))
      = sent.map (fun sent => (sent.tile.withReadId, sent.image)) := by
    rw [saved]
    generalize slices ((getFirstLine message).length + 1)
      ((sent.map SentTile.image).map List.length) = stretches at pieces
    calc
      _ = (sent.map (fun tile => tile.tile.withReadId)).zip
            (stretches.map (Slice.of message)) := List.zip_map_right.symm
      _ = sent.map (fun sent => (sent.tile.withReadId, sent.image)) := by
          rw [pieces, List.zip_map']
  refine ⟨own, ?_, ?_⟩
  · intro tile member
    rw [saved] at member
    exact within tile.2 (List.of_mem_zip member).2
  · have inOrder := congrArg (List.map Prod.snd) own
    rw [List.map_map, List.map_map] at inOrder
    rw [length, text, List.drop_left, ← text]
    exact congrArg List.flatten inOrder

/-- The tile looks as the rectangle does, and its image is encoded if the rectangle's is. -/
structure PaintedAs (canvas : Canvas) (pair : TileDesc × PaintedRect) : Prop where
  hash : (canvas.paint pair.1).hash = pair.2.hash
  wireId : (canvas.paint pair.1).wireId = pair.2.wireId
  encodes : canvas.encodes pair.1 = pair.2.png.isSome
  image : ∀ png, pair.2.png = some png → canvas.paint pair.1 = pair.2.painted png

/-- The canvas has painted the rectangle. -/
theorem PaintedAs.isUnchanged {canvas : Canvas} {tile : TileDesc} {rect : PaintedRect}
    (painted : PaintedAs canvas (tile, rect))
    : isUnchanged (canvas.paint tile) tile = rect.isMatch tile := by
  rw [Rendering.isUnchanged, painted.hash, painted.wireId]
  rfl

/-- The loop sends the tiles that have changed. The induction is on the tiles; those whose image
cannot be encoded are excluded.
-/
theorem sentTiles_painted {canvas : Canvas} {tiles : List TileDesc} {rects : List PaintedRect}
    (sameLength : tiles.length = rects.length)
    (painted : ∀ pair ∈ tiles.zip rects, PaintedAs canvas pair)
    (encoded : ∀ pair ∈ tiles.zip rects, ¬ Fails pair)
    : (sentTiles tiles rects).map SentTile.tile
        = (tiles.filter (fun tile => !isUnchanged (canvas.paint tile) tile)).map
            (fun tile => (canvas.paint tile).tile tile)
      ∧ (tiles.filter (fun tile => !isUnchanged (canvas.paint tile) tile)).all canvas.encodes
        = true := by
  induction tiles generalizing rects with
  | nil => exact ⟨rfl, rfl⟩
  | cons tile tiles ih =>
      obtain ⟨rect, rects, rfl⟩ : ∃ rect later, rects = rect :: later :=
        List.exists_cons_of_length_eq_add_one sameLength.symm
      rw [List.zip_cons_cons, List.forall_mem_cons] at painted encoded
      obtain ⟨sent, all⟩ := ih (by simpa using sameLength) painted.2 encoded.2
      have unchanged := painted.1.isUnchanged
      rw [sentTiles_cons, List.map_append, sent]
      cases isMatch : rect.isMatch tile with
      | true =>
          rw [isMatch] at unchanged
          rw [List.filter_cons_of_neg (by simp [unchanged])]
          exact ⟨by simp [sentTile, isMatch], all⟩
      | false =>
          obtain ⟨png, here⟩ : ∃ png, rect.png = some png :=
            Option.ne_none_iff_exists'.mp (fun none' => encoded.1 ⟨isMatch, none'⟩)
          have same : canvas.paint tile = rect.painted png := painted.1.image png here
          have encodes : canvas.encodes tile = rect.png.isSome := painted.1.encodes
          rw [isMatch] at unchanged
          rw [List.filter_cons_of_pos (by simp [unchanged]), List.all_cons, encodes, here, all]
          exact ⟨by simp [sentTile, isMatch, here, same], rfl⟩

/-- The loop computes the answer of `renderCombinedTiles`, where the kit can render the request
and the rectangles are what it paints: none if an image cannot be encoded or no tile is sent.
-/
theorem answerCombined_renders {combined : TileCombined} {rect : Nat → PaintedRect}
    {canvas : Canvas} (canRender : canvas.canRender combined.normalizedViewId = true)
    (painted : ∀ pair ∈ combined.tiles.zip (rectsOf combined rect), PaintedAs canvas pair)
    : (answerCombined combined rect = .error .encoding
        ∧ renderCombinedTiles canvas combined = none)
      ∨ (answerCombined combined rect = .ok none ∧ renderCombinedTiles canvas combined = none)
      ∨ ∃ message answer,
          answerCombined combined rect = .ok (some message)
          ∧ renderCombinedTiles canvas combined = some (.tilecombine answer)
          ∧ Answers combined (sentTiles combined.tiles (rectsOf combined rect)) message
              answer := by
  have sameLength : combined.tiles.length = (rectsOf combined rect).length := by
    simp [rectsOf]
  unfold renderCombinedTiles
  dsimp only
  rw [canRender, if_neg (by decide)]
  rcases answerCombined_cases combined rect with ⟨stops, pair, inside, fails⟩ | ⟨encoded, cases'⟩
  · refine Or.inl ⟨stops, if_pos ?_⟩
    have paints := painted pair inside
    have changed := paints.isUnchanged
    rw [fails.1] at changed
    have sent
        : pair.1 ∈ combined.tiles.filter
            (fun tile => !isUnchanged (canvas.paint tile) tile) :=
      List.mem_filter.mpr ⟨(List.of_mem_zip inside).1, by rw [changed]; rfl⟩
    rw [Bool.not_eq_true', List.all_eq_false]
    refine ⟨pair.1, sent, ?_⟩
    rw [paints.encodes, fails.2]
    exact Bool.false_ne_true
  · obtain ⟨tiles, all⟩ := sentTiles_painted sameLength painted encoded
    rw [all, if_neg (by decide)]
    rcases cases' with ⟨skipped, nothing⟩ | ⟨message, answer, sentBack, something, answers⟩
    · rw [nothing, List.map_nil, eq_comm, List.map_eq_nil_iff] at tiles
      exact Or.inr (Or.inl ⟨skipped, if_pos tiles⟩)
    · refine Or.inr (Or.inr ⟨message, answer, sentBack, ?_, answers⟩)
      rw [if_neg]
      · rw [← answers.tiles] at tiles
        exact congrArg (some ∘ KitResponse.tilecombine)
          (TileCombined.eq_of answers.header.symm tiles.symm)
      · intro empty
        rw [empty, List.map_nil] at tiles
        exact something (List.map_eq_nil_iff.mp tiles)

end NdcOdfWeb.Rendering
