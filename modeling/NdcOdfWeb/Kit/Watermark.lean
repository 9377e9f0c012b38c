import Mathlib.Algebra.Group.Nat.Defs
import Mathlib.Data.Set.Basic
import NdcOdfWeb.Foundation.Buffers
import NdcOdfWeb.Foundation.StepRun

/-! The watermark that is blended over the tiles (`Watermark`). An access outside a buffer has no
result; the arithmetic on the colours, which is done with `double`, is a parameter.
-/

namespace NdcOdfWeb.Kit

open NdcOdfWeb.Foundation

/-- The four bytes of a pixel. -/
structure Rgba where
  r : UInt8
  g : UInt8
  b : UInt8
  a : UInt8
deriving DecidableEq

/-- What is computed with `double`: a pixel over another one, the white and the alpha of a
blurred pixel from the alphas around it, and a byte times the level of the watermark.
-/
structure PixelArithmetic where
  blend (target source : Rgba) : Rgba
  blur (alphas : List UInt8) : UInt8 × UInt8
  fade (value : UInt8) : UInt8

/-- What `renderFont` returns: null or a buffer, and the size that it reports, which is that
of the buffer.
-/
structure RenderedFont where
  textPixels : Option (List UInt8)
  width : Int
  height : Int
  sized : ∀ pixels, textPixels = some pixels → (pixels.length : Int) = width * height * 4

/-- The members of `Watermark` that change, and whether there is a document. -/
structure Watermark where
  loKitDoc : Bool
  width : Int
  height : Int
  pixmap : List UInt8

def Watermark.new (loKitDoc : Bool) : Watermark := ⟨loKitDoc, 0, 0, []⟩

/-- A call of `blending`: a window of the size of a tile in the pixmap of the tiles, and what
`renderFont` returns in it.
-/
structure BlendingCall where
  tilePixmap : List UInt8
  offsetX : Nat
  offsetY : Nat
  tilesPixmapWidth : Nat
  tilesPixmapHeight : Nat
  tileWidth : Nat
  tileHeight : Nat
  renderedFont : RenderedFont
  positive : 0 < tileWidth ∧ 0 < tileHeight
  right : offsetX + tileWidth ≤ tilesPixmapWidth
  bottom : offsetY + tileHeight ≤ tilesPixmapHeight
  sized : tilePixmap.length = 4 * (tilesPixmapWidth * tilesPixmapHeight)

def readPixel (buffer : List UInt8) (index : Int) : Option Rgba := do
  let r ← readByte buffer index
  let g ← readByte buffer (index + 1)
  let b ← readByte buffer (index + 2)
  let a ← readByte buffer (index + 3)
  return ⟨r, g, b, a⟩

def writePixel (buffer : List UInt8) (index : Int) (pixel : Rgba) : Option (List UInt8) := do
  let buffer ← writeByte buffer index pixel.r
  let buffer ← writeByte buffer (index + 1) pixel.g
  let buffer ← writeByte buffer (index + 2) pixel.b
  writeByte buffer (index + 3) pixel.a

section

variable (arithmetic : PixelArithmetic)

/-- The loop body of `alphaBlend`; only opaque pixels are blended over. -/
def alphaBlendPixel (source : List UInt8) (f t : Int) (target : List UInt8)
    : Option (List UInt8) :=
  (readByte target (t + 3)).bind (fun alpha =>
    if alpha ≠ 255 then some target
    else
      (readPixel target t).bind (fun below =>
        (readPixel source f).bind (fun above =>
          writePixel target t (arithmetic.blend below above))))

/-- `alphaBlend`. -/
def alphaBlend (source : List UInt8) (fromWidth fromHeight fromOffsetX fromOffsetY : Int)
    (target : List UInt8) (toWidth toHeight : Int)
    : Option (List UInt8) :=
  let rows := (min (toHeight - fromOffsetY) fromHeight).toNat
  let columns := (min (toWidth - fromOffsetX) fromWidth).toNat
  (cells rows columns).foldlM
    (fun target (fromY, fromX) =>
      alphaBlendPixel arithmetic source (4 * (fromY * fromWidth + fromX))
        (4 * ((fromOffsetY + fromY) * toWidth + (fromOffsetX + fromX))) target)
    target

-----------------------------------------------------------------------------------------
-- The watermark's own pixmap
-----------------------------------------------------------------------------------------

/-- The first so many bytes behind a pointer. -/
def copyBytes (pointer : Option (List UInt8)) (count : Nat) : Option (List UInt8) :=
  if count = 0 then some []
  else pointer.bind (fun bytes => if count ≤ bytes.length then some (bytes.take count) else none)

/-- The rows or columns that the blur of one looks at. -/
def blurred (center size : Nat) : List Nat :=
  (List.range size).filter (fun k => center ≤ k + 2 ∧ k ≤ center + 2)

/-- The loop body that blurs the text at a pixel. -/
def blurPixel (text : List UInt8) (width height : Nat) (pixmap : List UInt8) (cell : Nat × Nat)
    : Option (List UInt8) := do
  let (y, x) := cell
  let around := (blurred y height).flatMap (fun ky => (blurred x width).map (fun kx => (ky, kx)))
  let alphas ← around.mapM (fun (ky, kx) => readByte text (4 * (ky * width + kx) + 3))
  let (white, avg) := arithmetic.blur alphas
  writePixel pixmap (4 * (y * width + x)) ⟨white, white, white, avg⟩

/-- The loop body that makes a byte semi-transparent. -/
def fadeByte (pixmap : List UInt8) (p : Nat) : Option (List UInt8) := do
  let value ← readByte pixmap p
  writeByte pixmap p (arithmetic.fade value)

/-- The part of `getPixmap` behind the call of `renderFont`: what gets into the pixmap. The
vector gets room for the pixels (`reserve`), but no elements.
-/
def renderPixmap (width height : Nat) (renderedFont : RenderedFont) : Option (List UInt8) := do
  let pixelCount := width * height * 4 % 2 ^ 32
  let text ← copyBytes renderedFont.textPixels pixelCount
  -- Create the white blurred background
  let background ← (cells height width).foldlM (blurPixel arithmetic text width height) []
  -- Now copy the (black) text over the (white) blur
  let pixmap ← alphaBlend arithmetic text renderedFont.width renderedFont.height 0 0 background
    renderedFont.width renderedFont.height
  -- Make the resulting pixmap semi-transparent
  (List.range pixelCount).foldlM (fadeByte arithmetic) pixmap

/-- `getPixmap`, with the pixmap that is returned, if any. -/
def getPixmap (watermark : Watermark) (width height : Nat) (renderedFont : RenderedFont)
    : Option (Option (List UInt8) × Watermark) :=
  if watermark.pixmap ≠ [] ∧ width = watermark.width ∧ height = watermark.height then
    some (some watermark.pixmap, watermark)
  else if watermark.loKitDoc = false then
    some (none, { watermark with width, height, pixmap := [] })
  else
    (renderPixmap arithmetic width height renderedFont).map (fun pixmap =>
      (
        some pixmap,
        { watermark with width := renderedFont.width, height := renderedFont.height, pixmap }
      ))

/-- The size of a watermark for a tile: nine tenths of its side. -/
def requestedSize (side : Nat) : Nat :=
  side * 9 / 10

/-- `blending`, with the pixmap of the tiles after it. -/
def blending (watermark : Watermark) (call : BlendingCall)
    : Option (Watermark × List UInt8) := do
  let width := requestedSize call.tileWidth
  let height := requestedSize call.tileHeight
  match ← getPixmap arithmetic watermark width height call.renderedFont with
  | (none, watermark) => return (watermark, call.tilePixmap)
  | (some pixmap, watermark) =>
      -- center watermark
      let maxX := min (call.tileWidth : Int) watermark.width
      let maxY := min (call.tileHeight : Int) watermark.height
      let tilePixmap ← alphaBlend arithmetic pixmap watermark.width watermark.height
        (call.offsetX + Int.tdiv (call.tileWidth - maxX) 2)
        (call.offsetY + Int.tdiv (call.tileHeight - maxY) 2)
        call.tilePixmap call.tilesPixmapWidth call.tilesPixmapHeight
      return (watermark, tilePixmap)

def blendingStep (watermark : Watermark) (call : BlendingCall) : Option Watermark :=
  (blending arithmetic watermark call).map Prod.fst

end

/-- The bytes of the call's own window. -/
def BlendingCall.window (call : BlendingCall) : Set Nat :=
  { byte |
    ∃ x y k,
      (call.offsetX ≤ x ∧ x < call.offsetX + call.tileWidth)
      ∧ (call.offsetY ≤ y ∧ y < call.offsetY + call.tileHeight)
      ∧ k < 4
      ∧ byte = 4 * (y * call.tilesPixmapWidth + x) + k }

/-- The call makes no access outside a buffer, and changes its own window only. -/
def StaysInWindow (arithmetic : PixelArithmetic) (watermark : Watermark) (call : BlendingCall)
    : Prop :=
  ∃ after tilePixmap,
    blending arithmetic watermark call = some (after, tilePixmap)
    ∧ ∀ byte, byte ∉ call.window → tilePixmap[byte]? = call.tilePixmap[byte]?

/-- Nothing is drawn: there is no document, or the watermark of the tile has no pixels, and
the text that is rendered has none either.
-/
def DrawsNothing (loKitDoc : Bool) (call : BlendingCall) : Prop :=
  loKitDoc = false
  ∨ (
    (call.tileWidth ≤ 1 ∨ call.tileHeight ≤ 1)
    ∧ (call.renderedFont.width ≤ 0 ∨ call.renderedFont.height ≤ 0)
  )

-----------------------------------------------------------------------------------------
-- A vector without elements
-----------------------------------------------------------------------------------------

section

variable (arithmetic : PixelArithmetic)

/-- No byte can be written into an empty pixmap. -/
theorem writePixel_nil (index : Int) (pixel : Rgba) : writePixel [] index pixel = none := by
  unfold writePixel
  rw [writeByte_nil]
  rfl

/-- The pixel has nowhere to go. -/
theorem blurPixel_nil (text : List UInt8) (width height : Nat) (cell : Nat × Nat)
    : blurPixel arithmetic text width height [] cell = none := by
  unfold blurPixel
  dsimp only
  simp only [writePixel_nil]
  exact Option.bind_fun_none _

/-- The pixel has nowhere to go. -/
theorem alphaBlendPixel_nil (source : List UInt8) (f t : Int)
    : alphaBlendPixel arithmetic source f t [] = none := by
  unfold alphaBlendPixel
  rw [readByte_nil]
  rfl

/-- Nothing is blended where one of the pixmaps has no pixels. -/
theorem alphaBlend_empty (source : List UInt8) {fromWidth fromHeight : Int}
    (empty : fromWidth ≤ 0 ∨ fromHeight ≤ 0) (fromOffsetX fromOffsetY : Int)
    (target : List UInt8) (toWidth toHeight : Int)
    : alphaBlend arithmetic source fromWidth fromHeight fromOffsetX fromOffsetY target toWidth
        toHeight
      = some target := by
  have none' : cells (min (toHeight - fromOffsetY) fromHeight).toNat
      (min (toWidth - fromOffsetX) fromWidth).toNat = [] := by
    rw [cells_eq_nil_iff]
    omega
  unfold alphaBlend
  dsimp only
  rw [none']
  rfl

/-- The first pixel fails, and with it the loop. -/
theorem alphaBlend_nil (source : List UInt8) {width height : Int} (columns : 0 < width)
    (rows : 0 < height)
    : alphaBlend arithmetic source width height 0 0 [] width height = none := by
  unfold alphaBlend
  apply foldlM_eq_none
  · intro none'
    rw [cells_eq_nil_iff] at none'
    omega
  · intro cell
    exact alphaBlendPixel_nil arithmetic source _ _

/-- The first pixel that is blurred, or blended, is written outside the vector. -/
theorem renderPixmap_eq (width height : Nat) (renderedFont : RenderedFont)
    : renderPixmap arithmetic width height renderedFont
      = if (width = 0 ∨ height = 0) ∧ (renderedFont.width ≤ 0 ∨ renderedFont.height ≤ 0) then
          some []
        else none := by
  unfold renderPixmap
  by_cases empty : width = 0 ∨ height = 0
  · have count : width * height * 4 % 2 ^ 32 = 0 := by
      rcases empty with rfl | rfl <;> simp
    have none' : cells height width = [] := cells_eq_nil_iff.mpr empty.symm
    dsimp only
    rw [count, none']
    by_cases rendered : renderedFont.width ≤ 0 ∨ renderedFont.height ≤ 0
    · rw [if_pos ⟨empty, rendered⟩]
      have blended := alphaBlend_empty arithmetic [] rendered 0 0 [] renderedFont.width
        renderedFont.height
      change (alphaBlend arithmetic [] _ _ 0 0 [] _ _ >>= _) = _
      rw [blended]
      rfl
    · rw [if_neg (fun both => rendered both.2)]
      have outside := @alphaBlend_nil arithmetic [] renderedFont.width renderedFont.height
        (by omega) (by omega)
      change (alphaBlend arithmetic [] _ _ 0 0 [] _ _ >>= _) = _
      rw [outside]
      rfl
  · rw [if_neg (fun both => empty both.1)]
    have several : cells height width ≠ [] := fun none' =>
      empty (cells_eq_nil_iff.mp none').symm
    dsimp only
    cases copyBytes renderedFont.textPixels (width * height * 4 % 2 ^ 32) with
    | none => rfl
    | some text =>
        have outside := foldlM_eq_none several (blurPixel_nil arithmetic text width height)
        change ((cells height width).foldlM (blurPixel arithmetic text width height) [] >>= _)
          = _
        rw [outside]
        rfl

end

/-- Nine tenths of a side of 0 or 1 round down to 0. -/
theorem requestedSize_eq_zero_iff (side : Nat) : requestedSize side = 0 ↔ side ≤ 1 := by
  unfold requestedSize
  omega

/-- A watermark that was never drawn: its vector has no elements. -/
theorem blending_eq (arithmetic : PixelArithmetic) {watermark : Watermark}
    (empty : watermark.pixmap = []) (call : BlendingCall)
    : (
        DrawsNothing watermark.loKitDoc call
        ∧ ∃ after,
            blending arithmetic watermark call = some (after, call.tilePixmap)
            ∧ after.pixmap = []
            ∧ after.loKitDoc = watermark.loKitDoc
      )
      ∨ (
        ¬ DrawsNothing watermark.loKitDoc call ∧ blending arithmetic watermark call = none
      ) := by
  unfold DrawsNothing blending getPixmap
  dsimp only
  rw [if_neg (fun drawn => drawn.1 empty)]
  by_cases document : watermark.loKitDoc = false
  · left
    rw [if_pos document]
    exact ⟨.inl document, _, rfl, rfl, rfl⟩
  · have sizes
        : requestedSize call.tileWidth = 0 ∨ requestedSize call.tileHeight = 0
          ↔ call.tileWidth ≤ 1 ∨ call.tileHeight ≤ 1 :=
      or_congr (requestedSize_eq_zero_iff _) (requestedSize_eq_zero_iff _)
    rw [if_neg document, renderPixmap_eq]
    by_cases nothing : (call.tileWidth ≤ 1 ∨ call.tileHeight ≤ 1)
        ∧ (call.renderedFont.width ≤ 0 ∨ call.renderedFont.height ≤ 0)
    · left
      rw [if_pos ⟨sizes.mpr nothing.1, nothing.2⟩]
      refine ⟨.inr nothing, ⟨watermark.loKitDoc, call.renderedFont.width,
        call.renderedFont.height, []⟩, ?_, rfl, rfl⟩
      have blended := alphaBlend_empty arithmetic [] nothing.2
      change (alphaBlend arithmetic [] _ _ _ _ _ _ _ >>= _) = _
      rw [blended]
      rfl
    · right
      rw [if_neg (fun both => nothing ⟨sizes.mp both.1, both.2⟩)]
      exact ⟨fun either => either.elim document nothing, rfl⟩

/-- An empty pixmap holds no pixel, so nothing may be drawn. -/
theorem staysInWindow_iff (arithmetic : PixelArithmetic) {watermark : Watermark}
    (empty : watermark.pixmap = []) (call : BlendingCall)
    : StaysInWindow arithmetic watermark call ↔ DrawsNothing watermark.loKitDoc call := by
  rcases blending_eq arithmetic empty call with ⟨nothing, after, blended, _⟩ | ⟨draws, fails⟩
  · exact iff_of_true ⟨after, call.tilePixmap, blended, fun _ _ => rfl⟩ nothing
  · apply iff_of_false _ draws
    rintro ⟨after, tilePixmap, blended, _⟩
    exact absurd (fails.symm.trans blended) (Option.some_ne_none _).symm

/-- After any calls, the next one stays in its buffers and in its window exactly if it draws
nothing.
-/
theorem blending_staysInWindow_iff (arithmetic : PixelArithmetic) (loKitDoc : Bool)
    (calls : List BlendingCall)
    : AllSteps (blendingStep arithmetic)
        (fun watermark call =>
          StaysInWindow arithmetic watermark call ↔ DrawsNothing loKitDoc call)
        (.new loKitDoc) calls := by
  intro done call rest watermark split ran
  have keeps (before : Watermark) (call : BlendingCall) (after : Watermark)
      (invariant : before.pixmap = [] ∧ before.loKitDoc = loKitDoc)
      (step : blendingStep arithmetic before call = some after)
      : after.pixmap = [] ∧ after.loKitDoc = loKitDoc := by
    obtain ⟨⟨_, tilePixmap⟩, blended, rfl⟩ := Option.map_eq_some_iff.mp step
    rcases blending_eq arithmetic invariant.1 call with ⟨_, after, blended', empty, same⟩ | ⟨_, fails⟩
    · cases blended.symm.trans blended'
      exact ⟨empty, same.trans invariant.2⟩
    · exact absurd (fails.symm.trans blended) (Option.some_ne_none _).symm
  have start : (Watermark.new loKitDoc).pixmap = [] ∧ (Watermark.new loKitDoc).loKitDoc = loKitDoc :=
    ⟨rfl, rfl⟩
  obtain ⟨empty, same⟩ :=
    allStates_of_keeps keeps start calls done (call :: rest) watermark split ran
  rw [← same]
  exact staysInWindow_iff arithmetic empty call

/-- A tile, and a text of the size that is requested for it. -/
def plainTile : BlendingCall where
  tilePixmap := List.replicate 262144 255
  offsetX := 0
  offsetY := 0
  tilesPixmapWidth := 256
  tilesPixmapHeight := 256
  tileWidth := 256
  tileHeight := 256
  renderedFont :=
    {
      textPixels := some (List.replicate 211600 0)
      width := 230
      height := 230
      sized := by
        intro pixels rendered
        rw [← Option.some.inj rendered, List.length_replicate]
        rfl
    }
  positive := ⟨Nat.succ_pos _, Nat.succ_pos _⟩
  right := Nat.le_refl _
  bottom := Nat.le_refl _
  sized := List.length_replicate

/-- The first call for a plain tile writes outside the pixmap of the watermark. -/
theorem plainTile_leaves_pixmap
    : ¬ ∃ arithmetic : PixelArithmetic, StaysInWindow arithmetic (.new true) plainTile := by
  rintro ⟨arithmetic, stays⟩
  have nothing := (staysInWindow_iff arithmetic rfl plainTile).mp stays
  unfold DrawsNothing plainTile at nothing
  exact absurd nothing (by decide)

end NdcOdfWeb.Kit
