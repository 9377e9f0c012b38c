import NdcOdfWeb.Kit.ReplayedFrames

/-! From the payload of an invalidation to what wsd invalidates. -/

namespace NdcOdfWeb.Kit

open NdcOdfWeb.Foundation
open NdcOdfWeb.Protocol
open NdcOdfWeb.Queue
open NdcOdfWeb.Rendering

/-- What `LOK_CALLBACK_INVALIDATE_TILES` tells: a rectangle of a part, everything, or
everything in a part.
-/
inductive InvalidatedTiles where
  | rectangle (x y width height part : Int)
  | empty
  | emptyPart (part : Int)

namespace InvalidatedTiles

/-- The payload. -/
def payload : InvalidatedTiles → Text
  | rectangle x y width height part =>
      showInt x
        ++ ", ".toList ++ showInt y
        ++ ", ".toList ++ showInt width
        ++ ", ".toList ++ showInt height
        ++ ", ".toList ++ showInt part
  | empty => "EMPTY".toList
  | emptyPart part => "EMPTY, ".toList ++ showInt part

/-- The invalidated area, at the coordinates that are not negative. -/
def area : InvalidatedTiles → Set (Int × Int)
  | rectangle x y width height _ =>
      { point |
        (0 ≤ point.1 ∧ 0 ≤ point.2)
        ∧ (x ≤ point.1 ∧ point.1 < x + width)
        ∧ y ≤ point.2 ∧ point.2 < y + height }
  | empty | emptyPart _ => { point | 0 ≤ point.1 ∧ 0 ≤ point.2 }

/-- The invalidated part: -1 stands for all of them, and a text document has the part 0. -/
def shown (docType : LibreOfficeKitDocumentType) : InvalidatedTiles → Int
  | empty => -1
  | rectangle _ _ _ _ part | emptyPart part => if docType = .text then 0 else part

end InvalidatedTiles

/-- The area of a rectangle that wsd has read; `INT_MAX` stands for no bound. -/
def readArea (rectangle : Rectangle) : Set (Int × Int) :=
  { point |
    (
      rectangle.x1.toInt ≤ point.1
      ∧ (point.1 < rectangle.x2.toInt ∨ rectangle.x2 = Int32.maxValue)
    )
    ∧ rectangle.y1.toInt ≤ point.2
    ∧ (point.2 < rectangle.y2.toInt ∨ rectangle.y2 = Int32.maxValue) }

/-- The kit's message is read as an invalidation of the same part, which covers the area. -/
def Covers (docType : LibreOfficeKitDocumentType) (tiles : InvalidatedTiles) : Prop :=
  ∃ message part rectangle,
    invalidateMessage docType tiles.payload = some message
    ∧ parseInvalidateMsg message = .ok (part, rectangle)
    ∧ part.toInt = tiles.shown docType
    ∧ tiles.area ⊆ readArea rectangle

/-- The number fits an `int`. -/
def IsInt (value : Int) : Prop :=
  -2 ^ 31 ≤ value ∧ value < 2 ^ 31

/-- The numbers of a rectangle that are read fit an `int`; that of the part is not read for
a text document.
-/
def NumbersFit (docType : LibreOfficeKitDocumentType) (x y width height part : Int) : Prop :=
  (IsInt x ∧ IsInt y ∧ IsInt width ∧ IsInt height) ∧ (docType = .text ∨ IsInt part)

/-- When the conversion does not lose anything. -/
def Convertible (docType : LibreOfficeKitDocumentType) : InvalidatedTiles → Prop
  | .rectangle x y width height part =>
      (
        NumbersFit docType x y width height part
        ∧ (
          (width ≤ 0 ∨ height ≤ 0 ∨ x + width ≤ 0 ∨ y + height ≤ 0)
          ∨ (x + width < 2 ^ 31 ∧ y + height < 2 ^ 31)
        )
      )
      ∨ (¬ NumbersFit docType x y width height part ∧ (docType = .text ∨ part = 0))
  | .empty => True
  | .emptyPart part => docType = .text ∨ IsInt part

/-- A number that does not fit an int throws. -/
theorem stoi_showInt_cases (value : Int)
    : (IsInt value ∧ ∃ number : Int32, stoi (showInt value) = .ok number ∧ number.toInt = value)
      ∨ (¬ IsInt value ∧ stoi (showInt value) = .error .outOfRange) := by
  have scanned := scanNumber_showInt value endsNumber_nil
  rw [List.append_nil] at scanned
  have read
      : stoi (showInt value)
        = if -2 ^ 31 ≤ value ∧ value < 2 ^ 31 then .ok (Int32.ofInt value)
          else .error .outOfRange := by
    simp only [stoi, scanned, signed_natAbs]
  rw [read]
  by_cases inside : IsInt value
  · left
    obtain ⟨lower, upper⟩ := inside
    rw [if_pos ⟨lower, upper⟩]
    exact ⟨⟨lower, upper⟩, _, rfl, Int32.toInt_ofInt_of_le lower upper⟩
  · right
    exact ⟨inside, if_neg inside⟩

/-- A number has neither blanks nor commas. -/
theorem showInt_clean (value : Int)
    : (',' ∉ showInt value ∧ ' ' ∉ showInt value)
      ∧ (trim (showInt value) = showInt value ∧ trim (' ' :: showInt value) = showInt value) := by
  have blank : ∀ c ∈ showInt value, isSpace c = false := by
    intro c member
    rcases mem_showInt member with rfl | digit
    · decide
    · exact isSpace_of_isDigit digit
  have trimmed : trim (' ' :: showInt value) = showInt value := by
    rw [trim, List.dropWhile_cons_of_pos (by decide)]
    exact trim_of_clean blank
  exact
    ⟨⟨not_mem_showInt _ (by decide) (by decide), not_mem_showInt _ (by decide) (by decide)⟩,
      trim_of_clean blank, trimmed⟩

/-- The numbers after the first one follow a blank. -/
theorem stringTokenizer_numbers (first : Text) (clean : ',' ∉ first ∧ trim first = first)
    (several : first ≠ []) (numbers : List Int)
    : stringTokenizer ',' (first ++ spaced ',' (numbers.map (fun number => ' ' :: showInt number)))
      = first :: numbers.map showInt := by
  rw [stringTokenizer_spaced]
  · rw [List.map_cons, clean.2, List.map_map]
    congr 1
    exact List.map_congr_left (fun number _ => (showInt_clean number).2.2)
  · rw [List.forall_mem_cons]
    refine ⟨⟨clean.1, by rw [clean.2]; exact several⟩, ?_⟩
    intro word member
    obtain ⟨number, _, rfl⟩ := List.mem_map.mp member
    rw [(showInt_clean number).2.2]
    refine ⟨?_, showInt_ne_nil number⟩
    rw [List.mem_cons, not_or]
    exact ⟨by decide, (showInt_clean number).1.1⟩

/-- The payload has five numbers, behind commas. -/
theorem rectangle_tokens (x y width height part : Int)
    : stringTokenizer ',' (InvalidatedTiles.rectangle x y width height part).payload
      = [showInt x, showInt y, showInt width, showInt height, showInt part] := by
  have tokens := stringTokenizer_numbers (showInt x)
    ⟨(showInt_clean x).1.1, (showInt_clean x).2.1⟩ (showInt_ne_nil x) [y, width, height, part]
  have text : (InvalidatedTiles.rectangle x y width height part).payload
      = showInt x
        ++ spaced ',' ([y, width, height, part].map (fun number => ' ' :: showInt number)) := by
    unfold InvalidatedTiles.payload
    simp only [List.map_cons, List.map_nil, spaced_cons, spaced_nil, List.append_assoc,
      List.append_nil]
    rfl
  rw [text, tokens]
  rfl

/-- The word, then the part. -/
theorem emptyPart_tokens (part : Int)
    : stringTokenizer ',' (InvalidatedTiles.emptyPart part).payload
      = ["EMPTY".toList, showInt part] := by
  have tokens := stringTokenizer_numbers "EMPTY".toList (by decide) (by decide) [part]
  have text : (InvalidatedTiles.emptyPart part).payload
      = "EMPTY".toList ++ spaced ',' ([part].map (fun number => ' ' :: showInt number)) := by
    unfold InvalidatedTiles.payload
    simp only [List.map_cons, List.map_nil, spaced_cons, spaced_nil, List.append_nil]
    rfl
  rw [text, tokens]
  rfl

-----------------------------------------------------------------------------------------
-- What wsd reads
-----------------------------------------------------------------------------------------

/-- The message for a rectangle whose numbers fit, or the one for everything. -/
theorem invalidateMessage_rectangle (docType : LibreOfficeKitDocumentType)
    (x y width height part : Int)
    : (
        NumbersFit docType x y width height part
        ∧ ∃ x' y' width' height' part' : Int32,
            invalidateMessage docType (InvalidatedTiles.rectangle x y width height part).payload
              = some (invalidatetiles part' x' y' width' height')
            ∧ (x'.toInt = x ∧ y'.toInt = y)
            ∧ (width'.toInt = width ∧ height'.toInt = height)
            ∧ part'.toInt = if docType = .text then 0 else part
      )
      ∨ (
        ¬ NumbersFit docType x y width height part
        ∧ invalidateMessage docType (InvalidatedTiles.rectangle x y width height part).payload
          = some (invalidatetiles 0 0 0 Int32.maxValue Int32.maxValue)
      ) := by
  have message
      : invalidateMessage docType (InvalidatedTiles.rectangle x y width height part).payload
        = invalidateRectangle docType (showInt x) (showInt y) (showInt width) (showInt height)
            (showInt part) := by
    unfold invalidateMessage
    rw [rectangle_tokens]
  rw [message]
  unfold invalidateRectangle
  rcases stoi_showInt_cases x with ⟨fits, x', read, value⟩ | ⟨large, read⟩
  swap
  · exact .inr ⟨fun all => large all.1.1, by rw [read]; rfl⟩
  rcases stoi_showInt_cases y with ⟨fitsY, y', readY, valueY⟩ | ⟨large, readY⟩
  swap
  · exact .inr ⟨fun all => large all.1.2.1, by rw [read, readY]; rfl⟩
  rcases stoi_showInt_cases width with ⟨fitsW, width', readW, valueW⟩ | ⟨large, readW⟩
  swap
  · exact .inr ⟨fun all => large all.1.2.2.1, by rw [read, readY, readW]; rfl⟩
  rcases stoi_showInt_cases height with ⟨fitsH, height', readH, valueH⟩ | ⟨large, readH⟩
  swap
  · exact .inr ⟨fun all => large all.1.2.2.2, by rw [read, readY, readW, readH]; rfl⟩
  rw [read, readY, readW, readH]
  unfold invalidatedPart
  by_cases writer : docType = .text
  · rw [if_pos writer, if_pos writer]
    exact .inl ⟨⟨⟨fits, fitsY, fitsW, fitsH⟩, .inl writer⟩, x', y', width', height', 0, rfl,
      ⟨value, valueY⟩, ⟨valueW, valueH⟩, rfl⟩
  · rw [if_neg writer, if_neg writer]
    rcases stoi_showInt_cases part with ⟨fitsP, part', readP, valueP⟩ | ⟨large, readP⟩
    · rw [readP]
      exact .inl ⟨⟨⟨fits, fitsY, fitsW, fitsH⟩, .inr fitsP⟩, x', y', width', height', part', rfl,
        ⟨value, valueY⟩, ⟨valueW, valueH⟩, valueP⟩
    · rw [readP]
      exact .inr ⟨fun all => all.2.elim writer large, rfl⟩

/-- The five numbers are read back. -/
theorem parseInvalidateMsg_invalidatetiles (part x y width height : Int32)
    : parseInvalidateMsg (invalidatetiles part x y width height)
      = .ok (part, .ofSize x y width height) := by
  rw [parseInvalidateMsg, readInvalidateMsg_invalidatetiles]
  rfl

/-- A rectangle from the origin to `INT_MAX` covers everything. -/
theorem area_subset_whole (tiles : InvalidatedTiles)
    : tiles.area ⊆ readArea (.ofSize 0 0 Int32.maxValue Int32.maxValue) := by
  intro point inside
  have nonneg : 0 ≤ point.1 ∧ 0 ≤ point.2 := by
    cases tiles with
    | rectangle => exact inside.1
    | empty => exact inside
    | emptyPart => exact inside
  exact ⟨⟨nonneg.1, .inr (by decide)⟩, nonneg.2, .inr (by decide)⟩

/-- The corner of a sum that fits is not moved, and one that does not is below zero. -/
theorem toInt_corner {start size : Int32}
    : (start.toInt + size.toInt < 2 ^ 31 → 0 < start.toInt + size.toInt
        → (start + size).toInt = start.toInt + size.toInt)
      ∧ (2 ^ 31 ≤ start.toInt + size.toInt → (start + size).toInt < 0) := by
  have upper := start.toInt_lt
  have upper' := size.toInt_lt
  constructor
  · intro fits positive
    exact toInt_add_of_bounds (by omega) fits
  · intro large
    rw [Int32.toInt_add, Int.bmod_def]
    omega

/-- The rectangle covers the area if that is empty or its far corner fits. -/
theorem area_subset_iff (x y width height : Int32) (part : Int)
    : (InvalidatedTiles.rectangle x.toInt y.toInt width.toInt height.toInt part).area
          ⊆ readArea (.ofSize x y width height)
        ↔ (
          width.toInt ≤ 0 ∨ height.toInt ≤ 0
          ∨ x.toInt + width.toInt ≤ 0 ∨ y.toInt + height.toInt ≤ 0
        )
        ∨ (x.toInt + width.toInt < 2 ^ 31 ∧ y.toInt + height.toInt < 2 ^ 31) := by
  have right := @toInt_corner x width
  have bottom := @toInt_corner y height
  have largest {edge : Int32} (same : edge = Int32.maxValue) : 0 ≤ edge.toInt := by
    rw [same]
    decide
  constructor
  · intro covered
    by_contra outside
    let corner : Int × Int := (max x.toInt 0, max y.toInt 0)
    have inside : corner
        ∈ (InvalidatedTiles.rectangle x.toInt y.toInt width.toInt height.toInt part).area := by
      refine ⟨⟨?_, ?_⟩, ⟨?_, ?_⟩, ?_, ?_⟩ <;> dsimp only [corner] <;> omega
    obtain ⟨⟨_, columns⟩, _, rows⟩ := covered inside
    dsimp only [corner, Rectangle.ofSize] at columns rows
    have columns' : 0 ≤ (x + width).toInt := by
      rcases columns with below | unbounded
      · omega
      · exact largest unbounded
    have rows' : 0 ≤ (y + height).toInt := by
      rcases rows with below | unbounded
      · omega
      · exact largest unbounded
    omega
  · intro condition point inside
    obtain ⟨⟨_, _⟩, ⟨left, columns⟩, top, rows⟩ := inside
    have fits : x.toInt + width.toInt < 2 ^ 31 ∧ y.toInt + height.toInt < 2 ^ 31 := by
      omega
    have x2 := right.1 fits.1 (by omega)
    have y2 := bottom.1 fits.2 (by omega)
    dsimp only [readArea, Rectangle.ofSize]
    exact ⟨⟨left, .inl (by omega)⟩, top, .inl (by omega)⟩

/-- The message is the only one sent, and read one way. -/
theorem covers_iff_of_message {docType : LibreOfficeKitDocumentType} {tiles : InvalidatedTiles}
    {message : Text} {part : Int32} {rectangle : Rectangle}
    (sent : invalidateMessage docType tiles.payload = some message)
    (read : parseInvalidateMsg message = .ok (part, rectangle))
    : Covers docType tiles ↔ part.toInt = tiles.shown docType ∧ tiles.area ⊆ readArea rectangle := by
  constructor
  · rintro ⟨message', part', rectangle', sent', read', same, covered⟩
    cases sent.symm.trans sent'
    cases read.symm.trans read'
    exact ⟨same, covered⟩
  · rintro ⟨same, covered⟩
    exact ⟨message, part, rectangle, sent, read, same, covered⟩

/-- The rectangle is covered if all its numbers are converted. -/
theorem rectangle_covers_iff (docType : LibreOfficeKitDocumentType)
    (x y width height part : Int)
    : Covers docType (.rectangle x y width height part)
      ↔ Convertible docType (.rectangle x y width height part) := by
  unfold Convertible
  dsimp only
  rcases invalidateMessage_rectangle docType x y width height part with
    ⟨fits, x', y', width', height', part', sent, ⟨rfl, rfl⟩, ⟨rfl, rfl⟩, value⟩ | ⟨large, sent⟩
  · rw [covers_iff_of_message sent (parseInvalidateMsg_invalidatetiles ..), area_subset_iff]
    constructor
    · rintro ⟨_, condition⟩
      exact .inl ⟨fits, condition⟩
    · rintro (⟨_, condition⟩ | ⟨large, _⟩)
      · exact ⟨value, condition⟩
      · exact absurd fits large
  · rw [covers_iff_of_message sent (parseInvalidateMsg_invalidatetiles ..)]
    have shown : (0 : Int32).toInt = InvalidatedTiles.shown docType (.rectangle x y width height part)
        ↔ docType = .text ∨ part = 0 := by
      unfold InvalidatedTiles.shown
      dsimp only
      split
      · next writer => exact ⟨fun _ => .inl writer, fun _ => rfl⟩
      · next other =>
          rw [Int32.toInt_zero]
          constructor
          · intro zero
            exact .inr zero.symm
          · rintro (writer | zero)
            · exact absurd writer other
            · exact zero.symm
    rw [shown]
    constructor
    · rintro ⟨zero, _⟩
      exact .inr ⟨large, zero⟩
    · rintro (⟨fits, _⟩ | ⟨_, zero⟩)
      · exact absurd fits large
      · exact ⟨zero, area_subset_whole _⟩

-----------------------------------------------------------------------------------------
-- Everything
-----------------------------------------------------------------------------------------

/-- Everything in a part is read if the number of the part fits. -/
theorem parseInvalidateMsg_emptyPart (part : Int)
    : (
        IsInt part
        ∧ ∃ part' : Int32,
            part'.toInt = part
            ∧ parseInvalidateMsg ("invalidatetiles: EMPTY, ".toList ++ showInt part)
              = .ok (part', .ofSize 0 0 Int32.maxValue Int32.maxValue)
      )
      ∨ (
        ¬ IsInt part
        ∧ ∃ exception,
            parseInvalidateMsg ("invalidatetiles: EMPTY, ".toList ++ showInt part)
              = .error exception
      ) := by
  have clean := showInt_clean part
  have tokens
      : stringTokenizer ' ' ("invalidatetiles: EMPTY, ".toList ++ showInt part)
        = ["invalidatetiles:".toList, "EMPTY,".toList, showInt part] := by
    have text : "invalidatetiles: EMPTY, ".toList ++ showInt part
        = "invalidatetiles:".toList ++ spaced ' ' ["EMPTY,".toList, showInt part] := by
      simp only [spaced_cons, spaced_nil, List.append_nil]
      rfl
    have name : trim "invalidatetiles:".toList = "invalidatetiles:".toList := by decide
    have empty : trim "EMPTY,".toList = "EMPTY,".toList := by decide
    rw [text, stringTokenizer_spaced]
    · simp only [List.map_cons, List.map_nil, name, empty, clean.2.1]
    · simp only [List.forall_mem_cons, clean.2.1]
      exact ⟨by decide, by decide, ⟨clean.1.2, showInt_ne_nil part⟩, List.forall_mem_nil _⟩
  have read
      : parseInvalidateMsg ("invalidatetiles: EMPTY, ".toList ++ showInt part)
        = (do
            let part ← stringToInteger (showInt part)
            return (part.map (fun part =>
              (part, Rectangle.ofSize 0 0 Int32.maxValue Int32.maxValue))).getD
                (-1, .ofSize 0 0 0 0)) := by
    unfold parseInvalidateMsg readInvalidateMsg
    rw [tokens]
    dsimp only
    rw [if_pos rfl]
    cases stringToInteger (showInt part) <;> rfl
  rw [read]
  unfold stringToInteger
  rcases stoi_showInt_cases part with ⟨fits, part', number, value⟩ | ⟨large, number⟩
  · left
    rw [number]
    exact ⟨fits, part', value, rfl⟩
  · right
    rw [number]
    exact ⟨large, _, rfl⟩

/-- The whole part is covered, if its number is converted. -/
theorem emptyPart_covers_iff (docType : LibreOfficeKitDocumentType) (part : Int)
    : Covers docType (.emptyPart part) ↔ Convertible docType (.emptyPart part) := by
  have sent
      : invalidateMessage docType (InvalidatedTiles.emptyPart part).payload
        = some ("invalidatetiles: EMPTY, ".toList
            ++ showInt ((InvalidatedTiles.emptyPart part).shown docType)) := by
    unfold invalidateMessage InvalidatedTiles.shown
    rw [emptyPart_tokens]
    dsimp only
    rw [if_pos rfl]
    split
    · rfl
    · rfl
  have shown : IsInt ((InvalidatedTiles.emptyPart part).shown docType)
      ↔ docType = .text ∨ IsInt part := by
    unfold InvalidatedTiles.shown
    dsimp only
    split
    · next writer => exact ⟨fun _ => .inl writer, fun _ => by unfold IsInt; decide⟩
    · next other => exact ⟨.inr, fun either => either.resolve_left other⟩
  unfold Convertible
  dsimp only
  rw [← shown]
  rcases parseInvalidateMsg_emptyPart ((InvalidatedTiles.emptyPart part).shown docType) with
    ⟨fits, part', value, read⟩ | ⟨large, exception, read⟩
  · rw [covers_iff_of_message sent read]
    exact ⟨fun _ => fits, fun _ => ⟨value, area_subset_whole _⟩⟩
  · constructor
    · rintro ⟨message, part', rectangle, sent', read', _⟩
      cases sent.symm.trans sent'
      cases read.symm.trans read'
    · intro fits
      exact absurd fits large

/-- Everything is invalidated, in all parts. -/
theorem empty_covers (docType : LibreOfficeKitDocumentType) : Covers docType .empty := by
  refine ⟨"invalidatetiles: ".toList ++ "EMPTY".toList, -1,
    .ofSize 0 0 Int32.maxValue Int32.maxValue, ?_, by decide +kernel,
    show (-1 : Int32).toInt = -1 by decide, area_subset_whole _⟩
  have tokens : stringTokenizer ',' "EMPTY".toList = ["EMPTY".toList] := by decide
  unfold invalidateMessage InvalidatedTiles.payload
  rw [tokens]

/-- The conversion covers what the payload tells, in the same part, exactly if it does not
lose anything.
-/
theorem invalidateMessage_covers_iff (docType : LibreOfficeKitDocumentType)
    (tiles : InvalidatedTiles)
    : Covers docType tiles ↔ Convertible docType tiles := by
  cases tiles with
  | rectangle x y width height part => exact rectangle_covers_iff docType x y width height part
  | empty => exact iff_of_true (empty_covers docType) trivial
  | emptyPart part => exact emptyPart_covers_iff docType part

/-- A width that does not fit an `int` invalidates the first part, not the one of the payload. -/
theorem large_width_moves_part
    : invalidateMessage .spreadsheet (InvalidatedTiles.rectangle 0 0 2147483648 100 3).payload
          = some "invalidatetiles: part=0 x=0 y=0 width=2147483647 height=2147483647".toList
        ∧ ¬ Covers .spreadsheet (.rectangle 0 0 2147483648 100 3) := by
  refine ⟨by decide +kernel, ?_⟩
  rw [rectangle_covers_iff]
  unfold Convertible NumbersFit IsInt
  decide

end NdcOdfWeb.Kit
