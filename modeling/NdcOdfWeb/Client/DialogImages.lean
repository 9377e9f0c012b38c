import NdcOdfWeb.Client.ServerCommands
import NdcOdfWeb.Foundation.MoveToFront
import NdcOdfWeb.Foundation.StepRun

/-! The images of dialogs: the kit keeps the hashes of those that it has sent, the browser
keeps the images, and both forget the one that was not used for the longest time.
-/

namespace NdcOdfWeb.Client

open NdcOdfWeb.Foundation
open NdcOdfWeb.Protocol
open NdcOdfWeb.Tiles

/-- A `paintwindow` request with what was painted for it: the window and the rectangle are
tokens of the request, `png` is what `encodeSubBufferToPNG` gives for the pixmap.
-/
structure WindowPaint where
  windowId : Text
  /-- Empty if the request has none. -/
  paintRectangle : Text
  windowIdToken : LineWord ' ' windowId
  paintRectangleToken : LineWord ' ' paintRectangle
  width : Int32
  height : Int32
  pixmapHash : UInt64
  png : Option Text

/-- The words of the answer behind `windowpaint:`. -/
def WindowPaint.words (paint : WindowPaint) : List Text :=
  [
    word "id" paint.windowId,
    word "width" (showInt paint.width.toInt),
    word "height" (showInt paint.height.toInt)
  ]
    ++ (if paint.paintRectangle = [] then [] else [word "rectangle" paint.paintRectangle])
    ++ [word "hash" (showNat paint.pixmapHash.toNat)]

/-- The answer's text. -/
def WindowPaint.response (paint : WindowPaint) : Text :=
  "windowpaint:".toList ++ spaced ' ' paint.words

/-- What `renderWindow` does with `_pixmapCache`. -/
def usePixmap (cacheSize : Nat) (pixmapCache : List UInt64) (pixmapHash : UInt64)
    : List UInt64 :=
  if pixmapCache.length > 0 then
    -- If it is already the first in the cache, no need to do anything.
    if pixmapCache.head? ≠ some pixmapHash then
      if pixmapHash ∈ pixmapCache then pixmapHash :: pixmapCache.erase pixmapHash
      else if pixmapCache.length = cacheSize then pixmapHash :: pixmapCache.dropLast
      else pixmapHash :: pixmapCache
    else pixmapCache
  else [pixmapHash]

/-- A message to the browser, with the hash and the image that it is about, and the kit's
cache when it is sent.
-/
structure WindowMessage where
  text : Text
  pixmapHash : UInt64
  png : Option Text
  pixmapCache : List UInt64

/-- The kit's side, with all messages that it has sent. -/
structure DialogPainter where
  pixmapCache : List UInt64
  sent : List WindowMessage

/-- Nothing is painted yet. -/
def DialogPainter.start : DialogPainter where
  pixmapCache := []
  sent := []

/-- `renderWindow` behind the painting. -/
def DialogPainter.renderWindow (cacheSize : Nat) (painter : DialogPainter) (paint : WindowPaint)
    : DialogPainter :=
  let doPng := paint.pixmapHash ∉ painter.pixmapCache
  let pixmapCache := usePixmap cacheSize painter.pixmapCache paint.pixmapHash
  let send (text : Text) (png : Option Text) : DialogPainter :=
    { pixmapCache, sent := painter.sent ++ [⟨text, paint.pixmapHash, png, pixmapCache⟩] }
  if doPng then
    match paint.png with
    -- Failed to encode into PNG.
    | none => { painter with pixmapCache }
    | some png => send (paint.response ++ '\n' :: png) png
  else send (paint.response ++ " nopng".toList) none

/-- An element of `_pngCache`. -/
structure PngEntry where
  hash : Option Text
  img : Text

/-- `_pngCache[i].hash == command.hash`. -/
def PngEntry.has (hash : Option Text) (entry : PngEntry) : Bool :=
  entry.hash = hash

/-- `_onDialogPaintMsg`. -/
def onDialogPaintMsg (cacheSize : Nat) (pngCache : List PngEntry) (textMsg img : Text)
    : List PngEntry :=
  let hash := commandText "hash" textMsg
  let dropLast (kept : List PngEntry) : List PngEntry :=
    -- If cache is max size, drop the last element.
    if kept.length = cacheSize then kept.dropLast else kept
  match pngCache.find? (PngEntry.has hash) with
  | some entry => ⟨hash, entry.img⟩ :: dropLast (pngCache.eraseP (PngEntry.has hash))
  | none => ⟨hash, img⟩ :: dropLast pngCache

/-- `_onMessage`: the image is what stands behind the first line. -/
def onMessage (cacheSize : Nat) (pngCache : List PngEntry) (data : Text) : List PngEntry :=
  let textMsg := getFirstLine data
  onDialogPaintMsg cacheSize pngCache textMsg (data.drop (textMsg.length + 1))

/-- The browser's cache when it has handled some messages. -/
def pngCacheAfter (cacheSize : Nat) (handled : List WindowMessage) : List PngEntry :=
  handled.foldl (fun pngCache message => onMessage cacheSize pngCache message.text) []

/-- The image that was sent last for a hash. -/
def imageSent (pixmapHash : UInt64) (messages : List WindowMessage) : Option Text :=
  (messages.filterMap (fun message =>
    if message.pixmapHash = pixmapHash then message.png else none)).getLast?

/-- A hash as it is written into a message. -/
def hashText (pixmapHash : UInt64) : Option Text :=
  some (showNat pixmapHash.toNat)

/-- The browser handles a message: what it should show without a PNG is in its cache, and
then its cache has the hashes of the kit's.
-/
structure Agrees (cacheSize : Nat) (handled : List WindowMessage) (message : WindowMessage)
    : Prop where
  image
    : message.png = none
      → ∃ img,
          imageSent message.pixmapHash handled = some img
          ∧ ⟨hashText message.pixmapHash, img⟩ ∈ pngCacheAfter cacheSize handled
  hashes
    : (pngCacheAfter cacheSize (handled ++ [message])).map PngEntry.hash
      = message.pixmapCache.map hashText
  bounded : Bounded cacheSize message.pixmapCache

/-- However many of the messages have been delivered, all was well. -/
def DialogPainter.Agreement (cacheSize : Nat) (painter : DialogPainter) : Prop :=
  ∀ handled message later,
    painter.sent = handled ++ message :: later → Agrees cacheSize handled message

/-- When all messages are delivered, both caches have the same hashes. -/
def DialogPainter.InStep (cacheSize : Nat) (painter : DialogPainter) : Prop :=
  (pngCacheAfter cacheSize painter.sent).map PngEntry.hash = painter.pixmapCache.map hashText

/-- The painted window is in the kit's cache, or its PNG encoding succeeds. -/
def Encodes (painter : DialogPainter) (paint : WindowPaint) : Prop :=
  paint.pixmapHash ∈ painter.pixmapCache ∨ paint.png ≠ none

-----------------------------------------------------------------------------------------
-- Messages
-----------------------------------------------------------------------------------------

/-- Written hashes differ if the hashes do. -/
theorem hashText_injective : Function.Injective hashText := by
  intro left right same
  exact UInt64.toNat_inj.mp (showNat_inj (Option.some.inj same))

/-- The words of an answer hold no blank and no line end. -/
theorem WindowPaint.words_lineWord (paint : WindowPaint)
    : ∀ text ∈ paint.words, LineWord ' ' text := by
  have rectangle : ∀ text ∈ (if paint.paintRectangle = [] then []
      else [word "rectangle" paint.paintRectangle]), LineWord ' ' text := by
    intro text member
    split at member
    · cases member
    · rw [List.mem_singleton.mp member]
      exact word_lineWord (by decide) paint.paintRectangleToken
  intro text member
  simp only [WindowPaint.words, List.mem_append, List.mem_cons, List.not_mem_nil, or_false]
    at member
  rcases member with ((rfl | rfl | rfl) | inRectangle) | rfl
  · exact word_lineWord (by decide) paint.windowIdToken
  · exact word_lineWord (by decide) (showInt_lineWord _)
  · exact word_lineWord (by decide) (showInt_lineWord _)
  · exact rectangle text inRectangle
  · exact word_lineWord (by decide) (showNat_lineWord _)

/-- The hash is the only field of its name. -/
theorem WindowPaint.words_hash (paint : WindowPaint)
    : paint.words.filterMap (fieldText "hash") = [showNat paint.pixmapHash.toNat] := by
  have clean : '=' ∉ "hash".toList := by decide
  have id (value : Text) : fieldText "hash" (word "id" value) = none := by
    rw [fieldText_word clean (by decide), if_neg (by decide)]
  have width (value : Text) : fieldText "hash" (word "width" value) = none := by
    rw [fieldText_word clean (by decide), if_neg (by decide)]
  have height (value : Text) : fieldText "hash" (word "height" value) = none := by
    rw [fieldText_word clean (by decide), if_neg (by decide)]
  have rectangle (value : Text) : fieldText "hash" (word "rectangle" value) = none := by
    rw [fieldText_word clean (by decide), if_neg (by decide)]
  have hash (value : Text) : fieldText "hash" (word "hash" value) = some value := by
    rw [fieldText_word clean clean, if_pos rfl]
  unfold WindowPaint.words
  generalize showNat paint.pixmapHash.toNat = value
  split
  · simp [id, width, height, hash]
  · simp [id, width, height, rectangle, hash]

/-- The client reads the hash back from the words. -/
theorem commandText_words (paint : WindowPaint) {more : List Text}
    (moreClean : ∀ text ∈ more, LineWord ' ' text ∧ '=' ∉ text)
    : commandText "hash" ("windowpaint:".toList ++ spaced ' ' (paint.words ++ more))
      = hashText paint.pixmapHash := by
  have clean : ∀ text ∈ paint.words ++ more, LineWord ' ' text := by
    intro text member
    rcases List.mem_append.mp member with own | later
    · exact paint.words_lineWord text own
    · exact (moreClean text later).1
  have nonempty : ∀ texts : List Text,
      (texts.filter (· ≠ [])).filterMap (fieldText "hash")
        = texts.filterMap (fieldText "hash") := by
    intro texts
    induction texts with
    | nil => rfl
    | cons text texts ih =>
        by_cases empty : text = []
        · rw [List.filter_cons_of_neg (by simpa using empty), ih, List.filterMap_cons, empty,
            fieldText_plain List.not_mem_nil]
        · rw [List.filter_cons_of_pos (by simpa using empty), List.filterMap_cons, ih,
            List.filterMap_cons]
  have later : more.filterMap (fieldText "hash") = [] := by
    rw [List.filterMap_eq_nil_iff]
    exact fun text member => fieldText_plain (moreClean text member).2
  have head : fieldText "hash" "windowpaint:".toList = none := fieldText_plain (by decide)
  rw [commandText, splitWords_spaced (by decide) clean, nonempty,
    List.filterMap_cons_none head, List.filterMap_append, paint.words_hash, later,
    List.append_nil, List.getLast?_singleton, hashText]

/-- The answer is one line. -/
theorem WindowPaint.response_line (paint : WindowPaint) : '\n' ∉ paint.response := by
  have head : '\n' ∉ "windowpaint:".toList := by decide
  have words : '\n' ∉ spaced ' ' paint.words :=
    not_mem_spaced (by decide) (fun text member => (paint.words_lineWord text member).2)
  intro member
  rcases List.mem_append.mp member with inHead | inWords
  · exact head inHead
  · exact words inWords

/-- A message with a PNG is split at the end of its first line. -/
theorem onMessage_png (cacheSize : Nat) (pngCache : List PngEntry) {line : Text}
    (clean : '\n' ∉ line) (png : Text)
    : onMessage cacheSize pngCache (line ++ '\n' :: png)
      = onDialogPaintMsg cacheSize pngCache line png := by
  have image : (line ++ '\n' :: png).drop (line.length + 1) = png := by
    have front : line.length + 1 = (line ++ ['\n']).length := by simp
    have text : line ++ '\n' :: png = (line ++ ['\n']) ++ png := by simp
    rw [text, front, List.drop_left]
  rw [onMessage, getFirstLine_append clean, image]

/-- A message of one line has no PNG. -/
theorem onMessage_line (cacheSize : Nat) (pngCache : List PngEntry) {line : Text}
    (clean : '\n' ∉ line)
    : onMessage cacheSize pngCache line = onDialogPaintMsg cacheSize pngCache line [] := by
  have whole : getFirstLine line = line := by
    rw [getFirstLine, List.takeWhile_eq_self_iff]
    intro c member
    simp only [bne_iff_ne, ne_eq]
    intro same
    exact clean (same ▸ member)
  have nothing : line.drop (line.length + 1) = [] := List.drop_of_length_le (by omega)
  rw [onMessage, whole, nothing]

/-- The hash of an answer is read back. -/
theorem WindowPaint.response_hash (paint : WindowPaint)
    : commandText "hash" paint.response = hashText paint.pixmapHash := by
  have read := commandText_words paint (List.forall_mem_nil _)
  rwa [List.append_nil] at read

/-- The word that stands for no image. -/
theorem spaced_nopng : spaced ' ' ["nopng".toList] = " nopng".toList := by
  decide

/-- The word `nopng` does not hide the hash. -/
theorem WindowPaint.nopng_hash (paint : WindowPaint)
    : commandText "hash" (paint.response ++ " nopng".toList) = hashText paint.pixmapHash := by
  have word : ∀ text ∈ ["nopng".toList], LineWord ' ' text ∧ '=' ∉ text := by
    decide
  have read := commandText_words paint word
  rwa [spaced_append, ← List.append_assoc, spaced_nopng] at read

/-- An answer without an image is one line. -/
theorem WindowPaint.nopng_line (paint : WindowPaint)
    : '\n' ∉ paint.response ++ " nopng".toList := by
  have word : '\n' ∉ " nopng".toList := by decide
  intro member
  rcases List.mem_append.mp member with inResponse | inWord
  · exact paint.response_line inResponse
  · exact word inWord

-----------------------------------------------------------------------------------------
-- One message
-----------------------------------------------------------------------------------------

/-- The kit's cache is moved to the front. -/
theorem usePixmap_eq (cacheSize : Nat) (pixmapCache : List UInt64) (pixmapHash : UInt64)
    : usePixmap cacheSize pixmapCache pixmapHash
      = moveToFront cacheSize pixmapCache pixmapHash := by
  cases pixmapCache with
  | nil =>
      rw [moveToFront_of_not_mem List.not_mem_nil, List.dropLast_nil, ite_self]
      rfl
  | cons first rest =>
      rw [usePixmap, if_pos (by simp), List.head?_cons, moveToFront]
      by_cases same : first = pixmapHash
      · rw [if_neg (by simpa using same), if_pos (by simp [same]), eraseP_eq_erase, same,
          List.erase_cons_head]
      · rw [if_pos (by simpa using same), eraseP_eq_erase]

/-- To erase an image is to erase its hash. -/
theorem map_hash_eraseP (hash : Option Text) (pngCache : List PngEntry)
    : (pngCache.map PngEntry.hash).eraseP (· = hash)
      = (pngCache.eraseP (PngEntry.has hash)).map PngEntry.hash := by
  rw [List.eraseP_map]
  rfl

/-- An image is not found if and only if its hash is not in the cache. -/
theorem find?_has {hash : Option Text} {pngCache : List PngEntry}
    : pngCache.find? (PngEntry.has hash) = none ↔ hash ∉ pngCache.map PngEntry.hash := by
  simp [PngEntry.has]

/-- The browser's cache is moved to the front. -/
theorem map_hash_onDialogPaintMsg {cacheSize : Nat} {pngCache : List PngEntry}
    (length_le : pngCache.length ≤ cacheSize) (textMsg img : Text)
    : (onDialogPaintMsg cacheSize pngCache textMsg img).map PngEntry.hash
      = moveToFront cacheSize (pngCache.map PngEntry.hash) (commandText "hash" textMsg) := by
  unfold onDialogPaintMsg
  generalize commandText "hash" textMsg = hash
  dsimp only
  cases found : pngCache.find? (PngEntry.has hash) with
  | none =>
      dsimp only
      rw [moveToFront_of_not_mem (find?_has.mp found), List.length_map, List.map_cons,
        apply_ite (List.map PngEntry.hash), List.map_dropLast]
  | some entry =>
      have member : hash ∈ pngCache.map PngEntry.hash := by
        by_contra absent
        rw [find?_has.mpr absent] at found
        cases found
      have shorter := List.length_eraseP_of_mem (List.mem_of_find?_eq_some found)
        (List.find?_some found)
      have nonempty := List.length_pos_of_mem (List.mem_of_find?_eq_some found)
      dsimp only
      rw [moveToFront_of_mem member, map_hash_eraseP, if_neg (by omega), List.map_cons]

/-- Every image was there before, unless it is that of the message, with a new hash. -/
theorem mem_onDialogPaintMsg {cacheSize : Nat} {pngCache : List PngEntry} {textMsg img : Text}
    {entry : PngEntry} (member : entry ∈ onDialogPaintMsg cacheSize pngCache textMsg img)
    : entry ∈ pngCache
      ∨ entry = ⟨commandText "hash" textMsg, img⟩
        ∧ commandText "hash" textMsg ∉ pngCache.map PngEntry.hash := by
  have kept : ∀ entries : List PngEntry,
      entry ∈ (if entries.length = cacheSize then entries.dropLast else entries)
      → entry ∈ entries := by
    intro entries inside
    split at inside
    · exact List.dropLast_subset entries inside
    · exact inside
  unfold onDialogPaintMsg at member
  generalize commandText "hash" textMsg = hash at member ⊢
  cases found : pngCache.find? (PngEntry.has hash) with
  | none =>
      simp only [found] at member
      rcases List.mem_cons.mp member with new | old
      · exact Or.inr ⟨new, find?_has.mp found⟩
      · exact Or.inl (kept pngCache old)
  | some first =>
      simp only [found] at member
      left
      rcases List.mem_cons.mp member with moved | old
      · have same : first.hash = hash := by simpa [PngEntry.has] using List.find?_some found
        rw [moved, ← same]
        exact List.mem_of_find?_eq_some found
      · exact List.mem_of_mem_eraseP (kept _ old)

/-- The cache of the client behind one more message. -/
theorem pngCacheAfter_append (cacheSize : Nat) (handled : List WindowMessage)
    (message : WindowMessage)
    : pngCacheAfter cacheSize (handled ++ [message])
      = onMessage cacheSize (pngCacheAfter cacheSize handled) message.text := by
  rw [pngCacheAfter, List.foldl_append]
  rfl

/-- The last image of a hash, behind one more message. -/
theorem imageSent_append (pixmapHash : UInt64) (messages : List WindowMessage)
    (message : WindowMessage)
    : imageSent pixmapHash (messages ++ [message])
      = if message.pixmapHash = pixmapHash then message.png.or (imageSent pixmapHash messages)
        else imageSent pixmapHash messages := by
  unfold imageSent
  rw [List.filterMap_append, List.getLast?_append]
  by_cases same : message.pixmapHash = pixmapHash
  · cases png : message.png with
    | none => simp [same, png]
    | some image => simp [same, png]
  · simp [same]

-----------------------------------------------------------------------------------------
-- Runs
-----------------------------------------------------------------------------------------

/-- A request comes; the messages are delivered in order, however late. -/
def DialogPainter.step (cacheSize : Nat) (painter : DialogPainter) (paint : WindowPaint)
    : Option DialogPainter :=
  some (painter.renderWindow cacheSize paint)

/-- Every image that the browser has is the last one that was sent for its hash, and with
all messages delivered it has the images that the kit takes it to have.
-/
structure DialogPainter.Tracks (cacheSize : Nat) (painter : DialogPainter) : Prop where
  bounded : Bounded cacheSize painter.pixmapCache
  inStep : painter.InStep cacheSize
  images
    : ∀ entry ∈ pngCacheAfter cacheSize painter.sent,
        ∃ pixmapHash,
          entry.hash = hashText pixmapHash
          ∧ imageSent pixmapHash painter.sent = some entry.img
  agreement : painter.Agreement cacheSize

/-- At first, both caches are empty. -/
theorem DialogPainter.Tracks.start (cacheSize : Nat)
    : DialogPainter.start.Tracks cacheSize where
  bounded := ⟨List.nodup_nil, Nat.zero_le _⟩
  inStep := rfl
  images := by
    intro entry member
    cases member
  agreement := by
    intro handled message later split
    exact absurd split.symm (by simp [DialogPainter.start])

/-- The cache of the client is as short as that of the kit. -/
theorem DialogPainter.Tracks.length_le {cacheSize : Nat} {painter : DialogPainter}
    (tracks : painter.Tracks cacheSize)
    : (pngCacheAfter cacheSize painter.sent).length ≤ cacheSize := by
  have lengths := congrArg List.length tracks.inStep
  rw [List.length_map, List.length_map] at lengths
  rw [lengths]
  exact tracks.bounded.length_le

/-- The browser has an image exactly for the hashes in the kit's cache. -/
theorem DialogPainter.InStep.mem_iff {cacheSize : Nat} {painter : DialogPainter}
    (inStep : painter.InStep cacheSize) (pixmapHash : UInt64)
    : hashText pixmapHash ∈ (pngCacheAfter cacheSize painter.sent).map PngEntry.hash
      ↔ pixmapHash ∈ painter.pixmapCache := by
  rw [inStep, List.mem_map_of_injective hashText_injective]

/-- A message that carries the image if and only if the kit's cache does not have it. -/
theorem DialogPainter.Tracks.send {cacheSize : Nat} {painter : DialogPainter}
    (positive : 0 < cacheSize) (tracks : painter.Tracks cacheSize) {message : WindowMessage}
    {textMsg img : Text}
    (handles
      : ∀ pngCache,
          onMessage cacheSize pngCache message.text
            = onDialogPaintMsg cacheSize pngCache textMsg img)
    (hash : commandText "hash" textMsg = hashText message.pixmapHash)
    (carries
      : if message.pixmapHash ∈ painter.pixmapCache then message.png = none
        else message.png = some img)
    (cache : message.pixmapCache = usePixmap cacheSize painter.pixmapCache message.pixmapHash)
    : DialogPainter.Tracks cacheSize ⟨message.pixmapCache, painter.sent ++ [message]⟩ := by
  have known := tracks.inStep.mem_iff message.pixmapHash
  have bounded : Bounded cacheSize message.pixmapCache := by
    rw [cache, usePixmap_eq]
    exact tracks.bounded.moveToFront positive _
  have inStep : (pngCacheAfter cacheSize (painter.sent ++ [message])).map PngEntry.hash
      = message.pixmapCache.map hashText := by
    rw [pngCacheAfter_append, handles, map_hash_onDialogPaintMsg tracks.length_le, hash,
      tracks.inStep, cache, usePixmap_eq, moveToFront_map hashText_injective]
  refine ⟨bounded, inStep, ?_, ?_⟩
  · intro entry member
    dsimp only at member ⊢
    rw [pngCacheAfter_append, handles] at member
    rcases mem_onDialogPaintMsg member with old | ⟨new, unknown⟩
    · obtain ⟨pixmapHash, same, sent⟩ := tracks.images entry old
      refine ⟨pixmapHash, same, ?_⟩
      rw [imageSent_append]
      split
      · next own =>
          -- The kit has this hash in its cache, so the message has no image.
          have inCache : message.pixmapHash ∈ painter.pixmapCache := by
            rw [← known, own, ← same]
            exact List.mem_map_of_mem old
          rw [if_pos inCache] at carries
          rw [carries, Option.none_or, sent]
      · exact sent
    · rw [hash] at new unknown
      rw [known] at unknown
      rw [if_neg unknown] at carries
      refine ⟨message.pixmapHash, congrArg PngEntry.hash new, ?_⟩
      rw [imageSent_append, if_pos rfl, carries, Option.some_or, new]
  · intro handled other later split
    rcases List.eq_nil_or_concat later with rfl | ⟨front, last, rfl⟩
    · obtain ⟨rfl, same⟩ := List.append_inj' split rfl
      obtain rfl : message = other := by simpa using same
      refine ⟨?_, inStep, bounded⟩
      intro noPng
      have inCache : message.pixmapHash ∈ painter.pixmapCache := by
        by_contra absent
        rw [if_neg absent, noPng] at carries
        cases carries
      obtain ⟨entry, member, own⟩ := List.mem_map.mp (known.mpr inCache)
      obtain ⟨pixmapHash, same, sent⟩ := tracks.images entry member
      obtain rfl : message.pixmapHash = pixmapHash := hashText_injective (own.symm.trans same)
      refine ⟨entry.img, sent, ?_⟩
      rw [← own]
      exact member
    · have before : painter.sent = handled ++ other :: front := by
        have parts : painter.sent ++ [message] = (handled ++ other :: front) ++ [last] := by
          simpa using split
        exact (List.append_inj' parts rfl).1
      exact tracks.agreement handled other front before

/-- A painted window, by whether its image is in the cache of the kit. -/
theorem DialogPainter.Tracks.renderWindow {cacheSize : Nat} {painter : DialogPainter}
    (positive : 0 < cacheSize) (tracks : painter.Tracks cacheSize) {paint : WindowPaint}
    (encodes : Encodes painter paint)
    : (painter.renderWindow cacheSize paint).Tracks cacheSize := by
  unfold DialogPainter.renderWindow
  dsimp only
  by_cases found : paint.pixmapHash ∈ painter.pixmapCache
  · rw [if_neg (not_not_intro found)]
    refine @DialogPainter.Tracks.send cacheSize painter positive tracks ⟨_, _, _, _⟩ _ _
      (fun pngCache => onMessage_line cacheSize pngCache paint.nopng_line) paint.nopng_hash
      ?_ rfl
    rw [if_pos found]
  · rw [if_pos found]
    cases encoded : paint.png with
    | none => exact (encodes.resolve_left found encoded).elim
    | some png =>
        refine @DialogPainter.Tracks.send cacheSize painter positive tracks ⟨_, _, _, _⟩ _ _
          (fun pngCache => onMessage_png cacheSize pngCache paint.response_line png)
          paint.response_hash ?_ rfl
        rw [if_neg found]

/-- When the encoding of a new pixmap fails, the kit's cache has a hash that the browser will
not hear of.
-/
theorem DialogPainter.InStep.encodes {cacheSize : Nat} {painter : DialogPainter}
    (inStep : painter.InStep cacheSize) {paint : WindowPaint}
    (after : (painter.renderWindow cacheSize paint).InStep cacheSize)
    : Encodes painter paint := by
  by_contra fails
  obtain ⟨unknown, noPng⟩ := not_or.mp fails
  rw [not_not] at noPng
  unfold DialogPainter.renderWindow at after
  simp only [if_pos unknown, noPng] at after
  have known : paint.pixmapHash ∈ usePixmap cacheSize painter.pixmapCache paint.pixmapHash := by
    rw [usePixmap_eq]
    exact mem_moveToFront cacheSize painter.pixmapCache paint.pixmapHash
  exact unknown ((inStep.mem_iff paint.pixmapHash).mp ((after.mem_iff paint.pixmapHash).mpr known))

/-- In a run in which no encoding fails, the browser always has the image that it should show,
and its cache has the hashes that the kit's had. The caches stay in step exactly in these runs.
-/
theorem dialogCaches_agree {cacheSize : Nat} (positive : 0 < cacheSize)
    {paints : List WindowPaint} {final : DialogPainter}
    (ran : stepRun (DialogPainter.step cacheSize) .start paints = some final)
    : (AllSteps (DialogPainter.step cacheSize) Encodes .start paints
        → AllStates (DialogPainter.step cacheSize) (·.Agreement cacheSize) .start paints)
      ∧ (AllStates (DialogPainter.step cacheSize) (·.InStep cacheSize) .start paints
        ↔ AllSteps (DialogPainter.step cacheSize) Encodes .start paints) := by
  have keeps : ∀ painter paint next, painter.Tracks cacheSize → Encodes painter paint
      → painter.step cacheSize paint = some next → next.Tracks cacheSize := by
    intro painter paint next tracks encodes step
    obtain rfl := Option.some.inj step
    exact tracks.renderWindow positive encodes
  have start := DialogPainter.Tracks.start cacheSize
  constructor
  · intro all done rest reached split reaches
    exact (allStates_of_meets keeps start all done rest reached split reaches).agreement
  · apply allStates_iff_allSteps keeps
    · exact fun painter tracks => tracks.inStep
    · intro painter paint next tracks step inStep
      obtain rfl := Option.some.inj step
      exact tracks.inStep.encodes inStep
    · exact start
    · exact ran

/-- A window with a pixmap of this hash. -/
def windowPaint (pixmapHash : UInt64) (png : Option Text) : WindowPaint where
  windowId := "1".toList
  paintRectangle := []
  windowIdToken := by decide
  paintRectangleToken := by decide
  width := 800
  height := 600
  pixmapHash
  png

/-- A window is painted twice, with one image. -/
theorem dialogCaches_agree_twice
    : (AllSteps (DialogPainter.step 100) Encodes .start
          [windowPaint 7 "PNG".toList, windowPaint 7 none]
        → AllStates (DialogPainter.step 100) (·.Agreement 100) .start
            [windowPaint 7 "PNG".toList, windowPaint 7 none])
      ∧ (AllStates (DialogPainter.step 100) (·.InStep 100) .start
            [windowPaint 7 "PNG".toList, windowPaint 7 none]
        ↔ AllSteps (DialogPainter.step 100) Encodes .start
            [windowPaint 7 "PNG".toList, windowPaint 7 none]) :=
  dialogCaches_agree (by decide) rfl

/-- The encoding of a new pixmap fails, and the window is painted again: the kit answers
`nopng`, although no image was sent.
-/
theorem failedPng_not_shown
    : ∃ final,
        stepRun (DialogPainter.step 100) .start [windowPaint 7 none, windowPaint 7 none]
          = some final
        ∧ ¬ final.Agreement 100 := by
  refine ⟨_, rfl, ?_⟩
  intro agreement
  obtain ⟨img, sent, -⟩ := (agreement [] _ [] rfl).image rfl
  cases sent

end NdcOdfWeb.Client
