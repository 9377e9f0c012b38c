import Mathlib.Data.List.TakeWhile
import NdcOdfWeb.Foundation.FrameReader
import NdcOdfWeb.Net.ChunkedRequests

/-! Chunked requests that are not complete yet. -/

namespace NdcOdfWeb.Net

open NdcOdfWeb.Foundation

/-- The chunk loop arrives at a chunk that ends at most two bytes behind the buffer, or whose
line end is cut in two.
-/
inductive CutShort : List UInt8 → Prop where
  | data {rest} (some' : rest ≠ []) (positive : (sizeLine rest).1 ≠ 0)
    (cut : (sizeLine rest).2.length ≤ (sizeLine rest).1)
    (near : (sizeLine rest).1 ≤ (sizeLine rest).2.length + 2)
    : CutShort rest
  | lineEnd {rest block} (some' : rest ≠ []) (positive : (sizeLine rest).1 ≠ 0)
    (size : block.length = (sizeLine rest).1) (cut : (sizeLine rest).2 = block ++ [0x0d])
    : CutShort rest
  | behind {rest block after} (some' : rest ≠ []) (positive : (sizeLine rest).1 ≠ 0)
    (size : block.length = (sizeLine rest).1) (whole : (sizeLine rest).2 = block ++ (crlf ++ after))
    (later : CutShort after)
    : CutShort rest

-----------------------------------------------------------------------------------------
-- Reading behind the buffer
-----------------------------------------------------------------------------------------

/-- The chunk's data is not all there. -/
theorem skipChunk_short {data : List UInt8} {chunkLen : Nat} (short : data.length ≤ chunkLen)
    : skipChunk data chunkLen = none := by
  rw [skipChunk, List.drop_eq_nil_of_le short]

/-- The line's end is cut in half. -/
theorem skipChunk_return (block : List UInt8)
    : skipChunk (block ++ [0x0d]) block.length = none := by
  rw [skipChunk, List.drop_left]
  rfl

/-- The data and its line's end are skipped. -/
theorem skipChunk_whole (block after : List UInt8)
    : skipChunk (block ++ (crlf ++ after)) block.length = some (some after) := by
  rw [skipChunk, List.drop_left]
  rfl

/-- Behind a whole chunk follow at least two bytes, or a byte that ends no line. -/
theorem skipChunk_cases (data : List UInt8) (chunkLen : Nat)
    : data.length ≤ chunkLen
      ∨ (∃ block, block.length = chunkLen ∧ data = block ++ [0x0d])
      ∨ skipChunk data chunkLen = some none
      ∨ ∃ block after, block.length = chunkLen ∧ data = block ++ (crlf ++ after) := by
  by_cases short : data.length ≤ chunkLen
  · exact .inl short
  · right
    have size : (data.take chunkLen).length = chunkLen := by
      rw [List.length_take]
      omega
    have split : data = data.take chunkLen ++ data.drop chunkLen :=
      (List.take_append_drop chunkLen data).symm
    cases skipped : skipChunk data chunkLen with
    | none =>
        left
        refine ⟨data.take chunkLen, size, ?_⟩
        unfold skipChunk at skipped
        split at skipped
        · next behind => exact absurd (List.drop_eq_nil_iff.mp behind) short
        · next first after behind =>
            split at skipped
            · cases skipped
            · next return' =>
                split at skipped
                · rw [not_not.mp return'] at behind
                  rw [← behind, ← split]
                · split at skipped <;> cases skipped
    | some result =>
        right
        cases result with
        | none => exact .inl rfl
        | some after =>
            refine .inr ⟨data.take chunkLen, after, size, ?_⟩
            have behind := eq_of_skipChunk skipped
            rw [show crlf ++ after = 0x0d :: 0x0a :: after from rfl, ← behind]
            exact split

/-- A chunk that may be there is skipped. -/
theorem chunkLoop_skips (size : Nat) (map : MessageMap) {rest : List UInt8} (some' : rest ≠ [])
    (positive : (sizeLine rest).1 ≠ 0)
    (near : (sizeLine rest).1 ≤ (sizeLine rest).2.length + 2)
    : ∃ next : MessageMap,
        chunkLoop size (some map) rest
        = (skipChunk (sizeLine rest).2 (sizeLine rest).1).bind fun after =>
            match after with
            | none => some (false, some next)
            | some after => chunkLoop size (some next) after := by
  refine ⟨{ map with
    spans := map.spans ++ [(size - (sizeLine rest).2.length, (sizeLine rest).1)] }, ?_⟩
  rw [chunkLoop_eq size map some']
  simp only
  rewrite [if_neg positive, if_neg (by omega)]
  rfl

/-- The loop reads behind the buffer if a chunk is cut short. -/
theorem CutShort.chunkLoop_eq_none {rest : List UInt8} (cut : CutShort rest) (size : Nat)
    (map : MessageMap)
    : chunkLoop size (some map) rest = none := by
  induction cut generalizing map with
  | data some' positive cut near =>
      obtain ⟨next, skips⟩ := chunkLoop_skips size map some' positive near
      rw [skips, skipChunk_short cut]
      rfl
  | @lineEnd rest block some' positive length cut =>
      have near : (sizeLine rest).1 ≤ (sizeLine rest).2.length + 2 := by
        rw [cut, List.length_append]
        omega
      obtain ⟨next, skips⟩ := chunkLoop_skips size map some' positive near
      rw [skips, cut, ← length, skipChunk_return]
      rfl
  | @behind rest block after some' positive length whole later ih =>
      have near : (sizeLine rest).1 ≤ (sizeLine rest).2.length + 2 := by
        rw [whole, List.length_append]
        omega
      obtain ⟨next, skips⟩ := chunkLoop_skips size map some' positive near
      rw [skips, whole, ← length, skipChunk_whole]
      exact ih next

/-- The loop reads behind the buffer only if a chunk is cut short. -/
theorem cutShort_of_chunkLoop {size : Nat} {map : MessageMap} {rest : List UInt8}
    (failed : chunkLoop size (some map) rest = none)
    : CutShort rest := by
  induction length : rest.length using Nat.strongRecOn generalizing rest map with
  | ind n ih =>
      subst length
      have some' : rest ≠ [] := by
        rintro rfl
        rw [chunkLoop, if_pos rfl] at failed
        cases failed
      have loop := failed
      rw [chunkLoop_eq size map some'] at loop
      simp only at loop
      split at loop
      · cases loop
      · next positive =>
          split at loop
          · cases loop
          · next far =>
              have near : (sizeLine rest).1 ≤ (sizeLine rest).2.length + 2 :=
                Nat.le_of_not_lt far
              obtain ⟨next, skips⟩ := chunkLoop_skips size map some'
                positive near
              rw [failed] at skips
              rcases skipChunk_cases (sizeLine rest).2 (sizeLine rest).1 with
                short | ⟨block, size, cut⟩ | missing | ⟨block, after, size, whole⟩
              · exact .data some' positive short near
              · exact .lineEnd some' positive size cut
              · rw [missing] at skips
                cases skips
              · have shorter := length_sizeLine_le rest
                rw [whole] at shorter
                rw [whole, ← size, skipChunk_whole, Option.bind_some] at skips
                refine .behind some' positive size whole (ih after.length ?_ skips.symm rfl)
                simp only [List.length_append, crlf, List.length_cons, List.length_nil] at shorter
                omega

-----------------------------------------------------------------------------------------
-- Requests that are cut
-----------------------------------------------------------------------------------------

/-- What is there of the chunk that the cut falls into: what is left without the chunks that
are there whole.
-/
def openChunk : List Chunk → List UInt8 → List UInt8
  | [], part => part
  | chunk :: chunks, part =>
      if chunk.bytes.isPrefixOf part then openChunk chunks (part.drop chunk.bytes.length)
      else part

/-- Nothing of a chunk is there, or more than two bytes of its data are missing. -/
def WaitsForChunk (piece : List UInt8) : Prop :=
  piece = [] ∨ (sizeLine piece).2.length + 2 < (sizeLine piece).1

/-- By induction on the bytes. -/
theorem mem_of_readHex {value : Nat} {bytes : List UInt8} {c : UInt8}
    (member : c ∈ (readHex value bytes).2)
    : c ∈ bytes := by
  induction bytes generalizing value with
  | nil => exact member
  | cons first rest ih =>
      rw [readHex] at member
      split at member
      · exact List.mem_cons_of_mem first (ih member)
      · exact member

/-- Without a line end nothing stands behind the line. -/
theorem sizeLine_open {piece : List UInt8} (noLine : 0x0a ∉ piece)
    : (sizeLine piece).2 = [] := by
  have all : ∀ c ∈ (readHex 0 (piece.dropWhile isSpaceByte)).2, (c != 0x0a) = true := by
    intro c member
    have inPiece := (List.dropWhile_sublist isSpaceByte).subset (mem_of_readHex member)
    exact bne_iff_ne.mpr fun same => noLine (same ▸ inPiece)
  rw [sizeLine]
  simp only
  rw [List.dropWhile_eq_nil_iff.mpr all]
  rfl

/-- What is in front of the end of a size line has no line end in it. -/
theorem Chunk.line_open {chunk : Chunk} {piece left : List UInt8} (some' : left ≠ [])
    (line : piece ++ left = chunk.line ++ crlf)
    : 0x0a ∉ piece := by
  have front : piece ++ left.dropLast = chunk.line ++ [0x0d] := by
    have cut := congrArg List.dropLast line
    have ends : crlf ≠ [] := List.cons_ne_nil _ _
    rwa [List.dropLast_append_of_ne_nil some', List.dropLast_append_of_ne_nil ends] at cut
  intro member
  have inLine : 0x0a ∈ chunk.line ++ [0x0d] := front ▸ List.mem_append_left _ member
  rcases List.mem_append.mp inLine with digit | return'
  · have isDigit := chunk.digits 0x0a digit
    revert isDigit
    decide
  · revert return'
    decide

/-- A part of a chunk has no line yet, or its whole line and a part of what follows. -/
theorem Chunk.part_cases {chunk : Chunk} {piece missing : List UInt8} (cut : missing ≠ [])
    (whole : piece ++ missing = chunk.bytes)
    : (sizeLine piece).2 = []
      ∨ ∃ data,
          sizeLine piece = (chunk.data.length, data)
          ∧ (data.length ≤ chunk.data.length ∨ data = chunk.data ++ [0x0d]) := by
  have bytes := chunk.bytes_append []
  rw [List.append_nil, List.append_nil, ← List.append_assoc chunk.line] at bytes
  rw [bytes] at whole
  rcases FrameReader.append_eq_cases whole with ⟨data, rfl, behind⟩ | ⟨left, some', line⟩
  · right
    refine ⟨data, by rw [List.append_assoc, sizeLine_chunk], ?_⟩
    rcases FrameReader.append_eq_cases behind with ⟨more, rfl, ends⟩ | ⟨left, -, inside⟩
    · match more, ends with
      | [], _ => exact .inl (by rw [List.append_nil])
      | [first], ends =>
          right
          rw [(List.cons.inj ends).1]
      | first :: second :: rest, ends =>
          have nil := (List.cons.inj (List.cons.inj ends).2).2
          exact absurd (List.append_eq_nil_iff.mp nil).2 cut
    · left
      rw [← inside, List.length_append]
      omega
  · exact .inl (sizeLine_open (chunk.line_open some' line))

/-- A part of a chunk makes the loop wait, or read behind the buffer, or end too early. -/
theorem chunkLoop_piece {chunk : Chunk} {piece missing : List UInt8} (cut : missing ≠ [])
    (whole : piece ++ missing = chunk.bytes) (size : Nat) (map : MessageMap)
    : (∃ after, chunkLoop size (some map) piece = some (false, after))
      ↔ WaitsForChunk piece := by
  by_cases some' : piece = []
  · subst some'
    exact ⟨fun _ => .inl rfl, fun _ => ⟨_, by rw [chunkLoop, if_pos rfl]⟩⟩
  · by_cases positive : (sizeLine piece).1 = 0
    · constructor
      · rintro ⟨after, waits⟩
        rw [chunkLoop_eq size map some'] at waits
        simp only [positive, if_true] at waits
        cases waits
      · rintro (empty | missing)
        · exact absurd empty some'
        · omega
    · by_cases far : (sizeLine piece).2.length + 2 < (sizeLine piece).1
      · refine ⟨fun _ => .inr far, fun _ => ⟨some map, ?_⟩⟩
        rw [chunkLoop_eq size map some']
        simp only
        rw [if_neg positive, if_pos far]
      · have near : (sizeLine piece).1 ≤ (sizeLine piece).2.length + 2 := Nat.le_of_not_lt far
        have short : CutShort piece := by
          rcases chunk.part_cases cut whole with noData | ⟨data, line, short | return'⟩
          · refine .data some' positive ?_ near
            rw [noData]
            exact Nat.zero_le _
          · refine .data some' positive ?_ near
            rwa [line]
          · exact .lineEnd some' positive (by rw [line]) (by rw [line, return'])
        constructor
        · rintro ⟨after, waits⟩
          rw [short.chunkLoop_eq_none] at waits
          cases waits
        · rintro (empty | missing)
          · exact absurd empty some'
          · exact absurd missing far

/-- A request that is cut anywhere behind its header. -/
theorem chunkLoop_part {chunks : List Chunk} {last : Chunk} {part missing : List UInt8}
    (data : ∀ chunk ∈ chunks, chunk.data ≠ []) (cut : missing ≠ [])
    (whole : part ++ missing = chunks.flatMap Chunk.bytes ++ last.bytes) (size : Nat)
    (map : MessageMap)
    : (∃ after, chunkLoop size (some map) part = some (false, after))
      ↔ WaitsForChunk (openChunk chunks part) := by
  induction chunks generalizing part map with
  | nil => exact chunkLoop_piece cut whole size map
  | cons chunk chunks ih =>
      rw [List.flatMap_cons, List.append_assoc] at whole
      rcases FrameReader.append_eq_cases whole with ⟨more, rfl, rest⟩ | ⟨left, some', here⟩
      · have isPrefix : chunk.bytes.isPrefixOf (chunk.bytes ++ more) = true :=
          List.isPrefixOf_iff_prefix.mpr (List.prefix_append _ _)
        rw [chunkLoop_chunk (data chunk (List.mem_cons_self ..)), openChunk, if_pos isPrefix,
          List.drop_left]
        exact ih (fun other member => data other (List.mem_cons_of_mem chunk member)) rest _
      · have noPrefix : ¬ chunk.bytes.isPrefixOf part = true := by
          intro starts
          have long := (List.isPrefixOf_iff_prefix.mp starts).length_le
          have positive := List.length_pos_iff.mpr some'
          rw [← here, List.length_append] at long
          omega
        rw [openChunk, if_neg noPrefix]
        exact chunkLoop_piece some' here size map

/-- What `parseHeader` does with a chunked request that is not complete: it reads behind the
buffer exactly if a chunk is cut short, and waits for the rest of a request that is cut
anywhere behind its header exactly if the cut leaves nothing of a chunk, or enough of it is
missing.
-/
theorem parseHeader_incomplete_iff {read : List UInt8 → Option HTTPRequest}
    {socket : StreamSocket} {header : RequestHeader} {request : HTTPRequest}
    {rest : List UInt8} (buffer : socket.inBuffer = header.bytes ++ rest)
    (requestRead : read socket.inBuffer = some request) (chunked : request.chunked = true)
    : (parseHeader read socket (some ⟨0, 0, []⟩) ≠ none
        ↔ waitsForContent request rest.length = true ∨ ¬ CutShort rest)
      ∧ ∀ (chunks : List Chunk) (last : Chunk) (missing : List UInt8),
          (∀ chunk ∈ chunks, chunk.data ≠ [])
          → last.data = []
          → missing ≠ []
          → rest ++ missing = chunks.flatMap Chunk.bytes ++ last.bytes
          → ((∃ after map,
                parseHeader read socket (some ⟨0, 0, []⟩) = some (false, after, map))
              ↔ waitsForContent request rest.length = true
                ∨ WaitsForChunk (openChunk chunks rest)) := by
  cases content : waitsForContent request rest.length with
  | true =>
      have waits := parseHeader_waits buffer requestRead content
      refine ⟨⟨fun _ => .inl rfl, fun _ failed => ?_⟩, ?_⟩
      · rw [waits] at failed
        cases failed
      · intro chunks last missing _ _ _ _
        exact ⟨fun _ => .inl rfl, fun _ => ⟨_, _, waits⟩⟩
  | false =>
      have loop := parseHeader_chunked buffer requestRead chunked content
      refine ⟨?_, ?_⟩
      · rw [loop, ne_eq, Option.map_eq_none_iff]
        constructor
        · exact fun inside => .inr fun cut => inside (cut.chunkLoop_eq_none _ _)
        · rintro (waits | inside)
          · cases waits
          · exact fun failed => inside (cutShort_of_chunkLoop failed)
      · intro chunks last missing data _ cut whole
        rw [loop, ← chunkLoop_part data cut whole (header.bytes ++ rest).length
          (bodyMap header request)]
        constructor
        · rintro ⟨after, map, waits⟩
          obtain ⟨⟨complete, next⟩, ran, result⟩ := Option.map_eq_some_iff.mp waits
          simp only [Prod.mk.injEq] at result
          exact .inr ⟨next, by rw [ran, result.1]⟩
        · rintro (waits | ⟨next, ran⟩)
          · cases waits
          · exact ⟨_, _, by rw [ran]; rfl⟩

/-- A whole chunk, and the size line and two of five bytes of another one. -/
def cutInside : List UInt8 :=
  abcChunk.bytes ++ [0x30, 0x35, 0x0d, 0x0a, 0x61, 0x62]

/-- The request that is cut inside its second chunk waits, and nothing is read behind the buffer. -/
theorem parseHeader_incomplete_iff_inside
    : parseHeader (fun _ => some ⟨-1, false, true⟩)
          (receivedSocket (chunkedHeader.bytes ++ cutInside)) (some ⟨0, 0, []⟩) ≠ none
      ∧ ∃ after map,
          parseHeader (fun _ => some ⟨-1, false, true⟩)
            (receivedSocket (chunkedHeader.bytes ++ cutInside)) (some ⟨0, 0, []⟩)
          = some (false, after, map) := by
  have buffer : (receivedSocket (chunkedHeader.bytes ++ cutInside)).inBuffer
      = chunkedHeader.bytes ++ cutInside := rfl
  have data : ∀ chunk ∈ [abcChunk, abcdeChunk], chunk.data ≠ [] := by
    simp only [List.forall_mem_cons]
    exact ⟨by decide, by decide, nofun⟩
  have atCut : openChunk [abcChunk, abcdeChunk] cutInside
      = [0x30, 0x35, 0x0d, 0x0a, 0x61, 0x62] := by decide
  have line : sizeLine [0x30, 0x35, 0x0d, 0x0a, 0x61, 0x62] = (5, [0x61, 0x62]) := by
    decide +kernel
  have cut := @parseHeader_incomplete_iff (fun _ => some ⟨-1, false, true⟩) _ _ _ _ buffer rfl rfl
  have waits := (cut.2 [abcChunk, abcdeChunk] zeroChunk
    ([0x63, 0x64, 0x65, 0x0d, 0x0a] ++ zeroChunk.bytes) data rfl (by decide) (by decide)).mpr
    (.inr (.inr (by rw [atCut, line]; decide)))
  refine ⟨?_, waits⟩
  obtain ⟨after, map, result⟩ := waits
  rw [result]
  nofun

/-- Two of three bytes of a chunk: the loop reads behind the buffer. The digit of the last
chunk without its line end: the request is reported as complete.
-/
theorem parseHeader_cut
    : abcChunk.bytes = [0x30, 0x33, 0x0d, 0x0a, 0x61, 0x62] ++ [0x63, 0x0d, 0x0a]
      ∧ parseHeader (fun _ => some ⟨-1, false, true⟩)
          (receivedSocket (chunkedHeader.bytes ++ [0x30, 0x33, 0x0d, 0x0a, 0x61, 0x62]))
          (some ⟨0, 0, []⟩)
        = none
      ∧ zeroChunk.bytes = [0x30] ++ crlf ++ crlf
      ∧ ∃ after map,
          parseHeader (fun _ => some ⟨-1, false, true⟩)
            (receivedSocket (chunkedHeader.bytes ++ [0x30])) (some ⟨0, 0, []⟩)
          = some (true, after, map) := by
  have cutLine : sizeLine [0x30, 0x33, 0x0d, 0x0a, 0x61, 0x62] = (3, [0x61, 0x62]) := by
    decide +kernel
  have short : CutShort [0x30, 0x33, 0x0d, 0x0a, 0x61, 0x62] := by
    refine .data (List.cons_ne_nil _ _) ?_ ?_ ?_ <;> rw [cutLine] <;> decide
  have cutBuffer : (receivedSocket
      (chunkedHeader.bytes ++ [0x30, 0x33, 0x0d, 0x0a, 0x61, 0x62])).inBuffer = _ := rfl
  have lastBuffer : (receivedSocket (chunkedHeader.bytes ++ [0x30])).inBuffer = _ := rfl
  refine ⟨by decide, ?_, by decide, ?_⟩
  · rw [parseHeader_chunked cutBuffer rfl rfl (by decide), short.chunkLoop_eq_none]
    rfl
  · have line : sizeLine [0x30] = (0, []) := by decide +kernel
    rw [parseHeader_chunked lastBuffer rfl rfl (by decide),
      chunkLoop_eq _ _ (List.cons_ne_nil _ _), line]
    exact ⟨_, _, rfl⟩

end NdcOdfWeb.Net
