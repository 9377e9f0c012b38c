import NdcOdfWeb.Net.ParseHeader

/-! A whole chunked request is parsed, and its chunks are put together. -/

namespace NdcOdfWeb.Net

open NdcOdfWeb.Foundation

def crlf : List UInt8 :=
  [0x0d, 0x0a]

/-- The number that hexadecimal digits spell. -/
def hexValue (value : Nat) (digits : List UInt8) : Nat :=
  digits.foldl (fun value c => value * 16 + (hexDigitFromChar c).getD 0) value

/-- A chunk with its size line; the last one of a body has no data. -/
structure Chunk where
  line : List UInt8
  data : List UInt8
  line_ne_nil : line ≠ []
  digits : ∀ c ∈ line, (hexDigitFromChar c).isSome = true
  size : hexValue 0 line = data.length
  data_lt : data.length < 2 ^ 63

/-- The size line, with what stands behind it on the wire. -/
def Chunk.framed (chunk : Chunk) : Framed UInt8 where
  before := chunk.line ++ crlf
  block := chunk.data
  after := crlf

def Chunk.bytes (chunk : Chunk) : List UInt8 :=
  chunk.framed.bytes

/-- A header, up to the first empty line. -/
structure RequestHeader where
  bytes : List UInt8
  ends : find marker bytes = some (bytes.length - marker.length)

/-- Checked for each of the 256 bytes. -/
theorem hexDigit_cases (c : UInt8)
    : hexDigitFromChar c = none
      ∨ isSpaceByte c = false ∧ c ≠ 0x0a ∧ c ≠ 0x0d := by
  have all : ∀ n < 256, hexDigitFromChar (UInt8.ofNat n) = none
      ∨ isSpaceByte (UInt8.ofNat n) = false ∧ UInt8.ofNat n ≠ 0x0a ∧ UInt8.ofNat n ≠ 0x0d := by
    decide +kernel
  have here := all c.toNat c.toNat_lt
  rwa [UInt8.ofNat_toNat] at here

/-- A digit is no blank. -/
theorem not_isSpaceByte {c : UInt8} (digit : (hexDigitFromChar c).isSome = true)
    : isSpaceByte c = false := by
  rcases hexDigit_cases c with none' | ⟨space, -⟩
  · rw [none'] at digit
    cases digit
  · exact space

/-- Each digit makes the number larger. -/
theorem le_hexValue (value : Nat) (digits : List UInt8) : value ≤ hexValue value digits := by
  induction digits generalizing value with
  | nil => exact Nat.le_refl _
  | cons c digits ih =>
      exact Nat.le_trans (by omega) (ih (value * 16 + (hexDigitFromChar c).getD 0))

/-- Digits that spell a size are read without an overflow. -/
theorem readHex_digits {digits rest : List UInt8} {value : Nat}
    (isDigits : ∀ c ∈ digits, (hexDigitFromChar c).isSome = true)
    (bound : hexValue value digits < 2 ^ 64)
    (ends : ∀ c ∈ rest.head?, hexDigitFromChar c = none)
    : readHex value (digits ++ rest) = (hexValue value digits, rest) := by
  induction digits generalizing value with
  | nil =>
      rw [List.nil_append]
      cases rest with
      | nil => rfl
      | cons c rest =>
          rw [readHex, ends c rfl]
          rfl
  | cons c digits ih =>
      obtain ⟨digit, isDigit⟩ := Option.isSome_iff_exists.mp (isDigits c (List.mem_cons_self ..))
      have next : hexValue value (c :: digits) = hexValue (value * 16 + digit) digits := by
        simp only [hexValue, List.foldl_cons, isDigit, Option.getD_some]
      rw [next] at bound ⊢
      have small := le_hexValue (value * 16 + digit) digits
      rw [List.cons_append, readHex, isDigit]
      simp only
      rw [Nat.mod_eq_of_lt (by omega)]
      exact ih (fun other member => isDigits other (List.mem_cons_of_mem c member)) bound

/-- A size line, and what stands behind it. -/
theorem sizeLine_digits {digits rest : List UInt8} (some' : digits ≠ [])
    (isDigits : ∀ c ∈ digits, (hexDigitFromChar c).isSome = true)
    (bound : hexValue 0 digits < 2 ^ 64)
    (ends : ∀ c ∈ rest.head?, hexDigitFromChar c = none)
    : sizeLine (digits ++ rest) = (hexValue 0 digits, (rest.dropWhile (· != 0x0a)).tail) := by
  obtain ⟨c, more, rfl⟩ := List.exists_cons_of_ne_nil some'
  have noSpace : ((c :: more) ++ rest).dropWhile isSpaceByte = (c :: more) ++ rest := by
    rw [List.cons_append, List.dropWhile_cons_of_neg]
    rw [not_isSpaceByte (isDigits c (List.mem_cons_self ..))]
    exact Bool.false_ne_true
  rw [sizeLine, noSpace, readHex_digits isDigits bound ends]

/-- The size is read, up to the line's end. -/
theorem sizeLine_chunk (chunk : Chunk) (rest : List UInt8)
    : sizeLine (chunk.line ++ (crlf ++ rest)) = (chunk.data.length, rest) := by
  have bound : hexValue 0 chunk.line < 2 ^ 64 := by
    rw [chunk.size]
    have small := chunk.data_lt
    omega
  have line : crlf ++ rest = 0x0d :: 0x0a :: rest := rfl
  rw [sizeLine_digits chunk.line_ne_nil chunk.digits bound, chunk.size, line]
  · rfl
  · intro c first
    cases first
    rfl

/-- The size's line, the data, and a line's end behind each. -/
theorem Chunk.bytes_append (chunk : Chunk) (rest : List UInt8)
    : chunk.bytes ++ rest = chunk.line ++ (crlf ++ (chunk.data ++ (crlf ++ rest))) := by
  simp only [Chunk.bytes, Chunk.framed, Framed.bytes, List.append_assoc]

/-- A chunk has at least its line's end. -/
theorem Chunk.bytes_append_ne_nil (chunk : Chunk) (rest : List UInt8)
    : chunk.bytes ++ rest ≠ [] := by
  rw [chunk.bytes_append]
  exact List.append_ne_nil_of_left_ne_nil chunk.line_ne_nil _

/-- A chunk with data adds a span. -/
theorem chunkLoop_chunk {chunk : Chunk} (data : chunk.data ≠ []) (size : Nat)
    (map : MessageMap) (rest : List UInt8)
    : chunkLoop size (some map) (chunk.bytes ++ rest)
      = chunkLoop size
          (some
            { map with
              spans :=
                map.spans
                  ++ [(size - (chunk.data ++ (crlf ++ rest)).length, chunk.data.length)] })
          rest := by
  have positive := List.length_pos_iff.mpr data
  have skipped : skipChunk (chunk.data ++ (crlf ++ rest)) chunk.data.length
      = some (some rest) := by
    rw [skipChunk, List.drop_left]
    rfl
  rw [chunkLoop_eq size map (chunk.bytes_append_ne_nil rest), chunk.bytes_append,
    sizeLine_chunk]
  simp only
  rw [if_neg (by omega), if_neg (by rw [List.length_append]; omega), skipped]
  rfl

/-- The chunk without data completes the request. -/
theorem chunkLoop_last {last : Chunk} (zero : last.data = []) (size : Nat) (map : MessageMap)
    (rest : List UInt8)
    : chunkLoop size (some map) (last.bytes ++ rest)
      = some (true, some { map with messageSize := size - (crlf ++ rest).length }) := by
  rw [chunkLoop_eq size map (last.bytes_append_ne_nil rest), last.bytes_append,
    sizeLine_chunk, zero]
  rfl

/-- The chunks of a body, each with its span. -/
theorem chunkLoop_body {chunks : List Chunk} {last : Chunk}
    (data : ∀ chunk ∈ chunks, chunk.data ≠ []) (zero : last.data = []) (size position : Nat)
    (map : MessageMap) (rest : List UInt8)
    (sized : size = position + (chunks.flatMap Chunk.bytes ++ (last.bytes ++ rest)).length)
    : chunkLoop size (some map) (chunks.flatMap Chunk.bytes ++ (last.bytes ++ rest))
      = some (true,
          some
            {
              map with
              messageSize := size - (crlf ++ rest).length
              spans := map.spans ++ spansFrom position (chunks.map Chunk.framed)
            }) := by
  induction chunks generalizing position map with
  | nil =>
      rw [List.flatMap_nil, List.nil_append, chunkLoop_last zero, List.map_nil, spansFrom,
        List.append_nil]
  | cons chunk chunks ih =>
      have here := data chunk (List.mem_cons_self ..)
      rw [List.flatMap_cons, List.append_assoc] at sized ⊢
      have total : chunk.bytes.length = chunk.line.length + 2 + chunk.data.length + 2 := by
        simp only [Chunk.bytes, Chunk.framed, Framed.bytes, List.length_append, crlf,
          List.length_cons, List.length_nil]
        omega
      have start : size - (chunk.data
            ++ (crlf ++ (chunks.flatMap Chunk.bytes ++ (last.bytes ++ rest)))).length
          = position + chunk.framed.before.length := by
        rw [List.length_append] at sized
        simp only [List.length_append, Chunk.framed, crlf, List.length_cons, List.length_nil]
          at sized ⊢
        omega
      rw [chunkLoop_chunk here, start, ih
        (fun other member => data other (List.mem_cons_of_mem chunk member))
        (position + chunk.bytes.length)]
      · simp only [List.append_assoc, List.map_cons, spansFrom, List.singleton_append]
        rfl
      · rw [List.length_append] at sized
        omega

-----------------------------------------------------------------------------------------
-- The whole request
-----------------------------------------------------------------------------------------

/-- The map in front of the chunk loop. -/
def bodyMap (header : RequestHeader) (request : HTTPRequest) : MessageMap where
  headerSize := header.bytes.length
  messageSize := ((header.bytes.length + request.contentLength) % 2 ^ 64).toNat
  spans := [(0, header.bytes.length)]

/-- With a content length beyond what there is, a request waits, chunked or not. -/
theorem parseHeader_waits {read : List UInt8 → Option HTTPRequest} {socket : StreamSocket}
    {header : RequestHeader} {request : HTTPRequest} {rest : List UInt8}
    (buffer : socket.inBuffer = header.bytes ++ rest)
    (requestRead : read socket.inBuffer = some request)
    (content : waitsForContent request rest.length = true)
    : parseHeader read socket (some ⟨0, 0, []⟩)
      = some (false, socket, some ⟨header.bytes.length, header.bytes.length, []⟩) := by
  obtain ⟨found, long⟩ := find_append_right header.ends rest
  have body : header.bytes.length - marker.length + marker.length = header.bytes.length := by
    omega
  have available : (header.bytes ++ rest).length - header.bytes.length = rest.length := by
    rw [List.length_append, Nat.add_sub_cancel_left]
  rw [buffer] at requestRead
  unfold parseHeader
  rw [buffer, found]
  simp only [requestRead, body, available, content, if_true, Option.map_some]

/-- Behind the header of a chunked request the chunk loop decides. -/
theorem parseHeader_chunked {read : List UInt8 → Option HTTPRequest} {socket : StreamSocket}
    {header : RequestHeader} {request : HTTPRequest} {rest : List UInt8}
    (buffer : socket.inBuffer = header.bytes ++ rest)
    (requestRead : read socket.inBuffer = some request) (chunked : request.chunked = true)
    (content : waitsForContent request rest.length = false)
    : parseHeader read socket (some ⟨0, 0, []⟩)
      = (chunkLoop (header.bytes ++ rest).length (some (bodyMap header request)) rest).map
          fun (complete, map) => (complete, sendContinue request socket, map) := by
  obtain ⟨found, long⟩ := find_append_right header.ends rest
  have body : header.bytes.length - marker.length + marker.length = header.bytes.length := by
    omega
  have available : (header.bytes ++ rest).length - header.bytes.length = rest.length := by
    rw [List.length_append, Nat.add_sub_cancel_left]
  rw [buffer] at requestRead
  unfold parseHeader
  rw [buffer, found]
  simp only [requestRead, body, available, content, chunked, Bool.false_eq_true, if_false, if_true,
    Option.map_some, List.drop_left, List.nil_append, sendContinue_inBuffer, buffer]
  rw [bodyMap]
  cases chunkLoop (header.bytes ++ rest).length _ rest with
  | none => rfl
  | some result => rfl

/-- The map of a complete request: the size up to the last chunk's size line, the header as
the first span, and the data of every chunk.
-/
def completeMap (header : RequestHeader) (chunks : List Chunk) (last : Chunk) : MessageMap where
  headerSize := header.bytes.length
  messageSize :=
    header.bytes.length + (chunks.flatMap Chunk.bytes ++ (last.line ++ crlf)).length
  spans := (0, header.bytes.length) :: spansFrom header.bytes.length (chunks.map Chunk.framed)

/-- The loop walks the chunks up to the one of size zero. -/
theorem parseHeader_complete {read : List UInt8 → Option HTTPRequest}
    {socket : StreamSocket} {header : RequestHeader} {request : HTTPRequest}
    {chunks : List Chunk} {last : Chunk} {next : List UInt8}
    (buffer
      : socket.inBuffer = header.bytes ++ (chunks.flatMap Chunk.bytes ++ (last.bytes ++ next)))
    (data : ∀ chunk ∈ chunks, chunk.data ≠ []) (zero : last.data = [])
    (requestRead : read socket.inBuffer = some request) (chunked : request.chunked = true)
    (content
      : waitsForContent request
          (chunks.flatMap Chunk.bytes ++ (last.bytes ++ next)).length = false)
    : parseHeader read socket (some ⟨0, 0, []⟩)
      = some (true, sendContinue request socket, some (completeMap header chunks last)) := by
  have total : (header.bytes ++ (chunks.flatMap Chunk.bytes ++ (last.bytes ++ next))).length
      = header.bytes.length + (chunks.flatMap Chunk.bytes ++ (last.bytes ++ next)).length :=
    List.length_append
  have size : (header.bytes ++ (chunks.flatMap Chunk.bytes ++ (last.bytes ++ next))).length
        - (crlf ++ next).length
      = header.bytes.length + (chunks.flatMap Chunk.bytes ++ (last.line ++ crlf)).length := by
    rw [last.bytes_append, zero]
    simp only [List.length_append, List.length_nil]
    omega
  rw [parseHeader_chunked buffer requestRead chunked content,
    chunkLoop_body data zero _ header.bytes.length _ next total, size]
  rfl

/-- A chunk is what is framed. -/
theorem flatMap_framed (chunks : List Chunk)
    : (chunks.map Chunk.framed).flatMap Framed.bytes = chunks.flatMap Chunk.bytes
      ∧ (chunks.map Chunk.framed).flatMap Framed.block = chunks.flatMap Chunk.data := by
  rw [List.flatMap_map, List.flatMap_map]
  exact ⟨rfl, rfl⟩

/-- Each block moves to the front, by the gaps between them. -/
theorem compactChunks_complete (header : RequestHeader) (chunks : List Chunk) (last : Chunk)
    (rest : List UInt8)
    : compactChunks
        (header.bytes ++ (chunks.flatMap Chunk.bytes ++ (last.line ++ (crlf ++ rest))))
        (completeMap header chunks last)
      = some (true, header.bytes ++ (chunks.flatMap Chunk.data ++ rest),
          {
            completeMap header chunks last with
            messageSize := header.bytes.length + (chunks.flatMap Chunk.data).length
          }) := by
  obtain ⟨bytes, blocks⟩ := flatMap_framed chunks
  -- the header is the first block, and nothing stands in front of it
  obtain ⟨left, size, moved⟩ := foldlM_moveFront [] []
    (⟨[], header.bytes, []⟩ :: chunks.map Chunk.framed) (last.line ++ (crlf ++ rest))
  simp only [spansFrom, List.flatMap_cons, Framed.bytes, List.length_nil, Nat.zero_add,
    List.nil_append, List.append_nil, bytes, blocks, List.append_assoc] at size moved
  have spans : (completeMap header chunks last).spans ≠ [] := List.cons_ne_nil _ _
  have front : (header.bytes
        ++ (chunks.flatMap Chunk.data ++ (left ++ (last.line ++ (crlf ++ rest))))).take
          (header.bytes ++ chunks.flatMap Chunk.data).length
      = header.bytes ++ chunks.flatMap Chunk.data := by
    rw [← List.append_assoc, List.take_left]
  have messageSize : (completeMap header chunks last).messageSize
      = (header.bytes ++ (chunks.flatMap Chunk.data ++ (left ++ (last.line ++ crlf)))).length := by
    simp only [completeMap, List.length_append] at size ⊢
    omega
  have back : (header.bytes
        ++ (chunks.flatMap Chunk.data ++ (left ++ (last.line ++ (crlf ++ rest))))).drop
          (completeMap header chunks last).messageSize
      = rest := by
    have split : header.bytes
          ++ (chunks.flatMap Chunk.data ++ (left ++ (last.line ++ (crlf ++ rest))))
        = header.bytes ++ (chunks.flatMap Chunk.data ++ (left ++ (last.line ++ crlf)))
          ++ rest := by
      simp only [List.append_assoc]
    rw [messageSize, split, List.drop_left]
  have shrunk : (completeMap header chunks last).messageSize
        - ((completeMap header chunks last).messageSize
          - (header.bytes ++ chunks.flatMap Chunk.data).length)
      = header.bytes.length + (chunks.flatMap Chunk.data).length := by
    rw [messageSize]
    simp only [List.length_append]
    omega
  have collated : (completeMap header chunks last).spans.foldlM moveFront
      (header.bytes ++ (chunks.flatMap Chunk.bytes ++ (last.line ++ (crlf ++ rest))), 0) = _ :=
    moved
  rw [compactChunks, if_neg spans, collated]
  simp only [bind, Option.bind]
  rw [front, back, shrunk, List.append_assoc]

/-- A chunked request is complete with its last chunk, and its chunks are put together
behind the header. The line end behind the last chunk stays, with what follows it.
-/
theorem parseHeader_compactChunks {read : List UInt8 → Option HTTPRequest}
    {socket : StreamSocket} {header : RequestHeader} {request : HTTPRequest}
    {chunks : List Chunk} {last : Chunk} {next : List UInt8}
    (buffer
      : socket.inBuffer = header.bytes ++ (chunks.flatMap Chunk.bytes ++ (last.bytes ++ next)))
    (data : ∀ chunk ∈ chunks, chunk.data ≠ []) (zero : last.data = [])
    (requestRead : read socket.inBuffer = some request) (chunked : request.chunked = true)
    (content
      : request.contentLength = -1
        ∨ request.contentLength
          ≤ (chunks.flatMap Chunk.bytes ++ (last.bytes ++ next)).length)
    : ∃ after map,
        parseHeader read socket (some ⟨0, 0, []⟩) = some (true, after, some map)
        ∧ after.inBuffer = socket.inBuffer
        ∧ compactChunks after.inBuffer map
          = some (true, header.bytes ++ (chunks.flatMap Chunk.data ++ (crlf ++ next)),
              {
                map with
                messageSize := header.bytes.length + (chunks.flatMap Chunk.data).length
              }) := by
  have enough : waitsForContent request
      (chunks.flatMap Chunk.bytes ++ (last.bytes ++ next)).length = false := by
    rw [waitsForContent, decide_eq_false_iff_not]
    omega
  have inBuffer := sendContinue_inBuffer request socket
  refine ⟨sendContinue request socket, completeMap header chunks last,
    parseHeader_complete buffer data zero requestRead chunked enough, inBuffer, ?_⟩
  rw [inBuffer, buffer, last.bytes_append, zero, List.nil_append, compactChunks_complete]

/-- A chunk of data under a line, and the chunk that ends a body. -/
def abcChunk : Chunk where
  line := [0x30, 0x33]
  data := [0x61, 0x62, 0x63]
  line_ne_nil := by decide
  digits := by decide
  size := by decide
  data_lt := by decide

def abcdeChunk : Chunk where
  line := [0x30, 0x35]
  data := [0x61, 0x62, 0x63, 0x64, 0x65]
  line_ne_nil := by decide
  digits := by decide
  size := by decide
  data_lt := by decide

def zeroChunk : Chunk where
  line := [0x30]
  data := []
  line_ne_nil := by decide
  digits := by decide
  size := by decide
  data_lt := by decide

/-- A header of a chunked request. -/
def chunkedHeader : RequestHeader where
  bytes := asciiBytes "POST / HTTP/1.1\r\nTransfer-Encoding: chunked\r\n\r\n"
  ends := by decide +kernel

/-- A header of a chunked request that also has a content length. -/
def lengthHeader : RequestHeader where
  bytes :=
    asciiBytes
      "POST / HTTP/1.1\r\nTransfer-Encoding: chunked\r\nContent-Length: 100\r\n\r\n"
  ends := by decide +kernel

/-- A socket that has received some bytes. -/
def receivedSocket (inBuffer : List UInt8) : StreamSocket where
  inBuffer := inBuffer
  outBuffer := []
  isWebSocket := false
  isClosed := false
  connectionClosed := false
  sentHTTPContinue := false

/-- Two chunks of different sizes, with a byte of the next request behind the last one. -/
theorem parseHeader_compactChunks_abc
    : ∃ after map,
        parseHeader (fun _ => some ⟨-1, false, true⟩)
            (receivedSocket
              (chunkedHeader.bytes
                ++ ([abcChunk, abcdeChunk].flatMap Chunk.bytes ++ (zeroChunk.bytes ++ [0x47]))))
            (some ⟨0, 0, []⟩)
          = some (true, after, some map)
        ∧ after.inBuffer
          = chunkedHeader.bytes
            ++ ([abcChunk, abcdeChunk].flatMap Chunk.bytes ++ (zeroChunk.bytes ++ [0x47]))
        ∧ compactChunks after.inBuffer map
          = some (true,
              chunkedHeader.bytes
                ++ ([abcChunk, abcdeChunk].flatMap Chunk.data ++ (crlf ++ [0x47])),
              {
                map with
                messageSize :=
                  chunkedHeader.bytes.length
                    + ([abcChunk, abcdeChunk].flatMap Chunk.data).length
              }) := by
  have data : ∀ chunk ∈ [abcChunk, abcdeChunk], chunk.data ≠ [] := by
    simp only [List.forall_mem_cons]
    exact ⟨by decide, by decide, nofun⟩
  have buffer : (receivedSocket (chunkedHeader.bytes
      ++ ([abcChunk, abcdeChunk].flatMap Chunk.bytes
        ++ (zeroChunk.bytes ++ [0x47])))).inBuffer = _ := rfl
  exact parseHeader_compactChunks buffer data rfl rfl rfl (.inl rfl)

/-- With a content length beyond what there is, a complete chunked request waits. -/
theorem parseHeader_contentLength
    : ∃ after map,
        parseHeader (fun _ => some ⟨100, false, true⟩)
          (receivedSocket
            (lengthHeader.bytes
              ++ ([abcChunk].flatMap Chunk.bytes ++ (zeroChunk.bytes ++ []))))
          (some ⟨0, 0, []⟩)
        = some (false, after, map) := by
  have buffer : (receivedSocket (lengthHeader.bytes
      ++ ([abcChunk].flatMap Chunk.bytes ++ (zeroChunk.bytes ++ [])))).inBuffer = _ := rfl
  exact ⟨_, _, parseHeader_waits buffer rfl (by decide)⟩

end NdcOdfWeb.Net
