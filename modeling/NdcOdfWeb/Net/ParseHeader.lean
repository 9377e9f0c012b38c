import NdcOdfWeb.Foundation.Blocks
import NdcOdfWeb.Foundation.Words
import NdcOdfWeb.Net.WebSocketHandler

/-! HTTP requests in the input buffer of a socket (`StreamSocket::parseHeader` and
`compactChunks`). An access outside of the buffer, or through a null pointer, is `none`.
-/

namespace NdcOdfWeb.Net

open NdcOdfWeb.Foundation

/-- `MessageMap`: offsets and lengths to collate into the real stream. -/
structure MessageMap where
  headerSize : Nat
  messageSize : Nat
  spans : List (Nat × Nat)
deriving DecidableEq

/-- What `parseHeader` asks of a request; a content length of -1 is unknown. -/
structure HTTPRequest where
  contentLength : Int
  expectContinue : Bool
  chunked : Bool

/-- The bytes of an ASCII text. -/
def asciiBytes (text : String) : List UInt8 :=
  text.toList.map Char.toUInt8

/-- The end of a header. -/
def marker : List UInt8 :=
  asciiBytes "\r\n\r\n"

/-- `HTTP/1.1 100 Continue`. -/
def continueResponse : List UInt8 :=
  asciiBytes "HTTP/1.1 100 Continue\r\n\r\n"

-----------------------------------------------------------------------------------------
-- Chunks
-----------------------------------------------------------------------------------------

/-- `isascii` and `isspace`. -/
def isSpaceByte (byte : UInt8) : Bool :=
  byte == 0x20 || (decide (0x09 ≤ byte) && decide (byte ≤ 0x0d))

/-- `hexDigitFromChar`. -/
def hexDigitFromChar (c : UInt8) : Option Nat :=
  if 0x30 ≤ c ∧ c ≤ 0x39 then some (c.toNat - 0x30)
  else if 0x61 ≤ c ∧ c ≤ 0x66 then some (c.toNat - 0x61 + 10)
  else if 0x41 ≤ c ∧ c ≤ 0x46 then some (c.toNat - 0x41 + 10)
  else none

/-- The length of a chunk in hex, as a `size_t`, and what stands behind its digits. -/
def readHex (chunkLen : Nat) : List UInt8 → Nat × List UInt8
  | [] => (chunkLen, [])
  | c :: rest =>
      match hexDigitFromChar c with
      | some digit => readHex ((chunkLen * 16 + digit) % 2 ^ 64) rest
      | none => (chunkLen, c :: rest)

/-- The line in front of a chunk: its length, and what stands behind the line. -/
def sizeLine (bytes : List UInt8) : Nat × List UInt8 :=
  let (chunkLen, rest) := readHex 0 (bytes.dropWhile isSpaceByte)
  (chunkLen, (rest.dropWhile (· != 0x0a)).tail)

/-- By induction on the bytes. -/
theorem length_readHex_le (chunkLen : Nat) (bytes : List UInt8)
    : (readHex chunkLen bytes).2.length ≤ bytes.length := by
  induction bytes generalizing chunkLen with
  | nil => exact Nat.le_refl _
  | cons c rest ih =>
      rw [readHex]
      split
      · exact Nat.le_trans (ih _) (Nat.le_succ _)
      · exact Nat.le_refl _

/-- Some elements are dropped. -/
theorem length_dropWhile_le {α : Type} (p : α → Bool) (l : List α)
    : (l.dropWhile p).length ≤ l.length :=
  (List.dropWhile_sublist p).length_le

/-- The size is read from the front. -/
theorem length_sizeLine_le (bytes : List UInt8)
    : (sizeLine bytes).2.length ≤ bytes.length := by
  have spaces := length_dropWhile_le isSpaceByte bytes
  have digits := length_readHex_le 0 (bytes.dropWhile isSpaceByte)
  have line := length_dropWhile_le (· != 0x0a) (readHex 0 (bytes.dropWhile isSpaceByte)).2
  simp only [sizeLine, List.length_tail]
  omega

/-- Skip the data of a chunk, which may end behind the buffer, and its line end: `none`
where that reads outside of the buffer, `some none` without a line end.
-/
def skipChunk (data : List UInt8) (chunkLen : Nat) : Option (Option (List UInt8)) :=
  match data.drop chunkLen with
  | [] => none
  | first :: after =>
      if first ≠ 0x0d then some none
      else
        match after with
        | [] => none
        | second :: after => if second ≠ 0x0a then some none else some (some after)

/-- What is skipped ends with a line's end. -/
theorem eq_of_skipChunk {data after : List UInt8} {chunkLen : Nat}
    (skipped : skipChunk data chunkLen = some (some after))
    : data.drop chunkLen = 0x0d :: 0x0a :: after := by
  unfold skipChunk at skipped
  split at skipped
  · cases skipped
  · next first behind shape =>
      split at skipped
      · cases skipped
      · next return' =>
          split at skipped
          · cases skipped
          · next second after =>
              split at skipped
              · cases skipped
              · next newline =>
                  cases skipped
                  rw [shape, not_not.mp return', not_not.mp newline]

/-- The loop over the chunks in a buffer of the given size, from the chunk on that `rest`
starts with.
-/
def chunkLoop (size : Nat) (map : Option MessageMap) (rest : List UInt8)
    : Option (Bool × Option MessageMap) :=
  if rest = [] then some (false, map)
  else
    let chunkLen := (sizeLine rest).1
    let data := (sizeLine rest).2
    let chunkOffset := size - data.length
    let chunkAvailable := data.length
    if chunkLen = 0 then do
      let map ← map
      some (true, some { map with messageSize := chunkOffset })
    else if chunkAvailable + 2 < chunkLen then some (false, map)
    else do
      let map ← map
      let map := { map with spans := map.spans ++ [(chunkOffset, chunkLen)] }
      match _skipped : skipChunk data chunkLen with
      | none => none
      | some none => some (false, some map)
      | some (some after) => chunkLoop size (some map) after
termination_by rest.length
decreasing_by
  have behind := congrArg List.length (eq_of_skipChunk _skipped)
  have line : data.length ≤ rest.length := length_sizeLine_le rest
  simp only [List.length_drop, List.length_cons] at behind
  omega

/-- The loop body, with a map. -/
theorem chunkLoop_eq (size : Nat) (map : MessageMap) {rest : List UInt8} (some' : rest ≠ [])
    : chunkLoop size (some map) rest
      = let chunkLen := (sizeLine rest).1
        let data := (sizeLine rest).2
        if chunkLen = 0 then
          some (true, some { map with messageSize := size - data.length })
        else if data.length + 2 < chunkLen then some (false, some map)
        else
          let map := { map with spans := map.spans ++ [(size - data.length, chunkLen)] }
          (skipChunk data chunkLen).bind fun after =>
            match after with
            | none => some (false, some map)
            | some after => chunkLoop size (some map) after := by
  rw [chunkLoop, if_neg some']
  simp only [bind, Option.bind]
  split
  · rfl
  · split
    · rfl
    · split <;> next skipped => rw [skipped]

/-- Not enough content yet: the content length is known, and more than there is. -/
def waitsForContent (request : HTTPRequest) (available : Nat) : Bool :=
  decide (request.contentLength ≠ -1 ∧ (available : Int) < request.contentLength)

/-- The answer to a request that expects to be told to continue. -/
def sendContinue (request : HTTPRequest) (socket : StreamSocket) : StreamSocket :=
  if request.expectContinue && !socket.sentHTTPContinue then
    {
      socket with
      outBuffer := socket.outBuffer ++ continueResponse
      sentHTTPContinue := true
    }
  else socket

/-- `parseHeader`, with `read` for the request that Poco reads from the buffer, `none` if it
throws: whether the request is complete, the socket and the message map.
-/
def parseHeader (read : List UInt8 → Option HTTPRequest) (socket : StreamSocket)
    (map : Option MessageMap) : Option (Bool × StreamSocket × Option MessageMap) :=
  match find marker socket.inBuffer with
  | none => some (false, socket, map)
  | some position =>
      let body := position + marker.length
      let map := map.map fun map => { map with headerSize := body, messageSize := body }
      match read socket.inBuffer with
      | none => some (false, socket, map)
      | some request =>
          let available := socket.inBuffer.length - body
          if waitsForContent request available then some (false, socket, map)
          else
            let map := map.map fun map =>
              { map with
                messageSize := ((map.messageSize + request.contentLength) % 2 ^ 64).toNat }
            let socket := sendContinue request socket
            if request.chunked then do
              -- keep the header
              let map := map.map fun map => { map with spans := map.spans ++ [(0, body)] }
              let (complete, map) ←
                chunkLoop socket.inBuffer.length map (socket.inBuffer.drop body)
              some (complete, socket, map)
            else some (true, socket, map)

/-- What is sent takes nothing from the input. -/
theorem sendContinue_inBuffer (request : HTTPRequest) (socket : StreamSocket)
    : (sendContinue request socket).inBuffer = socket.inBuffer := by
  unfold sendContinue
  split <;> rfl

/-- `compactChunks`: whether anything was moved, the buffer and the message map. -/
def compactChunks (inBuffer : List UInt8) (map : MessageMap)
    : Option (Bool × List UInt8 × MessageMap) :=
  if map.spans = [] then some (false, inBuffer, map)
  else do
    let (buffer, newEnd) ← map.spans.foldlM moveFront (inBuffer, 0)
    let gap := map.messageSize - newEnd
    some (true, buffer.take newEnd ++ buffer.drop map.messageSize,
      { map with messageSize := map.messageSize - gap })

end NdcOdfWeb.Net
