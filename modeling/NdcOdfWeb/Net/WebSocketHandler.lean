import NdcOdfWeb.Foundation.Blocks

/-! The WebSocket side of a connection (`WebSocketHandler`).
Flushing moves bytes from the output buffer to the peer in order; the output here is all of
them, flushed or not.
-/

namespace NdcOdfWeb.Net

open NdcOdfWeb.Foundation

/-- `WSOpCode`, an enumeration over four bits. -/
inductive WSOpCode where
  | continuation
  | text
  | binary
  | reserved1
  | reserved2
  | reserved3
  | reserved4
  | reserved5
  | close
  | ping
  | pong
  | unknown (n : Fin 5)
deriving DecidableEq

/-- The byte of an opcode. -/
def WSOpCode.toByte : WSOpCode → UInt8
  | continuation => 0x0
  | text => 0x1
  | binary => 0x2
  | reserved1 => 0x3
  | reserved2 => 0x4
  | reserved3 => 0x5
  | reserved4 => 0x6
  | reserved5 => 0x7
  | close => 0x8
  | ping => 0x9
  | pong => 0xa
  | unknown n => 0xb + UInt8.ofNat n

/-- The opcode in the lower four bits of a byte. -/
def WSOpCode.ofByte (byte : UInt8) : WSOpCode :=
  match (byte &&& 0x0f).toNat with
  | 0x0 => continuation
  | 0x1 => text
  | 0x2 => binary
  | 0x3 => reserved1
  | 0x4 => reserved2
  | 0x5 => reserved3
  | 0x6 => reserved4
  | 0x7 => reserved5
  | 0x8 => close
  | 0x9 => ping
  | 0xa => pong
  | n => unknown (Fin.ofNat 5 (n - 0xb))

def WSOpCode.isControlFrame (code : WSOpCode) : Bool :=
  decide (WSOpCode.close.toByte ≤ code.toByte)

/-- `StatusCodes`: an unsigned 16-bit number. -/
abbrev StatusCode := UInt16

def normalClose : StatusCode := 1000

def protocolError : StatusCode := 1002

def policyViolation : StatusCode := 1008

/-- `StreamSocket`, as far as its handlers use it. -/
structure StreamSocket where
  inBuffer : List UInt8
  outBuffer : List UInt8
  isWebSocket : Bool
  isClosed : Bool
  connectionClosed : Bool
  sentHTTPContinue : Bool

/-- A call of `handleMessage`. -/
structure HandledMessage where
  fin : Bool
  code : WSOpCode
  data : List UInt8

/-- `WebSocketHandler`: only clients mask. -/
structure WebSocketHandler where
  wsPayload : List UInt8
  shuttingDown : Bool
  isClient : Bool
  isMasking : Bool
  inFragmentBlock : Bool
  isManualDefrag : Bool
  masking_client : isMasking = true → isClient = true

/-- A handler with its socket, and the messages handled so far. -/
structure Connection where
  handler : WebSocketHandler
  socket : StreamSocket
  handled : List HandledMessage

/-- The bits `Fin` and `Mask`. -/
def finBit : UInt8 := 0x80

def maskBit : UInt8 := 0x80

/-- The byte of a number at a bit position. -/
def byteAt (n shift : Nat) : UInt8 :=
  UInt8.ofNat ((n >>> shift) &&& 0xff)

/-- The length of a frame's data, in one, three or nine bytes. -/
def lengthBytes (len : Nat) (maskFlag : UInt8) : List UInt8 :=
  if len < 126 then [UInt8.ofNat len ||| maskFlag]
  else if len ≤ 0xffff then [126 ||| maskFlag, byteAt len 8, byteAt len 0]
  else
    [127 ||| maskFlag, byteAt len 56, byteAt len 48, byteAt len 40, byteAt len 32,
      byteAt len 24, byteAt len 16, byteAt len 8, byteAt len 0]

/-- Flip the bits of data with a mask of four bytes. -/
def applyMask (mask data : List UInt8) : List UInt8 :=
  data.mapIdx (fun i byte => byte ^^^ mask.getD (i % 4) 0)

/-- The mask of every frame that is sent. -/
def sentMask : List UInt8 :=
  [0x81, 0x76, 0x81, 0x76]

/-- The bytes that `sendFrame` appends to the output buffer. -/
def frameBytes (isMasking : Bool) (data : List UInt8) (flags : UInt8) : List UInt8 :=
  flags :: lengthBytes data.length (if isMasking then maskBit else 0)
    ++ if isMasking then sentMask ++ applyMask sentMask data else data

/-- `sendFrame`: no frame for empty data or a closed socket. -/
def sendFrame (handler : WebSocketHandler) (socket : StreamSocket) (data : List UInt8)
    (flags : UInt8) : StreamSocket :=
  if data = [] ∨ socket.isClosed = true then socket
  else { socket with outBuffer := socket.outBuffer ++ frameBytes handler.isMasking data flags }

/-- `sendMessage`: one frame for the whole message. -/
def sendMessage (handler : WebSocketHandler) (socket : StreamSocket) (data : List UInt8)
    (code : WSOpCode) : StreamSocket :=
  sendFrame handler socket data (finBit ||| code.toByte)

def sendCloseFrame (connection : Connection) (statusCode : StatusCode)
    (statusMessage : List UInt8) : Connection :=
  let buf := (statusCode >>> 8).toUInt8 :: statusCode.toUInt8 :: statusMessage
  {
    connection with
    handler.shuttingDown := true
    socket :=
      sendFrame connection.handler connection.socket buf (finBit ||| WSOpCode.close.toByte)
  }

def shutdown (connection : Connection) (statusCode : StatusCode) (statusMessage : List UInt8)
    : Connection :=
  let sent :=
    if connection.handler.shuttingDown then connection
    else sendCloseFrame connection statusCode statusMessage
  {
    sent with
    handler.wsPayload := []
    handler.inFragmentBlock := false
    handler.shuttingDown := false
    socket.inBuffer := []
    socket.connectionClosed := true
  }

/-- `sendPong`: not before the socket is upgraded. -/
def sendPong (connection : Connection) (data : List UInt8) : Connection :=
  if connection.socket.isWebSocket then
    { connection with socket := sendMessage connection.handler connection.socket data .pong }
  else connection

-----------------------------------------------------------------------------------------
-- Frames that are received
-----------------------------------------------------------------------------------------

/-- The length of the payload and the position behind it, `none` for a partial read. -/
def payloadLength (buffer : List UInt8) : Option (Nat × Nat) :=
  let p := fun i => (buffer.getD i 0).toNat
  let payloadLen := p 1 &&& 0x7f
  if payloadLen = 126 then
    if buffer.length < 2 + 2 then none else some ((p 2 <<< 8) ||| p 3, 4)
  else if payloadLen = 127 then
    if buffer.length < 2 + 8 then none
    else
      some ((p 9 + (p 8 <<< 8) + (p 7 <<< 16) + (p 6 <<< 24) + (p 5 <<< 32) + (p 4 <<< 40)
        + (p 3 <<< 48) + (p 2 <<< 56)) % 2 ^ 64, 10)
  else some (payloadLen, 2)

/-- `readPayload`, with positions in the buffer for its pointers: `none` where it reads
outside of the buffer.
-/
def readPayload (buffer : List UInt8) (data dataLen : Nat) (mask : Option Nat)
    (payload : List UInt8) : Option (List UInt8) :=
  if dataLen = 0 then some payload
  else do
    let bytes ← slice buffer data dataLen
    match mask with
    | none => some (payload ++ bytes)
    | some position => do
        let key ← slice buffer position 4
        some (payload ++ applyMask key bytes)

/-- What a control frame does, once it is read and erased. A close frame with a single byte
has no second one to read.
-/
def handleControlFrame (connection : Connection) (fin : Bool) (code : WSOpCode)
    (ctrlPayload : List UInt8) : Option Connection :=
  -- All control frames MUST NOT be fragmented and MUST have a payload length of 125 bytes
  -- or less
  if fin = false ∨ 125 < ctrlPayload.length then some (shutdown connection protocolError [])
  else
    match code with
    | .pong =>
        if connection.handler.isClient then some (shutdown connection policyViolation [])
        else some connection
    | .ping =>
        if connection.handler.isClient then some (sendPong connection ctrlPayload)
        else some (shutdown connection policyViolation [])
    | .close =>
        if connection.handler.shuttingDown then some (shutdown connection normalClose [])
        else
          match ctrlPayload with
          | [] => some (shutdown connection normalClose [])
          | [_] => none
          | high :: low :: message =>
              some (shutdown connection ((high.toUInt16 <<< 8) + low.toUInt16) message)
    | _ => some (shutdown connection protocolError [])

/-- What a data frame does, once it is read and erased. -/
def handleDataFrame (connection : Connection) (fin : Bool) (code : WSOpCode)
    : Bool × Connection :=
  let handled := connection.handled ++ [⟨fin, code, connection.handler.wsPayload⟩]
  if fin then
    (true,
      { connection with handler.inFragmentBlock := false, handler.wsPayload := [], handled })
  else if connection.handler.isManualDefrag then
    (true,
      { connection with handler.inFragmentBlock := true, handler.wsPayload := [], handled })
  else (false, { connection with handler.inFragmentBlock := true })

/-- `handleTCPStream`: `none` where it reads outside of the buffer. -/
def handleTCPStream (connection : Connection) : Option (Bool × Connection) :=
  let buffer := connection.socket.inBuffer
  if buffer.length < 2 then some (false, connection)
  else
    let fin := decide (buffer.getD 0 0 &&& finBit ≠ 0)
    let code := WSOpCode.ofByte (buffer.getD 0 0)
    let hasMask := decide (buffer.getD 1 0 &&& maskBit ≠ 0)
    match payloadLength buffer with
    | none => some (false, connection)
    | some (payloadLen, lengthEnd) =>
        let mask := if hasMask then some lengthEnd else none
        let headerLen := if hasMask then lengthEnd + 4 else lengthEnd
        if buffer.length < (payloadLen + headerLen) % 2 ^ 64 then some (false, connection)
        else if hasMask && connection.handler.isClient then
          some (true, shutdown connection protocolError [])
        else if code.isControlFrame then do
          let ctrlPayload ← readPayload buffer headerLen payloadLen mask []
          let next ←
            handleControlFrame
              { connection with socket.inBuffer := buffer.drop (headerLen + payloadLen) } fin
              code ctrlPayload
          some (true, next)
        else if connection.handler.inFragmentBlock ≠ decide (code = .continuation) then
          some (true, shutdown connection protocolError [])
        else do
          let wsPayload ←
            readPayload buffer headerLen payloadLen mask connection.handler.wsPayload
          some
            (handleDataFrame
              {
                connection with
                handler.wsPayload := wsPayload
                socket.inBuffer := buffer.drop (headerLen + payloadLen)
              }
              fin code)

end NdcOdfWeb.Net
