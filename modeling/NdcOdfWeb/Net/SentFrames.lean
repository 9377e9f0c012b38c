import NdcOdfWeb.Net.Frames

/-! A message that one side sends is received by the other one. -/

namespace NdcOdfWeb.Net

open NdcOdfWeb.Foundation

/-- A message with data, of any data opcode. -/
structure DataMessage where
  code : WSOpCode
  data : List UInt8
  not_control : code.isControlFrame = false
  not_continuation : code ≠ .continuation
  data_ne_nil : data ≠ []
  data_lt : data.length < 2 ^ 63

/-- The frame of a message that is sent. -/
def DataMessage.frame (message : DataMessage) (isMasking : Bool) : Frame where
  fin := true
  code := message.code
  mask := if isMasking then some sentMask else none
  payload := message.data
  mask_length key member := by
    cases isMasking <;> cases member
    rfl
  payload_lt := message.data_lt

/-- The bytes sent are those of the frame. -/
theorem frameBytes_eq (message : DataMessage) (isMasking : Bool)
    : frameBytes isMasking message.data (finBit ||| message.code.toByte)
      = (message.frame isMasking).bytes := by
  cases isMasking <;> rfl

/-- Between two messages nothing is accumulated. -/
structure Idle (handler : WebSocketHandler) : Prop where
  inFragmentBlock : handler.inFragmentBlock = false
  wsPayload : handler.wsPayload = []

/-- An unfragmented data frame is handled as a message of its own. -/
theorem receiveFrame_single {connection : Connection} {frame : Frame} {rest : List UInt8}
    (idle : Idle connection.handler) (fin : frame.fin = true)
    (notControl : frame.code.isControlFrame = false)
    (notContinuation : frame.code ≠ .continuation)
    (allowed : (frame.mask.isSome && connection.handler.isClient) = false)
    : receiveFrame connection frame rest
      = some (true,
          {
            connection with
            socket.inBuffer := rest
            handled := connection.handled ++ [⟨true, frame.code, frame.payload⟩]
          }) := by
  obtain ⟨⟨wsPayload, shuttingDown, isClient, isMasking, inFragmentBlock, isManualDefrag, rule⟩,
    socket, handled⟩ := connection
  obtain ⟨idleBlock, idlePayload⟩ := idle
  simp only at idleBlock idlePayload allowed
  subst idleBlock idlePayload
  unfold receiveFrame
  simp only [allowed, notControl, Bool.false_eq_true, if_false, decide_eq_false notContinuation,
    ne_eq, not_true_eq_false, List.nil_append, handleDataFrame, fin, if_true]

/-- The bytes that `sendFrame` puts out for a message are the message for the other side,
whatever follows them.
-/
theorem sendFrame_handleTCPStream {sender receiver : Connection}
    (opposite : receiver.handler.isClient = !sender.handler.isClient)
    (isOpen : sender.socket.isClosed = false) (idle : Idle receiver.handler)
    (message : DataMessage) (rest : List UInt8)
    : ∃ bytes,
        (sendFrame sender.handler sender.socket message.data
            (finBit ||| message.code.toByte)).outBuffer
          = sender.socket.outBuffer ++ bytes
        ∧ handleTCPStream { receiver with socket.inBuffer := bytes ++ rest }
          = some (true,
              {
                receiver with
                socket.inBuffer := rest
                handled := receiver.handled ++ [⟨true, message.code, message.data⟩]
              }) := by
  refine ⟨(message.frame sender.handler.isMasking).bytes, ?_, ?_⟩
  · have sends : ¬ (message.data = [] ∨ sender.socket.isClosed = true) := by
      rintro (empty | closed)
      · exact message.data_ne_nil empty
      · rw [isOpen] at closed
        cases closed
    rw [sendFrame, if_neg sends, frameBytes_eq]
  · have allowed
        : ((message.frame sender.handler.isMasking).mask.isSome && receiver.handler.isClient)
          = false := by
      have rule := sender.handler.masking_client
      rw [opposite, DataMessage.frame]
      cases masking : sender.handler.isMasking with
      | false => rfl
      | true =>
          rw [rule masking]
          rfl
    rw [handleTCPStream_frame rfl]
    exact receiveFrame_single idle rfl message.not_control message.not_continuation allowed

/-- The constructor, with the role and the modes. -/
def WebSocketHandler.new (isClient isMasking isManualDefrag : Bool) : WebSocketHandler where
  wsPayload := []
  shuttingDown := false
  isClient := isClient
  isMasking := isClient && isMasking
  inFragmentBlock := false
  isManualDefrag := isManualDefrag
  masking_client both := (Bool.and_eq_true_iff.mp both).1

/-- A connection of a handler whose socket is upgraded. -/
def Connection.new (handler : WebSocketHandler) : Connection where
  handler := handler
  socket := ⟨[], [], true, false, false, false⟩
  handled := []

/-- A text from a client that masks. -/
theorem sendFrame_handleTCPStream_text
    : ∃ bytes,
        (sendFrame (.new true true false) (Connection.new (.new true true false)).socket
            [0x68, 0x69] (finBit ||| WSOpCode.text.toByte)).outBuffer
          = [] ++ bytes
        ∧ handleTCPStream
            { Connection.new (.new false false false) with socket.inBuffer := bytes ++ [0x81] }
          = some (true,
              {
                Connection.new (.new false false false) with
                socket.inBuffer := [0x81]
                handled := [] ++ [⟨true, .text, [0x68, 0x69]⟩]
              }) := by
  have opposite : (Connection.new (.new false false false)).handler.isClient
      = !(Connection.new (.new true true false)).handler.isClient := rfl
  exact sendFrame_handleTCPStream opposite rfl ⟨rfl, rfl⟩
    ⟨.text, [0x68, 0x69], rfl, by decide, by decide, by decide⟩ [0x81]

end NdcOdfWeb.Net
