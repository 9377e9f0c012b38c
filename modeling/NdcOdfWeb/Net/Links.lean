import NdcOdfWeb.Foundation.StepRun
import NdcOdfWeb.Net.FrameStreams

/-! A server's handler and its client's, with the connection between them. Both send messages, the
server sends pings, and every read may bring any part of what is under way.
-/

namespace NdcOdfWeb.Net

open NdcOdfWeb.Foundation

-----------------------------------------------------------------------------------------
-- Both ends
-----------------------------------------------------------------------------------------

inductive Side where
  | server
  | client
deriving DecidableEq

namespace Side

def other : Side → Side
  | server => client
  | client => server

def isClient : Side → Bool
  | server => false
  | client => true

/-- The peer of the peer is the side itself. -/
theorem other_other (side : Side) : side.other.other = side := by
  cases side <;> rfl

/-- The peer is another side. -/
theorem other_ne (side : Side) : side.other ≠ side := by
  cases side <;> decide

/-- There are two sides. -/
theorem eq_or_other (side this : Side) : side = this ∨ side = this.other := by
  cases side <;> cases this <;> decide

/-- One of the sides is the client. -/
theorem isClient_other (side : Side) : side.other.isClient = !side.isClient := by
  cases side <;> rfl

end Side

/-- The ends, the bytes on their way to each of them, and the messages that each has sent. -/
structure Link where
  ends : Side → Connection
  wire : Side → List UInt8
  sent : Side → List DataMessage

/-- What happens at an end: a message is sent, a ping is due, and some bytes are written or read. -/
inductive LinkEvent where
  | send (side : Side) (message : DataMessage)
  | ping
  | write (side : Side) (count : Nat)
  | read (side : Side) (count : Nat)

/-- `sendPing`: not before the socket is upgraded. -/
def sendPing (connection : Connection) : Connection :=
  if connection.socket.isWebSocket then
    { connection with socket := sendMessage connection.handler connection.socket [0] .ping }
  else connection

namespace Link

/-- Two ends that are upgraded. -/
def start (isMasking : Bool) (isManualDefrag : Side → Bool) : Link where
  ends side := .new (.new side.isClient isMasking (isManualDefrag side))
  wire _ := []
  sent _ := []

/-- `sendMessage`, `checkTimeout` of the server, `writeOutgoingData`, and `handlePoll` with what
`readIncomingData` has got. There is no step where a handler reads outside of its buffers.
-/
def step (link : Link) : LinkEvent → Option Link
  | .send side message =>
      let connection := link.ends side
      some
        {
          link with
          ends :=
            Function.update link.ends side
              {
                connection with
                socket :=
                  sendMessage connection.handler connection.socket message.data message.code
              }
          sent := Function.update link.sent side (link.sent side ++ [message])
        }
  | .ping =>
      some
        { link with ends := Function.update link.ends .server (sendPing (link.ends .server)) }
  | .write side count =>
      let connection := link.ends side
      some
        {
          link with
          ends :=
            Function.update link.ends side
              { connection with socket.outBuffer := connection.socket.outBuffer.drop count }
          wire :=
            Function.update link.wire side.other
              (link.wire side.other ++ connection.socket.outBuffer.take count)
        }
  | .read side count =>
      (receive (link.ends side) ((link.wire side).take count)).map (fun connection =>
        {
          link with
          ends := Function.update link.ends side connection
          wire := Function.update link.wire side ((link.wire side).drop count)
        })

end Link

-----------------------------------------------------------------------------------------
-- The frames on a link
-----------------------------------------------------------------------------------------

/-- A mask has four bytes. -/
theorem length_sentMask (isMasking : Bool)
    : ∀ key ∈ if isMasking then some sentMask else none, key.length = 4 := by
  intro key member
  cases isMasking <;> cases member
  rfl

/-- A ping is short enough for a frame. -/
theorem length_beat : [(0 : UInt8)].length < 2 ^ 63 := by
  decide

/-- A ping or a pong, with the byte that `sendPing` sends. -/
def beat (code : WSOpCode) (isMasking : Bool) : Frame where
  fin := true
  code := code
  mask := if isMasking then some sentMask else none
  payload := [0]
  mask_length := length_sentMask isMasking
  payload_lt := length_beat

/-- The frames that an end may get: of messages, the server's pings, and the client's pongs. Only
the server gets masked ones.
-/
inductive LinkFrame : Side → Frame → Prop where
  | message {side} (message : DataMessage) {isMasking : Bool}
    (allowed : (isMasking && side.isClient) = false)
    : LinkFrame side (message.frame isMasking)
  | ping : LinkFrame .client (beat .ping false)
  | pong (isMasking : Bool) : LinkFrame .server (beat .pong isMasking)

/-- The message of a frame, if it is not a ping or a pong. -/
def messageOf (frame : Frame) : Option HandledMessage :=
  if frame.code.isControlFrame then none else some ⟨true, frame.code, frame.payload⟩

/-- A message as the other end handles it. -/
def DataMessage.handled (message : DataMessage) : HandledMessage :=
  ⟨true, message.code, message.data⟩

/-- An end that is upgraded, has not been closed, and waits for the next frame. -/
structure OpenEnd (side : Side) (connection : Connection) : Prop where
  role : connection.handler.isClient = side.isClient
  idle : Idle connection.handler
  isWebSocket : connection.socket.isWebSocket = true
  isOpen : connection.socket.isClosed = false
  connected : connection.socket.connectionClosed = false

/-- What an end does with a frame. -/
def applyLinkFrame (connection : Connection) (frame : Frame) : Connection :=
  if frame.code = .ping then sendPong connection frame.payload
  else if frame.code = .pong then connection
  else { connection with handled := connection.handled ++ [⟨true, frame.code, frame.payload⟩] }

/-- A message is no ping and no pong, as those are control frames. -/
theorem DataMessage.code_ne (message : DataMessage)
    : message.code ≠ .ping ∧ message.code ≠ .pong := by
  constructor
  · intro ping
    have control := message.not_control
    rw [ping] at control
    cases control
  · intro pong
    have control := message.not_control
    rw [pong] at control
    cases control

/-- A frame on the link is handled, and the end stays open. -/
theorem receiveFrame_link {side : Side} {connection : Connection} {frame : Frame}
    (open' : OpenEnd side connection) (expected : LinkFrame side frame) (rest : List UInt8)
    : receiveFrame connection frame rest
      = some (true, { applyLinkFrame connection frame with socket.inBuffer := rest }) := by
  cases expected with
  | @message _ message isMasking allowed =>
      obtain ⟨notPing, notPong⟩ := message.code_ne
      have unmasked
          : ((message.frame isMasking).mask.isSome && connection.handler.isClient) = false := by
        rw [open'.role, DataMessage.frame]
        cases isMasking with
        | false => rfl
        | true => exact allowed
      rw [receiveFrame_single open'.idle rfl message.not_control message.not_continuation unmasked,
        applyLinkFrame, DataMessage.frame, if_neg notPing, if_neg notPong]
  | ping =>
      have client := open'.role
      have control : WSOpCode.ping.isControlFrame = true := by decide
      simp [receiveFrame, applyLinkFrame, beat, handleControlFrame, client, control, Side.isClient,
        sendPong, open'.isWebSocket, sendMessage, sendFrame, open'.isOpen]
  | pong isMasking =>
      have server := open'.role
      have control : WSOpCode.pong.isControlFrame = true := by decide
      simp [receiveFrame, applyLinkFrame, beat, handleControlFrame, server, control, Side.isClient]

/-- Sending only writes to the output. -/
theorem sendMessage_outBuffer (handler : WebSocketHandler) (socket : StreamSocket)
    (data : List UInt8) (code : WSOpCode)
    : ∃ outBuffer, sendMessage handler socket data code = { socket with outBuffer } := by
  unfold sendMessage sendFrame
  split
  · exact ⟨socket.outBuffer, rfl⟩
  · exact ⟨_, rfl⟩

/-- An end stays open, whatever is in its buffers. -/
theorem OpenEnd.withSocket {side : Side} {connection : Connection}
    (open' : OpenEnd side connection) (inBuffer outBuffer : List UInt8)
    : OpenEnd side { connection with socket := { connection.socket with inBuffer, outBuffer } } :=
  { open' with }

/-- An end stays open when it applies a frame of its peer. -/
theorem OpenEnd.apply {side : Side} {connection : Connection} (open' : OpenEnd side connection)
    (frame : Frame)
    : OpenEnd side (applyLinkFrame connection frame) := by
  unfold applyLinkFrame
  split
  · obtain ⟨outBuffer, sent⟩ :=
      sendMessage_outBuffer connection.handler connection.socket frame.payload .pong
    rw [sendPong, if_pos open'.isWebSocket, sent]
    exact open'.withSocket connection.socket.inBuffer outBuffer
  · split
    · exact open'
    · exact { open' with }

/-- Sending does not look at the input. -/
theorem sendMessage_withInput (handler : WebSocketHandler) (socket : StreamSocket)
    (data : List UInt8) (code : WSOpCode) (inBuffer : List UInt8)
    : sendMessage handler { socket with inBuffer } data code
      = { sendMessage handler socket data code with inBuffer } := by
  unfold sendMessage sendFrame
  dsimp only
  split <;> rfl

/-- Applying a frame does not look at the input behind it. -/
theorem applyLinkFrame_withInput (connection : Connection) (frame : Frame)
    (inBuffer : List UInt8)
    : applyLinkFrame { connection with socket.inBuffer := inBuffer } frame
      = { applyLinkFrame connection frame with socket.inBuffer := inBuffer } := by
  unfold applyLinkFrame
  split
  · unfold sendPong
    dsimp only
    split
    · rw [sendMessage_withInput]
    · rfl
  · split <;> rfl

/-- Without input, nothing is done. -/
theorem handleInput_rests (connection : Connection)
    : handleInput { connection with socket.inBuffer := [] }
      = some { connection with socket.inBuffer := [] } := by
  rw [handleInput, if_pos rfl]

/-- The input that was put there. -/
theorem inBuffer_withInput (connection : Connection) (bytes : List UInt8)
    : ({ connection with socket.inBuffer := bytes } : Connection).socket.inBuffer = bytes :=
  rfl

/-- The last input counts. -/
theorem withInput_again (connection : Connection) (old new : List UInt8)
    : ({
          ({ connection with socket.inBuffer := old } : Connection) with
          socket.inBuffer := new
        } : Connection)
      = { connection with socket.inBuffer := new } :=
  rfl

/-- A part of a frame stays in the input. -/
theorem handleInput_linkPart {side : Side} (connection : Connection) (frame : Frame)
    (part missing : List UInt8) (_ : OpenEnd side connection ∧ LinkFrame side frame)
    (cut : missing ≠ []) (whole : part ++ missing = frame.bytes)
    : handleInput { connection with socket.inBuffer := part }
      = some { connection with socket.inBuffer := part } :=
  handleInput_waits (handleTCPStream_part cut whole)

/-- A whole frame is consumed. -/
theorem handleInput_linkFrame {side : Side} (connection : Connection) (frame : Frame)
    (rest : List UInt8) (accepted : OpenEnd side connection ∧ LinkFrame side frame)
    : handleInput { connection with socket.inBuffer := frame.bytes ++ rest }
      = handleInput { applyLinkFrame connection frame with socket.inBuffer := rest } := by
  obtain ⟨open', expected⟩ := accepted
  have whole : OpenEnd side { connection with socket.inBuffer := frame.bytes ++ rest } :=
    { open' with }
  have step := (handleTCPStream_frame rfl).trans (receiveFrame_link whole expected rest)
  rw [applyLinkFrame_withInput] at step
  exact handleInput_step step (frame.length_rest_lt rest)

/-- The end of a link as a reader of frames. -/
def linkReader (side : Side) : FrameReader Connection Frame UInt8 where
  withInput connection bytes := { connection with socket.inBuffer := bytes }
  input connection := connection.socket.inBuffer
  run := handleInput
  bytes := Frame.bytes
  accepts connection frame := OpenEnd side connection ∧ LinkFrame side frame
  apply := applyLinkFrame
  input_withInput := inBuffer_withInput
  withInput_withInput := withInput_again
  bytes_ne_nil := Frame.bytes_ne_nil
  rests := handleInput_rests
  waits := handleInput_linkPart
  reads := handleInput_linkFrame

/-- An open end accepts all frames of its peer, by induction on them. -/
theorem LinkFrame.acceptsAll {side : Side} {connection : Connection}
    (open' : OpenEnd side connection) {frames : List Frame}
    (expected : ∀ frame ∈ frames, LinkFrame side frame)
    : (linkReader side).AcceptsAll connection frames := by
  induction frames generalizing connection with
  | nil => trivial
  | cons frame frames ih =>
      rw [List.forall_mem_cons] at expected
      exact ⟨⟨open', expected.1⟩, ih (open'.apply frame) expected.2⟩

-----------------------------------------------------------------------------------------
-- What the frames do
-----------------------------------------------------------------------------------------

/-- The messages are handled, and every ping is answered. -/
structure Answers (side : Side) (connection next : Connection) (messages : List HandledMessage)
    : Prop where
  open' : OpenEnd side next
  handled : next.handled = connection.handled ++ messages
  outBuffer
    : ∃ pongs : List Frame,
        (∀ pong ∈ pongs, LinkFrame side.other pong ∧ messageOf pong = none)
        ∧ next.socket.outBuffer = connection.socket.outBuffer ++ pongs.flatMap Frame.bytes

/-- Without frames, nothing is answered. -/
theorem Answers.refl {side : Side} {connection : Connection} (open' : OpenEnd side connection)
    : Answers side connection connection [] :=
  ⟨open', (List.append_nil _).symm, [], List.forall_mem_nil _, (List.append_nil _).symm⟩

/-- The answers to more frames come behind the first ones. -/
theorem Answers.trans {side : Side} {connection next final : Connection}
    {messages more : List HandledMessage} (first : Answers side connection next messages)
    (second : Answers side next final more)
    : Answers side connection final (messages ++ more) := by
  obtain ⟨pongs, expected, written⟩ := first.outBuffer
  obtain ⟨others, expected', written'⟩ := second.outBuffer
  refine ⟨second.open', ?_, pongs ++ others, ?_, ?_⟩
  · rw [second.handled, first.handled, List.append_assoc]
  · exact List.forall_mem_append.mpr ⟨expected, expected'⟩
  · rw [written', written, List.flatMap_append, List.append_assoc]

/-- A message is written as its frame. -/
theorem sendMessage_bytes {side : Side} {connection : Connection}
    (open' : OpenEnd side connection) {data : List UInt8} (some' : data ≠ []) (code : WSOpCode)
    : (sendMessage connection.handler connection.socket data code).outBuffer
      = connection.socket.outBuffer
        ++ frameBytes connection.handler.isMasking data (finBit ||| code.toByte) := by
  have sends : ¬ (data = [] ∨ connection.socket.isClosed = true) := by
    rintro (empty | closed)
    · exact some' empty
    · exact absurd (open'.isOpen.symm.trans closed) Bool.false_ne_true
  rw [sendMessage, sendFrame, if_neg sends]

/-- A ping or a pong is written as its frame. -/
theorem beat_bytes (code : WSOpCode) (isMasking : Bool)
    : frameBytes isMasking [0] (finBit ||| code.toByte) = (beat code isMasking).bytes := by
  cases isMasking <;> rfl

/-- A ping or a pong is no message to handle. -/
theorem beat_messageOf {code : WSOpCode} (control : code.isControlFrame = true)
    (isMasking : Bool)
    : messageOf (beat code isMasking) = none :=
  if_pos control

/-- The frame of a message is handled as the message. -/
theorem message_messageOf (message : DataMessage) (isMasking : Bool)
    : messageOf (message.frame isMasking) = some message.handled := by
  have data : (message.frame isMasking).code.isControlFrame = false := message.not_control
  rw [messageOf, data]
  rfl

/-- A frame on the link is handled as it should be. -/
theorem applyLinkFrame_answers {side : Side} {connection : Connection} {frame : Frame}
    (open' : OpenEnd side connection) (expected : LinkFrame side frame)
    : Answers side connection (applyLinkFrame connection frame) (messageOf frame).toList := by
  have stays := open'.apply frame
  cases expected with
  | @message _ message isMasking allowed =>
      obtain ⟨notPing, notPong⟩ := message.code_ne
      have applied
          : applyLinkFrame connection (message.frame isMasking)
            = { connection with handled := connection.handled ++ [message.handled] } := by
        rw [applyLinkFrame, DataMessage.frame, if_neg notPing, if_neg notPong]
        rfl
      rw [applied] at stays ⊢
      rw [message_messageOf]
      exact ⟨stays, rfl, [], List.forall_mem_nil _, (List.append_nil _).symm⟩
  | ping =>
      have applied
          : applyLinkFrame connection (beat .ping false)
            = {
                connection with
                socket := sendMessage connection.handler connection.socket [0] .pong
              } := by
        rw [applyLinkFrame, beat, if_pos rfl, sendPong, if_pos open'.isWebSocket]
      have written := sendMessage_bytes open' (List.cons_ne_nil 0 []) .pong
      rw [beat_bytes] at written
      rw [applied] at stays ⊢
      rw [beat_messageOf (by decide)]
      refine ⟨stays, (List.append_nil _).symm, [beat .pong connection.handler.isMasking],
        ?_, ?_⟩
      · rw [List.forall_mem_singleton]
        exact ⟨.pong _, beat_messageOf (by decide) _⟩
      · rw [List.flatMap_singleton]
        exact written
  | pong isMasking =>
      have applied : applyLinkFrame connection (beat .pong isMasking) = connection := rfl
      rw [applied, beat_messageOf (by decide)]
      exact .refl open'

/-- The frames of the peer are handled one by one, by induction on them. -/
theorem applyLinkFrames_answers {side : Side} {connection : Connection}
    (open' : OpenEnd side connection) {frames : List Frame}
    (expected : ∀ frame ∈ frames, LinkFrame side frame)
    : Answers side connection (frames.foldl applyLinkFrame connection)
        (frames.filterMap messageOf) := by
  induction frames generalizing connection with
  | nil => exact .refl open'
  | cons frame frames ih =>
      rw [List.forall_mem_cons] at expected
      have here := applyLinkFrame_answers open' expected.1
      have later := here.trans (ih here.open' expected.2)
      rw [List.foldl_cons, List.filterMap_cons]
      cases message : messageOf frame with
      | none =>
          rw [message] at later
          exact later
      | some handled =>
          rw [message] at later
          exact later

-----------------------------------------------------------------------------------------
-- Runs
-----------------------------------------------------------------------------------------

/-- What is under way to an end, in its input and ahead of it, are frames that it expects, with
the messages that it has not handled yet. Where nothing is ahead, nothing is left.
-/
structure UnderWay (side : Side) (handled : List HandledMessage) (inBuffer ahead : List UInt8)
    (sent : List DataMessage) (frames : List Frame) : Prop where
  expected : ∀ frame ∈ frames, LinkFrame side frame
  bytes : inBuffer ++ ahead = frames.flatMap Frame.bytes
  messages : handled ++ frames.filterMap messageOf = sent.map DataMessage.handled
  whole : ahead = [] → frames = []

/-- More frames are sent. -/
theorem UnderWay.append {side : Side} {handled : List HandledMessage}
    {inBuffer ahead : List UInt8} {sent : List DataMessage} {frames : List Frame}
    (underWay : UnderWay side handled inBuffer ahead sent frames) {more : List Frame}
    {messages : List DataMessage} (expected : ∀ frame ∈ more, LinkFrame side frame)
    (same : more.filterMap messageOf = messages.map DataMessage.handled)
    : UnderWay side handled inBuffer (ahead ++ more.flatMap Frame.bytes) (sent ++ messages)
        (frames ++ more) where
  expected := List.forall_mem_append.mpr ⟨underWay.expected, expected⟩
  bytes := by rw [← List.append_assoc, underWay.bytes, List.flatMap_append]
  messages := by
    rw [List.filterMap_append, ← List.append_assoc, underWay.messages, same, List.map_append]
  whole nothing := by
    obtain ⟨first, second⟩ := List.append_eq_nil_iff.mp nothing
    rw [underWay.whole first]
    cases more with
    | nil => rfl
    | cons frame more =>
        rw [List.flatMap_cons] at second
        exact absurd (List.append_eq_nil_iff.mp second).1 frame.bytes_ne_nil

/-- A read handles the frames that are whole with it. -/
theorem UnderWay.read {side : Side} {connection : Connection} (open' : OpenEnd side connection)
    {read ahead : List UInt8} {sent : List DataMessage} {frames : List Frame}
    (underWay
      : UnderWay side connection.handled connection.socket.inBuffer (read ++ ahead) sent frames)
    : ∃ next done rest,
        receive connection read = some next
        ∧ Answers side connection next done
        ∧ UnderWay side next.handled next.socket.inBuffer ahead sent rest := by
  have accepted := LinkFrame.acceptsAll open' underWay.expected
  have stream := underWay.bytes
  rw [← List.append_assoc] at stream
  obtain ⟨done, rest, left, split, ran, remaining, last⟩ :=
    FrameReader.run_part accepted stream
  subst split
  obtain ⟨here, later⟩ := List.forall_mem_append.mp underWay.expected
  have answers := applyLinkFrames_answers open' here
  have messages := underWay.messages
  rw [List.filterMap_append, ← List.append_assoc, ← answers.handled] at messages
  refine ⟨_, done.filterMap messageOf, rest, ran, ?_, ?_⟩
  · exact
      {
        open' := answers.open'.withSocket left _
        handled := answers.handled
        outBuffer := answers.outBuffer
      }
  · exact { expected := later, bytes := remaining, messages, whole := last }

namespace Link

/-- Both ends are open, and what is under way to each of them is in order. -/
structure Good (link : Link) : Prop where
  open' : ∀ side, OpenEnd side (link.ends side)
  underWay
    : ∀ side, ∃ frames,
        UnderWay side (link.ends side).handled (link.ends side).socket.inBuffer
          (link.wire side ++ (link.ends side.other).socket.outBuffer) (link.sent side.other)
          frames

/-- At first, both ends are open and nothing is under way. -/
theorem good_start (isMasking : Bool) (isManualDefrag : Side → Bool)
    : (start isMasking isManualDefrag).Good where
  open' _ := ⟨rfl, ⟨rfl, rfl⟩, rfl, rfl, rfl⟩
  underWay _ := ⟨[], List.forall_mem_nil _, rfl, rfl, fun _ => rfl⟩

/-- An end sends frames. -/
theorem Good.sends {link : Link} (good : link.Good) {side : Side} {connection : Connection}
    (open' : OpenEnd side connection) (handled : connection.handled = (link.ends side).handled)
    (inBuffer : connection.socket.inBuffer = (link.ends side).socket.inBuffer)
    {frames : List Frame} (expected : ∀ frame ∈ frames, LinkFrame side.other frame)
    (written
      : connection.socket.outBuffer
        = (link.ends side).socket.outBuffer ++ frames.flatMap Frame.bytes)
    {messages : List DataMessage}
    (same : frames.filterMap messageOf = messages.map DataMessage.handled)
    : Good
        {
          link with
          ends := Function.update link.ends side connection
          sent := Function.update link.sent side (link.sent side ++ messages)
        } where
  open' this := by
    dsimp only
    rcases this.eq_or_other side with rfl | rfl
    · rw [Function.update_self]
      exact open'
    · rw [Function.update_of_ne side.other_ne]
      exact good.open' side.other
  underWay this := by
    obtain ⟨pending, underWay⟩ := good.underWay this
    rcases this.eq_or_other side with rfl | rfl
    · refine ⟨pending, ?_⟩
      dsimp only
      rw [Function.update_self, Function.update_of_ne this.other_ne,
        Function.update_of_ne this.other_ne, handled, inBuffer]
      exact underWay
    · refine ⟨pending ++ frames, ?_⟩
      rw [Side.other_other] at underWay
      dsimp only
      rw [Side.other_other, Function.update_self, Function.update_self,
        Function.update_of_ne side.other_ne, written, ← List.append_assoc]
      exact underWay.append expected same

/-- Bytes go from the output buffer to the wire. -/
theorem Good.writes {link : Link} (good : link.Good) (side : Side) (count : Nat)
    : Good
        {
          link with
          ends :=
            Function.update link.ends side
              {
                link.ends side with
                socket.outBuffer := (link.ends side).socket.outBuffer.drop count
              }
          wire :=
            Function.update link.wire side.other
              (link.wire side.other ++ (link.ends side).socket.outBuffer.take count)
        } where
  open' this := by
    dsimp only
    rcases this.eq_or_other side with rfl | rfl
    · rw [Function.update_self]
      exact (good.open' this).withSocket _ _
    · rw [Function.update_of_ne side.other_ne]
      exact good.open' side.other
  underWay this := by
    obtain ⟨pending, underWay⟩ := good.underWay this
    refine ⟨pending, ?_⟩
    rcases this.eq_or_other side with rfl | rfl
    · dsimp only
      rw [Function.update_self, Function.update_of_ne this.other_ne,
        Function.update_of_ne this.other_ne.symm]
      exact underWay
    · rw [Side.other_other] at underWay
      dsimp only
      rw [Side.other_other, Function.update_self, Function.update_self,
        Function.update_of_ne side.other_ne, List.append_assoc, List.take_append_drop]
      exact underWay

/-- An end reads. -/
theorem Good.reads {link : Link} (good : link.Good) (side : Side) (count : Nat)
    : ∃ connection,
        receive (link.ends side) ((link.wire side).take count) = some connection
        ∧ Good
            {
              link with
              ends := Function.update link.ends side connection
              wire := Function.update link.wire side ((link.wire side).drop count)
            } := by
  obtain ⟨frames, underWay⟩ := good.underWay side
  rw [← List.take_append_drop count (link.wire side), List.append_assoc] at underWay
  obtain ⟨next, done, rest, received, answers, left⟩ := underWay.read (good.open' side)
  refine ⟨next, received, ?_, ?_⟩
  · intro this
    dsimp only
    rcases this.eq_or_other side with rfl | rfl
    · rw [Function.update_self]
      exact answers.open'
    · rw [Function.update_of_ne side.other_ne]
      exact good.open' side.other
  · intro this
    rcases this.eq_or_other side with rfl | rfl
    · refine ⟨rest, ?_⟩
      dsimp only
      rw [Function.update_self, Function.update_self, Function.update_of_ne this.other_ne]
      exact left
    · obtain ⟨pongs, expected, written⟩ := answers.outBuffer
      obtain ⟨pending, back⟩ := good.underWay side.other
      rw [Side.other_other] at back
      have none' : pongs.filterMap messageOf = ([] : List DataMessage).map DataMessage.handled :=
        List.filterMap_eq_nil_iff.mpr (fun pong member => (expected pong member).2)
      have more := back.append (fun pong member => (expected pong member).1) none'
      rw [List.append_nil, List.append_assoc, ← written] at more
      refine ⟨pending ++ pongs, ?_⟩
      dsimp only
      rw [Side.other_other, Function.update_self, Function.update_of_ne side.other_ne,
        Function.update_of_ne side.other_ne]
      exact more

/-- Every step is possible, and leaves both ends in order. -/
theorem Good.step {link : Link} (good : link.Good) (event : LinkEvent)
    : ∃ next, link.step event = some next ∧ next.Good := by
  cases event with
  | send side message =>
      have open' := good.open' side
      obtain ⟨outBuffer, sent⟩ :=
        sendMessage_outBuffer (link.ends side).handler (link.ends side).socket message.data
          message.code
      have written := sendMessage_bytes open' message.data_ne_nil message.code
      rw [frameBytes_eq, sent] at written
      have role
          : ((link.ends side).handler.isMasking && side.other.isClient) = false := by
        have rule := (link.ends side).handler.masking_client
        rw [Side.isClient_other, ← open'.role]
        cases masking : (link.ends side).handler.isMasking with
        | false => rfl
        | true =>
            rw [rule masking]
            rfl
      have expected
          : ∀ frame ∈ [message.frame (link.ends side).handler.isMasking],
              LinkFrame side.other frame := by
        rw [List.forall_mem_singleton]
        exact .message message role
      have same
          : [message.frame (link.ends side).handler.isMasking].filterMap messageOf
            = [message].map DataMessage.handled := by
        rw [List.filterMap_cons_some (message_messageOf message _)]
        rfl
      refine ⟨_, rfl, ?_⟩
      rw [sent]
      refine good.sends (open'.withSocket _ outBuffer) rfl rfl expected ?_ same
      rw [List.flatMap_singleton]
      exact written
  | ping =>
      have open' := good.open' .server
      obtain ⟨outBuffer, sent⟩ :=
        sendMessage_outBuffer (link.ends .server).handler (link.ends .server).socket [0] .ping
      have written := sendMessage_bytes open' (List.cons_ne_nil 0 []) .ping
      have masking : (link.ends .server).handler.isMasking = false := by
        by_contra masks
        rw [Bool.not_eq_false] at masks
        have client := (link.ends .server).handler.masking_client masks
        exact absurd (client.symm.trans open'.role) (by decide)
      rw [beat_bytes, masking, sent] at written
      have pings
          : sendPing (link.ends .server)
            = {
                link.ends .server with
                socket := { (link.ends .server).socket with outBuffer }
              } := by
        rw [sendPing, if_pos open'.isWebSocket, sent]
      have expected : ∀ frame ∈ [beat .ping false], LinkFrame Side.server.other frame := by
        rw [List.forall_mem_singleton]
        exact .ping
      have same
          : [beat .ping false].filterMap messageOf
            = ([] : List DataMessage).map DataMessage.handled :=
        rfl
      have next := good.sends (open'.withSocket _ outBuffer) rfl rfl expected
        (by rw [List.flatMap_singleton]; exact written) same
      rw [List.append_nil, Function.update_eq_self] at next
      refine ⟨_, rfl, ?_⟩
      rw [pings]
      exact next
  | write side count => exact ⟨_, rfl, good.writes side count⟩
  | read side count =>
      obtain ⟨connection, received, left⟩ := good.reads side count
      refine ⟨_, ?_, left⟩
      rw [Link.step, received]
      rfl

/-- Whatever the ends send, and however it is cut into writes and reads: no handler reads outside
of its buffers or closes the connection, each end handles the messages of the other one once and
in order, and has handled all of them when all bytes have come.
-/
theorem link_delivers (isMasking : Bool) (isManualDefrag : Side → Bool)
    (events : List LinkEvent)
    : ∃ link,
        stepRun step (start isMasking isManualDefrag) events = some link
        ∧ ∀ side,
            (link.ends side).socket.connectionClosed = false
            ∧ ∃ pending,
                (link.ends side).handled ++ pending
                  = (link.sent side.other).map DataMessage.handled
                ∧ (link.wire side = []
                  → (link.ends side.other).socket.outBuffer = []
                  → pending = []) := by
  obtain ⟨link, ran, good⟩ :=
    stepRun_of_invariant (fun link event (good : link.Good) => good.step event)
      (good_start isMasking isManualDefrag) events
  refine ⟨link, ran, fun side => ⟨(good.open' side).connected, ?_⟩⟩
  obtain ⟨frames, underWay⟩ := good.underWay side
  refine ⟨frames.filterMap messageOf, underWay.messages, fun wire outBuffer => ?_⟩
  rw [underWay.whole (List.append_eq_nil_iff.mpr ⟨wire, outBuffer⟩)]
  rfl

end Link

end NdcOdfWeb.Net
