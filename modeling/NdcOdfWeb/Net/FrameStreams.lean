import NdcOdfWeb.Net.IncomingMessages
import NdcOdfWeb.Net.SentFrames

/-! Streams of frames: the reads they arrive in make no difference. -/

namespace NdcOdfWeb.Net

open NdcOdfWeb.Foundation

/-- The handler of a server's connection accepts the frame: a pong, or a data frame that has
its turn.
-/
def AcceptsFrame (connection : Connection) (frame : Frame) : Prop :=
  connection.handler.isClient = false
  ∧ (frame.fin = true ∧ frame.code = .pong ∧ frame.payload.length ≤ 125
    ∨ frame.code.isControlFrame = false
      ∧ connection.handler.inFragmentBlock = decide (frame.code = .continuation))

/-- What an accepted frame does. -/
def applyFrame (connection : Connection) (frame : Frame) : Connection :=
  if frame.code.isControlFrame then connection
  else
    (handleDataFrame
      { connection with handler.wsPayload := connection.handler.wsPayload ++ frame.payload }
      frame.fin frame.code).2

/-- A frame has a first byte. -/
theorem Frame.bytes_ne_nil (frame : Frame) : frame.bytes ≠ [] :=
  List.cons_ne_nil _ _

/-- A data frame's handling reads no further input. -/
theorem handleDataFrame_withInput (connection : Connection) (fin : Bool) (code : WSOpCode)
    (rest : List UInt8)
    : (handleDataFrame { connection with socket.inBuffer := rest } fin code).2
      = { (handleDataFrame connection fin code).2 with socket.inBuffer := rest } := by
  unfold handleDataFrame
  split
  · rfl
  · simp only
    split <;> rfl

/-- An accepted frame is received as `applyFrame` says. -/
theorem receiveFrame_accepted {connection : Connection} {frame : Frame}
    (accepted : AcceptsFrame connection frame) (rest : List UInt8)
    : ∃ more,
        receiveFrame connection frame rest
        = some (more, { applyFrame connection frame with socket.inBuffer := rest }) := by
  obtain ⟨server, pong | data⟩ := accepted
  · obtain ⟨fin, code, short⟩ := pong
    refine ⟨true, ?_⟩
    have control : WSOpCode.pong.isControlFrame = true := by decide
    have whole : ¬ (true = false ∨ 125 < frame.payload.length) := by
      rintro (cut | long)
      · cases cut
      · omega
    simp only [receiveFrame, applyFrame, server, fin, code, control, Bool.and_false,
      Bool.false_eq_true, if_false, if_true, handleControlFrame]
    rw [if_neg (by simpa using whole)]
    rfl
  · obtain ⟨notControl, turn⟩ := data
    refine ⟨(handleDataFrame
      { connection with
        handler.wsPayload := connection.handler.wsPayload ++ frame.payload
        socket.inBuffer := rest } frame.fin frame.code).1, ?_⟩
    have allowed : ¬ (frame.mask.isSome && connection.handler.isClient) = true := by
      rw [server, Bool.and_false]
      exact Bool.false_ne_true
    have inTurn : ¬ connection.handler.inFragmentBlock ≠ decide (frame.code = .continuation) :=
      fun differs => differs turn
    rw [receiveFrame, if_neg allowed, if_neg (by rw [notControl]; exact Bool.false_ne_true),
      if_neg inTurn, applyFrame, if_neg (by rw [notControl]; exact Bool.false_ne_true),
      ← handleDataFrame_withInput]

/-- What follows a frame is shorter than the stream. -/
theorem Frame.length_rest_lt (frame : Frame) (rest : List UInt8)
    : rest.length < (frame.bytes ++ rest).length := by
  rw [List.length_append]
  have positive := List.length_pos_iff.mpr frame.bytes_ne_nil
  omega

/-- The connection of a server as a reader of frames. -/
def frameReader : FrameReader Connection Frame UInt8 where
  withInput connection bytes := { connection with socket.inBuffer := bytes }
  input connection := connection.socket.inBuffer
  run := handleInput
  bytes := Frame.bytes
  accepts := AcceptsFrame
  apply := applyFrame
  input_withInput _ _ := rfl
  withInput_withInput _ _ _ := rfl
  bytes_ne_nil := Frame.bytes_ne_nil
  rests connection := by rw [handleInput, if_pos rfl]
  waits connection frame part missing _ cut whole :=
    handleInput_waits (handleTCPStream_part cut whole)
  reads connection frame rest accepted := by
    have server : AcceptsFrame
        { connection with socket.inBuffer := frame.bytes ++ rest } frame := accepted
    obtain ⟨more, received⟩ := receiveFrame_accepted server rest
    have step := (handleTCPStream_frame rfl).trans received
    have next : applyFrame { connection with socket.inBuffer := frame.bytes ++ rest } frame
        = { applyFrame connection frame with socket.inBuffer := frame.bytes ++ rest } := by
      unfold applyFrame
      split
      · rfl
      · exact handleDataFrame_withInput
          { connection with handler.wsPayload := connection.handler.wsPayload ++ frame.payload }
          frame.fin frame.code _
    rw [next] at step
    exact handleInput_step step (frame.length_rest_lt rest)

-----------------------------------------------------------------------------------------
-- Messages in a stream
-----------------------------------------------------------------------------------------

/-- A pong. -/
structure IsPong (frame : Frame) : Prop where
  fin : frame.fin = true
  code : frame.code = .pong
  short : frame.payload.length ≤ 125

/-- The first frame of a message. -/
structure StartsMessage (frame : Frame) : Prop where
  not_control : frame.code.isControlFrame = false
  not_continuation : frame.code ≠ .continuation

/-- The frames behind the first one of a fragmented message, and what they add to it. -/
inductive Fragments : List Frame → List UInt8 → Prop where
  | last {frame} (fin : frame.fin = true) (code : frame.code = .continuation)
    : Fragments [frame] frame.payload
  | more {frame frames payload} (fin : frame.fin = false) (code : frame.code = .continuation)
    (rest : Fragments frames payload)
    : Fragments (frame :: frames) (frame.payload ++ payload)
  | pong {frame frames payload} (pong : IsPong frame) (rest : Fragments frames payload)
    : Fragments (frame :: frames) payload

/-- A stream of frames, and the messages of the application in it. A message in fragments
has the opcode of its last one.
-/
inductive MessageStream : List Frame → List HandledMessage → Prop where
  | nil : MessageStream [] []
  | pong {frame frames messages} (pong : IsPong frame) (rest : MessageStream frames messages)
    : MessageStream (frame :: frames) messages
  | single {frame frames messages} (fin : frame.fin = true) (starts : StartsMessage frame)
    (rest : MessageStream frames messages)
    : MessageStream (frame :: frames) (⟨true, frame.code, frame.payload⟩ :: messages)
  | fragmented {frame fragments payload frames messages} (fin : frame.fin = false)
    (starts : StartsMessage frame) (more : Fragments fragments payload)
    (rest : MessageStream frames messages)
    : MessageStream (frame :: fragments ++ frames)
        (⟨true, .continuation, frame.payload ++ payload⟩ :: messages)

/-- A server's connection that puts fragments together. -/
structure ServerConnection (connection : Connection) : Prop where
  server : connection.handler.isClient = false
  defrag : connection.handler.isManualDefrag = false

/-- A connection in the middle of a message. -/
def Connection.midMessage (connection : Connection) (payload : List UInt8) : Connection :=
  {
    connection with
    handler.wsPayload := payload
    handler.inFragmentBlock := true
  }

/-- A connection that has handed over a message. -/
def Connection.handOver (connection : Connection) (message : HandledMessage) : Connection :=
  {
    connection with
    handler.wsPayload := []
    handler.inFragmentBlock := false
    handled := connection.handled ++ [message]
  }

/-- A pong is taken, and changes nothing else. -/
theorem applyFrame_pong {connection : Connection} {frame : Frame} (pong : IsPong frame)
    : applyFrame connection frame = connection := by
  rw [applyFrame, pong.code]
  exact if_pos (by decide)

/-- A frame that is not the last one is appended to the payload. -/
theorem applyFrame_more {connection : Connection} {frame : Frame}
    (server : ServerConnection connection) (notControl : frame.code.isControlFrame = false)
    (fin : frame.fin = false)
    : applyFrame connection frame
      = connection.midMessage (connection.handler.wsPayload ++ frame.payload) := by
  simp only [applyFrame, notControl, fin, handleDataFrame, server.defrag, Bool.false_eq_true,
    if_false, Connection.midMessage]

/-- The last frame hands the whole payload over. -/
theorem applyFrame_last {connection : Connection} {frame : Frame}
    (notControl : frame.code.isControlFrame = false) (fin : frame.fin = true)
    : applyFrame connection frame
      = connection.handOver
          ⟨true, frame.code, connection.handler.wsPayload ++ frame.payload⟩ := by
  simp only [applyFrame, notControl, fin, handleDataFrame, Bool.false_eq_true, if_false, if_true,
    Connection.handOver]

/-- A server takes a pong at any time. -/
theorem acceptsFrame_pong {connection : Connection} {frame : Frame}
    (server : ServerConnection connection) (pong : IsPong frame)
    : AcceptsFrame connection frame :=
  ⟨server.server, .inl ⟨pong.fin, pong.code, pong.short⟩⟩

/-- A continuation is a data frame. -/
theorem control_continuation : WSOpCode.continuation.isControlFrame = false := by decide

/-- Inside a message, a continuation is expected. -/
theorem acceptsFrame_continuation {connection : Connection} {frame : Frame}
    (server : ServerConnection connection) (inBlock : connection.handler.inFragmentBlock = true)
    (code : frame.code = .continuation)
    : AcceptsFrame connection frame := by
  refine ⟨server.server, .inr ⟨code ▸ control_continuation, ?_⟩⟩
  rw [inBlock, code]
  rfl

/-- Outside a message, a start is expected. -/
theorem acceptsFrame_starts {connection : Connection} {frame : Frame}
    (server : ServerConnection connection) (idle : Idle connection.handler)
    (starts : StartsMessage frame)
    : AcceptsFrame connection frame := by
  refine ⟨server.server, .inr ⟨starts.not_control, ?_⟩⟩
  rw [idle.inFragmentBlock, decide_eq_false starts.not_continuation]

/-- Fragments are accumulated up to the last one, which hands the message over. -/
theorem Fragments.apply {frames : List Frame} {payload : List UInt8}
    (fragments : Fragments frames payload) {connection : Connection}
    (server : ServerConnection connection)
    (inBlock : connection.handler.inFragmentBlock = true)
    : frameReader.AcceptsAll connection frames
      ∧ frames.foldl frameReader.apply connection
        = connection.handOver
            ⟨true, .continuation, connection.handler.wsPayload ++ payload⟩ := by
  induction fragments generalizing connection with
  | @last frame fin code =>
      have last : frameReader.apply connection frame = _ :=
        applyFrame_last (code ▸ control_continuation) fin
      refine ⟨⟨acceptsFrame_continuation server inBlock code, trivial⟩, ?_⟩
      rw [List.foldl_cons, List.foldl_nil, last, code]
  | @more frame frames payload fin code rest ih =>
      have next : frameReader.apply connection frame = _ :=
        applyFrame_more server (code ▸ control_continuation) fin
      have mid : ServerConnection
          (connection.midMessage (connection.handler.wsPayload ++ frame.payload)) :=
        ⟨server.server, server.defrag⟩
      obtain ⟨behind, applied⟩ := ih mid rfl
      rw [← next] at behind
      refine ⟨⟨acceptsFrame_continuation server inBlock code, behind⟩, ?_⟩
      rw [List.foldl_cons, next, applied]
      simp only [Connection.midMessage, Connection.handOver, List.append_assoc]
  | @pong frame frames payload pong rest ih =>
      have same : frameReader.apply connection frame = connection := applyFrame_pong pong
      obtain ⟨behind, applied⟩ := ih server inBlock
      rw [← same] at behind
      refine ⟨⟨acceptsFrame_pong server pong, behind⟩, ?_⟩
      rw [List.foldl_cons, same, applied]

/-- An idle handler has no payload left over. -/
theorem Idle.handOver {connection : Connection} (idle : Idle connection.handler)
    (message : HandledMessage)
    : connection.handOver message
      = { connection with handled := connection.handled ++ [message] } := by
  obtain ⟨⟨wsPayload, shuttingDown, isClient, isMasking, inFragmentBlock, isManualDefrag, rule⟩,
    socket, handled⟩ := connection
  obtain ⟨idleBlock, idlePayload⟩ := idle
  simp only at idleBlock idlePayload
  subst idleBlock idlePayload
  rfl

/-- The frames of a stream are all accepted, and hand over its messages. -/
theorem MessageStream.apply {frames : List Frame} {messages : List HandledMessage}
    (stream : MessageStream frames messages) {connection : Connection}
    (server : ServerConnection connection) (idle : Idle connection.handler)
    : frameReader.AcceptsAll connection frames
      ∧ frames.foldl frameReader.apply connection
        = { connection with handled := connection.handled ++ messages } := by
  induction stream generalizing connection with
  | nil => exact ⟨trivial, by rw [List.append_nil]; rfl⟩
  | @pong frame frames messages pong rest ih =>
      have same : frameReader.apply connection frame = connection := applyFrame_pong pong
      obtain ⟨behind, applied⟩ := ih server idle
      rw [← same] at behind
      refine ⟨⟨acceptsFrame_pong server pong, behind⟩, ?_⟩
      rw [List.foldl_cons, same, applied]
  | @single frame frames messages fin starts rest ih =>
      have last : applyFrame connection frame = _ := applyFrame_last starts.not_control fin
      rw [idle.wsPayload, List.nil_append, idle.handOver] at last
      have next : frameReader.apply connection frame = _ := last
      obtain ⟨behind, applied⟩ := @ih
        { connection with
          handled := connection.handled ++ [⟨true, frame.code, frame.payload⟩] }
        ⟨server.server, server.defrag⟩ ⟨idle.inFragmentBlock, idle.wsPayload⟩
      rw [← next] at behind
      refine ⟨⟨acceptsFrame_starts server idle starts, behind⟩, ?_⟩
      rw [List.foldl_cons, next, applied]
      simp only [List.append_assoc, List.singleton_append]
  | @fragmented frame fragments payload frames messages fin starts more rest ih =>
      have next : frameReader.apply connection frame = _ :=
        applyFrame_more server starts.not_control fin
      have mid : ServerConnection
          (connection.midMessage (connection.handler.wsPayload ++ frame.payload)) :=
        ⟨server.server, server.defrag⟩
      obtain ⟨inside, last⟩ := more.apply mid rfl
      have handed : (connection.midMessage (connection.handler.wsPayload ++ frame.payload)).handOver
            ⟨true, .continuation, connection.handler.wsPayload ++ frame.payload ++ payload⟩
          = connection.handOver ⟨true, .continuation, frame.payload ++ payload⟩ := by
        rw [idle.wsPayload, List.nil_append]
        rfl
      rw [show (connection.midMessage
        (connection.handler.wsPayload ++ frame.payload)).handler.wsPayload
          = connection.handler.wsPayload ++ frame.payload from rfl, handed, idle.handOver] at last
      obtain ⟨behind, applied⟩ := @ih
        { connection with
          handled := connection.handled ++ [⟨true, .continuation, frame.payload ++ payload⟩] }
        ⟨server.server, server.defrag⟩ ⟨idle.inFragmentBlock, idle.wsPayload⟩
      rw [← last, ← next] at behind
      rw [← next] at inside
      refine ⟨⟨acceptsFrame_starts server idle starts,
        FrameReader.AcceptsAll.append.mpr ⟨inside, behind⟩⟩, ?_⟩
      rw [List.cons_append, List.foldl_cons, List.foldl_append, next, last, applied]
      simp only [List.append_assoc, List.singleton_append]

/-- The reads that a stream of messages and pongs arrives in make no difference: every
message is handed over once, complete and in order, and no input is left.
-/
theorem receive_stream {connection : Connection} (server : ServerConnection connection)
    (idle : Idle connection.handler) (empty : connection.socket.inBuffer = [])
    {frames : List Frame} {messages : List HandledMessage}
    (stream : MessageStream frames messages) {reads : List (List UInt8)}
    (arrives : reads.flatten = frames.flatMap Frame.bytes)
    : reads.foldlM receive connection
      = some { connection with handled := connection.handled ++ messages } := by
  obtain ⟨accepted, applied⟩ := stream.apply server idle
  have same : { connection with socket.inBuffer := [] } = connection := by
    rw [← empty]
  have fed : reads.foldlM frameReader.feed { connection with socket.inBuffer := [] } = _ :=
    FrameReader.feed_stream accepted arrives
  rw [applied, same] at fed
  refine fed.trans ?_
  show some { connection with
    handled := connection.handled ++ messages, socket.inBuffer := [] } = _
  rw [← empty]

/-- A frame without a mask, with a payload of at most a byte. -/
def smallFrame (fin : Bool) (code : WSOpCode) (payload : Option UInt8) : Frame where
  fin := fin
  code := code
  mask := none
  payload := payload.toList
  mask_length key member := by cases member
  payload_lt := by cases payload <;> simp

/-- A text in two fragments with a pong between them, in two reads. -/
theorem receive_stream_fragments
    : [(smallFrame false .text (some 0x68)).bytes ++ [0x8a],
        [0x00] ++ (smallFrame true .continuation (some 0x69)).bytes].foldlM receive
        (.new (.new false false false))
      = some
          { Connection.new (.new false false false) with
            handled := [] ++ [⟨true, .continuation, [0x68, 0x69]⟩] } := by
  have stream : MessageStream
      (smallFrame false .text (some 0x68)
        :: [smallFrame true .pong none, smallFrame true .continuation (some 0x69)] ++ [])
      [⟨true, .continuation, [0x68] ++ [0x69]⟩] :=
    .fragmented rfl ⟨by decide, by decide⟩ (.pong ⟨rfl, rfl, by decide⟩ (.last rfl rfl)) .nil
  have server : ServerConnection (.new (.new false false false)) := ⟨rfl, rfl⟩
  exact receive_stream server ⟨rfl, rfl⟩ rfl stream (by decide)

/-- A ping makes a server shut down: the text behind it in the same read is not handled. -/
theorem receive_ping
    : ∃ after,
        receive (.new (.new false false false))
            ((smallFrame true .ping none).bytes ++ (smallFrame true .text (some 0x68)).bytes)
          = some after
        ∧ after.handled = []
        ∧ after.socket.connectionClosed = true := by
  have step : handleTCPStream
      { Connection.new (.new false false false) with
        socket.inBuffer :=
          [] ++ ((smallFrame true .ping none).bytes ++ (smallFrame true .text (some 0x68)).bytes) }
      = some (true, shutdown (.new (.new false false false)) policyViolation []) := by
    rw [handleTCPStream_frame rfl]
    rfl
  refine ⟨shutdown (.new (.new false false false)) policyViolation [], ?_, rfl, rfl⟩
  have empty : (shutdown (.new (.new false false false)) policyViolation []).socket.inBuffer
      = [] := rfl
  refine (handleInput_step step (by decide)).trans ?_
  rw [handleInput, if_pos empty]

end NdcOdfWeb.Net
