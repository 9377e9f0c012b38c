import NdcOdfWeb.Net.Frames

/-! The loops that feed `handleTCPStream`: `handleIncomingMessage` of an upgraded connection,
and the input loop of `StreamSocket::handlePoll`.
-/

namespace NdcOdfWeb.Net

open NdcOdfWeb.Foundation

/-- The length of the input that is not consumed yet. -/
def Connection.pending (connection : Connection) : Nat :=
  connection.socket.inBuffer.length

/-- What is sent takes nothing from the input. -/
theorem sendFrame_inBuffer (handler : WebSocketHandler) (socket : StreamSocket)
    (data : List UInt8) (flags : UInt8)
    : (sendFrame handler socket data flags).inBuffer = socket.inBuffer := by
  unfold sendFrame
  split <;> rfl

/-- A control frame's answer takes nothing from the input. -/
theorem handleControlFrame_pending {connection next : Connection} {fin : Bool}
    {code : WSOpCode} {ctrlPayload : List UInt8}
    (handled : handleControlFrame connection fin code ctrlPayload = some next)
    : next.pending ≤ connection.pending := by
  have pong : (sendPong connection ctrlPayload).pending = connection.pending := by
    unfold sendPong
    split
    · exact congrArg List.length (sendFrame_inBuffer ..)
    · rfl
  unfold handleControlFrame at handled
  split at handled
  · cases handled
    exact Nat.zero_le _
  · split at handled
    · split at handled <;> cases handled
      · exact Nat.zero_le _
      · exact Nat.le_refl _
    · split at handled <;> cases handled
      · exact Nat.le_of_eq pong
      · exact Nat.zero_le _
    · split at handled
      · cases handled
        exact Nat.zero_le _
      · split at handled <;> cases handled <;> exact Nat.zero_le _
    · cases handled
      exact Nat.zero_le _

/-- The frame was taken from the input before. -/
theorem handleDataFrame_pending (connection : Connection) (fin : Bool) (code : WSOpCode)
    : (handleDataFrame connection fin code).2.pending = connection.pending := by
  unfold handleDataFrame
  split
  · rfl
  · split <;> rfl

/-- The header has at least two bytes. -/
theorem payloadLength_end {buffer : List UInt8} {payloadLen lengthEnd : Nat}
    (read : payloadLength buffer = some (payloadLen, lengthEnd))
    : 2 ≤ lengthEnd := by
  unfold payloadLength at read
  simp only at read
  split_ifs at read <;>
    simp only [Option.some.injEq, Prod.mk.injEq] at read <;>
    omega

/-- `handleTCPStream` leaves everything as it is, or consumes input. -/
theorem handleTCPStream_progress {connection next : Connection} {more : Bool}
    (handled : handleTCPStream connection = some (more, next))
    : (more = false ∧ next = connection) ∨ next.pending < connection.pending := by
  unfold handleTCPStream at handled
  simp only at handled
  split at handled
  · cases handled
    exact .inl ⟨rfl, rfl⟩
  · next long =>
      have bytes : 2 ≤ connection.pending := Nat.le_of_not_lt long
      split at handled
      · cases handled
        exact .inl ⟨rfl, rfl⟩
      · next payloadLen position read =>
          have lengthEnd := payloadLength_end read
          generalize headerDef : (if decide (connection.socket.inBuffer.getD 1 0 &&& maskBit ≠ 0)
              then position + 4 else position) = headerLen at handled
          have header : 2 ≤ headerLen := by
            rw [← headerDef]
            split <;> omega
          have erased : (connection.socket.inBuffer.drop (headerLen + payloadLen)).length
              < connection.pending := by
            rw [List.length_drop]
            unfold Connection.pending at *
            omega
          split at handled
          · cases handled
            exact .inl ⟨rfl, rfl⟩
          · right
            split at handled
            · cases handled
              exact Nat.lt_of_lt_of_le Nat.zero_lt_two bytes
            · split at handled
              · obtain ⟨ctrlPayload, -, handled⟩ := Option.bind_eq_some_iff.mp handled
                obtain ⟨after, control, handled⟩ := Option.bind_eq_some_iff.mp handled
                cases handled
                exact Nat.lt_of_le_of_lt (handleControlFrame_pending control) erased
              · split at handled
                · cases handled
                  exact Nat.lt_of_lt_of_le Nat.zero_lt_two bytes
                · obtain ⟨wsPayload, -, handled⟩ := Option.bind_eq_some_iff.mp handled
                  have after := congrArg Prod.snd (Option.some.inj handled)
                  simp only at after
                  rw [← after, handleDataFrame_pending]
                  exact erased

-----------------------------------------------------------------------------------------
-- The loops
-----------------------------------------------------------------------------------------

/-- `handleIncomingMessage`: there might be multiple messages in the accumulated buffer. -/
def handleIncomingMessage (connection : Connection) : Option Connection :=
  match _handled : handleTCPStream connection with
  | none => none
  | some (false, next) => some next
  | some (true, next) => handleIncomingMessage next
termination_by connection.pending
decreasing_by
  rcases handleTCPStream_progress _handled with ⟨more, -⟩ | consumed
  · cases more
  · exact consumed

/-- One frame, and then the next ones. -/
theorem handleIncomingMessage_eq (connection : Connection)
    : handleIncomingMessage connection
      = (handleTCPStream connection).bind fun (more, next) =>
          if more then handleIncomingMessage next else some next := by
  rw [handleIncomingMessage]
  split <;> next handled => rw [handled]; rfl

/-- By induction on the loop: a frame taken shortens the input. -/
theorem handleIncomingMessage_progress {connection next : Connection}
    (handled : handleIncomingMessage connection = some next)
    : next = connection ∨ next.pending < connection.pending := by
  induction connection using handleIncomingMessage.induct with
  | case1 connection failed =>
      rw [handleIncomingMessage_eq, failed] at handled
      cases handled
  | case2 connection after step =>
      rw [handleIncomingMessage_eq, step] at handled
      cases handled
      exact (handleTCPStream_progress step).imp And.right id
  | case3 connection after step ih =>
      rw [handleIncomingMessage_eq, step] at handled
      right
      rcases handleTCPStream_progress step with ⟨more, -⟩ | consumed
      · cases more
      · rcases ih handled with rfl | further
        · exact consumed
        · exact Nat.lt_trans further consumed

/-- The input loop of `handlePoll`: go on as long as input is left and some of it was
consumed.
-/
def handleInput (connection : Connection) : Option Connection :=
  if connection.socket.inBuffer = [] then some connection
  else
    match _handled : handleIncomingMessage connection with
    | none => none
    | some next =>
        if next.pending = connection.pending then some next else handleInput next
termination_by connection.pending
decreasing_by
  rcases handleIncomingMessage_progress _handled with rfl | consumed
  · contradiction
  · exact consumed

/-- A poll event: what was read is appended to the input. -/
def receive (connection : Connection) (read : List UInt8) : Option Connection :=
  handleInput { connection with socket.inBuffer := connection.socket.inBuffer ++ read }

/-- The handler is called again while it takes input. -/
theorem handleInput_eq {connection : Connection} (some' : connection.socket.inBuffer ≠ [])
    : handleInput connection
      = (handleIncomingMessage connection).bind fun next =>
          if next.pending = connection.pending then some next else handleInput next := by
  rw [handleInput, if_neg some']
  split <;> next handled => rw [handled]; rfl

/-- Where the handler waits for more input, so does the loop. -/
theorem handleInput_waits {connection : Connection}
    (waits : handleTCPStream connection = some (false, connection))
    : handleInput connection = some connection := by
  by_cases empty : connection.socket.inBuffer = []
  · rw [handleInput, if_pos empty]
  · rw [handleInput_eq empty, handleIncomingMessage_eq, waits]
    exact if_pos rfl

/-- Nothing is consumed where `handleIncomingMessage` ends. -/
theorem handleInput_of_handled {connection next : Connection}
    (handled : handleIncomingMessage connection = some next)
    : handleInput connection = handleInput next := by
  by_cases empty : connection.socket.inBuffer = []
  · have same : next = connection := by
      rcases handleIncomingMessage_progress handled with same | consumed
      · exact same
      · rw [Connection.pending, Connection.pending, empty] at consumed
        exact absurd consumed (Nat.not_lt_zero _)
    rw [same]
  · rw [handleInput_eq empty, handled]
    rcases handleIncomingMessage_progress handled with rfl | consumed
    · rw [Option.bind_some, if_pos rfl, handleInput_eq empty, handled, Option.bind_some,
        if_pos rfl]
    · rw [Option.bind_some, if_neg (Nat.ne_of_lt consumed)]

/-- A step that consumes input is the first one of the loop. -/
theorem handleInput_step {connection next : Connection} {more : Bool}
    (step : handleTCPStream connection = some (more, next))
    (consumed : next.pending < connection.pending)
    : handleInput connection = handleInput next := by
  have some' : connection.socket.inBuffer ≠ [] := by
    intro empty
    rw [Connection.pending, Connection.pending, empty] at consumed
    exact absurd consumed (Nat.not_lt_zero _)
  cases more with
  | false =>
      have handled : handleIncomingMessage connection = some next := by
        rw [handleIncomingMessage_eq, step]
        rfl
      exact handleInput_of_handled handled
  | true =>
      have same : handleIncomingMessage connection = handleIncomingMessage next := by
        rw [handleIncomingMessage_eq, step]
        rfl
      cases handled : handleIncomingMessage next with
      | some after =>
          rw [handleInput_of_handled (same.trans handled), handleInput_of_handled handled]
      | none =>
          have left : next.socket.inBuffer ≠ [] := by
            intro empty
            have short : handleTCPStream next = some (false, next) := by
              rw [handleTCPStream, empty]
              exact if_pos (by decide)
            rw [handleIncomingMessage_eq, short] at handled
            cases handled
          rw [handleInput_eq some', handleInput_eq left, same, handled]
          rfl

end NdcOdfWeb.Net
