import NdcOdfWeb.Net.IncomingMessages
import NdcOdfWeb.Net.SentFrames

/-! What `handleTCPStream` reads and erases, whatever bytes the peer sends. -/

namespace NdcOdfWeb.Net

open NdcOdfWeb.Foundation

/-- What `handleTCPStream` reads of a frame's header. -/
structure FrameHeader where
  fin : Bool
  code : WSOpCode
  hasMask : Bool
  payloadLen : Nat
  lengthEnd : Nat

namespace FrameHeader

/-- The position of the payload. -/
def headerLen (header : FrameHeader) : Nat :=
  if header.hasMask then header.lengthEnd + 4 else header.lengthEnd

/-- The length that the frame declares, as an integer. -/
def frameLen (header : FrameHeader) : Nat :=
  header.headerLen + header.payloadLen

/-- The test for a whole frame: the sum is an unsigned number of 64 bits. -/
def isWhole (header : FrameHeader) (len : Nat) : Bool :=
  decide ((header.payloadLen + header.headerLen) % 2 ^ 64 ≤ len)

end FrameHeader

/-- The flags of a frame, with the length that is read after them. -/
def FrameHeader.ofBuffer (buffer : List UInt8) (payloadLen lengthEnd : Nat) : FrameHeader where
  fin := decide (buffer.getD 0 0 &&& finBit ≠ 0)
  code := WSOpCode.ofByte (buffer.getD 0 0)
  hasMask := decide (buffer.getD 1 0 &&& maskBit ≠ 0)
  payloadLen
  lengthEnd

/-- The header at the start of a buffer, `none` where its length is not there yet. -/
def frameHeader (buffer : List UInt8) : Option FrameHeader :=
  if buffer.length < 2 then none
  else
    match payloadLength buffer with
    | none => none
    | some (payloadLen, lengthEnd) => some (FrameHeader.ofBuffer buffer payloadLen lengthEnd)

-----------------------------------------------------------------------------------------
-- The accesses
-----------------------------------------------------------------------------------------

/-- A read of bytes of the input buffer or of the collected control payload, or an erasure
at the start of the input buffer.
-/
inductive Access where
  | input (position count : Nat)
  | control (position count : Nat)
  | erase (count : Nat)

/-- Whether an access stays within an input buffer and a control payload of these sizes. -/
def Access.Within (len ctrlLen : Nat) : Access → Prop
  | input position count => position + count ≤ len
  | control position count => position + count ≤ ctrlLen
  | erase count => count ≤ len

/-- The two bytes that every frame has, and the bytes of a longer length. -/
def lengthAccesses (buffer : List UInt8) : List Access :=
  if buffer.length < 2 then []
  else
    let payloadLen := (buffer.getD 1 0).toNat &&& 0x7f
    .input 0 2 ::
      if payloadLen = 126 then
        if buffer.length < 2 + 2 then [] else [.input 2 2]
      else if payloadLen = 127 then
        if buffer.length < 2 + 8 then [] else [.input 2 8]
      else []

/-- The reads of `readPayload`: the data, and as much of the mask as it needs. -/
def payloadAccesses (header : FrameHeader) : List Access :=
  if header.payloadLen = 0 then []
  else
    .input header.headerLen header.payloadLen ::
      if header.hasMask then [.input header.lengthEnd (min 4 header.payloadLen)] else []

/-- The reads of a control frame's payload. A close frame that has a payload has a status
code of two bytes there, and a message where there is more.
-/
def controlAccesses (handler : WebSocketHandler) (header : FrameHeader) : List Access :=
  if header.fin = false ∨ 125 < header.payloadLen then []
  else
    match header.code with
    | .ping => if handler.isClient then [.control 0 header.payloadLen] else []
    | .close =>
        if handler.shuttingDown ∨ header.payloadLen = 0 then []
        else
          .control 0 1 :: .control 1 1 ::
            if 2 < header.payloadLen then [.control 2 (header.payloadLen - 2)] else []
    | _ => []

/-- What `handleTCPStream` does once it takes a frame to be whole. -/
def frameAccesses (handler : WebSocketHandler) (header : FrameHeader) : List Access :=
  if header.hasMask && handler.isClient then []
  else if header.code.isControlFrame then
    payloadAccesses header ++ .erase header.frameLen :: controlAccesses handler header
  else if handler.inFragmentBlock ≠ decide (header.code = .continuation) then []
  else payloadAccesses header ++ [.erase header.frameLen]

/-- The accesses of one call of `handleTCPStream`, in order. -/
def streamAccesses (connection : Connection) : List Access :=
  let buffer := connection.socket.inBuffer
  lengthAccesses buffer ++
    match frameHeader buffer with
    | none => []
    | some header =>
        if header.isWhole buffer.length then frameAccesses connection.handler header else []

/-- The size of the control payload that is collected from the next frame. -/
def ctrlPayloadLen (buffer : List UInt8) : Nat :=
  match frameHeader buffer with
  | none => 0
  | some header => header.payloadLen

/-- Every access of the next call stays within its buffer. -/
def StaysWithin (connection : Connection) : Prop :=
  ∀ access ∈ streamAccesses connection,
    access.Within connection.pending (ctrlPayloadLen connection.socket.inBuffer)

/-- The next call does not wait for more input. -/
def TakesFrame (connection : Connection) : Prop :=
  handleTCPStream connection ≠ some (false, connection)

/-- The next frame is there with its header and the payload that it declares. -/
def HasWholeFrame (connection : Connection) : Prop :=
  ∃ header,
    frameHeader connection.socket.inBuffer = some header
    ∧ header.frameLen ≤ connection.pending

/-- The declared length and the header's exceed 64 bits, and what is left of their sum does
not exceed the buffer.
-/
def WrapsAround (header : FrameHeader) (len : Nat) : Prop :=
  2 ^ 64 ≤ header.payloadLen + header.headerLen ∧ header.isWhole len = true

/-- A whole close frame with half of a status code, that is not an answer to a close frame
from here.
-/
structure HalfStatusCode (handler : WebSocketHandler) (header : FrameHeader) (len : Nat)
    : Prop where
  whole : header.isWhole len = true
  fin : header.fin = true
  code : header.code = .close
  payloadLen : header.payloadLen = 1
  accepted : (header.hasMask && handler.isClient) = false
  asked : handler.shuttingDown = false

-----------------------------------------------------------------------------------------
-- One call by its header
-----------------------------------------------------------------------------------------

/-- `handleTCPStream` from where it takes a frame to be whole. -/
def takeFrame (connection : Connection) (header : FrameHeader) : Option (Bool × Connection) :=
  let buffer := connection.socket.inBuffer
  let mask := if header.hasMask then some header.lengthEnd else none
  if header.hasMask && connection.handler.isClient then
    some (true, shutdown connection protocolError [])
  else if header.code.isControlFrame then do
    let ctrlPayload ← readPayload buffer header.headerLen header.payloadLen mask []
    let next ←
      handleControlFrame
        { connection with socket.inBuffer := buffer.drop header.frameLen } header.fin
        header.code ctrlPayload
    some (true, next)
  else if connection.handler.inFragmentBlock ≠ decide (header.code = .continuation) then
    some (true, shutdown connection protocolError [])
  else do
    let wsPayload ←
      readPayload buffer header.headerLen header.payloadLen mask connection.handler.wsPayload
    some
      (handleDataFrame
        {
          connection with
          handler.wsPayload := wsPayload
          socket.inBuffer := buffer.drop header.frameLen
        }
        header.fin header.code)

/-- Without a header, the handler waits. -/
theorem handleTCPStream_noHeader {connection : Connection}
    (missing : frameHeader connection.socket.inBuffer = none)
    : handleTCPStream connection = some (false, connection) := by
  unfold frameHeader at missing
  unfold handleTCPStream
  simp only
  split
  · rfl
  · next long =>
      rw [if_neg long] at missing
      split
      · rfl
      · next read =>
          rw [read] at missing
          cases missing

/-- With a header, the handler takes the frame if it counts as whole. -/
theorem handleTCPStream_header {connection : Connection} {header : FrameHeader}
    (read : frameHeader connection.socket.inBuffer = some header)
    : handleTCPStream connection
      = if header.isWhole connection.pending then takeFrame connection header
        else some (false, connection) := by
  unfold frameHeader at read
  split at read
  · cases read
  · next long =>
      split at read
      · cases read
      · next payloadLen lengthEnd length =>
          cases read
          unfold handleTCPStream
          simp only
          rw [if_neg long, length]
          dsimp only
          by_cases whole : (FrameHeader.ofBuffer connection.socket.inBuffer payloadLen
              lengthEnd).isWhole connection.pending = true
          · rw [if_pos whole]
            exact if_neg (Nat.not_lt.mpr (of_decide_eq_true whole))
          · have waits := Nat.lt_of_not_le (fun fits => whole (decide_eq_true fits))
            rw [if_neg whole]
            exact if_pos waits

/-- The header lies in the buffer, its mask excepted, and declares a number of 64 bits. -/
structure FrameHeader.Bounded (header : FrameHeader) (len : Nat) : Prop where
  bytes : 2 ≤ len
  lengthEnd : 2 ≤ header.lengthEnd ∧ header.lengthEnd ≤ 10
  present : header.lengthEnd ≤ len
  payloadLen : header.payloadLen < 2 ^ 64

/-- The length stands in at most ten bytes, which are there, and it fits 64 bits. -/
theorem payloadLength_bounds {buffer : List UInt8} {payloadLen lengthEnd : Nat}
    (long : 2 ≤ buffer.length) (read : payloadLength buffer = some (payloadLen, lengthEnd))
    : lengthEnd ≤ 10 ∧ lengthEnd ≤ buffer.length ∧ payloadLen < 2 ^ 64 := by
  have short : (buffer.getD 1 0).toNat &&& 0x7f ≤ 0x7f := Nat.and_le_right
  have byte (i : Nat) : (buffer.getD i 0).toNat < 2 ^ 8 := (buffer.getD i 0).toNat_lt
  have middle : (buffer.getD 2 0).toNat <<< 8 ||| (buffer.getD 3 0).toNat < 2 ^ 16 := by
    apply Nat.or_lt_two_pow
    · rw [Nat.shiftLeft_eq]
      have high := byte 2
      omega
    · exact Nat.lt_trans (byte 3) (by decide)
  unfold payloadLength at read
  simp only at read
  split_ifs at read <;>
    simp only [Option.some.injEq, Prod.mk.injEq] at read <;>
    obtain ⟨rfl, rfl⟩ := read
  · exact ⟨by decide, by omega, Nat.lt_trans middle (by decide)⟩
  · exact ⟨by decide, by omega, Nat.mod_lt _ (by decide)⟩
  · exact ⟨by decide, long, by omega⟩

/-- A header that is read lies inside the buffer. -/
theorem frameHeader_bounded {buffer : List UInt8} {header : FrameHeader}
    (read : frameHeader buffer = some header)
    : header.Bounded buffer.length := by
  unfold frameHeader at read
  split at read
  · cases read
  · next long =>
      split at read
      · cases read
      · next length =>
          cases read
          have bytes := Nat.le_of_not_lt long
          obtain ⟨near, present, fits⟩ := payloadLength_bounds bytes length
          exact ⟨bytes, ⟨payloadLength_end length, near⟩, present, fits⟩

/-- A header has two to fourteen bytes, with the mask behind the length. -/
theorem FrameHeader.Bounded.headerLen {header : FrameHeader} {len : Nat}
    (bounded : header.Bounded len)
    : 2 ≤ header.headerLen ∧ header.headerLen ≤ 14
      ∧ (header.hasMask = true → header.headerLen = header.lengthEnd + 4) := by
  have edges := bounded.lengthEnd
  unfold FrameHeader.headerLen
  split
  · next masked => exact ⟨by omega, by omega, fun _ => rfl⟩
  · next unmasked => exact ⟨by omega, by omega, fun masked => absurd masked unmasked⟩

/-- A frame that is taken to be whole is answered, or its bytes are consumed. -/
theorem takeFrame_ne {connection : Connection} {header : FrameHeader}
    (bounded : header.Bounded connection.pending)
    : takeFrame connection header ≠ some (false, connection) := by
  intro same
  unfold takeFrame at same
  simp only at same
  split at same
  · cases same
  · split at same
    · obtain ⟨ctrlPayload, -, same⟩ := Option.bind_eq_some_iff.mp same
      obtain ⟨next, -, same⟩ := Option.bind_eq_some_iff.mp same
      cases same
    · split at same
      · cases same
      · obtain ⟨wsPayload, -, same⟩ := Option.bind_eq_some_iff.mp same
        have after := congrArg (fun result => result.2.pending) (Option.some.inj same)
        simp only at after
        rw [handleDataFrame_pending] at after
        simp only [Connection.pending, List.length_drop, FrameHeader.frameLen] at after
        have some' := bounded.bytes
        have edges := bounded.headerLen
        unfold Connection.pending at some'
        omega

/-- A frame is taken if and only if there is a header and the frame counts as whole. -/
theorem takesFrame_iff (connection : Connection)
    : TakesFrame connection
      ↔ ∃ header,
          frameHeader connection.socket.inBuffer = some header
          ∧ header.isWhole connection.pending = true := by
  unfold TakesFrame
  cases read : frameHeader connection.socket.inBuffer with
  | none =>
      rw [handleTCPStream_noHeader read]
      simp
  | some header =>
      rw [handleTCPStream_header read]
      by_cases whole : header.isWhole connection.pending = true
      · rw [if_pos whole]
        exact ⟨fun _ => ⟨header, rfl, whole⟩,
          fun _ => takeFrame_ne (frameHeader_bounded read)⟩
      · rw [if_neg whole]
        constructor
        · intro differs
          exact absurd rfl differs
        · rintro ⟨found, same, wholeFound⟩
          cases same
          exact absurd wholeFound whole

-----------------------------------------------------------------------------------------
-- Which accesses stay within
-----------------------------------------------------------------------------------------

/-- The bytes of the length are tested before they are read. -/
theorem lengthAccesses_within (buffer : List UInt8) (ctrlLen : Nat)
    : ∀ access ∈ lengthAccesses buffer, access.Within buffer.length ctrlLen := by
  unfold lengthAccesses
  intro access member
  split at member
  · cases member
  · next long =>
      rcases List.mem_cons.mp member with rfl | member
      · exact Nat.le_of_not_lt long
      · split at member
        · split at member
          · cases member
          · next there =>
              rw [List.mem_singleton.mp member]
              exact Nat.le_of_not_lt there
        · split at member
          · split at member
            · cases member
            · next there =>
                rw [List.mem_singleton.mp member]
                exact Nat.le_of_not_lt there
          · cases member

/-- The payload is read inside the buffer if and only if the frame is there. -/
theorem payloadAccesses_within_iff {header : FrameHeader} {len : Nat}
    (bounded : header.Bounded len) (ctrlLen : Nat)
    : (∀ access ∈ payloadAccesses header, access.Within len ctrlLen)
      ↔ header.payloadLen = 0 ∨ header.frameLen ≤ len := by
  have edges := bounded.headerLen.2.2
  unfold payloadAccesses FrameHeader.frameLen
  by_cases empty : header.payloadLen = 0
  · rw [if_pos empty]
    exact iff_of_true (fun _ member => nomatch member) (.inl empty)
  · rw [if_neg empty]
    constructor
    · intro within
      exact .inr (within _ (.head _))
    · rintro (zero | inside)
      · exact absurd zero empty
      · intro access member
        rcases List.mem_cons.mp member with rfl | member
        · exact inside
        · split at member
          · next masked =>
              rw [List.mem_singleton.mp member]
              have position := edges masked
              dsimp only [Access.Within]
              omega
          · cases member

/-- The control payload is read past its end for half of a status code only. -/
theorem controlAccesses_within_iff (handler : WebSocketHandler) (header : FrameHeader)
    (len : Nat)
    : (∀ access ∈ controlAccesses handler header, access.Within len header.payloadLen)
      ↔ ¬ (header.fin = true ∧ header.code = .close ∧ header.payloadLen = 1
        ∧ handler.shuttingDown = false) := by
  unfold controlAccesses
  by_cases refused : header.fin = false ∨ 125 < header.payloadLen
  · rw [if_pos refused]
    refine iff_of_true (fun _ member => nomatch member) ?_
    rintro ⟨fin, -, single, -⟩
    rcases refused with unfinished | long
    · rw [fin] at unfinished
      cases unfinished
    · omega
  · rw [if_neg refused]
    have fin : header.fin = true := by
      cases done : header.fin with
      | true => rfl
      | false => exact absurd (.inl done) refused
    split
    · next ping =>
        refine iff_of_true ?_ (fun half => by rw [ping] at half; exact nomatch half.2.1)
        intro access member
        split at member
        · rw [List.mem_singleton.mp member]
          exact Nat.le_of_eq (Nat.zero_add _)
        · cases member
    · next close =>
        by_cases nothing : handler.shuttingDown = true ∨ header.payloadLen = 0
        · rw [if_pos nothing]
          refine iff_of_true (fun _ member => nomatch member) ?_
          rintro ⟨-, -, single, asked⟩
          rcases nothing with answered | empty
          · rw [asked] at answered
            cases answered
          · omega
        · rw [if_neg nothing]
          constructor
          · rintro within ⟨-, -, single, -⟩
            have second : 1 + 1 ≤ header.payloadLen := within _ (.tail _ (.head _))
            omega
          · intro whole access member
            have asked : handler.shuttingDown = false :=
              Bool.eq_false_iff.mpr (fun answered => nothing (.inl answered))
            have several : 2 ≤ header.payloadLen := by
              by_contra few
              exact whole ⟨fin, close, by omega, asked⟩
            rcases List.mem_cons.mp member with rfl | member
            · exact Nat.le_of_succ_le several
            · rcases List.mem_cons.mp member with rfl | member
              · exact several
              · split at member
                · rw [List.mem_singleton.mp member]
                  dsimp only [Access.Within]
                  omega
                · cases member
    · next other =>
        refine iff_of_true (fun _ member => nomatch member) ?_
        rintro ⟨-, close, -⟩
        exact other close

/-- A whole frame has its bytes in the buffer unless its length wraps around. -/
theorem frameLen_le_iff {header : FrameHeader} {len : Nat} (fits : len < 2 ^ 64)
    (whole : header.isWhole len = true)
    : header.frameLen ≤ len ↔ ¬ WrapsAround header len := by
  have small := of_decide_eq_true whole
  unfold FrameHeader.frameLen WrapsAround
  constructor
  · rintro inside ⟨wraps, -⟩
    omega
  · intro straight
    have below : ¬ 2 ^ 64 ≤ header.payloadLen + header.headerLen :=
      fun wraps => straight ⟨wraps, whole⟩
    omega

/-- A frame that is there is read inside its buffers, but for a status code of one byte. -/
theorem frameAccesses_within_iff {handler : WebSocketHandler} {header : FrameHeader}
    {len : Nat} (bounded : header.Bounded len) (whole : header.isWhole len = true)
    (inside : header.frameLen ≤ len)
    : (∀ access ∈ frameAccesses handler header, access.Within len header.payloadLen)
      ↔ ¬ HalfStatusCode handler header len := by
  have payload := (payloadAccesses_within_iff bounded header.payloadLen).mpr (.inr inside)
  have control := controlAccesses_within_iff handler header len
  unfold frameAccesses
  by_cases accepted : (header.hasMask && handler.isClient) = true
  · rw [if_pos accepted]
    refine iff_of_true (fun _ member => nomatch member) ?_
    intro half
    rw [half.accepted] at accepted
    cases accepted
  · rw [if_neg accepted]
    have accepted := Bool.eq_false_iff.mpr accepted
    by_cases isControl : header.code.isControlFrame = true
    · rw [if_pos isControl]
      constructor
      · intro within half
        refine control.mp (fun access member => ?_)
          ⟨half.fin, half.code, half.payloadLen, half.asked⟩
        exact within access (List.mem_append_right _ (.tail _ member))
      · intro full access member
        rcases List.mem_append.mp member with member | member
        · exact payload access member
        · rcases List.mem_cons.mp member with rfl | member
          · exact inside
          · refine control.mpr ?_ access member
            rintro ⟨fin, code, payloadLen, asked⟩
            exact full { whole, fin, code, payloadLen, accepted, asked }
    · rw [if_neg isControl]
      refine iff_of_true ?_ (fun half => isControl (by rw [half.code]; decide))
      intro access member
      split at member
      · cases member
      · rcases List.mem_append.mp member with member | member
        · exact payload access member
        · rw [List.mem_singleton.mp member]
          exact inside

-----------------------------------------------------------------------------------------
-- The accesses and the results
-----------------------------------------------------------------------------------------

/-- A slice exists if and only if it lies inside the buffer. -/
theorem slice_isSome_iff {buffer : List UInt8} {position count : Nat}
    : (slice buffer position count).isSome = true ↔ position + count ≤ buffer.length := by
  unfold slice
  split
  · next inside => exact iff_of_true rfl inside
  · next outside => exact iff_of_false (fun read => nomatch read) outside

/-- The payload gets longer by what is read. -/
theorem readPayload_length {buffer payload read : List UInt8} {data dataLen : Nat}
    {mask : Option Nat} (done : readPayload buffer data dataLen mask payload = some read)
    : read.length = payload.length + dataLen := by
  unfold readPayload at done
  split at done
  · next zero =>
      cases done
      rw [zero, Nat.add_zero]
  · obtain ⟨bytes, found, done⟩ := Option.bind_eq_some_iff.mp done
    have size : bytes.length = dataLen := by
      have inside := slice_isSome_iff.mp (Option.isSome_of_eq_some found)
      unfold slice at found
      rw [if_pos inside] at found
      cases found
      rw [List.length_take, List.length_drop]
      omega
    split at done
    · cases done
      rw [List.length_append, size]
    · obtain ⟨key, -, done⟩ := Option.bind_eq_some_iff.mp done
      cases done
      rw [List.length_append, length_applyMask, size]

/-- The payload can be read if and only if the frame is there. -/
theorem readPayload_isSome_iff {buffer : List UInt8} {header : FrameHeader}
    (bounded : header.Bounded buffer.length) (payload : List UInt8)
    : (readPayload buffer header.headerLen header.payloadLen
        (if header.hasMask then some header.lengthEnd else none) payload).isSome = true
      ↔ header.payloadLen = 0 ∨ header.frameLen ≤ buffer.length := by
  have edges := bounded.headerLen.2.2
  unfold readPayload
  by_cases empty : header.payloadLen = 0
  · rw [if_pos empty]
    exact iff_of_true rfl (.inl empty)
  · rw [if_neg empty]
    by_cases inside : header.headerLen + header.payloadLen ≤ buffer.length
    · refine iff_of_true ?_ (.inr inside)
      obtain ⟨bytes, read⟩ := Option.isSome_iff_exists.mp (slice_isSome_iff.mpr inside)
      rw [read]
      cases masked : header.hasMask with
      | false => rfl
      | true =>
          have position := edges masked
          have there : header.lengthEnd + 4 ≤ buffer.length := by omega
          obtain ⟨key, keyRead⟩ := Option.isSome_iff_exists.mp (slice_isSome_iff.mpr there)
          simp only [if_true, bind, Option.bind, keyRead, Option.isSome_some]
    · refine iff_of_false ?_ (not_or.mpr ⟨empty, inside⟩)
      have outside : slice buffer header.headerLen header.payloadLen = none :=
        if_neg inside
      rw [outside]
      exact fun read => nomatch read

/-- A control frame can be handled if and only if its accesses stay inside the payload. -/
theorem handleControlFrame_isSome_iff {connection : Connection} {header : FrameHeader}
    {ctrlPayload : List UInt8} (collected : ctrlPayload.length = header.payloadLen) (len : Nat)
    : (handleControlFrame connection header.fin header.code ctrlPayload).isSome = true
      ↔ ∀ access ∈ controlAccesses connection.handler header,
          access.Within len header.payloadLen := by
  rw [controlAccesses_within_iff]
  unfold handleControlFrame
  rw [collected]
  by_cases refused : header.fin = false ∨ 125 < header.payloadLen
  · rw [if_pos refused]
    refine iff_of_true rfl ?_
    rintro ⟨fin, -, single, -⟩
    rcases refused with unfinished | long
    · rw [fin] at unfinished
      cases unfinished
    · omega
  · rw [if_neg refused]
    have fin : header.fin = true := by
      cases done : header.fin with
      | true => rfl
      | false => exact absurd (.inl done) refused
    split
    · next pong =>
        refine iff_of_true (by split <;> rfl) (fun half => ?_)
        rw [pong] at half
        exact nomatch half.2.1
    · next ping =>
        refine iff_of_true (by split <;> rfl) (fun half => ?_)
        rw [ping] at half
        exact nomatch half.2.1
    · next close =>
        split
        · next answered =>
            refine iff_of_true rfl (fun half => ?_)
            rw [half.2.2.2] at answered
            cases answered
        · next asked =>
            split
            · exact iff_of_true rfl (fun half => nomatch collected.trans half.2.2.1)
            · exact iff_of_false (fun read => nomatch read)
                (fun whole => whole ⟨fin, close, collected.symm, Bool.eq_false_iff.mpr asked⟩)
            · exact iff_of_true rfl (fun half => nomatch collected.trans half.2.2.1)
    · next other =>
        exact iff_of_true rfl (fun half => absurd half.2.1 other)

/-- Without a header, only the bytes of the length are read. -/
theorem staysWithin_noHeader {connection : Connection}
    (missing : frameHeader connection.socket.inBuffer = none)
    : StaysWithin connection := by
  intro access member
  unfold streamAccesses at member
  dsimp only at member
  rw [missing, List.append_nil] at member
  exact lengthAccesses_within _ _ access member

/-- A part of a frame is not read. -/
theorem staysWithin_part {connection : Connection} {header : FrameHeader}
    (read : frameHeader connection.socket.inBuffer = some header)
    (waits : ¬ header.isWhole connection.pending = true)
    : StaysWithin connection := by
  intro access member
  unfold streamAccesses at member
  dsimp only at member
  rw [read] at member
  dsimp only at member
  rw [if_neg (show ¬ header.isWhole connection.socket.inBuffer.length = true from waits),
    List.append_nil] at member
  exact lengthAccesses_within _ _ access member

/-- For a whole frame, the accesses of its payload count. -/
theorem staysWithin_whole_iff {connection : Connection} {header : FrameHeader}
    (read : frameHeader connection.socket.inBuffer = some header)
    (whole : header.isWhole connection.pending = true)
    : StaysWithin connection
      ↔ ∀ access ∈ frameAccesses connection.handler header,
          access.Within connection.pending header.payloadLen := by
  unfold StaysWithin streamAccesses ctrlPayloadLen
  dsimp only
  rw [read]
  dsimp only
  rw [if_pos (show header.isWhole connection.socket.inBuffer.length = true from whole)]
  constructor
  · intro within access member
    exact within access (List.mem_append_right _ member)
  · intro within access member
    rcases List.mem_append.mp member with member | member
    · exact lengthAccesses_within _ _ access member
    · exact within access member

/-- A frame can be taken if and only if its accesses stay inside the buffers. -/
theorem takeFrame_isSome_iff {connection : Connection} {header : FrameHeader}
    (bounded : header.Bounded connection.pending)
    (whole : header.isWhole connection.pending = true)
    : (takeFrame connection header).isSome = true
      ↔ ∀ access ∈ frameAccesses connection.handler header,
          access.Within connection.pending header.payloadLen := by
  have payload := payloadAccesses_within_iff bounded header.payloadLen
  have read := readPayload_isSome_iff bounded
  have edges := bounded.headerLen
  have small := of_decide_eq_true whole
  have erased : (header.payloadLen = 0 ∨ header.frameLen ≤ connection.pending)
      → header.frameLen ≤ connection.pending := by
    rintro (empty | inside)
    · unfold FrameHeader.frameLen
      omega
    · exact inside
  unfold takeFrame frameAccesses
  dsimp only
  by_cases refused : (header.hasMask && connection.handler.isClient) = true
  · rw [if_pos refused, if_pos refused]
    exact iff_of_true rfl (fun _ member => nomatch member)
  · rw [if_neg refused, if_neg refused]
    by_cases isControl : header.code.isControlFrame = true
    · rw [if_pos isControl, if_pos isControl]
      cases collected : readPayload connection.socket.inBuffer header.headerLen
          header.payloadLen (if header.hasMask then some header.lengthEnd else none) [] with
      | none =>
          refine iff_of_false (fun done => nomatch done) (fun within => ?_)
          have done := (read []).mpr
            (payload.mp (fun access member => within access (List.mem_append_left _ member)))
          rw [collected] at done
          cases done
      | some ctrlPayload =>
          have size := (readPayload_length collected).trans (Nat.zero_add _)
          have inside := (read []).mp (Option.isSome_of_eq_some collected)
          have control (next : Connection) := @handleControlFrame_isSome_iff next header
            ctrlPayload size connection.pending
          have handled := control
            { connection with
              socket.inBuffer := connection.socket.inBuffer.drop header.frameLen }
          dsimp only [bind, Option.bind]
          constructor
          · intro done access member
            rcases List.mem_append.mp member with member | member
            · exact payload.mpr inside access member
            · rcases List.mem_cons.mp member with rfl | member
              · exact erased inside
              · refine handled.mp ?_ access member
                split at done
                · cases done
                · next found => exact Option.isSome_of_eq_some found
          · intro within
            obtain ⟨next, found⟩ := Option.isSome_iff_exists.mp (handled.mpr
              (fun access member => within access (List.mem_append_right _ (.tail _ member))))
            rw [found]
            rfl
    · rw [if_neg isControl, if_neg isControl]
      split
      · exact iff_of_true rfl (fun _ member => nomatch member)
      · constructor
        · intro done access member
          have inside : header.payloadLen = 0 ∨ header.frameLen ≤ connection.pending := by
            refine (read connection.handler.wsPayload).mp ?_
            obtain ⟨result, done⟩ := Option.isSome_iff_exists.mp done
            obtain ⟨wsPayload, found, -⟩ := Option.bind_eq_some_iff.mp done
            exact Option.isSome_of_eq_some found
          rcases List.mem_append.mp member with member | member
          · exact payload.mpr inside access member
          · rw [List.mem_singleton.mp member]
            exact erased inside
        · intro within
          obtain ⟨wsPayload, found⟩ := Option.isSome_iff_exists.mp
            ((read connection.handler.wsPayload).mpr (payload.mp
              (fun access member => within access (List.mem_append_left _ member))))
          rw [found]
          rfl

/-- The call has a result where all of its accesses stay within, and only there. -/
theorem handleTCPStream_isSome_iff (connection : Connection)
    : (handleTCPStream connection).isSome = true ↔ StaysWithin connection := by
  cases read : frameHeader connection.socket.inBuffer with
  | none =>
      rw [handleTCPStream_noHeader read]
      exact iff_of_true rfl (staysWithin_noHeader read)
  | some header =>
      rw [handleTCPStream_header read]
      by_cases whole : header.isWhole connection.pending = true
      · rw [if_pos whole, staysWithin_whole_iff read whole]
        exact takeFrame_isSome_iff (frameHeader_bounded read) whole
      · rw [if_neg whole]
        exact iff_of_true rfl (staysWithin_part read whole)

/-- Whatever bytes a buffer holds, `handleTCPStream` stays within it and within the control
payload, and takes a frame only with all of its bytes, exactly where the length of the next
frame does not wrap around and it is no close frame with half of a status code.
-/
theorem handleTCPStream_bounds (connection : Connection)
    (fits : connection.pending < 2 ^ 64)
    : (StaysWithin connection ∧ (TakesFrame connection → HasWholeFrame connection))
      ↔ ∀ header,
          frameHeader connection.socket.inBuffer = some header
          → ¬ WrapsAround header connection.pending
            ∧ ¬ HalfStatusCode connection.handler header connection.pending := by
  have takes := takesFrame_iff connection
  cases read : frameHeader connection.socket.inBuffer with
  | none =>
      rw [read] at takes
      refine iff_of_true ⟨staysWithin_noHeader read, fun taken => ?_⟩
        (fun _ found => nomatch found)
      obtain ⟨_, found, -⟩ := takes.mp taken
      cases found
  | some header =>
      have bounded := frameHeader_bounded read
      unfold HasWholeFrame
      rw [read] at takes ⊢
      simp only [Option.some.injEq, exists_eq_left', forall_eq'] at takes ⊢
      by_cases whole : header.isWhole connection.pending = true
      · rw [staysWithin_whole_iff read whole, ← frameLen_le_iff fits whole]
        constructor
        · rintro ⟨within, complete⟩
          have inside := complete (takes.mpr whole)
          exact ⟨inside, (frameAccesses_within_iff bounded whole inside).mp within⟩
        · rintro ⟨inside, full⟩
          exact ⟨(frameAccesses_within_iff bounded whole inside).mpr full, fun _ => inside⟩
      · refine iff_of_true ⟨staysWithin_part read whole, fun taken => ?_⟩
          ⟨fun wraps => whole wraps.2, fun half => whole half.whole⟩
        exact absurd (takes.mp taken) whole

/-- A whole text frame of a single byte. -/
theorem handleTCPStream_bounds_text
    : StaysWithin
        { Connection.new (.new false false false) with
          socket.inBuffer := [0x81, 0x01, 0x68] } := by
  refine ((handleTCPStream_bounds _ (by decide)).mpr ?_).1
  intro header read
  cases read
  exact ⟨by unfold WrapsAround; decide, fun half => nomatch half.code⟩

/-- A close frame with a single byte has its second one read behind the payload, and a frame
that declares 2^64 - 1 bytes is taken when its ten bytes of header are there.
-/
theorem handleTCPStream_outside
    : ¬ (∀ connection : Connection,
        connection.pending < 2 ^ 64
        → StaysWithin connection)
      ∧ ¬ (∀ connection : Connection,
        connection.pending < 2 ^ 64
        → TakesFrame connection → HasWholeFrame connection) := by
  constructor
  · intro within
    have stays := within
      { Connection.new (.new false false false) with
        socket.inBuffer := [0x88, 0x01, 0x03] } (by decide)
    have done := (handleTCPStream_isSome_iff _).mpr stays
    revert done
    decide
  · intro complete
    obtain ⟨header, read, inside⟩ := complete
      { Connection.new (.new false false false) with
        socket.inBuffer := [0x82, 0x7f, 0xff, 0xff, 0xff, 0xff, 0xff, 0xff, 0xff, 0xff] }
      (by decide) ((takesFrame_iff _).mpr ⟨_, rfl, by decide⟩)
    cases read
    revert inside
    decide

end NdcOdfWeb.Net
