import NdcOdfWeb.Foundation.FrameReader
import NdcOdfWeb.Net.WebSocketHandler

/-! Frames as they are sent, and how one is received. -/

namespace NdcOdfWeb.Net

open NdcOdfWeb.Foundation

/-- A well-formed frame, of any sender. -/
structure Frame where
  fin : Bool
  code : WSOpCode
  mask : Option (List UInt8)
  payload : List UInt8
  mask_length : ∀ key ∈ mask, key.length = 4
  payload_lt : payload.length < 2 ^ 63

namespace Frame

/-- The first byte of a frame. -/
def flags (frame : Frame) : UInt8 :=
  (if frame.fin then finBit else 0) ||| frame.code.toByte

/-- The length of the payload, with the mask's bit. -/
def lengthField (frame : Frame) : List UInt8 :=
  lengthBytes frame.payload.length (if frame.mask.isSome then maskBit else 0)

/-- The mask and the payload under it. -/
def body (frame : Frame) : List UInt8 :=
  match frame.mask with
  | none => frame.payload
  | some key => key ++ applyMask key frame.payload

def bytes (frame : Frame) : List UInt8 :=
  frame.flags :: (frame.lengthField ++ frame.body)

end Frame

-----------------------------------------------------------------------------------------
-- The header
-----------------------------------------------------------------------------------------

/-- The code is in the lower four bits, checked for each code. -/
theorem ofByte_flags (frame : Frame) : WSOpCode.ofByte frame.flags = frame.code := by
  have all : ∀ fin : Bool, ∀ code : WSOpCode,
      WSOpCode.ofByte ((if fin then finBit else 0) ||| code.toByte) = code := by
    intro fin code
    cases code with
    | unknown n =>
        revert fin n
        decide
    | _ => cases fin <;> decide
  exact all frame.fin frame.code

/-- The flag is the highest bit, checked for each code. -/
theorem fin_flags (frame : Frame) : decide (frame.flags &&& finBit ≠ 0) = frame.fin := by
  have all : ∀ fin : Bool, ∀ code : WSOpCode,
      decide (((if fin then finBit else 0) ||| code.toByte) &&& finBit ≠ 0) = fin := by
    intro fin code
    cases code with
    | unknown n =>
        revert fin n
        decide
    | _ => cases fin <;> decide
  exact all frame.fin frame.code

/-- The first byte has the mask's flag, and the length or the code of its size. -/
theorem lengthBytes_head (len : Nat) (masked : Bool)
    : ∃ first rest,
        lengthBytes len (if masked then maskBit else 0) = first :: rest
        ∧ decide (first &&& maskBit ≠ 0) = masked
        ∧ first.toNat &&& 0x7f = (if len < 126 then len else if len ≤ 0xffff then 126 else 127) := by
  unfold lengthBytes
  split
  · next short =>
      have all : ∀ len < 126, ∀ masked : Bool,
          decide ((UInt8.ofNat len ||| if masked then maskBit else 0) &&& maskBit ≠ 0) = masked
          ∧ (UInt8.ofNat len ||| if masked then maskBit else 0).toNat &&& 0x7f = len := by
        decide +kernel
      exact ⟨_, _, rfl, all len short masked⟩
  · split
    · exact ⟨_, _, rfl, by cases masked <;> decide, by cases masked <;> decide⟩
    · exact ⟨_, _, rfl, by cases masked <;> decide, by cases masked <;> decide⟩

/-- The byte is a digit of the number, to the base of 256. -/
theorem toNat_byteAt (n shift : Nat) : (byteAt n shift).toNat = n / 2 ^ shift % 256 := by
  rw [byteAt, UInt8.toNat_ofNat', Nat.shiftRight_eq_div_pow,
    show (0xff : Nat) = 2 ^ 8 - 1 from rfl, Nat.and_two_pow_sub_one_eq_mod]
  omega

/-- One byte, or one and two or eight more. -/
theorem length_lengthBytes (len : Nat) (flag : UInt8)
    : (lengthBytes len flag).length
      = if len < 126 then 1 else if len ≤ 0xffff then 3 else 9 := by
  unfold lengthBytes
  split
  · rfl
  · split <;> rfl

/-- The length that is written is the one that is read, and the position behind it. -/
theorem payloadLength_bytes {len : Nat} (bound : len < 2 ^ 64) (first : UInt8) (masked : Bool)
    (rest : List UInt8)
    : payloadLength (first :: (lengthBytes len (if masked then maskBit else 0) ++ rest))
      = some (len, 1 + (lengthBytes len (if masked then maskBit else 0)).length) := by
  obtain ⟨second, more, shape, -, low⟩ := lengthBytes_head len masked
  unfold payloadLength
  rw [length_lengthBytes]
  by_cases short : len < 126
  · rw [if_pos short] at low ⊢
    rw [shape]
    simp only [List.cons_append, List.getD_cons_succ, List.getD_cons_zero, low]
    rw [if_neg (by omega), if_neg (by omega)]
  · rw [if_neg short] at low ⊢
    by_cases middle : len ≤ 0xffff
    · rw [if_pos middle] at low ⊢
      rw [lengthBytes, if_neg short, if_pos middle] at shape ⊢
      simp only [List.cons_append, List.nil_append, List.getD_cons_succ, List.getD_cons_zero,
        List.length_cons, List.cons.injEq] at shape ⊢
      obtain ⟨rfl, -⟩ := shape
      simp only [low, if_true, toNat_byteAt, Nat.pow_zero, Nat.div_one]
      rw [if_neg (by omega), ← Nat.shiftLeft_add_eq_or_of_lt (by omega), Nat.shiftLeft_eq]
      congr 2
      omega
    · rw [if_neg middle] at low ⊢
      rw [lengthBytes, if_neg short, if_neg middle] at shape ⊢
      simp only [List.cons_append, List.nil_append, List.getD_cons_succ, List.getD_cons_zero,
        List.length_cons, List.cons.injEq] at shape ⊢
      obtain ⟨rfl, -⟩ := shape
      simp only [low, toNat_byteAt, Nat.pow_zero, Nat.div_one, Nat.shiftLeft_eq]
      rw [if_neg (by decide), if_pos trivial, if_neg (by omega)]
      congr 2
      omega

/-- Each byte is masked in its place. -/
theorem length_applyMask (key data : List UInt8)
    : (applyMask key data).length = data.length :=
  List.length_mapIdx

/-- Flipping the bits twice. -/
theorem applyMask_applyMask (key data : List UInt8)
    : applyMask key (applyMask key data) = data := by
  refine List.ext_getElem (by simp only [length_applyMask]) ?_
  intro i _ _
  simp only [applyMask, List.getElem_mapIdx, UInt8.xor_assoc, UInt8.xor_self, UInt8.xor_zero]

/-- The position of the payload. -/
def Frame.headerLen (frame : Frame) : Nat :=
  if frame.mask.isSome then 1 + frame.lengthField.length + 4 else 1 + frame.lengthField.length

/-- The header, then the payload. -/
theorem Frame.length_bytes (frame : Frame)
    : frame.bytes.length = frame.headerLen + frame.payload.length := by
  have size := frame.mask_length
  unfold Frame.bytes Frame.body Frame.headerLen
  cases mask : frame.mask with
  | none =>
      simp only [List.length_cons, List.length_append, Option.isSome_none]
      rw [if_neg (by decide)]
      omega
  | some key =>
      have four := size key mask
      simp only [List.length_cons, List.length_append, Option.isSome_some, length_applyMask,
        if_true, four]
      omega

/-- Two bytes, at most eight for the length and four for the mask. -/
theorem Frame.headerLen_le (frame : Frame) : frame.headerLen ≤ 14 := by
  have size := length_lengthBytes frame.payload.length
    (if frame.mask.isSome then maskBit else 0)
  unfold Frame.headerLen Frame.lengthField
  rw [size]
  split_ifs <;> omega

/-- The mask is applied a second time, so the payload comes back. -/
theorem readPayload_frame (frame : Frame) (rest payload : List UInt8)
    : readPayload (frame.bytes ++ rest) frame.headerLen frame.payload.length
        (if frame.mask.isSome then some (1 + frame.lengthField.length) else none) payload
      = some (payload ++ frame.payload) := by
  unfold readPayload
  split
  · next empty => rw [List.length_eq_zero_iff.mp empty, List.append_nil]
  · have size := frame.mask_length
    have position : (frame.flags :: frame.lengthField).length = 1 + frame.lengthField.length := by
      rw [List.length_cons, Nat.add_comm]
    unfold Frame.headerLen Frame.bytes Frame.body
    cases mask : frame.mask with
    | none =>
        have read := slice_middle (frame.flags :: frame.lengthField) frame.payload rest
        simp only [Option.isSome_none, Bool.false_eq_true, if_false, ← position,
          List.append_assoc, List.cons_append] at read ⊢
        rw [read]
        rfl
    | some key =>
        have four := size key mask
        have readKey := slice_middle (frame.flags :: frame.lengthField) key
          (applyMask key frame.payload ++ rest)
        have readData := slice_middle (frame.flags :: frame.lengthField ++ key)
          (applyMask key frame.payload) rest
        rw [List.length_append, position, four, length_applyMask] at readData
        rw [position, four] at readKey
        simp only [Option.isSome_some, if_true, List.append_assoc, List.cons_append]
          at readKey readData ⊢
        rw [readData]
        simp only [bind, Option.bind, readKey, applyMask_applyMask]

/-- What the handler does with a whole frame, once it is read. -/
def receiveFrame (connection : Connection) (frame : Frame) (rest : List UInt8)
    : Option (Bool × Connection) :=
  if frame.mask.isSome && connection.handler.isClient then
    some (true, shutdown connection protocolError [])
  else if frame.code.isControlFrame then do
    let next ←
      handleControlFrame { connection with socket.inBuffer := rest } frame.fin frame.code
        frame.payload
    some (true, next)
  else if connection.handler.inFragmentBlock ≠ decide (frame.code = .continuation) then
    some (true, shutdown connection protocolError [])
  else
    some
      (handleDataFrame
        {
          connection with
          handler.wsPayload := connection.handler.wsPayload ++ frame.payload
          socket.inBuffer := rest
        }
        frame.fin frame.code)

/-- A frame at the head of the buffer is received whole, whatever follows it. -/
theorem handleTCPStream_frame {connection : Connection} {frame : Frame} {rest : List UInt8}
    (buffer : connection.socket.inBuffer = frame.bytes ++ rest)
    : handleTCPStream connection = receiveFrame connection frame rest := by
  obtain ⟨second, more, shape, masked, -⟩ :=
    lengthBytes_head frame.payload.length frame.mask.isSome
  have lengthRead := payloadLength_bytes (Nat.lt_trans frame.payload_lt (by omega))
    frame.flags frame.mask.isSome (frame.body ++ rest)
  have payloadRead (payload : List UInt8) := readPayload_frame frame rest payload
  have total := frame.length_bytes
  have payloadLt := frame.payload_lt
  have header := frame.headerLen_le
  have erased : (frame.bytes ++ rest).drop (frame.headerLen + frame.payload.length) = rest := by
    rw [← total, List.drop_left]
  have long : ¬ (frame.bytes ++ rest).length < 2 := by
    unfold Frame.bytes Frame.lengthField
    rw [shape]
    simp only [List.length_append, List.length_cons]
    omega
  have whole
      : ¬ (frame.bytes ++ rest).length < (frame.payload.length + frame.headerLen) % 2 ^ 64 := by
    rw [List.length_append]
    omega
  have first : (frame.bytes ++ rest).getD 0 0 = frame.flags := rfl
  have next : (frame.bytes ++ rest).getD 1 0 = second := by
    unfold Frame.bytes Frame.lengthField
    rw [shape]
    rfl
  have bytesEq : frame.bytes ++ rest
      = frame.flags :: (frame.lengthField ++ (frame.body ++ rest)) := by
    simp only [Frame.bytes, List.cons_append, List.append_assoc]
  unfold handleTCPStream
  simp only [buffer]
  rw [if_neg long, first, next, fin_flags, masked, ofByte_flags, bytesEq, Frame.lengthField,
    lengthRead, ← Frame.lengthField, ← bytesEq]
  simp only
  rw [← Frame.headerLen, if_neg whole, erased, payloadRead, payloadRead]
  rfl

/-- A byte of the first part. -/
theorem getD_append_left {part : List UInt8} {i : Nat} (inside : i < part.length)
    (missing : List UInt8)
    : (part ++ missing).getD i 0 = part.getD i 0 := by
  rw [List.getD_eq_getElem?_getD, List.getD_eq_getElem?_getD, List.getElem?_append_left inside]

/-- The length is not read before all of its bytes are there. -/
theorem payloadLength_part {len : Nat} {first : UInt8} {masked : Bool}
    {part missing : List UInt8} (some' : part ≠ []) (cut : missing ≠ [])
    (whole : part ++ missing = lengthBytes len (if masked then maskBit else 0))
    : payloadLength (first :: part) = none := by
  obtain ⟨second, more, shape, -, low⟩ := lengthBytes_head len masked
  have size := length_lengthBytes len (if masked then maskBit else 0)
  obtain ⟨head, tail, rfl⟩ := List.exists_cons_of_ne_nil some'
  obtain ⟨next, others, rfl⟩ := List.exists_cons_of_ne_nil cut
  rw [← whole, List.length_append, List.length_cons, List.length_cons] at size
  rw [← whole, List.cons_append, List.cons.injEq] at shape
  rw [← shape.1] at low
  unfold payloadLength
  simp only [List.getD_cons_succ, List.getD_cons_zero, List.length_cons, low]
  by_cases short : len < 126
  · rw [if_pos short] at size
    omega
  · rw [if_neg short] at size
    by_cases middle : len ≤ 0xffff
    · rw [if_pos middle] at size
      rw [if_neg short, if_pos middle, if_pos rfl, if_pos (by omega)]
    · rw [if_neg middle] at size
      rw [if_neg short, if_neg middle, if_neg (by decide), if_pos rfl, if_pos (by omega)]

/-- A part of a frame is left in the buffer. -/
theorem handleTCPStream_part {connection : Connection} {frame : Frame} {missing : List UInt8}
    (cut : missing ≠ []) (whole : connection.socket.inBuffer ++ missing = frame.bytes)
    : handleTCPStream connection = some (false, connection) := by
  have total := frame.length_bytes
  have shorter : connection.socket.inBuffer.length < frame.bytes.length := by
    rw [← whole, List.length_append]
    have positive := List.length_pos_iff.mpr cut
    omega
  unfold handleTCPStream
  simp only
  by_cases short : connection.socket.inBuffer.length < 2
  · rw [if_pos short]
  · rw [if_neg short]
    have nonempty : connection.socket.inBuffer ≠ [] := by
      intro empty
      rw [empty, List.length_nil] at short
      omega
    obtain ⟨first, part, shape⟩ := List.exists_cons_of_ne_nil nonempty
    have some' : part ≠ [] := by
      rintro rfl
      rw [shape, List.length_singleton] at short
      omega
    obtain ⟨second, rest, field, masked, -⟩ :=
      lengthBytes_head frame.payload.length frame.mask.isSome
    have next : connection.socket.inBuffer.getD 1 0 = second := by
      rw [← getD_append_left (by omega) missing, whole]
      unfold Frame.bytes Frame.lengthField
      rw [field]
      rfl
    have remaining : part ++ missing = frame.lengthField ++ frame.body := by
      rw [shape, Frame.bytes, List.cons_append, List.cons.injEq] at whole
      exact whole.2
    rw [next, masked]
    rcases FrameReader.append_eq_cases remaining with ⟨more, rfl, -⟩ | ⟨left, cutField, split⟩
    · have read := payloadLength_bytes (Nat.lt_trans frame.payload_lt (by omega)) first
        frame.mask.isSome more
      rw [← Frame.lengthField, ← shape] at read
      rw [read]
      simp only
      have payloadLt := frame.payload_lt
      have header := frame.headerLen_le
      rw [← Frame.headerLen, if_pos (by omega)]
    · rw [shape, payloadLength_part some' cutField split]

end NdcOdfWeb.Net
