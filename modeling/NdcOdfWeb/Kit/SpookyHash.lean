import NdcOdfWeb.Foundation.Absorption
import NdcOdfWeb.Foundation.Blocks

/-! `SpookyHash`: a message is hashed in one call, or in pieces that come one after the other. -/

namespace NdcOdfWeb.Kit

open NdcOdfWeb.Foundation

-----------------------------------------------------------------------------------------
-- Mixing
-----------------------------------------------------------------------------------------

/-- The size of the internal state, in bytes. -/
def blockSize : Nat := 96

/-- The size of the buffer of unhashed data, in bytes. -/
def bufSize : Nat := 2 * blockSize

/-- `sc_const`. -/
def spookyConst : UInt64 := 0xdeadbeefdeadbeef

/-- The variables of the long hash, and those of the short one. -/
abbrev SpookyState := Vector UInt64 12

abbrev ShortState := Vector UInt64 4

def assign {n : Nat} (s : Vector UInt64 n) (i : Fin n) (value : UInt64) : Vector UInt64 n :=
  s.set i value

/-- `Rot64`. -/
def rot64 (x k : UInt64) : UInt64 :=
  (x <<< k) ||| (x >>> (64 - k))

/-- The number in some bytes, the lowest one first. -/
def littleEndian (bytes : List UInt8) (position count : Nat) : UInt64 :=
  ((bytes.drop position).take count).foldr (fun byte value => value <<< 8 ||| byte.toUInt64) 0

/-- A line of `Mix`, for the variable `i`. -/
def mixLine (data : Fin 12 → UInt64) (s : SpookyState) (line : Fin 12 × UInt64) : SpookyState :=
  let (i, k) := line
  let s := assign s i (s[i] + data i)
  let s := assign s (i + 2) (s[i + 2] ^^^ s[i + 10])
  let s := assign s (i + 11) (s[i + 11] ^^^ s[i])
  let s := assign s i (rot64 s[i] k)
  assign s (i + 11) (s[i + 11] + s[i + 1])

/-- `Mix`. -/
def mix (s : SpookyState) (block : List UInt8) : SpookyState :=
  [(0, 11), (1, 32), (2, 43), (3, 31), (4, 17), (5, 28), (6, 39), (7, 57), (8, 55), (9, 54),
    (10, 22), (11, 46)].foldl (mixLine (fun i => littleEndian block (8 * i) 8)) s

/-- A line of `EndPartial`, which rotates the variable `i`. -/
def endPartialLine (h : SpookyState) (line : Fin 12 × UInt64) : SpookyState :=
  let (i, k) := line
  let h := assign h (i + 10) (h[i + 10] + h[i])
  let h := assign h (i + 1) (h[i + 1] ^^^ h[i + 10])
  assign h i (rot64 h[i] k)

def endPartial (h : SpookyState) : SpookyState :=
  [(1, 44), (2, 15), (3, 34), (4, 21), (5, 38), (6, 33), (7, 10), (8, 13), (9, 38), (10, 53),
    (11, 42), (0, 54)].foldl endPartialLine h

/-- `End`. -/
def endMix (h : SpookyState) (block : List UInt8) : SpookyState :=
  endPartial (endPartial (endPartial (h.mapIdx
    (fun i value => value + littleEndian block (8 * i) 8))))

/-- A line of `ShortMix`, for the variable `i`. -/
def shortMixLine (h : ShortState) (line : Fin 4 × UInt64) : ShortState :=
  let (i, k) := line
  let h := assign h i (rot64 h[i] k)
  let h := assign h i (h[i] + h[i + 1])
  assign h (i + 2) (h[i + 2] ^^^ h[i])

def shortMix (h : ShortState) : ShortState :=
  [(2, 50), (3, 52), (0, 30), (1, 41), (2, 54), (3, 48), (0, 38), (1, 37), (2, 62), (3, 34),
    (0, 5), (1, 36)].foldl shortMixLine h

/-- A line of `ShortEnd`, which rotates the variable `i`. -/
def shortEndLine (h : ShortState) (line : Fin 4 × UInt64) : ShortState :=
  let (i, k) := line
  let h := assign h (i + 1) (h[i + 1] ^^^ h[i])
  let h := assign h i (rot64 h[i] k)
  assign h (i + 1) (h[i + 1] + h[i])

def shortEnd (h : ShortState) : ShortState :=
  [(2, 15), (3, 52), (0, 26), (1, 51), (2, 28), (3, 9), (0, 47), (1, 54), (2, 32), (3, 25),
    (0, 63)].foldl shortEndLine h

-----------------------------------------------------------------------------------------
-- The short hash
-----------------------------------------------------------------------------------------

/-- The first half of the loop's body, which 16 remaining bytes get, too. -/
def shortHalf (s : ShortState) (message : List UInt8) : ShortState :=
  let s := assign s 2 (s[2] + littleEndian message 0 8)
  shortMix (assign s 3 (s[3] + littleEndian message 8 8))

/-- A complete set of 32 bytes. -/
def shortSet (s : ShortState) (message : List UInt8) : ShortState :=
  let s := shortHalf s message
  let s := assign s 0 (s[0] + littleEndian message 16 8)
  assign s 1 (s[1] + littleEndian message 24 8)

/-- What the last bytes, up to 15, add to the variables `c` and `d`. -/
def lastBytes (message : List UInt8) : UInt64 × UInt64 :=
  let byte := fun i shift => if i < message.length then littleEndian message i 1 <<< shift else 0
  if 12 ≤ message.length then
    (littleEndian message 0 8, littleEndian message 8 4 + byte 12 32 + byte 13 40 + byte 14 48)
  else if 8 ≤ message.length then (littleEndian message 0 8, byte 8 0 + byte 9 8 + byte 10 16)
  else if 4 ≤ message.length then
    (littleEndian message 0 4 + byte 4 32 + byte 5 40 + byte 6 48, 0)
  else if 1 ≤ message.length then (byte 0 0 + byte 1 8 + byte 2 16, 0)
  else (spookyConst, spookyConst)

/-- `Short`. -/
def short (message : List UInt8) (seed1 seed2 : UInt64) : UInt64 × UInt64 :=
  let s : ShortState := #v[seed1, seed2, spookyConst, spookyConst]
  let (s, rest) := absorb shortSet 32 (message.length / 32) s message
  let (s, rest) := if 16 ≤ rest.length then (shortHalf s rest, rest.drop 16) else (s, rest)
  let (c, d) := lastBytes rest
  let s := assign s 2 (s[2] + c)
  let s := assign s 3 (s[3] + UInt64.ofNat message.length <<< 56 + d)
  let s := shortEnd s
  (s[0], s[1])

-----------------------------------------------------------------------------------------
-- The long hash
-----------------------------------------------------------------------------------------

def startState (seed1 seed2 : UInt64) : SpookyState :=
  #v[seed1, seed2, spookyConst, seed1, seed2, spookyConst, seed1, seed2, spookyConst, seed1,
    seed2, spookyConst]

/-- The last partial block, with its length. -/
def lastBlock (rest : List UInt8) : List UInt8 :=
  rest ++ List.replicate (blockSize - 1 - rest.length) 0 ++ [UInt8.ofNat rest.length]

/-- `Hash128`. -/
def hash128 (message : List UInt8) (seed1 seed2 : UInt64) : UInt64 × UInt64 :=
  if message.length < bufSize then short message seed1 seed2
  else
    let (h, rest) :=
      absorb mix blockSize (message.length / blockSize) (startState seed1 seed2) message
    let h := endMix h (lastBlock rest)
    (h[0], h[1])

/-- `Hash64`. -/
def hash64 (message : List UInt8) (seed : UInt64) : UInt64 :=
  (hash128 message seed seed).1

/-- `SpookyHash`: the unhashed data at the start of `m_data`, the variables (the seeds are the first
two), and the length of the input.
-/
structure SpookyHash where
  data : List UInt8
  state : SpookyState
  length : Nat

namespace SpookyHash

def init (seed1 seed2 : UInt64) : SpookyHash where
  data := []
  state := #v[seed1, seed2, 0, 0, 0, 0, 0, 0, 0, 0, 0, 0]
  length := 0

/-- `Update`. -/
def update (hash : SpookyHash) (message : List UInt8) : SpookyHash :=
  let length := (message.length + hash.length) % 2 ^ 64
  -- Is this message fragment too short? If it is, stuff it away.
  if message.length + hash.data.length < bufSize then
    { hash with data := hash.data ++ message, length }
  else
    let h :=
      if hash.length < bufSize then startState hash.state[0] hash.state[1] else hash.state
    -- if we've got anything stuffed away, use it now
    let (h, message) :=
      if hash.data ≠ [] then
        let data := hash.data ++ message.take (bufSize - hash.data.length)
        (mix (mix h (data.take blockSize)) (data.drop blockSize),
          message.drop (bufSize - hash.data.length))
      else (h, message)
    let (h, data) := absorb mix blockSize (message.length / blockSize) h message
    { data, state := h, length }

/-- `Final`; as long as no block was mixed, the data is the whole input. -/
def final (hash : SpookyHash) : UInt64 × UInt64 :=
  if hash.length < bufSize then short hash.data hash.state[0] hash.state[1]
  else
    -- m_data can contain two blocks; handle any whole first block
    let (h, data) :=
      if blockSize ≤ hash.data.length then
        (mix hash.state (hash.data.take blockSize), hash.data.drop blockSize)
      else (hash.state, hash.data)
    let h := endMix h (lastBlock data)
    (h[0], h[1])

-----------------------------------------------------------------------------------------
-- Messages in pieces
-----------------------------------------------------------------------------------------

/-- The variables before the next block, once there is enough for one. -/
def begun (hash : SpookyHash) : SpookyState :=
  if hash.length < bufSize then startState hash.state[0] hash.state[1] else hash.state

/-- The hash has got the message: a short one is stuffed away, of a longer one all blocks that are
not stuffed away were mixed.
-/
structure Has (seed1 seed2 : UInt64) (hash : SpookyHash) (message : List UInt8) : Prop where
  length : hash.length = message.length
  stuffed : hash.data.length < bufSize
  short
    : message.length < bufSize
      → hash.data = message ∧ hash.state[0] = seed1 ∧ hash.state[1] = seed2
  absorbed
    : absorbAll mix blockSize (startState seed1 seed2) message
      = absorbAll mix blockSize hash.begun hash.data

variable {seed1 seed2 : UInt64} {hash : SpookyHash} {message : List UInt8}

/-- At first, nothing was fed. -/
theorem has_init (seed1 seed2 : UInt64) : Has seed1 seed2 (init seed1 seed2) [] where
  length := rfl
  stuffed := show 0 < bufSize by decide
  short _ := ⟨rfl, rfl, rfl⟩
  absorbed := rfl

/-- What is stuffed away is filled up to two blocks, which are mixed first. -/
theorem absorbAll_stuffed (h : SpookyState) {data : List UInt8} (stuffed : data.length < bufSize)
    (enough : bufSize ≤ message.length + data.length)
    : absorbAll mix blockSize h (data ++ message)
      = absorbAll mix blockSize
          (mix (mix h ((data ++ message.take (bufSize - data.length)).take blockSize))
            ((data ++ message.take (bufSize - data.length)).drop blockSize))
          (message.drop (bufSize - data.length)) := by
  have positive : 0 < blockSize := by decide
  have two : bufSize = blockSize + blockSize := rfl
  have filled : (data ++ message.take (bufSize - data.length)).length = bufSize := by
    rw [List.length_append, List.length_take]
    omega
  have first
      : ((data ++ message.take (bufSize - data.length)).take blockSize).length = blockSize := by
    rw [List.length_take]
    omega
  have second
      : ((data ++ message.take (bufSize - data.length)).drop blockSize).length = blockSize := by
    rw [List.length_drop]
    omega
  rw [← absorbAll_block positive second, ← absorbAll_block positive first,
    ← List.append_assoc ((data ++ _).take blockSize), List.take_append_drop, List.append_assoc,
    List.take_append_drop]

/-- The state of a long message is that of its whole blocks. -/
theorem has_absorbed {h : SpookyState} {data : List UInt8} (long : bufSize ≤ message.length)
    (absorbed
      : absorbAll mix blockSize (startState seed1 seed2) message
        = absorbAll mix blockSize h data)
    : Has seed1 seed2
        {
          data := (absorbAll mix blockSize h data).2
          state := (absorbAll mix blockSize h data).1
          length := message.length
        }
        message := by
  have short : (absorbAll mix blockSize h data).2.length < blockSize := by
    rw [length_absorbAll]
    exact Nat.mod_lt _ (by decide)
  have more : blockSize < bufSize := by decide
  refine
    { length := rfl, stuffed := Nat.lt_trans short more, short := by omega, absorbed := ?_ }
  rw [begun, if_neg (Nat.not_lt.mpr long), absorbAll_short short]
  exact absorbed

/-- `Update` with another piece of the message. -/
theorem Has.update (has : Has seed1 seed2 hash message) {piece : List UInt8}
    (bound : (message ++ piece).length < 2 ^ 64)
    : Has seed1 seed2 (hash.update piece) (message ++ piece) := by
  have positive : 0 < blockSize := by decide
  have count : (piece.length + hash.length) % 2 ^ 64 = (message ++ piece).length := by
    rw [has.length, Nat.mod_eq_of_lt] <;> rw [List.length_append] at * <;> omega
  have absorbed
      : absorbAll mix blockSize (startState seed1 seed2) (message ++ piece)
        = absorbAll mix blockSize hash.begun (hash.data ++ piece) := by
    rw [absorbAll_append positive, has.absorbed, ← absorbAll_append positive]
  unfold SpookyHash.update
  dsimp only
  rw [count]
  split
  · next few =>
      have total : (hash.data ++ piece).length < bufSize := by
        rw [List.length_append]
        omega
      have same
          : begun
              {
                hash with
                data := hash.data ++ piece
                length := (message ++ piece).length
              }
            = hash.begun := by
        unfold begun
        dsimp only
        rw [has.length, List.length_append]
        by_cases less : message.length < bufSize
        · obtain ⟨data, -⟩ := has.short less
          rw [if_pos less, if_pos (by rw [data] at few; omega)]
        · rw [if_neg less, if_neg (by omega)]
      refine { length := rfl, stuffed := total, short := ?_, absorbed := ?_ }
      · intro less
        rw [List.length_append] at less
        obtain ⟨data, first, second⟩ := has.short (by omega)
        exact ⟨by rw [data], first, second⟩
      · rw [same]
        exact absorbed
  · next enough =>
      have long : ¬ (message ++ piece).length < bufSize := by
        intro less
        rw [List.length_append] at less
        obtain ⟨data, -⟩ := has.short (by omega)
        rw [data] at enough
        omega
      by_cases some' : hash.data ≠ []
      · rw [if_pos some']
        refine has_absorbed (Nat.not_lt.mp long) (absorbed.trans ?_)
        exact absorbAll_stuffed hash.begun has.stuffed (Nat.not_lt.mp enough)
      · rw [if_neg some']
        refine has_absorbed (Nat.not_lt.mp long) (absorbed.trans ?_)
        rw [ne_eq, Decidable.not_not] at some'
        rw [some', List.nil_append]
        rfl

/-- By induction on the pieces. -/
theorem has_pieces {pieces : List (List UInt8)} (has : Has seed1 seed2 hash message)
    (bound : (message ++ pieces.flatten).length < 2 ^ 64)
    : Has seed1 seed2 (pieces.foldl update hash) (message ++ pieces.flatten) := by
  induction pieces generalizing hash message with
  | nil => simpa using has
  | cons piece pieces ih =>
      rw [List.flatten_cons, ← List.append_assoc] at bound ⊢
      have here : (message ++ piece).length < 2 ^ 64 := by
        rw [List.length_append] at bound
        omega
      exact ih (has.update here) bound

/-- `Final` is the hash of the whole message. -/
theorem Has.final (has : Has seed1 seed2 hash message)
    : hash.final = hash128 message seed1 seed2 := by
  unfold SpookyHash.final hash128
  rw [has.length]
  split
  · next less =>
      obtain ⟨data, first, second⟩ := has.short less
      rw [data, first, second]
  · next enough =>
      have all : absorbAll mix blockSize (startState seed1 seed2) message
          = (if blockSize ≤ hash.data.length then
              (mix hash.state (hash.data.take blockSize), hash.data.drop blockSize)
            else (hash.state, hash.data)) := by
        have stuffed : hash.data.length < 2 * blockSize := has.stuffed
        have begun : hash.begun = hash.state := by
          rw [SpookyHash.begun, has.length, if_neg enough]
        rw [has.absorbed, begun]
        split
        · next whole =>
            have first : (hash.data.take blockSize).length = blockSize := by
              rw [List.length_take]
              omega
            have short : (hash.data.drop blockSize).length < blockSize := by
              rw [List.length_drop]
              omega
            rw [← absorbAll_short short, ← absorbAll_block (by decide) first,
              List.take_append_drop]
        · next part => exact absorbAll_short (Nat.not_le.mp part) hash.state
      rw [absorbAll] at all
      rw [all]

/-- The hash of a message does not depend on the pieces it comes in. -/
theorem final_pieces (seed1 seed2 : UInt64) {pieces : List (List UInt8)}
    (bound : pieces.flatten.length < 2 ^ 64)
    : (pieces.foldl update (init seed1 seed2)).final = hash128 pieces.flatten seed1 seed2 :=
  (has_pieces (has_init seed1 seed2) bound).final

/-- Three pieces of more than two blocks together, which are not split where the blocks end. -/
theorem final_pieces_long
    : ([List.replicate 150 1, [], List.replicate 90 2].foldl update (init 5 6)).final
      = hash128 [List.replicate 150 1, [], List.replicate 90 2].flatten 5 6 := by
  apply final_pieces
  rw [List.flatten_cons, List.flatten_cons, List.flatten_singleton, List.length_append,
    List.length_append, List.length_replicate, List.length_replicate, List.length_nil]
  omega

end SpookyHash

end NdcOdfWeb.Kit
