import NdcOdfWeb.Foundation.Lines

/-! Reading lines from a pipe (`PipeReader`): the bytes behind a line are kept for the next call,
and a line may arrive in several reads.
-/

namespace NdcOdfWeb.Net

open NdcOdfWeb.Foundation

/-- The end of a line. -/
def newline : UInt8 := 0x0a

/-- What one round of the loop finds: the stop predicate, or the result of `poll` and `read`. -/
inductive PipePoll where
  | stopRequested
  | timeout
  | failed
  | closed
  | readFailed
  | readable (bytes : List UInt8)

/-- The bytes that a round takes out of the pipe. -/
def PipePoll.bytes : PipePoll → List UInt8
  | .readable bytes => bytes
  | .stopRequested | .timeout | .failed | .closed | .readFailed => []

/-- The bytes that were read and not returned, and what the next rounds will find. -/
structure PipeReader where
  data : List UInt8
  polls : List PipePoll

/-- The bytes that are not read yet. -/
def PipeReader.unread (reader : PipeReader) : List UInt8 :=
  reader.polls.flatMap PipePoll.bytes

/-- The result of a call: `>0` on success, `0` for a timeout, `<0` for an error. -/
structure LineCall where
  status : Int
  line : List UInt8

/-- The part of the bytes in front of the first newline. -/
def beforeNewline (bytes : List UInt8) : List UInt8 :=
  bytes.takeWhile (fun byte => !decide (byte = newline))

/-- The part of the bytes behind the first newline. -/
def behindNewline (bytes : List UInt8) : List UInt8 :=
  (bytes.dropWhile (fun byte => !decide (byte = newline))).drop 1

/-- The loop that polls in short intervals. When nothing is found any more, it times out. -/
def pollLine (line data : List UInt8) : Nat → List PipePoll → LineCall × PipeReader
  | 0, polls => (⟨0, line⟩, ⟨data, polls⟩)
  | _ + 1, [] => (⟨0, line⟩, ⟨data, []⟩)
  | maxPollCount + 1, poll :: polls =>
      match poll with
      | .stopRequested | .failed | .closed | .readFailed => (⟨-1, line⟩, ⟨data, polls⟩)
      | .timeout => pollLine line data maxPollCount polls
      | .readable bytes =>
          if newline ∈ bytes then
            -- got the end of the line
            (⟨1, data ++ beforeNewline bytes⟩, ⟨behindNewline bytes, polls⟩)
          else pollLine line (data ++ bytes) maxPollCount polls

/-- `PipeReader::readLine`. -/
def readLine (maxPollCount : Nat) (line : List UInt8) (reader : PipeReader)
    : LineCall × PipeReader :=
  if newline ∈ reader.data then
    (⟨1, line ++ beforeNewline reader.data⟩, { reader with data := behindNewline reader.data })
  else pollLine line reader.data maxPollCount reader.polls

/-- Some calls, with a fresh line each. -/
def readCalls (maxPollCount : Nat) : Nat → PipeReader → List LineCall × PipeReader
  | 0, reader => ([], reader)
  | calls + 1, reader =>
      let (call, next) := readLine maxPollCount [] reader
      let (later, last) := readCalls maxPollCount calls next
      (call :: later, last)

/-- The lines that the successful calls return. -/
def returnedLines (calls : List LineCall) : List (List UInt8) :=
  (calls.filter (fun call => 0 < call.status)).map LineCall.line

/-- The returned lines are the first ones of the stream, what follows them is kept or unread, and
a call that returns no line leaves no whole line.
-/
structure LineFraming (stream : List UInt8) (calls : List LineCall) (reader : PipeReader) : Prop where
  bytes : stream = joinLines newline (returnedLines calls) ++ (reader.data ++ reader.unread)
  lines
    : stream.splitOn newline
      = returnedLines calls ++ (reader.data ++ reader.unread).splitOn newline
  retained : ∀ call, calls.getLast? = some call → call.status ≤ 0 → newline ∉ reader.data

/-- The line ends at the first line feed. -/
theorem newline_not_mem_beforeNewline (bytes : List UInt8) : newline ∉ beforeNewline bytes := by
  intro member
  have other := List.mem_takeWhile_imp member
  simp at other

/-- By induction on the bytes. -/
theorem beforeNewline_append {bytes : List UInt8} (ends : newline ∈ bytes)
    : bytes = beforeNewline bytes ++ newline :: behindNewline bytes := by
  induction bytes with
  | nil => exact absurd ends List.not_mem_nil
  | cons byte bytes ih =>
      rw [beforeNewline, behindNewline]
      by_cases here : byte = newline
      · rw [List.takeWhile_cons_of_neg (by simpa using here),
          List.dropWhile_cons_of_neg (by simpa using here), here]
        rfl
      · rw [List.takeWhile_cons_of_pos (by simpa using here),
          List.dropWhile_cons_of_pos (by simpa using here)]
        rcases List.mem_cons.mp ends with same | later
        · exact absurd same.symm here
        · exact congrArg (byte :: ·) (ih later)

/-- What a call does with the bytes that are kept or unread: a line is cut off in front of them,
or they stay the same, and no whole line is kept.
-/
inductive CallKeeps (bytes : List UInt8) (call : LineCall) (reader : PipeReader) : Prop where
  | line (success : 0 < call.status) (clean : newline ∉ call.line)
    (cut : bytes = call.line ++ newline :: (reader.data ++ reader.unread))
  | none (fails : call.status ≤ 0) (clean : newline ∉ reader.data)
    (same : bytes = reader.data ++ reader.unread)

/-- By induction on the polls: each one is read, or the line ends. -/
theorem pollLine_keeps (line : List UInt8) {data : List UInt8} (clean : newline ∉ data)
    (maxPollCount : Nat) (polls : List PipePoll)
    : CallKeeps (data ++ polls.flatMap PipePoll.bytes) (pollLine line data maxPollCount polls).1
        (pollLine line data maxPollCount polls).2 := by
  induction polls generalizing data maxPollCount with
  | nil =>
      cases maxPollCount with
      | zero => exact .none (Int.le_refl 0) clean rfl
      | succ maxPollCount => exact .none (Int.le_refl 0) clean rfl
  | cons poll polls ih =>
      cases maxPollCount with
      | zero => exact .none (Int.le_refl 0) clean rfl
      | succ maxPollCount =>
          rw [List.flatMap_cons]
          cases poll with
          | stopRequested | failed | closed | readFailed =>
              exact .none (by change (-1 : Int) ≤ 0; omega) clean rfl
          | timeout => exact ih clean maxPollCount
          | readable bytes =>
              rw [pollLine]
              by_cases ends : newline ∈ bytes
              · rw [if_pos ends]
                apply CallKeeps.line
                · exact Int.zero_lt_one
                · rw [List.mem_append, not_or]
                  exact ⟨clean, newline_not_mem_beforeNewline bytes⟩
                · rw [PipePoll.bytes, List.append_assoc]
                  conv_lhs => rw [beforeNewline_append ends]
                  rw [List.append_assoc, List.cons_append]
                  rfl
              · rw [if_neg ends, PipePoll.bytes, ← List.append_assoc]
                apply ih
                rw [List.mem_append, not_or]
                exact ⟨clean, ends⟩

/-- A line is taken from the data, or polled for. -/
theorem readLine_keeps (maxPollCount : Nat) (reader : PipeReader)
    : CallKeeps (reader.data ++ reader.unread) (readLine maxPollCount [] reader).1
        (readLine maxPollCount [] reader).2 := by
  rw [readLine]
  by_cases cached : newline ∈ reader.data
  · rw [if_pos cached]
    apply CallKeeps.line
    · exact Int.zero_lt_one
    · exact newline_not_mem_beforeNewline reader.data
    · conv_lhs => rw [beforeNewline_append cached]
      rw [List.append_assoc, List.cons_append]
      rfl
  · rw [if_neg cached]
    exact pollLine_keeps [] cached maxPollCount reader.polls

/-- By induction on the calls. -/
theorem framed_readCalls (maxPollCount calls : Nat) (reader : PipeReader)
    : LineFraming (reader.data ++ reader.unread) (readCalls maxPollCount calls reader).1
        (readCalls maxPollCount calls reader).2 := by
  induction calls generalizing reader with
  | zero =>
      refine ⟨rfl, rfl, ?_⟩
      intro call last
      cases last
  | succ calls ih =>
      rw [readCalls]
      have later := ih (readLine maxPollCount [] reader).2
      have keeps := readLine_keeps maxPollCount reader
      generalize readLine maxPollCount [] reader = result at later keeps
      rcases result with ⟨call, next⟩
      dsimp only at later keeps ⊢
      generalize ran : readCalls maxPollCount calls next = rest at later
      rcases rest with ⟨laterCalls, last⟩
      dsimp only at later ⊢
      have retained : ∀ final, (call :: laterCalls).getLast? = some final → final.status ≤ 0
          → newline ∉ last.data := by
        intro final isLast fails
        cases laterCalls with
        | nil =>
            cases calls with
            | succ calls => cases ran
            | zero =>
                cases ran
                cases isLast
                cases keeps with
                | line success => exact absurd fails (Int.not_le.mpr success)
                | none _ clean => exact clean
        | cons other others =>
            rw [List.getLast?_cons_cons] at isLast
            exact later.retained final isLast fails
      cases keeps with
      | line success clean cut =>
          have lines : returnedLines (call :: laterCalls) = call.line :: returnedLines laterCalls := by
            rw [returnedLines, List.filter_cons_of_pos (by simpa using success), List.map_cons]
            rfl
          refine ⟨?_, ?_, retained⟩
          · rw [cut, lines, joinLines, List.flatMap_cons, List.append_assoc, List.append_assoc,
              later.bytes]
            rfl
          · rw [cut, lines, List.splitOn_append_cons_self_of_not_mem clean, later.lines]
            rfl
      | none fails clean same =>
          have lines : returnedLines (call :: laterCalls) = returnedLines laterCalls := by
            rw [returnedLines, List.filter_cons_of_neg (by simpa using fails)]
            rfl
          refine ⟨?_, ?_, retained⟩
          · rw [same, lines, later.bytes]
          · rw [same, lines, later.lines]

-----------------------------------------------------------------------------------------
-- Progress
-----------------------------------------------------------------------------------------

/-- The round is no stop and no error: the loop goes on, unless it has read a newline. -/
def PipePoll.goesOn : PipePoll → Bool
  | .timeout | .readable _ => true
  | .stopRequested | .failed | .closed | .readFailed => false

/-- A newline is read within so many rounds, before any stop or error. -/
def LineArrives (maxPollCount : Nat) (polls : List PipePoll) : Prop :=
  ∃ before bytes after,
    polls = before ++ .readable bytes :: after
    ∧ before.length < maxPollCount
    ∧ newline ∈ bytes
    ∧ ∀ poll ∈ before, poll.goesOn = true

/-- A line is kept, or arrives in time. -/
def FindsLine (maxPollCount : Nat) (reader : PipeReader) : Prop :=
  newline ∈ reader.data ∨ LineArrives maxPollCount reader.polls

/-- One round more: the newline is in what it reads, or the loop goes on behind it. -/
theorem lineArrives_cons {maxPollCount : Nat} {poll : PipePoll} {polls : List PipePoll}
    : LineArrives (maxPollCount + 1) (poll :: polls)
      ↔ (∃ bytes, poll = .readable bytes ∧ newline ∈ bytes)
        ∨ (poll.goesOn = true ∧ LineArrives maxPollCount polls) := by
  constructor
  · rintro ⟨before, bytes, after, split, inTime, ends, goOn⟩
    cases before with
    | nil =>
        obtain ⟨rfl, rfl⟩ := List.cons.inj split
        exact .inl ⟨bytes, rfl, ends⟩
    | cons first before =>
        obtain ⟨rfl, rfl⟩ := List.cons.inj split
        obtain ⟨here, later⟩ := List.forall_mem_cons.mp goOn
        exact .inr ⟨here, before, bytes, after, rfl, Nat.lt_of_succ_lt_succ inTime, ends, later⟩
  · rintro (⟨bytes, rfl, ends⟩ | ⟨here, before, bytes, after, rfl, inTime, ends, goOn⟩)
    · exact ⟨[], bytes, polls, rfl, Nat.succ_pos _, ends, fun _ member => nomatch member⟩
    · exact ⟨poll :: before, bytes, after, rfl, Nat.succ_lt_succ inTime, ends,
        List.forall_mem_cons.mpr ⟨here, goOn⟩⟩

/-- No poll, no line. -/
theorem not_lineArrives_zero (polls : List PipePoll) : ¬ LineArrives 0 polls :=
  fun ⟨_, _, _, _, inTime, _⟩ => absurd inTime (Nat.not_lt_zero _)

/-- No poll, no line. -/
theorem not_lineArrives_nil (maxPollCount : Nat) : ¬ LineArrives maxPollCount [] :=
  fun ⟨_, _, _, split, _⟩ => by simp at split

/-- The loop returns a line exactly if one arrives in time. The induction is on the rounds. -/
theorem pollLine_success (line data : List UInt8) (maxPollCount : Nat) (polls : List PipePoll)
    : 0 < (pollLine line data maxPollCount polls).1.status ↔ LineArrives maxPollCount polls := by
  induction polls generalizing data maxPollCount with
  | nil =>
      refine iff_of_false ?_ (not_lineArrives_nil _)
      cases maxPollCount <;> exact Int.lt_irrefl 0
  | cons poll polls ih =>
      cases maxPollCount with
      | zero => exact iff_of_false (Int.lt_irrefl 0) (not_lineArrives_zero _)
      | succ maxPollCount =>
          rw [lineArrives_cons]
          cases poll with
          | stopRequested | failed | closed | readFailed =>
              refine iff_of_false ?_ (by simp [PipePoll.goesOn])
              change ¬ (0 : Int) < -1
              omega
          | timeout =>
              rw [pollLine, ih]
              simp [PipePoll.goesOn]
          | readable bytes =>
              rw [pollLine]
              by_cases ends : newline ∈ bytes
              · rw [if_pos ends]
                exact iff_of_true Int.zero_lt_one (.inl ⟨bytes, rfl, ends⟩)
              · rw [if_neg ends, ih]
                simp [PipePoll.goesOn, ends]

/-- A status above zero means a line, and a line is there or arrives in time. -/
theorem readLine_success (maxPollCount : Nat) (reader : PipeReader)
    : 0 < (readLine maxPollCount [] reader).1.status ↔ FindsLine maxPollCount reader := by
  rw [readLine, FindsLine]
  by_cases cached : newline ∈ reader.data
  · rw [if_pos cached]
    exact iff_of_true Int.zero_lt_one (.inl cached)
  · rw [if_neg cached, pollLine_success, or_iff_right cached]

/-- The loop leaves a tail of the rounds; without a line, stop or error it uses some up. -/
theorem pollLine_polls (line data : List UInt8) (maxPollCount : Nat) (polls : List PipePoll)
    : (pollLine line data maxPollCount polls).2.polls <:+ polls
      ∧ (0 < maxPollCount
        → polls ≠ []
        → (pollLine line data maxPollCount polls).2.polls.length < polls.length) := by
  induction polls generalizing data maxPollCount with
  | nil =>
      refine ⟨?_, fun _ some' => absurd rfl some'⟩
      cases maxPollCount <;> exact List.suffix_refl []
  | cons poll polls ih =>
      cases maxPollCount with
      | zero => exact ⟨List.suffix_refl _, fun positive => absurd positive (Nat.lt_irrefl 0)⟩
      | succ maxPollCount =>
          have used {left : List PipePoll} (tail : left <:+ polls)
              : left <:+ poll :: polls ∧ left.length < (poll :: polls).length :=
            ⟨tail.trans (List.suffix_cons ..), Nat.lt_succ_of_le tail.length_le⟩
          have both
              : (pollLine line data (maxPollCount + 1) (poll :: polls)).2.polls <:+ polls := by
            cases poll with
            | stopRequested | failed | closed | readFailed => exact List.suffix_refl polls
            | timeout => exact (ih data maxPollCount).1
            | readable bytes =>
                rw [pollLine]
                split
                · exact List.suffix_refl polls
                · exact (ih (data ++ bytes) maxPollCount).1
          exact ⟨(used both).1, fun _ _ => (used both).2⟩

/-- What is still to come: whole lines, and rounds. -/
def PipeReader.remaining (reader : PipeReader) : Nat :=
  (reader.data ++ reader.unread).count newline + reader.polls.length

/-- A call reads no poll twice. -/
theorem readLine_polls (maxPollCount : Nat) (reader : PipeReader)
    : (readLine maxPollCount [] reader).2.polls <:+ reader.polls := by
  rw [readLine]
  split
  · exact List.suffix_refl _
  · exact (pollLine_polls ..).1

/-- A line that is cut off takes a newline with it. -/
theorem count_cut {bytes line rest : List UInt8} (cut : bytes = line ++ newline :: rest)
    : rest.count newline < bytes.count newline := by
  rw [cut, List.count_append, List.count_cons_self]
  omega

/-- A call brings a line, or uses up rounds, as long as anything is to come. -/
theorem readLine_remaining {maxPollCount : Nat} (positive : 0 < maxPollCount)
    {reader : PipeReader} (some' : 0 < reader.remaining)
    : (readLine maxPollCount [] reader).2.remaining < reader.remaining := by
  have shorter := (readLine_polls maxPollCount reader).length_le
  unfold PipeReader.remaining at some' ⊢
  cases readLine_keeps maxPollCount reader with
  | line success clean cut =>
      have fewer := count_cut cut
      omega
  | none fails clean same =>
      have cached : newline ∉ reader.data := by
        intro cached
        have found := (readLine_success maxPollCount reader).mpr (.inl cached)
        exact absurd found (Int.not_lt.mpr fails)
      have used
          : reader.polls ≠ []
            → (readLine maxPollCount [] reader).2.polls.length < reader.polls.length := by
        rw [readLine, if_neg cached]
        exact (pollLine_polls [] reader.data maxPollCount reader.polls).2 positive
      have nonempty : reader.polls ≠ [] := by
        intro empty
        rw [PipeReader.unread, empty, List.flatMap_nil, List.append_nil,
          List.count_eq_zero_of_not_mem cached] at some'
        exact absurd some' (Nat.lt_irrefl 0)
      rw [same]
      have fewer := used nonempty
      omega

/-- After enough calls nothing is to come. -/
theorem readCalls_remaining {maxPollCount : Nat} (positive : 0 < maxPollCount) {calls : Nat}
    {reader : PipeReader} (enough : reader.remaining ≤ calls)
    : (readCalls maxPollCount calls reader).2.remaining = 0 := by
  induction calls generalizing reader with
  | zero => exact Nat.le_zero.mp enough
  | succ calls ih =>
      rw [readCalls]
      apply ih
      by_cases done : reader.remaining = 0
      · have keeps := readLine_keeps maxPollCount reader
        have shorter := (readLine_polls maxPollCount reader).length_le
        unfold PipeReader.remaining at done ⊢
        cases keeps with
        | line success clean cut =>
            have fewer := count_cut cut
            omega
        | none fails clean same =>
            rw [← same]
            omega
      · have less := readLine_remaining positive (Nat.pos_of_ne_zero done)
        omega

/-- The calls on a new reader frame the bytes of the pipe, however they are cut into reads. A call
returns a line exactly if one is kept or arrives in the rounds that it waits, before any stop or
error. So after enough calls (each waits at least one round) all lines have been returned, and
the bytes behind the last newline are kept.
-/
theorem readCalls_framed (maxPollCount calls : Nat) (polls : List PipePoll)
    : LineFraming (polls.flatMap PipePoll.bytes) (readCalls maxPollCount calls ⟨[], polls⟩).1
        (readCalls maxPollCount calls ⟨[], polls⟩).2
      ∧ (∀ reader : PipeReader,
          0 < (readLine maxPollCount [] reader).1.status ↔ FindsLine maxPollCount reader)
      ∧ (0 < maxPollCount
        → (polls.flatMap PipePoll.bytes).count newline + polls.length ≤ calls
        → (polls.flatMap PipePoll.bytes).splitOn newline
            = returnedLines (readCalls maxPollCount calls ⟨[], polls⟩).1
              ++ [(readCalls maxPollCount calls ⟨[], polls⟩).2.data]) := by
  have framed := framed_readCalls maxPollCount calls ⟨[], polls⟩
  refine ⟨framed, readLine_success maxPollCount, ?_⟩
  intro positive enough
  have done : (readCalls maxPollCount calls ⟨[], polls⟩).2.remaining = 0 :=
    readCalls_remaining positive enough
  obtain ⟨whole, rounds⟩ := Nat.add_eq_zero_iff.mp done
  have unread : (readCalls maxPollCount calls ⟨[], polls⟩).2.unread = [] := by
    rw [PipeReader.unread, List.length_eq_zero_iff.mp rounds, List.flatMap_nil]
  have clean : newline ∉ (readCalls maxPollCount calls ⟨[], polls⟩).2.data := by
    rw [unread, List.append_nil] at whole
    exact List.count_eq_zero.mp whole
  have lines := framed.lines
  rw [unread, List.append_nil, List.splitOn_eq_singleton clean] at lines
  exact lines

/-- Two lines and a part of a third one come in three reads. -/
def cutLines : List PipePoll :=
  [.readable [0x61], .timeout, .readable [0x0a, 0x62], .readable [0x0a, 0x63]]

/-- With two rounds for a call the first one times out; the next two return the lines. -/
theorem readCalls_framed_cut
    : (cutLines.flatMap PipePoll.bytes).splitOn newline
        = returnedLines (readCalls 2 6 ⟨[], cutLines⟩).1
          ++ [(readCalls 2 6 ⟨[], cutLines⟩).2.data]
      ∧ (readCalls 2 6 ⟨[], cutLines⟩).1.map LineCall.status = [0, 1, 1, 0, 0, 0] :=
  ⟨(readCalls_framed 2 6 cutLines).2.2 (by decide) (by decide), by decide⟩

end NdcOdfWeb.Net
