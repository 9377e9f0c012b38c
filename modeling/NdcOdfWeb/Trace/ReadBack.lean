import Mathlib.Data.List.Forall2
import NdcOdfWeb.Trace.TraceFile

/-! Trace files that are read back as they were written. -/

namespace NdcOdfWeb.Trace

open NdcOdfWeb.Foundation

-----------------------------------------------------------------------------------------
-- The lines of a file
-----------------------------------------------------------------------------------------

namespace WrittenRecord

/-- The line of a record. -/
def text (record : WrittenRecord) : Text :=
  record.dir.toChar :: (showInt record.usec.toInt
    ++ record.dir.toChar :: (showNat record.pid.toNat
      ++ record.dir.toChar :: (record.sessionId ++ record.dir.toChar :: record.payload)))

/-- What the reader makes of a record. -/
def read (record : WrittenRecord) : TraceFileRecord where
  dir := record.dir
  timestampNs := (atoi (showInt record.usec.toInt)).toUInt32
  pid := (atoi (showNat record.pid.toNat)).toUInt32
  sessionId := record.sessionId
  payload := record.payload

/-- The delimiters are no part of a number. -/
theorem delimiter_cases (record : WrittenRecord)
    : record.dir.toChar ≠ '\n' ∧ record.dir.toChar ≠ '-'
      ∧ record.dir.toChar.isDigit = false := by
  rcases record.written with dir | dir | dir <;> rw [dir] <;> decide

/-- The delimiter is in none of the fields, which are numeric. -/
theorem delimiter_notMem (record : WrittenRecord)
    : record.dir.toChar ∉ showInt record.usec.toInt
      ∧ record.dir.toChar ∉ showNat record.pid.toNat
      ∧ record.dir.toChar ∉ record.sessionId := by
  obtain ⟨-, minus, digit⟩ := record.delimiter_cases
  refine ⟨not_mem_showInt _ minus digit, not_mem_showNat _ digit, fun member => ?_⟩
  rw [record.numeric _ member] at digit
  cases digit

/-- A record is written as one line. -/
theorem text_line (record : WrittenRecord) : record.text ≠ [] ∧ '\n' ∉ record.text := by
  refine ⟨List.cons_ne_nil _ _, fun member => ?_⟩
  have other : ¬ '\n' = record.dir.toChar := fun same => record.delimiter_cases.1 same.symm
  have time : '\n' ∉ showInt record.usec.toInt := not_mem_showInt _ (by decide) (by decide)
  have pid : '\n' ∉ showNat record.pid.toNat := not_mem_showNat _ (by decide)
  have session : '\n' ∉ record.sessionId :=
    fun inside => absurd (record.numeric _ inside) (by decide)
  simp only [text, List.mem_cons, List.mem_append, other, time, pid, session, record.line,
    or_self] at member

end WrittenRecord

/-- A file is written line by line. -/
theorem traceFile_eq (records : List WrittenRecord)
    : traceFile records = joinLines '\n' (records.map WrittenRecord.text) := by
  rw [traceFile, joinLines, List.flatMap_map]
  refine List.flatMap_congr fun record _ => ?_
  simp only [writeLocked, WrittenRecord.text, List.append_assoc, List.cons_append]

/-- The direction is read back from the delimiter. -/
theorem ofChar_toChar (record : WrittenRecord)
    : Direction.ofChar record.dir.toChar = record.dir := by
  rcases record.written with dir | dir | dir <;> rw [dir] <;> rfl

/-- A field is read up to the delimiter. -/
theorem extractFields_field {delimiter : Char} {field rest : Text} {left : Nat}
    (record : TraceFileRecord) (absent : delimiter ∉ field)
    : extractFields delimiter (left + 1) record (field ++ delimiter :: rest)
      = extractFields delimiter left (record.setField field left) rest := by
  have some' : field ++ delimiter :: rest ≠ [] := by simp
  rw [extractFields, if_neg some', dropWhile_field absent, takeWhile_field absent]

/-- A record is read from its line unless the payload is empty. -/
theorem extractRecord_text (record : WrittenRecord)
    : extractRecord record.text
      = if record.payload = [] then none else some record.read := by
  obtain ⟨time, pid, session⟩ := record.delimiter_notMem
  rw [WrittenRecord.text, extractRecord]
  rw [extractFields_field _ time, extractFields_field _ pid, extractFields_field _ session,
    extractFields, ofChar_toChar]
  rfl

/-- The records that are read: those with a payload. -/
theorem records_read (records : List WrittenRecord)
    : (readLines '\n' (traceFile records) []).filterMap extractRecord
      = (records.filter (fun record => !decide (record.payload = []))).map
        WrittenRecord.read := by
  have lines : ∀ line ∈ records.map WrittenRecord.text, line ≠ [] ∧ '\n' ∉ line := by
    intro line member
    obtain ⟨record, -, rfl⟩ := List.mem_map.mp member
    exact record.text_line
  rw [traceFile_eq, readLines_joinLines lines, List.filterMap_map]
  induction records with
  | nil => rfl
  | cons record records ih =>
      have rest := ih (fun line member => lines line (List.mem_cons_of_mem _ member))
      rw [List.filterMap_cons, Function.comp_apply, extractRecord_text]
      by_cases empty : record.payload = []
      · rw [if_pos empty, List.filter_cons_of_neg (by simpa using empty)]
        exact rest
      · rw [if_neg empty, List.filter_cons_of_pos (by simpa using empty)]
        exact congrArg (record.read :: ·) rest

/-- A number of 64 bits is read modulo 2^32. -/
theorem atoi_showInt_toNat {value : Int} (lower : -2 ^ 63 ≤ value) (upper : value < 2 ^ 63)
    : ((atoi (showInt value)).toUInt32.toNat : Int) = value % 2 ^ 32 := by
  have scanned := scanNumber_showInt value endsNumber_nil
  rw [List.append_nil] at scanned
  have inside : max (-2 ^ 63) (min (2 ^ 63 - 1) value) = value := by omega
  simp only [atoi, strtol, scanned, signed_natAbs]
  rw [inside]
  have bits : (Int32.ofInt value).toUInt32.toNat = (BitVec.ofInt 32 value).toNat := rfl
  rw [bits, BitVec.toNat_ofInt]
  omega

/-- A record is read back if and only if its time fits 32 bits. -/
theorem WrittenRecord.sameRecord_read_iff (record : WrittenRecord)
    : SameRecord record record.read
      ↔ 0 ≤ record.usec.toInt ∧ record.usec.toInt < 2 ^ 32 := by
  have time := atoi_showInt_toNat record.usec.le_toInt record.usec.toInt_lt
  constructor
  · intro same
    have read := same.timestamp
    unfold WrittenRecord.read at read
    dsimp only at read
    rw [time] at read
    omega
  · rintro ⟨lower, upper⟩
    refine ⟨rfl, ?_, ?_, rfl, rfl⟩
    · unfold WrittenRecord.read
      dsimp only
      rw [time]
      omega
    · have bound := record.pid.toNat_lt
      have pid := atoi_showInt_toNat (show -2 ^ 63 ≤ (record.pid.toNat : Int) by omega)
        (show (record.pid.toNat : Int) < 2 ^ 63 by omega)
      refine UInt32.toNat_inj.mp (Int.ofNat_inj.mp (pid.trans ?_))
      exact Int.emod_eq_of_lt (Int.natCast_nonneg _) (by omega)

-----------------------------------------------------------------------------------------
-- Indices
-----------------------------------------------------------------------------------------

/-- An index of a direction stands at a record of it, or at the end. -/
structure StandsAt (records : List TraceFileRecord) (dir : Direction) (index : UInt32) : Prop where
  inside : index.toNat ≤ records.length
  dir : ∀ record, records[index.toNat]? = some record → record.dir = dir

/-- The records of a direction from a position on. -/
def recordsFrom (records : List TraceFileRecord) (dir : Direction) (position : Nat)
    : List TraceFileRecord :=
  (records.drop position).filter (fun record => record.dir = dir)

/-- An index inside the records does not wrap. -/
theorem toNat_succ {records : List TraceFileRecord} (few : records.length < 2 ^ 32)
    {index : UInt32} (inside : index.toNat < records.length)
    : (index + 1).toNat = index.toNat + 1 := by
  rw [UInt32.toNat_add, UInt32.toNat_one]
  omega

/-- The records from a position on. -/
theorem drop_getElem? {records : List TraceFileRecord} {position : Nat}
    {record : TraceFileRecord} (found : records[position]? = some record)
    : records.drop position = record :: records.drop (position + 1) := by
  obtain ⟨inside, rfl⟩ := List.getElem?_eq_some_iff.mp found
  exact List.drop_eq_getElem_cons inside

/-- Behind the last record, there are none. -/
theorem recordsFrom_end {records : List TraceFileRecord} {dir : Direction} {position : Nat}
    (missing : records[position]? = none)
    : recordsFrom records dir position = [] := by
  rw [recordsFrom, List.drop_eq_nil_of_le (List.getElem?_eq_none_iff.mp missing),
    List.filter_nil]

/-- The loop goes to the next record of its direction. -/
theorem advanceLoop_spec {records : List TraceFileRecord} (few : records.length < 2 ^ 32)
    (dir : Direction) {fuel : Nat} {index : UInt32} {position : Nat}
    (next : (index + 1).toNat = position) (inside : position ≤ records.length)
    (enough : records.length - position < fuel)
    : ∃ result,
        advanceLoop records dir fuel index = some result
        ∧ StandsAt records dir result
        ∧ recordsFrom records dir result.toNat = recordsFrom records dir position := by
  induction fuel generalizing index position with
  | zero => omega
  | succ fuel ih =>
      rw [advanceLoop]
      cases found : records[(index + 1).toNat]? with
      | none =>
          refine ⟨index + 1, rfl, ⟨next ▸ inside, fun record here => ?_⟩, by rw [next]⟩
          cases found.symm.trans here
      | some record =>
          dsimp only
          by_cases same : record.dir = dir
          · rw [if_pos same]
            refine ⟨index + 1, rfl, ⟨next ▸ inside, fun other here => ?_⟩, by rw [next]⟩
            cases found.symm.trans here
            exact same
          · rw [if_neg same]
            have there := (List.getElem?_eq_some_iff.mp found).1
            have after := toNat_succ few there
            rw [next] at found there after
            obtain ⟨result, ran, stands, rest⟩ := ih after (by omega) (by omega)
            refine ⟨result, ran, stands, rest.trans ?_⟩
            rw [recordsFrom, recordsFrom, drop_getElem? found,
              List.filter_cons_of_neg (by simpa using same)]

/-- What the indices of a reader keep. -/
structure TraceFileReader.Positioned (reader : TraceFileReader) : Prop where
  few : reader.records.length < 2 ^ 32
  index : reader.index.toNat ≤ reader.records.length
  indexIn : StandsAt reader.records .incoming reader.indexIn
  indexOut : StandsAt reader.records .outgoing reader.indexOut

/-- The records that the next calls of a kind give. -/
def TraceFileReader.left (reader : TraceFileReader) : ReadKind → List TraceFileRecord
  | .any => reader.records.drop reader.index.toNat
  | .incoming => recordsFrom reader.records .incoming reader.indexIn.toNat
  | .outgoing => recordsFrom reader.records .outgoing reader.indexOut.toNat

/-- From a record of its direction, `advance` leaves the rest of them. -/
theorem advance_spec {records : List TraceFileRecord} (few : records.length < 2 ^ 32)
    {dir : Direction} {index : UInt32} (stands : StandsAt records dir index)
    {record : TraceFileRecord} (found : records[index.toNat]? = some record)
    : ∃ next,
        advance records index dir = some next
        ∧ StandsAt records dir next
        ∧ recordsFrom records dir index.toNat = record :: recordsFrom records dir next.toNat := by
  have there := (List.getElem?_eq_some_iff.mp found).1
  obtain ⟨next, ran, after, rest⟩ := advanceLoop_spec few dir (toNat_succ few there)
    (by omega) (show records.length - (index.toNat + 1) < unsignedValues by
      unfold unsignedValues
      omega)
  refine ⟨next, ran, after, ?_⟩
  rw [rest, recordsFrom, recordsFrom, drop_getElem? found,
    List.filter_cons_of_pos (by simpa using stands.dir record found)]

/-- The reader hands out the next record of a kind, and moves the indices of that kind only. -/
theorem getNextRecord_goesOn (reader : TraceFileReader) (kind : ReadKind)
    (positioned : reader.Positioned)
    : ∃ next,
        reader.getNextRecord kind = some ((reader.left kind).headD .invalid, next)
        ∧ next.Positioned
        ∧ ∀ other,
            next.left other
              = if other = kind then (reader.left other).tail else reader.left other := by
  have few := positioned.few
  cases kind with
  | any =>
      unfold TraceFileReader.getNextRecord
      dsimp only
      cases found : reader.records[reader.index.toNat]? with
      | none =>
          have ended : reader.left .any = [] :=
            List.drop_eq_nil_of_le (List.getElem?_eq_none_iff.mp found)
          refine ⟨reader, by rw [ended]; rfl, positioned, fun other => ?_⟩
          split
          · next same => rw [same, ended, List.tail_nil]
          · rfl
      | some record =>
          have there := (List.getElem?_eq_some_iff.mp found).1
          have after := toNat_succ few there
          have here : reader.left .any = record :: reader.records.drop (reader.index.toNat + 1) :=
            drop_getElem? found
          rw [here]
          refine ⟨_, rfl, ⟨few, ?_, positioned.indexIn, positioned.indexOut⟩, ?_⟩
          · exact after.trans_le there
          · intro other
            cases other with
            | any =>
                rw [if_pos rfl, here, List.tail_cons, ← after]
                rfl
            | incoming => rfl
            | outgoing => rfl
  | incoming =>
      unfold TraceFileReader.getNextRecord
      dsimp only
      cases found : reader.records[reader.indexIn.toNat]? with
      | none =>
          have ended : reader.left .incoming = [] := recordsFrom_end found
          refine ⟨reader, by rw [ended]; rfl, positioned, fun other => ?_⟩
          split
          · next same => rw [same, ended, List.tail_nil]
          · rfl
      | some record =>
          obtain ⟨next, ran, stands, rest⟩ := advance_spec few positioned.indexIn found
          have here : reader.left .incoming
              = record :: recordsFrom reader.records .incoming next.toNat := rest
          rw [ran, here]
          refine ⟨_, rfl, ⟨few, positioned.index, stands, positioned.indexOut⟩, fun other => ?_⟩
          cases other with
          | incoming =>
              rw [if_pos rfl, here, List.tail_cons]
              rfl
          | any => rfl
          | outgoing => rfl
  | outgoing =>
      unfold TraceFileReader.getNextRecord
      dsimp only
      cases found : reader.records[reader.indexOut.toNat]? with
      | none =>
          have ended : reader.left .outgoing = [] := recordsFrom_end found
          refine ⟨reader, by rw [ended]; rfl, positioned, fun other => ?_⟩
          split
          · next same => rw [same, ended, List.tail_nil]
          · rfl
      | some record =>
          obtain ⟨next, ran, stands, rest⟩ := advance_spec few positioned.indexOut found
          have here : reader.left .outgoing
              = record :: recordsFrom reader.records .outgoing next.toNat := rest
          rw [ran, here]
          refine ⟨_, rfl, ⟨few, positioned.index, positioned.indexIn, stands⟩, fun other => ?_⟩
          cases other with
          | outgoing =>
              rw [if_pos rfl, here, List.tail_cons]
              rfl
          | any => rfl
          | incoming => rfl

-----------------------------------------------------------------------------------------
-- Opening a file
-----------------------------------------------------------------------------------------

/-- A reader that was opened on these records. -/
structure TraceFileReader.Opened (reader : TraceFileReader) (records : List TraceFileRecord)
    : Prop where
  holds : reader.records = records
  first
    : ∃ first ∈ records.head?, first.dir = .event ∧ "NewSession".toList <+: first.payload
  index : reader.index = 0
  indexIn : advance records (-1) .incoming = some reader.indexIn
  indexOut : advance records (-1) .outgoing = some reader.indexOut

/-- A reader that was opened, and what was checked for it. -/
theorem readFile_opened {text : Text} {reader : TraceFileReader}
    (opened : TraceFileReader.readFile text = some reader)
    : reader.Opened ((readLines '\n' text []).filterMap extractRecord) := by
  unfold TraceFileReader.readFile at opened
  dsimp only at opened
  generalize (readLines '\n' text []).filterMap extractRecord = records at opened
  split at opened
  · cases opened
  · next first rest =>
      split at opened
      · next starts =>
          obtain ⟨indexIn, ranIn, opened⟩ := Option.bind_eq_some_iff.mp opened
          obtain ⟨indexOut, ranOut, opened⟩ := Option.bind_eq_some_iff.mp opened
          cases opened
          exact ⟨rfl, ⟨first, rfl, starts⟩, rfl, ranIn, ranOut⟩
      · cases opened

/-- A file with a first record of a new session, and with records of both directions, is opened. -/
theorem readFile_opens {text : Text} {first : TraceFileRecord} {rest : List TraceFileRecord}
    {indexIn indexOut : UInt32}
    (records : (readLines '\n' text []).filterMap extractRecord = first :: rest)
    (starts : first.dir = .event ∧ "NewSession".toList <+: first.payload)
    (ranIn : advance (first :: rest) (-1) .incoming = some indexIn)
    (ranOut : advance (first :: rest) (-1) .outgoing = some indexOut)
    : ∃ reader, TraceFileReader.readFile text = some reader := by
  unfold TraceFileReader.readFile
  dsimp only
  rw [records]
  dsimp only
  rw [if_pos starts, ranIn, ranOut]
  exact ⟨_, rfl⟩

/-- The first record of a direction is found. -/
theorem advance_first {records : List TraceFileRecord} (few : records.length < 2 ^ 32)
    (dir : Direction)
    : ∃ index,
        advance records (-1) dir = some index
        ∧ StandsAt records dir index
        ∧ recordsFrom records dir index.toNat = records.filter (fun record => record.dir = dir) := by
  have start : ((-1 : UInt32) + 1).toNat = 0 := by decide
  obtain ⟨index, ran, stands, all⟩ := advanceLoop_spec few dir start (Nat.zero_le _)
    (show records.length - 0 < unsignedValues from few)
  exact ⟨index, ran, stands, all⟩

/-- A new reader stands at the first records of both directions. -/
theorem TraceFileReader.Opened.positioned {reader : TraceFileReader}
    {records : List TraceFileRecord} (opened : reader.Opened records)
    (few : records.length < 2 ^ 32)
    : reader.Positioned ∧ ∀ kind, reader.left kind = recordsOf records kind := by
  obtain ⟨indexIn, ranIn, standsIn, allIn⟩ := advance_first few .incoming
  obtain ⟨indexOut, ranOut, standsOut, allOut⟩ := advance_first few .outgoing
  cases ranIn.symm.trans opened.indexIn
  cases ranOut.symm.trans opened.indexOut
  obtain rfl := opened.holds
  refine ⟨⟨few, ?_, standsIn, standsOut⟩, fun kind => ?_⟩
  · rw [opened.index]
    exact Nat.zero_le _
  · cases kind with
    | any =>
        rw [TraceFileReader.left, opened.index]
        rfl
    | incoming => exact allIn
    | outgoing => exact allOut

/-- Where the index of all records wraps, it never comes to the end of them. -/
theorem runCalls_wrapped {reader : TraceFileReader} (many : 2 ^ 32 ≤ reader.records.length)
    {kinds : List ReadKind} (all : ∀ kind ∈ kinds, kind = .any)
    {results : List TraceFileRecord}
    (ran : runCalls TraceFileReader.getNextRecord reader kinds = some results)
    : ∀ result ∈ results, result ∈ reader.records := by
  induction kinds generalizing reader results with
  | nil =>
      cases ran
      exact fun _ member => nomatch member
  | cons kind kinds ih =>
      obtain rfl := all kind List.mem_cons_self
      have inside : reader.index.toNat < reader.records.length :=
        Nat.lt_of_lt_of_le reader.index.toNat_lt many
      have called : reader.getNextRecord .any
          = some (reader.records[reader.index.toNat],
            { reader with index := reader.index + 1 }) := by
        unfold TraceFileReader.getNextRecord
        rw [List.getElem?_eq_getElem inside]
      rw [runCalls, called] at ran
      obtain ⟨rest, later, rfl⟩ := Option.map_eq_some_iff.mp ran
      intro result member
      rcases List.mem_cons.mp member with rfl | member
      · exact List.getElem_mem inside
      · have same := @ih { reader with index := reader.index + 1 } many
          (fun other inside => all other (List.mem_cons_of_mem _ inside)) rest later
        exact same result member

-----------------------------------------------------------------------------------------
-- Reading back
-----------------------------------------------------------------------------------------

/-- A readable file is read back. -/
theorem Readable.readsBack {records : List WrittenRecord} (readable : Readable records)
    : ReadsBack records := by
  have all : records.filter (fun record => !decide (record.payload = [])) = records :=
    List.filter_eq_self.mpr (fun record member => by
      simpa using readable.payloads record member)
  have parsed := records_read records
  rw [all] at parsed
  have few : (records.map WrittenRecord.read).length < 2 ^ 32 := by
    rw [List.length_map]
    exact readable.few
  obtain ⟨first, head, starts⟩ := readable.first
  obtain ⟨rest, rfl⟩ := List.head?_eq_some_iff.mp head
  obtain ⟨indexIn, ranIn, -⟩ := advance_first few .incoming
  obtain ⟨indexOut, ranOut, -⟩ := advance_first few .outgoing
  rw [List.map_cons] at parsed ranIn ranOut
  obtain ⟨reader, opens⟩ := readFile_opens parsed starts ranIn ranOut
  have opened := readFile_opened opens
  rw [parsed, ← List.map_cons] at opened
  obtain ⟨positioned, left⟩ := opened.positioned few
  refine ⟨reader, opens, ?_, fun kinds => ?_⟩
  · rw [opened.holds, List.forall₂_map_right_iff, List.forall₂_same]
    exact fun record member => record.sameRecord_read_iff.mpr (readable.times record member)
  · rw [opened.holds, ← funext left]
    exact runCalls_eq getNextRecord_goesOn positioned kinds

/-- A file that is read back is readable, since every condition is used. -/
theorem ReadsBack.readable {records : List WrittenRecord} (reads : ReadsBack records)
    : Readable records := by
  obtain ⟨reader, opens, same, runs⟩ := reads
  have opened := readFile_opened opens
  rw [records_read] at opened
  have size := same.length_eq
  rw [opened.holds, List.length_map] at size
  have payloads := List.length_filter_eq_length_iff.mp size.symm
  have all := List.filter_eq_self.mpr payloads
  rw [all] at opened
  rw [opened.holds, List.forall₂_map_right_iff, List.forall₂_same] at same
  refine ⟨?_, ?_, ?_, ?_⟩
  · -- with more records, the call behind all of them would still give one
    by_contra many
    have long : 2 ^ 32 ≤ reader.records.length := by
      rw [opened.holds, List.length_map]
      omega
    have ran := runs (List.replicate (reader.records.length + 1) .any)
    have inside := runCalls_wrapped long (fun kind => List.eq_of_mem_replicate) ran
    have behind : TraceFileRecord.invalid
        ∈ listedResults (recordsOf reader.records) .invalid
          (List.replicate (reader.records.length + 1) .any) := by
      unfold listedResults
      rw [List.mem_mapIdx]
      refine ⟨reader.records.length, by simp, ?_⟩
      simp [recordsOf]
    have member := inside _ behind
    rw [opened.holds] at member
    obtain ⟨record, -, equal⟩ := List.mem_map.mp member
    have dir : record.dir = .invalid := congrArg TraceFileRecord.dir equal
    rcases record.written with written | written | written <;> rw [written] at dir <;> cases dir
  · obtain ⟨first, head, starts⟩ := opened.first
    rw [List.head?_map] at head
    obtain ⟨record, found, rfl⟩ := Option.map_eq_some_iff.mp head
    exact ⟨record, found, starts⟩
  · intro record member empty
    have full := payloads record member
    rw [empty] at full
    cases full
  · exact fun record member => record.sameRecord_read_iff.mp (same record member)

/-- A file is read back as it was written exactly where it starts with a new session, has no
empty payloads, no times from 2^32 microseconds on, and fewer than 2^32 records.
-/
theorem readsBack_iff (records : List WrittenRecord) : ReadsBack records ↔ Readable records :=
  ⟨fun reads => reads.readable, fun readable => readable.readsBack⟩

/-- The record that a session of the document `f` starts with. -/
def newSessionRecord : WrittenRecord where
  dir := .event
  usec := 5
  pid := 7
  sessionId := "1".toList
  payload := "NewSession: f".toList
  written := .inr (.inr rfl)
  numeric := by decide
  line := by decide

/-- An empty message, and a message after an hour and twelve minutes, are not read back. -/
theorem readBack_lost
    : ¬ ReadsBack [newSessionRecord,
        { newSessionRecord with payload := [], line := List.not_mem_nil }]
      ∧ ¬ ReadsBack [newSessionRecord, { newSessionRecord with usec := 4320000000 }] := by
  constructor
  · intro reads
    exact reads.readable.payloads _ (.tail _ (.head _)) rfl
  · intro reads
    have time := (reads.readable.times _ (.tail _ (.head _))).2
    revert time
    decide

end NdcOdfWeb.Trace
