import NdcOdfWeb.Foundation.Cursors
import NdcOdfWeb.Foundation.Decimal
import NdcOdfWeb.Foundation.Lines

/-! Trace files, as `TraceFileWriter` writes and `TraceFileReader` reads them. A compressed
file is deflated on the way and inflated again.
-/

namespace NdcOdfWeb.Trace

open NdcOdfWeb.Foundation

/-- `Direction`, an enumeration over `char`. -/
inductive Direction where
  | invalid
  | incoming
  | outgoing
  | event
  | unknown (delimiter : Char)
deriving DecidableEq

namespace Direction

def toChar : Direction → Char
  | invalid => '\x00'
  | incoming => '>'
  | outgoing => '<'
  | event => '~'
  | unknown delimiter => delimiter

def ofChar (delimiter : Char) : Direction :=
  if delimiter = '\x00' then invalid
  else if delimiter = '>' then incoming
  else if delimiter = '<' then outgoing
  else if delimiter = '~' then event
  else unknown delimiter

end Direction

/-- `TraceFileRecord`. -/
structure TraceFileRecord where
  dir : Direction
  timestampNs : UInt32
  pid : UInt32
  sessionId : Text
  payload : Text

/-- A new `TraceFileRecord`. -/
def TraceFileRecord.invalid : TraceFileRecord :=
  { dir := .invalid, timestampNs := 0, pid := 0, sessionId := [], payload := [] }

/-- `writeLocked`, at `usec` microseconds from the start. -/
def writeLocked (usec : Int64) (id sessionId data : Text) (delim : Char) : Text :=
  delim :: (showInt usec.toInt
    ++ delim :: (id ++ delim :: (sessionId ++ delim :: (data ++ ['\n']))))

/-- A record that is written: the payload is part of a line. -/
structure WrittenRecord where
  dir : Direction
  usec : Int64
  pid : UInt32
  sessionId : Text
  payload : Text
  written : dir = .incoming ∨ dir = .outgoing ∨ dir = .event
  numeric : ∀ c ∈ sessionId, c.isDigit = true
  line : '\n' ∉ payload

/-- The text of a file. -/
def traceFile (records : List WrittenRecord) : Text :=
  records.flatMap
    (fun record =>
      writeLocked record.usec (showNat record.pid.toNat) record.sessionId record.payload
        record.dir.toChar)

-----------------------------------------------------------------------------------------
-- The reader
-----------------------------------------------------------------------------------------

/-- The fields in front of the payload, counted from the last one. -/
def TraceFileRecord.setField (record : TraceFileRecord) (field : Text) : Nat → TraceFileRecord
  | 2 => { record with timestampNs := (atoi field).toUInt32 }
  | 1 => { record with pid := (atoi field).toUInt32 }
  | _ => { record with sessionId := field }

/-- The loop of `extractRecord`, with the number of fields in front of the payload that are
still to come.
-/
def extractFields (delimiter : Char) : Nat → TraceFileRecord → Text → Option TraceFileRecord
  | 0, record, rest => if rest = [] then none else some { record with payload := rest }
  | left + 1, record, rest =>
      if rest = [] then none
      else
        let field := rest.takeWhile (fun c => !decide (c = delimiter))
        match rest.dropWhile (fun c => !decide (c = delimiter)) with
        | [] => none
        | _ :: rest => extractFields delimiter left (record.setField field left) rest

/-- `extractRecord`, `none` for false. -/
def extractRecord (line : Text) : Option TraceFileRecord :=
  match line with
  | [] => none
  | delimiter :: rest =>
      extractFields delimiter 3
        { TraceFileRecord.invalid with dir := Direction.ofChar delimiter } rest

/-- `TraceFileReader`. -/
structure TraceFileReader where
  records : List TraceFileRecord
  index : UInt32
  indexIn : UInt32
  indexOut : UInt32
  epochStart : UInt32
  epochEnd : UInt32

/-- The number of values of an unsigned index. A loop that has gone through all of them does
not end.
-/
def unsignedValues : Nat :=
  2 ^ 32

/-- The loop of `advance`. -/
def advanceLoop (records : List TraceFileRecord) (dir : Direction) : Nat → UInt32 → Option UInt32
  | 0, _ => none
  | fuel + 1, index =>
      let index := index + 1
      match records[index.toNat]? with
      | none => some index
      | some record => if record.dir = dir then some index else advanceLoop records dir fuel index

def advance (records : List TraceFileRecord) (index : UInt32) (dir : Direction)
    : Option UInt32 :=
  advanceLoop records dir unsignedValues index

/-- `readFile`, `none` where it throws. -/
def TraceFileReader.readFile (text : Text) : Option TraceFileReader :=
  let records := (readLines '\n' text []).filterMap extractRecord
  match records with
  | [] => none
  | first :: _ =>
      if first.dir = .event ∧ "NewSession".toList <+: first.payload then do
        let indexIn ← advance records (-1) .incoming
        let indexOut ← advance records (-1) .outgoing
        some {
          records
          index := 0
          indexIn
          indexOut
          epochStart := first.timestampNs
          epochEnd := (records.getLastD first).timestampNs
        }
      else none

/-- The calls of `getNextRecord`: without a direction, and with each of two. -/
inductive ReadKind where
  | any
  | incoming
  | outgoing
deriving DecidableEq

/-- `getNextRecord`, `none` where it does not end. -/
def TraceFileReader.getNextRecord (kind : ReadKind) (reader : TraceFileReader)
    : Option (TraceFileRecord × TraceFileReader) :=
  match kind with
  | .any =>
      match reader.records[reader.index.toNat]? with
      | none => some (.invalid, reader)
      | some record => some (record, { reader with index := reader.index + 1 })
  | .incoming =>
      match reader.records[reader.indexIn.toNat]? with
      | none => some (.invalid, reader)
      | some record =>
          (advance reader.records reader.indexIn .incoming).map
            (fun indexIn => (record, { reader with indexIn }))
  | .outgoing =>
      match reader.records[reader.indexOut.toNat]? with
      | none => some (.invalid, reader)
      | some record =>
          (advance reader.records reader.indexOut .outgoing).map
            (fun indexOut => (record, { reader with indexOut }))

/-- The records that a kind of calls goes through. -/
def recordsOf (records : List TraceFileRecord) : ReadKind → List TraceFileRecord
  | .any => records
  | .incoming => records.filter (fun record => record.dir = .incoming)
  | .outgoing => records.filter (fun record => record.dir = .outgoing)

/-- A record is read as it was written. -/
structure SameRecord (written : WrittenRecord) (read : TraceFileRecord) : Prop where
  dir : read.dir = written.dir
  timestamp : (read.timestampNs.toNat : Int) = written.usec.toInt
  pid : read.pid = written.pid
  sessionId : read.sessionId = written.sessionId
  payload : read.payload = written.payload

/-- The file is read as the records that were written, and any calls of `getNextRecord`, of
whichever kinds, go through those of their direction in order.
-/
def ReadsBack (records : List WrittenRecord) : Prop :=
  ∃ reader,
    TraceFileReader.readFile (traceFile records) = some reader
    ∧ List.Forall₂ SameRecord records reader.records
    ∧ ∀ kinds,
        runCalls TraceFileReader.getNextRecord reader kinds
          = some (listedResults (recordsOf reader.records) .invalid kinds)

/-- A file starts with a new session, its payloads are not empty, its times can be held, and
its records be counted, in 32 bits.
-/
structure Readable (records : List WrittenRecord) : Prop where
  few : records.length < 2 ^ 32
  first
    : ∃ record ∈ records.head?,
        record.dir = .event ∧ "NewSession".toList <+: record.payload
  payloads : ∀ record ∈ records, record.payload ≠ []
  times : ∀ record ∈ records, 0 ≤ record.usec.toInt ∧ record.usec.toInt < 2 ^ 32

end NdcOdfWeb.Trace
