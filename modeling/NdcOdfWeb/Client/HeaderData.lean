import Mathlib.Data.List.Sort
import Mathlib.Logic.Function.Basic
import NdcOdfWeb.Foundation.Iterators

/-! The table of a spreadsheet's rows or columns (`L.Control.Header.DataImpl`), one entry for
every run of equal sizes. Indices, positions and sizes are integers; the numbers of JavaScript are
exact as long as these and their products do not exceed 2^53.
-/

namespace NdcOdfWeb.Client

open NdcOdfWeb.Foundation

/-- What is pushed for the first index of a run. -/
structure HeaderValue where
  pos : Int
  size : Int
deriving DecidableEq

/-- The entry of one row or column. -/
structure HeaderEntry where
  index : Int
  pos : Int
  size : Int
deriving DecidableEq

/-- `DataImpl`; `none` is `undefined`. -/
structure DataImpl where
  converter : Option (Int → Int)
  currentIndex : Option Int
  currentRange : Option Nat
  dataMap : Int → Option HeaderValue
  indexes : List Int
  endIndex : Int
  skipZeroSize : Bool

namespace DataImpl

/-- A new table, with the conversion that is set up right behind its constructor. -/
def new (converter : Option (Int → Int)) : DataImpl where
  converter := converter
  currentIndex := none
  currentRange := none
  dataMap _ := none
  indexes := []
  endIndex := -1
  skipZeroSize := true

/-- `pushBack`. -/
def pushBack (data : DataImpl) (run : Int × HeaderValue) : DataImpl :=
  let (index, value) := run
  if index ≤ data.endIndex then data
  else
    {
      data with
      dataMap := Function.update data.dataMap index (some value)
      indexes := data.indexes ++ [index]
      endIndex := index
    }

/-- `_twipsToPixels`. -/
def twipsToPixels (data : DataImpl) (twips : Int) : Int :=
  match data.converter with
  | none => 0
  | some converter => converter twips

/-- `_computeEntry`. -/
def computeEntry (data : DataImpl) (startIndex index : Int) : Option HeaderEntry :=
  (data.dataMap startIndex).map (fun entry =>
    {
      index
      pos := data.twipsToPixels (entry.pos + (index - startIndex) * entry.size)
      size := data.twipsToPixels entry.size
    })

/-- What `_binaryIndexOf` returns for an element that it did not find. -/
def notFound (minIndex maxIndex : Int) : Option Int → Option Int
  | none => none
  | some currentIndex =>
      if currentIndex > maxIndex then some (currentIndex - 1)
      else if currentIndex < minIndex then some currentIndex
      else none

/-- The loop of `_binaryIndexOf`, and what is behind it. -/
def binarySearch (collection : List Int) (searchElement minIndex maxIndex : Int)
    (currentIndex : Option Int)
    : Option Int :=
  if minIndex ≤ maxIndex then
    let middle := (minIndex + maxIndex) / 2
    match collection[middle.toNat]? with
    | none => some middle
    | some currentElement =>
        if currentElement < searchElement then
          binarySearch collection searchElement (middle + 1) maxIndex (some middle)
        else if currentElement > searchElement then
          binarySearch collection searchElement minIndex (middle - 1) (some middle)
        else some middle
  else notFound minIndex maxIndex currentIndex
termination_by (maxIndex + 1 - minIndex).toNat

/-- `_binaryIndexOf`. -/
def binaryIndexOf (collection : List Int) (searchElement : Int) : Option Int :=
  binarySearch collection searchElement 0 (collection.length - 1) none

/-- `_getFirstIndexLessOrEqual`; there is no index below 0. -/
def getFirstIndexLessOrEqual (data : DataImpl) (index : Int) : Option Nat :=
  (binaryIndexOf data.indexes index).bind (fun range =>
    if 0 ≤ range then some range.toNat else none)

/-- `_get`; `null` and `undefined` are `none`. -/
def getEntry (data : DataImpl) (index : Int) (setCurrentIndex : Bool)
    : Option HeaderEntry × DataImpl :=
  if index < 1 ∨ data.endIndex < index then (none, data)
  else
    match data.getFirstIndexLessOrEqual index with
    | none => (none, data)
    | some range =>
        (
          (data.indexes[range]?).bind (data.computeEntry · index),
          if setCurrentIndex then
            { data with currentRange := some range, currentIndex := some index }
          else data
        )

/-- `get`. -/
def get (data : DataImpl) (index : Int) : Option HeaderEntry :=
  (data.getEntry index false).1

/-- What is left when all entries were iterated over. -/
def ended (data : DataImpl) : DataImpl :=
  { data with currentIndex := none, currentRange := none, skipZeroSize := false }

/-- The loop that looks for a run with a size, over the indexes from `range` on. -/
def nextSized (data : DataImpl) (range : Nat) : List Int → Option (Nat × Int)
  | [] => none
  | index :: rest =>
      if (data.dataMap index).any (0 < ·.size) then some (range, index)
      else nextSized data (range + 1) rest

/-- The cursor stands at an index of a run: its entry is returned. -/
def entryAt (data : DataImpl) (range : Nat) (index : Int) : Option HeaderEntry × DataImpl :=
  (
    (data.indexes[range]?).bind (data.computeEntry · index),
    { data with currentRange := some range, currentIndex := some index }
  )

/-- `getNext`. -/
def getNext (data : DataImpl) : Option HeaderEntry × DataImpl :=
  match data.currentIndex, data.currentRange with
  | some currentIndex, some currentRange =>
      let currentIndex := currentIndex + 1
      if data.endIndex < currentIndex then (none, data.ended)
      else if data.indexes[currentRange + 1]? = some currentIndex then
        -- new range
        if data.skipZeroSize then
          match data.nextSized (currentRange + 1) (data.indexes.drop (currentRange + 1)) with
          | some (range, index) => data.entryAt range index
          | none => (none, data.ended)
        else data.entryAt (currentRange + 1) currentIndex
      else data.entryAt currentRange currentIndex
  -- you need to call getFirst on initial step
  | _, _ => (none, data)

/-- The cursor before the first index. -/
def rewind (data : DataImpl) : DataImpl :=
  { data with currentRange := some 0, currentIndex := data.indexes[0]? }

/-- `getFirst`. -/
def getFirst (data : DataImpl) : Option HeaderEntry × DataImpl :=
  data.rewind.getNext

/-- A call that moves the cursor. -/
inductive CursorCall where
  | getAt (index : Int)
  | getFirst
  | getNext

def call (data : DataImpl) : CursorCall → DataImpl
  | .getAt index => (data.getEntry index true).2
  | .getFirst => data.getFirst.2
  | .getNext => data.getNext.2

end DataImpl

end NdcOdfWeb.Client
