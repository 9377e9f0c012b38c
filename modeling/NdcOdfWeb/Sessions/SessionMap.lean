import Mathlib.Data.List.Induction
import Mathlib.Data.List.Sort
import NdcOdfWeb.Foundation.Decimal
import NdcOdfWeb.Foundation.Numbering

/-! The sessions of one process, with the canonical ids of their view properties
(`SessionMap`). The sessions stand in the order of their keys.
-/

namespace NdcOdfWeb.Sessions

open NdcOdfWeb.Foundation

/-- `_canonicalIds`. -/
abbrev CanonicalIds := List (Text × Nat)

/-- `getCanonicalId`: generate a unique key for this set of view properties. -/
def getCanonicalId (ids : CanonicalIds) (viewProps : Text) : Nat × CanonicalIds :=
  if viewProps = [] then (0, ids)
  else
    match ids.find? (fun it => it.1 == viewProps) with
    | some it => (it.2, ids)
    | none =>
        let id := ids.length + 1
        (id, ids ++ [(viewProps, id)])

/-- The map of one process, over the keys `S` of its sessions. A session has no canonical
view id before its first load.
-/
structure SessionMap (S : Type) where
  canonicalIds : CanonicalIds
  canonicalViewId : S → Option Nat
  sessions : List S

namespace SessionMap

variable {S : Type}

def empty : SessionMap S where
  canonicalIds := []
  canonicalViewId _ := none
  sessions := []

variable [LinearOrder S]

/-- `recalcCanonicalViewId` of a session with the given watermark text. -/
def recalcCanonicalViewId (map : SessionMap S) (session : S) (watermarkText : Text)
    : SessionMap S :=
  let (id, ids) := getCanonicalId map.canonicalIds watermarkText
  {
    map with
    canonicalIds := ids
    canonicalViewId := Function.update map.canonicalViewId session (some id)
  }

/-- `emplace`: a key that is there stays. -/
def emplace (map : SessionMap S) (session : S) : SessionMap S :=
  if session ∈ map.sessions then map
  else { map with sessions := map.sessions.orderedInsert (· ≤ ·) session }

def erase (map : SessionMap S) (session : S) : SessionMap S :=
  { map with sessions := map.sessions.erase session }

/-- `findByCanonicalId`. -/
def findByCanonicalId (map : SessionMap S) (id : Nat) : Option S :=
  map.sessions.find? (fun it => map.canonicalViewId it == some id)

end SessionMap

/-- The table of values numbered in the order in which they were seen. -/
def numbered (values : List Text) : CanonicalIds :=
  values.mapIdx (fun i value => (value, i + 1))

/-- View properties without content are not numbered. -/
def seeProps (values : List Text) (viewProps : Text) : List Text :=
  if viewProps = [] then values else see values viewProps

/-- The id of view properties. -/
def propsId (values : List Text) (viewProps : Text) : Nat :=
  if viewProps = [] then 0 else numberOf values viewProps

/-- One number for each value. -/
theorem length_numbered (values : List Text) : (numbered values).length = values.length :=
  List.length_mapIdx

/-- By induction on the values, from the last one. -/
theorem find_numbered (values : List Text) (value : Text)
    : (numbered values).find? (fun it => it.1 == value)
      = if value ∈ values then some (value, numberOf values value) else none := by
  induction values using List.reverseRecOn with
  | nil => rfl
  | append_singleton values last ih =>
      have split : numbered (values ++ [last]) = numbered values ++ [(last, values.length + 1)] := by
        rw [numbered, List.mapIdx_concat]
        rfl
      rw [split, List.find?_append, ih]
      by_cases seen : value ∈ values
      · rw [if_pos seen, if_pos (List.mem_append_left _ seen),
          numberOf_of_prefix (List.prefix_append values [last]) seen]
        rfl
      · rw [if_neg seen, Option.none_or]
        by_cases same : last = value
        · subst same
          have number := numberOf_new seen
          rw [see_of_not_mem seen] at number
          rw [if_pos (List.mem_append_right _ (List.mem_singleton_self last)), number,
            List.find?_cons_of_pos (by simp)]
        · have absent : value ∉ values ++ [last] := by
            rw [List.mem_append, List.mem_singleton]
            rintro (old | here)
            · exact seen old
            · exact same here.symm
          rw [if_neg absent, List.find?_cons_of_neg (by simpa using same), List.find?_nil]

/-- `getCanonicalId` numbers the view properties that it sees. -/
theorem getCanonicalId_numbered (values : List Text) (viewProps : Text)
    : getCanonicalId (numbered values) viewProps
      = (propsId (seeProps values viewProps) viewProps, numbered (seeProps values viewProps)) := by
  unfold getCanonicalId propsId seeProps
  split
  · rfl
  · rw [find_numbered]
    by_cases seen : viewProps ∈ values
    · rw [if_pos seen, see_of_mem seen]
    · rw [if_neg seen, numberOf_new seen, see_of_not_mem seen, length_numbered, numbered, numbered,
        List.mapIdx_concat]

end NdcOdfWeb.Sessions
