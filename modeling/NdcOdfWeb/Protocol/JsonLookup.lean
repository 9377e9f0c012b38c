import NdcOdfWeb.Foundation.Decimal
import NdcOdfWeb.Foundation.EditDistance
import NdcOdfWeb.Foundation.Tally

/-! Looking a property up in a JSON object, with a warning about names that are nearly equal
(`JsonUtil`).
-/

namespace NdcOdfWeb.Protocol

open NdcOdfWeb.Foundation

-----------------------------------------------------------------------------------------
-- The distance
-----------------------------------------------------------------------------------------

abbrev DistMatrix := Nat → Nat → Nat

def DistMatrix.set (matrix : DistMatrix) (i j value : Nat) : DistMatrix :=
  fun row column => if row = i ∧ column = j then value else matrix row column

/-- The value that the loop computes for a cell. -/
def cellValue (string1 string2 : Text) (matrix : DistMatrix) (i j : Nat) : Nat :=
  if i = 0 then j
  else if j = 0 then i
  else if string1[i - 1]? = string2[j - 1]? then matrix (i - 1) (j - 1)
  else 1 + min (min (matrix i (j - 1)) (matrix (i - 1) j)) (matrix (i - 1) (j - 1))

/-- The inner loop. -/
def fillRow (string1 string2 : Text) (matrix : DistMatrix) (i : Nat) : DistMatrix :=
  (List.range (string2.length + 1)).foldl
    (fun matrix j => matrix.set i j (cellValue string1 string2 matrix i j)) matrix

/-- Both loops. -/
def fillMatrix (string1 string2 : Text) : DistMatrix :=
  (List.range (string1.length + 1)).foldl (fillRow string1 string2) (fun _ _ => 0)

def getLevenshteinDist (string1 string2 : Text) : Nat :=
  fillMatrix string1 string2 string1.length string2.length

variable (string1 string2 : Text)

/-- What a cell holds in the end: the distance of the first characters, from the last ones on. -/
def cellDistance (i j : Nat) : Nat :=
  levenshtein (string1.take i).reverse (string2.take j).reverse

/-- One character more, in front. -/
theorem reverse_take_succ {text : Text} {i : Nat} (inside : i < text.length)
    : (text.take (i + 1)).reverse = text[i] :: (text.take i).reverse := by
  rw [List.take_add_one, List.getElem?_eq_getElem inside, List.reverse_append]
  rfl

/-- A cell is computed from cells that hold their distances. -/
theorem cellValue_eq {matrix : DistMatrix} {i j : Nat} (row : i ≤ string1.length)
    (column : j ≤ string2.length)
    (above : ∀ a b, a < i → b ≤ j → matrix a b = cellDistance string1 string2 a b)
    (left : ∀ b, b < j → matrix i b = cellDistance string1 string2 i b)
    : cellValue string1 string2 matrix i j = cellDistance string1 string2 i j := by
  unfold cellValue
  cases i with
  | zero =>
      rw [if_pos rfl, cellDistance, List.take_zero, List.reverse_nil, levenshtein_nil_left,
        List.length_reverse, List.length_take, Nat.min_eq_left column]
  | succ i =>
      rw [if_neg (Nat.succ_ne_zero i)]
      cases j with
      | zero =>
          rw [if_pos rfl, cellDistance, List.take_zero, List.reverse_nil, levenshtein_nil_right,
            List.length_reverse, List.length_take, Nat.min_eq_left row]
      | succ j =>
          have rowInside : i < string1.length := row
          have columnInside : j < string2.length := column
          rw [if_neg (Nat.succ_ne_zero j), Nat.add_sub_cancel, Nat.add_sub_cancel,
            List.getElem?_eq_getElem rowInside, List.getElem?_eq_getElem columnInside,
            above i j (Nat.lt_succ_self i) (Nat.le_succ j),
            above i (j + 1) (Nat.lt_succ_self i) (Nat.le_refl _),
            left j (Nat.lt_succ_self j), cellDistance.eq_def string1 string2 (i + 1) (j + 1),
            reverse_take_succ rowInside, reverse_take_succ columnInside, levenshtein]
          refine if_congr Option.some_inj rfl ?_
          rw [← reverse_take_succ rowInside, ← reverse_take_succ columnInside]
          rfl

/-- By induction on the columns: each cell reads those filled before. -/
theorem fillRow_eq {matrix : DistMatrix} {i : Nat} (row : i ≤ string1.length)
    (above
      : ∀ a b, a < i → b ≤ string2.length → matrix a b = cellDistance string1 string2 a b)
    (a b : Nat) (filled : a ≤ i) (column : b ≤ string2.length)
    : fillRow string1 string2 matrix i a b = cellDistance string1 string2 a b := by
  -- the cells of the row in front of a column are filled, and the rows above stay
  have columns (count : Nat) (bound : count ≤ string2.length + 1) (a b : Nat)
      (inside : b ≤ string2.length) (done : a < i ∨ (a = i ∧ b < count))
      : ((List.range count).foldl
          (fun matrix j => DistMatrix.set matrix i j (cellValue string1 string2 matrix i j))
          matrix) a b
        = cellDistance string1 string2 a b := by
    induction count generalizing a b with
    | zero =>
        rcases done with earlier | ⟨_, none'⟩
        · exact above a b earlier inside
        · exact absurd none' (Nat.not_lt_zero b)
    | succ count ih =>
        rw [List.range_succ, List.foldl_append, List.foldl_cons, List.foldl_nil, DistMatrix.set]
        have before := ih (by omega)
        split
        · next here =>
            rw [here.1, here.2]
            exact cellValue_eq string1 string2 row (by omega)
              (fun a b earlier _ => before a b (by omega) (.inl earlier))
              (fun b earlier => before i b (by omega) (.inr ⟨rfl, earlier⟩))
        · next other => exact before a b inside (by omega)
  exact columns (string2.length + 1) (Nat.le_refl _) a b column (by omega)

/-- By induction on the rows. -/
theorem fillMatrix_eq (a b : Nat) (row : a ≤ string1.length) (column : b ≤ string2.length)
    : fillMatrix string1 string2 a b = cellDistance string1 string2 a b := by
  have rows (count : Nat) (bound : count ≤ string1.length + 1) (a b : Nat) (done : a < count)
      (inside : b ≤ string2.length)
      : ((List.range count).foldl (fillRow string1 string2) (fun _ _ => 0)) a b
        = cellDistance string1 string2 a b := by
    induction count generalizing a b with
    | zero => exact absurd done (Nat.not_lt_zero a)
    | succ count ih =>
        rw [List.range_succ, List.foldl_append, List.foldl_cons, List.foldl_nil]
        exact fillRow_eq string1 string2 (by omega)
          (fun a b earlier inside => ih (by omega) a b earlier inside) a b (by omega) inside
  exact rows (string1.length + 1) (Nat.le_refl _) a b (by omega) column

/-- The loops compute the recursive distance. -/
theorem getLevenshteinDist_eq : getLevenshteinDist string1 string2 = levenshtein string1 string2 := by
  rw [getLevenshteinDist, fillMatrix_eq string1 string2 _ _ (Nat.le_refl _) (Nat.le_refl _),
    cellDistance, List.take_length, List.take_length, levenshtein_reverse]

-----------------------------------------------------------------------------------------
-- The lookup
-----------------------------------------------------------------------------------------

/-- The type of a value: the conversion, which may throw, and the default. -/
structure JsonType (Var T : Type) where
  convert : Var → Option T
  new : T

/-- An object, with its names in the order in which it lists them. -/
abbrev JsonObject (Var : Type) := KeyedMap Text Var

variable {Var T : Type} (type : JsonType Var T)

/-- `getJSONValue`: a value that cannot be converted is the default. -/
def getJSONValue (object : JsonObject Var) (key : Text) : T :=
  ((object.lookup key).bind type.convert).getD type.new

def toLower (text : Text) : Text := text.map Char.toLower

/-- How the loop over the names ends. -/
inductive NameSearch where
  | found
  | misspelled (userInput : Text)
  | missing

/-- Check each property name against the key. -/
def searchNames (key : Text) : List Text → NameSearch
  | [] => .missing
  | userInput :: rest =>
      if key ≠ userInput then
        if 2 < getLevenshteinDist (toLower key) (toLower userInput) then
          -- not even close, keep searching
          searchNames key rest
        else .misspelled userInput
      else .found

/-- `findJSONValue`: whether the key was found, the value, and the object. -/
def findJSONValue (object : JsonObject Var) (key : Text) (value : T) (bRemove : Bool)
    : Bool × T × JsonObject Var :=
  match searchNames key object.keys with
  | .found =>
      (true, getJSONValue type object key, if bRemove then object.erase key else object)
  | .misspelled _ | .missing => (false, value, object)

/-- The lookup of a key that the object has succeeds with its value. -/
def FindsKey (object : JsonObject Var) (key : Text) (value : T) (bRemove : Bool) : Prop :=
  key ∈ object
  → (findJSONValue type object key value bRemove).1 = true
    ∧ (findJSONValue type object key value bRemove).2.1 = getJSONValue type object key

/-- No name that the object lists in front of the key is close to it. -/
def NoNearName (object : JsonObject Var) (key : Text) : Prop :=
  key ∈ object
  → ∀ name ∈ object.keys.takeWhile (· ≠ key), 2 < levenshtein (toLower key) (toLower name)

/-- The search arrives at the key if no name in front of it is close. -/
theorem searchNames_found_iff {key : Text} {names : List Text} (member : key ∈ names)
    : searchNames key names = .found
      ↔ ∀ name ∈ names.takeWhile (· ≠ key), 2 < levenshtein (toLower key) (toLower name) := by
  induction names with
  | nil => exact absurd member List.not_mem_nil
  | cons userInput rest ih =>
      rw [searchNames]
      by_cases same : userInput = key
      · rw [if_neg (not_not.mpr same.symm), List.takeWhile_cons_of_neg (by simpa using same)]
        exact iff_of_true rfl (fun _ none' => absurd none' List.not_mem_nil)
      · have later : key ∈ rest := (List.mem_cons.mp member).resolve_left (Ne.symm same)
        rw [if_pos (Ne.symm same), List.takeWhile_cons_of_pos (by simpa using same),
          List.forall_mem_cons, getLevenshteinDist_eq]
        split
        · next far =>
            rw [ih later]
            exact ⟨fun rest => ⟨far, rest⟩, And.right⟩
        · next near =>
            refine iff_of_false ?_ (fun both => near both.1)
            intro found
            cases found

/-- The search stops at the first near name. -/
theorem findsKey_iff (object : JsonObject Var) (key : Text) (value : T) (bRemove : Bool)
    : FindsKey type object key value bRemove ↔ NoNearName object key := by
  refine forall_congr' (fun member => ?_)
  rw [← searchNames_found_iff (AList.mem_keys.mp member), findJSONValue]
  cases searched : searchNames key object.keys with
  | found => exact iff_of_true ⟨rfl, rfl⟩ rfl
  | misspelled userInput =>
      refine iff_of_false ?_ ?_
      · rintro ⟨found, _⟩
        cases found
      · intro found
        cases found
  | missing =>
      refine iff_of_false ?_ ?_
      · rintro ⟨found, _⟩
        cases found
      · intro found
        cases found

/-- A key that an object has is found, with the distance that is meant, if and only if no name in
front of it is close.
-/
theorem findJSONValue_iff (object : JsonObject Var) (key : Text) (value : T) (bRemove : Bool)
    : FindsKey type object key value bRemove
        ∧ (∀ string1 string2 : Text,
          getLevenshteinDist string1 string2 = levenshtein string1 string2)
      ↔ NoNearName object key := by
  rw [findsKey_iff]
  exact ⟨And.left, fun noNear => ⟨noNear, getLevenshteinDist_eq⟩⟩

/-- The name in capitals is listed in front of the name. -/
def twoNames : JsonObject Int :=
  AList.insert "UserId".toList 1 (AList.insert "userid".toList 2 ∅)

def intType : JsonType Int Int := ⟨some, 0⟩

/-- The search stops at the other name. -/
theorem near_name_hides_key
    : twoNames.lookup "userid".toList = some 2
      ∧ ¬ FindsKey intType twoNames "userid".toList 0 true := by
  have present : twoNames.lookup "userid".toList = some 2 := by
    decide +kernel
  refine ⟨present, ?_⟩
  rw [findsKey_iff]
  intro noNear
  have near := noNear (mem_of_lookup present) "UserId".toList (by decide +kernel)
  have same : toLower "userid".toList = toLower "UserId".toList := by
    decide +kernel
  rw [same, levenshtein_self] at near
  exact absurd near (by decide)

end NdcOdfWeb.Protocol
