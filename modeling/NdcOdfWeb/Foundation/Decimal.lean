import Mathlib.Algebra.Group.Int.Defs
import Mathlib.Algebra.Group.Nat.Defs
import Mathlib.Data.List.Basic
import Mathlib.Data.List.TakeWhile
import NdcOdfWeb.Foundation.Words

/-! Decimal output of integers and the C library's readers of decimal text.
A reader skips leading blanks, accepts one sign and stops at the first other character,
so it reads a printed number back from in front of any text that starts with no digit.
-/

namespace NdcOdfWeb.Foundation

/-- A byte string, with one character for each byte. -/
abbrev Text := List Char

/-- The decimal text of a natural number, without leading zeros. -/
def showNat (value : Nat) : Text :=
  Nat.toDigits 10 value

/-- The decimal text of an integer, with a minus sign when it is negative. -/
def showInt : Int → Text
  | .ofNat value => showNat value
  | .negSucc value => '-' :: showNat (value + 1)

/-- `isspace` of the C locale. -/
def isSpace (c : Char) : Bool :=
  c == ' ' || (9 ≤ c.toNat && c.toNat ≤ 13)

/-- An optional sign: whether it is a minus, and the text behind it. -/
def splitSign : Text → Bool × Text
  | '-' :: rest => (true, rest)
  | '+' :: rest => (false, rest)
  | text => (false, text)

/-- The sign and magnitude of the number that `text` starts with, after blanks. -/
def scanNumber (text : Text) : Option (Bool × Nat) :=
  let (negative, rest) := splitSign (text.dropWhile isSpace)
  let digits := rest.takeWhile Char.isDigit
  if digits = [] then none else some (negative, Nat.ofDigitChars 10 digits 0)

/-- Sign and magnitude as an integer. -/
def signed (negative : Bool) (magnitude : Nat) : Int :=
  if negative then -magnitude else magnitude

/-- `strtol` with base 10: the value, held inside a 64-bit `long`, or 0 for no number. -/
def strtol (text : Text) : Int :=
  match scanNumber text with
  | none => 0
  | some (negative, magnitude) => max (-2 ^ 63) (min (2 ^ 63 - 1) (signed negative magnitude))

/-- `strtoul` with base 10: a minus sign negates modulo 2^64, too large a magnitude gives
the largest value.
-/
def strtoul (text : Text) : Nat :=
  match scanNumber text with
  | none => 0
  | some (negative, magnitude) =>
      if 2 ^ 64 ≤ magnitude then 2 ^ 64 - 1
      else if negative then (2 ^ 64 - magnitude) % 2 ^ 64
      else magnitude

/-- `atoi`: the value of `strtol` cast to a 32-bit integer. -/
def atoi (text : Text) : Int32 :=
  Int32.ofInt (strtol text)

/-- The standard library's exceptions: `std::invalid_argument`, `std::out_of_range` and
`std::length_error`.
-/
inductive StdError where
  | invalidArgument
  | outOfRange
  | lengthError
deriving DecidableEq, Repr

/-- `std::stoi`: no number at all is an invalid argument, a number outside `int` is out of
range.
-/
def stoi (text : Text) : Except StdError Int32 :=
  match scanNumber text with
  | none => .error .invalidArgument
  | some (negative, magnitude) =>
      let value := signed negative magnitude
      if -2 ^ 31 ≤ value ∧ value < 2 ^ 31 then .ok (Int32.ofInt value)
      else .error .outOfRange

/-- `std::stoul` as a 64-bit value. -/
def stoul (text : Text) : Except StdError Nat :=
  match scanNumber text with
  | none => .error .invalidArgument
  | some (_, magnitude) =>
      if 2 ^ 64 ≤ magnitude then .error .outOfRange else .ok (strtoul text)

/-- A number has a digit. -/
theorem showNat_ne_nil (value : Nat) : showNat value ≠ [] :=
  Nat.toDigits_ne_nil

/-- A number is written in digits. -/
theorem isDigit_of_mem_showNat {value : Nat} {c : Char} (member : c ∈ showNat value)
    : c.isDigit = true :=
  Nat.isDigit_of_mem_toDigits (by decide) (by decide) member

/-- An integer has a digit. -/
theorem showInt_ne_nil (value : Int) : showInt value ≠ [] := by
  cases value with
  | ofNat value => exact showNat_ne_nil value
  | negSucc value => simp [showInt]

/-- An integer is written in digits, maybe with a sign. -/
theorem mem_showInt {value : Int} {c : Char} (member : c ∈ showInt value)
    : c = '-' ∨ c.isDigit = true := by
  cases value with
  | ofNat value => exact Or.inr (isDigit_of_mem_showNat member)
  | negSucc value =>
      rcases List.mem_cons.mp member with same | digit
      · exact Or.inl same
      · exact Or.inr (isDigit_of_mem_showNat digit)

/-- No other character is in a written integer. -/
theorem not_mem_showInt (value : Int) {c : Char} (minus : c ≠ '-')
    (digit : c.isDigit = false)
    : c ∉ showInt value := by
  intro member
  rcases mem_showInt member with same | isDigit
  · exact minus same
  · simp [digit] at isDigit

/-- No other character is in a written number. -/
theorem not_mem_showNat (value : Nat) {c : Char} (digit : c.isDigit = false)
    : c ∉ showNat value := by
  intro member
  simp [isDigit_of_mem_showNat member] at digit

/-- Digits are no blanks. -/
theorem isSpace_of_isDigit {c : Char} (digit : c.isDigit = true) : isSpace c = false := by
  have bounds : 48 ≤ c.toNat ∧ c.toNat ≤ 57 := by
    simp only [Char.isDigit, Bool.and_eq_true, decide_eq_true_eq] at digit
    exact digit
  have blank : c ≠ ' ' := by
    rintro rfl
    exact absurd bounds.1 (by decide)
  have upper : ¬ c.toNat ≤ 13 := by omega
  simp only [isSpace, beq_eq_false_iff_ne.mpr blank, decide_eq_false upper, Bool.and_false,
    Bool.or_false]

/-- In front of a digit, there is no sign. -/
theorem splitSign_of_isDigit {c : Char} (digit : c.isDigit = true) (rest : Text)
    : splitSign (c :: rest) = (false, c :: rest) := by
  unfold splitSign
  split
  · next same => cases same; exact absurd digit (by decide)
  · next same => cases same; exact absurd digit (by decide)
  · rfl

-----------------------------------------------------------------------------------------
-- Printed numbers are read back
-----------------------------------------------------------------------------------------

/-- The text behind a printed number does not continue it. -/
def EndsNumber (rest : Text) : Prop :=
  ∀ c ∈ rest.head?, c.isDigit = false

/-- A number ends with the text. -/
theorem endsNumber_nil : EndsNumber [] := by
  simp [EndsNumber]

/-- A number ends at a character that is no digit. -/
theorem endsNumber_cons {c : Char} (rest : Text) (digit : c.isDigit = false)
    : EndsNumber (c :: rest) := by
  simpa [EndsNumber] using digit

/-- The digits of a number are found in front of what ends it. -/
theorem takeWhile_isDigit_showNat (value : Nat) {rest : Text} (ends : EndsNumber rest)
    : (showNat value ++ rest).takeWhile Char.isDigit = showNat value := by
  rw [List.takeWhile_append_of_pos (fun _ => isDigit_of_mem_showNat)]
  cases rest with
  | nil => simp
  | cons c rest =>
      have stops : c.isDigit = false := ends c (by simp)
      simp [stops]

/-- A printed natural number is scanned with its own magnitude; the first digit of its
text shows that neither a blank nor a sign is skipped.
-/
theorem scanNumber_showNat (value : Nat) {rest : Text} (ends : EndsNumber rest)
    : scanNumber (showNat value ++ rest) = some (false, value) := by
  have digits := takeWhile_isDigit_showNat value ends
  obtain ⟨c, tail, shape⟩ := List.exists_cons_of_ne_nil (showNat_ne_nil value)
  have digit : c.isDigit = true := isDigit_of_mem_showNat (by rw [shape]; simp)
  have start : (showNat value ++ rest).dropWhile isSpace = showNat value ++ rest := by
    simp [shape, isSpace_of_isDigit digit]
  have sign : splitSign (showNat value ++ rest) = (false, showNat value ++ rest) := by
    rw [shape, List.cons_append, splitSign_of_isDigit digit]
  simp only [scanNumber, start, sign, digits, showNat_ne_nil, if_false]
  simp [showNat]

/-- A written integer is scanned back, by its sign. -/
theorem scanNumber_showInt (value : Int) {rest : Text} (ends : EndsNumber rest)
    : scanNumber (showInt value ++ rest) = some (decide (value < 0), value.natAbs) := by
  cases value with
  | ofNat value =>
      have sign : decide (Int.ofNat value < 0) = false := by simp
      rw [showInt, scanNumber_showNat value ends, sign]
      rfl
  | negSucc value =>
      have digits := takeWhile_isDigit_showNat (value + 1) ends
      have start : ('-' :: (showNat (value + 1) ++ rest)).dropWhile isSpace
          = '-' :: (showNat (value + 1) ++ rest) := by
        simp [show isSpace '-' = false by decide]
      simp only [scanNumber, showInt, List.cons_append, start, splitSign, digits,
        showNat_ne_nil, if_false]
      simp [showNat]

/-- An integer is its sign and its absolute value. -/
theorem signed_natAbs (value : Int) : signed (decide (value < 0)) value.natAbs = value := by
  simp only [signed, decide_eq_true_eq]
  split <;> omega

/-- An integer of 32 bits is read back by `stoi`, since it is in range. -/
theorem stoi_showInt (value : Int32) {rest : Text} (ends : EndsNumber rest)
    : stoi (showInt value.toInt ++ rest) = .ok value := by
  have lower := value.le_toInt
  have upper := value.toInt_lt
  simp only [stoi, scanNumber_showInt value.toInt ends, signed_natAbs]
  rw [if_pos ⟨lower, upper⟩, Int32.ofInt_toInt]

/-- An integer of 32 bits is read back by `atoi`, which clamps nothing here. -/
theorem atoi_showInt (value : Int32) {rest : Text} (ends : EndsNumber rest)
    : atoi (showInt value.toInt ++ rest) = value := by
  have lower := value.le_toInt
  have upper := value.toInt_lt
  have inside : max (-2 ^ 63) (min (2 ^ 63 - 1) value.toInt) = value.toInt := by omega
  simp only [atoi, strtol, scanNumber_showInt value.toInt ends, signed_natAbs]
  rw [inside, Int32.ofInt_toInt]

/-- A number of 64 bits is read back by `strtoul`. -/
theorem strtoul_showNat {value : Nat} (bound : value < 2 ^ 64) {rest : Text}
    (ends : EndsNumber rest)
    : strtoul (showNat value ++ rest) = value := by
  have small : ¬ 2 ^ 64 ≤ value := by omega
  simp only [strtoul, scanNumber_showNat value ends, if_neg small, Bool.false_eq_true,
    if_false]

/-- A number of 64 bits is read back by `stoul`, since it is in range. -/
theorem stoul_showNat {value : Nat} (bound : value < 2 ^ 64) {rest : Text}
    (ends : EndsNumber rest)
    : stoul (showNat value ++ rest) = .ok value := by
  have small : ¬ 2 ^ 64 ≤ value := by omega
  simp only [stoul, scanNumber_showNat value ends, if_neg small, strtoul_showNat bound ends]

/-- Two printed numbers in front of texts that end them are equal only for equal numbers
and equal remainders.
-/
theorem showInt_append_inj {left right : Int} {rest more : Text} (ends : EndsNumber rest)
    (stops : EndsNumber more) (same : showInt left ++ rest = showInt right ++ more)
    : left = right ∧ rest = more := by
  have scanned := congrArg scanNumber same
  rw [scanNumber_showInt left ends, scanNumber_showInt right stops] at scanned
  simp only [Option.some.injEq, Prod.mk.injEq, decide_eq_decide] at scanned
  have value : left = right := by omega
  subst value
  exact ⟨rfl, List.append_cancel_left same⟩

/-- Written numbers with what follows them differ if the numbers or the rests do. -/
theorem showNat_append_inj {left right : Nat} {rest more : Text} (ends : EndsNumber rest)
    (stops : EndsNumber more) (same : showNat left ++ rest = showNat right ++ more)
    : left = right ∧ rest = more := by
  have asInt : showInt left ++ rest = showInt right ++ more := same
  obtain ⟨value, tail⟩ := showInt_append_inj ends stops asInt
  exact ⟨Int.ofNat_inj.mp value, tail⟩

/-- Written integers differ if the integers do. -/
theorem showInt_inj {left right : Int} (same : showInt left = showInt right)
    : left = right :=
  (showInt_append_inj endsNumber_nil endsNumber_nil (congrArg (· ++ []) same)).1

/-- Written numbers differ if the numbers do. -/
theorem showNat_inj {left right : Nat} (same : showNat left = showNat right)
    : left = right :=
  (showNat_append_inj endsNumber_nil endsNumber_nil (congrArg (· ++ []) same)).1

end NdcOdfWeb.Foundation
