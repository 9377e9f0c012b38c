import Mathlib.Data.List.DropRight
import NdcOdfWeb.Foundation.Decimal

/-! The parts of a URL: its base, file name, extension and parameters (`Util::splitUrl`). -/

namespace NdcOdfWeb.Protocol

open NdcOdfWeb.Foundation

/-- A size that is passed as an `int`. -/
def intSize (text : Text) : Int := Int.bmod text.length 4294967296

/-- `getDelimiterPosition`: the first delimiter, or the length. -/
def getDelimiterPosition (message : Text) (length : Int) (delim : Char) : Nat :=
  if 0 < length then ((message.take length.toNat).takeWhile (· ≠ delim)).length else 0

/-- `getLastDelimiterPosition`: the last delimiter, or the length. -/
def getLastDelimiterPosition (message : Text) (length : Int) (delim : Char) : Nat :=
  if 0 < length then
    let window := message.take length.toNat
    if delim ∈ window then window.length - 1 - (window.rtakeWhile (· ≠ delim)).length
    else window.length
  else 0

/-- The parts in front of and behind a position, with the delimiter removed or not. -/
def splitAt (s : Text) (length : Int) (size : Nat) (removeDelim : Bool) : Text × Text :=
  let after_pos : Int := size + (if removeDelim then 1 else 0)
  (s.take size,
    if after_pos < length then (s.drop after_pos.toNat).take (length - after_pos).toNat else [])

def split (s : Text) (delimeter : Char) (removeDelim : Bool) : Text × Text :=
  splitAt s (intSize s) (getDelimiterPosition s (intSize s) delimeter) removeDelim

def splitLast (s : Text) (delimeter : Char) (removeDelim : Bool) : Text × Text :=
  splitAt s (intSize s) (getLastDelimiterPosition s (intSize s) delimeter) removeDelim

/-- `splitLast2`: the delimiter goes to the first part, the second one is a C string. -/
def splitLast2 (s : Text) (delimeter : Char) : Text × Text :=
  let length := intSize s
  let pos := getLastDelimiterPosition s length delimeter
  if 0 < length ∧ (pos : Int) < length then
    (s.take (pos + 1), (s.drop (pos + 1)).takeWhile (· ≠ '\x00'))
  else (s.take length.toNat, [])

/-- What `splitUrl` returns. -/
structure UrlParts where
  base : Text
  filename : Text
  ext : Text
  params : Text
deriving DecidableEq

def splitUrl (url : Text) : UrlParts :=
  -- in case we have a URL that has parameters
  let base_params := split url '?' false
  let base_filename := splitLast2 base_params.1 '/'
  -- if there is no '/', then it's only a file name
  let base_filename := if base_filename.2 = [] then base_filename.swap else base_filename
  let filename_ext := splitLast base_filename.2 '.' false
  ⟨base_filename.1, filename_ext.1, filename_ext.2, base_params.2⟩

/-- The parts one after the other. -/
def UrlParts.concat (parts : UrlParts) : Text :=
  parts.base ++ parts.filename ++ parts.ext ++ parts.params

/-- The URL has a size, and the C string behind its last slash ends where its path does. -/
structure WholeUrl (url : Text) : Prop where
  size : url.length < 2147483648
  name
    : '/' ∈ url.takeWhile (· ≠ '?')
      → '\x00' ∉ (url.takeWhile (· ≠ '?')).rtakeWhile (· ≠ '/')

-----------------------------------------------------------------------------------------
-- Splitting in two
-----------------------------------------------------------------------------------------

variable {s : Text}

/-- A number below half of the modulus stays as it is. -/
theorem bmod_of_half {value modulus : Nat} (small : 2 * value < modulus)
    : Int.bmod value modulus = value :=
  Int.bmod_eq_of_le (by omega) (by omega)

/-- A length below 2^31 fits an int. -/
theorem intSize_eq (short : s.length < 2147483648) : intSize s = s.length :=
  bmod_of_half (Nat.mul_lt_mul_of_pos_left short Nat.two_pos)

/-- Both parts are the text, where the delimiter is kept. -/
theorem splitAt_append (size : Nat)
    : (splitAt s s.length size false).1 ++ (splitAt s s.length size false).2 = s := by
  rw [splitAt, if_neg Bool.false_ne_true, Int.add_zero]
  dsimp only
  split
  · next inside =>
      have whole : (s.drop size).length ≤ ((s.length : Int) - size).toNat := by
        rw [List.length_drop]
        omega
      rw [Int.toNat_natCast, List.take_of_length_le whole, List.take_append_drop]
  · next behind =>
      rw [List.append_nil, List.take_of_length_le (by omega)]

/-- The delimiter begins the second part, and nothing is lost. -/
theorem split_append (short : s.length < 2147483648) (delimeter : Char)
    : (split s delimeter false).1 ++ (split s delimeter false).2 = s := by
  rw [split, intSize_eq short]
  exact splitAt_append _

/-- The last delimiter begins the second part, and nothing is lost. -/
theorem splitLast_append (short : s.length < 2147483648) (delimeter : Char)
    : (splitLast s delimeter false).1 ++ (splitLast s delimeter false).2 = s := by
  rw [splitLast, intSize_eq short]
  exact splitAt_append _

/-- The first part ends in front of the first delimiter. -/
theorem split_fst (short : s.length < 2147483648) (delimeter : Char)
    : (split s delimeter false).1 = s.takeWhile (· ≠ delimeter) := by
  rw [split, intSize_eq short, splitAt, getDelimiterPosition]
  dsimp only
  split
  · rw [Int.toNat_natCast, List.take_length]
    exact (List.prefix_iff_eq_take.mp (List.takeWhile_prefix _)).symm
  · next empty =>
      have nothing : s = [] := List.length_eq_zero_iff.mp (by omega)
      rw [nothing]
      rfl

/-- Behind the last delimiter follows what has none. -/
theorem drop_lastDelimiter {delimeter : Char} (member : delimeter ∈ s)
    : getLastDelimiterPosition s s.length delimeter < s.length
      ∧ s.drop (getLastDelimiterPosition s s.length delimeter + 1)
        = s.rtakeWhile (· ≠ delimeter) := by
  have positive : 0 < s.length := List.length_pos_of_mem member
  have parts : s.rdropWhile (· ≠ delimeter) ++ s.rtakeWhile (· ≠ delimeter) = s :=
    List.rdropWhile_append_rtakeWhile ..
  have ends : s.rdropWhile (· ≠ delimeter) ≠ [] := by
    intro none'
    rw [List.rdropWhile_eq_nil_iff] at none'
    have other := none' delimeter member
    simp at other
  have lengths := congrArg List.length parts
  rw [List.length_append] at lengths
  have front := List.length_pos_iff.mpr ends
  rw [getLastDelimiterPosition, if_pos (by omega), Int.toNat_natCast, List.take_length]
  dsimp only
  rw [if_pos member]
  refine ⟨by omega, ?_⟩
  have place : s.length - 1 - (s.rtakeWhile (· ≠ delimeter)).length + 1
      = (s.rdropWhile (· ≠ delimeter)).length := by
    omega
  have behind := @List.drop_left _ (s.rdropWhile (· ≠ delimeter)) (s.rtakeWhile (· ≠ delimeter))
  rw [parts] at behind
  rw [place, behind]

/-- Nothing is lost if the second part has no null character. -/
theorem splitLast2_append (short : s.length < 2147483648) {delimeter : Char}
    (whole : delimeter ∈ s → '\x00' ∉ s.rtakeWhile (· ≠ delimeter))
    : (splitLast2 s delimeter).1 ++ (splitLast2 s delimeter).2 = s := by
  rw [splitLast2, intSize_eq short]
  by_cases member : delimeter ∈ s
  · obtain ⟨inside, behind⟩ := drop_lastDelimiter member
    have clean : ∀ c ∈ s.rtakeWhile (· ≠ delimeter), decide (c ≠ '\x00') = true := by
      intro c inName
      rw [decide_eq_true_iff]
      rintro rfl
      exact whole member inName
    rw [if_pos ⟨by omega, by omega⟩]
    rw [behind, List.takeWhile_eq_self_iff.mpr clean, ← behind, List.take_append_drop]
  · have position : ¬ (0 < (s.length : Int)
        ∧ (getLastDelimiterPosition s s.length delimeter : Int) < s.length) := by
      rintro ⟨positive, inside⟩
      rw [getLastDelimiterPosition, if_pos positive, Int.toNat_natCast, List.take_length] at inside
      dsimp only at inside
      rw [if_neg member] at inside
      omega
    rw [if_neg position, Int.toNat_natCast, List.take_length, List.append_nil]

/-- A part of a short text is short. -/
theorem path_short {url : Text} (whole : WholeUrl url)
    : (split url '?' false).1.length < 2147483648 := by
  rw [split_fst whole.size]
  exact Nat.lt_of_le_of_lt (List.takeWhile_prefix _).length_le whole.size

/-- The base and the file name are the path. -/
theorem path_append {url : Text} (whole : WholeUrl url)
    : (splitLast2 (split url '?' false).1 '/').1 ++ (splitLast2 (split url '?' false).1 '/').2
      = (split url '?' false).1 := by
  have short := path_short whole
  rw [split_fst whole.size] at short ⊢
  exact splitLast2_append short whole.name

/-- A part of a short text is short. -/
theorem name_short {url : Text} (whole : WholeUrl url)
    : (splitLast2 (split url '?' false).1 '/').2.length < 2147483648 := by
  have lengths := congrArg List.length (path_append whole)
  rw [List.length_append] at lengths
  exact Nat.lt_of_le_of_lt (Nat.le_of_add_left_le lengths.le) (path_short whole)

/-- The four parts, one behind the other. -/
theorem UrlParts.concat_mk (base filename ext params : Text)
    : UrlParts.concat ⟨base, filename, ext, params⟩ = base ++ filename ++ ext ++ params :=
  rfl

/-- The parts of a URL are the URL. -/
theorem splitUrl_concat {url : Text} (whole : WholeUrl url) : (splitUrl url).concat = url := by
  have params := split_append whole.size '?'
  have names := path_append whole
  rw [splitUrl, UrlParts.concat_mk]
  by_cases noName : (splitLast2 (split url '?' false).1 '/').2 = []
  · rw [noName, List.append_nil] at names
    rw [if_pos noName, Prod.fst_swap, Prod.snd_swap, noName, List.nil_append, names,
      splitLast_append (path_short whole) '.', params]
  · rw [if_neg noName, List.append_assoc _ (splitLast _ _ _).1,
      splitLast_append (name_short whole) '.', names, params]

/-- Half of the modulus is the first number that wraps. -/
theorem bmod_double (value : Nat) : Int.bmod value (2 * value) ≤ 0 := by
  rcases Nat.eq_zero_or_pos value with rfl | positive
  · decide
  · have inside : (value : Int) % ((2 * value : Nat) : Int) = value :=
      Int.emod_eq_of_lt (by omega) (by omega)
    rw [Int.bmod_def, inside, if_neg (by omega)]
    omega

/-- The size of a text of 2^31 bytes is negative. -/
theorem intSize_long (long : s.length = 2147483648) : intSize s ≤ 0 := by
  have half : Int.bmod s.length (2 * s.length) ≤ 0 := bmod_double s.length
  have double : 2 * s.length = 4294967296 := congrArg (2 * ·) long
  rwa [double] at half

/-- The loop does not start. -/
theorem split_negative (negative : intSize s ≤ 0) (delimeter : Char)
    : split s delimeter false = ([], []) := by
  have position : getDelimiterPosition s (intSize s) delimeter = 0 :=
    if_neg (Int.not_lt.mpr negative)
  have behind : ¬ ((0 : Nat) : Int) + 0 < intSize s := Int.not_lt.mpr negative
  rw [split, position, splitAt, if_neg Bool.false_ne_true, if_neg behind, List.take_zero]

/-- Nothing is left of a URL whose size is negative. -/
theorem splitUrl_negative {url : Text} (negative : intSize url ≤ 0)
    : splitUrl url = ⟨[], [], [], []⟩ := by
  rw [splitUrl, split_negative negative]
  decide +kernel

end NdcOdfWeb.Protocol
