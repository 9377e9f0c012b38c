import NdcOdfWeb.Foundation.Decimal

/-! Hexadecimal output of natural numbers. -/

namespace NdcOdfWeb.Foundation

/-- The hexadecimal text of a natural number, without leading zeros. -/
def showHex (value : Nat) : Text :=
  Nat.toDigits 16 value

/-- The last digit, behind the others. -/
theorem showHex_eq (value : Nat)
    : showHex value
      = if value < 16 then [value.digitChar]
        else showHex (value / 16) ++ [(value % 16).digitChar] :=
  Nat.toDigits_eq_if (by decide)

/-- Checked for each pair of digits. -/
theorem digitChar_inj {left right : Nat} (leftDigit : left < 16) (rightDigit : right < 16)
    (same : left.digitChar = right.digitChar)
    : left = right := by
  have all : ∀ left < 16, ∀ right < 16, left.digitChar = right.digitChar → left = right := by
    decide
  exact all left leftDigit right rightDigit same

/-- By strong induction on the number. -/
theorem showHex_inj {left right : Nat} (same : showHex left = showHex right) : left = right := by
  induction left using Nat.strongRecOn generalizing right with
  | ind left ih =>
      rw [showHex_eq left, showHex_eq right] at same
      have several (value : Nat) : 0 < (showHex value).length := Nat.length_toDigits_pos
      split at same
      · next leftDigit =>
          split at same
          · next rightDigit =>
              exact digitChar_inj leftDigit rightDigit (List.singleton_inj.mp same)
          · have length := congrArg List.length same
            have positive := several (right / 16)
            rw [List.length_append, List.length_singleton, List.length_singleton] at length
            omega
      · next leftLong =>
          split at same
          · have length := congrArg List.length same
            have positive := several (left / 16)
            rw [List.length_append, List.length_singleton, List.length_singleton] at length
            omega
          · obtain ⟨front, last⟩ := List.append_inj' same rfl
            have high := ih (left / 16) (Nat.div_lt_self (by omega) (by decide)) front
            have low := digitChar_inj (Nat.mod_lt _ (by decide)) (Nat.mod_lt _ (by decide))
              (List.singleton_inj.mp last)
            omega

/-- Only digits are in the text. -/
theorem mem_showHex {value : Nat} {c : Char} (member : c ∈ showHex value)
    : ∃ digit < 16, c = digit.digitChar := by
  induction value using Nat.strongRecOn with
  | ind value ih =>
      rw [showHex_eq] at member
      split at member
      · next small => exact ⟨value, small, List.mem_singleton.mp member⟩
      · next long =>
          rcases List.mem_append.mp member with front | last
          · exact ih (value / 16) (Nat.div_lt_self (by omega) (by decide)) front
          · exact ⟨value % 16, Nat.mod_lt _ (by decide), List.mem_singleton.mp last⟩

/-- Only digits are shown. -/
theorem not_mem_showHex {c : Char} (other : ∀ digit < 16, c ≠ Nat.digitChar digit) (value : Nat)
    : c ∉ showHex value := by
  intro member
  obtain ⟨digit, small, same⟩ := mem_showHex member
  exact other digit small same

end NdcOdfWeb.Foundation
