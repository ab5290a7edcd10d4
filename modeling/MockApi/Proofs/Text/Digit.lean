/-
Digits and word characters of every script, none of which is blank.
-/
import MockApi.Text.Blank
import MockApi.Text.Digit
import MockApi.Text.Word

namespace MockApi.Text

variable {c : CodePoint}

/-- The code points of the blank characters. -/
def blankNumbers : List Nat :=
  blankRanges.flatMap fun range => List.range' range.1 (range.2 + 1 - range.1)

/-- Blanks are the code points of a short list. -/
theorem toNat_mem_blankNumbers (h : isBlank c = true) : c.toNat ∈ blankNumbers := by
  obtain ⟨range, hrange, hin⟩ := List.any_eq_true.1 h
  rw [Bool.and_eq_true, decide_eq_true_eq, decide_eq_true_eq] at hin
  refine List.mem_flatMap.2 ⟨range, hrange, List.mem_range'_1.2 ⟨hin.1, ?_⟩⟩
  omega

/-- No digit is a blank. -/
theorem isBlank_of_isDigit (h : isDigit c = true) : isBlank c = false := by
  have hall : ∀ n ∈ blankNumbers, isDigit (.ofNat n) = false := by decide
  rw [← Bool.not_eq_true]
  intro hblank
  have hno := hall _ (toNat_mem_blankNumbers hblank)
  rw [CodePoint.ofNat_toNat, h] at hno
  cases hno

/-- No character of a word is a blank. -/
theorem isBlank_of_isWord (h : isWord c = true) : isBlank c = false := by
  have hall : ∀ n ∈ blankNumbers, isWord (.ofNat n) = false := by decide +kernel
  rw [← Bool.not_eq_true]
  intro hblank
  have hno := hall _ (toNat_mem_blankNumbers hblank)
  rw [CodePoint.ofNat_toNat, h] at hno
  cases hno

end MockApi.Text
