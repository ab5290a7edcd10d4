/-
Numbers come back from their text. The decimal text of an integer is read as that
integer where something other than a digit, a point or an exponent follows
(`scalar_decimal`).
-/
import MockApi.Json.Printer
import MockApi.Proofs.Json.Decided

namespace MockApi.Json.Parser

variable {rest : Text}

-- ================================================================= numbers

/-- The digits of a number have its value. -/
theorem digitsValue_decimalOfNat (n : Nat) : digitsValue (decimalOfNat n) = n := by
  have hfold := Nat.ofDigitChars_ten_toDigits (n := n)
  unfold Nat.ofDigitChars at hfold
  unfold digitsValue natOfDigits decimalOfNat Text.digits
  rw [List.map_map, List.foldl_map]
  exact hfold

/-- What may stand behind a value: nothing, a comma, a line break or a bracket
that is closed. -/
def IsBreak (rest : Text) : Prop :=
  ∀ c ∈ rest.head?, c = .char ',' ∨ c = .char '\n' ∨ c = .char ']' ∨ c = .char '\x7d'

/-- A run of digits ends at a break. -/
theorem digits_append {ds : Text} (hds : ∀ c ∈ ds, Text.isAsciiDigit c = true)
    (hrest : IsBreak rest) : digits (ds ++ rest) = (ds, rest) := by
  have hstop : rest.takeWhile Text.isAsciiDigit = [] ∧ rest.dropWhile Text.isAsciiDigit = rest := by
    cases rest with
    | nil => exact ⟨rfl, rfl⟩
    | cons c tail =>
      have hc : Text.isAsciiDigit c = false := by
        rcases hrest c rfl with rfl | rfl | rfl | rfl <;> rfl
      exact ⟨List.takeWhile_cons_of_neg (by simp [hc]), List.dropWhile_cons_of_neg (by simp [hc])⟩
  unfold digits
  rw [List.takeWhile_append_of_pos hds, List.dropWhile_append_of_pos hds, hstop.1, hstop.2,
    List.append_nil]

/-- The digits of a number are its whole part, without a leading zero. -/
theorem wholePart?_decimalOfNat (n : Nat) (hrest : IsBreak rest) :
    wholePart? (decimalOfNat n ++ rest) = some (decimalOfNat n, rest) := by
  by_cases hzero : n = 0
  · subst hzero
    rfl
  · have hhead := head?_decimalOfNat_ne (Nat.pos_of_ne_zero hzero)
    have hdigits : digits (decimalOfNat n ++ rest) = (decimalOfNat n, rest) :=
      digits_append (fun c hc => isAsciiDigit_of_mem_decimalOfNat hc) hrest
    cases htext : decimalOfNat n with
    | nil => exact absurd (List.map_eq_nil_iff.1 htext) Nat.toDigits_ne_nil
    | cons c ds =>
      rw [htext] at hhead hdigits
      unfold wholePart?
      split
      · next heq => exact absurd (congrArg some (List.cons.inj heq).1) hhead
      · rw [hdigits]

/-- A number within the limit is read back from its digits. -/
theorem unsigned_decimalOfNat (negative : Bool) {n : Nat} (hfits : n < 10 ^ digitLimit)
    (hrest : IsBreak rest) :
    unsigned negative (decimalOfNat n ++ rest)
      = some (.ok (.int (if negative then -(n : Int) else n), rest)) := by
  have hlength : ¬digitLimit < (decimalOfNat n).length :=
    Nat.not_lt.2 ((length_decimalOfNat_le (by decide)).2 hfits)
  have hplain : fraction? rest = none ∧ exponent? rest = none := by
    cases rest with
    | nil => exact ⟨rfl, rfl⟩
    | cons c tail =>
      rcases hrest c rfl with rfl | rfl | rfl | rfl <;> exact ⟨rfl, rfl⟩
  unfold unsigned
  rw [wholePart?_decimalOfNat n hrest]
  simp only [hplain.1, hplain.2, Option.getD_none, Option.isNone_none, Bool.and_self, if_true,
    hlength, if_false, digitsValue_decimalOfNat]

theorem isSpace_of_isAsciiDigit {c : CodePoint} (h : Text.isAsciiDigit c = true) :
    isSpace c = false := by
  have hnumber : 48 ≤ c.toNat := by
    rw [Text.isAsciiDigit, Bool.and_eq_true, decide_eq_true_eq] at h
    exact h.1
  rw [← Bool.not_eq_true]
  intro hspace
  simp only [isSpace, Bool.or_eq_true, beq_iff_eq] at hspace
  rcases hspace with ((rfl | rfl) | rfl) | rfl
  · exact absurd hnumber (by decide)
  · exact absurd hnumber (by decide)
  · exact absurd hnumber (by decide)
  · exact absurd hnumber (by decide)

/-- An integer that was written is read. -/
theorem scalar_decimal {n : Int} (hfits : fitsInText n = true) (hrest : IsBreak rest) :
    scalar (decimal n ++ rest) = .ok (.int n, rest) := by
  rw [fitsInText, decide_eq_true_eq] at hfits
  cases n with
  | ofNat n =>
    have hread : unsigned false (decimalOfNat n ++ rest) = some (.ok (.int n, rest)) :=
      unsigned_decimalOfNat false hfits hrest
    obtain ⟨c, ds, htext, hc⟩ := exists_cons_decimalOfNat n
    show scalar (decimalOfNat n ++ rest) = _
    rw [htext, List.cons_append] at hread ⊢
    rw [scalar_of_digit hc, number_of_digit hc, hread]
    rfl
  | negSucc n =>
    have hread : unsigned true (decimalOfNat (n + 1) ++ rest)
        = some (.ok (.int (.negSucc n), rest)) := unsigned_decimalOfNat true hfits hrest
    obtain ⟨c, ds, htext, hc⟩ := exists_cons_decimalOfNat (n + 1)
    show scalar (.char '-' :: (decimalOfNat (n + 1) ++ rest)) = _
    -- the one other word with a minus sign is that of the infinite
    have hinfinity : c ≠ .char 'I' := by
      rintro rfl
      cases hc
    have hnone : (constants.findSome? fun entry =>
        (Text.afterPiece? entry.1 (.char '-' :: (decimalOfNat (n + 1) ++ rest))).map (entry.2, ·))
        = none := by
      rw [htext]
      simp [constants, Text.afterPiece?, Text.ofString, hinfinity.symm]
    unfold scalar
    rw [hnone]
    show (unsigned true (decimalOfNat (n + 1) ++ rest)).getD _ = _
    rw [hread]
    rfl

end MockApi.Json.Parser
