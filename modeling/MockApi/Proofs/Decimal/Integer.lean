/-
Decimal text is made of digits and tells integers apart; a number is bounded by
how many digits it is read from. Digits that are not too many are read.
-/
import Mathlib.Data.List.Basic
import MockApi.Decimal.Integer
import MockApi.Proofs.Text.Digit

namespace MockApi

/-- Two numbers with the same digits are one. -/
theorem decimalOfNat_injective : Function.Injective decimalOfNat := by
  intro m n h
  have hdigits : Nat.toDigits 10 m = Nat.toDigits 10 n :=
    (List.map_inj_right fun _ _ hc => CodePoint.char.inj hc).1 h
  rw [← Nat.ofDigitChars_ten_toDigits (n := m), hdigits, Nat.ofDigitChars_ten_toDigits]

/-- A number is written in the ten digits of ASCII. -/
theorem isAsciiDigit_of_mem_decimalOfNat {n : Nat} {c : CodePoint} (h : c ∈ decimalOfNat n) :
    Text.isAsciiDigit c = true := by
  obtain ⟨d, hd, rfl⟩ := List.mem_map.1 h
  have hdigit := Nat.isDigit_of_mem_toDigits (by decide) (by decide) hd
  rw [Char.isDigit, Bool.and_eq_true, decide_eq_true_eq, decide_eq_true_eq] at hdigit
  rw [Text.isAsciiDigit, Bool.and_eq_true, decide_eq_true_eq, decide_eq_true_eq]
  exact hdigit

theorem minus_not_mem_decimalOfNat (n : Nat) : ('-' : CodePoint) ∉ decimalOfNat n := by
  intro hmem
  exact absurd (isAsciiDigit_of_mem_decimalOfNat hmem) (by decide)

/-- Integers of the same decimal text are equal. -/
theorem decimal_injective : Function.Injective decimal := by
  intro m n h
  cases m with
  | ofNat m =>
    cases n with
    | ofNat n => rw [decimalOfNat_injective h]
    | negSucc n =>
      have hmem : ('-' : CodePoint) ∈ decimalOfNat m := by
        rw [show decimalOfNat m = ('-' : CodePoint) :: decimalOfNat (n + 1) from h]
        exact List.mem_cons_self
      exact absurd hmem (minus_not_mem_decimalOfNat m)
  | negSucc m =>
    cases n with
    | ofNat n =>
      have hmem : ('-' : CodePoint) ∈ decimalOfNat n := by
        rw [← show ('-' : CodePoint) :: decimalOfNat (m + 1) = decimalOfNat n from h]
        exact List.mem_cons_self
      exact absurd hmem (minus_not_mem_decimalOfNat n)
    | negSucc n =>
      have htail : decimalOfNat (m + 1) = decimalOfNat (n + 1) := (List.cons.inj h).2
      have hsucc := decimalOfNat_injective htail
      rw [Nat.succ.inj hsucc]

/-- Only the text of zero starts with a zero. -/
theorem head?_decimalOfNat_ne {n : Nat} (h : 0 < n) :
    (decimalOfNat n).head? ≠ some (.char '0') := by
  have hchars : ∀ n, 0 < n → (Nat.toDigits 10 n).head? ≠ some '0' := by
    intro n
    induction n using Nat.strongRecOn with
    | ind n ih =>
      intro hpos
      by_cases hlt : n < 10
      · rw [Nat.toDigits_of_lt_base hlt]
        have hall : ∀ d : Fin 10, 0 < d.val → [Nat.digitChar d].head? ≠ some '0' := by decide
        exact hall ⟨n, hlt⟩ hpos
      · rw [Nat.toDigits_of_base_le (by decide) (by omega),
          List.head?_append_of_ne_nil _ Nat.toDigits_ne_nil]
        exact ih (n / 10) (by omega) (by omega)
  intro hhead
  unfold decimalOfNat Text.digits at hhead
  rw [List.head?_map, Option.map_eq_some_iff] at hhead
  obtain ⟨c, hc, heq⟩ := hhead
  obtain rfl := CodePoint.char.inj heq
  exact hchars n h hc

/-- A number fits in so many digits if it is below that power of ten. -/
theorem length_decimalOfNat_le {n count : Nat} (hcount : 0 < count) :
    (decimalOfNat n).length ≤ count ↔ n < 10 ^ count := by
  unfold decimalOfNat Text.digits
  rw [List.length_map]
  exact Nat.length_toDigits_le_iff (by decide) hcount

/-- A number has a first digit. -/
theorem exists_cons_decimalOfNat (n : Nat) :
    ∃ c ds, decimalOfNat n = c :: ds ∧ Text.isAsciiDigit c = true := by
  cases htext : decimalOfNat n with
  | nil => exact absurd (List.map_eq_nil_iff.1 htext) Nat.toDigits_ne_nil
  | cons c ds =>
    have hmem : c ∈ decimalOfNat n := htext ▸ List.mem_cons_self
    exact ⟨c, ds, rfl, isAsciiDigit_of_mem_decimalOfNat hmem⟩

/-- The value of so many digits behind a number. -/
theorem foldl_digits_lt {digits : List Nat} (h : ∀ d ∈ digits, d < 10) (n : Nat) :
    digits.foldl (fun n d => 10 * n + d) n < (n + 1) * 10 ^ digits.length := by
  induction digits generalizing n with
  | nil => simp
  | cons d rest ih =>
    have hd := h d List.mem_cons_self
    have hrest := ih (fun e he => h e (List.mem_cons_of_mem _ he)) (10 * n + d)
    have hle : (10 * n + d + 1) * 10 ^ rest.length ≤ (n + 1) * 10 ^ (rest.length + 1) := by
      calc (10 * n + d + 1) * 10 ^ rest.length
          ≤ ((n + 1) * 10) * 10 ^ rest.length := Nat.mul_le_mul_right _ (by omega)
        _ = (n + 1) * 10 ^ (rest.length + 1) := by
          rw [Nat.pow_succ, Nat.mul_assoc, Nat.mul_comm 10]
    exact Nat.lt_of_lt_of_le hrest hle

/-- A number of so many digits is less than the power of ten with as many zeros. -/
theorem natOfDigits_lt {digits : List Nat} (h : ∀ d ∈ digits, d < 10) :
    natOfDigits digits < 10 ^ digits.length := by
  have hfold := foldl_digits_lt h 0
  rw [Nat.zero_add, Nat.one_mul] at hfold
  exact hfold

-- ================================================================= reading

/-- What may stand behind the digits of a numeric segment. -/
def IsNumeralEnd (tail : Text) : Prop := tail = [] ∨ tail = "\n"

/-- Digits make up a run of their values, which a line break ends. -/
theorem digitRun_append {digits tail : Text} (h : ∀ c ∈ digits, Text.isDigit c = true)
    (htail : IsNumeralEnd tail) : digitRun (digits ++ tail) = (digits.map Text.digitValue?, tail) := by
  induction digits with
  | nil => rcases htail with rfl | rfl <;> rfl
  | cons c rest ih =>
    obtain ⟨d, hd⟩ := Option.isSome_iff_exists.1 (h c List.mem_cons_self)
    have hrest := ih fun e he => h e (List.mem_cons_of_mem _ he)
    rw [List.cons_append, digitRun, hd]
    simp only [hrest, List.map_cons, hd]

/-- A run without underscores has none in the wrong place. -/
theorem underscoresBetweenDigits_of_isSome {run : List (Option Nat)}
    (h : ∀ value ∈ run, value.isSome = true) : underscoresBetweenDigits run = true := by
  fun_induction underscoresBetweenDigits run with
  | case1 => rfl
  | case2 d => exact h d List.mem_cons_self
  | case3 rest => exact absurd (h none List.mem_cons_self) nofun
  | case4 d rest => exact absurd (h none (List.mem_cons_of_mem _ List.mem_cons_self)) nofun
  | case5 d d' rest ih => exact ih fun value hmem => h value (List.mem_cons_of_mem _ hmem)

/-- Decimal digits of any script and nothing else. -/
def IsNumeral (t : Text) : Prop := t ≠ [] ∧ ∀ c ∈ t, Text.isDigit c = true

/-- The number that a text of digits stands for. -/
def numeralValue (t : Text) : Nat := natOfDigits (t.filterMap Text.digitValue?)

/-- Digits are read as the number they stand for, unless they are too many. -/
theorem readInteger_numeral {digits tail : Text} (h : IsNumeral digits)
    (htail : IsNumeralEnd tail) :
    readInteger (digits ++ tail)
      = if digitLimit < digits.length then .error (.tooManyDigits digits.length)
        else .ok (numeralValue digits) := by
  obtain ⟨hne, hall⟩ := h
  obtain ⟨first, rest, rfl⟩ := List.exists_cons_of_ne_nil hne
  have hfirst := hall first List.mem_cons_self
  -- the numeral begins at once: no blank, no sign
  have hblank : blankAroundNumber first = false := by
    rw [blankAroundNumber, Text.isBlank_of_isDigit hfirst, Bool.false_and]
  have hbody : (first :: rest ++ tail).dropWhile blankAroundNumber = first :: rest ++ tail := by
    rw [List.cons_append, List.dropWhile_cons_of_neg (by rw [hblank]; decide)]
  have hrun := digitRun_append hall htail
  -- nor is there an underscore in it, and every digit counts
  have hbetween : underscoresBetweenDigits ((first :: rest).map Text.digitValue?) = true := by
    refine underscoresBetweenDigits_of_isSome fun value hvalue => ?_
    obtain ⟨c, hc, rfl⟩ := List.mem_map.1 hvalue
    exact hall c hc
  have hvalues : ((first :: rest).map Text.digitValue?).filterMap id
      = (first :: rest).filterMap Text.digitValue? := List.filterMap_map ..
  have hcount : ((first :: rest).filterMap Text.digitValue?).length = (first :: rest).length :=
    List.filterMap_length_eq_length.2 hall
  have hend : tail.all blankAroundNumber = true := by rcases htail with rfl | rfl <;> rfl
  have hminus : first ≠ .char '-' := by
    rintro rfl
    cases hfirst
  have hplus : first ≠ .char '+' := by
    rintro rfl
    cases hfirst
  unfold readInteger
  simp only [hbody]
  rw [List.cons_append] at hrun ⊢
  split
  · next hsign => exact absurd (List.cons.inj hsign).1 hminus
  · next hsign => exact absurd (List.cons.inj hsign).1 hplus
  · simp only [hrun]
    rw [hbetween, hend, hvalues, hcount]
    rfl

/-- A numeral is read as its value, within the limit of digits and only there. -/
theorem readInteger_numeral_eq_ok {digits : Text} (h : IsNumeral digits) {n : Int} :
    readInteger digits = .ok n ↔ digits.length ≤ digitLimit ∧ n = numeralValue digits := by
  have hread := readInteger_numeral h (Or.inl rfl)
  rw [List.append_nil] at hread
  rw [hread]
  split
  · next hmany => exact iff_of_false nofun fun hfew => absurd hmany (Nat.not_lt.2 hfew.1)
  · next hfew =>
    rw [Except.ok.injEq, eq_comm]
    exact (and_iff_right (Nat.not_lt.1 hfew)).symm

/-- Digits are read as an integer if they are not too many. -/
theorem readInteger_isOk {digits tail : Text} (hne : digits ≠ [])
    (h : ∀ c ∈ digits, Text.isDigit c = true) (hfew : digits.length ≤ digitLimit)
    (htail : IsNumeralEnd tail) : (readInteger (digits ++ tail)).isOk = true := by
  rw [readInteger_numeral ⟨hne, h⟩ htail, if_neg (Nat.not_lt.2 hfew)]
  rfl

end MockApi
