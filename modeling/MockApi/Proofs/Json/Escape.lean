/-
Strings come back from their text. Every escape of a string is undone by the reader
(`stringBody_escapeChar`): the quote and the backslash, the letters for some control
characters, and the code units of the others, which are four hexadecimal digits each
(`unit?_digits`).

One thing is lost. A string may hold the two halves of a surrogate pair one behind the
other, and where they are written as escapes their text is that of the character of the
pair. The reader gives that character (`joinHalves`), and all else as it was
(`string_of_escaped`). Where only control characters are escaped nothing is lost.
-/
import MockApi.Json.Printer
import MockApi.Proofs.Json.Decided

namespace MockApi

-- =============================================================== code units

namespace Text

/-- A hexadecimal digit. -/
def hexDigit (n : Nat) : CodePoint := .char (Nat.digitChar n)

/-- Below sixteen, one digit is enough. -/
theorem hex_one {n : Nat} (h : n < 16) : hex 1 n = [hexDigit n] := by
  unfold hex digits
  rw [Nat.toDigits_of_lt_base h]
  rfl

/-- Of several digits the last one stands for the rest by sixteen. -/
theorem hex_succ (width n : Nat) :
    hex (width + 2) n = hex (width + 1) (n / 16) ++ [hexDigit (n % 16)] := by
  unfold hex digits padLeft copies
  by_cases hsmall : n < 16
  · have hzero : n / 16 = 0 := by omega
    rw [Nat.toDigits_of_lt_base hsmall, hzero, Nat.toDigits_of_lt_base (by decide : 0 < 16),
      Nat.mod_eq_of_lt hsmall]
    show List.replicate (width + 1) (CodePoint.char '0') ++ [_]
      = List.replicate width (CodePoint.char '0') ++ [.char '0'] ++ [_]
    rw [List.replicate_succ']
    rfl
  · rw [Nat.toDigits_of_base_le (by decide) (by omega), List.map_append, List.length_append,
      ← List.append_assoc]
    show List.replicate (width + 1 + 1 - (_ + 1)) _ ++ _ ++ _ = _
    rw [Nat.add_sub_add_right]
    rfl

/-- Four digits are enough for a code unit. -/
theorem hex_four {n : Nat} (h : n < 0x10000) :
    hex 4 n = [hexDigit (n / 16 / 16 / 16), hexDigit (n / 16 / 16 % 16), hexDigit (n / 16 % 16),
      hexDigit (n % 16)] := by
  rw [hex_succ, hex_succ, hex_succ, hex_one (by omega)]
  rfl

end Text

namespace Json.Parser

open Text (hexDigit)

theorem hexValue?_hexDigit {n : Nat} (h : n < 16) : hexValue? (hexDigit n) = some n := by
  have hall : ∀ k : Fin 16, hexValue? (hexDigit k) = some k.val := by decide
  exact hall ⟨n, h⟩

/-- The digits of a code unit stand for it. -/
theorem unit?_digits {n : Nat} (h : n < 0x10000) :
    unit? (hexDigit (n / 16 / 16 / 16)) (hexDigit (n / 16 / 16 % 16)) (hexDigit (n / 16 % 16))
      (hexDigit (n % 16)) = some n := by
  unfold unit?
  rw [hexValue?_hexDigit (by omega), hexValue?_hexDigit (by omega), hexValue?_hexDigit (by omega),
    hexValue?_hexDigit (by omega)]
  exact congrArg some (by omega)

theorem isHighSurrogate_iff {n : Nat} : isHighSurrogate n = true ↔ 0xd800 ≤ n ∧ n < 0xdc00 := by
  rw [isHighSurrogate, Bool.and_eq_true, decide_eq_true_eq, decide_eq_true_eq]

theorem isLowSurrogate_iff {n : Nat} : isLowSurrogate n = true ↔ 0xdc00 ≤ n ∧ n < 0xe000 := by
  rw [isLowSurrogate, Bool.and_eq_true, decide_eq_true_eq, decide_eq_true_eq]

variable {n high low : Nat}

/-- An escape is looked at for a low half. -/
theorem lowHalf?_unitEscape (h : n < 0x10000) (next : CodePoint) (more : Text) :
    lowHalf? (unitEscape n ++ next :: more)
      = .ok (if isLowSurrogate n then some (n, next :: more) else none) := by
  have hdigits : unitEscape n = .char '\\' :: .char 'u' :: Text.hex 4 n := rfl
  rw [hdigits, Text.hex_four h]
  unfold lowHalf?
  simp only [List.cons_append, List.nil_append, unit?_digits h]

/-- A code unit is read as its code point, unless it is a high half with a low
one behind it. -/
theorem unicodeEscape_of_unit (h : n < 0x10000) (next : CodePoint) (more : Text)
    (alone : isHighSurrogate n = true → lowHalf? (next :: more) = .ok none) :
    unicodeEscape (Text.hex 4 n ++ next :: more) = .ok (CodePoint.ofNat n, next :: more) := by
  rw [Text.hex_four h]
  unfold unicodeEscape
  simp only [List.cons_append, List.nil_append, unit?_digits h]
  split
  · next hhigh => rw [alone hhigh]
  · rfl

/-- Two halves are read as the character of the pair. -/
theorem unicodeEscape_of_pair (hhigh : isHighSurrogate high = true)
    (hlow : isLowSurrogate low = true) (next : CodePoint) (more : Text) :
    unicodeEscape (Text.hex 4 high ++ (unitEscape low ++ next :: more))
      = .ok (charOfPair high low, next :: more) := by
  have hbounds : high < 0x10000 ∧ low < 0x10000 := by
    rw [isHighSurrogate_iff] at hhigh
    rw [isLowSurrogate_iff] at hlow
    omega
  have hhalf := lowHalf?_unitEscape hbounds.2 next more
  rw [if_pos hlow] at hhalf
  obtain ⟨first, behind, hfront⟩ :
      ∃ first behind, unitEscape low ++ next :: more = first :: behind := ⟨_, _, rfl⟩
  rw [hfront] at hhalf ⊢
  rw [Text.hex_four hbounds.1]
  unfold unicodeEscape
  simp only [List.cons_append, List.nil_append, unit?_digits hbounds.1, hhigh, if_true, hhalf]

-- ================================================================== escapes

/-- A character that escapes are made of: visible, and no control character. -/
def IsVisible (c : CodePoint) : Prop := ' ' ≤ c ∧ c ≤ '~'

instance (c : CodePoint) : Decidable (IsVisible c) := inferInstanceAs (Decidable (_ ∧ _))

/-- No code point lies beyond the last plane. -/
theorem toNat_lt (c : CodePoint) : c.toNat < 0x110000 := by
  cases c with
  | char c =>
    have hvalid := c.valid
    have hvalue : c.toNat = c.val.toNat := rfl
    simp only [UInt32.isValidChar, Nat.isValidChar] at hvalid
    show c.toNat < _
    omega
  | surrogate half =>
    have hhalf := half.isHalf
    show half.toNat < _
    omega

/-- An escaped unit is written in visible characters. -/
theorem isVisible_unitEscape (h : n < 0x10000) : ∀ x ∈ unitEscape n, IsVisible x := by
  have hdigit : ∀ k < 16, IsVisible (hexDigit k) := by decide
  unfold unitEscape
  rw [Text.hex_four h, List.forall_mem_append]
  refine ⟨by decide, ?_⟩
  simp only [List.forall_mem_cons, List.not_mem_nil, false_implies, implies_true, and_true]
  exact ⟨hdigit _ (by omega), hdigit _ (by omega), hdigit _ (by omega), hdigit _ (by omega)⟩

/-- Beyond the first plane a character has a pair of halves. -/
theorem exists_pair {c : CodePoint} (h : ¬c.toNat < 0x10000) :
    ∃ high low, isHighSurrogate high = true ∧ isLowSurrogate low = true
      ∧ numericEscape c = unitEscape high ++ unitEscape low ∧ charOfPair high low = c := by
  have hlt := toNat_lt c
  refine ⟨0xd800 + (c.toNat - 0x10000) / 0x400, 0xdc00 + (c.toNat - 0x10000) % 0x400, ?_, ?_, ?_,
    ?_⟩
  · rw [isHighSurrogate_iff]
    omega
  · rw [isLowSurrogate_iff]
    omega
  · rw [numericEscape, if_neg h]
  · rw [charOfPair]
    have hnumber : 0x10000 + (0xd800 + (c.toNat - 0x10000) / 0x400 - 0xd800) * 0x400
        + (0xdc00 + (c.toNat - 0x10000) % 0x400 - 0xdc00) = c.toNat := by omega
    rw [hnumber, CodePoint.ofNat_toNat]

/-- An escaped code point is visible, one unit or two. -/
theorem isVisible_numericEscape (c : CodePoint) : ∀ x ∈ numericEscape c, IsVisible x := by
  by_cases hplane : c.toNat < 0x10000
  · rw [numericEscape, if_pos hplane]
    exact isVisible_unitEscape hplane
  · obtain ⟨high, low, hhigh, hlow, htext, -⟩ := exists_pair hplane
    rw [isHighSurrogate_iff] at hhigh
    rw [isLowSurrogate_iff] at hlow
    rw [htext, List.forall_mem_append]
    exact ⟨isVisible_unitEscape (by omega), isVisible_unitEscape (by omega)⟩

variable {asciiOnly : Bool}

/-- A character of a string is written as a backslash and a letter, by its number,
or as it is. -/
theorem escapeChar_cases (asciiOnly : Bool) (c : CodePoint) :
    (∃ e, escapeChar asciiOnly c = [.char '\\', e] ∧ plainEscape? e = some c ∧ e ≠ .char 'u'
        ∧ IsVisible e)
      ∨ (c.toNat < 0x20 ∨ asciiOnly = true) ∧ escapeChar asciiOnly c = numericEscape c
      ∨ c ≠ .char '"' ∧ c ≠ .char '\\' ∧ ¬c < .char ' ' ∧ (asciiOnly = true → IsVisible c)
        ∧ escapeChar asciiOnly c = [c] := by
  -- the seven characters with a letter of their own
  by_cases hletter : c ∈ [CodePoint.char '"', .char '\\', .char '\n', .char '\r', .char '\t',
      .char '\x0c', .char '\x08']
  · left
    simp only [List.mem_cons, List.not_mem_nil, or_false] at hletter
    rcases hletter with rfl | rfl | rfl | rfl | rfl | rfl | rfl
    all_goals exact ⟨_, rfl, rfl, by decide, by decide⟩
  · simp only [List.mem_cons, List.not_mem_nil, or_false, not_or] at hletter
    obtain ⟨hquote, hbackslash, hfeed, hreturn, htab, hform, hback⟩ := hletter
    unfold escapeChar
    rw [if_neg hquote, if_neg hbackslash, if_neg hfeed, if_neg hreturn, if_neg htab, if_neg hform,
      if_neg hback]
    -- of the others, controls go by number, and what is not ASCII does if it has to
    by_cases hcontrol : c < .char ' '
    · rw [if_pos hcontrol]
      exact .inr (.inl ⟨.inl hcontrol, rfl⟩)
    · rw [if_neg hcontrol]
      by_cases hbeyond : (asciiOnly && decide (CodePoint.char '~' < c)) = true
      · rw [if_pos hbeyond]
        rw [Bool.and_eq_true] at hbeyond
        exact .inr (.inl ⟨.inr hbeyond.1, rfl⟩)
      · rw [if_neg hbeyond]
        refine .inr (.inr ⟨hquote, hbackslash, hcontrol, fun hascii => ⟨?_, ?_⟩, rfl⟩)
        · exact Nat.not_lt.1 hcontrol
        · rw [hascii, Bool.true_and, decide_eq_true_eq] at hbeyond
          exact Nat.not_lt.1 hbeyond

/-- The body of a string goes on behind an escaped code point. -/
theorem stringBody_of_unicodeEscape {opened fuel : Nat} {body rest tail digits : Text}
    {found : CodePoint} (hescape : unicodeEscape digits = .ok (found, tail))
    (h : stringBody opened fuel tail = .ok (body, rest)) :
    stringBody opened (fuel + 1) (.char '\\' :: .char 'u' :: digits)
      = .ok (found :: body, rest) := by
  show (unicodeEscape digits >>= fun found =>
    stringBody opened fuel found.2 >>= fun behind => pure (found.1 :: behind.1, behind.2)) = _
  exact bind_eq_ok.2 ⟨_, hescape, bind_eq_ok.2 ⟨(body, rest), h, rfl⟩⟩

/-- Behind an escaped character the rest of the string is read; a high half that is
written as an escape must not have a low one behind it. -/
theorem stringBody_escapeChar {opened fuel : Nat} {body rest tail : Text} (c : CodePoint)
    (hne : tail ≠ [])
    (alone : asciiOnly = true → isHighSurrogate c.toNat = true → lowHalf? tail = .ok none)
    (h : stringBody opened fuel tail = .ok (body, rest)) :
    stringBody opened (fuel + 1) (escapeChar asciiOnly c ++ tail) = .ok (c :: body, rest) := by
  obtain ⟨next, more, rfl⟩ := List.exists_cons_of_ne_nil hne
  -- one case for each way of writing the character
  rcases escapeChar_cases asciiOnly c with ⟨e, htext, hescape, hu, -⟩ | ⟨hwhy, htext⟩
    | ⟨hquote, hbackslash, hcontrol, -, htext⟩
  · rw [htext, List.cons_append, List.cons_append, List.nil_append]
    show (if e = .char 'u' then _ else _) = _
    rw [if_neg hu, hescape]
    exact bind_eq_ok.2 ⟨(body, rest), h, rfl⟩
  · rw [htext]
    -- one unit, which must not be taken for the first half of a pair, or both
    by_cases hplane : c.toNat < 0x10000
    · have hescape := unicodeEscape_of_unit hplane next more fun hhigh => by
        rcases hwhy with hcontrol | hascii
        · rw [isHighSurrogate_iff] at hhigh
          omega
        · exact alone hascii hhigh
      rw [CodePoint.ofNat_toNat] at hescape
      rw [numericEscape, if_pos hplane]
      exact stringBody_of_unicodeEscape hescape h
    · obtain ⟨high, low, hhigh, hlow, hpair, hchar⟩ := exists_pair hplane
      have hescape := unicodeEscape_of_pair hhigh hlow next more
      rw [hchar] at hescape
      rw [hpair, List.append_assoc]
      exact stringBody_of_unicodeEscape hescape h
  · rw [htext, List.cons_append, List.nil_append, stringBody.eq_def]
    simp only
    rw [if_neg hquote, if_neg hbackslash, if_neg hcontrol]
    exact bind_eq_ok.2 ⟨(body, rest), h, rfl⟩

/-- A character is written in some characters, none of them a control character, and all
of them visible where only ASCII is written. -/
theorem escapeChar_spec (asciiOnly : Bool) (c : CodePoint) :
    escapeChar asciiOnly c ≠ [] ∧ (∀ x ∈ escapeChar asciiOnly c, ¬x < .char ' ')
      ∧ (asciiOnly = true → ∀ x ∈ escapeChar asciiOnly c, IsVisible x) := by
  have hplain : ∀ t : Text, (∀ x ∈ t, IsVisible x) → ∀ x ∈ t, ¬x < .char ' ' :=
    fun t ht x hx => Nat.not_lt.2 (ht x hx).1
  rcases escapeChar_cases asciiOnly c with ⟨e, htext, -, -, hletter⟩ | ⟨-, htext⟩
    | ⟨-, -, hcontrol, hvisible, htext⟩
  · have hall : ∀ x ∈ [CodePoint.char '\\', e], IsVisible x := by
      rw [List.forall_mem_cons, List.forall_mem_singleton]
      exact ⟨by decide, hletter⟩
    rw [htext]
    exact ⟨List.cons_ne_nil _ _, hplain _ hall, fun _ => hall⟩
  · have hall := isVisible_numericEscape c
    rw [htext]
    refine ⟨?_, hplain _ hall, fun _ => hall⟩
    unfold numericEscape
    split
    · exact List.cons_ne_nil _ _
    · exact List.cons_ne_nil _ _
  · rw [htext, List.forall_mem_singleton]
    refine ⟨List.cons_ne_nil c [], hcontrol, fun hascii => ?_⟩
    rw [List.forall_mem_singleton]
    exact hvisible hascii

/-- To escape a text does not shorten it. -/
theorem length_le_escaped (asciiOnly : Bool) (t : Text) :
    t.length ≤ (t.flatMap (escapeChar asciiOnly)).length := by
  induction t with
  | nil => exact Nat.le_refl 0
  | cons c t ih =>
    have hpos := List.length_pos_iff.2 (escapeChar_spec asciiOnly c).1
    rw [List.flatMap_cons, List.length_append, List.length_cons]
    omega

-- ================================================================== strings

/-- The text with each pair of halves as the character of the pair. -/
def joinHalves : Text → Text
  | high :: low :: rest =>
    if isHighSurrogate high.toNat && isLowSurrogate low.toNat then
      charOfPair high.toNat low.toNat :: joinHalves rest
    else high :: joinHalves (low :: rest)
  | t => t

/-- What is read of a string that was written. -/
def reread (asciiOnly : Bool) (t : Text) : Text := if asciiOnly then joinHalves t else t

/-- No high half has a low one right behind it. -/
def IsJoined (t : Text) : Prop :=
  ∀ high low, [high, low] <:+: t → isHighSurrogate high.toNat = true →
    isLowSurrogate low.toNat = false

/-- A text without two halves side by side is joined already. -/
theorem joinHalves_of_isJoined {t : Text} (h : IsJoined t) : joinHalves t = t := by
  fun_induction joinHalves t with
  | case1 high low rest hpair =>
    rw [Bool.and_eq_true] at hpair
    have hlow := h high low (List.prefix_append [high, low] rest).isInfix hpair.1
    rw [hpair.2] at hlow
    cases hlow
  | case2 high low rest _ ih =>
    rw [ih fun a b hpiece => h a b (hpiece.trans (List.suffix_cons high _).isInfix)]
  | case3 => rfl

/-- Behind an escape no low half is found unless a low half was written there. -/
theorem lowHalf?_escaped {c : CodePoint} (h : isLowSurrogate c.toNat = false) (next : CodePoint)
    (more : Text) : lowHalf? (escapeChar true c ++ next :: more) = .ok none := by
  rcases escapeChar_cases true c with ⟨e, htext, -, hu, -⟩ | ⟨-, htext⟩
    | ⟨-, hbackslash, -, -, htext⟩
  · rw [htext]
    unfold lowHalf?
    split
    · next heq => exact absurd (List.cons.inj (List.cons.inj heq).2).1 hu
    · rfl
  · rw [htext]
    -- a pair begins with its high half, which is no low one
    by_cases hplane : c.toNat < 0x10000
    · rw [numericEscape, if_pos hplane, lowHalf?_unitEscape hplane, h]
      rfl
    · obtain ⟨high, low, hhigh, -, hpair, -⟩ := exists_pair hplane
      rw [isHighSurrogate_iff] at hhigh
      have hlow : isLowSurrogate high = false := by
        rw [← Bool.not_eq_true, isLowSurrogate_iff]
        omega
      have hhalf := lowHalf?_unitEscape (n := high) (by omega) (.char '\\')
        (.char 'u' :: (Text.hex 4 low ++ next :: more))
      rw [hlow] at hhalf
      rw [hpair, List.append_assoc]
      exact hhalf
  · rw [htext]
    unfold lowHalf?
    split
    · next heq => exact absurd (List.cons.inj heq).1 hbackslash
    · rfl

/-- What is not ASCII is escaped by its number in ASCII text. -/
theorem escapeChar_of_beyond {c : CodePoint} (h : 0x7f ≤ c.toNat) :
    escapeChar true c = numericEscape c := by
  have hne : ∀ d : CodePoint, d.toNat < 0x7f → c ≠ d := by
    rintro d hd rfl
    omega
  have hcontrol : ¬c < .char ' ' := fun hlt => by
    have hsmall : c.toNat < 0x20 := hlt
    omega
  have hbeyond : CodePoint.char '~' < c := h
  unfold escapeChar
  rw [if_neg (hne _ (by decide)), if_neg (hne _ (by decide)), if_neg (hne _ (by decide)),
    if_neg (hne _ (by decide)), if_neg (hne _ (by decide)), if_neg (hne _ (by decide)),
    if_neg (hne _ (by decide)), if_neg hcontrol, Bool.true_and, if_pos (decide_eq_true hbeyond)]

/-- The escapes of two halves are read as the character of the pair. -/
theorem stringBody_of_pair {opened fuel : Nat} {body rest tail : Text} {high low : CodePoint}
    (hhigh : isHighSurrogate high.toNat = true) (hlow : isLowSurrogate low.toNat = true)
    (hne : tail ≠ []) (h : stringBody opened fuel tail = .ok (body, rest)) :
    stringBody opened (fuel + 1) (escapeChar true high ++ (escapeChar true low ++ tail))
      = .ok (charOfPair high.toNat low.toNat :: body, rest) := by
  obtain ⟨next, more, rfl⟩ := List.exists_cons_of_ne_nil hne
  have hescape := unicodeEscape_of_pair hhigh hlow next more
  rw [isHighSurrogate_iff] at hhigh
  rw [isLowSurrogate_iff] at hlow
  rw [escapeChar_of_beyond (by omega), escapeChar_of_beyond (by omega), numericEscape,
    if_pos (by omega), numericEscape, if_pos (by omega)]
  exact stringBody_of_unicodeEscape hescape h

/-- A string whose characters beyond ASCII were written as they are is read as it was. -/
theorem stringBody_of_escaped {opened : Nat} (t rest : Text) {fuel : Nat}
    (hfuel : t.length < fuel) :
    stringBody opened fuel (t.flatMap (escapeChar false) ++ .char '"' :: rest) = .ok (t, rest) := by
  induction t generalizing fuel with
  | nil =>
    obtain ⟨fuel, rfl⟩ : ∃ more, fuel = more + 1 := ⟨fuel - 1, by omega⟩
    rfl
  | cons c t ih =>
    rw [List.length_cons] at hfuel
    obtain ⟨fuel, rfl⟩ : ∃ more, fuel = more + 1 := ⟨fuel - 1, by omega⟩
    rw [List.flatMap_cons, List.append_assoc]
    exact stringBody_escapeChar c (by simp) nofun (ih (by omega))

/-- A string that was written in ASCII is read with its halves joined. The induction is on
the joining, so a high half comes with what stands behind it. -/
theorem stringBody_of_asciiEscaped {opened : Nat} (t rest : Text) {fuel : Nat}
    (hfuel : t.length < fuel) :
    stringBody opened fuel (t.flatMap (escapeChar true) ++ .char '"' :: rest)
      = .ok (joinHalves t, rest) := by
  -- as the halves are joined: a pair, one character before others, the last one
  fun_induction joinHalves t generalizing fuel with
  | case1 high low more hpair ih =>
    rw [List.length_cons, List.length_cons] at hfuel
    obtain ⟨fuel, rfl⟩ : ∃ more, fuel = more + 1 := ⟨fuel - 1, by omega⟩
    rw [Bool.and_eq_true] at hpair
    rw [List.flatMap_cons, List.flatMap_cons, List.append_assoc, List.append_assoc]
    exact stringBody_of_pair hpair.1 hpair.2 (by simp) (ih (by omega))
  | case2 high low more hpair ih =>
    rw [List.length_cons] at hfuel
    obtain ⟨fuel, rfl⟩ : ∃ more, fuel = more + 1 := ⟨fuel - 1, by omega⟩
    rw [List.flatMap_cons, List.append_assoc]
    -- no pair: a high half is followed by something that is not escaped as a low one
    refine stringBody_escapeChar high (by simp) (fun _ hhigh => ?_) (ih (by omega))
    have hlow : isLowSurrogate low.toNat = false := by simpa [hhigh] using hpair
    obtain ⟨next, behind, hbehind⟩ :=
      List.exists_cons_of_ne_nil (l := more.flatMap (escapeChar true) ++ .char '"' :: rest)
        (by simp)
    rw [List.flatMap_cons, List.append_assoc, hbehind]
    exact lowHalf?_escaped hlow next behind
  | case3 t hshort =>
    obtain ⟨fuel, rfl⟩ : ∃ more, fuel = more + 1 := ⟨fuel - 1, by omega⟩
    rcases t with - | ⟨c, - | ⟨d, more⟩⟩
    · rfl
    · obtain ⟨fuel, rfl⟩ : ∃ more, fuel = more + 1 := ⟨fuel - 1, by
        rw [List.length_singleton] at hfuel
        omega⟩
      rw [List.flatMap_singleton]
      exact stringBody_escapeChar c (List.cons_ne_nil _ _) (fun _ _ => rfl) rfl
    · exact absurd rfl (hshort c d more)

/-- A string that was written is read, with its halves joined if it was written in ASCII. -/
theorem string_of_escaped (asciiOnly : Bool) (t rest : Text) :
    string (t.flatMap (escapeChar asciiOnly) ++ .char '"' :: rest)
      = .ok (reread asciiOnly t, rest) := by
  have hlength := length_le_escaped asciiOnly t
  have hfuel : t.length < (t.flatMap (escapeChar asciiOnly) ++ .char '"' :: rest).length + 1 := by
    rw [List.length_append, List.length_cons]
    omega
  cases asciiOnly with
  | false => exact stringBody_of_escaped t rest hfuel
  | true => exact stringBody_of_asciiEscaped t rest hfuel

end Json.Parser

end MockApi
