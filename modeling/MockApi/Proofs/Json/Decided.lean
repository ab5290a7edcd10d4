/-
Which texts a reader decides on. It ends with a value, with a flaw and its
place, or in one of two ways that are neither: at an integer of more digits
than a number may have, and at brackets that are nested too deeply. A text
whose runs of digits are short and that opens few brackets cannot meet either,
whatever else stands in it.

The bounds are those of the reader itself: a run of digits that is longer is no
flaw (`parseText_of_digits`).
-/
import MockApi.Proofs.Json.Nesting

namespace MockApi

/-- Reading the text ends with a value, or with a flaw that has a place in it. -/
def Json.IsDecided [JsonReader] (t : Text) : Prop :=
  ∀ e, Json.parseText t = .error e → ∃ flaw place, e = .flawed flaw place

/-- The digits that stand in a row are no more than a number may have, and no
more brackets are opened than may be nested. -/
structure Text.IsModest [JsonReader] (t : Text) : Prop where
  digits : ∀ run, run <:+: t → run.all Text.isAsciiDigit = true → run.length ≤ digitLimit
  brackets : t.countP Text.isBracket ≤ Json.Parser.nestingLimit

namespace Json.Parser

variable {t rest : Text}

/-- A modest text is read, or refused with a flaw. -/
theorem document_decides [JsonReader] (h : t.IsModest) {e : Stop} (he : document t = .error e) :
    ∃ flaw remaining, e = .flaw flaw remaining := by
  have hspaces := skipSpaces_suffix t
  have hends := (sound (2 * t.length + 2)).value 0 (skipSpaces t)
  unfold document at he
  -- the reading is sound, and a modest text leaves it only flaws: its runs of digits and its
  -- brackets are too few for the other errors
  match hread : value (2 * t.length + 2) 0 (skipSpaces t), hends with
  | .error (.flaw flaw remaining), _ =>
    rw [hread] at he
    exact ⟨flaw, remaining, (Except.error.inj he).symm⟩
  | .error (.numeral cause), hends =>
    obtain ⟨run, hrun, hdigits, hlong⟩ := HasLongRun.of_suffix hends hspaces
    exact absurd (h.digits run hrun hdigits) (Nat.not_le.2 hlong)
  | .error .tooDeep, hends =>
    have hlength := hspaces.length_le
    have hmany := (hends (by omega)).lt_brackets
    have hopened := hspaces.sublist.countP_le (p := Text.isBracket)
    have hbrackets := h.brackets
    omega
  | .ok (v, rest), _ =>
    rw [hread] at he
    dsimp only [bind, Except.bind] at he
    split at he
    · cases he
    · exact ⟨_, _, (Except.error.inj he).symm⟩

-- ========================================================== beyond the bounds

/-- No constant starts with a digit. -/
theorem scalar_of_digit {c : CodePoint} (hc : Text.isAsciiDigit c = true) :
    scalar (c :: rest) = number (c :: rest) := by
  have hconstants : ∀ entry ∈ constants, (entry.1.head?.map Text.isAsciiDigit) = some false := by
    decide
  have hnone : (constants.findSome? fun entry =>
      (Text.afterPiece? entry.1 (c :: rest)).map (entry.2, ·)) = none := by
    rw [List.findSome?_eq_none_iff]
    intro entry hentry
    have hhead := hconstants entry hentry
    match hword : entry.1, hhead with
    | k :: word, hhead =>
      have hk : Text.isAsciiDigit k = false := Option.some.inj hhead
      have hne : k ≠ c := by
        rintro rfl
        rw [hk] at hc
        cases hc
      simp [Text.afterPiece?, hne]
  unfold scalar
  rw [hnone]

/-- A number that begins with a digit has no sign. -/
theorem number_of_digit {c : CodePoint} (hc : Text.isAsciiDigit c = true) :
    number (c :: rest)
      = (unsigned false (c :: rest)).getD (.error (.flaw .expectingValue (rest.length + 1))) := by
  unfold number
  simp only
  split
  · next heq =>
    obtain ⟨rfl, -⟩ := List.cons.inj heq
    exact absurd hc (by decide)
  · rfl

/-- A number that is nothing but digits and has too many of them. -/
theorem unsigned_of_digits {c : CodePoint} (hdigits : (c :: rest).all Text.isAsciiDigit = true)
    (hzero : c ≠ '0') (hlength : digitLimit < (c :: rest).length) (negative : Bool) :
    unsigned negative (c :: rest)
      = some (.error (.numeral (.tooManyDigits (c :: rest).length))) := by
  have hall : ∀ d ∈ c :: rest, Text.isAsciiDigit d = true := List.all_eq_true.1 hdigits
  have hwhole : wholePart? (c :: rest) = some (c :: rest, []) := by
    have hrun : digits (c :: rest) = (c :: rest, []) := by
      unfold digits
      rw [List.takeWhile_eq_self_iff.2 hall, List.dropWhile_eq_nil_iff.2 hall]
    unfold wholePart?
    split
    · next heq => exact absurd (List.cons.inj heq).1 hzero
    · rw [hrun]
  unfold unsigned
  rw [hwhole]
  change some (if digitLimit < (c :: rest).length then _ else _) = _
  rw [if_pos hlength]

end Json.Parser

/-- A reader decides on every modest text. -/
theorem Json.isDecided_of_isModest [JsonReader] {t : Text} (h : t.IsModest) : Json.IsDecided t := by
  intro e he
  unfold Json.parseText at he
  split at he
  · exact ⟨_, _, (Except.error.inj he).symm⟩
  · unfold Json.parse at he
    split at he
    · cases he
    · exact ⟨_, _, (Except.error.inj he).symm⟩
    · next cause hread =>
      obtain ⟨_, _, hflaw⟩ := Parser.document_decides h hread
      cases hflaw
    · next hread =>
      obtain ⟨_, _, hflaw⟩ := Parser.document_decides h hread
      cases hflaw

/-- A run of too many digits is neither read nor refused with a flaw. -/
theorem Json.parseText_of_digits [JsonReader] {c : CodePoint} {rest : Text}
    (hdigits : (c :: rest).all Text.isAsciiDigit = true) (hzero : c ≠ '0')
    (hlength : digitLimit < (c :: rest).length) :
    Json.parseText (c :: rest) = .error (.numeral (.tooManyDigits (c :: rest).length)) := by
  have hc : Text.isAsciiDigit c = true := (List.all_eq_true.1 hdigits) c List.mem_cons_self
  have hne : ∀ d : CodePoint, Text.isAsciiDigit d = false → c ≠ d := by
    rintro d hd rfl
    rw [hd] at hc
    cases hc
  -- none of the digits is a space, a quote or a bracket
  have hspaces : Parser.skipSpaces (c :: rest) = c :: rest := by
    have hspace : Parser.isSpace c = false := by
      simp [Parser.isSpace, hne ' ' (by decide), hne '\t' (by decide), hne '\n' (by decide),
        hne '\r' (by decide)]
    exact List.dropWhile_cons_of_neg (by simp [hspace])
  -- so the value is one word, a number, whatever the fuel
  have hvalue : ∀ fuel depth, Parser.value (fuel + 1) depth (c :: rest)
      = .error (.numeral (.tooManyDigits (c :: rest).length)) := by
    intro fuel depth
    unfold Parser.value
    simp only
    rw [if_neg (hne '"' (by decide)), if_neg (hne '\x7b' (by decide)),
      if_neg (hne '[' (by decide)), Parser.scalar_of_digit hc, Parser.number_of_digit hc,
      Parser.unsigned_of_digits hdigits hzero hlength]
    rfl
  have hparse : Json.parse (c :: rest) = .error (.numeral (.tooManyDigits (c :: rest).length)) := by
    unfold Json.parse Parser.document
    rw [hspaces, hvalue]
    rfl
  unfold Json.parseText
  split
  · next heq => exact absurd (List.cons.inj heq).1 (hne _ (by decide))
  · exact hparse

end MockApi
