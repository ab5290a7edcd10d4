/-
Patterns that end with a quoted text. Such a pattern takes texts with two quotes, one of
them at the end; the URL or the verb that it finds stands between them, and holds none.
So where it ends is seen from the text alone, and the pattern is sharp
(`isSharp_of_endsQuoted`). Requests of the browser are found like that
(`Rule.isSharp_fetch`).
-/
import MockApi.Proofs.Pattern.Sharp
import MockApi.Proofs.Text.Basic
import MockApi.Scan.RuleTable

namespace MockApi

open Pattern

-- ============================================================ quoted texts

namespace Lexeme

variable {c quote quote' : CodePoint} {t inner inner' : Text} {previous : Option CodePoint}
  {found later : Found}

/-- A quote of any kind. -/
def isQuote (c : CodePoint) : Bool := ("\x27\"\x60" : Text).contains c

/-- What passes a test that no quote passes is no quote. -/
theorem isQuote_eq_false {test : CodePoint → Bool}
    (hquotes : ∀ q ∈ ("\x27\"\x60" : Text), test q = false)
    (h : test c = true) : isQuote c = false := by
  rw [← Bool.not_eq_true]
  intro hquote
  have hnot := hquotes c (List.contains_iff_mem.1 hquote)
  rw [h] at hnot
  cases hnot

theorem isQuote_of_isBlank (h : Text.isBlank c = true) : isQuote c = false :=
  isQuote_eq_false (by decide) h

/-- The text has two quotes, one at its end, with the inner text between them. -/
def EndsQuoted (t : Text) (quote : CodePoint) (inner : Text) : Prop :=
  ∃ front closing, (∀ c ∈ front, isQuote c = false) ∧ isQuote quote = true
    ∧ (∀ c ∈ inner, isQuote c = false) ∧ isQuote closing = true
    ∧ t = front ++ quote :: (inner ++ [closing])

/-- What ends in a quoted text has two quotes, the last one at its end. -/
theorem EndsQuoted.marks (h : EndsQuoted t quote inner) :
    t.countP isQuote = 2 ∧ t.getLast?.any isQuote = true := by
  obtain ⟨front, closing, hfront, hquote, hinner, hclosing, rfl⟩ := h
  have none : ∀ {part : Text}, (∀ c ∈ part, isQuote c = false) → part.countP isQuote = 0 :=
    fun hpart => List.countP_eq_zero.2 fun c hc => Bool.eq_false_iff.1 (hpart c hc)
  constructor
  · rw [List.countP_append, List.countP_cons, List.countP_append, List.countP_singleton,
      none hfront, none hinner, if_pos hclosing, if_pos hquote]
  · have hlast : (front ++ quote :: (inner ++ [closing])).getLast? = some closing := by
      rw [← List.cons_append, ← List.append_assoc, List.getLast?_concat]
    rw [hlast]
    exact hclosing

/-- The quotes tell what stands between them. -/
theorem EndsQuoted.told (h : EndsQuoted t quote inner) (h' : EndsQuoted t quote' inner') :
    quote = quote' ∧ inner = inner' := by
  obtain ⟨front, closing, hfront, hquote, hinner, hclosing, rfl⟩ := h
  obtain ⟨front', closing', hfront', hquote', hinner', hclosing', heq⟩ := h'
  have plain : ∀ {part : Text}, (∀ c ∈ part, isQuote c = false) →
      ∀ c ∈ part, (!isQuote c) = true := fun hpart c hc => by rw [hpart c hc]; rfl
  have behind : ∀ {front rest : Text} {q : CodePoint}, (∀ c ∈ front, isQuote c = false) →
      isQuote q = true → (front ++ q :: rest).dropWhile (!isQuote ·) = q :: rest := by
    intro front rest q hfront hq
    rw [Text.dropWhile_append_cons (by rw [hq]; rfl), List.dropWhile_eq_nil_iff.2 (plain hfront),
      List.nil_append]
  have between : ∀ {inner : Text} {q : CodePoint}, (∀ c ∈ inner, isQuote c = false) →
      isQuote q = true → (inner ++ [q]).takeWhile (!isQuote ·) = inner := by
    intro inner q hinner hq
    rw [Text.takeWhile_append_cons (by rw [hq]; rfl), List.takeWhile_eq_self_iff.2 (plain hinner)]
  have hbehind := congrArg (List.dropWhile (!isQuote ·)) heq
  rw [behind hfront hquote, behind hfront' hquote', List.cons.injEq] at hbehind
  obtain ⟨rfl, hrest⟩ := hbehind
  have hbetween := congrArg (List.takeWhile (!isQuote ·)) hrest
  rw [between hinner hclosing, between hinner' hclosing'] at hbetween
  exact ⟨rfl, hbetween⟩

/-- A pattern that takes texts with quoted ends, and finds parts that these tell, is sharp. -/
theorem isSharp_of_endsQuoted {p : Pattern} (parts : CodePoint → Text → Found)
    (edgeless : p.isEdgeless = true)
    (h : ∀ {previous t found}, Takes p previous [] t found →
      ∃ quote inner, EndsQuoted t quote inner ∧ found = parts quote inner) : p.IsSharp := by
  refine .of_marks isQuote 2 edgeless (fun htakes => ?_) fun htakes htakes' => ?_
  · obtain ⟨quote, inner, hquoted, -⟩ := h htakes
    exact hquoted.marks
  · obtain ⟨quote, inner, hquoted, rfl⟩ := h htakes
    obtain ⟨quote', inner', hquoted', rfl⟩ := h htakes'
    obtain ⟨rfl, rfl⟩ := hquoted.told hquoted'
    rfl

-- ================================================================ lexemes

/-- An opening has no quotes, and finds no parts. -/
theorem takes_opening (h : Takes opening previous found t later) :
    (∀ c ∈ t, isQuote c = false) ∧ later = found := by
  simp only [opening, takes_seq_iff, takes_blanks_iff, takes_piece_iff] at h
  obtain ⟨_, gap', _, rfl, ⟨gap, _, _, rfl, ⟨hgap, rfl⟩, rfl, rfl⟩, hgap', rfl⟩ := h
  refine ⟨?_, rfl⟩
  rw [List.forall_mem_append, List.forall_mem_append]
  exact ⟨⟨fun c hc => isQuote_of_isBlank (hgap c hc), by decide⟩,
    fun c hc => isQuote_of_isBlank (hgap' c hc)⟩

/-- A literal in any quotes has its URL between them. -/
theorem takes_scriptLiteral (h : Takes scriptLiteral previous found t later) :
    ∃ quote url, EndsQuoted t quote url ∧ later = (.url, url) :: (.quote, [quote]) :: found := by
  simp only [scriptLiteral, literalIn, charIn, takes_seq_iff, takes_part_iff, takes_char_iff,
    takes_run_iff, takes_again_iff] at h
  obtain ⟨_, closing, _, rfl, ⟨_, url, _, rfl, ⟨_, rfl, quote, rfl, hquote, rfl⟩, _, rfl, hurl, -, -,
    rfl⟩, hclosing, rfl⟩ := h
  obtain rfl : [quote] = closing := Option.some.inj hclosing
  refine ⟨quote, url, ⟨[], quote, by simp, hquote, ?_, hquote, rfl⟩, rfl⟩
  exact fun c hc => isQuote_eq_false (by decide) (hurl c hc)

end Lexeme

open Lexeme

/-- A request is found in the text alone, whatever comes behind. -/
theorem Rule.isSharp_fetch : Rule.fetch.pattern.IsSharp := by
  refine isSharp_of_endsQuoted (fun quote url => [(.url, url), (.quote, [quote])]) rfl ?_
  intro previous t found htakes
  replace htakes : Takes (notAfter isNameChar ++ "fetch" ++ opening ++ scriptLiteral) previous [] t
    found := htakes
  simp only [takes_seq_iff, takes_notAfter_iff, takes_piece_iff] at htakes
  obtain ⟨_, literal, _, rfl, ⟨_, gap, _, rfl, ⟨_, word, _, rfl, ⟨-, rfl, rfl⟩, rfl, rfl⟩, hgap⟩,
    hliteral⟩ := htakes
  obtain ⟨hplain, rfl⟩ := takes_opening hgap
  obtain ⟨quote, url, ⟨front, closing, hfront, hquoted⟩, rfl⟩ := takes_scriptLiteral hliteral
  obtain ⟨hquote, hurl, hclosing, rfl⟩ := hquoted
  refine ⟨quote, url, ⟨"fetch" ++ gap ++ front, closing, ?_, hquote, hurl, hclosing, ?_⟩, rfl⟩
  · rw [List.forall_mem_append, List.forall_mem_append]
    exact ⟨⟨by decide, hplain⟩, hfront⟩
  · simp only [List.nil_append, List.append_assoc]

end MockApi
