/-
Matches in a text that goes on. Where a text ends, a pattern may miss what it would have
taken, and take instead what the longer text gives to an earlier match. A pattern is sharp
if neither can move a match that is there already: of the texts that stand at a place it
may take at most one, and none that it takes reaches beyond the end of another inside it.

A sharp pattern has in a text just those matches of a longer text that end inside it
(`matchesIn_followedBy`, `firstIn?_followedBy`). What is the same of the matches is said
without the places, which know the text behind them (`Match.seen`).
-/
import MockApi.Proofs.Pattern
import MockApi.Proofs.Pattern.Taking

namespace MockApi

/-- The same place in a text that goes on. -/
def Cursor.followedBy (c : Cursor) (more : Text) : Cursor := { c with rest := c.rest ++ more }

theorem Cursor.inText_append {text : Text} {offset : Nat} (h : offset ≤ text.length) (more : Text) :
    Cursor.inText (text ++ more) offset = (Cursor.inText text offset).followedBy more := by
  rw [inText, List.take_append_of_le_length h, List.drop_append_of_le_length h]
  rfl

/-- The place behind a piece of a text. -/
theorem Cursor.inText_of_past? {text piece : Text} {offset : Nat} {stop : Cursor}
    (h : (Cursor.inText text offset).past? piece = some stop) :
    stop = .inText text stop.offset := by
  have hprevious := previous_of_past? h
  have hrest : text.drop offset = piece ++ stop.rest := rest_of_past? h
  have hplace : stop.offset = offset + piece.length := offset_of_past? h
  have htake : text.take stop.offset = text.take offset ++ piece := by
    rw [hplace, List.take_add, hrest, List.take_left]
  have hdrop : text.drop stop.offset = stop.rest := by
    rw [hplace, ← List.drop_drop, hrest, List.drop_left]
  rw [Cursor.inText, htake, hdrop, List.getLast?_append]
  show stop = ⟨piece.getLast?.or (Cursor.inText text offset).previous, stop.rest, stop.offset⟩
  rw [← hprevious]

/-- Where a match starts, its text, and the texts of its parts. -/
def Match.seen (m : Match) : Nat × Text × Found := (m.start.offset, m.text, m.parts.texts)

/-- The match does not reach beyond an offset. -/
def Match.endsBy (limit : Nat) (m : Match) : Bool := m.stop.offset ≤ limit

namespace Pattern

variable {p : Pattern} {c : Cursor} {m : Match}

-- ====================================================== matches in a text

theorem stop_offset_of_matchAt? (h : p.matchAt? c = some m) :
    m.stop.offset = c.offset + m.text.length := by
  obtain ⟨-, hpast, -⟩ := takes_of_matchAt? h
  exact Cursor.offset_of_past? hpast

theorem rest_of_matchAt? (h : p.matchAt? c = some m) : c.rest = m.text ++ m.stop.rest := by
  obtain ⟨-, hpast, -⟩ := takes_of_matchAt? h
  exact Cursor.rest_of_past? hpast

/-- What stands behind the start of a match stands at the end of the text. -/
theorem rest_of_mem_matchesFrom {text : Text} {previous : Option CodePoint} {offset passed : Nat}
    (h : m ∈ p.matchesFrom text previous offset passed) : m.start.rest <:+ text := by
  induction text generalizing previous offset passed with
  | nil =>
    rw [matchesFrom] at h
    cases h
  | cons x rest ih =>
    have later : ∀ {passed}, m ∈ p.matchesFrom rest (some x) (offset + 1) passed →
        m.start.rest <:+ x :: rest := fun hlater =>
      (ih hlater).trans (List.suffix_cons x rest)
    cases passed with
    | succ passed =>
      rw [matchesFrom] at h
      exact later h
    | zero =>
      rw [matchesFrom] at h
      split at h
      · next found hfound =>
        rcases List.mem_cons.1 h with rfl | hlater
        · exact ⟨[], congrArg Cursor.rest (start_of_matchAt? hfound)⟩
        · exact later hlater
      · exact later h

/-- A match among those in a text has a piece of the text, which the pattern may take. -/
theorem takes_of_mem_matchesFrom {text : Text} {previous : Option CodePoint} {offset passed : Nat}
    (h : m ∈ p.matchesFrom text previous offset passed) :
    m.text <:+: text ∧ Takes p m.start.previous [] m.text m.parts.texts := by
  obtain ⟨start, hstart⟩ := exists_of_mem_matchesFrom h
  have hrest := rest_of_matchAt? hstart
  obtain ⟨hstarts, -, htakes⟩ := takes_of_matchAt? hstart
  subst hstarts
  refine ⟨?_, htakes⟩
  have hpiece : m.text <+: m.start.rest := ⟨m.stop.rest, hrest.symm⟩
  exact hpiece.isInfix.trans (rest_of_mem_matchesFrom h).isInfix

theorem stop_offset_of_mem_matchesFrom {text : Text} {previous : Option CodePoint}
    {offset passed : Nat} (h : m ∈ p.matchesFrom text previous offset passed) :
    m.stop.offset = m.start.offset + m.text.length := by
  obtain ⟨start, hstart⟩ := exists_of_mem_matchesFrom h
  rw [start_of_matchAt? hstart]
  exact stop_offset_of_matchAt? hstart

/-- A match in a text ends at the place that its offset tells. -/
theorem stop_of_mem_matchesIn {text : Text} (h : m ∈ p.matchesIn (.ofText text)) :
    m.stop = .inText text m.stop.offset := by
  obtain ⟨start, hstart⟩ := exists_of_mem_matchesIn h
  have hplace := start_of_mem_matchesIn h
  obtain ⟨hstarts, hpast, -⟩ := takes_of_matchAt? hstart
  rw [← hstarts, hplace] at hpast
  exact Cursor.inText_of_past? hpast

/-- The first match is the one here, or else the first one further on. -/
theorem firstIn?_cons (p : Pattern) (previous : Option CodePoint) (x : CodePoint) (rest : Text)
    (offset : Nat) :
    p.firstIn? ⟨previous, x :: rest, offset⟩
      = (p.matchAt? ⟨previous, x :: rest, offset⟩).or (p.firstIn? ⟨some x, rest, offset + 1⟩) := by
  show (p.matchesFrom (x :: rest) previous offset 0).head? = _
  rw [matchesFrom]
  split
  · next found hfound =>
    rw [hfound]
    rfl
  · next hnone =>
    rw [hnone]
    rfl

-- ================================================================ sharpness

/-- No text that the pattern takes reaches beyond the end of another inside it, and the
parts are told by the text. -/
structure IsSharp (p : Pattern) : Prop where
  edgeless : p.isEdgeless = true
  nonempty : ∀ {previous t found}, Takes p previous [] t found → t ≠ []
  ends : ∀ {previous previous' front t back found found'}, Takes p previous [] t found →
    Takes p previous' [] (front ++ t ++ back) found' → back = []
  told : ∀ {previous previous' t found found'}, Takes p previous [] t found →
    Takes p previous' [] t found' → found = found'

/-- A pattern is sharp if it takes texts with equally many marks that end in one. -/
theorem IsSharp.of_marks (marks : CodePoint → Bool) (count : Nat) (edgeless : p.isEdgeless = true)
    (marked : ∀ {previous t found}, Takes p previous [] t found →
      t.countP marks = count ∧ t.getLast?.any marks = true)
    (told : ∀ {previous previous' t found found'}, Takes p previous [] t found →
      Takes p previous' [] t found' → found = found') : p.IsSharp where
  edgeless := edgeless
  told := told
  nonempty := by
    rintro previous t found htakes rfl
    cases (marked htakes).2
  ends := by
    intro previous previous' front t back found found' hinner houter
    obtain ⟨hcount, -⟩ := marked hinner
    obtain ⟨hcount', hlast⟩ := marked houter
    -- the marks of the outer text are those of the inner one, so none is behind it
    rw [List.countP_append, List.countP_append, hcount] at hcount'
    have hnone : back.countP marks = 0 := by omega
    by_cases hback : back = []
    · exact hback
    · rw [List.getLast?_append, List.getLast?_eq_some_getLast hback, Option.some_or] at hlast
      exact absurd hlast (List.countP_eq_zero.1 hnone _ (List.getLast_mem hback))

namespace IsSharp

variable (sharp : p.IsSharp)

include sharp

/-- Where a sharp pattern may take a text, the match is the one with this text. -/
theorem exists_matchAt? {t : Text} {found : Found} (hstarts : t <+: c.rest)
    (htakes : Takes p c.previous [] t found) :
    ∃ m, p.matchAt? c = some m ∧ m.text = t ∧ m.parts.texts = found := by
  obtain ⟨m, hm⟩ := exists_matchAt?_of_takes sharp.edgeless hstarts htakes
  obtain ⟨-, -, hmatch⟩ := takes_of_matchAt? hm
  have hstarts' : m.text <+: c.rest := ⟨m.stop.rest, (rest_of_matchAt? hm).symm⟩
  have htext : m.text = t := by
    rcases List.prefix_or_prefix_of_prefix hstarts hstarts' with ⟨back, hback⟩ | ⟨back, hback⟩
    · have houter : Takes p c.previous [] ([] ++ t ++ back) m.parts.texts := hback.symm ▸ hmatch
      have hnil : back = [] := sharp.ends htakes houter
      rw [← hback, hnil, List.append_nil]
    · have houter : Takes p c.previous [] ([] ++ m.text ++ back) found := hback.symm ▸ htakes
      have hnil : back = [] := sharp.ends hmatch houter
      rw [← hback, hnil, List.append_nil]
  refine ⟨m, hm, htext, ?_⟩
  rw [htext] at hmatch
  exact sharp.told hmatch htakes

/-- A match stays where the text goes on. -/
theorem matchAt?_followedBy (h : p.matchAt? c = some m) (more : Text) :
    ∃ m', p.matchAt? (c.followedBy more) = some m' ∧ m'.text = m.text
      ∧ m'.parts.texts = m.parts.texts := by
  obtain ⟨-, -, htakes⟩ := takes_of_matchAt? h
  refine sharp.exists_matchAt? ?_ htakes
  show m.text <+: c.rest ++ more
  rw [rest_of_matchAt? h, List.append_assoc]
  exact List.prefix_append ..

/-- A match that is in a text only because it goes on reaches over the end. -/
theorem exists_beyond {more : Text} (hshort : p.matchAt? c = none)
    (hlong : p.matchAt? (c.followedBy more) = some m) :
    ∃ beyond, m.text = c.rest ++ beyond ∧ beyond ≠ [] ∧ beyond <+: more := by
  obtain ⟨-, -, htakes⟩ := takes_of_matchAt? hlong
  have hstarts : m.text <+: c.rest ++ more := ⟨m.stop.rest, (rest_of_matchAt? hlong).symm⟩
  have houtside : ¬m.text <+: c.rest := by
    intro hinside
    obtain ⟨m', hm', -⟩ := sharp.exists_matchAt? hinside htakes
    rw [hshort] at hm'
    cases hm'
  rcases List.prefix_or_prefix_of_prefix hstarts (List.prefix_append ..) with hinside | houter
  · exact absurd hinside houtside
  · obtain ⟨beyond, htext⟩ := houter
    rw [← htext] at hstarts houtside
    refine ⟨beyond, htext.symm, ?_, (List.prefix_append_right_inj c.rest).1 hstarts⟩
    rintro rfl
    rw [List.append_nil] at houtside
    exact houtside (List.prefix_refl _)

/-- If a match reaches beyond a piece of its text, no match is in what is left of the piece. -/
theorem matchesFrom_eq_nil {before text beyond : Text} {previous previous' : Option CodePoint}
    {found : Found} (htakes : Takes p previous [] (before ++ text ++ beyond) found)
    (hbeyond : beyond ≠ []) (offset passed : Nat) :
    p.matchesFrom text previous' offset passed = [] := by
  apply List.eq_nil_iff_forall_not_mem.2
  intro m hm
  obtain ⟨⟨front, back, htext⟩, hinner⟩ := takes_of_mem_matchesFrom hm
  have houter : Takes p previous [] ((before ++ front) ++ m.text ++ (back ++ beyond)) found := by
    rw [← htext] at htakes
    simpa only [List.append_assoc] using htakes
  exact hbeyond (List.append_eq_nil_iff.1 (sharp.ends hinner houter)).2

/-- Behind a match that reaches over the end of a text, the text has none itself. -/
theorem matchesFrom_of_beyond {x : CodePoint} {rest more : Text} {previous : Option CodePoint}
    {offset : Nat} (hshort : p.matchAt? ⟨previous, x :: rest, offset⟩ = none)
    (hlong : p.matchAt? ⟨previous, x :: (rest ++ more), offset⟩ = some m) :
    offset + 1 + rest.length < m.stop.offset
      ∧ p.matchesFrom rest (some x) (offset + 1) 0 = [] := by
  obtain ⟨-, -, htakes⟩ := takes_of_matchAt? hlong
  obtain ⟨beyond, htext, hne, -⟩ := sharp.exists_beyond hshort hlong
  replace htext : m.text = [x] ++ rest ++ beyond := htext
  have hstop : m.stop.offset = offset + m.text.length := stop_offset_of_matchAt? hlong
  have hpos := List.length_pos_iff.2 hne
  rw [htext] at htakes
  refine ⟨?_, sharp.matchesFrom_eq_nil htakes hne (offset + 1) 0⟩
  rw [hstop, htext, List.length_append, List.length_append, List.length_singleton]
  omega

/-- What is found within a text is found there again once more is added. -/
theorem matchesFrom_append (text more : Text) (previous : Option CodePoint) (offset passed : Nat) :
    ((p.matchesFrom (text ++ more) previous offset passed).filter
        (Match.endsBy (offset + text.length))).map Match.seen
      = (p.matchesFrom text previous offset passed).map Match.seen := by
  induction text generalizing previous offset passed with
  | nil =>
    rw [matchesFrom, List.map_nil, List.map_eq_nil_iff, List.filter_eq_nil_iff]
    intro m hm
    -- a match that begins where the text ends goes beyond it, as it is not empty
    obtain ⟨hstart, -, -⟩ := bounds_of_mem_matchesFrom hm
    obtain ⟨-, htakes⟩ := takes_of_mem_matchesFrom hm
    have hpos := List.length_pos_iff.2 (sharp.nonempty htakes)
    rw [Match.endsBy, stop_offset_of_mem_matchesFrom hm, decide_eq_true_eq, List.length_nil]
    omega
  | cons x rest ih =>
    have hlength : offset + (x :: rest).length = offset + 1 + rest.length := by
      rw [List.length_cons]
      omega
    rw [hlength, List.cons_append]
    cases passed with
    | succ passed =>
      rw [matchesFrom, matchesFrom]
      exact ih ..
    | zero =>
      rw [matchesFrom, matchesFrom]
      cases hshort : p.matchAt? ⟨previous, x :: rest, offset⟩ with
      | some m =>
        -- a match within the text is found again, with the same text and parts
        obtain ⟨m', hm', htext, hparts⟩ := sharp.matchAt?_followedBy hshort more
        replace hm' : p.matchAt? ⟨previous, x :: (rest ++ more), offset⟩ = some m' := hm'
        have hstop : m.stop.offset = offset + m.text.length := stop_offset_of_matchAt? hshort
        have hstop' : m'.stop.offset = m.stop.offset := by
          rw [stop_offset_of_matchAt? hm', stop_offset_of_matchAt? hshort, htext]
        have hinside : m'.endsBy (offset + 1 + rest.length) = true := by
          have hrest := congrArg List.length (rest_of_matchAt? hshort)
          rw [List.length_append, List.length_cons] at hrest
          rw [Match.endsBy, decide_eq_true_eq, hstop', hstop]
          omega
        have hseen : m'.seen = m.seen := by
          rw [Match.seen, Match.seen, htext, hparts, start_of_matchAt? hm',
            start_of_matchAt? hshort]
        rw [hm']
        show ((m' :: p.matchesFrom (rest ++ more) (some x) (offset + 1)
          (m'.stop.offset - offset - 1)).filter _).map _ = _
        rw [List.filter_cons_of_pos hinside, List.map_cons, List.map_cons, hseen, ih, hstop']
      | none =>
        cases hlong : p.matchAt? ⟨previous, x :: (rest ++ more), offset⟩ with
        | none => exact ih ..
        | some m =>
          -- a match that needs what was added goes beyond, and so do all behind it
          obtain ⟨hbeyond, hnone⟩ := sharp.matchesFrom_of_beyond hshort hlong
          have houtside : ¬m.endsBy (offset + 1 + rest.length) = true := by
            rw [Match.endsBy, decide_eq_true_eq]
            omega
          have hlater : ∀ later ∈ p.matchesFrom (rest ++ more) (some x) (offset + 1)
              (m.stop.offset - offset - 1),
              ¬later.endsBy (offset + 1 + rest.length) = true := by
            intro later hmem
            obtain ⟨hstart, -, hspan⟩ := bounds_of_mem_matchesFrom hmem
            rw [Match.endsBy, decide_eq_true_eq]
            omega
          show ((m :: p.matchesFrom (rest ++ more) (some x) (offset + 1)
            (m.stop.offset - offset - 1)).filter _).map _ = _
          rw [List.filter_cons_of_neg houtside, List.filter_eq_nil_iff.2 hlater, hnone]

/-- The matches in a text are those of the text that goes on that end inside. -/
theorem matchesIn_followedBy (c : Cursor) (more : Text) :
    ((p.matchesIn (c.followedBy more)).filter (Match.endsBy (c.offset + c.rest.length))).map
        Match.seen
      = (p.matchesIn c).map Match.seen :=
  sharp.matchesFrom_append ..

/-- The first match in a text is that of the text that goes on, if it ends inside. -/
theorem firstIn?_followedBy (c : Cursor) (more : Text) :
    ((p.firstIn? (c.followedBy more)).filter (Match.endsBy (c.offset + c.rest.length))).map
        Match.seen
      = (p.firstIn? c).map Match.seen := by
  have hmatches := congrArg List.head? (sharp.matchesIn_followedBy c more)
  have hordered := pairwise_matchesIn p (c.followedBy more)
  rw [List.head?_map, List.head?_map] at hmatches
  rw [firstIn?, firstIn?, ← hmatches]
  cases hlist : p.matchesIn (c.followedBy more) with
  | nil => rfl
  | cons first later =>
    rw [hlist, List.pairwise_cons] at hordered
    rw [List.head?_cons]
    by_cases hinside : first.endsBy (c.offset + c.rest.length) = true
    · rw [List.filter_cons_of_pos hinside, List.head?_cons, Option.filter_some_pos hinside]
    · have houtside : ∀ m ∈ later, ¬m.endsBy (c.offset + c.rest.length) = true := by
        intro m hm
        have hspan : m ∈ p.matchesIn (c.followedBy more) := hlist ▸ List.mem_cons_of_mem first hm
        have hstart := (bounds_of_mem_matchesIn hspan).2.2
        have hbehind := (hordered.1 m hm).2
        rw [Match.endsBy, decide_eq_true_eq] at hinside ⊢
        omega
      rw [List.filter_cons_of_neg hinside, List.filter_eq_nil_iff.2 houtside, List.head?_nil,
        Option.filter_some_neg (Bool.eq_false_iff.2 hinside)]

/-- What a sharp pattern finds first is told by the text behind a place, if the pattern does
not look back. -/
theorem firstIn?_congr {c c' : Cursor} (blind : p.looksBack = false) (hrest : c.rest = c'.rest) :
    (p.firstIn? c).map (·.parts.texts) = (p.firstIn? c').map (·.parts.texts) := by
  -- at one place both find the same, since neither looks back
  have here : ∀ {c : Cursor} {m : Match}, p.matchAt? c = some m → ∀ c' : Cursor,
      c.rest = c'.rest → ∃ m', p.matchAt? c' = some m' ∧ m'.parts.texts = m.parts.texts := by
    intro c m hm c' hrest
    obtain ⟨-, -, htakes⟩ := takes_of_matchAt? hm
    have hstarts : m.text <+: c'.rest := hrest ▸ ⟨m.stop.rest, (rest_of_matchAt? hm).symm⟩
    obtain ⟨m', hm', -, hparts⟩ := sharp.exists_matchAt? hstarts (htakes.behind_any blind _)
    exact ⟨m', hm', hparts⟩
  obtain ⟨previous, rest, offset⟩ := c
  obtain ⟨previous', _, offset'⟩ := c'
  obtain rfl : rest = _ := hrest
  induction rest generalizing previous previous' offset offset' with
  | nil => rfl
  | cons x rest ih =>
    rw [firstIn?_cons, firstIn?_cons]
    cases hm : p.matchAt? ⟨previous, x :: rest, offset⟩ with
    | some m =>
      obtain ⟨m', hm', hparts⟩ := here hm ⟨previous', x :: rest, offset'⟩ rfl
      rw [hm', Option.some_or, Option.some_or, Option.map_some, Option.map_some, hparts]
    | none =>
      cases hm' : p.matchAt? ⟨previous', x :: rest, offset'⟩ with
      | some m' =>
        obtain ⟨m, hsome, -⟩ := here hm' ⟨previous, x :: rest, offset⟩ rfl
        rw [hm] at hsome
        cases hsome
      | none =>
        rw [Option.none_or, Option.none_or]
        exact ih ..

end IsSharp

end Pattern

end MockApi
