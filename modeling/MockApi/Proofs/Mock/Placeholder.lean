/-
Where placeholders stand. A placeholder is a name between double braces with blanks
around it (`IsPlaceholder`). Behind the two braces that open it there is no opening
brace, so no placeholder begins inside another one: wherever one stands in a text,
reading from the front comes upon it (`pieces_append`). The pieces of a text are
therefore told by the text alone, as the placeholders that stand in it
(`mem_pieces_iff`) and the characters between them.

Texts are taken apart as the reader does it, by a placeholder in front or else by one
character (`pieces_induction`).
-/
import MockApi.Proofs.Mock.Template
import MockApi.Proofs.Text.Basic
import MockApi.Proofs.Text.Blank

namespace MockApi.Template

/-- What opens a placeholder. -/
def openBraces : Text := "\x7b\x7b"

/-- What closes a placeholder. -/
def closeBraces : Text := "\x7d\x7d"

/-- A placeholder as it is written, and its name. -/
inductive IsPlaceholder : Text → Text → Prop
  | intro {front name back : Text} (hfront : ∀ c ∈ front, Text.isBlank c = true)
      (hback : ∀ c ∈ back, Text.isBlank c = true) (bare : ∀ c ∈ name, isBrace c = false)
      (trimmed : Text.IsTrimmed name) (short : name.length ≤ nameLimit) :
      IsPlaceholder (openBraces ++ (front ++ name ++ back) ++ closeBraces) name

variable {written name behind t before after : Text} {p : Placeholder}

-- ============================================================ at one place

/-- No blank is a brace. -/
theorem isBrace_of_isBlank {c : CodePoint} (h : Text.isBlank c = true) : isBrace c = false := by
  unfold isBrace
  rw [Bool.or_eq_false_iff, beq_eq_false_iff_ne, beq_eq_false_iff_ne]
  constructor
  · rintro rfl
    exact absurd h (by decide)
  · rintro rfl
    exact absurd h (by decide)

/-- A placeholder opens with two braces, and there is no opening brace behind them. -/
theorem IsPlaceholder.exists_body (h : IsPlaceholder written name) :
    ∃ body, written = .char '{' :: .char '{' :: body ∧ (.char '{' : CodePoint) ∉ body
      ∧ body ≠ [] := by
  obtain ⟨hfront, hback, bare, -, -⟩ := h
  rename_i front back
  refine ⟨front ++ name ++ back ++ closeBraces, rfl, ?_, List.append_ne_nil_of_right_ne_nil _ ?_⟩
  · intro hmem
    have hbrace : isBrace (.char '{') = true := by decide
    simp only [List.mem_append] at hmem
    rcases hmem with ((hmem | hmem) | hmem) | hmem
    · rw [isBrace_of_isBlank (hfront _ hmem)] at hbrace
      cases hbrace
    · rw [bare _ hmem] at hbrace
      cases hbrace
    · rw [isBrace_of_isBlank (hback _ hmem)] at hbrace
      cases hbrace
    · exact absurd hmem (by decide)
  · decide

/-- What stands between braces is read as a name if it is not too long. -/
theorem hole?_of_braces {inside : Text} (h : ∀ c ∈ inside, isBrace c = false) (behind : Text) :
    hole? (openBraces ++ inside ++ closeBraces ++ behind)
      = if (Text.trim inside).length ≤ nameLimit then some (Text.trim inside, behind)
        else none := by
  have hinside : (inside ++ (closeBraces ++ behind)).takeWhile (!isBrace ·) = inside := by
    rw [List.takeWhile_append_of_pos (by simpa using h)]
    exact List.append_nil inside
  have hdrop : (inside ++ (closeBraces ++ behind)).drop inside.length
      = .char '}' :: .char '}' :: behind := by
    rw [List.drop_left]
    rfl
  have hopen : openBraces ++ inside ++ closeBraces ++ behind
      = .char '{' :: .char '{' :: (inside ++ (closeBraces ++ behind)) := by
    rw [List.append_assoc, List.append_assoc]
    rfl
  rw [hopen, hole?]
  simp only [hinside, hdrop]

/-- A placeholder is read at a place if and only if one stands there. -/
theorem hole?_eq_some_iff :
    hole? t = some (name, behind)
      ↔ ∃ written, IsPlaceholder written name ∧ t = written ++ behind := by
  constructor
  · intro h
    unfold hole? at h
    split at h
    · next rest =>
      simp only at h
      split at h
      · next behind' hdrop =>
        -- what stands between the braces has none itself
        have hbare : ∀ c ∈ rest.takeWhile (!isBrace ·), isBrace c = false := fun c hc => by
          simpa using List.mem_takeWhile_imp hc
        generalize hinside : rest.takeWhile (!isBrace ·) = inside at h hdrop hbare
        have hrest : rest = inside ++ (closeBraces ++ behind') := by
          have hprefix : inside <+: rest := hinside ▸ List.takeWhile_prefix _
          rw [← List.prefix_iff_eq_append.1 hprefix, hdrop]
          rfl
        split at h
        · next hshort =>
          obtain ⟨rfl, rfl⟩ := Prod.mk.inj (Option.some.inj h)
          -- blanks around the name are no part of it
          obtain ⟨front, back, hfront, hback, htrim⟩ := Text.exists_trim inside
          refine ⟨_, .intro hfront hback (fun c hc => hbare c ?_) (Text.isTrimmed_trim inside)
            hshort, ?_⟩
          · rw [htrim]
            exact List.mem_append_left _ (List.mem_append_right _ hc)
          · rw [← htrim, hrest, List.append_assoc, List.append_assoc]
            rfl
        · cases h
      · cases h
    · cases h
  · rintro ⟨written, hwritten, rfl⟩
    obtain ⟨hfront, hback, bare, trimmed, short⟩ := hwritten
    rename_i front back
    have hinside : ∀ c ∈ front ++ name ++ back, isBrace c = false := by
      intro c hc
      rcases List.mem_append.1 hc with hmem | hmem
      · rcases List.mem_append.1 hmem with hmem | hmem
        · exact isBrace_of_isBlank (hfront c hmem)
        · exact bare c hmem
      · exact isBrace_of_isBlank (hback c hmem)
    rw [hole?_of_braces hinside, Text.trim_append hfront hback trimmed, if_pos short]

/-- Where no placeholder is read, none is read once one stands behind: it would have
to begin before that one and reach into it. -/
theorem hole?_append_eq_none (h : IsPlaceholder written name) (hne : t ≠ [])
    (hnone : hole? t = none) (after : Text) : hole? (t ++ (written ++ after)) = none := by
  by_contra hsome
  obtain ⟨⟨other, rest⟩, hfound⟩ := Option.ne_none_iff_exists'.1 hsome
  obtain ⟨first, hfirst, heq⟩ := hole?_eq_some_iff.1 hfound
  rcases List.append_eq_append_iff.1 heq with ⟨x, hx, hrest⟩ | ⟨x, hx, -⟩
  · obtain ⟨body, rfl, -, -⟩ := h.exists_body
    obtain ⟨inner, rfl, hinner, hinner_ne⟩ := hfirst.exists_body
    obtain ⟨c, t', rfl⟩ := List.exists_cons_of_ne_nil hne
    have hinside := (List.cons.inj hx).2
    cases x with
    | nil =>
      rw [List.append_nil] at hx
      rw [← hx] at hnone
      have hhere := hole?_eq_some_iff.2 ⟨_, hfirst, (List.append_nil _).symm⟩
      rw [hnone] at hhere
      cases hhere
    | cons y x =>
      obtain ⟨rfl, hbehind⟩ := List.cons.inj hrest
      cases t' with
      | nil =>
        -- the second brace of the one behind would be the first character inside
        obtain ⟨-, rfl⟩ := List.cons.inj hinside
        obtain ⟨d, more, rfl⟩ := List.exists_cons_of_ne_nil hinner_ne
        exact hinner ((List.cons.inj hbehind).1 ▸ List.mem_cons_self)
      | cons d t' =>
        -- its first brace would stand inside
        rw [(List.cons.inj hinside).2] at hinner
        exact hinner (List.mem_append_right _ List.mem_cons_self)
  · have hhere := hole?_eq_some_iff.2 ⟨first, hfirst, hx⟩
    rw [hnone] at hhere
    cases hhere

-- ============================================================== the pieces

/-- What is read at a place is not empty. -/
theorem length_lt_of_hole? (h : hole? t = some (name, behind)) : behind.length < t.length := by
  obtain ⟨written, hwritten, rfl⟩ := hole?_eq_some_iff.1 h
  obtain ⟨body, rfl, -, -⟩ := hwritten.exists_body
  simp only [List.length_append, List.length_cons]
  omega

/-- Any number of characters that suffices gives the same pieces. -/
theorem piecesFrom_congr {fuel fuel' : Nat} (h : t.length ≤ fuel) (h' : t.length ≤ fuel') :
    piecesFrom fuel t = piecesFrom fuel' t := by
  induction fuel generalizing t fuel' with
  | zero =>
    obtain rfl := List.eq_nil_of_length_eq_zero (Nat.le_zero.1 h)
    cases fuel' <;> rfl
  | succ fuel ih =>
    cases t with
    | nil => cases fuel' <;> rfl
    | cons c rest =>
      rw [List.length_cons] at h h'
      obtain ⟨fuel', rfl⟩ : ∃ k, fuel' = k + 1 := ⟨fuel' - 1, by omega⟩
      rw [piecesFrom, piecesFrom]
      cases hhole : hole? (c :: rest) with
      | none =>
        have hrest : piecesFrom fuel rest = piecesFrom fuel' rest := ih (by omega) (by omega)
        simp only [hrest]
      | some found =>
        obtain ⟨name, behind⟩ := found
        -- a hole takes at least one character, so less fuel is enough behind it
        have hlength := length_lt_of_hole? hhole
        rw [List.length_cons] at hlength
        have hbehind : piecesFrom fuel behind = piecesFrom fuel' behind :=
          ih (by omega) (by omega)
        simp only [hbehind]

/-- A character where no placeholder is read is a piece of its own. -/
theorem pieces_cons {c : CodePoint} {rest : Text} (h : hole? (c :: rest) = none) :
    pieces (c :: rest) = .plain c :: pieces rest := by
  rw [pieces, List.length_cons, piecesFrom, h]
  rfl

/-- A placeholder in front is the first piece. -/
theorem pieces_placeholder (h : IsPlaceholder written name) (behind : Text) :
    pieces (written ++ behind) = .hole written (placeholder name) :: pieces behind := by
  have hhole : hole? (written ++ behind) = some (name, behind) :=
    hole?_eq_some_iff.2 ⟨written, h, rfl⟩
  have hlength := length_lt_of_hole? hhole
  obtain ⟨body, hbody, -, -⟩ := h.exists_body
  obtain ⟨c, rest, hcons⟩ : ∃ c rest, written ++ behind = c :: rest := ⟨_, _, by rw [hbody]; rfl⟩
  have htake : (written ++ behind).take ((written ++ behind).length - behind.length) = written := by
    rw [List.length_append, Nat.add_sub_cancel, List.take_left]
  rw [hcons] at hhole hlength htake ⊢
  rw [List.length_cons] at hlength htake
  rw [pieces, List.length_cons, piecesFrom, hhole]
  simp only [htake]
  rw [piecesFrom_congr (Nat.le_of_lt_succ hlength) (Nat.le_refl _)]
  rfl

/-- Taking a text apart from the front: a placeholder stands there, or a character
is passed over. -/
@[elab_as_elim]
theorem pieces_induction {motive : Text → Prop} (nil : motive [])
    (hole : ∀ written name behind, IsPlaceholder written name → motive behind →
      motive (written ++ behind))
    (plain : ∀ c rest, hole? (c :: rest) = none → motive rest → motive (c :: rest)) (t : Text) :
    motive t := by
  induction hlength : t.length using Nat.strongRecOn generalizing t with
  | _ n ih =>
    subst hlength
    cases t with
    | nil => exact nil
    | cons c rest =>
      cases hhole : hole? (c :: rest) with
      | none => exact plain c rest hhole (ih rest.length (Nat.lt_succ_self _) rest rfl)
      | some found =>
        obtain ⟨name, behind⟩ := found
        have hlength := length_lt_of_hole? hhole
        obtain ⟨written, hwritten, heq⟩ := hole?_eq_some_iff.1 hhole
        rw [heq]
        exact hole written name behind hwritten (ih behind.length hlength behind rfl)

/-- Wherever a placeholder stands, the pieces are those before it, itself, and
those behind it. -/
theorem pieces_append (h : IsPlaceholder written name) (before after : Text) :
    pieces (before ++ (written ++ after))
      = pieces before ++ .hole written (placeholder name) :: pieces after := by
  induction before using pieces_induction with
  | nil => exact pieces_placeholder h after
  | hole first other behind hfirst ih =>
    rw [List.append_assoc, pieces_placeholder hfirst, pieces_placeholder hfirst, ih]
    rfl
  | plain c rest hnone ih =>
    have happend := hole?_append_eq_none h (List.cons_ne_nil c rest) hnone after
    rw [List.cons_append] at happend ⊢
    rw [pieces_cons happend, pieces_cons hnone, ih]
    rfl

/-- The holes of a text are the placeholders that stand in it. -/
theorem mem_pieces_iff :
    .hole written p ∈ pieces t
      ↔ ∃ name, IsPlaceholder written name ∧ placeholder name = p ∧ written <:+: t := by
  constructor
  · intro hmem
    induction t using pieces_induction with
    | nil => cases hmem
    | hole first other behind hfirst ih =>
      rw [pieces_placeholder hfirst] at hmem
      rcases List.mem_cons.1 hmem with heq | hlater
      · obtain ⟨rfl, rfl⟩ := Piece.hole.inj heq
        exact ⟨other, hfirst, rfl, List.infix_append' [] written behind⟩
      · obtain ⟨name, hname, hp, hwithin⟩ := ih hlater
        exact ⟨name, hname, hp, hwithin.trans (List.suffix_append ..).isInfix⟩
    | plain c rest hnone ih =>
      rw [pieces_cons hnone] at hmem
      rcases List.mem_cons.1 hmem with heq | hlater
      · cases heq
      · obtain ⟨name, hname, hp, hwithin⟩ := ih hlater
        exact ⟨name, hname, hp, hwithin.trans (List.suffix_cons ..).isInfix⟩
  · rintro ⟨name, hname, rfl, before, after, rfl⟩
    rw [List.append_assoc, pieces_append hname]
    exact List.mem_append_right _ List.mem_cons_self

/-- A text in which no placeholder stands is made of its characters. -/
theorem pieces_of_none (h : ∀ written name, IsPlaceholder written name → ¬written <:+: t) :
    pieces t = t.map .plain := by
  induction t using pieces_induction with
  | nil => rfl
  | hole first other behind hfirst ih =>
    exact absurd (List.infix_append' [] first behind) (h first other hfirst)
  | plain c rest hnone ih =>
    rw [pieces_cons hnone, List.map_cons, ih fun written name hname hwithin =>
      h written name hname (hwithin.trans (List.suffix_cons ..).isInfix)]

end MockApi.Template
