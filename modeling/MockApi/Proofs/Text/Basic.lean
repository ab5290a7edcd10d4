/-
Laws of cutting and joining text. Pieces that hold no separator come back from
their join as they were, and what is cut from a text holds nothing that the
text does not hold.
-/
import Mathlib.Data.List.TakeWhile
import MockApi.Text.Basic

namespace MockApi.Text

variable {sep c : CodePoint} {t piece : Text} {pieces : List Text}

/-- Literal texts are told apart by their strings. -/
@[simp]
theorem ofString_inj {s t : String} : ofString s = ofString t ↔ s = t := by
  constructor
  · intro h
    exact String.toList_inj.1 ((List.map_inj_right fun _ _ hc => CodePoint.char.inj hc).1 h)
  · intro h
    rw [h]

/-- A text without lone halves of pairs is one of characters. -/
theorem exists_chars {t : Text} (h : ∀ c ∈ t, ∃ x : Char, c = .char x) :
    ∃ chars : List Char, t = chars.map CodePoint.char := by
  induction t with
  | nil => exact ⟨[], rfl⟩
  | cons c rest ih =>
    obtain ⟨x, rfl⟩ := h c List.mem_cons_self
    obtain ⟨chars, rfl⟩ := ih fun d hd => h d (List.mem_cons_of_mem _ hd)
    exact ⟨x :: chars, rfl⟩

-- =================================================================== pieces

/-- What follows a piece at the front is what the text is made of behind it. -/
theorem afterPiece?_eq_some_iff {rest : Text} :
    afterPiece? piece t = some rest ↔ t = piece ++ rest := by
  unfold afterPiece?
  constructor
  · intro h
    split at h
    · next hprefix =>
      obtain ⟨more, rfl⟩ := List.isPrefixOf_iff_prefix.1 hprefix
      rw [← Option.some.inj h, List.drop_left]
    · cases h
  · rintro rfl
    rw [if_pos (List.isPrefixOf_iff_prefix.2 (List.prefix_append ..)), List.drop_left]

/-- To look for a piece is to look for an infix. -/
theorem hasPiece_iff : hasPiece piece t = true ↔ piece <:+: t := by
  induction t with
  | nil => rw [hasPiece, List.isEmpty_iff, List.infix_nil]
  | cons c rest ih =>
    rw [hasPiece, Bool.or_eq_true, List.isPrefixOf_iff_prefix, ih, List.infix_cons_iff]

-- ================================================================== joining

/-- What is in a piece is in the text that is joined. -/
theorem mem_join_of_mem (between : Text) (h : piece ∈ pieces) (hc : c ∈ piece) :
    c ∈ join between pieces := by
  unfold join
  induction pieces with
  | nil => cases h
  | cons first rest ih =>
    cases rest with
    | nil =>
      rw [List.mem_singleton] at h
      rw [List.intercalate_singleton, ← h]
      exact hc
    | cons second rest =>
      rw [List.intercalate_cons_cons, List.mem_append, List.mem_append]
      rcases List.mem_cons.1 h with rfl | hmem
      · exact Or.inl (Or.inl hc)
      · exact Or.inr (ih hmem)

/-- A join starts with its first piece. -/
theorem exists_join_cons (between piece : Text) (pieces : List Text) :
    ∃ rest, join between (piece :: pieces) = piece ++ rest := by
  unfold join
  cases pieces with
  | nil => exact ⟨[], by rw [List.intercalate_singleton, List.append_nil]⟩
  | cons second rest =>
    exact ⟨_, by rw [List.intercalate_cons_cons, List.append_assoc]⟩

/-- A join holds nothing but what its pieces and the separator hold. -/
theorem of_mem_join {between : Text} (h : c ∈ join between pieces) :
    c ∈ between ∨ ∃ piece ∈ pieces, c ∈ piece := by
  unfold join at h
  induction pieces with
  | nil => cases h
  | cons first rest ih =>
    cases rest with
    | nil =>
      rw [List.intercalate_singleton] at h
      exact Or.inr ⟨first, List.mem_cons_self, h⟩
    | cons second rest =>
      rw [List.intercalate_cons_cons, List.mem_append, List.mem_append] at h
      rcases h with (hfirst | hbetween) | hrest
      · exact Or.inr ⟨first, List.mem_cons_self, hfirst⟩
      · exact Or.inl hbetween
      · rcases ih hrest with hbetween | ⟨piece, hmem, hc⟩
        · exact Or.inl hbetween
        · exact Or.inr ⟨piece, List.mem_cons_of_mem _ hmem, hc⟩

-- ================================================================ splitting

/-- Splitting a text is splitting it as a list. -/
theorem splitOn_eq_splitOn (sep : CodePoint) (t : Text) : splitOn sep t = List.splitOn sep t := by
  induction t with
  | nil => rfl
  | cons c rest ih =>
    rw [splitOn, ih, List.splitOn_cons_eq_if_modifyHead]
    simp only [beq_iff_eq]
    split
    · rfl
    · cases h : List.splitOn sep rest with
      | nil => exact absurd h (List.splitOn_ne_nil sep rest)
      | cons piece pieces => rfl

/-- No separator is left in a piece. -/
theorem not_mem_of_mem_splitOn (h : piece ∈ splitOn sep t) : sep ∉ piece := by
  induction t generalizing piece with
  | nil =>
    rw [splitOn, List.mem_singleton] at h
    rw [h]
    exact List.not_mem_nil
  | cons c rest ih =>
    rw [splitOn] at h
    split at h
    · rcases List.mem_cons.1 h with rfl | hmem
      · exact List.not_mem_nil
      · exact ih hmem
    · next hc =>
      split at h
      -- there are no pieces behind, so this character is the whole piece
      · rw [List.mem_singleton] at h
        rw [h, List.mem_singleton]
        exact fun hsep => hc hsep.symm
      -- this character goes to the front of the first piece
      · next first pieces hsplit =>
        rw [hsplit] at ih
        rcases List.mem_cons.1 h with rfl | hmem
        · rw [List.mem_cons, not_or]
          exact ⟨fun hsep => hc hsep.symm, ih List.mem_cons_self⟩
        · exact ih (List.mem_cons_of_mem _ hmem)

/-- The pieces of a text make it up again. -/
theorem join_splitOn (sep : CodePoint) (t : Text) : join [sep] (splitOn sep t) = t := by
  rw [splitOn_eq_splitOn, join, List.intercalate_splitOn]

/-- What is in a piece was in the text. -/
theorem mem_of_mem_splitOn (h : piece ∈ splitOn sep t) (hc : c ∈ piece) : c ∈ t := by
  have hjoin := mem_join_of_mem [sep] h hc
  rw [join_splitOn] at hjoin
  exact hjoin

/-- Pieces without the separator come back from their join. -/
theorem splitOn_join (hne : pieces ≠ []) (h : ∀ piece ∈ pieces, sep ∉ piece) :
    splitOn sep (join [sep] pieces) = pieces := by
  rw [splitOn_eq_splitOn]
  exact List.splitOn_intercalate sep h hne

-- ==================================================================== up to

/-- A text without the separator is not cut. -/
theorem before_of_not_mem (h : sep ∉ t) : before sep t = t := by
  unfold before
  rw [List.takeWhile_eq_self_iff]
  intro c hc
  rw [bne_iff_ne]
  rintro rfl
  exact h hc

/-- Nothing is taken from behind a character that is not taken. -/
theorem takeWhile_append_cons {p : CodePoint → Bool} (h : p c = false) (t rest : Text) :
    (t ++ c :: rest).takeWhile p = t.takeWhile p := by
  induction t with
  | nil => exact List.takeWhile_cons_of_neg (Bool.eq_false_iff.1 h)
  | cons d t ih => rw [List.cons_append, List.takeWhile_cons, List.takeWhile_cons, ih]

/-- Nothing is dropped from behind a character that is not dropped. -/
theorem dropWhile_append_cons {p : CodePoint → Bool} (h : p c = false) (t rest : Text) :
    (t ++ c :: rest).dropWhile p = t.dropWhile p ++ c :: rest := by
  induction t with
  | nil => exact List.dropWhile_cons_of_neg (Bool.eq_false_iff.1 h)
  | cons d t ih =>
    rw [List.cons_append, List.dropWhile_cons, List.dropWhile_cons, ih]
    split
    · rfl
    · rfl

theorem before_append (h : sep ∉ t) (rest : Text) : before sep (t ++ sep :: rest) = t := by
  rw [before, takeWhile_append_cons (p := (· != sep)) (bne_self_eq_false sep)]
  exact before_of_not_mem h

/-- There is no separator in front of the first one. -/
theorem not_mem_before (sep : CodePoint) (t : Text) : sep ∉ before sep t := by
  intro h
  have hne := List.mem_takeWhile_imp h
  rw [bne_self_eq_false] at hne
  cases hne

theorem mem_of_mem_before (h : c ∈ before sep t) : c ∈ t :=
  (List.takeWhile_prefix _).subset h

end MockApi.Text
