/-
Trimming. Every text is its trimmed part between two runs of blanks
(`exists_trim`), and no other part without blanks at its ends stands like that in
it (`trim_append`).
-/
import MockApi.Proofs.Text.Basic
import MockApi.Text.Blank

namespace MockApi.Text

variable {t front back : Text}

/-- The text neither starts nor ends with a blank. -/
structure IsTrimmed (t : Text) : Prop where
  head : ∀ c, t.head? = some c → isBlank c = false
  last : ∀ c, t.getLast? = some c → isBlank c = false

/-- Passing over characters ends at the first one that is not passed over. -/
theorem dropWhile_append_of_head {p : CodePoint → Bool} (hfront : ∀ c ∈ front, p c = true)
    (hhead : ∀ c, t.head? = some c → p c = false) : (front ++ t).dropWhile p = t := by
  rw [List.dropWhile_append_of_pos hfront]
  cases t with
  | nil => rfl
  | cons c rest => exact List.dropWhile_cons_of_neg (by rw [hhead c rfl]; exact Bool.false_ne_true)

/-- Blanks behind a text that does not end in one are trimmed. -/
theorem trimEnd_append (hback : ∀ c ∈ back, isBlank c = true)
    (hlast : ∀ c, t.getLast? = some c → isBlank c = false) : trimEnd (t ++ back) = t := by
  have hreverse : ∀ c ∈ back.reverse, isBlank c = true := fun c hc =>
    hback c (List.mem_reverse.1 hc)
  have hhead : ∀ c, t.reverse.head? = some c → isBlank c = false := by
    intro c hc
    rw [List.head?_reverse] at hc
    exact hlast c hc
  rw [trimEnd, List.reverse_append, dropWhile_append_of_head hreverse hhead, List.reverse_reverse]

/-- Nothing in front of a character that is no blank is trimmed off from the end. -/
theorem trimEnd_append_cons {c : CodePoint} (h : isBlank c = false) (t back : Text) :
    trimEnd (t ++ c :: back) = t ++ c :: trimEnd back := by
  unfold trimEnd
  rw [List.reverse_append, List.reverse_cons, List.append_assoc, List.singleton_append,
    dropWhile_append_cons h, List.reverse_append, List.reverse_cons, List.reverse_reverse,
    List.append_assoc, List.singleton_append]

/-- Blanks around a text that has none at its ends are all that is trimmed off. -/
theorem trim_append (hfront : ∀ c ∈ front, isBlank c = true)
    (hback : ∀ c ∈ back, isBlank c = true) (h : IsTrimmed t) :
    trim (front ++ t ++ back) = t := by
  rw [trim, List.append_assoc]
  cases t with
  | nil =>
    -- blanks alone are trimmed off from the front already
    have hall : ∀ c ∈ front ++ back, isBlank c = true := by
      intro c hc
      rcases List.mem_append.1 hc with hmem | hmem
      · exact hfront c hmem
      · exact hback c hmem
    have hnone : (front ++ back).dropWhile isBlank = [] := by
      have happend := dropWhile_append_of_head (t := []) hall fun c hc => nomatch hc
      rw [List.append_nil] at happend
      exact happend
    rw [List.nil_append, hnone]
    rfl
  | cons c rest =>
    have hhead : ∀ x, (c :: rest ++ back).head? = some x → isBlank x = false := h.head
    rw [dropWhile_append_of_head hfront hhead]
    exact trimEnd_append hback h.last

/-- Nothing is trimmed off where no blanks are at the ends. -/
theorem IsTrimmed.trim_eq (h : IsTrimmed t) : trim t = t := by
  have happend := trim_append (List.forall_mem_nil _) (List.forall_mem_nil _) h
  rwa [List.nil_append, List.append_nil] at happend

/-- The trimmed part of a text stands between blanks. -/
theorem exists_trim (t : Text) :
    ∃ front back, (∀ c ∈ front, isBlank c = true) ∧ (∀ c ∈ back, isBlank c = true)
      ∧ t = front ++ trim t ++ back := by
  let rest := t.dropWhile isBlank
  refine ⟨t.takeWhile isBlank, (rest.reverse.takeWhile isBlank).reverse, ?_, ?_, ?_⟩
  · intro c hc
    exact List.mem_takeWhile_imp hc
  · intro c hc
    exact List.mem_takeWhile_imp (List.mem_reverse.1 hc)
  · have hrest : trimEnd rest ++ (rest.reverse.takeWhile isBlank).reverse = rest := by
      rw [trimEnd, ← List.reverse_append, List.takeWhile_append_dropWhile, List.reverse_reverse]
    show t = _ ++ trimEnd rest ++ _
    rw [List.append_assoc, hrest, List.takeWhile_append_dropWhile]

/-- What was trimmed is trimmed. -/
theorem isTrimmed_trim (t : Text) : IsTrimmed (trim t) := by
  have hhead : ∀ (l : Text) (c : CodePoint), (l.dropWhile isBlank).head? = some c →
      isBlank c = false := by
    intro l c hc
    have hnot := List.head?_dropWhile_not isBlank l
    rw [hc] at hnot
    exact hnot
  constructor
  · intro c hc
    -- what is left of a trimmed text is a front part of what was left before
    have hprefix : trim t <+: t.dropWhile isBlank := by
      rw [trim, trimEnd, ← List.reverse_suffix, List.reverse_reverse]
      exact List.dropWhile_suffix _
    obtain ⟨more, hmore⟩ := hprefix
    refine hhead t c ?_
    rw [← hmore, List.head?_append, hc, Option.some_or]
  · intro c hc
    rw [trim, trimEnd, List.getLast?_reverse] at hc
    exact hhead _ c hc

end MockApi.Text
