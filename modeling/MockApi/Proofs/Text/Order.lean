/-
The order of texts. It is that of the lists of their numbers (`precedes_iff`), so
it is linear, and a list of texts has one order only: taking texts out of it
commutes with ordering it (`filter_sorted`), and where no text is twice the order
is all that a list adds to the texts that are in it (`sorted_eq_sorted`).
-/
import Mathlib.Data.List.Lex
import Mathlib.Data.List.Sort
import MockApi.Text.Basic

namespace MockApi

theorem CodePoint.toNat_injective : Function.Injective CodePoint.toNat :=
  Function.LeftInverse.injective CodePoint.ofNat_toNat

namespace Text

variable {texts others : List Text}

/-- Texts stand in the order of their numbers. -/
theorem precedes_iff (s t : Text) :
    precedes s t = true ↔ s.map CodePoint.toNat < t.map CodePoint.toNat := by
  induction s generalizing t with
  | nil =>
    cases t with
    | nil => simp [precedes]
    | cons b bs => simp [precedes]
  | cons a as ih =>
    cases t with
    | nil => simp [precedes]
    | cons b bs =>
      have hlt : a < b ↔ a.toNat < b.toNat := Iff.rfl
      have heq : a = b ↔ a.toNat = b.toNat := CodePoint.toNat_injective.eq_iff.symm
      simp only [precedes, Bool.or_eq_true, decide_eq_true_eq, Bool.and_eq_true, beq_iff_eq,
        List.map_cons, List.cons_lt_cons_iff, hlt, heq, ih bs]

/-- One text may stand before another unless it has to come after it. -/
theorem not_precedes_iff (s t : Text) :
    (!precedes t s) = true ↔ s.map CodePoint.toNat ≤ t.map CodePoint.toNat := by
  rw [Bool.not_eq_true', ← Bool.not_eq_true, precedes_iff, not_lt]

-- ================================================================ in order

theorem perm_sorted (texts : List Text) : (sorted texts).Perm texts := List.mergeSort_perm ..

@[simp] theorem mem_sorted {t : Text} : t ∈ sorted texts ↔ t ∈ texts := (perm_sorted texts).mem_iff

theorem nodup_sorted : (sorted texts).Nodup ↔ texts.Nodup := (perm_sorted texts).nodup_iff

/-- No text that was sorted is preceded by a later one. -/
theorem pairwise_sorted (texts : List Text) :
    (sorted texts).Pairwise fun s t => (!precedes t s) = true := by
  apply List.pairwise_mergeSort
  · intro s t u hst htu
    rw [not_precedes_iff] at hst htu ⊢
    exact hst.trans htu
  · intro s t
    rw [Bool.or_eq_true, not_precedes_iff, not_precedes_iff]
    exact le_total ..

/-- Two lists of the same texts that are in order are one list. -/
theorem eq_of_perm (h : texts.Perm others)
    (htexts : texts.Pairwise fun s t => (!precedes t s) = true)
    (hothers : others.Pairwise fun s t => (!precedes t s) = true) : texts = others := by
  apply h.eq_of_pairwise _ htexts hothers
  intro s t _ _ hst hts
  rw [not_precedes_iff] at hst hts
  exact CodePoint.toNat_injective.list_map (le_antisymm hst hts)

/-- To sort some of the texts is to take these out of the sorted ones. -/
theorem filter_sorted (p : Text → Bool) (texts : List Text) :
    (sorted texts).filter p = sorted (texts.filter p) := by
  apply eq_of_perm
  · exact ((perm_sorted texts).filter p).trans (perm_sorted _).symm
  · exact (pairwise_sorted texts).filter p
  · exact pairwise_sorted _

/-- Texts that are the same, each once, are sorted alike. -/
theorem sorted_eq_sorted (htexts : texts.Nodup) (hothers : others.Nodup)
    (h : ∀ t, t ∈ texts ↔ t ∈ others) : sorted texts = sorted others := by
  apply eq_of_perm
  · have hperm := (List.perm_ext_iff_of_nodup htexts hothers).2 h
    exact (perm_sorted texts).trans (hperm.trans (perm_sorted others).symm)
  · exact pairwise_sorted _
  · exact pairwise_sorted _

/-- Where the texts that pass a test are the same, so is the order of those. -/
theorem filter_sorted_eq (p : Text → Bool) (htexts : texts.Nodup) (hothers : others.Nodup)
    (h : ∀ t, p t = true → (t ∈ texts ↔ t ∈ others)) :
    (sorted texts).filter p = (sorted others).filter p := by
  rw [filter_sorted, filter_sorted]
  apply sorted_eq_sorted (htexts.filter p) (hothers.filter p)
  intro t
  rw [List.mem_filter, List.mem_filter]
  constructor
  · rintro ⟨hmem, hp⟩
    exact ⟨(h t hp).1 hmem, hp⟩
  · rintro ⟨hmem, hp⟩
    exact ⟨(h t hp).2 hmem, hp⟩

end Text

end MockApi
