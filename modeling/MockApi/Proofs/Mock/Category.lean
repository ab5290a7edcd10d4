/-
What keywords tell. A keyword hits a URL as a whole word in front of the query or
within one of the last two segments (`hits_iff`), and of the keywords of a list that
hit, the one that stands first tells what the URL is for. So a longer keyword has its
say as long as none that is a piece of it stands in front of it.

That is so for every pair of keywords but one (`pairwise_keywords`): `unpublish` stands
behind `publish`, which takes every URL from it that both hit (`shadows_iff`).
-/
import Mathlib.Data.List.Infix
import MockApi.Mock.Category
import MockApi.Proofs.Text.Basic

namespace MockApi.Category

variable {url keyword text k k' : Text}

-- ==================================================================== hits

/-- The keyword stands in the text with neither a letter nor a digit next to it. -/
def IsWordIn (keyword text : Text) : Prop :=
  ∃ front back, text = front ++ (keyword ++ back)
    ∧ (∀ c ∈ front.getLast?, extendsWord c = false) ∧ ∀ c ∈ back.head?, extendsWord c = false

/-- The keyword is a whole word of what is looked at, or a piece of one of its last
two segments. -/
def IsHit (url keyword : Text) : Prop :=
  IsWordIn keyword (searched url) ∨ ∃ segment ∈ tail (searched url), keyword <:+: segment

theorem not_any_iff {o : Option CodePoint} :
    (!o.any extendsWord) = true ↔ ∀ c ∈ o, extendsWord c = false := by
  rw [Bool.not_eq_true', Option.any_eq_false]
  exact Iff.rfl

/-- A word stands at the front of a text if the keyword does, and nothing goes
on with it. -/
theorem wordAtFront_iff :
    wordAtFront keyword text = true
      ↔ ∃ back, text = keyword ++ back ∧ ∀ c ∈ back.head?, extendsWord c = false := by
  unfold wordAtFront
  constructor
  · intro h
    split at h
    · cases h
    · next back hback => exact ⟨back, Text.afterPiece?_eq_some_iff.1 hback, not_any_iff.1 h⟩
  · rintro ⟨back, hback, hend⟩
    rw [Text.afterPiece?_eq_some_iff.2 hback]
    exact not_any_iff.2 hend

/-- The search for a word goes on with the character that it has passed. -/
theorem hasWordAfter_iff {previous : Option CodePoint} :
    hasWordAfter keyword previous text = true
      ↔ ∃ front back, text = front ++ (keyword ++ back)
        ∧ (∀ c ∈ front.getLast?.or previous, extendsWord c = false)
        ∧ ∀ c ∈ back.head?, extendsWord c = false := by
  -- the word is here, or further on, where the character passed is what stands before it
  induction text generalizing previous with
  | nil =>
    rw [hasWordAfter, Bool.and_eq_true, not_any_iff, wordAtFront_iff]
    constructor
    · rintro ⟨hprevious, back, hback, hend⟩
      exact ⟨[], back, hback, hprevious, hend⟩
    · rintro ⟨front, back, heq, hfront, hend⟩
      obtain ⟨rfl, hback⟩ := List.append_eq_nil_iff.1 heq.symm
      exact ⟨hfront, back, hback.symm, hend⟩
  | cons c rest ih =>
    rw [hasWordAfter, Bool.or_eq_true, Bool.and_eq_true, not_any_iff, wordAtFront_iff, ih]
    constructor
    · rintro (⟨hprevious, back, hback, hend⟩ | ⟨front, back, rfl, hfront, hend⟩)
      · exact ⟨[], back, hback, hprevious, hend⟩
      · refine ⟨c :: front, back, rfl, ?_, hend⟩
        rw [List.getLast?_cons]
        cases hlast : front.getLast? <;> rw [hlast] at hfront <;> exact hfront
    · rintro ⟨front, back, heq, hfront, hend⟩
      cases front with
      | nil => exact Or.inl ⟨hfront, back, heq, hend⟩
      | cons d front =>
        obtain ⟨rfl, rfl⟩ := List.cons.inj heq
        refine Or.inr ⟨front, back, rfl, ?_, hend⟩
        rw [List.getLast?_cons] at hfront
        cases hlast : front.getLast? <;> rw [hlast] at hfront <;> exact hfront

/-- A keyword is found in a URL as a word, or within one of its last two segments. -/
theorem hits_iff : hits url keyword = true ↔ IsHit url keyword := by
  have hword : hasWordAfter keyword none (searched url) = true
      ↔ IsWordIn keyword (searched url) := by
    rw [hasWordAfter_iff]
    simp only [Option.or_none]
    exact Iff.rfl
  rw [hits, Bool.or_eq_true, hword, List.any_eq_true]
  simp only [Text.hasPiece_iff]
  exact Iff.rfl

-- =========================================================== the first one

/-- The keyword that told the category. -/
def keyword? : Category → Option Text
  | auth keyword | action keyword => some keyword
  | crud => none

/-- The list that the keyword of a category is from. -/
def keywords : Category → List Text
  | auth _ => authKeywords
  | action _ => actionKeywords
  | crud => []

/-- The keyword of a category is the first of its list that is found. -/
theorem find?_of_keyword? (h : (ofUrl url).keyword? = some k) :
    (ofUrl url).keywords.find? (hits url) = some k := by
  unfold ofUrl at h ⊢
  split at h
  · next keyword other hauth => exact hauth.trans h
  · next keyword hauth haction => exact haction.trans h
  · cases h

/-- A keyword that is found stands in front of all others that hit. -/
theorem of_find? {R : Text → Text → Prop} {p : Text → Bool} {list : List Text}
    (order : list.Pairwise R) (found : list.find? p = some k) (listed : k' ∈ list)
    (hit : p k' = true) : k = k' ∨ R k k' := by
  obtain ⟨-, before, behind, rfl, hmissed⟩ := List.find?_eq_some_iff_append.1 found
  obtain ⟨-, hbehind, -⟩ := List.pairwise_append.1 order
  rcases List.mem_append.1 listed with hbefore | hlater
  · have hmiss := hmissed k' hbefore
    rw [hit] at hmiss
    cases hmiss
  · rcases List.mem_cons.1 hlater with rfl | hmem
    · exact Or.inl rfl
    · exact Or.inr ((List.pairwise_cons.1 hbehind).1 k' hmem)

/-- The first keyword is no piece of the second one, unless they are these two. -/
def InPlace (k k' : Text) : Prop := k <:+: k' → k = "publish" ∧ k' = "unpublish"

/-- Numbers are faster to compare than code points. -/
theorem inPlace_of_numbers (h : k.map CodePoint.toNat <:+: k'.map CodePoint.toNat →
    k = "publish" ∧ k' = "unpublish") : InPlace k k' :=
  fun piece => h (piece.map CodePoint.toNat)

/-- No keyword of a category is a piece of a later one, `publish` in `unpublish` apart. -/
theorem pairwise_keywords (category : Category) : category.keywords.Pairwise InPlace := by
  cases category with
  | auth keyword =>
    change authKeywords.Pairwise InPlace
    refine List.Pairwise.imp inPlace_of_numbers ?_
    decide +kernel
  | action keyword =>
    change actionKeywords.Pairwise InPlace
    refine List.Pairwise.imp inPlace_of_numbers ?_
    decide +kernel
  | crud => exact .nil

-- =============================================================== shadowing

/-- The keyword that tells what a URL is for is a piece of a longer one from its list,
which hits the URL as well. -/
structure Shadows (url k k' : Text) : Prop where
  told : (ofUrl url).keyword? = some k
  listed : k' ∈ (ofUrl url).keywords
  longer : k <:+: k' ∧ k ≠ k'
  hit : IsHit url k'

/-- Where `unpublish` is a piece of one of the last two segments, so is `publish`, which
stands in front of it. -/
theorem ofUrl_ne_unpublish {segment : Text} (hmem : segment ∈ tail (searched url))
    (piece : ("unpublish" : Text) <:+: segment) : ofUrl url ≠ .action "unpublish" := by
  intro hcategory
  have told : (ofUrl url).keyword? = some "unpublish" := by
    rw [hcategory]
    rfl
  have hfind := find?_of_keyword? told
  rw [hcategory] at hfind
  have order : actionKeywords.Pairwise fun a b : Text => ¬(a = "unpublish" ∧ b = "publish") := by
    decide
  have shorter : ("publish" : Text) <:+: "unpublish" := by decide
  have hhit : hits url "publish" = true := hits_iff.2 (.inr ⟨segment, hmem, shorter.trans piece⟩)
  rcases of_find? order hfind (by decide) hhit with heq | hnot
  · exact absurd heq (by decide)
  · exact hnot ⟨rfl, rfl⟩

/-- A keyword is shadowed by a shorter one exactly where `publish` tells what a URL is
for that `unpublish` hits. Nothing within the last two segments lets `unpublish` tell. -/
theorem shadows_iff :
    (Shadows url k k'
      ↔ k = "publish" ∧ k' = "unpublish" ∧ ofUrl url = .action "publish"
        ∧ IsHit url "unpublish")
      ∧ ¬(ofUrl url = .action "unpublish"
        ∧ ∃ segment ∈ tail (searched url), ("unpublish" : Text) <:+: segment) := by
  refine ⟨⟨?_, ?_⟩, fun ⟨hcategory, segment, hmem, piece⟩ =>
    ofUrl_ne_unpublish hmem piece hcategory⟩
  · rintro ⟨told, listed, ⟨piece, hne⟩, hit⟩
    -- of two keywords that are found the first is told; only one
    -- keyword lies within a later one
    have hfirst := of_find? (pairwise_keywords _) (find?_of_keyword? told) listed (hits_iff.2 hit)
    obtain ⟨rfl, rfl⟩ := hfirst.resolve_left hne piece
    refine ⟨rfl, rfl, ?_, hit⟩
    cases hcategory : ofUrl url with
    | auth keyword =>
      have hnot : ("unpublish" : Text) ∉ authKeywords := by decide +kernel
      rw [hcategory] at listed
      exact absurd listed hnot
    | action keyword =>
      rw [hcategory] at told
      rw [Option.some.inj told]
    | crud =>
      rw [hcategory] at listed
      cases listed
  · rintro ⟨rfl, rfl, hcategory, hit⟩
    refine ⟨?_, ?_, by decide, hit⟩
    · rw [hcategory]
      rfl
    · rw [hcategory]
      change _ ∈ actionKeywords
      decide

-- further in front `unpublish` has its say, for no piece of a word is a word
example : ofUrl "/unpublish/posts/7" = .action "unpublish" := by decide +kernel

/-- To take a post back is answered as if it were published. -/
theorem unpublish_shadowed :
    Shadows "/posts/7/unpublish" "publish" "unpublish"
      ∧ ofUrl "/posts/7/unpublish" = .action "publish" := by
  have hcategory : ofUrl "/posts/7/unpublish" = .action "publish" := by decide +kernel
  refine ⟨⟨?_, ?_, by decide, hits_iff.1 (by decide +kernel)⟩, hcategory⟩
  · rw [hcategory]
    rfl
  · rw [hcategory]
    change _ ∈ actionKeywords
    decide

end MockApi.Category
