/-
Canonical paths. A segment is a text without slash, query and fragment, and a
path is canonical if it is made of segments; then cutting it into segments
gives them back and `canonical` changes nothing. So a pattern whose parameters
are replaced by segments is a path that the pattern fits.
-/
import Mathlib.Data.List.Forall2
import MockApi.Proofs.Text.Basic
import MockApi.Route.Path

namespace MockApi.Path

/-- What may stand between two slashes of a canonical path. -/
structure IsSegment (segment : Text) : Prop where
  ne_nil : segment ≠ []
  slash : ('/' : CodePoint) ∉ segment
  query : ('?' : CodePoint) ∉ segment
  fragment : ('#' : CodePoint) ∉ segment

variable {parts : List Text} {path pattern : Text}

-- =============================================================== segments

/-- A path that is made of segments has nothing in it but them and slashes. -/
theorem of_mem_ofSegments {c : CodePoint} (h : c ∈ ofSegments parts) :
    c = '/' ∨ ∃ s ∈ parts, c ∈ s := by
  rw [ofSegments] at h
  rcases List.mem_cons.1 h with rfl | hjoin
  · exact Or.inl rfl
  · rcases Text.of_mem_join hjoin with hslash | hpart
    · exact Or.inl (List.mem_singleton.1 hslash)
    · exact Or.inr hpart

/-- Segments come back from the path that is made of them. -/
theorem segments_ofSegments (h : ∀ s ∈ parts, IsSegment s) :
    segments (ofSegments parts) = parts := by
  have hfilter : parts.filter (!·.isEmpty) = parts := by
    rw [List.filter_eq_self]
    intro s hs
    rw [Bool.not_eq_true', List.isEmpty_eq_false_iff]
    exact (h s hs).ne_nil
  have hsplit : Text.splitOn '/' (ofSegments parts)
      = [] :: Text.splitOn '/' (Text.join "/" parts) := by
    rw [ofSegments, Text.splitOn, if_pos rfl]
  rw [segments, hsplit, List.filter_cons_of_neg (by simp)]
  cases parts with
  | nil => rfl
  | cons first rest =>
    have hslash : ("/" : Text) = [('/' : CodePoint)] := rfl
    rw [hslash, Text.splitOn_join (List.cons_ne_nil _ _) fun s hs => (h s hs).slash]
    exact hfilter

/-- The path without its query and its fragment is cut into segments. -/
theorem isSegment_of_mem {s : Text}
    (h : s ∈ segments (Text.before '#' (Text.before '?' path))) : IsSegment s := by
  rw [segments, List.mem_filter, Bool.not_eq_true', List.isEmpty_eq_false_iff] at h
  obtain ⟨hmem, hne⟩ := h
  refine ⟨hne, Text.not_mem_of_mem_splitOn hmem, ?_, ?_⟩
  · intro hquery
    have hbefore := Text.mem_of_mem_splitOn hmem hquery
    exact Text.not_mem_before '?' path (Text.mem_of_mem_before hbefore)
  · intro hfragment
    exact Text.not_mem_before '#' _ (Text.mem_of_mem_splitOn hmem hfragment)

-- ============================================================== canonical

/-- A path that is made of segments is canonical. -/
theorem canonical_ofSegments (h : ∀ s ∈ parts, IsSegment s) :
    canonical (ofSegments parts) = ofSegments parts := by
  have hquery : ('?' : CodePoint) ∉ ofSegments parts := by
    intro hmem
    rcases of_mem_ofSegments hmem with heq | ⟨s, hs, hc⟩
    · exact absurd heq (by decide)
    · exact (h s hs).query hc
  have hfragment : ('#' : CodePoint) ∉ ofSegments parts := by
    intro hmem
    rcases of_mem_ofSegments hmem with heq | ⟨s, hs, hc⟩
    · exact absurd heq (by decide)
    · exact (h s hs).fragment hc
  rw [canonical, Text.before_of_not_mem hquery, Text.before_of_not_mem hfragment,
    segments_ofSegments h]

/-- Every path is made canonical of segments. -/
theorem exists_ofSegments (path : Text) :
    ∃ parts, canonical path = ofSegments parts ∧ ∀ s ∈ parts, IsSegment s :=
  ⟨_, rfl, fun _ hs => isSegment_of_mem hs⟩

theorem canonical_canonical (path : Text) : canonical (canonical path) = canonical path := by
  obtain ⟨parts, heq, hparts⟩ := exists_ofSegments path
  rw [heq, canonical_ofSegments hparts]

-- ========================================================= route patterns

/-- A path that is made of segments names no host: it starts with a slash, and
no second slash stands behind that. -/
theorem isAbsolute_ofSegments (h : ∀ s ∈ parts, IsSegment s) :
    Url.isAbsolute (ofSegments parts) = false := by
  have hscheme : Url.scheme? (ofSegments parts) = none := by
    have hnone : (ofSegments parts).takeWhile Url.isSchemeChar = [] :=
      List.takeWhile_cons_of_neg (by decide)
    rw [Url.scheme?, hnone]
    rfl
  have hslashes : ("//" : Text).isPrefixOf (ofSegments parts) = false := by
    have hslash : ("//" : Text) = [('/' : CodePoint), ('/' : CodePoint)] := rfl
    rw [← Bool.not_eq_true, hslash, List.isPrefixOf_iff_prefix, ofSegments]
    rintro ⟨rest, hrest⟩
    have hjoin := (List.cons.inj hrest).2
    cases parts with
    | nil => cases hjoin
    | cons first others =>
      obtain ⟨c, t, rfl⟩ := List.exists_cons_of_ne_nil (h first List.mem_cons_self).ne_nil
      obtain ⟨more, hmore⟩ := Text.exists_join_cons "/" (c :: t) others
      rw [hmore] at hjoin
      have hc : ('/' : CodePoint) = c := (List.cons.inj hjoin).1
      exact (h _ List.mem_cons_self).slash (hc ▸ List.mem_cons_self)
  rw [Url.isAbsolute, hscheme, hslashes]
  rfl

/-- A canonical path is its own route pattern. -/
theorem routePattern_of_canonical (h : canonical path = path) :
    routePattern path [] = .ok path := by
  obtain ⟨parts, heq, hparts⟩ := exists_ofSegments path
  rw [h] at heq
  have habsolute := isAbsolute_ofSegments hparts
  rw [← heq] at habsolute
  unfold routePattern
  simp only [List.isEmpty_nil, if_true, habsolute, Bool.false_eq_true, if_false]
  exact congrArg Except.ok h

-- ============================================================== parameters

/-- The segment stands in a path for the one of a pattern: any segment for a
parameter, the same text otherwise. -/
def StandsFor (p s : Text) : Prop := if isParameter p then IsSegment s else s = p

/-- The path is a pattern with segments for its parameters. -/
def Fills (pattern path : Text) : Prop :=
  ∃ parts, path = ofSegments parts ∧ List.Forall₂ StandsFor (segments pattern) parts

/-- What stands for segments is made of segments. -/
theorem isSegment_of_standsFor {ps : List Text} (h : List.Forall₂ StandsFor ps parts)
    (hps : ∀ p ∈ ps, IsSegment p) : ∀ s ∈ parts, IsSegment s := by
  induction h with
  | nil => exact hps
  | @cons p s ps parts hstands _ ih =>
    intro s' hs'
    rcases List.mem_cons.1 hs' with rfl | hmem
    · unfold StandsFor at hstands
      split at hstands
      · exact hstands
      · rw [hstands]
        exact hps p List.mem_cons_self
    · exact ih (fun p' hp' => hps p' (List.mem_cons_of_mem _ hp')) s' hmem

/-- What stands for the segments of a pattern fits it. -/
theorem segmentsFit_of_standsFor {ps : List Text} (h : List.Forall₂ StandsFor ps parts) :
    segmentsFit ps parts = true := by
  induction h with
  | nil => rfl
  | @cons p s ps parts hstands _ ih =>
    rw [segmentsFit, ih, Bool.and_true]
    unfold StandsFor at hstands
    split at hstands
    · next hparameter => rw [hparameter, Bool.true_or]
    · rw [hstands, beq_self_eq_true, Bool.or_true]

/-- A canonical pattern fits the paths that fill it, and they are canonical. -/
theorem fits_of_fills (canon : canonical pattern = pattern) (h : Fills pattern path) :
    canonical path = path ∧ fits pattern path = true := by
  obtain ⟨parts, rfl, hstands⟩ := h
  obtain ⟨ps, heq, hps⟩ := exists_ofSegments pattern
  rw [canon] at heq
  rw [heq, segments_ofSegments hps] at hstands
  have hparts := isSegment_of_standsFor hstands hps
  refine ⟨canonical_ofSegments hparts, ?_⟩
  rw [fits, heq, segments_ofSegments hps, segments_ofSegments hparts]
  exact segmentsFit_of_standsFor hstands

end MockApi.Path
