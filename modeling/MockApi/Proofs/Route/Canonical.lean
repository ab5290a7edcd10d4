/-
The pattern of a URL in its one spelling. A pattern is a single slash, or segments
with a slash before each, and it is its own pattern. What stands behind a question
mark or a hash, whatever it is, neither changes the pattern of a URL nor makes or
mends an illegible one (`routePattern_append_cons`).
-/
import MockApi.Proofs.Route.Absolute

namespace MockApi.Path

open Url

-- ====================================================== queries and fragments

/-- What ends a path ends what names a host. -/
theorem isAbsolute_append_cons {c : CodePoint} (h : endsPath c = true) (url rest : Text) :
    isAbsolute (url ++ c :: rest) = isAbsolute url := by
  rw [Bool.eq_iff_iff, isAbsolute_iff, isAbsolute_iff]
  constructor
  · rintro ⟨scheme, behind, hopen, heq⟩
    rcases List.append_eq_append_iff.1 heq with ⟨more, hopening, hrest⟩ | ⟨more, rfl, -⟩
    · cases more with
      | nil =>
        rw [List.append_nil] at hopening
        exact ⟨scheme, [], hopen, by rw [hopening, List.append_nil]⟩
      | cons d more =>
        have hd : d = c := (List.cons.inj hrest).1.symm
        have hmem : c ∈ opening scheme := by
          rw [hopening, hd]
          exact List.mem_append_right _ List.mem_cons_self
        rw [(of_mem_opening hopen hmem).1] at h
        cases h
    · exact ⟨scheme, more, hopen, rfl⟩
  · rintro ⟨scheme, behind, hopen, rfl⟩
    exact ⟨scheme, behind ++ c :: rest, hopen, by rw [List.append_assoc]⟩

/-- A query or a fragment does not change the pattern of a URL, nor does it make or
mend an illegible one. -/
theorem routePattern_append_cons {c : CodePoint} (h : endsPath c = true) (url rest : Text) :
    routePattern (url ++ c :: rest) [] = routePattern url [] := by
  obtain ⟨hcounts, hhost⟩ := of_endsPath h
  cases habsolute : isAbsolute url with
  | false =>
    have hlonger := isAbsolute_append_cons h url rest
    rw [habsolute] at hlonger
    rw [routePattern_of_path habsolute, routePattern_of_path hlonger, canonical_eq, canonical_eq,
      stem_append_cons h]
  | true =>
    obtain ⟨scheme, behind, hopen, rfl⟩ := isAbsolute_iff.1 habsolute
    have hcleaned : cleaned (behind ++ c :: rest) = cleaned behind ++ c :: cleaned rest := by
      rw [cleaned, List.filter_append, List.filter_cons_of_pos (by rw [hcounts]; rfl)]
      rfl
    have hbehind : hostBehind (behind ++ c :: rest) = hostBehind behind := by
      rw [hostBehind, hcleaned, Text.takeWhile_append_cons (by rw [hhost]; rfl)]
      rfl
    have hstem : stemBehind (behind ++ c :: rest) = stemBehind behind := by
      rw [stemBehind, hcleaned, Text.dropWhile_append_cons (by rw [hhost]; rfl),
        stem_append_cons h]
      rfl
    rw [List.append_assoc, routePattern_opening hopen, routePattern_opening hopen, hbehind, hstem]

-- =================================================================== one spelling

/-- The segment behind a slash. -/
def slashed (part : Text) : Text := '/' :: part

/-- A path with segments is a slash in front of each. -/
theorem ofSegments_eq_flatMap {parts : List Text} (h : parts ≠ []) :
    ofSegments parts = parts.flatMap slashed := by
  induction parts with
  | nil => exact absurd rfl h
  | cons first rest ih =>
    rw [List.flatMap_cons]
    cases rest with
    | nil => rfl
    | cons second rest =>
      have hjoin : Text.join "/" (first :: second :: rest)
          = first ++ ofSegments (second :: rest) := by
        rw [Text.join, List.intercalate_cons_cons, List.append_assoc]
        rfl
      rw [ofSegments, hjoin, ih (List.cons_ne_nil second rest)]
      rfl

/-- A path ends in its last segment, behind a slash. -/
theorem exists_ofSegments_concat (front : List Text) (last : Text) :
    ∃ before, ofSegments (front ++ [last]) = before ++ slashed last := by
  refine ⟨front.flatMap slashed, ?_⟩
  rw [ofSegments_eq_flatMap (by simp), List.flatMap_append, List.flatMap_singleton]

/-- The spelling of a pattern: a slash alone, or one before every segment. -/
def IsSpelled (pattern : Text) : Prop :=
  pattern = "/" ∨ ∃ parts : List Text, parts ≠ []
    ∧ (∀ part ∈ parts, part ≠ [] ∧ ('/' : CodePoint) ∉ part) ∧ pattern = parts.flatMap slashed

/-- The canonical form of a path is one of its spellings. -/
theorem isSpelled_canonical (path : Text) : IsSpelled (canonical path) := by
  obtain ⟨parts, heq, hparts⟩ := exists_ofSegments path
  rw [heq]
  cases parts with
  | nil => exact .inl rfl
  | cons first rest =>
    have hne := List.cons_ne_nil first rest
    refine .inr ⟨first :: rest, hne, ?_, ofSegments_eq_flatMap hne⟩
    intro part hpart
    exact ⟨(hparts part hpart).ne_nil, (hparts part hpart).slash⟩

/-- A canonical path holds nothing that ends a path. -/
theorem endsPath_of_mem_canonical {path : Text} {c : CodePoint} (hc : c ∈ canonical path) :
    endsPath c = false := by
  obtain ⟨parts, heq, hparts⟩ := exists_ofSegments path
  rw [heq] at hc
  rw [← Bool.not_eq_true, endsPath, Bool.or_eq_true, beq_iff_eq, beq_iff_eq]
  cases of_mem_ofSegments hc with
  | inl hslash =>
    rw [hslash]
    decide
  | inr hpart =>
    obtain ⟨part, hpart, hmem⟩ := hpart
    rintro (rfl | rfl)
    · exact (hparts part hpart).query hmem
    · exact (hparts part hpart).fragment hmem

/-- What a URL has as its pattern is a canonical path. -/
theorem exists_canonical_of_routePattern {url base pattern : Text}
    (h : routePattern url base = .ok pattern) : ∃ path, pattern = canonical path := by
  rw [routePattern_eq] at h
  obtain ⟨-, -, rfl⟩ := map_eq_ok.1 h
  exact ⟨_, rfl⟩

/-- The pattern of a URL is spelled in one way, which is its own pattern, and no query
and no fragment behind the URL changes it. -/
theorem routePattern_settled {url pattern : Text} (h : routePattern url [] = .ok pattern) :
    IsSpelled pattern ∧ ('?' : CodePoint) ∉ pattern ∧ ('#' : CodePoint) ∉ pattern
      ∧ routePattern pattern [] = .ok pattern
      ∧ ∀ rest, routePattern (url ++ "?" ++ rest) [] = .ok pattern
        ∧ routePattern (url ++ "#" ++ rest) [] = .ok pattern := by
  obtain ⟨path, rfl⟩ := exists_canonical_of_routePattern h
  have hsame := routePattern_of_canonical (canonical_canonical path)
  refine ⟨isSpelled_canonical path, ?_, ?_, hsame, ?_⟩
  · intro hquery
    exact absurd (endsPath_of_mem_canonical hquery) (by decide)
  · intro hfragment
    exact absurd (endsPath_of_mem_canonical hfragment) (by decide)
  · intro rest
    rw [List.append_assoc, List.append_assoc]
    constructor
    · exact (routePattern_append_cons rfl url rest).trans h
    · exact (routePattern_append_cons rfl url rest).trans h

/-- A host in brackets, doubled slashes, parameters and a line break; a query with all
that has a meaning before it. -/
theorem routePattern_settled_brackets :
    routePattern "HTTPS://me@[::1]:80//v1\t/;a/b;c" [] = .ok "/v1/;a/b"
      ∧ routePattern (("HTTPS://me@[::1]:80//v1\t/;a/b;c" : Text) ++ "?" ++ "//x:[y/../#;") []
        = .ok "/v1/;a/b" := by
  have hpattern : routePattern "HTTPS://me@[::1]:80//v1\t/;a/b;c" [] = .ok "/v1/;a/b" := by rfl
  obtain ⟨-, -, -, -, happended⟩ := routePattern_settled hpattern
  exact ⟨hpattern, (happended _).1⟩

end MockApi.Path
