/-
Absolute URLs taken apart. A URL that names a host opens with a scheme, a colon and
two slashes, or with the slashes alone (`isAbsolute_iff`). What is checked of it and
what is its path are found in what stands behind the opening, without the characters
that do not count (`routePattern_opening`).
-/
import MockApi.Proofs.Route.Legible

namespace MockApi

namespace Url

-- ===================================================================== stems

/-- Ends the path part. -/
def endsPath (c : CodePoint) : Bool := c == '?' || c == '#'

/-- What stands before query and fragment. -/
def stem (t : Text) : Text := t.takeWhile (!endsPath ·)

/-- To stop at one character, then at another, is to stop at either. -/
theorem takeWhile_ne_ne {a b : CodePoint} (t : Text) :
    (t.takeWhile (· != a)).takeWhile (· != b) = t.takeWhile fun c => !(c == a || c == b) := by
  rw [List.takeWhile_takeWhile]
  congr 1
  funext c
  rw [Bool.decide_and, Bool.decide_eq_true, Bool.decide_eq_true, Bool.not_or, Bool.and_comm]
  rfl

theorem before_before_stem (t : Text) : Text.before '#' (Text.before '?' t) = stem t :=
  takeWhile_ne_ne t

/-- It does not matter which of the two is cut off first. -/
theorem stem_eq (t : Text) : Text.before '?' (Text.before '#' t) = stem t := by
  rw [Text.before, Text.before, takeWhile_ne_ne]
  unfold stem endsPath
  congr 1
  funext c
  rw [Bool.or_comm]

/-- What ends a path ends a host, and is not ignored. -/
theorem of_endsPath {c : CodePoint} (h : endsPath c = true) :
    isIgnored c = false ∧ endsHost c = true := by
  rw [endsPath, Bool.or_eq_true, beq_iff_eq, beq_iff_eq] at h
  cases h with
  | inl hquery =>
    rw [hquery]
    decide
  | inr hfragment =>
    rw [hfragment]
    decide

/-- A front without a query or a fragment belongs to the stem. -/
theorem stem_append {front : Text} (h : ∀ c ∈ front, endsPath c = false) (t : Text) :
    stem (front ++ t) = front ++ stem t := by
  apply List.takeWhile_append_of_pos
  intro c hc
  rw [h c hc]
  rfl

theorem stem_append_cons {c : CodePoint} (h : endsPath c = true) (t rest : Text) :
    stem (t ++ c :: rest) = stem t :=
  Text.takeWhile_append_cons (by rw [h]; rfl) t rest

-- ================================================================= the opening

/-- A scheme: a letter and what may follow it. -/
def IsScheme (scheme : Text) : Prop :=
  scheme.head?.any Text.isAsciiLetter = true ∧ ∀ c ∈ scheme, isSchemeChar c = true

/-- The front of an absolute URL, with a scheme or without one. -/
def opening (scheme : Text) : Text := if scheme = [] then "//" else scheme ++ "://"

/-- A scheme, or none. -/
def MayOpen (scheme : Text) : Prop := scheme = [] ∨ IsScheme scheme

theorem IsScheme.ne_nil {scheme : Text} (h : IsScheme scheme) : scheme ≠ [] := by
  rintro rfl
  exact absurd h.1 Bool.false_ne_true

theorem opening_of_isScheme {scheme : Text} (h : IsScheme scheme) :
    opening scheme = scheme ++ "://" := if_neg h.ne_nil

/-- The scheme of a URL is read from its opening. -/
theorem scheme?_opening {scheme : Text} (h : IsScheme scheme) (behind : Text) :
    scheme? (opening scheme ++ behind) = some (scheme, "//" ++ behind) := by
  have htaken : (scheme ++ "://" ++ behind).takeWhile isSchemeChar = scheme := by
    rw [List.append_assoc, List.takeWhile_append_of_pos h.2]
    show scheme ++ [] = scheme
    exact List.append_nil scheme
  have hpiece : Text.afterPiece? "://" ((scheme ++ "://" ++ behind).drop scheme.length)
      = some behind := by
    rw [List.append_assoc, List.drop_left]
    exact Text.afterPiece?_eq_some_iff.2 rfl
  have hrest : (scheme ++ "://" ++ behind).drop (scheme.length + 1) = "//" ++ behind := by
    have hcolon : scheme ++ "://" ++ behind = (scheme ++ ":") ++ ("//" ++ behind) := by
      rw [List.append_assoc, List.append_assoc]
      rfl
    rw [hcolon, List.drop_left' (by rw [List.length_append]; rfl)]
  rw [opening_of_isScheme h, scheme?, htaken, if_pos h.1, hpiece, Option.map_some, hrest]

/-- What a scheme was read from opens with it. -/
theorem exists_of_scheme? {url : Text} (h : (scheme? url).isSome = true) :
    ∃ scheme behind, IsScheme scheme ∧ url = opening scheme ++ behind := by
  unfold scheme? at h
  simp only at h
  split at h
  · next hletter =>
    rw [Option.isSome_map, Option.isSome_iff_exists] at h
    obtain ⟨behind, hbehind⟩ := h
    have hscheme : IsScheme (url.takeWhile isSchemeChar) :=
      ⟨hletter, List.all_eq_true.1 List.all_takeWhile⟩
    refine ⟨url.takeWhile isSchemeChar, behind, hscheme, ?_⟩
    rw [opening_of_isScheme hscheme, List.append_assoc, ← Text.afterPiece?_eq_some_iff.1 hbehind]
    exact (List.prefix_iff_eq_append.1 (List.takeWhile_prefix _)).symm
  · cases h

/-- An absolute URL opens with a scheme or with the slashes alone. -/
theorem isAbsolute_iff {url : Text} :
    isAbsolute url = true ↔ ∃ scheme behind, MayOpen scheme ∧ url = opening scheme ++ behind := by
  rw [isAbsolute, Bool.or_eq_true, List.isPrefixOf_iff_prefix]
  constructor
  · intro h
    cases h with
    | inl hscheme =>
      obtain ⟨scheme, behind, his, heq⟩ := exists_of_scheme? hscheme
      exact ⟨scheme, behind, .inr his, heq⟩
    | inr hslashes =>
      obtain ⟨behind, rfl⟩ := hslashes
      exact ⟨[], behind, .inl rfl, rfl⟩
  · rintro ⟨scheme, behind, hopen, rfl⟩
    cases hopen with
    | inl hnil =>
      rw [hnil]
      exact .inr ⟨behind, rfl⟩
    | inr his =>
      rw [scheme?_opening his]
      exact .inl rfl

/-- A character of a scheme ends no path and is not ignored. -/
theorem of_isSchemeChar {c : CodePoint} (h : isSchemeChar c = true) :
    endsPath c = false ∧ isIgnored c = false := by
  constructor
  · rw [← Bool.not_eq_true, endsPath, Bool.or_eq_true, beq_iff_eq, beq_iff_eq]
    rintro (rfl | rfl)
    · exact absurd h (by decide)
    · exact absurd h (by decide)
  · rw [← Bool.not_eq_true, isIgnored, Bool.or_eq_true, Bool.or_eq_true, beq_iff_eq, beq_iff_eq,
      beq_iff_eq]
    rintro ((rfl | rfl) | rfl)
    · exact absurd h (by decide)
    · exact absurd h (by decide)
    · exact absurd h (by decide)

/-- An opening holds nothing that ends a path or does not count. -/
theorem of_mem_opening {scheme : Text} (h : MayOpen scheme) {c : CodePoint}
    (hc : c ∈ opening scheme) : endsPath c = false ∧ isIgnored c = false := by
  have hslashes : ∀ c ∈ ("://" : Text), endsPath c = false ∧ isIgnored c = false := by decide
  cases h with
  | inl hnil =>
    rw [hnil] at hc
    exact hslashes c (List.mem_cons_of_mem _ hc)
  | inr his =>
    rw [opening_of_isScheme his, List.mem_append] at hc
    cases hc with
    | inl hc => exact of_isSchemeChar (his.2 c hc)
    | inr hc => exact hslashes c hc

-- ============================================================ behind the opening

/-- A text without what does not count in a URL. -/
def cleaned (t : Text) : Text := t.filter (!isIgnored ·)

/-- The host and the path behind an opening, both as they count. -/
def hostBehind (behind : Text) : Text := (cleaned behind).takeWhile (!endsHost ·)

def stemBehind (behind : Text) : Text := stem ((cleaned behind).dropWhile (!endsHost ·))

/-- A path without parameters if its scheme is one that has them. -/
def withoutOwnParameters (scheme path : Text) : Text :=
  if schemesWithParameters.contains (Text.lower scheme) then withoutParameters path else path

/-- A text without ignored characters is kept whole. -/
theorem cleaned_eq_self {t : Text} (h : ∀ c ∈ t, isIgnored c = false) : cleaned t = t := by
  apply List.filter_eq_self.2
  intro c hc
  rw [h c hc]
  rfl

theorem cleaned_append {front : Text} (h : ∀ c ∈ front, isIgnored c = false) (t : Text) :
    cleaned (front ++ t) = front ++ cleaned t := by
  rw [cleaned, List.filter_append, ← cleaned, ← cleaned, cleaned_eq_self h]

/-- The opening of a URL is read as its scheme, and what is behind as the rest. -/
theorem read_opening {scheme : Text} (h : MayOpen scheme) (behind : Text) :
    (scheme? (cleaned (opening scheme ++ behind))).getD ([], cleaned (opening scheme ++ behind))
      = (scheme, "//" ++ cleaned behind) := by
  rw [cleaned_append fun c hc => (of_mem_opening h hc).2]
  cases h with
  | inl hnil =>
    rw [hnil]
    rfl
  | inr his =>
    rw [scheme?_opening his]
    rfl

/-- The host is read behind the opening. -/
theorem hostPart_opening {scheme : Text} (h : MayOpen scheme) (behind : Text) :
    hostPart (opening scheme ++ behind) = hostBehind behind := by
  unfold hostPart
  simp only
  rw [← cleaned, read_opening h]
  rfl

/-- The path is read behind the host, without the parameters of the scheme. -/
theorem pathBehind_opening {scheme : Text} (h : MayOpen scheme) (behind : Text) :
    pathBehind (opening scheme ++ behind) = withoutOwnParameters scheme (stemBehind behind) := by
  unfold pathBehind
  simp only
  rw [← cleaned, read_opening h, stem_eq]
  rfl

-- ================================================================== parameters

/-- A text is what stands up to its last separator, and what follows. -/
theorem append_afterLast (sep : CodePoint) (t : Text) :
    t.take (t.length - (Text.afterLast sep t).length) ++ Text.afterLast sep t = t := by
  have hsuffix : Text.afterLast sep t <:+ t := by
    rw [Text.afterLast, ← List.reverse_prefix, List.reverse_reverse]
    exact List.takeWhile_prefix _
  have hdrop := List.suffix_iff_eq_drop.1 hsuffix
  calc t.take (t.length - (Text.afterLast sep t).length) ++ Text.afterLast sep t
      = t.take (t.length - (Text.afterLast sep t).length)
        ++ t.drop (t.length - (Text.afterLast sep t).length) := by rw [← hdrop]
    _ = t := List.take_append_drop ..

/-- A path whose last segment has no semicolon has no parameters. -/
theorem withoutParameters_of_not_mem {path : Text}
    (h : (';' : CodePoint) ∉ Text.afterLast '/' path) : withoutParameters path = path := by
  unfold withoutParameters
  simp only
  rw [Text.before_of_not_mem h, append_afterLast]

/-- Taking parameters off takes off a semicolon. -/
theorem count_withoutParameters_lt {path : Text}
    (h : (';' : CodePoint) ∈ Text.afterLast '/' path) :
    (withoutParameters path).count (.char ';') < path.count (.char ';') := by
  have hbefore : (Text.before ';' (Text.afterLast '/' path)).count (.char ';') = 0 :=
    List.count_eq_zero_of_not_mem (Text.not_mem_before ';' _)
  have hlast : 0 < (Text.afterLast '/' path).count (.char ';') := List.count_pos_iff.2 h
  have hpath := congrArg (List.count (.char ';')) (append_afterLast '/' path)
  rw [List.count_append] at hpath
  unfold withoutParameters
  simp only
  rw [List.count_append, hbefore]
  omega

/-- To leave out parameters leaves the rest in order. -/
theorem withoutOwnParameters_sublist (scheme path : Text) :
    (withoutOwnParameters scheme path).Sublist path := by
  unfold withoutOwnParameters
  split
  · exact withoutParameters_sublist path
  · exact .refl path

/-- Where no semicolon is taken off, nothing is. -/
theorem withoutOwnParameters_of_count {scheme path : Text}
    (h : path.count (.char ';') ≤ (withoutOwnParameters scheme path).count (.char ';')) :
    withoutOwnParameters scheme path = path := by
  unfold withoutOwnParameters at h ⊢
  split
  · next hhas =>
    rw [if_pos hhas] at h
    apply withoutParameters_of_not_mem
    intro hmem
    exact absurd (count_withoutParameters_lt hmem) (Nat.not_lt.2 h)
  · rfl

-- ======================================================= the path behind a host

/-- What ends no host ends no path. -/
theorem endsPath_of_endsHost {c : CodePoint} (h : endsHost c = false) : endsPath c = false := by
  rw [endsHost, Bool.or_eq_false_iff, Bool.or_eq_false_iff] at h
  rw [endsPath, h.1.2, h.2]
  rfl

/-- What does not count may be taken out before or after the cut. -/
theorem stem_cleaned (t : Text) : stem (cleaned t) = cleaned (stem t) := by
  induction t with
  | nil => rfl
  | cons c rest ih =>
    cases hends : endsPath c with
    | true =>
      have hnil : ∀ t, stem (c :: t) = [] := fun t => stem_append_cons hends [] t
      rw [cleaned, List.filter_cons_of_pos (by rw [(of_endsPath hends).1]; rfl), hnil, hnil]
      rfl
    | false =>
      have hcons : ∀ t, stem (c :: t) = c :: stem t := by
        intro t
        apply List.takeWhile_cons_of_pos
        rw [hends]
        rfl
      rw [hcons, cleaned, cleaned, List.filter_cons, List.filter_cons, ← cleaned, ← cleaned]
      split
      · rw [hcons, ih]
      · exact ih

/-- The path behind a host is found in what stands before query and fragment. -/
theorem stemBehind_sublist (behind : Text) : (stemBehind behind).Sublist (stem behind) := by
  have hhost : ∀ c ∈ hostBehind behind, endsPath c = false := by
    intro c hc
    have hstays := List.mem_takeWhile_imp hc
    rw [Bool.not_eq_true'] at hstays
    exact endsPath_of_endsHost hstays
  have hstem : stem (cleaned behind) = hostBehind behind ++ stemBehind behind := by
    rw [stemBehind, ← stem_append hhost, hostBehind, List.takeWhile_append_dropWhile]
  have hsub : (stemBehind behind).Sublist (stem (cleaned behind)) := by
    rw [hstem]
    exact List.sublist_append_right ..
  rw [stem_cleaned] at hsub
  exact hsub.trans List.filter_sublist

/-- A character that does not end the host is no part of the path. -/
theorem stemBehind_cons {c : CodePoint} (h : endsHost c = false) (behind : Text) :
    stemBehind (c :: behind) = stemBehind behind := by
  rw [stemBehind, stemBehind, cleaned, List.filter_cons]
  split
  · rw [List.dropWhile_cons_of_pos (by rw [h]; rfl)]
    rfl
  · rfl

/-- A front that belongs to the host is no part of the path. -/
theorem stemBehind_append {front : Text} (h : ∀ c ∈ front, endsHost c = false) (behind : Text) :
    stemBehind (front ++ behind) = stemBehind behind := by
  induction front with
  | nil => rfl
  | cons c rest ih =>
    rw [List.forall_mem_cons] at h
    rw [List.cons_append, stemBehind_cons h.1, ih h.2]

/-- Where a text has the end of the host and nothing that ends the path, the path
starts in it and goes on behind it. -/
theorem stemBehind_append_of_dropWhile {front place : Text}
    (plain : ∀ c ∈ front, endsPath c = false ∧ isIgnored c = false)
    (hplace : front.dropWhile (!endsHost ·) = place) (hne : place ≠ []) (behind : Text) :
    stemBehind (front ++ behind) = place ++ stem (cleaned behind) := by
  have hpath : ∀ c ∈ place, endsPath c = false := by
    intro c hc
    rw [← hplace] at hc
    exact (plain c ((List.dropWhile_sublist _).subset hc)).1
  have hdropped : (front.dropWhile (!endsHost ·)).isEmpty = false := by
    rw [hplace, List.isEmpty_eq_false_iff]
    exact hne
  have hcounts : ∀ c ∈ front, isIgnored c = false := fun c hc => (plain c hc).2
  rw [stemBehind, cleaned_append hcounts, List.dropWhile_append, hdropped,
    if_neg Bool.false_ne_true, hplace, stem_append hpath]

end Url

namespace Path

open Url

/-- A path is made canonical of what stands before its query and fragment. -/
theorem canonical_eq (path : Text) : canonical path = ofSegments (segments (stem path)) := by
  rw [canonical, before_before_stem]

/-- A URL that names no host is a path as it stands. -/
theorem routePattern_of_path {url : Text} (h : isAbsolute url = false) :
    routePattern url [] = .ok (canonical url) := by
  unfold routePattern
  simp only [List.isEmpty_nil, if_true, h, Bool.false_eq_true, if_false]
  rfl

/-- A URL that names a host has a pattern if there is nothing wrong with the host. -/
theorem routePattern_opening {scheme : Text} (h : MayOpen scheme) (behind : Text) :
    routePattern (opening scheme ++ behind) []
      = (Host.check (hostBehind behind)).map fun _ =>
          canonical (withoutOwnParameters scheme (stemBehind behind)) := by
  have habsolute : isAbsolute (opening scheme ++ behind) = true :=
    isAbsolute_iff.2 ⟨scheme, behind, h, rfl⟩
  rw [routePattern_eq, patternOf, withoutBase, List.isEmpty_nil, if_pos rfl, if_pos habsolute,
    if_pos habsolute, hostPart_opening h, pathBehind_opening h]

end Path

end MockApi
