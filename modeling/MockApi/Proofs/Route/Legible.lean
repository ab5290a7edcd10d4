/-
URLs whose path can be told. Only a URL that names a host can be one whose path
cannot, and then it is the check on the host that refuses it
(`routePattern_isOk_iff`). A path holds nothing but slashes more often than its URL.
-/
import Mathlib.Data.List.Flatten
import MockApi.Proofs.Outcome
import MockApi.Proofs.Route.Path
import MockApi.Text.Digit

namespace MockApi

-- =================================================================== hosts

/-- There is nothing wrong with a host that has neither brackets nor characters
that decompose into delimiters. -/
theorem Host.check_of_plain {part : Text}
    (plain : ∀ c ∈ part, c ≠ '[' ∧ c ≠ ']' ∧ Text.inRanges confusables c = false) :
    check part = .ok () := by
  have hopen : part.contains '[' = false := by
    rw [← Bool.not_eq_true, List.contains_iff_mem]
    exact fun hmem => (plain _ hmem).1 rfl
  have hclose : part.contains ']' = false := by
    rw [← Bool.not_eq_true, List.contains_iff_mem]
    exact fun hmem => (plain _ hmem).2.1 rfl
  have hconfusable : part.any (Text.inRanges confusables) = false := by
    rw [List.any_eq_false]
    intro c hc
    rw [(plain c hc).2.2]
    decide
  unfold check
  simp only [hopen, hclose, hconfusable]
  rfl

namespace Url

/-- What is checked of an absolute URL: the part between the slashes. -/
def hostPart (url : Text) : Text :=
  let url := url.filter (!isIgnored ·)
  (((scheme? url).getD ([], url)).2.drop 2).takeWhile (!endsHost ·)

/-- The path of an absolute URL whose host is in order. -/
def pathBehind (url : Text) : Text :=
  let url := url.filter (!isIgnored ·)
  let (scheme, rest) := (scheme? url).getD ([], url)
  let path := Text.before '?' (Text.before '#' ((rest.drop 2).dropWhile (!endsHost ·)))
  if schemesWithParameters.contains (Text.lower scheme) then withoutParameters path else path

/-- The path is told if the host is in order. -/
theorem path_eq (url : Text) :
    path url = (Host.check (hostPart url)).map fun _ => pathBehind url := by
  unfold path hostPart pathBehind
  simp only
  cases Host.check _ with
  | error cause => rfl
  | ok checked => rfl

/-- What is left behind a scheme is the end of the URL. -/
theorem scheme?_sublist {url scheme rest : Text} (h : scheme? url = some (scheme, rest)) :
    rest.Sublist url := by
  unfold scheme? at h
  simp only at h
  split at h
  · obtain ⟨behind, -, hread⟩ := Option.map_eq_some_iff.1 h
    rw [← (Prod.mk.inj hread).2]
    exact List.drop_sublist ..
  · cases h

/-- What stands behind the scheme stands in the URL. -/
theorem behindScheme_sublist (url : Text) :
    ((scheme? (url.filter (!isIgnored ·))).getD ([], url.filter (!isIgnored ·))).2.Sublist url := by
  cases hscheme : scheme? (url.filter (!isIgnored ·)) with
  | none => exact List.filter_sublist
  | some read => exact (scheme?_sublist hscheme).trans List.filter_sublist

theorem hostPart_sublist (url : Text) : (hostPart url).Sublist url :=
  (List.takeWhile_sublist _).trans <| (List.drop_sublist ..).trans (behindScheme_sublist url)

/-- A path without its parameters is some of it, in order. -/
theorem withoutParameters_sublist (path : Text) : (withoutParameters path).Sublist path := by
  have hsuffix : Text.afterLast '/' path <:+ path := by
    rw [Text.afterLast, ← List.reverse_prefix, List.reverse_reverse]
    exact List.takeWhile_prefix _
  have hlast := List.suffix_iff_eq_drop.1 hsuffix
  have hfront : (Text.before ';' (Text.afterLast '/' path)).Sublist
      (path.drop (path.length - (Text.afterLast '/' path).length)) := by
    rw [← hlast]
    exact List.takeWhile_sublist _
  have hpath := hfront.append_left (path.take (path.length - (Text.afterLast '/' path).length))
  rw [List.take_append_drop] at hpath
  exact hpath

/-- The path of a URL is some of it, in order. -/
theorem pathBehind_sublist (url : Text) : (pathBehind url).Sublist url := by
  unfold pathBehind
  simp only
  have hrest := behindScheme_sublist url
  generalize (scheme? (url.filter (!isIgnored ·))).getD ([], url.filter (!isIgnored ·)) = read
    at hrest
  have hpath : (Text.before '?' (Text.before '#'
      ((read.2.drop 2).dropWhile (!endsHost ·)))).Sublist url :=
    (List.takeWhile_sublist _).trans <| (List.takeWhile_sublist _).trans <|
      (List.dropWhile_sublist _).trans <| (List.drop_sublist ..).trans hrest
  split
  · exact (withoutParameters_sublist _).trans hpath
  · exact hpath

end Url

-- ============================================================ route patterns

namespace Path

/-- The URL without a base URL in front of it. -/
def withoutBase (url base : Text) : Text :=
  if base.isEmpty then url else (Text.afterPiece? base url).getD url

/-- A URL without its base is some of it, in order. -/
theorem withoutBase_sublist (url base : Text) : (withoutBase url base).Sublist url := by
  unfold withoutBase Text.afterPiece?
  split
  · exact .refl url
  · split
    · exact List.drop_sublist ..
    · exact .refl url

/-- Behind the base URL, there is nothing wrong with the host if one is named. -/
def IsLegible (url base : Text) : Prop :=
  Url.isAbsolute (withoutBase url base) = true →
    Host.check (Url.hostPart (withoutBase url base)) = .ok ()

/-- The route pattern of a URL that is legible. -/
def patternOf (url base : Text) : Text :=
  canonical (if Url.isAbsolute (withoutBase url base) then Url.pathBehind (withoutBase url base)
    else withoutBase url base)

/-- A URL has the pattern of its path if its host passes, and one that is not absolute has
no host to check. -/
theorem routePattern_eq (url base : Text) :
    routePattern url base
      = (if Url.isAbsolute (withoutBase url base) then
          Host.check (Url.hostPart (withoutBase url base))
        else .ok ()).map fun _ => patternOf url base := by
  change (do
    let path ← if Url.isAbsolute (withoutBase url base) then Url.path (withoutBase url base)
      else pure (withoutBase url base)
    return canonical path) = _
  unfold patternOf
  split
  · rw [Url.path_eq]
    cases Host.check (Url.hostPart (withoutBase url base)) <;> rfl
  · rfl

/-- A URL has a route pattern if and only if it is legible. -/
theorem routePattern_isOk_iff (url base : Text) :
    (routePattern url base).isOk = true ↔ IsLegible url base := by
  rw [routePattern_eq, isOk_map, IsLegible]
  split
  · next habsolute =>
    rw [isOk_iff_exists]
    constructor
    · rintro ⟨⟨⟩, hchecked⟩ -
      exact hchecked
    · intro h
      exact ⟨(), h habsolute⟩
  · next habsolute => exact iff_of_true rfl fun h => absurd h habsolute

/-- A URL with neither brackets nor characters that decompose into delimiters is
legible, whatever the base URL. -/
theorem isLegible_of_plain {url : Text}
    (plain : ∀ c ∈ url, c ≠ '[' ∧ c ≠ ']' ∧ Text.inRanges Host.confusables c = false)
    (base : Text) : IsLegible url base := by
  intro _
  have hpart : (Url.hostPart (withoutBase url base)).Sublist url :=
    (Url.hostPart_sublist _).trans (withoutBase_sublist url base)
  exact Host.check_of_plain fun c hc => plain c (hpart.subset hc)

-- ==================================================================== digits

/-- What stands between slashes stands in the text. -/
theorem flatten_segments_sublist (path : Text) : (segments path).flatten.Sublist path := by
  have hsplit : (Text.splitOn '/' path).flatten.Sublist path := by
    induction path with
    | nil => exact .slnil
    | cons c rest ih =>
      rw [Text.splitOn]
      split
      · exact ih.cons c
      · split
        · exact List.singleton_sublist.2 List.mem_cons_self
        · next piece pieces hpieces =>
          rw [hpieces] at ih
          exact ih.cons_cons c
  exact List.filter_sublist.flatten.trans hsplit

variable {p : CodePoint → Bool}

/-- What is counted but slashes is as often in a path as in its segments. -/
theorem countP_join (hp : p '/' = false) (parts : List Text) :
    (Text.join "/" parts).countP p = parts.flatten.countP p := by
  have hslash : ("/" : Text).countP p = 0 := by
    rw [List.countP_eq_zero]
    intro c hc
    obtain rfl : c = '/' := List.mem_singleton.1 hc
    exact Bool.eq_false_iff.1 hp
  unfold Text.join
  induction parts with
  | nil => rfl
  | cons first rest ih =>
    cases rest with
    | nil => rw [List.intercalate_singleton, List.flatten_singleton]
    | cons second rest =>
      rw [List.intercalate_cons_cons, List.countP_append, List.countP_append, ih, hslash,
        Nat.add_zero, ← List.countP_append]
      rfl

theorem countP_ofSegments (hp : p '/' = false) (parts : List Text) :
    (ofSegments parts).countP p = parts.flatten.countP p := by
  rw [ofSegments, List.countP_cons_of_neg (Bool.eq_false_iff.1 hp), countP_join hp]

theorem countP_segments (hp : p '/' = false) (path : Text) :
    (segments path).flatten.countP p = path.countP p := by
  rw [segments, List.flatten_filter_not_isEmpty, ← countP_join hp]
  exact congrArg (List.countP p) (Text.join_splitOn '/' path)

/-- The canonical form of a path has no more of any such kind. -/
theorem countP_canonical (hp : p '/' = false) (path : Text) :
    (canonical path).countP p ≤ path.countP p := by
  rw [canonical, countP_ofSegments hp]
  exact ((flatten_segments_sublist _).trans <|
    (List.takeWhile_sublist _).trans (List.takeWhile_sublist _)).countP_le

/-- A route pattern has no more of anything but slashes than the URL. -/
theorem countP_routePattern {url base pattern : Text} (hp : p '/' = false)
    (h : routePattern url base = .ok pattern) : pattern.countP p ≤ url.countP p := by
  rw [routePattern_eq] at h
  obtain ⟨-, -, rfl⟩ := map_eq_ok.1 h
  rw [patternOf]
  refine Nat.le_trans (countP_canonical hp _) ?_
  split
  · exact ((Url.pathBehind_sublist _).trans (withoutBase_sublist ..)).countP_le
  · exact (withoutBase_sublist ..).countP_le

-- ================================================================== segments

variable {url part : Text} {parts : List Text}

/-- A URL has the pattern that is made of its segments. -/
theorem of_routeSegments (h : routeSegments url = .ok parts) :
    routePattern url [] = .ok (ofSegments parts) ∧ ∀ s ∈ parts, IsSegment s := by
  obtain ⟨pattern, hpattern, rfl⟩ := map_eq_ok.1 h
  obtain ⟨-, -, heq⟩ := map_eq_ok.1 ((routePattern_eq url []).symm.trans hpattern)
  obtain ⟨own, hown, hsegments⟩ :=
    exists_ofSegments (if Url.isAbsolute (withoutBase url []) then
      Url.pathBehind (withoutBase url []) else withoutBase url [])
  rw [patternOf, hown] at heq
  subst heq
  rw [segments_ofSegments hsegments]
  exact ⟨hpattern, hsegments⟩

/-- A segment of a URL has no more of anything but slashes than the URL. -/
theorem countP_of_mem_routeSegments (hp : p '/' = false) (h : routeSegments url = .ok parts)
    (hpart : part ∈ parts) : part.countP p ≤ url.countP p := by
  obtain ⟨pattern, hpattern, rfl⟩ := map_eq_ok.1 h
  have hsublist := (List.sublist_flatten_of_mem hpart).trans (flatten_segments_sublist pattern)
  exact Nat.le_trans hsublist.countP_le (countP_routePattern hp hpattern)

/-- What stands in a segment stands in the URL. -/
theorem mem_of_mem_routeSegments {c : CodePoint} (h : routeSegments url = .ok parts)
    (hpart : part ∈ parts) (hc : c ∈ part) : c ∈ url := by
  have hslash : c ≠ '/' := by
    rintro rfl
    exact ((of_routeSegments h).2 part hpart).slash hc
  have hle := countP_of_mem_routeSegments (p := (· == c)) (beq_false_of_ne hslash.symm) h hpart
  have hpos : 0 < part.count c := List.count_pos_iff.2 hc
  exact List.count_pos_iff.1 (Nat.lt_of_lt_of_le hpos hle)

end Path

end MockApi
