/-
What is taken off a URL that is taken for a path.

A base URL is taken off as a text. Where it ends within a segment or a host, the rest
of that becomes a segment of its own, and the pattern is never the one that the URL
has without a base (`base_cut_anywhere`): canonical paths have the same characters
but for slashes, and the path has one more of those that the base ends with, or one
less of those that go on behind it.

An origin is taken off as a base or as a host, and what is left differs by the
parameters of the last segment alone (`origin_agrees_iff`).
-/
import MockApi.Mock.Bundle
import MockApi.Proofs.Route.Absolute
import MockApi.Proofs.Text.Case

namespace MockApi.Path

open Url

variable {base tail origin path : Text}

-- ==================================================================== counting

/-- A canonical path has every character but the slash as often as the path has it
before its query and fragment. -/
theorem count_canonical {c : CodePoint} (hc : c ≠ '/') (path : Text) :
    (canonical path).count c = (stem path).count c := by
  have hslash : ((.char '/' : CodePoint) == c) = false := by
    rw [beq_eq_false_iff_ne]
    exact hc.symm
  rw [canonical_eq]
  exact (countP_ofSegments hslash _).trans (countP_segments hslash _)

theorem count_stem_eq {c : CodePoint} (hc : c ≠ '/') {path other : Text}
    (h : canonical path = canonical other) : (stem path).count c = (stem other).count c := by
  rw [← count_canonical hc, ← count_canonical hc, h]

/-- What is part of a stem is a stem. -/
theorem stem_of_sublist {t : Text} (h : t.Sublist (stem path)) : stem t = t := by
  apply List.takeWhile_eq_self_iff.2
  intro c hc
  exact List.mem_takeWhile_imp (p := (!endsPath ·)) (h.subset hc)

-- =============================================================== the base URL

/-- A base URL is cut off as a text. What is left is read as if it stood alone. -/
theorem routePattern_base (base tail : Text) :
    routePattern (base ++ tail) base = routePattern tail [] := by
  have hcut : withoutBase (base ++ tail) base = withoutBase tail [] := by
    have hpiece : Text.afterPiece? base (base ++ tail) = some tail :=
      Text.afterPiece?_eq_some_iff.2 rfl
    unfold withoutBase
    rw [hpiece]
    cases base with
    | nil => rfl
    | cons c rest => rfl
  rw [routePattern_eq, routePattern_eq, patternOf, patternOf, hcut]

/-- The bundle of one endpoint has its pattern as its key. -/
theorem keys_of_build_one {g : Generator} {statefulPosts : Bool} {call : Call}
    {chance rest : Chance} {bundle : Bundle} {pattern : Text}
    (hpattern : routePattern call.url g.config.baseUrl = .ok pattern)
    (h : Bundle.build g statefulPosts [call] chance = .ok (bundle, rest)) :
    bundle.map (·.1) = [pattern] := by
  obtain ⟨b, hfold, h⟩ := bind_eq_ok.1 h
  obtain ⟨rfl, -⟩ := Prod.mk.inj (Except.ok.inj h)
  obtain ⟨added, hadd, hfold⟩ := bind_eq_ok.1 hfold
  obtain rfl := Except.ok.inj hfold
  unfold Bundle.add at hadd
  rw [hpattern] at hadd
  obtain ⟨read, hread, hadd⟩ := bind_eq_ok.1 hadd
  obtain rfl : pattern = read := Except.ok.inj hread
  obtain ⟨⟨definition, chance'⟩, -, hadd⟩ := bind_eq_ok.1 hadd
  rw [← Except.ok.inj hadd]
  rfl

/-- A base URL that ends within a segment or a host, and holds nothing that ends a
path, starts parameters or does not count. -/
structure IsPlainBase (base : Text) : Prop where
  last : ∃ c, base.getLast? = some c ∧ c ≠ '/'
  plain : ∀ c ∈ base, endsPath c = false ∧ isIgnored c = false ∧ c ≠ ';'

/-- A text that goes on where a segment or a host was cut, and names no host. -/
structure IsContinuation (tail : Text) : Prop where
  first : ∃ c rest, tail = c :: rest ∧ endsHost c = false
  path : isAbsolute tail = false

/-- The path behind an opening that ends within a continuation is found behind the
first character of the continuation. -/
theorem stemBehind_sublist_rest {c : CodePoint} {rest more behind : Text}
    (hc : endsHost c = false) (hmore : ∀ d ∈ more, endsPath d = false)
    (h : c :: rest = more ++ behind) : (stemBehind behind).Sublist (stem rest) := by
  cases more with
  | nil =>
    rw [List.nil_append] at h
    rw [← h, stemBehind_cons hc]
    exact stemBehind_sublist rest
  | cons d others =>
    have hrest : rest = others ++ behind := (List.cons.inj h).2
    have hothers : ∀ d ∈ others, endsPath d = false :=
      fun d hd => hmore d (List.mem_cons_of_mem _ hd)
    rw [hrest, stem_append hothers]
    exact (stemBehind_sublist behind).trans (List.sublist_append_right ..)

/-- So it lacks the first character of the continuation once. -/
theorem canonical_ne_of_sublist {c : CodePoint} {rest path : Text} (scheme : Text)
    (hc : endsHost c = false) (h : path.Sublist (stem rest)) :
    canonical (withoutOwnParameters scheme path) ≠ canonical (c :: rest) := by
  intro heq
  have hslash : c ≠ '/' := by
    rintro rfl
    exact absurd hc (by decide)
  have hpath : (withoutOwnParameters scheme path).Sublist (stem rest) :=
    (withoutOwnParameters_sublist scheme path).trans h
  have hcount := count_stem_eq hslash heq
  have hfirst : stem (c :: rest) = c :: stem rest := by
    apply List.takeWhile_cons_of_pos
    rw [endsPath_of_endsHost hc]
    rfl
  rw [stem_of_sublist hpath, hfirst, List.count_cons_self] at hcount
  have hle := hpath.count_le c
  omega

/-- A path that starts in the base has the last character of the base once more than
the continuation. Only the parameters of the last segment could make up for it, and
their semicolon is one that the base has not. -/
theorem canonical_ne_of_append {place tail : Text} (scheme : Text)
    (plain : ∀ c ∈ place, endsPath c = false ∧ isIgnored c = false ∧ c ≠ ';')
    {c : CodePoint} (hmem : c ∈ place) (hslash : c ≠ '/') :
    canonical (withoutOwnParameters scheme (place ++ stem (cleaned tail))) ≠ canonical tail := by
  intro heq
  have hstem : place ++ stem (cleaned tail) = stem (place ++ cleaned tail) :=
    (stem_append (fun d hd => (plain d hd).1) _).symm
  -- if both were the same, each character but the slash would be there as often
  have hcount : ∀ d : CodePoint, d ≠ '/' →
      (withoutOwnParameters scheme (place ++ stem (cleaned tail))).count d
        = (stem tail).count d := by
    intro d hd
    have hsub := withoutOwnParameters_sublist scheme (place ++ stem (cleaned tail))
    rw [hstem] at hsub
    have hcounts := count_stem_eq hd heq
    rw [hstem, stem_of_sublist hsub, ← hstem] at hcounts
    exact hcounts
  have hnone : place.count (.char ';') = 0 :=
    List.count_eq_zero_of_not_mem fun hsemicolon => (plain _ hsemicolon).2.2 rfl
  have hcleaned : ∀ d, (stem (cleaned tail)).count d ≤ (stem tail).count d := by
    intro d
    rw [stem_cleaned]
    exact List.filter_sublist.count_le d
  -- the semicolons are all in the tail, so no parameters are cut off
  have hkept : withoutOwnParameters scheme (place ++ stem (cleaned tail))
      = place ++ stem (cleaned tail) := by
    apply withoutOwnParameters_of_count
    rw [hcount _ (by decide), List.count_append, hnone, Nat.zero_add]
    exact hcleaned _
  have hsame : (stem (cleaned tail)).count c = (stem tail).count c := by
    rw [stem_cleaned]
    apply List.count_filter
    rw [(plain c hmem).2.1]
    rfl
  -- but then the character of the place is there once more
  have hlast := hcount c hslash
  have hpos : 0 < place.count c := List.count_pos_iff.2 hmem
  rw [hkept, List.count_append, hsame] at hlast
  omega

/-- The pattern of a URL that is cut within a segment or a host is never what goes on
behind the cut. -/
theorem routePattern_ne_canonical (hbase : IsPlainBase base) (htail : IsContinuation tail) :
    routePattern (base ++ tail) [] ≠ .ok (canonical tail) := by
  intro hwhole
  obtain ⟨c, rest, rfl, hc⟩ := htail.first
  obtain ⟨last, hlast, hslash⟩ := hbase.last
  cases habsolute : isAbsolute (base ++ c :: rest) with
  | false =>
    rw [routePattern_of_path habsolute] at hwhole
    have hcount := count_stem_eq hslash (Except.ok.inj hwhole)
    rw [stem_append fun d hd => (hbase.plain d hd).1, List.count_append] at hcount
    have hpos : 0 < base.count last := List.count_pos_iff.2 (List.mem_of_getLast? hlast)
    omega
  | true =>
    obtain ⟨scheme, behind, hopen, heq⟩ := isAbsolute_iff.1 habsolute
    rw [heq, routePattern_opening hopen] at hwhole
    obtain ⟨-, -, hpattern⟩ := map_eq_ok.1 hwhole
    rcases List.append_eq_append_iff.1 heq with ⟨more, hopening, htail⟩ | ⟨more, hmore, hbehind⟩
    · -- the base ends in the opening, and the host goes on behind it
      have hplain : ∀ d ∈ more, endsPath d = false := by
        intro d hd
        apply (of_mem_opening hopen _).1
        rw [hopening]
        exact List.mem_append_right _ hd
      exact canonical_ne_of_sublist scheme hc (stemBehind_sublist_rest hc hplain htail) hpattern
    · have hplain : ∀ d ∈ more, endsPath d = false ∧ isIgnored d = false ∧ d ≠ ';' := by
        intro d hd
        apply hbase.plain
        rw [hmore]
        exact List.mem_append_right _ hd
      cases hplace : more.dropWhile (!endsHost ·) with
      | nil =>
        -- the base ends in the host, which goes on behind it
        have hhost : ∀ d ∈ more, endsHost d = false := by
          intro d hd
          have hstays := List.dropWhile_eq_nil_iff.1 hplace d hd
          rw [Bool.not_eq_true'] at hstays
          exact hstays
        rw [hbehind, stemBehind_append hhost, stemBehind_cons hc] at hpattern
        exact canonical_ne_of_sublist scheme hc (stemBehind_sublist rest) hpattern
      | cons first others =>
        -- the base ends in the path
        have hne := List.cons_ne_nil first others
        have hsuffix : first :: others <:+ more := by
          rw [← hplace]
          exact List.dropWhile_suffix _
        have hmem : last ∈ first :: others := by
          obtain ⟨front, hfront⟩ := hsuffix
          rw [hmore, ← hfront, List.getLast?_append, List.getLast?_append,
            List.getLast?_eq_some_getLast hne] at hlast
          rw [← Option.some.inj hlast]
          exact List.getLast_mem _
        have hcounts : ∀ d ∈ more, endsPath d = false ∧ isIgnored d = false :=
          fun d hd => ⟨(hplain d hd).1, (hplain d hd).2.1⟩
        rw [hbehind, stemBehind_append_of_dropWhile hcounts hplace hne] at hpattern
        exact canonical_ne_of_append scheme (fun d hd => hplain d (hsuffix.subset hd)) hmem hslash
          hpattern

/-- A base URL is cut off wherever it ends. If that is within a segment or a host, what
goes on behind it is taken for a path of its own, in a pattern and in a bundle, and the
pattern is never the one that the URL has without a base. -/
theorem base_cut_anywhere (hbase : IsPlainBase base) (htail : IsContinuation tail) :
    routePattern (base ++ tail) base = .ok (canonical tail)
      ∧ routePattern (base ++ tail) [] ≠ routePattern (base ++ tail) base
      ∧ ∀ (g : Generator) (statefulPosts : Bool) (method : Text) (chance rest : Chance)
        (bundle : Bundle), g.config.baseUrl = base →
        Bundle.build g statefulPosts [⟨method, base ++ tail⟩] chance = .ok (bundle, rest) →
        bundle.map (·.1) = [canonical tail] := by
  have hcut : routePattern (base ++ tail) base = .ok (canonical tail) := by
    rw [routePattern_base]
    exact routePattern_of_path htail.path
  refine ⟨hcut, ?_, ?_⟩
  · rw [hcut]
    exact routePattern_ne_canonical hbase htail
  · rintro g statefulPosts method chance rest bundle rfl hbuilt
    apply keys_of_build_one _ hbuilt
    exact hcut

/-- A generator with a base URL. -/
def basedOn (base : Text) : Generator where
  config := { baseUrl := base }
  now := ⟨2024, 1, 1, 0, 0, 0⟩

/-- A base that ends within a segment. -/
def apiBase : Text := "http://localhost:8080/api"

/-- The rest of that segment, and more. -/
def apiaryTail : Text := "ary/bees;age=1?x=/#y"

/-- A base that ends within a word is cut off there, and a bundle gets the rest as
its pattern. -/
theorem base_cut_anywhere_apiary :
    IsPlainBase apiBase ∧ IsContinuation apiaryTail
      ∧ routePattern (apiBase ++ apiaryTail) apiBase = .ok "/ary/bees;age=1"
      ∧ routePattern (apiBase ++ apiaryTail) [] ≠ .ok "/ary/bees;age=1"
      ∧ ∃ bundle rest,
        Bundle.build (basedOn apiBase) false [⟨"GET", apiBase ++ apiaryTail⟩] ⟨[]⟩
          = .ok (bundle, rest)
        ∧ bundle.map (·.1) = ["/ary/bees;age=1"] := by
  have hbase : IsPlainBase apiBase := ⟨⟨'i', by decide +kernel, by decide⟩, by decide +kernel⟩
  have htail : IsContinuation apiaryTail :=
    ⟨⟨'a', "ry/bees;age=1?x=/#y", by decide +kernel, by decide⟩, by decide +kernel⟩
  have hcanonical : canonical apiaryTail = "/ary/bees;age=1" := by decide +kernel
  have hok : (Bundle.build (basedOn apiBase) false
      [⟨"GET", apiBase ++ apiaryTail⟩] ⟨[]⟩).isOk = true := by decide +kernel
  obtain ⟨⟨bundle, rest⟩, hbuilt⟩ := exists_of_isOk hok
  obtain ⟨hcut, hother, hbundle⟩ := base_cut_anywhere hbase htail
  have hkeys := hbundle (basedOn apiBase) false "GET" ⟨[]⟩ rest bundle rfl hbuilt
  rw [hcut] at hother
  rw [hcanonical] at hcut hother hkeys
  exact ⟨hbase, htail, hcut, hother, bundle, rest, hbuilt, hkeys⟩

/-- A base that ends within a host leaves the rest of the host as a segment. -/
theorem host_cut :
    routePattern (("http://host" : Text) ++ "ing.example.com/v1") "http://host"
        = .ok "/ing.example.com/v1"
      ∧ routePattern (("http://host" : Text) ++ "ing.example.com/v1") [] = .ok "/v1" := by
  decide +kernel

-- ==================================================================== origins

/-- A character of a host name. -/
def isHostChar (c : CodePoint) : Bool :=
  Text.isAsciiLetter c || Text.isAsciiDigit c || c == '.' || c == '-'

/-- No port, or one in decimal digits. -/
def IsPort (port : Text) : Prop :=
  port = [] ∨ ∃ digits : Text, (∀ c ∈ digits, Text.isAsciiDigit c = true) ∧ port = ":" ++ digits

/-- A scheme of the web, the name of a host and perhaps a port. -/
def IsOrigin (origin : Text) : Prop :=
  ∃ scheme host port : Text, (scheme = "http" ∨ scheme = "https")
    ∧ (∀ c ∈ host, isHostChar c = true) ∧ IsPort port
    ∧ origin = scheme ++ "://" ++ (host ++ port)

/-- A path with one slash in front, and nothing in it that does not count in a URL. -/
structure IsRooted (path : Text) : Prop where
  slash : ∃ rest : Text, path = "/" ++ rest ∧ rest.head? ≠ some (.char '/')
  counts : ∀ c ∈ path, isIgnored c = false

/-- The last segment before query and fragment. -/
def lastSegment (path : Text) : Text := Text.afterLast '/' (stem path)

/-- What a host name or a port has in it neither ends it nor is refused. -/
theorem of_isHostChar {c : CodePoint} (h : isHostChar c = true ∨ c = ':') :
    endsHost c = false ∧ isIgnored c = false
      ∧ c ≠ '[' ∧ c ≠ ']' ∧ Text.inRanges Host.confusables c = false := by
  have hall : ∀ n : Fin 128, isHostChar (CodePoint.ofNat n) = true ∨ CodePoint.ofNat n = ':' →
      endsHost (CodePoint.ofNat n) = false ∧ isIgnored (CodePoint.ofNat n) = false
        ∧ CodePoint.ofNat n ≠ '[' ∧ CodePoint.ofNat n ≠ ']'
        ∧ Text.inRanges Host.confusables (CodePoint.ofNat n) = false := by
    decide +kernel
  have hlt : c.toNat < 128 := by
    rw [isHostChar, Bool.or_eq_true, Bool.or_eq_true, Bool.or_eq_true, beq_iff_eq, beq_iff_eq] at h
    rcases h with ((((hletter | hdigit) | rfl) | rfl) | rfl)
    · exact Text.toNat_lt_of_isAsciiLetter hletter
    · rw [Text.isAsciiDigit, Bool.and_eq_true, decide_eq_true_eq, decide_eq_true_eq] at hdigit
      have hle : c.toNat ≤ 57 := hdigit.2
      omega
    · decide
    · decide
    · decide
  have hc := hall ⟨c.toNat, hlt⟩
  rw [CodePoint.ofNat_toNat] at hc
  exact hc h

/-- A port is written in characters of a host, and a colon. -/
theorem of_mem_port {port : Text} (h : IsPort port) {c : CodePoint} (hc : c ∈ port) :
    isHostChar c = true ∨ c = ':' := by
  cases h with
  | inl hnil =>
    rw [hnil] at hc
    cases hc
  | inr hdigits =>
    obtain ⟨digits, hall, rfl⟩ := hdigits
    cases List.mem_append.1 hc with
    | inl hcolon => exact .inr (List.mem_singleton.1 hcolon)
    | inr hdigit =>
      left
      rw [isHostChar, hall c hdigit, Bool.or_true, Bool.true_or, Bool.true_or]

/-- A path with one slash in front names no host. -/
theorem isAbsolute_of_isRooted (h : IsRooted path) : isAbsolute path = false := by
  obtain ⟨rest, rfl, hrest⟩ := h.slash
  rw [← Bool.not_eq_true, isAbsolute_iff]
  rintro ⟨scheme, behind, hopen, heq⟩
  cases hopen with
  | inl hnil =>
    rw [hnil] at heq
    have hsecond : rest = "/" ++ behind := (List.cons.inj heq).2
    apply hrest
    rw [hsecond]
    rfl
  | inr his =>
    obtain ⟨c, others, rfl⟩ := List.exists_cons_of_ne_nil his.ne_nil
    rw [opening_of_isScheme his] at heq
    have hletter : Text.isAsciiLetter c = true := his.1
    rw [← (List.cons.inj heq).1] at hletter
    exact absurd hletter (by decide)

/-- The path behind a host that ends with a rooted path is all of it. -/
theorem stemBehind_of_isRooted (h : IsRooted path) : stemBehind path = stem path := by
  have hcleaned : cleaned path = path := cleaned_eq_self h.counts
  obtain ⟨rest, rfl, -⟩ := h.slash
  have hdropped : (("/" : Text) ++ rest).dropWhile (!endsHost ·) = "/" ++ rest :=
    List.dropWhile_cons_of_neg (by decide)
  rw [stemBehind, hcleaned, hdropped]

/-- What is checked of an origin is its host and port. -/
theorem hostBehind_append_of_isRooted {authority : Text}
    (plain : ∀ c ∈ authority, endsHost c = false ∧ isIgnored c = false) (h : IsRooted path) :
    hostBehind (authority ++ path) = authority := by
  have hcleaned : cleaned (authority ++ path) = authority ++ path := by
    rw [cleaned_append fun c hc => (plain c hc).2, cleaned_eq_self h.counts]
  obtain ⟨rest, rfl, -⟩ := h.slash
  have hstays : authority.takeWhile (!endsHost ·) = authority := by
    apply List.takeWhile_eq_self_iff.2
    intro c hc
    rw [(plain c hc).1]
    rfl
  have hslash : (!endsHost (.char '/')) = false := by decide
  rw [hostBehind, hcleaned]
  exact (Text.takeWhile_append_cons hslash authority rest).trans hstays

/-- A path has one pattern, on its own as behind an origin that is the base URL. Behind
an origin that is not taken off first its last segment loses its parameters, so the
three patterns are one if and only if that segment has no semicolon. -/
theorem origin_agrees_iff (ho : IsOrigin origin) (hp : IsRooted path) :
    routePattern path [] = .ok (canonical path)
      ∧ routePattern (origin ++ path) origin = routePattern path []
      ∧ routePattern (origin ++ path) [] = .ok (canonical (withoutParameters (stem path)))
      ∧ (routePattern (origin ++ path) [] = routePattern path []
        ↔ (';' : CodePoint) ∉ lastSegment path) := by
  have hpath := routePattern_of_path (isAbsolute_of_isRooted hp)
  -- an absolute URL loses the parameters of its last segment, a path does not
  have horigin : routePattern (origin ++ path) []
      = .ok (canonical (withoutParameters (stem path))) := by
    obtain ⟨scheme, host, port, hscheme, hhost, hport, rfl⟩ := ho
    have his : IsScheme scheme := by
      rcases hscheme with rfl | rfl
      · exact ⟨by decide, by decide⟩
      · exact ⟨by decide, by decide⟩
    have hparameters : schemesWithParameters.contains (Text.lower scheme) = true := by
      rcases hscheme with rfl | rfl
      · decide +kernel
      · decide +kernel
    have hplain : ∀ c ∈ host ++ port, isHostChar c = true ∨ c = ':' := by
      intro c hc
      cases List.mem_append.1 hc with
      | inl hname => exact .inl (hhost c hname)
      | inr hdigits => exact of_mem_port hport hdigits
    have hstays : ∀ c ∈ host ++ port, endsHost c = false ∧ isIgnored c = false := by
      intro c hc
      obtain ⟨hhost, hcounts, -⟩ := of_isHostChar (hplain c hc)
      exact ⟨hhost, hcounts⟩
    have hcheck : Host.check (host ++ port) = .ok () :=
      Host.check_of_plain fun c hc => (of_isHostChar (hplain c hc)).2.2
    rw [List.append_assoc, ← opening_of_isScheme his, routePattern_opening (.inr his),
      hostBehind_append_of_isRooted hstays hp, hcheck,
      stemBehind_append fun c hc => (hstays c hc).1, stemBehind_of_isRooted hp,
      withoutOwnParameters, if_pos hparameters]
    rfl
  refine ⟨hpath, routePattern_base origin path, horigin, ?_⟩
  rw [horigin, hpath, Except.ok.injEq, lastSegment]
  constructor
  -- with a semicolon there, the absolute form has one less
  · intro heq hmem
    have hcount := count_stem_eq (c := ';') (by decide) heq
    rw [stem_of_sublist (withoutParameters_sublist _)] at hcount
    exact absurd (count_withoutParameters_lt hmem) (by rw [hcount]; exact Nat.lt_irrefl _)
  · intro h
    rw [withoutParameters_of_not_mem h, canonical_eq, canonical_eq, stem_of_sublist (.refl _)]

/-- A host with a port. -/
def portOrigin : Text := "https://api-2.example.com:8443"

/-- A path with a semicolon in front of its last segment and others behind it. -/
def petsPath : Text := "/pets;v=1//7?a;b#c;d"

/-- Parameters in front of the last segment are kept behind an origin with a port. -/
theorem origin_agrees_iff_port :
    IsOrigin portOrigin ∧ IsRooted petsPath
      ∧ routePattern (portOrigin ++ petsPath) [] = .ok "/pets;v=1/7" := by
  have ho : IsOrigin portOrigin :=
    ⟨"https", "api-2.example.com", ":8443", .inr rfl, by decide +kernel,
      .inr ⟨"8443", by decide, by decide +kernel⟩, by decide +kernel⟩
  have hp : IsRooted petsPath :=
    ⟨⟨"pets;v=1//7?a;b#c;d", by decide +kernel, by decide⟩, by decide +kernel⟩
  have hlast : (';' : CodePoint) ∉ lastSegment petsPath := by decide +kernel
  have hcanonical : canonical petsPath = "/pets;v=1/7" := by decide +kernel
  obtain ⟨hpath, -, -, hagrees⟩ := origin_agrees_iff ho hp
  rw [hcanonical] at hpath
  exact ⟨ho, hp, (hagrees.2 hlast).trans hpath⟩

/-- The parameters of the last segment are lost where the host is taken off. -/
theorem parameters_lost :
    routePattern "http://localhost/a;b" [] = .ok "/a"
      ∧ routePattern "/a;b" [] = .ok "/a;b"
      ∧ routePattern "http://localhost/a;b" "http://localhost" = .ok "/a;b" := by
  decide +kernel

end MockApi.Path
