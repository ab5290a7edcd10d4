/-
Which routes are ever selected. A look-up takes the first route that fits, so a
route is out of reach where an earlier one fits whatever it fits. That can be
read off the patterns: the earlier route has the same method and as many
segments, each of them a parameter or the literal that stands there in the later
one (`Route.Covers`).

A route that is covered is never selected, for the fit of a path carries over
from its pattern to the earlier one (`segmentsFit_of_subsumes`). For the other
direction a request is made up: every parameter of the pattern is filled with a
segment that is longer than all patterns of the table, so that nothing but a
parameter fits it (`subsumes_of_segmentsFit_fill`).
-/
import MockApi.Proofs.Mock.Entry
import MockApi.Proofs.Route.Table

namespace MockApi

namespace Path

variable {segment : Text} {pattern later parts : List Text}

-- =============================================================== covering

/-- A segment of a pattern fits whatever another one fits: it is a parameter, or
both are the same literal. -/
def Subsumes (p q : Text) : Prop :=
  isParameter p = true ∨ (isParameter q = false ∧ p = q)

/-- What the later pattern fits, one that subsumes it fits too. -/
theorem segmentsFit_of_subsumes (h : List.Forall₂ Subsumes pattern later)
    (hfits : segmentsFit later parts = true) : segmentsFit pattern parts = true := by
  induction h generalizing parts with
  | nil => exact hfits
  | @cons p q pattern later hsegment _ ih =>
    cases parts with
    | nil => cases hfits
    | cons s parts =>
      rw [segmentsFit, Bool.and_eq_true, Bool.or_eq_true, beq_iff_eq] at hfits ⊢
      refine ⟨?_, ih hfits.2⟩
      rcases hsegment with hparameter | ⟨hliteral, heq⟩
      · exact Or.inl hparameter
      · subst heq
        exact hfits.1

-- ================================================================= filling

/-- The pattern's segments with one segment in place of every parameter. -/
def fill (segment : Text) (pattern : List Text) : List Text :=
  pattern.map fun p => if isParameter p then segment else p

/-- A pattern that is filled with a segment is stood for by the result. -/
theorem standsFor_fill (h : IsSegment segment) (pattern : List Text) :
    List.Forall₂ StandsFor pattern (fill segment pattern) := by
  induction pattern with
  | nil => exact .nil
  | cons p pattern ih =>
    refine .cons ?_ ih
    unfold StandsFor
    by_cases hparameter : isParameter p = true
    · simp [hparameter, h]
    · simp [hparameter]

/-- A pattern that does not hold the new segment fits it only with a parameter,
so it subsumes the pattern that was filled. -/
theorem subsumes_of_segmentsFit_fill (hnew : segment ∉ pattern)
    (h : segmentsFit pattern (fill segment later) = true) :
    List.Forall₂ Subsumes pattern later := by
  induction pattern generalizing later with
  | nil =>
    cases later with
    | nil => exact .nil
    | cons q later => cases h
  | cons p pattern ih =>
    cases later with
    | nil => cases h
    | cons q later =>
      rw [fill, List.map_cons, segmentsFit, Bool.and_eq_true, Bool.or_eq_true, beq_iff_eq] at h
      rw [List.mem_cons, not_or] at hnew
      refine .cons ?_ (ih hnew.2 h.2)
      by_cases hparameter : isParameter q = true
      · rw [if_pos hparameter] at h
        exact Or.inl (h.1.resolve_right fun heq => hnew.1 heq.symm)
      · rw [if_neg hparameter] at h
        exact h.1.imp id fun heq => ⟨by simpa using hparameter, heq⟩

/-- There is a segment that is none of some texts. -/
theorem exists_isSegment_not_mem (texts : List Text) : ∃ s, IsSegment s ∧ s ∉ texts := by
  have hletters : ∀ n, IsSegment (List.replicate (n + 1) (CodePoint.char 'a')) := by
    intro n
    constructor
    · simp
    · simp
    · simp
    · simp
  refine ⟨_, hletters texts.flatten.length, fun hmem => ?_⟩
  have hlength := (List.sublist_flatten_of_mem hmem).length_le
  rw [List.length_replicate] at hlength
  omega

end Path

/-- The earlier route answers whatever the later one answers: it has the same
method and as many segments, each of which subsumes the one at its place. -/
structure Route.Covers (earlier later : Route) : Prop where
  method : earlier.definition.method = later.definition.method
  segments : List.Forall₂ Path.Subsumes (Path.segments earlier.pattern)
    (Path.segments later.pattern)

namespace Route

variable {earlier later route : Route} {method path : Text}

/-- A route that covers a later one answers whatever that answers. -/
theorem Covers.answers (h : earlier.Covers later) (hlater : later.answers method path = true) :
    earlier.answers method path = true := by
  rw [Route.answers, Bool.and_eq_true, beq_iff_eq] at hlater ⊢
  refine ⟨h.method.trans hlater.1, ?_⟩
  exact Path.segmentsFit_of_subsumes h.segments hlater.2

/-- The path that fills every parameter of a route's pattern with one segment. -/
def filled (route : Route) (segment : Text) : Text :=
  Path.ofSegments (Path.fill segment (Path.segments route.pattern))

/-- Of the routes that do not hold the segment only those answer that cover. -/
theorem covers_of_answers_filled {segment : Text} (hsegment : Path.IsSegment segment)
    (hnew : segment ∉ Path.segments earlier.pattern)
    (canon : Path.canonical later.pattern = later.pattern)
    (h : earlier.answers later.definition.method (later.filled segment) = true) :
    earlier.Covers later := by
  rw [Route.answers, Bool.and_eq_true, beq_iff_eq] at h
  refine ⟨h.1, Path.subsumes_of_segmentsFit_fill hnew ?_⟩
  obtain ⟨parts, hpattern, hparts⟩ := Path.exists_ofSegments later.pattern
  rw [canon] at hpattern
  have hfilled := Path.standsFor_fill hsegment parts
  have hsegments := Path.isSegment_of_standsFor hfilled hparts
  have hfits := h.2
  unfold Path.fits filled at hfits
  rw [hpattern, Path.segments_ofSegments hparts] at hfits ⊢
  rw [Path.segments_ofSegments hsegments] at hfits
  exact hfits

/-- The method of an entry's route is a word in upper case. -/
theorem exists_upper_of_ofEntry? {style : ObjectStyle} {entry : Text × Json}
    (h : Route.ofEntry? style entry = some route) :
    ∃ word, route.definition.method = Text.upper word := by
  obtain ⟨definition, hdefinition, rfl⟩ := Option.map_eq_some_iff.1 h
  cases hread : Definition.ofJson style entry.2 with
  | error cause =>
    rw [hread] at hdefinition
    cases hdefinition
  | ok d =>
    rw [hread] at hdefinition
    obtain rfl : d = definition := Option.some.inj hdefinition
    obtain ⟨fields, -, hfields⟩ := Definition.ofJson_eq_ok.1 hread
    obtain ⟨word, -, -, hmethod⟩ := hfields.method
    exact ⟨word, hmethod⟩

end Route

namespace RouteTable

/-- The reason of a look-up is a match of patterns if a route answers. -/
theorem reason_eq_match_iff {found : Found} {index : Nat} {method path : Text}
    (h : found.index? = some index) :
    found.reason method path = "Pattern match" ↔ ∃ route, found = .answer index route := by
  cases found with
  | answer i route =>
    obtain rfl := Option.some.inj h
    exact iff_of_true rfl ⟨route, rfl⟩
  | replay i route =>
    have hreason : ("Stateful replay" : Text) ≠ "Pattern match" := by decide
    refine iff_of_false hreason ?_
    intro ⟨_, hfound⟩
    cases hfound
  | nothing => cases h

/-- In the table of a bundle the route at a place is selected by some request, as
a match of patterns, if and only if no route before it covers it. -/
theorem selected_iff_not_covered (style : ObjectStyle) (entries : Fields) (index : Nat) :
    let table := (ofEntries style entries).1
    (∃ method path, (table.find method path).index? = some index
        ∧ (table.find method path).reason method path = "Pattern match")
      ↔ ∃ route, table[index]? = some route
        ∧ ∀ i earlier, i < index → table[i]? = some earlier → ¬earlier.Covers route := by
  intro table
  constructor
  · intro ⟨method, path, hindex, hreason⟩
    obtain ⟨route, hfound⟩ := (reason_eq_match_iff hindex).1 hreason
    obtain ⟨hget, hanswers, hnone⟩ := first?_eq_some_iff.1 (lookUp_eq_answer_iff.1 hfound)
    refine ⟨route, hget, fun i earlier hlt hearlier hcovers => ?_⟩
    -- the earlier route would answer the request, and so would have been taken
    have hanswersEarlier := hcovers.answers hanswers
    rw [hnone i earlier hlt hearlier] at hanswersEarlier
    cases hanswersEarlier
  · intro ⟨route, hget, hcovered⟩
    obtain ⟨entry, -, hentry⟩ : ∃ entry ∈ entries, Route.ofEntry? style entry = some route := by
      have hmem : route ∈ table := List.mem_of_getElem? hget
      rw [show table = entries.filterMap (Route.ofEntry? style) from ofEntries_fst style entries]
        at hmem
      exact List.mem_filterMap.1 hmem
    have canon := Route.canonical_ofEntry? hentry
    obtain ⟨word, hword⟩ := Route.exists_upper_of_ofEntry? hentry
    obtain ⟨segment, hsegment, hnew⟩ :=
      Path.exists_isSegment_not_mem (table.flatMap fun r => Path.segments r.pattern)
    have hfills : Path.Fills route.pattern (route.filled segment) :=
      ⟨_, rfl, Path.standsFor_fill hsegment _⟩
    obtain ⟨hpath, hfits⟩ := Path.fits_of_fills canon hfills
    have hanswers : route.answers (Text.upper word) (route.filled segment) = true := by
      rw [Route.answers, hword, hfits]
      simp
    have hnone : ∀ i earlier, i < index → table[i]? = some earlier →
        earlier.answers (Text.upper word) (route.filled segment) = false := by
      intro i earlier hlt hearlier
      by_contra hanswered
      have hother : segment ∉ Path.segments earlier.pattern := fun hmem =>
        hnew (List.mem_flatMap.2 ⟨earlier, List.mem_of_getElem? hearlier, hmem⟩)
      rw [← hword] at hanswered
      exact hcovered i earlier hlt hearlier
        (Route.covers_of_answers_filled hsegment hother canon (by simpa using hanswered))
    have hfound : table.find word (route.filled segment) = .answer index route := by
      rw [find, hpath]
      exact lookUp_eq_answer_iff.2 (first?_eq_some_iff.2 ⟨hget, hanswers, hnone⟩)
    refine ⟨word, route.filled segment, ?_, ?_⟩
    · rw [hfound]
      rfl
    · rw [hfound]
      rfl

end RouteTable

end MockApi
