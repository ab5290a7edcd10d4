/-
What the last segment of a URL says. Digits alone are an id, digits or a parameter make
it one thing that is addressed and not all of a kind, and the ids of a path and of its
segments are the same, though one is found at the end of the text and the other by
cutting it (`finalDigits?_ofSegments`).

An answer to reading or changing a thing bears the id of its URL, but for the id zero:
a missing id and zero are taken for one another, and the answer bears the id one
(`answer_bears_id`).
-/
import Mathlib.Tactic.FinCases
import MockApi.Mock.Generator
import MockApi.Proofs.Json.Fields
import MockApi.Proofs.Mock.Generator
import MockApi.Proofs.Mock.Resource
import MockApi.Proofs.Route.Canonical

namespace MockApi

-- ================================================================ the segment

namespace Resource

open MockApi.Path (IsSegment)

variable {url segment : Text} {parts : List Text}

/-- The segment is the last one of the URL's pattern. -/
def EndsIn (url segment : Text) : Prop :=
  ∃ parts, Path.routeSegments url = .ok parts ∧ parts.getLast? = some segment

/-- What stands in front of the first slash is found if it is made of digits. -/
theorem digitsToSlash?_append {t : Text} (hne : t ≠ []) (hslash : ('/' : CodePoint) ∉ t)
    (rest : Text) :
    digitsToSlash? (t ++ Path.slashed rest)
      = if t.all Text.isDigit then some t.reverse else none := by
  -- the run of digits ends at the slash, if not before
  have htake : (t ++ Path.slashed rest).takeWhile Text.isDigit = t.takeWhile Text.isDigit :=
    Text.takeWhile_append_cons (by decide) t rest
  have hdrop : (t ++ Path.slashed rest).drop (t.takeWhile Text.isDigit).length
      = t.dropWhile Text.isDigit ++ Path.slashed rest := by
    have hsplit : t ++ Path.slashed rest
        = t.takeWhile Text.isDigit ++ (t.dropWhile Text.isDigit ++ Path.slashed rest) := by
      rw [← List.append_assoc, List.takeWhile_append_dropWhile]
    rw [hsplit, List.drop_left]
  unfold digitsToSlash?
  simp only [htake, hdrop]
  -- whether the run is the whole text decides
  cases hbehind : t.dropWhile Text.isDigit with
  | nil =>
    have hall := List.dropWhile_eq_nil_iff.1 hbehind
    rw [List.takeWhile_eq_self_iff.2 hall, if_pos (List.all_eq_true.2 hall), if_neg]
    simpa [Path.slashed] using hne
  | cons c more =>
    have hc : c ∈ t := (List.dropWhile_suffix _).subset (hbehind ▸ List.mem_cons_self)
    have hother : c ≠ '/' := fun heq => hslash (heq ▸ hc)
    have hnot : ¬t.all Text.isDigit = true := by
      rw [List.all_eq_true, ← List.dropWhile_eq_nil_iff, hbehind]
      exact List.cons_ne_nil c more
    rw [if_neg hnot, if_pos]
    simpa using Or.inr hother

/-- The digits that are found at the end of a path are its last segment, if that is
made of digits. -/
theorem finalDigits?_ofSegments (h : ∀ s ∈ parts, IsSegment s)
    (feedless : ∀ s ∈ parts, ('\n' : CodePoint) ∉ s) :
    finalDigits? (Path.ofSegments parts) = parts.getLast?.filter (·.all Text.isDigit) := by
  rcases parts.eq_nil_or_concat' with rfl | ⟨front, last, rfl⟩
  · rfl
  have hmem : last ∈ front ++ [last] := List.mem_append_right _ List.mem_cons_self
  obtain ⟨hne, hslash, -, -⟩ := h last hmem
  obtain ⟨before, hpath⟩ := Path.exists_ofSegments_concat front last
  obtain ⟨first, rest, hlast⟩ := List.exists_cons_of_ne_nil (List.reverse_ne_nil_iff.2 hne)
  have hfirst : first ∈ last := List.mem_reverse.1 (hlast ▸ List.mem_cons_self)
  have hback : (Path.ofSegments (front ++ [last])).reverse
      = last.reverse ++ Path.slashed before.reverse := by
    rw [hpath, Path.slashed, List.reverse_append, List.reverse_cons, List.append_assoc]
    rfl
  have hfeed : first ≠ '\n' := fun heq => feedless last hmem (heq ▸ hfirst)
  have hother : first ≠ '/' := fun heq => hslash (heq ▸ hfirst)
  have hkept : withoutHead '/' (withoutHead '\n' (last.reverse ++ Path.slashed before.reverse))
      = last.reverse ++ Path.slashed before.reverse := by
    rw [hlast, List.cons_append, withoutHead_cons hfeed, withoutHead_cons hother]
  rw [finalDigits?_eq, hback, hkept, digitsToSlash?_append (List.reverse_ne_nil_iff.2 hne)
    (by rwa [List.mem_reverse]), List.reverse_reverse, List.all_reverse, List.getLast?_concat]
  rfl

theorem exists_parts_of_idOf? {id : Option Int} (h : idOf? url = .ok id) :
    ∃ parts, Path.routeSegments url = .ok parts := by
  obtain ⟨pattern, hpattern, -⟩ := bind_eq_ok.1 h
  exact ⟨_, map_eq_ok.2 ⟨pattern, mapError_eq_ok.1 hpattern, rfl⟩⟩

-- ===================================================================== ids

/-- The id of a URL is read from its last segment, if that is made of digits. -/
theorem idOf?_eq (feedless : ('\n' : CodePoint) ∉ url) (h : Path.routeSegments url = .ok parts) :
    idOf? url = (parts.getLast?.filter (·.all Text.isDigit)).mapM fun digits =>
      (readInteger digits).mapError .numeral := by
  obtain ⟨hpattern, hparts⟩ := Path.of_routeSegments h
  have hfeedless : ∀ s ∈ parts, ('\n' : CodePoint) ∉ s :=
    fun s hs => mt (Path.mem_of_mem_routeSegments h hs) feedless
  rw [← finalDigits?_ofSegments hparts hfeedless, idOf?, hpattern]
  rfl

/-- A URL has an id if its last segment is made of digits, and of no more than a
number may have. -/
theorem idOf?_eq_some_iff (feedless : ('\n' : CodePoint) ∉ url) {id : Int} :
    idOf? url = .ok (some id)
      ↔ ∃ segment, EndsIn url segment ∧ IsNumeral segment ∧ segment.length ≤ digitLimit
        ∧ id = numeralValue segment := by
  constructor
  · intro h
    obtain ⟨parts, hparts⟩ := exists_parts_of_idOf? h
    rw [idOf?_eq feedless hparts] at h
    -- the last segment is read if it is made of digits
    cases hlast : parts.getLast?.filter (·.all Text.isDigit) with
    | none =>
      rw [hlast] at h
      cases h
    | some segment =>
      rw [hlast] at h
      obtain ⟨n, hread, hn⟩ := map_eq_ok.1 h
      obtain rfl := Option.some.inj hn
      obtain ⟨hget, hall⟩ := Option.filter_eq_some_iff.1 hlast
      have hsegment := (Path.of_routeSegments hparts).2 segment (List.mem_of_getLast? hget)
      have hnumeral : IsNumeral segment := ⟨hsegment.ne_nil, List.all_eq_true.1 hall⟩
      exact ⟨segment, ⟨parts, hparts, hget⟩, hnumeral,
        (readInteger_numeral_eq_ok hnumeral).1 (mapError_eq_ok.1 hread)⟩
  · rintro ⟨segment, ⟨parts, hparts, hget⟩, hnumeral, hread⟩
    have hlast : parts.getLast?.filter (·.all Text.isDigit) = some segment :=
      Option.filter_eq_some_iff.2 ⟨hget, List.all_eq_true.2 hnumeral.2⟩
    rw [idOf?_eq feedless hparts, hlast]
    exact map_eq_ok.2
      ⟨id, mapError_eq_ok.2 ((readInteger_numeral_eq_ok hnumeral).2 hread), rfl⟩

-- ============================================================ one or all

/-- Digits are numeric, and nothing else is where no line is broken. -/
theorem isNumeric_iff (feedless : ('\n' : CodePoint) ∉ segment) :
    Path.isNumeric segment = true ↔ IsNumeral segment := by
  constructor
  · intro hnumeric
    obtain ⟨digits, tail, rfl, hne, hall, htail⟩ := exists_of_isNumeric hnumeric
    rcases htail with rfl | rfl
    · rw [List.append_nil]
      exact ⟨hne, hall⟩
    · exact absurd (List.mem_append_right _ List.mem_cons_self) feedless
  · rintro ⟨hne, hall⟩
    unfold Path.isNumeric
    simp only
    rw [List.takeWhile_eq_self_iff.2 hall, List.dropWhile_eq_nil_iff.2 hall]
    simpa using hne

theorem isIdentity_iff (feedless : ('\n' : CodePoint) ∉ segment) :
    Path.isIdentity segment = true
      ↔ IsNumeral segment ∨ segment.head? = some (.char ':') := by
  rw [Path.isIdentity, Bool.or_eq_true, isNumeric_iff feedless, Path.isParameter, beq_iff_eq]
  exact Iff.rfl

/-- A URL addresses one thing if its last segment is made of digits or is a parameter. -/
theorem isCollection_eq_false_iff (feedless : ('\n' : CodePoint) ∉ url) :
    isCollection url = .ok false
      ↔ ∃ segment, EndsIn url segment
        ∧ (IsNumeral segment ∨ segment.head? = some (.char ':')) := by
  unfold isCollection
  rw [map_eq_ok]
  constructor
  · rintro ⟨parts, hparts, hone⟩
    rw [Bool.not_eq_false'] at hone
    obtain ⟨segment, hget, hidentity⟩ := (Option.any_eq_true ..).1 hone
    have hfeed : ('\n' : CodePoint) ∉ segment :=
      mt (Path.mem_of_mem_routeSegments hparts (List.mem_of_getLast? hget)) feedless
    exact ⟨segment, ⟨parts, hparts, hget⟩, (isIdentity_iff hfeed).1 hidentity⟩
  · rintro ⟨segment, ⟨parts, hparts, hget⟩, hidentity⟩
    have hfeed : ('\n' : CodePoint) ∉ segment :=
      mt (Path.mem_of_mem_routeSegments hparts (List.mem_of_getLast? hget)) feedless
    refine ⟨parts, hparts, ?_⟩
    rw [hget, Option.any_some, (isIdentity_iff hfeed).2 hidentity]
    rfl

-- ================================================================ its shape

/-- A resource of any shape bears its id, in front of everything else. -/
theorem get?_id_mock (name : Text) (id : Int) (now : Moment) :
    Fields.get? "id" (mock name id now) = some (.int id) := by
  have hall : ∀ entry ∈ shapes, ∃ fields, entry.2 id now = shape (("id", .int id) :: fields) := by
    intro entry hentry
    unfold shapes at hentry
    fin_cases hentry <;> exact ⟨_, rfl⟩
  have hfirst : ∃ fields, mock name id now = shape (("id", .int id) :: fields) := by
    unfold mock shapeFor?
    cases hfound : shapes.find? fun entry => Text.hasPiece entry.1 (Text.lower name) with
    | none => exact ⟨_, rfl⟩
    | some entry => exact hall entry (List.mem_of_find?_eq_some hfound)
  obtain ⟨fields, hfields⟩ := hfirst
  rw [hfields]
  exact if_pos rfl

end Resource

-- ================================================================ the answer

namespace Generator

open Resource (EndsIn)

variable {g : Generator} {method url segment : Text}

/-- The method reads or changes what a URL addresses. -/
def Addresses (method : Text) : Prop := method = "GET" ∨ method = "PUT" ∨ method = "PATCH"

/-- The id that an answer bears for an id in a URL. -/
def shownId (n : Nat) : Int := if n = 0 then 1 else n

theorem orElse_some (n : Nat) : orElse (some n) 1 = shownId n := by
  cases n <;> rfl

/-- Where a numeral ends the URL, the body of the answer bears the id that is shown for its
value. -/
theorem crudBody_of_numeral (feedless : ('\n' : CodePoint) ∉ url) (addresses : Addresses method)
    (ends : EndsIn url segment) (numeral : IsNumeral segment)
    (few : segment.length ≤ digitLimit) (chance : Chance) :
    ∃ fields, g.crudBody method url chance = .ok (.obj fields, chance)
      ∧ Fields.get? "id" fields = some (.int (shownId (numeralValue segment))) := by
  have hid := (Resource.idOf?_eq_some_iff feedless).2 ⟨segment, ends, numeral, few, rfl⟩
  have hone := (Resource.isCollection_eq_false_iff feedless).2 ⟨segment, ends, .inl numeral⟩
  obtain ⟨name, hname⟩ : ∃ name, Resource.nameOf url = .ok name := by
    rw [← isOk_iff_exists, Resource.nameOf_isOk_iff, ← Resource.isCollection_isOk_iff, hone]
    rfl
  have hshown := Resource.get?_id_mock name (shownId (numeralValue segment)) g.now
  unfold crudBody
  simp only [hname, hid, hone]
  have hother : ("updated" : Text) ≠ "id" := by decide
  have hupdated := Fields.get?_put_of_ne hother (.bool true)
    (Resource.mock name (shownId (numeralValue segment)) g.now)
  rw [← orElse_some] at hshown hupdated ⊢
  rcases addresses with rfl | rfl | rfl
  · exact ⟨_, rfl, hshown⟩
  · exact ⟨_, rfl, hupdated.trans hshown⟩
  · exact ⟨_, rfl, hupdated.trans hshown⟩

/-- An answer to reading or changing the thing with an id is made up, and bears the id
that is shown for it. -/
theorem generate_of_numeral (feedless : ('\n' : CodePoint) ∉ url)
    (free : g.config.templateFor url = none) (crud : Category.ofUrl url = .crud)
    (addresses : Addresses (Text.upper method)) (ends : EndsIn url segment)
    (numeral : IsNumeral segment) (few : segment.length ≤ digitLimit) (chance : Chance) :
    ∃ d, g.generate method url chance = .ok (d, chance)
      ∧ d.body.field? "id" = some (.int (shownId (numeralValue segment))) := by
  obtain ⟨fields, hbody, hid⟩ :=
    crudBody_of_numeral (g := g) feedless addresses ends numeral few chance
  have hdelete : Text.upper method ≠ "DELETE" := by
    rcases addresses with heq | heq | heq <;> rw [heq] <;> decide
  refine ⟨ofCategory .crud method (.obj fields), ?_, hid⟩
  unfold generate
  simp only [free, crud, if_neg hdelete, hbody]
  rfl

/-- Digits and parameters at the end of a URL make it one thing, digits that are not too
many are its id, and an answer to reading or changing the thing bears that id, or one
instead of zero. -/
theorem answer_bears_id (feedless : ('\n' : CodePoint) ∉ url) :
    (Resource.isCollection url = .ok false
        ↔ ∃ segment, EndsIn url segment
          ∧ (IsNumeral segment ∨ segment.head? = some (.char ':')))
      ∧ (∀ id, Resource.idOf? url = .ok (some id)
        ↔ ∃ segment, EndsIn url segment ∧ IsNumeral segment ∧ segment.length ≤ digitLimit
          ∧ id = numeralValue segment)
      ∧ ∀ (g : Generator) (method segment : Text) (chance : Chance),
        g.config.templateFor url = none → Category.ofUrl url = .crud →
        Addresses (Text.upper method) → EndsIn url segment → IsNumeral segment →
        segment.length ≤ digitLimit →
        ∃ d, g.generate method url chance = .ok (d, chance)
          ∧ d.body.field? "id"
            = some (.int (if numeralValue segment = 0 then 1 else numeralValue segment)) := by
  refine ⟨Resource.isCollection_eq_false_iff feedless,
    fun id => Resource.idOf?_eq_some_iff feedless, ?_⟩
  intro g method segment chance free crud addresses ends numeral few
  exact generate_of_numeral feedless free crud addresses ends numeral few chance

/-- A generator without responses given by hand. -/
def untaught : Generator := ⟨{}, ⟨2024, 1, 15, 10, 30, 0⟩⟩

/-- Digits of two scripts, a zero in front of them and a query behind them. -/
def scriptUrl : Text := "https://h/users/\u0660\u06642?q=0"

/-- An id in the digits of another script is borne in the answer too. -/
theorem answer_bears_id_scripts :
    ('\n' : CodePoint) ∉ scriptUrl ∧ Resource.idOf? scriptUrl = .ok (some 42)
      ∧ ∃ d, untaught.generate "patch" scriptUrl ⟨[]⟩ = .ok (d, ⟨[]⟩)
        ∧ d.body.field? "id" = some (.int 42) := by
  have feedless : ('\n' : CodePoint) ∉ scriptUrl := by decide
  obtain ⟨-, hid, hanswer⟩ := answer_bears_id feedless
  have ends : EndsIn scriptUrl "\u0660\u06642" := ⟨["users", "\u0660\u06642"], by rfl, rfl⟩
  have numeral : IsNumeral ("\u0660\u06642" : Text) := by
    exact ⟨by decide, by decide⟩
  have few : ("\u0660\u06642" : Text).length ≤ digitLimit := by decide
  have hvalue : numeralValue "\u0660\u06642" = 42 := by decide
  obtain ⟨d, hd, hshown⟩ := hanswer untaught "patch" _ ⟨[]⟩ rfl (by decide +kernel)
    (.inr (.inr (by decide +kernel))) ends numeral few
  rw [hvalue] at hshown
  exact ⟨feedless, (hid 42).2 ⟨_, ends, numeral, few, by rw [hvalue]; rfl⟩, d, hd, hshown⟩

/-- The thing with the id zero is answered with the id one. -/
theorem zero_not_borne :
    Resource.idOf? "/users/0" = .ok (some 0)
      ∧ ∃ d, untaught.generate "GET" "/users/0" ⟨[]⟩ = .ok (d, ⟨[]⟩)
        ∧ d.body.field? "id" = some (.int 1) := by
  have feedless : ('\n' : CodePoint) ∉ ("/users/0" : Text) := by decide
  have ends : EndsIn "/users/0" "0" := ⟨["users", "0"], by rfl, rfl⟩
  have numeral : IsNumeral ("0" : Text) := ⟨by decide, by decide⟩
  have few : ("0" : Text).length ≤ digitLimit := by decide
  have hvalue : numeralValue "0" = 0 := by decide
  have addresses : Addresses (Text.upper "GET") := .inl (by decide +kernel)
  have free : untaught.config.templateFor "/users/0" = none := rfl
  obtain ⟨d, hd, hshown⟩ :=
    generate_of_numeral feedless free (by decide +kernel) addresses ends numeral few ⟨[]⟩
  rw [hvalue] at hshown
  exact ⟨(Resource.idOf?_eq_some_iff feedless).2 ⟨_, ends, numeral, few, by rw [hvalue]; rfl⟩,
    d, hd, hshown⟩

end Generator

end MockApi
