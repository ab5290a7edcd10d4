/-
Endpoints are well formed. Whatever the path, the dialect and the text, an endpoint of
a source has a method in capital letters, a URL without what ends a literal or starts
an expression, a raw text that stands in the source, and a line of it
(`Source.isWellFormed_of_mem_endpoints`).

A URL comes out of a literal by replacements that put a placeholder there, or a name
that stands in the literal (`isUrlText_normalize?`); so the pattern of the literal
tells which characters it may have. That every rule reads URLs with this pattern, and
tells its methods in one of the known ways, is said of the rules one by one
(`Dialect.reads_of_mem_rules`), and nothing else of them.
-/
import MockApi.Proofs.Scan.Line
import MockApi.Proofs.Scan.Method
import MockApi.Proofs.Scan.RouteParameter
import MockApi.Proofs.Scan.UrlLiteral
import MockApi.Scan.Source

namespace MockApi

open Pattern Lexeme Text

-- ============================================================ the literals

namespace UrlLiteral

variable {read? : Text → Option (Nat × Text)} {t literal url : Text} {isFormat : Bool}

/-- All characters may stand in a URL literal. -/
def IsUrlText (t : Text) : Prop := ∀ c ∈ t, isUrlChar c = true

/-- What the reader puts there has characters of the placeholder and of the text. -/
def PutsKnown (read? : Text → Option (Nat × Text)) : Prop :=
  ∀ t length new, read? t = some (length, new) → ∀ c ∈ new, c ∈ placeholder ∨ c ∈ t

/-- Braces are replaced by characters of a URL. -/
theorem braced_putsKnown : PutsKnown braced? := by
  intro t length new h c hc
  unfold braced? at h
  split at h
  · obtain ⟨n, -, hread⟩ := Option.map_eq_some_iff.1 h
    obtain ⟨-, rfl⟩ := Prod.mk.inj hread
    exact .inl hc
  · cases h

/-- Interpolations are replaced by characters of a URL. -/
theorem interpolation_putsKnown : PutsKnown interpolation? := by
  intro t length new h c hc
  unfold interpolation? at h
  split at h
  · obtain ⟨read, -, hread⟩ := Option.map_eq_some_iff.1 h
    obtain ⟨-, rfl⟩ := Prod.mk.inj hread
    exact .inl hc
  · cases h

/-- Names in braces are replaced by characters of a URL. -/
theorem bracedName_putsKnown : PutsKnown bracedName? := by
  intro t length new h c hc
  unfold bracedName? at h
  split at h
  · next rest =>
    obtain ⟨name, hname, h⟩ := Option.bind_eq_some_iff.1 h
    have hknown : ∀ c ∈ ((':' : CodePoint) :: name), c ∈ placeholder ∨ c ∈ .char '{' :: rest := by
      refine List.forall_mem_cons.2 ⟨.inl (by decide), fun c hc => .inr ?_⟩
      exact List.mem_cons_of_mem _ ((prefix_of_name? hname).subset hc)
    split at h
    · obtain ⟨-, rfl⟩ := Prod.mk.inj (Option.some.inj h)
      exact hknown c hc
    · obtain ⟨n, -, hread⟩ := Option.map_eq_some_iff.1 h
      obtain ⟨-, rfl⟩ := Prod.mk.inj hread
      exact hknown c hc
    · cases h
  · cases h

/-- Names in angle brackets are replaced by characters of a URL. -/
theorem angled_putsKnown : PutsKnown angled? := by
  intro t length new h c hc
  refine ((of_angled? h).2.2 c hc).imp_left fun hcolon => ?_
  rw [hcolon]
  decide

/-- A replacement by characters of a URL leaves the text of one. -/
theorem isUrlText_replaceAll (known : PutsKnown read?) (h : IsUrlText t) :
    IsUrlText (replaceAll read? t) := by
  intro c hc
  rcases of_mem_replaceFrom known hc with hplaceholder | hmem
  · have hall : ∀ c ∈ placeholder, isUrlChar c = true := by decide
    exact hall c hplaceholder
  · exact h c hmem

theorem isUrlText_withoutBase (read? : Text → Option (Nat × Text)) (h : IsUrlText t) :
    IsUrlText (withoutBase read? t) :=
  fun c hc => h c ((withoutBase_sublist read? t).subset hc)

/-- The URL of a literal has only characters that may stand in one. -/
theorem isUrlText_normalize? (h : normalize? isFormat literal = some url)
    (hliteral : IsUrlText literal) : IsUrlText url := by
  have htrim : IsUrlText (trim literal) := fun c hc => hliteral c ((trim_sublist literal).subset hc)
  have hformat : IsUrlText (if isFormat then replaceAll braced? (withoutBase braced? (trim literal))
      else trim literal) := by
    split
    · exact isUrlText_replaceAll braced_putsKnown (isUrlText_withoutBase _ htrim)
    · exact htrim
  have hinterpolated := isUrlText_replaceAll interpolation_putsKnown
    (isUrlText_withoutBase interpolation? hformat)
  unfold normalize? at h
  simp only at h
  generalize replaceAll interpolation? _ = interpolated at h hinterpolated
  split at h
  · cases h
  · split at h
    · cases h
    · rw [← Option.some.inj h]
      apply isUrlText_replaceAll braced_putsKnown
      apply isUrlText_replaceAll bracedName_putsKnown
      exact isUrlText_replaceAll angled_putsKnown hinterpolated

/-- A URL is not empty and has no braces. -/
theorem braceless_of_normalize? (h : normalize? isFormat literal = some url) :
    url ≠ [] ∧ ('{' : CodePoint) ∉ url ∧ ('}' : CodePoint) ∉ url := by
  unfold normalize? at h
  simp only at h
  generalize replaceAll interpolation? _ = interpolated at h
  split at h
  · cases h
  · split at h
    · cases h
    · next hplain =>
      rw [← Option.some.inj h]
      rw [Bool.not_eq_true, Bool.or_eq_false_iff, Bool.or_eq_false_iff] at hplain
      obtain ⟨⟨hempty, hopening⟩, hclosing⟩ := hplain
      refine ⟨fun hnil => ?_, fun hmem => ?_, fun hmem => ?_⟩
      · rw [hnil] at hempty
        cases hempty
      · rw [List.contains_iff_mem.2 hmem] at hopening
        cases hopening
      · rw [List.contains_iff_mem.2 hmem] at hclosing
        cases hclosing

end UrlLiteral

-- ================================================================ the calls

/-- What no URL has in it: braces, quotes, backslashes and line feeds. -/
def reserved : Text := "\x7b\x7d\x27\"\x60\\\n"

/-- A method, a URL, and the text in which they were found, which stands in a text. -/
structure IsCallIn (text method url raw : Text) : Prop where
  method : IsMethod method
  url_ne_nil : url ≠ []
  url_plain : ∀ c ∈ url, c ∉ reserved
  raw : raw <:+: text

/-- A character of a URL that is no brace is not reserved. -/
theorem not_mem_reserved {c : CodePoint} (hchar : isUrlChar c = true) (hopening : c ≠ '{')
    (hclosing : c ≠ '}') : c ∉ reserved := by
  intro hmem
  have hreserved : ∀ c ∈ reserved, c = '{' ∨ c = '}' ∨ isUrlChar c = false := by decide
  rcases hreserved c hmem with hbrace | hbrace | hnot
  · exact hopening hbrace
  · exact hclosing hbrace
  · rw [hchar] at hnot
    cases hnot

/-- What stands inside of the quotes of a literal. -/
def Lexeme.literalBody : Pattern := run isUrlChar 1 (some urlLimit)

namespace Match

variable {p : Pattern} {m : Match} {c : Cursor} {hit : Hit} {text raw url : Text} {isFormat : Bool}

/-- The URL of a match is a text of one, where its pattern is that of literals. -/
theorem isUrlText_get (hurl : p.behind .url = [literalBody]) (h : p.matchAt? c = some m) :
    UrlLiteral.IsUrlText (m.get .url) := by
  unfold get
  cases hpart : m.parts.get? .url with
  | none =>
    intro c hc
    cases hc
  | some t =>
    obtain ⟨q, hq, hspells⟩ := spells_of_get? h hpart
    rw [hurl, List.mem_singleton] at hq
    subst hq
    cases hspells with
    | run passes enough bounded => exact passes

/-- What a match with a literal yields is a call. -/
theorem isCallIn_of_normalize? (hurl : p.behind .url = [literalBody]) (h : p.matchAt? c = some m)
    (hnormal : UrlLiteral.normalize? isFormat (m.get .url) = some url) {method : Text}
    (hmethod : IsMethod method) (hraw : raw <:+: text) : IsCallIn text method url raw where
  method := hmethod
  url_ne_nil := (UrlLiteral.braceless_of_normalize? hnormal).1
  url_plain := by
    intro c hc
    obtain ⟨-, hopening, hclosing⟩ := UrlLiteral.braceless_of_normalize? hnormal
    have hchar := UrlLiteral.isUrlText_normalize? hnormal (isUrlText_get hurl h) c hc
    refine not_mem_reserved hchar (fun heq => hopening ?_) (fun heq => hclosing ?_)
    · rw [← heq]
      exact hc
    · rw [← heq]
      exact hc
  raw := hraw

end Match

-- ================================================================ the rules

/-- The rule reads URLs out of literals and tells methods. -/
structure CallRule.Reads (r : CallRule) : Prop where
  url : r.pattern.behind .url = [literalBody]
  methods : r.TellsMethods

/-- The rule reads URLs out of literals and tells methods, itself and inside of wrappers. -/
def Rule.Reads : Rule → Prop
  | .call r => r.Reads
  | .hook r => r.key.behind .url = [literalBody] ∧ r.inner.Reads

/-- A rule that tells its methods by a verb, which is one of some words. -/
theorem CallRule.reads_of_words {r : CallRule} {words : List Text}
    (hmethods : r.methods = Match.verbMethod) (hurl : r.pattern.behind .url = [literalBody])
    (hbinds : r.pattern.binds .verb = true)
    (hbehind : r.pattern.behind .verb = [oneOf (words.map .piece)])
    (hwords : ∀ word ∈ words, IsVerb word) : r.Reads :=
  ⟨hurl, .verb hmethods (bindsVerb_of_words hbinds hbehind hwords)⟩

/-- Every rule of a dialect reads such literals. -/
theorem Dialect.reads_of_mem_rules {dialect : Dialect} {rule : Rule} (h : rule ∈ dialect.rules) :
    rule.Reads := by
  -- the words of all patterns for a verb are methods in some case
  have hlower : ∀ word ∈ (["get", "post", "put", "delete", "patch", "head", "options"] : List Text),
      IsVerb word := by decide
  have hcapitalized : ∀ word ∈
      (["Get", "Post", "Put", "Delete", "Patch", "Head", "Options"] : List Text),
      IsVerb word := by decide
  have hmapped : ∀ word ∈ (["Get", "Post", "Put", "Delete", "Patch"] : List Text),
      IsVerb word := by decide
  have hupper : ∀ word ∈ (["GET", "POST", "PUT", "DELETE", "PATCH"] : List Text),
      IsVerb word := by decide
  have verb : ∀ {r : CallRule}, r.methods = Match.verbMethod →
      r.pattern.behind .url = [literalBody] → r.pattern.binds .verb = true →
      r.pattern.behind .verb = Lexeme.verb.behind .verb → r.Reads :=
    fun hmethods hurl hbinds hbehind => CallRule.reads_of_words hmethods hurl hbinds hbehind hlower
  -- rule by rule: what its pattern binds, and where its methods come from
  revert rule
  cases dialect with
  | javascript =>
    simp only [rules, List.forall_mem_cons]
    exact ⟨⟨rfl, .options rfl⟩, verb rfl rfl rfl rfl, verb rfl rfl rfl rfl,
      ⟨rfl, verb rfl rfl rfl rfl⟩, verb rfl rfl rfl rfl, verb rfl rfl rfl rfl,
      CallRule.reads_of_words rfl rfl rfl rfl hcapitalized, List.forall_mem_nil _⟩
  | python =>
    simp only [rules, List.forall_mem_cons]
    exact ⟨verb rfl rfl rfl rfl, verb rfl rfl rfl rfl, verb rfl rfl rfl rfl,
      ⟨rfl, .listed rfl⟩, List.forall_mem_nil _⟩
  | rust =>
    simp only [rules, List.forall_mem_cons]
    exact ⟨⟨rfl, .reading rfl⟩, verb rfl rfl rfl rfl, verb rfl rfl rfl rfl,
      verb rfl rfl rfl rfl, List.forall_mem_nil _⟩
  | java =>
    simp only [rules, List.forall_mem_cons]
    exact ⟨CallRule.reads_of_words rfl rfl rfl rfl hmapped, List.forall_mem_nil _⟩
  | go =>
    simp only [rules, List.forall_mem_cons]
    exact ⟨⟨rfl, .reading rfl⟩, CallRule.reads_of_words rfl rfl rfl rfl hupper,
      List.forall_mem_nil _⟩

-- ================================================================= the hits

variable {names : ClientNames} {text : Text} {hit : Hit}

/-- The hit is a call in a text. -/
def Hit.IsCallIn (text : Text) (hit : Hit) :
    Prop := MockApi.IsCallIn text hit.method hit.url hit.raw

/-- The matches of a rule in a piece of a text yield calls in the text. -/
theorem CallRule.isCallIn_of_mem_hits {r : CallRule} {c : Cursor} {m : Match} (reads : r.Reads)
    (hdot : ('İ' : CodePoint) ∉ text) (hpiece : c.rest <:+: text) (hm : m ∈ r.pattern.matchesIn c)
    (h : hit ∈ m.hits (r.methods m)) : hit.IsCallIn text := by
  obtain ⟨start, hstart⟩ := exists_of_mem_matchesIn hm
  have hraw : m.text <:+: text := (takes_of_mem_matchesFrom hm).1.trans hpiece
  unfold Match.hits at h
  split at h
  · next url hurl =>
    obtain ⟨method, hmethod, rfl⟩ := List.mem_map.1 h
    have hismethod := r.isMethod_of_mem_methods reads.methods hstart
      (fun hmem => hdot (hraw.subset hmem)) hmethod
    exact Match.isCallIn_of_normalize? reads.url hstart hurl hismethod hraw
  · cases h

namespace HookRule

variable {r : HookRule} {anchor : Match}

/-- The method of a hook is one. -/
theorem isMethod_methodOf (hook : Text) : IsMethod (methodOf hook) := by
  have hpost : IsMethod "POST" := by decide
  have hget : IsMethod "GET" := by decide
  unfold methodOf
  split
  · exact hpost
  · exact hget

/-- Behind a wrapper stands the rest of the text, and with the wrapper it is a piece of it. -/
theorem rest_of_anchor (hanchor : anchor ∈ r.anchor.matchesIn (.ofText text)) :
    anchor.text ++ anchor.stop.rest <:+ text := by
  obtain ⟨start, hstart⟩ := exists_of_mem_matchesIn hanchor
  have hrest := rest_of_mem_matchesFrom hanchor
  rw [start_of_matchAt? hstart, rest_of_matchAt? hstart] at hrest
  exact hrest

/-- A wrapper with its URL is a call. -/
theorem isCallIn_of_mem_keyHits {key : Match} (hurl : r.key.behind .url = [literalBody])
    (hanchor : anchor ∈ r.anchor.matchesIn (.ofText text)) (hkey : r.key? anchor = some key)
    (h : hit ∈ keyHits anchor key) : hit.IsCallIn text := by
  unfold key? at hkey
  split at hkey
  · cases hkey
  · have hmatch := (Option.filter_eq_some_iff.1 hkey).1
    -- the URL stands right behind the wrapper, so both are one piece
    have hraw : anchor.text ++ key.text <:+: text := by
      have hrest := rest_of_anchor hanchor
      rw [rest_of_matchAt? hmatch, ← List.append_assoc] at hrest
      exact (List.prefix_append ..).isInfix.trans hrest.isInfix
    unfold keyHits at h
    split at h
    · next url hnormal =>
      obtain rfl := List.mem_singleton.1 h
      exact Match.isCallIn_of_normalize? hurl hmatch hnormal (isMethod_methodOf _) hraw
    · cases h

/-- What is found a little behind a wrapper is a call. -/
theorem isCallIn_of_mem_windowHits (reads : r.inner.Reads) (hdot : ('İ' : CodePoint) ∉ text)
    (hanchor : anchor ∈ r.anchor.matchesIn (.ofText text)) (h : hit ∈ r.windowHits names anchor) :
    hit.IsCallIn text := by
  have hpiece : (anchor.stop.within window).rest <:+: text := by
    have htake : (anchor.stop.within window).rest <+: anchor.stop.rest := List.take_prefix ..
    have hbehind : anchor.stop.rest <:+ text :=
      (List.suffix_append ..).trans (rest_of_anchor hanchor)
    exact htake.isInfix.trans hbehind.isInfix
  obtain ⟨m, hm, hhit⟩ := List.mem_flatMap.1 h
  split at hhit
  · exact r.inner.isCallIn_of_mem_hits reads hdot hpiece hm hhit
  · cases hhit

end HookRule

/-- The hits of a rule are calls in the text. -/
theorem Rule.isCallIn_of_mem_hits {rule : Rule} (reads : rule.Reads)
    (hdot : ('İ' : CodePoint) ∉ text) (h : hit ∈ rule.hits names text) : hit.IsCallIn text := by
  cases rule with
  | call r =>
    obtain ⟨m, hm, hhit⟩ := List.mem_flatMap.1 h
    split at hhit
    · exact CallRule.isCallIn_of_mem_hits reads hdot (List.infix_refl text) hm hhit
    · cases hhit
  | hook r =>
    obtain ⟨anchor, hanchor, hhit⟩ := List.mem_flatMap.1 h
    split at hhit
    · next key hkey => exact HookRule.isCallIn_of_mem_keyHits reads.1 hanchor hkey hhit
    · exact HookRule.isCallIn_of_mem_windowHits reads.2 hdot hanchor hhit

-- ============================================================ the endpoints

/-- The endpoint is a call in a text, on a line that the text has. -/
structure Endpoint.IsWellFormed (text : Text) (e : Endpoint) : Prop extends
    IsCallIn text e.method e.url e.raw where
  line_pos : 1 ≤ e.line
  line_le : e.line ≤ (Line.breaks text).length + 1

namespace Source

/-- The endpoints of a source are well formed, if there is no capital i with a dot
in its text. -/
theorem isWellFormed_of_mem_endpoints {s : Source} (hdot : ('İ' : CodePoint) ∉ s.text) :
    ∀ e ∈ s.endpoints, e.IsWellFormed s.text := by
  intro e h
  unfold endpoints at h
  split at h
  · cases h
  · obtain ⟨rule, hrule, he⟩ := List.mem_flatMap.1 h
    obtain ⟨hit, hhit, rfl⟩ := List.mem_map.1 he
    have hcall := Rule.isCallIn_of_mem_hits (Dialect.reads_of_mem_rules hrule) hdot hhit
    exact ⟨hcall, Int.ofNat_le.2 (Line.ofBreaks_pos ..), Int.ofNat_le.2 (Line.ofBreaks_le_length ..)⟩

/-- A route with a list of methods, one of them in lower case, on the second line. -/
theorem isWellFormed_of_mem_endpoints_route :
    let s : Source := ⟨"app.py", "\n@app.route('/a/<int:id>', methods=['put'])", []⟩
    ('İ' : CodePoint) ∉ s.text
      ∧ (⟨"app.py", 2, "/a/:id", "PUT", "@app.route('/a/<int:id>', methods=['put']"⟩ : Endpoint)
          ∈ s.endpoints
      ∧ ∀ e ∈ s.endpoints, e.IsWellFormed s.text := by
  intro s
  have hdot : ('İ' : CodePoint) ∉ s.text := by decide +kernel
  have hmem : (⟨"app.py", 2, "/a/:id", "PUT", "@app.route('/a/<int:id>', methods=['put']"⟩ : Endpoint)
      ∈ s.endpoints := by decide +kernel
  exact ⟨hdot, hmem, isWellFormed_of_mem_endpoints hdot⟩

end Source

end MockApi
