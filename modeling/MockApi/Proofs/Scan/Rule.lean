/-
What rules find. Every URL that a rule reads is a literal of at most
`Lexeme.urlLimit` characters, whatever the dialect and the text, for the pattern
of every rule limits the literals it binds; so no endpoint of any file has a URL
of more digits than that (`countP_url_le`).
-/
import MockApi.Proofs.Pattern
import MockApi.Proofs.Scan.Batch
import MockApi.Proofs.Scan.UrlLiteral
import MockApi.Scan.Source

namespace MockApi

-- ============================================================== the limits

/-- The rule reads no literal of more characters than there may be in one. -/
def Rule.limits : Rule → Bool
  | .call r => r.pattern.limits .url Lexeme.urlLimit
  | .hook r => r.key.limits .url Lexeme.urlLimit && r.inner.pattern.limits .url Lexeme.urlLimit

theorem Dialect.limits_of_mem_rules {dialect : Dialect} {rule : Rule}
    (h : rule ∈ dialect.rules) : rule.limits = true := by
  have hall : dialect.rules.all Rule.limits = true := by cases dialect <;> decide
  exact List.all_eq_true.1 hall rule h

-- ================================================================== the hits

/-- The hits of a match have no more digits than its literal may have characters. -/
theorem Match.countP_url_le {p : Pattern} {c : Cursor} {m : Match} {methods : List Text}
    {hit : Hit} {most : Nat} (limited : p.limits .url most = true) (found : m ∈ p.matchesIn c)
    (h : hit ∈ m.hits methods) : hit.url.countP Text.isDigit ≤ most := by
  obtain ⟨start, hmatch⟩ := Pattern.exists_of_mem_matchesIn found
  have hshort := Pattern.length_get_le limited hmatch
  unfold hits at h
  split at h
  · next url hurl =>
    obtain ⟨method, -, rfl⟩ := List.mem_map.1 h
    exact UrlLiteral.countP_le_of_normalize? hshort hurl
  · cases h

/-- A URL of a call has no more digits than its pattern allows. -/
theorem CallRule.countP_url_le {r : CallRule} {names : ClientNames} {c : Cursor} {hit : Hit}
    {most : Nat} (limited : r.pattern.limits .url most = true) (h : hit ∈ r.hits names c) :
    hit.url.countP Text.isDigit ≤ most := by
  obtain ⟨m, hm, hhit⟩ := List.mem_flatMap.1 h
  split at hhit
  · exact m.countP_url_le limited hm hhit
  · cases hhit

namespace HookRule

variable {r : HookRule} {anchor : Match} {hit : Hit} {most : Nat}

/-- A URL under a key has no more digits than the key's pattern allows. -/
theorem countP_keyHits_le {key : Match} (limited : r.key.limits .url most = true)
    (found : r.key? anchor = some key) (h : hit ∈ keyHits anchor key) :
    hit.url.countP Text.isDigit ≤ most := by
  unfold key? at found
  split at found
  · cases found
  · have hshort := Pattern.length_get_le limited (Option.filter_eq_some_iff.1 found).1
    unfold keyHits at h
    split at h
    · next url hurl =>
      obtain rfl := List.mem_singleton.1 h
      exact UrlLiteral.countP_le_of_normalize? hshort hurl
    · cases h

/-- A URL in a window has no more digits than the inner pattern allows. -/
theorem countP_windowHits_le {names : ClientNames}
    (limited : r.inner.pattern.limits .url most = true) (h : hit ∈ r.windowHits names anchor) :
    hit.url.countP Text.isDigit ≤ most := by
  obtain ⟨m, hm, hhit⟩ := List.mem_flatMap.1 h
  split at hhit
  · exact m.countP_url_le limited hm hhit
  · cases hhit

/-- A URL of a hook has no more digits than both its patterns allow. -/
theorem countP_url_le {names : ClientNames} {c : Cursor} (key : r.key.limits .url most = true)
    (inner : r.inner.pattern.limits .url most = true) (h : hit ∈ r.hits names c) :
    hit.url.countP Text.isDigit ≤ most := by
  obtain ⟨anchor, -, hhit⟩ := List.mem_flatMap.1 h
  split at hhit
  · next m hm => exact countP_keyHits_le key hm hhit
  · exact countP_windowHits_le inner hhit

end HookRule

/-- No hit of a rule has more digits in its URL than a URL may have characters. -/
theorem Rule.countP_url_le {rule : Rule} {names : ClientNames} {text : Text} {hit : Hit}
    (limited : rule.limits = true) (h : hit ∈ rule.hits names text) :
    hit.url.countP Text.isDigit ≤ Lexeme.urlLimit := by
  cases rule with
  | call r => exact r.countP_url_le limited h
  | hook r =>
    rw [limits, Bool.and_eq_true] at limited
    exact r.countP_url_le limited.1 limited.2 h

-- ============================================================= the endpoints

/-- No endpoint of a source has more digits in its URL than a URL may have characters. -/
theorem Source.countP_url_le {s : Source} {e : Endpoint} (h : e ∈ s.endpoints) :
    e.url.countP Text.isDigit ≤ Lexeme.urlLimit := by
  unfold endpoints at h
  split at h
  · cases h
  · obtain ⟨rule, hrule, he⟩ := List.mem_flatMap.1 h
    obtain ⟨hit, hhit, rfl⟩ := List.mem_map.1 he
    exact rule.countP_url_le (Dialect.limits_of_mem_rules hrule) hhit

/-- No endpoint of a batch has a URL of more digits than a literal has characters. -/
theorem Extractor.countP_url_le {pool : Pool Source (List Endpoint)} (ordered : pool.IsOrdered)
    {x : Extractor} {sources : List Source} {e : Endpoint} (h : e ∈ x.extract pool sources) :
    e.url.countP Text.isDigit ≤ Lexeme.urlLimit := by
  rw [extract_eq ordered] at h
  obtain ⟨s, -, hs⟩ := List.mem_flatMap.1 ((Endpoint.newIn_sublist ..).subset h)
  exact s.countP_url_le hs

end MockApi
