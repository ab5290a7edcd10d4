/-
Requests off the wire. Those that the app's route does not take never reach the
server (`exchange_of_not_isRouted`). The bodies of the others are any bytes, and what
is no JSON text counts as an empty object, with one exception: a text that leads to a
bracket too many is neither read nor excused, and the request fails before it is
looked at (`exchange_of_body`).
-/
import MockApi.Proofs.Json.Nesting
import MockApi.Server.Exchange

namespace MockApi

namespace Json

variable {bytes : Bytes} {t : Text}

-- ================================================================== bytes

/-- The text of bytes, if they are text at all. -/
def textOf? (bytes : Bytes) : Option Text :=
  if bytes.isEmpty then none
  else (TextEncoding.detect bytes).1.decode? (TextEncoding.detect bytes).2

/-- The bytes are a text that leads to a bracket too many. -/
def NestsTooDeep [JsonReader] (bytes : Bytes) : Prop :=
  ∃ t, textOf? bytes = some t ∧ Parser.Exceeds 0 (Parser.skipSpaces t)

/-- What bytes say: the value that their text is, or the default. -/
def valueOf [JsonReader] (bytes : Bytes) (default : Json) : Json :=
  ((textOf? bytes).bind fun t => (parse t).toOption).getD default

/-- A text is refused for its nesting if it exceeds the limit behind its spaces. -/
theorem parse_eq_tooDeep_iff [JsonReader] (t : Text) :
    parse t = .error .tooDeep ↔ Parser.Exceeds 0 (Parser.skipSpaces t) := by
  rw [← Parser.document_eq_tooDeep_iff]
  unfold parse
  split
  · next v hread => simp [hread]
  · next flaw remaining hread => simp [hread]
  · next cause hread => simp [hread]
  · next hread => simp [hread]

/-- What becomes of a reading: the default excuses all but one refusal. -/
def excused (default : Json) : Except JsonError Json → Except JsonError Json
  | .error .tooDeep => .error .tooDeep
  | .error _ => .ok default
  | .ok v => .ok v

/-- Bytes that are no text are read as the default. -/
theorem ofBytes_of_textOf?_none [JsonReader] (h : textOf? bytes = none) (default : Json) :
    ofBytes bytes default = .ok default := by
  unfold ofBytes
  unfold textOf? at h
  split at h
  · next hempty => exact if_pos hempty
  · next hempty =>
    rw [if_neg hempty]
    simp only [h]

/-- Bytes of a text are read as it is parsed, flaws excused. -/
theorem ofBytes_of_textOf? [JsonReader] (h : textOf? bytes = some t) (default : Json) :
    ofBytes bytes default = excused default (parse t) := by
  unfold ofBytes
  unfold textOf? at h
  split at h
  · cases h
  · next hempty =>
    rw [if_neg hempty]
    simp only [h]
    cases parse t with
    | ok v => rfl
    | error e => cases e <;> rfl

/-- Bytes that nest too deeply are refused for it, whatever the default. -/
theorem ofBytes_of_nestsTooDeep [JsonReader] (h : NestsTooDeep bytes) (default : Json) :
    ofBytes bytes default = .error .tooDeep := by
  obtain ⟨t, htext, hexceeds⟩ := h
  rw [ofBytes_of_textOf? htext, (parse_eq_tooDeep_iff t).2 hexceeds]
  rfl

/-- Bytes are read or excused, unless their text nests too deep. -/
theorem ofBytes_of_not_nestsTooDeep [JsonReader] (h : ¬NestsTooDeep bytes) (default : Json) :
    ofBytes bytes default = .ok (valueOf bytes default) := by
  unfold valueOf
  cases htext : textOf? bytes with
  | none => exact ofBytes_of_textOf?_none htext default
  | some t =>
    rw [ofBytes_of_textOf? htext, Option.bind_some]
    cases hparse : parse t with
    | ok v => rfl
    | error e =>
      cases e with
      | flawed flaw place => rfl
      | numeral cause => rfl
      | tooDeep => exact absurd ⟨t, htext, (parse_eq_tooDeep_iff t).1 hparse⟩ h

-- ============================================================ many brackets

/-- The byte of an opening bracket. -/
def bracketByte : UInt8 := 0x5b

/-- Brackets are a text in the encoding with bytes of one character. -/
theorem text8?_brackets (count : Nat) :
    TextEncoding.text8? count (List.replicate count bracketByte)
      = some (List.replicate count (.char '[')) := by
  induction count with
  | zero => rfl
  | succ count ih =>
    show (TextEncoding.text8? count (List.replicate count bracketByte)).map _ = _
    rw [ih]
    rfl

/-- Bytes that are brackets only, and some of them, are text. -/
theorem textOf?_brackets (count : Nat) :
    textOf? (List.replicate (count + 1) bracketByte)
      = some (List.replicate (count + 1) (.char '[')) := by
  have hdetect : TextEncoding.detect (List.replicate (count + 1) bracketByte)
      = (.utf8, List.replicate (count + 1) bracketByte) := by
    -- the first four bytes tell, if there are that many
    match count with
    | 0 | 1 | 2 | more + 3 => rfl
  unfold textOf?
  rw [hdetect]
  show TextEncoding.text8? (List.replicate (count + 1) bracketByte).length _ = _
  rw [List.length_replicate]
  exact text8?_brackets _

/-- Opening brackets alone nest too deep if they are more than may be nested. -/
theorem nestsTooDeep_brackets [JsonReader] {count : Nat} (h : Parser.nestingLimit < count) :
    NestsTooDeep (List.replicate count bracketByte) := by
  obtain ⟨more, rfl⟩ : ∃ more, count = more + 1 := ⟨count - 1, by omega⟩
  refine ⟨_, textOf?_brackets more, ?_⟩
  have hexceeds : Parser.Exceeds 0 (List.replicate (more + 1) (.char '[') ++ []) :=
    Parser.exceeds_replicate (by omega) []
  rw [List.append_nil] at hexceeds
  exact hexceeds

end Json

-- ================================================================ the route

namespace WireRequest

/-- Behind the slash that a path begins with, a line feed may only be the last character. -/
theorem isRouted_slash {rest : Text} :
    isRouted (.char '/' :: rest) = true ↔ .char '\n' ∉ rest.dropLast := by
  show (!rest.dropLast.contains '\n') = true ↔ _
  rw [Bool.not_eq_true', ← Bool.not_eq_true, List.contains_iff_mem]

/-- The route takes a slash and anything behind it without a line feed, and it also
takes one line feed more at the very end. -/
theorem isRouted_iff {path : Text} : isRouted path = true
    ↔ ∃ inside : Text, .char '\n' ∉ inside
      ∧ (path = .char '/' :: inside ∨ path = .char '/' :: (inside ++ [.char '\n'])) := by
  constructor
  · intro h
    obtain ⟨rest, rfl⟩ : ∃ rest, path = .char '/' :: rest := by
      unfold isRouted at h
      split at h
      · next rest => exact ⟨rest, rfl⟩
      · cases h
    rw [isRouted_slash] at h
    by_cases hlast : .char '\n' ∈ rest
    · -- the last character is the only place that is left for it
      have hne : rest ≠ [] := List.ne_nil_of_mem hlast
      rw [← List.dropLast_append_getLast hne, List.mem_append, List.mem_singleton] at hlast
      have heq := hlast.resolve_left h
      refine ⟨rest.dropLast, h, .inr ?_⟩
      rw [heq, List.dropLast_append_getLast hne]
    -- no line feed at all
    · exact ⟨rest, hlast, .inl rfl⟩
  · rintro ⟨inside, hnone, rfl | rfl⟩
    · exact isRouted_slash.2 fun hmem => hnone (List.dropLast_subset _ hmem)
    · rw [isRouted_slash, List.dropLast_concat]
      exact hnone

end WireRequest

namespace Address

/-- A path without marks that end it and without what does not count is left as it is. -/
theorem pathWithin_eq_self {path : Text}
    (plain : ∀ c ∈ path, c ≠ '?' ∧ c ≠ '#' ∧ Url.isIgnored c = false) :
    pathWithin path = path := by
  have hkept : path.filter (!Url.isIgnored ·) = path :=
    List.filter_eq_self.2 fun c hc => by rw [(plain c hc).2.2]; rfl
  have hfragment : Text.before '#' path = path :=
    List.takeWhile_eq_self_iff.2 fun c hc => bne_iff_ne.2 (plain c hc).2.1
  have hquery : Text.before '?' path = path :=
    List.takeWhile_eq_self_iff.2 fun c hc => bne_iff_ne.2 (plain c hc).1
  rw [pathWithin, hkept, hfragment, hquery]

/-- An escaped address can stand in a header line. -/
theorem isSingleByte_of_escaped? {address line : Text} (h : escaped? address = some line) :
    Response.isSingleByte line = true := by
  have hbyte : ∀ n < 256, Response.isSingleByte (escapedByte (UInt8.ofNat n)) = true := by
    decide +kernel
  obtain ⟨bytes, -, rfl⟩ := Option.map_eq_some_iff.1 h
  rw [Response.isSingleByte, List.all_flatMap, List.all_eq_true]
  intro b _
  have hb := hbyte b.toNat b.toNat_lt
  rwa [UInt8.ofNat_toNat] at hb

end Address

namespace Server

open Json

variable {r : WireRequest}

-- ================================================================ requests

/-- A request that the route takes is handled, and its answer made legible to any page. -/
theorem exchange_of_isRouted [JsonReader] (s : Server)
    (routed : WireRequest.isRouted r.path = true) :
    s.exchange r = ((s.handle r).1.map Response.withAccess, (s.handle r).2) := by
  unfold exchange
  rw [routed]
  rfl

/-- A request that the route does not take leaves the server as it was. -/
theorem exchange_of_not_isRouted [JsonReader] (s : Server)
    (unrouted : WireRequest.isRouted r.path = false) :
    s.exchange r = (r.unrouted.map Response.withAccess, s, []) := by
  unfold exchange
  rw [unrouted]
  rfl

/-- A body that nests too deep is not read, and nothing is done. -/
theorem handle_of_nestsTooDeep [JsonReader] (s : Server)
    (served : servedMethods.contains r.method = true) (h : NestsTooDeep r.body) :
    s.handle r = (.error .tooDeep, s, []) := by
  unfold handle
  rw [served, ofBytes_of_nestsTooDeep h]
  rfl

/-- What a body says is dispatched, unless the request is a question about options. -/
theorem handle_of_not_nestsTooDeep [JsonReader] (s : Server)
    (served : servedMethods.contains r.method = true) (h : ¬NestsTooDeep r.body) :
    s.handle r = if Text.upper r.method = "OPTIONS" then (.ok Response.noContent, s, [])
      else s.dispatch { method := r.method, path := Address.pathWithin r.path,
                        body := valueOf r.body (.obj []) } := by
  unfold handle
  rw [served, ofBytes_of_not_nestsTooDeep h]
  rfl

/-- How a body matters to a request. Reading it gives the value of its text, or
the default, if and only if the text does not lead to a bracket too many, as no
text does that opens few of them. A request that the route takes then gets the
answer to a pre-flight request, or that of its dispatch with the value; otherwise
it fails, and the server is as it was. -/
theorem exchange_of_body [JsonReader] (s : Server) (r : WireRequest) :
    (∀ default, (∃ v, Json.ofBytes r.body default = .ok v) ↔ ¬NestsTooDeep r.body)
      ∧ (∀ default v, Json.ofBytes r.body default = .ok v → v = valueOf r.body default)
      ∧ (NestsTooDeep r.body → ∃ t, textOf? r.body = some t
          ∧ Parser.nestingLimit < t.countP Text.isBracket)
      ∧ (WireRequest.isRouted r.path = true → servedMethods.contains r.method = true →
        (NestsTooDeep r.body → s.exchange r = (.error .tooDeep, s, []))
        ∧ (¬NestsTooDeep r.body → s.exchange r
            = if Text.upper r.method = "OPTIONS" then (.ok Response.noContent.withAccess, s, [])
              else
                let answered := s.dispatch { method := r.method, path := Address.pathWithin r.path,
                                             body := valueOf r.body (.obj []) }
                (answered.1.map Response.withAccess, answered.2))) := by
  refine ⟨fun default => ?_, fun default v hv => ?_, fun hdeep => ?_, fun hrouted hserved => ?_⟩
  · by_cases hdeep : NestsTooDeep r.body
    · rw [ofBytes_of_nestsTooDeep hdeep]
      exact iff_of_false nofun (not_not_intro hdeep)
    · rw [ofBytes_of_not_nestsTooDeep hdeep]
      exact iff_of_true ⟨_, rfl⟩ hdeep
  · by_cases hdeep : NestsTooDeep r.body
    · rw [ofBytes_of_nestsTooDeep hdeep] at hv
      cases hv
    · rw [ofBytes_of_not_nestsTooDeep hdeep] at hv
      exact (Except.ok.inj hv).symm
  · obtain ⟨t, htext, hexceeds⟩ := hdeep
    -- each level of nesting takes a bracket of its own
    have hmany := hexceeds.lt_brackets
    have hle := (Parser.skipSpaces_suffix t).sublist.countP_le (p := Text.isBracket)
    exact ⟨t, htext, by omega⟩
  · rw [exchange_of_isRouted s hrouted]
    constructor
    · intro hdeep
      rw [handle_of_nestsTooDeep s hserved hdeep]
      rfl
    · intro hdeep
      rw [handle_of_not_nestsTooDeep s hserved hdeep]
      split
      · rfl
      · rfl

/-- A server without routes. -/
def bareServer : Server := create {} [] ⟨[]⟩

/-- A request with a body of so many opening brackets. -/
def bracketRequest (count : Nat) : WireRequest :=
  { method := "POST", origin := "http://127.0.0.1:3000", path := "/a"
    body := List.replicate count bracketByte }

/-- A body of five thousand brackets is no JSON text, and is not excused: the
request fails. -/
theorem exchange_of_brackets :
    Json.ofBytes (bracketRequest 5000).body (.obj []) = .error .tooDeep
      ∧ (bareServer.exchange (bracketRequest 5000)).1 = .error .tooDeep := by
  have hdeep : NestsTooDeep (bracketRequest 5000).body := nestsTooDeep_brackets (by decide)
  have hrouted : WireRequest.isRouted (bracketRequest 5000).path = true := by decide
  have hserved : servedMethods.contains (bracketRequest 5000).method = true := by decide
  refine ⟨ofBytes_of_nestsTooDeep hdeep (.obj []), ?_⟩
  rw [exchange_of_isRouted bareServer hrouted, handle_of_nestsTooDeep bareServer hserved hdeep]
  rfl

end Server

end MockApi
