/-
What a request can do to the rendering of a template: no more than give the texts of
the fields that the template names. Two requests that agree there are rendered alike;
whether a template is refused and whether it takes an id is the template's own affair.
A request makes the rendering fail only by an integer without a text in a field that is
named, and no request that was read from bytes holds one, for the reader admits none.
What the request says stands in the result as it was said and is not read as a template
again (`render_verbatim`); but a text inside a field that is no string stands there as
JSON writes it, with escapes where it needs them (`escaped_in_rendering`).
-/
import MockApi.Json.Encoding
import MockApi.Proofs.Json.Parser
import MockApi.Proofs.Mock.Rendering

namespace MockApi

-- ================================================================= requests

/-- The value is what the bytes of a request's body are read as. -/
def Json.IsReceived [JsonReader] (v : Json) : Prop := ∃ bytes, Json.ofBytes bytes (.obj []) = .ok v

/-- What was received can be written. -/
theorem Json.IsReceived.isWritable [JsonReader] {v : Json} (h : v.IsReceived) :
    v.isWritable = true := by
  obtain ⟨bytes, hread⟩ := h
  unfold Json.ofBytes at hread
  split at hread
  · rw [← Except.ok.inj hread]
    rfl
  · simp only at hread
    split at hread
    · rw [← Except.ok.inj hread]
      rfl
    · split at hread
      · cases hread
      · rw [← Except.ok.inj hread]
        rfl
      · next v' hparse =>
        rw [← Except.ok.inj hread]
        exact isWritable_of_parse hparse

namespace Template

variable {request other template v : Json} {id : Int} {path : List Text}

/-- Whatever is looked up in a value that can be written can be written. -/
theorem isWritable_lookUp (h : request.isWritable = true) (path : List Text) :
    (lookUp request path).isWritable = true := by
  induction path generalizing request with
  | nil => exact h
  | cons name later ih =>
    rw [lookUp]
    split
    · next value hvalue =>
      refine ih ?_
      cases request with
      | obj fields =>
        rw [Json.isWritable_obj, List.all_eq_true] at h
        exact h _ (Fields.mem_of_get?_eq_some hvalue)
      | _ => cases hvalue
    · rfl

/-- A request that was received lacks no text that the template asks it for. -/
theorem hasTexts_iff [JsonReader] (h : request.IsReceived) :
    HasTexts id request template ↔ (Holds template "auto" → fitsInText id = true) :=
  ⟨HasTexts.id, fun hid => ⟨hid, fun path _ _ => isWritable_lookUp h.isWritable path⟩⟩

-- ================================================================== fields

/-- The requests have the same in every field that the template names. -/
def AgreeOnFields (template request other : Json) : Prop :=
  ∀ path, isPath path = true → Holds template (fieldName path) →
    lookUp request path = lookUp other path

/-- Requests that agree on the fields of a template have the same texts for it. -/
theorem AgreeOnFields.hasTexts_iff (h : AgreeOnFields template request other) :
    HasTexts id request template ↔ HasTexts id other template := by
  constructor
  · intro htexts
    refine ⟨htexts.id, fun path hpath hfield => ?_⟩
    rw [← h path hpath hfield]
    exact htexts.fields path hpath hfield
  · intro htexts
    refine ⟨htexts.id, fun path hpath hfield => ?_⟩
    rw [h path hpath hfield]
    exact htexts.fields path hpath hfield

/-- The pieces of a template have the texts of the fields that it names. -/
theorem AgreeOnFields.text_eq (h : AgreeOnFields template request other) {piece : Piece}
    (hmem : piece ∈ allPieces template) : piece.text id request = piece.text id other := by
  cases piece with
  | plain c => rfl
  | hole written p =>
    cases p with
    | auto => rfl
    | unknown => rfl
    | field path =>
      obtain ⟨name, hname, hp⟩ := exists_mem_allPieces_iff.1 ⟨written, hmem⟩
      obtain ⟨hpath, rfl⟩ := placeholder_eq_field_iff.1 hp
      rw [Piece.text, Piece.text, h path hpath hname]

mutual

/-- A value's strings are all of it that a change of its strings reads. -/
theorem mapStrings_congr {f g : Text → Text} :
    ∀ v : Json, (∀ t ∈ v.strings, f t = g t) → v.mapStrings f = v.mapStrings g
  | .null, _ => rfl
  | .bool _, _ => rfl
  | .int _, _ => rfl
  | .float _, _ => rfl
  | .str t, h => congrArg Json.str (h t (List.mem_singleton.2 rfl))
  | .arr items, h => congrArg Json.arr (mapStringsOf_congr items h)
  | .obj fields, h => congrArg Json.obj (mapStringsIn_congr fields h)

/-- Two maps that agree on the strings of items agree on the items. -/
theorem mapStringsOf_congr {f g : Text → Text} :
    ∀ items : List Json, (∀ t ∈ Json.stringsOf items, f t = g t) →
      Json.mapStringsOf f items = Json.mapStringsOf g items
  | [], _ => rfl
  | item :: rest, h => by
    rw [Json.stringsOf, List.forall_mem_append] at h
    rw [Json.mapStringsOf, Json.mapStringsOf, mapStrings_congr item h.1,
      mapStringsOf_congr rest h.2]

/-- Two maps that agree on the strings of members agree on the members. -/
theorem mapStringsIn_congr {f g : Text → Text} :
    ∀ fields : List (Text × Json), (∀ t ∈ Json.stringsIn fields, f t = g t) →
      Json.mapStringsIn f fields = Json.mapStringsIn g fields
  | [], _ => rfl
  | (key, value) :: rest, h => by
    rw [Json.stringsIn, List.forall_mem_append] at h
    rw [Json.mapStringsIn, Json.mapStringsIn, mapStrings_congr value h.1,
      mapStringsIn_congr rest h.2]

end

/-- Requests that agree on the fields of a template fill it alike. -/
theorem AgreeOnFields.filled_eq (h : AgreeOnFields template request other) :
    filled id request template = filled id other template := by
  refine mapStrings_congr template fun t ht => ?_
  refine List.flatMap_congr fun piece hpiece => ?_
  exact h.text_eq (List.mem_flatMap.2 ⟨t, ht, hpiece⟩)

/-- Requests that agree on the fields of a template are rendered alike. -/
theorem AgreeOnFields.render_eq (h : AgreeOnFields template request other) :
    render template request id = render template other id := by
  have hfillable : isFillable id request template = isFillable id other template := by
    rw [Bool.eq_iff_iff, isFillable_iff, isFillable_iff, h.hasTexts_iff]
  rw [Template.render_eq, Template.render_eq, h.filled_eq, hfillable]

-- ================================================================= failing

/-- A rendering fails if the template is refused, or if it asks for what has no text. -/
theorem exists_error_iff : (∃ cause, (render template request id).1 = .error cause)
    ↔ (∃ name, Holds template name ∧ ¬IsKnown name) ∨ ¬HasTexts id request template := by
  have hcontract := render_contract template request id
  generalize render template request id = outcome at hcontract ⊢
  obtain ⟨hrefused, -, hrendered⟩ := hcontract
  constructor
  · rintro ⟨cause, hcause⟩
    by_contra hnone
    rw [not_or, not_not, ← forall_isKnown_iff] at hnone
    obtain ⟨f, -, hvalue⟩ := (hrendered hnone.1).1 hnone.2
    rw [hvalue] at hcause
    cases hcause
  · intro h
    by_cases hunknown : ∃ name, Holds template name ∧ ¬IsKnown name
    · obtain ⟨written, hwritten⟩ := hrefused.2 hunknown
      exact ⟨_, hwritten⟩
    · have hknown := forall_isKnown_iff.2 hunknown
      exact ⟨_, (hrendered hknown).2.1 (h.resolve_left hunknown)⟩

-- ================================================================= verbatim

/-- The text of a field holds what the field says as it was said, if that needs no
escapes; a field that is a string is its own text. -/
theorem isInfix_textOf {said piece : Text} (hsaid : v.Says said) (hpiece : piece <:+: said)
    (hverbatim : ∀ c ∈ piece, Json.isVerbatim c = true) : piece <:+: textOf v := by
  cases v with
  | null => cases hsaid
  | str t =>
    cases hsaid
    exact hpiece
  | _ => exact hsaid.isInfix_text hpiece hverbatim

/-- What a request can do to a rendering. Where two requests agree on the fields that
the template names, the outcomes are the same and so are the next ids. Whatever the
requests are, the template is refused for both or for none, with the same placeholder,
and the next ids are the same. A rendering fails if and only if the template is refused
or an id or a field that it asks for has no text; requests that were received fail for
the same reason, if at all. What is rendered is the template with its placeholders
replaced, once: between the renderings of what stands around a field's placeholder, a
string stands as it is, and in the text of any other value stands what that says, if it
needs no escapes. -/
theorem render_verbatim [JsonReader] (template : Json) (id : Int) :
    (∀ request other, AgreeOnFields template request other →
        render template request id = render template other id)
      ∧ (∀ request other,
        (render template request id).2 = (render template other id).2
        ∧ (∀ written, (render template request id).1 = .error (.unknownPlaceholder written)
          ↔ (render template other id).1 = .error (.unknownPlaceholder written)))
      ∧ (∀ request, (∃ cause, (render template request id).1 = .error cause)
        ↔ (∃ name, Holds template name ∧ ¬IsKnown name) ∨ ¬HasTexts id request template)
      ∧ (∀ request other : Json, request.IsReceived → other.IsReceived →
        ∀ cause, (render template request id).1 = .error cause
          ↔ (render template other id).1 = .error cause)
      ∧ ∀ request v, (render template request id).1 = .ok v →
        ∃ f, v = template.mapStrings f ∧ Replaces id request f
          ∧ ∀ before written after path, isPath path = true →
            IsPlaceholder written (fieldName path) →
            (∀ t, lookUp request path = .str t →
              f (before ++ (written ++ after)) = f before ++ (t ++ f after))
            ∧ ∀ said piece, (lookUp request path).Says said → piece <:+: said →
              (∀ c ∈ piece, Json.isVerbatim c = true) →
              ∃ text, f (before ++ (written ++ after)) = f before ++ (text ++ f after)
                ∧ piece <:+: text := by
  refine ⟨fun request other h => h.render_eq, fun request other => ⟨?_, fun written => ?_⟩,
    fun request => exists_error_iff, fun request other hrequest hother cause => ?_,
    fun request v hv => ?_⟩
  · rw [render_snd, render_snd]
  · rw [Template.render_eq, Template.render_eq]
    split
    · rfl
    · refine iff_of_false (fun h => ?_) fun h => ?_
      · simp only at h
        split at h <;> cases h
      · simp only at h
        split at h <;> cases h
  -- what was received holds no integer that is too long, so only the id can be
  · have hfillable : isFillable id request template = isFillable id other template := by
      rw [Bool.eq_iff_iff, isFillable_iff, isFillable_iff, hasTexts_iff hrequest,
        hasTexts_iff hother]
    rw [Template.render_eq, Template.render_eq, hfillable]
    split
    · rfl
    · simp only
      split
      · exact iff_of_false nofun nofun
      · rfl
  -- no placeholder is unknown and everything asked for has a text, since there is a result
  · rw [Template.render_eq] at hv
    split at hv
    · cases hv
    · simp only at hv
      split at hv
      · have hreplaces := replaces_filledText id request
        refine ⟨filledText id request, (Except.ok.inj hv).symm, hreplaces, ?_⟩
        intro before written after path hpath hwritten
        have hfield := hreplaces.field before written after path hpath hwritten
        refine ⟨fun t ht => ?_, fun said piece hsaid hpiece hverbatim => ?_⟩
        · rw [ht] at hfield
          exact hfield
        · exact ⟨_, hfield, isInfix_textOf hsaid hpiece hverbatim⟩
      · cases hv

/-- A template that asks for one field. -/
def oneFieldTemplate : Json := .ofFields [("t", .ofString "\x7b\x7bbody.a\x7d\x7d")]

/-- A request with one field. -/
def oneFieldRequest (v : Json) : Json := .ofFields [("a", v)]

/-- A text like a placeholder, with a letter that JSON escapes. -/
def foreignPlaceholder : Text := "\x7b\x7bn\u00e9\x7d\x7d"

/-- A list of this text, as JSON writes it. -/
def foreignList : Text := "[\"\x7b\x7bn\\u00e9\x7d\x7d\"]"

/-- A text like a placeholder that a request holds in a list is rendered with an escape,
and so does not stand in the result; and where an integer of one digit too many is asked
for, the rendering fails, though it does not with another integer. -/
theorem escaped_in_rendering :
    (lookUp (oneFieldRequest (.arr [.str foreignPlaceholder])) ["a"]).Says foreignPlaceholder
      ∧ (render oneFieldTemplate (oneFieldRequest (.arr [.str foreignPlaceholder])) 1).1.toOption.map
          Json.strings = some [foreignList]
      ∧ ¬foreignPlaceholder <:+: foreignList
      ∧ (render oneFieldTemplate (oneFieldRequest (.int (10 ^ 4300))) 1).1.isOk = false
      ∧ (render oneFieldTemplate (oneFieldRequest (.int 1)) 1).1.isOk = true := by
  refine ⟨.item List.mem_cons_self (.str _), ?_, ?_, ?_, ?_⟩
  · decide +kernel
  · decide +kernel
  · decide +kernel
  · decide +kernel

/-- What the sender of a letter sends along without being asked. -/
def longerRequest : Json :=
  .ofFields [("from", .ofFields [("name", .ofString "\x7b\x7bauto\x7d\x7d"), ("age", .int 3)])]

/-- The body of a letter as it is sent. -/
def letterBytes : Bytes :=
  (Utf8.encode? "\x7b\"from\": \x7b\"name\": \"\x7b\x7bauto\x7d\x7d\"\x7d\x7d").getD []

/-- The field that a piece names. -/
def Piece.path? : Piece → Option (List Text)
  | .hole _ (.field path) => some path
  | _ => none

/-- The only field that a letter's template names is the sender's name. -/
theorem agreeOnFields_letter : AgreeOnFields letterTemplate letterRequest longerRequest := by
  intro path hpath hfield
  obtain ⟨written, hmem⟩ := exists_mem_allPieces_iff.2 ⟨_, hfield, placeholder_fieldName hpath⟩
  have hfields : (allPieces letterTemplate).filterMap Piece.path?
      = [(["from", "name"] : List Text)] := by decide +kernel
  have hname : path ∈ (allPieces letterTemplate).filterMap Piece.path? :=
    List.mem_filterMap.2 ⟨_, hmem, rfl⟩
  rw [hfields] at hname
  obtain rfl := List.mem_singleton.1 hname
  rfl

/-- What the sender of a letter is called looks like a placeholder, and stands in the
letter as it is. -/
theorem render_verbatim_letter :
    render letterTemplate letterRequest 7 = render letterTemplate longerRequest 7
      ∧ (∃ request, Json.ofBytes letterBytes (.obj []) = .ok request
        ∧ request.text .body = letterRequest.text .body
        ∧ ∀ cause, (render letterTemplate request 7).1 = .error cause
          ↔ (render letterTemplate (.obj []) 7).1 = .error cause)
      ∧ ∃ v f, (render letterTemplate letterRequest 7).1 = .ok v ∧ v = letterTemplate.mapStrings f
        ∧ f ("\x7b\x7b  body.from.name\x7d\x7d!" : Text)
          = f [] ++ ("\x7b\x7bauto\x7d\x7d" ++ f "!") := by
  obtain ⟨hagree, -, -, hreceived, hverbatim⟩ := render_verbatim letterTemplate 7
  refine ⟨hagree _ _ agreeOnFields_letter, ?_, ?_⟩
  · have hread : (Json.ofBytes letterBytes (.obj [])).toOption.map (Json.text .body)
        = some (letterRequest.text .body) := by decide +kernel
    cases hbytes : Json.ofBytes letterBytes (.obj []) with
    | error cause =>
      rw [hbytes] at hread
      cases hread
    | ok request =>
      rw [hbytes] at hread
      exact ⟨request, rfl, Option.some.inj hread,
        hreceived request (.obj []) ⟨_, hbytes⟩ ⟨[], rfl⟩⟩
  · have hfirst : firstUnknown? letterTemplate = none := by decide +kernel
    have hfillable : isFillable 7 letterRequest letterTemplate = true := by decide +kernel
    have hrender : (render letterTemplate letterRequest 7).1
        = .ok (filled 7 letterRequest letterTemplate) := by
      rw [Template.render_eq, hfirst]
      simp only [hfillable, if_true]
    obtain ⟨f, hv, -, hfield⟩ := hverbatim letterRequest _ hrender
    -- blanks in front of the name, none behind it
    have hname : IsPlaceholder ("\x7b\x7b  body.from.name\x7d\x7d" : Text)
        (fieldName ["from", "name"]) := by
      have hblank : ∀ c ∈ ("  " : Text), Text.isBlank c = true := by decide
      have hwritten : ("\x7b\x7b  body.from.name\x7d\x7d" : Text)
          = openBraces ++ (("  " : Text) ++ fieldName ["from", "name"] ++ []) ++ closeBraces := by
        decide
      rw [hwritten]
      refine .intro hblank (fun c hc => nomatch hc) ?_ ?_ ?_
      · decide
      · constructor
        · intro c hc
          obtain rfl := Option.some.inj hc
          decide
        · intro c hc
          obtain rfl := Option.some.inj hc
          decide
      · decide
    obtain ⟨hstring, -⟩ := hfield [] _ "!" ["from", "name"] (by decide +kernel) hname
    exact ⟨_, f, hrender, hv, hstring "\x7b\x7bauto\x7d\x7d" rfl⟩

end Template

end MockApi
