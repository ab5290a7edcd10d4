/-
What rendering does, told by the placeholders that stand in a template's strings
(`Holds`). A template that holds a name which stands for nothing is refused, and then
no id is taken. Every other template keeps its shape, and of its strings all that
changes are the placeholders: `Replaces` says of a function on texts that it does
that, and `render_contract` that rendering applies such a function to every string.

A template that is not refused can still fail: no integer of more than `digitLimit`
digits has a text, be it the id or one in a field that is asked for. The id is taken
all the same.
-/
import MockApi.Proofs.Json.Fields
import MockApi.Proofs.Mock.Placeholder

namespace MockApi.Template

-- ================================================================== names

/-- The name that stands for a field of the request. -/
def fieldName (path : List Text) : Text := "body." ++ Text.join "." path

/-- The name stands for the id, or for a field by a path of names. -/
def IsKnown (name : Text) : Prop :=
  name = "auto" ∨ ∃ path, isPath path = true ∧ name = fieldName path

variable {name : Text} {path : List Text} {id : Int} {request template : Json}

/-- There is no dot in a name. -/
theorem not_mem_of_isName {starts : CodePoint → Bool} (hstarts : starts '.' = false)
    (h : isName starts name = true) : ('.' : CodePoint) ∉ name := by
  cases name with
  | nil => exact List.not_mem_nil
  | cons c rest =>
    rw [isName, Bool.and_eq_true, List.all_eq_true] at h
    rw [List.mem_cons, not_or]
    constructor
    · rintro rfl
      rw [hstarts] at h
      cases h.1
    · intro hmem
      exact absurd (h.2 _ hmem) (by decide)

/-- The names of a path are told apart by the dots between them. -/
theorem splitOn_join_path (h : isPath path = true) :
    Text.splitOn '.' (Text.join "." path) = path := by
  cases path with
  | nil => cases h
  | cons first later =>
    rw [isPath, Bool.and_eq_true, List.all_eq_true] at h
    refine Text.splitOn_join (List.cons_ne_nil _ _) fun piece hpiece => ?_
    rcases List.mem_cons.1 hpiece with rfl | hlater
    · exact not_mem_of_isName (by decide) h.1
    · exact not_mem_of_isName (by decide) (h.2 _ hlater)

/-- No field is called `auto`. -/
theorem fieldName_ne_auto (path : List Text) : fieldName path ≠ "auto" := by
  intro h
  have hhead : some (CodePoint.char 'b') = some (.char 'a') := congrArg List.head? h
  exact absurd hhead (by decide)

theorem placeholder_auto : placeholder "auto" = .auto := rfl

/-- The name of a field is that of a placeholder for it. -/
theorem placeholder_fieldName (h : isPath path = true) :
    placeholder (fieldName path) = .field path := by
  have hafter : Text.afterPiece? "body." (fieldName path) = some (Text.join "." path) :=
    Text.afterPiece?_eq_some_iff.2 rfl
  rw [placeholder, if_neg (fieldName_ne_auto path), hafter]
  simp only [splitOn_join_path h, h, if_true]

/-- Only `auto` stands for the id. -/
theorem placeholder_eq_auto_iff : placeholder name = .auto ↔ name = "auto" := by
  constructor
  · intro h
    by_contra hne
    rw [placeholder, if_neg hne] at h
    split at h
    · cases h
    · simp only at h
      split at h <;> cases h
  · rintro rfl
    rfl

/-- A placeholder stands for a field if it is called like it. -/
theorem placeholder_eq_field_iff :
    placeholder name = .field path ↔ isPath path = true ∧ name = fieldName path := by
  constructor
  · intro h
    unfold placeholder at h
    split at h
    · cases h
    · split at h
      · cases h
      · next rest hafter =>
        simp only at h
        split at h
        · next hpath =>
          obtain rfl := Placeholder.field.inj h
          refine ⟨hpath, ?_⟩
          rw [fieldName, show ("." : Text) = [('.' : CodePoint)] from rfl, Text.join_splitOn]
          exact Text.afterPiece?_eq_some_iff.1 hafter
        · cases h
  · rintro ⟨hpath, rfl⟩
    exact placeholder_fieldName hpath

/-- A placeholder is unknown if it stands for neither. -/
theorem placeholder_eq_unknown_iff : placeholder name = .unknown ↔ ¬IsKnown name := by
  constructor
  · rintro h (rfl | ⟨path, hpath, rfl⟩)
    · cases h
    · rw [placeholder_fieldName hpath] at h
      cases h
  · intro h
    cases hp : placeholder name with
    | auto => exact absurd (Or.inl (placeholder_eq_auto_iff.1 hp)) h
    | field path => exact absurd (Or.inr ⟨path, placeholder_eq_field_iff.1 hp⟩) h
    | unknown => rfl

-- ============================================================== templates

/-- A placeholder of the name stands in one of the template's strings. -/
def Holds (template : Json) (name : Text) : Prop :=
  ∃ text ∈ template.strings, ∃ written, IsPlaceholder written name ∧ written <:+: text

theorem mem_allPieces_iff {written : Text} {p : Placeholder} :
    .hole written p ∈ allPieces template
      ↔ ∃ text ∈ template.strings, ∃ name, IsPlaceholder written name ∧ placeholder name = p
        ∧ written <:+: text := by
  simp only [allPieces, List.mem_flatMap, mem_pieces_iff]

/-- The names that a template holds are those of its pieces. -/
theorem exists_mem_allPieces_iff {p : Placeholder} :
    (∃ written, .hole written p ∈ allPieces template)
      ↔ ∃ name, Holds template name ∧ placeholder name = p := by
  simp only [mem_allPieces_iff]
  constructor
  · rintro ⟨written, text, htext, name, hname, hp, hwithin⟩
    exact ⟨name, ⟨text, htext, written, hname, hwithin⟩, hp⟩
  · rintro ⟨name, ⟨text, htext, written, hname, hwithin⟩, hp⟩
    exact ⟨written, text, htext, name, hname, hp, hwithin⟩

/-- A template uses the id if a placeholder in it is called `auto`. -/
theorem usesAuto_iff : usesAuto template = true ↔ Holds template "auto" := by
  have hnamed : (∃ name, Holds template name ∧ placeholder name = .auto)
      ↔ Holds template "auto" := by
    simp only [placeholder_eq_auto_iff, exists_eq_right]
  rw [← hnamed, ← exists_mem_allPieces_iff, usesAuto, List.any_eq_true]
  constructor
  · rintro ⟨piece, hmem, hauto⟩
    unfold Piece.isAuto at hauto
    split at hauto
    · exact ⟨_, hmem⟩
    · cases hauto
  · rintro ⟨written, hmem⟩
    exact ⟨_, hmem, rfl⟩

/-- No placeholder is found to stand for nothing if and only if every name is known. -/
theorem firstUnknown?_eq_none_iff :
    firstUnknown? template = none ↔ ∀ name, Holds template name → IsKnown name := by
  have hunknown : (∃ written, .hole written .unknown ∈ allPieces template)
      ↔ ∃ name, Holds template name ∧ ¬IsKnown name := by
    simp only [exists_mem_allPieces_iff, placeholder_eq_unknown_iff]
  rw [← not_iff_not, not_forall]
  simp only [Classical.not_imp]
  rw [← hunknown, firstUnknown?, List.findSome?_eq_none_iff]
  constructor
  · intro h
    rw [not_forall] at h
    obtain ⟨piece, hpiece⟩ := h
    obtain ⟨hmem, hsome⟩ := Classical.not_imp.1 hpiece
    unfold Piece.unknown? at hsome
    split at hsome
    · exact ⟨_, hmem⟩
    · exact absurd rfl hsome
  · rintro ⟨written, hmem⟩ h
    cases h _ hmem

/-- Everything that the template asks for has a text. -/
structure HasTexts (id : Int) (request template : Json) : Prop where
  id : Holds template "auto" → fitsInText id = true
  fields : ∀ path, isPath path = true → Holds template (fieldName path) →
    (lookUp request path).isWritable = true

theorem isWritable_auto (written : Text) :
    (Piece.hole written .auto).isWritable id request = fitsInText id := rfl

theorem isWritable_field (written : Text) :
    (Piece.hole written (.field path)).isWritable id request
      = (lookUp request path).isWritable := rfl

/-- A template can be filled if everything that it asks for has a text. -/
theorem isFillable_iff : isFillable id request template = true ↔ HasTexts id request template := by
  rw [isFillable, List.all_eq_true]
  constructor
  · intro h
    constructor
    · intro hauto
      obtain ⟨written, hmem⟩ := exists_mem_allPieces_iff.2 ⟨_, hauto, placeholder_auto⟩
      have hpiece := h _ hmem
      rw [isWritable_auto] at hpiece
      exact hpiece
    · intro path hpath hfield
      obtain ⟨written, hmem⟩ :=
        exists_mem_allPieces_iff.2 ⟨_, hfield, placeholder_fieldName hpath⟩
      have hpiece := h _ hmem
      rw [isWritable_field] at hpiece
      exact hpiece
  · intro h piece hmem
    cases piece with
    | plain c => rfl
    | hole written p =>
      obtain ⟨name, hname, rfl⟩ := exists_mem_allPieces_iff.1 ⟨written, hmem⟩
      -- the id asks for its digits, a field for its text, an unknown name for nothing
      cases hp : placeholder name with
      | auto =>
        rw [placeholder_eq_auto_iff] at hp
        subst hp
        rw [isWritable_auto]
        exact h.id hname
      | field path =>
        obtain ⟨hpath, rfl⟩ := placeholder_eq_field_iff.1 hp
        rw [isWritable_field]
        exact h.fields path hpath hname
      | unknown => rfl

-- ============================================================= the strings

/-- The function puts the text of the id, or of a field, in the place of every
placeholder, and changes nothing else. -/
structure Replaces (id : Int) (request : Json) (f : Text → Text) : Prop where
  plain : ∀ t, (∀ written name, IsPlaceholder written name → ¬written <:+: t) → f t = t
  auto : ∀ before written after, IsPlaceholder written "auto" →
    f (before ++ (written ++ after)) = f before ++ (decimal id ++ f after)
  field : ∀ before written after path, isPath path = true →
    IsPlaceholder written (fieldName path) →
    f (before ++ (written ++ after)) = f before ++ (textOf (lookUp request path) ++ f after)

theorem filledText_append {written : Text} (h : IsPlaceholder written name)
    (before after : Text) :
    filledText id request (before ++ (written ++ after))
      = filledText id request before
        ++ ((Piece.hole written (placeholder name)).text id request
          ++ filledText id request after) := by
  unfold filledText
  rw [pieces_append h, List.flatMap_append, List.flatMap_cons]

/-- What is filled in replaces the placeholders, and nothing else. -/
theorem replaces_filledText (id : Int) (request : Json) :
    Replaces id request (filledText id request) := by
  constructor
  · intro t hnone
    rw [filledText, pieces_of_none hnone, List.flatMap_map]
    exact List.flatMap_singleton' t
  · intro before written after hauto
    exact filledText_append hauto before after
  · intro before written after path hpath hfield
    rw [filledText_append hfield, placeholder_fieldName hpath]
    rfl

-- ============================================================== rendering

/-- All placeholders of a template are known if none is unknown. -/
theorem forall_isKnown_iff :
    (∀ name, Holds template name → IsKnown name)
      ↔ ¬∃ name, Holds template name ∧ ¬IsKnown name := by
  rw [not_exists]
  exact forall_congr' fun name => not_and_not_right.symm

/-- Rendering a template. It is refused if and only if it holds a name that stands
for nothing, and then the next id stays. Otherwise an id is taken exactly if the
template holds a placeholder for one; and if everything that is asked for has a text,
the template is given back in its shape, with its placeholders replaced. -/
theorem render_contract (template request : Json) (id : Int) :
    let outcome := render template request id
    ((∃ written, outcome.1 = .error (.unknownPlaceholder written))
        ↔ ∃ name, Holds template name ∧ ¬IsKnown name)
      ∧ ((∃ name, Holds template name ∧ ¬IsKnown name) → outcome.2 = id)
      ∧ ((∀ name, Holds template name → IsKnown name) →
        (HasTexts id request template →
          ∃ f, Replaces id request f ∧ outcome.1 = .ok (template.mapStrings f))
        ∧ (¬HasTexts id request template → outcome.1 = .error (.numeral .tooLargeToWrite))
        ∧ (Holds template "auto" → outcome.2 = id + 1)
        ∧ (¬Holds template "auto" → outcome.2 = id)) := by
  intro outcome
  have houtcome : outcome = _ := render_eq id request template
  -- the placeholders are looked through first: an unknown one ends it before an id is taken
  cases hfirst : firstUnknown? template with
  | some written =>
    have hunknown : ∃ name, Holds template name ∧ ¬IsKnown name := by
      by_contra hnone
      rw [firstUnknown?_eq_none_iff.2 (forall_isKnown_iff.2 hnone)] at hfirst
      cases hfirst
    simp only [hfirst] at houtcome
    refine ⟨iff_of_true ⟨written, by rw [houtcome]⟩ hunknown, fun _ => by rw [houtcome], ?_⟩
    exact fun hknown => absurd hunknown (forall_isKnown_iff.1 hknown)
  | none =>
    have hknown := firstUnknown?_eq_none_iff.1 hfirst
    have hnone := forall_isKnown_iff.1 hknown
    simp only [hfirst] at houtcome
    -- otherwise the value depends on the texts, and the next id on
    -- whether the id is asked for
    have hvalue : outcome.1 = if isFillable id request template then
        .ok (filled id request template) else .error (.numeral .tooLargeToWrite) := by
      rw [houtcome]
    have hid : outcome.2 = if usesAuto template then id + 1 else id := by
      rw [houtcome]
    refine ⟨iff_of_false ?_ hnone, fun hunknown => absurd hunknown hnone, fun _ => ⟨?_, ?_, ?_, ?_⟩⟩
    · rintro ⟨written, herror⟩
      rw [hvalue] at herror
      split at herror <;> cases herror
    · intro htexts
      refine ⟨filledText id request, replaces_filledText id request, ?_⟩
      rw [hvalue, if_pos (isFillable_iff.2 htexts)]
      rfl
    · intro htexts
      rw [hvalue, if_neg fun hfillable => htexts (isFillable_iff.1 hfillable)]
    · intro hauto
      rw [hid, if_pos (usesAuto_iff.2 hauto)]
    · intro hauto
      rw [hid, if_neg fun huses => hauto (usesAuto_iff.1 huses)]

/-- A record with an id and a sender, who is greeted in blanks. -/
def letterTemplate : Json :=
  .ofFields [("id", .ofString "no. \x7b\x7bauto\x7d\x7d"),
    ("from", .arr [.ofString "\x7b\x7b  body.from.name\x7d\x7d!", .int 3])]

def letterRequest : Json :=
  .ofFields [("from", .ofFields [("name", .ofString "\x7b\x7bauto\x7d\x7d")])]

/-- A letter takes the id seven and keeps what its sender is called, and one that asks
for something unknown takes none. -/
theorem render_contract_letter :
    (∀ name, Holds letterTemplate name → IsKnown name)
      ∧ HasTexts 7 letterRequest letterTemplate
      ∧ (∃ f, Replaces 7 letterRequest f
        ∧ (render letterTemplate letterRequest 7).1 = .ok (letterTemplate.mapStrings f))
      ∧ (render letterTemplate letterRequest 7).2 = 8
      ∧ ((render letterTemplate letterRequest 7).1.toOption.map (Json.text .body))
        = some "\x7b\"id\": \"no. 7\", \"from\": [\"\x7b\x7bauto\x7d\x7d!\", 3]\x7d"
      ∧ (∃ name, Holds (.ofString "\x7b\x7bwho\x7d\x7d") name ∧ ¬IsKnown name)
      ∧ (render (.ofString "\x7b\x7bwho\x7d\x7d") letterRequest 7).2 = 7 := by
  obtain ⟨-, -, hrendered⟩ := render_contract letterTemplate letterRequest 7
  obtain ⟨hrefused, hkept, -⟩ := render_contract (.ofString "\x7b\x7bwho\x7d\x7d") letterRequest 7
  have hknown : ∀ name, Holds letterTemplate name → IsKnown name :=
    firstUnknown?_eq_none_iff.1 (by decide +kernel)
  have htexts : HasTexts 7 letterRequest letterTemplate := isFillable_iff.1 (by decide +kernel)
  have hauto : Holds letterTemplate "auto" := usesAuto_iff.1 (by decide +kernel)
  have hwho : ∃ written, (render (.ofString "\x7b\x7bwho\x7d\x7d") letterRequest 7).1
      = .error (.unknownPlaceholder written) := by
    refine ⟨"\x7b\x7bwho\x7d\x7d", ?_⟩
    have hfirst : firstUnknown? (.ofString "\x7b\x7bwho\x7d\x7d")
        = some "\x7b\x7bwho\x7d\x7d" := by decide +kernel
    rw [render, hfirst]
    rfl
  obtain ⟨hvalue, -, hid, -⟩ := hrendered hknown
  exact ⟨hknown, htexts, hvalue htexts, hid hauto, by decide +kernel, hrefused.1 hwho,
    hkept (hrefused.1 hwho)⟩

/-- The first id without a text. A template that asks for it holds no unknown name,
and still nothing is rendered; the id is taken. -/
theorem id_not_rendered :
    let template : Json := .ofFields [("id", .ofString "\x7b\x7bauto\x7d\x7d")]
    (∀ name, Holds template name → IsKnown name)
      ∧ (render template .null (10 ^ digitLimit)).1.toOption = none
      ∧ (render template .null (10 ^ digitLimit)).2 = 10 ^ digitLimit + 1 := by
  refine ⟨firstUnknown?_eq_none_iff.1 (by decide +kernel), ?_, by decide +kernel⟩
  rw [← Option.isNone_iff_eq_none]
  decide +kernel

end MockApi.Template
