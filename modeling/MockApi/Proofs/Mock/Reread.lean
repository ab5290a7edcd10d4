/-
What becomes of a generated definition in a bundle. It comes back with its
method, its status, its body and the names of its headers, or it is refused; and
what it is refused for was given by hand: generation takes over the status and
the headers of a response as they stand, while reading wants a status in its
range and headers that have a text (`reads_generated_iff`).

A configuration that was read has a text for every header, so there a status out
of range is all that gets a mock lost.
-/
import MockApi.Proofs.Mock.Generator

namespace MockApi

namespace Definition

variable {d d' : Definition} {style : ObjectStyle}

/-- A definition with one body is read again if it has a method, a status in its
range and headers that can be read. -/
theorem isOk_ofJson_toJson (hupper : Text.upper d.method = d.method)
    (halternatives : d.alternatives = none) (hreplies : d.replies = none) :
    (ofJson style d.toJson).isOk = true
      ↔ d.method ≠ [] ∧ isStatus d.status = true ∧ d.isReadable = true := by
  obtain ⟨hmethod, hstatus, -⟩ := get?_entryFields d
  -- the method is looked at first, then the status, then the headers
  cases hm : d.method with
  | nil =>
    have hrefused : ofJson style d.toJson = .error .noMethod := by
      rw [toJson_eq, ofJson, ofFields, hmethod, hm]
      rfl
    rw [hrefused]
    exact iff_of_false (not_isOk_error _) fun h => h.1 rfl
  | cons c rest =>
    have hne : d.method ≠ [] := by
      rw [hm]
      exact List.cons_ne_nil c rest
    cases hrange : isStatus d.status with
    | false =>
      have hrefused : ∃ cause, ofJson style d.toJson = .error cause := by
        rw [toJson_eq, ofJson, ofFields, hmethod, hm, hstatus]
        simp only [Option.getD_some, checkStatus, hrange]
        cases (Json.int d.status).display style with
        | error cause => exact ⟨.numeral cause, rfl⟩
        | ok shown => exact ⟨.invalidStatus shown, rfl⟩
      obtain ⟨cause, hcause⟩ := hrefused
      rw [hcause]
      exact iff_of_false (not_isOk_error cause) fun h => Bool.false_ne_true h.2.1
    | true =>
      have hplain : IsPlain d := ⟨hne, hupper, hrange, halternatives, hreplies⟩
      rw [ofJson_toJson hplain]
      cases d.isReadable with
      | false => exact iff_of_false (not_isOk_error _) fun h => Bool.false_ne_true h.2.2
      | true => exact iff_of_true rfl ⟨List.cons_ne_nil c rest, rfl, rfl⟩

/-- The same method, status and body, and headers of the same names. -/
structure AnswersLike (d d' : Definition) : Prop where
  method : d'.method = d.method
  status : d'.status = d.status
  body : d'.body = d.body
  headerNames : d'.headers.map (·.1) = d.headers.map (·.1)

/-- A definition that was written and read answers as before, headers in the reader's
style apart. -/
theorem answersLike_reread (d : Definition) (style : ObjectStyle) :
    AnswersLike d (d.reread style) := by
  refine ⟨rfl, rfl, rfl, ?_⟩
  rw [reread, List.map_map]
  rfl

/-- A definition with one body that is read again answers as before. -/
theorem answersLike_of_ofJson (hupper : Text.upper d.method = d.method)
    (halternatives : d.alternatives = none) (hreplies : d.replies = none)
    (h : ofJson style d.toJson = .ok d') : AnswersLike d d' := by
  have hok : (ofJson style d.toJson).isOk = true := by
    rw [h]
    rfl
  obtain ⟨hne, hrange, hreadable⟩ := (isOk_ofJson_toJson hupper halternatives hreplies).1 hok
  rw [ofJson_toJson ⟨hne, hupper, hrange, halternatives, hreplies⟩, hreadable] at h
  rw [← Except.ok.inj h]
  exact answersLike_reread d style

end Definition

namespace Generator

variable {g : Generator} {method url : Text} {chance rest : Chance} {d : Definition}

/-- The response that a configuration gives for a URL by hand can be read from a
bundle: if it names an integer as its status, that is one, and if it has headers,
they have texts. -/
def GivesReadable (g : Generator) (url : Text) : Prop :=
  ∀ fields, g.config.templateFor url = some (.obj fields) →
    (∀ n, Fields.get? "status" fields = some (.int n) → isStatus n = true)
      ∧ ∀ headers, Fields.get? "headers" fields = some (.obj headers) →
        headers.all (·.2.isWritable) = true

/-- The status of a template is in range if the integer it names is. -/
theorem isStatus_templateStatus_iff (fields : Fields) :
    isStatus (templateStatus fields) = true
      ↔ ∀ n, Fields.get? "status" fields = some (.int n) → isStatus n = true := by
  unfold templateStatus
  split
  · next n hn =>
    rw [hn]
    exact ⟨fun h m hm => by cases hm; exact h, fun h => h n rfl⟩
  · next hnone => exact ⟨fun _ n hn => absurd hn (hnone n), fun _ => rfl⟩

/-- The headers of a template can be written if those that it gives can. -/
theorem isWritable_templateHeaders_iff (fields : Fields) :
    (templateHeaders fields).all (·.2.isWritable) = true
      ↔ ∀ headers, Fields.get? "headers" fields = some (.obj headers) →
        headers.all (·.2.isWritable) = true := by
  unfold templateHeaders
  split
  · next headers hheaders =>
    rw [hheaders]
    exact ⟨fun h other hother => by cases hother; exact h, fun h => h headers rfl⟩
  · next hnone => exact ⟨fun _ headers h => absurd h (hnone headers), fun _ => rfl⟩

/-- What generation makes is in order but for what was given by hand. -/
theorem isInOrder_iff (h : g.generate method url chance = .ok (d, rest)) :
    isStatus d.status = true ∧ d.isReadable = true ↔ g.GivesReadable url := by
  rcases generate_cases h with ⟨template, htemplate, rfl⟩ | ⟨hnone, body, rfl⟩
  · cases template with
    | obj fields =>
      have hparts : g.GivesReadable url
          ↔ isStatus (templateStatus fields) = true
            ∧ (templateHeaders fields).all (·.2.isWritable) = true := by
        rw [isStatus_templateStatus_iff, isWritable_templateHeaders_iff]
        constructor
        · exact fun hgives => hgives fields htemplate
        · rintro hparts other hother
          rw [htemplate] at hother
          cases hother
          exact hparts
      exact hparts.symm
    | _ =>
      refine ⟨fun _ fields hfields => ?_, fun _ => ⟨rfl, rfl⟩⟩
      rw [htemplate] at hfields
      cases hfields
  · refine ⟨fun _ fields hfields => ?_, fun _ => ⟨isStatus_status .., rfl⟩⟩
    rw [hnone] at hfields
    cases hfields

/-- Generation makes definitions with one body, of the method in upper case. -/
theorem single_of_generate (h : g.generate method url chance = .ok (d, rest)) :
    d.method = Text.upper method ∧ d.alternatives = none ∧ d.replies = none := by
  rcases generate_cases h with ⟨template, -, rfl⟩ | ⟨-, body, rfl⟩
  · cases template <;> exact ⟨rfl, rfl, rfl⟩
  · exact ⟨rfl, rfl, rfl⟩

/-- What generation makes for a method of letters is read from a bundle again if
there is a method and the response given by hand, if any, can be read; and what
is read has the same method, status and body, and the same names of headers. -/
theorem reads_generated_iff (letters : ∀ c ∈ method, Text.isAsciiLetter c = true)
    (h : g.generate method url chance = .ok (d, rest)) (style : ObjectStyle) :
    ((Definition.ofJson style d.toJson).isOk = true ↔ method ≠ [] ∧ g.GivesReadable url)
      ∧ ∀ d', Definition.ofJson style d.toJson = .ok d' → Definition.AnswersLike d d' := by
  obtain ⟨hmethod, halternatives, hreplies⟩ := single_of_generate h
  have hempty : d.method = [] ↔ method = [] := by
    rw [hmethod]
    cases method with
    | nil => exact ⟨fun _ => rfl, fun _ => rfl⟩
    | cons c rest =>
      have hword : Text.IsLatinWord (c :: rest) := ⟨List.cons_ne_nil c rest, letters⟩
      exact ⟨fun hnil => absurd hnil hword.upper.1, fun hnil => (nomatch hnil)⟩
  have hupper : Text.upper d.method = d.method := by
    rw [hmethod]
    by_cases hnil : method = []
    · rw [hnil]
      rfl
    · exact Text.upper_upper ⟨hnil, letters⟩
  constructor
  · rw [Definition.isOk_ofJson_toJson hupper halternatives hreplies, isInOrder_iff h, Ne, hempty]
  · exact fun d' => Definition.answersLike_of_ofJson hupper halternatives hreplies

/-- Gives a response of a status by hand, with an object and a number as headers. -/
def givesStatus (n : Int) : Generator where
  config :=
    { templates := [("/pets", .ofFields
        [("status", .int n), ("headers", .ofFields [("x-pets", .ofFields []), ("x-age", .int 3)])])] }
  now := ⟨2024, 1, 1, 0, 0, 0⟩

/-- Generates for a method in lower case and reads the entry of a bundle file. -/
theorem reads_generated_iff_pets :
    ∃ d rest d', (givesStatus 418).generate "get" "/pets" ⟨[]⟩ = .ok (d, rest)
      ∧ Definition.ofJson .pairs d.toJson = .ok d' ∧ Definition.AnswersLike d d' := by
  have letters : ∀ c ∈ ("get" : Text), Text.isAsciiLetter c = true := by decide
  have hgives : (givesStatus 418).GivesReadable "/pets" := by
    intro fields hfields
    obtain rfl := Json.obj.inj (Option.some.inj hfields)
    refine ⟨fun n hn => ?_, fun headers hheaders => ?_⟩
    · cases hn
      rfl
    · cases hheaders
      decide +kernel
  obtain ⟨⟨d, rest⟩, hmade⟩ : ∃ made, (givesStatus 418).generate "get" "/pets" ⟨[]⟩ = .ok made :=
    ⟨_, rfl⟩
  obtain ⟨hread, hlike⟩ := reads_generated_iff letters hmade .pairs
  cases hd : Definition.ofJson .pairs d.toJson with
  | error cause =>
    rw [hd] at hread
    exact nomatch hread.2 ⟨List.cons_ne_nil _ _, hgives⟩
  | ok d' => exact ⟨d, rest, d', hmade, hd, hlike d' hd⟩

/-- A status out of range is generated, and not read again. -/
theorem generated_not_read :
    ∃ d, (givesStatus 700).generate "GET" "/pets" ⟨[]⟩ = .ok (d, ⟨[]⟩) ∧ d.status = 700
      ∧ (Definition.ofJson .pairs d.toJson).isOk = false :=
  ⟨_, rfl, rfl, by decide +kernel⟩

end Generator

end MockApi
