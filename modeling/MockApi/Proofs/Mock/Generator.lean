/-
What generation makes: plain definitions, which have the method that was asked
for in upper case, a status in its range and one body. The status of a response
given by hand is taken over as it is, so there the range is the condition. Its
headers are taken over too, and they can be read again if their integers have a
text. In a configuration that was read, they have.
-/
import MockApi.Mock.Generator
import MockApi.Proofs.Config
import MockApi.Proofs.Mock.Definition

namespace MockApi

/-- Every integer that a response given by hand names as its status is one. -/
def Config.NamesStatuses (config : Config) : Prop :=
  ∀ url fields, (url, Json.obj fields) ∈ config.templates →
    ∀ n, Fields.get? "status" fields = some (.int n) → isStatus n = true

/-- The headers that a response given by hand names have a text: none of their integers
has too many digits for one. -/
def Config.HeadersFit (config : Config) : Prop :=
  ∀ url fields, (url, Json.obj fields) ∈ config.templates →
    ∀ headers, Fields.get? "headers" fields = some (.obj headers) →
      (Json.obj headers).isWritable = true

namespace Generator

variable {g : Generator} {method url : Text}

/-- The statuses of categories are in range. -/
theorem isStatus_status (category : Category) (method : Text) :
    isStatus (category.status method) = true := by
  unfold Category.status
  simp only
  split
  · rfl
  · split
    · split <;> rfl
    · rfl

/-- The definition that a category makes. -/
def ofCategory (category : Category) (method : Text) (body : Json) : Definition where
  method := Text.upper method
  status := category.status (Text.upper method)
  headers := jsonHeaders
  body := body

/-- A definition is made of the response given by hand, or of a category where
there is none. -/
theorem generate_cases {chance rest : Chance} {d : Definition}
    (h : g.generate method url chance = .ok (d, rest)) :
    (∃ template, g.config.templateFor url = some template
        ∧ d = fromTemplate (Text.upper method) template)
      ∨ (g.config.templateFor url = none
        ∧ ∃ body, d = ofCategory (Category.ofUrl url) method body) := by
  unfold generate at h
  cases htemplate : g.config.templateFor url with
  | some template =>
    rw [htemplate] at h
    obtain ⟨rfl, -⟩ := Prod.mk.inj (Except.ok.inj h)
    exact Or.inl ⟨template, rfl, rfl⟩
  | none =>
    rw [htemplate] at h
    simp only at h
    refine Or.inr ⟨rfl, ?_⟩
    split at h
    · obtain ⟨rfl, -⟩ := Prod.mk.inj (Except.ok.inj h)
      exact ⟨.null, rfl⟩
    · split at h <;>
      · obtain ⟨body, -, h⟩ := bind_eq_ok.1 h
        obtain ⟨rfl, -⟩ := Prod.mk.inj (Except.ok.inj h)
        exact ⟨body.1, rfl⟩

-- ================================================================ its parts

/-- A status that a configuration names is in range. -/
theorem isStatus_templateStatus {fields : Fields} (statuses : g.config.NamesStatuses)
    (h : g.config.templateFor url = some (.obj fields)) :
    isStatus (templateStatus fields) = true := by
  obtain ⟨hget, -⟩ := Option.filter_eq_some_iff.1 h
  unfold templateStatus
  split
  · next n hn => exact statuses url fields (Fields.mem_of_get?_eq_some hget) n hn
  · rfl

/-- A response given by hand can be written if it was read. -/
theorem isWritable_of_templateFor [JsonReader] {template : Json} (read : g.config.IsRead)
    (h : g.config.templateFor url = some template) : template.isWritable = true := by
  have htemplates := read.isWritable
  rw [Json.isWritable_obj, List.all_eq_true] at htemplates
  exact htemplates _ (Fields.mem_of_get?_eq_some (Option.filter_eq_some_iff.1 h).1)

/-- The headers of a definition made from a response given by hand have a text. -/
theorem isWritable_templateHeaders {fields : Fields} (fits : g.config.HeadersFit)
    (h : g.config.templateFor url = some (.obj fields)) :
    (templateHeaders fields).all (·.2.isWritable) = true := by
  have hmem := Fields.mem_of_get?_eq_some (Option.filter_eq_some_iff.1 h).1
  unfold templateHeaders
  split
  · next headers hheaders =>
    rw [← Json.isWritable_obj]
    exact fits url fields hmem headers hheaders
  · rfl

/-- Generation makes a plain definition of the method in upper case. -/
theorem isPlain_of_generate {chance rest : Chance} {d : Definition}
    (word : Text.IsLatinWord method) (statuses : g.config.NamesStatuses)
    (h : g.generate method url chance = .ok (d, rest)) :
    d.IsPlain ∧ d.method = Text.upper method := by
  have hupper := Text.upper_upper word
  rcases generate_cases h with ⟨template, htemplate, rfl⟩ | ⟨-, body, rfl⟩
  · cases template with
    | obj fields =>
      exact ⟨⟨word.upper.1, hupper, isStatus_templateStatus statuses htemplate, rfl, rfl⟩, rfl⟩
    | _ => exact ⟨⟨word.upper.1, hupper, rfl, rfl, rfl⟩, rfl⟩
  · exact ⟨⟨word.upper.1, hupper, isStatus_status .., rfl, rfl⟩, rfl⟩

/-- Where the headers given by hand have a text, generation makes a definition that
can be read. -/
theorem isReadable_of_generate {chance rest : Chance} {d : Definition}
    (fits : g.config.HeadersFit) (h : g.generate method url chance = .ok (d, rest)) :
    d.isReadable = true := by
  rcases generate_cases h with ⟨template, htemplate, rfl⟩ | ⟨-, body, rfl⟩
  · cases template with
    | obj fields => exact isWritable_templateHeaders fits htemplate
    | _ => rfl
  · rfl

end Generator

/-- The headers in a configuration that was read have a text. -/
theorem Config.IsRead.headersFit [JsonReader] {config : Config} (read : config.IsRead) :
    config.HeadersFit := by
  intro url fields hmem headers hheaders
  have htemplates := read.isWritable
  rw [Json.isWritable_obj, List.all_eq_true] at htemplates
  have hfields := htemplates _ hmem
  rw [Json.isWritable_obj, List.all_eq_true] at hfields
  exact hfields _ (Fields.mem_of_get?_eq_some hheaders)

end MockApi
