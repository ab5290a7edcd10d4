/-
What an addition leaves alone. All that can refuse an endpoint comes before anything is
registered: its URL, the id in it, the end of the calendar. So a refused endpoint leaves
the description as it was, and an endpoint that is described sets one operation and
registers schemas behind the others (`add_all_or_nothing`).

Of all that an addition does only the writing of a status comes later. A status given by
hand with more digits than text may hold is refused behind the registration of the
examples; the paths are as they were then, and the components go on
(`schemas_left_behind`). No configuration that was read has such a status
(`Generator.statusFits_of_isRead`).
-/
import MockApi.Proofs.Api.Parameters
import MockApi.Proofs.Api.Registration
import MockApi.Proofs.Api.Totality

namespace MockApi

namespace Description

variable {d d' : Description} {path verb other : Text} {o : Operation}

-- ================================================================ components

/-- The examples of a mock are registered behind what is there. -/
theorem isPrefix_examples (method name : Text) (body : Json) (r : Registry) :
    r <+: (examples method name body r).2.2 := by
  have hone : ∀ (name : Text) (v : Json) (r : Registry), r <+: (exampleOf name v r).2 :=
    fun name v r => (Registry.adds_infer name v r).2.isPrefix
  unfold examples
  by_cases hsends : sendsBody method = true
  · by_cases hnull : Definition.isNull body = true
    · simp only [hsends, hnull, if_true]
      exact hone _ _ r
    · simp only [hsends, hnull, if_true]
      exact (hone _ _ r).trans (hone _ _ _)
  · by_cases hnull : Definition.isNull body = true
    · simp only [hsends, hnull, if_true]
      exact List.prefix_rfl
    · simp only [hsends, hnull]
      exact hone _ _ r

/-- The components of the document go on as the registry does. -/
theorem entries_componentSchemas_isPrefix (h : d.registry <+: d'.registry) :
    d.toJson.componentSchemas.entries <+: d'.toJson.componentSchemas.entries := by
  rw [(members_toJson d).2, (members_toJson d').2]
  exact h.map _

-- ===================================================================== paths

theorem paths_registering (d : Description) (e : Examples) :
    (d.registering e).toJson.member "paths" = d.toJson.member "paths" :=
  (members_toJson _).1.trans (members_toJson d).1.symm

/-- The operations on a path, as the document has them. -/
theorem field?_paths (d : Description) (path : Text) :
    (d.toJson.member "paths").field? path = (Fields.get? path d.paths).map fun operations =>
      .obj (operations.map fun o => (o.1, o.2.toJson)) := by
  rw [(members_toJson d).1, pathsJson, Json.field?]
  exact Fields.get?_map (fun operations : List (Text × Operation) =>
    Json.obj (operations.map fun o => (o.1, o.2.toJson))) path d.paths

/-- An operation on a path, as the document has it. -/
theorem field?_member_paths (d : Description) (path verb : Text) :
    ((d.toJson.member "paths").member path).field? verb
      = (Fields.get? verb ((Fields.get? path d.paths).getD [])).map Operation.toJson := by
  rw [Json.member, field?_paths]
  cases Fields.get? path d.paths with
  | none => rfl
  | some operations => exact Fields.get?_map _ verb operations

theorem field?_paths_put (h : path ≠ other) :
    ((d.put path verb o).toJson.member "paths").field? other
      = (d.toJson.member "paths").field? other := by
  rw [field?_paths, field?_paths]
  exact congrArg _ (Fields.get?_put_of_ne h ..)

/-- On its own path, an operation that is set leaves the other methods alone. -/
theorem field?_member_paths_put (d : Description) (path verb : Text) (o : Operation)
    (other : Text) :
    (((d.put path verb o).toJson.member "paths").member path).field? other
      = if other = verb then some o.toJson
        else ((d.toJson.member "paths").member path).field? other := by
  rw [field?_member_paths, field?_member_paths, put, Fields.get?_put_self, Option.getD_some]
  split
  · next heq => rw [heq, Fields.get?_put_self, Option.map_some]
  · next hne => rw [Fields.get?_put_of_ne (Ne.symm hne)]

-- ================================================================ an addition

/-- The writing of an integer fails for its length only. -/
theorem eq_tooLargeToWrite {n : Int} {cause : NumeralError} (h : writeInteger n = .error cause) :
    cause = .tooLargeToWrite := by
  unfold writeInteger at h
  split at h
  · cases h
  · exact (Except.error.inj h).symm

/-- An addition is all or nothing. If it fails because the URL cannot be read, because the
id in it has too many digits or because the calendar ends, the whole description is as
before, and so it is after every failure where the status given by hand for the URL can be
written. No failure of another kind is left but that of a status which cannot, and then
the paths of the document are as before. Whether it fails or not, no schema that was
registered is touched. If it gives an operation, that is what then stands under its method
on the path of the endpoint, and whatever else stands on this path and on others is as
before. -/
theorem add_all_or_nothing (g : Generator) (d : Description) (call : Call) (chance : Chance) :
    let made := d.add g call chance
    let before := d.toJson
    let after := made.2.1.toJson
    (∀ cause, made.1 = .error cause →
        cause.IsOfEndpoint ∨ g.StatusFits call.url → made.2.1 = d)
      ∧ (∀ cause, made.1 = .error cause → ¬cause.IsOfEndpoint →
        ¬g.StatusFits call.url ∧ after.member "paths" = before.member "paths")
      ∧ before.componentSchemas.entries <+: after.componentSchemas.entries
      ∧ ∀ o, made.1 = .ok o → ∃ template, PathTemplate.ofUrl call.url = .ok template
          ∧ (∀ path, path ≠ template.text →
            (after.member "paths").field? path = (before.member "paths").field? path)
          ∧ ∀ verb, ((after.member "paths").member template.text).field? verb
            = if verb = Text.lower call.method then some o.toJson
              else ((before.member "paths").member template.text).field? verb := by
  intro made before after
  have hadded : Added g d call chance made := added g d call chance
  clear_value made
  cases hadded with
  | refused cause blame =>
    refine ⟨fun _ _ _ => rfl, fun other hother hnot => ?_, List.prefix_rfl, nofun⟩
    rw [← Except.error.inj hother] at hnot
    exact absurd blame hnot
  | @unwritten template mock name rest cause ofUrl generated named status =>
    -- the examples are registered by now, and nothing but the status can be the cause
    have hmisfit : ¬g.StatusFits call.url := by
      intro hfits
      rw [writeInteger, if_pos ((Generator.fitsInText_status_iff generated).2 hfits)] at status
      cases status
    have hforeign : ¬(GenerationError.numeral cause).IsOfEndpoint := by
      rw [eq_tooLargeToWrite status]
      exact id
    refine ⟨fun other hother hblame => ?_, fun _ _ _ => ⟨hmisfit, paths_registering d _⟩,
      entries_componentSchemas_isPrefix (isPrefix_examples ..), nofun⟩
    rw [← Except.error.inj hother] at hblame
    exact absurd hblame (not_or.2 ⟨hforeign, hmisfit⟩)
  | @described template mock name rest status ofUrl generated named written =>
    refine ⟨nofun, nofun, entries_componentSchemas_isPrefix (isPrefix_examples ..), ?_⟩
    intro o ho
    obtain rfl := Except.ok.inj ho
    refine ⟨template, ofUrl, fun path hne => ?_, fun verb => ?_⟩
    · exact (field?_paths_put (Ne.symm hne)).trans
        (congrArg (Json.field? path) (paths_registering d _))
    · change _ = if verb = Text.lower call.method then _
        else ((d.toJson.member "paths").member template.text).field? verb
      rw [← paths_registering d (d.examplesOf call name mock)]
      exact field?_member_paths_put ..

/-- A response given by hand, with a status of one digit too many and an object
to describe. -/
def statusGenerator : Generator :=
  ⟨{ templates :=
      [("/a", .ofFields [("status", .int (10 ^ 4300)), ("body", .ofFields [("id", .int 1)])])] },
    ⟨2024, 1, 1, 0, 0, 0⟩⟩

/-- A status that cannot be written is met behind the examples: the addition fails, and
their schemas stay. -/
theorem schemas_left_behind :
    ¬∀ (g : Generator) (d : Description) (call : Call) (chance : Chance)
      (cause : GenerationError), (d.add g call chance).1 = .error cause →
        (d.add g call chance).2.1.toJson.componentSchemas = d.toJson.componentSchemas := by
  intro h
  have hfails : (add statusGenerator {} ⟨"POST", "/a"⟩ ⟨[]⟩).1.isOk = false := by
    decide +kernel
  have hnames : (add statusGenerator {} ⟨"POST", "/a"⟩ ⟨[]⟩).2.1.registry.names
      = (["ARequest", "A"] : List Text) := by
    decide +kernel
  obtain ⟨cause, hmade⟩ := exists_error_of_isOk hfails
  have hkeys := congrArg Json.keys (h _ _ _ _ _ hmade)
  rw [keys_componentSchemas, keys_componentSchemas, hnames] at hkeys
  cases hkeys

/-- A generator that was given nothing by hand. -/
abbrev petsGenerator : Generator := Generator.servedAt []

/-- The description of one operation. -/
def petsDescription : Description := (add petsGenerator {} ⟨"GET", "/pets"⟩ ⟨[]⟩).2.1

/-- A URL that cannot be read leaves the description of one operation as it was, and
another operation on its path is set beside it. -/
theorem add_all_or_nothing_pets :
    (∃ cause, (petsDescription.add petsGenerator ⟨"PUT", "//["⟩ ⟨[]⟩).1 = .error cause
        ∧ cause.IsOfEndpoint)
      ∧ (petsDescription.add petsGenerator ⟨"PUT", "//["⟩ ⟨[]⟩).2.1 = petsDescription
      ∧ ∃ o, (petsDescription.add petsGenerator ⟨"POST", "/pets"⟩ ⟨[]⟩).1 = .ok o
        ∧ (((petsDescription.add petsGenerator ⟨"POST", "/pets"⟩ ⟨[]⟩).2.1.toJson.member
            "paths").member "/pets").field? "post" = some o.toJson
        ∧ (((petsDescription.add petsGenerator ⟨"POST", "/pets"⟩ ⟨[]⟩).2.1.toJson.member
            "paths").member "/pets").field? "get"
          = ((petsDescription.toJson.member "paths").member "/pets").field? "get" := by
  obtain ⟨hfailed, -⟩ := add_all_or_nothing petsGenerator petsDescription ⟨"PUT", "//["⟩ ⟨[]⟩
  obtain ⟨-, -, -, hmade⟩ :=
    add_all_or_nothing petsGenerator petsDescription ⟨"POST", "/pets"⟩ ⟨[]⟩
  have hcause : (petsDescription.add petsGenerator ⟨"PUT", "//["⟩ ⟨[]⟩).1
      = .error (.url .misplacedBrackets) := by rfl
  have hadds : (petsDescription.add petsGenerator ⟨"POST", "/pets"⟩ ⟨[]⟩).1.isOk = true := by
    decide +kernel
  obtain ⟨o, ho⟩ := exists_of_isOk hadds
  obtain ⟨template, htemplate, -, hverbs⟩ := hmade o ho
  obtain rfl : [.literal "pets"] = template := Except.ok.inj htemplate
  have hpath : PathTemplate.text [.literal "pets"] = "/pets" := by decide
  have hpost := hverbs "post"
  have hget := hverbs "get"
  rw [hpath, if_pos (by decide +kernel)] at hpost
  rw [hpath, if_neg (by decide +kernel)] at hget
  exact ⟨⟨_, hcause, trivial⟩, hfailed _ hcause (.inl trivial), o, ho, hpost, hget⟩

end Description

end MockApi
