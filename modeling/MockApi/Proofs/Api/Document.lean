/-
What stands in the document of a description. A document has schemas in two
places: those of the operations on its paths, in their requests and replies, and
those that have names. Whatever stands under `$ref` in one of them is the
reference to a name that is there (`references_resolve`), since the description
is closed.

The places are told by the document alone, as a reader of it finds them.
-/
import MockApi.Proofs.Api.Description

namespace MockApi

-- =============================================================== the places

namespace Json

/-- The keys of an object. -/
def keys : Json → List Text
  | .obj fields => fields.map (·.1)
  | _ => []

/-- The values of an object. -/
def values : Json → List Json
  | .obj fields => fields.map (·.2)
  | _ => []

/-- The value of a key, null if there is none. -/
def member (key : Text) (v : Json) : Json := (v.field? key).getD .null

/-- The schemas of a request's or a reply's contents. -/
def contentSchemas (message : Json) : List Json :=
  (message.member "content").values.map (member "schema")

/-- The schemas of an operation's request and of its replies. -/
def operationSchemas (operation : Json) : List Json :=
  (operation.member "requestBody").contentSchemas
    ++ (operation.member "responses").values.flatMap contentSchemas

/-- The schemas that an API document has under names. -/
def componentSchemas (document : Json) : Json := (document.member "components").member "schemas"

/-- All schemas of an API document: those of the operations on its paths, and
those that have names. -/
def documentSchemas (document : Json) : List Json :=
  ((document.member "paths").values.flatMap values).flatMap operationSchemas
    ++ document.componentSchemas.values

end Json

-- ========================================================== the operations

namespace Operation

variable {o : Operation}

theorem contentSchemas_of_example (fields : List (String × Json)) (e : Example)
    (h : (Json.ofFields fields).member "content" = content e) :
    (Json.ofFields fields).contentSchemas = [e.schema.toJson] := by
  rw [Json.contentSchemas, h, content]
  simp [Json.ofFields, Json.values, Json.member, Json.field?, Fields.get?]

/-- The reply of a mock has the schema of its example, if it has one. -/
theorem contentSchemas_replyJson (o : Operation) :
    o.replyJson.contentSchemas = o.reply.toList.map (·.schema.toJson) := by
  unfold replyJson
  cases o.reply with
  | none =>
    simp [Json.contentSchemas, Json.ofFields, Json.member, Json.field?, Fields.get?, Json.values]
  | some e =>
    refine contentSchemas_of_example _ e ?_
    simp [Json.ofFields, Json.member, Json.field?, Fields.get?]

/-- The replies that all operations have show no schemas. -/
theorem contentSchemas_of_mem_commonReplies {entry : Text × Json} (h : entry ∈ commonReplies) :
    entry.2.contentSchemas = [] := by
  have hall : ∀ entry ∈ commonReplies, entry.2.member "content" = .null := by
    intro entry hentry
    simp only [commonReplies, List.mem_cons, List.not_mem_nil, or_false] at hentry
    rcases hentry with rfl | rfl | rfl | rfl <;> rfl
  rw [Json.contentSchemas, hall entry h]
  rfl

theorem replies_eq (o : Operation) :
    o.replies = Fields.ofPairs ((o.status, o.replyJson) :: commonReplies) := rfl

/-- The request and the replies of an operation's document. -/
theorem members_toJson (o : Operation) :
    o.toJson.member "requestBody" = (o.request.map fun e =>
        Json.ofFields [("required", .bool true), ("content", content e)]).getD .null
      ∧ o.toJson.member "responses" = .obj o.replies := by
  unfold toJson
  cases o.parameters.isEmpty <;> cases o.request <;>
    simp [Json.ofFields, Json.member, Json.field?, Fields.get?]

/-- The schemas in an operation's document are those of its examples. -/
theorem of_mem_operationSchemas {schema : Json} (h : schema ∈ o.toJson.operationSchemas) :
    ∃ e ∈ o.examples, schema = e.schema.toJson := by
  obtain ⟨hrequest, hresponses⟩ := members_toJson o
  rw [Json.operationSchemas, hrequest, hresponses, List.mem_append] at h
  unfold examples
  rcases h with hsent | hgiven
  · cases hmade : o.request with
    | none =>
      rw [hmade] at hsent
      cases hsent
    | some e =>
      rw [hmade, Option.map_some, Option.getD_some, contentSchemas_of_example _ e
        (by simp [Json.ofFields, Json.member, Json.field?, Fields.get?])] at hsent
      exact ⟨e, List.mem_cons_self, List.mem_singleton.1 hsent⟩
  · obtain ⟨reply, hreply, hschema⟩ := List.mem_flatMap.1 hgiven
    obtain ⟨entry, hentry, rfl⟩ := List.mem_map.1 hreply
    rw [replies_eq] at hentry
    rcases List.mem_cons.1 (Fields.mem_ofPairs hentry) with rfl | hcommon
    · rw [contentSchemas_replyJson] at hschema
      obtain ⟨e, he, rfl⟩ := List.mem_map.1 hschema
      exact ⟨e, List.mem_append_right _ he, rfl⟩
    · rw [contentSchemas_of_mem_commonReplies hcommon] at hschema
      cases hschema

end Operation

-- ============================================================ the document

namespace Description

variable {d : Description}

/-- The paths and the components of a description's document. -/
theorem members_toJson (d : Description) :
    d.toJson.member "paths" = d.pathsJson ∧ d.toJson.componentSchemas = d.registry.toJson := by
  unfold toJson
  constructor
  · simp [Json.ofFields, Json.member, Json.field?, Fields.get?]
  · simp [Json.ofFields, Json.componentSchemas, Json.member, Json.field?, Fields.get?]

theorem keys_componentSchemas (d : Description) :
    d.toJson.componentSchemas.keys = d.registry.names := by
  rw [(members_toJson d).2, Registry.toJson, Json.keys, List.map_map]
  rfl

/-- The document of a closed description refers to its components only. -/
theorem IsClosed.references (h : d.IsClosed) :
    ∀ schema ∈ d.toJson.documentSchemas, ∀ v ∈ schema.references,
      ∃ name ∈ d.registry.names, v = Schema.reference name := by
  obtain ⟨hpaths, hcomponents⟩ := members_toJson d
  intro schema hschema v hv
  rw [Json.documentSchemas, hpaths, hcomponents, List.mem_append] at hschema
  rcases hschema with hdescribed | hregistered
  · obtain ⟨operation, hoperation, hshown⟩ := List.mem_flatMap.1 hdescribed
    obtain ⟨path, hpath, hmem⟩ := List.mem_flatMap.1 hoperation
    rw [pathsJson, Json.values, List.map_map] at hpath
    obtain ⟨entry, hentry, rfl⟩ := List.mem_map.1 hpath
    rw [Function.comp_apply, Json.values, List.map_map] at hmem
    obtain ⟨o, ho, rfl⟩ := List.mem_map.1 hmem
    obtain ⟨e, he, rfl⟩ := Operation.of_mem_operationSchemas hshown
    rw [Schema.references_toJson] at hv
    obtain ⟨name, hname, rfl⟩ := List.mem_map.1 hv
    exact ⟨name, h.operations entry hentry o ho e he name hname, rfl⟩
  · rw [Registry.toJson, Json.values, List.map_map] at hregistered
    obtain ⟨entry, hentry, rfl⟩ := List.mem_map.1 hregistered
    rw [Function.comp_apply, ObjectSchema.references_toJson] at hv
    obtain ⟨member, hmember, hv⟩ := List.mem_flatMap.1 hv
    obtain ⟨name, hname, rfl⟩ := List.mem_map.1 hv
    exact ⟨name, h.registry entry hentry member hmember name hname, rfl⟩

/-- After any additions to a new description, failed ones among them, whatever
stands under `$ref` in the schema of a request or a reply, or in the schema of a
component at any depth of its properties, is the reference to a component of the
document. -/
theorem references_resolve (title : Option Text) (serverUrl : Text)
    (steps : List (Generator × Call × Chance)) :
    let document := (addEach { title, serverUrl } steps).toJson
    ∀ schema ∈ document.documentSchemas, ∀ v ∈ schema.references,
      ∃ name ∈ document.componentSchemas.keys, v = .str ("#/components/schemas/" ++ name) := by
  intro document schema hschema v hv
  have hclosed := (isClosed_of_no_paths (d := { title, serverUrl }) rfl rfl).addEach steps
  obtain ⟨name, hname, rfl⟩ := hclosed.references schema hschema v hv
  refine ⟨name, ?_, rfl⟩
  rw [keys_componentSchemas]
  exact hname

/-- Gives two responses by hand: one with a status of too many digits, and one
whose members are called like what that one registers, and `$ref`. -/
def nodeGenerator : Generator where
  config :=
    { templates :=
      [("/edges", .ofFields
         [("status", .int (10 ^ 4300)), ("body", .ofFields [("node", .ofFields [])])]),
       ("/nodes", .ofFields [("node", .ofFields []), ("$ref", .arr [.arr []])])] }
  now := ⟨2024, 1, 1, 0, 0, 0⟩

/-- An addition that fails behind the registration of its examples, and one that
refers to what that one left. -/
def nodeSteps : List (Generator × Call × Chance) :=
  [(nodeGenerator, ⟨"GET", "/edges"⟩, ⟨[]⟩), (nodeGenerator, ⟨"PUT", "/nodes"⟩, ⟨[]⟩)]

/-- Two names that a member takes over from another object, and one called `$ref`, are
resolved in one document. -/
theorem references_resolve_nodes :
    let document := (addEach {} nodeSteps).toJson
    document.componentSchemas.keys = (["Edges", "Node", "NodesRequest", "$ref", "Nodes"] : List Text)
      ∧ ∃ schema ∈ document.documentSchemas, ∃ v ∈ schema.references,
        ∃ name ∈ document.componentSchemas.keys, v = .str ("#/components/schemas/" ++ name) := by
  intro document
  have hsome : document.documentSchemas.any (fun schema => !schema.references.isEmpty) = true := by
    decide +kernel
  obtain ⟨schema, hschema, hne⟩ := List.any_eq_true.1 hsome
  rw [Bool.not_eq_true', List.isEmpty_eq_false_iff] at hne
  obtain ⟨v, hv⟩ := List.exists_mem_of_ne_nil _ hne
  refine ⟨?_, schema, hschema, v, hv, references_resolve _ _ nodeSteps schema hschema v hv⟩
  decide +kernel

end Description

end MockApi
