/-
What the schema of a value tells once its references are followed. Where inference meets
no name twice and none that is registered, it registers all objects that it looks at
(`infer_of_fresh`), each under its own name, so that following the references leads to
each of them and to nothing else. What is then read is the structure of the value
(`unfolds_to_structure`): the type of a scalar, the structure of an array's first item,
and the keys of an object.

References are followed in the document alone, as a reader of it follows them: those
that stand where a schema stands, in the items or in the properties of another, and never
the property that is called like a reference.
-/
import MockApi.Proofs.Api.Registration
import MockApi.Proofs.Json.RoundTrip

namespace MockApi

-- =========================================================== following

namespace Json

/-- What a schema refers to among schemas that have names. -/
def referent? (components schema : Json) : Option Json :=
  match schema.field? "$ref" with
  | some (.str reference) =>
    (Text.afterPiece? Schema.referenceStart reference).bind fun name => components.field? name
  | _ => none

/-- An object with its values changed. -/
def mapValues (f : Json → Json) : Json → Json
  | .obj fields => .obj (fields.map fun field => (field.1, f field.2))
  | v => v

/-- A schema with the schemas in it changed, that of its items and those of its
properties. -/
def mapSchemas (f : Json → Json) : Json → Json
  | .obj fields => .obj <| fields.map fun (field : Text × Json) =>
      (field.1,
        if field.1 = "items" then f field.2
        else if field.1 = "properties" then mapValues f field.2
        else field.2)
  | v => v

/-- A schema with the references in it followed, so many steps deep at most. -/
def unfold (components : Json) : Nat → Json → Json
  | 0, schema => schema
  | depth + 1, schema =>
    match referent? components schema with
    | some target => unfold components depth target
    | none => mapSchemas (unfold components depth) schema

-- =========================================================== the structure

/-- The schema of something of a type without parts. -/
def scalarSchema (type : String) : Json := .ofFields [("type", .ofString type)]

/-- The schema of an array. -/
def arraySchema (items : Json) : Json := .ofFields [("type", .ofString "array"), ("items", items)]

/-- The schema of an object. -/
def objectSchema (properties : Fields) (required : List Text) : Json :=
  .ofFields
    [("type", .ofString "object"), ("properties", .obj properties),
     ("required", .arr (required.map .str))]

mutual

/-- The structure of a value as a schema without references. -/
def structureSchema : Json → Json
  | .null => .ofFields [("nullable", .bool true)]
  | .bool _ => scalarSchema "boolean"
  | .int _ => scalarSchema "integer"
  | .float _ => scalarSchema "number"
  | .str _ => scalarSchema "string"
  | .arr items => arraySchema (structureOfFirst items)
  | .obj fields => objectSchema (structureOfEach fields) (fields.map (·.1))

/-- The structure of an array's first item; an empty array counts as one of objects
without members. -/
def structureOfFirst : List Json → Json
  | [] => objectSchema [] []
  | item :: _ => structureSchema item

def structureOfEach : List (Text × Json) → Fields
  | [] => []
  | (key, value) :: rest => (key, structureSchema value) :: structureOfEach rest

end

theorem references_objectSchema (properties : Fields) (required : List Text) :
    (objectSchema properties required).references = referencesOfEach properties := by
  simp [objectSchema, ofFields, ofString, references, referencesIn, propertyReferences]

mutual

/-- There is nothing to follow in the structure of a value. -/
theorem references_structureSchema : ∀ v : Json, v.structureSchema.references = []
  | .null => by simp [structureSchema, ofFields, references, referencesIn]
  | .bool _ | .int _ | .float _ | .str _ => by
    simp [structureSchema, scalarSchema, ofFields, references, referencesIn]
  | .arr items => by
    have hitems := references_structureOfFirst items
    simp [structureSchema, arraySchema, ofFields, references, referencesIn, hitems]
  | .obj fields => by
    rw [structureSchema, references_objectSchema, references_structureOfEach fields]

theorem references_structureOfFirst : ∀ items : List Json, (structureOfFirst items).references = []
  | [] => references_objectSchema [] []
  | item :: _ => references_structureSchema item

theorem references_structureOfEach : ∀ fields : List (Text × Json),
    referencesOfEach (structureOfEach fields) = []
  | [] => rfl
  | (_, value) :: rest => by
    rw [structureOfEach, referencesOfEach, references_structureSchema value,
      references_structureOfEach rest, List.append_nil]

end

-- ============================================================ a step deeper

variable {components : Json} {depth : Nat}

theorem unfold_of_scalar (type : String) :
    unfold components depth (scalarSchema type) = scalarSchema type := by
  cases depth <;> simp [unfold, scalarSchema, referent?, mapSchemas, field?, Fields.get?, ofFields]

theorem unfold_anything :
    unfold components depth Schema.anything.toJson = Schema.anything.toJson := by
  cases depth <;> simp [unfold, Schema.toJson, referent?, mapSchemas, field?, Fields.get?, ofFields]

theorem unfold_array (s : Schema) :
    unfold components (depth + 1) (Schema.array s).toJson
      = arraySchema (unfold components depth s.toJson) := by
  simp [unfold, Schema.toJson, referent?, mapSchemas, arraySchema, field?, Fields.get?, ofFields]

theorem unfold_object (s : ObjectSchema) :
    unfold components (depth + 1) s.toJson
      = objectSchema
          (s.members.map fun member => (member.1, unfold components depth member.2.toJson))
          s.required := by
  simp [unfold, ObjectSchema.toJson, referent?, mapSchemas, mapValues, objectSchema, field?,
    Fields.get?, ofFields]

theorem unfold_emptyObject :
    unfold components depth (ObjectSchema.ofFields []).toJson = objectSchema [] [] := by
  cases depth with
  | zero => rfl
  | succ depth => exact unfold_object _

end Json

namespace Registry

variable {name : Text} {r : Registry} {depth : Nat} {xs ys objects : List (Text × Fields)}

/-- A reference unfolds to what is registered under its name, at a depth of one. -/
theorem unfold_named {s : ObjectSchema} (h : Fields.get? name r = some s) :
    Json.unfold r.toJson (depth + 1) (Schema.named name).toJson
      = Json.unfold r.toJson depth s.toJson := by
  have hreferent : Json.referent? r.toJson (Schema.named name).toJson = some s.toJson := by
    have hname : Text.afterPiece? Schema.referenceStart (Schema.referenceStart ++ name)
        = some name := Text.afterPiece?_eq_some_iff.2 rfl
    simp only [Schema.toJson, Json.referent?, Json.ofFields, Json.field?, List.map_singleton,
      Fields.get?, if_true, hname, Option.bind_some, toJson]
    rw [Fields.get?_map ObjectSchema.toJson, h, Option.map_some]
  rw [Json.unfold, hreferent]

-- ================================================================== new names

/-- Each of the objects has the entry under its name. -/
def Defines (r : Registry) (objects : List (Text × Fields)) : Prop :=
  ∀ object ∈ objects, Fields.get? object.1 r = some (.ofFields object.2)

theorem Defines.front (h : r.Defines (xs ++ ys)) : r.Defines xs :=
  fun object hobject => h object (List.mem_append_left _ hobject)

theorem Defines.behind (h : r.Defines (xs ++ ys)) : r.Defines ys :=
  fun object hobject => h object (List.mem_append_right _ hobject)

/-- The objects have names that are not registered, no two of them the same. -/
structure IsFresh (objects : List (Text × Fields)) (r : Registry) : Prop where
  distinct : (objects.map (·.1)).Nodup
  new : ∀ object ∈ objects, object.1 ∉ r.names

theorem IsFresh.front (h : IsFresh (xs ++ ys) r) : IsFresh xs r where
  distinct := by
    have hdistinct := h.distinct
    rw [List.map_append] at hdistinct
    exact (List.nodup_append.1 hdistinct).1
  new object hobject := h.new object (List.mem_append_left _ hobject)

/-- The later names are still new once the earlier ones are registered. -/
theorem IsFresh.behind {added : Registry} (h : IsFresh (xs ++ ys) r)
    (hnames : added.names = xs.map (·.1)) : IsFresh ys (r ++ added) := by
  have hdistinct := h.distinct
  rw [List.map_append, List.nodup_append] at hdistinct
  obtain ⟨-, hbehind, hapart⟩ := hdistinct
  refine ⟨hbehind, fun object hobject hmem => ?_⟩
  rw [names, List.map_append, List.mem_append] at hmem
  rcases hmem with hold | hadded
  · exact h.new object (List.mem_append_right _ hobject) hold
  · rw [← names, hnames] at hadded
    exact hapart _ hadded _ (List.mem_map_of_mem hobject) rfl

theorem names_map_entryOf (objects : List (Text × Fields)) :
    names (objects.map entryOf) = objects.map (·.1) := by
  rw [names, List.map_map]
  rfl

/-- Objects whose names are new and distinct are all defined once they are registered. -/
theorem defines_of_isFresh (h : IsFresh objects r) :
    Defines (r ++ objects.map entryOf) objects := by
  intro object hobject
  rw [Fields.get?_append_of_not_mem (h.new object hobject)]
  refine Fields.get?_eq_some_of_mem ?_ (List.mem_map_of_mem (f := entryOf) hobject)
  rw [← names, names_map_entryOf]
  exact h.distinct

mutual

/-- Where no name is met twice, all objects are registered. -/
theorem infer_of_fresh (name : Text) : ∀ (v : Json) (r : Registry), IsFresh (v.objects name) r →
    infer name v r = (.ofValue name v, r ++ (v.objects name).map entryOf)
  | .null, r, _ | .bool _, r, _ | .int _, r, _ | .float _, r, _ | .str _, r, _ =>
    Prod.ext rfl (List.append_nil r).symm
  | .arr items, r, h => by
    rw [infer, inferFirst_of_fresh name items r h]
    rfl
  | .obj fields, r, h => by
    -- the members are inferred with the object's own name reserved, which none of them has
    have hfields : IsFresh ([(name, fields)] ++ Json.objectsIn fields) r := h
    exact infer_obj_of_new (h.new _ List.mem_cons_self)
      (inferMembers_of_fresh fields _ (hfields.behind rfl))

/-- With new names, a list registers its objects behind what is there. -/
theorem inferFirst_of_fresh (name : Text) : ∀ (items : List Json) (r : Registry),
    IsFresh (Json.objectsOfFirst name items) r →
    inferFirst name items r
      = (.ofFirst name items, r ++ (Json.objectsOfFirst name items).map entryOf)
  | [], r, h => by
    have hnew : ¬Fields.has name r = true := mt mem_names_iff.2 (h.new _ List.mem_cons_self)
    rw [inferFirst, reserve, if_neg hnew]
    rfl
  | item :: _, r, h => infer_of_fresh name item r h

/-- With new names, members register their objects one behind the other. -/
theorem inferMembers_of_fresh : ∀ (fields : List (Text × Json)) (r : Registry),
    IsFresh (Json.objectsIn fields) r →
    inferMembers fields r = (Schema.ofMembers fields, r ++ (Json.objectsIn fields).map entryOf)
  | [], r, _ => Prod.ext rfl (List.append_nil r).symm
  | (key, value) :: rest, r, h => by
    rw [inferMembers, infer_of_fresh (Text.capitalized key) value r h.front]
    simp only
    rw [inferMembers_of_fresh rest _ (h.behind (names_map_entryOf _)), Json.objectsIn,
      List.map_append, List.append_assoc]
    rfl

end

-- ============================================================== the structure

mutual

/-- Where all objects of a value are registered, following the references twice as deep
as the value is nested leads to the structure of the value. -/
theorem unfold_ofValue (name : Text) : ∀ v : Json, r.Defines (v.objects name) →
    ∀ depth, 2 * v.nesting ≤ depth →
      Json.unfold r.toJson depth (Schema.ofValue name v).toJson = v.structureSchema
  | .null, _, _, _ => Json.unfold_anything
  | .bool _, _, _, _ | .int _, _, _, _ | .float _, _, _, _ | .str _, _, _, _ =>
    Json.unfold_of_scalar _
  | .arr items, h, depth, deep => by
    rw [Json.nesting] at deep
    obtain ⟨depth, rfl⟩ : ∃ n, depth = n + 1 := ⟨depth - 1, by omega⟩
    rw [Schema.ofValue, Json.unfold_array, unfold_ofFirst name items h depth (by omega)]
    rfl
  | .obj fields, h, depth, deep => by
    rw [Json.nesting] at deep
    -- an object takes two steps, to its entry and into the entry's properties
    obtain ⟨depth, rfl⟩ : ∃ n, depth = n + 2 := ⟨depth - 2, by omega⟩
    have hfields : r.Defines ([(name, fields)] ++ Json.objectsIn fields) := h
    rw [Schema.ofValue, unfold_named (h _ List.mem_cons_self), Json.unfold_object,
      ObjectSchema.ofFields, unfold_ofMembers fields hfields.behind depth (by omega)]
    rfl

/-- The schema of a list's first element unfolds to its structure. -/
theorem unfold_ofFirst (name : Text) : ∀ items : List Json,
    r.Defines (Json.objectsOfFirst name items) → ∀ depth, 2 * Json.nestingOf items + 1 ≤ depth →
      Json.unfold r.toJson depth (Schema.ofFirst name items).toJson = Json.structureOfFirst items
  | [], h, depth, deep => by
    obtain ⟨depth, rfl⟩ : ∃ n, depth = n + 1 := ⟨depth - 1, by omega⟩
    rw [Schema.ofFirst, unfold_named (h _ List.mem_cons_self), Json.unfold_emptyObject]
    rfl
  | item :: rest, h, depth, deep => by
    rw [Json.nestingOf] at deep
    exact unfold_ofValue name item h depth (by omega)

/-- The schemas of members unfold to the structures of their values. -/
theorem unfold_ofMembers : ∀ fields : List (Text × Json), r.Defines (Json.objectsIn fields) →
    ∀ depth, 2 * Json.nestingIn fields ≤ depth →
      (Schema.ofMembers fields).map
          (fun member => (member.1, Json.unfold r.toJson depth member.2.toJson))
        = Json.structureOfEach fields
  | [], _, _, _ => rfl
  | (key, value) :: rest, h, depth, deep => by
    rw [Json.nestingIn] at deep
    rw [Schema.ofMembers, List.map_cons, List.map_cons,
      unfold_ofValue (Text.capitalized key) value h.front depth (by omega), ← Schema.ofMembers,
      unfold_ofMembers rest h.behind depth (by omega)]
    rfl

end

/-- Where inference looks at objects with new names only, no two of them the same, what
its schema tells once all references are followed, into the registry that it leaves, is
the structure of the value. No reference is left in that. -/
theorem unfolds_to_structure {name : Text} {v : Json} {r : Registry}
    (fresh : IsFresh (v.objects name) r) :
    let made := infer name v r
    (∀ depth, 2 * v.nesting ≤ depth →
        Json.unfold made.2.toJson depth made.1.toJson = v.structureSchema)
      ∧ v.structureSchema.references = [] := by
  intro made
  have hmade : made = (.ofValue name v, r ++ (v.objects name).map entryOf) :=
    infer_of_fresh name v r fresh
  rw [hmade]
  exact ⟨unfold_ofValue name v (defines_of_isFresh fresh), Json.references_structureSchema v⟩

/-- Holds an empty array, an array of arrays under a key like that of a reference, and a
member called like a place of schemas. -/
def repository : Json :=
  .ofFields
    [("owner", .ofFields [("id", .int 1), ("items", .ofFields [("size", .null)])]),
     ("$ref", .arr [.arr [.ofFields [("path", .ofString "a")], .int 2]]), ("tags", .arr [])]

/-- A list of repositories, each with its owner, unfolds after a user was registered. -/
theorem unfolds_to_structure_repository :
    let r := inferEach [] [("User", .ofFields [("id", .int 1)])]
    let made := infer "Repo" repository r
    IsFresh (repository.objects "Repo") r
      ∧ made.2.names = (["User", "Repo", "Owner", "Items", "$ref", "Tags"] : List Text)
      ∧ Json.unfold made.2.toJson 8 made.1.toJson = repository.structureSchema := by
  intro r made
  have fresh : IsFresh (repository.objects "Repo") r :=
    ⟨by decide +kernel, by decide +kernel⟩
  exact ⟨fresh, by decide +kernel, (unfolds_to_structure fresh).1 8 (by decide +kernel)⟩

end Registry

end MockApi
