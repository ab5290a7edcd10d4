/-
Schemas refer to one another by name, and no name that inference gives away is
missing from the registry. A name is reserved before the members of its object
are looked at, so a member may refer to an entry that is only half built; that
entry is empty until its members are known, and by then all that they refer to
is registered.

So what inference does to a registry is told by two facts that compose: no name
is lost, and a closed registry is closed again (`Grows`). The last part reads
the same off the documents: what stands under `$ref` in the schema positions of
a schema's document are the names that the schema refers to.
-/
import MockApi.Api.Schema
import MockApi.Proofs.Json.Fields
import MockApi.Proofs.Text.Basic

namespace MockApi

/-- The names that a schema refers to. -/
def Schema.names : Schema → List Text
  | array items => items.names
  | named name => [name]
  | _ => []

namespace Registry

/-- The names under which schemas are registered. -/
def names (r : Registry) : List Text := r.map (·.1)

/-- Every name that the schema refers to is registered. -/
def Resolves (r : Registry) (s : Schema) : Prop := ∀ name ∈ s.names, name ∈ r.names

/-- The members of all registered schemas refer to registered names. -/
def IsClosed (r : Registry) : Prop :=
  ∀ entry ∈ r, ∀ member ∈ entry.2.members, r.Resolves member.2

/-- No name is lost, and nothing that could be resolved no longer can. -/
structure Grows (r r' : Registry) : Prop where
  names : r.names ⊆ r'.names
  closed : r.IsClosed → r'.IsClosed

variable {r r' r'' : Registry} {name : Text} {s : Schema}

-- ================================================================= growing

theorem Grows.refl (r : Registry) : Grows r r := ⟨fun _ h => h, fun h => h⟩

theorem Grows.trans (h : Grows r r') (h' : Grows r' r'') : Grows r r'' :=
  ⟨fun _ hname => h'.names (h.names hname), fun hclosed => h'.closed (h.closed hclosed)⟩

theorem Resolves.mono (h : r.Resolves s) (hnames : r.names ⊆ r'.names) : r'.Resolves s :=
  fun name hname => hnames (h name hname)

/-- A name that is registered is resolved. -/
theorem resolves_named (h : name ∈ r.names) : r.Resolves (.named name) := by
  intro other hother
  rw [Schema.names, List.mem_singleton] at hother
  rw [hother]
  exact h

theorem mem_names_iff : name ∈ r.names ↔ Fields.has name r = true := by
  rw [Fields.has, Fields.get?_isSome_iff, names]

/-- A reserved name is registered. -/
theorem mem_names_reserve (name : Text) (r : Registry) : name ∈ (reserve name r).names := by
  unfold reserve
  split
  · next hhas => exact mem_names_iff.2 hhas
  · rw [names, List.map_append, List.mem_append]
    exact Or.inr (List.mem_singleton.2 rfl)

/-- A reserved name stands over an empty schema, which refers to nothing. -/
theorem grows_reserve (name : Text) (r : Registry) : Grows r (reserve name r) := by
  unfold reserve
  split
  · exact Grows.refl r
  · have hnames : r.names ⊆ Registry.names (r ++ [(name, ⟨[], []⟩)]) := by
      intro other hother
      rw [Registry.names, List.map_append, List.mem_append]
      exact Or.inl hother
    refine ⟨hnames, fun hclosed entry hentry member hmember => ?_⟩
    rcases List.mem_append.1 hentry with hold | hnew
    · exact (hclosed entry hold member hmember).mono hnames
    · rw [List.mem_singleton] at hnew
      rw [hnew] at hmember
      cases hmember

/-- A schema whose members can be resolved takes the place of a reserved one. -/
theorem grows_put {o : ObjectSchema} (h : name ∈ r.names)
    (hmembers : ∀ member ∈ o.members, r.Resolves member.2) : Grows r (Fields.put name o r) := by
  have hnames : Registry.names (Fields.put name o r) = r.names := Fields.map_fst_put_of_mem o h
  have hsubset : r.names ⊆ Registry.names (Fields.put name o r) := by
    rw [hnames]
    exact fun _ hother => hother
  refine ⟨hsubset, fun hclosed entry hentry member hmember => ?_⟩
  rcases Fields.mem_put hentry with rfl | hold
  · exact (hmembers member hmember).mono hsubset
  · exact (hclosed entry hold member hmember).mono hsubset

-- =============================================================== inference

mutual

/-- Inference gives a schema that can be resolved afterwards. -/
theorem grows_infer (name : Text) : ∀ (v : Json) (r : Registry),
    Grows r (infer name v r).2 ∧ (infer name v r).2.Resolves (infer name v r).1
  | .null, r | .bool _, r | .int _, r | .float _, r | .str _, r =>
    ⟨Grows.refl r, fun _ h => nomatch h⟩
  | .arr items, r => grows_inferFirst name items r
  | .obj fields, r => by
    rw [infer]
    split
    · next hhas => exact ⟨Grows.refl r, resolves_named (mem_names_iff.2 hhas)⟩
    · obtain ⟨hgrows, hmembers⟩ := grows_inferMembers fields (reserve name r)
      have hname := hgrows.names (mem_names_reserve name r)
      have hput := grows_put (o := ⟨_, fields.map (·.1)⟩) hname hmembers
      exact ⟨((grows_reserve name r).trans hgrows).trans hput,
        resolves_named (hput.names hname)⟩

theorem grows_inferFirst (name : Text) : ∀ (items : List Json) (r : Registry),
    Grows r (inferFirst name items r).2
      ∧ (inferFirst name items r).2.Resolves (inferFirst name items r).1
  | [], r => ⟨grows_reserve name r, resolves_named (mem_names_reserve name r)⟩
  | item :: _, r => grows_infer name item r

/-- What is inferred of each member is resolved, and no name is lost. -/
theorem grows_inferMembers : ∀ (fields : List (Text × Json)) (r : Registry),
    Grows r (inferMembers fields r).2
      ∧ ∀ member ∈ (inferMembers fields r).1, (inferMembers fields r).2.Resolves member.2
  | [], r => ⟨Grows.refl r, fun _ h => nomatch h⟩
  | (key, value) :: rest, r => by
    obtain ⟨hfirst, hschema⟩ := grows_infer (Text.capitalized key) value r
    obtain ⟨hrest, hmembers⟩ := grows_inferMembers rest (infer (Text.capitalized key) value r).2
    refine ⟨hfirst.trans hrest, fun member hmember => ?_⟩
    rcases List.mem_cons.1 hmember with rfl | hlater
    · exact hschema.mono hrest.names
    · exact hmembers member hlater

end

end Registry

-- =============================================================== documents

namespace Json

mutual

/-- What stands under `$ref` in the document of a schema: in the schema itself,
in that of its items, and in those of its properties. -/
def references : Json → List Json
  | .obj fields => referencesIn fields
  | _ => []

def referencesIn : List (Text × Json) → List Json
  | [] => []
  | (key, value) :: rest =>
    (if key = "$ref" then [value]
      else if key = "items" then references value
      else if key = "properties" then propertyReferences value
      else []) ++ referencesIn rest

/-- What stands under `$ref` in the schemas of properties. The name of a property
may be anything, `$ref` too. -/
def propertyReferences : Json → List Json
  | .obj fields => referencesOfEach fields
  | _ => []

def referencesOfEach : List (Text × Json) → List Json
  | [] => []
  | (_, value) :: rest => references value ++ referencesOfEach rest

end

/-- The references of members are those of their values, in order. -/
theorem referencesOfEach_eq (fields : Fields) :
    referencesOfEach fields = fields.flatMap fun field => references field.2 := by
  induction fields with
  | nil => rfl
  | cons field rest ih => rw [referencesOfEach, ih, List.flatMap_cons]

end Json

/-- The reference to a registered name. -/
def Schema.reference (name : Text) : Json := .str (Schema.referenceStart ++ name)

/-- The references in a schema's document are those to the names of the schema. -/
theorem Schema.references_toJson (s : Schema) :
    s.toJson.references = s.names.map Schema.reference := by
  induction s with
  | array items ih =>
    rw [toJson, names, ← ih]
    simp [Json.ofFields, Json.ofString, Json.references, Json.referencesIn]
  | named name =>
    rw [toJson, names]
    simp [Json.ofFields, Json.references, Json.referencesIn, reference]
  | anything | boolean | integer | number | string =>
    rw [toJson, names]
    · simp [Json.ofFields, Json.ofString, Json.references, Json.referencesIn]
    all_goals exact fun _ h => nomatch h

/-- The references in the document of an object's schema are those of its members. -/
theorem ObjectSchema.references_toJson (o : ObjectSchema) :
    o.toJson.references
      = o.members.flatMap fun member => member.2.names.map Schema.reference := by
  have hmembers : Json.referencesOfEach (o.members.map fun member => (member.1, member.2.toJson))
      = o.members.flatMap fun member => member.2.names.map Schema.reference := by
    rw [Json.referencesOfEach_eq, List.flatMap_map]
    congr 1
    funext member
    exact member.2.references_toJson
  rw [← hmembers, toJson]
  simp [Json.ofFields, Json.ofString, Json.references, Json.referencesIn, Json.propertyReferences]

end MockApi
