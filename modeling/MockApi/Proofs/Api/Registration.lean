/-
What inference adds to a registry. It leaves what is registered alone and puts new
entries behind it, and what it gives back depends on the value and its name only
(`Schema.ofValue`). A name that is reserved while the members of its object are looked
at is filled in where it stands, so at the end of every inference each new entry is the
schema of an object that was looked at (`adds_infer`): no entry stays empty or half
built, also where a value holds its own name or refers to a name that is not filled yet.

So an object whose name is new is registered (`infer_obj_registers`), what was registered
first stays, after any inferences before, and inferring a value a second time adds nothing
(`first_registration_stays`).
-/
import MockApi.Proofs.Api.Schema

namespace MockApi

-- =============================================================== what is seen

namespace Json

mutual

/-- The objects that inference of a value looks at where all names are new, each with
its name: the members of an object are looked at behind it, under their capitalized
keys, and of an array the first item, or an empty object, under the array's own name. -/
def objects (name : Text) : Json → List (Text × Fields)
  | .arr items => objectsOfFirst name items
  | .obj fields => (name, fields) :: objectsIn fields
  | _ => []

def objectsOfFirst (name : Text) : List Json → List (Text × Fields)
  | [] => [(name, [])]
  | item :: _ => objects name item

def objectsIn : List (Text × Json) → List (Text × Fields)
  | [] => []
  | (key, value) :: rest => objects (Text.capitalized key) value ++ objectsIn rest

end

end Json

namespace Schema

mutual

/-- The schema of a value under a name, whatever is registered. -/
def ofValue (name : Text) : Json → Schema
  | .null => .anything
  | .bool _ => .boolean
  | .int _ => .integer
  | .float _ => .number
  | .str _ => .string
  | .arr items => .array (ofFirst name items)
  | .obj _ => .named name

def ofFirst (name : Text) : List Json → Schema
  | [] => .named name
  | item :: _ => ofValue name item

end

end Schema

/-- The schemas of an object's members, each under its capitalized key. -/
def Schema.ofMembers (fields : Fields) : List (Text × Schema) :=
  fields.map fun field => (field.1, .ofValue (Text.capitalized field.1) field.2)

/-- The whole schema of an object: its members in order, and all of them required. -/
def ObjectSchema.ofFields (fields : Fields) : ObjectSchema where
  members := Schema.ofMembers fields
  required := fields.map (·.1)

namespace Registry

variable {name : Text} {fields : Fields} {r r' r'' : Registry} {xs ys : List (Text × Fields)}

/-- The entry of an object. -/
def entryOf (object : Text × Fields) : Text × ObjectSchema := (object.1, .ofFields object.2)

theorem not_mem_names_of_has (h : ¬Fields.has name r = true) : name ∉ r.names :=
  mt mem_names_iff.1 h

-- ================================================================ what is new

/-- The registry goes on with the entries of some of the objects, in their order. -/
def Adds (objects : List (Text × Fields)) (r r' : Registry) : Prop :=
  ∃ added : List (Text × Fields), added.Sublist objects ∧ r' = r ++ added.map entryOf

theorem Adds.refl (objects : List (Text × Fields)) (r : Registry) : Adds objects r r :=
  ⟨[], List.nil_sublist objects, (List.append_nil r).symm⟩

theorem Adds.trans (h : Adds xs r r') (h' : Adds ys r' r'') : Adds (xs ++ ys) r r'' := by
  obtain ⟨added, hsub, rfl⟩ := h
  obtain ⟨added', hsub', rfl⟩ := h'
  refine ⟨added ++ added', hsub.append hsub', ?_⟩
  rw [List.map_append, List.append_assoc]

theorem Adds.isPrefix (h : Adds xs r r') : r <+: r' := by
  obtain ⟨added, -, rfl⟩ := h
  exact List.prefix_append r _

/-- An entry is one of the earlier ones, or that of an object that was met. -/
theorem Adds.mem_or (h : Adds xs r r') {entry : Text × ObjectSchema} (hentry : entry ∈ r') :
    entry ∈ r ∨ ∃ object ∈ xs, entry = entryOf object := by
  obtain ⟨added, hsub, rfl⟩ := h
  rcases List.mem_append.1 hentry with hold | hnew
  · exact .inl hold
  · obtain ⟨object, hobject, rfl⟩ := List.mem_map.1 hnew
    exact .inr ⟨object, hsub.subset hobject, rfl⟩

/-- An empty object is registered like any other. -/
theorem adds_reserve (name : Text) (r : Registry) : Adds [(name, [])] r (reserve name r) := by
  unfold reserve
  split
  · exact Adds.refl _ r
  · exact ⟨[(name, [])], List.Sublist.refl _, rfl⟩

/-- A new name is filled in where it was reserved, in front of what its members added. -/
theorem infer_obj_of_new {members : List (Text × Schema)} {added : Registry}
    (new : name ∉ r.names)
    (h : inferMembers fields (r ++ [(name, ⟨[], []⟩)])
      = (members, r ++ [(name, ⟨[], []⟩)] ++ added)) :
    infer name (.obj fields) r
      = (.named name, r ++ (name, ⟨members, fields.map (·.1)⟩) :: added) := by
  have hnew : ¬Fields.has name r = true := mt mem_names_iff.2 new
  rw [infer, if_neg hnew, reserve, if_neg hnew, h, List.append_assoc, List.singleton_append]
  simp only [Fields.put_append_of_not_mem _ new, Fields.put_cons_self]

mutual

/-- Inference gives the schema of the value under its name, and adds entries of objects
that it looked at. -/
theorem adds_infer (name : Text) : ∀ (v : Json) (r : Registry),
    (infer name v r).1 = .ofValue name v ∧ Adds (v.objects name) r (infer name v r).2
  | .null, r | .bool _, r | .int _, r | .float _, r | .str _, r => ⟨rfl, Adds.refl _ r⟩
  | .arr items, r => by
    obtain ⟨hschema, hadds⟩ := adds_inferFirst name items r
    exact ⟨congrArg Schema.array hschema, hadds⟩
  | .obj fields, r => by
    by_cases hhas : Fields.has name r = true
    · rw [infer, if_pos hhas]
      exact ⟨rfl, Adds.refl _ r⟩
    · obtain ⟨hmembers, added, hsub, hregistry⟩ :=
        adds_inferMembers fields (r ++ [(name, ⟨[], []⟩)])
      rw [infer_obj_of_new (not_mem_names_of_has hhas) (Prod.ext hmembers hregistry)]
      exact ⟨rfl, (name, fields) :: added, hsub.cons_cons _, rfl⟩

theorem adds_inferFirst (name : Text) : ∀ (items : List Json) (r : Registry),
    (inferFirst name items r).1 = .ofFirst name items
      ∧ Adds (Json.objectsOfFirst name items) r (inferFirst name items r).2
  | [], r => ⟨rfl, adds_reserve name r⟩
  | item :: _, r => adds_infer name item r

/-- The inference of members registers the objects of each, in order. -/
theorem adds_inferMembers : ∀ (fields : List (Text × Json)) (r : Registry),
    (inferMembers fields r).1 = Schema.ofMembers fields
      ∧ Adds (Json.objectsIn fields) r (inferMembers fields r).2
  | [], r => ⟨rfl, Adds.refl _ r⟩
  | (key, value) :: rest, r => by
    obtain ⟨hschema, hfirst⟩ := adds_infer (Text.capitalized key) value r
    obtain ⟨hmembers, hrest⟩ := adds_inferMembers rest (infer (Text.capitalized key) value r).2
    exact ⟨congrArg₂ (fun schema members => (key, schema) :: members) hschema hmembers,
      hfirst.trans hrest⟩

end

/-- Inferring an object under a new name registers it: the result refers to the name, and
under the name stands the whole schema of the object, right behind what was there. -/
theorem infer_obj_registers (new : name ∉ r.names) (fields : Fields) :
    ∃ added, infer name (.obj fields) r = (.named name, r ++ entryOf (name, fields) :: added) := by
  obtain ⟨hmembers, added, -, hregistry⟩ := adds_inferMembers fields (r ++ [(name, ⟨[], []⟩)])
  refine ⟨added.map entryOf, ?_⟩
  rw [infer_obj_of_new new (Prod.ext hmembers hregistry)]
  rfl

-- ================================================================ a second time

mutual

/-- Under a registered name nothing is looked at. -/
theorem infer_of_mem_names (h : name ∈ r.names) :
    ∀ v : Json, infer name v r = (.ofValue name v, r)
  | .null | .bool _ | .int _ | .float _ | .str _ => rfl
  | .arr items => by
    rw [infer, inferFirst_of_mem_names h items]
    rfl
  | .obj fields => by
    rw [infer, if_pos (mem_names_iff.1 h)]
    rfl

/-- Under a name that is registered, a list leaves the registry alone. -/
theorem inferFirst_of_mem_names (h : name ∈ r.names) :
    ∀ items : List Json, inferFirst name items r = (.ofFirst name items, r)
  | [] => by
    rw [inferFirst, reserve, if_pos (mem_names_iff.1 h)]
    rfl
  | item :: _ => infer_of_mem_names h item

end

mutual

/-- A name that an object has in front is registered afterwards. -/
theorem mem_names_infer (name : Text) : ∀ (v : Json) (r : Registry),
    v.objects name ≠ [] → name ∈ (infer name v r).2.names
  | .null, _, h | .bool _, _, h | .int _, _, h | .float _, _, h | .str _, _, h => absurd rfl h
  | .arr items, r, h => mem_names_inferFirst name items r h
  | .obj fields, r, _ => by
    have hresolves := (grows_infer name (.obj fields) r).2
    rw [(adds_infer name (.obj fields) r).1] at hresolves
    exact hresolves name (List.mem_singleton.2 rfl)

theorem mem_names_inferFirst (name : Text) : ∀ (items : List Json) (r : Registry),
    Json.objectsOfFirst name items ≠ [] → name ∈ (inferFirst name items r).2.names
  | [], r, _ => mem_names_reserve name r
  | item :: _, r, h => mem_names_infer name item r h

end

/-- Inferring a value again gives the same schema and adds nothing. -/
theorem infer_again (name : Text) (v : Json) (r : Registry) :
    infer name v (infer name v r).2 = infer name v r := by
  obtain ⟨hschema, hadds⟩ := adds_infer name v r
  by_cases hnone : v.objects name = []
  · -- no object is looked at, so the first time added nothing either
    rw [hnone] at hadds
    obtain ⟨added, hsub, hregistry⟩ := hadds
    obtain rfl := List.sublist_nil.1 hsub
    rw [List.map_nil, List.append_nil] at hregistry
    rw [hregistry]
  · rw [infer_of_mem_names (mem_names_infer name v r hnone)]
    exact Prod.ext hschema.symm rfl

-- ============================================================== any registry

/-- The registry after values were inferred one after another, each under a name. -/
def inferEach (r : Registry) : List (Text × Json) → Registry
  | [] => r
  | (name, v) :: rest => inferEach (infer name v r).2 rest

/-- Entries that are added by inferences are those of objects they looked at. -/
theorem adds_inferEach (r : Registry) (history : List (Text × Json)) :
    Adds (history.flatMap fun call => call.2.objects call.1) r (inferEach r history) := by
  induction history generalizing r with
  | nil => exact Adds.refl _ r
  | cons call rest ih =>
    rw [List.flatMap_cons]
    exact (adds_infer call.1 call.2 r).2.trans (ih _)

/-- After any inferences, a further one keeps the registry as it is and goes on behind
it; every entry has all its members, which it requires in their order, and is the schema
of an object that one of the inferences looked at under that name; and inferring the
same again gives the same schema and leaves the registry alone. -/
theorem first_registration_stays (history : List (Text × Json)) (name : Text) (v : Json) :
    let r := inferEach [] history
    let made := infer name v r
    r <+: made.2
      ∧ (∀ entry ∈ made.2, entry.2.required = entry.2.members.map (·.1)
        ∧ ∃ call ∈ history ++ [(name, v)], ∃ fields,
          (entry.1, fields) ∈ call.2.objects call.1 ∧ entry.2 = .ofFields fields)
      ∧ infer name v made.2 = made := by
  intro r made
  have hmade : Adds (v.objects name) r made.2 := (adds_infer name v r).2
  refine ⟨hmade.isPrefix, fun entry hentry => ?_, infer_again name v r⟩
  have hobject : ∃ call ∈ history ++ [(name, v)], ∃ object ∈ call.2.objects call.1,
      entry = entryOf object := by
    rcases hmade.mem_or hentry with hold | ⟨object, hobject, heq⟩
    · rcases (adds_inferEach [] history).mem_or hold with hnone | ⟨object, hobject, heq⟩
      · cases hnone
      · obtain ⟨call, hcall, hmem⟩ := List.mem_flatMap.1 hobject
        exact ⟨call, List.mem_append_left _ hcall, object, hmem, heq⟩
    · exact ⟨(name, v), List.mem_append_right _ (List.mem_singleton.2 rfl), object, hobject, heq⟩
  obtain ⟨call, hcall, object, hmem, rfl⟩ := hobject
  refine ⟨?_, call, hcall, object.2, hmem, rfl⟩
  rw [entryOf, ObjectSchema.ofFields, Schema.ofMembers, List.map_map]
  rfl

/-- A member under the name of its own object refers back to it. -/
example :
    inferEach [] [("Node", .ofFields [("node", .ofFields [("node", .ofFields [])])])]
      = ([("Node", ⟨[("node", .named "Node")], ["node"]⟩)] : List (Text × ObjectSchema)) := by
  decide +kernel

end Registry

end MockApi
