/-
Schemas of example values. A scalar has its type, an array the schema of its
first item, and an object a name under which its own schema stands in a
registry. An empty array counts as an array of empty objects.

A name is registered once: a later value under a registered name refers to
the first registration, whatever its own shape. The name is reserved before
the members are looked at, so its place in the registry comes before theirs
and a member under the same name refers back to it.
-/
import MockApi.Json.Basic
import MockApi.Text.Case

namespace MockApi

/-- The schema of a value. -/
inductive Schema where
  | anything
  | boolean
  | integer
  | number
  | string
  | array (items : Schema)
  /-- The schema registered under a name. -/
  | named (name : Text)
deriving DecidableEq, Repr

/-- The schema of an object: the schemas of its members, and the members it
must have. -/
structure ObjectSchema where
  members : List (Text × Schema)
  required : List Text
deriving DecidableEq, Repr

/-- Object schemas by name, in order of registration. -/
abbrev Registry := List (Text × ObjectSchema)

namespace Schema

/-- What the reference to a registered name starts with. -/
def referenceStart : Text := "#/components/schemas/"

/-- A schema as an object. -/
def toJson : Schema → Json
  | anything => .ofFields [("nullable", .bool true)]
  | boolean => .ofFields [("type", .ofString "boolean")]
  | integer => .ofFields [("type", .ofString "integer")]
  | number => .ofFields [("type", .ofString "number")]
  | string => .ofFields [("type", .ofString "string")]
  | array items => .ofFields [("type", .ofString "array"), ("items", toJson items)]
  | named name => .ofFields [("$ref", .str (referenceStart ++ name))]

end Schema

/-- An object's schema as an object. -/
def ObjectSchema.toJson (s : ObjectSchema) : Json :=
  .ofFields
    [("type", .ofString "object"),
     ("properties", .obj (s.members.map fun member => (member.1, member.2.toJson))),
     ("required", .arr (s.required.map .str))]

namespace Registry

/-- The registry with a name in it, and an empty schema for a new name. -/
def reserve (name : Text) (r : Registry) : Registry :=
  if Fields.has name r then r else r ++ [(name, ⟨[], []⟩)]

mutual

/-- The schema of a value, an object in it registered under the name. -/
def infer (name : Text) : Json → Registry → Schema × Registry
  | .null, r => (.anything, r)
  | .bool _, r => (.boolean, r)
  | .int _, r => (.integer, r)
  | .float _, r => (.number, r)
  | .str _, r => (.string, r)
  | .arr items, r =>
    let (schema, r) := inferFirst name items r
    (.array schema, r)
  | .obj fields, r =>
    if Fields.has name r then (.named name, r)
    else
      let (members, r) := inferMembers fields (reserve name r)
      (.named name, Fields.put name ⟨members, fields.map (·.1)⟩ r)

/-- The schema of an array's first item. -/
def inferFirst (name : Text) : List Json → Registry → Schema × Registry
  | [], r => (.named name, reserve name r)
  | item :: _, r => infer name item r

/-- The schemas of an object's members, each under its capitalized key. -/
def inferMembers : List (Text × Json) → Registry → List (Text × Schema) × Registry
  | [], r => ([], r)
  | (key, value) :: rest, r =>
    let (schema, r) := infer (Text.capitalized key) value r
    let (members, r) := inferMembers rest r
    ((key, schema) :: members, r)

end

/-- The registry as an object. -/
def toJson (r : Registry) : Json := .obj (r.map fun entry => (entry.1, entry.2.toJson))

end Registry

end MockApi
