/-
JSON values with what this project's documents need kept: integers of any
size apart from floating point numbers, and the order of an object's fields.

Fields are a list of pairs. Documents are read so that keys are distinct;
`Fields.put` replaces a value where its key stands and adds a new key at
the end, so a repeated key keeps its first place and its last value.
-/
import MockApi.Text.Basic
import MockApi.Decimal.Binary64

namespace MockApi

/-- A JSON value. -/
inductive Json where
  | null
  | bool (b : Bool)
  | int (n : Int)
  | float (x : Binary64)
  | str (t : Text)
  | arr (items : List Json)
  | obj (fields : List (Text × Json))
deriving Inhabited, BEq, Repr

/-- The fields of an object in order. -/
abbrev Fields := List (Text × Json)

namespace Fields

/-- The value of a key. -/
def get? {α : Type} (key : Text) : List (Text × α) → Option α
  | [] => none
  | (k, v) :: rest => if k = key then some v else get? key rest

/-- Whether a key is present. -/
def has {α : Type} (key : Text) (fields : List (Text × α)) : Bool := (get? key fields).isSome

/-- Sets the value of a key: in its place if present, else at the end. -/
def put {α : Type} (key : Text) (value : α) : List (Text × α) → List (Text × α)
  | [] => [(key, value)]
  | (k, v) :: rest => if k = key then (k, value) :: rest else (k, v) :: put key value rest

/-- The fields that result from setting the pairs one after another. -/
def ofPairs {α : Type} (pairs : List (Text × α)) : List (Text × α) :=
  pairs.foldl (fun fields pair => put pair.1 pair.2 fields) []

end Fields

namespace Json

instance : Coe Text Json := ⟨.str⟩

/-- An object from literal fields. -/
def ofFields (fields : List (String × Json)) : Json :=
  .obj (fields.map fun field => (Text.ofString field.1, field.2))

/-- A string value from literal text. -/
def ofString (s : String) : Json := .str s

/-- The value of a key of an object; nothing else has keys. -/
def field? (key : Text) : Json → Option Json
  | .obj fields => Fields.get? key fields
  | _ => none

/-- The value counts as set: not null, false, zero or empty. -/
def isSet : Json → Bool
  | .null => false
  | .bool b => b
  | .int n => n != 0
  | .float x => !x.isZero
  | .str t => !t.isEmpty
  | .arr items => !items.isEmpty
  | .obj fields => !fields.isEmpty

/-- The name of the value's kind, as messages give it. -/
def kindName : Json → Text
  | .null => "NoneType"
  | .bool _ => "bool"
  | .int _ => "int"
  | .float _ => "float"
  | .str _ => "str"
  | .arr _ => "list"
  | .obj _ => "dict"

mutual

/-- Every number in the value satisfies the test. -/
def allIntegers (p : Int → Bool) : Json → Bool
  | .int n => p n
  | .arr items => allIntegersOf p items
  | .obj fields => allIntegersIn p fields
  | _ => true

def allIntegersOf (p : Int → Bool) : List Json → Bool
  | [] => true
  | item :: rest => allIntegers p item && allIntegersOf p rest

def allIntegersIn (p : Int → Bool) : List (Text × Json) → Bool
  | [] => true
  | (_, value) :: rest => allIntegers p value && allIntegersIn p rest

end

mutual

/-- The strings of the value in order; keys are not among them. -/
def strings : Json → List Text
  | .str t => [t]
  | .arr items => stringsOf items
  | .obj fields => stringsIn fields
  | _ => []

def stringsOf : List Json → List Text
  | [] => []
  | item :: rest => strings item ++ stringsOf rest

def stringsIn : List (Text × Json) → List Text
  | [] => []
  | (_, value) :: rest => strings value ++ stringsIn rest

end

end Json

end MockApi
