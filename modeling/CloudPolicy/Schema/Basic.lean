import CloudPolicy.Json.Record

/-! Schemas of option blocks: the part of JSON schema that restricts types, values, fields, sizes
and items. A JSON value is a valid schema exactly when it can be read as one. -/

namespace CloudPolicy

/-- The type names of schemas, in alphabetical order. -/
inductive SimpleType where
  | array
  | boolean
  | integer
  | null
  | number
  | object
  | string
  deriving DecidableEq, Repr, Inhabited

namespace SimpleType

def all : List SimpleType := [array, boolean, integer, null, number, object, string]

def name : SimpleType → String
  | array => "array"
  | boolean => "boolean"
  | integer => "integer"
  | null => "null"
  | number => "number"
  | object => "object"
  | string => "string"

def ofJson? : Json → Option SimpleType
  | .string name => all.find? fun type => type.name = name
  | _ => none

/-- A number without a fraction is an integer, however it is written. -/
def admits : SimpleType → Json → Bool
  | array, .array _ => true
  | boolean, .bool _ => true
  | integer, .number (.int _) => true
  | integer, .number (.float value) => value.isWhole
  | null, .null => true
  | number, .number _ => true
  | object, .object _ => true
  | string, .string _ => true
  | _, _ => false

end SimpleType

/-- A schema: everything, nothing, or the conjunction of its rules. -/
inductive Schema where
  | always
  | never
  /-- Rules that are left out hold of every value. `types` and `required` stand for the absence of
  the rule when they are empty. -/
  | rules (types : List SimpleType) (choices : Option (List Json)) (required : List String)
      (properties : Option (List (String × Schema))) (additional : Option Schema)
      (minimum maximum : Option JsonNumber) (minItems : Option Nat) (items : Option Schema)
  deriving Inhabited

/-- The value in units of 2^-1074, which is exact for every number. -/
def JsonNumber.scaled : JsonNumber → Int
  | int value => value * Binary64.one
  | float (.finite negative units) => Binary64.signed negative units
  | float _ => 0

namespace Json

/-- Equality by value: `1` and `1.0` are equal. -/
def equalValue : Json → Json → Bool
  | null, null => true
  | bool a, bool b => a == b
  | number a, number b => a.scaled = b.scaled
  | string a, string b => a == b
  | array a, array b => equalItems a b
  | object ⟨a⟩, object ⟨b⟩ => equalFields a b
  | _, _ => false
where
  equalItems : List Json → List Json → Bool
    | [], [] => true
    | a :: as, b :: bs => equalValue a b && equalItems as bs
    | _, _ => false
  equalFields : List (String × Json) → List (String × Json) → Bool
    | [], [] => true
    | (k, a) :: as, (l, b) :: bs => k == l && equalValue a b && equalFields as bs
    | _, _ => false

end Json

namespace Schema

/-- One type name, or a list of different ones. -/
def types? : Json → Option (List SimpleType)
  | .array items => do
    let types ← items.mapM SimpleType.ofJson?
    if types ≠ [] ∧ types.Nodup then some types else none
  | name => (SimpleType.ofJson? name).map fun type => [type]

/-- A list of different texts. -/
def names? (j : Json) : Option (List String) := (Json.listOf? Json.string? j).filter (·.Nodup)

def number? : Json → Option JsonNumber
  | .number value => some value
  | _ => none

/-- A natural number, which may be written with a zero fraction. -/
def size? : Json → Option Nat
  | .number (.int value) => if 0 ≤ value then some value.toNat else none
  | .number (.float value) =>
    if value.isWhole ∧ Binary64.zero.lessOrEqual value then
      some (value.truncate 0 (Nat.pow 2 64)).toNat
    else none
  | _ => none

/-- Read a rule that may be left out. -/
def rule? {α : Type} (fields : StringMap Json) (name : String) (read : Json → Option α) :
    Option (Option α) :=
  match fields.get? name with
  | none => some none
  | some value => (read value).map some

/-- The sub-schema under a keyword of a list of fields. -/
def lookup? {α : Type} (name : String) (fields : List (String × Option α)) :
    Option (Option α) :=
  match StringMap.lookup name fields with
  | none => some none
  | some none => none
  | some (some schema) => some (some schema)

/-- Read the rules of a schema whose sub-schemas have been read: `properties`, and what the other
keywords hold as schemas. -/
def assemble? (fields : StringMap Json) (properties : Option (List (String × Schema)))
    (schemas : List (String × Option Schema)) : Option Schema := do
  let types ← rule? fields "type" types?
  let choices ← rule? fields "enum" Json.array?
  let required ← rule? fields "required" names?
  let additional ← lookup? "additionalProperties" schemas
  let minimum ← rule? fields "minimum" number?
  let maximum ← rule? fields "maximum" number?
  let minItems ← rule? fields "minItems" size?
  let items ← lookup? "items" schemas
  some (rules (types.getD []) choices (required.getD []) properties additional minimum maximum
    minItems items)

/-- The schema that a value writes. -/
def ofJson? : Json → Option Schema
  | .bool true => some always
  | .bool false => some never
  | .object ⟨fields⟩ => do
    let properties ← propertiesIn? fields
    assemble? ⟨fields⟩ properties (schemasIn fields)
  | _ => none
where
  /-- The schemas under `properties`, if that is a field. -/
  propertiesIn? : List (String × Json) → Option (Option (List (String × Schema)))
    | [] => some none
    | (name, value) :: fields =>
      if name = "properties" then
        match value with
        | .object ⟨named⟩ => (named? named).map some
        | _ => none
      else propertiesIn? fields
  named? : List (String × Json) → Option (List (String × Schema))
    | [] => some []
    | (name, value) :: fields => do
      let schema ← ofJson? value
      let schemas ← named? fields
      some ((name, schema) :: schemas)
  /-- The fields that hold one schema each. -/
  schemasIn : List (String × Json) → List (String × Option Schema)
    | [] => []
    | (name, value) :: fields =>
      if name = "additionalProperties" ∨ name = "items" then
        (name, ofJson? value) :: schemasIn fields
      else schemasIn fields

end Schema

end CloudPolicy
