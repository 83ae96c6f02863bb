import CloudPolicy.Error
import CloudPolicy.Json.Printer
import CloudPolicy.Schema.Basic
import CloudPolicy.Text.Search

/-! Checking option blocks against schemas. All violations of a block are reported together: first
those of the schema, then those of rules that a schema cannot express. -/

namespace CloudPolicy

/-- What a value violates. -/
inductive Fault where
  | forbidden (value : Json)
  | unexpected (keys : List String)
  | notAmong (value : Json) (choices : List Json)
  | aboveMaximum (value maximum : JsonNumber)
  | belowMinimum (value minimum : JsonNumber)
  | tooFewItems (value : Json) (least : Nat)
  | missing (key : String)
  | wrongType (value : Json) (types : List SimpleType)
  deriving Inhabited

/-- A violation and the place of the value in the block: the keys and indices on the way to it. -/
structure Violation where
  path : List String
  fault : Fault
  deriving Inhabited

namespace Fault

def typeName (type : SimpleType) : String := "\"" ++ type.name ++ "\""

def message : Fault → String
  | forbidden value => "False schema does not allow " ++ value.text
  | unexpected keys =>
    "Additional properties are not allowed ("
      ++ Text.join ", " (keys.map fun key => "'" ++ key ++ "'")
      ++ (if keys.length = 1 then " was unexpected)" else " were unexpected)")
  | notAmong value choices => value.text ++ " is not one of " ++ (Json.array choices).text
  | aboveMaximum value maximum =>
    (Json.number value).text ++ " is greater than the maximum of " ++ (Json.number maximum).text
  | belowMinimum value minimum =>
    (Json.number value).text ++ " is less than the minimum of " ++ (Json.number minimum).text
  | tooFewItems value least =>
    value.text ++ " has less than " ++ Nat.repr least ++ (if least = 1 then " item" else " items")
  | missing key => (Json.string key).text ++ " is a required property"
  | wrongType value [type] => value.text ++ " is not of type " ++ typeName type
  | wrongType value types =>
    value.text ++ " is not of types "
      ++ Text.join ", " ((SimpleType.all.filter (· ∈ types)).map typeName)

end Fault

namespace Violation

/-- A key in a path, with `~` and `/` escaped. -/
def escapeKey (key : String) : String := Text.replaceAll "/" "~1" (Text.replaceAll "~" "~0" key)

def pointer (path : List String) : String := String.join (path.map fun key => "/" ++ escapeKey key)

/-- The fault, after its place unless that is the whole block. -/
def message (v : Violation) : String :=
  if v.path.isEmpty then v.fault.message else "at " ++ pointer v.path ++ ": " ++ v.fault.message

end Violation

namespace Schema

def choiceFaults (choices : Option (List Json)) (value : Json) : List Fault :=
  match choices with
  | some choices => if choices.any (value.equalValue ·) then [] else [.notAmong value choices]
  | none => []

def maximumFaults : Option JsonNumber → Json → List Fault
  | some maximum, .number value =>
    if maximum.scaled < value.scaled then [.aboveMaximum value maximum] else []
  | _, _ => []

def minimumFaults : Option JsonNumber → Json → List Fault
  | some minimum, .number value =>
    if value.scaled < minimum.scaled then [.belowMinimum value minimum] else []
  | _, _ => []

def sizeFaults : Option Nat → Json → List Fault
  | some least, .array items =>
    if items.length < least then [.tooFewItems (.array items) least] else []
  | _, _ => []

def requiredFaults (required : List String) : Json → List Fault
  | .object fields => (required.filter fun key => !fields.contains key).map .missing
  | _ => []

def typeFaults (types : List SimpleType) (value : Json) : List Fault :=
  if types.isEmpty || types.any (·.admits value) then [] else [.wrongType value types]

/-- The entries of an object whose keys no property names. -/
def unexpectedEntries (properties : List (String × Schema)) (value : Json) : List (String × Json) :=
  match value with
  | .object fields => fields.entries.filter fun e => !properties.any fun p => p.1 == e.1
  | _ => []

/-- What is wrong with keys that no property names when none are allowed. Where there are no
properties at all, the first value is reported. -/
def closedFaults (properties : Option (List (String × Schema))) (value : Json) : List Fault :=
  match properties, value with
  | none, .object ⟨(_, first) :: _⟩ => [.forbidden first]
  | none, _ => []
  | some properties, value =>
    match unexpectedEntries properties value with
    | [] => []
    | entries => [.unexpected (entries.map (·.1))]

/-- All violations of a value at `path`. Rules are reported in the alphabetical order of their
keywords, except that properties are reported with the rule for additional ones if there is one. -/
def violations (path : List String) : Schema → Json → List Violation
  | always, _ => []
  | never, value => [⟨path, .forbidden value⟩]
  | rules types choices required properties additional minimum maximum minItems items, value =>
    let here (faults : List Fault) : List Violation := faults.map (⟨path, ·⟩)
    let known (entry : String × Json) : Option (List Violation) :=
      match properties with
      | some properties => propertyViolations path properties entry.1 entry.2
      | none => none
    let entries := match value with
      | .object fields => fields.entries
      | _ => []
    let elements := match value with
      | .array items => items.zipIdx
      | _ => []
    let ofProperties := entries.flatMap fun entry => (known entry).getD []
    (match additional with
      | none => []
      | some always => []
      | some never => ofProperties ++ here (closedFaults properties value)
      | some schema => entries.flatMap fun entry =>
        (known entry).getD (violations (path ++ [entry.1]) schema entry.2))
    ++ here (choiceFaults choices value)
    ++ (match items with
      | none => []
      | some schema => elements.flatMap fun (item, index) =>
        violations (path ++ [Nat.repr index]) schema item)
    ++ here
      (maximumFaults maximum value ++ sizeFaults minItems value ++ minimumFaults minimum value)
    ++ (match additional with
      | none => ofProperties
      | some always => ofProperties
      | _ => [])
    ++ here (requiredFaults required value ++ typeFaults types value)
where
  /-- The violations of the property `key`, if there is such a property. -/
  propertyViolations (path : List String) :
      List (String × Schema) → String → Json → Option (List Violation)
    | [], _, _ => none
    | (name, schema) :: properties, key, value =>
      if name = key then some (violations (path ++ [key]) schema value)
      else propertyViolations path properties key value

/-- The value violates nothing. -/
def accepts (schema : Schema) (value : Json) : Bool := (schema.violations [] value).isEmpty

end Schema

/-- The type that a block names, or the empty text. -/
def blockType (block : Json) : String := (block.stringField? "type").getD ""

namespace Validation

/-- Rules for blocks of one type that no schema can express. -/
def semanticFaults (block : Json) : List String :=
  let has (key : String) : Bool := (block.field? key).isSome
  if blockType block = "tag" then
    (if has "key" && has "tag" then ["'key' and 'tag' cannot be used together"] else [])
      ++ if has "value" && !(has "key" || has "tag") then
          ["'value' must be used with 'key' or 'tag'"]
        else []
  else []

/-- Check a block against a schema and against `checks`. -/
def validateWith (checks : Json → List String) (schema block : Json) : Except Error Unit :=
  match Schema.ofJson? schema with
  | none => .error (.configuration ("invalid schema for '" ++ blockType block ++ "'"))
  | some schema =>
    match (schema.violations [] block).map Violation.message ++ checks block with
    | [] => .ok ()
    | faults => .error (.schemaValidation
        ("'" ++ blockType block ++ "': " ++ Text.join "; " faults))

def validate (schema block : Json) : Except Error Unit := validateWith semanticFaults schema block

end Validation

end CloudPolicy
