import CloudPolicy.Error
import CloudPolicy.Json.Printer
import CloudPolicy.Json.Record
import CloudPolicy.Mode

/-! Policy documents as their authors write them. The blocks of filters and actions stay JSON until
they are compiled; here they are brought into a form with an explicit type. -/

namespace CloudPolicy

/-- One policy as it is written. -/
structure PolicyEntry where
  name : String
  resource : String
  mode : Mode := .pull
  description : Option String := none
  filters : List Json := []
  actions : List Json := []
  deriving Repr, Inhabited

/-- A list of policies. -/
structure PolicyDocument where
  policies : List PolicyEntry := []
  deriving Repr, Inhabited

/-- Null in the place of numbers that are not finite. -/
def Json.withFiniteNumbers : Json → Json
  | .number (.float value) => if value.isFinite then .number (.float value) else .null
  | .array items => .array (ofItems items)
  | .object ⟨fields⟩ => .object ⟨ofFields fields⟩
  | other => other
where
  ofItems : List Json → List Json
    | [] => []
    | item :: items => withFiniteNumbers item :: ofItems items
  ofFields : List (String × Json) → List (String × Json)
    | [] => []
    | (key, value) :: fields => (key, withFiniteNumbers value) :: ofFields fields

namespace PolicyEntry

def fieldNames : List String := ["name", "resource", "mode", "description", "filters", "actions"]

def blocks? : Json → Option (List Json) := Json.listOf? fun block => some block.withFiniteNumbers

def ofJson? (j : Json) : Option PolicyEntry := do
  let fields ← j.closedRecord? fieldNames
  let name ← Json.required? fields "name" Json.string?
  let resource ← Json.required? fields "resource" Json.string?
  let mode ← Json.defaulted? fields "mode" Mode.ofJson? .pull
  let description ← Json.optional? fields "description" Json.string?
  let filters ← Json.defaulted? fields "filters" blocks? []
  let actions ← Json.defaulted? fields "actions" blocks? []
  some { name, resource, mode, description, filters, actions }

end PolicyEntry

def PolicyDocument.ofJson? (j : Json) : Option PolicyDocument := do
  let fields ← j.closedRecord? ["policies"]
  let policies ← Json.defaulted? fields "policies" (Json.listOf? PolicyEntry.ofJson?) []
  some { policies }

/-- The list that a block stands in. -/
inductive BlockKind where
  | filter
  | action
  deriving DecidableEq, Repr, Inhabited

def BlockKind.name : BlockKind → String
  | filter => "filter"
  | action => "action"

/-- The table form of a block. A text names a block without options. A filter with one entry and no
type tests the value under a key. -/
def normalizeBlock (kind : BlockKind) (block : Json) : Except Error Json :=
  match block with
  | .string name => .ok (.obj [("type", .string name)])
  | .object fields =>
    if fields.contains "type" then .ok (.object fields)
    else
      match kind, fields.entries with
      | .filter, [(key, value)] =>
        .ok (.obj [("type", .string "value"), ("key", .string key), ("value", value)])
      | _, _ => .error (.policyValidation (kind.name ++ " block has no 'type'"))
  | other => .error (.policyValidation
      (kind.name ++ " block must be a string or a table, found " ++ other.text))

end CloudPolicy
