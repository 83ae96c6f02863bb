import CloudPolicy.Json.Basic

/-! Schemas for the blocks of filters and actions. -/

namespace CloudPolicy.BlockSchema

/-- The schema of a block whose `type` is the given name, with further properties of which some are
required. No other keys are accepted. -/
def ofType (typeName : String) (properties : List (String × Json)) (required : List String) :
    Json :=
  .obj [("type", .string "object"), ("additionalProperties", .bool false),
    ("required", .strings ("type" :: required)),
    ("properties", .obj (("type", .obj [("enum", .strings [typeName])]) :: properties))]

/-- A property of one type. -/
def typed (name : String) : Json := .obj [("type", .string name)]

def text : Json := typed "string"

def boolean : Json := typed "boolean"

def number : Json := typed "number"

/-- Any value. -/
def anything : Json := .obj []

/-- A list of texts. -/
def textList : Json := .obj [("type", .string "array"), ("items", text)]

/-- One of the given texts. -/
def oneOf (choices : List String) : Json := .obj [("enum", .strings choices)]

def comparisonNames : List String :=
  ["eq", "equal", "ne", "not-equal", "gt", "greater-than", "gte", "ge", "lt", "less-than", "lte",
    "le"]

/-- The operators of filters that count. -/
def comparisonOperators : Json := oneOf comparisonNames

/-- The properties of filters on values. -/
def valueProperties : List (String × Json) :=
  [("key", text), ("value", anything),
    ("op", oneOf (comparisonNames ++ ["in", "not-in", "ni", "contains"]))]

end CloudPolicy.BlockSchema
