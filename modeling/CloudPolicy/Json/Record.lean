import CloudPolicy.Json.Basic

/-! Reading records from JSON. A record is an object, whose fields are found by name, or an array,
whose items stand for the fields in the order of their declaration; items left out at the end count
as missing fields. -/

namespace CloudPolicy.Json

/-- The fields of a record that ignores the keys it does not know. -/
def openRecord? (names : List String) : Json → Option (StringMap Json)
  | object fields => some fields
  | array items =>
    if items.length ≤ names.length then some (.ofList (names.zip items)) else none
  | _ => none

/-- The fields of a record that has no keys but `names`. -/
def closedRecord? (names : List String) (j : Json) : Option (StringMap Json) :=
  (openRecord? names j).filter fun fields => fields.keys.all (· ∈ names)

/-- A field that has to be there. -/
def required? {α : Type} (fields : StringMap Json) (name : String) (read : Json → Option α) :
    Option α :=
  (fields.get? name).bind read

/-- A field that may be missing, but not null. -/
def defaulted? {α : Type} (fields : StringMap Json) (name : String) (read : Json → Option α)
    (default : α) : Option α :=
  match fields.get? name with
  | none => some default
  | some value => read value

/-- A field that may be missing or null. -/
def optional? {α : Type} (fields : StringMap Json) (name : String) (read : Json → Option α) :
    Option (Option α) :=
  match fields.get? name with
  | none => some none
  | some null => some none
  | some value => (read value).map some

/-- An array, all of whose items can be read. -/
def listOf? {α : Type} (read : Json → Option α) : Json → Option (List α)
  | array items => items.mapM read
  | _ => none

/-- An object, all of whose values can be read. -/
def mapOf? {α : Type} (read : Json → Option α) : Json → Option (StringMap α)
  | object fields =>
    (fields.entries.mapM fun e : String × Json => (read e.2).map fun v => (e.1, v)).map
      StringMap.ofList
  | _ => none

/-- A value that may be null. -/
def nullable? {α : Type} (read : Json → Option α) : Json → Option (Option α)
  | null => some none
  | value => (read value).map some

/-- The name of a variant without content: a text, or an object with one field that is null. -/
def variantName? : Json → Option String
  | string name => some name
  | object ⟨[(name, null)]⟩ => some name
  | _ => none

/-- None of the names stands twice among the fields of an object as it was written. -/
def writtenOnce (names : List String) : Json → Bool
  | object ⟨fields⟩ => names.all fun name => (fields.filter (·.1 = name)).length ≤ 1
  | _ => true

end CloudPolicy.Json
