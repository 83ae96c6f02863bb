import CloudPolicy.Json.Printer
import CloudPolicy.Json.Record
import CloudPolicy.Text.Search

/-! Tags of resources. Services write tags as a mapping or as a list whose entries are texts
`key=value`, mappings of one entry, or records with the fields `key` and `value`; each of these
spells a tag set, which has one text per key. -/

namespace CloudPolicy

/-- Why a value spells no tag set. -/
inductive TagError where
  /-- Tags are neither a mapping nor a list. -/
  | unsupportedShape (found : String)
  /-- An entry of a list that is no tag. -/
  | malformedEntry (index : Nat) (detail : String)
  /-- A tag whose value is a mapping or a list. -/
  | nonScalarValue (key : String)
  deriving DecidableEq, Repr, Inhabited

namespace TagError

def kind : TagError → String
  | unsupportedShape _ => "UnsupportedShape"
  | malformedEntry _ _ => "MalformedEntry"
  | nonScalarValue _ => "NonScalarValue"

def message : TagError → String
  | unsupportedShape found => "tags must be a mapping or a sequence, found " ++ found
  | malformedEntry index detail =>
    "tag entry " ++ Nat.repr index ++ " is malformed: " ++ detail
  | nonScalarValue key => "tag '" ++ key ++ "' has a non-scalar value"

end TagError

/-- One text per tag key, the keys in ascending order. -/
structure TagSet where
  entries : StringMap String
  sorted : entries.Sorted
  deriving DecidableEq

namespace TagSet

instance : EmptyCollection TagSet := ⟨⟨∅, StringMap.sorted_empty⟩⟩

instance : Inhabited TagSet := ⟨∅⟩

def get? (tags : TagSet) (key : String) : Option String := tags.entries.get? key

def contains (tags : TagSet) (key : String) : Bool := tags.entries.contains key

/-- Set a tag, in the place of any earlier value. -/
def insert (tags : TagSet) (key value : String) : TagSet :=
  ⟨tags.entries.insert key value, StringMap.sorted_insert tags.sorted key value⟩

def erase (tags : TagSet) (key : String) : TagSet :=
  ⟨tags.entries.erase key, StringMap.sorted_erase tags.sorted key⟩

/-- Keep the tags whose key satisfies `p`. -/
def filterKeys (p : String → Bool) (tags : TagSet) : TagSet :=
  ⟨tags.entries.filterKeys p, StringMap.sorted_filterKeys tags.sorted p⟩

def size (tags : TagSet) : Nat := tags.entries.size

def isEmpty (tags : TagSet) : Bool := tags.entries.isEmpty

def keys (tags : TagSet) : List String := tags.entries.keys

def toList (tags : TagSet) : List (String × String) := tags.entries.entries

/-- Set the tags one after the other. -/
def insertAll (tags : TagSet) (entries : List (String × String)) : TagSet :=
  entries.foldl (fun tags e => tags.insert e.1 e.2) tags

def ofList (entries : List (String × String)) : TagSet := insertAll ∅ entries

@[simp] theorem get?_insert_self (tags : TagSet) (key value : String) :
    (tags.insert key value).get? key = some value :=
  StringMap.get?_insert_self tags.entries key value

theorem get?_insert_of_ne (tags : TagSet) {key other : String} (h : other ≠ key) (value : String) :
    (tags.insert key value).get? other = tags.get? other :=
  StringMap.get?_insert_of_ne tags.entries h value

theorem get?_erase (tags : TagSet) (key other : String) :
    (tags.erase key).get? other = if other = key then none else tags.get? other :=
  StringMap.get?_erase tags.entries key other

/-- The mapping that is written back onto resources. -/
def toJson (tags : TagSet) : Json := .object (tags.entries.map .string)

end TagSet

/-- The word for the kind of a JSON value. -/
def Json.kindName : Json → String
  | .null => "null"
  | .bool _ => "boolean"
  | .number _ => "number"
  | .string _ => "string"
  | .array _ => "array"
  | .object _ => "object"

/-- The text of a tag's value. -/
def scalarText (key : String) : Json → Except TagError String
  | .string text => .ok text
  | .null => .ok ""
  | .bool value => .ok (if value then "true" else "false")
  | .number value => .ok (String.ofList (Json.numberText value))
  | .array _ => .error (.nonScalarValue key)
  | .object _ => .error (.nonScalarValue key)

/-- The key and the text of a tag. -/
def scalarTag (key : String) (value : Json) : Except TagError (String × String) :=
  (scalarText key value).map fun text => (key, text)

/-- How a value spells tags. -/
inductive TagForm where
  | mapping (fields : StringMap Json)
  | list (items : List Json)
  deriving Repr, Inhabited

namespace TagForm

def ofJson : Json → Except TagError TagForm
  | .object fields => .ok (mapping fields)
  | .array items => .ok (list items)
  | other => .error (.unsupportedShape other.kindName)

def name : TagForm → String
  | mapping _ => "mapping"
  | list _ => "list"

/-- The tag that the entry at `index` of a list spells. A mapping with the fields `key` and `value`
is a record when its key is a text; any other mapping has to have one entry. -/
def entry (index : Nat) : Json → Except TagError (String × String)
  | .string pair =>
    match Text.cutAt? '=' pair.toList with
    | some (c :: key, value) => .ok (String.ofList (c :: key), String.ofList value)
    | _ => .error (.malformedEntry index ("'" ++ pair ++ "' is not of the form key=value"))
  | .object fields =>
    match fields.get? "key", fields.get? "value" with
    | some (.string key), some value => scalarTag key value
    | _, _ =>
      match fields.entries with
      | [(key, value)] => scalarTag key value
      | entries => .error (.malformedEntry index
          ("mapping entry has " ++ Nat.repr entries.length ++ " keys, expected 1"))
  | other => .error (.malformedEntry index ("unexpected " ++ other.kindName))

/-- The tags in their order. -/
def tags : TagForm → Except TagError (List (String × String))
  | mapping fields => fields.entries.mapM fun e => scalarTag e.1 e.2
  | list items => items.zipIdx.mapM fun (item, index) => entry index item

/-- The tag set; the last of several tags with one key wins. -/
def normalize (form : TagForm) : Except TagError TagSet := form.tags.map TagSet.ofList

end TagForm

/-- The tag set that a value spells. -/
def TagSet.ofJson (j : Json) : Except TagError TagSet := do (← TagForm.ofJson j).normalize

end CloudPolicy
