import CloudPolicy.Number.Reader
import CloudPolicy.Resource.Basic
import CloudPolicy.Resource.Tags

/-! Looking values up in a resource by a key: a dotted path into the record, or `tag:` and the key
of a tag. -/

namespace CloudPolicy

/-- The number fits an array index: decimal digits, with an optional plus sign, below 2^64. -/
def indexOf? (segment : String) : Option Nat := Number.word? 64 segment.toList

namespace Json

/-- One step of a path: the field of an object, or the item of an array. -/
def step? (segment : String) : Json → Option Json
  | object fields => fields.get? segment
  | array items => (indexOf? segment).bind fun index => items[index]?
  | _ => none

/-- Nothing in the place of null. -/
def present? : Json → Option Json
  | null => none
  | value => some value

/-- The text for comparisons: a text is taken as it is, any other value as its JSON text. -/
def render : Json → String
  | string text => text
  | other => other.text

/-- Null, false, zero and whatever is empty are not truthy. -/
def isTruthy : Json → Bool
  | null => false
  | bool value => value
  | number value => !value.toFloat.isZero
  | string text => !text.isEmpty
  | array items => !items.isEmpty
  | object fields => !fields.isEmpty

end Json

namespace Resource

/-- The tags of a resource. Missing tags and tags that cannot be read are no tags. -/
def tags (r : Resource) : TagSet :=
  match r.get? "tags" with
  | none => ∅
  | some .null => ∅
  | some value =>
    match TagSet.ofJson value with
    | .ok tags => tags
    | .error _ => ∅

/-- Follow a path from a record's field. -/
def walk? (r : Resource) : List String → Option Json
  | [] => none
  | first :: segments => (r.get? first).bind fun value =>
    segments.foldlM (fun value segment => value.step? segment) value

/-- The segments of a dotted key. -/
def segments (key : String) : List String := (Text.splitAll '.' key.toList).map String.ofList

/-- The value under a key; null counts as no value. -/
def resolve? (r : Resource) (key : String) : Option Json :=
  match Text.dropFront? "tag:".toList key.toList with
  | some tag => (r.tags.get? (String.ofList tag)).map .string
  | none => (r.walk? (segments key)).bind Json.present?

def resolveText? (r : Resource) (key : String) : Option String := (r.resolve? key).map Json.render

/-- The texts under a key that holds a text or a list of texts, without the empty ones. -/
def textList (r : Resource) (key : String) : List String :=
  match r.resolve? key with
  | some (.string text) => if text.isEmpty then [] else [text]
  | some (.array items) => (items.filterMap Json.string?).filter fun text => !text.isEmpty
  | _ => []

end Resource

end CloudPolicy
