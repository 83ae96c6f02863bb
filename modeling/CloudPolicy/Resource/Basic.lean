import CloudPolicy.Error
import CloudPolicy.Json.Record

/-! Resource types and resource records. A record is what a service hands out, as JSON; what filters
find is kept beside it as annotations, so that the record itself stays as it was. -/

namespace CloudPolicy

/-- The types of resources that policies are written for. -/
inductive ResourceType where
  | loadBalancer
  | listener
  | function
  | patch
  | script
  | topic
  deriving DecidableEq, Repr, Inhabited

namespace ResourceType

def all : List ResourceType := [loadBalancer, listener, function, patch, script, topic]

/-- The name in policy documents. -/
def name : ResourceType → String
  | loadBalancer => "elb-loadbalancer"
  | listener => "elb-listener"
  | function => "functiongraph"
  | patch => "coc-patch"
  | script => "coc-script"
  | topic => "smn-topic"

/-- The name for the tag service; types without one cannot be tagged. -/
def tagServiceName? : ResourceType → Option String
  | loadBalancer => some "loadbalancers"
  | listener => some "listeners"
  | function => some "functions"
  | topic => some "smn_topic"
  | patch => none
  | script => none

def isTaggable (type : ResourceType) : Bool := type.tagServiceName?.isSome

def ofName? (name : String) : Option ResourceType := all.find? fun type => type.name = name

def ofName (name : String) : Except Error ResourceType :=
  match ofName? name with
  | some type => .ok type
  | none => .error (.policyValidation ("unknown resource type '" ++ name ++ "'"))

def ofJson? (j : Json) : Option ResourceType := (Json.variantName? j).bind ofName?

theorem ofName?_name (type : ResourceType) : ofName? type.name = some type := by
  cases type <;> rfl

end ResourceType

/-- A resource record and the annotations of filters. -/
structure Resource where
  data : StringMap Json := ∅
  annotations : StringMap Json := ∅
  deriving Repr, Inhabited

namespace Resource

/-- The resource with an object as its record; any other value gives an empty record. -/
def ofRecord : Json → Resource
  | .object fields => ⟨fields, ∅⟩
  | _ => ⟨∅, ∅⟩

def get? (r : Resource) (key : String) : Option Json := r.data.get? key

def text? (r : Resource) (key : String) : Option String := (r.get? key).bind Json.string?

/-- The text of the field `id`, or the empty text. -/
def id (r : Resource) : String := (r.text? "id").getD ""

def set (r : Resource) (key : String) (value : Json) : Resource :=
  { r with data := r.data.insert key value }

def annotate (r : Resource) (key : String) (value : Json) : Resource :=
  { r with annotations := r.annotations.insert key value }

def annotation? (r : Resource) (key : String) : Option Json := r.annotations.get? key

/-- The field that holds the annotations of a written record. -/
def annotationsField : String := "cirrus:annotations"

/-- The record, with the annotations in a field of their own when there are any. -/
def toJson (r : Resource) : Json :=
  if r.annotations.isEmpty then .object r.data
  else .object (r.data.insert annotationsField (.object r.annotations))

def ofJson? : Json → Option Resource
  | .object fields => do
    let annotations ← Json.defaulted? fields annotationsField Json.object? ∅
    some ⟨fields.erase annotationsField, annotations⟩
  | _ => none

@[simp] theorem get?_set_self (r : Resource) (key : String) (value : Json) :
    (r.set key value).get? key = some value :=
  StringMap.get?_insert_self r.data key value

theorem get?_set_of_ne (r : Resource) {key other : String} (h : other ≠ key) (value : Json) :
    (r.set key value).get? other = r.get? other :=
  StringMap.get?_insert_of_ne r.data h value

/-- A record keeps its identifier when another field is set. -/
theorem id_set_of_ne (r : Resource) {key : String} (h : "id" ≠ key) (value : Json) :
    (r.set key value).id = r.id := by
  rw [id, id, text?, text?, get?_set_of_ne r h]

end Resource

end CloudPolicy
