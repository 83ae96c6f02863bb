import CloudPolicy.Action.Basic
import CloudPolicy.Cloud.Records
import CloudPolicy.Schema.Build

/-! Writing tags to batches of resources, and the actions that set and remove tags. -/

namespace CloudPolicy

/-- What is written to the tags of every resource of a batch. -/
inductive TagWrite where
  | create (tags : TagSet)
  | delete (keys : List String)

namespace TagWrite

/-- How many tags one call carries. -/
def size : TagWrite → Nat
  | create tags => tags.size
  | delete keys => keys.length

/-- One call of the tag service. -/
def call (tagTypeName : String) (ids : List String) : TagWrite → CloudM (List FailedResource)
  | create tags => Cloud.createTags tagTypeName ids tags
  | delete keys => Cloud.deleteTags tagTypeName ids keys

/-- The tags that a report names. -/
def written : TagWrite → TagSet
  | create tags => tags
  | delete _ => ∅

end TagWrite

namespace Action

/-- Cut a list into pieces of `n` elements, the last one perhaps shorter; `fuel` bounds their
number. -/
def chunks {α : Type} (n : Nat) : (fuel : Nat) → List α → List (List α)
  | 0, _ => []
  | _ + 1, [] => []
  | fuel + 1, x :: xs => (x :: xs).take n :: chunks n fuel ((x :: xs).drop n)

/-- Report a batch: the resources that the service rejected, and all others as handled. -/
def reportBatch (report : Report) (failed : List FailedResource) (batch : List String) : Report :=
  batch.foldl (fun report id =>
    match failed.find? (·.id = id) with
    | some failure => report.failure id failure.reason
    | none => report.success id) report

/-- Write to one batch after the other. -/
def writeBatches (tagTypeName : String) (write : TagWrite) (report : Report) :
    List (List String) → CloudM Report
  | [] => return report
  | batch :: batches => do
    let failed ← write.call tagTypeName batch
    writeBatches tagTypeName write (reportBatch report failed batch) batches

/-- The error of a write that carries too many tags. -/
def tooManyTags (action : String) (count limit : Nat) : Error :=
  .execution (action ++ ": " ++ Nat.repr count ++ " tags exceed the limit of " ++ Nat.repr limit
    ++ " per call")

/-- Write to the tags of resources, a batch per call. Types without tags are left alone. The report
names the tags when they were written to some resource. -/
def writeTags (context : RunContext) (action : String) (ids : List String) (write : TagWrite) :
    CloudM Report := do
  if context.settings.maxTagsPerCall < write.size then
    throw (tooManyTags action write.size context.settings.maxTagsPerCall)
  match context.resourceType.tagServiceName? with
  | none => return { action }
  | some tagTypeName =>
    if ids.isEmpty || write.size = 0 then return { action }
    let batches := chunks (max context.settings.tagBatchSize 1) ids.length ids
    let report ← writeBatches tagTypeName write { action } batches
    return if report.succeeded.isEmpty then report else { report with tags := write.written }

/-- An action that writes the same tags to all resources. -/
def ofWrite (name : String) (write : TagWrite) : Action where
  name := name
  process := fun context resources => writeTags context name (resources.map (·.id)) write

open BlockSchema

/-! ### Setting tags -/

def tagSchema (name : String) : Json :=
  ofType name [("key", text), ("tag", text), ("value", text),
    ("tags", .obj [("type", .string "object"), ("additionalProperties", text)])] []

/-- The tags of a mapping, without the values that are no texts. -/
def textEntries (mapping : Option (StringMap Json)) : List (String × String) :=
  ((mapping.getD ∅).entries).filterMap fun e => e.2.string?.map fun value => (e.1, value)

/-- The tags of the field `tags`, and then the one of `key` or `tag` with a `value` that is not
empty. -/
def tagsOfBlock (block : Json) : TagSet :=
  let tags := TagSet.ofList (textEntries ((block.field? "tags").bind Json.object?))
  let key := (block.textOption? "key").or (block.textOption? "tag")
  match key, block.someTextOption? "value" with
  | some key, some value => tags.insert key value
  | _, _ => tags

def buildTag (name : String) (block : Json) (context : BuildContext) : Except Error Action :=
  let tags := tagsOfBlock block
  let limit := context.settings.maxTagsPerCall
  if tags.isEmpty then
    context.reject (name ++ " requires 'tags' or a 'key' with a non-empty 'value'")
  else if limit < tags.size then
    context.reject (name ++ " sets " ++ Nat.repr tags.size ++ " tags, at most " ++ Nat.repr limit
      ++ " are allowed")
  else .ok (ofWrite name (.create tags))

/-! ### Removing tags -/

/-- A list of texts that is not empty. -/
def someTexts : Json :=
  .obj [("type", .string "array"), ("items", text), ("minItems", .nat 1)]

def removeTagSchema (name : String) : Json := ofType name [("tags", someTexts)] ["tags"]

def buildRemoveTag (name : String) (block : Json) (context : BuildContext) : Except Error Action :=
  let keys := block.textsOption "tags"
  let limit := context.settings.maxTagsPerCall
  if keys.isEmpty then context.reject (name ++ " requires at least one key in 'tags'")
  else if limit < keys.length then
    context.reject (name ++ " removes " ++ Nat.repr keys.length ++ " tags, at most "
      ++ Nat.repr limit ++ " are allowed")
  else .ok (ofWrite name (.delete keys))

end Action

end CloudPolicy
