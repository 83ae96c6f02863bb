import CloudPolicy.Resource.Tags

/-! What one invocation of an action did. -/

namespace CloudPolicy

/-- A resource that an action could not handle, and why. -/
structure FailedResource where
  id : String
  reason : String
  deriving DecidableEq, Repr, Inhabited

namespace FailedResource

def ofJson? (j : Json) : Option FailedResource := do
  let fields ← j.openRecord? ["id", "reason"]
  let id ← Json.required? fields "id" Json.string?
  let reason ← Json.required? fields "reason" Json.string?
  some { id, reason }

/-- The fields in the order of their declaration. -/
def fields (failure : FailedResource) : List (String × Json) :=
  [("id", .string failure.id), ("reason", .string failure.reason)]

def toJson (failure : FailedResource) : Json := .obj failure.fields

end FailedResource

/-- The report of an action: the resources that it handled, those that it could not handle, and the
tags that it wrote. -/
structure Report where
  action : String
  succeeded : List String := []
  failed : List FailedResource := []
  tags : TagSet := ∅
  deriving DecidableEq, Inhabited

namespace Report

def success (report : Report) (id : String) : Report :=
  { report with succeeded := report.succeeded ++ [id] }

def failure (report : Report) (id reason : String) : Report :=
  { report with failed := report.failed ++ [⟨id, reason⟩] }

/-- Add the results of another report and keep the action's name. -/
def merge (report other : Report) : Report :=
  { report with
    succeeded := report.succeeded ++ other.succeeded
    failed := report.failed ++ other.failed
    tags := report.tags.insertAll other.tags.toList }

def isEmpty (report : Report) : Bool := report.succeeded.isEmpty && report.failed.isEmpty

/-- Nothing failed. -/
def isClean (report : Report) : Bool := report.failed.isEmpty

/-- A mapping from keys to texts. -/
def tagsOfJson? (j : Json) : Option TagSet :=
  (Json.mapOf? Json.string? j).map fun fields => TagSet.ofList fields.entries

def fieldNames : List String := ["action", "succeeded", "failed", "tags"]

def ofJson? (j : Json) : Option Report := do
  let fields ← j.openRecord? fieldNames
  let action ← Json.required? fields "action" Json.string?
  let succeeded ← Json.required? fields "succeeded" (Json.listOf? Json.string?)
  let failed ← Json.required? fields "failed" (Json.listOf? FailedResource.ofJson?)
  let tags ← Json.defaulted? fields "tags" tagsOfJson? ∅
  some { action, succeeded, failed, tags }

/-- The fields of a written report, the tags only when there are any. -/
def toJson (report : Report) : Json :=
  .obj ([("action", .string report.action), ("succeeded", .strings report.succeeded),
    ("failed", .array (report.failed.map FailedResource.toJson))]
    ++ if report.tags.isEmpty then [] else [("tags", report.tags.toJson)])

end Report

end CloudPolicy
