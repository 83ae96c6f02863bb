import CloudPolicy.Json.Record

/-! Settings that all policies of a session share. -/

namespace CloudPolicy

/-- The settings of a session. -/
structure Settings where
  region : String := "cn-north-4"
  /-- How many look-ups run side by side. -/
  maxWorkers : Nat := 3
  /-- How many resources one call of the tag service names. -/
  tagBatchSize : Nat := 50
  /-- How many tags one call of the tag service carries. -/
  maxTagsPerCall : Nat := 10
  /-- Filters run, actions do not. -/
  dryRun : Bool := false
  deriving DecidableEq, Repr, Inhabited

namespace Settings

def fieldNames : List String :=
  ["region", "max_workers", "tag_batch_size", "max_tags_per_call", "dry_run"]

def ofJson? (j : Json) : Option Settings := do
  let fields ← j.closedRecord? fieldNames
  let region ← Json.defaulted? fields "region" Json.string? "cn-north-4"
  let maxWorkers ← Json.defaulted? fields "max_workers" Json.nat? 3
  let tagBatchSize ← Json.defaulted? fields "tag_batch_size" Json.nat? 50
  let maxTagsPerCall ← Json.defaulted? fields "max_tags_per_call" Json.nat? 10
  let dryRun ← Json.defaulted? fields "dry_run" Json.bool? false
  some { region, maxWorkers, tagBatchSize, maxTagsPerCall, dryRun }

def toJson (s : Settings) : Json :=
  .obj [("region", .string s.region), ("max_workers", .nat s.maxWorkers),
    ("tag_batch_size", .nat s.tagBatchSize), ("max_tags_per_call", .nat s.maxTagsPerCall),
    ("dry_run", .bool s.dryRun)]

end Settings

end CloudPolicy
