import CloudPolicy.Report
import CloudPolicy.Resource.Basic
import CloudPolicy.RunId
import CloudPolicy.Time.Printer
import CloudPolicy.Time.Reader

/-! Run records, which say what one action of one policy run did, and the entries of the ledger that
hold them. -/

namespace CloudPolicy

/-- One executed action of a run. -/
structure RunRecord where
  runId : RunId
  policy : String
  resourceType : ResourceType
  report : Report
  timestamp : Timestamp
  deriving DecidableEq, Inhabited

/-- An instant in the form of stored records. -/
def Timestamp.ofJson? (j : Json) : Option Timestamp :=
  j.string?.bind fun text => lenient? text.toList

def RunId.ofJson? (j : Json) : Option RunId := j.string?.bind ofText?

/-- A report with its fields in the order of their declaration. -/
def Report.canonical (report : Report) : Json :=
  .object ⟨[("action", .string report.action), ("succeeded", .strings report.succeeded),
      ("failed", .array (report.failed.map fun failure => .object ⟨failure.fields⟩))]
    ++ if report.tags.isEmpty then [] else [("tags", report.tags.toJson)]⟩

namespace RunRecord

def fieldNames : List String := ["run_id", "policy", "resource_type", "report", "timestamp"]

def ofJson? (j : Json) : Option RunRecord := do
  let fields ← j.openRecord? fieldNames
  let runId ← Json.required? fields "run_id" RunId.ofJson?
  let policy ← Json.required? fields "policy" Json.string?
  let resourceType ← Json.required? fields "resource_type" ResourceType.ofJson?
  let report ← Json.required? fields "report" Report.ofJson?
  let timestamp ← Json.required? fields "timestamp" Timestamp.ofJson?
  some { runId, policy, resourceType, report, timestamp }

def toJson (record : RunRecord) : Json :=
  .obj [("run_id", .string record.runId.text), ("policy", .string record.policy),
    ("resource_type", .string record.resourceType.name), ("report", record.report.toJson),
    ("timestamp", .string record.timestamp.text)]

/-- The record with its fields in the order of their declaration; its text is what is hashed. -/
def canonical (record : RunRecord) : Json :=
  .object ⟨[("run_id", .string record.runId.text), ("policy", .string record.policy),
    ("resource_type", .string record.resourceType.name), ("report", record.report.canonical),
    ("timestamp", .string record.timestamp.text)]⟩

end RunRecord

/-- A record in its place in the chain: the hash of the entry before it, and its own hash. -/
structure LedgerEntry where
  sequence : Nat
  record : RunRecord
  prevHash : String
  thisHash : String
  deriving DecidableEq, Inhabited

namespace LedgerEntry

def fieldNames : List String := ["sequence", "record", "prev_hash", "this_hash"]

def ofJson? (j : Json) : Option LedgerEntry := do
  let fields ← j.openRecord? fieldNames
  let sequence ← Json.required? fields "sequence" Json.nat?
  let record ← Json.required? fields "record" RunRecord.ofJson?
  let prevHash ← Json.required? fields "prev_hash" Json.string?
  let thisHash ← Json.required? fields "this_hash" Json.string?
  some { sequence, record, prevHash, thisHash }

def toJson (entry : LedgerEntry) : Json :=
  .obj [("sequence", .nat entry.sequence), ("record", entry.record.toJson),
    ("prev_hash", .string entry.prevHash), ("this_hash", .string entry.thisHash)]

/-- The entry with its fields in the order of their declaration. -/
def canonical (entry : LedgerEntry) : Json :=
  .object ⟨[("sequence", .nat entry.sequence), ("record", entry.record.canonical),
    ("prev_hash", .string entry.prevHash), ("this_hash", .string entry.thisHash)]⟩

end LedgerEntry

end CloudPolicy
