import CloudPolicy.Ledger.Chain

/-! The remediation ledger: an append-only chain of run records, and the runs that are sealed. -/

namespace CloudPolicy

/-- A ledger. It keeps the hash of its last entry. -/
structure Ledger where
  entries : List LedgerEntry := []
  lastHash : String := Chain.genesis
  sealedRuns : List RunId := []
  deriving Inhabited

/-- A copy of a ledger, made at an instant. -/
structure Snapshot where
  entries : List LedgerEntry
  sealedRuns : List RunId
  exportedAt : Timestamp
  terminalHash : String
  deriving DecidableEq, Inhabited

namespace Ledger

/-- The entry that a record would become. -/
def nextEntry (hash : HashFunction) (ledger : Ledger) (record : RunRecord) : LedgerEntry where
  sequence := ledger.entries.length
  record := record
  prevHash := ledger.lastHash
  thisHash := Chain.entryHash hash ledger.entries.length record ledger.lastHash

def write (hash : HashFunction) (ledger : Ledger) (record : RunRecord) : Ledger :=
  let entry := nextEntry hash ledger record
  { ledger with entries := ledger.entries ++ [entry], lastHash := entry.thisHash }

/-- Mark a run as complete; a run is sealed once. -/
def finalize (ledger : Ledger) (run : RunId) : Except Error Ledger :=
  if run ∈ ledger.sealedRuns then
    .error (.auditWrite ("run " ++ run.text ++ " is already sealed"))
  else .ok { ledger with sealedRuns := ledger.sealedRuns ++ [run] }

/-- The first entry that breaks the chain. -/
def verify (hash : HashFunction) (ledger : Ledger) : Option Nat :=
  Chain.firstBreak hash ledger.entries

/-- An identifier for the next run. Every run that leaves a trace makes the count of entries and
sealed runs larger, so no run that was numbered like this has the same one. -/
def freshRun (ledger : Ledger) : RunId := .ofNat (ledger.entries.length + ledger.sealedRuns.length)

/-- A copy of the ledger; an empty ledger has an empty terminal hash. -/
def snapshot (ledger : Ledger) (now : Timestamp) : Snapshot where
  entries := ledger.entries
  sealedRuns := ledger.sealedRuns
  exportedAt := now
  terminalHash := (ledger.entries.getLast?.map (·.thisHash)).getD ""

end Ledger

namespace Snapshot

/-- The entries of one run. -/
def ofRun (snapshot : Snapshot) (run : RunId) : List LedgerEntry :=
  snapshot.entries.filter fun entry => entry.record.runId = run

def fieldNames : List String := ["entries", "sealed_runs", "exported_at", "terminal_hash"]

def ofJson? (j : Json) : Option Snapshot := do
  let fields ← j.openRecord? fieldNames
  let entries ← Json.required? fields "entries" (Json.listOf? LedgerEntry.ofJson?)
  let sealedRuns ← Json.required? fields "sealed_runs" (Json.listOf? RunId.ofJson?)
  let exportedAt ← Json.required? fields "exported_at" Timestamp.ofJson?
  let terminalHash ← Json.required? fields "terminal_hash" Json.string?
  some { entries, sealedRuns, exportedAt, terminalHash }

def toJson (snapshot : Snapshot) : Json :=
  .obj [("entries", .array (snapshot.entries.map LedgerEntry.toJson)),
    ("sealed_runs", .strings (snapshot.sealedRuns.map RunId.text)),
    ("exported_at", .string snapshot.exportedAt.text),
    ("terminal_hash", .string snapshot.terminalHash)]

/-- The snapshot with its fields in the order of their declaration, as it is written to a text. -/
def canonical (snapshot : Snapshot) : Json :=
  .object ⟨[("entries", .array (snapshot.entries.map LedgerEntry.canonical)),
    ("sealed_runs", .strings (snapshot.sealedRuns.map RunId.text)),
    ("exported_at", .string snapshot.exportedAt.text),
    ("terminal_hash", .string snapshot.terminalHash)]⟩

end Snapshot

end CloudPolicy
