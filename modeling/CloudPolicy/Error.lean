import CloudPolicy.Json.Basic

/-! What can go wrong. The kinds tell when a problem shows: configuration problems come up before
any resource is touched, the others while a policy runs. Arithmetic on instants that leaves their
range is reported to nobody: it stops the program. -/

namespace CloudPolicy

/-- A failure of the library's operations. -/
inductive Error where
  /-- A policy that cannot run as it is written. -/
  | policyValidation (reason : String)
  /-- An option block that violates its schema. -/
  | schemaValidation (reason : String)
  /-- A settings or policy file that cannot be read. -/
  | configuration (reason : String)
  /-- A call of a cloud service that failed. -/
  | serviceCall (service operation reason : String)
  /-- An action that found nothing to work with. -/
  | execution (reason : String)
  /-- A run record that could not be kept. -/
  | auditWrite (reason : String)
  /-- A span of time or an instant that cannot be represented. -/
  | outOfRange (reason : String)
  deriving DecidableEq, Repr, Inhabited

namespace Error

def reason : Error → String
  | policyValidation reason => reason
  | schemaValidation reason => reason
  | configuration reason => reason
  | serviceCall _ _ reason => reason
  | execution reason => reason
  | auditWrite reason => reason
  | outOfRange reason => reason

def kind : Error → String
  | policyValidation _ => "PolicyValidation"
  | schemaValidation _ => "SchemaValidation"
  | configuration _ => "ConfigError"
  | serviceCall _ _ _ => "ServiceCall"
  | execution _ => "Execution"
  | auditWrite _ => "AuditWriteFailed"
  | outOfRange _ => "Panic"

def message : Error → String
  | policyValidation reason => "policy validation failed: " ++ reason
  | schemaValidation reason => "schema validation error: " ++ reason
  | configuration reason => "configuration error: " ++ reason
  | serviceCall service operation reason =>
    "service call " ++ service ++ ":" ++ operation ++ " failed: " ++ reason
  | execution reason => "policy execution error: " ++ reason
  | auditWrite reason => "audit write failed: " ++ reason
  | outOfRange reason => reason

/-- The error shows before a policy starts. -/
def isConfiguration : Error → Bool
  | policyValidation _ => true
  | schemaValidation _ => true
  | configuration _ => true
  | _ => false

/-- The error stops the program. -/
def isFatal : Error → Bool
  | outOfRange _ => true
  | _ => false

/-- The reported error of a kind with a reason, and for service calls with the service and the
operation. -/
def ofKind? (kind service operation reason : String) : Option Error :=
  match kind with
  | "PolicyValidation" => some (policyValidation reason)
  | "SchemaValidation" => some (schemaValidation reason)
  | "ConfigError" => some (configuration reason)
  | "ServiceCall" => some (serviceCall service operation reason)
  | "Execution" => some (execution reason)
  | "AuditWriteFailed" => some (auditWrite reason)
  | _ => none

theorem ofKind?_kind {e : Error} (he : e.isFatal = false) (service operation : String) :
    ∃ s o, ofKind? e.kind s o e.reason = some e := by
  cases e with
  | serviceCall s o r => exact ⟨s, o, rfl⟩
  | outOfRange reason => cases he
  | _ => exact ⟨service, operation, rfl⟩

end Error

end CloudPolicy
