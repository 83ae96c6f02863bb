import CloudPolicy.Json.Record

/-! When a policy runs: on demand over all resources, or on events over the resources that an event
touched. -/

namespace CloudPolicy

/-- The mode of a policy. -/
inductive Mode where
  /-- Runs on demand. -/
  | pull
  /-- Runs on the named events, or on every event when none is named. -/
  | trail (events : List String)
  deriving DecidableEq, Repr, Inhabited

namespace Mode

def name : Mode → String
  | pull => "pull"
  | trail _ => "cloudtrace"

def isEventDriven : Mode → Bool
  | pull => false
  | trail _ => true

/-- An event of this name triggers the policy. -/
def accepts (eventName : Option String) : Mode → Bool
  | pull => false
  | trail events => events.isEmpty || eventName.any (· ∈ events)

def toJson : Mode → Json
  | pull => .obj [("type", .string "pull")]
  | trail events => .obj [("type", .string "cloudtrace"), ("events", .strings events)]

/-- A mode is an object with a field `type`, or an array that starts with its type. -/
def ofJson? : Json → Option Mode
  | .object fields => do
    match ← Json.required? fields "type" Json.string? with
    | "pull" => some pull
    | "cloudtrace" => (Json.defaulted? fields "events" (Json.listOf? Json.string?) []).map trail
    | _ => none
  | .array [.string "pull"] => some pull
  | .array [.string "cloudtrace"] => some (trail [])
  | .array [.string "cloudtrace", events] => (Json.listOf? Json.string? events).map trail
  | _ => none

end Mode

end CloudPolicy
