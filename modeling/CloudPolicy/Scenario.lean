import CloudPolicy.Cloud.Samples
import CloudPolicy.Run.Transcript

/-! Scenarios: policies that run against a sample cloud, with a summary of what they did and a check
of the ledger at the end. -/

namespace CloudPolicy

/-- A sample cloud, policies for it, and the event that they run on. -/
structure Scenario where
  name : String
  title : List String
  cloud : Cloud
  event : Option Event := none
  document : PolicyDocument

/-- What a scenario leaves. -/
structure Played where
  outcomes : List RunOutcome
  world : World

namespace Played

/-- The outcome of a policy. -/
def outcome? (played : Played) (policy : String) : Option RunOutcome :=
  played.outcomes.find? fun outcome => outcome.policy = policy

end Played

namespace Scenario

/-- The last line of a summary. -/
def verdict (hash : HashFunction) (ledger : Ledger) : Shown Unit :=
  match ledger.verify hash with
  | none =>
    let count := ledger.entries.length
    Shown.line ("  Ledger:   VERIFIED (" ++ toString count
      ++ (if count = 1 then " entry)" else " entries)"))
  | some sequence =>
    throw (.auditWrite ("ledger chain broken at entry " ++ toString sequence))

/-- Compile a document and run every policy of it once, with an empty ledger. -/
def execute (hash : HashFunction) (now : Timestamp) (settings : Settings) (cloud : Cloud)
    (event : Option Event) (document : PolicyDocument) : Shown Played := do
  let policies ← Policy.ofDocument settings document
  let ((outcomes, failure), world) :=
    (Policy.runAll (AuditSink.ledger hash) settings now event policies).run ⟨cloud, {}⟩
  Shown.lines (outcomes.flatMap RunOutcome.summary)
  Shown.failWith failure
  verdict hash world.ledger
  Shown.line ""
  return { outcomes, world }

/-- Show the title and run the policies. -/
def play (hash : HashFunction) (now : Timestamp) (scenario : Scenario) : Shown Played := do
  Shown.lines scenario.title
  execute hash now {} scenario.cloud scenario.event scenario.document

/-! ### The scenarios -/

/-- An option block. -/
def block (type : String) (options : List (String × Json)) : Json :=
  .obj (("type", .string type) :: options)

def alertTopic : Json := .strings ["urn:smn:cn-north-4:0a1b2c:sec-alerts"]

/-- A new function is attributed to the user who created it. -/
def ownerTagging : Scenario where
  name := "owner-tagging"
  title := ["=== Scenario: Owner tagging (auto-tag-user) ===",
    "  Event:    CreateFunction by IAMUser alice on fn-fresh", ""]
  cloud := Sample.networkCloud
  event := some (Sample.userEvent "alice" "CreateFunction" ["fn-fresh"])
  document := ⟨[
    { name := "function-owner"
      resource := "functiongraph"
      mode := .trail ["CreateFunction"]
      description := some "Tag new functions with their creator"
      filters := [.obj [("tag:Owner", .string "absent")]]
      actions := [block "auto-tag-user"
        [("tag", .string "Owner"), ("principal_id_tag", .string "OwnerId")]] }]⟩

/-- Functions are found whose subnet and security groups disagree on the environment. -/
def networkDrift : Scenario where
  name := "network-drift"
  title := ["=== Scenario: Network drift (network-location) ===",
    "  Key:      tag:Env across function, subnet and security groups", ""]
  cloud := Sample.networkCloud
  document := ⟨[
    { name := "function-network-drift"
      resource := "functiongraph"
      filters := [
        .obj [("func_vpc", .string "present")],
        block "network-location" [("key", .string "tag:Env"),
          ("ignore", .array [.obj [("tag:Team", .string "Infra")]])]]
      actions := [
        block "tag" [("key", .string "NetworkDrift"), ("value", .string "true")],
        block "notify-message" [("topic_urn_list", alertTopic),
          ("subject", .string "Network drift"),
          ("message",
            .string "Inconsistent network location: \x7bresource_details\x7d")]] }]⟩

/-- Load balancers without access log lose their public addresses, and get an access log that is
archived. -/
def balancerHygiene : Scenario where
  name := "elb-hygiene"
  title := [
    "=== Scenario: ELB hygiene (is-not-logging, unbind-publicips, enable-logging) ===", ""]
  cloud := Sample.balancerCloud
  document := ⟨[
    { name := "unlogged-public-lbs"
      resource := "elb-loadbalancer"
      filters := [.string "is-not-logging",
        block "publicip-count" [("op", .string "gt"), ("count", .nat 0)]]
      actions := [
        block "tag" [("tags", .obj [("Compliance", .string "no-access-log")])],
        .string "unbind-publicips"] },
    { name := "edge-listeners"
      resource := "elb-listener"
      filters := [.obj [("protocol", .string "HTTP")]]
      actions := [block "delete" [("loadbalancers", .strings ["lb-edge"])]] },
    { name := "enable-access-logs"
      resource := "elb-loadbalancer"
      filters := [.string "is-not-logging"]
      actions := [block "enable-logging" [("log_group_name", .string "elb-access"),
        ("log_topic_name", .string "edge-access")]] },
    { name := "archive-access-logs"
      resource := "elb-loadbalancer"
      filters := [.string "is-logging", .string "is-not-lts-log-transfer"]
      actions := [block "create-lts-log-transfer"
        [("obs_bucket_name", .string "elb-log-archive")]] }]⟩

/-- Topics to which any account may publish are reported, tagged and closed. -/
def topicExposure : Scenario where
  name := "topic-exposure"
  title := ["=== Scenario: Topic exposure (topic-access, topic-lts) ===", ""]
  cloud := Sample.topicCloud
  document := ⟨[
    { name := "public-topics"
      resource := "smn-topic"
      filters := [block "topic-access" [("user", .string "*")]]
      actions := [
        block "notify-message" [("topic_urn_list", alertTopic),
          ("message", .string "Publicly writable topics: \x7bresource_details\x7d")],
        block "tag" [("key", .string "Exposure"), ("value", .string "public")],
        .string "delete-allow-all-user-access"] },
    { name := "unlogged-topics"
      resource := "smn-topic"
      filters := [block "topic-lts" [("enabled", .bool false)]] }]⟩

def all : List Scenario := [ownerTagging, networkDrift, balancerHygiene, topicExposure]

def ofName? (name : String) : Option Scenario := all.find? fun scenario => scenario.name = name

end Scenario

end CloudPolicy
