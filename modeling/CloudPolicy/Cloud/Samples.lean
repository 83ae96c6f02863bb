import CloudPolicy.Cloud.Fixture
import CloudPolicy.Event

/-! Sample clouds and events with made-up data, for demonstrations. -/

namespace CloudPolicy.Sample

def region : String := "cn-north-4"

def functionUrn (name : String) : String :=
  "urn:fss:" ++ region ++ ":0a1b2c:function:default:" ++ name ++ ":latest"

def topicUrn (name : String) : String := "urn:smn:" ++ region ++ ":0a1b2c:" ++ name

/-- The network of a function behind the given security groups. -/
def vpc (groups : List String) : Json :=
  .obj [("vpc_id", .string "vpc-core"), ("subnet_id", .string "sub-prod"),
    ("security_groups", .strings groups)]

/-- A production function behind the given security groups. -/
def function (name : String) (groups : List String) : Json :=
  .obj [("id", .string name), ("func_name", .string name), ("func_urn", .string (functionUrn name)),
    ("created_at", .string "2026-03-02T08:15:00Z"), ("tags", .obj [("Env", .string "prod")]),
    ("func_vpc", vpc groups)]

/-- A tag as a record. -/
def tagRecord (key value : String) : Json := .obj [("key", .string key), ("value", .string value)]

/-- Three functions over one subnet and three security groups, and a new one without network and
owner. -/
def networkCloud : Cloud :=
  ({ region := region : Cloud }
    |>.withResources .function
      [function "fn-billing" ["sg-prod"], function "fn-reports" ["sg-dev"],
        function "fn-ingest" ["sg-prod", "sg-infra"],
        .obj [("id", .string "fn-fresh"), ("func_name", .string "fn-fresh"),
          ("func_urn", .string (functionUrn "fn-fresh")),
          ("created_at", .string "2026-10-14T09:00:00Z")]]
    |>.withSubnets
      [.obj [("id", .string "sub-prod"), ("name", .string "prod-a"),
        ("tags", .obj [("Env", .string "prod")])]]
    |>.withSecurityGroups
      [.obj [("id", .string "sg-prod"), ("name", .string "prod-web"),
          ("tags", .array [tagRecord "Env" "prod"])],
        .obj [("id", .string "sg-dev"), ("name", .string "dev-web"),
          ("tags", .array [tagRecord "Env" "dev"])],
        .obj [("id", .string "sg-infra"), ("name", .string "shared-infra"),
          ("tags", .obj [("Env", .string "shared"), ("Team", .string "Infra")])]]
    |>.withFunctionConfig (functionUrn "fn-reports")
      (.obj [("timeout", .nat 30), ("handler", .string "index.handler"), ("memory_size", .nat 256),
        ("func_vpc", vpc ["sg-dev"])])
    |>.withTriggers (functionUrn "fn-billing")
      (some [.obj [("trigger_id", .string "tr-1"), ("trigger_type_code", .string "TIMER"),
        ("trigger_status", .string "ACTIVE")]]))

/-- Two load balancers, one of them without access log but with two public addresses, and their
listeners. -/
def balancerCloud : Cloud :=
  ({ region := region : Cloud }
    |>.withResources .loadBalancer
      [.obj [("id", .string "lb-edge"), ("name", .string "edge"),
          ("created_at", .string "2025-01-20T10:00:00Z"),
          ("vip_subnet_cidr_id", .string "sub-prod"),
          ("eips", .array [.obj [("eip_id", .string "eip-1"),
            ("eip_address", .string "203.0.113.7"), ("ip_version", .nat 4)]]),
          ("global_eips", .array [.obj [("global_eip_id", .string "geip-1")]]),
          ("tags", .array [])],
        .obj [("id", .string "lb-core"), ("name", .string "core"),
          ("created_at", .string "2025-06-11T10:00:00Z"), ("log_group_id", .string "lg-1"),
          ("log_topic_id", .string "lt-1"), ("eips", .array []),
          ("tags", .array [tagRecord "Owner" "platform"])]]
    |>.withResources .listener
      [.obj [("id", .string "ls-edge-80"), ("protocol", .string "HTTP"),
          ("default_pool_id", .string "pool-edge"),
          ("loadbalancers", .array [.obj [("id", .string "lb-edge")]])],
        .obj [("id", .string "ls-core-443"), ("protocol", .string "HTTPS"),
          ("loadbalancers", .array [.obj [("id", .string "lb-core")]])]]
    |>.withMembers "lb-edge" 0
    |>.withMembers "lb-core" 4
    |>.withLogGroup
      (.obj [("log_group_id", .string "lg-2"), ("log_group_name", .string "elb-access")])
      [.obj [("log_stream_id", .string "lt-2"), ("log_stream_name", .string "edge-access")]])

def topic (name : String) : Json :=
  .obj [("id", .string name), ("name", .string name), ("topic_urn", .string (topicUrn name))]

/-- An access policy that lets one principal publish. -/
def publishPolicy (principal : Json) : Json :=
  .obj [("Version", .string "2016-09-07"),
    ("Statement", .array [.obj [("Effect", .string "Allow"), ("Principal", principal),
      ("Action", .strings ["SMN:Publish"])]])]

/-- A topic that is open to every account, one that is open to a service, and one for alerts. -/
def topicCloud : Cloud :=
  ({ region := region : Cloud }
    |>.withResources .topic [topic "orders", topic "audit-feed", topic "sec-alerts"]
    |>.withAccessPolicy (topicUrn "orders") (publishPolicy (.obj [("CSP", .strings ["*"])]))
    |>.withAccessPolicy (topicUrn "audit-feed")
      (publishPolicy (.obj [("Service", .strings ["obs"])]))
    |>.withLogtanks (topicUrn "audit-feed")
      [.obj [("id", .string "lts-1"), ("log_group_id", .string "lg-9")]])

/-- A sample cloud by its name. -/
def cloud? : String → Option Cloud
  | "network" => some networkCloud
  | "elb" => some balancerCloud
  | "topic" => some topicCloud
  | _ => none

/-- An event by a user. -/
def userEvent (user eventName : String) (resourceIds : List String) : Event where
  user := { userType := "IAMUser", name := some user, principalId := some (user ++ "-principal") }
  sourceIp := some "198.51.100.23"
  eventName := some eventName
  resourceIds := resourceIds

end CloudPolicy.Sample
