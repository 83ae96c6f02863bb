import CloudPolicy.Cloud.Functions
import CloudPolicy.Json.Printer

/-! The notification service: topics with their log bindings and access policies, and publishing. -/

namespace CloudPolicy

/-- What is published. -/
inductive MessageBody where
  | text (content : String)
  /-- A document with one message per protocol. -/
  | document (content : String)
  /-- A stored template and its variables. -/
  | template (name : String) (values : StringMap Json)
  deriving Repr, Inhabited

namespace MessageBody

def message : MessageBody → String
  | text content => content
  | document content => content
  | template _ values => (Json.object values).text

def templateName? : MessageBody → Option String
  | template name _ => some name
  | _ => none

def isDocument : MessageBody → Bool
  | document _ => true
  | _ => false

end MessageBody

namespace Cloud

/-- Publish to a topic. The result is the identifier of the message. -/
def publish (topic : String) (subject : Option String) (body : MessageBody) : CloudM String := do
  enter "smn" "publish" topic
  let messageId := "msg-" ++ fourDigits ((← get).published.length + 1)
  let message : PublishedMessage :=
    ⟨topic, subject, body.message, messageId, body.templateName?, body.isDocument⟩
  modify fun cloud => { cloud with published := cloud.published ++ [message] }
  return messageId

def deleteTopic (topic : String) : CloudM Unit :=
  remove "smn" "delete_topic" .topic "topic_urn" topic

def logtanksOf (cloud : Cloud) (topic : String) : List Json := (cloud.logtanks.get? topic).getD []

def listLogtanks (topic : String) : CloudM (List Json) := do
  enter "smn" "list_logtanks" topic
  return (← get).logtanksOf topic

/-- Bind a topic to a log stream. Bindings are numbered by their count. -/
def createLogtank (topic group stream : String) : CloudM Unit := do
  enter "smn" "create_logtank" topic
  let bound := (← get).logtanksOf topic
  let logtank : Json := .obj [("id", .string ("lts-" ++ Nat.repr (bound.length + 1))),
    ("log_group_id", .string group), ("log_stream_id", .string stream)]
  modify fun cloud => { cloud with logtanks := cloud.logtanks.insert topic (bound ++ [logtank]) }

/-- The binding has this identifier. -/
def isLogtank (id : String) (logtank : Json) : Bool := logtank.stringField? "id" = some id

/-- Remove the bindings of a topic with an identifier; there has to be one. A topic without bindings
is given an empty list of them before that is known. -/
def deleteLogtank (topic id : String) : CloudM Unit := do
  enter "smn" "delete_logtank" topic
  let bound := (← get).logtanksOf topic
  let left := bound.filter fun logtank => !isLogtank id logtank
  modify fun cloud => { cloud with logtanks := cloud.logtanks.insert topic left }
  if left.length = bound.length then throw (notFound "smn" "delete_logtank" id)

/-- The text of a topic's access policy, if it has one. -/
def accessPolicy (topic : String) : CloudM (Option String) := do
  enter "smn" "access_policy" topic
  return (← get).accessPolicies.get? topic

/-- Set the access policy of a topic, or clear it. -/
def updateAccessPolicy (topic : String) (policy : Option String) : CloudM Unit := do
  enter "smn" "update_access_policy" topic
  modify fun cloud => { cloud with accessPolicies :=
    match policy with
    | some text => cloud.accessPolicies.insert topic text
    | none => cloud.accessPolicies.erase topic }

def deleteTopicAttributes (topic : String) : CloudM Unit := do
  enter "smn" "delete_topic_attributes" topic
  modify fun cloud => { cloud with accessPolicies := cloud.accessPolicies.erase topic }

end Cloud

end CloudPolicy
