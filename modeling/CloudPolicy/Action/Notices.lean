import CloudPolicy.Action.Tagging
import CloudPolicy.Cloud.Topics
import CloudPolicy.Resource.Path

/-! Actions that publish one message about all resources: notices as text, document or template, and
alarms with a line per resource. -/

namespace CloudPolicy.Action

open BlockSchema

/-! ### Publishing -/

/-- Publish to one topic after the other. -/
def publishAll (subject : Option String) (body : MessageBody) : List String → CloudM Unit
  | [] => return
  | topic :: topics => do
    let _ ← Cloud.publish topic subject body
    publishAll subject body topics

/-- Publish once for all resources and report each of them. Nothing is published about no
resources. -/
def publishing (name : String) (topics : List String) (subject : Option String)
    (body : RunContext → List Resource → MessageBody) : Action where
  name := name
  process := fun context resources => do
    if resources.isEmpty then return { action := name }
    publishAll subject (body context resources) topics
    return { action := name, succeeded := resources.map (·.id) }

/-- The topics of a block; there has to be one. -/
def topicsOf (name : String) (block : Json) (context : BuildContext) :
    Except Error (List String) :=
  match block.textsOption "topic_urn_list" with
  | [] => context.reject (name ++ " requires at least one topic URN")
  | topics => .ok topics

/-! ### Notices -/

def detailsPlaceholder : String := "\x7bresource_details\x7d"

/-- The type and the identifiers of the resources. -/
def resourceDetails (type : ResourceType) (resources : List Resource) : String :=
  type.name ++ ":" ++ Text.join "," (resources.map (·.id))

def expand (type : ResourceType) (resources : List Resource) (text : String) : String :=
  Text.replaceAll detailsPlaceholder (resourceDetails type resources) text

def noticeSchema : Json :=
  ofType "notify-message" [("topic_urn_list", someTexts), ("subject", text), ("message", text)]
    ["topic_urn_list", "message"]

def buildNotice (block : Json) (context : BuildContext) : Except Error Action := do
  let topics ← topicsOf "notify-message" block context
  let message ← context.require (block.textOption? "message") "notify-message requires 'message'"
  return publishing "notify-message" topics (block.textOption? "subject") fun context resources =>
    .text (expand context.resourceType resources message)

def structureSchema : Json :=
  ofType "notify-message-structure" [("topic_urn_list", someTexts), ("subject", text),
    ("message_structure", text)] ["topic_urn_list", "message_structure"]

def buildStructure (block : Json) (context : BuildContext) : Except Error Action := do
  let topics ← topicsOf "notify-message-structure" block context
  let document ← context.require (block.textOption? "message_structure")
    "notify-message-structure requires 'message_structure'"
  return publishing "notify-message-structure" topics (block.textOption? "subject")
    fun context resources => .document (expand context.resourceType resources document)

def templateSchema : Json :=
  ofType "notify-message-template" [("topic_urn_list", someTexts), ("subject", text),
    ("message_template_name", text), ("message_template_variables", typed "object")]
    ["topic_urn_list", "message_template_name"]

/-- Placeholders are filled in where the value of a variable is a text. -/
def expandVariable (type : ResourceType) (resources : List Resource) : Json → Json
  | .string text => .string (expand type resources text)
  | other => other

def buildTemplate (block : Json) (context : BuildContext) : Except Error Action := do
  let topics ← topicsOf "notify-message-template" block context
  let template ← context.require (block.someTextOption? "message_template_name")
    "notify-message-template requires 'message_template_name'"
  let values := ((block.field? "message_template_variables").bind Json.object?).getD ∅
  return publishing "notify-message-template" topics (block.textOption? "subject")
    fun context resources =>
      .template template (values.map (expandVariable context.resourceType resources))

/-! ### Alarms -/

/-- An alarm: its name, what it says unless the block says otherwise, and the fields of its line for
a resource, each with its label and its key. -/
structure AlarmForm where
  name : String
  subject : String
  message : String
  fields : List (String × String)
  deriving DecidableEq, Repr, Inhabited

namespace AlarmForm

def patch (name : String) : AlarmForm where
  name := name
  subject := "Patch Security Non-Compliance Alert"
  message :=
    "Incompliant patches are detected on the following hosts, Repair the patches in time."
  fields := [("ecs_name", "name"), ("ecs_instance_id", "instance_id"), ("region", "region"),
    ("non_compliant_count", "non_compliant_summary.non_compliant_count")]

def script (name : String) : AlarmForm where
  name := name
  subject := "Script Security Non-Compliance Alert"
  message := "The following script has been found to lack an assigned reviewer, "
    ++ "which constitutes a security non-compliance. Please promptly assign a reviewer."
  fields := [("script_id", "script_uuid"), ("script_name", "name"), ("operator", "operator"),
    ("risk_level", "properties.risk_level")]

/-- The line for a resource. -/
def line (form : AlarmForm) (r : Resource) : String :=
  Text.join ", " (form.fields.map fun (label, key) => label ++ ": " ++ (r.resolveText? key).getD "")

def body (form : AlarmForm) (message : String) (resources : List Resource) : String :=
  Text.join "\n" (message :: resources.map form.line)

end AlarmForm

def alarmSchema (name : String) : Json :=
  ofType name [("topic_urn_list", someTexts), ("subject", text), ("message", text)]
    ["topic_urn_list"]

def buildAlarm (form : AlarmForm) (block : Json) (context : BuildContext) :
    Except Error Action := do
  let topics ← topicsOf form.name block context
  let message := (block.textOption? "message").getD form.message
  return publishing form.name topics (some ((block.textOption? "subject").getD form.subject))
    fun _ resources => .text (form.body message resources)

end CloudPolicy.Action
