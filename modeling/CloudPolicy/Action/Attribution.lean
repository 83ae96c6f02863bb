import CloudPolicy.Action.Tagging
import CloudPolicy.Resource.Path

/-! Attribution: tagging the resources that an event touched with the actor behind the event. -/

namespace CloudPolicy

/-- The part of an event that supplies the value of the tag in the place of the actor's name. -/
inductive ValueSelector where
  | userName
  | sourceAddress
  | principalId
  deriving DecidableEq, Repr, Inhabited

namespace ValueSelector

def ofName? : String → Option ValueSelector
  | "userName" => some userName
  | "sourceIPAddress" => some sourceAddress
  | "principalId" => some principalId
  | _ => none

def select (event : Event) : ValueSelector → Option String
  | userName => event.user.name
  | sourceAddress => event.sourceIp
  | principalId => event.user.principalId

end ValueSelector

/-- Which resources get the tag with the actor's identifier. -/
inductive PrincipalTarget where
  /-- Those that get the first tag. -/
  | untagged
  | all
  deriving DecidableEq, Repr, Inhabited

/-- What an event says about its actor. -/
structure Attribution where
  actor : Option String
  principalId : Option String
  selected : Option String
  deriving DecidableEq, Repr, Inhabited

namespace Attribution

def nonEmpty (text : Option String) : Option String := text.filter fun text => !text.isEmpty

/-- The selected value, or else the actor's name; empty texts do not count. -/
def tagValue (a : Attribution) : Option String := (nonEmpty a.selected).or (nonEmpty a.actor)

/-- The attribution of an event whose actor is of one of the given kinds. -/
def ofEvent? (event : Event) (userTypes : List UserType) (selector : Option ValueSelector) :
    Option Attribution :=
  if event.user.knownType?.any (· ∈ userTypes) then
    some ⟨event.user.name, event.user.principalId, selector.bind (·.select event)⟩
  else none

end Attribution

/-- How events are attributed. -/
structure AttributionOptions where
  tag : String
  userTypes : List UserType := UserType.all
  /-- Overwrite values that are there already. -/
  update : Bool := false
  selector : Option ValueSelector := none
  principalTag : Option String := none
  principalTarget : PrincipalTarget := .untagged
  deriving DecidableEq, Repr, Inhabited

/-- The options of a block, for a tag. Kinds of actors that no policy knows are left out. -/
def AttributionOptions.ofBlock (tag : String) (block : Json) : AttributionOptions where
  tag := tag
  userTypes := match block.stringsField? "user-type" with
    | some names => names.filterMap UserType.ofName?
    | none => UserType.all
  update := block.boolOption "update" false
  selector := (block.textOption? "value").bind ValueSelector.ofName?
  principalTag := block.someTextOption? "principal_id_tag"
  principalTarget :=
    if block.textOption? "principal-id-target" = some "all" then .all else .untagged

namespace Action

open BlockSchema

def autoTagName : String := "auto-tag-user"

def autoTagSchema : Json :=
  ofType autoTagName [("tag", text),
    ("user-type", .obj [("type", .string "array"), ("items", oneOf (UserType.all.map (·.name)))]),
    ("update", boolean), ("value", oneOf ["userName", "sourceIPAddress", "principalId"]),
    ("principal_id_tag", text), ("principal-id-target", oneOf ["untagged", "all"])] ["tag"]

/-- The resources that lack the tag, or all of them when values are overwritten. -/
def primaryTargets (options : AttributionOptions) (resources : List Resource) : List String :=
  (if options.update then resources
    else resources.filter fun r => !r.tags.contains options.tag).map (·.id)

/-- The resources that get the tag with the actor's identifier. -/
def principalTargets (options : AttributionOptions) (resources : List Resource) : List String :=
  match options.principalTarget with
  | .untagged => primaryTargets options resources
  | .all => resources.map (·.id)

/-- A report that lists every handled resource once, and none that failed. -/
def settle (report : Report) : Report :=
  { report with succeeded := (report.succeeded.filter fun id =>
      !report.failed.any (·.id = id)).eraseDups }

/-- Write one tag, if it has a value, and add the results to a report. -/
def writeAttribution (context : RunContext) (ids : List String) (tag : Option (String × String))
    (report : Report) : CloudM Report :=
  match tag with
  | none => return report
  | some (key, value) => do
    let written ← writeTags context autoTagName ids (.create (.ofList [(key, value)]))
    return report.merge written

/-- The tag with the actor's identifier, when it is asked for and the identifier is known. -/
def principalTag? (options : AttributionOptions) (a : Attribution) : Option (String × String) := do
  let key ← options.principalTag
  let principal ← Attribution.nonEmpty a.principalId
  some (key, principal)

/-- Write the tags of an attribution: first the value, then the actor's identifier. The report names
both tags. -/
def applyAttribution (context : RunContext) (options : AttributionOptions) (a : Attribution)
    (resources : List Resource) : CloudM Report := do
  let primary := a.tagValue.map fun value => (options.tag, value)
  let principal := principalTag? options a
  let report ← writeAttribution context (primaryTargets options resources) primary
    { action := autoTagName }
  let report ← writeAttribution context (principalTargets options resources) principal report
  return { settle report with tags := .ofList (primary.toList ++ principal.toList) }

/-- Without an event, or with an actor of another kind, nothing is written. -/
def autoTag (options : AttributionOptions) : Action where
  name := autoTagName
  process := fun context resources =>
    match context.event.bind fun event =>
        Attribution.ofEvent? event options.userTypes options.selector with
    | none => return { action := autoTagName }
    | some attribution => applyAttribution context options attribution resources

def buildAutoTag (block : Json) (context : BuildContext) : Except Error Action := do
  if !context.mode.isEventDriven then
    context.reject "auto-tag-user requires an event-driven (cloudtrace) mode"
  else if (context.resourceType.action? "tag").isNone then
    context.reject "resource does not support tagging"
  else
    let tag ← context.require (block.someTextOption? "tag") "auto-tag-user requires 'tag'"
    return autoTag (.ofBlock tag block)

end Action

end CloudPolicy
