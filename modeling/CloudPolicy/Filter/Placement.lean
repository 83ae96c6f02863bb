import CloudPolicy.Filter.Attached
import CloudPolicy.Placement.Evaluation

/-! The filter on network placement. -/

namespace CloudPolicy.Filter

open BlockSchema

def placementSchema : Json :=
  ofType "network-location" [("missing-ok", boolean), ("match", oneOf ["equal", "not-equal", "in"]),
    ("compare", .obj [("type", .string "array"),
      ("items", oneOf ["resource", "subnet", "security-group"])]),
    ("key", text),
    ("max-cardinality", .obj [("type", .string "integer"), ("minimum", .nat 0)]),
    ("ignore", .obj [("type", .string "array"), ("items", typed "object")]),
    ("value", textList)] ["key"]

/-- How a block asks for placements to be matched. -/
def placementMatch (block : Json) (context : BuildContext) : Except Error PlacementMatch :=
  match (block.textOption? "match").getD "not-equal" with
  | "equal" => .ok .equal
  | "not-equal" => .ok .notEqual
  | "in" => .ok .within
  | other => context.reject ("unknown network-location match '" ++ other ++ "'")

/-- The pairs of a key and a value of an entry to ignore. -/
def ignoredPairs : Json → Option (List (String × String))
  | .object fields => some (fields.entries.map fun e => (e.1, e.2.render))
  | _ => none

def placementOptions (block : Json) (context : BuildContext) : Except Error PlacementOptions := do
  let key ← context.require (block.textOption? "key") "network-location requires 'key'"
  let targets := block.stringsField? "compare"
  let compares (target : String) : Bool := targets.all (target ∈ ·)
  let mode ← placementMatch block context
  return {
    key, mode
    compareResource := compares "resource"
    compareSubnets := compares "subnet"
    compareGroups := compares "security-group"
    maxCardinality := ((block.field? "max-cardinality").bind Json.nat?).getD 1
    missingOk := block.boolOption "missing-ok" false
    ignored := (((block.field? "ignore").bind Json.array?).getD []).filterMap ignoredPairs
    allowed := block.textsOption "value" }

/-- The annotation with the findings of a kept resource. -/
def placementAnnotation : String := "network-location"

/-- Keep a resource, with its findings when those are asked for. -/
def keepPlacement (options : PlacementOptions) (r : Resource) (subnets groups : List Resource) :
    Option Resource :=
  match options.mode with
  | .within => if options.isWithinAllowed r subnets groups then some r else none
  | .equal => if (options.evaluate r subnets groups).isEmpty then some r else none
  | .notEqual =>
    match options.evaluate r subnets groups with
    | [] => none
    | findings =>
      some (r.annotate placementAnnotation (.array (findings.map LocationFinding.toJson)))

/-- The known attachments of a resource that are not ignored. -/
def comparedAttachments (options : PlacementOptions) (attachment : Attachment) (type : ResourceType)
    (fetched : StringMap Resource) (r : Resource) : List Resource :=
  (attachment.known type fetched r).filter fun a => !options.isIgnored a

/-- Look up the attachments of one kind, if they are compared. -/
def fetchCompared (compared : Bool) (attachment : Attachment) (type : ResourceType)
    (resources : List Resource) : CloudM (StringMap Resource) :=
  if compared then attachment.fetch type resources else return ∅

def placement (options : PlacementOptions) : Filter where
  name := "network-location"
  process := fun context resources => do
    let type := context.resourceType
    let subnets ← fetchCompared options.compareSubnets .subnet type resources
    let groups ← fetchCompared options.compareGroups .securityGroup type resources
    return resources.filterMap fun r =>
      keepPlacement options r (comparedAttachments options .subnet type subnets r)
        (comparedAttachments options .securityGroup type groups r)

/-- The filter needs the filters on both kinds of attachments to be available. -/
def buildPlacement (block : Json) (context : BuildContext) : Except Error Filter := do
  match [Attachment.subnet, Attachment.securityGroup].find? fun attachment =>
      (context.resourceType.filter? attachment.name).isNone with
  | some attachment =>
    context.reject ("network-location requires " ++ attachment.name ++ " filters to be available")
  | none => return placement (← placementOptions block context)

end CloudPolicy.Filter
