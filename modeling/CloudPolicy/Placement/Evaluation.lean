import CloudPolicy.Placement.Finding
import CloudPolicy.Resource.Path

/-! Judging the network placement of a resource: the value of one key on the resource, on its
subnets and on its security groups has to agree. -/

namespace CloudPolicy

/-- How placements are matched: those without findings, those with findings, or those whose values
all lie in a list. -/
inductive PlacementMatch where
  | equal
  | notEqual
  | within
  deriving DecidableEq, Repr, Inhabited

/-- What is compared, and how. -/
structure PlacementOptions where
  key : String
  compareResource : Bool := true
  compareSubnets : Bool := true
  compareGroups : Bool := true
  /-- How many different values the attachments of one kind may have. -/
  maxCardinality : Nat := 1
  /-- Attachments and resources may lack a value. -/
  missingOk : Bool := false
  mode : PlacementMatch := .notEqual
  /-- An attachment is ignored when one pair of a key and a value in one of the entries holds. -/
  ignored : List (List (String × String)) := []
  allowed : List String := []
  deriving Repr, Inhabited

namespace PlacementOptions

variable (options : PlacementOptions)

def isIgnored (attachment : Resource) : Bool :=
  options.ignored.any fun pairs => pairs.any fun (key, value) =>
    attachment.resolveText? key == some value

/-- The value of every attachment. -/
def valuesOf (attachments : List Resource) : ValueMap :=
  .ofList (attachments.map fun a => (a.id, a.resolveText? options.key))

/-- The different truthy values of the attachments. -/
def spaceOf (attachments : List Resource) : List String :=
  (attachments.filterMap fun a => ((a.resolve? options.key).filter Json.isTruthy).map
    Json.render).eraseDups

/-- An attachment lacks a value although it must have one. -/
def hasAbsent (values : ValueMap) : Bool := !options.missingOk && values.values.any Option.isNone

/-- The two lists have the same members. -/
def sameMembers (a b : List String) : Bool := a.all (· ∈ b) && b.all (· ∈ a)

/-- What is wrong with the attachments of one kind on their own. -/
def kindFindings (attachments : List Resource) (absent cardinality : ValueMap → LocationFinding) :
    List LocationFinding :=
  let values := options.valuesOf attachments
  (if options.hasAbsent values then [absent values] else [])
    ++ if options.maxCardinality < (options.spaceOf attachments).length then [cardinality values]
      else []

def subnetFindings (subnets : List Resource) : List LocationFinding :=
  if options.compareSubnets then
    options.kindFindings subnets
      (fun values => { reason := .subnetLocationAbsent, subnets := some values })
      (fun values => { reason := .subnetLocationCardinality, subnets := some values })
  else []

def groupFindings (groups : List Resource) : List LocationFinding :=
  if options.compareGroups then
    options.kindFindings groups
      (fun values => { reason := .securityGroupLocationAbsent, securityGroups := some values })
      (fun values => { reason := .securityGroupLocationCardinality, securityGroups := some values })
  else []

/-- The values of subnets and security groups differ. -/
def mismatchFindings (subnets groups : List Resource) : List LocationFinding :=
  if options.compareSubnets && options.compareGroups
      && !sameMembers (options.spaceOf subnets) (options.spaceOf groups) then
    [{ reason := .locationMismatch
       subnets := some (options.valuesOf subnets)
       securityGroups := some (options.valuesOf groups) }]
  else []

/-- The resource's value is not among those of the attachments; no value is among none. -/
def isOutside (own : Option String) (attachments : List Resource) : Bool :=
  own.all fun value => value ∉ options.spaceOf attachments

/-- The resource lacks a value, or its value is not one of its attachments'. -/
def ownFindings (own : Option String) (subnets groups : List Resource) : List LocationFinding :=
  if !options.missingOk && own.isNone then
    [{ reason := .resourceLocationAbsent, resource := some none }]
  else if options.compareGroups && !groups.isEmpty && options.isOutside own groups then
    [{ reason := .resourceLocationMismatch, resource := some own
       securityGroups := some (options.valuesOf groups) }]
  else if options.compareSubnets && !subnets.isEmpty && options.isOutside own subnets then
    [{ reason := .resourceLocationMismatch, resource := some own
       subnets := some (options.valuesOf subnets) }]
  else []

/-- Security groups whose value is not the resource's. -/
def groupMismatchFindings (own : Option String) (groups : List Resource) : List LocationFinding :=
  let mismatched : ValueMap := ⟨(options.valuesOf groups).entries.filter fun e => e.2 ≠ own⟩
  if options.compareGroups && !groups.isEmpty && !mismatched.isEmpty then
    [{ reason := .securityGroupMismatch, resource := some own, securityGroups := some mismatched }]
  else []

/-- All inconsistencies of a resource with its attachments. -/
def evaluate (r : Resource) (subnets groups : List Resource) : List LocationFinding :=
  let own := r.resolveText? options.key
  options.subnetFindings subnets ++ options.groupFindings groups
    ++ options.mismatchFindings subnets groups
    ++ if options.compareResource then
        options.ownFindings own subnets groups ++ options.groupMismatchFindings own groups
      else []

/-- The attachments of one kind have only allowed values, and none lacks one unless it may. -/
def attachmentsAllowed (attachments : List Resource) : Bool :=
  !options.hasAbsent (options.valuesOf attachments)
    && (options.spaceOf attachments).all (· ∈ options.allowed)

/-- Every compared value is allowed. -/
def isWithinAllowed (r : Resource) (subnets groups : List Resource) : Bool :=
  (!options.compareSubnets || options.attachmentsAllowed subnets)
    && (!options.compareGroups || options.attachmentsAllowed groups)
    && (!options.compareResource || (r.resolveText? options.key).any (· ∈ options.allowed))

end PlacementOptions

end CloudPolicy
