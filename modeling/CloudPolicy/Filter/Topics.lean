import CloudPolicy.Cloud.Topics
import CloudPolicy.Filter.Values
import CloudPolicy.Json.Reader

/-! Filters on notification topics: their log bindings and the grants of their access policies. What
is looked up is kept in the record, so that it is looked up once; a topic whose look-up fails is
left out. -/

namespace CloudPolicy

/-- The resource name of a topic, or its identifier when it has none. -/
def Resource.topicUrn (r : Resource) : String := (r.text? "topic_urn").getD r.id

namespace Filter

open BlockSchema

/-- Keep the topics that pass a test, in the form in which the test leaves them. Topics whose test
fails are dropped. -/
def keepChecked (check : Resource → CloudM (Bool × Resource)) : List Resource →
    CloudM (List Resource)
  | [] => return []
  | r :: rest => do
    let (keep, r) ← tryCatch (check r) fun _ => return (false, r)
    let kept ← keepChecked check rest
    return if keep then r :: kept else kept

/-! ### Log bindings -/

def topicLoggingSchema : Json := ofType "topic-lts" [("enabled", boolean)] []

/-- The log bindings of a topic, kept in its record. -/
def bindingsOf (r : Resource) : CloudM (List Json × Resource) :=
  match (r.get? "lts").bind Json.array? with
  | some bindings => return (bindings, r)
  | none => do
    let bindings ← Cloud.listLogtanks r.topicUrn
    return (bindings, r.set "lts" (.array bindings))

def topicLogging (enabled : Bool) : Filter where
  name := "topic-lts"
  process := fun _ resources => keepChecked (fun r => do
    let (bindings, r) ← bindingsOf r
    return (!bindings.isEmpty == enabled, r)) resources

/-! ### Grants -/

/-- The statements of one effect and the principals that they have to name; criteria that are not
set are met. -/
structure AccessCriteria where
  effect : String := "Allow"
  user : Option String := none
  organization : Option String := none
  service : Option String := none
  deriving DecidableEq, Repr, Inhabited

namespace AccessCriteria

def ofBlock (block : Json) : AccessCriteria where
  effect := (block.textOption? "effect").getD "Allow"
  user := block.someTextOption? "user"
  organization := block.someTextOption? "organization"
  service := block.someTextOption? "service"

/-- How a user is named by a statement; `*` stands for every user. -/
def userPrincipal (user : String) : String :=
  if user = "*" then "*" else "urn:csp:iam::" ++ user ++ ":root"

/-- A principal is a text that contains the needle, or a list with the needle among its items. -/
def names (needle : String) : Json → Bool
  | .string text => Text.contains text needle
  | .array items => items.any fun item => item.string? = some needle
  | _ => false

/-- The statements of a policy document that have the effect. -/
def statements (criteria : AccessCriteria) (document : Json) : List Json :=
  (((document.field? "Statement").bind Json.array?).getD []).filter fun statement =>
    statement.stringField? "Effect" = some criteria.effect

/-- Some statement names the needle as a principal of the given kind. -/
def grantsTo (statements : List Json) (kind needle : String) : Bool :=
  statements.any fun statement =>
    ((statement.field? "Principal").bind (·.field? kind)).any (names needle)

/-- Every criterion that is set is met by some statement. -/
def metBy (criteria : AccessCriteria) (document : Json) : Bool :=
  let statements := criteria.statements document
  criteria.user.all (fun user => grantsTo statements "CSP" (userPrincipal user))
    && criteria.organization.all (grantsTo statements "OrgPath" ·)
    && criteria.service.all (grantsTo statements "Service" ·)

/-- No criterion is set. -/
def isOpen (criteria : AccessCriteria) : Bool :=
  criteria.user.isNone && criteria.organization.isNone && criteria.service.isNone

end AccessCriteria

/-- The document of a policy text. -/
def policyDocument (text : String) : Except Error Json :=
  match Json.read? text with
  | some document => .ok document
  | none => .error (.execution "access policy is not valid JSON")

/-- The access policy meets the criteria. Without criteria every policy does, otherwise a missing
one does not. -/
def grants (criteria : AccessCriteria) (policy : Option String) : Except Error Bool :=
  if criteria.isOpen then .ok true
  else
    match policy.filter fun text => !text.isEmpty with
    | none => .ok false
    | some text => (policyDocument text).map criteria.metBy

def topicAccessSchema : Json :=
  ofType "topic-access" [("effect", oneOf ["Allow", "Deny"]), ("user", text),
    ("organization", text), ("service", text)] []

/-- The text of a topic's access policy, kept in its record. -/
def policyOf (r : Resource) : CloudM (Option String × Resource) :=
  match r.text? "access_policy" with
  | some text => return (some text, r)
  | none => do
    match ← Cloud.accessPolicy r.topicUrn with
    | some text => return (some text, r.set "access_policy" (.string text))
    | none => return (none, r)

def topicAccess (criteria : AccessCriteria) : Filter where
  name := "topic-access"
  process := fun _ resources => keepChecked (fun r => do
    let (policy, r) ← policyOf r
    let granted ← liftExcept (grants criteria policy)
    return (granted, r)) resources
where
  liftExcept : Except Error Bool → CloudM Bool
    | .ok granted => return granted
    | .error e => throw e

end Filter

end CloudPolicy
