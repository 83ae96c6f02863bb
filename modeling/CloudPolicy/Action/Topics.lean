import CloudPolicy.Action.Balancers
import CloudPolicy.Filter.Topics

/-! Actions on notification topics. -/

namespace CloudPolicy

/-- What removing the grants to everybody did to an access policy. -/
inductive Stripped where
  | unchanged
  | narrowed (text : String)
  /-- No statement is left. -/
  | cleared
  deriving DecidableEq, Repr, Inhabited

namespace Stripped

/-- The account entry of a statement for every user. -/
def isEverybody (account : Json) : Bool := account.string? = some "*"

/-- The accounts that a statement names. -/
def accounts? (statement : Json) : Option Json :=
  (statement.field? "Principal").bind (·.field? "CSP")

/-- A statement with other accounts. -/
def withAccounts (accounts : List Json) : Json → Json
  | .object fields =>
    match fields.get? "Principal" with
    | some (.object principal) =>
      .object (fields.insert "Principal" (.object (principal.insert "CSP" (.array accounts))))
    | _ => .object fields
  | other => other

/-- A statement without grants to everybody, if it still names an account. -/
def strip (statement : Json) : Option Json :=
  if statement.stringField? "Effect" = some "Allow" then
    match accounts? statement with
    | some (.array accounts) =>
      let left := accounts.filter fun account => !isEverybody account
      if left.isEmpty then none else some (withAccounts left statement)
    | some (.string account) => if account = "*" then none else some statement
    | _ => some statement
  else some statement

/-- Strip the statements of a document. -/
def ofDocument : Json → Stripped
  | .object fields =>
    match fields.get? "Statement" with
    | some (.array statements) =>
      let left := statements.filterMap strip
      if (Json.array left).same (.array statements) then unchanged
      else if left.isEmpty then cleared
      else narrowed (Json.object (fields.insert "Statement" (.array left))).text
    | _ => unchanged
  | _ => unchanged

/-- Strip the document of a policy text. -/
def ofText (text : String) : Except Error Stripped := (Filter.policyDocument text).map ofDocument

end Stripped

namespace Action

open BlockSchema

/-- A text that a block has to have. -/
def requiredText (block : Json) (key action : String) (context : BuildContext) :
    Except Error String :=
  context.require (block.someTextOption? key) (action ++ " requires '" ++ key ++ "'")

def deleteTopic : Action := ofCall "delete" fun r => Cloud.deleteTopic r.topicUrn

/-! ### Log bindings -/

def createLoggingSchema : Json :=
  ofType "create-lts" [("log_group_id", text), ("log_stream_id", text)]
    ["log_group_id", "log_stream_id"]

def createLogging (group stream : String) : Action :=
  ofCall "create-lts" fun r => Cloud.createLogtank r.topicUrn group stream

def buildCreateLogging (block : Json) (context : BuildContext) : Except Error Action := do
  let group ← requiredText block "log_group_id" "create-lts" context
  let stream ← requiredText block "log_stream_id" "create-lts" context
  return createLogging group stream

/-- Delete every binding of a topic; the bindings kept in the record are used if there are any. -/
def deleteLoggingStep (r : Resource) : CloudM Step := do
  let (bindings, _) ← Filter.bindingsOf r
  if bindings.isEmpty then return .skipped
  forEach (Cloud.deleteLogtank r.topicUrn)
    (bindings.filterMap fun binding => binding.stringField? "id")
  return .done

def deleteLogging : Action := ofStep "delete-lts" fun _ r => deleteLoggingStep r

/-! ### Access policies -/

def updateAccessSchema : Json := ofType "update-access" [("value", text)] ["value"]

def updateAccess (policy : String) : Action :=
  ofCall "update-access" fun r => Cloud.updateAccessPolicy r.topicUrn (some policy)

def buildUpdateAccess (block : Json) (context : BuildContext) : Except Error Action := do
  let policy ← requiredText block "value" "update-access" context
  if (Json.read? policy).isSome then return updateAccess policy
  else context.reject "update-access 'value' is not a JSON document"

def deleteAccess : Action := ofCall "delete-access" fun r => Cloud.deleteTopicAttributes r.topicUrn

/-- Remove the grants to everybody from the access policy of a topic; a policy without statements is
cleared. The policy kept in the record is used if there is one. -/
def deleteAllowAllStep (r : Resource) : CloudM Step := do
  let (policy, _) ← Filter.policyOf r
  match policy.filter fun text => !text.isEmpty with
  | none => return .skipped
  | some text =>
    match ← CloudM.ofExcept (Stripped.ofText text) with
    | .unchanged => return .skipped
    | .narrowed text =>
      Cloud.updateAccessPolicy r.topicUrn (some text)
      return .done
    | .cleared =>
      Cloud.updateAccessPolicy r.topicUrn none
      return .done

def deleteAllowAll : Action :=
  ofStep "delete-allow-all-user-access" fun _ r => deleteAllowAllStep r

end Action

end CloudPolicy
