import CloudPolicy.Policy.Document
import CloudPolicy.Policy.Registry
import CloudPolicy.Schema.Check

/-! Compiling policy documents. Each block of an entry is brought into table form, looked up among
the filters or actions of the resource type, checked against its schema, and built. One failure
rejects the whole document. -/

namespace CloudPolicy

/-- A policy whose filters and actions are built. -/
structure Policy where
  name : String
  resourceType : ResourceType
  mode : Mode
  filters : List Filter
  actions : List Action

namespace Policy

/-- The name of a type as it is shown in messages. -/
def shownType : ResourceType → String
  | .loadBalancer => "ElbLoadbalancer"
  | .listener => "ElbListener"
  | .function => "Functiongraph"
  | .patch => "CocPatch"
  | .script => "CocScript"
  | .topic => "SmnTopic"

def shownMode : Mode → String
  | .pull => "Pull"
  | .trail events => "Cloudtrace \x7b events: " ++ Text.quotedList events ++ " \x7d"

/-- The policy as it is shown in messages. -/
def shown (policy : Policy) : String :=
  "CompiledPolicy \x7b name: " ++ Text.quoted policy.name
    ++ ", resource_type: " ++ shownType policy.resourceType ++ ", mode: " ++ shownMode policy.mode
    ++ ", filters: " ++ Text.quotedList (policy.filters.map (·.name))
    ++ ", actions: " ++ Text.quotedList (policy.actions.map (·.name)) ++ " \x7d"

/-- Name the policy in the violation of a schema. -/
def naming (policy : String) : Error → Error
  | .schemaValidation reason => .schemaValidation ("policy '" ++ policy ++ "': " ++ reason)
  | other => other

/-- Check a block against the schema of its kind. -/
def check (context : BuildContext) (schema block : Json) : Except Error Unit :=
  (Validation.validate schema block).mapError (naming context.policy)

/-- The error of a block that names no filter or action of the type. -/
def unknownBlock (context : BuildContext) (kind : BlockKind) (name : String)
    (available : List String) : Error :=
  context.rejection ("unknown " ++ kind.name ++ " '" ++ name ++ "'; available: "
    ++ Text.join ", " available)

/-- The table form of a block, an error naming the policy. -/
def prepare (context : BuildContext) (kind : BlockKind) (block : Json) : Except Error Json :=
  context.rejecting (normalizeBlock kind block)

def compileFilter (context : BuildContext) (block : Json) : Except Error Filter := do
  let block ← prepare context .filter block
  let name := blockType block
  match context.resourceType.filter? name with
  | none => .error (unknownBlock context .filter name context.resourceType.filterNames)
  | some kind =>
    check context kind.schema block
    kind.build block context

def compileAction (context : BuildContext) (block : Json) : Except Error Action := do
  let block ← prepare context .action block
  let name := blockType block
  match context.resourceType.action? name with
  | none => .error (unknownBlock context .action name context.resourceType.actionNames)
  | some kind =>
    check context kind.schema block
    kind.build block context

/-- The resource type of an entry. -/
def entryType (entry : PolicyEntry) : Except Error ResourceType :=
  (ResourceType.ofName entry.resource).mapError fun e =>
    .policyValidation ("policy '" ++ entry.name ++ "': " ++ e.reason)

/-- Compile one entry: its filters in their order, then its actions. -/
def ofEntry (settings : Settings) (entry : PolicyEntry) : Except Error Policy := do
  let resourceType ← entryType entry
  let context : BuildContext := { policy := entry.name, resourceType, mode := entry.mode, settings }
  let filters ← entry.filters.mapM (compileFilter context)
  let actions ← entry.actions.mapM (compileAction context)
  return { name := entry.name, resourceType, mode := entry.mode, filters, actions }

/-- Compile entries that come after entries with the names `seen`. -/
def ofEntries (settings : Settings) : (seen : List String) → List PolicyEntry →
    Except Error (List Policy)
  | _, [] => .ok []
  | seen, entry :: entries => do
    if entry.name ∈ seen then
      throw (.policyValidation ("duplicate policy name '" ++ entry.name ++ "'"))
    let policy ← ofEntry settings entry
    return policy :: (← ofEntries settings (entry.name :: seen) entries)

/-- Compile a document; the names of its policies have to differ. -/
def ofDocument (settings : Settings) (document : PolicyDocument) : Except Error (List Policy) :=
  ofEntries settings [] document.policies

end Policy

end CloudPolicy
