import CloudPolicy.Cloud.Basic
import CloudPolicy.Event
import CloudPolicy.Mode
import CloudPolicy.Policy.Capability
import CloudPolicy.Settings
import CloudPolicy.Time.Timestamp

/-! Filters and actions as steps of a run, what they may read while the policy runs, and what is
known when they are built from option blocks. -/

namespace CloudPolicy

/-- What filters and actions may read during a run. -/
structure RunContext where
  policy : String
  resourceType : ResourceType
  settings : Settings
  /-- The event that triggered an event-driven policy. -/
  event : Option Event
  now : Timestamp
  /-- The order in which the workers of a pool take their steps, as far as it is laid down. -/
  schedule : List Nat := []
  deriving Inhabited

/-- A step that keeps some of the resources, in their order. It may annotate those that it keeps and
look things up in the cloud. -/
structure Filter where
  name : String
  process : RunContext → List Resource → CloudM (List Resource)

/-- A step that acts on the resources. Resources that it cannot handle are reported; a failed call
ends it. -/
structure Action where
  name : String
  process : RunContext → List Resource → CloudM Report

/-- A filter that keeps the resources that pass a test. -/
def Filter.ofTest (name : String) (test : RunContext → Resource → Bool) : Filter where
  name := name
  process := fun context resources => return resources.filter (test context)

/-- Keep the elements that pass a test in the cloud, one after the other. -/
def Filter.keepM {α : Type} (test : α → CloudM Bool) : List α → CloudM (List α)
  | [] => return []
  | x :: xs => do
    let keep ← test x
    let kept ← keepM test xs
    return if keep then x :: kept else kept

/-- What is known when a block is built. -/
structure BuildContext where
  policy : String
  resourceType : ResourceType
  mode : Mode
  settings : Settings
  deriving Inhabited

namespace BuildContext

/-- An error that names the policy. -/
def rejection (context : BuildContext) (reason : String) : Error :=
  .policyValidation ("policy '" ++ context.policy ++ "' (" ++ context.resourceType.name ++ "): "
    ++ reason)

def reject {α : Type} (context : BuildContext) (reason : String) : Except Error α :=
  .error (context.rejection reason)

/-- The value, or an error when there is none. -/
def require {α : Type} (context : BuildContext) (value : Option α) (reason : String) :
    Except Error α :=
  match value with
  | some value => .ok value
  | none => context.reject reason

/-- Name the policy in the error of a part of a block. -/
def rejecting {α : Type} (context : BuildContext) : Except Error α → Except Error α
  | .ok value => .ok value
  | .error e => context.reject e.reason

end BuildContext

/-! ### Reading option blocks

A value of the wrong type counts as missing. -/

namespace Json

def textOption? (block : Json) (key : String) : Option String := block.stringField? key

/-- A text that is not empty. -/
def someTextOption? (block : Json) (key : String) : Option String :=
  (block.stringField? key).filter fun text => !text.isEmpty

def boolOption (block : Json) (key : String) (default : Bool) : Bool :=
  ((block.field? key).bind bool?).getD default

def numberOption? (block : Json) (key : String) : Option Binary64 := (block.field? key).bind float?

def numberOption (block : Json) (key : String) (default : Binary64) : Binary64 :=
  (block.numberOption? key).getD default

/-- The texts of a list, or no texts when there is no list. -/
def textsOption (block : Json) (key : String) : List String := (block.stringsField? key).getD []

end Json

end CloudPolicy
