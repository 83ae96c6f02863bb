import CloudPolicy.Action.Tagging
import CloudPolicy.Mark
import CloudPolicy.Resource.Path
import CloudPolicy.Text.Case
import CloudPolicy.Text.Quoted
import CloudPolicy.Time.Span

/-! Actions that plan a change of tags for each resource by itself: renaming a tag, normalizing its
value and trimming tags; and marks, which write one tag to all resources. -/

namespace CloudPolicy

/-- The keys to delete from a resource and then the tags to create on it. -/
structure TagChange where
  delete : List String := []
  create : TagSet := ∅
  deriving Inhabited

/-- What is planned for a resource: a change, nothing, or a refusal with its reason. -/
abbrev Plan := Except String (Option TagChange)

/-- Tags that one resource may carry. -/
def maxResourceTags : Nat := 20

namespace Action

open BlockSchema

/-- A refusal that the tag service reported, if any. -/
def refusal? (failed : List FailedResource) : Option Step :=
  failed.head?.map fun failure => .refused failure.reason

/-- Carry out a change on one resource. What is refused first ends it. -/
def carryOut (tagTypeName id : String) (change : TagChange) : CloudM Step := do
  let refused ← if change.delete.isEmpty then pure none
    else pure (refusal? (← Cloud.deleteTags tagTypeName [id] change.delete))
  match refused with
  | some step => return step
  | none =>
    if change.create.isEmpty then return .done
    return (refusal? (← Cloud.createTags tagTypeName [id] change.create)).getD .done

/-- Carry out the plan for a resource. -/
def follow (tagTypeName : String) (plan : Resource → Plan) (r : Resource) : CloudM Step :=
  match plan r with
  | .ok (some change) => carryOut tagTypeName r.id change
  | .ok none => return .skipped
  | .error reason => return .refused reason

/-- An action that plans a change for each resource. Types without tags are left alone. -/
def ofPlan (name : String) (plan : Resource → Plan) : Action where
  name := name
  process := fun context resources =>
    match context.resourceType.tagServiceName? with
    | none => return { action := name }
    | some tagTypeName =>
      (ofStep name fun _ r => follow tagTypeName plan r).process context resources

/-! ### Renaming -/

def renameSchema : Json :=
  ofType "rename-tag" [("old_key", text), ("new_key", text), ("value", text)] ["old_key", "new_key"]

/-- Move a tag to another key, with its value or with a given one. -/
def renamePlan (oldKey newKey : String) (value : Option String) (r : Resource) : Plan :=
  let current := r.tags.get? oldKey
  match value.or current with
  | none => .error ("no tag '" ++ oldKey ++ "' to rename and no 'value' given")
  | some value => .ok (some {
      delete := if current.isSome then [oldKey] else []
      create := .ofList [(newKey, value)] })

def buildRename (block : Json) (context : BuildContext) : Except Error Action := do
  let oldKey ← context.require (block.someTextOption? "old_key") "rename-tag requires 'old_key'"
  let newKey ← context.require (block.someTextOption? "new_key") "rename-tag requires 'new_key'"
  if oldKey = newKey then context.reject "rename-tag 'old_key' and 'new_key' are the same"
  else .ok (ofPlan "rename-tag" (renamePlan oldKey newKey (block.textOption? "value")))

/-! ### Normalizing -/

def normalizeSchema : Json :=
  ofType "normalize-tag" [("key", text), ("value", text),
    ("action", oneOf ["upper", "lower", "title", "strip", "replace"]), ("old_sub_str", text),
    ("new_sub_str", text)] ["key", "action"]

end Action

/-- How the value of a tag is normalized. -/
inductive Normalization where
  | upper
  | lower
  /-- The first letter of every run of letters in upper case, the others in lower case. -/
  | title
  /-- Drop the given characters from both ends. -/
  | strip (characters : String)
  | replace (old new : String)
  deriving DecidableEq, Repr, Inhabited

namespace Normalization

def titleCase (value : String) : String := String.ofList (Text.toTitle false value.toList)

/-- The changed value, or nothing when the rule does not change it. Stripping applies to values that
contain the given characters in their order. -/
def apply (rule : Normalization) (value : String) : Option String :=
  let changed := match rule with
    | upper => some (String.ofList (Text.toUpper value.toList))
    | lower => some (String.ofList (Text.toLower value.toList))
    | title => some (titleCase value)
    | strip characters =>
      if Text.contains value characters then
        some (String.ofList (Text.trimWhile (· ∈ characters.toList) value.toList))
      else none
    | replace old new =>
      if Text.contains value old then some (Text.replaceAll old new value) else none
  changed.filter (· ≠ value)

/-- The rule as it is shown in messages. -/
def shown : Normalization → String
  | upper => "Upper"
  | lower => "Lower"
  | title => "Title"
  | strip characters => "Strip(" ++ Text.quoted characters ++ ")"
  | replace old new =>
    "Replace \x7b from: " ++ Text.quoted old ++ ", to: " ++ Text.quoted new ++ " \x7d"

/-- The rule that a block names. -/
def ofBlock (block : Json) (context : BuildContext) : Except Error Normalization :=
  match block.textOption? "action" with
  | some "upper" => .ok upper
  | some "lower" => .ok lower
  | some "title" => .ok title
  | some "strip" => do
    return strip (← context.require (block.someTextOption? "old_sub_str")
      "normalize-tag strip requires 'old_sub_str'")
  | some "replace" =>
    match block.someTextOption? "old_sub_str", block.textOption? "new_sub_str" with
    | some old, some new => .ok (replace old new)
    | _, _ => context.reject "normalize-tag replace requires 'old_sub_str' and 'new_sub_str'"
  | other => context.reject ("normalize-tag: unknown action " ++ Text.quotedOption other)

end Normalization

namespace Action

open BlockSchema

/-- Change the value of a tag; with `only`, leave other values alone. -/
def normalizePlan (key : String) (only : Option String) (rule : Normalization) (r : Resource) :
    Plan :=
  match r.tags.get? key with
  | none => .error ("no tag '" ++ key ++ "' to normalize")
  | some current =>
    if only.any (· ≠ current) then .ok none
    else
      match rule.apply current with
      | none => .error ("tag '" ++ key ++ "' value '" ++ current ++ "' is not changed by "
          ++ rule.shown)
      | some normal => .ok (some { delete := [key], create := .ofList [(key, normal)] })

def buildNormalize (block : Json) (context : BuildContext) : Except Error Action := do
  let key ← context.require (block.someTextOption? "key") "normalize-tag requires 'key'"
  let rule ← Normalization.ofBlock block context
  return ofPlan "normalize-tag" (normalizePlan key (block.textOption? "value") rule)

/-! ### Trimming -/

def trimSchema : Json :=
  ofType "tag-trim" [("space", .obj [("type", .string "integer"), ("minimum", .nat 0),
    ("maximum", .nat maxResourceTags)]), ("preserve", textList)] ["space"]

/-- Delete the first keys that are not preserved, as many as are needed to leave `space` free. -/
def trimPlan (space : Nat) (preserve : List String) (r : Resource) : Plan :=
  let count := r.tags.size
  if maxResourceTags < count then
    .error (Nat.repr count ++ " tags exceed the limit of " ++ Nat.repr maxResourceTags)
  else if space ≤ maxResourceTags - count then .ok none
  else
    let needed := count - (maxResourceTags - space)
    let candidates := (r.tags.keys.filter (· ∉ preserve)).take needed
    if candidates.length < needed then
      .error ("only " ++ Nat.repr candidates.length ++ " unpreserved tags, " ++ Nat.repr needed
        ++ " must go to free " ++ Nat.repr space ++ " slots")
    else .ok (some { delete := candidates })

def buildTrim (block : Json) (context : BuildContext) : Except Error Action := do
  let space := ((block.field? "space").bind Json.nat?).filter (· ≤ maxResourceTags)
  let space ← context.require space
    ("tag-trim requires an integer 'space' up to " ++ Nat.repr maxResourceTags)
  return ofPlan "tag-trim" (trimPlan space (block.textsOption "preserve"))

/-! ### Marking -/

def markForOpSchema : Json :=
  let duration : Json := .obj [("type", .string "number"), ("minimum", .nat 0)]
  ofType "mark-for-op" [("tag", text), ("msg", text), ("op", text), ("days", duration),
    ("hours", duration), ("tz", text)] ["op"]

end Action

/-- A mark to be written: the tag, its message, the operation, and when that comes due. -/
structure MarkOptions where
  tag : String
  message : String
  op : String
  days : Binary64
  hours : Binary64
  zone : MarkZone
  deriving DecidableEq, Repr, Inhabited

namespace MarkOptions

/-- When the operation comes due. -/
def due (mark : MarkOptions) (now : Timestamp) : Except Error Timestamp := do
  let delay ← TimeSpan.ofSeconds
    ((mark.days.mul (.ofNat 86400)).add (mark.hours.mul (.ofNat 3600))).toInt64
  now.later delay

/-- How the date is written: with a time when hours were asked for. -/
def actionDate (mark : MarkOptions) (due : Timestamp) : String :=
  Mark.dateText due (Binary64.zero.less mark.hours) mark.zone

/-- The message with its placeholders filled in, the operation first. -/
def text (mark : MarkOptions) (due : Timestamp) : String :=
  Text.replaceAll "\x7baction_date\x7d" (mark.actionDate due)
    (Text.replaceAll "\x7bop\x7d" mark.op mark.message)

/-- What is written now. The date is worked out whether or not the message asks for it. -/
def value (mark : MarkOptions) (now : Timestamp) : Except Error String :=
  return mark.text (← mark.due now)

end MarkOptions

namespace Action

def markForOp (mark : MarkOptions) : Action where
  name := "mark-for-op"
  process := fun context resources => do
    let value ← CloudM.ofExcept (mark.value context.now)
    if value.isEmpty then throw (.execution "mark-for-op message renders empty")
    writeTags context "mark-for-op" (resources.map (·.id)) (.create (.ofList [(mark.tag, value)]))

/-- The days and hours after which a mark comes due; without either, four days. -/
def markDelay (block : Json) : Binary64 × Binary64 :=
  match block.field? "days", block.field? "hours" with
  | none, none => (.ofNat 4, .zero)
  | _, _ => (block.numberOption "days" .zero, block.numberOption "hours" .zero)

end Action

/-- The mark that a block asks for. -/
def MarkOptions.ofBlock (block : Json) (context : BuildContext) : Except Error MarkOptions := do
  let op ← Mark.operation context "mark-for-op" block
  let zone ← MarkZone.ofBlock context "mark-for-op" block
  let (days, hours) := Action.markDelay block
  if days.less .zero || hours.less .zero then
    context.reject "mark-for-op 'days' and 'hours' must not be negative"
  else
    return {
      tag := (block.textOption? "tag").getD Mark.defaultTag
      message := (block.textOption? "msg").getD Mark.defaultMessage
      op, days, hours, zone }

def Action.buildMarkForOp (block : Json) (context : BuildContext) : Except Error Action := do
  return markForOp (← MarkOptions.ofBlock block context)

end CloudPolicy
