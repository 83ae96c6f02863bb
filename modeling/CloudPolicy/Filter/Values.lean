import CloudPolicy.Mark
import CloudPolicy.Resource.Predicate
import CloudPolicy.Schema.Build
import CloudPolicy.Time.Span

/-! Filters that look at nothing but the record: values under a key, age, the number of tags, marks
that have come due, and scripts without reviewers. -/

namespace CloudPolicy

namespace Filter

open BlockSchema

/-! ### Values -/

def valueSchema : Json := ofType "value" valueProperties []

def attributesSchema : Json := ofType "attributes" valueProperties ["key"]

def ofPredicate (name : String) (p : Predicate) : Filter := ofTest name fun _ r => p.holds r

def buildPredicate (name : String) (block : Json) (context : BuildContext) : Except Error Filter :=
  return ofPredicate name (← context.rejecting (Predicate.ofBlock block))

/-! ### Age -/

def ageSchema : Json :=
  ofType "age" [("op", comparisonOperators), ("days", number), ("hours", number),
    ("minutes", number)] []

/-- The creation date of resources that have none that can be read. -/
def ancientDate : Timestamp := .ofDateTime ⟨2000, 1, 1⟩ 3661 0

/-- When the resource was created. -/
def createdAt (r : Resource) : Timestamp :=
  ((r.text? "created_at").bind Timestamp.ofRecord?).getD ancientDate

def age (operator : Operator) (seconds : Binary64) : Filter :=
  ofTest "age" fun context r =>
    operator.compareNumbers (.ofInt (context.now.secondsSince (createdAt r))) seconds

def buildAge (block : Json) (context : BuildContext) : Except Error Filter := do
  let operator ← context.rejecting (Operator.ofBlock block .gte)
  let part (key : String) (seconds : Nat) : Binary64 :=
    (block.numberOption key .zero).mul (.ofNat seconds)
  return age operator (((part "days" 86400).add (part "hours" 3600)).add (part "minutes" 60))

/-! ### Counting tags -/

/-- The schema of a filter that compares a count. -/
def countSchema (name : String) : Json :=
  ofType name [("count", .obj [("type", .string "integer"), ("minimum", .nat 0)]),
    ("op", comparisonOperators)] []

/-- The operator and the number that a count is compared with. -/
def countOptions (block : Json) (context : BuildContext) (default : Nat) :
    Except Error (Operator × Binary64) := do
  let operator ← context.rejecting (Operator.ofBlock block .gte)
  return (operator, block.numberOption "count" (.ofNat default))

/-- The tags that users set; those of the system start with `_sys`. -/
def userTags (r : Resource) : List String :=
  r.tags.keys.filter fun key => (Text.dropFront? "_sys".toList key.toList).isNone

def tagCount (operator : Operator) (count : Binary64) : Filter :=
  ofTest "tag-count" fun _ r => operator.compareNumbers (.ofNat (userTags r).length) count

def buildTagCount (block : Json) (context : BuildContext) : Except Error Filter := do
  let (operator, count) ← countOptions block context 5
  return tagCount operator count

/-! ### Marks that have come due -/

def markedForOpSchema : Json :=
  let duration : Json := .obj [("type", .string "number"), ("minimum", .nat 0)]
  ofType "marked-for-op" [("tag", text), ("op", text), ("skew", duration), ("skew_hours", duration),
    ("tz", text)] ["op"]

end Filter

/-- Which marks have come due: those under the tag that name the operation, from some time before
their date on. Days without a time are read in the zone. -/
structure DueOptions where
  tag : String
  op : String
  skew : TimeSpan
  zone : MarkZone
  deriving DecidableEq, Repr, Inhabited

/-- The options of a block. -/
def DueOptions.ofBlock (block : Json) (context : BuildContext) : Except Error DueOptions := do
  let op ← Mark.operation context "marked-for-op" block
  let zone ← MarkZone.ofBlock context "marked-for-op" block
  let skew := block.numberOption "skew" .zero
  let skewHours := block.numberOption "skew_hours" .zero
  if skew.less .zero || skewHours.less .zero then
    context.reject "marked-for-op 'skew' and 'skew_hours' must not be negative"
  else
    let skew ← TimeSpan.ofSeconds
      ((skew.mul (.ofNat 86400)).add (skewHours.mul (.ofNat 3600))).toInt64
    return { tag := (block.textOption? "tag").getD Mark.defaultTag, op, skew, zone }

/-- The date of a resource's mark, if the mark names the operation and its date can be read. -/
def DueOptions.date? (options : DueOptions) (r : Resource) : Option Timestamp := do
  let (marked, date) ← Text.cutAt? '_' (← r.tags.get? options.tag).toList
  if String.ofList marked = options.op then Mark.parseDate? options.zone date else none

namespace Filter

open BlockSchema

/-- The date of the mark, less the skew, has come. -/
def isDue (options : DueOptions) (now : Timestamp) (r : Resource) : Except Error Bool :=
  match options.date? r with
  | none => .ok false
  | some date => do return (← date.earlier options.skew).notAfter now

def markedForOp (options : DueOptions) : Filter where
  name := "marked-for-op"
  process := fun context resources =>
    keepM (fun r => CloudM.ofExcept (isDue options context.now r)) resources

def buildMarkedForOp (block : Json) (context : BuildContext) : Except Error Filter := do
  return markedForOp (← DueOptions.ofBlock block context)

/-! ### Scripts without reviewers -/

/-- A script that has properties but no reviewers. A script without properties is not judged. -/
def lacksReviewer (r : Resource) : Bool :=
  match r.get? "properties" with
  | some (.object properties) =>
    match properties.get? "reviewers" with
    | none => true
    | some .null => true
    | some (.array reviewers) => reviewers.isEmpty
    | some _ => false
  | _ => false

def scriptWithoutReviewer (name : String) : Filter := ofTest name fun _ r => lacksReviewer r

end Filter

end CloudPolicy
