import CloudPolicy.Resource.Path

/-! Predicates on the value under a key: an operator and an expected value, or one of four special
words that ask for the presence or the truthiness of the value. -/

namespace CloudPolicy

/-- The comparison operators. -/
inductive Operator where
  | eq
  | ne
  | gt
  | gte
  | lt
  | lte
  | isIn
  | notIn
  | contains
  deriving DecidableEq, Repr, Inhabited

namespace Operator

def ofName? : String → Option Operator
  | "eq" => some eq
  | "equal" => some eq
  | "ne" => some ne
  | "not-equal" => some ne
  | "gt" => some gt
  | "greater-than" => some gt
  | "gte" => some gte
  | "ge" => some gte
  | "lt" => some lt
  | "less-than" => some lt
  | "lte" => some lte
  | "le" => some lte
  | "in" => some isIn
  | "not-in" => some notIn
  | "ni" => some notIn
  | "contains" => some contains
  | _ => none

def ofName (name : String) : Except Error Operator :=
  match ofName? name with
  | some operator => .ok operator
  | none => .error (.policyValidation ("unknown operator '" ++ name ++ "'"))

/-- The operator that the field `op` of a block names. -/
def ofBlock (block : Json) (default : Operator) : Except Error Operator :=
  match block.stringField? "op" with
  | some name => ofName name
  | none => .ok default

/-- Compare two numbers. The membership operators never hold. -/
def compareNumbers (operator : Operator) (lhs rhs : Binary64) : Bool :=
  match operator with
  | eq => lhs.equal rhs
  | ne => !lhs.equal rhs
  | gt => rhs.less lhs
  | gte => rhs.lessOrEqual lhs
  | lt => lhs.less rhs
  | lte => lhs.lessOrEqual rhs
  | _ => false

end Operator

namespace Json

/-- A list is taken as it is, any other value as its only item. -/
def asList : Json → List Json
  | array items => items
  | other => [other]

/-- A number, or a text that spells one. -/
def asNumber? : Json → Option Binary64
  | number value => some value.toFloat
  | string text => Number.float? (Text.trim text.toList)
  | _ => none

/-- The same text up to the case of the letters a to z. -/
def sameLetters (a b : String) : Bool := a.toList.map Char.toLower == b.toList.map Char.toLower

/-- A text that spells a truth value. -/
def spells (text : String) (value : Bool) : Bool :=
  sameLetters text (if value then "true" else "false")

/-- Equality with coercions: a number equals a text that spells it, and a truth value a text that
spells it in any case. -/
def looselyEqual (a b : Json) : Bool :=
  a.same b ||
    match a, b with
    | number _, _ => sameNumber a b
    | _, number _ => sameNumber a b
    | bool value, string text => spells text value
    | string text, bool value => spells text value
    | _, _ => false
where
  sameNumber (a b : Json) : Bool :=
    match asNumber? a, asNumber? b with
    | some x, some y => x.equal y
    | _, _ => false

/-- Order two values: as numbers when both are or spell numbers, and two other texts by their
characters. -/
def looselyCompare? (a b : Json) : Option Ordering :=
  match asNumber? a, asNumber? b, a, b with
  | some x, some y, _, _ => x.compare? y
  | _, _, string x, string y => some (compare x y)
  | _, _, _, _ => none

end Json

/-- The operator holds between a value and the expected one. -/
def Operator.holds (operator : Operator) (actual expected : Json) : Bool :=
  match operator with
  | eq => actual.looselyEqual expected
  | ne => !actual.looselyEqual expected
  | gt => actual.looselyCompare? expected == some .gt
  | gte => (actual.looselyCompare? expected).any (· != .lt)
  | lt => actual.looselyCompare? expected == some .lt
  | lte => (actual.looselyCompare? expected).any (· != .gt)
  | isIn => expected.asList.any fun e => actual.looselyEqual e
  | notIn => !expected.asList.any fun e => actual.looselyEqual e
  | contains =>
    match actual with
    | .array items => items.any fun item => item.looselyEqual expected
    | .string text => Text.contains text expected.render
    | _ => false

/-- What a value is compared with. -/
inductive Expected where
  | absent
  | present
  /-- Absent or not truthy. -/
  | empty
  /-- Truthy. -/
  | notNull
  | value (value : Json)
  deriving Repr, Inhabited

def Expected.ofJson : Json → Expected
  | .string "absent" => absent
  | .string "present" => present
  | .string "empty" => empty
  | .string "not-null" => notNull
  | other => value other

/-- A predicate on the value under a key. -/
structure Predicate where
  key : String
  expected : Expected
  operator : Operator
  deriving Repr, Inhabited

namespace Predicate

/-- The entries of a block that can spell a predicate in short form. -/
def shorthand (block : Json) : List (String × Json) :=
  match block with
  | .object fields => fields.entries.filter fun e => e.1 ≠ "type" ∧ e.1 ≠ "op"
  | _ => []

/-- The predicate of a block: the fields `key`, `value` and `op`, or in short form one entry from
the key to the expected value. -/
def ofBlock (block : Json) : Except Error Predicate := do
  let operator ← Operator.ofBlock block .eq
  match block.stringField? "key" with
  | some key => .ok ⟨key, .ofJson ((block.field? "value").getD .null), operator⟩
  | none =>
    match shorthand block with
    | [(key, value)] => .ok ⟨key, .ofJson value, operator⟩
    | _ => .error (.policyValidation
        "value predicate requires 'key' or a single key: value entry")

/-- Test the value that was found, if any. -/
def holdsOf (p : Predicate) (actual : Option Json) : Bool :=
  match p.expected, actual with
  | .absent, actual => actual.isNone
  | .present, actual => actual.isSome
  | .empty, actual => !actual.any Json.isTruthy
  | .notNull, actual => actual.any Json.isTruthy
  | .value _, none => p.operator == .ne || p.operator == .notIn
  | .value expected, some actual => p.operator.holds actual expected

def holds (p : Predicate) (r : Resource) : Bool := p.holdsOf (r.resolve? p.key)

end Predicate

end CloudPolicy
