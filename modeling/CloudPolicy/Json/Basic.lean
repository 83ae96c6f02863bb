import CloudPolicy.Number.Binary64
import CloudPolicy.StringMap

/-! JSON values. Integers and floating point numbers are different numbers, so `1` and `1.0` differ;
the fields of an object form a map, so their order carries no meaning. -/

namespace CloudPolicy

/-- A JSON number: an integer, or a floating point number. -/
inductive JsonNumber where
  | int (value : Int)
  | float (value : Binary64)
  deriving Repr, DecidableEq, Inhabited

/-- A JSON value. -/
inductive Json where
  | null
  | bool (value : Bool)
  | number (value : JsonNumber)
  | string (value : String)
  | array (items : List Json)
  | object (fields : StringMap Json)
  deriving Repr, Inhabited

namespace JsonNumber

/-- The floating point number nearest to the value. -/
def toFloat : JsonNumber → Binary64
  | int value => .ofInt value
  | float value => value

/-- Both are integers of one value, or both are floating point numbers of one value. -/
def same : JsonNumber → JsonNumber → Bool
  | int a, int b => a = b
  | float a, float b => a.equal b
  | _, _ => false

end JsonNumber

namespace Json

def int (value : Int) : Json := .number (.int value)

def nat (value : Nat) : Json := .number (.int value)

/-- An object with the given fields. -/
def obj (fields : List (String × Json)) : Json := .object (.ofList fields)

def strings (items : List String) : Json := .array (items.map .string)

/-- A text, or null when there is none. -/
def ofString? : Option String → Json
  | some text => .string text
  | none => .null

def isNull : Json → Bool
  | null => true
  | _ => false

def isObject : Json → Bool
  | object _ => true
  | _ => false

def bool? : Json → Option Bool
  | bool value => some value
  | _ => none

def string? : Json → Option String
  | string value => some value
  | _ => none

def array? : Json → Option (List Json)
  | array items => some items
  | _ => none

def object? : Json → Option (StringMap Json)
  | object fields => some fields
  | _ => none

/-- Any number, as a floating point number. -/
def float? : Json → Option Binary64
  | number value => some value.toFloat
  | _ => none

/-- An integer from `low` to `high`. -/
def intWithin? (low high : Int) : Json → Option Int
  | number (.int value) => if low ≤ value ∧ value ≤ high then some value else none
  | _ => none

/-- A signed integer of 64 bits. -/
def int64? : Json → Option Int := intWithin? (-(Nat.pow 2 63 : Int)) (Nat.pow 2 63 - 1 : Nat)

/-- A natural number below 2^64. -/
def nat? (j : Json) : Option Nat := (j.intWithin? 0 (Nat.pow 2 64 - 1 : Nat)).map Int.toNat

/-- The value of a field; what is no object has no fields. -/
def field? (j : Json) (key : String) : Option Json := j.object?.bind (·.get? key)

def stringField? (j : Json) (key : String) : Option String := (j.field? key).bind string?

/-- The strings among the items of an array field. -/
def stringsField? (j : Json) (key : String) : Option (List String) :=
  ((j.field? key).bind array?).map fun items => items.filterMap string?

/-- Structural equality, numbers being compared by `JsonNumber.same`. -/
def same : Json → Json → Bool
  | null, null => true
  | bool a, bool b => a == b
  | number a, number b => a.same b
  | string a, string b => a == b
  | array a, array b => sameItems a b
  | object ⟨a⟩, object ⟨b⟩ => sameFields a b
  | _, _ => false
where
  sameItems : List Json → List Json → Bool
    | [], [] => true
    | a :: as, b :: bs => same a b && sameItems as bs
    | _, _ => false
  sameFields : List (String × Json) → List (String × Json) → Bool
    | [], [] => true
    | (k, a) :: as, (l, b) :: bs => k == l && same a b && sameFields as bs
    | _, _ => false

end Json

end CloudPolicy
