/-! Binary floating point of 64 bits. Every finite value is a whole number of units of 2^-1074, so
a value is a sign and a natural number, comparison is comparison of integers, and each operation is
its exact result rounded once, to the nearest representable number of units and to the even one of
two that are equally near. -/

namespace CloudPolicy

/-- A 64-bit floating point number. `finite negative units` stands for `units * 2^-1074`, negated
when `negative`; the two zeros differ in the sign only. -/
inductive Binary64 where
  | finite (negative : Bool) (units : Nat)
  | infinite (negative : Bool)
  | nan
  deriving Repr, DecidableEq, Inhabited

namespace Binary64

/-- One, in units. -/
def one : Nat := Nat.pow 2 1074

/-- The least number of units that is too large. -/
def limit : Nat := Nat.pow 2 2098

/-- Bits of the significand. -/
def precision : Nat := 53

def bitLength (n : Nat) : Nat := if n = 0 then 0 else n.log2 + 1

/-- The distance, in units, between representable numbers around `units`. -/
def spacing (units : Nat) : Nat := Nat.pow 2 (bitLength units - precision)

/-- The multiple of `step` nearest to `num / den`, in steps; of two the even one. -/
def nearest (num den step : Nat) : Nat :=
  let quotient := num / (den * step)
  let twice := 2 * (num % (den * step))
  if twice < den * step then quotient
  else if den * step < twice then quotient + 1
  else quotient + quotient % 2

/-- `num / den` units, rounded. -/
def roundUnits (num den : Nat) : Nat :=
  let step := spacing (num / den)
  nearest num den step * step

/-- The number nearest to `num / den` units, infinite when it is too large. -/
def ofUnits (negative : Bool) (num den : Nat) : Binary64 :=
  let units := roundUnits num den
  if units < limit then finite negative units else infinite negative

def zero : Binary64 := finite false 0

def ofInt (i : Int) : Binary64 := ofUnits (i < 0) (i.natAbs * one) 1

def ofNat (n : Nat) : Binary64 := ofInt n

/-- The number nearest to `digits * 10 ^ exponent`. A scale far outside the range of the format is
decided by the position of the first digit. -/
def ofDecimal (negative : Bool) (digits : Nat) (exponent : Int) : Binary64 :=
  let position := (Nat.toDigits 10 digits).length + exponent
  if digits = 0 then finite negative 0
  else if position > 310 then infinite negative
  else if position < -330 then finite negative 0
  else if exponent < 0 then ofUnits negative (digits * one) (Nat.pow 10 exponent.natAbs)
  else ofUnits negative (digits * Nat.pow 10 exponent.natAbs * one) 1

def isFinite : Binary64 → Bool
  | finite _ _ => true
  | _ => false

/-- The number itself, unless it is infinite or not a number. -/
def onlyFinite? (x : Binary64) : Option Binary64 := if x.isFinite then some x else none

def negate : Binary64 → Binary64
  | finite negative units => finite (!negative) units
  | infinite negative => infinite (!negative)
  | nan => nan

/-- The value of a finite number, in units. -/
def signed (negative : Bool) (units : Nat) : Int := if negative then -(units : Int) else units

/-- The order of two numbers, `none` when one of them is not a number. -/
def compare? : Binary64 → Binary64 → Option Ordering
  | nan, _ => none
  | _, nan => none
  | infinite a, infinite b => some (compare b a)
  | infinite a, finite _ _ => some (if a then .lt else .gt)
  | finite _ _, infinite b => some (if b then .gt else .lt)
  | finite a x, finite b y => some (compare (signed a x) (signed b y))

def equal (x y : Binary64) : Bool := compare? x y = some .eq

def less (x y : Binary64) : Bool := compare? x y = some .lt

def lessOrEqual (x y : Binary64) : Bool := x.less y || x.equal y

def isZero (x : Binary64) : Bool := x.equal zero

/-- A sum of zero is negative only if both terms are. -/
def add : Binary64 → Binary64 → Binary64
  | nan, _ => nan
  | _, nan => nan
  | infinite a, infinite b => if a = b then infinite a else nan
  | infinite a, finite _ _ => infinite a
  | finite _ _, infinite b => infinite b
  | finite a x, finite b y =>
    let sum := signed a x + signed b y
    if sum = 0 then finite (a && b) 0 else ofUnits (sum < 0) sum.natAbs 1

def mul : Binary64 → Binary64 → Binary64
  | nan, _ => nan
  | _, nan => nan
  | infinite a, infinite b => infinite (a != b)
  | infinite a, finite b y => if y = 0 then nan else infinite (a != b)
  | finite a x, infinite b => if x = 0 then nan else infinite (a != b)
  | finite a x, finite b y => ofUnits (a != b) (x * y) one

def div : Binary64 → Binary64 → Binary64
  | nan, _ => nan
  | _, nan => nan
  | infinite _, infinite _ => nan
  | infinite a, finite b _ => infinite (a != b)
  | finite a _, infinite b => finite (a != b) 0
  | finite a x, finite b y =>
    if y = 0 then (if x = 0 then nan else infinite (a != b))
    else ofUnits (a != b) (x * one) y

/-- No fraction. -/
def isWhole : Binary64 → Bool
  | finite _ units => units % one = 0
  | _ => false

/-- The whole part, kept within `low` and `high`; zero for what is not a number. -/
def truncate (low high : Int) : Binary64 → Int
  | finite negative units => max low (min high (signed negative (units / one)))
  | infinite negative => if negative then low else high
  | nan => 0

/-- The whole part as a signed integer of 64 bits. -/
def toInt64 (x : Binary64) : Int := x.truncate (-(Nat.pow 2 63 : Int)) (Nat.pow 2 63 - 1 : Nat)

/-- The other way round two numbers have the opposite order. -/
theorem compare?_swap (x y : Binary64) : y.compare? x = (x.compare? y).map Ordering.swap := by
  cases x with
  | nan => cases y <;> rfl
  | infinite a =>
      cases y with
      | nan => rfl
      | infinite b => exact congrArg some Std.OrientedCmp.eq_swap
      | finite b y => cases a <;> rfl
  | finite a x =>
      cases y with
      | nan => rfl
      | infinite b => cases b <;> rfl
      | finite b y => exact congrArg some Std.OrientedCmp.eq_swap

theorem equal_comm (x y : Binary64) : x.equal y = y.equal x := by
  rw [equal, equal, compare?_swap x y]
  cases x.compare? y with
  | none => rfl
  | some order => cases order <;> rfl

end Binary64

end CloudPolicy
