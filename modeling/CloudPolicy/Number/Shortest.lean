import CloudPolicy.Number.Binary64

/-! Decimal text of floating point numbers: the fewest digits that read back as the same number, of
those the nearest to it, in one of two layouts by the size of the number. -/

namespace CloudPolicy.Number

/-- Decimal digits of a positive number, the first of them at the power of ten `exponent`. -/
structure Decimal where
  digits : List Char
  exponent : Int
  deriving Repr, DecidableEq

def natDigits (n : Nat) : List Char := Nat.toDigits 10 n

/-- The power of ten of the first digit of `num / den`. Below one, count how often the fraction can
be multiplied by ten and stay below one. -/
def leadingPower (num den : Nat) : Int :=
  if den ≤ num then (natDigits (num / den)).length - 1
  else -(shift 330 (num * 10) : Nat) - 1
where
  shift : Nat → Nat → Nat
    | 0, _ => 0
    | fuel + 1, num => if den ≤ num then 0 else shift fuel (num * 10) + 1

/-- The ends of the reals that round to `units`, in quarters of a unit, and whether they belong. -/
def roundingRange (units : Nat) : Nat × Nat × Bool :=
  let step := Binary64.spacing units
  let leastOfBinade : Bool := units = Nat.pow 2 (Binary64.precision - 1) * step
  let below := if 1 < step ∧ leastOfBinade then step / 2 else step
  (4 * units - 2 * below, 4 * units + 2 * step, units / step % 2 = 0)

/-- The decimal with at most `count` digits that reads back as `units`, when there is one: one of
the two neighbours of the value among the multiples of the last digit's power of ten. -/
def candidate? (units : Nat) (power : Int) (count : Nat) : Option Decimal :=
  let (low, high, closed) := roundingRange units
  let last : Int := power + 1 - count
  -- The value is `num / den` multiples of the last digit's power of ten.
  let scale : Nat := Nat.pow 10 last.natAbs
  let den : Nat := if last < 0 then Binary64.one else Binary64.one * scale
  let num : Nat := if last < 0 then units * scale else units
  let inside (n : Nat) : Bool :=
    let quarters := 4 * n * den
    let least := if last < 0 then low * scale else low
    let greatest := if last < 0 then high * scale else high
    if closed then least ≤ quarters ∧ quarters ≤ greatest
    else least < quarters ∧ quarters < greatest
  let floor := num / den
  let above := 2 * (num % den)
  let up := den < above ∨ (den = above ∧ floor % 2 = 1)
  let ordered := if up then [floor + 1, floor] else [floor, floor + 1]
  (ordered.find? fun n => 0 < n ∧ inside n).map fun n =>
    let digits := natDigits n
    let kept := (digits.reverse.dropWhile (· = '0')).reverse
    ⟨kept, last + digits.length - 1⟩

/-- The shortest decimal that reads back as a positive number of units. -/
def shortest (units : Nat) : Decimal :=
  let power := leadingPower units Binary64.one
  ((List.range 17).findSome? fun n => candidate? units power (n + 1)).getD ⟨['0'], 0⟩

/-- Which powers of ten of the first digit are written with all places, and whether a positive
exponent carries its sign. -/
structure Layout where
  least : Int
  greatest : Int
  plus : Bool

/-- Numbers in documents: `0.00001`, `1e-6`, `1000000000000000.0`, `1e+16`. -/
def Layout.document : Layout := ⟨-5, 15, true⟩

/-- Numbers in diagnostic text: `0.0001`, `1e-5`, `1e16`. -/
def Layout.diagnostic : Layout := ⟨-4, 15, false⟩

/-- All places, with at least one on each side of the point. -/
def Decimal.positional (d : Decimal) : List Char :=
  if d.exponent < 0 then
    '0' :: '.' :: (List.replicate (d.exponent.natAbs - 1) '0' ++ d.digits)
  else
    let whole := d.exponent.natAbs + 1
    let front := d.digits.take whole ++ List.replicate (whole - d.digits.length) '0'
    let fraction := d.digits.drop whole
    front ++ '.' :: (if fraction.isEmpty then ['0'] else fraction)

/-- One digit before the point and the power of ten after `e`. -/
def Decimal.scientific (plus : Bool) (d : Decimal) : List Char :=
  let fraction := d.digits.drop 1
  let sign := if d.exponent < 0 then ['-'] else if plus then ['+'] else []
  d.digits.take 1 ++ (if fraction.isEmpty then [] else '.' :: fraction) ++
    'e' :: (sign ++ natDigits d.exponent.natAbs)

def floatText (layout : Layout) : Binary64 → List Char
  | .finite negative units =>
    let sign := if negative then ['-'] else []
    if units = 0 then sign ++ ['0', '.', '0']
    else
      let d := shortest units
      sign ++ if layout.least ≤ d.exponent ∧ d.exponent ≤ layout.greatest then d.positional
        else d.scientific layout.plus
  | .infinite negative => if negative then ['-', 'i', 'n', 'f'] else ['i', 'n', 'f']
  | .nan => ['N', 'a', 'N']

end CloudPolicy.Number
