import CloudPolicy.Number.Binary64
import CloudPolicy.Text.Blank

/-! Reading numbers: natural numbers in decimal, and floating point numbers written with an optional
sign, point and exponent or as `inf`, `infinity` or `nan`. -/

namespace CloudPolicy.Number

def digitValue (c : Char) : Nat := c.toNat - '0'.toNat

/-- The number that decimal digits stand for. -/
def ofDigits (digits : List Char) : Nat := digits.foldl (fun n c => 10 * n + digitValue c) 0

/-- Decimal digits and nothing else, at least one. -/
def nat? (text : List Char) : Option Nat :=
  if text ≠ [] ∧ text.all Char.isDigit then some (ofDigits text) else none

/-- A natural number below `2 ^ bits`; a plus sign may stand in front. -/
def word? (bits : Nat) (text : List Char) : Option Nat :=
  let digits := match text with
    | '+' :: digits => digits
    | digits => digits
  (nat? digits).filter (· < Nat.pow 2 bits)

/-- An integer of 32 bits with an optional sign. -/
def int32? (text : List Char) : Option Int :=
  match text with
  | '-' :: digits => ((nat? digits).filter (· ≤ Nat.pow 2 31)).map fun n => -(n : Int)
  | text => (word? 31 text).map Int.ofNat

/-- A sign, true for minus, and what follows it. -/
def takeSign : List Char → Bool × List Char
  | '-' :: rest => (true, rest)
  | '+' :: rest => (false, rest)
  | rest => (false, rest)

/-- The exponent after `e` at the end of a number; no exponent is zero. -/
def exponent? : List Char → Option Int
  | [] => some 0
  | c :: rest =>
    if c = 'e' ∨ c = 'E' then
      let (negative, digits) := takeSign rest
      (nat? digits).map fun n => if negative then -(n : Int) else n
    else none

/-- Digits with an optional point and exponent, at least one digit before or after the point. -/
def decimal? (negative : Bool) (text : List Char) : Option Binary64 :=
  let whole := text.takeWhile Char.isDigit
  let (fraction, rest) := match text.dropWhile Char.isDigit with
    | '.' :: rest => (rest.takeWhile Char.isDigit, rest.dropWhile Char.isDigit)
    | rest => ([], rest)
  if whole = [] ∧ fraction = [] then none
  else (exponent? rest).map fun e =>
    Binary64.ofDecimal negative (ofDigits (whole ++ fraction)) (e - fraction.length)

/-- A floating point number. -/
def float? (text : List Char) : Option Binary64 :=
  let (negative, rest) := takeSign text
  let word := String.ofList (rest.map Char.toLower)
  if word = "inf" ∨ word = "infinity" then some (.infinite negative)
  else if word = "nan" then some .nan
  else decimal? negative rest

end CloudPolicy.Number
