import CloudPolicy.Json.Basic
import CloudPolicy.Number.Reader

/-! Reading JSON text. Integers that fit 64 bits are integers and all other numbers floating point;
arrays and objects nest at most 127 deep. A text is read as written, with its fields in order and
repeated keys, and then normalized: keys ascend and the last value of a key stays. -/

namespace CloudPolicy.Json

def maxDepth : Nat := 127

def isBlank (c : Char) : Bool := c = ' ' || c = '\n' || c = '\t' || c = '\r'

def skipBlanks (text : List Char) : List Char := text.dropWhile isBlank

def hexValue? (c : Char) : Option Nat :=
  if c.isDigit then some (c.toNat - '0'.toNat)
  else if 'a' ≤ c ∧ c ≤ 'f' then some (c.toNat - 'a'.toNat + 10)
  else if 'A' ≤ c ∧ c ≤ 'F' then some (c.toNat - 'A'.toNat + 10)
  else none

/-- Four hexadecimal digits. -/
def unit? : List Char → Option (Nat × List Char)
  | a :: b :: c :: d :: rest => do
    let a ← hexValue? a
    let b ← hexValue? b
    let c ← hexValue? c
    let d ← hexValue? d
    some (((a * 16 + b) * 16 + c) * 16 + d, rest)
  | _ => none

/-- The character of a `\u` escape; a high surrogate needs a low one after it. -/
def escapedUnit? (text : List Char) : Option (Char × List Char) := do
  let (first, rest) ← unit? text
  if 0xDC00 ≤ first ∧ first ≤ 0xDFFF then none
  else if 0xD800 ≤ first ∧ first ≤ 0xDBFF then
    match rest with
    | '\\' :: 'u' :: rest => do
      let (second, rest) ← unit? rest
      if 0xDC00 ≤ second ∧ second ≤ 0xDFFF then
        some (Char.ofNat (0x10000 + (first - 0xD800) * 0x400 + (second - 0xDC00)), rest)
      else none
    | _ => none
  else some (Char.ofNat first, rest)

/-- The character after a backslash. -/
def escaped? : List Char → Option (Char × List Char)
  | '"' :: rest => some ('"', rest)
  | '\\' :: rest => some ('\\', rest)
  | '/' :: rest => some ('/', rest)
  | 'b' :: rest => some (Char.ofNat 8, rest)
  | 'f' :: rest => some (Char.ofNat 12, rest)
  | 'n' :: rest => some ('\n', rest)
  | 'r' :: rest => some ('\r', rest)
  | 't' :: rest => some ('\t', rest)
  | 'u' :: rest => escapedUnit? rest
  | _ => none

/-- The rest of a string after its opening quote. -/
def readString : Nat → List Char → Option (List Char × List Char)
  | 0, _ => none
  | _ + 1, [] => none
  | fuel + 1, c :: rest =>
    if c = '"' then some ([], rest)
    else if c = '\\' then do
      let (d, rest) ← escaped? rest
      let (text, rest) ← readString fuel rest
      some (d :: text, rest)
    else if c.toNat < 32 then none
    else do
      let (text, rest) ← readString fuel rest
      some (c :: text, rest)

/-- `10 ^ n`, rounded. -/
def powerOfTen (n : Nat) : Binary64 := .ofDecimal false 1 n

/-- `significand * 10 ^ exponent`, the significand and the power being rounded first; powers beyond
the largest one are applied in steps. Nothing for a number that is too large. -/
def scale? : Nat → Binary64 → Int → Option Binary64
  | 0, value, _ => some value
  | steps + 1, value, exponent =>
    if exponent.natAbs ≤ 308 then
      if 0 ≤ exponent then (value.mul (powerOfTen exponent.natAbs)).onlyFinite?
      else some (value.div (powerOfTen exponent.natAbs))
    else if value.isZero then some value
    else if 0 ≤ exponent then none
    else scale? steps (value.div (powerOfTen 308)) (exponent + 308)

/-- Append the digits of a whole part while the number fits 64 bits, and count the others. -/
def gatherWhole (significand : Nat) : List Char → Nat × Nat
  | [] => (significand, 0)
  | c :: digits =>
    let next := 10 * significand + Number.digitValue c
    if next < Nat.pow 2 64 then gatherWhole next digits else (significand, digits.length + 1)

/-- Append the digits of a fraction while the number fits 64 bits, and count the appended ones. -/
def gatherFraction (significand : Nat) : List Char → Nat × Nat
  | [] => (significand, 0)
  | c :: digits =>
    let next := 10 * significand + Number.digitValue c
    if next < Nat.pow 2 64 then
      let (significand, count) := gatherFraction next digits
      (significand, count + 1)
    else (significand, 0)

/-- The parts of a number after its sign: digits, whether it has a point, the digits after it, and
the exponent if there is one. -/
structure NumberParts where
  whole : List Char
  fraction : Option (List Char)
  exponent : Option Int

/-- At least one digit. -/
def digits? (text : List Char) : Option (List Char × List Char) :=
  let digits := text.takeWhile Char.isDigit
  if digits = [] then none else some (digits, text.dropWhile Char.isDigit)

/-- Cut the parts of a number off a text. A whole part of several digits does not start with zero.
-/
def numberParts? (text : List Char) : Option (NumberParts × List Char) := do
  let (whole, rest) ← digits? text
  if 1 < whole.length ∧ whole.head? = some '0' then none
  else
    let (fraction, rest) ← match rest with
      | '.' :: rest => (digits? rest).map fun (digits, rest) => (some digits, rest)
      | rest => some (none, rest)
    let (exponent, rest) ← match rest with
      | c :: after =>
        if c = 'e' ∨ c = 'E' then
          let (negative, digits) := Number.takeSign after
          (digits? digits).map fun (digits, rest) =>
            let n : Int := Number.ofDigits digits
            (some (if negative then -n else n), rest)
        else some (none, rest)
      | [] => some (none, rest)
    some (⟨whole, fraction, exponent⟩, rest)

/-- The number that its parts stand for: an integer when there is neither point nor exponent and it
fits 64 bits. Minus zero is a floating point number. -/
def NumberParts.value? (negative : Bool) (parts : NumberParts) : Option JsonNumber :=
  let (significand, dropped) := gatherWhole 0 parts.whole
  match parts.fraction, parts.exponent, dropped with
  | none, none, 0 =>
    if !negative then some (.int significand)
    else if 0 < significand ∧ significand ≤ Nat.pow 2 63 then some (.int (-significand))
    else some (.float (Binary64.ofNat significand).negate)
  | fraction, exponent, dropped =>
    let (significand, appended) := gatherFraction significand (fraction.getD [])
    let power : Int := dropped - appended + exponent.getD 0
    (scale? 3 (.ofNat significand) power).map fun value =>
      .float (if negative then value.negate else value)

def readNumber? (text : List Char) : Option (JsonNumber × List Char) := do
  let (negative, rest) := match text with
    | '-' :: rest => (true, rest)
    | rest => (false, rest)
  let (parts, rest) ← numberParts? rest
  let value ← parts.value? negative
  some (value, rest)

mutual

/-- One value and what follows it. `depth` bounds the nesting that is left. -/
def readValue : (fuel depth : Nat) → List Char → Option (Json × List Char)
  | 0, _, _ => none
  | fuel + 1, depth, text =>
    match skipBlanks text with
    | 'n' :: 'u' :: 'l' :: 'l' :: rest => some (null, rest)
    | 't' :: 'r' :: 'u' :: 'e' :: rest => some (bool true, rest)
    | 'f' :: 'a' :: 'l' :: 's' :: 'e' :: rest => some (bool false, rest)
    | '"' :: rest => (readString fuel rest).map fun (text, rest) =>
      (string (String.ofList text), rest)
    | '[' :: rest =>
      match depth with
      | 0 => none
      | depth + 1 =>
        match skipBlanks rest with
        | ']' :: rest => some (array [], rest)
        | rest => (readItems fuel depth rest).map fun (items, rest) => (array items, rest)
    | '{' :: rest =>
      match depth with
      | 0 => none
      | depth + 1 =>
        match skipBlanks rest with
        | '}' :: rest => some (object ∅, rest)
        | rest => (readFields fuel depth rest).map fun (fields, rest) => (object ⟨fields⟩, rest)
    | rest => (readNumber? rest).map fun (value, rest) => (number value, rest)

/-- The items of an array from the first one to the closing bracket. -/
def readItems : (fuel depth : Nat) → List Char → Option (List Json × List Char)
  | 0, _, _ => none
  | fuel + 1, depth, text => do
    let (item, rest) ← readValue fuel depth text
    match skipBlanks rest with
    | ',' :: rest => do
      let (items, rest) ← readItems fuel depth rest
      some (item :: items, rest)
    | ']' :: rest => some ([item], rest)
    | _ => none

/-- The fields of an object from the first key to the closing brace. -/
def readFields : (fuel depth : Nat) → List Char → Option (List (String × Json) × List Char)
  | 0, _, _ => none
  | fuel + 1, depth, text =>
    match skipBlanks text with
    | '"' :: rest => do
      let (key, rest) ← readString fuel rest
      match skipBlanks rest with
      | ':' :: rest => do
        let (value, rest) ← readValue fuel depth rest
        let field := (String.ofList key, value)
        match skipBlanks rest with
        | ',' :: rest => do
          let (fields, rest) ← readFields fuel depth rest
          some (field :: fields, rest)
        | '}' :: rest => some ([field], rest)
        | _ => none
      | _ => none
    | _ => none

end

/-- Order the fields of every object, the last value of a repeated key winning. -/
def normalize : Json → Json
  | array items => array (normalizeItems items)
  | object ⟨fields⟩ => object (.ofList (normalizeFields fields))
  | other => other
where
  normalizeItems : List Json → List Json
    | [] => []
    | item :: items => normalize item :: normalizeItems items
  normalizeFields : List (String × Json) → List (String × Json)
    | [] => []
    | (key, value) :: fields => (key, normalize value) :: normalizeFields fields

/-- The value of a whole text as it is written: fields in their order, repeated keys included. -/
def readWritten? (text : List Char) : Option Json := do
  let (value, rest) ← readValue (2 * text.length + 2) maxDepth text
  if skipBlanks rest = [] then some value else none

/-- The value of a whole text. -/
def read? (text : String) : Option Json := (readWritten? text.toList).map normalize

end CloudPolicy.Json
