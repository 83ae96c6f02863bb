import CloudPolicy.Json.Basic
import CloudPolicy.Number.Shortest

/-! The compact text of a JSON value: no spaces, fields in the order of the object's entries, and of
the characters of a string only quotes, backslashes and control characters escaped. -/

namespace CloudPolicy.Json

def hexDigit (n : Nat) : Char := (Nat.toDigits 16 (n % 16)).headD '0'

/-- How one character of a string is written. -/
def escape (c : Char) : List Char :=
  if c = '"' then ['\\', '"']
  else if c = '\\' then ['\\', '\\']
  else if c = '\n' then ['\\', 'n']
  else if c = '\r' then ['\\', 'r']
  else if c = '\t' then ['\\', 't']
  else if c.toNat = 8 then ['\\', 'b']
  else if c.toNat = 12 then ['\\', 'f']
  else if c.toNat < 32 then ['\\', 'u', '0', '0', hexDigit (c.toNat / 16), hexDigit c.toNat]
  else [c]

def quote (text : List Char) : List Char := '"' :: (text.flatMap escape ++ ['"'])

def intText (i : Int) : List Char :=
  if i < 0 then '-' :: Number.natDigits i.natAbs else Number.natDigits i.natAbs

/-- A number; what has no finite value is written as null. -/
def numberText : JsonNumber → List Char
  | .int value => intText value
  | .float value =>
    if value.isFinite then Number.floatText .document value else "null".toList

/-- The characters of the compact text. -/
def chars : Json → List Char
  | null => ['n', 'u', 'l', 'l']
  | bool true => ['t', 'r', 'u', 'e']
  | bool false => ['f', 'a', 'l', 's', 'e']
  | number value => numberText value
  | string value => quote value.toList
  | array items => '[' :: (itemChars items ++ [']'])
  | object ⟨fields⟩ => '{' :: (fieldChars fields ++ ['}'])
where
  itemChars : List Json → List Char
    | [] => []
    | [item] => chars item
    | item :: items => chars item ++ ',' :: itemChars items
  fieldChars : List (String × Json) → List Char
    | [] => []
    | [(key, value)] => quote key.toList ++ ':' :: chars value
    | (key, value) :: fields => quote key.toList ++ ':' :: (chars value ++ ',' :: fieldChars fields)

/-- The compact text. -/
def text (j : Json) : String := String.ofList j.chars

end CloudPolicy.Json
