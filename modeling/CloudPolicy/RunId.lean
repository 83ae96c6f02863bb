import CloudPolicy.Json.Reader

/-! Identifiers of policy runs: 128 bits, written as 32 hexadecimal digits in groups of 8, 4, 4, 4
and 12. -/

namespace CloudPolicy

structure RunId where
  bits : BitVec 128
  deriving DecidableEq, Repr, Inhabited

namespace RunId

def ofNat (n : Nat) : RunId := ⟨BitVec.ofNat 128 n⟩

/-- The last `count` hexadecimal digits of a number. -/
def hexDigits : (count : Nat) → Nat → List Char
  | 0, _ => []
  | count + 1, n => hexDigits count (n / 16) ++ [(Nat.toDigits 16 (n % 16)).headD '0']

/-- Put a dash before the digits at places 8, 12, 16 and 20. -/
def group (digits : List Char) : List Char :=
  let part (start length : Nat) := (digits.drop start).take length
  part 0 8 ++ '-' :: (part 8 4 ++ '-' :: (part 12 4 ++ '-' :: (part 16 4 ++ '-' :: part 20 12)))

def text (id : RunId) : String := String.ofList (group (hexDigits 32 id.bits.toNat))

/-- The number of hexadecimal digits in either case. -/
def ofHex? (digits : List Char) : Option Nat :=
  digits.foldlM (fun n c => (Json.hexValue? c).map fun d => 16 * n + d) 0

/-- 32 digits. -/
def ofPlain? (text : List Char) : Option RunId :=
  if text.length = 32 then (ofHex? text).map ofNat else none

/-- Digits grouped by dashes. -/
def ofGrouped? (text : List Char) : Option RunId :=
  let digits := text.filter (· ≠ '-')
  if digits.length = 32 ∧ group digits = text then ofPlain? digits else none

/-- 32 digits, plain or grouped; the grouped form may stand in braces or after `urn:uuid:`. -/
def ofText? (text : String) : Option RunId :=
  let chars := text.toList
  match chars with
  | '{' :: rest =>
    if rest.getLast? = some '}' then ofGrouped? rest.dropLast else none
  | 'u' :: 'r' :: 'n' :: ':' :: 'u' :: 'u' :: 'i' :: 'd' :: ':' :: rest => ofGrouped? rest
  | chars => if chars.length = 32 then ofPlain? chars else ofGrouped? chars

end RunId

end CloudPolicy
