import CloudPolicy.Number.Reader
import CloudPolicy.Time.Timestamp

/-! Reading instants. Three forms are known: the strict internet form with fixed widths, a lenient
one for stored records, and dates without a zone, which are universal time. Offsets are read as
seconds east of universal time. -/

namespace CloudPolicy.Timestamp

open CloudPolicy.Text (trimStart)

/-- From `least` to `most` digits. -/
def digits? (least most : Nat) (text : List Char) : Option (Nat × List Char) :=
  let digits := (text.take most).takeWhile Char.isDigit
  if digits.length < least then none else some (Number.ofDigits digits, text.drop digits.length)

/-- One of the given characters. -/
def oneOf? (choices : List Char) : List Char → Option (List Char)
  | c :: rest => if choices.contains c then some rest else none
  | [] => none

/-- Digits of a fraction of a second after a point: nine count and all are consumed. -/
def fraction? : List Char → Option (Nat × List Char)
  | '.' :: rest => do
    let digits := (rest.take 9).takeWhile Char.isDigit
    if digits = [] then none
    else some (Number.ofDigits digits * Nat.pow 10 (9 - digits.length), rest.dropWhile Char.isDigit)
  | rest => some (0, rest)

/-- Drop colons and white space. -/
def skipSeparators (text : List Char) : List Char :=
  text.dropWhile fun c => c = ':' || Text.isBlank c

/-- An offset: a sign, two digits of hours and two of minutes, with what `separator` accepts
between. -/
def offset? (separator : List Char → Option (List Char)) (text : List Char) :
    Option (Int × List Char) := do
  let (negative, rest) ← match text with
    | '+' :: rest => some (false, rest)
    | '-' :: rest => some (true, rest)
    | '−' :: rest => some (true, rest)
    | _ => none
  let (hours, rest) ← digits? 2 2 rest
  let rest ← separator rest
  let (minutes, rest) ← digits? 2 2 rest
  let seconds : Int := hours * 3600 + minutes * 60
  if minutes < 60 ∧ seconds < day then some (if negative then -seconds else seconds, rest) else none

/-- `Z`, `z` or an offset. -/
def zone? (separator : List Char → Option (List Char)) : List Char → Option (Int × List Char)
  | 'Z' :: rest => some (0, rest)
  | 'z' :: rest => some (0, rest)
  | text => offset? separator text

/-- The instant of a date and time in a zone, if it is in range. Second 60 is the leap second after
second 59. -/
def ofParts? (year : Int) (month day hour minute second nanos : Nat) (offset : Int) :
    Option Timestamp := do
  let date ← Date.of? year month day
  if hour < 24 ∧ minute < 60 ∧ second ≤ 60 then
    let leap := second = 60
    let time : Int := hour * 3600 + minute * 60 + (if leap then 59 else second)
    let instant := ofDateTime date (time - offset) (if leap then nanos + Timestamp.second else nanos)
    if instant.isInRange then some instant else none
  else none

/-- The internet form `2025-03-10T12:00:00.5+08:00`. -/
def strict? (text : List Char) : Option Timestamp := do
  let (year, rest) ← digits? 4 4 text
  let rest ← oneOf? ['-'] rest
  let (month, rest) ← digits? 2 2 rest
  let rest ← oneOf? ['-'] rest
  let (day, rest) ← digits? 2 2 rest
  let rest ← oneOf? ['T', 't', ' '] rest
  let (hour, rest) ← digits? 2 2 rest
  let rest ← oneOf? [':'] rest
  let (minute, rest) ← digits? 2 2 rest
  let rest ← oneOf? [':'] rest
  let (second, rest) ← digits? 2 2 rest
  let (nanos, rest) ← fraction? rest
  let (offset, rest) ← zone? (oneOf? [':']) rest
  if rest = [] then ofParts? year month day hour minute second nanos offset else none

/-- A year: up to four digits, or a sign and any number of digits. -/
def year? (text : List Char) : Option (Int × List Char) :=
  match trimStart text with
  | '-' :: rest => (digits? 1 rest.length rest).map fun (n, rest) => (-(n : Int), rest)
  | '+' :: rest => (digits? 1 rest.length rest).map fun (n, rest) => ((n : Int), rest)
  | rest => (digits? 1 4 rest).map fun (n, rest) => ((n : Int), rest)

/-- One or two digits after white space. -/
def twoDigits? (text : List Char) : Option (Nat × List Char) := digits? 1 2 (trimStart text)

/-- The parts of a time of day: hour, minute, second and nanoseconds, with `gap` dropped before each
colon. -/
def time? (gap : List Char → List Char) (text : List Char) :
    Option ((Nat × Nat × Nat × Nat) × List Char) := do
  let (hour, rest) ← twoDigits? text
  let rest ← oneOf? [':'] (gap rest)
  let (minute, rest) ← twoDigits? rest
  let rest ← oneOf? [':'] (gap rest)
  let (second, rest) ← twoDigits? rest
  let (nanos, rest) ← fraction? rest
  some ((hour, minute, second, nanos), rest)

/-- The parts of a date, with `gap` dropped before each dash. -/
def date? (gap : List Char → List Char) (text : List Char) :
    Option ((Int × Nat × Nat) × List Char) := do
  let (year, rest) ← year? text
  let rest ← oneOf? ['-'] (gap rest)
  let (month, rest) ← twoDigits? rest
  let rest ← oneOf? ['-'] (gap rest)
  let (day, rest) ← twoDigits? rest
  some ((year, month, day), rest)

/-- The form of stored records: short numbers, signed years and white space between the parts. -/
def lenient? (text : List Char) : Option Timestamp := do
  let ((year, month, day), rest) ← date? trimStart text
  let rest ← oneOf? ['T', 't', ' '] rest
  let ((hour, minute, second, nanos), rest) ← time? trimStart rest
  let rest := trimStart rest
  let (offset, rest) ←
    if (rest.take 3).map Char.toUpper = ['U', 'T', 'C'] then some (0, rest.drop 3)
    else zone? (fun rest => some (skipSeparators rest)) rest
  if trimStart rest = [] then ofParts? year month day hour minute second nanos offset else none

/-- A date and time without a zone; `separator` stands between them. -/
def zoneless? (separator : List Char → Option (List Char)) (text : List Char) :
    Option Timestamp := do
  let ((year, month, day), rest) ← date? id text
  let rest ← separator rest
  let ((hour, minute, second, nanos), rest) ← time? id rest
  if rest = [] then ofParts? year month day hour minute second nanos 0 else none

/-- The date of a record: the strict form, or a zoneless one with `T` or white space in the middle.
-/
def ofRecord? (text : String) : Option Timestamp :=
  let text := text.toList
  strict? text <|> zoneless? (oneOf? ['T']) text
    <|> zoneless? (fun rest => some (trimStart rest)) text

end CloudPolicy.Timestamp
