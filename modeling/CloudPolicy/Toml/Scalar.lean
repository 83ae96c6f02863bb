import CloudPolicy.Json.Reader
import CloudPolicy.Number.Reader
import CloudPolicy.Number.Shortest
import CloudPolicy.Time.Calendar
import CloudPolicy.Time.Printer

/-! Scalars of TOML: texts, numbers, truth values and dates. -/

namespace CloudPolicy.Toml

/-- A reader takes a part off the front of a text. -/
abbrev Reader (α : Type) := List Char → Option (α × List Char)

/-- The first reader that succeeds. -/
def firstOf {α : Type} (a b : Reader α) : Reader α := fun text => (a text).or (b text)

def isSpace (c : Char) : Bool := c = ' ' || c = '\t'

def skipSpace (text : List Char) : List Char := text.dropWhile isSpace

/-- A line feed, with a carriage return before it or not. -/
def newline? : List Char → Option (List Char)
  | '\n' :: rest => some rest
  | '\r' :: '\n' :: rest => some rest
  | _ => none

/-- Tabs and all characters but the control ones. -/
def isPlain (c : Char) : Bool := c = '\t' || (' ' ≤ c && c.toNat ≠ 127)

/-- Drop a comment if there is one. -/
def skipComment : List Char → List Char
  | '#' :: rest => rest.dropWhile isPlain
  | rest => rest

/-! ### Texts -/

/-- `count` hexadecimal digits, as a character. -/
def codePoint? (count : Nat) (text : List Char) : Option (Char × List Char) := do
  let digits := text.take count
  if digits.length < count then none
  else
    let n ← digits.foldlM (fun n c => (Json.hexValue? c).map fun d => 16 * n + d) 0
    if n.isValidChar then some (Char.ofNat n, text.drop count) else none

/-- The character after a backslash. -/
def escaped? : Reader Char
  | 'b' :: rest => some (Char.ofNat 8, rest)
  | 'f' :: rest => some (Char.ofNat 12, rest)
  | 'n' :: rest => some ('\n', rest)
  | 'r' :: rest => some ('\r', rest)
  | 't' :: rest => some ('\t', rest)
  | '"' :: rest => some ('"', rest)
  | '\\' :: rest => some ('\\', rest)
  | 'u' :: rest => codePoint? 4 rest
  | 'U' :: rest => codePoint? 8 rest
  | _ => none

/-- The rest of a basic string on one line. -/
def basicRest : Nat → Reader (List Char)
  | 0, _ => none
  | _ + 1, '"' :: rest => some ([], rest)
  | fuel + 1, '\\' :: rest => do
    let (c, rest) ← escaped? rest
    let (text, rest) ← basicRest fuel rest
    some (c :: text, rest)
  | fuel + 1, c :: rest =>
    if isPlain c then (basicRest fuel rest).map fun (text, rest) => (c :: text, rest) else none
  | _ + 1, [] => none

/-- A literal string on one line, after its opening quote. -/
def literalRest (text : List Char) : Option (List Char × List Char) :=
  let content := text.takeWhile fun c => isPlain c && c ≠ '\''
  match text.dropWhile fun c => isPlain c && c ≠ '\'' with
  | '\'' :: rest => some (content, rest)
  | _ => none

/-- Drop white space and newlines. -/
def skipLines : Nat → List Char → List Char
  | 0, text => text
  | fuel + 1, text =>
    match newline? (skipSpace text) with
    | some rest => skipLines fuel rest
    | none => skipSpace text

/-- A backslash at the end of a line joins it with the next text. -/
def joinLines? (text : List Char) : Option (List Char) :=
  (newline? (skipSpace text)).map fun rest => skipLines rest.length rest

/-- Three quotes close a string of several lines; one or two more before them belong to it. -/
def closing? (quote : Char) (text : List Char) : Option (Reader Nat) :=
  if (text.take 3).length = 3 ∧ (text.take 3).all (· = quote) then
    some fun text =>
      let extra := min 2 ((text.drop 3).takeWhile (· = quote)).length
      some (extra, text.drop (3 + extra))
  else none

/-- The rest of a basic string of several lines. -/
def basicLines : Nat → Reader (List Char)
  | 0, _ => none
  | fuel + 1, text =>
    match closing? '"' text with
    | some close => (close text).map fun (extra, rest) => (List.replicate extra '"', rest)
    | none =>
      match newline? text, text with
      | some rest, _ => (basicLines fuel rest).map fun (text, rest) => ('\n' :: text, rest)
      | none, '\\' :: rest =>
        match joinLines? rest with
        | some rest => basicLines fuel rest
        | none => do
          let (c, rest) ← escaped? rest
          let (text, rest) ← basicLines fuel rest
          some (c :: text, rest)
      | none, c :: rest =>
        if isPlain c then (basicLines fuel rest).map fun (text, rest) => (c :: text, rest)
        else none
      | none, [] => none

/-- The rest of a literal string of several lines. -/
def literalLines : Nat → Reader (List Char)
  | 0, _ => none
  | fuel + 1, text =>
    match closing? '\'' text with
    | some close => (close text).map fun (extra, rest) => (List.replicate extra '\'', rest)
    | none =>
      match newline? text, text with
      | some rest, _ => (literalLines fuel rest).map fun (text, rest) => ('\n' :: text, rest)
      | none, c :: rest =>
        if isPlain c then (literalLines fuel rest).map fun (text, rest) => (c :: text, rest)
        else none
      | none, [] => none

/-- A newline right after the opening quotes does not count. -/
def dropFirstNewline (text : List Char) : List Char := (newline? text).getD text

/-- A string of one line. -/
def line? : Reader String
  | '"' :: rest => (basicRest (rest.length + 1) rest).map fun (text, rest) =>
    (String.ofList text, rest)
  | '\'' :: rest => (literalRest rest).map fun (text, rest) => (String.ofList text, rest)
  | _ => none

def string? : Reader String
  | '"' :: '"' :: '"' :: rest =>
    (basicLines (rest.length + 1) (dropFirstNewline rest)).map fun (text, rest) =>
      (String.ofList text, rest)
  | '\'' :: '\'' :: '\'' :: rest =>
    (literalLines (rest.length + 1) (dropFirstNewline rest)).map fun (text, rest) =>
      (String.ofList text, rest)
  | text => line? text

/-! ### Numbers -/

/-- Digits with single underscores between them, without the underscores. -/
def digitsOf (isDigit : Char → Bool) : Reader (List Char)
  | [] => none
  | c :: rest => if isDigit c then some (more rest |>.map (c :: ·) id) else none
where
  more : List Char → List Char × List Char
    | '_' :: d :: rest =>
      if isDigit d then (more rest).map (d :: ·) id else ([], '_' :: d :: rest)
    | c :: rest => if isDigit c then (more rest).map (c :: ·) id else ([], c :: rest)
    | [] => ([], [])

/-- A sign, if there is one. -/
def sign : List Char → List Char × List Char
  | '+' :: rest => (['+'], rest)
  | '-' :: rest => (['-'], rest)
  | rest => ([], rest)

/-- A decimal number with an optional sign. Only zero starts with zero. -/
def decimalText? : Reader (List Char)
  | text =>
    let (sign, rest) := sign text
    match rest with
    | '0' :: rest => some (sign ++ ['0'], rest)
    | rest => (digitsOf Char.isDigit rest).map fun (digits, rest) => (sign ++ digits, rest)

/-- A signed integer of 64 bits. -/
def fits? (n : Int) : Option Int :=
  if -(Nat.pow 2 63 : Int) ≤ n ∧ n < (Nat.pow 2 63 : Int) then some n else none

def isHexDigit (c : Char) : Bool := (Json.hexValue? c).isSome

/-- Digits of another base after its mark. -/
def based? (base : Nat) (isDigit : Char → Bool) (text : List Char) : Option (Int × List Char) := do
  let (digits, rest) ← digitsOf isDigit text
  let n := digits.foldl (fun n c => base * n + (Json.hexValue? c).getD 0) 0
  let n ← fits? n
  some (n, rest)

def integer? : Reader Int
  | '0' :: 'x' :: rest => based? 16 isHexDigit rest
  | '0' :: 'o' :: rest => based? 8 (fun c => '0' ≤ c && c ≤ '7') rest
  | '0' :: 'b' :: rest => based? 2 (fun c => c = '0' || c = '1') rest
  | text => do
    let (digits, rest) ← decimalText? text
    let (negative, digits) := Number.takeSign digits
    let n : Int := Number.ofDigits digits
    let n ← fits? (if negative then -n else n)
    some (n, rest)

/-- A point and the digits after it. -/
def fractionText? : Reader (List Char)
  | '.' :: rest => (digitsOf Char.isDigit rest).map fun (digits, rest) => ('.' :: digits, rest)
  | _ => none

/-- The mark of an exponent, its sign and its digits. -/
def exponentText? : Reader (List Char)
  | c :: rest =>
    if c = 'e' ∨ c = 'E' then
      let (sign, rest) := sign rest
      (digitsOf Char.isDigit rest).map fun (digits, rest) => ('e' :: (sign ++ digits), rest)
    else none
  | [] => none

/-- A number with a fraction or an exponent, or both. -/
def fractional? (text : List Char) : Option (Binary64 × List Char) := do
  let (whole, rest) ← decimalText? text
  let (tail, rest) ← match fractionText? rest with
    | some (fraction, rest) =>
      match exponentText? rest with
      | some (exponent, rest) => some (fraction ++ exponent, rest)
      | none => some (fraction, rest)
    | none => exponentText? rest
  let value ← Number.float? (whole ++ tail)
  if value = .infinite false then none else some (value, rest)

/-- `inf` or `nan` with an optional sign. -/
def special? (text : List Char) : Option (Binary64 × List Char) :=
  let (sign, rest) := sign text
  match rest with
  | 'i' :: 'n' :: 'f' :: rest => some (.infinite (sign = ['-']), rest)
  | 'n' :: 'a' :: 'n' :: rest => some (.nan, rest)
  | _ => none

def float? : Reader Binary64 := firstOf fractional? special?

/-! ### Dates -/

/-- Exactly `count` digits, as a number from `low` to `high`. -/
def field? (count low high : Nat) (text : List Char) : Option (Nat × List Char) :=
  let digits := text.take count
  let n := Number.ofDigits digits
  if digits.length = count ∧ digits.all Char.isDigit ∧ low ≤ n ∧ n ≤ high then
    some (n, text.drop count)
  else none

def mark? (choices : List Char) : List Char → Option (List Char)
  | c :: rest => if c ∈ choices then some rest else none
  | [] => none

/-- A date, as it is written. -/
def date? (text : List Char) : Option (List Char × List Char) := do
  let (year, rest) ← field? 4 0 9999 text
  let (month, rest) ← field? 2 1 12 (← mark? ['-'] rest)
  let (day, rest) ← field? 2 1 31 (← mark? ['-'] rest)
  let date ← Date.of? year month day
  some (date.text, rest)

/-- The digits of a fraction of a second, nine at most, without zeros at the end. -/
def secondFraction (text : List Char) : List Char × List Char :=
  match text with
  | '.' :: rest =>
    let digits := rest.takeWhile Char.isDigit
    let kept := ((digits.take 9).reverse.dropWhile (· = '0')).reverse
    if digits = [] then ([], text)
    else (if kept = [] then [] else '.' :: kept, rest.dropWhile Char.isDigit)
  | _ => ([], text)

/-- A time of day. -/
def time? (text : List Char) : Option (List Char × List Char) := do
  let (hour, rest) ← field? 2 0 23 text
  let (minute, rest) ← field? 2 0 59 (← mark? [':'] rest)
  let (second, rest) ← field? 2 0 60 (← mark? [':'] rest)
  let (fraction, rest) := secondFraction rest
  some (twoDigits hour ++ ':' :: (twoDigits minute ++ ':' :: (twoDigits second ++ fraction)), rest)

/-- An offset from universal time; there may be none. A sign needs hours and minutes after it. -/
def offset? : Reader (List Char)
  | 'Z' :: rest => some (['Z'], rest)
  | 'z' :: rest => some (['Z'], rest)
  | c :: rest =>
    if c = '+' ∨ c = '-' then do
      let (hour, rest) ← field? 2 0 23 rest
      let (minute, rest) ← field? 2 0 59 (← mark? [':'] rest)
      let sign := if hour = 0 ∧ minute = 0 then '+' else c
      some (sign :: (twoDigits hour ++ ':' :: twoDigits minute), rest)
    else some ([], c :: rest)
  | [] => some ([], [])

/-- A date, a date with a time, or a time, in their written form. -/
def dateTime? (text : List Char) : Option (List Char × List Char) :=
  match date? text with
  | none => time? text
  | some (date, rest) =>
    match (mark? ['T', 't', ' '] rest).bind time? with
    | none => some (date, rest)
    | some (time, after) =>
      (offset? after).map fun (offset, after) => (date ++ 'T' :: (time ++ offset), after)

/-- The field that marks a date among values. -/
def dateField : String := "$__toml_private_datetime"

/-- A number or a date. -/
def number? (text : List Char) : Option (Json × List Char) :=
  match dateTime? text with
  | some (date, rest) => some (.obj [(dateField, .string (String.ofList date))], rest)
  | none =>
    match float? text with
    | some (value, rest) => some (.number (.float value), rest)
    | none => (integer? text).map fun (value, rest) => (.number (.int value), rest)

end CloudPolicy.Toml
