import CloudPolicy.Toml.Scalar
import CloudPolicy.Toml.Table

/-! Reading TOML 1.0 documents as JSON objects. A date becomes an object with one field; numbers
that are infinite or no numbers are kept. Values and keys nest less than 80 deep. -/

namespace CloudPolicy.Toml

def maxDepth : Nat := 79

/-! ### Keys -/

def isBareKey (c : Char) : Bool := c.isAlphanum || c = '-' || c = '_'

/-- One part of a key: bare, or a string of one line. -/
def keyPart? : Reader String
  | '"' :: rest => line? ('"' :: rest)
  | '\'' :: rest => line? ('\'' :: rest)
  | text =>
    let part := text.takeWhile isBareKey
    if part = [] then none else some (String.ofList part, text.dropWhile isBareKey)

/-- The parts of a key, with spaces around them and points between. -/
def keyParts : Nat → Reader (List String)
  | 0, _ => none
  | fuel + 1, text => do
    let (part, rest) ← keyPart? (skipSpace text)
    match skipSpace rest with
    | '.' :: rest => do
      let (parts, rest) ← keyParts fuel rest
      some (part :: parts, rest)
    | rest => some ([part], rest)

/-- A key of at most `maxDepth` parts. -/
def key? (text : List Char) : Option (List String × List Char) :=
  (keyParts (text.length + 1) text).filter fun (parts, _) => parts.length ≤ maxDepth

/-! ### Values -/

/-- Drop spaces, newlines and comments. -/
def skipFiller : Nat → List Char → List Char
  | 0, text => text
  | fuel + 1, text =>
    let text := skipSpace text
    match newline? (skipComment text) with
    | some rest => skipFiller fuel rest
    | none => text

def filler (text : List Char) : List Char := skipFiller (text.length + 1) text

mutual

/-- A value and what follows it; `depth` bounds the nesting that is left. -/
def value? : (fuel depth : Nat) → Reader Json
  | 0, _, _ => none
  | fuel + 1, depth, text =>
    match text with
    | '[' :: rest =>
      match depth with
      | 0 => none
      | depth + 1 => do
        match filler rest with
        | ']' :: rest => some (.array [], rest)
        | rest => do
          let (items, rest) ← items? fuel depth rest
          some (.array items, rest)
    | '\x7b' :: rest =>
      match depth with
      | 0 => none
      | depth + 1 =>
        match skipSpace rest with
        | '\x7d' :: rest => some (.object ∅, rest)
        | rest => do
          let (node, rest) ← pairs? fuel depth .empty rest
          some (node.toJson, rest)
    | 't' :: 'r' :: 'u' :: 'e' :: rest => some (.bool true, rest)
    | 'f' :: 'a' :: 'l' :: 's' :: 'e' :: rest => some (.bool false, rest)
    | c :: rest =>
      if c = '"' ∨ c = '\'' then
        (string? (c :: rest)).map fun (text, rest) => (.string text, rest)
      else number? (c :: rest)
    | [] => none

/-- The items of an array from the first one to the closing bracket. A comma may stand after the
last one. -/
def items? : (fuel depth : Nat) → Reader (List Json)
  | 0, _, _ => none
  | fuel + 1, depth, text => do
    let (item, rest) ← value? fuel depth (filler text)
    match filler rest with
    | ']' :: rest => some ([item], rest)
    | ',' :: rest =>
      match filler rest with
      | ']' :: rest => some ([item], rest)
      | rest => do
        let (items, rest) ← items? fuel depth rest
        some (item :: items, rest)
    | _ => none

/-- The pairs of an inline table from the first key to the closing brace. -/
def pairs? : (fuel depth : Nat) → Node → Reader Node
  | 0, _, _, _ => none
  | fuel + 1, depth, node, text => do
    let (path, rest) ← key? text
    let rest ← mark? ['='] rest
    let (value, rest) ← value? fuel depth (skipSpace rest)
    let node ← node.define path value
    match skipSpace rest with
    | '\x7d' :: rest => some (node, rest)
    | ',' :: rest => pairs? fuel depth node rest
    | _ => none

end

/-! ### Documents -/

/-- What may stand at the end of a line: spaces, a comment, and a newline or the end of the text. -/
def lineEnd? (text : List Char) : Option (List Char) :=
  match skipComment (skipSpace text) with
  | [] => some []
  | rest => newline? rest

/-- The path of a header after its opening brackets, up to the end of the line. -/
def headerPath? (close text : List Char) : Option (List String × List Char) := do
  let (path, rest) ← key? text
  let rest ← Text.dropFront? close rest
  let rest ← lineEnd? rest
  some (path, rest)

/-- The document so far: its root, and the path of the table that keys are defined in. -/
structure Draft where
  root : Node := .empty
  current : List String := []

namespace Draft

def enter (draft : Draft) (isArray : Bool) (path : List String) : Option Draft :=
  (draft.root.header isArray path).map fun root => ⟨root, path⟩

def define (draft : Draft) (path : List String) (value : Json) : Option Draft :=
  (draft.root.descend false (·.define path value) draft.current).map fun root =>
    { draft with root }

end Draft

/-- Read one line after the other: blank ones, comments, headers, and keys with their values. -/
def lines : Nat → Draft → List Char → Option Draft
  | 0, _, _ => none
  | fuel + 1, draft, text =>
    match skipSpace text with
    | [] => some draft
    | '[' :: '[' :: rest => do
      let (path, rest) ← headerPath? [']', ']'] rest
      lines fuel (← draft.enter true path) rest
    | '[' :: rest => do
      let (path, rest) ← headerPath? [']'] rest
      lines fuel (← draft.enter false path) rest
    | c :: rest =>
      if c = '#' ∨ c = '\n' ∨ c = '\r' then do
        let rest ← lineEnd? (c :: rest)
        lines fuel draft rest
      else do
        let (path, rest) ← key? (c :: rest)
        let rest ← mark? ['='] rest
        let (value, rest) ← value? (2 * rest.length + 2) maxDepth (skipSpace rest)
        let rest ← lineEnd? rest
        lines fuel (← draft.define path value) rest

/-- The object that a document writes. A byte order mark may stand at its start. -/
def read? (text : String) : Option Json :=
  let chars := match text.toList with
    | '\ufeff' :: rest => rest
    | chars => chars
  (lines (chars.length + 1) {} chars).map fun draft => draft.root.toJson

end CloudPolicy.Toml
