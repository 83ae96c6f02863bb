import CloudPolicy.Json.Basic

/-! Tables of a TOML document while it is read. A table that was only passed through on the way to
another one can still be defined, by a header or by dotted keys, but not by both; anything that was
defined is not defined again. -/

namespace CloudPolicy.Toml

/-- What stands under a key. -/
inductive Node where
  /-- A finished value: a scalar, an array, or an inline table. -/
  | value (value : Json)
  /-- A table. It is implicit when it was not defined itself, and dotted when dotted keys made it.
  -/
  | table (entries : List (String × Node)) (implicit dotted : Bool)
  /-- The tables of an array that headers define. -/
  | tables (tables : List Node)
  deriving Inhabited

namespace Node

/-- An empty table that is defined itself. -/
def empty : Node := table [] false false

def find? (key : String) : List (String × Node) → Option Node
  | [] => none
  | (k, node) :: entries => if k = key then some node else find? key entries

def place (key : String) (node : Node) : List (String × Node) → List (String × Node)
  | [] => [(key, node)]
  | (k, other) :: entries =>
    if k = key then (key, node) :: entries else (k, other) :: place key node entries

/-- Change the last element of a list. -/
def updateLast? (f : Node → Option Node) : List Node → Option (List Node)
  | [] => none
  | [node] => (f node).map fun node => [node]
  | node :: nodes => (updateLast? f nodes).map (node :: ·)

/-- Change the table at the end of a path. Missing tables are made on the way; of an array the last
table is taken. Dotted keys do not pass through tables that are defined themselves. -/
def descend (dotted : Bool) (f : Node → Option Node) : List String → Node → Option Node
  | [], node => f node
  | key :: path, table entries implicit isDotted => do
    let child ← match find? key entries with
      | none => descend dotted f path (table [] true dotted)
      | some (value _) => none
      | some (tables nodes) => (updateLast? (descend dotted f path) nodes).map tables
      | some (table children childImplicit childDotted) =>
        if dotted && !childImplicit then none
        else descend dotted f path (table children childImplicit childDotted)
    some (table (place key child entries) implicit isDotted)
  | _ :: _, _ => none

/-- Define a key in a table that was reached by a dotted path, which may be empty. -/
def defineKey (byPath : Bool) (key : String) (value : Json) : Node → Option Node
  | table entries implicit dotted =>
    if dotted ≠ byPath ∨ (find? key entries).isSome then none
    else some (table (place key (Node.value value) entries) implicit dotted)
  | _ => none

/-- Define the last key of a path. -/
def define (path : List String) (value : Json) (node : Node) : Option Node :=
  match path.getLast? with
  | none => none
  | some key =>
    descend true (defineKey (1 < path.length) key value) path.dropLast node

/-- Define a table by a header. -/
def openTable (key : String) : Node → Option Node
  | table entries implicit dotted =>
    match find? key entries with
    | none => some (table (place key empty entries) implicit dotted)
    | some (table children true false) =>
      some (table (place key (table children false false) entries) implicit dotted)
    | some _ => none
  | _ => none

/-- Add a table to an array by a header. -/
def pushTable (key : String) : Node → Option Node
  | table entries implicit dotted =>
    match find? key entries with
    | none => some (table (place key (tables [empty]) entries) implicit dotted)
    | some (tables nodes) =>
      some (table (place key (tables (nodes ++ [empty])) entries) implicit dotted)
    | some _ => none
  | _ => none

/-- Follow a header from the root. -/
def header (isArray : Bool) (path : List String) (root : Node) : Option Node :=
  match path.getLast? with
  | none => none
  | some key => descend false (if isArray then pushTable key else openTable key) path.dropLast root

def toJson : Node → Json
  | value content => content
  | table entries _ _ => .object (.ofList (ofEntries entries))
  | tables nodes => .array (ofNodes nodes)
where
  ofEntries : List (String × Node) → List (String × Json)
    | [] => []
    | (key, node) :: entries => (key, toJson node) :: ofEntries entries
  ofNodes : List Node → List Json
    | [] => []
    | node :: nodes => toJson node :: ofNodes nodes

end Node

end CloudPolicy.Toml
