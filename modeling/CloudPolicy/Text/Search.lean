/-! Searching, cutting and replacing in texts, over lists of characters. -/

namespace CloudPolicy.Text

/-- What follows `front` at the start of a text. -/
def dropFront? : List Char → List Char → Option (List Char)
  | [], text => some text
  | _ :: _, [] => none
  | c :: front, d :: text => if c = d then dropFront? front text else none

/-- `needle` stands somewhere in the text; the empty needle stands in every text. -/
def occursIn (needle : List Char) : List Char → Bool
  | [] => needle.isEmpty
  | c :: text => (dropFront? needle (c :: text)).isSome || occursIn needle text

/-- The parts before and after the first `sep`. -/
def cutAt? (sep : Char) : List Char → Option (List Char × List Char)
  | [] => none
  | c :: text =>
    if c = sep then some ([], text)
    else (cutAt? sep text).map fun (before, after) => (c :: before, after)

/-- Cut at every `sep`; a text without `sep` is one part. -/
def splitAll (sep : Char) : List Char → List (List Char)
  | [] => [[]]
  | c :: text =>
    match splitAll sep text with
    | [] => [[c]]
    | part :: parts => if c = sep then [] :: part :: parts else (c :: part) :: parts

/-- Cut at the first `n` occurrences of `sep`. -/
def splitFirst (sep : Char) : Nat → List Char → List (List Char)
  | 0, text => [text]
  | n + 1, text =>
    match cutAt? sep text with
    | none => [text]
    | some (before, after) => before :: splitFirst sep n after

/-- Replace, from left to right, every occurrence of `old` that starts after the previous one ended.
The first argument counts the characters of the occurrence being skipped. -/
def substitute (old new : List Char) : Nat → List Char → List Char
  | _, [] => []
  | skip + 1, _ :: text => substitute old new skip text
  | 0, c :: text =>
    if (dropFront? old (c :: text)).isSome then new ++ substitute old new (old.length - 1) text
    else c :: substitute old new 0 text

/-- Replace every occurrence of a non-empty `old` by `new`. -/
def replaceAll (old new text : String) : String :=
  if old.isEmpty then text
  else String.ofList (substitute old.toList new.toList 0 text.toList)

def contains (text needle : String) : Bool := occursIn needle.toList text.toList

/-- The text without `ending`, when it ends so. -/
def dropEnding? (ending text : String) : Option String :=
  (dropFront? ending.toList.reverse text.toList.reverse).map fun rest => String.ofList rest.reverse

/-- Drop every leading and every trailing character that satisfies `p`. -/
def trimWhile (p : Char → Bool) (text : List Char) : List Char :=
  ((text.dropWhile p).reverse.dropWhile p).reverse

/-- The texts with `sep` between neighbours. -/
def join (sep : String) (texts : List String) : String := String.intercalate sep texts

/-- Pad on the left to `width` characters. -/
def padLeft (width : Nat) (c : Char) (text : List Char) : List Char :=
  List.replicate (width - text.length) c ++ text

theorem dropFront?_eq_some_iff {front text rest : List Char} :
    dropFront? front text = some rest ↔ text = front ++ rest := by
  induction front generalizing text with
  | nil => simp [dropFront?]
  | cons c front ih =>
    cases text with
    | nil => simp [dropFront?]
    | cons d text => by_cases h : c = d <;> simp [dropFront?, h, ih, eq_comm]

end CloudPolicy.Text
