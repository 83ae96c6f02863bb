import CloudPolicy.Policy.Context
import CloudPolicy.Text.Search
import CloudPolicy.Time.Printer
import CloudPolicy.Time.Reader

/-! Marks: tags that name an operation and the date from which it may be carried out on the
resource. A date is written as a day, or as a day, a time and a zone. -/

namespace CloudPolicy

/-- The zone of action dates: its written form, and its offset in seconds east of universal time. -/
structure MarkZone where
  label : String
  offset : Int
  deriving DecidableEq, Repr, Inhabited

namespace MarkZone

def utc : MarkZone := ⟨"utc", 0⟩

/-- `utc` or `z` in any case, or an offset such as `+08:00`; what follows the offset is ignored. -/
def ofText? (text : String) : Option MarkZone :=
  let lower := String.ofList (text.toList.map Char.toLower)
  if lower = "utc" ∨ lower = "z" then some utc
  else
    (Timestamp.offset? (fun rest => some (Timestamp.skipSeparators rest)) text.toList).map
      fun (offset, _) => ⟨text, offset⟩

/-- The zone that the field `tz` of a block names. -/
def ofBlock (context : BuildContext) (kind : String) (block : Json) : Except Error MarkZone :=
  match block.textOption? "tz" with
  | none => .ok utc
  | some text => context.require (ofText? text)
      (kind ++ ": unknown 'tz' '" ++ text ++ "', expected utc or +HH:MM")

end MarkZone

namespace Mark

def defaultTag : String := "mark-for-op-cirrus"

def defaultMessage : String := "\x7bop\x7d_\x7baction_date\x7d"

/-- The date of an instant in a zone, with the time and the zone if asked for. -/
def dateText (instant : Timestamp) (withTime : Bool) (zone : MarkZone) : String :=
  let there := instant.shift zone.offset
  let date := there.date.text
  let time := there.timeOfDay.toNat
  if withTime then
    String.ofList (date ++ '-' :: (twoDigits (time / 3600) ++ '-' :: (twoDigits (time / 60 % 60) ++
      '-' :: zone.label.toList)))
  else String.ofList date

/-- A date from the texts of its parts. -/
def date? (year month day : List Char) : Option Date := do
  let year ← Number.int32? year
  let month ← Number.word? 32 month
  let day ← Number.word? 32 day
  Date.of? year month day

/-- The instant of a date and a time in a zone, if it is in range. -/
def instant? (date : Date) (hour minute : Nat) (zone : MarkZone) : Option Timestamp :=
  if hour < 24 ∧ minute < 60 then
    let instant : Timestamp := .ofDateTime date (hour * 3600 + minute * 60 - zone.offset) 0
    if instant.isInRange then some instant else none
  else none

/-- Read a date. A date without a time is midnight in the given zone. -/
def parseDate? (zone : MarkZone) (text : List Char) : Option Timestamp :=
  match Text.splitFirst '-' 5 text with
  | [year, month, day] => do instant? (← date? year month day) 0 0 zone
  | [year, month, day, hour, minute, zone] => do
    let date ← date? year month day
    let hour ← Number.word? 32 hour
    let minute ← Number.word? 32 minute
    let zone ← MarkZone.ofText? (String.ofList zone)
    instant? date hour minute zone
  | _ => none

/-- The operation that a block names, which has to be an action of the resource type. -/
def operation (context : BuildContext) (kind : String) (block : Json) : Except Error String := do
  let op ← context.require (block.someTextOption? "op") (kind ++ " requires 'op'")
  if (context.resourceType.action? op).isSome then .ok op
  else context.reject (kind ++ " 'op' '" ++ op ++ "' is not an action of "
    ++ context.resourceType.name)

end Mark

end CloudPolicy
