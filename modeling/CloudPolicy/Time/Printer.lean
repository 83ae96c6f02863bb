import CloudPolicy.Number.Shortest
import CloudPolicy.Text.Search
import CloudPolicy.Time.Timestamp

/-! The text of dates and instants. -/

namespace CloudPolicy

open CloudPolicy.Text (padLeft)
open CloudPolicy.Number (natDigits)

/-- Two digits. -/
def twoDigits (n : Nat) : List Char := padLeft 2 '0' (natDigits n)

/-- Four digits; years outside of 0 to 9999 carry their sign. -/
def yearText (year : Int) : List Char :=
  let digits := padLeft 4 '0' (natDigits year.natAbs)
  if 0 ≤ year ∧ year ≤ 9999 then digits else (if year < 0 then '-' else '+') :: digits

def Date.text (d : Date) : List Char :=
  yearText d.year ++ '-' :: (twoDigits d.month ++ '-' :: twoDigits d.day)

namespace Timestamp

/-- No digits, or a point and 3, 6 or 9 digits: the fewest that are exact. -/
def fractionText (nanos : Nat) : List Char :=
  if nanos = 0 then []
  else if nanos % 1000000 = 0 then '.' :: padLeft 3 '0' (natDigits (nanos / 1000000))
  else if nanos % 1000 = 0 then '.' :: padLeft 6 '0' (natDigits (nanos / 1000))
  else '.' :: padLeft 9 '0' (natDigits nanos)

/-- The internet form in universal time. -/
def chars (t : Timestamp) : List Char :=
  let time := t.timeOfDay.toNat
  let leap := if t.isLeap then 1 else 0
  t.date.text ++ 'T' :: (twoDigits (time / 3600) ++ ':' :: (twoDigits (time / 60 % 60) ++
    ':' :: (twoDigits (time % 60 + leap) ++ fractionText (t.nanos % second) ++ ['Z'])))

def text (t : Timestamp) : String := String.ofList t.chars

end Timestamp

end CloudPolicy
