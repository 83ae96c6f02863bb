import CloudPolicy.Error
import CloudPolicy.Time.Timestamp

/-! Spans of time, and instants that are moved by them. Both are bounded: a longer span cannot be
made, and an instant that is moved out of the range of dates is out of range. -/

namespace CloudPolicy

/-- The most seconds of a span: those whose milliseconds fit 64 bits with a sign. -/
def longestSpan : Nat := (Nat.pow 2 63 - 1) / 1000

/-- A span of whole seconds, forward or back. -/
structure TimeSpan where
  seconds : Int
  bounded : seconds.natAbs ≤ longestSpan
  deriving DecidableEq, Repr

namespace TimeSpan

instance : Inhabited TimeSpan := ⟨⟨0, by decide⟩⟩

/-- The error of a span that cannot be made. -/
def tooLong : Error := .outOfRange "span of time out of range"

/-- The span of some seconds, if it is not too long. -/
def ofSeconds (seconds : Int) : Except Error TimeSpan :=
  if h : seconds.natAbs ≤ longestSpan then .ok ⟨seconds, h⟩ else .error tooLong

end TimeSpan

namespace Timestamp

/-- The error of a move out of the range of instants. -/
def tooFar : Error := .outOfRange "instant out of range"

/-- An instant that was reached by arithmetic, if it is in range. -/
def checked (t : Timestamp) : Except Error Timestamp :=
  if t.isInRange then .ok t else .error tooFar

/-- The instant a span after another. -/
def later (t : Timestamp) (span : TimeSpan) : Except Error Timestamp :=
  (t.addSeconds span.seconds).checked

/-- The instant a span before another. -/
def earlier (t : Timestamp) (span : TimeSpan) : Except Error Timestamp :=
  (t.addSeconds (-span.seconds)).checked

end Timestamp

end CloudPolicy
