import CloudPolicy.Time.Calendar

/-! Instants of universal time to the nanosecond, leap seconds included. -/

namespace CloudPolicy

/-- Minutes from 1970-01-01T00:00:00Z and nanoseconds in that minute, which is a second longer when
a leap second ends it. -/
structure Timestamp where
  minute : Int
  nanosOfMinute : Fin 61000000000
  deriving Repr, DecidableEq, Inhabited

namespace Timestamp

def second : Nat := 1000000000

def day : Int := 86400

/-- Whole seconds of the minute. Inside a leap second they stay at the one before it. -/
def secondOfMinute (t : Timestamp) : Nat := min (t.nanosOfMinute / second) 59

/-- Seconds from 1970-01-01T00:00:00Z. -/
def seconds (t : Timestamp) : Int := 60 * t.minute + t.secondOfMinute

/-- Nanoseconds after the seconds. Inside a leap second they run on from 1000000000. -/
def nanos (t : Timestamp) : Nat := t.nanosOfMinute - second * t.secondOfMinute

/-- The instant some nanoseconds after some seconds: less than a second, or less than two from the
last second of a minute. -/
def ofSeconds (seconds : Int) (nanos : Nat) : Timestamp :=
  ⟨seconds / 60, Fin.ofNat _ (second * (seconds % 60).toNat + nanos)⟩

def isLeap (t : Timestamp) : Bool := second ≤ t.nanos

def date (t : Timestamp) : Date := .ofDays (t.seconds / day)

/-- Seconds since midnight. -/
def timeOfDay (t : Timestamp) : Int := t.seconds % day

/-- The instant of a date and a time of day, in seconds. -/
def ofDateTime (d : Date) (timeOfDay : Int) (nanos : Nat) : Timestamp :=
  .ofSeconds (d.toDays * day + timeOfDay) nanos

/-- Not later than. -/
def notAfter (a b : Timestamp) : Bool :=
  a.seconds < b.seconds ∨ (a.seconds = b.seconds ∧ a.nanos ≤ b.nanos)

/-- The year is one that dates can have. -/
def isInRange (t : Timestamp) : Bool :=
  Date.leastYear ≤ t.date.year ∧ t.date.year ≤ Date.greatestYear

/-- The time that clocks show some seconds east of universal time; a leap second stays one. -/
def shift (t : Timestamp) (offset : Int) : Timestamp := .ofSeconds (t.seconds + offset) t.nanos

/-- Move by whole seconds, whether or not the result is in range; a move out of a leap second leaves
it first. -/
def addSeconds (t : Timestamp) (n : Int) : Timestamp :=
  if t.isLeap ∧ 0 < n then .ofSeconds (t.seconds + n) (t.nanos - second)
  else if t.isLeap ∧ n < 0 then .ofSeconds (t.seconds + 1 + n) (t.nanos - second)
  else .ofSeconds (t.seconds + n) t.nanos

/-- Whole seconds from `earlier` to `t`, cut toward zero. A leap second counts when it lies between
the two times of day. -/
def secondsSince (t earlier : Timestamp) : Int :=
  let leap : Int :=
    if earlier.timeOfDay < t.timeOfDay then (if earlier.isLeap then 1 else 0)
    else if t.timeOfDay < earlier.timeOfDay then (if t.isLeap then -1 else 0)
    else 0
  ((t.seconds - earlier.seconds + leap) * second + (t.nanos - earlier.nanos : Int)).tdiv second

/-! ### Instants by their seconds -/

variable {n : Nat}

theorem nanosOfMinute_ofSeconds (hn : n < second) (s : Int) :
    ((ofSeconds s n).nanosOfMinute : Nat) = second * (s % 60).toNat + n := by
  refine Nat.mod_eq_of_lt ?_
  simp only [second] at hn ⊢
  omega

theorem secondOfMinute_ofSeconds (hn : n < second) (s : Int) :
    (ofSeconds s n).secondOfMinute = (s % 60).toNat := by
  rw [secondOfMinute, nanosOfMinute_ofSeconds hn]
  simp only [second] at hn ⊢
  omega

theorem seconds_ofSeconds (hn : n < second) (s : Int) : (ofSeconds s n).seconds = s := by
  rw [seconds, secondOfMinute_ofSeconds hn]
  show 60 * (s / 60) + ((s % 60).toNat : Int) = s
  omega

theorem nanos_ofSeconds (hn : n < second) (s : Int) : (ofSeconds s n).nanos = n := by
  rw [nanos, secondOfMinute_ofSeconds hn, nanosOfMinute_ofSeconds hn]
  omega

theorem seconds_shift {t : Timestamp} (h : t.isLeap = false) (offset : Int) :
    (t.shift offset).seconds = t.seconds + offset :=
  seconds_ofSeconds (Nat.not_le.1 (of_decide_eq_false h)) _

theorem addSeconds_of_not_leap {t : Timestamp} (h : t.isLeap = false) (s : Int) :
    t.addSeconds s = ofSeconds (t.seconds + s) t.nanos := by
  rw [addSeconds, h]
  rfl

/-- A whole second comes no later than an instant when it comes no later than the second of it. -/
theorem notAfter_ofSeconds (s : Int) (t : Timestamp) :
    (ofSeconds s 0).notAfter t = true ↔ s ≤ t.seconds := by
  rw [notAfter, seconds_ofSeconds (by decide), nanos_ofSeconds (by decide), decide_eq_true_eq]
  omega

/-- Nanoseconds from 1970-01-01T00:00:00Z. -/
def sinceEpoch (t : Timestamp) : Int := t.seconds * second + t.nanos

end Timestamp

end CloudPolicy
