import TaskDaemon.Text.Decimal
import TaskDaemon.Time.Calendar

/-!
# Points in time

An instant counts seconds and nanoseconds from 1 January 1970, UTC. A leap second is the second
before it going on: its nanoseconds run from one billion to two.

* `TaskDaemon.Instant`: seconds and nanoseconds;
* `TaskDaemon.Instant.compare`, `TaskDaemon.Instant.le`: the order of instants;
* `TaskDaemon.Instant.text`: the text of an instant, in the form of RFC 3339 with the suffix `Z`.

The text has the fewest of 0, 3, 6 and 9 fraction digits that are exact, shows a leap second as the
second sixty, and writes years outside 0 to 9999 with a sign.
-/

namespace TaskDaemon

/-- **A point in time.** -/
structure Instant where
  /-- Seconds since the beginning of 1970, UTC. -/
  seconds : Int
  /-- Nanoseconds, one billion and more of them in a leap second. -/
  nanos : Nat
  deriving DecidableEq, Repr, Inhabited

namespace Instant

/-- The nanoseconds of a second. -/
def billion : Nat := 1000000000

/-- The seconds of a day. -/
def daySeconds : Nat := 86400

/-- **The order of instants**: seconds first. -/
def compare (a b : Instant) : Ordering :=
  if a.seconds < b.seconds then .lt
  else if b.seconds < a.seconds then .gt
  else Ord.compare a.nanos b.nanos

/-- **Not later than.** -/
def le (a b : Instant) : Bool :=
  a.seconds < b.seconds || (a.seconds = b.seconds && a.nanos ≤ b.nanos)

instance : LE Instant := ⟨fun a b => le a b = true⟩

instance (a b : Instant) : Decidable (a ≤ b) :=
  inferInstanceAs (Decidable (le a b = true))

/-- The least and the greatest year that a date may have. -/
def yearBounds : Int × Int := (-262143, 262142)

/-- A date whose year has a place in the calendar. -/
def inCalendar (date : Date) : Bool :=
  yearBounds.1 ≤ date.year && date.year ≤ yearBounds.2

/-- The date of an instant. -/
def date (t : Instant) : Date :=
  Date.ofDays (t.seconds / daySeconds)

/-- The second of the day of an instant. -/
def secondOfDay (t : Instant) : Nat :=
  (t.seconds % daySeconds).toNat

/-- The text of a year. -/
def yearChars (year : Int) : List Char :=
  if 0 ≤ year ∧ year ≤ 9999 then Decimal.padded 4 year.toNat
  else (if year < 0 then '-' else '+') :: Decimal.padded 4 year.natAbs

/-- The text of a date. -/
def dateChars (date : Date) : List Char :=
  yearChars date.year ++ '-' :: Decimal.padded 2 date.month ++ '-' :: Decimal.padded 2 date.day

/-- **The text of a fraction of a second**, with the fewest digits by three. -/
def fractionChars (nanos : Nat) : List Char :=
  if nanos = 0 then []
  else if nanos % 1000000 = 0 then '.' :: Decimal.padded 3 (nanos / 1000000)
  else if nanos % 1000 = 0 then '.' :: Decimal.padded 6 (nanos / 1000)
  else '.' :: Decimal.padded 9 nanos

/-- The text of the time of day. -/
def timeChars (t : Instant) : List Char :=
  let s := t.secondOfDay
  let leap := billion ≤ t.nanos
  let second := s % 60 + if leap then 1 else 0
  let nanos := if leap then t.nanos - billion else t.nanos
  Decimal.padded 2 (s / 3600) ++ ':' :: Decimal.padded 2 (s / 60 % 60) ++ ':' ::
    Decimal.padded 2 second ++ fractionChars nanos

/-- **The text of an instant**, as characters. -/
def chars (t : Instant) : List Char :=
  dateChars t.date ++ 'T' :: timeChars t ++ ['Z']

/-- **The text of an instant.** -/
def text (t : Instant) : String :=
  String.ofList (chars t)

end Instant

end TaskDaemon
