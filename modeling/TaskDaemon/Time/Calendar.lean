/-!
# The calendar

Dates of the proleptic Gregorian calendar and the days counted from 1 January 1970.

* `TaskDaemon.Date`: year, month and day;
* `TaskDaemon.Date.toDays`: the number of a date's day;
* `TaskDaemon.Date.ofDays`: the date of a day;
* `TaskDaemon.Date.IsValid`: the dates that exist.

Years are counted from March, so that the leap day is the last of its year; four hundred of them
have the same number of days whichever the first is.
-/

namespace TaskDaemon

/-- **A date.** Nothing is required of month and day; `IsValid` tells the dates that exist. -/
structure Date where
  /-- The year, with a year zero before the year one. -/
  year : Int
  /-- The month, from one. -/
  month : Nat
  /-- The day of the month, from one. -/
  day : Nat
  deriving DecidableEq, Repr

namespace Date

/-- **A leap year.** -/
def isLeap (year : Int) : Bool :=
  year % 4 = 0 && (year % 100 ≠ 0 || year % 400 = 0)

/-- **The number of days of a month.** -/
def monthLength (year : Int) (month : Nat) : Nat :=
  if month = 2 then if isLeap year then 29 else 28
  else if month = 4 ∨ month = 6 ∨ month = 9 ∨ month = 11 then 30
  else 31

/-- **A date that exists.** -/
def IsValid (date : Date) : Prop :=
  1 ≤ date.month ∧ date.month ≤ 12 ∧ 1 ≤ date.day ∧ date.day ≤ monthLength date.year date.month

instance (date : Date) : Decidable date.IsValid :=
  inferInstanceAs (Decidable (_ ∧ _ ∧ _ ∧ _))

/-- The days from 1 March of the year 0 to 1 January 1970. -/
def epochDay : Int := 719468

/-- The number of days of four hundred years. -/
def daysPerEra : Int := 146097

/-- The year counted from March that a date is in. -/
def marchYear (date : Date) : Int :=
  if date.month ≤ 2 then date.year - 1 else date.year

/-- The month counted from March, from zero. -/
def marchMonth (date : Date) : Nat :=
  if date.month ≤ 2 then date.month + 9 else date.month - 3

/-- The days from 1 March to a date of the same year counted from March. -/
def marchDay (date : Date) : Nat :=
  (153 * date.marchMonth + 2) / 5 + (date.day - 1)

/-- **The number of a date's day**, zero being 1 January 1970. -/
def toDays (date : Date) : Int :=
  let y := date.marchYear
  let yearOfEra := y % 400
  y / 400 * daysPerEra + yearOfEra * 365 + yearOfEra / 4 - yearOfEra / 100 + date.marchDay
    - epochDay

/-- **The date of a day.** -/
def ofDays (days : Int) : Date :=
  let z := days + epochDay
  let era := z / daysPerEra
  let dayOfEra := z % daysPerEra
  -- the last century of an era and the last year of four are a day longer than the others
  let century := min (dayOfEra / 36524) 3
  let dayOfCentury := dayOfEra - century * 36524
  let quad := dayOfCentury / 1461
  let dayOfQuad := dayOfCentury % 1461
  let yearOfQuad := min (dayOfQuad / 365) 3
  let dayOfYear := (dayOfQuad - yearOfQuad * 365).toNat
  let monthFromMarch := (5 * dayOfYear + 2) / 153
  let day := dayOfYear - (153 * monthFromMarch + 2) / 5 + 1
  let month := if monthFromMarch < 10 then monthFromMarch + 3 else monthFromMarch - 9
  let year := era * 400 + century * 100 + quad * 4 + yearOfQuad + if month ≤ 2 then 1 else 0
  ⟨year, month, day⟩

end Date

end TaskDaemon
