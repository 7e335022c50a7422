import TaskDaemon.Text.Blank
import TaskDaemon.Time.Instant

/-!
# Reading timestamps

A timestamp is a date, a time of day and an offset from UTC, in the form of RFC 3339 with some
liberties: blanks may stand between the parts, numbers may have fewer digits, the year may have a
sign and then more than four digits, and the offset may be `UTC` or lack its colon.

* `TaskDaemon.Timestamp.Fault`: what can be wrong, and its wording;
* `TaskDaemon.Timestamp.Local`: the fields as they stand in the text;
* `TaskDaemon.Timestamp.readLocal`: the fields of a text;
* `TaskDaemon.Timestamp.toInstant`: the instant of the fields, if there is one;
* `TaskDaemon.Instant.parse`: the instant of a text.

A number out of its field's range is refused where it stands; that the day exists in its month is
asked at the end.
-/

namespace TaskDaemon

namespace Timestamp

/-- **What can be wrong with a timestamp.** -/
inductive Fault where
  /-- A number is out of the range of its field, or the day does not exist. -/
  | outOfRange
  /-- The date in UTC is beyond the calendar. -/
  | impossible
  /-- Something else stands where a field or separator is expected. -/
  | invalid
  /-- The text ends too soon. -/
  | tooShort
  /-- Something follows the timestamp. -/
  | tooLong
  deriving DecidableEq, Repr

namespace Fault

/-- **The wording of a fault.** -/
def message : Fault → String
  | outOfRange => "input is out of range"
  | impossible => "no possible date and time matching input"
  | invalid => "input contains invalid characters"
  | tooShort => "premature end of input"
  | tooLong => "trailing input"

end Fault

/-- **A timestamp as it is written**: the date and time of its place, and the offset of that place
from UTC in seconds. -/
structure Local where
  /-- The date. -/
  date : Date
  /-- The hour. -/
  hour : Nat
  /-- The minute. -/
  minute : Nat
  /-- The second, sixty for a leap second. -/
  second : Nat
  /-- The nanoseconds. -/
  nanos : Nat
  /-- The offset from UTC, in seconds. -/
  offset : Int
  deriving DecidableEq, Repr

/-- The outcome of reading a part: its value and the text behind it. -/
abbrev Part (α : Type) := Except Fault (α × List Char)

/-- The greatest number of 63 bits, above which no number is read. -/
def maxNumber : Nat := 9223372036854775807

/-- **Reads a number** of at most `width` digits, with no bound if there is none. -/
def readNumber (width : Option Nat) (text : List Char) : Part Nat :=
  let run := text.takeWhile Decimal.isDigit
  let ds := match width with
    | some w => run.take w
    | none => run
  if text.isEmpty then .error .tooShort
  else if ds.isEmpty then .error .invalid
  else
    let n := Decimal.value (ds.filterMap Decimal.digit?)
    if n ≤ maxNumber then .ok (n, text.drop ds.length) else .error .outOfRange

/-- **Reads a number of at most two digits** between bounds, blanks in front of it skipped. -/
def readField (least greatest : Nat) (text : List Char) :
    Except Fault (Nat × List Char) := do
  let (n, rest) ← readNumber (some 2) (trimStart text)
  if least ≤ n ∧ n ≤ greatest then .ok (n, rest) else .error .outOfRange

/-- The greatest year that is read at all. -/
def maxYear : Int := 2147483647

/-- **Reads a year**: up to four digits, or a sign and any number of digits. -/
def readYear (text : List Char) : Except Fault (Int × List Char) := do
  let text := trimStart text
  let (year, rest) ←
    match text with
    | '-' :: digits => do
      let (n, rest) ← readNumber none digits
      .ok (-(n : Int), rest)
    | '+' :: digits => do
      let (n, rest) ← readNumber none digits
      .ok ((n : Int), rest)
    | _ => do
      let (n, rest) ← readNumber (some 4) text
      .ok ((n : Int), rest)
  if -maxYear - 1 ≤ year ∧ year ≤ maxYear then .ok (year, rest) else .error .outOfRange

/-- **Reads a separator**, blanks in front of it skipped. -/
def readSeparator (separator : Char) (text : List Char) : Except Fault (List Char) :=
  match trimStart text with
  | [] => .error .tooShort
  | c :: rest => if c = separator then .ok rest else .error .invalid

/-- **Reads the fraction of a second**, if there is one; digits behind the ninth are dropped. -/
def readFraction (text : List Char) : Except Fault (Nat × List Char) :=
  match text with
  | '.' :: digits => do
    let (n, rest) ← readNumber (some 9) digits
    let width := digits.length - rest.length
    .ok (n * Nat.pow 10 (9 - width), rest.dropWhile Decimal.isDigit)
  | _ => .ok (0, text)

/-- Two digits at the front of a text, or how they fail: by the text's end or by what stands
there. -/
def readTwoDigits (text : List Char) : Except Fault ((Nat × Nat) × List Char) :=
  match text with
  | a :: b :: rest =>
    match Decimal.digit? a, Decimal.digit? b with
    | some x, some y => .ok ((x, y), rest)
    | _, _ => .error .invalid
  | [a] => if a.utf8Size < 2 then .error .tooShort else .error .invalid
  | [] => .error .tooShort

/-- The offset behind its sign: hours, any colons and blanks, minutes; in seconds. -/
def readHoursMinutes (text : List Char) : Except Fault (Nat × List Char) := do
  let ((h₁, h₂), rest) ← readTwoDigits text
  let rest := rest.dropWhile fun c => c = ':' || isBlank c
  let ((m₁, m₂), rest) ← readTwoDigits rest
  if 5 < m₁ then .error .outOfRange
  else .ok (((h₁ * 10 + h₂) * 60 + (m₁ * 10 + m₂)) * 60, rest)

/-- Whether two characters are the same but for the case of ASCII letters. -/
def sameLetter (a b : Char) : Bool :=
  a.toLower = b.toLower

/-- **Reads the offset from UTC**, in seconds. -/
def readOffset (text : List Char) : Except Fault (Int × List Char) :=
  match text with
  | [] => .error .tooShort
  | c :: rest =>
    if sameLetter c 'z' then .ok (0, rest)
    else if c = '+' then
      (readHoursMinutes rest).map fun r => ((r.1 : Int), r.2)
    else if c = '-' ∨ c = '\u2212' then
      (readHoursMinutes rest).map fun r => (-(r.1 : Int), r.2)
    else
      match text with
      | u :: t :: z :: rest =>
        if sameLetter u 'u' && sameLetter t 't' && sameLetter z 'c' then .ok (0, rest)
        else .error .invalid
      | _ => .error .invalid

/-- **Reads the fields of a timestamp**, and the text behind it. -/
def readLocal (text : List Char) : Except Fault (Local × List Char) := do
  let (year, rest) ← readYear text
  let rest ← readSeparator '-' rest
  let (month, rest) ← readField 1 12 rest
  let rest ← readSeparator '-' rest
  let (day, rest) ← readField 1 31 rest
  let rest ←
    match rest with
    | [] => .error .tooShort
    | c :: rest => if c = 't' ∨ c = 'T' ∨ c = ' ' then .ok rest else .error .invalid
  let (hour, rest) ← readField 0 23 rest
  let rest ← readSeparator ':' rest
  let (minute, rest) ← readField 0 59 rest
  let rest ← readSeparator ':' rest
  let (second, rest) ← readField 0 60 rest
  let (nanos, rest) ← readFraction rest
  let (offset, rest) ← readOffset (trimStart rest)
  .ok (⟨⟨year, month, day⟩, hour, minute, second, nanos, offset⟩, rest)

/-- **The instant of the fields of a timestamp**: the date must exist, the offset be shorter than a
day, and the date in UTC have its place in the calendar. -/
def toInstant (stamp : Local) : Except Fault Instant :=
  if ¬ (stamp.date.IsValid ∧ Instant.inCalendar stamp.date) then .error .outOfRange
  else if Instant.daySeconds ≤ stamp.offset.natAbs then .error .outOfRange
  else
    let leap := stamp.second = 60
    let second := if leap then 59 else stamp.second
    let local' := stamp.date.toDays * Instant.daySeconds
      + ((stamp.hour * 60 + stamp.minute) * 60 + second : Nat)
    let t : Instant :=
      ⟨local' - stamp.offset, if leap then stamp.nanos + Instant.billion else stamp.nanos⟩
    if Instant.inCalendar t.date then .ok t else .error .impossible

end Timestamp

/-- **The instant a text denotes.** -/
def Instant.parse (text : String) : Except Timestamp.Fault Instant := do
  let (stamp, rest) ← Timestamp.readLocal text.toList
  if (trimStart rest).isEmpty then Timestamp.toInstant stamp else .error .tooLong

end TaskDaemon
