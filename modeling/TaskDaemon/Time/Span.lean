import TaskDaemon.Time.Instant

/-!
# Spans of time

* `TaskDaemon.Span`: a length of time in nanoseconds;
* `TaskDaemon.Span.text`: its text, in the largest unit it is not below, with the fraction digits
  that are needed: `1.05s`, `50ms`, `20.3µs`, `999ns`.
-/

namespace TaskDaemon

/-- **A length of time.** -/
structure Span where
  /-- The nanoseconds. -/
  nanos : Nat
  deriving DecidableEq, Repr, Inhabited

namespace Span

/-- Whole seconds and nanoseconds. -/
def ofSeconds (seconds nanos : Nat) : Span :=
  ⟨seconds * Instant.billion + nanos⟩

/-- Milliseconds. -/
def ofMillis (millis : Nat) : Span :=
  ⟨millis * 1000000⟩

/-- A number of nanoseconds in a unit of `10 ^ places` nanoseconds. -/
def inUnit (nanos places : Nat) (unit : String) : String :=
  let whole := nanos / Nat.pow 10 places
  let fraction := (Decimal.padded places (nanos % Nat.pow 10 places)).reverse.dropWhile (· = '0')
  Decimal.text whole ++
    (if fraction.isEmpty then "" else String.ofList ('.' :: fraction.reverse)) ++ unit

/-- **The text of a span.** -/
def text (span : Span) : String :=
  if Instant.billion ≤ span.nanos then inUnit span.nanos 9 "s"
  else if 1000000 ≤ span.nanos then inUnit span.nanos 6 "ms"
  else if 1000 ≤ span.nanos then inUnit span.nanos 3 "µs"
  else Decimal.text span.nanos ++ "ns"

end Span

end TaskDaemon
