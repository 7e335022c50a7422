import TaskDaemon.Json.Binary64

/-!
# JSON numbers

A number is an integer that fits in 64 bits, with or without sign, or a finite double.

* `TaskDaemon.Json.Number`: the two cases, the double as its bit pattern;
* `TaskDaemon.Json.Number.chars`: the numeral of a number;
* `TaskDaemon.Json.Numeral`: a numeral taken apart into its digits, and
  `TaskDaemon.Json.Numeral.toNumber`: the number it denotes.

A double is written with the fewest digits that read back. It is written positionally from `1e-5` up
to `1e16` and with an exponent elsewhere, and always shows that it is no integer.
-/

namespace TaskDaemon

namespace Json

/-- **A JSON number.** -/
inductive Number where
  /-- An integer from `-2 ^ 63` to `2 ^ 64 - 1`. -/
  | int (n : Int)
  /-- A finite double, by its bits. -/
  | float (bits : UInt64)
  deriving DecidableEq, Repr

namespace Number

/-- The digits of a decimal around the point, at least one on either side. -/
def positional (ds : List Nat) (power : Int) : List Char :=
  let shown := ds.map Decimal.digitChar
  if power < 0 then
    '0' :: '.' :: List.replicate ((-power).toNat - 1) '0' ++ shown
  else
    let width := power.toNat + 1
    let whole := shown.take width ++ List.replicate (width - shown.length) '0'
    let fraction := shown.drop width
    whole ++ '.' :: (if fraction.isEmpty then ['0'] else fraction)

/-- The digits of a decimal with one before the point, and its power of ten. -/
def scientific (ds : List Nat) (power : Int) : List Char :=
  let shown := ds.map Decimal.digitChar
  let mantissa :=
    match shown with
    | [] => []
    | [d] => [d]
    | d :: rest => d :: '.' :: rest
  let sign := if power < 0 then '-' else '+'
  mantissa ++ 'e' :: sign :: Decimal.chars power.natAbs

/-- **The numeral of a double.** -/
def floatChars (bits : UInt64) : List Char :=
  let sign := if (Binary64.parts bits).negative then ['-'] else []
  if Binary64.isZero bits then sign ++ ['0', '.', '0']
  else
    let d := Binary64.shortest bits
    sign ++
      if -5 ≤ d.power ∧ d.power < 16 then positional d.digits d.power
      else scientific d.digits d.power

/-- **The numeral of a number.** -/
def chars : Number → List Char
  | .int n => Decimal.intChars n
  | .float bits => floatChars bits

end Number

/-- **A numeral taken apart.** The parts are the digits as they stand. -/
structure Numeral where
  /-- Whether a minus sign stands in front. -/
  negative : Bool
  /-- The digits before the point. -/
  whole : List Nat
  /-- The digits behind the point, `none` without a point. -/
  fraction : Option (List Nat)
  /-- Whether the exponent is negative, and its digits; `none` without an exponent. -/
  exponent : Option (Bool × List Nat)
  deriving DecidableEq, Repr

namespace Numeral

/-- The largest number of 64 bits. -/
def maxWord : Nat := 18446744073709551615

/-- The largest exponent that is kept as a number. -/
def maxExponent : Nat := 2147483647

/-- **The significand** of a run of digits behind the significand `seed`: the digits are taken in as
long as the number fits in 64 bits. The second component holds the digits left over. -/
def significand (seed : Nat) : List Nat → Nat × List Nat
  | [] => (seed, [])
  | d :: rest =>
    if seed * 10 + d ≤ maxWord then significand (seed * 10 + d) rest else (seed, d :: rest)

/-- **The exponent that a list of digits denotes**, `none` if it is above `maxExponent`. -/
def exponentValue? (ds : List Nat) : Option Nat :=
  let n := Decimal.value ds
  if n ≤ maxExponent then some n else none

/-- The number of digits up to and with the one that lifts the exponent above `maxExponent`. -/
def digitsToOverflow (ds : List Nat) : Nat :=
  let fitting := (List.range (ds.length + 1)).takeWhile fun count =>
    Decimal.value (ds.take count) ≤ maxExponent
  fitting.length

/-- The double nearest to `10 ^ n`. -/
def powerOfTen (n : Nat) : Float :=
  Float.ofScientific 1 false n

/-- The division loop of `scale`, for exponents below `-308`: each round divides by `10 ^ 308`. -/
def shrink (f : Float) : Nat → Nat → Float
  | 0, _ => f
  | fuel + 1, n =>
    if n ≤ 308 then f / powerOfTen n
    else if f == 0 then f
    else shrink (f / powerOfTen 308) fuel (n - 308)

/-- **A significand scaled by a power of ten**: one multiplication or division of doubles per 308
powers; `none` if the result is not finite. -/
def scale (significand : Nat) (power : Int) : Option Float :=
  let f := (UInt64.ofNat significand).toFloat
  if 0 ≤ power then
    if power ≤ 308 then
      let scaled := f * powerOfTen power.toNat
      if scaled.isInf then none else some scaled
    else if f == 0 then some f
    else none
  else some (shrink f (power.natAbs / 308 + 1) power.natAbs)

/-- The double of a numeral with the given sign. -/
def signed (negative : Bool) (f : Float) : Number :=
  .float (if negative then -f else f).toBits

/-- **The number a numeral denotes**, `none` if it is beyond the doubles. Without point and exponent
it is an integer as long as it fits in 64 bits; minus zero is a double. -/
def toNumber (numeral : Numeral) : Option Number :=
  let (whole, wholeLeft) := significand 0 numeral.whole
  let floated (sig : Nat) (start : Int) : Option Number :=
    match numeral.exponent with
    | none => (scale sig start).map (signed numeral.negative)
    | some (down, ds) =>
      match exponentValue? ds with
      | some e =>
        let power := if down then start - e else start + e
        (scale sig power).map (signed numeral.negative)
      | none =>
        if sig ≠ 0 ∧ ¬ down then none else some (signed numeral.negative 0)
  match numeral.fraction with
  | some ds =>
    let (sig, left) := significand whole ds
    floated sig ((wholeLeft.length : Int) - ((ds.length - left.length : Nat) : Int))
  | none =>
    match numeral.exponent, wholeLeft with
    | none, [] =>
      if ¬ numeral.negative then some (.int whole)
      else if whole = 0 ∨ 9223372036854775808 < whole then
        some (signed true (UInt64.ofNat whole).toFloat)
      else some (.int (-(whole : Int)))
    | _, _ => floated whole wholeLeft.length

/-- **Whether the exponent is what puts the numeral beyond the doubles**: it has too many digits, is
positive, and the rest of the numeral is not zero. -/
def exponentOverflows (numeral : Numeral) : Bool :=
  match numeral.exponent with
  | some (false, ds) =>
    let (whole, _) := significand 0 numeral.whole
    let (sig, _) := significand whole (numeral.fraction.getD [])
    (exponentValue? ds).isNone && sig != 0
  | _ => false

end Numeral

end Json

end TaskDaemon
