import TaskDaemon.Text.Decimal

/-!
# Double-precision numbers as decimals

A finite double is `m * 2 ^ q` for a natural number `m` and an integer `q`. This file finds the
decimal that stands for it: the fewest digits that read back as the same double, and of those the
ones nearest to it.

* `TaskDaemon.Binary64.parts`: sign, `m` and `q` of the bit pattern of a double;
* `TaskDaemon.Binary64.Rounding`: the decimals that read back as one double, as an interval of
  fractions over one denominator;
* `TaskDaemon.Binary64.Rounding.onGrid?`: the multiple of a power of ten in that interval that is
  nearest to the double;
* `TaskDaemon.Binary64.shortest`: the digits of the double and the power of ten of the first one.

Everything is computed on natural numbers, so no rounding enters.
-/

namespace TaskDaemon

namespace Binary64

/-- **Sign, significand and exponent** of a finite double: it is `± m * 2 ^ q`. -/
structure Parts where
  /-- Whether the sign bit is set. -/
  negative : Bool
  /-- The significand, the hidden bit included. -/
  significand : Nat
  /-- The power of two. -/
  exponent : Int
  deriving DecidableEq, Repr

/-- The weight of the bit of a significand that is not stored, the fifty-third. -/
def hiddenBit : Nat := 4503599627370496

/-- The weight of the sign bit, the sixty-fourth. -/
def signBit : Nat := 9223372036854775808

/-- The significand bits that are stored. -/
def fractionBits (bits : UInt64) : Nat :=
  bits.toNat % hiddenBit

/-- The biased exponent that is stored. -/
def biasedExponent (bits : UInt64) : Nat :=
  bits.toNat / hiddenBit % 2048

/-- **The parts of a bit pattern.** The least exponent is shared by the subnormal numbers, which
have no hidden bit. -/
def parts (bits : UInt64) : Parts :=
  let negative := signBit ≤ bits.toNat
  if biasedExponent bits = 0 then ⟨negative, fractionBits bits, -1074⟩
  else ⟨negative, fractionBits bits + hiddenBit, (biasedExponent bits : Int) - 1075⟩

/-- **The decimals that read back as one double**: those between `low / den` and `high / den`, the
double itself being `mid / den`. -/
structure Rounding where
  /-- Numerator of the lower end. -/
  low : Nat
  /-- Numerator of the double. -/
  mid : Nat
  /-- Numerator of the upper end. -/
  high : Nat
  /-- The common denominator. -/
  den : Nat
  /-- Whether the ends themselves read back as the double. -/
  closed : Bool
  deriving DecidableEq, Repr

namespace Rounding

/-- **The interval of a bit pattern.** It reaches half way to both neighbours; below a power of two
the neighbour is nearer. The ends belong to it if the significand is even. -/
def ofBits (bits : UInt64) : Rounding :=
  let p := parts bits
  let scale := Nat.pow 2 p.exponent.toNat
  let nearBelow := fractionBits bits = 0 ∧ 1 < biasedExponent bits
  { low := (4 * p.significand - if nearBelow then 1 else 2) * scale
    mid := 4 * p.significand * scale
    high := (4 * p.significand + 2) * scale
    den := 4 * Nat.pow 2 (-p.exponent).toNat
    closed := p.significand % 2 = 0 }

/-- Whether the fraction `num / den` of the interval's denominator, both sides scaled alike, lies in
it. -/
def holds (r : Rounding) (scaled unit : Nat) : Bool :=
  if r.closed then r.low * unit ≤ scaled && scaled ≤ r.high * unit
  else r.low * unit < scaled && scaled < r.high * unit

/-- **The multiple of `10 ^ power` that reads back as the double**, if there is one, as its factor;
of two the nearer, of two equally near the even one. -/
def onGrid? (r : Rounding) (power : Int) : Option Nat :=
  let up := r.den * Nat.pow 10 power.toNat
  let down := Nat.pow 10 (-power).toNat
  let below := r.mid * down / up
  let above := below + 1
  let belowFits := r.holds (below * up) down
  let aboveFits := r.holds (above * up) down
  if belowFits && aboveFits then
    let gapBelow := r.mid * down - below * up
    let gapAbove := above * up - r.mid * down
    if gapBelow < gapAbove then some below
    else if gapAbove < gapBelow then some above
    else if below % 2 = 0 then some below else some above
  else if belowFits then some below
  else if aboveFits then some above
  else none

/-- **The power of ten of the double's first digit**: the `e` with
`10 ^ e ≤ mid / den < 10 ^ (e + 1)`, for a double that is not zero. -/
def leadingPower (r : Rounding) : Int :=
  if r.den ≤ r.mid then ((Decimal.digits (r.mid / r.den)).length : Int) - 1
  else
    -- below one: the first power that lifts it to one, no double needing more than 324
    match (List.range 325).find? fun j => r.den ≤ r.mid * Nat.pow 10 j with
    | some j => -(j : Int)
    | none => -324

end Rounding

/-- **A decimal** `d.ddd * 10 ^ power`, the digits without zeros at the end. -/
structure Decimals where
  /-- The digits, the leading one first. -/
  digits : List Nat
  /-- The power of ten of the leading digit. -/
  power : Int
  deriving DecidableEq, Repr

/-- The decimal `n * 10 ^ power`, for `n` not zero. -/
def Decimals.ofNat (n : Nat) (power : Int) : Decimals :=
  let ds := Decimal.digits n
  ⟨(ds.reverse.dropWhile (· == 0)).reverse, power + ((ds.length : Int) - 1)⟩

/-- **The fewest digits that read back as the double**, nearest to it among those. Seventeen digits
are enough for every double. -/
def shortest (bits : UInt64) : Decimals :=
  let r := Rounding.ofBits bits
  let lead := r.leadingPower
  let found := (List.range 17).findSome? fun (extra : Nat) =>
    let power := lead - (extra : Int)
    (r.onGrid? power).map fun n => Decimals.ofNat n power
  found.getD ⟨[0], 0⟩

/-- Zero, of either sign. -/
def isZero (bits : UInt64) : Bool :=
  bits.toNat % signBit = 0

end Binary64

end TaskDaemon
