/-
# The shortest decimal text of a number

A finite binary64 number `m · 2 ^ q` is written with the fewest significant
digits that read back as the same number, and of those with the nearest; a tie
goes up.  The digits stand in positional notation whatever the size, without a
point when no digit follows it.  The rest is `NaN`, `inf` and `-inf`.

The decimals that read back are those of an interval around the number, half
way to its neighbours on each side and closed when `m` is even.  All
comparisons are exact: the ends of the interval, the number and the decimals
tried are natural numbers over one denominator.
-/

import ShardProxy.Decimal.Binary64

namespace ShardProxy.Decimal

/-- The magnitude of a finite number and the interval that rounds to it, all over one
denominator. -/
structure Bracket where
  low : Nat
  value : Nat
  high : Nat
  denominator : Nat
  /-- Whether the two ends round to the number as well. -/
  closed : Bool
  deriving Repr, DecidableEq

/-- The bracket of the finite number with a biased exponent and a fraction field. -/
def Bracket.ofFields (biased fraction : Nat) : Bracket :=
  let m := if biased = 0 then fraction else fractionSize + fraction
  let q : Int := (if biased = 0 then 1 else biased : Nat) - 1077
  let scale := power 2 q
  let below := if fraction = 0 ∧ 1 < biased then 1 else 2
  { low := (4 * m - below) * scale
    value := 4 * m * scale
    high := (4 * m + 2) * scale
    denominator := power 2 (-q)
    closed := m % 2 = 0 }

/-- The decimal `digits · 10 ^ exponent`. -/
structure Digits where
  digits : Nat
  exponent : Int
  deriving Repr, DecidableEq

/-- The best decimal on the grid of multiples of `10 ^ exponent`, if one reads back: the
nearer of the value's two neighbours there. -/
def Bracket.onGrid? (b : Bracket) (exponent : Int) : Option Digits :=
  let up := power 10 (-exponent)
  let step := b.denominator * power 10 exponent
  let low := b.low * up
  let value := b.value * up
  let high := b.high * up
  let inside (x : Nat) : Bool :=
    if b.closed then low ≤ x && x ≤ high else low < x && x < high
  let c := value / step
  let floorIn := inside (c * step)
  let ceilIn := inside ((c + 1) * step)
  if floorIn && (!ceilIn || value - c * step < (c + 1) * step - value) then some ⟨c, exponent⟩
  else if ceilIn then some ⟨c + 1, exponent⟩
  else none

/-- The first hit on grids from coarse to fine, `fuel + 1` of them at most. -/
def Bracket.search (b : Bracket) (exponent : Int) : Nat → Digits
  | 0 => ⟨b.value * power 10 (-exponent) / (b.denominator * power 10 exponent), exponent⟩
  | fuel + 1 =>
    match b.onGrid? exponent with
    | some d => d
    | none => b.search (exponent - 1) fuel

/-- The exponent of the first significant digit of a positive ratio. -/
def leadingExponent (numerator denominator : Nat) : Int :=
  let guess : Int := (Nat.toDigits 10 numerator).length - (Nat.toDigits 10 denominator).length
  if denominator * power 10 guess ≤ numerator * power 10 (-guess) then guess else guess - 1

/-- The shortest digits of a positive magnitude; seventeen always suffice. -/
def Bracket.shortest (b : Bracket) : Digits :=
  b.search (leadingExponent b.value b.denominator) 17

/-- Digits in positional notation. -/
def Digits.positional (d : Digits) : String :=
  let digits := Nat.toDigits 10 d.digits
  if 0 ≤ d.exponent then String.ofList (digits ++ List.replicate d.exponent.toNat '0')
  else
    let places := (-d.exponent).toNat
    let padded := List.replicate (places + 1 - digits.length) '0' ++ digits
    let whole := padded.take (padded.length - places)
    let fraction := (padded.drop (padded.length - places)).reverse.dropWhile (· == '0') |>.reverse
    if fraction = [] then String.ofList whole else String.ofList (whole ++ '.' :: fraction)

/-- The shortest text of a number. -/
def text (x : Float) : String :=
  let bits := x.toBits.toNat
  let sign := if isNegative bits then "-" else ""
  let biased := exponentField bits
  let fraction := fractionField bits
  if biased = exponentSize - 1 then if fraction = 0 then sign ++ "inf" else "NaN"
  else if biased = 0 ∧ fraction = 0 then sign ++ "0"
  else sign ++ (Bracket.ofFields biased fraction).shortest.positional

end ShardProxy.Decimal
