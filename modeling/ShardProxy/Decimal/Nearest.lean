/-
# The nearest binary64 number

A positive ratio of natural numbers is measured in units of a power of two and
rounded to a whole number of them, a tie going to the even one.  The unit is as
fine as leaves 53 bits, but no finer than `2 ^ (-1074)`.  What comes out is the
bits of a number: the whole number of units on top of a field that counts how
far the unit is from the finest, where a carry runs over from the one into the
other as it should.  Beyond the range the number is infinite.

All arithmetic is exact, so `roundDiv` is the only place where anything is
rounded; it is off by half a unit at most (`two_mul_roundDiv_le`,
`le_two_mul_roundDiv`).
-/

import ShardProxy.Decimal.Binary64

namespace ShardProxy.Decimal

/-- A quotient rounded to the nearest whole number, a tie to the even one. -/
def roundDiv (numerator denominator : Nat) : Nat :=
  let quotient := numerator / denominator
  let rest := 2 * (numerator % denominator)
  if denominator < rest ∨ (rest = denominator ∧ quotient % 2 = 1) then quotient + 1
  else quotient

/-- The exponent of the largest power of two that a positive ratio reaches. -/
def floorLog2 (numerator denominator : Nat) : Int :=
  let guess : Int := (numerator.log2 : Int) - denominator.log2
  if denominator * power 2 guess ≤ numerator * power 2 (-guess) then guess else guess - 1

/-- The exponent of the unit in which a positive ratio is measured. -/
def unitExponent (numerator denominator : Nat) : Int :=
  max (floorLog2 numerator denominator - 52) (-1074)

/-- The bits of the number nearest to a positive ratio. -/
def nearestBits (numerator denominator : Nat) : Nat :=
  let unit := unitExponent numerator denominator
  let units := roundDiv (numerator * power 2 (-unit)) (denominator * power 2 unit)
  min ((unit + 1074).toNat * fractionSize + units) infiniteBits

/-- A rounded quotient is at most half a unit too large. -/
theorem two_mul_roundDiv_le (n d : Nat) : 2 * (roundDiv n d * d) ≤ 2 * n + d := by
  have h := Nat.div_add_mod n d
  rw [Nat.mul_comm] at h
  rw [roundDiv]
  split
  · rw [Nat.add_mul]
    omega
  · omega

/-- A rounded quotient is at most half a unit too small. -/
theorem le_two_mul_roundDiv {n d : Nat} (hd : 0 < d) : 2 * n ≤ 2 * (roundDiv n d * d) + d := by
  have h := Nat.div_add_mod n d
  have hlt := Nat.mod_lt n hd
  rw [Nat.mul_comm] at h
  rw [roundDiv]
  split
  · rw [Nat.add_mul]
    omega
  · omega

end ShardProxy.Decimal
