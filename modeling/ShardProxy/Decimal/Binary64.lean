/-
# The layout of binary64 numbers

A word of 64 bits is a sign, an exponent field of 11 bits and a fraction field
of 52 bits.  Here words and fields are natural numbers, and so are the two sides
of the ratios that numbers stand for; `power` scales either side.
-/

namespace ShardProxy.Decimal

/-- A power of a base; one when the exponent is negative. -/
def power (base : Nat) (exponent : Int) : Nat :=
  Nat.pow base exponent.toNat

/-- The number of values of the fraction field. -/
def fractionSize : Nat := 0x10000000000000

/-- The number of values of the exponent field. -/
def exponentSize : Nat := 2048

/-- The bits of positive infinity: the largest exponent field over an empty fraction. -/
def infiniteBits : Nat := (exponentSize - 1) * fractionSize

/-- The fraction field of a word. -/
def fractionField (bits : Nat) : Nat :=
  bits % fractionSize

/-- The exponent field of a word. -/
def exponentField (bits : Nat) : Nat :=
  bits / fractionSize % exponentSize

/-- Whether the sign of a word is set. -/
def isNegative (bits : Nat) : Bool :=
  bits / fractionSize / exponentSize == 1

end ShardProxy.Decimal
