/-
# Reading decimal numbers

The texts that denote a binary64 number:

* an optional sign, then digits with at most one point among or around them and
  at least one digit (`5.`, `.5` and `00.5` are fine, `.` is not), then an
  optional exponent: `e` or `E`, an optional sign, at least one digit;
* an optional sign, then `inf`, `infinity` or `nan` in any case.

No blank is allowed anywhere.  The number is the nearest to the exact decimal
value, ties going to the even neighbour; beyond the range it is infinite or zero.
-/

import ShardProxy.Decimal.Nearest

namespace ShardProxy.Decimal

/-- The number that a run of decimal digits denotes. -/
def natOfDigits (digits : List Char) : Nat :=
  digits.foldl (fun n c => 10 * n + (c.toNat - '0'.toNat)) 0

/-- An unsigned decimal number: `significand · 10 ^ exponent`. -/
structure Numeral where
  significand : Nat
  exponent : Int
  deriving Repr, DecidableEq

/-- Reads a non-empty run of digits and nothing else. -/
def readDigits? (cs : List Char) : Option Nat :=
  if cs ≠ [] ∧ cs.all Char.isDigit then some (natOfDigits cs) else none

/-- Reads the exponent after the letter. -/
def readExponent? : List Char → Option Int
  | '+' :: cs => (readDigits? cs).map Int.ofNat
  | '-' :: cs => (readDigits? cs).map fun n => -Int.ofNat n
  | cs => (readDigits? cs).map Int.ofNat

/-- Reads what follows the digits: nothing, or an exponent. -/
def readScale? : List Char → Option Int
  | [] => some 0
  | c :: cs => if c = 'e' ∨ c = 'E' then readExponent? cs else none

/-- The digits after a point, if there is one, and what follows. -/
def splitFraction : List Char → List Char × List Char
  | '.' :: cs => cs.span Char.isDigit
  | cs => ([], cs)

/-- Reads an unsigned decimal number. -/
def readNumeral? (cs : List Char) : Option Numeral :=
  let (whole, afterWhole) := cs.span Char.isDigit
  let (fraction, rest) := splitFraction afterWhole
  if whole = [] ∧ fraction = [] then none
  else
    (readScale? rest).map fun scale =>
      ⟨natOfDigits (whole ++ fraction), scale - fraction.length⟩

/-- Positive infinity. -/
def infinity : Float := Float.ofBits 0x7ff0000000000000

/-- The binary64 number nearest to a numeral.  An exponent that is far out of range is
settled before any power of ten is taken. -/
def Numeral.toFloat (numeral : Numeral) : Float :=
  if numeral.significand = 0 then 0.0
  else if 310 ≤ numeral.exponent then infinity
  else if numeral.exponent < -(350 + numeral.significand.log2 : Int) then 0.0
  else
    Float.ofBits (UInt64.ofNat (nearestBits (numeral.significand * power 10 numeral.exponent)
      (power 10 (-numeral.exponent))))

/-- The quiet value that is no number. -/
def notANumber : Float := Float.ofBits 0x7ff8000000000000

/-- Reads an unsigned number, infinity or the value that is no number. -/
def readUnsigned? (cs : List Char) : Option Float :=
  let word := cs.map Char.toLower
  if word = "inf".toList ∨ word = "infinity".toList then some infinity
  else if word = "nan".toList then some notANumber
  else (readNumeral? cs).map Numeral.toFloat

/-- Reads a number. -/
def readChars? : List Char → Option Float
  | '+' :: cs => readUnsigned? cs
  | '-' :: cs => (readUnsigned? cs).map fun x => -x
  | cs => readUnsigned? cs

/-- Reads a number. -/
def read? (text : String) : Option Float :=
  readChars? text.toList

end ShardProxy.Decimal
