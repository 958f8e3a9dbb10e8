/-
# JSON strings

A string is read in two steps.  First its characters up to the closing quote
become pieces: characters as they stand or by a one-letter escape, and code units
by `\u` with four hexadecimal digits.  Control characters must not stand in a
string.  Then the units are put together: two that form a surrogate pair are one
character, any other surrogate denotes nothing.
-/

namespace ShardProxy.Json

/-- A part of a string. -/
inductive Piece where
  | char (c : Char)
  /-- A 16-bit code unit. -/
  | unit (code : Nat)
  deriving Repr, DecidableEq

/-- The value of a hexadecimal digit. -/
def hexDigit? (c : Char) : Option Nat :=
  if c.isDigit then some (c.toNat - '0'.toNat)
  else if 'a' ≤ c ∧ c ≤ 'f' then some (c.toNat - 'a'.toNat + 10)
  else if 'A' ≤ c ∧ c ≤ 'F' then some (c.toNat - 'A'.toNat + 10)
  else none

/-- The code unit that four hexadecimal digits denote. -/
def codeUnit? (a b c d : Char) : Option Nat :=
  match hexDigit? a, hexDigit? b, hexDigit? c, hexDigit? d with
  | some a, some b, some c, some d => some (((a * 16 + b) * 16 + c) * 16 + d)
  | _, _, _, _ => none

/-- The character of a one-letter escape. -/
def letterEscape? : Char → Option Char
  | '"' => some '"'
  | '\\' => some '\\'
  | '/' => some '/'
  | 'b' => some '\x08'
  | 'f' => some '\x0c'
  | 'n' => some '\n'
  | 'r' => some '\r'
  | 't' => some '\t'
  | _ => none

/-- Reads pieces up to and past the closing quote. -/
def readPieces : List Char → Option (List Piece × List Char)
  | [] => none
  | '"' :: cs => some ([], cs)
  | '\\' :: 'u' :: a :: b :: c :: d :: cs =>
    match codeUnit? a b c d, readPieces cs with
    | some code, some (pieces, rest) => some (.unit code :: pieces, rest)
    | _, _ => none
  | '\\' :: e :: cs =>
    match letterEscape? e, readPieces cs with
    | some c, some (pieces, rest) => some (.char c :: pieces, rest)
    | _, _ => none
  | c :: cs =>
    if c.toNat < 0x20 then none
    else match readPieces cs with
      | some (pieces, rest) => some (.char c :: pieces, rest)
      | none => none

/-- Puts pieces together; none if a surrogate has no partner. -/
def assemble? : List Piece → Option (List Char)
  | [] => some []
  | .char c :: pieces => (assemble? pieces).map (c :: ·)
  | .unit high :: .unit low :: pieces =>
    if 0xd800 ≤ high ∧ high < 0xdc00 ∧ 0xdc00 ≤ low ∧ low < 0xe000 then
      (assemble? pieces).map
        (Char.ofNat (0x10000 + (high - 0xd800) * 0x400 + (low - 0xdc00)) :: ·)
    else if 0xd800 ≤ high ∧ high < 0xe000 then none
    else (assemble? (.unit low :: pieces)).map (Char.ofNat high :: ·)
  | .unit code :: pieces =>
    if 0xd800 ≤ code ∧ code < 0xe000 then none
    else (assemble? pieces).map (Char.ofNat code :: ·)

/-- Reads a string past its opening quote; none inside if it denotes no text. -/
def readString (cs : List Char) : Option (Option String × List Char) :=
  match readPieces cs with
  | none => none
  | some (pieces, rest) => some ((assemble? pieces).map String.ofList, rest)

end ShardProxy.Json
