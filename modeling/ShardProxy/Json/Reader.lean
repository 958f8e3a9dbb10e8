/-
# Reading JSON

The strict grammar of JSON: blanks are the space, the tab and the two line ends;
numbers have no leading zero, no leading plus and digits on both sides of the
point; nothing but blanks follows the value.  Arrays and objects nest to any
depth: each level has at least one character of its own, so a reader that pays
one unit of fuel per step never runs out before the text does.
-/

import ShardProxy.Json.Text
import ShardProxy.Json.Value

namespace ShardProxy.Json

/-- Whether a character may stand between tokens. -/
def isSpace (c : Char) : Bool :=
  c == ' ' || c == '\t' || c == '\n' || c == '\r'

/-- The characters from the first that is no space. -/
def skip (cs : List Char) : List Char :=
  cs.dropWhile isSpace

/-- What follows a word at the front, if it is there. -/
def expect? : List Char → List Char → Option (List Char)
  | [], cs => some cs
  | w :: word, c :: cs => if w = c then expect? word cs else none
  | _ :: _, [] => none

/-- Splits off a run of at least one digit. -/
def digits? (cs : List Char) : Option (List Char × List Char) :=
  match cs.span Char.isDigit with
  | ([], _) => none
  | (ds, rest) => some (ds, rest)

/-- The digits before the point: a lone zero, or a run that starts otherwise. -/
def whole? : List Char → Option (List Char × List Char)
  | '0' :: cs =>
    match cs with
    | c :: _ => if c.isDigit then none else some (['0'], cs)
    | [] => some (['0'], [])
  | cs => digits? cs

/-- The point and the digits after it, if there is one. -/
def fraction? : List Char → Option (List Char × List Char)
  | '.' :: cs => (digits? cs).map fun (ds, rest) => ('.' :: ds, rest)
  | cs => some ([], cs)

/-- The exponent, if there is one. -/
def exponent? : List Char → Option (List Char × List Char)
  | [] => some ([], [])
  | e :: cs =>
    if e = 'e' ∨ e = 'E' then
      match cs with
      | '+' :: cs => (digits? cs).map fun (ds, rest) => (e :: '+' :: ds, rest)
      | '-' :: cs => (digits? cs).map fun (ds, rest) => (e :: '-' :: ds, rest)
      | cs => (digits? cs).map fun (ds, rest) => (e :: ds, rest)
    else some ([], e :: cs)

/-- An unsigned number. -/
def unsigned? (cs : List Char) : Option (List Char × List Char) :=
  match whole? cs with
  | none => none
  | some (whole, cs) =>
    match fraction? cs with
    | none => none
    | some (fraction, cs) =>
      match exponent? cs with
      | none => none
      | some (exponent, cs) => some (whole ++ fraction ++ exponent, cs)

/-- A number. -/
def number? : List Char → Option (List Char × List Char)
  | '-' :: cs => (unsigned? cs).map fun (digits, rest) => ('-' :: digits, rest)
  | cs => unsigned? cs

mutual

/-- Reads a value at the front. -/
def readValue : Nat → List Char → Option (Value × List Char)
  | 0, _ => none
  | fuel + 1, cs =>
    match cs with
    | 'n' :: cs => (expect? ['u', 'l', 'l'] cs).map fun rest => (.null, rest)
    | 't' :: cs => (expect? ['r', 'u', 'e'] cs).map fun rest => (.bool true, rest)
    | 'f' :: cs => (expect? ['a', 'l', 's', 'e'] cs).map fun rest => (.bool false, rest)
    | '"' :: cs => (readString cs).map fun (text, rest) => (.string text, rest)
    | '[' :: cs =>
      match skip cs with
      | ']' :: rest => some (.array [], rest)
      | cs => (readItems fuel cs).map fun (items, rest) => (.array items, rest)
    | '\x7b' :: cs =>
      match skip cs with
      | '\x7d' :: rest => some (.object [], rest)
      | cs => (readFields fuel cs).map fun (fields, rest) => (.object fields, rest)
    | cs => (number? cs).map fun (digits, rest) => (.number digits, rest)

/-- Reads the items of an array up to and past its end. -/
def readItems : Nat → List Char → Option (List Value × List Char)
  | 0, _ => none
  | fuel + 1, cs =>
    match readValue fuel cs with
    | none => none
    | some (item, cs) =>
      match skip cs with
      | ']' :: rest => some ([item], rest)
      | ',' :: cs => (readItems fuel (skip cs)).map fun (items, rest) => (item :: items, rest)
      | _ => none

/-- Reads the fields of an object up to and past its end. -/
def readFields : Nat → List Char → Option (List (Option String × Value) × List Char)
  | 0, _ => none
  | fuel + 1, cs =>
    match cs with
    | '"' :: cs =>
      match readString cs with
      | none => none
      | some (name, cs) =>
        match skip cs with
        | ':' :: cs =>
          match readValue fuel (skip cs) with
          | none => none
          | some (value, cs) =>
            match skip cs with
            | '\x7d' :: rest => some ([(name, value)], rest)
            | ',' :: cs =>
              (readFields fuel (skip cs)).map fun (fields, rest) => ((name, value) :: fields, rest)
            | _ => none
        | _ => none
    | _ => none

end

/-- Reads a document. -/
def read? (text : String) : Option Value :=
  let cs := skip text.toList
  match readValue (cs.length + 1) cs with
  | none => none
  | some (value, rest) => if skip rest = [] then some value else none

end ShardProxy.Json
