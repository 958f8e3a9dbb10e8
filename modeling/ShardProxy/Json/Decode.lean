/-
# Taking JSON values apart

A record is written as an object or as an array of its fields in their order.
In an object a field of the record stands at most once and other fields are
ignored; an array may end early but not hold more.  A dictionary is an object
whose later fields replace earlier ones of the same name.  A name that denotes
no text is refused in both.
-/

import ShardProxy.Decimal.Read
import ShardProxy.Json.Value

namespace ShardProxy.Json

/-- Decodes a value, or refuses it. -/
abbrev Decoder (α : Type) := Value → Option α

/-- Decodes all values of a list. -/
def decodeAll {α : Type} (decode : Decoder α) : List Value → Option (List α)
  | [] => some []
  | v :: vs =>
    match decode v, decodeAll decode vs with
    | some a, some as => some (a :: as)
    | _, _ => none

/-- A text. -/
def text : Decoder String
  | .string (some s) => some s
  | _ => none

/-- A list of values. -/
def list {α : Type} (decode : Decoder α) : Decoder (List α)
  | .array items => decodeAll decode items
  | _ => none

/-- A value or null. -/
def nullable {α : Type} (decode : Decoder α) : Decoder (Option α)
  | .null => some none
  | v => (decode v).map some

/-- A natural number below `2 ^ 64`, written without sign, point or exponent. -/
def word : Decoder Nat
  | .number digits =>
    match Decimal.readDigits? digits with
    | some n => if n < UInt64.size then some n else none
    | none => none
  | _ => none

/-- The entries of a list without those that a later one replaces. -/
def lastOnes {α : Type} : List (String × α) → List (String × α)
  | [] => []
  | entry :: rest =>
    if rest.any (·.1 == entry.1) then lastOnes rest else entry :: lastOnes rest

/-- Decodes the fields of an object. -/
def decodeFields {α : Type} (decode : Decoder α) :
    List (Option String × Value) → Option (List (String × α))
  | [] => some []
  | (none, _) :: _ => none
  | (some name, v) :: fields =>
    match decode v, decodeFields decode fields with
    | some a, some rest => some ((name, a) :: rest)
    | _, _ => none

/-- A dictionary. -/
def dictionary {α : Type} (decode : Decoder α) : Decoder (List (String × α))
  | .object fields => (decodeFields decode fields).map lastOnes
  | _ => none

/-- The value of one field of an object: none inside if it is absent; refused if it is
there twice. -/
def field? (fields : List (Option String × Value)) (name : String) : Option (Option Value) :=
  match fields.filter fun f => f.1 == some name with
  | [] => some none
  | [f] => some (some f.2)
  | _ => none

/-- The values of the named fields. -/
def slotsOf (fields : List (Option String × Value)) : List String → Option (List (Option Value))
  | [] => some []
  | name :: names =>
    match field? fields name, slotsOf fields names with
    | some slot, some slots => some (slot :: slots)
    | _, _ => none

/-- The values of the fields of a record, by position; none where a field is absent. -/
def slots (names : List String) : Value → Option (List (Option Value))
  | .object fields => if fields.all (·.1.isSome) then slotsOf fields names else none
  | .array items =>
    if items.length ≤ names.length
    then some (items.map some ++ List.replicate (names.length - items.length) none) else none
  | _ => none

/-- A field that must be there. -/
def required {α : Type} (decode : Decoder α) (slot : Option Value) : Option α :=
  slot.bind decode

/-- A field that may be absent. -/
def orElse {α : Type} (default : α) (decode : Decoder α) : Option Value → Option α
  | none => some default
  | some v => decode v

end ShardProxy.Json
