/-
# JSON values

A document as it was written: the fields of an object in their order, also those
that repeat a name, and a number as its characters.  A string whose escapes name
half of a surrogate pair denotes no text; such a string is harmless where nobody
reads it.
-/

namespace ShardProxy.Json

/-- A JSON value. -/
inductive Value where
  | null
  | bool (value : Bool)
  /-- A number by its characters. -/
  | number (digits : List Char)
  /-- A string; none if it denotes no text. -/
  | string (text : Option String)
  | array (items : List Value)
  | object (fields : List (Option String × Value))

end ShardProxy.Json
