/-
# Quoted text

Descriptions put texts between double quotes.  Inside, a quote and a backslash
follow a backslash, the tab and the line ends have letters of their own, NUL is
`\0`, and any other character that is not printable is `\u` with its code
point in hexadecimal between braces.
-/

import ShardProxy.Text.Printable

namespace ShardProxy.Text

/-- What stands for a character inside quotes. -/
def escape (c : Char) : List Char :=
  if c = '"' then ['\\', '"']
  else if c = '\\' then ['\\', '\\']
  else if c = '\t' then ['\\', 't']
  else if c = '\n' then ['\\', 'n']
  else if c = '\r' then ['\\', 'r']
  else if c = '\x00' then ['\\', '0']
  else if isPrintable c then [c]
  else ['\\', 'u', '\x7b'] ++ Nat.toDigits 16 c.toNat ++ ['\x7d']

/-- A text between quotes. -/
def quoted (text : String) : String :=
  String.ofList ('"' :: text.toList.flatMap escape ++ ['"'])

/-- A list of texts between brackets. -/
def bracketed (items : List String) : String :=
  "[" ++ String.intercalate ", " items ++ "]"

end ShardProxy.Text
