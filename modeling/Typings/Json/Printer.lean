import Typings.Json.Value

/-!
# Printing Data Values

Two layouts of one text. The compact layout has no blanks at all. The spread
layout puts every item and member on a line of its own, two spaces deeper
than its container, with a space after each colon; an empty container stays
two brackets.

## Main definitions

* `stringText`: A string as it stands in the format, with its quotes.
* `Value.compact`: The compact text of a value.
* `Value.spread`: The spread text of a value.
-/

namespace Typings

namespace Json

/-- The small hexadecimal digit of a number below sixteen. -/
def hexChar (n : Nat) : Char :=
  if n < 10 then Char.ofNat (n + 48) else Char.ofNat (n + 87)

/-- How one character is written between the quotes: quote and backslash are
    escaped, control characters by letter where they have one and by number
    otherwise, and all else stands for itself. -/
def stringChar (c : Char) : List Char :=
  if c = '"' then ['\\', '"']
  else if c = '\\' then ['\\', '\\']
  else if c = '\x08' then ['\\', 'b']
  else if c = '\x0c' then ['\\', 'f']
  else if c = '\n' then ['\\', 'n']
  else if c = '\r' then ['\\', 'r']
  else if c = '\t' then ['\\', 't']
  else if c.toNat < 32 then
    ['\\', 'u', '0', '0', hexChar (c.toNat / 16), hexChar (c.toNat % 16)]
  else [c]

/-- A string as it stands in the format, with its quotes. -/
def stringText (s : String) : String :=
  String.ofList ('"' :: s.toList.flatMap stringChar ++ ['"'])

/-- The words of the two truth values. -/
def boolText (b : Bool) : String :=
  if b then "true" else "false"

namespace Value

mutual

/-- The compact text of a value. -/
def compact : Value → String
  | .null => "null"
  | .bool b => boolText b
  | .number n => n.text
  | .string s => stringText s
  | .array [] => "[]"
  | .array (item :: items) => "[" ++ compact item ++ compactItems items ++ "]"
  | .object [] => "\x7b\x7d"
  | .object ((name, value) :: members) =>
    "\x7b" ++ stringText name ++ ":" ++ compact value ++ compactMembers members ++ "\x7d"

/-- The items after the first, each behind a comma. -/
def compactItems : List Value → String
  | [] => ""
  | item :: items => "," ++ compact item ++ compactItems items

/-- The members after the first, each behind a comma. -/
def compactMembers : List (String × Value) → String
  | [] => ""
  | (name, value) :: members =>
    "," ++ stringText name ++ ":" ++ compact value ++ compactMembers members

end

/-- A line break and the indentation of a depth. -/
def newLine (depth : Nat) : String :=
  String.ofList ('\n' :: List.replicate (2 * depth) ' ')

mutual

/-- The spread text of a value that stands at a depth. -/
def spreadAt (depth : Nat) : Value → String
  | .null => "null"
  | .bool b => boolText b
  | .number n => n.text
  | .string s => stringText s
  | .array [] => "[]"
  | .array (item :: items) =>
    "[" ++ newLine (depth + 1) ++ spreadAt (depth + 1) item ++ spreadItems depth items
  | .object [] => "\x7b\x7d"
  | .object ((name, value) :: members) =>
    "\x7b" ++ newLine (depth + 1) ++ stringText name ++ ": " ++ spreadAt (depth + 1) value ++
      spreadMembers depth members

/-- The items after the first, and the closing bracket. -/
def spreadItems (depth : Nat) : List Value → String
  | [] => newLine depth ++ "]"
  | item :: items =>
    "," ++ newLine (depth + 1) ++ spreadAt (depth + 1) item ++ spreadItems depth items

/-- The members after the first, and the closing brace. -/
def spreadMembers (depth : Nat) : List (String × Value) → String
  | [] => newLine depth ++ "\x7d"
  | (name, value) :: members =>
    "," ++ newLine (depth + 1) ++ stringText name ++ ": " ++ spreadAt (depth + 1) value ++
      spreadMembers depth members

end

/-- The spread text of a value. -/
def spread (v : Value) : String :=
  spreadAt 0 v

end Value

end Json

end Typings
