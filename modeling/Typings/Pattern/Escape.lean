import Typings.Pattern.NamedClass
import Typings.Pattern.Reader

/-!
# Escapes

A backslash makes a character of an operator and something else of a letter: a
character that is hard to write, a class, or a condition. It never refers back
to what a group has matched, and letters it makes nothing of are refused.

Where flags say that only bytes are read, classes that would hold parts of
characters are refused, and so is every class with a name of the standard.

## Main definitions

* `Escape`: What a backslash and what follows it stand for.
* `readEscape`: What stands behind a backslash.
* `closeCase`: A class without regard to case, if the flags say so.
-/

namespace Typings

namespace Pattern

open Reader

/-- Cut a text at the first place where another stands in it. -/
def cutAt? (mark : List Char) : List Char → Option (List Char × List Char)
  | [] => none
  | c :: cs =>
    if mark.isPrefixOf (c :: cs) then some ([], (c :: cs).drop mark.length)
    else (cutAt? mark cs).map fun (before, after) => (c :: before, after)

/-- A property and its value, with any of the marks between them. -/
def propertyAndValue? (name : List Char) : Option (List Char × List Char) :=
  (cutAt? ['!', '='] name).or ((cutAt? [':'] name).or (cutAt? ['='] name))

/-- The class that a property names, with or without a value. -/
def propertyClass? (name : List Char) : Option CharClass :=
  match propertyAndValue? name with
  | some (property, value) =>
    CharClass.ofPropertyValue? (String.ofList property) (String.ofList value)
  | none => CharClass.ofPropertyName? (String.ofList name)

/-- The class of a property, from behind its letter. -/
def readProperty (negated : Bool) : Reader CharClass := do
  skip
  let f ← flags
  let name ← (do
    if (← peek) = '\x7b' then
      advance
      let inside ← takeAll (· ≠ '\x7d')
      let _ ← peek
      drop
      return propertyClass? inside
    else
      let letter ← peek
      advance
      return CharClass.ofPropertyName? (String.singleton letter))
  match name with
  | some c =>
    if f.unicode then
      return CharClass.complIf negated (if f.ignoreCase then c.ignoringCase else c)
    else refuse
  | none => refuse

/-- The class of a letter for digits, blanks or words. A class that would hold
    parts of characters is refused. -/
def letterClass (f : Flags) (letter : Char) : Option CharClass :=
  let found := fun (unicode ascii : CharClass) =>
    if f.unicode then unicode else ascii
  match letter with
  | 'd' => some (found .digit .asciiDigit)
  | 's' => some (found .space .asciiSpace)
  | 'w' => some (found .word .asciiWord)
  | 'D' => if f.unicode then some CharClass.digit.compl else none
  | 'S' => if f.unicode then some CharClass.space.compl else none
  | 'W' => if f.unicode then some CharClass.word.compl else none
  | _ => none

/-- Operators, which a backslash makes characters. -/
def isMeta (c : Char) : Bool :=
  c ∈ ['\\', '.', '+', '*', '?', '(', ')', '|', '[', ']', '\x7b', '\x7d', '^', '$', '#', '&',
    '-', '~']

/-- Characters that a backslash leaves what they are. -/
def isEscapable (c : Char) : Bool :=
  isMeta c || (c.toNat < 128 && !(isDecimalDigit c || ('A' ≤ c && c ≤ 'Z') ||
    ('a' ≤ c && c ≤ 'z') || c = '<' || c = '>'))

/-- What a backslash and what follows it stand for. -/
inductive Escape where
  | char (c : Char)
  | chars (c : CharClass)
  | look (l : Look)

/-- Whether a character can stand in the name of a condition. -/
def isConditionChar (c : Char) : Bool :=
  ('a' ≤ c && c ≤ 'z') || ('A' ≤ c && c ≤ 'Z') || c = '-'

/-- The condition with a name in braces, if there is one behind a `b`. Braces
    that do not begin with a letter are left to what follows. -/
def readSpecialBoundary (ascii : Bool) : Reader Look := do
  let saved ← rest
  if saved.head? ≠ some '\x7b' then return .wordBoundary ascii
  advance
  if !isConditionChar (← peek) then
    goOn saved
    return .wordBoundary ascii
  let name ← takeAll isConditionChar
  if (← peek) ≠ '\x7d' then refuse
  drop
  match String.ofList name with
  | "start" => return .wordStart ascii
  | "end" => return .wordEnd ascii
  | "start-half" => return .wordStartHalf ascii
  | "end-half" => return .wordEndHalf ascii
  | _ => refuse

/-- What stands behind a backslash. -/
def readEscape : Reader Escape := do
  let c ← peek
  drop
  let f ← flags
  if c = 'x' then return .char (← readHex 2)
  else if c = 'u' then return .char (← readHex 4)
  else if c = 'U' then return .char (← readHex 8)
  else if c = 'p' then return .chars (← readProperty false)
  else if c = 'P' then return .chars (← readProperty true)
  else if isEscapable c then return .char c
  else if c = 'a' then return .char '\x07'
  else if c = 'f' then return .char '\x0c'
  else if c = 't' then return .char '\t'
  else if c = 'n' then return .char '\n'
  else if c = 'r' then return .char '\r'
  else if c = 'v' then return .char '\x0b'
  else if c = 'A' then return .look .textStart
  else if c = 'z' then return .look .textEnd
  else if c = 'b' then return .look (← readSpecialBoundary (!f.unicode))
  else if c = 'B' then return .look (.notWordBoundary (!f.unicode))
  else if c = '<' then return .look (.wordStart (!f.unicode))
  else if c = '>' then return .look (.wordEnd (!f.unicode))
  else match letterClass f c with
    | some found => return .chars found
    | none => refuse

/-- A class without regard to case, if the flags say so. -/
def closeCase (f : Flags) (c : CharClass) : CharClass :=
  if !f.ignoreCase then c
  else if f.unicode then c.ignoringCase else c.ignoringAsciiCase

end Pattern

end Typings
