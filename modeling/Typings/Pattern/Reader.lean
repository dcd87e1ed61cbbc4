import Typings.Pattern.Expr
import Typings.Text.Blank
import Typings.Text.Runs

/-!
# Readers of Patterns

What reading a part of a pattern works on: what is left of the pattern, the
flags in force, and the groups met so far. Nothing in a report depends on what
is wrong with a pattern, so a reader that meets something wrong just has no
result.

In verbose notation blanks and comments may stand almost anywhere. A reader
drops them behind every character it takes, unless it has to see what stands
there.

## Main definitions

* `Flags`: How a pattern is read.
* `Reader`: Readers of a part of a pattern.
* `Reader.advance`: Taking a character and the blanks behind it.
* `Reader.takeAll`: Taking characters for as long as they pass a test.
* `readDecimal`, `readHex`: Numbers.
* `nested`: How deep a list of parts is nested.
-/

namespace Typings

namespace Pattern

/-- How a pattern is read. -/
structure Flags where
  ignoreCase : Bool := false
  multiLine : Bool := false
  dotAll : Bool := false
  swapGreed : Bool := false
  unicode : Bool := true
  crlf : Bool := false
  verbose : Bool := false
  deriving DecidableEq, Repr, Inhabited

/-- What is left of a pattern, how it is read, and the groups met so far. -/
structure ReadState where
  rest : List Char
  flags : Flags
  groups : Nat := 0
  names : List (String × Nat) := []

/-- Readers of a part of a pattern. -/
abbrev Reader := StateT ReadState Option

namespace Reader

/-- Something is wrong. -/
def refuse {α : Type} : Reader α := fun _ => none

/-- What is left of the pattern. -/
def rest : Reader (List Char) := do return (← get).rest

/-- The flags in force. -/
def flags : Reader Flags := do return (← get).flags

/-- Go on with a rest. -/
def goOn (cs : List Char) : Reader Unit := modify fun s => { s with rest := cs }

/-- Read with other flags from here on. -/
def setFlags (f : Flags) : Reader Unit := modify fun s => { s with flags := f }

/-- Drop the blanks and comments that the verbose notation allows. -/
def dropVerbose : Nat → List Char → List Char
  | 0, cs => cs
  | fuel + 1, cs =>
    match cs.dropWhile Text.isBlank with
    | '#' :: cs => dropVerbose fuel (cs.dropWhile (· ≠ '\n'))
    | cs => cs

/-- Drop blanks and comments in verbose notation. -/
def skip : Reader Unit := do
  if (← flags).verbose then
    let cs ← rest
    goOn (dropVerbose cs.length cs)

/-- Drop the next character. -/
def drop : Reader Unit := do
  goOn ((← rest).drop 1)

/-- Drop the next character and what the verbose notation allows behind it. -/
def advance : Reader Unit := do
  drop
  skip

/-- The next character, which has to be there. -/
def peek : Reader Char := do
  match ← rest with
  | c :: _ => return c
  | [] => refuse

/-- Take so many characters at most, for as long as they pass a test. -/
def takeUpTo (test : Char → Bool) : Nat → Reader (List Char)
  | 0 => return []
  | n + 1 => do
    match ← rest with
    | c :: _ =>
      if test c then
        advance
        return c :: (← takeUpTo test n)
      else return []
    | [] => return []

/-- Take characters for as long as they pass a test. -/
def takeAll (test : Char → Bool) : Reader (List Char) := do
  takeUpTo test (← rest).length

end Reader

open Reader

/-- Whether a character is one of the ten digits. -/
def isDecimalDigit (c : Char) : Bool :=
  '0' ≤ c && c ≤ '9'

/-- A decimal number below `2^32`, blanks around it allowed. -/
def readDecimal : Reader Nat := do
  goOn ((← rest).dropWhile Text.isBlank)
  let digits ← takeAll isDecimalDigit
  goOn ((← rest).dropWhile Text.isBlank)
  let value := digits.foldl (fun n c => n * 10 + (c.toNat - 48)) 0
  if digits.isEmpty || Nat.pow 2 32 ≤ value then refuse
  else return value

/-- The character with a number. -/
def charOfNat? (n : Nat) : Option Char :=
  if n < 0xD800 || (0xDFFF < n && n < 0x110000) then some (Char.ofNat n) else none

/-- The character with a number in hexadecimal digits. -/
def charOfHex? (digits : List Char) : Option Char := do
  let values ← digits.mapM Text.hexDigit?
  charOfNat? (values.foldl (fun n d => min (n * 16 + d) 0x110000) 0)

/-- Whether a character is a hexadecimal digit. -/
def isHexDigit (c : Char) : Bool :=
  (Text.hexDigit? c).isSome

/-- A character by its number, from behind the letter that says how many
    digits it has; in braces it may have any number of digits. Two digits mean
    a byte where only bytes are read, and a byte beyond 127 is part of a
    character. -/
def readHex (digits : Nat) : Reader Char := do
  skip
  let f ← flags
  if (← peek) = '\x7b' then
    advance
    let inside ← takeAll (· ≠ '\x7d')
    let _ ← peek
    advance
    match charOfHex? inside with
    | some c => if inside.isEmpty then refuse else return c
    | none => refuse
  else
    let taken ← takeUpTo isHexDigit digits
    match charOfHex? taken with
    | some c =>
      if taken.length ≠ digits || (digits = 2 && !f.unicode && 128 ≤ c.toNat) then refuse
      else return c
    | none => refuse

/-- How deep a list of parts is nested, given how many they are and how deep
    the deepest is: several parts together are one level deeper. -/
def nested (parts deepest : Nat) : Nat :=
  if 2 ≤ parts then deepest + 1 else deepest

end Pattern

end Typings
