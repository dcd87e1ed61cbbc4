import Typings.Json.Node
import Typings.Text.Category

/-!
# Scanning Words, Numbers and Strings

The scalars of the data format, each scanned to its end with two findings:
what a strict walker reads, and where a lenient one goes on.

A number is first cut into its parts and then given a value. Digits are
gathered into sixty-four bits for as long as they fit; further digits of the
whole part only raise the exponent, and further digits of the fraction are
dropped. A number without fraction and exponent that fits its bits is an
integer, except for a negative zero. Every other number is the gathered
digits multiplied or divided by a power of ten in floating point arithmetic,
by `10^308` at most in one step, and a result beyond the range is an error.
That result can differ from the nearest one in its last bit.

## Main definitions

* `Scanned`: A strict finding, and what a lenient walker goes on with.
* `scanWord`: The words for nothing, true and false.
* `scanNumber`: A number.
* `scanString`: A string, from behind its opening quote.
-/

namespace Typings

namespace Json

/-- What a strict walker reads, and the text a lenient walker goes on with. -/
structure Scanned (α : Type) where
  read : Except Fault α
  rest : Except Fault (List Char)

/-- What stops a lenient walker. -/
def Scanned.skip {α : Type} (s : Scanned α) : Option Fault :=
  match s.rest with
  | .ok _ => none
  | .error fault => some fault

/-- The fault of missing something at a place: the end of the text, or
    something else instead. -/
def faultAt : List Char → Fault
  | [] => .unexpectedEnd
  | _ => .malformed

/-- The blanks the format allows between its tokens. -/
def isSpace (c : Char) : Bool :=
  c = ' ' || c = '\n' || c = '\t' || c = '\r'

/-- Drop blanks from the front. -/
def dropSpace (cs : List Char) : List Char :=
  cs.dropWhile isSpace

/-- The rest of a text behind a word, or the fault of the word. -/
def expectChars : List Char → List Char → Except Fault (List Char)
  | [], cs => .ok cs
  | _ :: _, [] => .error .unexpectedEnd
  | w :: word, c :: cs => if c = w then expectChars word cs else .error .malformed

/-- A word, from behind its first letter; walkers of both kinds see the same. -/
def scanWord (value : Found) (word : List Char) (cs : List Char) : Scanned Found :=
  match expectChars word cs with
  | .ok rest => ⟨.ok value, .ok rest⟩
  | .error fault => ⟨.error fault, .error fault⟩

/-- Whether a character is one of the ten digits. -/
def isDigit (c : Char) : Bool :=
  '0' ≤ c && c ≤ '9'

/-- The value of a digit. -/
def digitValue (c : Char) : Nat :=
  c.toNat - 48

/-- A number cut into its parts. `fraction` and `exponent` are absent where
    their mark is; the exponent comes with its sign. -/
structure NumberParts where
  isNegative : Bool
  whole : List Char
  fraction : Option (List Char) := none
  exponent : Option (Bool × List Char) := none

/-- Gather digits for as long as they fit sixty-four bits: what was gathered,
    and the digits left over. -/
def gather (sum : Nat) : List Char → Nat × List Char
  | [] => (sum, [])
  | c :: cs =>
    if sum * 10 + digitValue c < Nat.pow 2 64 then gather (sum * 10 + digitValue c) cs
    else (sum, c :: cs)

/-- A power of ten that a floating point number can hold. -/
def powerOfTen (n : Nat) : Float :=
  Float.ofScientific 1 false n

/-- Multiply or divide by a power of ten, in steps of at most `10^308`. Three
    steps divide every gathered number down to zero. -/
def scaleFloat : Nat → Float → Int → Option Float
  | 0, x, _ => some x
  | fuel + 1, x, exponent =>
    if exponent.natAbs ≤ 308 then
      if 0 ≤ exponent then
        let y := x * powerOfTen exponent.natAbs
        if y.isInf then none else some y
      else some (x / powerOfTen exponent.natAbs)
    else if x == 0.0 then some x
    else if 0 ≤ exponent then none
    else scaleFloat fuel (x / powerOfTen 308) (exponent + 308)

/-- Gathered digits times a power of ten, with a sign. -/
def floatNumber (isNegative : Bool) (gathered : Nat) (exponent : Int) : Except Fault Number :=
  match scaleFloat 4 (UInt64.ofNat gathered).toFloat exponent with
  | none => .error .malformed
  | some x => .ok (.float (if isNegative then -x else x).toBits)

/-- A number without fraction and exponent whose digits all fit. -/
def wholeNumber (isNegative : Bool) (gathered : Nat) : Number :=
  if !isNegative then .integer gathered
  else if gathered = 0 || Nat.pow 2 63 < gathered then
    .float (-(UInt64.ofNat gathered).toFloat).toBits
  else .integer (-(gathered : Int))

/-- The value of a number. An exponent beyond thirty-one bits makes zero of
    every number it divides and is out of range for every other but zero. -/
def NumberParts.value (parts : NumberParts) : Except Fault Number :=
  let (whole, excess) := gather 0 parts.whole
  match parts.fraction, parts.exponent with
  | none, none =>
    if excess.isEmpty then .ok (wholeNumber parts.isNegative whole)
    else floatNumber parts.isNegative whole excess.length
  | fraction, exponent =>
    let digits := fraction.getD []
    let (gathered, dropped) := gather whole digits
    -- Digits left over in front of the point stand for tens, digits gathered
    -- behind it for tenths.
    let start : Int := (excess.length : Int) - ((digits.length : Int) - dropped.length)
    match exponent with
    | none => floatNumber parts.isNegative gathered start
    | some (isNegative, digits) =>
      let size := digits.foldl (fun n c => n * 10 + digitValue c) 0
      if Nat.pow 2 31 ≤ size then
        if gathered ≠ 0 && !isNegative then .error .malformed
        else .ok (.float (if parts.isNegative then -0.0 else 0.0 : Float).toBits)
      else
        floatNumber parts.isNegative gathered
          (if isNegative then start - size else start + size)

/-- The exponent of a number, if its mark stands next. -/
def scanExponent (parts : NumberParts) (cs : List Char) :
    Except Fault (NumberParts × List Char) :=
  match cs with
  | c :: cs =>
    if c = 'e' || c = 'E' then
      let (isNegative, cs) := match cs with
        | '-' :: cs => (true, cs)
        | '+' :: cs => (false, cs)
        | cs => (false, cs)
      let digits := cs.takeWhile isDigit
      if digits.isEmpty then .error (faultAt cs)
      else .ok ({ parts with exponent := some (isNegative, digits) }, cs.dropWhile isDigit)
    else .ok (parts, c :: cs)
  | [] => .ok (parts, [])

/-- The fraction of a number, if its mark stands next, and its exponent. -/
def scanFraction (parts : NumberParts) (cs : List Char) :
    Except Fault (NumberParts × List Char) :=
  match cs with
  | '.' :: cs =>
    let digits := cs.takeWhile isDigit
    if digits.isEmpty then .error (faultAt cs)
    else scanExponent { parts with fraction := some digits } (cs.dropWhile isDigit)
  | cs => scanExponent parts cs

/-- The parts of a number, from behind its sign. A zero in front of further
    digits is no number. -/
def scanParts (isNegative : Bool) (cs : List Char) : Except Fault (NumberParts × List Char) :=
  match cs.takeWhile isDigit with
  | [] => .error (faultAt cs)
  | '0' :: _ :: _ => .error .malformed
  | whole => scanFraction ⟨isNegative, whole, none, none⟩ (cs.dropWhile isDigit)

/-- A number, from behind its sign. A lenient walker does not mind the range,
    and calls a number that breaks off malformed even at the end of the text. -/
def scanNumber (isNegative : Bool) (cs : List Char) : Scanned Number :=
  match scanParts isNegative cs with
  | .error fault => ⟨.error fault, .error .malformed⟩
  | .ok (parts, rest) => ⟨parts.value, .ok rest⟩

/-- Four hexadecimal digits, and the rest. The text has ended too early where
    fewer than four bytes are left of it. -/
def scanHex (cs : List Char) : Except Fault (Nat × List Char) :=
  if (cs.take 4).foldl (fun n c => n + c.utf8Size) 0 < 4 then .error .unexpectedEnd
  else match (cs.take 4).mapM Text.hexDigit? with
    | some digits => .ok (digits.foldl (fun n d => n * 16 + d) 0, cs.drop 4)
    | none => .error .malformed

/-- The character of a leading half of a surrogate pair, whose other half has
    to follow as another escape. -/
def scanTrailing (leading : Nat) (cs : List Char) : Except Fault (Char × List Char) :=
  match cs with
  | [] => .error .unexpectedEnd
  | '\\' :: [] => .error .unexpectedEnd
  | '\\' :: 'u' :: cs => do
    let (trailing, rest) ← scanHex cs
    if 0xDC00 ≤ trailing ∧ trailing ≤ 0xDFFF then
      return (Char.ofNat (0x10000 + (leading - 0xD800) * 0x400 + (trailing - 0xDC00)), rest)
    else .error .malformed
  | _ => .error .malformed

/-- An escape by number, from behind its mark. A lenient walker takes any four
    digits. -/
def scanNumberEscape (cs : List Char) : Scanned Char :=
  match scanHex cs with
  | .error fault => ⟨.error fault, .error fault⟩
  | .ok (n, rest) =>
    -- Halves of a pair are no characters, and a trailing half cannot come first.
    if n < 0xD800 || 0xDFFF < n then ⟨.ok (Char.ofNat n), .ok rest⟩
    else if 0xDC00 ≤ n then ⟨.error .malformed, .ok rest⟩
    else match scanTrailing n rest with
      | .ok (c, rest) => ⟨.ok c, .ok rest⟩
      | .error fault => ⟨.error fault, .ok rest⟩

/-- The character of an escape by letter. -/
def letterEscape? (c : Char) : Option Char :=
  if c = '"' || c = '\\' || c = '/' then some c
  else if c = 'b' then some '\x08'
  else if c = 'f' then some '\x0c'
  else if c = 'n' then some '\n'
  else if c = 'r' then some '\r'
  else if c = 't' then some '\t'
  else none

/-- One character of a string, from its first. -/
def scanStringChar (c : Char) (cs : List Char) : Scanned Char :=
  if c = '\\' then
    match cs with
    | [] => ⟨.error .unexpectedEnd, .error .unexpectedEnd⟩
    | 'u' :: cs => scanNumberEscape cs
    | e :: cs => match letterEscape? e with
      | some c => ⟨.ok c, .ok cs⟩
      | none => ⟨.error .malformed, .error .malformed⟩
  else if c.toNat < 32 then ⟨.error .malformed, .error .malformed⟩
  else ⟨.ok c, .ok cs⟩

/-- The first fault stays; a character is added to what has been read. -/
def addChar (read : Except Fault (List Char)) (next : Except Fault Char) :
    Except Fault (List Char) :=
  match read, next with
  | .error fault, _ => .error fault
  | .ok _, .error fault => .error fault
  | .ok cs, .ok c => .ok (c :: cs)

/-- A string behind what has been read of it, newest first. Every step takes a
    character at least, so the length of the text bounds their number. -/
def scanStringFrom : Nat → Except Fault (List Char) → List Char → Scanned String
  | 0, read, _ => ⟨read.bind fun _ => .error .unexpectedEnd, .error .unexpectedEnd⟩
  | _ + 1, read, [] => ⟨read.bind fun _ => .error .unexpectedEnd, .error .unexpectedEnd⟩
  | fuel + 1, read, c :: cs =>
    if c = '"' then ⟨read.map fun text => String.ofList text.reverse, .ok cs⟩
    else
      let next := scanStringChar c cs
      match next.rest with
      | .ok rest => scanStringFrom fuel (addChar read next.read) rest
      | .error fault => ⟨read.bind fun _ => .error fault, .error fault⟩

/-- A string, from behind its opening quote, in a number of steps that has to
    be above the length of the text. -/
def scanString (fuel : Nat) (cs : List Char) : Scanned String :=
  scanStringFrom fuel (.ok []) cs

end Json

end Typings
