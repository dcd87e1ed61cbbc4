import Typings.Text.Blank
import Typings.Text.Case
import Typings.Text.Category

/-!
# Character Classes

A class is a test on characters, so that union, complement and the other
operations of the notation are those of truth values. Beside the test a class
carries a weight, a measure of how many bytes its automaton would take; a
pattern whose weights add up too far is refused. A class of few characters
below code point 128 is a single state with its ranges. Beyond that an
automaton reads bytes, and every range takes a few states of its own.

Without regard to case a class holds a character if it holds any member of
the character's case family.

## Main definitions

* `CharClass`: A class with its weight.
* `CharClass.union`, `inter`, `diff`, `symmDiff`, `compl`: The operations.
* `CharClass.ignoringCase`: A class without regard to case.
* `CharClass.digit`, `word`, `space`: The classes that have letters.
-/

namespace Typings

namespace Pattern

/-- How many bytes a state of an automaton takes. -/
def stateWeight : Nat := 32

/-- A test on characters, with its weight. -/
structure CharClass where
  holds : Char → Bool
  weight : Nat := stateWeight

instance : Inhabited CharClass := ⟨⟨fun _ => false, stateWeight⟩⟩

namespace CharClass

/-- The class without characters. -/
def none : CharClass := ⟨fun _ => false, 0⟩

/-- The class of one character, which has a state for each of its bytes. -/
def single (c : Char) : CharClass := ⟨fun d => d = c, stateWeight * c.utf8Size⟩

/-- How many bytes a number of ranges takes, of code points below 128 or of
    others. -/
def rangesWeight (isAscii : Bool) (ranges : Nat) : Nat :=
  2 * stateWeight + (if isAscii then 8 else 60) * ranges

/-- The class of the characters between two, both included. -/
def range (first last : Char) : CharClass :=
  ⟨fun d => first ≤ d && d ≤ last, rangesWeight (last.toNat < 128) 1⟩

/-- The class of the characters in some ranges, all below code point 128. -/
def ofAsciiRanges (ranges : List (Char × Char)) : CharClass :=
  ⟨fun d => ranges.any fun r => r.1 ≤ d && d ≤ r.2, rangesWeight true ranges.length⟩

/-- Characters of either class. -/
def union (a b : CharClass) : CharClass := ⟨fun c => a.holds c || b.holds c, a.weight + b.weight⟩

/-- Characters of both classes. -/
def inter (a b : CharClass) : CharClass := ⟨fun c => a.holds c && b.holds c, a.weight + b.weight⟩

/-- Characters of the first class only. -/
def diff (a b : CharClass) : CharClass := ⟨fun c => a.holds c && !b.holds c, a.weight + b.weight⟩

/-- Characters of exactly one of two classes. -/
def symmDiff (a b : CharClass) : CharClass :=
  ⟨fun c => a.holds c != b.holds c, a.weight + b.weight⟩

/-- What it takes to read any character at all. -/
def anyWeight : Nat := 964

/-- Every character. -/
def any : CharClass := ⟨fun _ => true, anyWeight⟩

/-- Characters outside a class. -/
def compl (a : CharClass) : CharClass := ⟨fun c => !a.holds c, a.weight + anyWeight⟩

/-- A class or its complement. -/
def complIf (negated : Bool) (a : CharClass) : CharClass :=
  if negated then a.compl else a

/-- The code points that fold to a given one, itself not among them. -/
def foldsTo (n : Nat) : List Nat :=
  Text.foldRuns.filterMap fun run =>
    let source := ((n : Int) - run.shift).toNat
    if run.partner? source = some n then some source else Option.none

/-- The case family of a character. -/
def family (c : Char) : List Char :=
  let representative := Text.fold c.toNat
  c :: (representative :: foldsTo representative).map Char.ofNat

/-- A class without regard to case. -/
def ignoringCase (a : CharClass) : CharClass :=
  ⟨fun c => (family c).any a.holds, 2 * a.weight⟩

/-- The same for the letters A to Z only. -/
def ignoringAsciiCase (a : CharClass) : CharClass :=
  ⟨fun c => a.holds c || a.holds (Text.lowerAscii c) ||
      ('a' ≤ c && c ≤ 'z' && a.holds (Char.ofNat (c.toNat - 32))), 2 * a.weight⟩

/-- The decimal digits of all scripts. -/
def digit : CharClass := ⟨fun c => Text.category c = .decimalNumber, 5116⟩

/-- The characters of a word. -/
def word : CharClass := ⟨Text.isWordChar, 49836⟩

/-- Blanks. -/
def space : CharClass := ⟨Text.isBlank, 680⟩

/-- The ten digits. -/
def asciiDigit : CharClass := range '0' '9'

/-- Letters A to Z, digits and the underscore. -/
def asciiWord : CharClass := ofAsciiRanges [('0', '9'), ('A', 'Z'), ('_', '_'), ('a', 'z')]

/-- The blanks below code point 128. -/
def asciiSpace : CharClass := ofAsciiRanges [('\t', '\r'), (' ', ' ')]

end CharClass

end Pattern

end Typings
