import Typings.Pattern.CharClass

/-!
# Pattern Expressions

What a pattern says, once its notation has been read: all flags are already
applied, classes are closed under case where that was asked for, and groups
are numbered.

## Main definitions

* `Look`: Conditions on a place in a text.
* `Look.holds`: Whether a condition holds at a place.
* `Expr`: Pattern expressions.
* `Expr.canBeEmpty`: Whether an expression can match nothing.
* `Expr.weight`: How many bytes the automaton of an expression would take.
-/

namespace Typings

namespace Pattern

/-- Conditions on a place in a text. Words are those of `isWordChar`, or of
    the characters below code point 128 where `ascii` is set. -/
inductive Look where
  | textStart
  | textEnd
  | lineStart
  | lineEnd
  | crlfStart
  | crlfEnd
  | wordBoundary (ascii : Bool)
  | notWordBoundary (ascii : Bool)
  | wordStart (ascii : Bool)
  | wordEnd (ascii : Bool)
  | wordStartHalf (ascii : Bool)
  | wordEndHalf (ascii : Bool)
  deriving DecidableEq, Repr

/-- Whether a neighbour of a place belongs to a word. -/
def isWordNeighbour (ascii : Bool) (c : Option Char) : Bool :=
  match c with
  | none => false
  | some c => if ascii then CharClass.asciiWord.holds c else Text.isWordChar c

/-- Whether a condition holds between two characters; at either end of a text
    there is none. -/
def Look.holds (before after : Option Char) : Look → Bool
  | .textStart => before.isNone
  | .textEnd => after.isNone
  | .lineStart => before.isNone || before = some '\n'
  | .lineEnd => after.isNone || after = some '\n'
  | .crlfStart =>
    before.isNone || before = some '\n' || (before = some '\r' && after ≠ some '\n')
  | .crlfEnd =>
    after.isNone || after = some '\r' || (after = some '\n' && before ≠ some '\r')
  | .wordBoundary ascii => isWordNeighbour ascii before != isWordNeighbour ascii after
  | .notWordBoundary ascii => isWordNeighbour ascii before == isWordNeighbour ascii after
  | .wordStart ascii => !isWordNeighbour ascii before && isWordNeighbour ascii after
  | .wordEnd ascii => isWordNeighbour ascii before && !isWordNeighbour ascii after
  | .wordStartHalf ascii => !isWordNeighbour ascii before
  | .wordEndHalf ascii => !isWordNeighbour ascii after

/-- Pattern expressions. A repetition has a least and, unless it is open, a
    greatest number of rounds, and prefers more rounds if it is greedy. -/
inductive Expr where
  | empty
  | chars (c : CharClass)
  | look (l : Look)
  | group (index : Nat) (e : Expr)
  | seq (first second : Expr)
  | alt (first second : Expr)
  | rep (least : Nat) (greatest : Option Nat) (isGreedy : Bool) (e : Expr)

instance : Inhabited Expr := ⟨.empty⟩

namespace Expr

/-- Expressions one after the other. -/
def seqAll : List Expr → Expr
  | [] => .empty
  | [e] => e
  | e :: es => .seq e (seqAll es)

/-- Alternatives, the first preferred. -/
def altAll : List Expr → Expr
  | [] => .empty
  | [e] => e
  | e :: es => .alt e (altAll es)

/-- Whether an expression can match without taking a character. -/
def canBeEmpty : Expr → Bool
  | .empty => true
  | .chars _ => false
  | .look _ => true
  | .group _ e => canBeEmpty e
  | .seq a b => canBeEmpty a && canBeEmpty b
  | .alt a b => canBeEmpty a || canBeEmpty b
  | .rep least _ _ e => least = 0 || canBeEmpty e

/-- Whether an expression never takes a character. -/
def takesNothing : Expr → Bool
  | .empty => true
  | .chars _ => false
  | .look _ => true
  | .group _ e => takesNothing e
  | .seq a b => takesNothing a && takesNothing b
  | .alt a b => takesNothing a && takesNothing b
  | .rep _ greatest _ e => greatest = some 0 || takesNothing e

/-- A repetition. Repeating what takes no character more than once changes
    nothing. -/
def repeated (least : Nat) (greatest : Option Nat) (isGreedy : Bool) (e : Expr) : Expr :=
  if greatest = some 0 then .empty
  else if takesNothing e then .rep (min least 1) (some 1) isGreedy e
  else .rep least greatest isGreedy e

/-- How many bytes the automaton of an expression would take. A repetition
    has the states of its expression over again for every round it counts. -/
def weight : Expr → Nat
  | .empty => stateWeight
  | .chars c => c.weight
  | .look _ => stateWeight
  | .group _ e => weight e + 2 * stateWeight
  | .seq a b => weight a + weight b
  | .alt a b => weight a + weight b + 2 * stateWeight
  | .rep least none _ e => max least 1 * weight e + 2 * stateWeight
  | .rep least (some greatest) _ e =>
    greatest * weight e + (greatest - least) * (stateWeight + 8)

end Expr

/-- The weight up to which a pattern is accepted. -/
def weightLimit : Nat := 10 * Nat.pow 2 20

end Pattern

end Typings
