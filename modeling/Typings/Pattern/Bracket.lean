import Typings.Pattern.Escape

/-!
# Classes in Brackets

A class in brackets is a union of characters, ranges, escapes and further
classes, and may be built from several unions by intersection, difference and
symmetric difference, which are taken from left to right. A mark at its front
makes it the complement.

Case is set aside before a complement is taken, and on either side of an
operation.

## Main definitions

* `ClassUnion`: What has been read of a union.
* `ClassOp`: The operations between unions.
* `readClass`: A class, from behind its opening bracket.
-/

namespace Typings

namespace Pattern

open Reader

/-- What has been read of a union: its characters, how many items it has, and
    how deep the deepest of them is nested. -/
structure ClassUnion where
  chars : CharClass := .none
  items : Nat := 0
  depth : Nat := 0

/-- Add an item to a union. -/
def ClassUnion.add (u : ClassUnion) (c : CharClass) (depth : Nat) : ClassUnion :=
  ⟨u.chars.union c, u.items + 1, max u.depth depth⟩

/-- How deep a union is nested. -/
def ClassUnion.nested (u : ClassUnion) : Nat :=
  Pattern.nested u.items u.depth

/-- The operations between the unions of a class. -/
inductive ClassOp where
  | inter
  | diff
  | symmDiff

/-- An operation on two classes. -/
def ClassOp.apply (op : ClassOp) (left right : CharClass) : CharClass :=
  match op with
  | .inter => left.inter right
  | .diff => left.diff right
  | .symmDiff => left.symmDiff right

/-- What stands to the left of an operation: a class, and how deep it is
    nested. -/
structure LeftPart where
  chars : CharClass
  depth : Nat
  op : ClassOp

/-- Apply an operation, or take the union alone if there is nothing to its
    left. Either side is taken without regard to case if the flags say so. -/
def combine (f : Flags) (left : Option LeftPart) (right : ClassUnion) : CharClass × Nat :=
  match left with
  | none => (right.chars, right.nested)
  | some left =>
    (left.op.apply (closeCase f left.chars) (closeCase f right.chars),
      max left.depth right.nested + 1)

/-- A class with a name in brackets and colons, if one stands behind an
    opening bracket: whether its complement is meant, and what follows it. -/
def namedClass? (cs : List Char) : Option (Bool × CharClass × List Char) :=
  match cs with
  | ':' :: cs =>
    let (negated, cs) := match cs with
      | '^' :: cs => (true, cs)
      | cs => (false, cs)
    match cs.dropWhile (· ≠ ':') with
    | ':' :: ']' :: after =>
      (CharClass.ofBracketName? (String.ofList (cs.takeWhile (· ≠ ':')))).map fun c =>
        (negated, c, after)
    | _ => none
  | _ => none

/-- One character or class inside brackets. Where only bytes are read, a
    character of several bytes is refused. -/
def readClassItem : Reader (Char ⊕ CharClass) := do
  let f ← flags
  let accept := fun (c : Char) =>
    if f.unicode || c.toNat < 128 then (return .inl c : Reader (Char ⊕ CharClass)) else refuse
  let c ← peek
  drop
  if c = '\\' then
    match ← readEscape with
    | .char c => accept c
    | .chars c => return .inr c
    | .look _ => refuse
  else accept c

/-- The first character behind a given one that is not skipped. -/
def afterNext : Reader (Option Char) := do
  let saved ← rest
  advance
  let found := (← rest).head?
  goOn saved
  return found

/-- A character, a class or a range of characters inside brackets. -/
def readClassRange : Reader CharClass := do
  let first ← readClassItem
  skip
  let c ← peek
  let next ← afterNext
  if c ≠ '-' || next = some ']' || next = some '-' then
    match first with
    | .inl c => return .single c
    | .inr c => return c
  else
    advance
    let _ ← peek
    match first, ← readClassItem with
    | .inl a, .inl b => if b < a then refuse else return .range a b
    | _, _ => refuse

/-- What stands at the front of brackets: a mark of complement, dashes, and a
    closing bracket in first place, which stand for themselves. -/
def readClassStart : Reader (Bool × ClassUnion) := do
  skip
  let negated := (← peek) = '^'
  if negated then advance
  let dashes ← takeAll (· = '-')
  let first ← peek
  if dashes.isEmpty && first = ']' then
    advance
    let _ ← peek
    return (negated, ({} : ClassUnion).add (.single ']') 0)
  else return (negated, dashes.foldl (fun u c => u.add (.single c) 0) {})

mutual

/-- A class and how deep it is nested, from behind its opening bracket. A class
    that would hold parts of characters is refused: where only bytes are read,
    a class that holds one byte beyond 127 holds all of them. -/
def readClass : Nat → Reader (CharClass × Nat)
  | 0 => refuse
  | fuel + 1 => do
    let f ← flags
    let (negated, start) ← readClassStart
    let (c, depth) ← readClassFrom fuel none start
    let c := (closeCase f c).complIf negated
    -- Any one byte beyond 127 shows that the class holds all of them.
    if !f.unicode && c.holds '\x80' then refuse
    return (c, depth + 1)

/-- The rest of a class behind what has been read of it. -/
def readClassFrom : Nat → Option LeftPart → ClassUnion → Reader (CharClass × Nat)
  | 0, _, _ => refuse
  | fuel + 1, left, done => do
    skip
    let f ← flags
    -- Operations are applied from left to right, with no preference among them.
    let before := fun op =>
      let (c, depth) := combine f left done
      some (⟨c, depth, op⟩ : LeftPart)
    match ← rest with
    | [] => refuse
    | ']' :: cs =>
      goOn cs
      return combine f left done
    | '[' :: cs =>
      match namedClass? cs with
      | some (negated, c, after) =>
        goOn after
        if negated && !f.unicode then refuse
        readClassFrom fuel left (done.add ((closeCase f c).complIf negated) 0)
      | none =>
        goOn cs
        let (inner, depth) ← readClass fuel
        readClassFrom fuel left (done.add inner depth)
    | '&' :: '&' :: cs =>
      goOn cs
      readClassFrom fuel (before .inter) {}
    | '-' :: '-' :: cs =>
      goOn cs
      readClassFrom fuel (before .diff) {}
    | '~' :: '~' :: cs =>
      goOn cs
      readClassFrom fuel (before .symmDiff) {}
    | _ =>
      let c ← readClassRange
      readClassFrom fuel left (done.add c 0)

end

end Pattern

end Typings
