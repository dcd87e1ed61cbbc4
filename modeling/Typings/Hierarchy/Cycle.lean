import Typings.Hierarchy.Basic

/-!
# Inheritance Cycles

Following bases from class to class either ends at a class without base or
comes back to a class it has been to. The classes from there on inherit from
themselves, which no declaration can express.

The search starts from every class in order and reports the first cycle it
runs into, beginning at the class by which it was entered.

## Main definitions

* `InheritanceCycle`: The classes of a cycle, the first once more at the end.
* `Hierarchy.cycleFrom?`: The cycle that a class's bases run into.
* `Hierarchy.cycle?`: The first cycle.
-/

namespace Typings

/-- The names of the classes of a cycle, the first once more at the end. -/
structure InheritanceCycle where
  classes : List String
  deriving DecidableEq, Repr, Inhabited

/-- The message of a cycle. -/
def InheritanceCycle.message (c : InheritanceCycle) : String :=
  "inheritance cycle: " ++ Text.join " -> " c.classes

namespace Hierarchy

/-- Follow bases from a place, remembering the places passed, newest first.
    A hierarchy of `n` classes is left or repeated after `n` steps. -/
def follow (h : Hierarchy) : Nat → List Nat → Nat → Option (List Nat)
  | 0, _, _ => none
  | fuel + 1, passed, id =>
    -- What was passed on the way into the cycle is not part of it.
    if id ∈ passed then some (passed.reverse.dropWhile (· ≠ id) ++ [id])
    else match h.baseId? id with
      | none => none
      | some base => h.follow fuel (id :: passed) base

/-- The cycle that the bases of a class run into, as places. -/
def cycleFrom? (h : Hierarchy) (id : Nat) : Option (List Nat) :=
  h.follow (h.size + 1) [] id

/-- The qualified name of the class at a place. -/
def nameAt (h : Hierarchy) (id : Nat) : String :=
  match h.get? id with
  | some c => c.qualifiedName
  | none => ""

/-- The first cycle, searched from every class in order. -/
def cycle? (h : Hierarchy) : Option InheritanceCycle :=
  ((List.range h.size).findSome? h.cycleFrom?).map fun ids => ⟨ids.map h.nameAt⟩

end Hierarchy

end Typings
