import Typings.Class

/-!
# The Class Hierarchy

All classes of a run in source order, each known by its place in that order.
A class that is linked to a base knows the base's place, and the base knows
the places of its children. Both directions are changed together, and a class
that is linked anew leaves the children of its former base.

## Main definitions

* `Hierarchy`: The classes of a run.
* `Hierarchy.push`: A class added behind the others.
* `Hierarchy.setBase`: A class linked to a base.
* `Hierarchy.baseOf`, `Hierarchy.roots`, `Hierarchy.find?`: Views of the
  links.
* `Hierarchy.ofSources`: The classes of a list of sources.
-/

namespace Typings

/-- The classes of a run, each at the place that is its `id`. -/
structure Hierarchy where
  classes : Array ClassModel := #[]
  deriving Inhabited

namespace Hierarchy

/-- The hierarchy without classes. -/
def empty : Hierarchy := {}

/-- The number of classes, which is also the place of the next one. -/
def size (h : Hierarchy) : Nat :=
  h.classes.size

/-- Add a class behind the others. -/
def push (h : Hierarchy) (c : ClassModel) : Hierarchy :=
  ⟨h.classes.push c⟩

/-- The class at a place. -/
def get? (h : Hierarchy) (id : Nat) : Option ClassModel :=
  h.classes[id]?

/-- Change the class at a place. -/
def modify (h : Hierarchy) (id : Nat) (change : ClassModel → ClassModel) : Hierarchy :=
  ⟨h.classes.modify id change⟩

/-- The place of the base that a class is linked to. -/
def baseId? (h : Hierarchy) (id : Nat) : Option Nat :=
  (h.get? id).bind (·.baseId)

/-- The places of the classes that are linked to a class. -/
def childIds (h : Hierarchy) (id : Nat) : List Nat :=
  match h.get? id with
  | some c => c.children
  | none => []

/-- The base that a class is linked to. -/
def baseOf (h : Hierarchy) (id : Nat) : Option ClassModel :=
  (h.baseId? id).bind h.get?

/-- The first class with a qualified name. -/
def find? (h : Hierarchy) (qualifiedName : String) : Option ClassModel :=
  h.classes.toList.find? (·.qualifiedName = qualifiedName)

/-- The places of the classes without base, in order. -/
def roots (h : Hierarchy) : List Nat :=
  (h.classes.toList.filter (·.baseId.isNone)).map (·.id)

/-- Take a class from the children of its base. -/
def detach (h : Hierarchy) (child : Nat) : Hierarchy :=
  match h.baseId? child with
  | none => h
  | some former => h.modify former fun c => { c with children := c.children.filter (· ≠ child) }

/-- Link a class to a base. -/
def setBase (h : Hierarchy) (child base : Nat) : Hierarchy :=
  ((h.detach child).modify child fun c => { c with baseId := some base }).modify base
    fun c => { c with children := addNew c.children child }

/-- Build a class from its symbol and add it. -/
def pushSymbol (r : Resolver) (kind : ClassKind) (library : String) (h : Hierarchy)
    (s : Api.Symbol) : Hierarchy :=
  h.push (ClassModel.build r h.size kind library s)

/-- The classes of a list of sources that are declared by symbols of a kind,
    in order. -/
def ofSources (r : Resolver) (symbolKind : Api.SymbolKind) (kind : ClassKind)
    (sources : List Api.Source) : Hierarchy :=
  sources.foldl (fun h source =>
    (source.symbols.filter (·.kind = symbolKind)).foldl (pushSymbol r kind source.library) h)
    empty

end Hierarchy

end Typings
