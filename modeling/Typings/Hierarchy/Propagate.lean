import Typings.Hierarchy.Basic
import Typings.Method.Overload
import Typings.Text.Order

/-!
# Carrying Base Methods Down

A class has to accept every call its base accepts. Each method of its base is
held against each of its own methods: where the base method returns its
receiver, a method of the same name has to do so too, and where a method does
not cover the base method, its return type grows by the base method's and the
base method is carried into the class beside it. A base method is carried at
most once, whatever the number of methods that do not cover it.

The base's method list is the finished one, so methods from further up the
hierarchy arrive through the classes in between. That is why every class is
finished before its children look at it, beginning with the roots.

## Main definitions

* `Carrying`: A class's methods while base methods are held against them.
* `Carrying.meet`: One base method held against all methods.
* `Hierarchy.createOverloads`: A class finished, given that its base is.
* `Hierarchy.pushOverloads`: A class and everything below it finished.
* `Hierarchy.propagate`: The whole hierarchy finished.
-/

namespace Typings

/-- A base method that was carried into a class. -/
structure Inherited where
  className : String
  baseClass : String
  method : String
  deriving DecidableEq, Repr, Inhabited

/-- A class while base methods are held against it: its own methods, the base
    methods carried into it, and its dependencies. -/
structure Carrying where
  own : List Method
  carried : List Method := []
  dependencies : Dependencies
  deriving DecidableEq, Repr, Inhabited

/-- What becomes of a method that a base method is held against, and what it
    needs for that if it does not cover the base method. -/
def Method.meet (r : Resolver) (base : Method) (origin : MethodRef) (own : Method) :
    Method × Option Requirements :=
  match own.overloadDecision base with
  | .overload =>
    let (merged, needs) := own.mergeBase base origin r
    (merged, some needs)
  | .adoptThis => (own.adoptThis, none)
  | .compatible => (own, none)
  | .unrelated => (own, none)

namespace Carrying

/-- Hold one base method against all methods, and carry it if one of them does
    not cover it. What the grown return types need comes before what the base
    method needs. -/
def meet (r : Resolver) (baseId : Nat) (c : Carrying) (base : Nat × Method) : Carrying :=
  let met := c.own.map (Method.meet r base.2 ⟨baseId, base.1⟩)
  let own := met.map Prod.fst
  let needs := met.filterMap Prod.snd
  if needs.isEmpty then { c with own := own }
  else
    -- However many methods ask for it, the base method is carried once.
    { own := own
      carried := c.carried ++ [base.2]
      dependencies := c.dependencies.absorbAll (needs ++ [base.2.requirements]) }

/-- Hold base methods against all methods, one after the other. -/
def meetAll (r : Resolver) (baseId : Nat) (c : Carrying) (base : List Method) : Carrying :=
  ((List.range base.length).zip base).foldl (meet r baseId) c

end Carrying

namespace ClassModel

/-- What carrying makes of a class that has a base. -/
def carryFrom (r : Resolver) (base c : ClassModel) (baseId : Nat) : Carrying :=
  Carrying.meetAll r baseId { own := c.methods, dependencies := c.dependencies } base.methods

/-- A class after carrying: its methods are sorted by name, its own before
    carried ones. -/
def finish (c : ClassModel) (carrying : Carrying) : ClassModel :=
  { c with
    methods := Text.sortBy (·.name) (carrying.own ++ carrying.carried)
    dependencies := carrying.dependencies }

end ClassModel

namespace Hierarchy

/-- Finish a class whose base is finished, and report the methods carried into
    it. A class without base is finished already. -/
def createOverloads (r : Resolver) (h : Hierarchy) (id : Nat) : Hierarchy × List Inherited :=
  match h.get? id, h.baseId? id with
  | some c, some baseId =>
    match h.get? baseId with
    | some base =>
      let carrying := ClassModel.carryFrom r base c baseId
      (h.modify id fun c => c.finish carrying,
       carrying.carried.map fun m => ⟨c.qualifiedName, base.qualifiedName, m.name⟩)
    | none => (h, [])
  | _, _ => (h, [])

/-- Finish a class and everything below it, depth first, going down at most
    so many levels. -/
def pushFrom (r : Resolver) : Nat → Hierarchy → Nat → Hierarchy × List Inherited
  | 0, h, _ => (h, [])
  | levels + 1, h, id =>
    let created := createOverloads r h id
    -- The class is finished by now, so its children see its final methods.
    (created.1.childIds id).foldl (fun state child =>
      let below := pushFrom r levels state.1 child
      (below.1, state.2 ++ below.2)) created

/-- Finish a class and everything below it. Nothing is more levels below a
    class than there are classes, unless it inherits from itself. -/
def pushOverloads (r : Resolver) (h : Hierarchy) (id : Nat) : Hierarchy × List Inherited :=
  pushFrom r h.size h id

/-- Finish the whole hierarchy, from every root down. -/
def propagate (r : Resolver) (h : Hierarchy) : Hierarchy × List Inherited :=
  h.roots.foldl (fun state root =>
    let below := pushOverloads r state.1 root
    (below.1, state.2 ++ below.2)) (h, [])

end Hierarchy

end Typings
