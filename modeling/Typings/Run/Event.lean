import Typings.Emit.Item
import Typings.Hierarchy.Link
import Typings.Hierarchy.Propagate

/-!
# The Log of a Run

What a run reports while it goes on, event by event, and the phases it goes
through.

## Main definitions

* `Phase`: The phases of a run, in order.
* `RunEvent`: What a run reports.
-/

namespace Typings

/-- The phases of a run. -/
inductive Phase where
  | ambientRegistry
  | enums
  | namespaces
  | interfaces
  | classes
  | baseClassLinking
  | overloadPropagation
  | rendering
  deriving DecidableEq, Repr, Inhabited

namespace Phase

/-- The phases in order. -/
def all : List Phase :=
  [.ambientRegistry, .enums, .namespaces, .interfaces, .classes, .baseClassLinking,
   .overloadPropagation, .rendering]

/-- The name of a phase. -/
def name : Phase → String
  | .ambientRegistry => "ambient-registry"
  | .enums => "enums"
  | .namespaces => "namespaces"
  | .interfaces => "interfaces"
  | .classes => "classes"
  | .baseClassLinking => "base-class-linking"
  | .overloadPropagation => "overload-propagation"
  | .rendering => "rendering"

end Phase

/-- What a run reports. -/
inductive RunEvent where
  | phaseStarted (phase : Phase)
  | phaseFinished (phase : Phase) (items : Nat)
  | symbolSkipped (library name : String) (kind : Api.SymbolKind)
  | baseClassUnresolved (base : UnresolvedBase)
  | overloadInherited (inherited : Inherited)
  | typeUnresolved (owner token : String)
  | rendered (kind : Emit.RenderKind) (name : String)
  | renderFailed (kind : Emit.RenderKind) (name message : String)
  deriving DecidableEq, Repr, Inhabited

/-- A phase with what it reports between its start and its end. -/
def Phase.events (phase : Phase) (items : Nat) (between : List RunEvent) : List RunEvent :=
  .phaseStarted phase :: between ++ [.phaseFinished phase items]

end Typings
