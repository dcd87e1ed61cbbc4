import Typings.Declaration.Data
import Typings.Run.Event

/-!
# The Report of a Run

What a run has to say for itself when it is over: how much of everything
there was, what was missing, and what could not be written.

## Main definitions

* `RenderFailure`: An item that could not be rendered.
* `Report`: The counters of a run.
* `Output`: The report with all declarations.
* `Output.toValue`: The output as a data value.
-/

namespace Typings

open Json (Value)

/-- An item that could not be rendered. -/
structure RenderFailure where
  kind : Emit.RenderKind
  name : String
  message : String
  deriving DecidableEq, Repr, Inhabited

/-- The counters of a run. -/
structure Report where
  sources : Nat := 0
  ambientTypes : Nat := 0
  enums : Nat := 0
  namespaces : Nat := 0
  interfaces : Nat := 0
  classes : Nat := 0
  skippedSymbols : Nat := 0
  linkedBaseClasses : Nat := 0
  unresolvedBaseClasses : List UnresolvedBase := []
  inheritedOverloads : Nat := 0
  unresolvedTypes : Nat := 0
  rendered : Nat := 0
  renderFailures : List RenderFailure := []
  deriving DecidableEq, Repr, Inhabited

/-- How many items could not be rendered. -/
def Report.failureCount (r : Report) : Nat :=
  r.renderFailures.length

/-- The report of a run with all declarations, in source order. -/
structure Output where
  report : Report := {}
  enums : List EnumDeclaration := []
  interfaces : List ClassDeclaration := []
  classes : List ClassDeclaration := []
  namespaces : List NamespaceDeclaration := []
  deriving DecidableEq, Repr, Inhabited

/-- A failure as a data value. -/
def RenderFailure.toValue (f : RenderFailure) : Value :=
  .object
    [("kind", .string f.kind.name), ("name", .string f.name), ("message", .string f.message)]

/-- An unresolved base as a data value. -/
def UnresolvedBase.toValue (b : UnresolvedBase) : Value :=
  .object [("class", .string b.className), ("extends", .string b.base)]

/-- A report as a data value. -/
def Report.toValue (r : Report) : Value :=
  .object
    [("sources", .ofNat r.sources), ("ambientTypes", .ofNat r.ambientTypes),
     ("enums", .ofNat r.enums), ("namespaces", .ofNat r.namespaces),
     ("interfaces", .ofNat r.interfaces), ("classes", .ofNat r.classes),
     ("skippedSymbols", .ofNat r.skippedSymbols),
     ("linkedBaseClasses", .ofNat r.linkedBaseClasses),
     ("unresolvedBaseClasses", .ofList UnresolvedBase.toValue r.unresolvedBaseClasses),
     ("inheritedOverloads", .ofNat r.inheritedOverloads),
     ("unresolvedTypes", .ofNat r.unresolvedTypes), ("rendered", .ofNat r.rendered),
     ("renderFailures", .ofList RenderFailure.toValue r.renderFailures)]

/-- An output as a data value. -/
def Output.toValue (o : Output) : Value :=
  .object
    [("report", o.report.toValue), ("enums", .ofList EnumDeclaration.toValue o.enums),
     ("interfaces", .ofList ClassDeclaration.toValue o.interfaces),
     ("classes", .ofList ClassDeclaration.toValue o.classes),
     ("namespaces", .ofList NamespaceDeclaration.toValue o.namespaces)]

end Typings
