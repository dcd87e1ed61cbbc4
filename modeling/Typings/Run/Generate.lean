import Typings.Run.Report
import Typings.Run.Synthesis

/-!
# Generating Declarations

A run over a complete list of sources. Models come first and renderings
after, but the two are interleaved where a model is final early: enums and
interfaces are rendered before classes are even built. Hence a cycle among
classes ends a run that has already rendered those two kinds, and nothing
else.

A renderer is any function that takes an item to a new state and answers with
an error if it failed. A failure is counted and reported, and changes nothing
else about the run.

## Main definitions

* `Renderer`: How items are rendered.
* `Rendering`: The result of rendering items one after the other.
* `Generation`: What a run leaves behind, whether or not it succeeds.
* `generate`: A run.
-/

namespace Typings

open Emit (Item RenderError)

/-- How items are rendered, with a state that rendering works on. -/
abbrev Renderer (σ : Type) := σ → Item → σ × Option RenderError

/-- An item that was rendered, or the error that kept it from being so. -/
structure RenderedItem where
  item : Item
  error : Option RenderError

namespace RenderedItem

/-- What a run reports of an item. -/
def event (r : RenderedItem) : RunEvent :=
  match r.error with
  | none => .rendered r.item.kind r.item.name
  | some e => .renderFailed r.item.kind r.item.name e.message

/-- The failure of an item, if it failed. -/
def failure? (r : RenderedItem) : Option RenderFailure :=
  r.error.map fun e => ⟨r.item.kind, r.item.name, e.message⟩

end RenderedItem

/-- The result of rendering items one after the other. -/
structure Rendering (σ : Type) where
  state : σ
  items : List RenderedItem := []

namespace Rendering

variable {σ : Type}

/-- Render one more item. -/
def render (renderer : Renderer σ) (r : Rendering σ) (item : Item) : Rendering σ :=
  let (state, error) := renderer r.state item
  ⟨state, r.items ++ [⟨item, error⟩]⟩

/-- Render items one after the other, starting from a state. -/
def all (renderer : Renderer σ) (state : σ) (items : List Item) : Rendering σ :=
  items.foldl (render renderer) ⟨state, []⟩

/-- What a run reports of the items. -/
def events (r : Rendering σ) : List RunEvent :=
  r.items.map RenderedItem.event

/-- The failures among the items. -/
def failures (r : Rendering σ) : List RenderFailure :=
  r.items.filterMap RenderedItem.failure?

/-- How many items were rendered. -/
def count (r : Rendering σ) : Nat :=
  r.items.length - r.failures.length

end Rendering

/-- The tokens that could not be resolved in an owner. -/
def unresolvedEvents (owner : String) (d : Dependencies) : List RunEvent :=
  d.unresolved.map (.typeUnresolved owner)

/-- The tokens that could not be resolved in classes. -/
def unresolvedInClasses (h : Hierarchy) : List RunEvent :=
  h.classes.toList.flatMap fun c => unresolvedEvents c.qualifiedName c.dependencies

/-- The tokens that could not be resolved in namespaces. -/
def unresolvedInNamespaces (namespaces : List NamespaceModel) : List RunEvent :=
  namespaces.flatMap fun n => unresolvedEvents n.qualifiedName n.dependencies

/-- What a run leaves behind: the renderer's state, the log, and the output or
    the cycle that kept it from being made. -/
structure Generation (σ : Type) where
  state : σ
  log : List RunEvent
  result : Except InheritanceCycle Output

/-- The log of a run up to the linking of bases, given the renderings of enums
    and interfaces. -/
def earlyLog {σ : Type} (s : Synthesis) (enums interfaces : Rendering σ) : List RunEvent :=
  let registered := s.resolver.registry.ambientCount + s.resolver.registry.classCount
  Phase.events .ambientRegistry registered [] ++
    Phase.events .enums s.allEnums.length enums.events ++
    Phase.events .namespaces s.namespaces.length [] ++
    unresolvedInNamespaces s.namespaces ++
    Phase.events .interfaces s.interfaces.size [] ++
    unresolvedInClasses s.interfaces ++
    interfaces.events ++
    Phase.events .classes s.classes.size
      (s.skipped.map fun (library, symbol) => .symbolSkipped library symbol.name symbol.kind) ++
    Phase.events .baseClassLinking s.links.linked
      (s.links.unresolved.map .baseClassUnresolved)

/-- A run. -/
def generate {σ : Type} (config : Config) (sources : List Api.Source) (renderer : Renderer σ)
    (state : σ) : Generation σ :=
  let s := synthesize config sources
  let enums := Rendering.all renderer state (s.enums.map fun (library, ds) => .enums library ds)
  let interfaces :=
    Rendering.all renderer enums.state (s.interfaceDeclarations.map .interface)
  let log := earlyLog s enums interfaces
  match s.classes.cycle? with
  -- Enums and interfaces are written by then, classes are not.
  | some cycle => ⟨interfaces.state, log, .error cycle⟩
  | none =>
    let (finished, inherited) := s.finished
    let declarations := finished.declarations
    let classes := Rendering.all renderer interfaces.state (declarations.map .class)
    let namespaces :=
      Rendering.all renderer classes.state (s.namespaceDeclarations.map .namespace)
    let unresolved := unresolvedInClasses finished
    { state := namespaces.state
      log := log ++
        Phase.events .overloadPropagation inherited.length
          (inherited.map .overloadInherited) ++
        Phase.events .rendering (declarations.length + s.namespaces.length)
          (unresolved ++ classes.events ++ namespaces.events)
      result := .ok
        { report :=
            { sources := sources.length
              ambientTypes := s.resolver.registry.ambientCount
              enums := s.allEnums.length
              namespaces := s.namespaces.length
              interfaces := s.interfaces.size
              classes := s.classes.size
              skippedSymbols := s.skipped.length
              linkedBaseClasses := s.links.linked
              unresolvedBaseClasses := s.links.unresolved
              inheritedOverloads := inherited.length
              unresolvedTypes :=
                (unresolvedInNamespaces s.namespaces).length +
                  (unresolvedInClasses s.interfaces).length + unresolved.length
              rendered := enums.count + interfaces.count + classes.count + namespaces.count
              renderFailures :=
                enums.failures ++ interfaces.failures ++ classes.failures ++
                  namespaces.failures }
          enums := s.allEnums
          interfaces := s.interfaceDeclarations
          classes := declarations
          namespaces := s.namespaceDeclarations } }

end Typings
