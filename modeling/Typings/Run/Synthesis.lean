import Typings.Config
import Typings.Enumeration
import Typings.Hierarchy.Cycle
import Typings.Hierarchy.Link
import Typings.Hierarchy.Propagate
import Typings.Namespace

/-!
# Synthesis

All declarations that follow from a configuration and a complete list of
sources. Nothing here depends on how, or whether, they are rendered.

Every symbol is used once: as an enum, a namespace, an interface or a class,
or it is skipped. A namespace that the configuration lists as an enum is one.

## Main definitions

* `enumsOf`: The enums of a source.
* `Synthesis`: The models of a run before bases are carried down.
* `synthesize`: The models of a list of sources.
* `Synthesis.finished`: The class hierarchy with everything carried down.
-/

namespace Typings

open Api (Source Symbol)

/-- Whether a symbol is declared as an enum. -/
def isEnumSymbol (config : Config) (s : Symbol) : Bool :=
  s.kind = .enum || (s.kind = .namespace && config.isEnumNamespace s.name)

/-- Whether a symbol is declared as a namespace. -/
def isNamespaceSymbol (config : Config) (s : Symbol) : Bool :=
  s.kind = .namespace && !config.isEnumNamespace s.name

/-- The enums of a source. -/
def enumsOf (config : Config) (source : Source) : List EnumDeclaration :=
  (source.symbols.filter (isEnumSymbol config)).map (EnumDeclaration.ofSymbol source.library)

/-- The namespaces of a source. -/
def namespacesOf (config : Config) (r : Resolver) (source : Source) : List NamespaceModel :=
  (source.symbols.filter (isNamespaceSymbol config)).map (NamespaceModel.build r source.library)

/-- The symbols of a source that nothing is declared for, each with its
    library. -/
def skippedOf (source : Source) : List (String × Symbol) :=
  (source.symbols.filter (·.kind = .other)).map fun s => (source.library, s)

/-- The models of a run before base methods are carried down: the enums of
    each library that has some, the namespaces, the interfaces, the skipped
    symbols, and the classes with the links between them. -/
structure Synthesis where
  resolver : Resolver
  enums : List (String × List EnumDeclaration)
  namespaces : List NamespaceModel
  interfaces : Hierarchy
  skipped : List (String × Symbol)
  classes : Hierarchy
  links : LinkSummary

/-- The models of a list of sources. -/
def synthesize (config : Config) (sources : List Source) : Synthesis :=
  let resolver : Resolver := ⟨config.substitutions, Registry.ofSources sources⟩
  let linked := (Hierarchy.ofSources resolver .class .class sources).link
  { resolver := resolver
    enums := (sources.map fun s => (s.library, enumsOf config s)).filter (!·.2.isEmpty)
    namespaces := sources.flatMap (namespacesOf config resolver)
    interfaces := Hierarchy.ofSources resolver .interface .interface sources
    skipped := sources.flatMap skippedOf
    classes := linked.1
    links := linked.2 }

namespace Synthesis

/-- The class hierarchy with everything carried down, and what was carried. -/
def finished (s : Synthesis) : Hierarchy × List Inherited :=
  s.classes.propagate s.resolver

/-- All enums, library by library. -/
def allEnums (s : Synthesis) : List EnumDeclaration :=
  s.enums.flatMap Prod.snd

/-- The declarations of all interfaces. -/
def interfaceDeclarations (s : Synthesis) : List ClassDeclaration :=
  s.interfaces.classes.toList.map (·.declaration none)

/-- The declarations of all namespaces. -/
def namespaceDeclarations (s : Synthesis) : List NamespaceDeclaration :=
  s.namespaces.map (·.declaration)

end Synthesis

/-- The declarations of all classes of a hierarchy, each with its base. -/
def Hierarchy.declarations (h : Hierarchy) : List ClassDeclaration :=
  h.classes.toList.map fun c => c.declaration (h.baseOf c.id)

end Typings
