import Typings.Declaration.Basic
import Typings.Method.Variants

/-!
# Namespaces

A namespace has functions and fields and no base. All its functions are
static, and it fires no events. What its functions need comes before what its
fields need.

## Main definitions

* `NamespaceModel`: A namespace with its dependencies.
* `NamespaceModel.build`: A namespace from its symbol.
* `NamespaceModel.declaration`: The finished declaration.
-/

namespace Typings

/-- A namespace with its dependencies. -/
structure NamespaceModel where
  name : String
  qualifiedName : String
  fullName : String
  description : String := ""
  library : String := ""
  methods : List Method := []
  properties : List NamespaceProperty := []
  dependencies : Dependencies := {}
  deriving DecidableEq, Repr, Inhabited

namespace NamespaceModel

/-- A field, and what its type needs. -/
def property (r : Resolver) (raw : Api.Property) : NamespaceProperty × Requirements :=
  let resolved := r.resolve raw.type
  (⟨raw.name, resolved.rendered, raw.description⟩, resolved.requirements)

/-- A namespace from its symbol. -/
def build (r : Resolver) (library : String) (s : Api.Symbol) : NamespaceModel :=
  let methods := s.methods.flatMap fun raw =>
    Method.variants { resolver := r } raw { isForcedStatic := true }
  let properties := s.properties.map (property r)
  { name := s.shortName
    qualifiedName := s.name
    fullName := s.modulePath
    description := s.description
    library := library
    methods := methods
    properties := properties.map Prod.fst
    dependencies := (Dependencies.suppressing [s.shortName]).absorbAll
      (methods.map (·.requirements) ++ properties.map Prod.snd) }

/-- The finished declaration. -/
def declaration (n : NamespaceModel) : NamespaceDeclaration where
  name := n.name
  qualifiedName := n.qualifiedName
  fullName := n.fullName
  module := TypePath.moduleOf n.fullName
  library := n.library
  imports := n.dependencies.imports.toList
  description := n.description
  functions := n.methods.map (MethodDeclaration.ofMethod .bare)
  properties := n.properties

end NamespaceModel

end Typings
