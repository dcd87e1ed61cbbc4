import Typings.Declaration.Basic
import Typings.Method.Variants

/-!
# Classes and Interfaces

A class is built from its symbol alone: its events, then the variants of its
methods and of its constructor, then its settings, each resolved and what it
needs taken in. Its place among the other classes comes later, and with it
the methods it has to take over from its base.

A class never imports itself nor the interface of its own settings, which is
declared beside it. A constructor whose second parameter is `mSettings`
accepts exactly those settings.

## Main definitions

* `ClassModel`: A class or an interface with its place among the others.
* `ClassModel.build`: A class from its symbol.
* `ClassModel.declaration`: The finished declaration.
-/

namespace Typings

/-- A class or an interface. `id` is its place in the list of all classes;
    `baseId` and `children` are the places of the classes it is linked to. -/
structure ClassModel where
  id : Nat
  kind : ClassKind
  name : String
  qualifiedName : String
  fullName : String
  base : Option String := none
  description : String := ""
  library : String := ""
  baseId : Option Nat := none
  children : List Nat := []
  methods : List Method := []
  constructors : List Method := []
  events : List Event := []
  settings : List Setting := []
  dependencies : Dependencies := {}
  deriving DecidableEq, Repr, Inhabited

/-- The name of the interface for the settings of a class. -/
def settingsInterfaceName (className : String) : String :=
  "I" ++ className ++ "Settings"

namespace ClassModel

/-- The declared base of a symbol; an empty one is none. -/
def declaredBase (s : Api.Symbol) : Option String :=
  s.base.filter fun base => !base.isEmpty

/-- A constructor's record as a method's. It is public, and a second parameter
    named `mSettings` has the settings of its class for a type. -/
def constructorRecord (className : String) (raw : Api.Method) : Api.Method :=
  { raw with
    name := "constructor"
    visibility := .publicMember
    parameters := raw.parameters.modify 1 fun p =>
      if p.name = "mSettings" then { p with type := settingsInterfaceName className } else p }

/-- A setting, and what its type needs. -/
def setting (r : Resolver) (raw : Api.Property) : Setting × Requirements :=
  let resolved := r.resolve raw.type
  ({ name := raw.name
     type := resolved.rendered
     description := raw.description
     defaultValue := raw.defaultValue.map Json.Value.compact },
   resolved.requirements)

/-- The variants of a symbol's constructor. -/
def buildConstructors (owner : Owner) (s : Api.Symbol) : List Method :=
  match s.construct with
  | none => []
  | some raw =>
    Method.variants owner (constructorRecord s.shortName raw) { hasNoReturn := true }

/-- A class from its symbol. Interfaces have no settings. -/
def build (r : Resolver) (id : Nat) (kind : ClassKind) (library : String) (s : Api.Symbol) :
    ClassModel :=
  let base := declaredBase s
  let events := s.events.map (Event.resolve r)
  let owner : Owner := { resolver := r, events := events.map Prod.fst }
  let methods := s.methods.flatMap fun raw => Method.variants owner raw {}
  let constructors := buildConstructors owner s
  let settings := if kind = .class then s.settings.map (setting r) else []
  { id := id
    kind := kind
    name := s.shortName
    qualifiedName := s.name
    fullName := s.modulePath
    base := base
    description := s.description
    library := library
    methods := methods
    constructors := constructors
    events := events.map Prod.fst
    settings := settings.map Prod.fst
    dependencies :=
      (Dependencies.suppressing [settingsInterfaceName s.shortName, s.shortName]).absorbAll
        (base.toList.map (fun token => (r.resolve token).requirements) ++
          events.map Prod.snd ++ methods.map (·.requirements) ++
          constructors.map (·.requirements) ++ settings.map Prod.snd) }

/-- The module that a class is declared in. -/
def moduleName (c : ClassModel) : String :=
  TypePath.moduleOf c.fullName

/-- The name of the interface for a class's settings. -/
def settingsName (c : ClassModel) : String :=
  settingsInterfaceName c.name

/-- The short name of the declared base, whether or not it is linked. -/
def baseName (c : ClassModel) : Option String :=
  c.base.map TypePath.lastSegment

/-- The imports of a class whose settings extend those of a base. -/
def importsWith (c : ClassModel) (base : Option ClassModel) : List TypeImport :=
  let imports := c.dependencies.imports.toList
  match base with
  | none => imports
  | some base =>
    let needed : TypeImport := ⟨base.settingsName, base.moduleName⟩
    if needed.module.isEmpty then imports else addNew imports needed

/-- The finished declaration of a class with the class it is linked to. -/
def declaration (c : ClassModel) (base : Option ClassModel) : ClassDeclaration where
  kind := c.kind
  name := c.name
  qualifiedName := c.qualifiedName
  fullName := c.fullName
  module := c.moduleName
  library := c.library
  imports := if c.kind = .class then c.importsWith base else c.importsWith none
  baseClass := c.baseName
  description := c.description
  constructors := c.constructors.map (MethodDeclaration.ofMethod c.kind.style)
  methods := c.methods.map (MethodDeclaration.ofMethod c.kind.style)
  events := c.events.map EventDeclaration.ofEvent
  settings :=
    if c.kind = .class then
      some
        { name := c.settingsName
          base := base.map settingsName
          properties := c.settings }
    else none

end ClassModel

end Typings
