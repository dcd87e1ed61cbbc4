import Typings.Method.Text
import Typings.Text.Quoted

/-!
# Finished Declarations

What a run hands over to be written: signatures as text, documentation as
lines, and the imports they need. Nothing has to be resolved or compared any
more.

## Main definitions

* `ClassKind`: Classes and interfaces.
* `MethodDeclaration`, `EventDeclaration`, `Setting`, `SettingsInterface`:
  The parts of a class.
* `ClassDeclaration`: A class or an interface.
* `NamespaceDeclaration`: A namespace.
* `EnumDeclaration`: An enum.
-/

namespace Typings

open Api (Visibility)

/-- Classes and interfaces are declared alike. -/
inductive ClassKind where
  | «class»
  | interface
  deriving DecidableEq, Repr, Inhabited

/-- The word for a kind. -/
def ClassKind.name : ClassKind → String
  | .class => "class"
  | .interface => "interface"

/-- How signatures of a kind are written: only members of classes show who
    may use them. -/
def ClassKind.style : ClassKind → SignatureStyle
  | .class => .member
  | .interface => .bare

/-- A method. -/
structure MethodDeclaration where
  name : String := ""
  signature : String
  isStatic : Bool := false
  visibility : Visibility := .publicMember
  doc : List String := []
  /-- It was merged with a method of the base class. -/
  overloadsBase : Bool := false
  deriving DecidableEq, Repr, Inhabited

/-- A method as it is declared in a style. -/
def MethodDeclaration.ofMethod (style : SignatureStyle) (m : Method) : MethodDeclaration where
  name := m.name
  signature := m.signature style
  isStatic := m.isStatic
  visibility := m.visibility
  doc := m.docLines
  overloadsBase := m.overloaded.isSome

/-- The payload of an event. -/
structure EventDeclaration where
  name : String
  payloadType : String
  description : String := ""
  parameters : List Parameter := []
  deriving DecidableEq, Repr, Inhabited

/-- The payload that is declared for an event. -/
def EventDeclaration.ofEvent (e : Event) : EventDeclaration where
  name := e.name
  payloadType := e.payloadType
  description := e.description
  parameters := e.parameters

/-- A setting that a constructor accepts. -/
structure Setting where
  name : String
  type : String
  description : String := ""
  defaultValue : Option String := none
  deriving DecidableEq, Repr, Inhabited

/-- The settings that a constructor accepts, all optional. -/
structure SettingsInterface where
  name : String
  base : Option String := none
  properties : List Setting := []
  deriving DecidableEq, Repr, Inhabited

/-- A class or an interface. -/
structure ClassDeclaration where
  kind : ClassKind
  name : String
  qualifiedName : String
  fullName : String
  module : String
  library : String := ""
  imports : List TypeImport := []
  baseClass : Option String := none
  description : String := ""
  constructors : List MethodDeclaration := []
  methods : List MethodDeclaration := []
  events : List EventDeclaration := []
  settings : Option SettingsInterface := none
  deriving DecidableEq, Repr, Inhabited

/-- The signatures of a method, in order. -/
def ClassDeclaration.methodsNamed (d : ClassDeclaration) (name : String) :
    List MethodDeclaration :=
  d.methods.filter (·.name = name)

/-- A field of a namespace. -/
structure NamespaceProperty where
  name : String
  type : String
  description : String := ""
  deriving DecidableEq, Repr, Inhabited

/-- A namespace. -/
structure NamespaceDeclaration where
  name : String
  qualifiedName : String
  fullName : String
  module : String
  library : String := ""
  imports : List TypeImport := []
  description : String := ""
  functions : List MethodDeclaration := []
  properties : List NamespaceProperty := []
  deriving DecidableEq, Repr, Inhabited

/-- The value of an enum's member: a text, or a number by its text. -/
inductive EnumValue where
  | string (text : String)
  | number (text : String)
  deriving DecidableEq, Repr, Inhabited

/-- A member of an enum. -/
structure EnumMember where
  name : String
  value : EnumValue
  description : String := ""
  deriving DecidableEq, Repr, Inhabited

/-- A member as it stands in its enum. -/
def EnumMember.render (m : EnumMember) : String :=
  m.name ++ " = " ++ match m.value with
    | .string text => Text.quoted text
    | .number text => text

/-- An enum. -/
structure EnumDeclaration where
  name : String
  qualifiedName : String
  module : String
  description : String := ""
  library : String := ""
  members : List EnumMember := []
  deriving DecidableEq, Repr, Inhabited

end Typings
