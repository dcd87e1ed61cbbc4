import Typings.Json.Value
import Typings.TypePath

/-!
# Interface Descriptions

What a library publishes about its public surface: one source for each
library, with a symbol for everything it exports. The records are read and
never changed; models copy from them what they need.

A symbol may leave out its short name and its module path. Both then follow
from its qualified name.

## Main definitions

* `SymbolKind`: What a symbol declares.
* `Visibility`: Who may use a member.
* `Source`, `Symbol`, `Method`, `Parameter`, `ReturnValue`, `Event`,
  `Property`: The records.
* `Symbol.shortName`, `Symbol.modulePath`: What the two names default to.
-/

namespace Typings

namespace Api

open Json (Value)

/-- What a symbol declares. Every kind without declarations of its own is
    `other`. -/
inductive SymbolKind where
  | «class»
  | interface
  | namespace
  | enum
  | other
  deriving DecidableEq, Repr, Inhabited

namespace SymbolKind

/-- The name of a kind. -/
def name : SymbolKind → String
  | .class => "class"
  | .interface => "interface"
  | .namespace => "namespace"
  | .enum => "enum"
  | .other => "other"

/-- The kind with a name; every unknown name is `other`. -/
def ofName (name : String) : SymbolKind :=
  if name = "class" then .class
  else if name = "interface" then .interface
  else if name = "namespace" then .namespace
  else if name = "enum" then .enum
  else .other

end SymbolKind

/-- Who may use a member. -/
inductive Visibility where
  | publicMember
  | protectedMember
  | privateMember
  | restrictedMember
  | hiddenMember
  deriving DecidableEq, Repr, Inhabited

namespace Visibility

/-- Every visibility, from the widest down. -/
def all : List Visibility :=
  [.publicMember, .protectedMember, .privateMember, .restrictedMember, .hiddenMember]

/-- The word for a visibility. -/
def name : Visibility → String
  | .publicMember => "public"
  | .protectedMember => "protected"
  | .privateMember => "private"
  | .restrictedMember => "restricted"
  | .hiddenMember => "hidden"

/-- The visibility with a name. -/
def ofName? (name : String) : Option Visibility :=
  all.find? (·.name = name)

/-- Declarations know three visibilities: whatever is restricted or hidden is
    declared private. -/
def normalized : Visibility → Visibility
  | .restrictedMember => .privateMember
  | .hiddenMember => .privateMember
  | v => v

end Visibility

/-- A parameter of a method or an event. -/
structure Parameter where
  name : String := ""
  type : String := ""
  isOptional : Bool := false
  description : String := ""
  defaultValue : Option Value := none
  deriving Repr, Inhabited

/-- What a method is documented to return. -/
structure ReturnValue where
  type : String := ""
  description : String := ""
  deriving Repr, Inhabited, DecidableEq

/-- A method; the record of a constructor has no name. -/
structure Method where
  name : String := ""
  visibility : Visibility := .publicMember
  isStatic : Bool := false
  description : String := ""
  parameters : List Parameter := []
  returnValue : Option ReturnValue := none
  deriving Repr, Inhabited

/-- An event that a class fires. -/
structure Event where
  name : String := ""
  description : String := ""
  visibility : Visibility := .publicMember
  parameters : List Parameter := []
  deriving Repr, Inhabited

/-- A field of a namespace, a member of an enum or a setting of a class. -/
structure Property where
  name : String := ""
  type : String := ""
  description : String := ""
  visibility : Visibility := .publicMember
  isStatic : Bool := false
  defaultValue : Option Value := none
  value : Option Value := none
  deriving Repr, Inhabited

/-- The metadata block of a class, of which only the settings are used. -/
structure Metadata where
  properties : List Property := []
  deriving Repr, Inhabited

/-- Something a library exports. -/
structure Symbol where
  kind : SymbolKind := .other
  name : String := ""
  basename : String := ""
  module : String := ""
  base : Option String := none
  description : String := ""
  visibility : Visibility := .publicMember
  methods : List Method := []
  events : List Event := []
  construct : Option Method := none
  properties : List Property := []
  metadata : Option Metadata := none
  deriving Repr, Inhabited

namespace Symbol

/-- The name under which a symbol is exported: the last segment of its
    qualified name, unless it gives another. -/
def shortName (s : Symbol) : String :=
  if s.basename.isEmpty then TypePath.lastSegment s.name else s.basename

/-- The module path of a symbol: its qualified name with slashes, unless it
    gives another. -/
def modulePath (s : Symbol) : String :=
  if s.module.isEmpty then TypePath.toModulePath s.name else s.module

/-- The settings of a class, from its metadata block. -/
def settings (s : Symbol) : List Property :=
  match s.metadata with
  | some m => m.properties
  | none => []

end Symbol

/-- What one library exports. -/
structure Source where
  library : String := ""
  symbols : List Symbol := []
  deriving Repr, Inhabited

end Api

end Typings
