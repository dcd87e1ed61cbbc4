import Typings.Api.Record
import Typings.Table

/-!
# The Registry of Declared Types

Which types the sources of a run declare, and where. The registry is built
from all sources before anything else happens, so a declaration of one
library can refer to a type of another in any order.

Enums, namespaces and interfaces come before classes: a name that is declared
both ways means the former. Among declarations of one group the last one
counts. Symbols of other kinds declare no type.

## Main definitions

* `RegistryEntry`: A declared type.
* `Registry`: The declared types of a run by qualified name.
* `Registry.ofSources`: The registry of a list of sources.
* `Registry.lookup`: The entry of a token, in either spelling.
-/

namespace Typings

open Api (Source Symbol SymbolKind)

/-- A declared type: its qualified name and short name, the module that
    exports it, and the library it belongs to. -/
structure RegistryEntry where
  kind : SymbolKind
  name : String
  basename : String
  module : String
  library : String
  deriving DecidableEq, Repr, Inhabited

/-- The entry of a symbol. -/
def RegistryEntry.ofSymbol (library : String) (s : Symbol) : RegistryEntry where
  kind := s.kind
  name := s.name
  basename := s.shortName
  module := TypePath.moduleOf s.modulePath
  library := library

/-- The declared types of a run by qualified name. -/
structure Registry where
  /-- Enums, namespaces and interfaces. -/
  ambient : Table RegistryEntry := Table.empty
  classes : Table RegistryEntry := Table.empty
  deriving Inhabited

namespace Registry

/-- The registry without entries. -/
def empty : Registry := {}

/-- Register a symbol, in place of an earlier one of its name and group. -/
def register (library : String) (r : Registry) (s : Symbol) : Registry :=
  let entry := RegistryEntry.ofSymbol library s
  match s.kind with
  | .enum | .namespace | .interface => { r with ambient := r.ambient.put s.name entry }
  | .class => { r with classes := r.classes.put s.name entry }
  | .other => r

/-- Register the symbols of a source in order. -/
def registerSource (r : Registry) (source : Source) : Registry :=
  source.symbols.foldl (register source.library) r

/-- The registry of a list of sources. -/
def ofSources (sources : List Source) : Registry :=
  sources.foldl registerSource empty

/-- The entry of a token, which may be spelled with slashes. -/
def lookup (r : Registry) (token : String) : Option RegistryEntry :=
  let name := TypePath.toDotted token
  match r.ambient.get? name with
  | some entry => some entry
  | none => r.classes.get? name

/-- The number of enums, namespaces and interfaces. -/
def ambientCount (r : Registry) : Nat :=
  r.ambient.size

/-- The number of classes. -/
def classCount (r : Registry) : Nat :=
  r.classes.size

/-- Whether no type is declared at all. -/
def isEmpty (r : Registry) : Bool :=
  r.ambient.isEmpty && r.classes.isEmpty

end Registry

end Typings
