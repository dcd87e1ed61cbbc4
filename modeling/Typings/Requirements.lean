import Typings.Table

/-!
# What a Type Needs

The text of a type may name types of other modules. Resolving never writes
into a declaration; it says what its text needs, and the owner of the text
gathers that into its own import list.

Both gatherings keep the first of everything. Requirements hold no import and
no token twice. An import list holds no short name twice: the first module
offered for a name keeps it. It never takes the names its owner declares
itself, nor a type without a module, which needs no import.

## Main definitions

* `TypeImport`: A type and the module that exports it.
* `Requirements`: What a text needs, and what could not be resolved in it.
* `Requirements.merge`: The requirements of two texts.
* `ImportSet`: The import list of a declaration.
* `ImportSet.add`, `ImportSet.addAll`: Imports offered to it.
* `Dependencies`: The import list of a declaration, with what could not be
  resolved in it.
-/

namespace Typings

/-- Add an element to the end of a list, unless the list has it. -/
def addNew {α : Type} [DecidableEq α] (items : List α) (a : α) : List α :=
  if a ∈ items then items else items ++ [a]

/-- Add elements one after the other. -/
def addAllNew {α : Type} [DecidableEq α] (items more : List α) : List α :=
  more.foldl addNew items

/-- A type and the module that exports it. -/
structure TypeImport where
  name : String
  module : String
  deriving DecidableEq, Repr, Inhabited

/-- What a text needs: the imports of the types it names, and the qualified
    tokens that no source declares. -/
structure Requirements where
  imports : List TypeImport := []
  unresolved : List String := []
  deriving DecidableEq, Repr, Inhabited

namespace Requirements

/-- The requirements of a text that names no type. -/
def empty : Requirements := {}

/-- The requirements of two texts, those of the first before those that only
    the second has. -/
def merge (a b : Requirements) : Requirements where
  imports := addAllNew a.imports b.imports
  unresolved := addAllNew a.unresolved b.unresolved

/-- The requirements of several texts. -/
def mergeAll (all : List Requirements) : Requirements :=
  all.foldl merge empty

/-- Whether a text needs nothing. -/
def isEmpty (r : Requirements) : Bool :=
  r.imports.isEmpty && r.unresolved.isEmpty

end Requirements

/-- The import list of a declaration: modules by short name, in the order in
    which they were accepted, and the names that are never imported. -/
structure ImportSet where
  modules : Table String := Table.empty
  suppressed : List String := []
  deriving DecidableEq, Repr, Inhabited

namespace ImportSet

/-- An empty import list that suppresses names. -/
def suppressing (names : List String) : ImportSet where
  suppressed := names

/-- Whether an import list takes an import: the type has a module, its name
    is not suppressed, and no import has that name yet. -/
def accepts (s : ImportSet) (i : TypeImport) : Bool :=
  !i.module.isEmpty && i.name ∉ s.suppressed && !s.modules.contains i.name

/-- Offer an import. -/
def add (s : ImportSet) (i : TypeImport) : ImportSet :=
  if s.accepts i then { s with modules := s.modules.put i.name i.module } else s

/-- Offer imports one after the other. -/
def addAll (s : ImportSet) (imports : List TypeImport) : ImportSet :=
  imports.foldl add s

/-- Whether a name is imported. -/
def contains (s : ImportSet) (name : String) : Bool :=
  s.modules.contains name

/-- The number of imports. -/
def size (s : ImportSet) : Nat :=
  s.modules.size

/-- Whether nothing is imported. -/
def isEmpty (s : ImportSet) : Bool :=
  s.modules.isEmpty

/-- The imports in the order in which they were accepted. -/
def toList (s : ImportSet) : List TypeImport :=
  s.modules.entries.map fun entry => ⟨entry.1, entry.2⟩

end ImportSet

/-- The import list of a declaration, and the tokens in it that could not be
    resolved. -/
structure Dependencies where
  imports : ImportSet := {}
  unresolved : List String := []
  deriving DecidableEq, Repr, Inhabited

namespace Dependencies

/-- The dependencies of a declaration that says nothing yet, and that never
    imports the given names. -/
def suppressing (names : List String) : Dependencies where
  imports := ImportSet.suppressing names

/-- Take in what another text needs. -/
def absorb (d : Dependencies) (needs : Requirements) : Dependencies where
  imports := d.imports.addAll needs.imports
  unresolved := addAllNew d.unresolved needs.unresolved

/-- Take in what several texts need, in order. -/
def absorbAll (d : Dependencies) (all : List Requirements) : Dependencies :=
  all.foldl absorb d

end Dependencies

end Typings
