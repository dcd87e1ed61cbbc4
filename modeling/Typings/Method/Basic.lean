import Typings.Event

/-!
# Methods

One call signature of a method or a constructor. A method that accepts calls
of several shapes has several of these.

A return type remembers from which token each of its alternatives was
resolved, so that the type can be merged with another one later without
losing what it needs. Where nothing is documented the return type is `any`
and marked as unknown; a constructor has no return type at all.

## Main definitions

* `ReturnType`: A return type with its tokens.
* `MethodRef`: A place in the method list of another class.
* `Method`: A call signature.
* `Method.returnText`: The text of the return type.
-/

namespace Typings

open Api (Visibility)

/-- The return type of a method that returns its receiver. -/
def thisType : String := "this"

/-- A place in the method list of a class. -/
structure MethodRef where
  classId : Nat
  index : Nat
  deriving DecidableEq, Repr, Inhabited

/-- A return type. -/
structure ReturnType where
  type : String
  description : String := ""
  /-- The token each alternative was resolved from. -/
  rawTypes : Table String := Table.empty
  /-- Nothing is documented. -/
  isUnknown : Bool := false
  deriving DecidableEq, Repr, Inhabited

namespace ReturnType

/-- The return type where nothing is documented. -/
def unknown : ReturnType where
  type := anyType
  isUnknown := true

/-- The return type of a method that returns its receiver. -/
def fluent : ReturnType where
  type := thisType

end ReturnType

/-- A call signature of a method or a constructor. -/
structure Method where
  name : String
  description : String := ""
  visibility : Visibility := .publicMember
  isStatic : Bool := false
  parameters : List Parameter := []
  returnType : Option ReturnType := none
  /-- Some parameter is declared with a type parameter. -/
  isGeneric : Bool := false
  /-- The type parameters, in order. -/
  generics : List String := []
  /-- The method of the base class that this one was merged with last. -/
  overloaded : Option MethodRef := none
  requirements : Requirements := {}
  deriving DecidableEq, Repr, Inhabited

namespace Method

/-- The text of the return type; without one it counts as `any`. -/
def returnText (m : Method) : String :=
  match m.returnType with
  | some r => r.type
  | none => anyType

end Method

end Typings
