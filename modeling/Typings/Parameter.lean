import Typings.Json.Printer
import Typings.Resolve

/-!
# Parameters

A parameter of a method, a constructor or an event, with the text of its
type. The text is either resolved from the token in the record, which is
kept beside it, or made up for the occasion; a made-up type has no token.

## Main definitions

* `Parameter`: A parameter with the text of its type.
* `Parameter.ofType`: A parameter whose type is made up.
* `Parameter.resolve`: A parameter whose type is resolved.
* `Parameter.render`: A parameter as it stands in a signature.
-/

namespace Typings

/-- A parameter with the text of its type, and the token that text was
    resolved from. -/
structure Parameter where
  name : String
  type : String
  isOptional : Bool := false
  description : String := ""
  defaultValue : Option String := none
  rawType : String := ""
  deriving DecidableEq, Repr, Inhabited

namespace Parameter

/-- A parameter whose type is made up. -/
def ofType (raw : Api.Parameter) (type : String) : Parameter where
  name := raw.name
  type := type
  isOptional := raw.isOptional
  description := raw.description
  defaultValue := raw.defaultValue.map Json.Value.compact

/-- A parameter whose type is resolved, and what that type needs. -/
def resolve (r : Resolver) (raw : Api.Parameter) : Parameter × Requirements :=
  let resolved := r.resolve raw.type
  ({ ofType raw resolved.rendered with rawType := raw.type }, resolved.requirements)

/-- A parameter as it stands in a signature. -/
def render (p : Parameter) : String :=
  p.name ++ (if p.isOptional then "?" else "") ++ ": " ++ p.type

end Parameter

end Typings
