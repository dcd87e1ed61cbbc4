import Typings.Registry
import Typings.Requirements
import Typings.Text.Blank

/-!
# Resolving Type Tokens

A source names types by tokens: `int`, `sap.ui.core.Control[]`, or a union
such as `string|sap.m.ButtonType`. Resolving turns a token into the text that
stands for it in a declaration, and says what that text needs.

A union is resolved alternative by alternative. Of an alternative one array
suffix is set aside, the rest is exchanged for the token it is substituted
by, if any, and what comes out of that is a name: a qualified name becomes
its short name if a source declares it and `any` if none does, and every
other name stays what it is.

The same token always resolves to the same text, since nothing but the
substitutions and the registry goes into it.

## Main definitions

* `Resolver`: The substitutions and the registry of a run.
* `ResolvedType`: The text of a token, what it needs, and which token each
  of its alternatives came from.
* `Resolver.resolveName`: The text of a name.
* `Resolver.resolveAlternative`: The text of one alternative.
* `Resolver.resolve`: The text of a token.
-/

namespace Typings

/-- The text of a type that nothing is known about. -/
def anyType : String := "any"

/-- Names that stay what they are without being looked up. -/
def primitiveTypes : List String :=
  ["any", "number", "void", "string", "boolean"]

/-- What makes a type the type of its arrays. -/
def arraySuffix : String := "[]"

/-- The alternatives of a type, without the blanks around them. -/
def alternatives (type : String) : List String :=
  (Text.split (· = '|') type).map Text.trim

/-- Alternatives put together as one type. -/
def union (members : List String) : String :=
  Text.join "|" members

/-- The text of a token, what it needs, and each rendered alternative with
    the token it came from. -/
structure ResolvedType where
  rendered : String
  requirements : Requirements := {}
  rawTypes : List (String × String) := []
  deriving DecidableEq, Repr, Inhabited

/-- The substitutions and the registry of a run. -/
structure Resolver where
  substitutions : Table String := Table.empty
  registry : Registry := Registry.empty
  deriving Inhabited

namespace Resolver

/-- The token that a token stands for. -/
def substitute (r : Resolver) (token : String) : String :=
  (r.substitutions.get? token).getD token

/-- The text of a name without array suffix, and what it needs. -/
def resolveName (r : Resolver) (name : String) : String × Requirements :=
  if name.isEmpty then (anyType, {})
  else if name ∈ primitiveTypes || !TypePath.isQualified name then (name, {})
  else match r.registry.lookup name with
    | some entry =>
      let short := TypePath.lastSegment name
      (short, { imports := [⟨short, entry.module⟩] })
    | none => (anyType, { unresolved := [name] })

/-- The text of one alternative, and what it needs. -/
def resolveAlternative (r : Resolver) (alternative : String) : String × Requirements :=
  match Text.withoutEnd? arraySuffix alternative with
  | some element =>
    let (text, needs) := r.resolveName (r.substitute element)
    (text ++ arraySuffix, needs)
  | none => r.resolveName (r.substitute alternative)

/-- The text of a token, and what it needs. A blank token says nothing about
    its type. -/
def resolve (r : Resolver) (token : String) : ResolvedType :=
  if Text.isBlankText token then { rendered := anyType }
  else
    let tokens := alternatives token
    let resolved := tokens.map r.resolveAlternative
    { rendered := union (resolved.map Prod.fst)
      requirements := Requirements.mergeAll (resolved.map Prod.snd)
      rawTypes := (resolved.map Prod.fst).zip tokens }

end Resolver

end Typings
