import Typings.Method.Basic

/-!
# The Text of Methods

How a method is declared: its signature, without the semicolon that ends it,
and the lines of its documentation, without the comment around them. A member
of a class shows who may use it and whether it is static; a member of an
interface and a function of a namespace show neither.

## Main definitions

* `SignatureStyle`: Where a signature stands.
* `Method.signature`: The signature of a method.
* `Method.docLines`: The documentation of a method.
-/

namespace Typings

/-- Where a signature stands: in a class, or in an interface or namespace. -/
inductive SignatureStyle where
  | member
  | bare
  deriving DecidableEq, Repr

namespace Method

/-- The words in front of a class member's name. -/
def modifiers (m : Method) : String :=
  (if m.visibility = .publicMember then "" else m.visibility.name ++ " ") ++
    (if m.isStatic then "static " else "")

/-- The signature of a method. -/
def signature (m : Method) (style : SignatureStyle) : String :=
  (match style with
    | .member => m.modifiers
    | .bare => "") ++
  m.name ++
  (if m.isGeneric && !m.generics.isEmpty then "<" ++ Text.join ", " m.generics ++ ">" else "") ++
  "(" ++ Text.join ", " (m.parameters.map Parameter.render) ++ ")" ++
  (match m.returnType with
    | some r => ": " ++ r.type
    | none => "")

/-- A documentation tag with its type and what follows it. -/
def docTag (tag type : String) (words : List String) : String :=
  Text.join " " (["@" ++ tag, "\x7b" ++ type ++ "\x7d"] ++ words)

/-- A description, if there is one. -/
def described (description : String) : List String :=
  if description.isEmpty then [] else [description]

/-- The documentation line of a parameter; an optional one stands in
    brackets. -/
def parameterDoc (p : Parameter) : String :=
  docTag "param" p.type
    ((if p.isOptional then "[" ++ p.name ++ "]" else p.name) :: described p.description)

/-- The documentation line of a return type, unless it is unknown. -/
def returnDoc : Option ReturnType → List String
  | none => []
  | some r =>
    if r.isUnknown then [] else [docTag "returns" r.type (described r.description)]

/-- The documentation of a method, line by line. -/
def docLines (m : Method) : List String :=
  Text.lines m.description ++ m.parameters.map parameterDoc ++ returnDoc m.returnType

end Method

end Typings
