import Typings.Method.Basic

/-!
# Overloads of Base Methods

A method of a class has to accept every call that a method of its base class
with the same name accepts. If its signature does not cover the base method,
the base signature has to be declared beside it, and its own return type has
to grow by that of the base method.

Covering is decided on the texts of types. Different types at the same place
of equally long parameter lists already rule it out. Otherwise a base method
that returns its receiver asks the same of the method, and any other base
method asks that its return alternatives be found among the method's own.

## Main definitions

* `OverloadDecision`: What a base method asks of a method.
* `Method.overloadDecision`: The decision for two methods.
* `Method.adoptThis`: A method made to return its receiver.
* `Method.mergeBase`: A method's return type grown by a base method's.
-/

namespace Typings

/-- What a base method asks of a method. -/
inductive OverloadDecision where
  /-- Nothing, since it has another name. -/
  | unrelated
  /-- Nothing, since it is covered. -/
  | compatible
  /-- To return its receiver. -/
  | adoptThis
  /-- To stand beside the base signature. -/
  | overload
  deriving DecidableEq, Repr

namespace Method

/-- Whether two parameter lists are equally long and have different types at
    some place. -/
def hasTypeConflict (own base : Method) : Bool :=
  own.parameters.length = base.parameters.length &&
    (own.parameters.zip base.parameters).any fun (a, b) => a.type ≠ b.type

/-- Whether all return alternatives of a base method are found among those of
    a method. -/
def coversReturn (own base : Method) : Bool :=
  (alternatives base.returnText).all fun a => a ∈ alternatives own.returnText

/-- What a base method asks of a method. -/
def overloadDecision (own base : Method) : OverloadDecision :=
  if own.name ≠ base.name then .unrelated
  else if own.hasTypeConflict base then .overload
  else if base.returnText = thisType then .adoptThis
  else if own.coversReturn base then .compatible
  else .overload

/-- A method made to return its receiver. -/
def adoptThis (m : Method) : Method :=
  let returnType := m.returnType.getD ReturnType.fluent
  { m with returnType := some { returnType with type := thisType, isUnknown := false } }

/-- The alternatives of two types, without repetition. -/
def mergedAlternatives (own base : String) : List String :=
  addAllNew [] (alternatives own ++ alternatives base)

/-- A return type grown to given alternatives, each with the token that the
    base return type has for it. -/
def ReturnType.grow (own base : ReturnType) (merged : List String) : ReturnType :=
  { own with
    type := union merged
    isUnknown := false
    rawTypes := merged.foldl (fun t alternative =>
      match base.rawTypes.get? alternative with
      | some token => t.put alternative token
      | none => t) own.rawTypes }

/-- What merged alternatives need: each is resolved again, from the token that
    the base return type has for it if there is one. -/
def mergedNeeds (r : Resolver) (base : ReturnType) (merged : List String) : Requirements :=
  Requirements.mergeAll (merged.map fun alternative =>
    (r.resolve ((base.rawTypes.get? alternative).getD alternative)).requirements)

/-- A method's return type grown by that of a base method, with what the grown
    type needs. If either of the two returns its receiver, so does the result. -/
def mergeBase (own base : Method) (origin : MethodRef) (r : Resolver) : Method × Requirements :=
  let own := { own with overloaded := some origin }
  match base.returnType with
  | none => (own, {})
  | some baseReturn =>
    let merged := mergedAlternatives own.returnText baseReturn.type
    let returnType := own.returnType.getD ReturnType.unknown
    if thisType ∈ merged then
      ({ own with returnType := some { returnType with type := thisType } }, {})
    else
      ({ own with returnType := some (ReturnType.grow returnType baseReturn merged) },
       mergedNeeds r baseReturn merged)

end Method

end Typings
