import Typings.Method.Subscription

/-!
# Building Methods

A call signature from its record. A method whose name subscribes to an event
of its owner gets the types of a subscription, and returns its receiver if it
takes a callback. Every other method gets the types its record names.

## Main definitions

* `Owner`: What a method can see of its owner.
* `BuildOptions`: What is special about constructors and static members.
* `Method.build`: A call signature from its record.
-/

namespace Typings

/-- What a method can see of its owner. -/
structure Owner where
  resolver : Resolver
  /-- The events of a class; other owners have none. -/
  events : List Event := []

/-- What is special about constructors, which have no return type, and about
    static members, which are static whatever their record says. -/
structure BuildOptions where
  hasNoReturn : Bool := false
  isForcedStatic : Bool := false
  deriving DecidableEq, Repr, Inhabited

namespace ReturnType

/-- The documented return type of a method, and what it needs. -/
def resolve (r : Resolver) (value : Option Api.ReturnValue) : ReturnType × Requirements :=
  match value with
  | none => (unknown, {})
  | some value =>
    let resolved := r.resolve value.type
    ({ type := resolved.rendered
       description := value.description
       rawTypes := Table.ofList resolved.rawTypes },
     resolved.requirements)

end ReturnType

namespace Method

/-- A method without parameters, return type and requirements. -/
def shell (raw : Api.Method) (options : BuildOptions) : Method where
  name := raw.name
  description := raw.description
  visibility := raw.visibility.normalized
  isStatic := raw.isStatic || options.isForcedStatic

/-- A method whose types are those its record names. -/
def buildPlain (r : Resolver) (raw : Api.Method) (options : BuildOptions) : Method :=
  let parameters := raw.parameters.map (Parameter.resolve r)
  let needs := Requirements.mergeAll (parameters.map Prod.snd)
  if options.hasNoReturn then
    { shell raw options with
      parameters := parameters.map Prod.fst
      requirements := needs }
  else
    let (returnType, returnNeeds) := ReturnType.resolve r raw.returnValue
    { shell raw options with
      parameters := parameters.map Prod.fst
      returnType := some returnType
      requirements := needs.merge returnNeeds }

/-- A method that subscribes to an event. -/
def buildSubscription (r : Resolver) (raw : Api.Method) (options : BuildOptions)
    (event : Event) : Method :=
  let s : Subscription := ⟨event, raw.parameters⟩
  let parameters := raw.parameters.map (s.parameter r)
  let needs := Requirements.mergeAll (parameters.map Prod.snd)
  let (returnType, returnNeeds) :=
    if s.has .callback then (ReturnType.fluent, {})
    else ReturnType.resolve r raw.returnValue
  { shell raw options with
    parameters := parameters.map Prod.fst
    returnType := some returnType
    isGeneric := s.isGeneric
    generics := s.generics
    requirements := needs.merge returnNeeds }

/-- A call signature from its record. -/
def build (owner : Owner) (raw : Api.Method) (options : BuildOptions) : Method :=
  match subscribedEvent? raw.name owner.events with
  | some event => buildSubscription owner.resolver raw options event
  | none => buildPlain owner.resolver raw options

end Method

end Typings
