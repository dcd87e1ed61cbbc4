import Typings.Method.Basic

/-!
# Subscriptions

A method `attachResize` of a class that fires the event `resize` subscribes a
callback to that event. Its documented parameter types say less than its
declaration can: the callback receives the event's payload, it is bound to
the listener where one is given, and whatever custom data is given arrives as
its last argument.

Which parameter is which follows from its name. The listener is only bound
where there is a callback to bind it to; without one it is a parameter like
any other.

## Main definitions

* `Role`: What a parameter is to a subscription.
* `subscribedEvent?`: The event a method subscribes to.
* `callbackType`: The type of a callback.
* `Subscription`: An event and the parameters of a method subscribing to it.
-/

namespace Typings

/-- What a parameter is to a subscription. -/
inductive Role where
  | customData
  | callback
  | listener
  deriving DecidableEq, Repr

/-- The role that a parameter's name gives it. -/
def Role.ofName? (name : String) : Option Role :=
  if name ∈ ["oData", "data"] then some .customData
  else if name ∈ ["fnFunction", "fnCallback", "fn"] then some .callback
  else if name ∈ ["oListener", "listener"] then some .listener
  else none

/-- The type parameter for custom data. -/
def customDataGeneric : String := "TcustomData"

/-- The type parameter for the object a callback is bound to. -/
def contextGeneric : String := "Tcontext"

/-- The event that a method subscribes to, from the method's name: the first
    that the name without its `attach` names. -/
def subscribedEvent? (name : String) (events : List Event) : Option Event :=
  match Text.withoutStart? "attach" name with
  | none => none
  | some eventName => if eventName.isEmpty then none else events.find? (·.isNamed eventName)

/-- The type of a callback: what it is bound to, the payload of its event, and
    the custom data. -/
def callbackType (event : Event) (hasListener hasCustomData : Bool) : String :=
  "(this: " ++ (if hasListener then contextGeneric else "this") ++ ", oEvent: " ++
    event.payloadType ++
    (if hasCustomData then ", oCustomData?: " ++ customDataGeneric else "") ++ ") => void"

/-- An event and the parameters of a method that subscribes to it. -/
structure Subscription where
  event : Event
  parameters : List Api.Parameter

namespace Subscription

/-- Whether some parameter has a role. -/
def has (s : Subscription) (role : Role) : Bool :=
  s.parameters.any fun p => Role.ofName? p.name = some role

/-- The type parameter that stands for a parameter, if one does. -/
def generic? (s : Subscription) (p : Api.Parameter) : Option String :=
  match Role.ofName? p.name with
  | some .customData => some customDataGeneric
  | some .listener => if s.has .callback then some contextGeneric else none
  | _ => none

/-- The declared form of a parameter, and what it needs. -/
def parameter (s : Subscription) (r : Resolver) (p : Api.Parameter) :
    Parameter × Requirements :=
  match s.generic? p with
  | some generic => (Parameter.ofType p generic, {})
  | none =>
    if Role.ofName? p.name = some .callback then
      (Parameter.ofType p (callbackType s.event (s.has .listener) (s.has .customData)), {})
    else Parameter.resolve r p

/-- Whether a type parameter stands for some parameter. -/
def isGeneric (s : Subscription) : Bool :=
  s.parameters.any fun p => (s.generic? p).isSome

/-- The type parameters, in the order in which they first occur. -/
def generics (s : Subscription) : List String :=
  addAllNew [] (s.parameters.filterMap s.generic?)

end Subscription

end Typings
