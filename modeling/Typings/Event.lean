import Typings.Parameter
import Typings.Text.Case

/-!
# Events

An event that a class fires. Its handlers receive a payload, for which an
interface is declared beside the class; the name of that interface comes from
the name of the event.

## Main definitions

* `Event`: An event with the text of its parameter types.
* `Event.resolve`: An event from its record.
* `Event.isNamed`: Whether a subscription names the event.
-/

namespace Typings

open Api (Visibility)

/-- An event with the text of its parameter types, and the name of its payload
    interface. -/
structure Event where
  name : String
  description : String := ""
  visibility : Visibility := .publicMember
  parameters : List Parameter := []
  payloadType : String
  deriving DecidableEq, Repr, Inhabited

namespace Event

/-- The name of the payload interface of an event. -/
def payloadTypeName (name : String) : String :=
  Text.capitalize name ++ "EventArgs"

/-- An event from its record, and what its parameters need. -/
def resolve (r : Resolver) (raw : Api.Event) : Event × Requirements :=
  let parameters := raw.parameters.map (Parameter.resolve r)
  ({ name := raw.name
     description := raw.description
     visibility := raw.visibility.normalized
     parameters := parameters.map Prod.fst
     payloadType := payloadTypeName raw.name },
   Requirements.mergeAll (parameters.map Prod.snd))

/-- Whether a subscription names the event: the case of the letters A to Z
    does not count. -/
def isNamed (e : Event) (name : String) : Bool :=
  Text.lowerAsciiText e.name = Text.lowerAsciiText name

end Event

end Typings
