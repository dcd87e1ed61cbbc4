import Typings.Api.Record
import Typings.Json.Schema

/-!
# The Schema of Interface Descriptions

The names, order and defaults of the fields in which a library describes its
public surface. All fields have defaults but the names of symbols, events,
properties and parameters, and the kind of a symbol.

## Main definitions

* `parameter`, `returnValue`, `method`, `event`, `property`, `metadata`,
  `symbol`, `source`: The record types.
* `parseSource`: A source from its text.
-/

namespace Typings

namespace Api

open Json (Codec Field Record ReadError)

namespace Schema

/-- The kind of a symbol: any name is a kind. -/
def kind : Codec SymbolKind :=
  Codec.choice [] (fun name => some (SymbolKind.ofName name)) SymbolKind.name

/-- The visibility of a member. -/
def visibility : Codec Visibility :=
  Codec.choice (Visibility.all.map Visibility.name) Visibility.ofName? Visibility.name

/-- A parameter of a method or an event. -/
def parameter : Record Parameter where
  name := "RawParameter"
  blank := {}
  fields :=
    [.required "name" .text (·.name) fun r a => { r with name := a },
     .withDefault "type" .text (·.type) fun r a => { r with type := a },
     .withDefault "optional" .flag (·.isOptional) fun r a => { r with isOptional := a },
     .withDefault "description" .text (·.description) fun r a => { r with description := a },
     .withDefault "defaultValue" (.optional .free) (·.defaultValue)
       fun r a => { r with defaultValue := a }]

/-- What a method returns. -/
def returnValue : Record ReturnValue where
  name := "RawReturnValue"
  blank := {}
  fields :=
    [.withDefault "type" .text (·.type) fun r a => { r with type := a },
     .withDefault "description" .text (·.description) fun r a => { r with description := a }]

/-- A method or constructor. -/
def method : Record Method where
  name := "RawMethod"
  blank := {}
  fields :=
    [.withDefault "name" .text (·.name) fun r a => { r with name := a },
     .withDefault "visibility" visibility (·.visibility) fun r a => { r with visibility := a },
     .withDefault "static" .flag (·.isStatic) fun r a => { r with isStatic := a },
     .withDefault "description" .text (·.description) fun r a => { r with description := a },
     .withDefault "parameters" (.list parameter.codec) (·.parameters)
       fun r a => { r with parameters := a },
     .withDefault "returnValue" (.optional returnValue.codec) (·.returnValue)
       fun r a => { r with returnValue := a }]

/-- An event. -/
def event : Record Event where
  name := "RawEvent"
  blank := {}
  fields :=
    [.required "name" .text (·.name) fun r a => { r with name := a },
     .withDefault "description" .text (·.description) fun r a => { r with description := a },
     .withDefault "visibility" visibility (·.visibility) fun r a => { r with visibility := a },
     .withDefault "parameters" (.list parameter.codec) (·.parameters)
       fun r a => { r with parameters := a }]

/-- A property. -/
def property : Record Property where
  name := "RawProperty"
  blank := {}
  fields :=
    [.required "name" .text (·.name) fun r a => { r with name := a },
     .withDefault "type" .text (·.type) fun r a => { r with type := a },
     .withDefault "description" .text (·.description) fun r a => { r with description := a },
     .withDefault "visibility" visibility (·.visibility) fun r a => { r with visibility := a },
     .withDefault "static" .flag (·.isStatic) fun r a => { r with isStatic := a },
     .withDefault "defaultValue" (.optional .free) (·.defaultValue)
       fun r a => { r with defaultValue := a },
     .withDefault "value" (.optional .free) (·.value) fun r a => { r with value := a }]

/-- The metadata block of a class. -/
def metadata : Record Metadata where
  name := "ClassMetadata"
  blank := {}
  fields :=
    [.withDefault "properties" (.list property.codec) (·.properties)
       fun r a => { r with properties := a }]

/-- A symbol. -/
def symbol : Record Symbol where
  name := "Symbol"
  blank := {}
  fields :=
    [.required "kind" kind (·.kind) fun r a => { r with kind := a },
     .required "name" .text (·.name) fun r a => { r with name := a },
     .withDefault "basename" .text (·.basename) fun r a => { r with basename := a },
     .withDefault "module" .text (·.module) fun r a => { r with module := a },
     .withDefault "extends" (.optional .text) (·.base) fun r a => { r with base := a },
     .withDefault "description" .text (·.description) fun r a => { r with description := a },
     .withDefault "visibility" visibility (·.visibility) fun r a => { r with visibility := a },
     .withDefault "methods" (.list method.codec) (·.methods) fun r a => { r with methods := a },
     .withDefault "events" (.list event.codec) (·.events) fun r a => { r with events := a },
     .withDefault "constructor" (.optional method.codec) (·.construct)
       fun r a => { r with construct := a },
     .withDefault "properties" (.list property.codec) (·.properties)
       fun r a => { r with properties := a },
     .withDefault "ui5-metadata" (.optional metadata.codec) (·.metadata)
       fun r a => { r with metadata := a }]

/-- A source. -/
def source : Record Source where
  name := "ApiSource"
  blank := {}
  fields :=
    [.withDefault "library" .text (·.library) fun r a => { r with library := a },
     .withDefault "symbols" (.list symbol.codec) (·.symbols) fun r a => { r with symbols := a }]

end Schema

/-- A source from its text. -/
def parseSource (text : String) : Except ReadError Source :=
  Schema.source.codec.parse text

end Api

end Typings
