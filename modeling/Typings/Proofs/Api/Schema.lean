import Typings.Api.Schema
import Typings.Proofs.Json.Forms
import Typings.Proofs.Json.Printing

/-!
# Interface Descriptions Are Read Back

What a source is written as is read as that source again, whatever text it came from
(`isReadBack_of_parseSource`). The text may have left out fields or made them null, may have
used kinds that are not known, may have told its records as arrays or as objects in any order,
and may have repeated names in its free values. None of this is written again: every field is
written, under its own name and in one order, an unknown kind is written as the kind that it was
taken for, and a free value is written with the names in the order in which they first came.

The law of each record type follows from its fields. A field is faithful if its codec recovers
what it has read and what stands for it when it is left out, as long as there are levels left for
the lists inside (`Field.IsFaithful`). A source takes seven of them, and a text has far more.

One thing can stand in the way, and only in a free value: the text of a floating point number.
The numbers that are written for a source are those of its free values
(`Schema.numbers_source`), so it is enough to look there.

## Main definitions

* `Schema.IsPart`: The record types of the schema.
* `Source.freeValues`: Every default and every value that a source gives.
* `Source.written`: The text that is written for a source.
* `IsReadBack`: A source that is read again from what is written for it.

## Theorems

* `Schema.keepsDefaults_of_isPart`: What is left out or null has its default.
* `Schema.numbers_source`: The numbers that are written for a source.
* `isReadBack_of_parseSource`: Every source that was read is read back.
-/

namespace Typings

namespace Api

open Json

namespace Schema

/-- The record types of the schema. -/
inductive IsPart : {ρ : Type} → Record ρ → Prop
  | parameter : IsPart parameter
  | returnValue : IsPart returnValue
  | method : IsPart method
  | event : IsPart event
  | property : IsPart property
  | metadata : IsPart metadata
  | symbol : IsPart symbol
  | source : IsPart source

-- The laws of a record type are read off its list of fields.
theorem isLawful_parameter : parameter.IsLawful where
  names := by decide
  get_set := by simp [parameter, Field.required, Field.withDefault]
  frame := by simp [parameter, Field.required, Field.withDefault]
  ext := by
    rintro ⟨⟩ ⟨⟩ h
    simpa [parameter, Field.required, Field.withDefault] using h

theorem isLawful_returnValue : returnValue.IsLawful where
  names := by decide
  get_set := by simp [returnValue, Field.withDefault]
  frame := by simp [returnValue, Field.withDefault]
  ext := by
    rintro ⟨⟩ ⟨⟩ h
    simpa [returnValue, Field.withDefault] using h

theorem isLawful_method : method.IsLawful where
  names := by decide
  get_set := by simp [method, Field.withDefault]
  frame := by simp [method, Field.withDefault]
  ext := by
    rintro ⟨⟩ ⟨⟩ h
    simpa [method, Field.withDefault] using h

theorem isLawful_event : event.IsLawful where
  names := by decide
  get_set := by simp [event, Field.required, Field.withDefault]
  frame := by simp [event, Field.required, Field.withDefault]
  ext := by
    rintro ⟨⟩ ⟨⟩ h
    simpa [event, Field.required, Field.withDefault] using h

theorem isLawful_property : property.IsLawful where
  names := by decide
  get_set := by simp [property, Field.required, Field.withDefault]
  frame := by simp [property, Field.required, Field.withDefault]
  ext := by
    rintro ⟨⟩ ⟨⟩ h
    simpa [property, Field.required, Field.withDefault] using h

theorem isLawful_metadata : metadata.IsLawful where
  names := by decide
  get_set := by simp [metadata, Field.withDefault]
  frame := by simp [metadata, Field.withDefault]
  ext := by
    rintro ⟨⟩ ⟨⟩ h
    simpa [metadata, Field.withDefault] using h

theorem isLawful_symbol : symbol.IsLawful where
  names := by decide
  get_set := by simp [symbol, Field.required, Field.withDefault]
  frame := by simp [symbol, Field.required, Field.withDefault]
  ext := by
    rintro ⟨⟩ ⟨⟩ h
    simpa [symbol, Field.required, Field.withDefault] using h

theorem isLawful_source : source.IsLawful where
  names := by decide
  get_set := by simp [source, Field.withDefault]
  frame := by simp [source, Field.withDefault]
  ext := by
    rintro ⟨⟩ ⟨⟩ h
    simpa [source, Field.withDefault] using h

theorem ofName_name (k : SymbolKind) : some (SymbolKind.ofName k.name) = some k := by
  cases k <;> decide

theorem ofName?_name (v : Visibility) : Visibility.ofName? v.name = some v := by
  cases v <;> decide

theorem faithful_fields_parameter : ∀ f ∈ parameter.fields, f.IsFaithful parameter.blank 0 := by
  simp only [parameter, List.forall_mem_cons]
  exact ⟨Field.isFaithful_text .., Field.isFaithful_text .., Field.isFaithful_flag ..,
    Field.isFaithful_text .., Field.isFaithful_optional _ _ _ _ _ Codec.isFaithful_free _ _ rfl,
    fun _ h => absurd h List.not_mem_nil⟩

theorem isFaithful_parameter : parameter.codec.IsFaithful 1 :=
  Record.isFaithful_codec isLawful_parameter 0 faithful_fields_parameter

theorem faithful_fields_returnValue :
    ∀ f ∈ returnValue.fields, f.IsFaithful returnValue.blank 0 := by
  simp only [returnValue, List.forall_mem_cons]
  exact ⟨Field.isFaithful_text .., Field.isFaithful_text .., fun _ h => absurd h List.not_mem_nil⟩

theorem isFaithful_returnValue : returnValue.codec.IsFaithful 1 :=
  Record.isFaithful_codec isLawful_returnValue 0 faithful_fields_returnValue

theorem faithful_fields_property : ∀ f ∈ property.fields, f.IsFaithful property.blank 0 := by
  simp only [property, List.forall_mem_cons]
  exact ⟨Field.isFaithful_text .., Field.isFaithful_text .., Field.isFaithful_text ..,
    Field.isFaithful_choice _ _ _ _ _ _ ofName?_name .., Field.isFaithful_flag ..,
    Field.isFaithful_optional _ _ _ _ _ Codec.isFaithful_free _ _ rfl,
    Field.isFaithful_optional _ _ _ _ _ Codec.isFaithful_free _ _ rfl,
    fun _ h => absurd h List.not_mem_nil⟩

theorem isFaithful_property : property.codec.IsFaithful 1 :=
  Record.isFaithful_codec isLawful_property 0 faithful_fields_property

-- The lists of parameters and settings are two levels deep, which is what the scalars beside
-- them are raised to.
theorem faithful_fields_method : ∀ f ∈ method.fields, f.IsFaithful method.blank 2 := by
  simp only [method, List.forall_mem_cons]
  exact ⟨(Field.isFaithful_text ..).mono (by decide),
    (Field.isFaithful_choice _ _ _ _ _ _ ofName?_name ..).mono (by decide),
    (Field.isFaithful_flag ..).mono (by decide), (Field.isFaithful_text ..).mono (by decide),
    Field.isFaithful_list _ _ _ _ _ isFaithful_parameter _ _ rfl,
    (Field.isFaithful_optional _ _ _ _ _ isFaithful_returnValue _ _ rfl).mono (by decide),
    fun _ h => absurd h List.not_mem_nil⟩

theorem isFaithful_method : method.codec.IsFaithful 3 :=
  Record.isFaithful_codec isLawful_method 2 faithful_fields_method

theorem faithful_fields_event : ∀ f ∈ event.fields, f.IsFaithful event.blank 2 := by
  simp only [event, List.forall_mem_cons]
  exact ⟨(Field.isFaithful_text ..).mono (by decide), (Field.isFaithful_text ..).mono (by decide),
    (Field.isFaithful_choice _ _ _ _ _ _ ofName?_name ..).mono (by decide),
    Field.isFaithful_list _ _ _ _ _ isFaithful_parameter _ _ rfl,
    fun _ h => absurd h List.not_mem_nil⟩

theorem isFaithful_event : event.codec.IsFaithful 3 :=
  Record.isFaithful_codec isLawful_event 2 faithful_fields_event

theorem faithful_fields_metadata : ∀ f ∈ metadata.fields, f.IsFaithful metadata.blank 2 := by
  simp only [metadata, List.forall_mem_cons]
  exact ⟨Field.isFaithful_list _ _ _ _ _ isFaithful_property _ _ rfl,
    fun _ h => absurd h List.not_mem_nil⟩

theorem isFaithful_metadata : metadata.codec.IsFaithful 3 :=
  Record.isFaithful_codec isLawful_metadata 2 faithful_fields_metadata

theorem faithful_fields_symbol : ∀ f ∈ symbol.fields, f.IsFaithful symbol.blank 4 := by
  simp only [symbol, List.forall_mem_cons]
  exact ⟨(Field.isFaithful_choice _ _ _ _ _ _ ofName_name ..).mono (by decide),
    (Field.isFaithful_text ..).mono (by decide), (Field.isFaithful_text ..).mono (by decide),
    (Field.isFaithful_text ..).mono (by decide),
    (Field.isFaithful_optional _ _ _ _ _ Codec.isFaithful_text _ _ rfl).mono (by decide),
    (Field.isFaithful_text ..).mono (by decide),
    (Field.isFaithful_choice _ _ _ _ _ _ ofName?_name ..).mono (by decide),
    Field.isFaithful_list _ _ _ _ _ isFaithful_method _ _ rfl,
    Field.isFaithful_list _ _ _ _ _ isFaithful_event _ _ rfl,
    (Field.isFaithful_optional _ _ _ _ _ isFaithful_method _ _ rfl).mono (by decide),
    (Field.isFaithful_list _ _ _ _ _ isFaithful_property _ _ rfl).mono (by decide),
    (Field.isFaithful_optional _ _ _ _ _ isFaithful_metadata _ _ rfl).mono (by decide),
    fun _ h => absurd h List.not_mem_nil⟩

theorem isFaithful_symbol : symbol.codec.IsFaithful 5 :=
  Record.isFaithful_codec isLawful_symbol 4 faithful_fields_symbol

theorem faithful_fields_source : ∀ f ∈ source.fields, f.IsFaithful source.blank 6 := by
  simp only [source, List.forall_mem_cons]
  exact ⟨(Field.isFaithful_text ..).mono (by decide),
    Field.isFaithful_list _ _ _ _ _ isFaithful_symbol _ _ rfl,
    fun _ h => absurd h List.not_mem_nil⟩

/-- A source that was read is recovered, with seven levels for the lists in it. -/
theorem isFaithful_source : source.codec.IsFaithful 7 :=
  Record.isFaithful_codec isLawful_source 6 faithful_fields_source

/-- Every record type of the schema keeps the defaults of what is left out or null. -/
theorem keepsDefaults_of_isPart {ρ : Type} (r : Record ρ) (h : IsPart r) : r.KeepsDefaults := by
  cases h with
  | parameter => exact Record.keepsDefaults isLawful_parameter 0 faithful_fields_parameter
  | returnValue => exact Record.keepsDefaults isLawful_returnValue 0 faithful_fields_returnValue
  | method => exact Record.keepsDefaults isLawful_method 2 faithful_fields_method
  | event => exact Record.keepsDefaults isLawful_event 2 faithful_fields_event
  | property => exact Record.keepsDefaults isLawful_property 0 faithful_fields_property
  | metadata => exact Record.keepsDefaults isLawful_metadata 2 faithful_fields_metadata
  | symbol => exact Record.keepsDefaults isLawful_symbol 4 faithful_fields_symbol
  | source => exact Record.keepsDefaults isLawful_source 6 faithful_fields_source

end Schema

/-- The free values of a parameter. -/
def Parameter.freeValues (p : Parameter) : List Value :=
  p.defaultValue.toList

/-- The free values of a property. -/
def Property.freeValues (p : Property) : List Value :=
  p.defaultValue.toList ++ p.value.toList

/-- The free values of a method are those of its parameters. -/
def Method.freeValues (m : Method) : List Value :=
  m.parameters.flatMap Parameter.freeValues

/-- The free values of an event are those of its parameters. -/
def Event.freeValues (e : Event) : List Value :=
  e.parameters.flatMap Parameter.freeValues

/-- The free values of a metadata block are those of its settings. -/
def Metadata.freeValues (m : Metadata) : List Value :=
  m.properties.flatMap Property.freeValues

/-- The free values of a symbol are those of everything it has. -/
def Symbol.freeValues (s : Symbol) : List Value :=
  s.methods.flatMap Method.freeValues ++ s.events.flatMap Event.freeValues ++
    s.construct.toList.flatMap Method.freeValues ++ s.properties.flatMap Property.freeValues ++
      s.metadata.toList.flatMap Metadata.freeValues

/-- The free values of a source: every default and every value that some symbol gives. -/
def Source.freeValues (s : Source) : List Value :=
  s.symbols.flatMap Symbol.freeValues

namespace Schema

-- Only free values have numbers, so what is written has those of its free values.
theorem numbers_parameter (p : Parameter) :
    (parameter.codec.write p).numbers = p.freeValues.flatMap Value.numbers := by
  rw [Record.numbers_write]
  simp [parameter, Field.required, Field.withDefault, Field.write, Codec.numbers_write_text,
    Codec.numbers_write_flag, Codec.numbers_write_free, Codec.numbers_write_optional,
    Parameter.freeValues]

theorem numbers_returnValue (v : ReturnValue) : (returnValue.codec.write v).numbers = [] := by
  rw [Record.numbers_write]
  simp [returnValue, Field.withDefault, Field.write, Codec.numbers_write_text]

theorem numbers_property (p : Property) :
    (property.codec.write p).numbers = p.freeValues.flatMap Value.numbers := by
  rw [Record.numbers_write]
  simp [property, Field.required, Field.withDefault, Field.write, Codec.numbers_write_text,
    Codec.numbers_write_flag, Codec.numbers_write_free, Codec.numbers_write_optional, visibility,
    Codec.numbers_write_choice, Property.freeValues]

theorem numbers_method (m : Method) :
    (method.codec.write m).numbers = m.freeValues.flatMap Value.numbers := by
  rw [Record.numbers_write]
  simp [method, Field.withDefault, Field.write, Codec.numbers_write_text, Codec.numbers_write_flag,
    Codec.numbers_write_optional, Codec.numbers_write_list, visibility, Codec.numbers_write_choice,
    numbers_parameter, numbers_returnValue, Method.freeValues, List.flatMap_assoc]

theorem numbers_event (e : Event) :
    (event.codec.write e).numbers = e.freeValues.flatMap Value.numbers := by
  rw [Record.numbers_write]
  simp [event, Field.required, Field.withDefault, Field.write, Codec.numbers_write_text,
    Codec.numbers_write_list, visibility, Codec.numbers_write_choice, numbers_parameter,
    Event.freeValues, List.flatMap_assoc]

theorem numbers_metadata (m : Metadata) :
    (metadata.codec.write m).numbers = m.freeValues.flatMap Value.numbers := by
  rw [Record.numbers_write]
  simp [metadata, Field.withDefault, Field.write, Codec.numbers_write_list, numbers_property,
    Metadata.freeValues, List.flatMap_assoc]

theorem numbers_symbol (s : Symbol) :
    (symbol.codec.write s).numbers = s.freeValues.flatMap Value.numbers := by
  rw [Record.numbers_write]
  simp [symbol, Field.required, Field.withDefault, Field.write, Codec.numbers_write_text,
    Codec.numbers_write_optional, Codec.numbers_write_list, kind, visibility,
    Codec.numbers_write_choice, numbers_method, numbers_event, numbers_property, numbers_metadata,
    Symbol.freeValues, List.flatMap_assoc]

/-- The numbers that are written for a source are those of its free values. -/
theorem numbers_source (s : Source) :
    (source.codec.write s).numbers = s.freeValues.flatMap Value.numbers := by
  rw [Record.numbers_write]
  simp [source, Field.withDefault, Field.write, Codec.numbers_write_text, Codec.numbers_write_list,
    numbers_symbol, Source.freeValues, List.flatMap_assoc]

end Schema

/-- The text that is written for a source. -/
def Source.written (s : Source) : String :=
  (Schema.source.codec.write s).compact

/-- A text is read as what its document tells, with nothing behind it. -/
theorem parseSource_eq_ok_iff (text : String) (s : Source) :
    parseSource text = .ok s ↔
      Schema.source.codec.read Node.depthLimit (Document.ofText text).root = .ok s ∧
        (Document.ofText text).rest = none := by
  have hparse : parseSource text = (do
      let a ← Schema.source.codec.read Node.depthLimit (Document.ofText text).root
      orFault (Node.close (Document.ofText text).rest)
      return a) := rfl
  -- The document is read first, and then nothing may be left of the text.
  rw [hparse, bind_eq_ok_iff]
  constructor
  · rintro ⟨a, ha, h⟩
    rcases (bind_eq_ok_iff _ _ _).mp h with ⟨u, hclose, h⟩
    obtain rfl := Except.ok.inj h
    exact ⟨ha, (orFault_close_eq_ok_iff _ u).mp hclose⟩
  · rintro ⟨ha, hrest⟩
    exact ⟨s, ha, (bind_eq_ok_iff _ _ _).mpr ⟨(), (orFault_close_eq_ok_iff _ ()).mpr hrest, rfl⟩⟩

/-- A source that a text was read as, and that is read again from what is written for it. -/
structure IsReadBack (text : String) (s : Source) : Prop where
  /-- What is written for the source is read as the source. -/
  written : parseSource s.written = .ok s
  /-- A text that differs in the forms of its records is read as the source, too, so the same is
      written for it. -/
  retold : ∀ other,
    Retold Schema.source.codec (Document.ofText text).root (Document.ofText other).root →
      (Document.ofText other).rest = none → parseSource other = .ok s
  /-- In every record, whatever is left out or null has its default. -/
  defaults : ∀ (ρ : Type) (r : Record ρ), Schema.IsPart r → r.KeepsDefaults
  /-- A kind that is not known is read as the kind for all of those. -/
  kinds : ∀ depth name skip, name ∉ ["class", "interface", "namespace", "enum"] →
    Schema.kind.read depth (.string (.ok name) skip) = .ok .other
  /-- The names of every object inside a free value are in the order in which they come first. -/
  keys : ∀ depth members ending v, Node.value depth (.object members ending) = .ok v →
    ∃ (names : List String) (values : List (String × Value)),
      members.map Prod.fst = names.map (fun name => Key.text (.ok name)) ∧
        v = .object values ∧ values.map Prod.fst = names.eraseDups

/-- Every name but four is a kind without declarations. -/
theorem kind_of_not_mem (depth : Nat) (name : String) (skip : Option Fault)
    (hname : name ∉ ["class", "interface", "namespace", "enum"]) :
    Schema.kind.read depth (.string (.ok name) skip) = .ok .other := by
  simp only [List.mem_cons, List.not_mem_nil, or_false, not_or] at hname
  have hkind : SymbolKind.ofName name = .other := by
    rw [SymbolKind.ofName, if_neg hname.1, if_neg hname.2.1, if_neg hname.2.2.1,
      if_neg hname.2.2.2]
  exact congrArg Except.ok hkind

/-- A source whose free values have no floating point numbers is read back from what is written
    for it, whatever text it was read from. The text is sound, so every part of the source is
    recovered by its codec; and since all numbers are integers that fit their bits, what is
    written leads to the document that was written. -/
theorem isReadBack_of_parseSource (text : String) (s : Source) (hread : parseSource text = .ok s)
    (hexact : ∀ v ∈ s.freeValues, ∀ n ∈ v.numbers, n.isInteger = true) : IsReadBack text s where
  written := by
    have hroot := ((parseSource_eq_ok_iff text s).mp hread).1
    -- The document of any text is sound, and there are more levels than the seven it takes.
    have hrecovers := Schema.isFaithful_source.recovers Node.depthLimit _ s (by decide)
      (Node.isSound_ofText text) hroot
    -- What is written is scanned as the document that it was written from.
    have hdocument : Document.ofText s.written = ⟨(Schema.source.codec.write s).node, none⟩ := by
      refine Document.ofText_compact _ fun n hn => ⟨?_, hrecovers.numbers n hn⟩
      rw [Schema.numbers_source, List.mem_flatMap] at hn
      rcases hn with ⟨v, hv, hn⟩
      exact hexact v hv n hn
    rw [parseSource_eq_ok_iff, hdocument]
    exact ⟨hrecovers.read, rfl⟩
  retold other hforms hrest := by
    have hroot := ((parseSource_eq_ok_iff text s).mp hread).1
    exact (parseSource_eq_ok_iff other s).mpr ⟨(hforms.read_eq_ok_iff _ s).mp hroot, hrest⟩
  defaults _ := Schema.keepsDefaults_of_isPart
  kinds := kind_of_not_mem
  keys depth members ending v hvalue := by
    rcases (Node.value_object_eq_ok_iff depth members ending v).mp hvalue with
      ⟨inner, values, _, hvalues, _, rfl⟩
    rcases Node.map_fst_memberValues inner members [] values hvalues with ⟨names, hkeys, hnames⟩
    exact ⟨names, values, hkeys, rfl, hnames.trans (addAllNew_nil names)⟩

/-- Symbols of both forms: one of a kind without declarations, as an array, and a class that
    leaves out what it can, names no base and has a default with a repeated name. -/
def symbolsOfBothForms : Value :=
  .array
    [.array [.string "typedef", .string "sap.m.Old"],
     .object
       [("kind", .string "class"), ("name", .string "sap.m.Button"), ("extends", .null),
        ("properties", .array
          [.object
            [("name", .string "size"),
             ("defaultValue", .object
               [("b", .bool true), ("a", .number (.integer (-2))), ("b", .null)])]])]]

/-- What those symbols are read as. -/
def sourceOfBothForms : Source where
  library := "sap.m"
  symbols :=
    [{ kind := .other, name := "sap.m.Old" },
     { kind := .class
       name := "sap.m.Button"
       properties :=
         [{ name := "size"
            defaultValue := Value.object [("b", .null), ("a", .number (.integer (-2)))] }] }]

/-- The source is read from an array and from an object, and from what is written for it. -/
theorem isReadBack_bothForms :
    parseSource (Value.array [.string "sap.m", symbolsOfBothForms]).compact =
        .ok sourceOfBothForms ∧
      IsReadBack (Value.array [.string "sap.m", symbolsOfBothForms]).compact sourceOfBothForms ∧
        parseSource
            (Value.object [("library", .string "sap.m"), ("symbols", symbolsOfBothForms)]).compact =
          .ok sourceOfBothForms := by
  -- The only number is a small integer.
  have hnumber : ∀ n ∈ symbolsOfBothForms.numbers, n.isInteger = true ∧ n.InRange := by
    intro n hn
    rw [show n = .integer (-2) from List.mem_singleton.mp hn]
    exact ⟨rfl, by decide, by decide⟩
  have harray : Document.ofText (Value.array [.string "sap.m", symbolsOfBothForms]).compact =
      ⟨(Value.array [.string "sap.m", symbolsOfBothForms]).node, none⟩ :=
    Document.ofText_compact _ hnumber
  have hobject : Document.ofText
      (Value.object [("library", .string "sap.m"), ("symbols", symbolsOfBothForms)]).compact =
        ⟨(Value.object [("library", .string "sap.m"), ("symbols", symbolsOfBothForms)]).node, none⟩ :=
    Document.ofText_compact _ hnumber
  have hread : parseSource (Value.array [.string "sap.m", symbolsOfBothForms]).compact =
      .ok sourceOfBothForms := by
    rw [parseSource_eq_ok_iff, harray]
    exact ⟨rfl, rfl⟩
  have hback := isReadBack_of_parseSource _ sourceOfBothForms hread (by decide)
  refine ⟨hread, hback, hback.retold _ ?_ ?_⟩
  · -- The two documents differ in the form of the source and in nothing else.
    rw [harray, hobject]
    exact Retold.form Schema.source Schema.isLawful_source
      [.string (.ok "sap.m") none, symbolsOfBothForms.node] none (by decide)
  · rw [hobject]

end Api

end Typings
