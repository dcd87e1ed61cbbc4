import Typings.Declaration.Basic

/-!
# Declarations as Data

The members under which finished declarations are written as data, for tools
that want to read them instead of the declaration files.

## Main definitions

* `ClassDeclaration.toValue`, `NamespaceDeclaration.toValue`,
  `EnumDeclaration.toValue`: Declarations as data values.
-/

namespace Typings

open Json (Value)

/-- An import as a data value. -/
def TypeImport.toValue (i : TypeImport) : Value :=
  .object [("name", .string i.name), ("module", .string i.module)]

/-- A parameter as a data value. -/
def Parameter.toValue (p : Parameter) : Value :=
  .object
    [("name", .string p.name), ("type", .string p.type), ("optional", .bool p.isOptional),
     ("description", .string p.description),
     ("default_value", .ofOption .string p.defaultValue)]

/-- A method as a data value. -/
def MethodDeclaration.toValue (m : MethodDeclaration) : Value :=
  .object
    [("name", .string m.name), ("signature", .string m.signature), ("isStatic", .bool m.isStatic),
     ("visibility", .string m.visibility.name), ("doc", .ofList .string m.doc),
     ("overloadsBase", .bool m.overloadsBase)]

/-- A payload as a data value. -/
def EventDeclaration.toValue (e : EventDeclaration) : Value :=
  .object
    [("name", .string e.name), ("payloadType", .string e.payloadType),
     ("description", .string e.description),
     ("parameters", .ofList Parameter.toValue e.parameters)]

/-- A setting as a data value. -/
def Setting.toValue (s : Setting) : Value :=
  .object
    [("name", .string s.name), ("type", .string s.type), ("description", .string s.description),
     ("defaultValue", .ofOption .string s.defaultValue)]

/-- Settings as a data value. -/
def SettingsInterface.toValue (s : SettingsInterface) : Value :=
  .object
    [("name", .string s.name), ("extends", .ofOption .string s.base),
     ("properties", .ofList Setting.toValue s.properties)]

/-- A class or an interface as a data value. -/
def ClassDeclaration.toValue (d : ClassDeclaration) : Value :=
  .object
    [("kind", .string d.kind.name), ("name", .string d.name),
     ("qualifiedName", .string d.qualifiedName), ("fullName", .string d.fullName),
     ("module", .string d.module), ("library", .string d.library),
     ("imports", .ofList TypeImport.toValue d.imports),
     ("baseClass", .ofOption .string d.baseClass), ("description", .string d.description),
     ("constructors", .ofList MethodDeclaration.toValue d.constructors),
     ("methods", .ofList MethodDeclaration.toValue d.methods),
     ("events", .ofList EventDeclaration.toValue d.events),
     ("settings", .ofOption SettingsInterface.toValue d.settings)]

/-- A field of a namespace as a data value. -/
def NamespaceProperty.toValue (p : NamespaceProperty) : Value :=
  .object
    [("name", .string p.name), ("type", .string p.type), ("description", .string p.description)]

/-- A namespace as a data value. -/
def NamespaceDeclaration.toValue (d : NamespaceDeclaration) : Value :=
  .object
    [("name", .string d.name), ("qualifiedName", .string d.qualifiedName),
     ("fullName", .string d.fullName), ("module", .string d.module),
     ("library", .string d.library), ("imports", .ofList TypeImport.toValue d.imports),
     ("description", .string d.description),
     ("functions", .ofList MethodDeclaration.toValue d.functions),
     ("properties", .ofList NamespaceProperty.toValue d.properties)]

/-- The value of a member as a data value. -/
def EnumValue.toValue : EnumValue → Value
  | .string text => .object [("kind", .string "string"), ("text", .string text)]
  | .number text => .object [("kind", .string "number"), ("text", .string text)]

/-- A member of an enum as a data value. -/
def EnumMember.toValue (m : EnumMember) : Value :=
  .object
    [("name", .string m.name), ("value", m.value.toValue), ("description", .string m.description)]

/-- An enum as a data value. -/
def EnumDeclaration.toValue (d : EnumDeclaration) : Value :=
  .object
    [("name", .string d.name), ("qualifiedName", .string d.qualifiedName),
     ("module", .string d.module), ("description", .string d.description),
     ("library", .string d.library), ("members", .ofList EnumMember.toValue d.members)]

end Typings
