import Typings.Declaration.Basic

/-!
# Enums

An enum is declared from the properties of its symbol. A member has the value
its property gives, and its own name for a value if the property gives none.
Only numbers stay numbers: any other value that is not a text becomes the
text in which it is written.

## Main definitions

* `EnumDeclaration.ofSymbol`: The enum of a symbol.
-/

namespace Typings

/-- The value of the member that a property declares. -/
def EnumValue.ofProperty (p : Api.Property) : EnumValue :=
  match p.value with
  | none => .string p.name
  | some (.number n) => .number n.text
  | some (.string text) => .string text
  | some value => .string value.compact

/-- The member that a property declares. -/
def EnumMember.ofProperty (p : Api.Property) : EnumMember where
  name := p.name
  value := EnumValue.ofProperty p
  description := p.description

/-- The enum of a symbol. -/
def EnumDeclaration.ofSymbol (library : String) (s : Api.Symbol) : EnumDeclaration where
  name := s.shortName
  qualifiedName := s.name
  module := TypePath.moduleOf s.modulePath
  description := s.description
  library := library
  members := s.properties.map EnumMember.ofProperty

end Typings
