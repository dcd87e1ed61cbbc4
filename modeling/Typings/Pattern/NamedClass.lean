import Typings.Pattern.CharClass
import Typings.Text.Property
import Typings.Text.Script

/-!
# Named Classes

Classes that patterns name instead of listing their characters. A name
between brackets and colons is one of fourteen, exactly as it is spelled. A
name of the Unicode standard is compared loosely; it names a property, a
general category or a group of them, or a script, and the first of these that
it can name counts. Three short names are those of categories only.

A property with a value names a general category or a script, whichever the
property is.

## Main definitions

* `CharClass.ofBracketName?`: The class with a name in brackets.
* `CharClass.ofPropertyName?`: The class with a name of the standard.
* `CharClass.ofPropertyValue?`: The class of a property with a value.
-/

namespace Typings

namespace Pattern

namespace CharClass

open Text (Category)

/-- The classes that have names in brackets, all below code point 128. -/
def bracketClasses : List (String × List (Char × Char)) :=
  [("alnum", [('0', '9'), ('A', 'Z'), ('a', 'z')]),
   ("alpha", [('A', 'Z'), ('a', 'z')]),
   ("ascii", [('\x00', '\x7f')]),
   ("blank", [('\t', '\t'), (' ', ' ')]),
   ("cntrl", [('\x00', '\x1f'), ('\x7f', '\x7f')]),
   ("digit", [('0', '9')]),
   ("graph", [('!', '~')]),
   ("lower", [('a', 'z')]),
   ("print", [(' ', '~')]),
   ("punct", [('!', '/'), (':', '@'), ('[', '\x60'), ('\x7b', '~')]),
   ("space", [('\t', '\r'), (' ', ' ')]),
   ("upper", [('A', 'Z')]),
   ("word", [('0', '9'), ('A', 'Z'), ('_', '_'), ('a', 'z')]),
   ("xdigit", [('0', '9'), ('A', 'F'), ('a', 'f')])]

/-- The class with a name in brackets. -/
def ofBracketName? (name : String) : Option CharClass :=
  (bracketClasses.lookup name).map ofAsciiRanges

/-- The long names of the general categories and of their groups in their
    compared form, with their short names. -/
def categoryNames : List (String × String) :=
  [("letter", "l"), ("casedletter", "lc"), ("uppercaseletter", "lu"), ("lowercaseletter", "ll"),
   ("titlecaseletter", "lt"), ("modifierletter", "lm"), ("otherletter", "lo"), ("mark", "m"),
   ("combiningmark", "m"), ("nonspacingmark", "mn"), ("spacingmark", "mc"),
   ("enclosingmark", "me"), ("number", "n"), ("decimalnumber", "nd"), ("digit", "nd"),
   ("letternumber", "nl"), ("othernumber", "no"), ("punctuation", "p"), ("punct", "p"),
   ("connectorpunctuation", "pc"), ("dashpunctuation", "pd"), ("openpunctuation", "ps"),
   ("closepunctuation", "pe"), ("initialpunctuation", "pi"), ("finalpunctuation", "pf"),
   ("otherpunctuation", "po"), ("symbol", "s"), ("mathsymbol", "sm"), ("currencysymbol", "sc"),
   ("modifiersymbol", "sk"), ("othersymbol", "so"), ("separator", "z"),
   ("spaceseparator", "zs"), ("lineseparator", "zl"), ("paragraphseparator", "zp"),
   ("other", "c"), ("control", "cc"), ("cntrl", "cc"), ("format", "cf"), ("privateuse", "co"),
   ("unassigned", "cn")]

/-- The class of some categories. -/
def ofCategories (categories : List Category) : CharClass :=
  ⟨fun c => Text.category c ∈ categories,
    rangesWeight false (Text.countStretches Text.categoryStarts (· ∈ categories))⟩

/-- The class of the categories whose short name starts with given letters.
    Surrogates are no characters, so their category has no class. -/
def ofCategoryStart? (short : String) : Option CharClass :=
  let starts := if short = "lc" then ["lu", "ll", "lt"] else [short]
  let categories := Category.all.filter fun k =>
    starts.any fun n => n.toList.isPrefixOf (Text.lowerAsciiText k.abbreviation).toList
  if short.isEmpty || categories.isEmpty || categories = [.surrogate] then Option.none
  else some (ofCategories categories)

/-- The class of a general category or a group of them, by its short or long
    name, and of what counts as one. -/
def ofCategoryName? (name : String) : Option CharClass :=
  if name = "any" then some any
  else if name = "ascii" then some (range '\x00' '\x7f')
  else if name = "assigned" then some (ofCategories (Category.all.filter (· ≠ .unassigned)))
  else ofCategoryStart? ((categoryNames.lookup name).getD name)

/-- The class of a script. -/
def ofScriptName? (name : String) : Option CharClass :=
  (Text.scriptCode? name).map fun code =>
    ⟨fun c => Text.script? c = some code,
      rangesWeight false (Text.countStretches Text.scriptStarts (· = code))⟩

/-- The class of a property. -/
def ofProperty (p : Text.Property) : CharClass :=
  let added := Text.readRanges p.added
  let removed := Text.readRanges p.removed
  let stretches := Text.countStretches Text.categoryStarts (· ∈ p.categories)
  ⟨p.holds added removed, rangesWeight false (stretches + added.length + removed.length)⟩

/-- The alphabetic characters of all scripts. -/
def alphabetic : CharClass :=
  ((Text.property? "alphabetic").map ofProperty).getD .none

/-- The short names that name a general category although a property has them
    too. -/
def categoryOnlyNames : List String := ["cf", "sc", "lc"]

/-- The class with a name of the standard. -/
def ofPropertyName? (name : String) : Option CharClass :=
  let name := Text.looseName name
  let property := if name ∈ categoryOnlyNames then Option.none else Text.property? name
  (property.map ofProperty).or ((ofCategoryName? name).or (ofScriptName? name))

/-- The class of a property with a value. -/
def ofPropertyValue? (property value : String) : Option CharClass :=
  let property := Text.looseName property
  let value := Text.looseName value
  if property ∈ ["gc", "generalcategory"] then ofCategoryName? value
  else if property ∈ ["sc", "script"] then ofScriptName? value
  else Option.none

end CharClass

end Pattern

end Typings
