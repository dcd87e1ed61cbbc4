import Typings.Text.Runs

/-!
# General Categories

Every code point has one of thirty general categories. Which characters are
letters, which have a visible form and which belong to a word are all
questions about categories, so the table stands here once and those
properties are defined from it.

The table is one of runs, labelled with the two letters of their category.

## Main definitions

* `Category`: The general categories.
* `Category.abbreviation`: Their two-letter names.
* `category`: The category of a character.
* `isPrintable`: Characters with a visible form, and the space.
* `extendsGrapheme`: Characters that join the one before them.
* `isWordChar`: Letters, marks, digits and connectors.
-/

namespace Typings

namespace Text

/-- The general categories of the Unicode standard. -/
inductive Category where
  | upperLetter
  | lowerLetter
  | titleLetter
  | modifierLetter
  | otherLetter
  | nonspacingMark
  | spacingMark
  | enclosingMark
  | decimalNumber
  | letterNumber
  | otherNumber
  | connectorPunctuation
  | dashPunctuation
  | openPunctuation
  | closePunctuation
  | initialPunctuation
  | finalPunctuation
  | otherPunctuation
  | mathSymbol
  | currencySymbol
  | modifierSymbol
  | otherSymbol
  | spaceSeparator
  | lineSeparator
  | paragraphSeparator
  | control
  | format
  | surrogate
  | privateUse
  | unassigned
  deriving DecidableEq, Repr

namespace Category

/-- Every category, in the order of their groups. -/
def all : List Category :=
  [.upperLetter, .lowerLetter, .titleLetter, .modifierLetter, .otherLetter, .nonspacingMark,
   .spacingMark, .enclosingMark, .decimalNumber, .letterNumber, .otherNumber,
   .connectorPunctuation, .dashPunctuation, .openPunctuation, .closePunctuation,
   .initialPunctuation, .finalPunctuation, .otherPunctuation, .mathSymbol, .currencySymbol,
   .modifierSymbol, .otherSymbol, .spaceSeparator, .lineSeparator, .paragraphSeparator,
   .control, .format, .surrogate, .privateUse, .unassigned]

/-- The two-letter name of a category. Its first letter names the group. -/
def abbreviation : Category → String
  | .upperLetter => "Lu"
  | .lowerLetter => "Ll"
  | .titleLetter => "Lt"
  | .modifierLetter => "Lm"
  | .otherLetter => "Lo"
  | .nonspacingMark => "Mn"
  | .spacingMark => "Mc"
  | .enclosingMark => "Me"
  | .decimalNumber => "Nd"
  | .letterNumber => "Nl"
  | .otherNumber => "No"
  | .connectorPunctuation => "Pc"
  | .dashPunctuation => "Pd"
  | .openPunctuation => "Ps"
  | .closePunctuation => "Pe"
  | .initialPunctuation => "Pi"
  | .finalPunctuation => "Pf"
  | .otherPunctuation => "Po"
  | .mathSymbol => "Sm"
  | .currencySymbol => "Sc"
  | .modifierSymbol => "Sk"
  | .otherSymbol => "So"
  | .spaceSeparator => "Zs"
  | .lineSeparator => "Zl"
  | .paragraphSeparator => "Zp"
  | .control => "Cc"
  | .format => "Cf"
  | .surrogate => "Cs"
  | .privateUse => "Co"
  | .unassigned => "Cn"

/-- The category with a two-letter name. -/
def ofAbbreviation? (name : String) : Option Category :=
  all.find? (·.abbreviation = name)

end Category

/-- The runs of the table: category and length, from code point zero on. -/
def categoryText : String :=
  "Cc20 Zs1 Po3 Sc1 Po3 Ps1 Pe1 Po1 Sm1 Po1 Pd1 Po2 Nda Po2 Sm3 Po2 Lu1a Ps1 Po1 Pe1 Sk1 Pc1
   Sk1 Ll1a Ps1 Sm1 Pe1 Sm1 Cc21 Zs1 Po1 Sc4 So1 Po1 Sk1 So1 Lo1 Pi1 Sm1 Cf1 So1 Sk1 So1 Sm1
   No2 Sk1 Ll1 Po2 Sk1 No1 Lo1 Pf1 No3 Po1 Lu17 Sm1 Lu7 Ll18 Sm1 Ll8 Lu1 Ll1 Lu1 Ll1 Lu1 Ll1
   Lu1 Ll1 Lu1 Ll1 Lu1 Ll1 Lu1 Ll1 Lu1 Ll1 Lu1 Ll1 Lu1 Ll1 Lu1 Ll1 Lu1 Ll1 Lu1 Ll1 Lu1 Ll1 Lu1
   Ll1 Lu1 Ll1 Lu1 Ll1 Lu1 Ll1 Lu1 Ll1 Lu1 Ll1 Lu1 Ll1 Lu1 Ll1 Lu1 Ll1 Lu1 Ll1 Lu1 Ll1 Lu1 Ll1
   Lu1 Ll1 Lu1 Ll2 Lu1 Ll1 Lu1 Ll1 Lu1 Ll1 Lu1 Ll1 Lu1 Ll1 Lu1 Ll1 Lu1 Ll1 Lu1 Ll2 Lu1 Ll1 Lu1
   Ll1 Lu1 Ll1 Lu1 Ll1 Lu1 Ll1 Lu1 Ll1 Lu1 Ll1 Lu1 Ll1 Lu1 Ll1 Lu1 Ll1 Lu1 Ll1 Lu1 Ll1 Lu1 Ll1
   Lu1 Ll1 Lu1 Ll1 Lu1 Ll1 Lu1 Ll1 Lu1 Ll1 Lu1 Ll1 Lu1 Ll1 Lu1 Ll1 Lu1 Ll1 Lu1 Ll1 Lu2 Ll1 Lu1
   Ll1 Lu1 Ll3 Lu2 Ll1 Lu1 Ll1 Lu2 Ll1 Lu3 Ll2 Lu4 Ll1 Lu2 Ll1 Lu3 Ll3 Lu2 Ll1 Lu2 Ll1 Lu1 Ll1
   Lu1 Ll1 Lu2 Ll1 Lu1 Ll2 Lu1 Ll1 Lu2 Ll1 Lu3 Ll1 Lu1 Ll1 Lu2 Ll2 Lo1 Lu1 Ll3 Lo4 Lu1 Lt1 Ll1
   Lu1 Lt1 Ll1 Lu1 Lt1 Ll1 Lu1 Ll1 Lu1 Ll1 Lu1 Ll1 Lu1 Ll1 Lu1 Ll1 Lu1 Ll1 Lu1 Ll1 Lu1 Ll2 Lu1
   Ll1 Lu1 Ll1 Lu1 Ll1 Lu1 Ll1 Lu1 Ll1 Lu1 Ll1 Lu1 Ll1 Lu1 Ll1 Lu1 Ll2 Lu1 Lt1 Ll1 Lu1 Ll1 Lu3
   Ll1 Lu1 Ll1 Lu1 Ll1 Lu1 Ll1 Lu1 Ll1 Lu1 Ll1 Lu1 Ll1 Lu1 Ll1 Lu1 Ll1 Lu1 Ll1 Lu1 Ll1 Lu1 Ll1
   Lu1 Ll1 Lu1 Ll1 Lu1 Ll1 Lu1 Ll1 Lu1 Ll1 Lu1 Ll1 Lu1 Ll1 Lu1 Ll1 Lu1 Ll1 Lu1 Ll1 Lu1 Ll1 Lu1
   Ll1 Lu1 Ll1 Lu1 Ll1 Lu1 Ll1 Lu1 Ll1 Lu1 Ll1 Lu1 Ll7 Lu2 Ll1 Lu2 Ll2 Lu1 Ll1 Lu4 Ll1 Lu1 Ll1
   Lu1 Ll1 Lu1 Ll1 Lu1 Ll45 Lo1 Ll1b Lm12 Sk4 Lmc Ske Lm5 Sk7 Lm1 Sk1 Lm1 Sk11 Mn70 Lu1 Ll1
   Lu1 Ll1 Lm1 Sk1 Lu1 Ll1 Cn2 Lm1 Ll3 Po1 Lu1 Cn4 Sk2 Lu1 Po1 Lu3 Cn1 Lu1 Cn1 Lu2 Ll1 Lu11
   Cn1 Lu9 Ll23 Lu1 Ll2 Lu3 Ll3 Lu1 Ll1 Lu1 Ll1 Lu1 Ll1 Lu1 Ll1 Lu1 Ll1 Lu1 Ll1 Lu1 Ll1 Lu1
   Ll1 Lu1 Ll1 Lu1 Ll1 Lu1 Ll1 Lu1 Ll5 Lu1 Ll1 Sm1 Lu1 Ll1 Lu2 Ll2 Lu33 Ll30 Lu1 Ll1 Lu1 Ll1
   Lu1 Ll1 Lu1 Ll1 Lu1 Ll1 Lu1 Ll1 Lu1 Ll1 Lu1 Ll1 Lu1 Ll1 Lu1 Ll1 Lu1 Ll1 Lu1 Ll1 Lu1 Ll1 Lu1
   Ll1 Lu1 Ll1 Lu1 Ll1 Lu1 Ll1 So1 Mn5 Me2 Lu1 Ll1 Lu1 Ll1 Lu1 Ll1 Lu1 Ll1 Lu1 Ll1 Lu1 Ll1 Lu1
   Ll1 Lu1 Ll1 Lu1 Ll1 Lu1 Ll1 Lu1 Ll1 Lu1 Ll1 Lu1 Ll1 Lu1 Ll1 Lu1 Ll1 Lu1 Ll1 Lu1 Ll1 Lu1 Ll1
   Lu1 Ll1 Lu1 Ll1 Lu1 Ll1 Lu1 Ll1 Lu1 Ll1 Lu1 Ll1 Lu1 Ll1 Lu1 Ll1 Lu1 Ll1 Lu2 Ll1 Lu1 Ll1 Lu1
   Ll1 Lu1 Ll1 Lu1 Ll1 Lu1 Ll1 Lu1 Ll2 Lu1 Ll1 Lu1 Ll1 Lu1 Ll1 Lu1 Ll1 Lu1 Ll1 Lu1 Ll1 Lu1 Ll1
   Lu1 Ll1 Lu1 Ll1 Lu1 Ll1 Lu1 Ll1 Lu1 Ll1 Lu1 Ll1 Lu1 Ll1 Lu1 Ll1 Lu1 Ll1 Lu1 Ll1 Lu1 Ll1 Lu1
   Ll1 Lu1 Ll1 Lu1 Ll1 Lu1 Ll1 Lu1 Ll1 Lu1 Ll1 Lu1 Ll1 Lu1 Ll1 Lu1 Ll1 Lu1 Ll1 Lu1 Ll1 Lu1 Ll1
   Lu1 Ll1 Lu1 Ll1 Lu1 Ll1 Lu1 Ll1 Lu1 Ll1 Lu1 Ll1 Lu1 Ll1 Lu1 Ll1 Lu1 Ll1 Lu1 Ll1 Lu1 Ll1 Lu1
   Ll1 Lu1 Ll1 Lu1 Ll1 Lu1 Ll1 Lu1 Ll1 Lu1 Ll1 Lu1 Ll1 Cn1 Lu26 Cn2 Lm1 Po6 Ll29 Po1 Pd1 Cn2
   So2 Sc1 Cn1 Mn2d Pd1 Mn1 Po1 Mn2 Po1 Mn2 Po1 Mn1 Cn8 Lo1b Cn4 Lo4 Po2 Cnb Cf6 Sm3 Po2 Sc1
   Po2 So2 Mnb Po1 Cf1 Po3 Lo20 Lm1 Loa Mn15 Nda Po4 Lo2 Mn1 Lo63 Po1 Lo1 Mn7 Cf1 So1 Mn6 Lm2
   Mn2 So1 Mn4 Lo2 Nda Lo3 So2 Lo1 Poe Cn1 Cf1 Lo1 Mn1 Lo1e Mn1b Cn2 Lo59 Mnb Lo1 Cne Nda Lo21
   Mn9 Lm2 So1 Po3 Lm1 Cn2 Mn1 Sc2 Lo16 Mn4 Lm1 Mn9 Lm1 Mn3 Lm1 Mn5 Cn2 Pof Cn1 Lo19 Mn3 Cn2
   Po1 Cn1 Lob Cn5 Lo18 Sk1 Lo6 Cn1 Cf2 Cn5 Mn9 Lo29 Lm1 Mn18 Cf1 Mn20 Mc1 Lo36 Mn1 Mc1 Mn1
   Lo1 Mc3 Mn8 Mc4 Mn1 Mc2 Lo1 Mn7 Loa Mn2 Po2 Nda Po1 Lm1 Lof Mn1 Mc2 Cn1 Lo8 Cn2 Lo2 Cn2
   Lo16 Cn1 Lo7 Cn1 Lo1 Cn3 Lo4 Cn2 Mn1 Lo1 Mc3 Mn4 Cn2 Mc2 Cn2 Mc2 Mn1 Lo1 Cn8 Mc1 Cn4 Lo2
   Cn1 Lo3 Mn2 Cn2 Nda Lo2 Sc2 No6 So1 Sc1 Lo1 Po1 Mn1 Cn2 Mn2 Mc1 Cn1 Lo6 Cn4 Lo2 Cn2 Lo16
   Cn1 Lo7 Cn1 Lo2 Cn1 Lo2 Cn1 Lo2 Cn2 Mn1 Cn1 Mc3 Mn2 Cn4 Mn2 Cn2 Mn3 Cn3 Mn1 Cn7 Lo4 Cn1 Lo1
   Cn7 Nda Mn2 Lo3 Mn1 Po1 Cna Mn2 Mc1 Cn1 Lo9 Cn1 Lo3 Cn1 Lo16 Cn1 Lo7 Cn1 Lo2 Cn1 Lo5 Cn2
   Mn1 Lo1 Mc3 Mn5 Cn1 Mn2 Mc1 Cn1 Mc2 Mn1 Cn2 Lo1 Cnf Lo2 Mn2 Cn2 Nda Po1 Sc1 Cn7 Lo1 Mn6 Cn1
   Mn1 Mc2 Cn1 Lo8 Cn2 Lo2 Cn2 Lo16 Cn1 Lo7 Cn1 Lo2 Cn1 Lo5 Cn2 Mn1 Lo1 Mc1 Mn1 Mc1 Mn4 Cn2
   Mc2 Cn2 Mc2 Mn1 Cn7 Mn2 Mc1 Cn4 Lo2 Cn1 Lo3 Mn2 Cn2 Nda So1 Lo1 No6 Cna Mn1 Lo1 Cn1 Lo6 Cn3
   Lo3 Cn1 Lo4 Cn3 Lo2 Cn1 Lo1 Cn1 Lo2 Cn3 Lo2 Cn3 Lo3 Cn3 Loc Cn4 Mc2 Mn1 Mc2 Cn3 Mc3 Cn1 Mc3
   Mn1 Cn2 Lo1 Cn6 Mc1 Cne Nda No3 So6 Sc1 So1 Cn5 Mn1 Mc3 Mn1 Lo8 Cn1 Lo3 Cn1 Lo17 Cn1 Lo10
   Cn2 Mn1 Lo1 Mn3 Mc4 Cn1 Mn3 Cn1 Mn4 Cn7 Mn2 Cn1 Lo3 Cn2 Lo1 Cn2 Lo2 Mn2 Cn2 Nda Cn7 Po1 No7
   So1 Lo1 Mn1 Mc2 Po1 Lo8 Cn1 Lo3 Cn1 Lo17 Cn1 Loa Cn1 Lo5 Cn2 Mn1 Lo1 Mc1 Mn1 Mc5 Cn1 Mn1
   Mc2 Cn1 Mc2 Mn2 Cn7 Mc2 Cn6 Lo2 Cn1 Lo2 Mn2 Cn2 Nda Cn1 Lo2 Mc1 Cnc Mn2 Mc2 Lo9 Cn1 Lo3 Cn1
   Lo29 Mn2 Lo1 Mc3 Mn4 Cn1 Mc3 Cn1 Mc3 Mn1 Lo1 So1 Cn4 Lo3 Mc1 No7 Lo3 Mn2 Cn2 Nda No9 So1
   Lo6 Cn1 Mn1 Mc2 Cn1 Lo12 Cn3 Lo18 Cn1 Lo9 Cn1 Lo1 Cn2 Lo7 Cn3 Mn1 Cn4 Mc3 Mn3 Cn1 Mn1 Cn1
   Mc8 Cn6 Nda Cn2 Mc2 Po1 Cnc Lo30 Mn1 Lo2 Mn7 Cn4 Sc1 Lo6 Lm1 Mn8 Po1 Nda Po2 Cn25 Lo2 Cn1
   Lo1 Cn1 Lo5 Cn1 Lo18 Cn1 Lo1 Cn1 Loa Mn1 Lo2 Mn9 Lo1 Cn2 Lo5 Cn1 Lm1 Cn1 Mn7 Cn1 Nda Cn2
   Lo4 Cn20 Lo1 So3 Pof So1 Po1 So3 Mn2 So6 Nda Noa So1 Mn1 So1 Mn1 So1 Mn1 Ps1 Pe1 Ps1 Pe1
   Mc2 Lo8 Cn1 Lo24 Cn4 Mne Mc1 Mn5 Po1 Mn2 Lo5 Mnb Cn1 Mn24 Cn1 So8 Mn1 So6 Cn1 So2 Po5 So4
   Po2 Cn25 Lo2b Mc2 Mn4 Mc1 Mn6 Mc1 Mn2 Mc2 Mn2 Lo1 Nda Po6 Lo6 Mc2 Mn2 Lo4 Mn3 Lo1 Mc3 Lo2
   Mc7 Lo3 Mn4 Lod Mn1 Mc2 Mn2 Mc6 Mn1 Lo1 Mc1 Nda Mc3 Mn1 So2 Lu26 Cn1 Lu1 Cn5 Lu1 Cn2 Ll2b
   Po1 Lm1 Ll3 Lo149 Cn1 Lo4 Cn2 Lo7 Cn1 Lo1 Cn1 Lo4 Cn2 Lo29 Cn1 Lo4 Cn2 Lo21 Cn1 Lo4 Cn2 Lo7
   Cn1 Lo1 Cn1 Lo4 Cn2 Lof Cn1 Lo39 Cn1 Lo4 Cn2 Lo43 Cn2 Mn3 Po9 No14 Cn3 Lo10 Soa Cn6 Lu56
   Cn2 Ll6 Cn2 Pd1 Lo26c So1 Po1 Lo11 Zs1 Lo1a Ps1 Pe1 Cn3 Lo4b Po3 Nl3 Lo8 Cn7 Lo12 Mn3 Mc1
   Cn9 Lo13 Mn2 Mc1 Po2 Cn9 Lo12 Mn2 Cnc Lod Cn1 Lo3 Cn1 Mn2 Cnc Lo34 Mn2 Mc1 Mn7 Mc8 Mn1 Mc2
   Mnb Po3 Lm1 Po3 Sc1 Lo1 Mn1 Cn2 Nda Cn6 Noa Cn6 Po6 Pd1 Po4 Mn3 Cf1 Mn1 Nda Cn6 Lo23 Lm1
   Lo35 Cn7 Lo5 Mn2 Lo22 Mn1 Lo1 Cn5 Lo46 Cna Lo1f Cn1 Mn3 Mc4 Mn2 Mc3 Cn4 Mc2 Mn1 Mc6 Mn3 Cn4
   So1 Cn3 Po2 Nda Lo1e Cn2 Lo5 Cnb Lo2c Cn4 Lo1a Cn6 Nda No1 Cn3 So22 Lo17 Mn2 Mc2 Mn1 Cn2
   Po2 Lo35 Mc1 Mn1 Mc1 Mn7 Cn1 Mn1 Mc1 Mn1 Mc2 Mn8 Mc6 Mna Cn2 Mn1 Nda Cn6 Nda Cn6 Po7 Lm1
   Po6 Cn2 Mne Me1 Mn10 Cn31 Mn4 Mc1 Lo2f Mn1 Mc1 Mn5 Mc1 Mn1 Mc5 Mn1 Mc2 Lo8 Cn1 Po2 Nda Po7
   Soa Mn9 So9 Po3 Mn2 Mc1 Lo1e Mc1 Mn4 Mc2 Mn2 Mc1 Mn3 Lo2 Nda Lo2c Mn1 Mc1 Mn2 Mc3 Mn1 Mc1
   Mn3 Mc2 Cn8 Po4 Lo24 Mc8 Mn8 Mc2 Mn2 Cn3 Po5 Nda Cn3 Lo3 Nda Lo1e Lm6 Po2 Ll9 Lu1 Ll1 Cn5
   Lu2b Cn2 Lu3 Po8 Cn8 Mn3 Po1 Mnd Mc1 Mn7 Lo4 Mn1 Lo6 Mn1 Lo2 Mc1 Mn2 Lo1 Cn5 Ll2c Lm3f Lld
   Lm1 Ll22 Lm25 Mn40 Lu1 Ll1 Lu1 Ll1 Lu1 Ll1 Lu1 Ll1 Lu1 Ll1 Lu1 Ll1 Lu1 Ll1 Lu1 Ll1 Lu1 Ll1
   Lu1 Ll1 Lu1 Ll1 Lu1 Ll1 Lu1 Ll1 Lu1 Ll1 Lu1 Ll1 Lu1 Ll1 Lu1 Ll1 Lu1 Ll1 Lu1 Ll1 Lu1 Ll1 Lu1
   Ll1 Lu1 Ll1 Lu1 Ll1 Lu1 Ll1 Lu1 Ll1 Lu1 Ll1 Lu1 Ll1 Lu1 Ll1 Lu1 Ll1 Lu1 Ll1 Lu1 Ll1 Lu1 Ll1
   Lu1 Ll1 Lu1 Ll1 Lu1 Ll1 Lu1 Ll1 Lu1 Ll1 Lu1 Ll1 Lu1 Ll1 Lu1 Ll1 Lu1 Ll1 Lu1 Ll1 Lu1 Ll1 Lu1
   Ll1 Lu1 Ll1 Lu1 Ll1 Lu1 Ll1 Lu1 Ll1 Lu1 Ll1 Lu1 Ll1 Lu1 Ll1 Lu1 Ll1 Lu1 Ll1 Lu1 Ll1 Lu1 Ll1
   Lu1 Ll1 Lu1 Ll1 Lu1 Ll1 Lu1 Ll1 Lu1 Ll1 Lu1 Ll1 Lu1 Ll1 Lu1 Ll1 Lu1 Ll1 Lu1 Ll1 Lu1 Ll1 Lu1
   Ll1 Lu1 Ll1 Lu1 Ll1 Lu1 Ll1 Lu1 Ll1 Lu1 Ll1 Lu1 Ll1 Lu1 Ll1 Lu1 Ll9 Lu1 Ll1 Lu1 Ll1 Lu1 Ll1
   Lu1 Ll1 Lu1 Ll1 Lu1 Ll1 Lu1 Ll1 Lu1 Ll1 Lu1 Ll1 Lu1 Ll1 Lu1 Ll1 Lu1 Ll1 Lu1 Ll1 Lu1 Ll1 Lu1
   Ll1 Lu1 Ll1 Lu1 Ll1 Lu1 Ll1 Lu1 Ll1 Lu1 Ll1 Lu1 Ll1 Lu1 Ll1 Lu1 Ll1 Lu1 Ll1 Lu1 Ll1 Lu1 Ll1
   Lu1 Ll1 Lu1 Ll1 Lu1 Ll1 Lu1 Ll1 Lu1 Ll1 Lu1 Ll1 Lu1 Ll1 Lu1 Ll1 Lu1 Ll1 Lu1 Ll1 Lu1 Ll1 Lu1
   Ll1 Lu1 Ll1 Lu1 Ll1 Lu1 Ll1 Lu1 Ll1 Lu1 Ll1 Lu1 Ll1 Lu1 Ll1 Lu1 Ll1 Lu1 Ll1 Lu1 Ll1 Lu1 Ll9
   Lu8 Ll6 Cn2 Lu6 Cn2 Ll8 Lu8 Ll8 Lu8 Ll6 Cn2 Lu6 Cn2 Ll8 Cn1 Lu1 Cn1 Lu1 Cn1 Lu1 Cn1 Lu1 Ll8
   Lu8 Lle Cn2 Ll8 Lt8 Ll8 Lt8 Ll8 Lt8 Ll5 Cn1 Ll2 Lu4 Lt1 Sk1 Ll1 Sk3 Ll3 Cn1 Ll2 Lu4 Lt1 Sk3
   Ll4 Cn2 Ll2 Lu4 Cn1 Sk3 Ll8 Lu5 Sk3 Cn2 Ll3 Cn1 Ll2 Lu4 Lt1 Sk2 Cn1 Zsb Cf5 Pd6 Po2 Pi1 Pf1
   Ps1 Pi2 Pf1 Ps1 Pi1 Po8 Zl1 Zp1 Cf5 Zs1 Po9 Pi1 Pf1 Po4 Pc2 Po3 Sm1 Ps1 Pe1 Pob Sm1 Po1 Pc1
   Poa Zs1 Cf5 Cn1 Cfa No1 Lm1 Cn2 No6 Sm3 Ps1 Pe1 Lm1 Noa Sm3 Ps1 Pe1 Cn1 Lmd Cn3 Sc21 Cnf
   Mnd Me4 Mn1 Me3 Mnc Cnf So2 Lu1 So4 Lu1 So2 Ll1 Lu3 Ll2 Lu3 Ll1 So1 Lu1 So2 Sm1 Lu5 So6 Lu1
   So1 Lu1 So1 Lu1 So1 Lu4 So1 Ll1 Lu4 Ll1 Lo4 Ll1 So2 Ll2 Lu2 Sm5 Lu1 Ll4 So1 Sm1 So2 Ll1 So1
   No10 Nl23 Lu1 Ll1 Nl4 No1 So2 Cn4 Sm5 So5 Sm2 So4 Sm1 So2 Sm1 So2 Sm1 So7 Sm1 So1f Sm2 So2
   Sm1 So1 Sm1 So1f Sm10c So8 Ps1 Pe1 Ps1 Pe1 So14 Sm2 So7 Ps1 Pe1 So51 Sm1 So1e Sm19 So28 Sm6
   So48 Cn16 Sob Cn15 No3c So4e No16 Sob7 Sm1 So9 Sm1 So36 Sm8 So6f Sm1 Sof8 Ps1 Pe1 Ps1 Pe1
   Ps1 Pe1 Ps1 Pe1 Ps1 Pe1 Ps1 Pe1 Ps1 Pe1 No1e So2c Sm5 Ps1 Pe1 Sm1f Ps1 Pe1 Ps1 Pe1 Ps1 Pe1
   Ps1 Pe1 Ps1 Pe1 Sm10 So100 Sm83 Ps1 Pe1 Ps1 Pe1 Ps1 Pe1 Ps1 Pe1 Ps1 Pe1 Ps1 Pe1 Ps1 Pe1 Ps1
   Pe1 Ps1 Pe1 Ps1 Pe1 Ps1 Pe1 Sm3f Ps1 Pe1 Ps1 Pe1 Sm20 Ps1 Pe1 Sm102 So30 Sm15 So2 Sm6 So27
   Cn2 So20 Cn1 So69 Lu30 Ll30 Lu1 Ll1 Lu3 Ll2 Lu1 Ll1 Lu1 Ll1 Lu1 Ll1 Lu4 Ll1 Lu1 Ll2 Lu1 Ll6
   Lm2 Lu3 Ll1 Lu1 Ll1 Lu1 Ll1 Lu1 Ll1 Lu1 Ll1 Lu1 Ll1 Lu1 Ll1 Lu1 Ll1 Lu1 Ll1 Lu1 Ll1 Lu1 Ll1
   Lu1 Ll1 Lu1 Ll1 Lu1 Ll1 Lu1 Ll1 Lu1 Ll1 Lu1 Ll1 Lu1 Ll1 Lu1 Ll1 Lu1 Ll1 Lu1 Ll1 Lu1 Ll1 Lu1
   Ll1 Lu1 Ll1 Lu1 Ll1 Lu1 Ll1 Lu1 Ll1 Lu1 Ll1 Lu1 Ll1 Lu1 Ll1 Lu1 Ll1 Lu1 Ll1 Lu1 Ll1 Lu1 Ll1
   Lu1 Ll1 Lu1 Ll1 Lu1 Ll1 Lu1 Ll1 Lu1 Ll1 Lu1 Ll1 Lu1 Ll1 Lu1 Ll1 Lu1 Ll1 Lu1 Ll1 Lu1 Ll1 Lu1
   Ll1 Lu1 Ll1 Lu1 Ll1 Lu1 Ll1 Lu1 Ll2 So6 Lu1 Ll1 Lu1 Ll1 Mn3 Lu1 Ll1 Cn5 Po4 No1 Po2 Ll26
   Cn1 Ll1 Cn5 Ll1 Cn2 Lo38 Cn7 Lm1 Po1 Cne Mn1 Lo17 Cn9 Lo7 Cn1 Lo7 Cn1 Lo7 Cn1 Lo7 Cn1 Lo7
   Cn1 Lo7 Cn1 Lo7 Cn1 Lo7 Cn1 Mn20 Po2 Pi1 Pf1 Pi1 Pf1 Po3 Pi1 Pf1 Po1 Pi1 Pf1 Po9 Pd1 Po2
   Pd1 Po1 Pi1 Pf1 Po2 Pi1 Pf1 Ps1 Pe1 Ps1 Pe1 Ps1 Pe1 Ps1 Pe1 Po5 Lm1 Poa Pd2 Po4 Pd1 Po1 Ps1
   Pod So2 Po3 Ps1 Pe1 Ps1 Pe1 Ps1 Pe1 Ps1 Pe1 Pd1 Cn22 So1a Cn1 So59 Cnc Sod6 Cn1a So10 Zs1
   Po3 So1 Lm1 Lo1 Nl1 Ps1 Pe1 Ps1 Pe1 Ps1 Pe1 Ps1 Pe1 Ps1 Pe1 So2 Ps1 Pe1 Ps1 Pe1 Ps1 Pe1 Ps1
   Pe1 Pd1 Ps1 Pe2 So1 Nl9 Mn4 Mc2 Pd1 Lm5 So2 Nl3 Lm1 Lo1 Po1 So2 Cn1 Lo56 Cn2 Mn2 Sk2 Lm2
   Lo1 Pd1 Lo5a Po1 Lm3 Lo1 Cn5 Lo2b Cn1 Lo5e Cn1 So2 No4 Soa Lo20 So24 Cnb So1 Lo10 So1f Cn1
   Noa So1e No8 So1 Nof So20 Noa So27 Nof So140 Lo19c0 So40 Lo5215 Lm1 Lo477 Cn3 So37 Cn9 Lo28
   Lm6 Po2 Lo10c Lm1 Po3 Lo10 Nda Lo2 Cn14 Lu1 Ll1 Lu1 Ll1 Lu1 Ll1 Lu1 Ll1 Lu1 Ll1 Lu1 Ll1 Lu1
   Ll1 Lu1 Ll1 Lu1 Ll1 Lu1 Ll1 Lu1 Ll1 Lu1 Ll1 Lu1 Ll1 Lu1 Ll1 Lu1 Ll1 Lu1 Ll1 Lu1 Ll1 Lu1 Ll1
   Lu1 Ll1 Lu1 Ll1 Lu1 Ll1 Lu1 Ll1 Lu1 Ll1 Lo1 Mn1 Me3 Po1 Mna Po1 Lm1 Lu1 Ll1 Lu1 Ll1 Lu1 Ll1
   Lu1 Ll1 Lu1 Ll1 Lu1 Ll1 Lu1 Ll1 Lu1 Ll1 Lu1 Ll1 Lu1 Ll1 Lu1 Ll1 Lu1 Ll1 Lu1 Ll1 Lu1 Ll1 Lm2
   Mn2 Lo46 Nla Mn2 Po6 Cn8 Sk17 Lm9 Sk2 Lu1 Ll1 Lu1 Ll1 Lu1 Ll1 Lu1 Ll1 Lu1 Ll1 Lu1 Ll1 Lu1
   Ll3 Lu1 Ll1 Lu1 Ll1 Lu1 Ll1 Lu1 Ll1 Lu1 Ll1 Lu1 Ll1 Lu1 Ll1 Lu1 Ll1 Lu1 Ll1 Lu1 Ll1 Lu1 Ll1
   Lu1 Ll1 Lu1 Ll1 Lu1 Ll1 Lu1 Ll1 Lu1 Ll1 Lu1 Ll1 Lu1 Ll1 Lu1 Ll1 Lu1 Ll1 Lu1 Ll1 Lu1 Ll1 Lu1
   Ll1 Lu1 Ll1 Lu1 Ll1 Lu1 Ll1 Lu1 Ll1 Lu1 Ll1 Lu1 Ll1 Lu1 Ll1 Lu1 Ll1 Lm1 Ll8 Lu1 Ll1 Lu1 Ll1
   Lu2 Ll1 Lu1 Ll1 Lu1 Ll1 Lu1 Ll1 Lu1 Ll1 Lm1 Sk2 Lu1 Ll1 Lu1 Ll1 Lo1 Lu1 Ll1 Lu1 Ll3 Lu1 Ll1
   Lu1 Ll1 Lu1 Ll1 Lu1 Ll1 Lu1 Ll1 Lu1 Ll1 Lu1 Ll1 Lu1 Ll1 Lu1 Ll1 Lu1 Ll1 Lu5 Ll1 Lu5 Ll1 Lu1
   Ll1 Lu1 Ll1 Lu1 Ll1 Lu1 Ll1 Lu1 Ll1 Lu1 Ll1 Lu1 Ll1 Lu4 Ll1 Lu1 Ll1 Lu2 Ll1 Cn2 Lu1 Ll1 Cn1
   Ll1 Cn1 Ll1 Lu1 Ll1 Lu1 Ll1 Lu1 Ll1 Lu1 Cn15 Lm3 Lu1 Ll1 Lo1 Lm2 Ll1 Lo7 Mn1 Lo3 Mn1 Lo4
   Mn1 Lo17 Mc2 Mn2 Mc1 So4 Mn1 Cn3 No6 So2 Sc1 So1 Cn6 Lo34 Po4 Cn8 Mc2 Lo32 Mc10 Mn2 Cn8 Po2
   Nda Cn6 Mn12 Lo6 Po3 Lo1 Po1 Lo2 Mn1 Nda Lo1c Mn8 Po2 Lo17 Mnb Mc2 Cnb Po1 Lo1d Cn3 Mn3 Mc1
   Lo2f Mn1 Mc2 Mn4 Mc2 Mn2 Mc3 Pod Cn1 Lm1 Nda Cn4 Po2 Lo5 Mn1 Lm1 Lo9 Nda Lo5 Cn1 Lo29 Mn6
   Mc2 Mn2 Mc2 Mn2 Cn9 Lo3 Mn1 Lo8 Mn1 Mc1 Cn2 Nda Cn2 Po4 Lo10 Lm1 Lo6 So3 Lo1 Mc1 Mn1 Mc1
   Lo32 Mn1 Lo1 Mn3 Lo2 Mn2 Lo5 Mn2 Lo1 Mn1 Lo1 Cn18 Lo2 Lm1 Po2 Lob Mc1 Mn2 Mc2 Po2 Lo1 Lm2
   Mc1 Mn1 Cna Lo6 Cn2 Lo6 Cn2 Lo6 Cn9 Lo7 Cn1 Lo7 Cn1 Ll2b Sk1 Lm4 Ll9 Lm1 Sk2 Cn4 Ll50 Lo23
   Mc2 Mn1 Mc2 Mn1 Mc2 Po1 Mc1 Mn1 Cn2 Nda Cn6 Lo2ba4 Cnc Lo17 Cn4 Lo31 Cn4 Cs800 Co1900 Lo16e
   Cn2 Lo6a Cn26 Ll7 Cnc Ll5 Cn5 Lo1 Mn1 Loa Sm1 Lod Cn1 Lo5 Cn1 Lo1 Cn1 Lo2 Cn1 Lo2 Cn1 Lo6c
   Sk11 Cn10 Lo16b Pe1 Ps1 So10 Lo40 Cn2 Lo36 Cn7 So1 Cn20 Loc Sc1 So3 Mn10 Po7 Ps1 Pe1 Po1
   Cn6 Mn10 Po1 Pd2 Pc2 Ps1 Pe1 Ps1 Pe1 Ps1 Pe1 Ps1 Pe1 Ps1 Pe1 Ps1 Pe1 Ps1 Pe1 Ps1 Pe1 Po2
   Ps1 Pe1 Po4 Pc3 Po3 Cn1 Po4 Pd1 Ps1 Pe1 Ps1 Pe1 Ps1 Pe1 Po3 Sm1 Pd1 Sm3 Cn1 Po1 Sc1 Po2 Cn4
   Lo5 Cn1 Lo87 Cn2 Cf1 Cn1 Po3 Sc1 Po3 Ps1 Pe1 Po1 Sm1 Po1 Pd1 Po2 Nda Po2 Sm3 Po2 Lu1a Ps1
   Po1 Pe1 Sk1 Pc1 Sk1 Ll1a Ps1 Sm1 Pe1 Sm1 Ps1 Pe1 Po1 Ps1 Pe1 Po2 Loa Lm1 Lo2d Lm2 Lo1f Cn3
   Lo6 Cn2 Lo6 Cn2 Lo6 Cn2 Lo3 Cn3 Sc2 Sm1 Sk1 So1 Sc2 Cn1 So1 Sm4 So2 Cna Cf3 So2 Cn2 Loc Cn1
   Lo1a Cn1 Lo13 Cn1 Lo2 Cn1 Lof Cn2 Loe Cn22 Lo7b Cn5 Po3 Cn4 No2d Cn3 So9 Nl35 No4 So11 No2
   So3 Cn1 Sod Cn3 So1 Cn2f So2d Mn1 Cn82 Lo1d Cn3 Lo31 Cnf Mn1 No1b Cn4 Lo20 No4 Cn9 Lo14 Nl1
   Lo8 Nl1 Cn5 Lo26 Mn5 Cn5 Lo1e Cn1 Po1 Lo24 Cn4 Lo8 Po1 Nl5 Cn2a Lu28 Ll28 Lo4e Cn2 Nda Cn6
   Lu24 Cn4 Ll24 Cn4 Lo28 Cn8 Lo34 Cnb Po1 Lub Cn1 Luf Cn1 Lu7 Cn1 Lu2 Cn1 Llb Cn1 Llf Cn1 Ll7
   Cn1 Ll2 Cn3 Lo34 Cnc Lo137 Cn9 Lo16 Cna Lo8 Cn18 Lm6 Cn1 Lm2a Cn1 Lm9 Cn45 Lo6 Cn2 Lo1 Cn1
   Lo2c Cn1 Lo2 Cn3 Lo1 Cn2 Lo17 Cn1 Po1 No8 Lo17 So2 No7 Lo1f Cn8 No9 Cn30 Lo13 Cn1 Lo2 Cn5
   No5 Lo16 No6 Cn3 Po1 Lo1a Cn5 Po1 Cn40 Lo38 Cn4 No2 Lo2 No10 Cn2 No2e Lo1 Mn3 Cn1 Mn2 Cn5
   Mn4 Lo4 Cn1 Lo3 Cn1 Lo1d Cn2 Mn3 Cn4 Mn1 No9 Cn7 Po9 Cn7 Lo1d No2 Po1 Lo1d No3 Cn20 Lo8 So1
   Lo1c Mn2 Cn4 No5 Po7 Cn9 Lo36 Cn3 Po7 Lo16 Cn2 No8 Lo13 Cn5 No8 Lo12 Cn7 Po4 Cnc No7 Cn50
   Lo49 Cn37 Lu33 Cnd Ll33 Cn7 No6 Lo24 Mn4 Cn8 Nda Cn6 Nda Lo4 Lm1 Lo1 Lu16 Cn3 Mn5 Pd1 Lm1
   Ll16 Cn8 Sm2 Cnd0 No1f Cn1 Lo2a Cn1 Mn2 Pd1 Cn2 Lo2 Cn10 Lo3 Cn37 Mn4 Lo1d Noa Lo1 Cn8 Lo16
   Mnb No4 Po5 Cn16 Lo12 Mn4 Po4 Cn26 Lo15 No7 Cn14 Lo17 Cn9 Mc1 Mn1 Mc1 Lo35 Mnf Po7 Cn4 No14
   Nda Mn1 Lo2 Mn2 Lo1 Cn9 Mn3 Mc1 Lo2d Mc3 Mn4 Mc2 Mn2 Po2 Cf1 Po4 Mn1 Cna Cf1 Cn2 Lo19 Cn7
   Nda Cn6 Mn3 Lo24 Mn5 Mc1 Mn8 Cn1 Nda Po4 Lo1 Mc2 Lo1 Cn8 Lo23 Mn1 Po2 Lo1 Cn9 Mn2 Mc1 Lo30
   Mc3 Mn9 Mc2 Lo4 Po4 Mn4 Po1 Mc1 Mn1 Nda Lo1 Po1 Lo1 Po3 Cn1 No14 Cnb Lo12 Cn1 Lo19 Mc3 Mn3
   Mc2 Mn1 Mc1 Mn2 Po6 Mn1 Lo2 Mn1 Cn3e Lo7 Cn1 Lo1 Cn1 Lo4 Cn1 Lof Cn1 Loa Po1 Cn6 Lo2f Mn1
   Mc3 Mn8 Cn5 Nda Cn6 Mn2 Mc2 Cn1 Lo8 Cn2 Lo2 Cn2 Lo16 Cn1 Lo7 Cn1 Lo2 Cn1 Lo5 Cn1 Mn2 Lo1
   Mc2 Mn1 Mc4 Cn2 Mc2 Cn2 Mc3 Cn2 Lo1 Cn6 Mc1 Cn5 Lo5 Mc2 Cn2 Mn7 Cn3 Mn5 Cnb Loa Cn1 Lo1 Cn2
   Lo1 Cn1 Lo26 Cn1 Lo1 Mc3 Mn6 Cn1 Mc1 Cn2 Mc1 Cn1 Mc4 Cn1 Mc2 Mn1 Mc1 Mn1 Lo1 Mn1 Lo1 Po2
   Cn1 Po2 Cn8 Mn2 Cn1d Lo35 Mc3 Mn8 Mc2 Mn3 Mc1 Mn1 Lo4 Po5 Nda Po2 Cn1 Po1 Mn1 Lo3 Cn1e Lo30
   Mc3 Mn6 Mc1 Mn1 Mc4 Mn2 Mc1 Mn2 Lo2 Po1 Lo1 Cn8 Nda Cna6 Lo2f Mc3 Mn4 Cn2 Mc4 Mn2 Mc1 Mn2
   Po17 Lo4 Mn2 Cn22 Lo30 Mc3 Mn8 Mc2 Mn1 Mc1 Mn2 Po3 Lo1 Cnb Nda Cn6 Pod Cn13 Lo2b Mn1 Mc1
   Mn1 Mc2 Mn6 Mc1 Mn1 Lo1 Po1 Cn6 Nda Cn6 Nd14 Cn1c Lo1b Cn2 Mn3 Mc2 Mn4 Mc1 Mn5 Cn4 Nda No2
   Po3 So1 Lo7 Cnb9 Lo2c Mc3 Mn9 Mc1 Mn2 Po1 Cn64 Lu20 Ll20 Nda No9 Cnc Lo8 Cn2 Lo1 Cn2 Lo8
   Cn1 Lo2 Cn1 Lo18 Mc6 Cn1 Mc2 Cn2 Mn2 Mc1 Mn1 Lo1 Mc1 Lo1 Mc1 Mn1 Po3 Cn9 Nda Cn46 Lo8 Cn2
   Lo27 Mc3 Mn4 Cn2 Mn2 Mc4 Mn1 Lo1 Po1 Lo1 Mc1 Cn1b Lo1 Mna Lo28 Mn6 Mc1 Lo1 Mn4 Po8 Mn1 Cn8
   Lo1 Mn6 Mc2 Mn3 Lo2e Mnd Mc1 Mn2 Po3 Lo1 Po5 Cnd Lo49 Cn7 Poa Cnb6 Lo21 Po1 Cne Nda Cn6 Lo9
   Cn1 Lo25 Mc1 Mn7 Cn1 Mn6 Mc1 Mn1 Lo1 Po5 Cna Nda No13 Cn3 Po2 Lo1e Cn2 Mn16 Cn1 Mc1 Mn7 Mc1
   Mn2 Mc1 Mn2 Cn49 Lo7 Cn1 Lo2 Cn1 Lo26 Mn6 Cn3 Mn1 Cn1 Mn2 Cn1 Mn7 Lo1 Mn1 Cn8 Nda Cn6 Lo6
   Cn1 Lo2 Cn1 Lo20 Mc5 Cn1 Mn2 Cn1 Mc2 Mn1 Mc1 Mn1 Lo1 Cn7 Nda Cn136 Lo13 Mn2 Mc2 Po2 Cn7 Mn2
   Lo1 Mc1 Lod Cn1 Lo22 Mc2 Mn5 Cn3 Mc2 Mn1 Mc1 Mn1 Pod Nda Mn1 Cn55 Lo1 Cnf No15 So8 Sc4 So11
   Cnd Po1 Lo39a Cn66 Nl6f Cn1 Po5 Cnb Loc4 Cna4c Lo61 Po2 Cnd Lo430 Cf10 Mn1 Lo6 Mnf Cna
   Lof9b Cn5 Lo247 Cn1ab9 Lo1e Mnc Mc3 Mn3 Nda Cn6c6 Lo239 Cn7 Lo1f Cn1 Nda Cn4 Po2 Lo4f Cn1
   Nda Cn6 Lo1e Cn2 Mn5 Po1 Cna Lo30 Mn7 Po5 So4 Lm4 Po1 So1 Cna Nda Cn1 No7 Cn1 Lo15 Cn5 Lo13
   Cn1b0 Lm3 Lo28 Lm2 Po3 Nda Cnc6 Lu20 Ll20 No17 Po4 Cn65 Lo4b Cn4 Mn1 Lo1 Mc37 Cn7 Mn4 Lmd
   Cn40 Lm2 Po1 Lm1 Mn1 Cnb Mc2 Cne Lo17f8 Cn8 Lo4d6 Cn29 Loa Cn22e7 Lm4 Cn1 Lm7 Cn1 Lm2 Cn1
   Lo123 Cnf Lo1 Cn1d Lo3 Cn2 Lo1 Cne Lo4 Cn8 Lo18c Cn904 Lo6b Cn5 Lod Cn3 Lo9 Cn7 Loa Cn2 So1
   Mn2 Po1 Cf4 Cnf5c Sof0 Nda Cn6 So1b4 Cn4c Mn2e Cn2 Mn17 Cn9 So74 Cn3c Sof6 Cna So27 Cn2
   So3c Mc2 Mn3 So3 Mc6 Cf8 Mn8 So2 Mn7 So1e Mn4 So3d Cn15 So42 Mn3 So1 Cn7a No14 Cnc No14 Cnc
   So57 Cn9 No19 Cn87 Lu1a Ll1a Lu1a Ll7 Cn1 Ll12 Lu1a Ll1a Lu1 Cn1 Lu2 Cn2 Lu1 Cn2 Lu2 Cn2
   Lu4 Cn1 Lu8 Ll4 Cn1 Ll1 Cn1 Ll7 Cn1 Llb Lu1a Ll1a Lu2 Cn1 Lu4 Cn2 Lu8 Cn1 Lu7 Cn1 Ll1a Lu2
   Cn1 Lu4 Cn1 Lu5 Cn1 Lu1 Cn3 Lu7 Cn1 Ll1a Lu1a Ll1a Lu1a Ll1a Lu1a Ll1a Lu1a Ll1a Lu1a Ll1a
   Lu1a Ll1c Cn2 Lu19 Sm1 Ll19 Sm1 Ll6 Lu19 Sm1 Ll19 Sm1 Ll6 Lu19 Sm1 Ll19 Sm1 Ll6 Lu19 Sm1
   Ll19 Sm1 Ll6 Lu19 Sm1 Ll19 Sm1 Ll6 Lu1 Ll1 Cn2 Nd32 So200 Mn37 So4 Mn32 So8 Mn1 Soe Mn1 So2
   Po5 Cnf Mn5 Cn1 Mnf Cn450 Lla Lo1 Ll14 Cn6 Ll6 Cnd5 Mn7 Cn1 Mn11 Cn2 Mn7 Cn1 Mn2 Cn1 Mn5
   Cn5 Lm3e Cn21 Mn1 Cn70 Lo2d Cn3 Mn7 Lm7 Cn2 Nda Cn4 Lo1 So1 Cn140 Lo1e Mn1 Cn11 Lo2c Mn4
   Nda Cn5 Sc1 Cn1d0 Lo1b Lm1 Mn4 Nda Cnd6 Lo1e Mn2 Lo1 Nda Cn4 Po1 Cn1e0 Lo7 Cn1 Lo4 Cn1 Lo2
   Cn1 Lof Cn1 Loc5 Cn2 No9 Mn7 Cn29 Lu22 Ll22 Mn7 Lm1 Cn4 Nda Cn4 Po2 Cn311 No3b So1 No3 Sc1
   No4 Cn4c No2d So1 Nof Cnc2 Lo4 Cn1 Lo1b Cn1 Lo2 Cn1 Lo1 Cn2 Lo1 Cn1 Loa Cn1 Lo4 Cn1 Lo1 Cn1
   Lo1 Cn6 Lo1 Cn4 Lo1 Cn1 Lo1 Cn1 Lo1 Cn1 Lo3 Cn1 Lo2 Cn1 Lo1 Cn2 Lo1 Cn1 Lo1 Cn1 Lo1 Cn1 Lo1
   Cn1 Lo1 Cn1 Lo2 Cn1 Lo1 Cn2 Lo4 Cn1 Lo7 Cn1 Lo4 Cn1 Lo4 Cn1 Lo1 Cn1 Loa Cn1 Lo11 Cn5 Lo3
   Cn1 Lo5 Cn1 Lo11 Cn34 Sm2 Cn10e So2c Cn4 So64 Cnc Sof Cn2 Sof Cn1 Sof Cn1 So25 Cna Nod Soa1
   Cn38 So1d Cnd So2c Cn4 So9 Cn7 So2 Cne So6 Cn9a Sofb Sk5 So2d8 Cn4 So11 Cn3 Sod Cn3 So77
   Cn4 So5f Cn6 Soc Cn4 So1 Cnf Soc Cn4 So38 Cn8 Soa Cn6 So28 Cn8 So1e Cn2 Soc Cn4 So2 Cn3e
   So154 Cnc Soe Cn2 Sod Cn3 Soa Cn5 So38 Cn7 Sof Cn2 Sob Cn6 So9 Cn7 So93 Cn1 So5c Nda Cn406
   Loa6e0 Cn20 Lo103a Cn6 Lode Cn2 Lo1682 Cne Lo1d31 Cnf Lo26e Cn9a2 Lo21e Cn5e2 Lo134b Cn5
   Lo1060 Cnadc51 Cf1 Cn1e Cf60 Cn80 Mnf0 Cnfe10 Cofffe Cn2 Cofffe Cn2"

/-- The first code point of every run, with the run's category. -/
def categoryStarts : Array (Nat × Category) :=
  runStarts 2 Category.ofAbbreviation? categoryText

/-- The general category of a character. -/
def category (c : Char) : Category :=
  (findRun? categoryStarts c.toNat).getD .unassigned

/-- Characters with a visible form, and the space. Every other separator, and
    all control, format, private and unassigned characters, have none. -/
def isPrintable (c : Char) : Bool :=
  c = ' ' || match category c with
    | .spaceSeparator | .lineSeparator | .paragraphSeparator | .control | .format
    | .surrogate | .privateUse | .unassigned => false
    | _ => true

/-- Spacing marks and letters that extend the character before them although
    their category does not say so. -/
def graphemeExtenders : List (Nat × Nat) :=
  [(0x9BE, 0x9BE), (0x9D7, 0x9D7), (0xB3E, 0xB3E), (0xB57, 0xB57), (0xBBE, 0xBBE),
   (0xBD7, 0xBD7), (0xCC0, 0xCC0), (0xCC2, 0xCC2), (0xCC7, 0xCC8), (0xCCA, 0xCCB),
   (0xCD5, 0xCD6), (0xD3E, 0xD3E), (0xD57, 0xD57), (0xDCF, 0xDCF), (0xDDF, 0xDDF),
   (0x1715, 0x1715), (0x1734, 0x1734), (0x1B35, 0x1B35), (0x1B3B, 0x1B3B), (0x1B3D, 0x1B3D),
   (0x1B43, 0x1B44), (0x1BAA, 0x1BAA), (0x1BF2, 0x1BF3), (0x200C, 0x200C), (0x302E, 0x302F),
   (0xA953, 0xA953), (0xA9C0, 0xA9C0), (0xFF9E, 0xFF9F), (0x111C0, 0x111C0),
   (0x11235, 0x11235), (0x1133E, 0x1133E), (0x1134D, 0x1134D), (0x11357, 0x11357),
   (0x113B8, 0x113B8), (0x113C2, 0x113C2), (0x113C5, 0x113C5), (0x113C7, 0x113C9),
   (0x113CF, 0x113CF), (0x114B0, 0x114B0), (0x114BD, 0x114BD), (0x115AF, 0x115AF),
   (0x116B6, 0x116B6), (0x11930, 0x11930), (0x1193D, 0x1193D), (0x11F41, 0x11F41),
   (0x16FF0, 0x16FF1), (0x1D165, 0x1D166), (0x1D16D, 0x1D172), (0xE0020, 0xE007F)]

/-- Characters that extend the one before them: marks that take no space of
    their own, and a few more by name. -/
def extendsGrapheme (c : Char) : Bool :=
  match category c with
  | .nonspacingMark | .enclosingMark => true
  | _ => inRanges graphemeExtenders c.toNat

/-- Symbols that count as alphabetic, and the two joiners. -/
def wordExtras : List (Nat × Nat) :=
  [(0x200C, 0x200D), (0x24B6, 0x24E9), (0x1F130, 0x1F149), (0x1F150, 0x1F169),
   (0x1F170, 0x1F189)]

/-- The characters of a word: letters, marks, decimal and letter numbers,
    connectors and a few more by name. -/
def isWordChar (c : Char) : Bool :=
  match category c with
  | .upperLetter | .lowerLetter | .titleLetter | .modifierLetter | .otherLetter
  | .nonspacingMark | .spacingMark | .enclosingMark
  | .decimalNumber | .letterNumber | .connectorPunctuation => true
  | _ => inRanges wordExtras c.toNat

end Text

end Typings
