/-!
# Replacement Templates

A rule says what to put in place of a match by a template, in which `$&` is
the whole match, `$1` to `$99` are its groups by number, `$<name>` is a group
by name and `$$` is a dollar. A dollar that begins none of these stands for
itself.

Templates are turned into references of one form, in which a number or a
name stands in braces behind a dollar and every other dollar is doubled. What
a reference names is looked up when a match is replaced; a group that took no
part in the match, or that does not exist, is empty.

## Main definitions

* `references`: A template as references.
* `Captures`: The groups of a match, by number and by name.
* `expand`: References replaced by what they name.
-/

namespace Typings

namespace PostProcess

/-- Whether a character is one of the ten digits. -/
def isTemplateDigit (c : Char) : Bool :=
  '0' ≤ c && c ≤ '9'

/-- A reference to a group. -/
def reference (name : List Char) : List Char :=
  ['$', '\x7b'] ++ name ++ ['\x7d']

/-- What a dollar and the characters behind it stand for, and how many of
    those characters belong to it. -/
def dollarReference (behind : List Char) : List Char × Nat :=
  match behind with
  | '$' :: _ => (['$', '$'], 1)
  | '&' :: _ => (reference ['0'], 1)
  | '<' :: rest =>
    let name := rest.takeWhile (· ≠ '>')
    if name.length < rest.length then (reference name, name.length + 2) else (['$', '$'], 0)
  | a :: b :: _ =>
    if isTemplateDigit a then
      if isTemplateDigit b then (reference [a, b], 2) else (reference [a], 1)
    else (['$', '$'], 0)
  | [a] => if isTemplateDigit a then (reference [a], 1) else (['$', '$'], 0)
  | [] => (['$', '$'], 0)

/-- A template as references, leaving out so many characters in front that
    belong to a reference already made. -/
def referencesFrom : Nat → List Char → List Char
  | _, [] => []
  | skipped + 1, _ :: rest => referencesFrom skipped rest
  | 0, c :: rest =>
    if c = '$' then
      let (reference, length) := dollarReference rest
      reference ++ referencesFrom length rest
    else c :: referencesFrom 0 rest

/-- A template as references. -/
def references (template : String) : String :=
  String.ofList (referencesFrom 0 template.toList)

/-- The groups of a match: the text of each by number, if it took part, and
    the numbers of those with names. -/
structure Captures where
  groups : List (Option String)
  names : List (String × Nat) := []

/-- The text of a group by its number. -/
def Captures.byNumber (c : Captures) (n : Nat) : String :=
  ((c.groups[n]?).bind id).getD ""

/-- The text of a group by its name. -/
def Captures.byName (c : Captures) (name : String) : String :=
  match c.names.lookup name with
  | some n => c.byNumber n
  | none => ""

/-- The number that a reference names: digits, perhaps behind a plus sign,
    below `2^64`. -/
def groupNumber? (name : List Char) : Option Nat :=
  let digits := match name with
    | '+' :: digits => digits
    | digits => digits
  let value := digits.foldl (fun n c => n * 10 + (c.toNat - 48)) 0
  if digits.isEmpty || !digits.all isTemplateDigit || Nat.pow 2 64 ≤ value then none else some value

/-- The text that a reference stands for. -/
def Captures.lookup (c : Captures) (name : List Char) : String :=
  match groupNumber? name with
  | some n => c.byNumber n
  | none => c.byName (String.ofList name)

/-- Whether a character can stand in a reference without braces. -/
def isReferenceChar (c : Char) : Bool :=
  isTemplateDigit c || ('a' ≤ c && c ≤ 'z') || ('A' ≤ c && c ≤ 'Z') || c = '_'

/-- What a dollar and the characters behind it expand to, and how many of
    those characters belong to it. -/
def expandDollar (c : Captures) (behind : List Char) : List Char × Nat :=
  match behind with
  | '$' :: _ => (['$'], 1)
  | '\x7b' :: rest =>
    let name := rest.takeWhile (· ≠ '\x7d')
    if name.length < rest.length then ((c.lookup name).toList, name.length + 2) else (['$'], 0)
  | behind =>
    let name := behind.takeWhile isReferenceChar
    if name.isEmpty then (['$'], 0) else ((c.lookup name).toList, name.length)

/-- References replaced by what they name, leaving out so many characters in
    front that belong to a reference already replaced. -/
def expandFrom (c : Captures) : Nat → List Char → List Char
  | _, [] => []
  | skipped + 1, _ :: rest => expandFrom c skipped rest
  | 0, x :: rest =>
    if x = '$' then
      let (text, length) := expandDollar c rest
      text ++ expandFrom c length rest
    else x :: expandFrom c 0 rest

/-- References replaced by what they name. -/
def expand (c : Captures) (references : String) : String :=
  String.ofList (expandFrom c 0 references.toList)

end PostProcess

end Typings
