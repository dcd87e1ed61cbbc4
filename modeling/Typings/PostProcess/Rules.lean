import Typings.Config
import Typings.Glob
import Typings.Pattern.Search
import Typings.PostProcess.Template
import Typings.Text.Replace

/-!
# Reworking Files

The text of a file is reworked by every set of rules whose pattern its target
matches, sets in the order of the configuration and rules in the order of
their set. A rule looks for a text or for a pattern. A text is replaced
wherever it occurs; a pattern is replaced where it first matches, or wherever
it does if its flags say so. A rule that looks for nothing changes nothing.

All rules are prepared before the first file is written, so a wrong one stops
a run before it has begun.

## Main definitions

* `PostProcessError`: What can be wrong with a configuration.
* `Rework`: A prepared rule.
* `PostProcessor`: The prepared sets of rules.
* `PostProcessor.ofConfig`: Preparing a configuration.
* `PostProcessor.apply`: The text of a file, reworked.
-/

namespace Typings

/-- What can be wrong with a configuration. -/
inductive PostProcessError where
  | pattern (glob : String)
  | regex (glob search : String)
  | flag (glob : String) (letter : Char)
  deriving DecidableEq, Repr

/-- The message of an error. -/
def PostProcessError.message : PostProcessError → String
  | .pattern glob => "invalid post-processing target pattern '" ++ glob ++ "'"
  | .regex glob search => "invalid regex '" ++ search ++ "' for '" ++ glob ++ "'"
  | .flag glob letter =>
    "unsupported regex flag '" ++ String.singleton letter ++ "' for '" ++ glob ++ "'"

/-- What a rule looks for. -/
inductive Needle where
  | text (search : String)
  | pattern (program : Pattern.Program) (names : List (String × Nat)) (isGlobal : Bool)

/-- A prepared rule: what it looks for, and the references that take its
    place. -/
structure Rework where
  needle : Needle
  references : String

namespace Rework

/-- The flags of a pattern, and whether it is replaced wherever it matches. -/
def readFlags (glob : String) : List Char → Pattern.Flags × Bool →
    Except PostProcessError (Pattern.Flags × Bool)
  | [], read => .ok read
  | c :: cs, (f, isGlobal) =>
    if c = 'g' then readFlags glob cs (f, true)
    else if c = 'i' then readFlags glob cs ({ f with ignoreCase := true }, isGlobal)
    else if c = 'm' then readFlags glob cs ({ f with multiLine := true }, isGlobal)
    else if c = 's' then readFlags glob cs ({ f with dotAll := true }, isGlobal)
    else if c = 'u' then readFlags glob cs (f, isGlobal)
    else .error (.flag glob c)

/-- Prepare a rule. The flags are read before the pattern. -/
def ofRule (glob : String) (rule : Rule) : Except PostProcessError Rework := do
  let references := PostProcess.references rule.replacement
  if !rule.isPattern then return ⟨.text rule.search, references⟩
  -- A flag that is not known is found even where there is nothing to look for.
  let (flags, isGlobal) ← readFlags glob (rule.flags.getD "").toList ({}, false)
  if rule.search.isEmpty then return ⟨.text "", references⟩
  match Pattern.parse? flags rule.search with
  | none => .error (.regex glob rule.search)
  | some parsed =>
    return ⟨.pattern (.ofExpr parsed.expr parsed.groups) parsed.names isGlobal, references⟩

/-- A part of a text. -/
def slice (text : Array Char) (first last : Nat) : List Char :=
  (text.extract first last).toList

/-- The groups of a match. -/
def captures (text : Array Char) (names : List (String × Nat)) (m : Pattern.Match) :
    PostProcess.Captures where
  groups := (List.range (m.slots.size / 2)).map fun k =>
    match m.slots[2 * k]?, m.slots[2 * k + 1]? with
    | some (some first), some (some last) => some (String.ofList (slice text first last))
    | _, _ => none
  names := names

/-- Put something in place of matches that follow one another, copying what is
    between them, from a place on. -/
def replaceMatches (text : Array Char) (replacement : Pattern.Match → List Char) :
    List Pattern.Match → Nat → List Char
  | [], place => slice text place text.size
  | m :: ms, place =>
    slice text place m.first ++ replacement m ++ replaceMatches text replacement ms m.last

/-- Rework a text by a rule. -/
def apply (r : Rework) (text : String) : String :=
  match r.needle with
  | .text search =>
    Text.replace search (PostProcess.expand { groups := [some search] } r.references) text
  | .pattern program names isGlobal =>
    let chars := text.toList.toArray
    let found :=
      if isGlobal then program.findAll chars else (program.find? chars 0).toList
    String.ofList (replaceMatches chars
      (fun m => (PostProcess.expand (captures chars names m) r.references).toList) found 0)

end Rework

/-- The rules for the targets that match a pattern. -/
structure RuleSet where
  glob : Glob
  rules : List Rework

/-- The prepared sets of rules. -/
structure PostProcessor where
  sets : List RuleSet := []

namespace PostProcessor

/-- Prepare a set of rules: its pattern, then its rules in order. -/
def prepareSet (glob : String) (rules : List Rule) : Except PostProcessError RuleSet :=
  match Glob.parse? glob with
  | none => .error (.pattern glob)
  | some parsed => (rules.mapM (Rework.ofRule glob)).map fun prepared => ⟨parsed, prepared⟩

/-- Prepare a configuration, set by set. -/
def ofConfig (config : Table (List Rule)) : Except PostProcessError PostProcessor :=
  (config.entries.mapM fun (glob, rules) => prepareSet glob rules).map PostProcessor.mk

/-- Whether there are no rules at all. -/
def isEmpty (p : PostProcessor) : Bool :=
  p.sets.isEmpty

/-- The sets of rules for a target. -/
def setsFor (p : PostProcessor) (target : String) : List RuleSet :=
  p.sets.filter (·.glob.isMatch target)

/-- Whether there are rules for a target. -/
def appliesTo (p : PostProcessor) (target : String) : Bool :=
  !(p.setsFor target).isEmpty

/-- The text of a file, reworked. -/
def apply (p : PostProcessor) (target text : String) : String :=
  (p.setsFor target).foldl (fun text set =>
    set.rules.foldl (fun text rule => rule.apply text) text) text

end PostProcessor

end Typings
