import Typings.Text.Split

/-!
# The Command Line

Options are read from left to right. An option with a value has it attached,
or it is the next argument unless that looks like an option. Letters of
options without a value can stand together behind one dash; the first letter
of an option with a value takes the rest for its value.

A value that is its own argument is only *taken* when it is read, and looked at
when the next known option comes or the arguments end. So of two faults the
later one is reported where the later one is an argument that nobody knows.

## Main definitions

* `Arguments`: What a run was asked to do.
* `ArgumentFault`: What can be wrong with arguments.
* `CommandLine.parse`: The arguments of a run.
-/

namespace Typings

/-- When a report is colored. -/
inductive ColorChoice where
  | auto
  | always
  | never
  deriving DecidableEq, Repr, Inhabited

namespace ColorChoice

/-- The word for a choice. -/
def name : ColorChoice → String
  | .auto => "auto"
  | .always => "always"
  | .never => "never"

/-- The choice with a name, which is spelled exactly so. -/
def ofName? : String → Option ColorChoice
  | "auto" => some .auto
  | "always" => some .always
  | "never" => some .never
  | _ => none

/-- Whether a report is colored, given whether a terminal shows it. -/
def isEnabled (choice : ColorChoice) (isTerminal : Bool) : Bool :=
  match choice with
  | .auto => isTerminal
  | .always => true
  | .never => false

end ColorChoice

/-- What a run was asked to do. -/
structure Arguments where
  config : String := "dtsgen.json"
  out : Option String := none
  ignoresCache : Bool := false
  modelFile : Option String := none
  color : ColorChoice := .auto
  deriving DecidableEq, Repr, Inhabited

/-- What can be wrong with arguments. The two last are wishes that take the
    place of a run. -/
inductive ArgumentFault where
  | unknownArgument
  | invalidValue
  | argumentConflict
  | tooManyValues
  | displayHelp
  | displayVersion
  deriving DecidableEq, Repr, Inhabited

namespace CommandLine

/-- The options that have a value. -/
inductive ValueOption where
  | config
  | out
  | emitModel
  | color
  deriving DecidableEq, Repr, Inhabited

/-- All options. -/
inductive Switch where
  | value (option : ValueOption)
  | noCache
  | help
  | version
  deriving DecidableEq, Repr, Inhabited

namespace Switch

/-- The option with a long name. -/
def ofLong? : String → Option Switch
  | "config" => some (.value .config)
  | "out" => some (.value .out)
  | "no-cache" => some .noCache
  | "emit-model" => some (.value .emitModel)
  | "color" => some (.value .color)
  | "help" => some .help
  | "version" => some .version
  | _ => none

/-- The option with a letter. -/
def ofLetter? : Char → Option Switch
  | 'c' => some (.value .config)
  | 'o' => some (.value .out)
  | 'h' => some .help
  | 'V' => some .version
  | _ => none

end Switch

/-- How far reading has come: the options that were given, what they amount
    to, and the option whose value is still to be looked at, with that value
    if it has come. -/
structure Reading where
  given : List Switch := []
  arguments : Arguments := {}
  pending : Option (ValueOption × Option String) := none
  deriving Repr, Inhabited

namespace Reading

/-- Arguments with the value of an option. No path is empty, and a choice of
    colors is one of its words. -/
def withValue (a : Arguments) (option : ValueOption) (value : String) :
    Except ArgumentFault Arguments :=
  match option with
  | .color =>
    match ColorChoice.ofName? value with
    | some choice => .ok { a with color := choice }
    | none => .error .invalidValue
  | .config => if value.isEmpty then .error .invalidValue else .ok { a with config := value }
  | .out => if value.isEmpty then .error .invalidValue else .ok { a with out := some value }
  | .emitModel =>
    if value.isEmpty then .error .invalidValue else .ok { a with modelFile := some value }

/-- Note that an option was given, which happens at most once. -/
def note (r : Reading) (option : Switch) : Except ArgumentFault Reading :=
  if r.given.contains option then .error .argumentConflict
  else .ok { r with given := option :: r.given }

/-- Take the value of an option. -/
def settleValue (r : Reading) (option : ValueOption) (value : Option String) :
    Except ArgumentFault Reading := do
  match value with
  | none => throw .invalidValue
  | some value =>
    let noted ← r.note (.value option)
    return { noted with arguments := ← withValue noted.arguments option value }

/-- Look at the value that is still to be looked at. -/
def settle (r : Reading) : Except ArgumentFault Reading :=
  match r.pending with
  | none => .ok r
  | some (option, value) => { r with pending := none }.settleValue option value

/-- Read an option without a value. -/
def readFlag (r : Reading) (option : Switch) : Except ArgumentFault Reading := do
  let settled ← r.settle
  match option with
  | .help => throw .displayHelp
  | .version => throw .displayVersion
  | option =>
    let noted ← settled.note option
    return { noted with arguments := { noted.arguments with ignoresCache := true } }

/-- Read an option with a value, attached or not. -/
def readOption (r : Reading) (option : ValueOption) (attached : Option String) :
    Except ArgumentFault Reading := do
  let settled ← r.settle
  match attached with
  | some value => settled.settleValue option (some value)
  | none => return { settled with pending := some (option, none) }

/-- Read an option by its long name, with what is attached to it. -/
def readLong (r : Reading) (name : String) (attached : Option String) :
    Except ArgumentFault Reading :=
  match Switch.ofLong? name with
  | none => .error .unknownArgument
  | some (.value option) => r.readOption option attached
  | some option => if attached.isSome then .error .tooManyValues else r.readFlag option

/-- The value attached to a letter, behind an equals sign or directly. -/
def attachedTo : List Char → Option String
  | [] => none
  | '=' :: rest => some (String.ofList rest)
  | rest => some (String.ofList rest)

/-- Read options by their letters. -/
def readLetters (r : Reading) : List Char → Except ArgumentFault Reading
  | [] => .ok r
  | letter :: rest =>
    match Switch.ofLetter? letter with
    | none => .error .unknownArgument
    -- An option with a value takes the rest of the letters for it.
    | some (.value option) => r.readOption option (attachedTo rest)
    | some option => do (← r.readFlag option).readLetters rest

/-- Read an argument that does not look like an option. It is the value of the
    option in front of it, if that still has none. -/
def readPlain (r : Reading) (argument : String) : Except ArgumentFault Reading :=
  match r.pending with
  | some (option, none) => .ok { r with pending := some (option, some argument) }
  | _ => .error .unknownArgument

/-- Read an argument. -/
def read (r : Reading) (argument : String) : Except ArgumentFault Reading :=
  match argument.toList with
  | '-' :: '-' :: rest =>
    let name := rest.takeWhile (· ≠ '=')
    let attached :=
      if name.length < rest.length then some (String.ofList (rest.drop (name.length + 1)))
      else none
    r.readLong (String.ofList name) attached
  | '-' :: letter :: rest => r.readLetters (letter :: rest)
  | _ => r.readPlain argument

/-- Read arguments one after the other. Nothing may follow two dashes. -/
def readAll (r : Reading) : List String → Except ArgumentFault Reading
  | [] => r.settle
  | "--" :: rest => if rest.isEmpty then r.settle else .error .unknownArgument
  | argument :: rest => do (← r.read argument).readAll rest

end Reading

/-- The arguments of a run, given without the name of the program. -/
def parse (arguments : List String) : Except ArgumentFault Arguments :=
  (Reading.readAll {} arguments).map (·.arguments)

end CommandLine

end Typings
