import Typings.Json.Schema

/-!
# Configuration

What a run can be told: where its sources are, which type tokens stand for
others, which namespaces are enums in disguise, how the text of each file is
reworked, and where everything goes.

## Main definitions

* `Config`: The configuration of a run.
* `Rule`: One replacement in the text of a file.
* `Config.isEnumNamespace`: Whether a namespace is declared as an enum.
* `cacheFileName`: The name of a source in the cache.
* `parseConfig`: A configuration from its text.
-/

namespace Typings

open Json (Codec Field Record ReadError Value)

/-- Where the sources are: a directory, and files below it. -/
structure Connection where
  root : String := ""
  endpoints : List String := []
  deriving Repr, Inhabited, DecidableEq

/-- One replacement in the text of a file. -/
structure Rule where
  search : String := ""
  replacement : String := ""
  isPattern : Bool := false
  flags : Option String := none
  deriving Repr, Inhabited, DecidableEq

/-- The configuration of a run. -/
structure Config where
  connection : Connection := {}
  /-- Type tokens and the tokens they stand for. -/
  substitutions : Table String := Table.empty
  /-- The namespaces that are declared as enums; their values are not used. -/
  enums : Table Value := Table.empty
  /-- Patterns of file names, with the replacements in those files. -/
  postProcessing : Table (List Rule) := Table.empty
  usesCache : Bool := false
  cacheDir : String := "apis"
  outputDir : String := "declarations"
  replacementsDir : String := "replacements"
  logLevel : Option String := none
  deriving Inhabited

namespace Config

/-- Whether a namespace is declared as an enum. -/
def isEnumNamespace (c : Config) (name : String) : Bool :=
  c.enums.contains name

namespace Schema

/-- Where the sources are. -/
def connection : Record Connection where
  name := "ConnectionConfig"
  blank := {}
  fields :=
    [.withDefault "root" .text (·.root) fun r a => { r with root := a },
     .withDefault "endpoints" (.list .text) (·.endpoints) fun r a => { r with endpoints := a }]

/-- One replacement. -/
def rule : Record Rule where
  name := "PostProcessRule"
  blank := {}
  fields :=
    [.required "searchString" .text (·.search) fun r a => { r with search := a },
     .withDefault "replacement" .text (·.replacement) fun r a => { r with replacement := a },
     .withDefault "isRegex" .looseFlag (·.isPattern) fun r a => { r with isPattern := a },
     .withDefault "regexFlags" (.optional .text) (·.flags) fun r a => { r with flags := a }]

/-- Replacements by the pattern of their files. -/
def rules : Codec (Table (List Rule)) :=
  .table (.list rule.codec)

/-- A whole configuration. -/
def config : Record Config where
  name := "GeneratorConfig"
  blank := {}
  fields :=
    [.withDefault "connection" connection.codec (·.connection)
       fun r a => { r with connection := a },
     .withDefault "substitutedTypes" (.table .text) (·.substitutions)
       fun r a => { r with substitutions := a },
     .withDefault "enums" (.table .free) (·.enums) fun r a => { r with enums := a },
     .withDefault "postProcessing" rules (·.postProcessing)
       fun r a => { r with postProcessing := a },
     .withDefault "cacheApis" .looseFlag (·.usesCache) fun r a => { r with usesCache := a },
     .withDefault "cacheDir" .text (·.cacheDir) fun r a => { r with cacheDir := a },
     .withDefault "outputDir" .text (·.outputDir) fun r a => { r with outputDir := a },
     .withDefault "replacementsDir" .text (·.replacementsDir)
       fun r a => { r with replacementsDir := a },
     .withDefault "logLevel" (.optional .text) (·.logLevel) fun r a => { r with logLevel := a }]

end Schema

end Config

/-- A configuration from its text. -/
def parseConfig (text : String) : Except ReadError Config :=
  Config.Schema.config.codec.parse text

/-- The name of a source in the cache, which has no directories. -/
def cacheFileName (endpoint : String) : String :=
  String.ofList (endpoint.toList.map fun c => if c = '/' then '.' else c)

end Typings
