import Typings.CommandLine
import Typings.Project.Replacements
import Typings.Run.Display
import Typings.Sources.Acquire

/-!
# Running a Project

A whole run, from its arguments to the text that ends it. The paths of a
configuration are seen from the directory that the configuration is in, those
of the command line from the directory that the run is started in.

A run goes on as far as it can, and every step that fails ends it. What was
written until then stays. Only an item that cannot be rendered does not end a
run.

## Main definitions

* `RunError`: What ends a run.
* `RunSummary`: What a run has done.
* `Project.loadConfig`: The configuration of a run.
* `Project.run`: A run with its configuration.
* `Project.execute`: A run with its arguments.
-/

namespace Typings

open Emit (RenderError)

/-- What ends a run. -/
inductive RunError where
  | configUnreadable (path : String) (fault : FileFault)
  | configMalformed (path : String) (error : Json.ReadError)
  | noEndpoints (path : String)
  | postProcessing (error : PostProcessError)
  | acquisition (error : AcquisitionError)
  | substitutions (error : RenderError)
  | cycle (cycle : InheritanceCycle)
  | replacements (error : RenderError)
  | modelDirectory (path : String) (fault : FileFault)
  | modelFile (path : String) (fault : FileFault)

/-- The message of an error, which says what was being done. -/
def RunError.message : RunError → String
  | .configUnreadable path _ => "failed to read config " ++ path
  | .configMalformed path _ => "failed to parse config " ++ path
  | .noEndpoints path => "no endpoints configured in " ++ path ++ " (connection.endpoints)"
  | .postProcessing _ => "invalid postProcessing configuration"
  | .acquisition _ => "failed to acquire symbol sources"
  | .substitutions _ => "failed to write substituted types"
  | .cycle _ => "declaration generation failed"
  | .replacements _ => "failed to copy replacement files"
  | .modelDirectory path _ => "failed to create directory " ++ path
  | .modelFile path _ => "failed to write " ++ path

/-- What a run has done. -/
structure RunSummary where
  outputDir : String
  report : Report
  replacedFiles : Nat

namespace Project

/-- The path of the configuration. -/
def configPath (a : Arguments) (cwd : String) : String :=
  Path.join cwd a.config

/-- The directory that the paths of the configuration are seen from. -/
def baseDir (a : Arguments) (cwd : String) : String :=
  (Path.parent? (configPath a cwd)).getD cwd

/-- The directory that declarations go to. -/
def outputDir (a : Arguments) (cwd : String) (config : Config) : String :=
  match a.out with
  | some out => Path.join cwd out
  | none => Path.join (baseDir a cwd) config.outputDir

/-- The cache, if sources are kept. -/
def cache? (a : Arguments) (cwd : String) (config : Config) : Option Cache :=
  if config.usesCache && !a.ignoresCache then
    some ⟨Path.join (baseDir a cwd) config.cacheDir⟩
  else none

/-- The configuration of a run. -/
def loadConfig (t : FileTree) (path : String) : Except RunError Config :=
  match t.readText path with
  | .error fault => .error (.configUnreadable path fault)
  | .ok text =>
    match parseConfig text with
    | .error e => .error (.configMalformed path e)
    | .ok config => .ok config

/-- Write all declarations as data. -/
def writeModel (t : FileTree) (path : String) (output : Output) : FileTree × Option RunError :=
  let directory := (Path.parent? path).getD ""
  match t.createDirs directory with
  | (made, some fault) => (made, some (.modelDirectory directory fault))
  | (made, none) =>
    match made.write path output.toValue.spread.toUTF8 with
    | .ok written => (written, none)
    | .error fault => (made, some (.modelFile path fault))

/-- What is done with the output of a run, after its declarations were
    written: replacement files are copied, and all declarations are written
    as data if that was asked for. -/
def finish (a : Arguments) (cwd : String) (config : Config) (o : OutputDirectory)
    (t : FileTree) (output : Output) : FileTree × Except RunError RunSummary :=
  let copying := o.copyReplacements t (Path.join (baseDir a cwd) config.replacementsDir)
  match copying.error with
  | some e => (copying.tree, .error (.replacements e))
  | none =>
    let summary : RunSummary := ⟨o.path, output.report, copying.copied⟩
    match a.modelFile with
    | none => (copying.tree, .ok summary)
    | some file =>
      match writeModel copying.tree (Path.join cwd file) output with
      | (written, none) => (written, .ok summary)
      | (written, some e) => (written, .error e)

/-- What is done with the sources of a run: the tokens that others stand for
    are written, and then all declarations. -/
def produce (a : Arguments) (cwd : String) (config : Config) (o : OutputDirectory)
    (t : FileTree) (sources : List Api.Source) : FileTree × Except RunError RunSummary :=
  match o.writeSubstitutions t config.substitutions with
  | (written, some e) => (written, .error (.substitutions e))
  | (written, none) =>
    let generation := generate config sources o.renderer written
    match generation.result with
    | .error cycle => (generation.state, .error (.cycle cycle))
    | .ok output => finish a cwd config o generation.state output

/-- A run with its configuration. -/
def run (a : Arguments) (cwd : String) (config : Config) (t : FileTree) :
    FileTree × Except RunError RunSummary :=
  if config.connection.endpoints.isEmpty then
    (t, .error (.noEndpoints (configPath a cwd)))
  else
    match PostProcessor.ofConfig config.postProcessing with
    | .error e => (t, .error (.postProcessing e))
    | .ok processor =>
      let fetch := Fetcher.below (Path.join (baseDir a cwd) config.connection.root)
      let acquired := acquire config.connection.endpoints fetch (cache? a cwd config) t
      match acquired.result with
      | .error e => (acquired.tree, .error (.acquisition e))
      | .ok sources =>
        produce a cwd config ⟨outputDir a cwd config, processor⟩ acquired.tree sources

/-- A run with its arguments. -/
def execute (a : Arguments) (cwd : String) (t : FileTree) :
    FileTree × Except RunError RunSummary :=
  match loadConfig t (configPath a cwd) with
  | .error e => (t, .error e)
  | .ok config => run a cwd config t

/-- The text of a run's report, given whether a terminal shows it. -/
def reportText (a : Arguments) (isTerminal : Bool) (summary : RunSummary) : String :=
  summary.report.display (a.color.isEnabled isTerminal) summary.outputDir

/-- The line that says how many replacement files were copied, if any were. -/
def replacedLine (summary : RunSummary) : String :=
  if summary.replacedFiles = 0 then ""
  else "  " ++ toString summary.replacedFiles ++ " replacement file(s) copied\n"

/-- The paths of the files and directories that a run may look at: its sources
    and what was kept of them, the replacement files, and the directory that
    it writes to. -/
def inputs (a : Arguments) (cwd : String) (config : Config) : List String :=
  let root := Path.join (baseDir a cwd) config.connection.root
  config.connection.endpoints.map (Path.join root) ++
    (cache? a cwd config).toList.map (·.directory) ++
    [Path.join (baseDir a cwd) config.replacementsDir, outputDir a cwd config]

end Project

end Typings
