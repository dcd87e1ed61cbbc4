import Typings.Project.Run

/-!
# The Program

A run on the files of the machine. Everything that a run may look at is taken
into a tree, the run itself works on that tree, and what it has changed is
written back. The report goes to the error stream.

## Main definitions

* `loadTree`: Files and directories of the machine taken into a tree.
* `saveChanges`: What a run has changed written back.
* `main`: The program.
-/

open Typings

namespace Typings

namespace Program

/-- Take a file, or a directory with everything below it, into a tree. What is
    not there stays missing. -/
partial def loadTree (t : FileTree) (path : String) : IO FileTree := do
  let place := System.mkFilePath [path]
  if ← place.isDir then
    let mut tree := (t.createDirs path).1
    for entry in ← place.readDir do
      tree ← loadTree tree (Path.join path entry.fileName)
    return tree
  else if ← place.pathExists then
    let made := (t.createDirs ((Path.parent? path).getD "")).1
    return (made.write path (← IO.FS.readBinFile path)).toOption.getD made
  else return t

/-- Write files that are new or different back. -/
def saveChanges (old new : FileTree) : IO Unit :=
  for (place, content) in new.changesFrom old do
    let path := "/" ++ Text.join "/" place
    IO.FS.createDirAll ((Path.parent? path).getD "/")
    IO.FS.writeBinFile path content

/-- What the program can be told. -/
def usage : String :=
  Text.join "\n"
    ["Generate declaration files from symbol sources", "",
     "Usage: typings [OPTIONS]", "",
     "Options:",
     "  -c, --config <CONFIG>    The configuration file [default: dtsgen.json]",
     "  -o, --out <OUT>          The output directory, instead of the configured one",
     "      --no-cache           Fetch all sources, even if they are in the cache",
     "      --emit-model <FILE>  Also write all declarations as data to this file",
     "      --color <COLOR>      When to color the report [auto, always, never]",
     "  -h, --help               Print help",
     "  -V, --version            Print version", ""]

/-- The message of an argument that cannot be accepted. -/
def faultText : ArgumentFault → String
  | .unknownArgument => "error: unexpected argument"
  | .invalidValue => "error: invalid value"
  | .argumentConflict => "error: an option was given more than once"
  | .tooManyValues => "error: unexpected value for an option without one"
  | .displayHelp => usage
  | .displayVersion => "typings 0.1.0"

/-- Run with arguments that were accepted. -/
def runProject (a : Arguments) : IO UInt32 := do
  let cwd := (← IO.currentDir).toString
  let mut tree ← loadTree FileTree.empty (Project.configPath a cwd)
  if let .ok config := Project.loadConfig tree (Project.configPath a cwd) then
    for path in Project.inputs a cwd config do
      tree ← loadTree tree path
  let (last, result) := Project.execute a cwd tree
  saveChanges tree last
  let stderr ← IO.getStderr
  match result with
  | .error e =>
    stderr.putStrLn ("Error: " ++ e.message)
    return 1
  | .ok summary =>
    stderr.putStr (Project.reportText a (← stderr.isTty) summary)
    stderr.putStr (Project.replacedLine summary)
    return 0

end Program

end Typings

/-- The program: its arguments are read, and then it runs. -/
def main (argv : List String) : IO UInt32 := do
  match CommandLine.parse argv with
  | .ok a => Program.runProject a
  | .error fault =>
    if fault = .displayHelp || fault = .displayVersion then
      IO.println (Program.faultText fault)
      return 0
    else
      (← IO.getStderr).putStrLn (Program.faultText fault)
      return 2
