import Typings.Project.Output

/-!
# Replacement Files

Files written by hand take the place of generated ones, or stand beside them.
They are copied from a directory of their own, which looks like the output
directory. Declarations among them are reworked like generated ones if there
are rules at all, even if none is for them, and everything else is copied as
it is.

Directories are copied in the order of their names, and the names in a
directory are those that it has when its turn comes. So a file that was just
copied into a directory that is still to come is copied again.

## Main definitions

* `Copying`: How far the copying has come.
* `OutputDirectory.copyFile`: One file copied.
* `OutputDirectory.copyReplacements`: All files of a directory copied.
-/

namespace Typings

open Emit (RenderError)

/-- How far the copying has come: the files, how many were copied, and what
    put an end to it. -/
structure Copying where
  tree : FileTree
  copied : Nat := 0
  error : Option RenderError := none

namespace OutputDirectory

/-- The target of a replacement file, if it is a declaration and there are
    rules. -/
def reworkedTarget? (o : OutputDirectory) (relative : String) : Option String :=
  if o.processor.isEmpty then none
  else Text.withoutEnd? Emit.declarationExtension (Text.replaceChar '\\' '/' relative)

/-- Copy one file, given its path and that path seen from the directory of all
    replacements. The directory of the copy is made before the file is read. -/
def copyFile (o : OutputDirectory) (t : FileTree) (source relative : String) :
    FileTree × Option RenderError :=
  let path := Path.join o.path relative
  let directory := (Path.parent? path).getD ""
  match t.createDirs directory with
  | (made, some fault) => (made, some (.io directory fault.message))
  | (made, none) =>
    match o.reworkedTarget? relative with
    | some target =>
      match made.readText source with
      | .error fault => (made, some (.io source fault.message))
      | .ok text =>
        match made.write path (o.processor.apply target text).toUTF8 with
        | .ok written => (written, none)
        | .error fault => (made, some (.io path fault.message))
    | none =>
      match made.copy source path with
      | .ok copied => (copied, none)
      | .error fault => (made, some (.io path fault.message))

/-- Copy all files below a directory, given the names that lead to it from the
    directory of all replacements, going down at most so many levels. -/
def copyBelow (o : OutputDirectory) (source : String) :
    Nat → Copying → List String → Copying
  | 0, state, _ => { state with error := some (.io source FileFault.nameTooLong.message) }
  | levels + 1, state, above =>
    match state.tree.locate (Path.join source (Text.join "/" above)) with
    | .error fault => { state with error := some (.io source fault.message) }
    | .ok place =>
      (state.tree.names place).foldl (fun state name =>
        if state.error.isSome then state
        -- Directories are gone down into as they come, between their files.
        else
          let relative := Text.join "/" (above ++ [name])
          let path := Path.join source relative
          if state.tree.isDir path then copyBelow o source levels state (above ++ [name])
          else
            let (t, error) := o.copyFile state.tree path relative
            ⟨t, if error.isNone then state.copied + 1 else state.copied, error⟩) state

/-- Copy all files below a directory. A directory that is missing has none.
    No directory is deeper than a path is long. -/
def copyReplacements (o : OutputDirectory) (t : FileTree) (source : String) : Copying :=
  if t.isDir source then o.copyBelow source (FileTree.maxPath + 1) { tree := t } []
  else { tree := t }

end OutputDirectory

end Typings
