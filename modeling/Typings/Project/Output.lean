import Typings.FileTree
import Typings.PostProcess.Rules
import Typings.Run.Generate

/-!
# The Output Directory

Every declaration is written to the file of its target below one directory,
after the rules for that target have reworked its text. Besides, one file
holds the tokens that others stand for.

## Main definitions

* `OutputDirectory`: Where texts go, and how they are reworked on the way.
* `OutputDirectory.writeTarget`: The text for a target written.
* `OutputDirectory.renderer`: Items rendered by writing their texts.
* `OutputDirectory.writeSubstitutions`: The file of tokens.
-/

namespace Typings

open Emit (Item RenderError)

/-- Give a file a text, making its directory if it is missing. -/
def FileTree.writeText (t : FileTree) (path text : String) : FileTree × Option RenderError :=
  let directory := (Path.parent? path).getD ""
  match t.createDirs directory with
  | (made, some fault) => (made, some (.io directory fault.message))
  | (made, none) =>
    match made.write path text.toUTF8 with
    | .ok written => (written, none)
    | .error fault => (made, some (.io path fault.message))

/-- Where texts go, and how they are reworked on the way. -/
structure OutputDirectory where
  path : String
  processor : PostProcessor := {}

namespace OutputDirectory

/-- The file of a target. -/
def pathOf (o : OutputDirectory) (target : String) : String :=
  Path.join o.path (Emit.targetFile target)

/-- Write the text for a target. -/
def writeTarget (o : OutputDirectory) (t : FileTree) (target text : String) :
    FileTree × Option RenderError :=
  t.writeText (o.pathOf target) (o.processor.apply target text)

/-- Items rendered by writing their texts. -/
def renderer (o : OutputDirectory) : Renderer FileTree := fun t item =>
  o.writeTarget t item.target item.text

/-- The tokens that others stand for, a line for each. What the empty token
    stands for is left out. -/
def substitutionText (substitutions : Table String) : String :=
  Text.join "\n" ((substitutions.entries.filter (!·.1.isEmpty)).map Prod.snd)

/-- Write the tokens that others stand for. -/
def writeSubstitutions (o : OutputDirectory) (t : FileTree) (substitutions : Table String) :
    FileTree × Option RenderError :=
  o.writeTarget t Emit.substitutedTarget (substitutionText substitutions)

end OutputDirectory

end Typings
