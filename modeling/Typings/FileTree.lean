import Typings.Path
import Typings.Text.Order

/-!
# Trees of Files

Directories and the files in them. A path is followed part by part from the
root, and every part but the last has to lead to a directory. An operation
that fails says why, in the words of the systems that such trees are kept on.

What a failing operation has done to the tree before it failed is not undone:
making a directory with all those above it may have made some of them.

## Main definitions

* `FileFault`: Why an operation on files failed.
* `FileTree`: What is at which place.
* `FileTree.locate`: The place that a path leads to.
* `FileTree.readBytes`, `FileTree.readText`: The content of a file.
* `FileTree.write`: A file given a content.
* `FileTree.createDirs`: A directory made with all those above it.
* `FileTree.changesFrom`: What makes a tree differ from another.
-/

namespace Typings

/-- Why an operation on files failed. -/
inductive FileFault where
  | notFound
  | alreadyExists
  | notDirectory
  | isDirectory
  | nameTooLong
  | zeroInName
  | notText
  deriving DecidableEq, Repr, Inhabited

/-- The message of a failure. -/
def FileFault.message : FileFault → String
  | .notFound => "No such file or directory (os error 2)"
  | .alreadyExists => "File exists (os error 17)"
  | .notDirectory => "Not a directory (os error 20)"
  | .isDirectory => "Is a directory (os error 21)"
  | .nameTooLong => "File name too long (os error 36)"
  | .zeroInName => "file name contained an unexpected NUL byte"
  | .notText => "stream did not contain valid UTF-8"

/-- The names that lead from the root to a file or a directory. -/
abbrev Place := List String

/-- What is at a place. -/
inductive Entry where
  | file (content : ByteArray)
  | directory

/-- Whether something is a directory. -/
def Entry.isDirectory : Entry → Bool
  | .file _ => false
  | .directory => true

/-- Whether something is a file with a certain content. -/
def Entry.isFileOf (content : ByteArray) : Entry → Bool
  | .file c => c.data = content.data
  | .directory => false

/-- What is at which place. The root is always a directory, and is not among
    the entries. -/
structure FileTree where
  entries : List (Place × Entry) := []

namespace FileTree

/-- The tree without files. -/
def empty : FileTree := {}

instance : Inhabited FileTree := ⟨empty⟩

/-- What is at a place. -/
def get? (t : FileTree) (place : Place) : Option Entry :=
  if place.isEmpty then some .directory else t.entries.lookup place

/-- Put something at a place, instead of what is there. -/
def put (t : FileTree) (place : Place) (entry : Entry) : FileTree :=
  if (t.entries.lookup place).isSome then
    ⟨t.entries.map fun e => if e.1 = place then (place, entry) else e⟩
  else ⟨t.entries ++ [(place, entry)]⟩

/-- Take away what is at a place, with everything below it. -/
def remove (t : FileTree) (place : Place) : FileTree :=
  ⟨t.entries.filter fun e => !place.isPrefixOf e.1⟩

/-- The names in a directory, in order. -/
def names (t : FileTree) (place : Place) : List String :=
  Text.sort (t.entries.filterMap fun e =>
    if e.1.dropLast = place then e.1.getLast? else none)

/-- All files with their contents. -/
def files (t : FileTree) : List (Place × ByteArray) :=
  t.entries.filterMap fun e =>
    match e.2 with
    | .file content => some (e.1, content)
    | .directory => none

/-- The files of a tree that are new, or that another tree has with a
    different content. -/
def changesFrom (new old : FileTree) : List (Place × ByteArray) :=
  new.files.filter fun f => !(old.get? f.1).any (Entry.isFileOf f.2)

/-- The longest name, in bytes. -/
def maxName : Nat := 255

/-- The longest path, in bytes. -/
def maxPath : Nat := 4095

/-- The place that parts lead to from a place. -/
def follow (t : FileTree) (place : Place) : List String → Except FileFault Place
  | [] => .ok place
  | part :: parts =>
    match t.get? place with
    | none => .error .notFound
    | some (.file _) => .error .notDirectory
    | some .directory =>
      if Path.isIdle part then t.follow place parts
      else if part = ".." then t.follow place.dropLast parts
      else if maxName < part.utf8ByteSize then .error .nameTooLong
      else t.follow (place ++ [part]) parts

/-- The place that a path leads to, where there need not be anything. -/
def locate (t : FileTree) (path : String) : Except FileFault Place :=
  if path.toList.contains '\x00' then .error .zeroInName
  else if path.isEmpty then .error .notFound
  else if maxPath < path.utf8ByteSize then .error .nameTooLong
  else t.follow [] (Path.parts path)

/-- What a path leads to. -/
def entryAt? (t : FileTree) (path : String) : Option Entry :=
  match t.locate path with
  | .ok place => t.get? place
  | .error _ => none

/-- Whether a path leads to a file. -/
def isFile (t : FileTree) (path : String) : Bool :=
  (t.entryAt? path).any (!·.isDirectory)

/-- Whether a path leads to a directory. -/
def isDir (t : FileTree) (path : String) : Bool :=
  (t.entryAt? path).any Entry.isDirectory

/-- The content of a file. -/
def readBytes (t : FileTree) (path : String) : Except FileFault ByteArray := do
  match t.get? (← t.locate path) with
  | none => throw .notFound
  | some .directory => throw .isDirectory
  | some (.file content) => return content

/-- The text of a file. -/
def readText (t : FileTree) (path : String) : Except FileFault String := do
  match String.fromUTF8? (← t.readBytes path) with
  | some text => return text
  | none => throw .notText

/-- Give a file a content, making it if there is none. -/
def write (t : FileTree) (path : String) (content : ByteArray) : Except FileFault FileTree := do
  let place ← t.locate path
  if (t.get? place).any Entry.isDirectory then throw .isDirectory
  return t.put place (.file content)

/-- Give a file the content of another. A file is emptied before it is
    written, so one that is copied onto itself loses its content. -/
def copy (t : FileTree) (source path : String) : Except FileFault FileTree := do
  let content ← t.readBytes source
  let emptied ← t.write path ByteArray.empty
  if (← t.locate source) = (← t.locate path) then return emptied
  emptied.write path content

/-- Make a directory, if there is nothing in its place. A separator behind the
    name changes nothing. -/
def createDir (t : FileTree) (path : String) : Except FileFault FileTree := do
  let trimmed := ((Path.parts path).reverse.dropWhile (·.isEmpty)).reverse
  let place ← if trimmed.isEmpty then t.locate path else t.locate (Text.join "/" trimmed)
  if (t.get? place).isSome then throw .alreadyExists
  return t.put place .directory

/-- Make the first of some directories, which lie above one another, and those
    above it that are missing. -/
def createFrom (t : FileTree) : List String → FileTree × Option FileFault
  | [] => (t, none)
  | path :: above =>
    match t.createDir path with
    | .ok made => (made, none)
    | .error .notFound =>
      match t.createFrom above with
      | (made, some fault) => (made, some fault)
      | (made, none) =>
        -- With everything above it made, the directory is tried once more.
        match made.createDir path with
        | .ok finished => (finished, none)
        | .error fault => (made, if made.isDir path then none else some fault)
    | .error fault => (t, if t.isDir path then none else some fault)

/-- Make a directory and those above it, as far as they are missing. -/
def createDirs (t : FileTree) (path : String) : FileTree × Option FileFault :=
  t.createFrom ((path :: Path.parents path).filter (!·.isEmpty))

end FileTree

end Typings
