import Typings.Config
import Typings.FileTree

/-!
# The Cache

Sources that were fetched once are kept in a directory, one file for each
endpoint, under a name without directories. Endpoints that differ only in
slashes and dots therefore share a file.

A cache that cannot be written is no failure. It only costs the next run a
fetch.

## Main definitions

* `Cache`: A directory of sources.
* `Cache.contains`, `Cache.read`: What is kept for an endpoint.
* `Cache.keep`: The text of an endpoint kept.
-/

namespace Typings

/-- A directory in which the texts of endpoints are kept. -/
structure Cache where
  directory : String
  deriving DecidableEq, Repr

namespace Cache

/-- The file for an endpoint. -/
def pathOf (c : Cache) (endpoint : String) : String :=
  Path.join c.directory (cacheFileName endpoint)

/-- Whether there is a file for an endpoint. -/
def contains (c : Cache) (t : FileTree) (endpoint : String) : Bool :=
  t.isFile (c.pathOf endpoint)

/-- The text kept for an endpoint. -/
def read (c : Cache) (t : FileTree) (endpoint : String) : Except FileFault String :=
  t.readText (c.pathOf endpoint)

/-- Keep the text of an endpoint, if that can be done. -/
def keep (c : Cache) (t : FileTree) (endpoint text : String) : FileTree :=
  match t.createDirs c.directory with
  | (made, some _) => made
  | (made, none) =>
    match made.write (c.pathOf endpoint) text.toUTF8 with
    | .ok kept => kept
    | .error _ => made

end Cache

end Typings
