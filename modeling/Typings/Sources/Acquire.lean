import Typings.Api.Schema
import Typings.Sources.Cache
import Typings.Sources.Pending

/-!
# Acquiring Sources

Every endpoint has its source from the cache or by a fetch. The cache is
looked at first, for all endpoints in their order, and a kept text that cannot
be read or parsed ends the acquisition before anything is fetched. Then every
other endpoint is fetched once, even if one before it has failed, and what was
fetched is kept before it is parsed. The failure that counts is that of the
first endpoint that failed.

## Main definitions

* `AcquisitionError`: Why the sources are not complete.
* `Fetcher`: How the text of an endpoint is had.
* `Acquisition`: What an acquisition leaves behind.
* `acquire`: The sources of a list of endpoints.
-/

namespace Typings

/-- Why the sources are not complete. -/
inductive AcquisitionError where
  | fetch (endpoint : String)
  | cacheRead (path : String)
  | parse (endpoint : String) (error : Json.ReadError)
  | incomplete (missing : List String)

/-- The message of an error. -/
def AcquisitionError.message : AcquisitionError → String
  | .fetch endpoint => "failed to fetch " ++ endpoint
  | .cacheRead path => "failed to read cached source " ++ path
  | .parse endpoint _ => endpoint ++ " is not a valid symbol source"
  | .incomplete missing =>
    "no result for " ++ toString missing.length ++ " endpoint(s): " ++ Text.join ", " missing

/-- How the text of an endpoint is had, given the files as they are. -/
abbrev Fetcher := FileTree → String → Option String

/-- Endpoints as files below a directory. -/
def Fetcher.below (directory : String) : Fetcher := fun t endpoint =>
  (t.readText (Path.join directory endpoint)).toOption

/-- What an acquisition leaves behind: the files, the endpoints it fetched,
    and the sources or the reason why they are not complete. -/
structure Acquisition where
  tree : FileTree
  fetched : List String
  result : Except AcquisitionError (List Api.Source)

namespace Acquisition

/-- The source that the text of an endpoint spells. -/
def parse (endpoint text : String) : Except AcquisitionError (String × Api.Source) :=
  match Api.parseSource text with
  | .ok source => .ok (endpoint, source)
  | .error e => .error (.parse endpoint e)

/-- Whether the source of an endpoint is in the cache, if there is one. -/
def isKept (cache : Option Cache) (t : FileTree) (endpoint : String) : Bool :=
  cache.any (·.contains t endpoint)

/-- The source of an endpoint from the cache. -/
def readKept (cache : Cache) (t : FileTree) (endpoint : String) :
    Except AcquisitionError (String × Api.Source) :=
  match cache.read t endpoint with
  | .ok text => parse endpoint text
  | .error _ => .error (.cacheRead (cache.pathOf endpoint))

/-- The sources of the endpoints that are in the cache. -/
def readAllKept (cache : Option Cache) (t : FileTree) (endpoints : List String) :
    Except AcquisitionError (List (String × Api.Source)) :=
  match cache with
  | none => .ok []
  | some c => (endpoints.filter (c.contains t)).mapM (readKept c t)

/-- The endpoints that have to be fetched, each once. -/
def toFetch (cache : Option Cache) (t : FileTree) (endpoints : List String) : List String :=
  addAllNew [] (endpoints.filter (!isKept cache t ·))

/-- Fetch an endpoint, and keep its text if there is a cache. -/
def fetchOne (fetch : Fetcher) (cache : Option Cache) (t : FileTree) (endpoint : String) :
    FileTree × Except AcquisitionError (String × Api.Source) :=
  match fetch t endpoint with
  | none => (t, .error (.fetch endpoint))
  | some text =>
    let kept := match cache with
      | some c => c.keep t endpoint text
      | none => t
    (kept, parse endpoint text)

/-- Fetch endpoints one after the other, whether or not they fail. -/
def fetchAll (fetch : Fetcher) (cache : Option Cache) :
    FileTree → List String → FileTree × List (Except AcquisitionError (String × Api.Source))
  | t, [] => (t, [])
  | t, endpoint :: endpoints =>
    let (kept, result) := fetchOne fetch cache t endpoint
    let (last, results) := fetchAll fetch cache kept endpoints
    (last, result :: results)

/-- All sources, in the order of their endpoints. -/
def collect (endpoints : List String) (sources : List (String × Api.Source)) :
    Except AcquisitionError (List Api.Source) :=
  ((Pending.ofEndpoints endpoints).deliverAll sources).finish.mapError .incomplete

end Acquisition

open Acquisition in
/-- The sources of a list of endpoints. -/
def acquire (endpoints : List String) (fetch : Fetcher) (cache : Option Cache) (t : FileTree) :
    Acquisition :=
  match readAllKept cache t endpoints with
  | .error e => ⟨t, [], .error e⟩
  | .ok kept =>
    -- All that is missing is fetched and kept, also where one of them fails.
    let missing := toFetch cache t endpoints
    let (last, results) := fetchAll fetch cache t missing
    ⟨last, missing, do collect endpoints (kept ++ (← results.mapM id))⟩

end Typings
