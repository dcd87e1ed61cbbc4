import Typings.Api.Record
import Typings.Requirements

/-!
# Awaited Sources

A run starts only when it has a source for every endpoint, and sources may
come in any order. An endpoint that is listed more than once is awaited once,
a source that nobody asked for is dropped, and of several sources for one
endpoint the last counts. When all are there they come back in the order in
which their endpoints were listed.

## Main definitions

* `Pending`: The endpoints that are awaited, and what came so far.
* `Pending.deliver`: A source that came.
* `Pending.missing`: The endpoints that nothing came for.
* `Pending.handOut`: Sources in the order of their endpoints.
* `Pending.finish`: All sources, if nothing is missing.
-/

namespace Typings

/-- The endpoints that are awaited, each once, and the sources that came. -/
structure Pending where
  endpoints : List String
  delivered : Table Api.Source := Table.empty

namespace Pending

/-- Await the endpoints of a list. -/
def ofEndpoints (endpoints : List String) : Pending :=
  ⟨addAllNew [] endpoints, Table.empty⟩

/-- Take a source that came for an endpoint. -/
def deliver (p : Pending) (endpoint : String) (source : Api.Source) : Pending :=
  if p.endpoints.contains endpoint then
    { p with delivered := p.delivered.put endpoint source }
  else p

/-- Take sources one after the other. -/
def deliverAll (p : Pending) (sources : List (String × Api.Source)) : Pending :=
  sources.foldl (fun p s => p.deliver s.1 s.2) p

/-- The endpoints that nothing came for. -/
def missing (p : Pending) : List String :=
  p.endpoints.filter (!p.delivered.contains ·)

/-- Whether something came for every endpoint. -/
def isComplete (p : Pending) : Bool :=
  p.missing.isEmpty

/-- The sources of endpoints, in their order. A source is handed out once. -/
def handOut : List String → Table Api.Source → List Api.Source
  | [], _ => []
  | endpoint :: rest, sources =>
    match sources.get? endpoint with
    | some source => source :: handOut rest (sources.erase endpoint)
    | none => handOut rest sources

/-- The sources in the order of their endpoints, or the endpoints that nothing
    came for. -/
def finish (p : Pending) : Except (List String) (List Api.Source) :=
  if p.isComplete then .ok (handOut p.endpoints p.delivered) else .error p.missing

end Pending

end Typings
