import Typings.Json.Value

/-!
# Documents with Their Damage

A text is read in one pass into a tree that also says where the text is
broken and what is wrong there. A schema then walks that tree from left to
right and reports the first thing it objects to, be it a break in the text or
a value of the wrong type; nothing that comes later can change the report.

One break is seen differently by two kinds of walker. A walker that wants a
value reads it strictly: numbers have to be in range and escapes have to name
characters. A walker that passes over a value it has no use for only needs to
find its end. A scalar therefore carries both findings. The text goes on for
as long as the lenient walker would go on, because the strict one has stopped
at the same place or before.

## Main definitions

* `Fault`: The two ways in which a text can be broken.
* `Found`: What kind of value stands where another was expected.
* `Key`: What stands where a member's name is expected.
* `Node`: A value with its damage.
* `Node.skip`: What a walker meets that passes over the value.
* `Node.found`: What a walker meets that expected something else.
* `Node.value`: The value itself, read strictly.
-/

namespace Typings

namespace Json

/-- The two ways in which a text can be broken: it ends too early, or
    something stands in it that cannot stand there. -/
inductive Fault where
  | unexpectedEnd
  | malformed
  deriving DecidableEq, Repr

/-- What kind of value stands where another was expected. Containers are
    recognised by their bracket and not read. -/
inductive Found where
  | null
  | bool (b : Bool)
  | number (n : Number)
  | string (s : String)
  | sequence
  | map
  deriving DecidableEq, Repr

/-- What stands where a member's name is expected. `bare` is any beginning of
    a value other than a quote. -/
inductive Key where
  | text (read : Except Fault String)
  | bare (read : Except Fault Found)

/-- A value with its damage. For scalars `read` is what a strict walker finds
    and `skip` what stops a lenient one. The `ending` of a container is what
    stops a lenient walker inside or behind it; no item or member follows a
    broken one. -/
inductive Node where
  | absent (fault : Fault)
  | word (read : Except Fault Found)
  | number (read : Except Fault Number) (skip : Option Fault)
  | string (read : Except Fault String) (skip : Option Fault)
  | array (items : List Node) (ending : Option Fault)
  | object (members : List (Key × Node)) (ending : Option Fault)

namespace Node

/-- What stops a walker that passes over the value. -/
def skip : Node → Option Fault
  | .absent fault => some fault
  | .word (.ok _) => none
  | .word (.error fault) => some fault
  | .number _ skip => skip
  | .string _ skip => skip
  | .array _ ending => ending
  | .object _ ending => ending

/-- What a walker meets that expected something else: scalars are read before
    they are refused. -/
def found : Node → Except Fault Found
  | .absent fault => .error fault
  | .word read => read
  | .number read _ => read.map .number
  | .string read _ => read.map .string
  | .array _ _ => .ok .sequence
  | .object _ _ => .ok .map

/-- How deep arrays and objects may be nested, counting the next one as one
    too many. -/
def depthLimit : Nat := 128

/-- Step into a container. The last level of the limit cannot be entered. -/
def enter (depth : Nat) : Except Fault Nat :=
  if depth ≤ 1 then .error .malformed else .ok (depth - 1)

/-- The name of a member of a map, which has to be a string. -/
def keyName : Key → Except Fault String
  | .text read => read
  | .bare _ => .error .malformed

/-- Behind the last item or member a container has to be closed. -/
def close : Option Fault → Except Fault Unit
  | none => .ok ()
  | some fault => .error fault

/-- Give a name a value among members, keeping the place of a repeated name. -/
def putMember (members : List (String × Value)) (name : String) (value : Value) :
    List (String × Value) :=
  if members.any fun m => m.1 = name then
    members.map fun m => if m.1 = name then (name, value) else m
  else members ++ [(name, value)]

mutual

/-- The value itself, read strictly, with `depth` levels left. -/
def value (depth : Nat) : Node → Except Fault Value
  | .absent fault => .error fault
  | .word read => read.map fun
    | .bool b => .bool b
    | _ => .null
  | .number read _ => read.map .number
  | .string read _ => read.map .string
  | .array items ending => do
    let depth ← enter depth
    let values ← itemValues depth items
    close ending
    return .array values
  | .object members ending => do
    let depth ← enter depth
    let values ← memberValues depth [] members
    close ending
    return .object values

/-- The items of an array, in order. -/
def itemValues (depth : Nat) : List Node → Except Fault (List Value)
  | [] => .ok []
  | item :: items => do
    let v ← value depth item
    let vs ← itemValues depth items
    return v :: vs

/-- The members of an object, put one after the other behind those already
    there. -/
def memberValues (depth : Nat) (done : List (String × Value)) :
    List (Key × Node) → Except Fault (List (String × Value))
  | [] => .ok done
  | (key, node) :: members => do
    let name ← keyName key
    let v ← value depth node
    memberValues depth (putMember done name v) members

end

end Node

/-- A whole text: its value, and what stands behind it. -/
structure Document where
  root : Node
  rest : Option Fault

end Json

end Typings
