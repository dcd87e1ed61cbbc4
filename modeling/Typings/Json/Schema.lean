import Typings.Json.Printer
import Typings.Json.Reader
import Typings.Table
import Typings.Text.Blank
import Typings.Text.Case
import Typings.Text.Quoted
import Typings.Text.Split

/-!
# Schemas

A record type is described once, by its fields: a field has a name, a way to
be read into a record and a way to be written from one. Reading and writing
are both derived from that description, so they cannot disagree about a name
or its order.

A record may be written as an object or as an array of its fields in order,
where trailing fields that have a default may be left out. Objects may hold
fields the record does not know, which are passed over, but no known field
twice. A field that is missing is reported when the object ends, the first in
the order of the description.

## Main definitions

* `Mismatch`: A sound text that is not what was asked for.
* `ReadError`: A broken text or a mismatch.
* `Codec`: How a type is read and written.
* `Field`, `Record`: The description of a record type.
* `Field.read`, `Field.write`: A field of a record, read and written.
* `Record.codec`: A record type's codec.
* `Codec.parse`: Reading a whole text.
-/

namespace Typings

namespace Json

/-- A sound text that is not what was asked for. -/
inductive Mismatch where
  | missingField (name : String)
  | duplicateField (name : String)
  | unknownVariant (name : String) (known : List String)
  | wrongType (found : Found) (expected : String)
  | tooShort (length : Nat) (record : String) (fields : Nat)
  | noVariant (union : String)
  | notBoolean (text : String)
  deriving DecidableEq, Repr

/-- Why a text could not be read. -/
inductive ReadError where
  | fault (fault : Fault)
  | mismatch (mismatch : Mismatch)
  deriving DecidableEq, Repr

/-- How a message names a value. -/
def Found.describe : Found → String
  | .null => "null"
  | .bool b => "boolean \x60" ++ boolText b ++ "\x60"
  | .number (.integer i) => "integer \x60" ++ Decimal.intText i ++ "\x60"
  | .number (.float bits) => "floating point \x60" ++ Decimal.floatText bits ++ "\x60"
  | .string s => "string " ++ Text.quoted s
  | .sequence => "sequence"
  | .map => "map"

/-- A name between backquotes. -/
def backquoted (name : String) : String :=
  "\x60" ++ name ++ "\x60"

/-- The message of a mismatch. -/
def Mismatch.message : Mismatch → String
  | .missingField name => "missing field " ++ backquoted name
  | .duplicateField name => "duplicate field " ++ backquoted name
  | .unknownVariant name known =>
    "unknown variant " ++ backquoted name ++ ", expected one of " ++
      Text.join ", " (known.map backquoted)
  | .wrongType found expected => "invalid type: " ++ found.describe ++ ", expected " ++ expected
  | .tooShort length record fields =>
    "invalid length " ++ Decimal.natText length ++ ", expected struct " ++ record ++ " with " ++
      Decimal.natText fields ++ " elements"
  | .noVariant union => "data did not match any variant of untagged enum " ++ union
  | .notBoolean text =>
    "invalid boolean value: '" ++ text ++ "'. Expected true, false, 'true', or 'false'"

/-- A finding of the text, as a finding of the schema. -/
def orFault {α : Type} : Except Fault α → Except ReadError α
  | .ok a => .ok a
  | .error fault => .error (.fault fault)

/-- Stop at a sound value that does not match. -/
def mismatch {α : Type} (m : Mismatch) : Except ReadError α :=
  .error (.mismatch m)

/-- Stop at a value of the wrong type, which is read first if it is a scalar. -/
def Node.wrongType {α : Type} (node : Node) (expected : String) : Except ReadError α := do
  let found ← orFault node.found
  mismatch (.wrongType found expected)

/-- Pass over a value. -/
def Node.pass (node : Node) : Except ReadError Unit :=
  match node.skip with
  | none => .ok ()
  | some fault => .error (.fault fault)

/-- How a type is read from a node with so many levels left, and how it is
    written. -/
structure Codec (α : Type) where
  read : Nat → Node → Except ReadError α
  write : α → Value

namespace Codec

variable {α : Type}

/-- A string. -/
def text : Codec String where
  read _ node := match node with
    | .string read _ => orFault read
    | node => node.wrongType "a string"
  write := .string

/-- A truth value. -/
def flag : Codec Bool where
  read _ node := match node with
    | .word (.ok (.bool b)) => .ok b
    | node => node.wrongType "a boolean"
  write := .bool

/-- Any value at all. -/
def free : Codec Value where
  read depth node := orFault (node.value depth)
  write := id

/-- A value that may be absent, written as null. -/
def optional (codec : Codec α) : Codec (Option α) where
  read depth node := match node with
    | .word (.ok .null) => .ok none
    | node => (codec.read depth node).map some
  write := Value.ofOption codec.write

/-- Read items one after the other. -/
def readItems (codec : Codec α) (depth : Nat) : List Node → Except ReadError (List α)
  | [] => .ok []
  | item :: items => do
    let a ← codec.read depth item
    let rest ← codec.readItems depth items
    return a :: rest

/-- A sequence. -/
def list (codec : Codec α) : Codec (List α) where
  read depth node := match node with
    | .array items ending => do
      let depth ← orFault (Node.enter depth)
      let values ← codec.readItems depth items
      orFault (Node.close ending)
      return values
    | node => node.wrongType "a sequence"
  write := Value.ofList codec.write

/-- Read members one after the other into a table. -/
def readMembers (codec : Codec α) (depth : Nat) (done : Table α) :
    List (Key × Node) → Except ReadError (Table α)
  | [] => .ok done
  | (key, node) :: members => do
    let name ← orFault (Node.keyName key)
    let a ← codec.read depth node
    codec.readMembers depth (done.put name a) members

/-- A map from names. -/
def table (codec : Codec α) : Codec (Table α) where
  read depth node := match node with
    | .object members ending => do
      let depth ← orFault (Node.enter depth)
      let entries ← codec.readMembers depth Table.empty members
      orFault (Node.close ending)
      return entries
    | node => node.wrongType "a map"
  write t := .object (t.entries.map fun entry => (entry.1, codec.write entry.2))

/-- The value that a variant's name stands for. -/
def variant (known : List String) (named? : String → Option α) (name : String) :
    Except ReadError α :=
  match named? name with
  | some a => .ok a
  | none => mismatch (.unknownVariant name known)

/-- The name of a variant, where it stands as a member's name. -/
def variantKey (key : Key) : Except ReadError String :=
  match key with
  | .text read => orFault read
  | .bare read => do
    let found ← orFault read
    mismatch (.wrongType found "variant identifier")

/-- One of several named values: a string, or an object whose only member has
    the value's name and no content. No other value is even read. -/
def choice (known : List String) (named? : String → Option α) (name : α → String) :
    Codec α where
  read depth node := match node with
    | .string read _ => do variant known named? (← orFault read)
    | .object members ending => do
      let _ ← orFault (Node.enter depth)
      match members with
      | [] => .error (.fault (ending.getD .malformed))
      | (key, content) :: others =>
        let a ← variant known named? (← variantKey key)
        match content with
        | .word (.ok .null) =>
          if others.isEmpty then
            orFault (Node.close ending)
            return a
          else .error (.fault .malformed)
        | content => content.wrongType "unit"
    | .absent fault => .error (.fault fault)
    | _ => .error (.fault .malformed)
  write a := .string (name a)

/-- A truth value that may also be spelled as a word; null is false. -/
def looseFlag : Codec Bool where
  read depth node := match node with
    | .word (.ok .null) => .ok false
    | node => do
      let value ← orFault (node.value depth)
      match value with
      | .bool b => .ok b
      | .string s =>
        let word := Text.settingWord s
        if word ∈ ["true", "1", "yes", "on"] then .ok true
        else if word ∈ ["false", "0", "no", "off"] then .ok false
        else mismatch (.notBoolean s)
      | _ => mismatch (.noVariant "BoolOrString")
  write := .bool

end Codec

/-- A field of a record: the part of the record that it is about, how that part
    is read and written, and how it is taken out of a record and put into one. -/
structure Field (ρ : Type) where
  name : String
  isRequired : Bool
  Part : Type
  codec : Codec Part
  get : ρ → Part
  set : ρ → Part → ρ

namespace Field

variable {ρ α : Type}

/-- Read a field into a record that has the values of the fields before it. -/
def read (field : Field ρ) (depth : Nat) (node : Node) (record : ρ) : Except ReadError ρ :=
  (field.codec.read depth node).map (field.set record)

/-- Write a field of a record. -/
def write (field : Field ρ) (record : ρ) : Value :=
  field.codec.write (field.get record)

/-- A field with a codec, of which the record has a default. -/
def withDefault (name : String) (codec : Codec α) (get : ρ → α) (set : ρ → α → ρ) :
    Field ρ where
  name := name
  isRequired := false
  Part := α
  codec := codec
  get := get
  set := set

/-- A field with a codec that has to be there. -/
def required (name : String) (codec : Codec α) (get : ρ → α) (set : ρ → α → ρ) : Field ρ :=
  { withDefault name codec get set with isRequired := true }

end Field

/-- A record type: its name in messages, the record whose fields all have
    their defaults, and the fields in order. -/
structure Record (ρ : Type) where
  name : String
  blank : ρ
  fields : List (Field ρ)

namespace Record

variable {ρ : Type}

/-- Read the members of an object into a record. `seen` holds the names of the
    fields already read. -/
def readMembers (r : Record ρ) (depth : Nat) (seen : List String) (record : ρ) :
    List (Key × Node) → Except ReadError (List String × ρ)
  | [] => .ok (seen, record)
  | (key, node) :: members => do
    let name ← orFault (Node.keyName key)
    match r.fields.find? (·.name = name) with
    | none =>
      node.pass
      r.readMembers depth seen record members
    | some field =>
      if name ∈ seen then mismatch (.duplicateField name)
      else
        let record ← field.read depth node record
        r.readMembers depth (name :: seen) record members

/-- Read the items of an array into a record, one for each field. -/
def readItems (r : Record ρ) (depth : Nat) (ending : Option Fault) (record : ρ) :
    List (Field ρ) → List Node → Except ReadError ρ
  | [], [] => do
    orFault (Node.close ending)
    return record
  | [], _ :: _ => .error (.fault .malformed)
  | field :: fields, item :: items => do
    let record ← field.read depth item record
    r.readItems depth ending record fields items
  | field :: fields, [] => do
    orFault (Node.close ending)
    if (field :: fields).any (·.isRequired) then
      let read := (field :: fields).takeWhile fun f => !f.isRequired
      mismatch (.tooShort (r.fields.length - (fields.length + 1) + read.length) r.name
        r.fields.length)
    else return record

/-- The codec of a record type. -/
def codec (r : Record ρ) : Codec ρ where
  read depth node := match node with
    | .object members ending => do
      let depth ← orFault (Node.enter depth)
      let (seen, record) ← r.readMembers depth [] r.blank members
      orFault (Node.close ending)
      match r.fields.find? (fun field => field.isRequired && field.name ∉ seen) with
      | some field => mismatch (.missingField field.name)
      | none => return record
    | .array items ending => do
      let depth ← orFault (Node.enter depth)
      r.readItems depth ending r.blank r.fields items
    | node => node.wrongType ("struct " ++ r.name)
  write record := .object (r.fields.map fun field => (field.name, field.write record))

end Record

/-- Read a whole text. Behind the value nothing but blanks may stand. -/
def Codec.parse {α : Type} (codec : Codec α) (text : String) : Except ReadError α := do
  let document := Document.ofText text
  let a ← codec.read Node.depthLimit document.root
  orFault (Node.close document.rest)
  return a

end Json

end Typings
