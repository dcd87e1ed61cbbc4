import Typings.Decimal.Shortest

/-!
# Data Values

The values of the data format in which sources and configurations are
written. Objects keep their members in source order. Numbers are of two
kinds: integers within sixty-four bits stay exact, and everything else is a
floating point number, kept as its bits so that two values can be compared
without asking the machine.

## Main definitions

* `Number`: An integer or the bits of a floating point number.
* `Value`: A data value.
-/

namespace Typings

namespace Json

/-- An integer of sixty-four bits, with or without a sign, or the bits of a
    floating point number. -/
inductive Number where
  | integer (i : Int)
  | float (bits : UInt64)
  deriving DecidableEq, Repr, Inhabited

/-- The text of a number. -/
def Number.text : Number → String
  | .integer i => Decimal.intText i
  | .float bits => Decimal.floatText bits

/-- A data value. -/
inductive Value where
  | null
  | bool (b : Bool)
  | number (n : Number)
  | string (s : String)
  | array (items : List Value)
  | object (members : List (String × Value))
  deriving Repr, Inhabited

namespace Value

/-- A natural number as a value. -/
def ofNat (n : Nat) : Value :=
  .number (.integer n)

/-- An optional value, `null` when absent. -/
def ofOption {α : Type} (write : α → Value) : Option α → Value
  | none => .null
  | some a => write a

/-- A list of values. -/
def ofList {α : Type} (write : α → Value) (items : List α) : Value :=
  .array (items.map write)

/-- The first member of a name; what is not an object has none. -/
def member? (name : String) : Value → Option Value
  | .object members => members.lookup name
  | _ => none

end Value

end Json

end Typings
