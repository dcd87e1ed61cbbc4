/-!
# Shortest Decimals

A binary floating point number stands for every real that rounds to it, and
among those the decimal with the fewest digits is the one to print: it reads
back as the same number, and no shorter decimal does.

Everything happens in exact arithmetic. The number is `4m` units of size
`2^(q-2)`; the reals that round to it lie between `4m - 2` units (`4m - 1`
just above a power of two, where the grid below is finer) and `4m + 2` units,
ends included when `m` is even. On each decimal grid, from one digit to
seventeen, only the number's two neighbours have to be tried: if any point of
a grid lies in the interval, one of the two does.

## Main definitions

* `Binary`: A finite floating point number as `m` times a power of two.
* `Binary.ofBits`: Its reading from the sixty-four bits of the format.
* `Scaled`: Digits with the position of the decimal point.
* `Binary.shortest`: The decimal with the fewest digits that reads back.
* `Scaled.render`: The text of a decimal.
* `floatText`: The text of a floating point number given by its bits.
-/

namespace Typings

namespace Decimal

/-- A finite floating point number without its sign: `mantissa * 2^exponent`,
    where `lowest` marks the bottom of a binade, below which the grid is twice
    as fine. -/
structure Binary where
  mantissa : Nat
  exponent : Int
  lowest : Bool

/-- Read mantissa and exponent from the bits of the format. -/
def Binary.ofBits (bits : UInt64) : Binary :=
  let n := bits.toNat
  let field : Nat := n / Nat.pow 2 52 % Nat.pow 2 11
  let fraction : Nat := n % Nat.pow 2 52
  if field = 0 then ⟨fraction, -1074, false⟩
  else ⟨fraction + Nat.pow 2 52, (field : Int) - 1075, fraction = 0 && field > 1⟩

/-- Whether the sign bit is set. -/
def isNegative (bits : UInt64) : Bool :=
  bits.toNat / Nat.pow 2 63 = 1

/-- How many decimal digits a number has. -/
def digitCount (n : Nat) : Nat :=
  (Nat.toDigits 10 n).length

/-- The position of a quotient's first digit: the greatest `e` with
    `10^e ≤ numerator / denominator`. -/
def leadingPosition (numerator denominator : Nat) : Int :=
  if denominator ≤ numerator then (digitCount (numerator / denominator) : Int) - 1
  else
    let reciprocal := (denominator + numerator - 1) / numerator
    if reciprocal ≤ 1 then 0 else -(digitCount (reciprocal - 1) : Int)

/-- Digits as a number, the last of them standing for a power of ten. -/
structure Scaled where
  digits : Nat
  exponent : Int

/-- The point of the decimal grid `10^position` that reads back as the number,
    if one does; of two, the nearer. -/
def Binary.onGrid? (x : Binary) (position : Int) : Option Scaled :=
  -- Everything is taken four times, since below a binade's bottom the half way
  -- to the next number is a quarter of the step.
  let decimalScale := Nat.pow 10 position.toNat * Nat.pow 2 (2 - x.exponent).toNat
  let binaryScale := Nat.pow 2 (x.exponent - 2).toNat * Nat.pow 10 (-position).toNat
  let value := 4 * x.mantissa * binaryScale
  let low := (4 * x.mantissa - (if x.lowest then 1 else 2)) * binaryScale
  let high := (4 * x.mantissa + 2) * binaryScale
  let isInside := fun (count : Nat) =>
    let point := count * decimalScale
    -- A point half way between two numbers reads back as the even one.
    if x.mantissa % 2 = 0 then low ≤ point && point ≤ high
    else low < point && point < high
  let below := value / decimalScale
  let above := below + 1
  match below > 0 && isInside below, isInside above with
  | true, true =>
    if value - below * decimalScale ≤ above * decimalScale - value then
      some ⟨below, position⟩
    else some ⟨above, position⟩
  | true, false => some ⟨below, position⟩
  | false, true => some ⟨above, position⟩
  | false, false => none

/-- Try ever finer grids: `count` more of them, the next at `position`. -/
def Binary.search (x : Binary) : Nat → Int → Scaled
  | 0, position => ⟨0, position⟩
  | count + 1, position =>
    match x.onGrid? position with
    | some d => d
    | none => x.search count (position - 1)

/-- The decimal with the fewest digits that reads back as the number. -/
def Binary.shortest (x : Binary) : Scaled :=
  let numerator := x.mantissa * Nat.pow 2 x.exponent.toNat
  let denominator := Nat.pow 2 (-x.exponent).toNat
  x.search 17 (leadingPosition numerator denominator)

/-- Where positional notation ends: the decimal point stands at most sixteen
    digits to the right of the first digit, and at most four zeros to its
    left. -/
def isPositional (point : Int) : Bool :=
  -5 < point && point ≤ 16

/-- Zeros at the end of a run of digits. -/
def dropZeros (digits : List Char) : List Char :=
  (digits.reverse.dropWhile (· = '0')).reverse

/-- The text of a decimal other than zero. There is at least one digit on
    either side of a decimal point; in scientific notation a whole number has
    none, and a positive exponent has its sign. -/
def Scaled.render (d : Scaled) : List Char :=
  let all := Nat.toDigits 10 d.digits
  let digits := dropZeros all
  let point := (all.length : Int) + d.exponent
  if isPositional point then
    if point ≤ 0 then
      ['0', '.'] ++ List.replicate (-point).toNat '0' ++ digits
    else if digits.length ≤ point.toNat then
      digits ++ List.replicate (point.toNat - digits.length) '0' ++ ['.', '0']
    else digits.take point.toNat ++ '.' :: digits.drop point.toNat
  else
    let fraction := match digits.drop 1 with
      | [] => []
      | rest => '.' :: rest
    let exponent := point - 1
    let sign := if exponent < 0 then '-' else '+'
    digits.take 1 ++ fraction ++ 'e' :: sign :: Nat.toDigits 10 exponent.natAbs

/-- The text of a finite floating point number given by its bits. -/
def floatText (bits : UInt64) : String :=
  let x := Binary.ofBits bits
  let sign := if isNegative bits then ['-'] else []
  if x.mantissa = 0 then String.ofList (sign ++ ['0', '.', '0'])
  else String.ofList (sign ++ x.shortest.render)

/-- The text of a natural number. -/
def natText (n : Nat) : String :=
  String.ofList (Nat.toDigits 10 n)

/-- The text of an integer. -/
def intText (i : Int) : String :=
  if i < 0 then "-" ++ natText i.natAbs else natText i.natAbs

end Decimal

end Typings
