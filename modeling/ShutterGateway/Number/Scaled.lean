import ShutterGateway.Json.Basic

/-!
The double-precision number that a written number means. The digits are taken as a whole number of
64 bits, as far as they fit; digits of the whole part that no longer fit still raise the power of
ten, and digits of the fraction that no longer fit are dropped. The whole number is converted and
then scaled by one power of ten, so that two roundings take place and the result can miss the
nearest number by the last bit. A number that is too large has no meaning, one that is too small
is zero.
-/

namespace ShutterGateway.Numeral

/-- Whether another digit fits. -/
def fits (significand digit : Nat) : Bool :=
  significand * 10 + digit < UInt64.size

/-- Takes the digits of the whole part: the significand, and the number of digits left out. -/
def takeWhole (significand : Nat) : List Char → Nat × Nat
  | [] => (significand, 0)
  | c :: rest =>
    let digit := digitsValue [c]
    if fits significand digit then takeWhole (significand * 10 + digit) rest
    else (significand, rest.length + 1)

/-- Takes the digits of the fraction: the significand, and the number of digits taken. -/
def takeFraction (significand taken : Nat) : List Char → Nat × Nat
  | [] => (significand, taken)
  | c :: rest =>
    let digit := digitsValue [c]
    if fits significand digit then takeFraction (significand * 10 + digit) (taken + 1) rest
    else (significand, taken)

/-- The largest power of ten that is a double-precision number. -/
def maxPower : Nat := 308

/-- The double-precision number nearest to a power of ten. -/
def powerOfTen (exponent : Nat) : Float :=
  Float.ofScientific 1 false exponent

/-- A number times a power of ten. A power that is out of range is divided out in steps; after
`fuel` of them nothing is left of a number. -/
def scale : Nat → Float → Int → Option Float
  | 0, x, _ => some x
  | fuel + 1, x, exponent =>
    if exponent.natAbs ≤ maxPower then
      if 0 ≤ exponent then
        let scaled := x * powerOfTen exponent.natAbs
        if scaled.isInf then none else some scaled
      else some (x / powerOfTen exponent.natAbs)
    else if x == 0 then some x
    else if 0 ≤ exponent then none
    else scale fuel (x / powerOfTen maxPower) (exponent + maxPower)

/-- The double-precision number that a written number means. -/
def toFloat? (numeral : Numeral) : Option Float :=
  let (significand, left) := takeWhole 0 numeral.whole
  let (significand, taken) := takeFraction significand 0 numeral.fraction
  let written : Int :=
    match numeral.exponent? with
    | none => 0
    | some (negative, digits) =>
      if negative then -(digitsValue digits : Nat) else digitsValue digits
  (scale 4 (UInt64.ofNat significand).toFloat (left - taken + written)).map fun x =>
    if numeral.negative then -x else x

end ShutterGateway.Numeral
