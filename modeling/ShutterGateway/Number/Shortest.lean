import ShutterGateway.Number.Binary

/-!
The shortest decimal text of a double-precision number: of all decimal numbers that are read back
as the number it takes one with the fewest digits, and of those the nearest. The decimal numbers
that are read back are those halfway to the neighbours or nearer, the halfway points themselves
only when the mantissa is even.
-/

namespace ShutterGateway

/-- A decimal number: `digits * 10 ^ exponent`. -/
structure Decimal where
  digits : Nat
  exponent : Int
  deriving DecidableEq, Repr

namespace Decimal

/-- The range of numbers that are read back as a double-precision number, over the common
denominator `scale`. -/
structure Interval where
  low : Nat
  value : Nat
  high : Nat
  scale : Nat
  /-- Whether the two ends are read back as well. -/
  closed : Bool

/-- The interval of a number. Below a power of two the neighbour is half as far as above. -/
def Interval.ofBinary (binary : Binary) : Interval :=
  let below := if binary.mantissa = Nat.pow 2 52 ∧ -1074 < binary.exponent then 1 else 2
  let up := Nat.pow 2 binary.exponent.toNat
  { low := (4 * binary.mantissa - below) * up
    value := 4 * binary.mantissa * up
    high := (4 * binary.mantissa + 2) * up
    scale := 4 * binary.denominator
    closed := binary.mantissa % 2 = 0 }

/-- Whether `digits * 10 ^ exponent` lies in the interval. -/
def Interval.contains (interval : Interval) (digits : Nat) (exponent : Int) : Bool :=
  let point := digits * Nat.pow 10 exponent.toNat * interval.scale
  let down := Nat.pow 10 (-exponent).toNat
  if interval.closed then interval.low * down ≤ point && point ≤ interval.high * down
  else interval.low * down < point && point < interval.high * down

/-- The digits nearest to the interval's number on the grid of multiples of a power of ten, if they
lie in the interval. Of two that are equally near it takes the larger. -/
def Interval.onGrid? (interval : Interval) (exponent : Int) : Option Decimal :=
  let numerator := interval.value * Nat.pow 10 (-exponent).toNat
  let denominator := interval.scale * Nat.pow 10 exponent.toNat
  let below := numerator / denominator
  let nearest := (2 * numerator + denominator) / (2 * denominator)
  let other := if nearest = below then below + 1 else below
  if interval.contains nearest exponent then some ⟨nearest, exponent⟩
  else if interval.contains other exponent then some ⟨other, exponent⟩
  else none

/-- Tries the grids from a power of ten downwards. -/
def Interval.coarsest (interval : Interval) (exponent : Int) : Nat → Decimal
  | 0 => ⟨0, 0⟩
  | steps + 1 =>
    match interval.onGrid? exponent with
    | some decimal => if decimal.digits = 0 then interval.coarsest (exponent - 1) steps else decimal
    | none => interval.coarsest (exponent - 1) steps

/-- The shortest decimal number that is read back as a number other than zero. -/
def shortest (binary : Binary) : Decimal :=
  (Interval.ofBinary binary).coarsest 310 640

/-- The decimal digits of a number, and how many of them stand in front of the point. -/
def placed (decimal : Decimal) : List Char × Int :=
  let digits := Nat.toDigits 10 decimal.digits
  let kept := (digits.reverse.dropWhile (· = '0')).reverse
  (kept, digits.length + decimal.exponent)

end Decimal

/-- How the text of a number is laid out. -/
structure FloatLayout where
  /-- The least power of ten that is written without an exponent. -/
  smallest : Int
  /-- The least power of ten that is written with an exponent again. -/
  largest : Int

namespace FloatLayout

/-- Digits with a point among them, and a zero where a side would be empty. -/
def positional (digits : List Char) (point : Int) : String :=
  let whole :=
    if point ≤ 0 then ['0']
    else digits.take point.toNat ++ List.replicate (point.toNat - digits.length) '0'
  let fraction :=
    if point ≤ 0 then List.replicate (-point).toNat '0' ++ digits else digits.drop point.toNat
  String.ofList (whole ++ '.' :: (if fraction = [] then ['0'] else fraction))

/-- Digits with a point behind the first, and a power of ten. -/
def scientific (digits : List Char) (point : Int) : String :=
  let fraction := if digits.length ≤ 1 then [] else '.' :: digits.drop 1
  String.ofList (digits.take 1 ++ fraction) ++ "e" ++ toString (point - 1)

/-- The text of a number. -/
def text (layout : FloatLayout) (x : Float) : String :=
  match Binary.ofFloat? x with
  | none => if x.isNaN then "NaN" else if Binary.isNegative x then "-inf" else "inf"
  | some binary =>
    let sign := if Binary.isNegative x then "-" else ""
    if binary.mantissa = 0 then sign ++ "0.0"
    else
      let (digits, point) := (Decimal.shortest binary).placed
      if layout.smallest < point ∧ point ≤ layout.largest then sign ++ positional digits point
      else sign ++ scientific digits point

end FloatLayout

end ShutterGateway
