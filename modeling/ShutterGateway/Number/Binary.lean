/-!
Double-precision numbers as fractions. A finite number is a whole number times a power of two;
with that, rounding to a multiple of something is arithmetic on natural numbers.
-/

namespace ShutterGateway

/-- A finite double-precision number without its sign: `mantissa * 2 ^ exponent`. -/
structure Binary where
  mantissa : Nat
  exponent : Int
  deriving DecidableEq, Repr

namespace Binary

/-- The fraction of a double-precision number, if it is finite. -/
def ofFloat? (x : Float) : Option Binary :=
  let bits := x.toBits.toNat
  let field : Nat := bits / Nat.pow 2 52 % 2048
  let fraction : Nat := bits % Nat.pow 2 52
  if field = 2047 then none
  else if field = 0 then some ⟨fraction, -1074⟩
  else some ⟨Nat.pow 2 52 + fraction, Int.ofNat field - 1075⟩

/-- Whether a double-precision number has a minus sign. -/
def isNegative (x : Float) : Bool :=
  x.toBits.toNat / Nat.pow 2 63 = 1

/-- The numerator of the number. -/
def numerator (binary : Binary) : Nat :=
  binary.mantissa * Nat.pow 2 binary.exponent.toNat

/-- The denominator of the number. -/
def denominator (binary : Binary) : Nat :=
  Nat.pow 2 (-binary.exponent).toNat

end Binary

/-- The whole number nearest to a quotient. Of two that are equally near it is the even one. -/
def roundQuotient (numerator denominator : Nat) : Nat :=
  if 2 * (numerator % denominator) < denominator
      ∨ (2 * (numerator % denominator) = denominator ∧ numerator / denominator % 2 = 0) then
    numerator / denominator
  else numerator / denominator + 1

end ShutterGateway
