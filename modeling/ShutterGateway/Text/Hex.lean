/-!
Hexadecimal text of numbers, in lower case.
-/

namespace ShutterGateway

/-- The lower-case hexadecimal digits of a number, without leading zeros. -/
def hexDigits (n : Nat) : String :=
  String.ofList (Nat.toDigits 16 n)

/-- The digits of a number behind zeros that bring them to at least `width`. -/
def zeroFilled (width : Nat) (digits : String) : String :=
  String.ofList (List.replicate (width - digits.length) '0') ++ digits

/-- A number as `0x` and at least `width` hexadecimal digits. -/
def hexLiteral (width n : Nat) : String :=
  "0x" ++ zeroFilled width (hexDigits n)

end ShutterGateway
