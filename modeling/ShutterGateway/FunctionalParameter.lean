import ShutterGateway.Bytes.Basic

/-!
Indicators of functional parameters. Besides the main parameter, number zero, a node has sixteen
functional parameters. A request says which of them it sets by one bit each in a pair of bytes,
the most significant bit first: parameter one is the first bit of the first byte, parameter nine
the first bit of the second.
-/

namespace ShutterGateway

/-- The number of functional parameters besides the main parameter. -/
def functionalParameters : Nat := 16

/-- A pair of indicator bytes. -/
structure Indicators where
  first : UInt8
  second : UInt8
  deriving DecidableEq, Repr

namespace Indicators

/-- No indicator is set. -/
def none : Indicators := ⟨0, 0⟩

/-- The place of a parameter's indicator: the index of the byte and the bit's mask. Only the
parameters one to sixteen have a place. -/
def place? (parameter : UInt8) : Option (Nat × UInt8) :=
  if 1 ≤ parameter.toNat ∧ parameter.toNat ≤ functionalParameters then
    some ((parameter.toNat - 1) / 8, UInt8.ofNat (128 / Nat.pow 2 ((parameter.toNat - 1) % 8)))
  else
    Option.none

/-- Sets the indicator of a parameter. A parameter without one changes nothing. -/
def insert (indicators : Indicators) (parameter : UInt8) : Indicators :=
  match place? parameter with
  | some (0, mask) => { indicators with first := indicators.first ||| mask }
  | some (_, mask) => { indicators with second := indicators.second ||| mask }
  | Option.none => indicators

/-- Whether the indicator of a parameter is set. -/
def contains (indicators : Indicators) (parameter : UInt8) : Bool :=
  match place? parameter with
  | some (0, mask) => indicators.first &&& mask != 0
  | some (_, mask) => indicators.second &&& mask != 0
  | Option.none => false

/-- The indicators of a list of parameters. -/
def ofList (parameters : List UInt8) : Indicators :=
  parameters.foldl insert none

/-- The two bytes on the wire. -/
def bytes (indicators : Indicators) : Bytes :=
  [indicators.first, indicators.second]

end Indicators

end ShutterGateway
