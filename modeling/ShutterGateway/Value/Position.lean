import ShutterGateway.Text.Hex

/-!
Positions of a node, as the gateway counts them. Numbers up to `0xc800` are relative: zero is
fully closed and `0xc800` is fully open. Two ranges above say that the position is not
known. Every other number is a control value, such as "stay where you are", and not a position.
-/

namespace ShutterGateway

/-- A position or control value in the gateway's sixteen-bit scale. -/
structure Position where
  raw : UInt16
  deriving DecidableEq, Repr, Inhabited

namespace Position

/-- The largest relative position, one hundred percent open. -/
def maxRaw : Nat := 0xc800

/-- The steps of the scale in one percent. -/
def step : Nat := maxRaw / 100

/-- The control value that leaves a parameter untouched. -/
def ignore : Position := ⟨0xd400⟩

/-- The position that is so many percent open, one hundred at most. -/
def ofPercentOpen (percent : UInt8) : Position :=
  ⟨UInt16.ofNat (min percent.toNat 100 * step)⟩

/-- The position that is so many percent closed, one hundred at most. -/
def ofPercentClosed (percent : UInt8) : Position :=
  ofPercentOpen (UInt8.ofNat (100 - min percent.toNat 100))

/-- Whether the number says that the position is not known. -/
def isUnknown (position : Position) : Bool :=
  (0xd100 ≤ position.raw && position.raw ≤ 0xd1ff) || position.raw == 0xf7ff

/-- Whether the number is a relative position. -/
def isRelative (position : Position) : Bool :=
  position.raw.toNat ≤ maxRaw

/-- The percentage open, rounded down. Only a relative position has one. -/
def percentOpen? (position : Position) : Option Nat :=
  if position.isRelative then some (position.raw.toNat * 100 / maxRaw) else none

/-- The percentage closed: what the percentage open leaves of one hundred. -/
def percentClosed? (position : Position) : Option Nat :=
  position.percentOpen?.map (100 - ·)

/-- The wording of a position. -/
def text (position : Position) : String :=
  if position.isUnknown then "unknown"
  else
    match position.percentOpen? with
    | some percent => s!"{percent}% open"
    | none => hexLiteral 4 position.raw.toNat

end Position

end ShutterGateway
