/-!
Session numbers. A supply of them counts from one up to the largest sixteen-bit number and then
starts again from one, so that no session ever has the number zero.
-/

namespace ShutterGateway

/-- A supply of session numbers. -/
structure SessionSupply where
  /-- The number that is given out next. -/
  next : UInt16 := 1
  deriving DecidableEq, Repr, Inhabited

namespace SessionSupply

/-- Gives a number out. -/
def allocate (supply : SessionSupply) : UInt16 × SessionSupply :=
  (supply.next, ⟨if supply.next + 1 = 0 then 1 else supply.next + 1⟩)

end SessionSupply

end ShutterGateway
