import ShutterGateway.Text.Label

/-!
What the information on a node says about its build, its power supply and its activity.
-/

namespace ShutterGateway

/-- The build of a window or blind. -/
inductive NodeVariation where
  | notSet
  | topHung
  | kip
  | flatRoof
  | skyLight
  /-- A number without a name of its own. -/
  | unknown (code : UInt8)
  deriving DecidableEq, Repr

namespace NodeVariation

/-- The value with a number. -/
def ofCode : UInt8 → NodeVariation
  | 0 => notSet
  | 1 => topHung
  | 2 => kip
  | 3 => flatRoof
  | 4 => skyLight
  | code => unknown code

/-- The number of a value. -/
def code : NodeVariation → UInt8
  | notSet => 0
  | topHung => 1
  | kip => 2
  | flatRoof => 3
  | skyLight => 4
  | unknown code => code

@[simp] theorem code_ofCode (number : UInt8) : (ofCode number).code = number := by
  unfold ofCode
  split <;> rfl

/-- The label of a value. -/
def label : NodeVariation → Label
  | notSet => .named "NotSet"
  | topHung => .named "TopHung"
  | kip => .named "Kip"
  | flatRoof => .named "FlatRoof"
  | skyLight => .named "SkyLight"
  | unknown code => .numbered "Unknown" code.toNat

end NodeVariation

/-- How a node is supplied with power. -/
inductive PowerMode where
  | alwaysAlive
  | lowPower
  /-- A number without a name of its own. -/
  | unknown (code : UInt8)
  deriving DecidableEq, Repr

namespace PowerMode

/-- The value with a number. -/
def ofCode : UInt8 → PowerMode
  | 0 => alwaysAlive
  | 1 => lowPower
  | code => unknown code

/-- The number of a value. -/
def code : PowerMode → UInt8
  | alwaysAlive => 0
  | lowPower => 1
  | unknown code => code

@[simp] theorem code_ofCode (number : UInt8) : (ofCode number).code = number := by
  unfold ofCode
  split <;> rfl

/-- The label of a value. -/
def label : PowerMode → Label
  | alwaysAlive => .named "AlwaysAlive"
  | lowPower => .named "LowPower"
  | unknown code => .numbered "Unknown" code.toNat

end PowerMode

/-- What a node is doing. -/
inductive NodeState where
  | nonExecuting
  | errorExecuting
  | notUsed
  | awaitingPower
  | executing
  | done
  /-- A number without a name of its own. -/
  | unknown (code : UInt8)
  deriving DecidableEq, Repr

namespace NodeState

/-- The value with a number. -/
def ofCode : UInt8 → NodeState
  | 0 => nonExecuting
  | 1 => errorExecuting
  | 2 => notUsed
  | 3 => awaitingPower
  | 4 => executing
  | 5 => done
  | code => unknown code

/-- The number of a value. -/
def code : NodeState → UInt8
  | nonExecuting => 0
  | errorExecuting => 1
  | notUsed => 2
  | awaitingPower => 3
  | executing => 4
  | done => 5
  | unknown code => code

@[simp] theorem code_ofCode (number : UInt8) : (ofCode number).code = number := by
  unfold ofCode
  split <;> rfl

/-- The label of a value. -/
def label : NodeState → Label
  | nonExecuting => .named "NonExecuting"
  | errorExecuting => .named "ErrorExecuting"
  | notUsed => .named "NotUsed"
  | awaitingPower => .named "AwaitingPower"
  | executing => .named "Executing"
  | done => .named "Done"
  | unknown code => .numbered "Unknown" code.toNat

end NodeState

end ShutterGateway
