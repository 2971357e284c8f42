import ShutterGateway.Text.Label

/-!
The speed at which a node moves, as a number on the wire and as a word of the user.
-/

namespace ShutterGateway

/-- The speed at which a node moves. -/
inductive Velocity where
  | default
  | silent
  | fast
  | notAvailable
  /-- A number without a name of its own. -/
  | unknown (code : UInt8)
  deriving DecidableEq, Repr

namespace Velocity

/-- The value with a number. -/
def ofCode : UInt8 → Velocity
  | 0 => default
  | 1 => silent
  | 2 => fast
  | 255 => notAvailable
  | code => unknown code

/-- The number of a value. -/
def code : Velocity → UInt8
  | default => 0
  | silent => 1
  | fast => 2
  | notAvailable => 255
  | unknown code => code

@[simp] theorem code_ofCode (number : UInt8) : (ofCode number).code = number := by
  unfold ofCode
  split <;> rfl

/-- The label of a value. -/
def label : Velocity → Label
  | default => .named "Default"
  | silent => .named "Silent"
  | fast => .named "Fast"
  | notAvailable => .named "NotAvailable"
  | unknown code => .numbered "Unknown" code.toNat

/-- The speed that a user's word means, in any mixture of capitals. -/
def ofWord? (word : String) : Except String Velocity :=
  match word.toLower with
  | "default" => .ok default
  | "silent" => .ok silent
  | "fast" => .ok fast
  | other => .error s!"unknown velocity '{other}'"

end Velocity

end ShutterGateway
