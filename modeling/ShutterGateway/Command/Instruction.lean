import ShutterGateway.Command.Error
import ShutterGateway.FunctionalParameter
import ShutterGateway.Value.Position

/-!
Instructions that one request sends to several nodes at once. A request has one to twenty
instructions. Positions share one list of values, one for each parameter, so that instructions
for the same parameter must agree; modes share the mode and its parameter.
-/

namespace ShutterGateway

/-- A position for one parameter of a node. Parameter zero is the main one. -/
structure PositionInstruction where
  node : UInt8
  function : UInt8
  position : Position
  deriving DecidableEq, Repr

/-- A mode for a node. -/
structure ModeInstruction where
  node : UInt8
  mode : UInt8
  parameter : UInt8
  deriving DecidableEq, Repr

/-- What is wrong with the number of instructions. -/
def batchFault? (count : Nat) : Option ParameterFault :=
  if count = 0 ∨ maxInstructions < count then some (.batchSize count) else none

namespace PositionInstruction

/-- Whether two instructions set the same parameter to different positions. -/
def conflicts (a b : PositionInstruction) : Bool :=
  a.function = b.function && a.position ≠ b.position

/-- The first thing wrong with some instructions that follow others. -/
def faultAfter? (earlier : List PositionInstruction) :
    List PositionInstruction → Option ParameterFault
  | [] => none
  | a :: rest =>
    if functionalParameters < a.function.toNat then some (.functionRange a.function)
    else if earlier.any (·.conflicts a) then some (.conflictingPositions a.function)
    else faultAfter? (earlier ++ [a]) rest

end PositionInstruction

/-- Positions that one request sends. -/
structure PositionBatch where
  instructions : List PositionInstruction
  bounded : batchFault? instructions.length = none
  consistent : PositionInstruction.faultAfter? [] instructions = none
  deriving DecidableEq

namespace PositionBatch

/-- The batch of some instructions, or the first thing that is wrong with them. -/
def ofList? (instructions : List PositionInstruction) : Except ParameterFault PositionBatch :=
  match hsize : batchFault? instructions.length with
  | some fault => .error fault
  | none =>
    match hfault : PositionInstruction.faultAfter? [] instructions with
    | some fault => .error fault
    | none => .ok ⟨instructions, hsize, hfault⟩

/-- The position of a parameter. A parameter without an instruction is left untouched. -/
def positionOf (batch : PositionBatch) (function : Nat) : Position :=
  match (batch.instructions.filter (·.function.toNat = function)).getLast? with
  | some instruction => instruction.position
  | none => .ignore

/-- The indicators of the parameters that are set. -/
def indicators (batch : PositionBatch) : Indicators :=
  .ofList (batch.instructions.map (·.function))

/-- The nodes of a batch, each once, in the order of their first instruction. -/
def nodes (batch : PositionBatch) : List UInt8 :=
  (batch.instructions.map (·.node)).eraseDups

end PositionBatch

namespace ModeInstruction

/-- Whether two instructions have the same mode with the same parameter. -/
def sameMode (a b : ModeInstruction) : Bool :=
  a.mode = b.mode && a.parameter = b.parameter

/-- What is wrong with some instructions, taken together. -/
def fault? : List ModeInstruction → Option ParameterFault
  | [] => none
  | first :: rest => if rest.all (first.sameMode ·) then none else some .mixedModes

end ModeInstruction

/-- Modes that one request sends. -/
structure ModeBatch where
  instructions : List ModeInstruction
  bounded : batchFault? instructions.length = none
  uniform : ModeInstruction.fault? instructions = none
  deriving DecidableEq

namespace ModeBatch

/-- The batch of some instructions, or what is wrong with them. -/
def ofList? (instructions : List ModeInstruction) : Except ParameterFault ModeBatch :=
  match hsize : batchFault? instructions.length with
  | some fault => .error fault
  | none =>
    match hfault : ModeInstruction.fault? instructions with
    | some fault => .error fault
    | none => .ok ⟨instructions, hsize, hfault⟩

/-- The mode of a batch and its parameter. -/
def mode (batch : ModeBatch) : UInt8 × UInt8 :=
  match batch.instructions with
  | first :: _ => (first.mode, first.parameter)
  | [] => (0, 0)

/-- The nodes of a batch, in the order of its instructions. -/
def nodes (batch : ModeBatch) : List UInt8 :=
  batch.instructions.map (·.node)

end ModeBatch

/-- A name that fits its field. -/
structure NodeName where
  text : String
  fits : NameField.holds text = true
  deriving DecidableEq

namespace NodeName

/-- The name with a text, unless the text is too long. -/
def ofText? (text : String) : Except ParameterFault NodeName :=
  if h : NameField.holds text = true then .ok ⟨text, h⟩
  else .error (.nameSize (utf8 text).length)

end NodeName

/-- A password that fits its field. -/
structure Password where
  text : String
  fits : (utf8 text).length ≤ passwordSize
  deriving DecidableEq

namespace Password

/-- The password with a text, unless the text is too long. -/
def ofText? (text : String) : Except ParameterFault Password :=
  if h : (utf8 text).length ≤ passwordSize then .ok ⟨text, h⟩
  else .error (.passwordSize (utf8 text).length)

end Password

end ShutterGateway
