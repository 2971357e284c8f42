import ShutterGateway.Command.Kind
import ShutterGateway.Command.Rejection
import ShutterGateway.Frame.Basic
import ShutterGateway.Text.Inspect
import ShutterGateway.Text.Quoted

/-!
Why a command failed. Each cause is a value of its own; its wording is given beside it. A cause
from outside the library is given by its wording alone.
-/

namespace ShutterGateway

/-- What is wrong with an answer of the gateway. -/
inductive ProtocolFault where
  /-- The answer's opcode is not one that the command understands. -/
  | unexpectedOpcode (code : UInt16)
  /-- The answer has too few bytes. -/
  | shortPayload (opcode : Opcode) (size needed : Nat)
  /-- The answer cannot be read. -/
  | malformed (opcode : Opcode)
  /-- The description of a node has too few bytes. -/
  | shortNode (size : Nat)
  | described (text : String)
  deriving DecidableEq, Repr

namespace ProtocolFault

/-- The wording of a fault in an answer. -/
def message : ProtocolFault → String
  | unexpectedOpcode code => "unexpected opcode " ++ hexLiteral 4 code.toNat
  | shortPayload opcode size needed => s!"{opcode.text} payload is {size} bytes (need {needed})"
  | malformed opcode => "malformed " ++ opcode.text
  | shortNode size => s!"node information is {size} bytes"
  | described text => text

end ProtocolFault

/-- What is wrong with the inputs of a command. -/
inductive ParameterFault where
  | passwordSize (size : Nat)
  | nameSize (size : Nat)
  /-- A request is for one to twenty instructions. -/
  | batchSize (count : Nat)
  | functionRange (function : UInt8)
  /-- Two instructions set one function to different positions. -/
  | conflictingPositions (function : UInt8)
  | mixedModes
  /-- The command has no request. -/
  | neverSent (kind : CommandKind)
  /-- The processor logs in on its own. -/
  | loginReserved
  | described (text : String)
  deriving DecidableEq, Repr

/-- The most instructions in one request. -/
def maxInstructions : Nat := 20

namespace ParameterFault

/-- The wording of a fault in the inputs. -/
def message : ParameterFault → String
  | passwordSize size => s!"password is {size} bytes (max {ShutterGateway.passwordSize})"
  | nameSize size => s!"node name is {size} bytes (max {NameField.size})"
  | batchSize count => s!"{count} instructions (expected 1..={maxInstructions})"
  | functionRange function => s!"function {function.toNat} out of range (0..=16)"
  | conflictingPositions function => s!"conflicting positions for function {function.toNat}"
  | mixedModes => "mode instructions in one request must share mode and parameter"
  | neverSent kind => s!"{kind.name} is never sent to the gateway"
  | loginReserved => "login is performed by the processor"
  | described text => text

end ParameterFault

/-- What is wrong with the connection. -/
inductive ConnectivityFault where
  | connectionLost
  | gatewayUnavailable
  | described (text : String)
  deriving DecidableEq, Repr

namespace ConnectivityFault

/-- The wording of a fault of the connection. -/
def message : ConnectivityFault → String
  | connectionLost => "connection lost"
  | gatewayUnavailable => "gateway unavailable"
  | described text => text

end ConnectivityFault

/-- Why a command failed. -/
inductive CommandError where
  | frame (error : FrameError)
  | protocol (fault : ProtocolFault)
  | rejected (rejection : Rejection)
  | timeout
  | connectivity (fault : ConnectivityFault)
  | shutdown
  | invalidParameter (fault : ParameterFault)
  deriving DecidableEq, Repr

namespace FrameError

/-- The frame error in a diagnostic text. -/
def inspect : FrameError → Inspect
  | tooShort size => .variant "TooShort" [.nat size]
  | invalidLength byte => .variant "InvalidLength" [.nat byte.toNat]
  | truncated declared available =>
    .record "Truncated" [("declared", .nat declared), ("available", .nat available)]
  | trailingBytes count => .variant "TrailingBytes" [.nat count]
  | checksumMismatch expected actual =>
    .record "ChecksumMismatch" [("expected", .nat expected.toNat), ("actual", .nat actual.toNat)]
  | payloadTooLarge size limit =>
    .record "PayloadTooLarge" [("len", .nat size), ("max", .nat limit)]

end FrameError

namespace CommandError

/-- The wording of the failure. -/
def message : CommandError → String
  | frame error => "frame error: " ++ error.message
  | protocol fault => "protocol error: " ++ fault.message
  | rejected rejection => rejection.message
  | timeout => "timed out waiting for the gateway"
  | connectivity fault => "connectivity error: " ++ fault.message
  | shutdown => "processor shut down"
  | invalidParameter fault => "invalid parameter: " ++ fault.message

/-- Whether the same command may succeed a little later. -/
def isTransient : CommandError → Bool
  | rejected rejection => rejection.isTransient
  | _ => false

/-- The failure in a diagnostic text. -/
def inspect : CommandError → Inspect
  | frame error => .variant "Frame" [error.inspect]
  | protocol fault => .variant "Protocol" [.atom (quoted fault.message)]
  | rejected rejection => .variant "Rejected" [.atom rejection.diagnostic]
  | timeout => .atom "Timeout"
  | connectivity fault => .variant "Connectivity" [.atom (quoted fault.message)]
  | shutdown => .atom "Shutdown"
  | invalidParameter fault => .variant "InvalidParameter" [.atom (quoted fault.message)]

end CommandError

end ShutterGateway
