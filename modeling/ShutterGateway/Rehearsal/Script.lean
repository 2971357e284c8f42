import ShutterGateway.Frame.Basic
import ShutterGateway.Opcode

/-!
Scripted gateways, to rehearse a processor against. A script says what an attempt to connect
meets and how the gateway answers each request. Requests without a rule of their own get the
answers of a well-behaved gateway.
-/

namespace ShutterGateway.Rehearsal

/-- Something that a scripted gateway sends: a frame, or bytes as they are, after so many
milliseconds. -/
structure Reply where
  code? : Option UInt16
  payload : Bytes
  delay : Nat := 0

namespace Reply

/-- The bytes of a reply. -/
def bytes (reply : Reply) : Bytes :=
  match reply.code? with
  | none => reply.payload
  | some code =>
    match Frame.encode ⟨code, reply.payload⟩ with
    | .ok bytes => bytes
    | .error _ => []

end Reply

/-- How a scripted gateway answers a request. -/
structure Rule where
  code : UInt16
  /-- Which request of this opcode on the connection the rule is for, counted from one; all
  if there is none. -/
  nth? : Option Nat := none
  replies : List Reply
  /-- Whether the gateway closes the connection after the replies that are not delayed. -/
  closes : Bool := false

/-- What an attempt to connect meets. -/
inductive Script where
  | refuse
  /-- The connection is never made. -/
  | hang
  /-- The connection is made after so many milliseconds. -/
  | serve (rules : List Rule) (delay : Nat)

/-- A reply that is a frame without delay. -/
def reply (opcode : Opcode) (payload : Bytes) : Reply :=
  ⟨some opcode.code, payload, 0⟩

/-- The replies of a well-behaved gateway. -/
def standardReplies (frame : Frame) : List Reply :=
  match frame.code, Opcode.ofCode? frame.code with
  | _, some .passwordEnterReq => [reply .passwordEnterCfm [0]]
  | _, some .getVersionReq => [reply .getVersionCfm [0, 2, 0, 0, 71, 0, 6, 14, 3]]
  | _, some .getProtocolVersionReq => [reply .getProtocolVersionCfm [0, 3, 0, 18]]
  | _, some .setUtcReq => [reply .setUtcCfm []]
  | _, some .houseStatusMonitorEnableReq => [reply .houseStatusMonitorEnableCfm []]
  | _, some .getStateReq => [reply .getStateCfm [2, 128, 0, 0, 0, 0]]
  | _, some .getAllNodesInformationReq => [reply .getAllNodesInformationCfm [1, 0]]
  | _, some .setNodeVelocityReq =>
    [reply .setNodeVelocityCfm (0 :: frame.payload.take 1)]
  | _, some .setNodeNameReq => [reply .setNodeNameCfm (0 :: frame.payload.take 1)]
  | _, _ => []

/-- The rule for a request, which is the so-many-th of its opcode. -/
def ruleFor? (rules : List Rule) (code : UInt16) (count : Nat) : Option Rule :=
  rules.find? fun rule => rule.code = code && (rule.nth?.all (· = count))

end ShutterGateway.Rehearsal
