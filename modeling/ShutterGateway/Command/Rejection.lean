import ShutterGateway.Text.Label

/-!
Refusals: what the gateway answers when it does not carry out a command. Two of them clear up on
their own, so that the same command may succeed a little later.
-/

namespace ShutterGateway

/-- A fault that the gateway reports by an error notification. -/
inductive GatewayFault where
  | undefined
  | unknownCommand
  | frameStructure
  | busy
  | badSystemTableIndex
  | notAuthenticated
  /-- A number without a name of its own. -/
  | other (code : UInt8)
  deriving DecidableEq, Repr

namespace GatewayFault

/-- The fault with a number. -/
def ofCode : UInt8 → GatewayFault
  | 0 => undefined
  | 1 => unknownCommand
  | 2 => frameStructure
  | 7 => busy
  | 8 => badSystemTableIndex
  | 12 => notAuthenticated
  | code => other code

/-- The wording of a fault. -/
def message : GatewayFault → String
  | undefined => "undefined error"
  | unknownCommand => "unknown command"
  | frameStructure => "frame structure error"
  | busy => "gateway busy"
  | badSystemTableIndex => "bad system table index"
  | notAuthenticated => "not authenticated"
  | other code => s!"gateway error {code.toNat}"

/-- The label of a fault. -/
def label : GatewayFault → Label
  | undefined => .named "Undefined"
  | unknownCommand => .named "UnknownCommand"
  | frameStructure => .named "FrameStructure"
  | busy => .named "Busy"
  | badSystemTableIndex => .named "BadSystemTableIndex"
  | notAuthenticated => .named "NotAuthenticated"
  | other code => .numbered "Other" code.toNat

end GatewayFault

/-- Why the gateway refused a command. -/
inductive Rejection where
  | rejected
  | unknownNode
  | sessionInUse
  | noFreeSession
  | illegalParameter
  | invalidParameter
  | wrongPassword
  | gateway (fault : GatewayFault)
  /-- A status without a name of its own. -/
  | unknown (status : UInt8)
  deriving DecidableEq, Repr

namespace Rejection

/-- The refusal that the status of a node's or mode's confirmation means. Zero is none. -/
def ofStatus? : UInt8 → Option Rejection
  | 0 => none
  | 1 => some rejected
  | 2 => some unknownNode
  | 3 => some sessionInUse
  | 4 => some noFreeSession
  | 5 => some illegalParameter
  | status => some (unknown status)

/-- The refusal that the status of a scene's confirmation means. Zero is none. -/
def ofSceneStatus? : UInt8 → Option Rejection
  | 0 => none
  | 1 => some invalidParameter
  | 2 => some rejected
  | status => some (unknown status)

/-- The wording of a refusal. -/
def message : Rejection → String
  | rejected => "rejected"
  | unknownNode => "unknown node id"
  | sessionInUse => "session id in use"
  | noFreeSession => "no free session slots"
  | illegalParameter => "illegal parameter"
  | invalidParameter => "invalid parameter"
  | wrongPassword => "wrong password"
  | gateway fault => fault.message
  | unknown status => s!"unknown status {status.toNat}"

/-- The diagnostic text of a refusal. -/
def diagnostic : Rejection → String
  | rejected => "Rejected"
  | unknownNode => "UnknownNodeId"
  | sessionInUse => "SessionInUse"
  | noFreeSession => "NoFreeSession"
  | illegalParameter => "IllegalParameter"
  | invalidParameter => "InvalidParameter"
  | wrongPassword => "WrongPassword"
  | gateway fault => s!"Gateway({fault.label.diagnostic})"
  | unknown status => s!"Unknown({status.toNat})"

/-- Whether the refusal clears up on its own. -/
def isTransient : Rejection → Bool
  | noFreeSession => true
  | gateway .busy => true
  | _ => false

end Rejection

end ShutterGateway
