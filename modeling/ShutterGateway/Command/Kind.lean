import ShutterGateway.Opcode
import ShutterGateway.Text.Name

/-!
The kinds of command, and for each kind its row in the table of exchanges: the opcode of its
request, the opcodes of the answers to it, whether it runs under a session number, how large its
request may be, and how long an answer may take.
-/

namespace ShutterGateway

/-- A kind of command. -/
inductive CommandKind where
  | getNode
  | getAllNodes
  | getAllScenes
  | executeScene
  | stopScene
  | sendPosition
  | sendMode
  | setVelocity
  | setNodeName
  | enableMonitor
  | ping
  | getVersion
  | getProtocol
  | setTime
  | login
  | terminate
  deriving DecidableEq, Repr

/-- How the end of an exchange is awaited. -/
inductive WaitClass where
  /-- One confirmation ends the exchange. -/
  | confirmation
  /-- A confirmation is followed by notifications. -/
  | sequence
  deriving DecidableEq, Repr

/-- The row of a kind of command in the table of exchanges. -/
structure Descriptor where
  /-- The opcode of the request. A command without one is never sent. -/
  request? : Option Opcode
  confirmations : List Opcode
  notifications : List Opcode
  /-- Whether the request carries a session number. -/
  usesSession : Bool
  /-- The most bytes that the payload of the request may have. -/
  maxPayload : Nat
  wait : WaitClass
  deriving DecidableEq, Repr

namespace Descriptor

/-- Whether an opcode can answer the request. Every request can be answered by an error. -/
def expects (descriptor : Descriptor) (opcode : Opcode) : Bool :=
  descriptor.request?.isSome
    && (opcode = .errorNtf || opcode ∈ descriptor.confirmations
      || opcode ∈ descriptor.notifications)

end Descriptor

/-- The notifications on the progress of a session. -/
def sessionNotifications : List Opcode :=
  [.commandRunStatusNtf, .commandRemainingTimeNtf, .sessionFinishedNtf]

/-- The size of a password field. -/
def passwordSize : Nat := 32

namespace CommandKind

/-- The name of a kind. -/
def name : CommandKind → String
  | getNode => "GetNode"
  | getAllNodes => "GetAllNodes"
  | getAllScenes => "GetAllScenes"
  | executeScene => "ExecuteScene"
  | stopScene => "StopScene"
  | sendPosition => "SendPosition"
  | sendMode => "SendMode"
  | setVelocity => "SetVelocity"
  | setNodeName => "SetNodeName"
  | enableMonitor => "EnableHomeStatusMonitor"
  | ping => "Ping"
  | getVersion => "GetVersion"
  | getProtocol => "GetProtocol"
  | setTime => "SetTime"
  | login => "Login"
  | terminate => "Terminate"

/-- Every kind. -/
def all : List CommandKind :=
  [getNode, getAllNodes, getAllScenes, executeScene, stopScene, sendPosition, sendMode, setVelocity,
    setNodeName, enableMonitor, ping, getVersion, getProtocol, setTime, login, terminate]

/-- The kind with a name. -/
def ofName? (name : String) : Option CommandKind :=
  all.find? (·.name = name)

/-- The row of a kind in the table of exchanges. -/
def descriptor : CommandKind → Descriptor
  | getNode =>
    ⟨some .getNodeInformationReq, [.getNodeInformationCfm], [.getNodeInformationNtf], false, 1,
      .confirmation⟩
  | getAllNodes =>
    ⟨some .getAllNodesInformationReq, [.getAllNodesInformationCfm],
      [.getAllNodesInformationNtf, .getAllNodesInformationFinishedNtf], false, 0, .sequence⟩
  | getAllScenes =>
    ⟨some .getSceneListReq, [.getSceneListCfm], [.getSceneListNtf], false, 0, .sequence⟩
  | executeScene =>
    ⟨some .activateSceneReq, [.activateSceneCfm], sessionNotifications, true, 6, .sequence⟩
  | stopScene => ⟨some .stopSceneReq, [.stopSceneCfm], [], true, 5, .confirmation⟩
  | sendPosition =>
    ⟨some .commandSendReq, [.commandSendCfm], sessionNotifications, true, 66, .sequence⟩
  | sendMode => ⟨some .modeSendReq, [.modeSendCfm], sessionNotifications, true, 66, .sequence⟩
  | setVelocity =>
    ⟨some .setNodeVelocityReq, [.setNodeVelocityCfm], [], false, 3, .confirmation⟩
  | setNodeName =>
    ⟨some .setNodeNameReq, [.setNodeNameCfm], [], false, 1 + NameField.size, .confirmation⟩
  | enableMonitor =>
    ⟨some .houseStatusMonitorEnableReq, [.houseStatusMonitorEnableCfm], [], false, 0,
      .confirmation⟩
  | ping => ⟨some .getStateReq, [.getStateCfm], [], false, 0, .confirmation⟩
  | getVersion => ⟨some .getVersionReq, [.getVersionCfm], [], false, 0, .confirmation⟩
  | getProtocol =>
    ⟨some .getProtocolVersionReq, [.getProtocolVersionCfm], [], false, 0, .confirmation⟩
  | setTime => ⟨some .setUtcReq, [.setUtcCfm], [], false, 4, .confirmation⟩
  | login =>
    ⟨some .passwordEnterReq, [.passwordEnterCfm], [], false, passwordSize, .confirmation⟩
  | terminate => ⟨none, [], [], false, 0, .confirmation⟩

end CommandKind

end ShutterGateway
