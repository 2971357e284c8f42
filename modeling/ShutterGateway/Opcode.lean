import ShutterGateway.Text.Hex

/-!
The opcodes of the gateway's interface. The name of a request ends in `Req`, that of a
confirmation in `Cfm` and that of a notification in `Ntf`. The main facts are that the list of
all opcodes is complete and that an opcode is found again from its number.
-/

namespace ShutterGateway

/-- An opcode of the gateway's interface. -/
inductive Opcode where
  | errorNtf
  | getVersionReq
  | getVersionCfm
  | getProtocolVersionReq
  | getProtocolVersionCfm
  | getStateReq
  | getStateCfm
  | getNodeInformationReq
  | getNodeInformationCfm
  | getAllNodesInformationReq
  | getAllNodesInformationCfm
  | getAllNodesInformationNtf
  | getAllNodesInformationFinishedNtf
  | setNodeNameReq
  | setNodeNameCfm
  | setNodeVelocityReq
  | setNodeVelocityCfm
  | nodeInformationChangedNtf
  | getNodeInformationNtf
  | nodeStatePositionChangedNtf
  | houseStatusMonitorEnableReq
  | houseStatusMonitorEnableCfm
  | commandSendReq
  | commandSendCfm
  | commandRunStatusNtf
  | commandRemainingTimeNtf
  | sessionFinishedNtf
  | modeSendReq
  | modeSendCfm
  | getSceneListReq
  | getSceneListCfm
  | getSceneListNtf
  | activateSceneReq
  | activateSceneCfm
  | stopSceneReq
  | stopSceneCfm
  | setUtcReq
  | setUtcCfm
  | passwordEnterReq
  | passwordEnterCfm
  deriving DecidableEq, Repr

namespace Opcode

/-- The name of an opcode with its number on the wire. -/
def entry : Opcode → String × UInt16
  | errorNtf => ("ErrorNtf", 0x0000)
  | getVersionReq => ("GetVersionReq", 0x0008)
  | getVersionCfm => ("GetVersionCfm", 0x0009)
  | getProtocolVersionReq => ("GetProtocolVersionReq", 0x000a)
  | getProtocolVersionCfm => ("GetProtocolVersionCfm", 0x000b)
  | getStateReq => ("GetStateReq", 0x000c)
  | getStateCfm => ("GetStateCfm", 0x000d)
  | getNodeInformationReq => ("GetNodeInformationReq", 0x0200)
  | getNodeInformationCfm => ("GetNodeInformationCfm", 0x0201)
  | getAllNodesInformationReq => ("GetAllNodesInformationReq", 0x0202)
  | getAllNodesInformationCfm => ("GetAllNodesInformationCfm", 0x0203)
  | getAllNodesInformationNtf => ("GetAllNodesInformationNtf", 0x0204)
  | getAllNodesInformationFinishedNtf => ("GetAllNodesInformationFinishedNtf", 0x0205)
  | setNodeNameReq => ("SetNodeNameReq", 0x0208)
  | setNodeNameCfm => ("SetNodeNameCfm", 0x0209)
  | setNodeVelocityReq => ("SetNodeVelocityReq", 0x020a)
  | setNodeVelocityCfm => ("SetNodeVelocityCfm", 0x020b)
  | nodeInformationChangedNtf => ("NodeInformationChangedNtf", 0x020c)
  | getNodeInformationNtf => ("GetNodeInformationNtf", 0x0210)
  | nodeStatePositionChangedNtf => ("NodeStatePositionChangedNtf", 0x0211)
  | houseStatusMonitorEnableReq => ("HouseStatusMonitorEnableReq", 0x0240)
  | houseStatusMonitorEnableCfm => ("HouseStatusMonitorEnableCfm", 0x0241)
  | commandSendReq => ("CommandSendReq", 0x0300)
  | commandSendCfm => ("CommandSendCfm", 0x0301)
  | commandRunStatusNtf => ("CommandRunStatusNtf", 0x0302)
  | commandRemainingTimeNtf => ("CommandRemainingTimeNtf", 0x0303)
  | sessionFinishedNtf => ("SessionFinishedNtf", 0x0304)
  | modeSendReq => ("ModeSendReq", 0x0320)
  | modeSendCfm => ("ModeSendCfm", 0x0321)
  | getSceneListReq => ("GetSceneListReq", 0x040c)
  | getSceneListCfm => ("GetSceneListCfm", 0x040d)
  | getSceneListNtf => ("GetSceneListNtf", 0x040e)
  | activateSceneReq => ("ActivateSceneReq", 0x0412)
  | activateSceneCfm => ("ActivateSceneCfm", 0x0413)
  | stopSceneReq => ("StopSceneReq", 0x0415)
  | stopSceneCfm => ("StopSceneCfm", 0x0416)
  | setUtcReq => ("SetUtcReq", 0x2000)
  | setUtcCfm => ("SetUtcCfm", 0x2001)
  | passwordEnterReq => ("PasswordEnterReq", 0x3000)
  | passwordEnterCfm => ("PasswordEnterCfm", 0x3001)

/-- The name of an opcode. -/
def name (opcode : Opcode) : String := opcode.entry.1

/-- The number of an opcode on the wire. -/
def code (opcode : Opcode) : UInt16 := opcode.entry.2

/-- Every opcode, by ascending number within each group of the interface. -/
def all : List Opcode :=
  [
    .errorNtf, .getVersionReq, .getVersionCfm,
    .getProtocolVersionReq, .getProtocolVersionCfm, .getStateReq,
    .getStateCfm, .getNodeInformationReq, .getNodeInformationCfm,
    .getAllNodesInformationReq, .getAllNodesInformationCfm, .getAllNodesInformationNtf,
    .getAllNodesInformationFinishedNtf, .setNodeNameReq, .setNodeNameCfm,
    .setNodeVelocityReq, .setNodeVelocityCfm, .nodeInformationChangedNtf,
    .getNodeInformationNtf, .nodeStatePositionChangedNtf, .houseStatusMonitorEnableReq,
    .houseStatusMonitorEnableCfm, .commandSendReq, .commandSendCfm,
    .commandRunStatusNtf, .commandRemainingTimeNtf, .sessionFinishedNtf,
    .modeSendReq, .modeSendCfm, .getSceneListReq,
    .getSceneListCfm, .getSceneListNtf, .activateSceneReq,
    .activateSceneCfm, .stopSceneReq, .stopSceneCfm,
    .setUtcReq, .setUtcCfm, .passwordEnterReq,
    .passwordEnterCfm]

/-- The opcode with a number, if there is one. -/
def ofCode? (code : UInt16) : Option Opcode :=
  all.find? (·.code = code)

/-- The name and the number of an opcode, as messages show it. -/
def text (opcode : Opcode) : String :=
  opcode.name ++ "(" ++ hexLiteral 4 opcode.code.toNat ++ ")"

theorem mem_all (opcode : Opcode) : opcode ∈ all := by
  cases opcode <;> decide

@[simp] theorem ofCode?_code (opcode : Opcode) : ofCode? opcode.code = some opcode := by
  cases opcode <;> rfl

theorem code_of_ofCode? {number : UInt16} {opcode : Opcode}
    (h : ofCode? number = some opcode) : opcode.code = number := by
  simpa using List.find?_some h

end Opcode

end ShutterGateway
