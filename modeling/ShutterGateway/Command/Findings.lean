import ShutterGateway.Command.Request
import ShutterGateway.GatewayInfo
import ShutterGateway.Node.Basic
import ShutterGateway.Scene
import ShutterGateway.Value.RunStatus

/-!
Answers to a request. Each frame that answers a request adds to what the command has found and
says whether the exchange goes on, is complete or has failed.
-/

namespace ShutterGateway

/-- What a node reports while a session runs. -/
structure RunReport where
  node : UInt8
  /-- Zero is the main parameter. -/
  parameter : UInt8
  value : Position
  runStatus : RunStatus
  statusReply : StatusReply
  deriving DecidableEq, Repr

/-- What the answers to a command have brought so far. -/
structure Findings where
  node? : Option Node := none
  /-- How many nodes the gateway has announced. -/
  announced : UInt8 := 0
  nodes : List Node := []
  scenes : List Scene := []
  version? : Option GatewayVersion := none
  protocol? : Option ProtocolVersion := none
  state? : Option GatewayState := none
  reports : List RunReport := []
  remainingTime? : Option UInt16 := none
  deriving DecidableEq, Repr, Inhabited

/-- What an answer means for the exchange. -/
inductive Verdict where
  /-- More answers follow. -/
  | more
  | done
  | failed (error : CommandError)
  deriving DecidableEq, Repr

namespace Verdict

/-- A verdict by a status that is a refusal or lets the exchange go on as given. -/
def ofRejection (accepted : Verdict) : Option Rejection → Verdict
  | none => accepted
  | some rejection => failed (.rejected rejection)

end Verdict

namespace Findings

variable {m : Type → Type} [Reading m]

/-- Reads a payload that has to have a least size. -/
def requiring (findings : Findings) (opcode : Opcode) (payload : Bytes) (size : Nat)
    (read : m (Findings × Verdict)) : m (Findings × Verdict) :=
  if payload.length < size then
    return (findings, .failed (.protocol (.shortPayload opcode payload.length size)))
  else read

/-- An answer that the command does not understand. -/
def unexpected (findings : Findings) (opcode : Opcode) : Findings × Verdict :=
  (findings, .failed (.protocol (.unexpectedOpcode opcode.code)))

/-- A confirmation that is a status and nothing else of interest. -/
def readStatus (findings : Findings) (opcode : Opcode) (payload : Bytes) (accepted : Verdict) :
    m (Findings × Verdict) :=
  findings.requiring opcode payload 1 do
    let status ← byteAt payload 0
    return (findings, accepted.ofRejection (Rejection.ofStatus? status))

/-- The confirmation of a request about scenes: a status and the session. -/
def readSceneStatus (findings : Findings) (opcode : Opcode) (payload : Bytes)
    (accepted : Verdict) : m (Findings × Verdict) :=
  findings.requiring opcode payload 3 do
    let status ← byteAt payload 0
    return (findings, accepted.ofRejection (Rejection.ofSceneStatus? status))

/-- The scenes in so many entries, one after another. -/
def readScenes (payload : Bytes) (offset : Nat) : Nat → m (List Scene)
  | 0 => return []
  | count + 1 => do
    let id ← byteAt payload offset
    let name ← sliceAt payload (offset + 1) NameField.size
    let rest ← readScenes payload (offset + Scene.entrySize) count
    return ⟨id, NameField.decode name⟩ :: rest

/-- Part of the list of scenes: the number of entries, the entries, and how many are still to
come. -/
def readSceneList (findings : Findings) (opcode : Opcode) (payload : Bytes) :
    m (Findings × Verdict) :=
  findings.requiring opcode payload 1 do
    let count ← byteAt payload 0
    let size := count.toNat * Scene.entrySize
    findings.requiring opcode payload (2 + size) do
      let scenes ← readScenes payload 1 count.toNat
      let remaining ← byteAt payload (1 + size)
      return ({ findings with scenes := findings.scenes ++ scenes },
        if remaining = 0 then .done else .more)

/-- A notification on the progress of a session. Only the last one ends the session. -/
def readProgress (findings : Findings) (opcode : Opcode) (payload : Bytes) :
    m (Findings × Verdict) :=
  match opcode with
  | .commandRunStatusNtf =>
    findings.requiring opcode payload 9 do
      let node ← byteAt payload 3
      let parameter ← byteAt payload 4
      let value ← wordAt payload 5
      let runStatus ← byteAt payload 7
      let statusReply ← byteAt payload 8
      let report : RunReport :=
        ⟨node, parameter, ⟨value⟩, .ofCode runStatus, .ofCode statusReply⟩
      return ({ findings with reports := findings.reports ++ [report] }, .more)
  | .commandRemainingTimeNtf =>
    findings.requiring opcode payload 6 do
      let seconds ← wordAt payload 4
      -- The node is read for a log only.
      let _node ← byteAt payload 2
      return ({ findings with remainingTime? := some seconds }, .more)
  | .sessionFinishedNtf => return (findings, .done)
  | _ => return findings.unexpected opcode

end Findings

namespace Request

variable {m : Type → Type} [Reading m]

/-- Reads an answer to a request on top of what has been found. Errors that the gateway notifies
of are not read here, since they mean the same for every request. -/
def readAnswer (request : Request) (opcode : Opcode) (payload : Bytes) (findings : Findings) :
    m (Findings × Verdict) :=
  match request, opcode with
  | .getNode _, .getNodeInformationCfm => findings.readStatus opcode payload .more
  | .getNode _, .getNodeInformationNtf => do
    match ← Node.read payload with
    | some node => return ({ findings with node? := some node }, .done)
    | none => return (findings, .failed (.protocol (.shortNode payload.length)))
  | .getAllNodes, .getAllNodesInformationCfm =>
    findings.requiring opcode payload 2 do
      let status ← byteAt payload 0
      let announced ← byteAt payload 1
      return ({ findings with announced := announced },
        if status ≠ 0 ∨ announced = 0 then .done else .more)
  | .getAllNodes, .getAllNodesInformationNtf => do
    match ← Node.read payload with
    | some node => return ({ findings with nodes := findings.nodes ++ [node] }, .more)
    | none => return (findings, .failed (.protocol (.shortNode payload.length)))
  | .getAllNodes, .getAllNodesInformationFinishedNtf => return (findings, .done)
  | .getAllScenes, .getSceneListCfm =>
    findings.requiring opcode payload 1 do
      let count ← byteAt payload 0
      return (findings, if count = 0 then .done else .more)
  | .getAllScenes, .getSceneListNtf => findings.readSceneList opcode payload
  | .executeScene _ _, .activateSceneCfm => findings.readSceneStatus opcode payload .more
  | .stopScene _, .stopSceneCfm => findings.readSceneStatus opcode payload .done
  | .sendPosition _, .commandSendCfm =>
    findings.requiring opcode payload 3 do
      let accepted ← byteAt payload 2
      return (findings, if accepted = 1 then .more else .failed (.rejected .rejected))
  | .sendMode _, .modeSendCfm =>
    findings.requiring opcode payload 3 do
      let status ← byteAt payload 2
      return (findings, Verdict.more.ofRejection (Rejection.ofStatus? status))
  | .executeScene _ _, _ | .sendPosition _, _ | .sendMode _, _ =>
    findings.readProgress opcode payload
  | .setVelocity _ _, .setNodeVelocityCfm => findings.readStatus opcode payload .done
  | .setNodeName _ _, .setNodeNameCfm => findings.readStatus opcode payload .done
  | .enableMonitor, .houseStatusMonitorEnableCfm => return (findings, .done)
  | .ping, .getStateCfm => do
    match ← GatewayState.read payload with
    | some state => return ({ findings with state? := some state }, .done)
    | none => return (findings, .failed (.protocol (.malformed opcode)))
  | .getVersion, .getVersionCfm => do
    match ← GatewayVersion.read payload with
    | some version => return ({ findings with version? := some version }, .done)
    | none => return (findings, .failed (.protocol (.malformed opcode)))
  | .getProtocol, .getProtocolVersionCfm => do
    match ← ProtocolVersion.read payload with
    | some version => return ({ findings with protocol? := some version }, .done)
    | none => return (findings, .failed (.protocol (.malformed opcode)))
  | .setTime _, .setUtcCfm => return (findings, .done)
  | .login _, .passwordEnterCfm =>
    findings.requiring opcode payload 1 do
      let status ← byteAt payload 0
      return (findings, if status = 0 then .done else .failed (.rejected .wrongPassword))
  | _, _ => return findings.unexpected opcode

end Request

end ShutterGateway
