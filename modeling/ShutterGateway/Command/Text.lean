import ShutterGateway.Command.Basic
import ShutterGateway.Node.Text

/-!
The diagnostic text of a command. A password never shows in it.
-/

namespace ShutterGateway

namespace RunReport

/-- The report in a diagnostic text. -/
def inspect (report : RunReport) : Inspect :=
  .record "RunReport"
    [("node_id", .nat report.node.toNat), ("parameter", .nat report.parameter.toNat),
     ("value", report.value.inspect), ("run_status", report.runStatus.label.inspect),
     ("status_reply", report.statusReply.label.inspect)]

end RunReport

namespace PositionInstruction

/-- The instruction in a diagnostic text. -/
def inspect (instruction : PositionInstruction) : Inspect :=
  .record "PositionInstruction"
    [("node_id", .nat instruction.node.toNat), ("function", .nat instruction.function.toNat),
     ("position", instruction.position.inspect)]

end PositionInstruction

namespace ModeInstruction

/-- The instruction in a diagnostic text. -/
def inspect (instruction : ModeInstruction) : Inspect :=
  .record "ModeInstruction"
    [("node_id", .nat instruction.node.toNat), ("mode_number", .nat instruction.mode.toNat),
     ("mode_parameter", .nat instruction.parameter.toNat)]

end ModeInstruction

namespace Findings

/-- The progress of a session in a diagnostic text. -/
def inspectProgress (findings : Findings) : Inspect :=
  .record "SessionProgress"
    [("reports", .list (findings.reports.map RunReport.inspect)),
     ("remaining_time", .option (findings.remainingTime?.map fun s => .nat s.toNat))]

end Findings

namespace Request

/-- The inputs of a request and what has been found for it, in a diagnostic text. -/
def inspectFields (request : Request) (found : Findings) : List (String × Inspect) :=
  match request with
  | getNode node =>
    [("node_id", .nat node.toNat), ("node", .option (found.node?.map Node.inspect))]
  | getAllNodes =>
    [("expected", .nat found.announced.toNat), ("nodes", .list (found.nodes.map Node.inspect))]
  | getAllScenes => [("scenes", .list (found.scenes.map Scene.inspect))]
  | executeScene scene velocity =>
    [("scene_id", .nat scene.toNat), ("velocity", velocity.label.inspect),
     ("progress", found.inspectProgress)]
  | stopScene scene => [("scene_id", .nat scene.toNat)]
  | sendPosition batch =>
    [("instructions", .list (batch.instructions.map PositionInstruction.inspect)),
     ("progress", found.inspectProgress)]
  | sendMode batch =>
    [("instructions", .list (batch.instructions.map ModeInstruction.inspect)),
     ("progress", found.inspectProgress)]
  | setVelocity node velocity =>
    [("node_id", .nat node.toNat), ("velocity", velocity.label.inspect)]
  | setNodeName node name =>
    [("node_id", .nat node.toNat), ("name", .atom (quoted name.text))]
  | ping => [("state", .option (found.state?.map GatewayState.inspect))]
  | getVersion => [("version", .option (found.version?.map GatewayVersion.inspect))]
  | getProtocol => [("version", .option (found.protocol?.map ProtocolVersion.inspect))]
  | setTime time => [("time", .atom (UnixTime.text time))]
  | login _ => [("password", .atom (quoted "<redacted>"))]
  | enableMonitor | terminate => []

/-- A request with what has been found for it, in a diagnostic text. -/
def inspect (request : Request) (found : Findings) : Inspect :=
  let name := request.kind.name
  match request with
  | terminate => .atom name
  | enableMonitor => .variant name [.atom name]
  | _ => .variant name [.record name (request.inspectFields found)]

end Request

namespace Command

/-- The diagnostic text of a command. -/
def diagnostic (command : Command) : String :=
  Inspect.text <| .record "Command"
    [("op", command.request.inspect command.findings),
     ("status", .atom command.status.name),
     ("session", .option (command.session?.map fun s => .nat s.toNat)),
     ("error", .option (command.error?.map CommandError.inspect))]

end Command

end ShutterGateway
