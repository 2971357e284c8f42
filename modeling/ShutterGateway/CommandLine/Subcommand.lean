import ShutterGateway.Command.Basic
import ShutterGateway.CommandLine.Arguments
import ShutterGateway.Config.Document
import ShutterGateway.Node.Text
import ShutterGateway.Processor.State

/-!
What the program does for a command line. A subcommand carries out one command after another and
stops at the first that cannot be made or fails; only when all have been carried out does it
write anything. How a command is carried out is left open here, so that the same program runs
against a gateway and in a rehearsal.
-/

namespace ShutterGateway.CommandLine

/-- A number at the end of a field of some width. -/
def aligned (width n : Nat) : String :=
  let digits := toString n
  String.ofList (List.replicate (width - digits.length) ' ') ++ digits

/-- Why the program ends with an error. -/
inductive Failure where
  /-- A command cannot be made from the arguments. -/
  | unmakeable (error : CommandError)
  /-- A command was carried out and came back as failed. -/
  | failed (kind : CommandKind) (error : CommandError)
  /-- The gateway has not described the node. -/
  | noNode
  /-- Neither a file nor a host and a password are given. -/
  | noConnection
  /-- The file does not hold a configuration. -/
  | unloadable (path : String) (error : ConfigError)
  /-- The configuration has a fault. -/
  | faulty (fault : ConfigFault)
  deriving DecidableEq

namespace Failure

/-- The wordings of a failure, each followed by that of its cause. -/
def messages : Failure → List String
  | unmakeable error => [error.message]
  | failed kind error => [kind.name ++ " failed: " ++ error.message]
  | noNode => ["gateway returned no node"]
  | noConnection => ["either --config or both --host and --password are required"]
  | unloadable path error => ("loading " ++ path) :: error.messages
  | faulty fault =>
    ["invalid gateway configuration",
      "configuration error: invalid configuration: " ++ fault.message,
      "invalid configuration: " ++ fault.message]

/-- The text of a failure: the failure, and the causes behind it in a numbered list. One cause
alone has no number. -/
def text (failure : Failure) : String :=
  match failure.messages with
  | [] => "Error: \n"
  | [message] => "Error: " ++ message ++ "\n"
  | [message, cause] => "Error: " ++ message ++ "\n\nCaused by:\n    " ++ cause ++ "\n"
  | message :: causes =>
    "Error: " ++ message ++ "\n\nCaused by:\n"
      ++ String.join (causes.mapIdx fun i cause => aligned 5 i ++ ": " ++ cause ++ "\n")

end Failure

/-- What the program itself notes in its log. -/
inductive LogEvent where
  /-- A processor is started for the gateway at an address. -/
  | connecting (host : String) (port : UInt16)
  /-- The first attempt to connect has left the gateway in a state in which it cannot be reached. -/
  | notReachable (state : ConnectionState)
  deriving DecidableEq

namespace Options

/-- The configuration that the options ask for. The file of a configuration is read by `load`. A
program that runs once needs no look at all nodes, unless a file asks for it. -/
def config (load : String → Except ConfigError Config) (options : Options) :
    Except Failure Config :=
  match options.config?, options.host?, options.password? with
  | some path, _, _ =>
    match load path with
    | .ok config => .ok config
    | .error error => .error (.unloadable path error)
  | none, some host, some password =>
    let standard : Config := { hostname := host, password := password }
    .ok { standard with
      port := options.port?.getD standard.port
      refreshOnConnect := false }
  | none, _, _ => .error .noConnection

end Options

/-- The line that tells of the position of a node. -/
def eventLine (event : NodeEvent) : String :=
  "node " ++ aligned 3 event.node.toNat ++ "  " ++
    match event.position.percentOpen? with
    | some percent => aligned 3 percent ++ "% open"
    | none => "raw 0x" ++ zeroFilled 4 (hexDigits event.position.raw.toNat)

/-- The line that tells of a change of the connection. -/
def stateLine (state : ConnectionState) : String :=
  "gateway " ++ state.text

section

variable {m : Type → Type} [Monad m]

/-- Carries out a command, if it can be made, and goes on with it if it has not failed. -/
def carryOut {α : Type} (execute : Command → m Command)
    (command : Except CommandError Command) (next : Command → m (Except Failure α)) :
    m (Except Failure α) :=
  match command with
  | .error error => return .error (.unmakeable error)
  | .ok command => do
    let done ← execute command
    match done.error? with
    | some error => return .error (.failed done.kind error)
    | none => next done

/-- Lines of text, each at its end. -/
def lines (texts : List String) : String :=
  String.join (texts.map (· ++ "\n"))

/-- Carries out a subcommand and gives the text to be written. -/
def perform (execute : Command → m Command) : Subcommand → m (Except Failure String)
  | .version =>
    carryOut execute (.ok { request := .getVersion }) fun first =>
      carryOut execute (.ok { request := .getProtocol }) fun second =>
        return .ok <| lines <|
          (match first.findings.version? with
            | none => []
            | some v =>
              [s!"software  {v.softwareText}", s!"hardware  {v.hardware.toNat}",
                s!"product   {v.productGroup.toNat}/{v.productType.toNat}"])
          ++ match second.findings.protocol? with
            | none => []
            | some p => [s!"protocol  {p.text}"]
  | .nodes =>
    carryOut execute (.ok { request := .getAllNodes }) fun done =>
      return .ok (lines [(Json.array (done.findings.nodes.map Node.json)).pretty])
  | .node id =>
    carryOut execute (.ok { request := .getNode id }) fun done =>
      match done.findings.node? with
      | none => return .error .noNode
      | some node => return .ok (lines [node.json.pretty])
  | .scenes =>
    carryOut execute (.ok { request := .getAllScenes }) fun done =>
      return .ok <| lines <| done.findings.scenes.map fun scene =>
        aligned 3 scene.id.toNat ++ "  " ++ scene.name
  | .scene id velocity =>
    carryOut execute (.ok { request := .executeScene id velocity }) fun _ =>
      return .ok (lines [s!"scene {id.toNat} finished"])
  | .stopScene id =>
    carryOut execute (.ok { request := .stopScene id }) fun _ =>
      return .ok (lines [s!"scene {id.toNat} stopped"])
  | .move node percent =>
    carryOut execute (Command.sendPosition? [⟨node, 0, .ofPercentOpen percent⟩]) fun _ =>
      return .ok (lines [s!"node {node.toNat} at {percent.toNat}% open"])
  | .velocity node velocity =>
    carryOut execute (.ok { request := .setVelocity node velocity }) fun _ => return .ok ""
  | .rename node name => carryOut execute (Command.setNodeName? node name) fun _ => return .ok ""
  | .mode node mode parameter =>
    carryOut execute (Command.sendMode? [⟨node, mode, parameter⟩]) fun _ => return .ok ""
  | .watch => return .ok ""

end

end ShutterGateway.CommandLine
