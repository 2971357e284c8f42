import ShutterGateway.Command.Findings
import ShutterGateway.Command.Routing

/-!
Commands, the units of work for a gateway. A command is pending until an answer completes or
fails it; after that nothing about its outcome changes. Commands that are carried out under a
session carry its number, and only answers with that number belong to them.
-/

namespace ShutterGateway

/-- How far a command has come. -/
inductive Status where
  | pending
  | complete
  | failed (error : CommandError)
  deriving DecidableEq, Repr

namespace Status

/-- Whether the command is over. -/
def isTerminal : Status → Bool
  | pending => false
  | _ => true

/-- The error of a failed command. -/
def error? : Status → Option CommandError
  | failed error => some error
  | _ => none

/-- The name of a status. -/
def name : Status → String
  | pending => "Pending"
  | complete => "Complete"
  | failed _ => "Error"

end Status

/-- A unit of work for a gateway. -/
structure Command where
  request : Request
  findings : Findings := {}
  status : Status := .pending
  session? : Option UInt16 := none
  deriving DecidableEq

namespace Command

/-- A command that asks for positions, unless something is wrong with the instructions. -/
def sendPosition? (instructions : List PositionInstruction) : Except CommandError Command :=
  match PositionBatch.ofList? instructions with
  | .ok batch => .ok { request := .sendPosition batch }
  | .error fault => .error (.invalidParameter fault)

/-- A command that asks for a mode, unless something is wrong with the instructions. -/
def sendMode? (instructions : List ModeInstruction) : Except CommandError Command :=
  match ModeBatch.ofList? instructions with
  | .ok batch => .ok { request := .sendMode batch }
  | .error fault => .error (.invalidParameter fault)

/-- A command that renames a node, unless the name is too long. -/
def setNodeName? (node : UInt8) (text : String) : Except CommandError Command :=
  match NodeName.ofText? text with
  | .ok name => .ok { request := .setNodeName node name }
  | .error fault => .error (.invalidParameter fault)

/-- A command that logs in, unless the password is too long. -/
def login? (text : String) : Except CommandError Command :=
  match Password.ofText? text with
  | .ok password => .ok { request := .login password }
  | .error fault => .error (.invalidParameter fault)

/-- The kind of a command. -/
def kind (command : Command) : CommandKind := command.request.kind

/-- The row of a command in the table of exchanges. -/
def descriptor (command : Command) : Descriptor := command.kind.descriptor

/-- Whether the command is over. -/
def isTerminal (command : Command) : Bool := command.status.isTerminal

/-- The error of a failed command. -/
def error? (command : Command) : Option CommandError := command.status.error?

/-- The command as it was before anything was sent for it. -/
def pristine (command : Command) : Command := { request := command.request }

/-- Binds the session number of a command that is carried out under one. -/
def assignSession (session : UInt16) (command : Command) : Command :=
  if command.descriptor.usesSession then { command with session? := some session } else command

/-- The payload that asks for the command. -/
def payload (command : Command) : Bytes :=
  command.request.payload (command.session?.getD 0)

/-- The frame that asks for the command. -/
def frame? (command : Command) : Except CommandError Frame :=
  match command.descriptor.request? with
  | none => .error (.invalidParameter (.neverSent command.kind))
  | some opcode =>
    if command.descriptor.maxPayload < command.payload.length then
      .error (.frame (.payloadTooLarge command.payload.length command.descriptor.maxPayload))
    else .ok ⟨opcode.code, command.payload⟩

/-- Ends a pending command with an error. -/
def fail (error : CommandError) (command : Command) : Command :=
  if command.isTerminal then command else { command with status := .failed error }

/-- Draws the consequence of an answer. -/
def conclude (command : Command) (findings : Findings) : Verdict → Command
  | .more => { command with findings := findings }
  | .done => { command with findings := findings, status := .complete }
  | .failed error => { command with findings := findings, status := .failed error }

section

variable {m : Type → Type} [Reading m]

/-- Reads whether a frame belongs to the command: its opcode answers the request, and neither a
session nor a node that it carries is another one. -/
def readAccepts (command : Command) (frame : Frame) : m Bool :=
  match frame.opcode? with
  | none => return false
  | some opcode =>
    if command.descriptor.expects opcode then do
      let session ← opcode.readSession frame.payload
      let node ← opcode.readNode frame.payload
      let sameSession : Bool := session.isNone || command.session? = session
      let sameNode : Bool := node.isNone || command.request.target?.isNone
        || command.request.target? = node
      return sameSession && sameNode
    else return false

/-- Reads an answer. An answer to a command that is over changes nothing, and one that the command
does not understand fails it. -/
def readResponse (command : Command) (frame : Frame) : m Command :=
  if command.isTerminal then return command
  else
    match frame.opcode?.filter (command.descriptor.expects ·) with
    | none => return command.fail (.protocol (.unexpectedOpcode frame.code))
    | some .errorNtf =>
      return command.fail (.rejected (.gateway (.ofCode (frame.payload.head?.getD 0))))
    | some opcode => do
      let (findings, verdict) ←
        command.request.readAnswer opcode frame.payload command.findings
      return command.conclude findings verdict

end

/-- Whether a frame belongs to the command. -/
def accepts (command : Command) (frame : Frame) : Bool :=
  Id.run (command.readAccepts frame)

/-- The command after an answer. -/
def respond (command : Command) (frame : Frame) : Command :=
  Id.run (command.readResponse frame)

end Command

end ShutterGateway
