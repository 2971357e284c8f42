import ShutterGateway.Command.Instruction
import ShutterGateway.Calendar
import ShutterGateway.Value.Velocity

/-!
Requests: what a command asks the gateway to do, with all inputs bound, and the payload that asks
for it. The payload of an actuating request starts with the session number, followed by the bytes
that say that a user asks, on the user's level of priority.
-/

namespace ShutterGateway

/-- What a command asks for. -/
inductive Request where
  | getNode (node : UInt8)
  | getAllNodes
  | getAllScenes
  | executeScene (scene : UInt8) (velocity : Velocity)
  | stopScene (scene : UInt8)
  | sendPosition (batch : PositionBatch)
  | sendMode (batch : ModeBatch)
  | setVelocity (node : UInt8) (velocity : Velocity)
  | setNodeName (node : UInt8) (name : NodeName)
  | enableMonitor
  | ping
  | getVersion
  | getProtocol
  | setTime (time : UnixTime)
  | login (password : Password)
  /-- Ends the processor. Nothing is sent for it. -/
  | terminate
  deriving DecidableEq

namespace Request

/-- The kind of a request. -/
def kind : Request → CommandKind
  | getNode _ => .getNode
  | getAllNodes => .getAllNodes
  | getAllScenes => .getAllScenes
  | executeScene _ _ => .executeScene
  | stopScene _ => .stopScene
  | sendPosition _ => .sendPosition
  | sendMode _ => .sendMode
  | setVelocity _ _ => .setVelocity
  | setNodeName _ _ => .setNodeName
  | enableMonitor => .enableMonitor
  | ping => .ping
  | getVersion => .getVersion
  | getProtocol => .getProtocol
  | setTime _ => .setTime
  | login _ => .login
  | terminate => .terminate

/-- The node that a request for one node names. -/
def target? : Request → Option UInt8
  | getNode node | setVelocity node _ | setNodeName node _ => some node
  | _ => none

/-- The byte that says that a user asks. -/
def originatorUser : UInt8 := 1

/-- The byte of the user's level of priority. -/
def priorityUser : UInt8 := 3

/-- The start of an actuating request. -/
def sessionHeader (session : UInt16) : Bytes :=
  wordBytes session ++ [originatorUser, priorityUser]

/-- The payload of a position request: after the header the active parameter, the indicators, the
values of all parameters, the number of nodes, and the nodes in twenty places; four bytes at the
end are for locks and stay zero. -/
def positionPayload (session : UInt16) (batch : PositionBatch) : Bytes :=
  sessionHeader session ++ [0] ++ batch.indicators.bytes
    ++ (List.range (1 + functionalParameters)).flatMap (fun f => wordBytes (batch.positionOf f).raw)
    ++ [UInt8.ofNat batch.nodes.length] ++ padded (maxInstructions + 4) batch.nodes

/-- The payload of a mode request: after the header the mode and its parameter, the number of
nodes, and the nodes; it is as long as that of a position request. -/
def modePayload (session : UInt16) (batch : ModeBatch) : Bytes :=
  sessionHeader session ++ [batch.mode.1, batch.mode.2, UInt8.ofNat batch.nodes.length]
    ++ padded 59 batch.nodes

/-- The seconds of a point in time as the gateway takes them: none before the start of 1970, and
no more than fit 32 bits. -/
def clockSeconds (time : UnixTime) : UInt32 :=
  UInt32.ofNat (min time.toNat 4294967295)

/-- The payload of a request under a session number. -/
def payload (session : UInt16) : Request → Bytes
  | getNode node => [node]
  | executeScene scene velocity => sessionHeader session ++ [scene, velocity.code]
  | stopScene scene => sessionHeader session ++ [scene]
  | sendPosition batch => positionPayload session batch
  | sendMode batch => modePayload session batch
  | setVelocity node velocity => [node, velocity.code, 0]
  | setNodeName node name => node :: NameField.encode name.text
  | setTime time => longBytes (clockSeconds time)
  | login password => padded passwordSize (utf8 password.text)
  | _ => []

end Request

end ShutterGateway
