import ShutterGateway.Command.Routing
import ShutterGateway.Config.Basic
import ShutterGateway.Link.Login
import ShutterGateway.Session

/-!
The state of a command processor. A processor owns the connection to one gateway. Commands of
callers and periodic commands wait in one queue and are carried out one at a time: a request
goes out only when the command before it is over. Frames that do not belong to the running
command are told to the listeners. A lost connection is made again, at a growing pace.

The processor is a state and a step. What happens around it, such as the arrival of a frame or
the passing of time, changes the state and nothing else; `Processor.turn?` is the step by which
the processor itself reacts to one such thing. What it does to the outside is a list of effects.
-/

namespace ShutterGateway

/-- How a gateway can be reached at the moment. -/
inductive ConnectionState where
  | connecting
  | connected
  /-- The connection was lost or could not be made; the attempt is counted from one. -/
  | reconnecting (attempt : Nat)
  /-- Several attempts in a row have failed. Attempts go on. -/
  | unavailable
  | disconnected
  deriving DecidableEq, Repr

namespace ConnectionState

/-- The wording of a connection state. -/
def text : ConnectionState → String
  | connecting => "Connecting"
  | connected => "Connected"
  | reconnecting attempt => s!"Reconnecting({attempt})"
  | unavailable => "Unavailable"
  | disconnected => "Disconnected"

end ConnectionState

namespace Processor

/-- A point in time, in nanoseconds since the processor was started. -/
abbrev Instant := Nat

/-- Who waits for a command. -/
inductive Origin where
  /-- A caller, who holds a ticket. -/
  | caller (ticket : Nat)
  /-- Nobody: the processor itself asks. -/
  | internal
  deriving DecidableEq, Repr

/-- A command and who waits for it. -/
structure Job where
  command : Command
  origin : Origin
  deriving DecidableEq

/-- The processor's end of a connection. -/
structure Link where
  /-- Frames that have arrived and were not looked at yet. -/
  inbound : List Frame := []
  /-- Why no more frames arrive, once none does. -/
  ended? : Option LinkError := none
  /-- No more frames are taken for writing. -/
  refusing : Bool := false
  deriving DecidableEq, Repr

namespace Link

/-- The number of frames that can wait to be looked at. While so many wait, no more are read. -/
def capacity : Nat := 256

/-- Whether another frame can arrive. -/
def hasRoom (link : Link) : Bool :=
  link.inbound.length < capacity

end Link

/-- A command whose request has been written, and until when its answers are awaited. -/
structure Attempt where
  command : Command
  deadline : Instant
  deriving DecidableEq

/-- What the processor does on a connection. -/
inductive Activity where
  | idle
  /-- A job is carried out and may be tried again so many times. -/
  | running (job : Job) (retries : Nat) (attempt : Attempt)
  /-- A job waits to be tried again. -/
  | pausing (job : Job) (retries : Nat) (resume : Instant)
  /-- After a command without an answer the gateway is asked for its state. -/
  | checking (attempt : Attempt)
  deriving DecidableEq

/-- How far an attempt to connect has come. -/
inductive Stage where
  /-- The attempt is put off. -/
  | waiting (resume : Instant)
  /-- The connection is being made. The last component is the result, when there is one. -/
  | connecting (deadline : Instant) (result? : Option Bool)
  /-- The password has been sent. -/
  | loggingIn (link : Link) (login : Attempt)
  deriving DecidableEq

/-- The attempts to connect since the connection was lost: how many have failed, and the number of
the current attempt, which is zero only for the first of all attempts. -/
structure Outage where
  failures : Nat
  attempt : Nat
  deriving DecidableEq, Repr

/-- Where the processor is. -/
inductive Mode where
  | offline (outage : Outage) (stage : Stage)
  /-- On a connection, with the requests of the refresh that are still to come. -/
  | online (link : Link) (refresh : List Request) (activity : Activity)
  | stopped
  deriving DecidableEq

namespace Mode

/-- The connection, if there is one. -/
def link? : Mode → Option Link
  | .offline _ (.loggingIn link _) => some link
  | .online link _ _ => some link
  | _ => none

end Mode

/-- What is known about the gateway. -/
structure Properties where
  version? : Option GatewayVersion := none
  protocol? : Option ProtocolVersion := none
  deriving DecidableEq, Repr, Inhabited

/-- The state of a processor. -/
structure State where
  mode : Mode
  now : Instant := 0
  /-- The time of day at instant zero, to set the gateway's clock. -/
  epoch : UnixTime := 0
  queue : List Job := []
  sessions : SessionSupply := {}
  /-- Whether there ever was a connection. -/
  connectedOnce : Bool := false
  /-- Whether the end has been asked for. -/
  terminating : Bool := false
  published : ConnectionState := .connecting
  properties : Properties := {}

/-- What a processor does to the outside. -/
inductive Effect where
  /-- Starts to make a connection. -/
  | connect
  /-- Hands a frame to the connection. -/
  | send (frame : Frame)
  /-- Gives the connection, or the attempt to make one, up. -/
  | hangUp
  /-- Notes that an attempt to connect has failed. -/
  | attemptFailed (error : LinkError)
  /-- Hands a command back to the holder of a ticket. -/
  | answer (ticket : Nat) (command : Command)
  /-- Tells the holder of a ticket that nobody will answer. -/
  | abandon (ticket : Nat)
  /-- Tells the listeners about an event. Who they are is not known to the processor. -/
  | notify (event : NodeEvent)
  | publish (state : ConnectionState)
  deriving DecidableEq

/-- A state with the effects that led to it, in their order. -/
abbrev Reaction := State × List Effect

namespace Reaction

/-- Goes on from a reaction. -/
def andThen (reaction : Reaction) (next : State → Reaction) : Reaction :=
  ((next reaction.1).1, reaction.2 ++ (next reaction.1).2)

/-- Prepends an effect. -/
def after (effect : Effect) (reaction : Reaction) : Reaction :=
  (reaction.1, effect :: reaction.2)

end Reaction

namespace State

/-- A state without effects. -/
def silently (state : State) : Reaction := (state, [])

/-- Publishes a connection state. -/
def publish (published : ConnectionState) (state : State) : Reaction :=
  ({ state with published := published }, [.publish published])

/-- Tells the listeners about an event. -/
def post (event : NodeEvent) (state : State) : Reaction :=
  (state, [.notify event])

/-- Tells the listeners what a frame reports that belongs to no running command. -/
def unsolicited (frame : Frame) (state : State) : Reaction :=
  match frame.event? with
  | some event => state.post event
  | none => state.silently

/-- Notes what a completed command has found out about the gateway. -/
def learn (command : Command) (state : State) : State :=
  match command.status, command.kind with
  | .complete, .getVersion =>
    { state with properties := { state.properties with version? := command.findings.version? } }
  | .complete, .getProtocol =>
    { state with properties := { state.properties with protocol? := command.findings.protocol? } }
  | _, _ => state

/-- The events of the nodes that a completed internal command has found. -/
def discoveries (command : Command) : Origin → List NodeEvent
  | .caller _ => []
  | .internal =>
    match command.status, command.kind with
    | .complete, .getAllNodes => command.findings.nodes.map fun node => ⟨node.id, node.position⟩
    | _, _ => []

/-- Hands a command back to whoever waits for it. -/
def finish (command : Command) (origin : Origin) (state : State) : Reaction :=
  (state.learn command,
    (discoveries command origin).map .notify
      ++ match origin with
        | .caller ticket => [.answer ticket command]
        | .internal => [])

end State

end Processor

end ShutterGateway
