import ShutterGateway.Bytes.Reading
import ShutterGateway.Frame.Basic
import ShutterGateway.Opcode
import ShutterGateway.Value.Position

/-!
What a frame tells about where it belongs, without being read as a whole: the session it carries,
the node it is about, the position it reports, and the seconds that a session still takes.
-/

namespace ShutterGateway

/-- A position that a node has reported. -/
structure NodeEvent where
  node : UInt8
  position : Position
  deriving DecidableEq, Repr

namespace Opcode

/-- Where the payload of an opcode carries a session number. -/
def sessionOffset? : Opcode → Option Nat
  | commandSendCfm | modeSendCfm | commandRunStatusNtf | commandRemainingTimeNtf
  | sessionFinishedNtf => some 0
  | activateSceneCfm | stopSceneCfm => some 1
  | _ => none

/-- Where the payload of an opcode carries the number of a node. -/
def nodeOffset? : Opcode → Option Nat
  | getNodeInformationCfm | setNodeNameCfm | setNodeVelocityCfm => some 1
  | getNodeInformationNtf | getAllNodesInformationNtf | nodeStatePositionChangedNtf
  | nodeInformationChangedNtf => some 0
  | commandRunStatusNtf => some 3
  | commandRemainingTimeNtf => some 2
  | _ => none

section

variable {m : Type → Type} [Reading m]

/-- Reads the session number that a payload carries. -/
def readSession (opcode : Opcode) (payload : Bytes) : m (Option UInt16) :=
  match opcode.sessionOffset? with
  | none => return none
  | some offset =>
    if payload.length < offset + 2 then return none
    else do
      let session ← wordAt payload offset
      return some session

/-- Reads the number of the node that a payload is about. -/
def readNode (opcode : Opcode) (payload : Bytes) : m (Option UInt8) :=
  match opcode.nodeOffset? with
  | none => return none
  | some offset =>
    if payload.length < offset + 1 then return none
    else do
      let node ← byteAt payload offset
      return some node

/-- Reads a node's number and position at two offsets of a payload of some least size. -/
def readEventAt (payload : Bytes) (size node position : Nat) : m (Option NodeEvent) :=
  if payload.length < size then return none
  else do
    let node ← byteAt payload node
    let raw ← wordAt payload position
    return some ⟨node, ⟨raw⟩⟩

/-- Reads the position that a payload reports. A run status reports a position only when it is
about the main parameter. -/
def readEvent (opcode : Opcode) (payload : Bytes) : m (Option NodeEvent) :=
  match opcode with
  | nodeStatePositionChangedNtf => readEventAt payload 4 0 2
  | getNodeInformationNtf | getAllNodesInformationNtf => readEventAt payload 87 0 85
  | commandRunStatusNtf =>
    if payload.length < 7 then return none
    else do
      let parameter ← byteAt payload 4
      if parameter = 0 then readEventAt payload 7 3 5 else return none
  | _ => return none

/-- Reads the seconds that the session of a payload still takes. -/
def readRemaining (opcode : Opcode) (payload : Bytes) : m (Option UInt16) :=
  match opcode with
  | commandRemainingTimeNtf =>
    if payload.length < 6 then return none
    else do
      let seconds ← wordAt payload 4
      return some seconds
  | _ => return none

end

/-- The session number that a payload carries. -/
def sessionOf? (opcode : Opcode) (payload : Bytes) : Option UInt16 :=
  Id.run (opcode.readSession payload)

/-- The number of the node that a payload is about. -/
def nodeOf? (opcode : Opcode) (payload : Bytes) : Option UInt8 :=
  Id.run (opcode.readNode payload)

/-- The position that a payload reports. -/
def eventOf? (opcode : Opcode) (payload : Bytes) : Option NodeEvent :=
  Id.run (opcode.readEvent payload)

/-- The seconds that the session of a payload still takes. -/
def remainingOf? (opcode : Opcode) (payload : Bytes) : Option UInt16 :=
  Id.run (opcode.readRemaining payload)

end Opcode

namespace Frame

/-- The opcode of a frame, if its number has one. -/
def opcode? (frame : Frame) : Option Opcode :=
  Opcode.ofCode? frame.code

/-- The session number that a frame carries. -/
def session? (frame : Frame) : Option UInt16 :=
  frame.opcode?.bind (·.sessionOf? frame.payload)

/-- The number of the node that a frame is about. -/
def node? (frame : Frame) : Option UInt8 :=
  frame.opcode?.bind (·.nodeOf? frame.payload)

/-- The position that a frame reports. -/
def event? (frame : Frame) : Option NodeEvent :=
  frame.opcode?.bind (·.eventOf? frame.payload)

/-- The seconds that the session of a frame still takes. -/
def remaining? (frame : Frame) : Option UInt16 :=
  frame.opcode?.bind (·.remainingOf? frame.payload)

end Frame

end ShutterGateway
