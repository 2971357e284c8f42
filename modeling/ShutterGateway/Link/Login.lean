import ShutterGateway.Command.Basic
import ShutterGateway.Link.Error

/-!
The login, the first exchange on every connection. Frames that do not answer the login are passed
over. The gateway accepts the password, or refuses it, or reports an error.
-/

namespace ShutterGateway

/-- How a login stands. -/
inductive Login where
  | pending (command : Command)
  | accepted
  | failed (error : LinkError)
  deriving DecidableEq

namespace Login

/-- The login after its command has got an answer. -/
def ofCommand (command : Command) : Login :=
  match command.status with
  | .pending => pending command
  | .complete => accepted
  | .failed error => failed (.authRejected error)

/-- The login with a password and the frame that asks for it. -/
def start (password : String) : Except LinkError (Command × Frame) :=
  match Command.login? password with
  | .error error => .error (.authRejected error)
  | .ok command =>
    match command.frame? with
    | .error error => .error (.authRejected error)
    | .ok frame => .ok (command, frame)

/-- The login after a frame has arrived. -/
def receive (command : Command) (frame : Frame) : Login :=
  if command.accepts frame then ofCommand (command.respond frame) else pending command

/-- The login after some frames have arrived. Frames after its end are left alone. -/
def receiveAll (command : Command) : List Frame → Login
  | [] => pending command
  | frame :: rest =>
    match receive command frame with
    | pending command => receiveAll command rest
    | login => login

end Login

end ShutterGateway
