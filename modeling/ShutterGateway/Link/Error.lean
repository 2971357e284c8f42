import ShutterGateway.Command.Error
import ShutterGateway.Frame.Stream

/-!
Why a connection to a gateway cannot be made or has come to its end.
-/

namespace ShutterGateway

/-- Why a connection to a gateway cannot be made or has come to its end. -/
inductive LinkError where
  /-- Nobody accepts the connection. -/
  | refused
  /-- The bytes that arrive cannot be read as frames. -/
  | stream (error : StreamError)
  /-- The gateway does not accept the password. -/
  | authRejected (error : CommandError)
  | timedOut
  /-- The gateway has closed the connection. -/
  | closed
  deriving DecidableEq, Repr

namespace LinkError

/-- The wording of an error. -/
def message : LinkError → String
  | refused => "I/O error: connection refused"
  | stream error => error.message
  | authRejected error => "authentication rejected: " ++ error.message
  | timedOut => "timed out"
  | closed => "connection closed"

end LinkError

end ShutterGateway
