import ShutterGateway.Backoff
import ShutterGateway.Command.Kind
import ShutterGateway.Frame.Stream
import ShutterGateway.Number.Shortest
import ShutterGateway.Text.Blank
import ShutterGateway.Text.Inspect
import ShutterGateway.Text.Quoted

/-!
The configuration of a connection to a gateway: where it is, the password, the periods and limits
of time, and the policies.
-/

namespace ShutterGateway

/-- What the processor needs to reach and drive one gateway. -/
structure Config where
  hostname : String
  password : String
  port : UInt16 := 51200
  /-- The period at which all nodes are read again. -/
  refreshInterval? : Option Duration := none
  /-- The period at which the gateway is asked for its state. -/
  keepalive : Duration := .ofSeconds 600
  /-- The time for an exchange that one confirmation ends. -/
  confirmationTimeout : Duration := .ofSeconds 2
  /-- The time for an exchange that notifications end. -/
  sessionTimeout : Duration := .ofSeconds 30
  connectTimeout : Duration := .ofSeconds 10
  backoff : Backoff := {}
  /-- How often a command is sent again that was refused for a reason which clears up. -/
  transientRetries : Nat := 1
  /-- Whether all nodes are read after each login. -/
  refreshOnConnect : Bool := true
  resync : ResyncPolicy := .dropByte

/-- What is wrong with a configuration. -/
inductive ConfigFault where
  | noHostname
  | zeroPort
  | noPassword
  | longPassword
  | zeroKeepalive
  | zeroTimeout
  | zeroRefreshInterval
  | smallFactor
  deriving DecidableEq, Repr

/-- Why there is no configuration. -/
inductive ConfigError where
  /-- There is no file. -/
  | missing
  /-- The file does not hold text. -/
  | notText
  /-- The text is not the document of a configuration. -/
  | malformed
  | invalid (fault : ConfigFault)
  deriving DecidableEq, Repr

namespace ConfigFault

/-- The wording of a fault. -/
def message : ConfigFault → String
  | noHostname => "hostname is required"
  | zeroPort => "port must not be 0"
  | noPassword => "password is required"
  | longPassword => s!"password exceeds {passwordSize} bytes"
  | zeroKeepalive => "keepalive must be positive"
  | zeroTimeout => "timeouts must be positive"
  | zeroRefreshInterval => "refresh interval must be positive, use None to disable"
  | smallFactor => "reconnect backoff_factor must be >= 1"

end ConfigFault

namespace ConfigError

/-- The wordings of an error, each followed by that of its cause. -/
def messages : ConfigError → List String
  | missing => ["I/O error: " ++ noFile, noFile]
  | notText => ["I/O error: " ++ noText, noText]
  | malformed => ["JSON error: " ++ noDocument, noDocument]
  | invalid fault => ["invalid configuration: " ++ fault.message]
where
  noFile := "No such file or directory (os error 2)"
  noText := "stream did not contain valid UTF-8"
  noDocument := "not a configuration"

end ConfigError

namespace Config

/-- The first thing wrong with a configuration. -/
def fault? (config : Config) : Option ConfigFault :=
  if config.hostname.toList.all isBlank then some .noHostname
  else if config.port = 0 then some .zeroPort
  else if config.password = "" then some .noPassword
  else if passwordSize < (utf8 config.password).length then some .longPassword
  else if config.keepalive = .zero then some .zeroKeepalive
  else if config.confirmationTimeout = .zero ∨ config.sessionTimeout = .zero
      ∨ config.connectTimeout = .zero then some .zeroTimeout
  else if config.refreshInterval? = some .zero then some .zeroRefreshInterval
  else if config.backoff.factor < 1 then some .smallFactor
  else none

/-- The address of the gateway: its host and its port. -/
def address (config : Config) : String :=
  config.hostname ++ ":" ++ toString config.port.toNat

/-- Numbers in diagnostics have an exponent below a ten-thousandth and from ten quadrillions on. -/
def numberLayout : FloatLayout := ⟨-4, 16⟩

/-- The diagnostic text of a configuration. The password does not show in it. -/
def diagnostic (config : Config) : String :=
  let duration (d : Duration) : Inspect := .atom d.text
  Inspect.text <| .record "GatewayConfig"
    [("hostname", .atom (quoted config.hostname)),
     ("port", .nat config.port.toNat),
     ("password", .atom (quoted "<redacted>")),
     ("refresh_interval", .option (config.refreshInterval?.map duration)),
     ("keepalive", duration config.keepalive),
     ("confirmation_timeout", duration config.confirmationTimeout),
     ("session_timeout", duration config.sessionTimeout),
     ("connect_timeout", duration config.connectTimeout),
     ("reconnect", .record "ReconnectConfig"
       [("initial_delay", duration config.backoff.initialDelay),
        ("max_delay", duration config.backoff.maxDelay),
        ("backoff_factor", .atom (numberLayout.text config.backoff.factor)),
        ("unavailable_after", .nat config.backoff.unavailableAfter)]),
     ("transient_retries", .nat config.transientRetries),
     ("refresh_on_connect", .bool config.refreshOnConnect),
     ("resync", .atom (match config.resync with
       | .dropByte => "DropByte"
       | .reconnect => "Reconnect"))]

end Config

end ShutterGateway
