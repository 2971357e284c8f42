import ShutterGateway.Config.Basic
import ShutterGateway.Json.Reader
import ShutterGateway.Number.Scaled

/-!
Configuration files. A file is a JSON document with a field for each setting that differs from
the default. Fields with other names are passed over; a known field may not occur twice. Instead
of an object there may be an array, whose items are the fields in their order.
-/

namespace ShutterGateway

/-- What a document says about the pace of attempts. -/
structure BackoffDocument where
  initialDelayMillis? : Option Nat := none
  maxDelaySeconds? : Option Nat := none
  factor? : Option Float := none
  unavailableAfter? : Option Nat := none

/-- What a document says about a configuration. -/
structure ConfigDocument where
  hostname : String := ""
  port? : Option Nat := none
  password : String := ""
  refreshSeconds? : Option Nat := none
  keepaliveSeconds? : Option Nat := none
  confirmationMillis? : Option Nat := none
  sessionSeconds? : Option Nat := none
  connectSeconds? : Option Nat := none
  backoff : BackoffDocument := {}
  transientRetries? : Option Nat := none
  refreshOnConnect? : Option Bool := none
  resync? : Option ResyncPolicy := none

namespace Json

/-- A natural number below a bound. -/
def natBelow? (bound : Nat) : Json → Option Nat
  | number numeral => numeral.toNat?.filter (· < bound)
  | _ => none

/-- A number in double precision. -/
def toFloat? : Json → Option Float
  | number numeral => numeral.toFloat?
  | _ => none

/-- A truth value. -/
def toBool? : Json → Option Bool
  | bool value => some value
  | _ => none

/-- A setting that may be `null`, which means that it is not given. -/
def optional? {α : Type} (read : Json → Option α) : Json → Option (Option α)
  | null => some none
  | json => (read json).map some

/-- The policy with a name. -/
def policyNamed? (name : String) : Option ResyncPolicy :=
  if name = "drop_byte" then some .dropByte
  else if name = "reconnect" then some .reconnect
  else none

/-- A policy: its name, or an object with the name as its only field and nothing in it. -/
def toPolicy? : Json → Option ResyncPolicy
  | object [(name, null)] => (unescape? name).bind fun chars => policyNamed? (.ofList chars)
  | json => json.toText?.bind policyNamed?

end Json

/-- The fields of a document in their order: the name of each, and how it enters the document. -/
abbrev FieldReaders (δ : Type) := List (String × (δ → Json → Option δ))

namespace FieldReaders

variable {δ : Type}

/-- Reads the fields of an object. A known field may occur once. -/
def readFields (readers : FieldReaders δ) (seen : List String) (document : δ) :
    List (List Char × Json) → Option δ
  | [] => some document
  | (literal, value) :: rest =>
    match Json.unescape? literal with
    | none => none
    | some chars =>
      let name := String.ofList chars
      match readers.lookup name with
      | none => readFields readers seen document rest
      | some read =>
        if name ∈ seen then none
        else
          match read document value with
          | none => none
          | some document => readFields readers (name :: seen) document rest

/-- Reads the items of an array as the fields in their order. -/
def readItems (document : δ) : FieldReaders δ → List Json → Option δ
  | _, [] => some document
  | [], _ :: _ => none
  | (_, read) :: readers, value :: rest =>
    match read document value with
    | none => none
    | some document => readItems document readers rest

/-- Reads an object or an array. -/
def read? (readers : FieldReaders δ) (document : δ) : Json → Option δ
  | .object fields => readers.readFields [] document fields
  | .array items => readItems document readers items
  | _ => none

end FieldReaders

namespace BackoffDocument

/-- The fields of the part on the pace of attempts. -/
def readers : FieldReaders BackoffDocument :=
  [("initial_delay_ms", fun d j => (j.optional? (Json.natBelow? UInt64.size)).map fun v =>
      { d with initialDelayMillis? := v }),
   ("max_delay_secs", fun d j => (j.optional? (Json.natBelow? UInt64.size)).map fun v =>
      { d with maxDelaySeconds? := v }),
   ("backoff_factor", fun d j => (j.optional? Json.toFloat?).map fun v =>
      { d with factor? := v }),
   ("unavailable_after", fun d j => (j.optional? (Json.natBelow? UInt32.size)).map fun v =>
      { d with unavailableAfter? := v })]

/-- The pace of attempts that a document asks for. -/
def backoff (document : BackoffDocument) : Backoff :=
  let standard : Backoff := {}
  { initialDelay := (document.initialDelayMillis?.map .ofMillis).getD standard.initialDelay
    maxDelay := (document.maxDelaySeconds?.map .ofSeconds).getD standard.maxDelay
    factor := document.factor?.getD standard.factor
    unavailableAfter := document.unavailableAfter?.getD standard.unavailableAfter }

end BackoffDocument

namespace ConfigDocument

/-- The fields of a configuration file. -/
def readers : FieldReaders ConfigDocument :=
  [("hostname", fun d j => j.toText?.map fun v => { d with hostname := v }),
   ("port", fun d j => (j.optional? (Json.natBelow? UInt16.size)).map fun v =>
      { d with port? := v }),
   ("password", fun d j => j.toText?.map fun v => { d with password := v }),
   ("refresh_interval_secs", fun d j => (j.optional? (Json.natBelow? UInt64.size)).map fun v =>
      { d with refreshSeconds? := v }),
   ("keepalive_secs", fun d j => (j.optional? (Json.natBelow? UInt64.size)).map fun v =>
      { d with keepaliveSeconds? := v }),
   ("confirmation_timeout_ms", fun d j => (j.optional? (Json.natBelow? UInt64.size)).map fun v =>
      { d with confirmationMillis? := v }),
   ("session_timeout_secs", fun d j => (j.optional? (Json.natBelow? UInt64.size)).map fun v =>
      { d with sessionSeconds? := v }),
   ("connect_timeout_secs", fun d j => (j.optional? (Json.natBelow? UInt64.size)).map fun v =>
      { d with connectSeconds? := v }),
   ("reconnect", fun d j => (BackoffDocument.readers.read? {} j).map fun v =>
      { d with backoff := v }),
   ("transient_retries", fun d j => (j.optional? (Json.natBelow? UInt32.size)).map fun v =>
      { d with transientRetries? := v }),
   ("refresh_on_connect", fun d j => (j.optional? Json.toBool?).map fun v =>
      { d with refreshOnConnect? := v }),
   ("resync", fun d j => (j.optional? Json.toPolicy?).map fun v => { d with resync? := v })]

/-- Reads the text of a configuration file. -/
def parse? (text : String) : Option ConfigDocument :=
  (Json.read? text).bind (readers.read? {})

/-- The configuration that a document asks for. A refresh interval of zero is none. -/
def config (document : ConfigDocument) : Config :=
  let standard : Config := { hostname := document.hostname, password := document.password }
  { standard with
    port := (document.port?.map UInt16.ofNat).getD standard.port
    refreshInterval? := (document.refreshSeconds?.filter (0 < ·)).map .ofSeconds
    keepalive := (document.keepaliveSeconds?.map .ofSeconds).getD standard.keepalive
    confirmationTimeout :=
      (document.confirmationMillis?.map .ofMillis).getD standard.confirmationTimeout
    sessionTimeout := (document.sessionSeconds?.map .ofSeconds).getD standard.sessionTimeout
    connectTimeout := (document.connectSeconds?.map .ofSeconds).getD standard.connectTimeout
    backoff := document.backoff.backoff
    transientRetries := document.transientRetries?.getD standard.transientRetries
    refreshOnConnect := document.refreshOnConnect?.getD standard.refreshOnConnect
    resync := document.resync?.getD standard.resync }

end ConfigDocument

namespace Config

/-- The configuration in the text of a file, if it can be run. -/
def ofText (text : String) : Except ConfigError Config :=
  match ConfigDocument.parse? text with
  | none => .error .malformed
  | some document =>
    match document.config.fault? with
    | some fault => .error (.invalid fault)
    | none => .ok document.config

/-- The configuration in the bytes of a file. A file that is missing has none. -/
def load (file? : Option Bytes) : Except ConfigError Config :=
  match file? with
  | none => .error .missing
  | some bytes =>
    match String.fromUTF8? bytes.toByteArray with
    | none => .error .notText
    | some text => ofText text

end Config

end ShutterGateway
