import ShutterGateway.Bytes.Reading
import ShutterGateway.Json.Basic
import ShutterGateway.Text.Inspect

/-!
What a gateway says about itself: the versions of its software and hardware, the version of its
interface, and its state.
-/

namespace ShutterGateway

/-- The versions of a gateway's software and hardware. -/
structure GatewayVersion where
  /-- Six numbers. -/
  software : Bytes
  hardware : UInt8
  productGroup : UInt8
  productType : UInt8
  deriving DecidableEq, Repr

namespace GatewayVersion

/-- Reads a version. -/
def read {m : Type → Type} [Reading m] (payload : Bytes) : m (Option GatewayVersion) :=
  if payload.length < 9 then return none
  else do
    let software ← sliceAt payload 0 6
    let hardware ← byteAt payload 6
    let productGroup ← byteAt payload 7
    let productType ← byteAt payload 8
    return some ⟨software, hardware, productGroup, productType⟩

/-- The version in a payload. -/
def parse? (payload : Bytes) : Option GatewayVersion :=
  Id.run (read payload)

/-- The software version with points between its numbers. -/
def softwareText (version : GatewayVersion) : String :=
  ".".intercalate (version.software.map fun b => toString b.toNat)

/-- The fields of the version in a document. -/
def jsonFields (version : GatewayVersion) : List (String × Json) :=
  [("software", .array (version.software.map fun b => .ofNat b.toNat)),
   ("hardware", .ofNat version.hardware.toNat),
   ("product_group", .ofNat version.productGroup.toNat),
   ("product_type", .ofNat version.productType.toNat)]

/-- The version in a diagnostic text. -/
def inspect (version : GatewayVersion) : Inspect :=
  .record "GatewayVersion"
    [("software", .list (version.software.map fun b => .nat b.toNat)),
     ("hardware", .nat version.hardware.toNat),
     ("product_group", .nat version.productGroup.toNat),
     ("product_type", .nat version.productType.toNat)]

end GatewayVersion

/-- The version of a gateway's interface. -/
structure ProtocolVersion where
  major : UInt16
  minor : UInt16
  deriving DecidableEq, Repr

namespace ProtocolVersion

/-- Reads an interface version. -/
def read {m : Type → Type} [Reading m] (payload : Bytes) : m (Option ProtocolVersion) :=
  if payload.length < 4 then return none
  else do
    let major ← wordAt payload 0
    let minor ← wordAt payload 2
    return some ⟨major, minor⟩

/-- The interface version in a payload. -/
def parse? (payload : Bytes) : Option ProtocolVersion :=
  Id.run (read payload)

/-- The interface version with a point between its numbers. -/
def text (version : ProtocolVersion) : String :=
  s!"{version.major.toNat}.{version.minor.toNat}"

/-- The fields of the interface version in a document. -/
def jsonFields (version : ProtocolVersion) : List (String × Json) :=
  [("major", .ofNat version.major.toNat), ("minor", .ofNat version.minor.toNat)]

/-- The interface version in a diagnostic text. -/
def inspect (version : ProtocolVersion) : Inspect :=
  .record "ProtocolVersion"
    [("major", .nat version.major.toNat), ("minor", .nat version.minor.toNat)]

end ProtocolVersion

/-- The state of a gateway. -/
structure GatewayState where
  state : UInt8
  subState : UInt8
  deriving DecidableEq, Repr

namespace GatewayState

/-- Reads a state. -/
def read {m : Type → Type} [Reading m] (payload : Bytes) : m (Option GatewayState) :=
  if payload.length < 2 then return none
  else do
    let state ← byteAt payload 0
    let subState ← byteAt payload 1
    return some ⟨state, subState⟩

/-- The state in a payload. -/
def parse? (payload : Bytes) : Option GatewayState :=
  Id.run (read payload)

/-- The fields of the state in a document. -/
def jsonFields (state : GatewayState) : List (String × Json) :=
  [("state", .ofNat state.state.toNat), ("sub_state", .ofNat state.subState.toNat)]

/-- The state in a diagnostic text. -/
def inspect (state : GatewayState) : Inspect :=
  .record "GatewayState"
    [("state", .nat state.state.toNat), ("sub_state", .nat state.subState.toNat)]

end GatewayState

end ShutterGateway
