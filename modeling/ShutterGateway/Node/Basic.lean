import ShutterGateway.Bytes.Reading
import ShutterGateway.Calendar
import ShutterGateway.Text.Name
import ShutterGateway.Value.NodeStatus
import ShutterGateway.Value.NodeType
import ShutterGateway.Value.Position
import ShutterGateway.Value.Velocity

/-!
Nodes, the shutters, windows, blinds and lights that a gateway drives, as the gateway's
notifications describe them. A description takes 124 bytes:

    0 id              1 order, two bytes     3 placement             4 name, 64 bytes
    68 velocity       69 type, two bytes     71 product group        72 product type
    73 variation      74 power mode          75 build number         76 serial number, 8 bytes
    84 state          85 position            87 target               89 functional positions
    97 remaining time 99 last command        103 number of aliases   104 aliases, five of 4 bytes

Bytes after these are ignored, and so are bytes of the name after its first zero and aliases
beyond the number that is given.
-/

namespace ShutterGateway

/-- An additional name of a node, as a type and a value. -/
structure Alias where
  type : UInt16
  value : UInt16
  deriving DecidableEq, Repr

/-- The description of a node. -/
structure Node where
  id : UInt8
  order : UInt16
  placement : UInt8
  name : String
  velocity : Velocity
  type : NodeType
  subtype : UInt8
  productGroup : UInt8
  productType : UInt8
  variation : NodeVariation
  powerMode : PowerMode
  buildNumber : UInt8
  /-- Eight bytes. -/
  serialNumber : Bytes
  state : NodeState
  position : Position
  target : Position
  /-- The positions of the first four functional parameters. -/
  functionalPositions : List Position
  remainingTime : UInt16
  /-- When the node was last ordered to move, in seconds from the start of 1970. -/
  lastCommand? : Option UInt32
  aliases : List Alias
  deriving DecidableEq, Repr

namespace Node

/-- The size of a description. -/
def payloadSize : Nat := 124

/-- The most aliases that a description has room for. -/
def maxAliases : Nat := 5

section

variable {m : Type → Type} [Reading m]

/-- The positions in so many fields, one after another. -/
def readPositions (payload : Bytes) (offset : Nat) : Nat → m (List Position)
  | 0 => return []
  | count + 1 => do
    let raw ← wordAt payload offset
    let rest ← readPositions payload (offset + 2) count
    return ⟨raw⟩ :: rest

/-- The aliases in so many fields, one after another. -/
def readAliases (payload : Bytes) (offset : Nat) : Nat → m (List Alias)
  | 0 => return []
  | count + 1 => do
    let type ← wordAt payload offset
    let value ← wordAt payload (offset + 2)
    let rest ← readAliases payload (offset + 4) count
    return ⟨type, value⟩ :: rest

/-- Reads a description. -/
def read (payload : Bytes) : m (Option Node) :=
  if payload.length < payloadSize then return none
  else do
    let id ← byteAt payload 0
    let order ← wordAt payload 1
    let placement ← byteAt payload 3
    let name ← sliceAt payload 4 NameField.size
    let velocity ← byteAt payload 68
    let type ← wordAt payload 69
    let productGroup ← byteAt payload 71
    let productType ← byteAt payload 72
    let variation ← byteAt payload 73
    let powerMode ← byteAt payload 74
    let buildNumber ← byteAt payload 75
    let serialNumber ← sliceAt payload 76 8
    let state ← byteAt payload 84
    let position ← wordAt payload 85
    let target ← wordAt payload 87
    let functionalPositions ← readPositions payload 89 4
    let remainingTime ← wordAt payload 97
    let lastCommand ← longAt payload 99
    let count ← byteAt payload 103
    let aliases ← readAliases payload 104 (min count.toNat maxAliases)
    return some
      { id := id
        order := order
        placement := placement
        name := NameField.decode name
        velocity := .ofCode velocity
        type := .ofCode (NodeType.split type).1
        subtype := (NodeType.split type).2
        productGroup := productGroup
        productType := productType
        variation := .ofCode variation
        powerMode := .ofCode powerMode
        buildNumber := buildNumber
        serialNumber := serialNumber
        state := .ofCode state
        position := ⟨position⟩
        target := ⟨target⟩
        functionalPositions := functionalPositions
        remainingTime := remainingTime
        lastCommand? := if lastCommand = 0 then none else some lastCommand
        aliases := aliases }

end

/-- The node that a payload describes. -/
def parse? (payload : Bytes) : Option Node :=
  Id.run (read payload)

/-- The bytes of some aliases. -/
def aliasBytes (aliases : List Alias) : Bytes :=
  aliases.flatMap fun entry => wordBytes entry.type ++ wordBytes entry.value

/-- The payload that describes a node. -/
def payload (node : Node) : Bytes :=
  [node.id] ++ wordBytes node.order ++ [node.placement] ++ NameField.encode node.name
    ++ [node.velocity.code] ++ wordBytes (NodeType.join node.type.code node.subtype)
    ++ [node.productGroup, node.productType, node.variation.code, node.powerMode.code,
      node.buildNumber]
    ++ node.serialNumber ++ [node.state.code] ++ wordBytes node.position.raw
    ++ wordBytes node.target.raw ++ node.functionalPositions.flatMap (fun p => wordBytes p.raw)
    ++ wordBytes node.remainingTime ++ longBytes (node.lastCommand?.getD 0)
    ++ [UInt8.ofNat node.aliases.length] ++ padded (4 * maxAliases) (aliasBytes node.aliases)

end Node

end ShutterGateway
