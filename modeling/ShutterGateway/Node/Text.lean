import ShutterGateway.Json.Basic
import ShutterGateway.Node.Basic
import ShutterGateway.Text.Inspect
import ShutterGateway.Text.Quoted

/-!
Written forms of a node: a JSON object with a field for each part of the description, and the
diagnostic text.
-/

namespace ShutterGateway

namespace Label

/-- The label in a document: its key, with the number of a value that has no name. -/
def json (label : Label) : Json :=
  match label.number? with
  | none => .ofString label.key
  | some code => .ofFields [(label.key, .ofNat code)]

/-- The label in a diagnostic text. -/
def inspect (label : Label) : Inspect :=
  .atom label.diagnostic

end Label

namespace Position

/-- The position in a document: its number. -/
def json (position : Position) : Json :=
  .ofNat position.raw.toNat

/-- The position in a diagnostic text. -/
def inspect (position : Position) : Inspect :=
  .variant "VeluxPosition" [.nat position.raw.toNat]

end Position

namespace Alias

/-- The alias in a document. -/
def json (entry : Alias) : Json :=
  .ofFields [("alias_type", .ofNat entry.type.toNat), ("value", .ofNat entry.value.toNat)]

/-- The alias in a diagnostic text. -/
def inspect (entry : Alias) : Inspect :=
  .record "NodeAlias" [("alias_type", .nat entry.type.toNat), ("value", .nat entry.value.toNat)]

end Alias

namespace Node

/-- The text of the time of the last order. -/
def lastCommandText? (node : Node) : Option String :=
  node.lastCommand?.map fun seconds => UnixTime.text seconds.toNat

/-- The node in a document. -/
def json (node : Node) : Json :=
  .ofFields
    [("node_id", .ofNat node.id.toNat),
     ("order", .ofNat node.order.toNat),
     ("placement", .ofNat node.placement.toNat),
     ("name", .ofString node.name),
     ("velocity", node.velocity.label.json),
     ("node_type", node.type.label.json),
     ("node_subtype", .ofNat node.subtype.toNat),
     ("product_group", .ofNat node.productGroup.toNat),
     ("product_type", .ofNat node.productType.toNat),
     ("variation", node.variation.label.json),
     ("power_mode", node.powerMode.label.json),
     ("build_number", .ofNat node.buildNumber.toNat),
     ("serial_number", .array (node.serialNumber.map fun b => .ofNat b.toNat)),
     ("state", node.state.label.json),
     ("current_position", node.position.json),
     ("target_position", node.target.json),
     ("functional_positions", .array (node.functionalPositions.map Position.json)),
     ("remaining_time", .ofNat node.remainingTime.toNat),
     ("last_command", .ofOption (node.lastCommandText?.map .ofString)),
     ("aliases", .array (node.aliases.map Alias.json))]

/-- The node in a diagnostic text. -/
def inspect (node : Node) : Inspect :=
  .record "VeluxNode"
    [("node_id", .nat node.id.toNat),
     ("order", .nat node.order.toNat),
     ("placement", .nat node.placement.toNat),
     ("name", .atom (quoted node.name)),
     ("velocity", node.velocity.label.inspect),
     ("node_type", node.type.label.inspect),
     ("node_subtype", .nat node.subtype.toNat),
     ("product_group", .nat node.productGroup.toNat),
     ("product_type", .nat node.productType.toNat),
     ("variation", node.variation.label.inspect),
     ("power_mode", node.powerMode.label.inspect),
     ("build_number", .nat node.buildNumber.toNat),
     ("serial_number", .list (node.serialNumber.map fun b => .nat b.toNat)),
     ("state", node.state.label.inspect),
     ("current_position", node.position.inspect),
     ("target_position", node.target.inspect),
     ("functional_positions", .list (node.functionalPositions.map Position.inspect)),
     ("remaining_time", .nat node.remainingTime.toNat),
     ("last_command", .option (node.lastCommandText?.map .atom)),
     ("aliases", .list (node.aliases.map Alias.inspect))]

end Node

end ShutterGateway
