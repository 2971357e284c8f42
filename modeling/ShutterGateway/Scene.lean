import ShutterGateway.Json.Basic
import ShutterGateway.Text.Inspect
import ShutterGateway.Text.Name
import ShutterGateway.Text.Quoted

/-!
Scenes, the named arrangements of positions that a gateway stores.
-/

namespace ShutterGateway

/-- A scene. -/
structure Scene where
  id : UInt8
  name : String
  deriving DecidableEq, Repr

namespace Scene

/-- The size of a scene in a list: its number and its name. -/
def entrySize : Nat := 1 + NameField.size

/-- The scene in a document. -/
def json (scene : Scene) : Json :=
  .ofFields [("id", .ofNat scene.id.toNat), ("name", .ofString scene.name)]

/-- The scene in a diagnostic text. -/
def inspect (scene : Scene) : Inspect :=
  .record "VeluxScene" [("id", .nat scene.id.toNat), ("name", .atom (quoted scene.name))]

end Scene

end ShutterGateway
