import ShutterGateway.Text.Utf8

/-!
Name fields. The name of a node or a scene is UTF-8 text in a field of 64 bytes, filled up with
zeros, and reaches up to the first zero.
-/

namespace ShutterGateway

namespace NameField

/-- The size of a name field. -/
def size : Nat := 64

/-- The name in a field. -/
def decode (field : Bytes) : String :=
  Utf8.decode (field.takeWhile (· ≠ 0))

/-- The field of a name. -/
def encode (name : String) : Bytes :=
  padded size (utf8 name)

/-- Whether a name fits its field. -/
def holds (name : String) : Bool :=
  (utf8 name).length ≤ size

end NameField

end ShutterGateway
