import ShutterGateway.Bytes.Basic

/-!
Reading fields of a byte string at fixed offsets. A layout is written once, for any way of
reading, and is then run in one of two ways. The plain way answers zero beyond the end and is
what the library computes with. The checked way reports the first offset that lies outside, so
that a layout which never fails under it looks only at bytes that are there.
-/

namespace ShutterGateway

/-- A read at an offset that the byte string does not have. -/
structure OutOfRange where
  offset : Nat
  size : Nat
  deriving DecidableEq, Repr

/-- A way to look at one byte of a byte string. -/
class Reading (m : Type → Type) extends Monad m where
  byteAt : Bytes → Nat → m UInt8

export Reading (byteAt)

/-- Plain reading: a byte beyond the end is zero. -/
instance : Reading Id where
  byteAt bytes offset := bytes.getD offset 0

/-- Checked reading: a byte beyond the end is reported. -/
instance : Reading (Except OutOfRange) where
  byteAt bytes offset :=
    match bytes[offset]? with
    | some b => .ok b
    | none => .error ⟨offset, bytes.length⟩

variable {m : Type → Type} [Reading m]

/-- The sixteen-bit number at an offset. -/
def wordAt (bytes : Bytes) (offset : Nat) : m UInt16 := do
  let hi ← byteAt bytes offset
  let lo ← byteAt bytes (offset + 1)
  return joinWord hi lo

/-- The thirty-two-bit number at an offset. -/
def longAt (bytes : Bytes) (offset : Nat) : m UInt32 := do
  let b₃ ← byteAt bytes offset
  let b₂ ← byteAt bytes (offset + 1)
  let b₁ ← byteAt bytes (offset + 2)
  let b₀ ← byteAt bytes (offset + 3)
  return joinLong b₃ b₂ b₁ b₀

/-- The `size` bytes from an offset on. -/
def sliceAt (bytes : Bytes) (offset : Nat) : Nat → m Bytes
  | 0 => return []
  | size + 1 => do
    let b ← byteAt bytes offset
    let rest ← sliceAt bytes (offset + 1) size
    return b :: rest

end ShutterGateway
