import ShutterGateway.Bytes.Reading
import ShutterGateway.Text.Hex

/-!
Frames, the units of the gateway's wire protocol. A frame is written as

    length | opcode, two bytes | payload | checksum

where the length byte counts the payload and three bytes more, so that a frame takes one byte
more than its length byte says. The checksum is the exclusive or of every byte before it, the
length included. A payload has at most 250 bytes.
-/

namespace ShutterGateway

/-- An opcode with its payload. -/
structure Frame where
  code : UInt16
  payload : Bytes
  deriving DecidableEq, Repr, Inhabited

/-- Why bytes are not a frame, or a frame has no bytes. -/
inductive FrameError where
  /-- Fewer bytes than the smallest frame has. -/
  | tooShort (size : Nat)
  /-- A length byte that no frame starts with. -/
  | invalidLength (byte : UInt8)
  /-- The frame goes on beyond the bytes at hand. -/
  | truncated (declared available : Nat)
  /-- Bytes follow the frame. -/
  | trailingBytes (count : Nat)
  | checksumMismatch (expected actual : UInt8)
  | payloadTooLarge (size limit : Nat)
  deriving DecidableEq, Repr

namespace FrameError

/-- The wording of a frame error. -/
def message : FrameError → String
  | tooShort size => s!"frame too short: {size} bytes"
  | invalidLength byte => s!"invalid length byte {byte.toNat}"
  | truncated declared available =>
    s!"truncated frame: declared {declared} bytes, have {available}"
  | trailingBytes count => s!"{count} trailing bytes after frame"
  | checksumMismatch expected actual =>
    "checksum mismatch: expected " ++ hexLiteral 2 expected.toNat ++ ", got "
      ++ hexLiteral 2 actual.toNat
  | payloadTooLarge size limit => s!"payload too large: {size} bytes (max {limit})"

end FrameError

namespace Frame

/-- The most bytes a payload may have. -/
def maxPayload : Nat := 250

/-- The bytes of a frame besides its payload. -/
def overhead : Nat := 4

/-- The number of bytes a frame takes on the wire. -/
def wireLength (frame : Frame) : Nat :=
  frame.payload.length + overhead

/-- The bytes of a frame before its checksum. -/
def body (frame : Frame) : Bytes :=
  UInt8.ofNat (frame.payload.length + 3) :: wordBytes frame.code ++ frame.payload

/-- The wire bytes of a frame. A payload of more than 250 bytes has none. -/
def encode (frame : Frame) : Except FrameError Bytes :=
  if frame.payload.length ≤ maxPayload then
    .ok (frame.body ++ [xorSum frame.body])
  else
    .error (.payloadTooLarge frame.payload.length maxPayload)

/-- Whether a length byte can start a frame. -/
def IsLength (byte : UInt8) : Prop :=
  3 ≤ byte.toNat ∧ byte.toNat ≤ maxPayload + 3

instance (byte : UInt8) : Decidable (IsLength byte) :=
  inferInstanceAs (Decidable (_ ∧ _))

/-- Reads the frame at the start of the bytes, with the number of bytes it takes. The answer is
`none` as long as the frame is not complete. -/
def readLeading {m : Type → Type} [Reading m] (bytes : Bytes) :
    m (Except FrameError (Option (Frame × Nat))) :=
  match bytes with
  | [] => return .ok none
  | length :: _ =>
    if IsLength length then
      let total := length.toNat + 1
      if bytes.length < total then
        return .ok none
      else do
        let body ← sliceAt bytes 0 (total - 1)
        let actual ← byteAt bytes (total - 1)
        let code ← wordAt bytes 1
        let payload ← sliceAt bytes 3 (total - 4)
        if xorSum body = actual then
          return .ok (some (⟨code, payload⟩, total))
        else
          return .error (.checksumMismatch (xorSum body) actual)
    else
      return .error (.invalidLength length)

/-- The frame at the start of the bytes, with the number of bytes it takes. -/
def decodeLeading (bytes : Bytes) : Except FrameError (Option (Frame × Nat)) :=
  Id.run (readLeading bytes)

/-- Reads the frame that the bytes are. -/
def readWhole {m : Type → Type} [Reading m] (bytes : Bytes) : m (Except FrameError Frame) := do
  match ← readLeading bytes with
  | .error e => return .error e
  | .ok (some (frame, used)) =>
    if used = bytes.length then return .ok frame
    else return .error (.trailingBytes (bytes.length - used))
  | .ok none =>
    if bytes.length < overhead then return .error (.tooShort bytes.length)
    else do
      let length ← byteAt bytes 0
      return .error (.truncated (length.toNat + 1) bytes.length)

/-- The frame that the bytes are. -/
def decode (bytes : Bytes) : Except FrameError Frame :=
  Id.run (readWhole bytes)

end Frame

end ShutterGateway
