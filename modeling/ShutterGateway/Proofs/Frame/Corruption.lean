import ShutterGateway.Proofs.Bytes.Flips
import ShutterGateway.Proofs.Frame.Codec

/-!
Corrupted frames. The wire bytes of a frame have the exclusive or zero, and of the byte strings of
the same length exactly those are read as a frame that have it too and start with the same length
byte: a frame with another length byte ends elsewhere. So whatever changes the exclusive or is
noticed, wherever it happens.
-/

namespace ShutterGateway

/-- What happens to bytes on the wire so that as many other bytes arrive. -/
inductive Corruption (sent received : Bytes) : Prop where
  /-- One byte becomes another. -/
  | byte {before after : Bytes} {old new : UInt8} (differ : new ≠ old)
    (hsent : sent = before ++ old :: after) (hreceived : received = before ++ new :: after)
  /-- An odd number of bits are flipped, wherever they are. -/
  | odd {order : BitOrder} (odd : (flips order sent received).length % 2 = 1)
  /-- Some bits are flipped, all of them among eight in a row. -/
  | burst {order : BitOrder} {start : Nat} (some : flips order sent received ≠ [])
    (close : ∀ place ∈ flips order sent received, start ≤ place ∧ place < start + 8)

theorem Corruption.xorSum_ne {sent received : Bytes} (same : received.length = sent.length)
    (corruption : Corruption sent received) : xorSum received ≠ xorSum sent := by
  cases corruption with
  | byte differ hsent hreceived =>
    rw [hsent, hreceived]
    exact xorSum_ne_of_byte differ
  | odd odd => exact xorSum_ne_of_odd same odd
  | burst some close => exact xorSum_ne_of_burst same some close

namespace Frame

variable {frame : Frame} {wire bytes : Bytes}

theorem xorSum_wire (encoded : frame.encode = .ok wire) : xorSum wire = 0 := by
  obtain ⟨-, rfl⟩ := encode_eq_ok_iff.mp encoded
  rw [xorSum_append, xorSum_singleton]
  exact UInt8.xor_self

theorem head?_wire (encoded : frame.encode = .ok wire) :
    wire.head? = some (UInt8.ofNat (frame.payload.length + 3)) := by
  obtain ⟨-, rfl⟩ := encode_eq_ok_iff.mp encoded
  rfl

/-- The length of the wire bytes says what their first byte is. -/
theorem head?_wire_of_length {other : Frame} (encoded : frame.encode = .ok wire)
    (otherwise : other.encode = .ok bytes) (same : bytes.length = wire.length) :
    bytes.head? = wire.head? := by
  have hlength : other.payload.length = frame.payload.length := by
    have hwire := length_encode encoded
    have hbytes := length_encode otherwise
    simp only [wireLength] at hwire hbytes
    omega
  rw [head?_wire encoded, head?_wire otherwise, hlength]

/-- Bytes with the length byte of a frame of the same length are the body of a frame and one byte
more. -/
theorem exists_body_of_head? (encoded : frame.encode = .ok wire)
    (same : bytes.length = wire.length) (first : bytes.head? = wire.head?) :
    ∃ (other : Frame) (actual : UInt8),
      other.payload.length ≤ maxPayload ∧ bytes = other.body ++ [actual] := by
  obtain ⟨fits, -⟩ := encode_eq_ok_iff.mp encoded
  rw [head?_wire encoded] at first
  obtain ⟨rest, rfl⟩ := List.head?_eq_some_iff.mp first
  rw [length_encode encoded, List.length_cons, wireLength, overhead] at same
  have enough : (UInt8.ofNat (frame.payload.length + 3)).toNat ≤ rest.length := by
    rw [toNat_length fits]
    omega
  obtain ⟨other, actual, more, fitting, hbody⟩ := exists_body (isLength_ofNat fits) enough
  have hfirst : other.payload.length = frame.payload.length := by
    have hbyte : UInt8.ofNat (other.payload.length + 3) = UInt8.ofNat (frame.payload.length + 3) :=
      (List.cons.inj hbody).1.symm
    have hnumber := congrArg UInt8.toNat hbyte
    rw [toNat_length fits, toNat_length fitting] at hnumber
    omega
  have hmore : more = [] := by
    have hsize := congrArg List.length hbody
    simp only [List.length_cons, List.length_append, length_body] at hsize
    apply List.eq_nil_of_length_eq_zero
    omega
  exact ⟨other, actual, fitting, hmore ▸ hbody⟩

/-- Bytes as long as a frame are a frame if and only if they start with its length byte and have the
exclusive or zero. -/
theorem exists_decode_iff (encoded : frame.encode = .ok wire)
    (same : bytes.length = wire.length) :
    (∃ other, decode bytes = .ok other) ↔ bytes.head? = wire.head? ∧ xorSum bytes = 0 := by
  constructor
  · rintro ⟨other, hread⟩
    have otherwise := encode_of_decode hread
    exact ⟨head?_wire_of_length encoded otherwise same, xorSum_wire otherwise⟩
  · rintro ⟨first, zero⟩
    obtain ⟨other, actual, fits, rfl⟩ := exists_body_of_head? encoded same first
    rw [xorSum_append, xorSum_singleton, UInt8.xor_eq_zero_iff] at zero
    exact ⟨other, decode_encode (encode_eq_ok_iff.mpr ⟨fits, by rw [zero]⟩)⟩

/-- **Corrupted frames are noticed.** Of the byte strings as long as the wire bytes of a frame
exactly those are read as a frame that have its first byte and of which the exclusive or is zero. So
nothing is read as a frame that arrives when one byte becomes another, when an odd number of bits
are flipped anywhere, the length byte and the check sum included, or when some bits are flipped
among eight in a row, whichever end of a byte goes first: an error is met. -/
theorem corruption_is_detected (encoded : frame.encode = .ok wire)
    (same : bytes.length = wire.length) :
    ((∃ other, decode bytes = .ok other) ↔ bytes.head? = wire.head? ∧ xorSum bytes = 0)
      ∧ (Corruption wire bytes → ∃ error, decode bytes = .error error) := by
  refine ⟨exists_decode_iff encoded same, ?_⟩
  intro corruption
  cases hread : decode bytes with
  | error error => exact ⟨error, rfl⟩
  | ok other =>
    have zero := ((exists_decode_iff encoded same).mp ⟨other, hread⟩).2
    exact absurd (zero.trans (xorSum_wire encoded).symm) (corruption.xorSum_ne same)

/-- The last bit of the length byte and the first bit behind it are flipped. -/
theorem corruption_is_detected_in_length :
    let frame : Frame := ⟨0x020a, [3, 1, 0]⟩
    let wire : Bytes := [6, 2, 10, 3, 1, 0, 12]
    let bytes : Bytes := [7, 130, 10, 3, 1, 0, 12]
    frame.encode = .ok wire ∧ bytes.length = wire.length ∧ Corruption wire bytes
      ∧ ((∃ other, decode bytes = .ok other) ↔ bytes.head? = wire.head? ∧ xorSum bytes = 0)
      ∧ ∃ error, decode bytes = .error error := by
  intro frame wire bytes
  have encoded : frame.encode = .ok wire := encode_eq_ok_iff.mpr ⟨by decide, by decide⟩
  have same : bytes.length = wire.length := by decide
  have close : ∀ place ∈ flips .highFirst wire bytes, 7 ≤ place ∧ place < 7 + 8 := by decide
  have corruption : Corruption wire bytes := .burst (by decide) close
  obtain ⟨accepted, refused⟩ := corruption_is_detected encoded same
  exact ⟨encoded, same, corruption, accepted, refused corruption⟩

end Frame

end ShutterGateway
