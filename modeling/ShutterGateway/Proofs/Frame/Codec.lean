import ShutterGateway.Proofs.Bytes.InRange
import ShutterGateway.Proofs.Frame.Leading

/-!
Frames and byte strings. Each frame with a payload of at most 250 bytes has one written form, and
the byte strings that are read as a frame are exactly the written forms: what is read is written
back as the same bytes, and every other byte string is refused with an error. No byte is looked at
that is not there.
-/

namespace ShutterGateway

namespace Frame

/-! ## Writing -/

theorem length_encode {frame : Frame} {wire : Bytes} (h : frame.encode = .ok wire) :
    wire.length = frame.wireLength := by
  obtain ⟨-, rfl⟩ := encode_eq_ok_iff.mp h
  rw [List.length_append, length_body]
  rfl

theorem exists_encode_iff {frame : Frame} :
    (∃ wire, frame.encode = .ok wire) ↔ frame.payload.length ≤ maxPayload := by
  constructor
  · rintro ⟨wire, h⟩
    exact (encode_eq_ok_iff.mp h).1
  · intro fits
    exact ⟨_, encode_eq_ok_iff.mpr ⟨fits, rfl⟩⟩

/-! ## Reading -/

theorem decode_eq (bytes : Bytes) :
    decode bytes =
      match decodeLeading bytes with
      | .error e => .error e
      | .ok (some (frame, used)) =>
        if used = bytes.length then .ok frame else .error (.trailingBytes (bytes.length - used))
      | .ok none =>
        if bytes.length < overhead then .error (.tooShort bytes.length)
        else .error (.truncated ((bytes.getD 0 0).toNat + 1) bytes.length) := by
  unfold decode readWhole decodeLeading
  generalize (readLeading bytes : Id _) = leading
  rcases leading with e | _ | ⟨frame, used⟩
  · rfl
  · show Id.run (if _ then _ else _) = if _ then _ else _
    split <;> rfl
  · show Id.run (if _ then _ else _) = if _ then _ else _
    split <;> rfl

/-- The written form of a frame is read as the frame. -/
theorem decode_encode {frame : Frame} {wire : Bytes} (h : frame.encode = .ok wire) :
    decode wire = .ok frame := by
  have hleading := decodeLeading_encode h []
  rw [List.append_nil] at hleading
  rw [decode_eq, hleading]
  exact if_pos rfl

/-- Only the written form of a frame is read as the frame. -/
theorem encode_of_decode {frame : Frame} {bytes : Bytes} (h : decode bytes = .ok frame) :
    frame.encode = .ok bytes := by
  rw [decode_eq] at h
  rcases cases_of_bytes bytes with incomplete | ⟨started, wire, rest, encoded, rfl⟩ | bad
  · rw [decodeLeading_of_incomplete incomplete] at h
    simp only at h
    split at h <;> cases h
  · -- The bytes start with a frame, and nothing is left behind it.
    rw [decodeLeading_encode encoded] at h
    simp only at h
    split at h
    · rename_i whole
      cases h
      rw [List.length_append, Nat.left_eq_add] at whole
      obtain rfl := List.length_eq_zero_iff.mp whole
      rw [List.append_nil]
      exact encoded
    · cases h
  · obtain ⟨error, hread⟩ := exists_error_of_bad bad
    rw [hread] at h
    cases h

theorem decode_eq_ok_iff {frame : Frame} {bytes : Bytes} :
    decode bytes = .ok frame ↔ frame.encode = .ok bytes :=
  ⟨encode_of_decode, decode_encode⟩

/-! ## Bytes that are looked at -/

theorem inRange_readLeading (bytes : Bytes) :
    InRange (readLeading bytes) (readLeading bytes) := by
  cases bytes with
  | nil => exact .pure _
  | cons length rest =>
    unfold readLeading
    by_cases valid : IsLength length
    · have low := valid.1
      simp only [if_pos valid]
      by_cases short : (length :: rest).length < length.toNat + 1
      · simp only [if_pos short]
        exact .pure _
      · -- The length byte says that the last byte of the frame is there.
        simp only [if_neg short]
        refine (inRange_sliceAt (by omega)).bind ?_
        refine (inRange_byteAt (by omega)).bind ?_
        refine (inRange_wordAt (by omega)).bind ?_
        refine (inRange_sliceAt (by omega)).bind ?_
        split
        · exact .pure _
        · exact .pure _
    · simp only [if_neg valid]
      exact .pure _

theorem inRange_readWhole (bytes : Bytes) : InRange (readWhole bytes) (readWhole bytes) := by
  refine (inRange_readLeading bytes).bind ?_
  generalize Id.run (readLeading bytes) = leading
  match leading with
  | .error e => exact .pure _
  | .ok (some (frame, used)) =>
    show InRange (if _ then _ else _) (if _ then _ else _)
    split
    · exact .pure _
    · exact .pure _
  | .ok none =>
    show InRange (if _ then _ else _) (if _ then _ else _)
    split
    · exact .pure _
    · rename_i enough
      unfold overhead at enough
      exact (inRange_byteAt (by omega)).bind (.pure _)

/-- **Frames are exactly the byte strings that can be read.** A frame can be written if and only if
its payload has at most 250 bytes, and then takes as many bytes as its length on the wire says.
Bytes are read as a frame if and only if the frame is written as these bytes, so that all bytes but
the written forms meet an error. Reading looks at no byte that is not there. -/
theorem decode_inverse_of_encode (frame : Frame) (bytes : Bytes) :
    ((∃ wire, frame.encode = .ok wire) ↔ frame.payload.length ≤ 250)
      ∧ (frame.encode = .ok bytes → bytes.length = frame.wireLength)
      ∧ (decode bytes = .ok frame ↔ frame.encode = .ok bytes)
      ∧ ((∃ error, decode bytes = .error error) ↔ ∀ other : Frame, other.encode ≠ .ok bytes)
      ∧ (readWhole bytes : Except OutOfRange (Except FrameError Frame)) = .ok (decode bytes) := by
  refine ⟨exists_encode_iff, length_encode, decode_eq_ok_iff, ?_, inRange_readWhole bytes⟩
  constructor
  · rintro ⟨error, refused⟩ other encoded
    rw [decode_encode encoded] at refused
    cases refused
  · intro foreign
    cases hread : decode bytes with
    | error error => exact ⟨error, rfl⟩
    | ok other => exact absurd (encode_of_decode hread) (foreign other)

end Frame

end ShutterGateway
