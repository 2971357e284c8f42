import ShutterGateway.Frame.Stream

/-!
What stands at the start of some bytes. There are three cases. The bytes are too few to tell, or
they start with the wire bytes of a frame, or no frame starts there: the length byte is none, or the
check sum of the bytes that would be a frame is wrong. The last two cases stay what they are when
more bytes arrive.
-/

namespace ShutterGateway

/-- A slice that lies inside the bytes is cut out of them. -/
theorem sliceAt_eq {bytes : Bytes} {offset size : Nat} (h : offset + size ≤ bytes.length) :
    (sliceAt bytes offset size : Id Bytes) = (bytes.drop offset).take size := by
  induction size generalizing offset with
  | zero => rfl
  | succ size ih =>
    have hoffset : offset < bytes.length := by omega
    have hbyte : bytes.getD offset 0 = bytes[offset] := by simp [hoffset]
    show bytes.getD offset 0 :: (sliceAt bytes (offset + 1) size : Id Bytes) = _
    rw [ih (by omega), List.drop_eq_getElem_cons hoffset, List.take_succ_cons, hbyte]

namespace Frame

/-! ## The three cases -/

/-- Bytes that do not tell yet whether a frame starts with them. -/
inductive Incomplete : Bytes → Prop where
  | empty : Incomplete []
  | cut {length : UInt8} {rest : Bytes} (valid : IsLength length)
    (short : rest.length < length.toNat) : Incomplete (length :: rest)

/-- Bytes at whose start there is no frame, whatever follows. -/
inductive Bad : Bytes → Prop where
  | length {length : UInt8} {rest : Bytes} (invalid : ¬ IsLength length) : Bad (length :: rest)
  | checksum {frame : Frame} {actual : UInt8} {rest : Bytes}
    (fits : frame.payload.length ≤ maxPayload) (wrong : xorSum frame.body ≠ actual) :
    Bad (frame.body ++ actual :: rest)

/-- Bytes that start with the wire bytes of a frame. -/
def StartsFrame (bytes : Bytes) : Prop :=
  ∃ frame wire rest, encode frame = .ok wire ∧ bytes = wire ++ rest

theorem encode_eq_ok_iff {frame : Frame} {wire : Bytes} :
    frame.encode = .ok wire
      ↔ frame.payload.length ≤ maxPayload ∧ wire = frame.body ++ [xorSum frame.body] := by
  unfold encode
  split
  · rename_i fits
    rw [Except.ok.injEq]
    exact ⟨fun h => ⟨fits, h.symm⟩, fun h => h.2.symm⟩
  · rename_i large
    exact ⟨nofun, fun h => absurd h.1 large⟩

theorem length_body (frame : Frame) : frame.body.length = frame.payload.length + 3 := by
  simp only [body, List.cons_append, List.length_cons, List.length_append, length_wordBytes]
  omega

theorem toNat_length {frame : Frame} (fits : frame.payload.length ≤ maxPayload) :
    (UInt8.ofNat (frame.payload.length + 3)).toNat = frame.payload.length + 3 := by
  unfold maxPayload at fits
  rw [UInt8.toNat_ofNat']
  omega

theorem isLength_ofNat {frame : Frame} (fits : frame.payload.length ≤ maxPayload) :
    IsLength (UInt8.ofNat (frame.payload.length + 3)) := by
  unfold IsLength
  rw [toNat_length fits]
  omega

/-- Bytes that are enough for their length byte are the body of a frame, one more byte and what
follows. -/
theorem exists_body {length : UInt8} {rest : Bytes} (valid : IsLength length)
    (enough : length.toNat ≤ rest.length) :
    ∃ (frame : Frame) (actual : UInt8) (more : Bytes),
      frame.payload.length ≤ maxPayload ∧ length :: rest = frame.body ++ actual :: more := by
  obtain ⟨low, high⟩ := valid
  match rest, enough with
  | [], enough => simp only [List.length_nil] at enough; omega
  | [_], enough => simp only [List.length_cons, List.length_nil] at enough; omega
  | hi :: lo :: tail, enough =>
    simp only [List.length_cons] at enough
    have hpayload : (tail.take (length.toNat - 3)).length = length.toNat - 3 := by
      rw [List.length_take]
      omega
    have hactual : length.toNat - 3 < tail.length := by omega
    refine ⟨⟨joinWord hi lo, tail.take (length.toNat - 3)⟩, tail[length.toNat - 3],
      tail.drop (length.toNat - 3 + 1), by rw [hpayload]; omega, ?_⟩
    have hlength : UInt8.ofNat ((tail.take (length.toNat - 3)).length + 3) = length := by
      rw [hpayload, Nat.sub_add_cancel low]
      exact UInt8.ofNat_toNat
    simp only [body, hlength, wordBytes_joinWord, List.cons_append, List.nil_append]
    rw [← List.drop_eq_getElem_cons hactual, List.take_append_drop]

/-- Every byte string is in one of the three cases. -/
theorem cases_of_bytes (bytes : Bytes) : Incomplete bytes ∨ StartsFrame bytes ∨ Bad bytes := by
  cases bytes with
  | nil => exact .inl .empty
  | cons length rest =>
    by_cases valid : IsLength length
    · by_cases short : rest.length < length.toNat
      · exact .inl (.cut valid short)
      · obtain ⟨frame, actual, more, fits, hbody⟩ := exists_body valid (Nat.not_lt.mp short)
        rw [hbody]
        by_cases right : xorSum frame.body = actual
        · refine .inr (.inl ⟨frame, _, more, encode_eq_ok_iff.mpr ⟨fits, rfl⟩, ?_⟩)
          rw [right, List.append_assoc]
          rfl
        · exact .inr (.inr (.checksum fits right))
    · exact .inr (.inr (.length valid))

/-! ## What is read -/

theorem decodeLeading_of_incomplete {bytes : Bytes} (h : Incomplete bytes) :
    decodeLeading bytes = .ok none := by
  cases h with
  | empty => rfl
  | cut valid short =>
    unfold decodeLeading readLeading
    simp only [if_pos valid, List.length_cons]
    rw [if_pos (by omega)]
    rfl

theorem decodeLeading_of_invalid {length : UInt8} (rest : Bytes) (invalid : ¬ IsLength length) :
    decodeLeading (length :: rest) = .error (.invalidLength length) := by
  unfold decodeLeading readLeading
  simp only [if_neg invalid]
  rfl

theorem decodeLeading_of_enough {length : UInt8} {rest : Bytes} (valid : IsLength length)
    (enough : length.toNat ≤ rest.length) :
    decodeLeading (length :: rest) =
      (let bytes := length :: rest
      let sum := xorSum (bytes.take length.toNat)
      let actual := bytes.getD length.toNat 0
      if sum = actual then
        .ok (some (⟨joinWord (bytes.getD 1 0) (bytes.getD 2 0),
          (bytes.drop 3).take (length.toNat - 3)⟩, length.toNat + 1))
      else .error (.checksumMismatch sum actual)) := by
  have low := valid.1
  have hbody : (sliceAt (length :: rest) 0 (length.toNat + 1 - 1) : Id Bytes)
      = (length :: rest).take length.toNat :=
    sliceAt_eq (by simp only [List.length_cons]; omega)
  have hpayload : (sliceAt (length :: rest) 3 (length.toNat + 1 - 4) : Id Bytes)
      = ((length :: rest).drop 3).take (length.toNat - 3) :=
    sliceAt_eq (by simp only [List.length_cons]; omega)
  unfold decodeLeading readLeading
  simp only [if_pos valid, List.length_cons]
  rw [if_neg (by omega), hbody, hpayload]
  show (if _ then _ else _ : Id _) = _
  split
  · rename_i right
    exact (if_pos right).symm
  · rename_i wrong
    exact (if_neg wrong).symm

/-- A complete candidate is decided by its check sum. -/
theorem decodeLeading_body {frame : Frame} (fits : frame.payload.length ≤ maxPayload)
    (actual : UInt8) (rest : Bytes) :
    decodeLeading (frame.body ++ actual :: rest)
      = if xorSum frame.body = actual then .ok (some (frame, frame.wireLength))
        else .error (.checksumMismatch (xorSum frame.body) actual) := by
  have hcons : frame.body ++ actual :: rest = UInt8.ofNat (frame.payload.length + 3)
      :: (wordBytes frame.code ++ frame.payload ++ actual :: rest) := rfl
  have hlength := toNat_length fits
  have hbody : (frame.body ++ actual :: rest).take (frame.payload.length + 3) = frame.body :=
    List.take_left' (length_body frame)
  have hactual : (frame.body ++ actual :: rest).getD (frame.payload.length + 3) 0 = actual := by
    rw [← length_body frame]
    simp
  have hcode : joinWord ((frame.body ++ actual :: rest).getD 1 0)
      ((frame.body ++ actual :: rest).getD 2 0) = frame.code := joinWord_wordBytes frame.code
  have hpayload : ((frame.body ++ actual :: rest).drop 3).take frame.payload.length
      = frame.payload := List.take_left
  rw [hcons] at hbody hactual hcode hpayload ⊢
  rw [decodeLeading_of_enough (isLength_ofNat fits)]
  · simp only [hlength, Nat.add_sub_cancel, hbody, hactual, hcode, hpayload]
    rfl
  · simp only [hlength, List.length_append, List.length_cons, length_wordBytes]
    omega

/-- The wire bytes of a frame are read as the frame, whatever follows. -/
theorem decodeLeading_encode {frame : Frame} {wire : Bytes} (h : frame.encode = .ok wire)
    (rest : Bytes) : decodeLeading (wire ++ rest) = .ok (some (frame, wire.length)) := by
  obtain ⟨fits, rfl⟩ := encode_eq_ok_iff.mp h
  have hwire : (frame.body ++ [xorSum frame.body]).length = frame.wireLength := by
    rw [List.length_append, length_body]
    rfl
  rw [List.append_assoc, hwire]
  exact (decodeLeading_body fits _ rest).trans (if_pos rfl)

/-- Where no frame starts the same error is met, whatever follows. -/
theorem decodeLeading_of_bad {bytes : Bytes} (h : Bad bytes) :
    ∃ error, ∀ more, decodeLeading (bytes ++ more) = .error error := by
  cases h with
  | length invalid => exact ⟨_, fun more => decodeLeading_of_invalid (_ ++ more) invalid⟩
  | @checksum frame actual rest fits wrong =>
    refine ⟨.checksumMismatch (xorSum frame.body) actual, fun more => ?_⟩
    rw [List.append_assoc]
    exact (decodeLeading_body fits actual (rest ++ more)).trans (if_neg wrong)

theorem exists_error_of_bad {bytes : Bytes} (h : Bad bytes) :
    ∃ error, decodeLeading bytes = .error error := by
  obtain ⟨error, herror⟩ := decodeLeading_of_bad h
  have hread := herror []
  rw [List.append_nil] at hread
  exact ⟨error, hread⟩

/-- An error stays the error when more bytes arrive. -/
theorem decodeLeading_append_of_error {bytes : Bytes} {error : FrameError}
    (h : decodeLeading bytes = .error error) (more : Bytes) :
    decodeLeading (bytes ++ more) = .error error := by
  rcases cases_of_bytes bytes with incomplete | ⟨frame, wire, rest, encoded, rfl⟩ | bad
  · rw [decodeLeading_of_incomplete incomplete] at h
    cases h
  · rw [decodeLeading_encode encoded] at h
    cases h
  · -- With nothing more the error is the one that was met.
    obtain ⟨met, hmet⟩ := decodeLeading_of_bad bad
    have hfirst := hmet []
    rw [List.append_nil, h] at hfirst
    cases hfirst
    exact hmet more

/-- Where no frame starts none starts when more bytes have arrived. -/
theorem Bad.append {bytes : Bytes} (h : Bad bytes) (more : Bytes) : Bad (bytes ++ more) := by
  cases h with
  | length invalid => exact .length invalid
  | checksum fits wrong =>
    rw [List.append_assoc]
    exact .checksum fits wrong

/-- The three cases exclude each other, since they are read differently. -/
theorem not_startsFrame_of_bad {bytes : Bytes} (h : Bad bytes) : ¬ StartsFrame bytes := by
  rintro ⟨frame, wire, rest, encoded, rfl⟩
  obtain ⟨error, hread⟩ := exists_error_of_bad h
  rw [decodeLeading_encode encoded] at hread
  cases hread

/-- What waits for more bytes is shorter than the longest frame. -/
theorem Incomplete.length_le {bytes : Bytes} (h : Incomplete bytes) :
    bytes.length ≤ maxPayload + 3 := by
  cases h with
  | empty => exact Nat.zero_le _
  | cut valid short =>
    have high := valid.2
    simp only [List.length_cons]
    omega

end Frame

end ShutterGateway
