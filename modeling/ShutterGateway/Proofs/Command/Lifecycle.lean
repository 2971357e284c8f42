import ShutterGateway.Command.Basic

/-!
The life of a command. What an answer does is written out without the way of reading, and from
that: no operation changes what a command asks for, failing a command ends it, a command that is
over stays as it is, and every command but one that ends the processor has a frame.
-/

namespace ShutterGateway

/-- A frame has an opcode if it has the opcode's number. -/
theorem Frame.opcode?_eq_some_iff {frame : Frame} {opcode : Opcode} :
    frame.opcode? = some opcode ↔ frame.code = opcode.code := by
  constructor
  · exact fun h => (Opcode.code_of_ofCode? h).symm
  · intro h
    rw [opcode?, h, Opcode.ofCode?_code]

namespace Command

/-- What an answer that the command understands brings, and what it means. -/
def answered (command : Command) (opcode : Opcode) (payload : Bytes) : Findings × Verdict :=
  Id.run (command.request.readAnswer opcode payload command.findings)

theorem answered_of_request {command : Command} {request : Request}
    (h : command.request = request) (opcode : Opcode) (payload : Bytes) :
    command.answered opcode payload
      = Id.run (request.readAnswer opcode payload command.findings) := by
  rw [answered, h]

theorem respond_eq (command : Command) (frame : Frame) :
    command.respond frame =
      if command.isTerminal then command
      else
        match frame.opcode?.filter (command.descriptor.expects ·) with
        | none => command.fail (.protocol (.unexpectedOpcode frame.code))
        | some .errorNtf =>
          command.fail (.rejected (.gateway (.ofCode (frame.payload.head?.getD 0))))
        | some opcode =>
          command.conclude (command.answered opcode frame.payload).1
            (command.answered opcode frame.payload).2 := by
  unfold respond readResponse
  split
  · rfl
  · generalize frame.opcode?.filter _ = understood
    match understood with
    | none => rfl
    | some opcode => cases opcode <;> rfl

theorem accepts_eq (command : Command) (frame : Frame) :
    command.accepts frame =
      match frame.opcode? with
      | none => false
      | some opcode =>
        command.descriptor.expects opcode
          && ((opcode.sessionOf? frame.payload).isNone
            || command.session? = opcode.sessionOf? frame.payload)
          && ((opcode.nodeOf? frame.payload).isNone || command.request.target?.isNone
            || command.request.target? = opcode.nodeOf? frame.payload) := by
  unfold accepts readAccepts
  cases frame.opcode? with
  | none => rfl
  | some opcode =>
    by_cases h : command.descriptor.expects opcode
    · simp [h, Opcode.sessionOf?, Opcode.nodeOf?, Id.run]
      rfl
    · simp [h, Id.run]
      rfl

/-! ## Ends -/

theorem isTerminal_iff {command : Command} : command.isTerminal ↔ command.status ≠ .pending := by
  cases h : command.status <;> simp [isTerminal, Status.isTerminal, h]

theorem respond_of_isTerminal {command : Command} (h : command.isTerminal) (frame : Frame) :
    command.respond frame = command := by
  rw [respond_eq, if_pos h]

theorem fail_of_isTerminal {command : Command} (h : command.isTerminal) (error : CommandError) :
    command.fail error = command := by
  rw [fail, if_pos h]

/-- Only a command that is not over yet takes the error. -/
theorem status_fail (command : Command) (error : CommandError) :
    (command.fail error).status
      = if command.isTerminal then command.status else .failed error := by
  unfold fail
  split <;> rfl

@[simp] theorem isTerminal_fail (command : Command) (error : CommandError) :
    (command.fail error).isTerminal := by
  unfold fail
  split
  · assumption
  · rfl

@[simp] theorem findings_fail (command : Command) (error : CommandError) :
    (command.fail error).findings = command.findings := by
  unfold fail
  split <;> rfl

@[simp] theorem findings_conclude (command : Command) (findings : Findings) (verdict : Verdict) :
    (command.conclude findings verdict).findings = findings := by
  cases verdict <;> rfl

/-! ## What a command asks for stays the same -/

@[simp] theorem request_fail (command : Command) (error : CommandError) :
    (command.fail error).request = command.request := by
  unfold fail
  split <;> rfl

theorem kind_fail (command : Command) (error : CommandError) :
    (command.fail error).kind = command.kind :=
  congrArg Request.kind (request_fail command error)

@[simp] theorem session?_fail (command : Command) (error : CommandError) :
    (command.fail error).session? = command.session? := by
  unfold fail
  split <;> rfl

@[simp] theorem request_conclude (command : Command) (findings : Findings) (verdict : Verdict) :
    (command.conclude findings verdict).request = command.request := by
  cases verdict <;> rfl

@[simp] theorem session?_conclude (command : Command) (findings : Findings) (verdict : Verdict) :
    (command.conclude findings verdict).session? = command.session? := by
  cases verdict <;> rfl

@[simp] theorem request_respond (command : Command) (frame : Frame) :
    (command.respond frame).request = command.request := by
  rw [respond_eq]
  split
  · rfl
  · split <;> simp

@[simp] theorem session?_respond (command : Command) (frame : Frame) :
    (command.respond frame).session? = command.session? := by
  rw [respond_eq]
  split
  · rfl
  · split <;> simp

@[simp] theorem request_assignSession (session : UInt16) (command : Command) :
    (command.assignSession session).request = command.request := by
  unfold assignSession
  split <;> rfl

/-! ## Frames -/

/-- The frame of a command depends on what it asks for and on its session, and on nothing else. -/
theorem frame?_congr {a b : Command} (request : a.request = b.request)
    (session : a.session? = b.session?) : a.frame? = b.frame? := by
  obtain ⟨_, _, _, _⟩ := a
  obtain ⟨_, _, _, _⟩ := b
  cases request
  cases session
  rfl

@[simp] theorem frame?_fail (command : Command) (error : CommandError) :
    (command.fail error).frame? = command.frame? :=
  frame?_congr (by simp) (by simp)

@[simp] theorem frame?_respond (command : Command) (frame : Frame) :
    (command.respond frame).frame? = command.frame? :=
  frame?_congr (by simp) (by simp)

end Command

namespace Request

theorem length_sessionHeader (session : UInt16) : (sessionHeader session).length = 4 := rfl

theorem length_positionPayload (session : UInt16) (batch : PositionBatch) :
    (positionPayload session batch).length = 66 := by
  have values : ((List.range (1 + functionalParameters)).map fun _ => 2).sum = 34 := rfl
  simp only [positionPayload, List.length_append, length_sessionHeader, Indicators.bytes,
    List.length_flatMap, length_wordBytes, values, length_padded, List.length_cons,
    List.length_nil, maxInstructions]

theorem length_modePayload (session : UInt16) (batch : ModeBatch) :
    (modePayload session batch).length = 66 := by
  simp only [modePayload, List.length_append, length_sessionHeader, length_padded,
    List.length_cons, List.length_nil]

/-- No payload has more bytes than the table of exchanges allows. -/
theorem length_payload_le (session : UInt16) (request : Request) :
    (request.payload session).length ≤ request.kind.descriptor.maxPayload := by
  cases request with
  | sendPosition batch => exact Nat.le_of_eq (length_positionPayload session batch)
  | sendMode batch => exact Nat.le_of_eq (length_modePayload session batch)
  | setNodeName node name =>
    simp [payload, kind, CommandKind.descriptor, NameField.encode, Nat.add_comm]
  | login password => exact Nat.le_of_eq (length_padded passwordSize (utf8 password.text))
  | _ => simp [payload, kind, CommandKind.descriptor, sessionHeader]

end Request

namespace Command

/-- Only the command that ends the processor has no frame. -/
theorem frame?_eq_ok {command : Command} (h : command.kind ≠ .terminate) :
    ∃ opcode, command.descriptor.request? = some opcode
      ∧ command.frame? = .ok ⟨opcode.code, command.payload⟩ := by
  have hfits : ¬ command.descriptor.maxPayload < command.payload.length :=
    Nat.not_lt.mpr (Request.length_payload_le _ _)
  have hopcode : ∃ opcode, command.descriptor.request? = some opcode := by
    unfold descriptor
    cases hkind : command.kind <;> simp_all [CommandKind.descriptor]
  obtain ⟨opcode, hopcode⟩ := hopcode
  refine ⟨opcode, hopcode, ?_⟩
  simp only [frame?, hopcode, if_neg hfits]

end Command

end ShutterGateway
