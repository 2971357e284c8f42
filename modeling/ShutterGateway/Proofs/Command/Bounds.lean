import ShutterGateway.Proofs.Bytes.Narrow
import ShutterGateway.Proofs.Command.Verdict

/-!
No answer is read beyond its end. Every layout that a payload is read by looks at the size first,
and then only at bytes that a payload of the size has. So whatever the gateway sends, reading it
with narrow offsets never fails and gives what plain reading gives.
-/

namespace ShutterGateway

/-! ## Descriptions -/

namespace Node

variable {payload : Bytes} {offset count : Nat}

theorem narrow_readPositions (inside : offset + 2 * count ≤ payload.length)
    (small : offset + 2 * count ≤ 65536) :
    (readPositions payload offset count : Narrow (List Position))
      = pure (Id.run (readPositions payload offset count)) := by
  induction count generalizing offset with
  | zero => rfl
  | succ count ih =>
    unfold readPositions
    rw [Narrow.wordAt_eq (by omega) (by omega), ih (by omega) (by omega)]
    rfl

theorem narrow_readAliases (inside : offset + 4 * count ≤ payload.length)
    (small : offset + 4 * count ≤ 65536) :
    (readAliases payload offset count : Narrow (List Alias))
      = pure (Id.run (readAliases payload offset count)) := by
  induction count generalizing offset with
  | zero => rfl
  | succ count ih =>
    unfold readAliases
    rw [Narrow.wordAt_eq (by omega) (by omega), Narrow.wordAt_eq (by omega) (by omega),
      ih (by omega) (by omega)]
    rfl

/-- The number of aliases is cut to the room that a description has for them, so that the last of
them ends where the description does. -/
theorem narrow_read (payload : Bytes) :
    (read payload : Narrow (Option Node)) = pure (parse? payload) := by
  unfold parse? read payloadSize
  split
  · rfl
  · simp (disch := omega) only [NameField.size, maxAliases, Narrow.byteAt_eq, Narrow.wordAt_eq,
      Narrow.longAt_eq, Narrow.sliceAt_eq, narrow_readPositions, narrow_readAliases, pure_bind]
    rfl

end Node

namespace GatewayVersion

theorem narrow_read (payload : Bytes) :
    (read payload : Narrow (Option GatewayVersion)) = pure (parse? payload) := by
  unfold parse? read
  split
  · rfl
  · simp (disch := omega) only [Narrow.byteAt_eq, Narrow.sliceAt_eq, pure_bind]
    rfl

end GatewayVersion

namespace ProtocolVersion

theorem narrow_read (payload : Bytes) :
    (read payload : Narrow (Option ProtocolVersion)) = pure (parse? payload) := by
  unfold parse? read
  split
  · rfl
  · simp (disch := omega) only [Narrow.wordAt_eq, pure_bind]
    rfl

end ProtocolVersion

namespace GatewayState

theorem narrow_read (payload : Bytes) :
    (read payload : Narrow (Option GatewayState)) = pure (parse? payload) := by
  unfold parse? read
  split
  · rfl
  · simp (disch := omega) only [Narrow.byteAt_eq, pure_bind]
    rfl

end GatewayState

/-! ## Where a frame belongs -/

namespace Opcode

variable (opcode : Opcode) (payload : Bytes)

/-- The end of a session number, counted from the start of the payload, is small. -/
theorem sessionOffset?_le {opcode : Opcode} {offset : Nat}
    (h : opcode.sessionOffset? = some offset) : offset ≤ 1 := by
  cases opcode <;> cases h <;> decide

theorem nodeOffset?_le {opcode : Opcode} {offset : Nat} (h : opcode.nodeOffset? = some offset) :
    offset ≤ 3 := by
  cases opcode <;> cases h <;> decide

theorem narrow_readSession :
    (opcode.readSession payload : Narrow (Option UInt16)) = pure (opcode.sessionOf? payload) := by
  unfold sessionOf? readSession
  cases hoffset : opcode.sessionOffset? with
  | none => rfl
  | some offset =>
    have hsmall := sessionOffset?_le hoffset
    dsimp only
    split
    · rfl
    · rw [Narrow.wordAt_eq (by omega) (by omega)]
      rfl

theorem narrow_readNode :
    (opcode.readNode payload : Narrow (Option UInt8)) = pure (opcode.nodeOf? payload) := by
  unfold nodeOf? readNode
  cases hoffset : opcode.nodeOffset? with
  | none => rfl
  | some offset =>
    have hsmall := nodeOffset?_le hoffset
    dsimp only
    split
    · rfl
    · rw [Narrow.byteAt_eq (by omega) (by omega)]
      rfl

theorem narrow_readEventAt {payload : Bytes} {size node position : Nat} (hnode : node < size)
    (hposition : position + 1 < size) (small : size ≤ 65536) :
    (readEventAt payload size node position : Narrow (Option NodeEvent))
      = pure (Id.run (readEventAt payload size node position)) := by
  unfold readEventAt
  split
  · rfl
  · rw [Narrow.byteAt_eq (by omega) (by omega), Narrow.wordAt_eq (by omega) (by omega)]
    rfl

theorem narrow_readEvent :
    (opcode.readEvent payload : Narrow (Option NodeEvent)) = pure (opcode.eventOf? payload) := by
  cases opcode with
  | nodeStatePositionChangedNtf => exact narrow_readEventAt (by omega) (by omega) (by omega)
  | getNodeInformationNtf => exact narrow_readEventAt (by omega) (by omega) (by omega)
  | getAllNodesInformationNtf => exact narrow_readEventAt (by omega) (by omega) (by omega)
  | commandRunStatusNtf =>
    unfold eventOf? readEvent
    dsimp only
    split
    · rfl
    · rw [Narrow.byteAt_eq (by omega) (by omega),
        narrow_readEventAt (by omega) (by omega) (by omega), pure_bind]
      show _ = pure (Id.run (if Id.run (byteAt payload 4) = 0 then _ else _))
      split <;> rfl
  | _ => rfl

theorem narrow_readRemaining :
    (opcode.readRemaining payload : Narrow (Option UInt16))
      = pure (opcode.remainingOf? payload) := by
  cases opcode with
  | commandRemainingTimeNtf =>
    unfold remainingOf? readRemaining
    dsimp only
    split
    · rfl
    · rw [Narrow.wordAt_eq (by omega) (by omega)]
      rfl
  | _ => rfl

end Opcode

/-! ## Answers -/

/-- The size that a payload has to have and has not, or zero. -/
def Verdict.lacking : Verdict → Nat
  | failed (.protocol (.shortPayload _ _ needed)) => needed
  | _ => 0

theorem Verdict.lacking_ite {condition : Prop} [Decidable condition] {a b : Verdict}
    (ha : a.lacking = 0) (hb : b.lacking = 0) : (if condition then a else b).lacking = 0 := by
  split
  · exact ha
  · exact hb

theorem Verdict.lacking_ofRejection {accepted : Verdict} (h : accepted.lacking = 0)
    (rejection? : Option Rejection) : (accepted.ofRejection rejection?).lacking = 0 := by
  cases rejection? with
  | none => exact h
  | some rejection => rfl

/-- Reading an answer never fails with narrow offsets, and if it asks for more bytes than there are,
the size that it asks for is small. A size that is there is no larger than the payload. -/
structure Bounded (narrow : Narrow (Findings × Verdict)) (plain : Id (Findings × Verdict)) :
    Prop where
  reads : narrow = pure (Id.run plain)
  lacks : (Id.run plain).2.lacking < 65536

/-- An answer that has all the bytes it needs. -/
theorem Bounded.pure {read : Findings × Verdict} (h : read.2.lacking = 0) :
    Bounded (Pure.pure read) (Pure.pure read) :=
  ⟨rfl, by rw [Id.run_pure, h]; decide⟩

/-- A description is read before it is decided what it means. -/
theorem Bounded.bind {α : Type} {narrow : Narrow α} {plain : Id α}
    {narrowNext : α → Narrow (Findings × Verdict)} {plainNext : α → Id (Findings × Verdict)}
    (first : narrow = Pure.pure (Id.run plain))
    (next : ∀ read, Bounded (narrowNext read) (plainNext read)) :
    Bounded (narrow >>= narrowNext) (plain >>= plainNext) := by
  rw [first, pure_bind]
  exact next (Id.run plain)

namespace Findings

variable {findings : Findings} {opcode : Opcode} {payload : Bytes}

/-- The size that is asked for first is what the reading behind it relies on. -/
theorem bounded_requiring {size : Nat} {narrow : Narrow (Findings × Verdict)}
    {plain : Id (Findings × Verdict)} (small : size < 65536)
    (read : size ≤ payload.length → Bounded narrow plain) :
    Bounded (findings.requiring opcode payload size narrow)
      (findings.requiring opcode payload size plain) := by
  unfold requiring
  split
  · exact ⟨rfl, small⟩
  · exact read (by omega)

theorem bounded_readStatus {accepted : Verdict} (h : accepted.lacking = 0) :
    Bounded (findings.readStatus opcode payload accepted)
      (findings.readStatus opcode payload accepted) := by
  apply bounded_requiring (by omega)
  intro enough
  exact .bind (Narrow.byteAt_eq (by omega) (by omega)) fun status =>
    .pure (Verdict.lacking_ofRejection h _)

theorem bounded_readSceneStatus {accepted : Verdict} (h : accepted.lacking = 0) :
    Bounded (findings.readSceneStatus opcode payload accepted)
      (findings.readSceneStatus opcode payload accepted) := by
  apply bounded_requiring (by omega)
  intro enough
  exact .bind (Narrow.byteAt_eq (by omega) (by omega)) fun status =>
    .pure (Verdict.lacking_ofRejection h _)

theorem narrow_readScenes {offset count : Nat}
    (inside : offset + count * Scene.entrySize ≤ payload.length)
    (small : offset + count * Scene.entrySize ≤ 65536) :
    (readScenes payload offset count : Narrow (List Scene))
      = pure (Id.run (readScenes payload offset count)) := by
  induction count generalizing offset with
  | zero => rfl
  | succ count ih =>
    unfold readScenes
    simp only [Scene.entrySize, NameField.size] at inside small ih ⊢
    rw [Narrow.byteAt_eq (by omega) (by omega), Narrow.sliceAt_eq (by omega) (by omega),
      ih (by omega) (by omega)]
    rfl

/-- The number of entries is a byte, so that a list of scenes is never too large. The byte behind
the entries says how many are still to come. -/
theorem bounded_readSceneList :
    Bounded (findings.readSceneList opcode payload) (findings.readSceneList opcode payload) := by
  apply bounded_requiring (by omega)
  intro enough
  apply Bounded.bind (Narrow.byteAt_eq (by omega) (by omega))
  intro count
  have hsize : count.toNat * Scene.entrySize ≤ 255 * 65 :=
    Nat.mul_le_mul_right _ (Nat.le_of_lt_succ count.toNat_lt)
  apply bounded_requiring (by omega)
  intro entries
  apply Bounded.bind (narrow_readScenes (by omega) (by omega))
  intro scenes
  exact .bind (Narrow.byteAt_eq (by omega) (by omega)) fun remaining =>
    .pure (Verdict.lacking_ite rfl rfl)

theorem bounded_readProgress (findings : Findings) (opcode : Opcode) (payload : Bytes) :
    Bounded (findings.readProgress opcode payload) (findings.readProgress opcode payload) := by
  cases opcode with
  | commandRunStatusNtf =>
    apply bounded_requiring (by omega)
    intro enough
    apply Bounded.bind (Narrow.byteAt_eq (by omega) (by omega))
    intro node
    apply Bounded.bind (Narrow.byteAt_eq (by omega) (by omega))
    intro parameter
    apply Bounded.bind (Narrow.wordAt_eq (by omega) (by omega))
    intro value
    apply Bounded.bind (Narrow.byteAt_eq (by omega) (by omega))
    intro runStatus
    apply Bounded.bind (Narrow.byteAt_eq (by omega) (by omega))
    intro statusReply
    exact .pure rfl
  | commandRemainingTimeNtf =>
    apply bounded_requiring (by omega)
    intro enough
    apply Bounded.bind (Narrow.wordAt_eq (by omega) (by omega))
    intro seconds
    apply Bounded.bind (Narrow.byteAt_eq (by omega) (by omega))
    intro node
    exact .pure rfl
  | sessionFinishedNtf => exact .pure rfl
  | _ => exact .pure rfl

end Findings

namespace Request

variable {opcode : Opcode} {payload : Bytes} {findings : Findings}

/-- Every request reads what may answer it inside the payload, and does not look at the payload of
anything else. -/
theorem bounded_readAnswer (request : Request) :
    Bounded (request.readAnswer opcode payload findings)
      (request.readAnswer opcode payload findings) := by
  cases request with
  | getNode node =>
    cases opcode with
    | getNodeInformationCfm => exact Findings.bounded_readStatus rfl
    | getNodeInformationNtf =>
      apply Bounded.bind (Node.narrow_read payload)
      intro found
      cases found <;> exact .pure rfl
    | _ => exact .pure rfl
  | getAllNodes =>
    cases opcode with
    | getAllNodesInformationCfm =>
      apply Findings.bounded_requiring (by omega)
      intro enough
      apply Bounded.bind (Narrow.byteAt_eq (by omega) (by omega))
      intro status
      exact .bind (Narrow.byteAt_eq (by omega) (by omega)) fun announced =>
        .pure (Verdict.lacking_ite rfl rfl)
    | getAllNodesInformationNtf =>
      apply Bounded.bind (Node.narrow_read payload)
      intro found
      cases found <;> exact .pure rfl
    | _ => exact .pure rfl
  | getAllScenes =>
    cases opcode with
    | getSceneListCfm =>
      apply Findings.bounded_requiring (by omega)
      intro enough
      exact .bind (Narrow.byteAt_eq (by omega) (by omega)) fun count =>
        .pure (Verdict.lacking_ite rfl rfl)
    | getSceneListNtf => exact Findings.bounded_readSceneList
    | _ => exact .pure rfl
  | executeScene scene velocity =>
    cases opcode with
    | activateSceneCfm => exact Findings.bounded_readSceneStatus rfl
    | _ =>
      unfold readAnswer
      exact Findings.bounded_readProgress findings _ payload
  | stopScene scene =>
    cases opcode with
    | stopSceneCfm => exact Findings.bounded_readSceneStatus rfl
    | _ => exact .pure rfl
  | sendPosition batch =>
    cases opcode with
    | commandSendCfm =>
      apply Findings.bounded_requiring (by omega)
      intro enough
      exact .bind (Narrow.byteAt_eq (by omega) (by omega)) fun accepted =>
        .pure (Verdict.lacking_ite rfl rfl)
    | _ =>
      unfold readAnswer
      exact Findings.bounded_readProgress findings _ payload
  | sendMode batch =>
    cases opcode with
    | modeSendCfm =>
      apply Findings.bounded_requiring (by omega)
      intro enough
      exact .bind (Narrow.byteAt_eq (by omega) (by omega)) fun status =>
        .pure (Verdict.lacking_ofRejection rfl _)
    | _ =>
      unfold readAnswer
      exact Findings.bounded_readProgress findings _ payload
  | setVelocity node velocity =>
    cases opcode with
    | setNodeVelocityCfm => exact Findings.bounded_readStatus rfl
    | _ => exact .pure rfl
  | setNodeName node name =>
    cases opcode with
    | setNodeNameCfm => exact Findings.bounded_readStatus rfl
    | _ => exact .pure rfl
  | ping =>
    cases opcode with
    | getStateCfm =>
      apply Bounded.bind (GatewayState.narrow_read payload)
      intro found
      cases found <;> exact .pure rfl
    | _ => exact .pure rfl
  | getVersion =>
    cases opcode with
    | getVersionCfm =>
      apply Bounded.bind (GatewayVersion.narrow_read payload)
      intro found
      cases found <;> exact .pure rfl
    | _ => exact .pure rfl
  | getProtocol =>
    cases opcode with
    | getProtocolVersionCfm =>
      apply Bounded.bind (ProtocolVersion.narrow_read payload)
      intro found
      cases found <;> exact .pure rfl
    | _ => exact .pure rfl
  | login password =>
    cases opcode with
    | passwordEnterCfm =>
      apply Findings.bounded_requiring (by omega)
      intro enough
      exact .bind (Narrow.byteAt_eq (by omega) (by omega)) fun status =>
        .pure (Verdict.lacking_ite rfl rfl)
    | _ => exact .pure rfl
  | enableMonitor => cases opcode <;> exact .pure rfl
  | setTime time => cases opcode <;> exact .pure rfl
  | terminate => cases opcode <;> exact .pure rfl

end Request

namespace Command

variable (command : Command) (frame : Frame)

theorem narrow_readAccepts :
    (command.readAccepts frame : Narrow Bool) = pure (command.accepts frame) := by
  unfold accepts readAccepts
  cases frame.opcode? with
  | none => rfl
  | some opcode =>
    dsimp only
    split
    · rw [Opcode.narrow_readSession, Opcode.narrow_readNode]
      rfl
    · rfl

theorem narrow_readResponse :
    (command.readResponse frame : Narrow Command) = pure (command.respond frame) := by
  unfold respond readResponse
  split
  · rfl
  · split
    · rfl
    · rfl
    · rw [(Request.bounded_readAnswer command.request).reads, pure_bind]
      rfl

/-- **No payload is read beyond its end**, whatever frame arrives and in whatever state the command
is: not when it is decided whether the frame belongs to the command, not when it is taken as an
answer, and not when any of its fields is looked up. No offset or size on the way takes more than
sixteen bits. -/
theorem no_payload_is_read_beyond_its_end (request : Request) (findings : Findings)
    (opcode : Opcode) (payload : Bytes) :
    (command.readAccepts frame : Narrow Bool) = pure (command.accepts frame)
      ∧ (command.readResponse frame : Narrow Command) = pure (command.respond frame)
      ∧ Bounded (request.readAnswer opcode payload findings)
        (request.readAnswer opcode payload findings)
      ∧ Bounded (findings.readSceneList opcode payload) (findings.readSceneList opcode payload)
      ∧ (opcode.readSession payload : Narrow (Option UInt16)) = pure (opcode.sessionOf? payload)
      ∧ (∀ offset, opcode.sessionOffset? = some offset → offset + 2 < 65536)
      ∧ (opcode.readNode payload : Narrow (Option UInt8)) = pure (opcode.nodeOf? payload)
      ∧ (opcode.readEvent payload : Narrow (Option NodeEvent)) = pure (opcode.eventOf? payload)
      ∧ (opcode.readRemaining payload : Narrow (Option UInt16))
        = pure (opcode.remainingOf? payload)
      ∧ (Node.read payload : Narrow (Option Node)) = pure (Node.parse? payload)
      ∧ (GatewayVersion.read payload : Narrow (Option GatewayVersion))
        = pure (GatewayVersion.parse? payload)
      ∧ (ProtocolVersion.read payload : Narrow (Option ProtocolVersion))
        = pure (ProtocolVersion.parse? payload)
      ∧ (GatewayState.read payload : Narrow (Option GatewayState))
        = pure (GatewayState.parse? payload) := by
  have hsession : ∀ offset, opcode.sessionOffset? = some offset → offset + 2 < 65536 := by
    intro offset hoffset
    have hsmall := Opcode.sessionOffset?_le hoffset
    omega
  exact ⟨narrow_readAccepts command frame, narrow_readResponse command frame,
    Request.bounded_readAnswer request, Findings.bounded_readSceneList,
    Opcode.narrow_readSession opcode payload, hsession, Opcode.narrow_readNode opcode payload,
    Opcode.narrow_readEvent opcode payload, Opcode.narrow_readRemaining opcode payload,
    Node.narrow_read payload, GatewayVersion.narrow_read payload,
    ProtocolVersion.narrow_read payload, GatewayState.narrow_read payload⟩

end Command

end ShutterGateway
