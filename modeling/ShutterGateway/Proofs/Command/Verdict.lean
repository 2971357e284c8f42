import ShutterGateway.Proofs.Command.Lifecycle

/-!
What the answers to a request mean, written out without the way of reading: the confirmations that
are a status, those of scenes, and the notifications on the progress of a session. Only the last
notification ends a session, and only a status of zero completes a command at once.
-/

namespace ShutterGateway

namespace Verdict

theorem ofRejection_eq_done {accepted : Verdict} {rejection? : Option Rejection}
    (h : accepted.ofRejection rejection? = .done) : accepted = .done ∧ rejection? = none := by
  cases rejection? with
  | none => exact ⟨h, rfl⟩
  | some rejection => cases h

end Verdict

namespace Findings

theorem run_requiring (findings : Findings) (opcode : Opcode) (payload : Bytes) (size : Nat)
    (read : Id (Findings × Verdict)) :
    Id.run (findings.requiring opcode payload size read) =
      if payload.length < size then
        (findings, .failed (.protocol (.shortPayload opcode payload.length size)))
      else Id.run read := by
  unfold requiring
  split <;> rfl

theorem run_readStatus (findings : Findings) (opcode : Opcode) (payload : Bytes)
    (accepted : Verdict) :
    Id.run (findings.readStatus opcode payload accepted) =
      if payload.length < 1 then
        (findings, .failed (.protocol (.shortPayload opcode payload.length 1)))
      else (findings, accepted.ofRejection (Rejection.ofStatus? (payload.getD 0 0))) :=
  run_requiring ..

theorem run_readSceneStatus (findings : Findings) (opcode : Opcode) (payload : Bytes)
    (accepted : Verdict) :
    Id.run (findings.readSceneStatus opcode payload accepted) =
      if payload.length < 3 then
        (findings, .failed (.protocol (.shortPayload opcode payload.length 3)))
      else (findings, accepted.ofRejection (Rejection.ofSceneStatus? (payload.getD 0 0))) :=
  run_requiring ..

theorem readStatus_done {findings : Findings} {opcode : Opcode} {payload : Bytes}
    {accepted : Verdict}
    (h : (Id.run (findings.readStatus opcode payload accepted)).2 = .done) :
    accepted = .done ∧ 1 ≤ payload.length := by
  rw [run_readStatus] at h
  split at h
  · cases h
  · exact ⟨(Verdict.ofRejection_eq_done h).1, by omega⟩

theorem readSceneStatus_done {findings : Findings} {opcode : Opcode} {payload : Bytes}
    {accepted : Verdict}
    (h : (Id.run (findings.readSceneStatus opcode payload accepted)).2 = .done) :
    accepted = .done ∧ 3 ≤ payload.length := by
  rw [run_readSceneStatus] at h
  split at h
  · cases h
  · exact ⟨(Verdict.ofRejection_eq_done h).1, by omega⟩

/-- Of the notifications on the progress of a session only the last one ends it. -/
theorem readProgress_done {findings : Findings} {opcode : Opcode} {payload : Bytes}
    (h : (Id.run (findings.readProgress opcode payload)).2 = .done) :
    opcode = .sessionFinishedNtf := by
  have hrequiring : ∀ size (read : Id (Findings × Verdict)), (Id.run read).2 = .more →
      (Id.run (findings.requiring opcode payload size read)).2 ≠ .done := by
    intro size read hread
    rw [run_requiring]
    split
    · simp
    · simp [hread]
  cases opcode with
  | sessionFinishedNtf => rfl
  | commandRunStatusNtf => exact absurd h (hrequiring 9 _ rfl)
  | commandRemainingTimeNtf => exact absurd h (hrequiring 6 _ rfl)
  | _ => cases h

end Findings

namespace Request

variable {opcode : Opcode} {payload : Bytes} {findings : Findings}

/-- The session that a scene runs under is followed like any other. -/
theorem readAnswer_executeScene {scene : UInt8} {velocity : Velocity}
    (h : opcode ≠ .activateSceneCfm) :
    Id.run ((executeScene scene velocity).readAnswer opcode payload findings) =
      Id.run (findings.readProgress opcode payload) := by
  cases opcode with
  | activateSceneCfm => exact absurd rfl h
  | _ => rfl

theorem readAnswer_sendPosition {batch : PositionBatch} (h : opcode ≠ .commandSendCfm) :
    Id.run ((sendPosition batch).readAnswer opcode payload findings) =
      Id.run (findings.readProgress opcode payload) := by
  cases opcode with
  | commandSendCfm => exact absurd rfl h
  | _ => rfl

theorem readAnswer_sendMode {batch : ModeBatch} (h : opcode ≠ .modeSendCfm) :
    Id.run ((sendMode batch).readAnswer opcode payload findings) =
      Id.run (findings.readProgress opcode payload) := by
  cases opcode with
  | modeSendCfm => exact absurd rfl h
  | _ => rfl

/-- A description of the node ends the exchange if it can be read, and fails it otherwise. -/
theorem readAnswer_getNode {node : UInt8} :
    Id.run ((getNode node).readAnswer .getNodeInformationNtf payload findings) =
      match Id.run (Node.read payload) with
      | some description => ({ findings with node? := some description }, .done)
      | none => (findings, .failed (.protocol (.shortNode payload.length))) := by
  show Id.run (Id.run (Node.read payload) >>= _) = _
  cases Id.run (Node.read payload) <;> rfl

/-- For the command that reads all nodes a description of a node is one of many. -/
theorem readAnswer_getAllNodes :
    Id.run (getAllNodes.readAnswer .getAllNodesInformationNtf payload findings) =
      match Id.run (Node.read payload) with
      | some description => ({ findings with nodes := findings.nodes ++ [description] }, .more)
      | none => (findings, .failed (.protocol (.shortNode payload.length))) := by
  show Id.run (Id.run (Node.read payload) >>= _) = _
  cases Id.run (Node.read payload) <;> rfl

/-- The confirmation of a position request lets the exchange go on or fails it. -/
theorem readAnswer_sendPosition_ne_done {batch : PositionBatch} :
    (Id.run ((sendPosition batch).readAnswer .commandSendCfm payload findings)).2 ≠ .done := by
  show (Id.run (findings.requiring _ _ _ _)).2 ≠ _
  rw [Findings.run_requiring]
  split
  · simp
  · show (if payload.getD 2 0 = 1 then Verdict.more else _) ≠ .done
    split <;> simp

/-- The confirmation of a mode request lets the exchange go on or fails it. -/
theorem readAnswer_sendMode_ne_done {batch : ModeBatch} :
    (Id.run ((sendMode batch).readAnswer .modeSendCfm payload findings)).2 ≠ .done := by
  show (Id.run (findings.requiring _ _ _ _)).2 ≠ _
  rw [Findings.run_requiring]
  split
  · simp
  · show Verdict.more.ofRejection (Rejection.ofStatus? (payload.getD 2 0)) ≠ .done
    intro h
    cases (Verdict.ofRejection_eq_done h).1

end Request

namespace Node

theorem length_of_read {payload : Bytes} {node : Node}
    (h : Id.run (read payload) = some node) : payloadSize ≤ payload.length := by
  unfold read at h
  split at h
  · cases h
  · omega

/-- A description can be read exactly if it has all of its bytes. -/
theorem parse?_eq_none_iff {payload : Bytes} :
    parse? payload = none ↔ payload.length < payloadSize := by
  unfold parse? read
  split
  · rename_i short
    exact iff_of_true rfl short
  · rename_i enough
    exact iff_of_false nofun enough

end Node

end ShutterGateway
