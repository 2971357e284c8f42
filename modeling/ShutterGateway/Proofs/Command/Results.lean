import ShutterGateway.Proofs.Command.Answering
import ShutterGateway.Proofs.Command.Correlation

/-!
What a complete command has found. Four requests ask for one thing that a single answer tells: a
node, the versions of the gateway, the version of its interface, and its state. The answer that
completes such a command is the one that tells it, so that a complete command always has what it
asked for, as it stands in the frame that completed it.
-/

namespace ShutterGateway

/-- What has been found is there, and was parsed from a frame with an opcode. -/
structure ParsedFrom {α : Type} (frame : Frame) (opcode : Opcode) (parse? : Bytes → Option α)
    (found? : Option α) : Prop where
  opcode : frame.opcode? = some opcode
  value : ∃ value, parse? frame.payload = some value ∧ found? = some value

/-- What a request asks for has been found, and was told by a frame. -/
def Request.ToldBy (frame : Frame) (findings : Findings) : Request → Prop
  | .getNode id =>
    ParsedFrom frame .getNodeInformationNtf Node.parse? findings.node?
      ∧ ∀ node, findings.node? = some node → node.id = id
  | .getVersion => ParsedFrom frame .getVersionCfm GatewayVersion.parse? findings.version?
  | .getProtocol =>
    ParsedFrom frame .getProtocolVersionCfm ProtocolVersion.parse? findings.protocol?
  | .ping => ParsedFrom frame .getStateCfm GatewayState.parse? findings.state?
  | _ => True

/-- A command has what it asked for from a frame. -/
def Command.HasResult (command : Command) (frame : Frame) : Prop :=
  command.request.ToldBy frame command.findings

namespace Node

/-- A description starts with the number of the node. -/
theorem id_of_parse? {payload : Bytes} {node : Node} (h : parse? payload = some node) :
    payload[0]? = some node.id := by
  unfold parse? read at h
  split at h
  · cases h
  · rename_i long
    have hzero : 0 < payload.length := by
      unfold payloadSize at long
      omega
    obtain rfl := Option.some.inj h
    show _ = some (payload.getD 0 0)
    simp [hzero]

end Node

namespace Findings

/-- What a value brings that is all a command waits for: it is stored and ends the exchange, unless
it cannot be parsed. -/
def ofParsed {α : Type} (findings : Findings) (store : α → Findings) (fault : ProtocolFault) :
    Option α → Findings × Verdict
  | some value => (store value, .done)
  | none => (findings, .failed (.protocol fault))

end Findings

/-- A value that ended an exchange was parsed, and can be found where it is stored. -/
theorem ParsedFrom.of_done {α : Type} {frame : Frame} {opcode : Opcode} {parse? : Bytes → Option α}
    {findings : Findings} {store : α → Findings} {fault : ProtocolFault}
    (place : Findings → Option α) (stored : ∀ value, place (store value) = some value)
    (hopcode : frame.opcode? = some opcode)
    (done : (findings.ofParsed store fault (parse? frame.payload)).2 = .done) :
    ParsedFrom frame opcode parse?
      (place (findings.ofParsed store fault (parse? frame.payload)).1) := by
  cases hparse : parse? frame.payload with
  | some value => exact ⟨hopcode, value, hparse, stored value⟩
  | none =>
    rw [hparse] at done
    cases done

namespace Request

variable {opcode : Opcode} {payload : Bytes} {findings : Findings} {frame : Frame}

/-! ## Answers that tell what was asked for -/

theorem readAnswer_getNodeInformationNtf {node : UInt8} :
    Id.run ((getNode node).readAnswer .getNodeInformationNtf payload findings) =
      findings.ofParsed (fun value => { findings with node? := some value })
        (.shortNode payload.length) (Node.parse? payload) := by
  rw [readAnswer_getNode]
  unfold Node.parse?
  cases Id.run (Node.read payload) <;> rfl

theorem readAnswer_getStateCfm :
    Id.run (ping.readAnswer .getStateCfm payload findings) =
      findings.ofParsed (fun value => { findings with state? := some value })
        (.malformed .getStateCfm) (GatewayState.parse? payload) := by
  show Id.run (Id.run (GatewayState.read payload) >>= _)
    = findings.ofParsed _ _ (Id.run (GatewayState.read payload))
  cases Id.run (GatewayState.read payload) <;> rfl

theorem readAnswer_getVersionCfm :
    Id.run (getVersion.readAnswer .getVersionCfm payload findings) =
      findings.ofParsed (fun value => { findings with version? := some value })
        (.malformed .getVersionCfm) (GatewayVersion.parse? payload) := by
  show Id.run (Id.run (GatewayVersion.read payload) >>= _)
    = findings.ofParsed _ _ (Id.run (GatewayVersion.read payload))
  cases Id.run (GatewayVersion.read payload) <;> rfl

theorem readAnswer_getProtocolVersionCfm :
    Id.run (getProtocol.readAnswer .getProtocolVersionCfm payload findings) =
      findings.ofParsed (fun value => { findings with protocol? := some value })
        (.malformed .getProtocolVersionCfm) (ProtocolVersion.parse? payload) := by
  show Id.run (Id.run (ProtocolVersion.read payload) >>= _)
    = findings.ofParsed _ _ (Id.run (ProtocolVersion.read payload))
  cases Id.run (ProtocolVersion.read payload) <;> rfl

/-- An answer with which an exchange is done tells what the request asked for. A description could
still be that of another node. -/
theorem toldBy_of_done {request : Request} (hopcode : frame.opcode? = some opcode)
    (done : (Id.run (request.readAnswer opcode frame.payload findings)).2 = .done)
    (about : ∀ id node, request.target? = some id →
      frame.opcode? = some .getNodeInformationNtf → Node.parse? frame.payload = some node →
      node.id = id) :
    request.ToldBy frame (Id.run (request.readAnswer opcode frame.payload findings)).1 := by
  cases request with
  | getNode id =>
    cases opcode with
    | getNodeInformationNtf =>
      rw [readAnswer_getNodeInformationNtf] at done ⊢
      have parsed := ParsedFrom.of_done Findings.node? (fun _ => rfl) hopcode done
      constructor
      · exact parsed
      · intro node hnode
        obtain ⟨value, hparse, hvalue⟩ := parsed.value
        obtain rfl := Option.some.inj (hvalue.symm.trans hnode)
        exact about id value rfl hopcode hparse
    | getNodeInformationCfm => cases (Findings.readStatus_done done).1
    | _ => cases done
  | getVersion =>
    cases opcode with
    | getVersionCfm =>
      rw [readAnswer_getVersionCfm] at done ⊢
      exact .of_done Findings.version? (fun _ => rfl) hopcode done
    | _ => cases done
  | getProtocol =>
    cases opcode with
    | getProtocolVersionCfm =>
      rw [readAnswer_getProtocolVersionCfm] at done ⊢
      exact .of_done Findings.protocol? (fun _ => rfl) hopcode done
    | _ => cases done
  | ping =>
    cases opcode with
    | getStateCfm =>
      rw [readAnswer_getStateCfm] at done ⊢
      exact .of_done Findings.state? (fun _ => rfl) hopcode done
    | _ => cases done
  | _ => trivial

end Request

namespace Command

variable {command : Command} {frame : Frame}

/-! ## The answer that completes -/

/-- What completes a command is no notification of an error, and what it brings is kept. -/
theorem findings_of_complete (pending : command.status = .pending)
    (accepts : command.accepts frame) (complete : (command.respond frame).status = .complete) :
    ∃ opcode, frame.opcode? = some opcode
      ∧ (command.answered opcode frame.payload).2 = .done
      ∧ (command.respond frame).findings = (command.answered opcode frame.payload).1 := by
  have hreceive : command.receive frame = command.respond frame := if_pos accepts
  obtain ⟨-, opcode, hopcode, hexpects, done⟩ :=
    done_of_complete pending (hreceive ▸ complete)
  have expects : command.Expects frame := ⟨opcode, hopcode, hexpects⟩
  have other : opcode ≠ .errorNtf := by
    rintro rfl
    rw [respond_of_errorNtf pending expects hopcode] at complete
    cases complete
  refine ⟨opcode, hopcode, done, ?_⟩
  rw [respond_of_expected pending expects hopcode other, findings_conclude]

/-- A description that belongs to a command for one node is that of the node. -/
theorem id_of_accepts {id : UInt8} {node : Node} (accepts : command.accepts frame)
    (hopcode : frame.opcode? = some .getNodeInformationNtf)
    (target : command.request.target? = some id) (hparse : Node.parse? frame.payload = some node) :
    node.id = id := by
  have hbyte := Node.id_of_parse? hparse
  have hlength : 0 < frame.payload.length := (List.getElem?_eq_some_iff.mp hbyte).1
  obtain ⟨opcode, offset, hopcode', hoffset, hid⟩ :=
    carriesNode_of_accepts accepts hopcode rfl hlength target
  obtain rfl := Option.some.inj (hopcode.symm.trans hopcode')
  obtain rfl := Option.some.inj hoffset
  exact Option.some.inj (hbyte.symm.trans hid)

/-- The answer that completes a command tells what the command asked for. -/
theorem hasResult_of_complete (pending : command.status = .pending)
    (accepts : command.accepts frame)
    (complete : (command.respond frame).status = .complete) :
    (command.respond frame).HasResult frame := by
  obtain ⟨opcode, hopcode, done, hfindings⟩ := findings_of_complete pending accepts complete
  unfold HasResult
  rw [request_respond, hfindings]
  apply Request.toldBy_of_done hopcode done
  intro id node target hdescription hparse
  exact id_of_accepts accepts hdescription target hparse

/-- Of some frames that complete a pending command, each of them taken only if it belongs to the
command, the one that completes it tells what the command asked for. -/
theorem exists_hasResult {frames : List Frame} (pending : command.status = .pending)
    (complete : (command.receiveAll frames).status = .complete) :
    ∃ before frame after, frames = before ++ frame :: after
      ∧ (command.receiveAll before).status = .pending
      ∧ (command.receiveAll before).accepts frame
      ∧ (command.receiveAll (before ++ [frame])).status = .complete
      ∧ (command.receiveAll frames).HasResult frame := by
  obtain ⟨before, frame, after, rfl, hbefore, hcompletes⟩ := exists_completing pending complete
  have accepts := (done_of_complete hbefore hcompletes).1
  have hreceive : (command.receiveAll before).receive frame
      = (command.receiveAll before).respond frame := if_pos accepts
  have hover : ((command.receiveAll before).receive frame).isTerminal := by
    rw [isTerminal_iff, hcompletes]
    exact nofun
  refine ⟨before, frame, after, rfl, hbefore, accepts, ?_, ?_⟩
  · rwa [receiveAll_append]
  · rw [receiveAll_append, receiveAll_cons, receiveAll_of_isTerminal hover, hreceive]
    exact hasResult_of_complete hbefore accepts (hreceive ▸ hcompletes)

end Command

end ShutterGateway
