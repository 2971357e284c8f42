import ShutterGateway.Proofs.Command.Verdict

/-!
Which frame completes a command. A command under a session should be completed only by a frame
that carries its session number, and a command for one node only by a frame that carries the
number of that node. This holds for every frame that is long enough to hold the field, and fails
for every shorter one that completes a command: three notifications and confirmations complete
one although their payload ends before the field.
-/

namespace ShutterGateway

namespace Frame

/-- The two bytes at the place where the opcode of a frame has the session number are those of a
session. -/
def CarriesSession (frame : Frame) (session : UInt16) : Prop :=
  ∃ opcode offset, frame.opcode? = some opcode ∧ opcode.sessionOffset? = some offset
    ∧ (frame.payload.drop offset).take 2 = wordBytes session

/-- The byte at the place where the opcode of a frame has the number of a node is that of a node. -/
def CarriesNode (frame : Frame) (node : UInt8) : Prop :=
  ∃ opcode offset, frame.opcode? = some opcode ∧ opcode.nodeOffset? = some offset
    ∧ frame.payload[offset]? = some node

theorem CarriesSession.le_length {frame : Frame} {session : UInt16} {opcode : Opcode}
    {offset : Nat} (carries : frame.CarriesSession session) (hopcode : frame.opcode? = some opcode)
    (hoffset : opcode.sessionOffset? = some offset) : offset + 2 ≤ frame.payload.length := by
  obtain ⟨_, _, hopcode', hoffset', hbytes⟩ := carries
  obtain rfl := Option.some.inj (hopcode.symm.trans hopcode')
  obtain rfl := Option.some.inj (hoffset.symm.trans hoffset')
  have hlength := congrArg List.length hbytes
  simp only [List.length_take, List.length_drop, length_wordBytes] at hlength
  omega

theorem CarriesNode.lt_length {frame : Frame} {node : UInt8} {opcode : Opcode} {offset : Nat}
    (carries : frame.CarriesNode node) (hopcode : frame.opcode? = some opcode)
    (hoffset : opcode.nodeOffset? = some offset) : offset + 1 ≤ frame.payload.length := by
  obtain ⟨_, _, hopcode', hoffset', hbyte⟩ := carries
  obtain rfl := Option.some.inj (hopcode.symm.trans hopcode')
  obtain rfl := Option.some.inj (hoffset.symm.trans hoffset')
  exact (List.getElem?_eq_some_iff.mp hbyte).1

/-- The payload of a frame ends before the end of the session number or of the number of the node
that its opcode has. -/
def IsCut (frame : Frame) : Prop :=
  ∃ opcode, frame.opcode? = some opcode
    ∧ ((∃ offset, opcode.sessionOffset? = some offset ∧ frame.payload.length < offset + 2)
      ∨ (∃ offset, opcode.nodeOffset? = some offset ∧ frame.payload.length < offset + 1))

end Frame

namespace Opcode

/-- A payload that reaches over the session number carries the one that is read from it. -/
theorem sessionOf?_eq_some {opcode : Opcode} {payload : Bytes} {offset : Nat}
    (hoffset : opcode.sessionOffset? = some offset) (h : offset + 2 ≤ payload.length) :
    ∃ session, opcode.sessionOf? payload = some session
      ∧ (payload.drop offset).take 2 = wordBytes session := by
  have hhi : offset < payload.length := by omega
  have hlo : offset + 1 < payload.length := by omega
  refine ⟨joinWord payload[offset] payload[offset + 1], ?_, ?_⟩
  · unfold sessionOf? readSession
    simp only [hoffset]
    rw [if_neg (by omega)]
    show some (joinWord (payload.getD offset 0) (payload.getD (offset + 1) 0)) = _
    simp [hhi, hlo]
  · rw [wordBytes_joinWord, List.drop_eq_getElem_cons hhi, List.drop_eq_getElem_cons hlo]
    rfl

theorem nodeOf?_eq_some {opcode : Opcode} {payload : Bytes} {offset : Nat}
    (hoffset : opcode.nodeOffset? = some offset) (h : offset < payload.length) :
    opcode.nodeOf? payload = payload[offset]? := by
  unfold nodeOf? readNode
  simp only [hoffset]
  rw [if_neg (by omega)]
  show some (payload.getD offset 0) = _
  simp [h]

end Opcode

namespace Command

/-- The command after a frame has arrived, which is an answer only if it belongs to it. -/
def receive (command : Command) (frame : Frame) : Command :=
  if command.accepts frame then command.respond frame else command

/-- The command after some frames have arrived. -/
def receiveAll (command : Command) (frames : List Frame) : Command :=
  frames.foldl receive command

/-- A frame carries the session of a command that runs under one, and the node of a command for one
node. -/
structure Correlated (command : Command) (frame : Frame) : Prop where
  session : command.descriptor.usesSession →
    ∃ session, command.session? = some session ∧ frame.CarriesSession session
  node : ∀ node, command.request.target? = some node → frame.CarriesNode node

/-! ## Which answers complete -/

theorem receive_of_not_accepts {command : Command} {frame : Frame}
    (h : command.accepts frame = false) : command.receive frame = command := by
  simp [receive, h]

/-- A frame that completes a pending command is understood by it and means the end. -/
theorem done_of_complete {command : Command} {frame : Frame} (pending : command.status = .pending)
    (complete : (command.receive frame).status = .complete) :
    command.accepts frame ∧
      ∃ opcode, frame.opcode? = some opcode ∧ command.descriptor.expects opcode
        ∧ (command.answered opcode frame.payload).2 = .done := by
  have haccepts : command.accepts frame := by
    cases h : command.accepts frame with
    | true => rfl
    | false =>
      rw [receive_of_not_accepts h, pending] at complete
      cases complete
  refine ⟨haccepts, ?_⟩
  have hpending : command.isTerminal = false := by simp [isTerminal, pending, Status.isTerminal]
  rw [receive, if_pos haccepts, respond_eq] at complete
  simp only [hpending, Bool.false_eq_true, if_false] at complete
  have hfail : ∀ error, (command.fail error).status ≠ .complete := by
    intro error
    simp [fail, hpending]
  cases hunderstood : frame.opcode?.filter (command.descriptor.expects ·) with
  | none =>
    rw [hunderstood] at complete
    exact absurd complete (hfail _)
  | some opcode =>
    obtain ⟨hopcode, hexpects⟩ := Option.filter_eq_some_iff.mp hunderstood
    refine ⟨opcode, hopcode, hexpects, ?_⟩
    rw [hunderstood] at complete
    have hconclude : ∀ findings verdict,
        (command.conclude findings verdict).status = .complete → verdict = .done := by
      intro findings verdict h
      cases verdict <;> simp_all [conclude]
    split at complete
    · exact absurd complete (hfail _)
    · exact absurd complete (hfail _)
    · next same =>
      cases same
      exact hconclude _ _ complete

/-- What completes a command under a session: the end of the session, or the confirmation that a
scene was stopped. Only the latter is read up to its session number. -/
theorem opcode_of_done_session {command : Command} {opcode : Opcode} {payload : Bytes}
    (session : command.descriptor.usesSession)
    (done : (command.answered opcode payload).2 = .done) :
    opcode = .sessionFinishedNtf ∨ (opcode = .stopSceneCfm ∧ 3 ≤ payload.length) := by
  obtain ⟨request, findings, _, _⟩ := command
  unfold answered at done
  cases request with
  | executeScene scene velocity =>
    by_cases h : opcode = .activateSceneCfm
    · subst h
      cases (Findings.readSceneStatus_done done).1
    · rw [Request.readAnswer_executeScene h] at done
      exact .inl (Findings.readProgress_done done)
  | sendPosition batch =>
    by_cases h : opcode = .commandSendCfm
    · subst h
      exact absurd done Request.readAnswer_sendPosition_ne_done
    · rw [Request.readAnswer_sendPosition h] at done
      exact .inl (Findings.readProgress_done done)
  | sendMode batch =>
    by_cases h : opcode = .modeSendCfm
    · subst h
      exact absurd done Request.readAnswer_sendMode_ne_done
    · rw [Request.readAnswer_sendMode h] at done
      exact .inl (Findings.readProgress_done done)
  | stopScene scene =>
    cases opcode with
    | stopSceneCfm => exact .inr ⟨rfl, (Findings.readSceneStatus_done done).2⟩
    | _ => cases done
  | _ => cases session

/-- What completes a command for one node: its description, which holds the number of the node, or a
confirmation that is read up to its status only. -/
theorem opcode_of_done_target {command : Command} {opcode : Opcode} {payload : Bytes}
    {node : UInt8} (target : command.request.target? = some node)
    (done : (command.answered opcode payload).2 = .done) :
    (opcode = .getNodeInformationNtf ∧ Node.payloadSize ≤ payload.length)
      ∨ ((opcode = .setNodeVelocityCfm ∨ opcode = .setNodeNameCfm) ∧ 1 ≤ payload.length) := by
  obtain ⟨request, findings, _, _⟩ := command
  unfold answered at done
  cases request with
  | getNode asked =>
    cases opcode with
    | getNodeInformationCfm => cases (Findings.readStatus_done done).1
    | getNodeInformationNtf =>
      rw [Request.readAnswer_getNode] at done
      cases hread : Id.run (Node.read payload) with
      | some description => exact .inl ⟨rfl, Node.length_of_read hread⟩
      | none =>
        rw [hread] at done
        cases done
    | _ => cases done
  | setVelocity asked velocity =>
    cases opcode with
    | setNodeVelocityCfm => exact .inr ⟨.inl rfl, (Findings.readStatus_done done).2⟩
    | _ => cases done
  | setNodeName asked name =>
    cases opcode with
    | setNodeNameCfm => exact .inr ⟨.inr rfl, (Findings.readStatus_done done).2⟩
    | _ => cases done
  | _ => cases target

/-- What completes any other command has neither the number of a session nor of a node. -/
theorem offsets_of_done_other {command : Command} {opcode : Opcode} {payload : Bytes}
    (session : command.descriptor.usesSession = false) (target : command.request.target? = none)
    (done : (command.answered opcode payload).2 = .done) :
    opcode.sessionOffset? = none ∧ opcode.nodeOffset? = none := by
  obtain ⟨request, findings, _, _⟩ := command
  unfold answered at done
  cases request with
  | getAllNodes =>
    cases opcode with
    | getAllNodesInformationNtf =>
      rw [Request.readAnswer_getAllNodes] at done
      split at done <;> cases done
    | getAllNodesInformationCfm | getAllNodesInformationFinishedNtf => exact ⟨rfl, rfl⟩
    | _ => cases done
  | getNode | setVelocity | setNodeName => cases target
  | executeScene | stopScene | sendPosition | sendMode => cases session
  | _ => cases opcode <;> first | exact ⟨rfl, rfl⟩ | cases done

/-! ## Which frames carry what they should -/

theorem carriesSession_of_accepts {command : Command} {frame : Frame} {opcode : Opcode}
    {offset : Nat} (accepted : command.accepts frame) (hopcode : frame.opcode? = some opcode)
    (hoffset : opcode.sessionOffset? = some offset) (reaches : offset + 2 ≤ frame.payload.length) :
    ∃ session, command.session? = some session ∧ frame.CarriesSession session := by
  obtain ⟨session, hread, hbytes⟩ := Opcode.sessionOf?_eq_some hoffset reaches
  refine ⟨session, ?_, opcode, offset, hopcode, hoffset, hbytes⟩
  simp only [accepts_eq, hopcode, hread, Bool.and_eq_true] at accepted
  simpa using accepted.1.2

theorem carriesNode_of_accepts {command : Command} {frame : Frame} {opcode : Opcode}
    {offset : Nat} {node : UInt8} (accepted : command.accepts frame)
    (hopcode : frame.opcode? = some opcode) (hoffset : opcode.nodeOffset? = some offset)
    (reaches : offset < frame.payload.length) (target : command.request.target? = some node) :
    frame.CarriesNode node := by
  have hread := Opcode.nodeOf?_eq_some hoffset reaches
  refine ⟨opcode, offset, hopcode, hoffset, ?_⟩
  simp only [accepts_eq, hopcode, hread, target, Bool.and_eq_true] at accepted
  simpa [reaches, eq_comm] using accepted.2

/-- A frame that completes a command carries what the command goes by if and only if it is not
cut. -/
theorem correlated_iff_not_isCut {command : Command} {frame : Frame}
    (pending : command.status = .pending)
    (complete : (command.receive frame).status = .complete) :
    command.Correlated frame ↔ ¬ frame.IsCut := by
  obtain ⟨accepted, opcode, hopcode, -, done⟩ := done_of_complete pending complete
  constructor
  · rintro correlated ⟨cutOpcode, hcutOpcode, hcut⟩
    obtain rfl : opcode = cutOpcode := Option.some.inj (hopcode.symm.trans hcutOpcode)
    -- An opcode that has the field completes only commands that go by it.
    rcases hcut with ⟨offset, hoffset, short⟩ | ⟨offset, hoffset, short⟩
    · have session : command.descriptor.usesSession := by
        cases hsession : command.descriptor.usesSession with
        | true => rfl
        | false =>
          cases htarget : command.request.target? with
          | none => cases hoffset.symm.trans (offsets_of_done_other hsession htarget done).1
          | some node =>
            rcases opcode_of_done_target htarget done with ⟨rfl, -⟩ | ⟨rfl | rfl, -⟩ <;>
              cases hoffset
      obtain ⟨_, -, carries⟩ := correlated.session session
      exact Nat.not_le.mpr short (carries.le_length hopcode hoffset)
    · cases hsession : command.descriptor.usesSession with
      | true => rcases opcode_of_done_session hsession done with rfl | ⟨rfl, -⟩ <;> cases hoffset
      | false =>
        cases htarget : command.request.target? with
        | none => cases hoffset.symm.trans (offsets_of_done_other hsession htarget done).2
        | some node =>
          exact Nat.not_le.mpr short ((correlated.node node htarget).lt_length hopcode hoffset)
  · intro whole
    constructor
    · intro session
      rcases opcode_of_done_session session done with rfl | ⟨rfl, -⟩
      all_goals
        refine carriesSession_of_accepts accepted hopcode rfl (Nat.not_lt.mp fun short => ?_)
        exact whole ⟨_, hopcode, .inl ⟨_, rfl, short⟩⟩
    · intro node target
      rcases opcode_of_done_target target done with ⟨rfl, -⟩ | ⟨rfl | rfl, -⟩
      all_goals
        refine carriesNode_of_accepts accepted hopcode rfl (Nat.not_le.mp fun short => ?_) target
        exact whole ⟨_, hopcode, .inr ⟨_, rfl, Nat.lt_succ_of_le short⟩⟩

/-- The frames that complete a command although they are cut: the end of a session without a whole
session number, and two confirmations that end after their status. -/
theorem opcode_of_isCut {command : Command} {frame : Frame} (pending : command.status = .pending)
    (complete : (command.receive frame).status = .complete) (cut : frame.IsCut) :
    (frame.opcode? = some .sessionFinishedNtf ∧ frame.payload.length < 2)
      ∨ ((frame.opcode? = some .setNodeVelocityCfm ∨ frame.opcode? = some .setNodeNameCfm)
        ∧ frame.payload.length = 1) := by
  obtain ⟨-, opcode, hopcode, -, done⟩ := done_of_complete pending complete
  obtain ⟨cutOpcode, hcutOpcode, hcut⟩ := cut
  obtain rfl : opcode = cutOpcode := Option.some.inj (hopcode.symm.trans hcutOpcode)
  cases hsession : command.descriptor.usesSession with
  | true =>
    rcases opcode_of_done_session hsession done with rfl | ⟨rfl, hlength⟩
    · rcases hcut with ⟨_, ⟨⟩, short⟩ | ⟨_, ⟨⟩, -⟩
      exact .inl ⟨hopcode, short⟩
    · rcases hcut with ⟨_, ⟨⟩, short⟩ | ⟨_, ⟨⟩, -⟩
      omega
  | false =>
    cases htarget : command.request.target? with
    | none =>
      obtain ⟨hno, hno'⟩ := offsets_of_done_other hsession htarget done
      rcases hcut with ⟨_, h, -⟩ | ⟨_, h, -⟩
      · cases hno.symm.trans h
      · cases hno'.symm.trans h
    | some node =>
      rcases opcode_of_done_target htarget done with ⟨rfl, hlength⟩ | ⟨rfl | rfl, hlength⟩
      · rcases hcut with ⟨_, ⟨⟩, -⟩ | ⟨_, ⟨⟩, short⟩
        simp only [Node.payloadSize] at hlength
        omega
      · rcases hcut with ⟨_, ⟨⟩, -⟩ | ⟨_, ⟨⟩, short⟩
        exact .inr ⟨.inl hopcode, by omega⟩
      · rcases hcut with ⟨_, ⟨⟩, -⟩ | ⟨_, ⟨⟩, short⟩
        exact .inr ⟨.inr hopcode, by omega⟩

/-! ## Sequences of frames -/

@[simp] theorem receiveAll_nil (command : Command) : command.receiveAll [] = command := rfl

@[simp] theorem receiveAll_cons (command : Command) (frame : Frame) (rest : List Frame) :
    command.receiveAll (frame :: rest) = (command.receive frame).receiveAll rest := rfl

theorem receiveAll_append (command : Command) (a b : List Frame) :
    command.receiveAll (a ++ b) = (command.receiveAll a).receiveAll b :=
  List.foldl_append

@[simp] theorem request_receive (command : Command) (frame : Frame) :
    (command.receive frame).request = command.request := by
  unfold receive
  split
  · exact request_respond command frame
  · rfl

@[simp] theorem session?_receive (command : Command) (frame : Frame) :
    (command.receive frame).session? = command.session? := by
  unfold receive
  split
  · exact session?_respond command frame
  · rfl

theorem receiveAll_keeps (command : Command) (frames : List Frame) :
    (command.receiveAll frames).request = command.request
      ∧ (command.receiveAll frames).session? = command.session? := by
  induction frames generalizing command with
  | nil => exact ⟨rfl, rfl⟩
  | cons frame rest ih =>
    obtain ⟨hrequest, hsession⟩ := ih (command.receive frame)
    exact ⟨hrequest.trans (request_receive ..), hsession.trans (session?_receive ..)⟩

/-- What a frame has to carry depends on the request and the session of a command alone. -/
theorem Correlated.congr {a b : Command} (hrequest : a.request = b.request)
    (hsession : a.session? = b.session?) {frame : Frame} (h : a.Correlated frame) :
    b.Correlated frame where
  session hkind := by
    obtain ⟨session, hsome, carries⟩ := h.session (by rwa [descriptor, kind, hrequest])
    exact ⟨session, hsession ▸ hsome, carries⟩
  node n htarget := h.node n (by rwa [hrequest])

theorem correlated_receiveAll (command : Command) (frames : List Frame) (frame : Frame) :
    (command.receiveAll frames).Correlated frame ↔ command.Correlated frame := by
  obtain ⟨hrequest, hsession⟩ := command.receiveAll_keeps frames
  exact ⟨.congr hrequest hsession, .congr hrequest.symm hsession.symm⟩

theorem receiveAll_of_isTerminal {command : Command} (h : command.isTerminal)
    (frames : List Frame) : command.receiveAll frames = command := by
  induction frames with
  | nil => rfl
  | cons frame rest ih =>
    have hreceive : command.receive frame = command := by
      unfold receive
      split
      · exact respond_of_isTerminal h frame
      · rfl
    rw [receiveAll_cons, hreceive, ih]

/-- A pending command that some frames complete is completed by one of them. -/
theorem exists_completing {command : Command} {frames : List Frame}
    (pending : command.status = .pending)
    (complete : (command.receiveAll frames).status = .complete) :
    ∃ before frame after, frames = before ++ frame :: after
      ∧ (command.receiveAll before).status = .pending
      ∧ ((command.receiveAll before).receive frame).status = .complete := by
  induction frames generalizing command with
  | nil => cases pending.symm.trans complete
  | cons frame rest ih =>
    by_cases hpending : (command.receive frame).status = .pending
    · obtain ⟨before, completing, after, rfl, hbefore, hcompleting⟩ := ih hpending complete
      exact ⟨frame :: before, completing, after, rfl, hbefore, hcompleting⟩
    · -- The first frame that ends the command completes it, for it stays as it is then.
      have hterminal := isTerminal_iff.mpr hpending
      rw [receiveAll_cons, receiveAll_of_isTerminal hterminal] at complete
      exact ⟨[], frame, rest, rfl, pending, complete⟩

/-- **Completion goes by session and node exactly as far as the payload reaches.** Of any frames
that complete a pending command, each of them taken only if it belongs to the command, one turns it
from pending to complete. That frame carries the session number of a command under a session and the
node of a command for one node if and only if its payload reaches over that field. -/
theorem completing_frame_correlated_iff {command : Command} {frames : List Frame}
    (pending : command.status = .pending)
    (complete : (command.receiveAll frames).status = .complete) :
    ∃ before frame after, frames = before ++ frame :: after
      ∧ (command.receiveAll before).status = .pending
      ∧ (command.receiveAll (before ++ [frame])).status = .complete
      ∧ (command.Correlated frame ↔ ¬ frame.IsCut)
      ∧ (frame.IsCut →
        (frame.opcode? = some .sessionFinishedNtf ∧ frame.payload.length < 2)
          ∨ ((frame.opcode? = some .setNodeVelocityCfm ∨ frame.opcode? = some .setNodeNameCfm)
            ∧ frame.payload.length = 1)) := by
  obtain ⟨before, frame, after, rfl, hbefore, hcompleting⟩ := exists_completing pending complete
  refine ⟨before, frame, after, rfl, hbefore, ?_, ?_, opcode_of_isCut hbefore hcompleting⟩
  · rwa [receiveAll_append]
  · rw [← correlated_receiveAll command before]
    exact correlated_iff_not_isCut hbefore hcompleting

/-- A scene under session 7 ends with the second of two ends of a session. -/
theorem completing_frame_of_scene :
    let scene : Command := { request := .executeScene 1 .silent, session? := some 7 }
    let frames : List Frame := [⟨0x0304, [0, 8]⟩, ⟨0x0304, [0, 7]⟩]
    scene.status = .pending ∧ (scene.receiveAll frames).status = .complete
      ∧ ∃ before frame after, frames = before ++ frame :: after
        ∧ (scene.receiveAll before).status = .pending
        ∧ (scene.receiveAll (before ++ [frame])).status = .complete
        ∧ (scene.Correlated frame ↔ ¬ frame.IsCut)
        ∧ (frame.IsCut →
          (frame.opcode? = some .sessionFinishedNtf ∧ frame.payload.length < 2)
            ∨ ((frame.opcode? = some .setNodeVelocityCfm ∨ frame.opcode? = some .setNodeNameCfm)
              ∧ frame.payload.length = 1)) :=
  ⟨rfl, by decide, completing_frame_correlated_iff rfl (by decide)⟩

/-- An end of a session without a session number completes a scene, and a confirmation without the
number of a node completes a change of velocity. -/
theorem cut_frames_complete :
    let scene : Command := { request := .executeScene 1 .silent, session? := some 7 }
    let velocity : Command := { request := .setVelocity 3 .silent }
    (scene.receiveAll [⟨0x0304, []⟩]).status = .complete
      ∧ ¬ scene.Correlated ⟨0x0304, []⟩
      ∧ (velocity.receiveAll [⟨0x020b, [0]⟩]).status = .complete
      ∧ ¬ velocity.Correlated ⟨0x020b, [0]⟩ := by
  refine ⟨by decide, ?_, by decide, ?_⟩
  · intro correlated
    obtain ⟨_, -, carries⟩ := correlated.session rfl
    have hopcode : Frame.opcode? ⟨0x0304, []⟩ = some .sessionFinishedNtf := rfl
    have hlength := carries.le_length hopcode rfl
    simp at hlength
  · intro correlated
    have hopcode : Frame.opcode? ⟨0x020b, [0]⟩ = some .setNodeVelocityCfm := rfl
    have hlength := (correlated.node 3 rfl).lt_length hopcode rfl
    simp at hlength

end Command

end ShutterGateway
