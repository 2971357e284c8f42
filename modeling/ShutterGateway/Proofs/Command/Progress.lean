import ShutterGateway.Proofs.Command.Answering
import ShutterGateway.Proofs.Command.Operations
import ShutterGateway.Proofs.Command.Understanding

/-!
Commands that are followed to the end of their session: positions, modes and scenes. The layouts of
the answers to them are written out byte by byte in one table, which says of each answer by itself
what it decides. The first answer that decides anything decides the command, what it has found are
the reports before that answer, and no answer behind it changes anything. One row of the table does
not hold: the notification that a session is finished completes a command however few bytes it has.
-/

namespace ShutterGateway

namespace Opcode

/-- What an answer decides about a command that is followed to the end of its session, by the
layouts of the answers. Bytes behind a layout are ignored. -/
def decisionOf? : Opcode → Bytes → Option Status
  -- the session, and one for a position request that is accepted
  | commandSendCfm, _ :: _ :: accepted :: _ =>
    if accepted = 1 then none else some Rejection.rejected.status
  -- the session and a status
  | modeSendCfm, _ :: _ :: status :: _ => (Rejection.ofStatus? status).map (·.status)
  -- a status and the session
  | activateSceneCfm, status :: _ :: _ :: _ => (Rejection.ofSceneStatus? status).map (·.status)
  -- the session, a byte of no interest, node, parameter, value, run status and reply
  | commandRunStatusNtf, _ :: _ :: _ :: _ :: _ :: _ :: _ :: _ :: _ :: _ => none
  -- the session, node, parameter and the seconds
  | commandRemainingTimeNtf, _ :: _ :: _ :: _ :: _ :: _ :: _ => none
  -- the session
  | sessionFinishedNtf, _ :: _ :: _ => some .complete
  -- the number of the fault, zero if it is missing
  | errorNtf, payload => some (Rejection.gateway (.ofCode (payload.head?.getD 0))).status
  | commandRunStatusNtf, cut => some (commandRunStatusNtf.cutStatus cut 9)
  | commandRemainingTimeNtf, cut => some (commandRemainingTimeNtf.cutStatus cut 6)
  | sessionFinishedNtf, cut => some (sessionFinishedNtf.cutStatus cut 2)
  | confirmation, cut => some (confirmation.cutStatus cut 3)

/-- The report in a notification of a run status. -/
def reportOf? : Opcode → Bytes → Option RunReport
  | commandRunStatusNtf,
      _ :: _ :: _ :: node :: parameter :: high :: low :: runStatus :: statusReply :: _ =>
    some ⟨node, parameter, ⟨joinWord high low⟩, .ofCode runStatus, .ofCode statusReply⟩
  | _, _ => none

/-- Only the notification that the session is finished completes a command. -/
theorem decisionOf?_eq_complete {opcode : Opcode} {payload : Bytes}
    (h : opcode.decisionOf? payload = some .complete) : opcode = .sessionFinishedNtf := by
  revert h
  fun_cases decisionOf? opcode payload <;> simp [Rejection.status, cutStatus]

theorem decisionOf?_ne_pending {opcode : Opcode} {payload : Bytes} {status : Status}
    (h : opcode.decisionOf? payload = some status) : status ≠ .pending := by
  rintro rfl
  revert h
  fun_cases decisionOf? opcode payload <;> simp [Rejection.status, cutStatus]

/-- Of the answers that bring a report only those that decide nothing are read. -/
theorem decisionOf?_of_reportOf? {opcode : Opcode} {payload : Bytes} {report : RunReport}
    (h : opcode.reportOf? payload = some report) : opcode.decisionOf? payload = none := by
  unfold reportOf? at h
  split at h
  · rfl
  · cases h

theorem decisionOf?_of_remainingOf? {opcode : Opcode} {payload : Bytes} {seconds : UInt16}
    (h : opcode.remainingOf? payload = some seconds) : opcode.decisionOf? payload = none := by
  unfold remainingOf? readRemaining at h
  split at h
  · match payload with
    | [] | [_] | [_, _] | [_, _, _] | [_, _, _, _] | [_, _, _, _, _] => cases h
    | _ :: _ :: _ :: _ :: _ :: _ :: _ => rfl
  · cases h

end Opcode

namespace Frame

/-- What an answer decides about a command that is followed to the end of its session. -/
def decision? (frame : Frame) : Option Status :=
  frame.opcode?.bind (·.decisionOf? frame.payload)

/-- The report in a notification of a run status. -/
def report? (frame : Frame) : Option RunReport :=
  frame.opcode?.bind (·.reportOf? frame.payload)

/-- A notification that a session is finished ends before the number of the session does. -/
def IsCutFinish (frame : Frame) : Prop :=
  frame.opcode? = some .sessionFinishedNtf ∧ frame.payload.length < 2

instance (frame : Frame) : Decidable frame.IsCutFinish :=
  inferInstanceAs (Decidable (_ ∧ _))

end Frame

/-! ## The table and the reading of answers -/

/-- What is read in an answer is decided as the table says. -/
def Verdict.Agrees (verdict : Verdict) (opcode : Opcode) (payload : Bytes) : Prop :=
  verdict.status = (opcode.decisionOf? payload).getD .pending

namespace Findings

variable (findings : Findings) (payload : Bytes)

theorem readProgress_runStatus :
    let read := Id.run (findings.readProgress .commandRunStatusNtf payload)
    read.1 = { findings with
        reports := findings.reports ++ (Opcode.reportOf? .commandRunStatusNtf payload).toList }
      ∧ read.2.Agrees .commandRunStatusNtf payload := by
  match payload with
  | [] | [_] | [_, _] | [_, _, _] | [_, _, _, _] | [_, _, _, _, _] | [_, _, _, _, _, _]
  | [_, _, _, _, _, _, _] | [_, _, _, _, _, _, _, _] =>
    refine ⟨?_, rfl⟩
    simp only [Opcode.reportOf?, Option.toList_none, List.append_nil]
    rfl
  | _ :: _ :: _ :: _ :: _ :: _ :: _ :: _ :: _ :: _ =>
    exact ⟨rfl, rfl⟩

theorem readProgress_remainingTime :
    let read := Id.run (findings.readProgress .commandRemainingTimeNtf payload)
    read.1 = { findings with remainingTime? :=
        (Opcode.remainingOf? .commandRemainingTimeNtf payload).or findings.remainingTime? }
      ∧ read.2.Agrees .commandRemainingTimeNtf payload := by
  match payload with
  | [] | [_] | [_, _] | [_, _, _] | [_, _, _, _] | [_, _, _, _, _] => exact ⟨rfl, rfl⟩
  | _ :: _ :: _ :: _ :: _ :: _ :: _ => exact ⟨rfl, rfl⟩

end Findings

namespace Request

variable (findings : Findings) (payload : Bytes)

theorem readAnswer_commandSendCfm (batch : PositionBatch) :
    let read := Id.run ((sendPosition batch).readAnswer .commandSendCfm payload findings)
    read.1 = findings ∧ read.2.Agrees .commandSendCfm payload := by
  match payload with
  | [] | [_] | [_, _] => exact ⟨rfl, rfl⟩
  | _ :: _ :: accepted :: _ =>
    refine ⟨rfl, ?_⟩
    show (if accepted = 1 then Verdict.more else _).status = Option.getD (if _ then _ else _) _
    split <;> rfl

theorem readAnswer_modeSendCfm (batch : ModeBatch) :
    let read := Id.run ((sendMode batch).readAnswer .modeSendCfm payload findings)
    read.1 = findings ∧ read.2.Agrees .modeSendCfm payload := by
  match payload with
  | [] | [_] | [_, _] => exact ⟨rfl, rfl⟩
  | _ :: _ :: status :: _ =>
    refine ⟨rfl, ?_⟩
    show (Verdict.more.ofRejection (Rejection.ofStatus? status)).status
      = ((Rejection.ofStatus? status).map (·.status)).getD _
    cases Rejection.ofStatus? status <;> rfl

theorem readAnswer_activateSceneCfm (scene : UInt8) (velocity : Velocity) :
    let read := Id.run ((executeScene scene velocity).readAnswer .activateSceneCfm payload findings)
    read.1 = findings ∧ read.2.Agrees .activateSceneCfm payload := by
  match payload with
  | [] | [_] | [_, _] => exact ⟨rfl, rfl⟩
  | status :: _ :: _ :: _ =>
    refine ⟨rfl, ?_⟩
    show (Verdict.more.ofRejection (Rejection.ofSceneStatus? status)).status
      = ((Rejection.ofSceneStatus? status).map (·.status)).getD _
    cases Rejection.ofSceneStatus? status <;> rfl

end Request

namespace Account

/-- The account of a command that is followed to the end of its session. It goes by the table, but
for the notification that the session is finished, whose bytes are not looked at. -/
def progress : Account where
  add frame findings := { findings with
    reports := findings.reports ++ frame.report?.toList
    remainingTime? := frame.remaining?.or findings.remainingTime? }
  decision? frame :=
    if frame.opcode? = some .sessionFinishedNtf then some .complete else frame.decision?
  decision_ne_pending := by
    intro frame status h
    split at h
    · cases h
      simp
    · obtain ⟨opcode, -, hdecision⟩ := Option.bind_eq_some_iff.mp h
      exact Opcode.decisionOf?_ne_pending hdecision

variable {frame : Frame} {opcode : Opcode} {findings : Findings} {read : Findings × Verdict}

theorem progress_add (hopcode : frame.opcode? = some opcode) :
    progress.add frame findings = { findings with
      reports := findings.reports ++ (opcode.reportOf? frame.payload).toList
      remainingTime? := (opcode.remainingOf? frame.payload).or findings.remainingTime? } := by
  simp only [progress, Frame.report?, Frame.remaining?, hopcode, Option.bind_some]

/-- An answer other than the two notifications of how the session goes adds nothing. -/
theorem progress_add_of_ne (hopcode : frame.opcode? = some opcode)
    (notRunStatus : opcode ≠ .commandRunStatusNtf) (notTime : opcode ≠ .commandRemainingTimeNtf) :
    progress.add frame findings = findings := by
  have hreport : opcode.reportOf? frame.payload = none := by
    cases opcode <;> first | rfl | exact absurd rfl notRunStatus
  have hremaining : opcode.remainingOf? frame.payload = none := by
    cases opcode <;> first | rfl | exact absurd rfl notTime
  simp only [progress_add hopcode, hreport, hremaining, Option.toList_none, List.append_nil,
    Option.none_or]

theorem progress_decision? (hopcode : frame.opcode? = some opcode)
    (notFinished : opcode ≠ .sessionFinishedNtf) :
    progress.decision? frame = opcode.decisionOf? frame.payload := by
  have hother : ¬ some opcode = some Opcode.sessionFinishedNtf :=
    fun h => notFinished (Option.some.inj h)
  simp only [progress, Frame.decision?, hopcode, if_neg hother, Option.bind_some]

theorem reads_confirmation (hopcode : frame.opcode? = some opcode)
    (confirms : opcode ∉ sessionNotifications)
    (h : read.1 = findings ∧ read.2.Agrees opcode frame.payload) :
    progress.Reads frame findings read := by
  simp only [sessionNotifications, List.mem_cons, List.not_mem_nil, or_false, not_or] at confirms
  obtain ⟨notRunStatus, notTime, notFinished⟩ := confirms
  exact ⟨h.1.trans (progress_add_of_ne hopcode notRunStatus notTime).symm,
    h.2.trans (by rw [progress_decision? hopcode notFinished])⟩

theorem reads_notification (hopcode : frame.opcode? = some opcode)
    (notifies : opcode ∈ sessionNotifications) :
    progress.Reads frame findings (Id.run (findings.readProgress opcode frame.payload)) := by
  simp only [sessionNotifications, List.mem_cons, List.not_mem_nil, or_false] at notifies
  rcases notifies with rfl | rfl | rfl
  · obtain ⟨hfound, hagrees⟩ := findings.readProgress_runStatus frame.payload
    refine ⟨hfound.trans ?_, hagrees.trans ?_⟩
    · rw [progress_add hopcode]
      rfl
    · rw [progress_decision? hopcode (by decide)]
  · obtain ⟨hfound, hagrees⟩ := findings.readProgress_remainingTime frame.payload
    refine ⟨hfound.trans ?_, hagrees.trans ?_⟩
    · rw [progress_add hopcode]
      simp [Opcode.reportOf?]
    · rw [progress_decision? hopcode (by decide)]
  · refine ⟨(progress_add_of_ne hopcode (by decide) (by decide)).symm, ?_⟩
    simp only [progress, if_pos hopcode]
    rfl

/-- The account is right about positions, modes and scenes. -/
theorem progress_describes {request : Request}
    (followed : request.kind ∈ [.sendPosition, .sendMode, .executeScene]) :
    progress.Describes request := by
  refine .of_readAnswer ?_ ?_
  · intro frame hopcode
    refine ⟨fun _ => progress_add_of_ne hopcode (by decide) (by decide), ?_⟩
    rw [progress_decision? hopcode (by decide), Opcode.decisionOf?]
    rfl
  · intro frame opcode hopcode member findings
    cases request with
    | sendPosition batch =>
      rcases Request.mem_sessionNotifications member with rfl | ⟨hother, hprogress⟩
      · exact reads_confirmation hopcode (by decide) (Request.readAnswer_commandSendCfm ..)
      · rw [Request.readAnswer_sendPosition hother]
        exact reads_notification hopcode hprogress
    | sendMode batch =>
      rcases Request.mem_sessionNotifications member with rfl | ⟨hother, hprogress⟩
      · exact reads_confirmation hopcode (by decide) (Request.readAnswer_modeSendCfm ..)
      · rw [Request.readAnswer_sendMode hother]
        exact reads_notification hopcode hprogress
    | executeScene scene velocity =>
      rcases Request.mem_sessionNotifications member with rfl | ⟨hother, hprogress⟩
      · exact reads_confirmation hopcode (by decide) (Request.readAnswer_activateSceneCfm ..)
      · rw [Request.readAnswer_executeScene hother]
        exact reads_notification hopcode hprogress
    | _ => simp [Request.kind] at followed

/-! ## Any number of answers -/

theorem progress_decision?_eq_none :
    progress.decision? frame = none ↔ frame.decision? = none := by
  by_cases hfinished : frame.opcode? = some .sessionFinishedNtf
  · simp only [progress, Frame.decision?, hfinished, Option.bind_some]
    match frame.payload with
    | [] | [_] | _ :: _ :: _ => simp [Opcode.decisionOf?]
  · simp only [progress, if_neg hfinished]

/-- An answer that decides the command adds nothing to what has been found. -/
theorem progress_add_of_decision {status : Status} (h : progress.decision? frame = some status) :
    progress.add frame findings = findings := by
  have hdecides : frame.decision? ≠ none := by
    rw [ne_eq, ← progress_decision?_eq_none, h]
    simp
  obtain ⟨opcode, hopcode⟩ : ∃ opcode, frame.opcode? = some opcode := by
    cases hopcode : frame.opcode? with
    | none => exact absurd (by rw [Frame.decision?, hopcode]; rfl) hdecides
    | some opcode => exact ⟨opcode, rfl⟩
  rw [Frame.decision?, hopcode, Option.bind_some] at hdecides
  have hreport : opcode.reportOf? frame.payload = none :=
    Option.eq_none_iff_forall_ne_some.mpr fun _ hsome =>
      hdecides (Opcode.decisionOf?_of_reportOf? hsome)
  have hremaining : opcode.remainingOf? frame.payload = none :=
    Option.eq_none_iff_forall_ne_some.mpr fun _ hsome =>
      hdecides (Opcode.decisionOf?_of_remainingOf? hsome)
  simp only [progress_add hopcode, hreport, hremaining, Option.toList_none, List.append_nil,
    Option.none_or]

/-- The answer that decides the command decides what the table says, unless the table takes it for
too short a notification that the session is finished. -/
theorem exists_decision {given : Status} (h : progress.decision? frame = some given) :
    ∃ status, frame.decision? = some status
      ∧ given = (if frame.IsCutFinish then .complete else status)
      ∧ (given = .complete ↔ frame.opcode? = some .sessionFinishedNtf)
      ∧ (given = status ↔ ¬ frame.IsCutFinish) := by
  by_cases hfinished : frame.opcode? = some .sessionFinishedNtf
  · simp only [progress, if_pos hfinished] at h
    obtain rfl := Option.some.inj h
    simp only [Frame.decision?, Frame.IsCutFinish, hfinished, Option.bind_some, true_and]
    match frame.payload with
    | [] | [_] | _ :: _ :: _ => simp [Opcode.decisionOf?, Opcode.cutStatus]
  · have hwhole : ¬ frame.IsCutFinish := fun hcut => hfinished hcut.1
    simp only [progress, if_neg hfinished] at h
    refine ⟨given, h, (if_neg hwhole).symm, ?_, by simp [hwhole]⟩
    refine iff_of_false ?_ hfinished
    rintro rfl
    obtain ⟨opcode, hopcode, hcomplete⟩ := Option.bind_eq_some_iff.mp h
    exact hfinished (hopcode.trans (congrArg some (Opcode.decisionOf?_eq_complete hcomplete)))

end Account

/-- What some answers have brought that decide nothing: their reports in order, and the rest of the
session as it was announced last. -/
def Findings.ofProgress (frames : List Frame) : Findings where
  reports := frames.filterMap Frame.report?
  remainingTime? := (frames.filterMap Frame.remaining?).getLast?

theorem Account.progress_addAll (frames : List Frame) (findings : Findings) :
    progress.addAll frames findings = { findings with
      reports := findings.reports ++ frames.filterMap Frame.report?
      remainingTime? :=
        (frames.filterMap Frame.remaining?).getLast?.or findings.remainingTime? } := by
  induction frames generalizing findings with
  | nil => simp [addAll]
  | cons frame rest ih =>
    rw [addAll, List.foldl_cons, ← addAll, ih]
    cases hreport : frame.report? <;> cases hremaining : frame.remaining? <;>
      simp [progress, hreport, hremaining, List.getLast?_cons]

namespace Command

/-- A command that was built and then given a session has nothing else yet. -/
theorem assignSession_of_built {command : Command} (built : command.Built)
    (followed : command.kind ∈ [.sendPosition, .sendMode, .executeScene]) (session : UInt16) :
    command.assignSession session = { request := command.request, session? := some session } := by
  have huses : command.descriptor.usesSession := by
    simp only [List.mem_cons, List.not_mem_nil, or_false] at followed
    rcases followed with h | h | h <;> rw [descriptor, h] <;> rfl
  rw [assignSession, if_pos huses, built.eq_pristine]
  rfl

/-- **The first answer that decides anything decides the command.** A position, mode or scene
command was built, a session was assigned to it, and it is given any answers that the table of
exchanges has for it. Then

* either none of the answers decides anything, and the command is pending with the reports of all
  of them, in the order in which they came;
* or one of them is the first that decides something, and the command has the status that this
  answer decides and the reports of the answers before it, whatever comes behind it. The command is
  complete exactly if that answer says that the session is finished.

What an answer decides is said by the layouts of the answers, with one exception: the command does
not get the status that is decided exactly if the answer is a notification that the session is
finished that ends before the number of the session does. It should fail the command as any other
answer does that is too short, and completes it. -/
theorem first_deciding_answer_decides_iff {command : Command} (built : command.Built)
    (followed : command.kind ∈ [.sendPosition, .sendMode, .executeScene]) (session : UInt16)
    {frames : List Frame} (expected : ∀ frame ∈ frames, command.Expects frame) :
    let begun : Command := { request := command.request, session? := some session }
    let outcome := (command.assignSession session).respondAll frames
    (∀ frame ∈ frames, frame.decision? = none)
        ∧ outcome = { begun with findings := .ofProgress frames }
      ∨ ∃ before deciding later status, frames = before ++ deciding :: later
        ∧ (∀ frame ∈ before, frame.decision? = none) ∧ deciding.decision? = some status
        ∧ outcome = { begun with
          findings := .ofProgress before
          status := if deciding.IsCutFinish then .complete else status }
        ∧ (outcome.status = .complete ↔ deciding.opcode? = some .sessionFinishedNtf)
        ∧ (outcome.status = status ↔ ¬ deciding.IsCutFinish) := by
  intro begun outcome
  have hbegun : command.assignSession session = begun :=
    assignSession_of_built built followed session
  have hadded (answers : List Frame) :
      Account.progress.addAll answers begun.findings = .ofProgress answers := by
    simp [Account.progress_addAll, begun, Findings.ofProgress]
  have hexpected : ∀ frame ∈ frames, begun.Expects frame :=
    fun frame hframe => (expected frame hframe).congr rfl
  have hfollows : Account.progress.Follows begun frames :=
    (Account.progress_describes followed).follows rfl rfl hexpected
  simp only [outcome, hbegun]
  cases hfollows with
  | pending passed after =>
    refine .inl ⟨?_, ?_⟩
    · exact fun frame hframe => Account.progress_decision?_eq_none.mp (passed frame hframe)
    rw [after, hadded]
  | @decided before deciding later given split passed decision after =>
    obtain ⟨status, hdecision, hgiven, hcomplete, hsame⟩ := Account.exists_decision decision
    refine .inr ⟨before, deciding, later, status, split, ?_, hdecision, ?_⟩
    · exact fun frame hframe => Account.progress_decision?_eq_none.mp (passed frame hframe)
    rw [after, Account.progress_add_of_decision decision, hadded]
    exact ⟨by rw [hgiven], hcomplete, hsame⟩

/-- A scene is followed through a confirmation and two reports to the end of its session. The
refusal that comes after the end is not looked at. -/
theorem first_deciding_answer_decides_scene :
    let scene : Command := { request := .executeScene 1 .silent }
    let frames : List Frame :=
      [⟨0x0302, [0, 7, 1, 3, 0, 0x64, 0, 2, 1]⟩, ⟨0x0413, [0, 0, 7]⟩,
        ⟨0x0302, [0, 7, 1, 5, 0, 0xc8, 0, 0, 1]⟩, ⟨0x0304, [0, 7]⟩, ⟨0x0413, [2, 0, 7]⟩]
    let begun : Command := { request := scene.request, session? := some 7 }
    let outcome := (scene.assignSession 7).respondAll frames
    (scene.Built ∧ scene.kind ∈ [.sendPosition, .sendMode, .executeScene]
        ∧ ∀ frame ∈ frames, scene.Expects frame)
      ∧ outcome.status = .complete ∧ outcome.findings.reports.map (·.node) = [3, 5]
      ∧ ((∀ frame ∈ frames, frame.decision? = none)
          ∧ outcome = { begun with findings := .ofProgress frames }
        ∨ ∃ before deciding later status, frames = before ++ deciding :: later
          ∧ (∀ frame ∈ before, frame.decision? = none) ∧ deciding.decision? = some status
          ∧ outcome = { begun with
            findings := .ofProgress before
            status := if deciding.IsCutFinish then .complete else status }
          ∧ (outcome.status = .complete ↔ deciding.opcode? = some .sessionFinishedNtf)
          ∧ (outcome.status = status ↔ ¬ deciding.IsCutFinish)) := by
  intro scene frames begun outcome
  have built : scene.Built := .unchecked (by decide)
  have followed : scene.kind ∈ [.sendPosition, .sendMode, .executeScene] := by decide
  have expected : ∀ frame ∈ frames, scene.Expects frame := by
    simp only [frames, List.forall_mem_cons, List.not_mem_nil, false_implies, implies_true,
      and_true]
    exact ⟨⟨.commandRunStatusNtf, rfl, rfl⟩, ⟨.activateSceneCfm, rfl, rfl⟩,
      ⟨.commandRunStatusNtf, rfl, rfl⟩, ⟨.sessionFinishedNtf, rfl, rfl⟩,
      ⟨.activateSceneCfm, rfl, rfl⟩⟩
  have complete : outcome.status = .complete := by decide
  have nodes : outcome.findings.reports.map (·.node) = [3, 5] := by decide
  exact ⟨⟨built, followed, expected⟩, complete, nodes,
    first_deciding_answer_decides_iff built followed 7 expected⟩

/-- A notification without any bytes that the session is finished should fail a mode command, and
completes it. -/
theorem cut_finish_completes :
    ∃ command, sendMode? [⟨5, 2, 16⟩] = .ok command
      ∧ command.Expects ⟨0x0304, []⟩
      ∧ Frame.decision? ⟨0x0304, []⟩
        = some (.failed (.protocol (.shortPayload .sessionFinishedNtf 0 2)))
      ∧ ((command.assignSession 7).respondAll [⟨0x0304, []⟩]).status = .complete :=
  ⟨_, rfl, ⟨.sessionFinishedNtf, rfl, rfl⟩, rfl, rfl⟩

end Command

end ShutterGateway
