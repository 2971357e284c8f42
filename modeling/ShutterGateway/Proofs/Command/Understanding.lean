import ShutterGateway.Proofs.Command.Operations
import ShutterGateway.Proofs.Command.Verdict

/-!
Which answers a command understands. The table of exchanges says which opcodes answer a request,
and so does, in its own way, the reading of answers. Both say the same for every kind of request:
an answer is taken for one that is not understood if and only if the table does not have its opcode,
whatever its payload and whatever has been found before.
-/

namespace ShutterGateway

/-! ## The wording of an answer that is not understood -/

namespace ProtocolFault

/-- The wording of a fault is that of an answer that is not understood. -/
def SaysUnexpected (fault : ProtocolFault) : Prop :=
  ∃ code, fault.message = (unexpectedOpcode code).message

theorem saysUnexpected_unexpectedOpcode (code : UInt16) : (unexpectedOpcode code).SaysUnexpected :=
  ⟨code, rfl⟩

/-- A text begins with the first letter of its first part. -/
theorem head_append {text : String} {letter : Char} (h : text.toList.head? = some letter)
    (rest : String) : (text ++ rest).toList.head? = some letter := by
  rw [String.toList_append, List.head?_append, h]
  rfl

/-- The wording begins with a letter that no other wording of a fault begins with. -/
theorem SaysUnexpected.head {fault : ProtocolFault} (h : fault.SaysUnexpected) :
    fault.message.toList.head? = some 'u' := by
  obtain ⟨code, hmessage⟩ := h
  rw [hmessage]
  exact head_append (by decide) _

theorem head_text (opcode : Opcode) :
    ∃ letter, opcode.text.toList.head? = some letter ∧ letter ≠ 'u' := by
  have hname : ∃ letter, opcode.name.toList.head? = some letter ∧ letter ≠ 'u' := by
    cases opcode <;> exact ⟨_, rfl, by decide⟩
  obtain ⟨letter, hletter, hother⟩ := hname
  exact ⟨letter, head_append (head_append (head_append hletter _) _) _, hother⟩

theorem not_saysUnexpected_shortPayload (opcode : Opcode) (size needed : Nat) :
    ¬ (shortPayload opcode size needed).SaysUnexpected := by
  intro h
  obtain ⟨letter, hletter, hother⟩ := head_text opcode
  have hhead : (shortPayload opcode size needed).message.toList.head? = some letter :=
    head_append (head_append (head_append (head_append (head_append hletter _) _) _) _) _
  exact hother (Option.some.inj (hhead.symm.trans h.head))

theorem not_saysUnexpected_malformed (opcode : Opcode) : ¬ (malformed opcode).SaysUnexpected := by
  intro h
  have hhead : (malformed opcode).message.toList.head? = some 'm' := head_append (by decide) _
  cases hhead.symm.trans h.head

theorem not_saysUnexpected_shortNode (size : Nat) : ¬ (shortNode size).SaysUnexpected := by
  intro h
  have hhead : (shortNode size).message.toList.head? = some 'n' :=
    head_append (head_append (by decide) _) _
  cases hhead.symm.trans h.head

end ProtocolFault

/-- A failure of a command has the wording of an answer that is not understood. -/
def CommandError.IsUnexpected (error : CommandError) : Prop :=
  ∃ fault, error = .protocol fault ∧ fault.SaysUnexpected

/-- An answer means that it is not understood. -/
def Verdict.IsUnexpected (verdict : Verdict) : Prop :=
  ∃ error, verdict = .failed error ∧ error.IsUnexpected

/-- What an answer can mean that is understood. -/
inductive Verdict.Understood : Verdict → Prop where
  | more : Understood .more
  | done : Understood .done
  | rejected (rejection : Rejection) : Understood (.failed (.rejected rejection))
  | faulty {fault : ProtocolFault} (h : ¬ fault.SaysUnexpected) :
    Understood (.failed (.protocol fault))

namespace Verdict

theorem Understood.not_isUnexpected {verdict : Verdict} (h : verdict.Understood) :
    ¬ verdict.IsUnexpected := by
  rintro ⟨error, rfl, fault, rfl, unexpected⟩
  cases h with
  | faulty other => exact other unexpected

theorem Understood.ofRejection {accepted : Verdict} (h : accepted.Understood)
    (rejection? : Option Rejection) : (accepted.ofRejection rejection?).Understood := by
  cases rejection? with
  | none => exact h
  | some rejection => exact .rejected rejection

theorem Understood.ite {condition : Prop} [Decidable condition] {a b : Verdict}
    (ha : a.Understood) (hb : b.Understood) : (if condition then a else b).Understood := by
  split
  · exact ha
  · exact hb

end Verdict

/-! ## Readings that understand what they read -/

namespace Findings

variable {findings : Findings} {opcode : Opcode} {payload : Bytes}

theorem understands_requiring {size : Nat} {read : Id (Findings × Verdict)}
    (h : (Id.run read).2.Understood) :
    (Id.run (findings.requiring opcode payload size read)).2.Understood := by
  rw [run_requiring]
  split
  · exact .faulty (ProtocolFault.not_saysUnexpected_shortPayload _ _ _)
  · exact h

theorem understands_readStatus {accepted : Verdict} (h : accepted.Understood) :
    (Id.run (findings.readStatus opcode payload accepted)).2.Understood :=
  understands_requiring (h.ofRejection _)

theorem understands_readSceneStatus {accepted : Verdict} (h : accepted.Understood) :
    (Id.run (findings.readSceneStatus opcode payload accepted)).2.Understood :=
  understands_requiring (h.ofRejection _)

/-- A description is understood whether or not it can be read. -/
theorem understands_read {α : Type} {read : Option α} {next : Option α → Id (Findings × Verdict)}
    (found : ∀ value, (Id.run (next (some value))).2.Understood)
    (missing : (Id.run (next none)).2.Understood) :
    (Id.run (Id.run read >>= next)).2.Understood := by
  cases read with
  | some value => exact found value
  | none => exact missing

theorem understands_readSceneList :
    (Id.run (findings.readSceneList opcode payload)).2.Understood :=
  understands_requiring (understands_requiring (.ite .done .more))

/-- The notifications on the progress of a session are all understood. -/
theorem understands_readProgress (h : opcode ∈ sessionNotifications) :
    (Id.run (findings.readProgress opcode payload)).2.Understood := by
  simp only [sessionNotifications, List.mem_cons, List.not_mem_nil, or_false] at h
  rcases h with rfl | rfl | rfl
  · exact understands_requiring .more
  · exact understands_requiring .more
  · exact .done

end Findings

namespace Request

variable {opcode : Opcode} {payload : Bytes} {findings : Findings}

/-- The answer to a request that has a confirmation and no notification. -/
theorem eq_of_mem_sole {confirmation : Opcode}
    (h : opcode ∈ [confirmation] ∨ opcode ∈ ([] : List Opcode)) : opcode = confirmation := by
  rcases h with h | h
  · exact List.mem_singleton.mp h
  · cases h

/-- A confirmation after which only the notifications on the progress of a session follow. -/
theorem mem_sessionNotifications {confirmation : Opcode}
    (h : opcode ∈ [confirmation] ∨ opcode ∈ sessionNotifications) :
    opcode = confirmation ∨ opcode ≠ confirmation ∧ opcode ∈ sessionNotifications := by
  by_cases hsame : opcode = confirmation
  · exact .inl hsame
  · exact .inr ⟨hsame, h.resolve_left fun member => hsame (List.mem_singleton.mp member)⟩

/-- Every line of the table of exchanges is understood. -/
theorem understands_of_mem {request : Request}
    (h : opcode ∈ request.kind.descriptor.confirmations ∨
      opcode ∈ request.kind.descriptor.notifications) :
    (Id.run (request.readAnswer opcode payload findings)).2.Understood := by
  cases request with
  | getNode node =>
    simp only [kind, CommandKind.descriptor, List.mem_singleton] at h
    rcases h with rfl | rfl
    · exact Findings.understands_readStatus .more
    · exact Findings.understands_read (fun _ => .done)
        (.faulty (ProtocolFault.not_saysUnexpected_shortNode _))
  | getAllNodes =>
    simp only [kind, CommandKind.descriptor, List.mem_cons, List.not_mem_nil, or_false] at h
    rcases h with rfl | rfl | rfl
    · exact Findings.understands_requiring (.ite .done .more)
    · exact Findings.understands_read (fun _ => .more)
        (.faulty (ProtocolFault.not_saysUnexpected_shortNode _))
    · exact .done
  | getAllScenes =>
    simp only [kind, CommandKind.descriptor, List.mem_singleton] at h
    rcases h with rfl | rfl
    · exact Findings.understands_requiring (.ite .done .more)
    · exact Findings.understands_readSceneList
  | executeScene scene velocity =>
    rcases mem_sessionNotifications h with rfl | ⟨hother, hprogress⟩
    · exact Findings.understands_readSceneStatus .more
    · rw [readAnswer_executeScene hother]
      exact Findings.understands_readProgress hprogress
  | stopScene scene =>
    obtain rfl := eq_of_mem_sole h
    exact Findings.understands_readSceneStatus .done
  | sendPosition batch =>
    rcases mem_sessionNotifications h with rfl | ⟨hother, hprogress⟩
    · exact Findings.understands_requiring (.ite .more (.rejected _))
    · rw [readAnswer_sendPosition hother]
      exact Findings.understands_readProgress hprogress
  | sendMode batch =>
    rcases mem_sessionNotifications h with rfl | ⟨hother, hprogress⟩
    · exact Findings.understands_requiring (Verdict.Understood.more.ofRejection _)
    · rw [readAnswer_sendMode hother]
      exact Findings.understands_readProgress hprogress
  | setVelocity node velocity =>
    obtain rfl := eq_of_mem_sole h
    exact Findings.understands_readStatus .done
  | setNodeName node name =>
    obtain rfl := eq_of_mem_sole h
    exact Findings.understands_readStatus .done
  | enableMonitor =>
    obtain rfl := eq_of_mem_sole h
    exact .done
  | setTime time =>
    obtain rfl := eq_of_mem_sole h
    exact .done
  | login password =>
    obtain rfl := eq_of_mem_sole h
    exact Findings.understands_requiring (.ite .done (.rejected _))
  | ping =>
    obtain rfl := eq_of_mem_sole h
    exact Findings.understands_read (fun _ => .done)
      (.faulty (ProtocolFault.not_saysUnexpected_malformed _))
  | getVersion =>
    obtain rfl := eq_of_mem_sole h
    exact Findings.understands_read (fun _ => .done)
      (.faulty (ProtocolFault.not_saysUnexpected_malformed _))
  | getProtocol =>
    obtain rfl := eq_of_mem_sole h
    exact Findings.understands_read (fun _ => .done)
      (.faulty (ProtocolFault.not_saysUnexpected_malformed _))
  | terminate => rcases h with h | h <;> cases h

/-- No answer is understood that the table of exchanges does not have. -/
theorem readAnswer_of_not_expects {request : Request}
    (h : ¬ request.kind.descriptor.expects opcode) :
    Id.run (request.readAnswer opcode payload findings) = findings.unexpected opcode := by
  -- Each request and each opcode is a line of the table or falls through to the last case.
  cases request <;> cases opcode <;> first | rfl | exact absurd rfl h

theorem isUnexpected_unexpected : (findings.unexpected opcode).2.IsUnexpected :=
  ⟨_, rfl, _, rfl, ProtocolFault.saysUnexpected_unexpectedOpcode _⟩

/-- Every answer that the table of exchanges has for a request is understood. -/
theorem understands_of_expects {request : Request} (h : opcode ≠ .errorNtf)
    (expects : request.kind.descriptor.expects opcode) :
    (Id.run (request.readAnswer opcode payload findings)).2.Understood := by
  simp only [Descriptor.expects, Bool.and_eq_true, Bool.or_eq_true, decide_eq_true_eq] at expects
  rcases expects.2 with (notified | confirms) | notifies
  · exact absurd notified h
  · exact understands_of_mem (.inl confirms)
  · exact understands_of_mem (.inr notifies)

/-- The table of exchanges and the reading of answers know the same answers to every request. -/
theorem understands_iff_expects {request : Request} (h : opcode ≠ .errorNtf) :
    ¬ (Id.run (request.readAnswer opcode payload findings)).2.IsUnexpected
      ↔ request.kind.descriptor.expects opcode := by
  constructor
  · intro understands
    by_cases hexpects : request.kind.descriptor.expects opcode
    · exact hexpects
    · rw [readAnswer_of_not_expects hexpects] at understands
      exact absurd isUnexpected_unexpected understands
  · intro hexpects
    exact (understands_of_expects h hexpects).not_isUnexpected

end Request

namespace Command

variable {command : Command} {frame : Frame}

theorem exists_expects_of_accepts (accepts : command.accepts frame) :
    ∃ opcode, frame.opcode? = some opcode ∧ command.descriptor.expects opcode := by
  rw [accepts_eq] at accepts
  split at accepts
  · cases accepts
  · rename_i opcode hopcode
    simp only [Bool.and_eq_true] at accepts
    exact ⟨opcode, hopcode, accepts.1.1⟩

/-- An answer that the table of exchanges does not have fails a pending command, whatever else it
brings, and changes nothing else. -/
theorem respond_of_not_expects (pending : command.status = .pending)
    (h : ∀ opcode, frame.opcode? = some opcode → ¬ command.descriptor.expects opcode) :
    command.respond frame
      = { command with status := .failed (.protocol (.unexpectedOpcode frame.code)) } := by
  have hopen : ¬ command.isTerminal := by simp [isTerminal_iff, pending]
  have hfilter : frame.opcode?.filter (command.descriptor.expects ·) = none := by
    rw [Option.filter_eq_none_iff]
    exact h
  rw [respond_eq, if_neg hopen, hfilter]
  show command.fail _ = _
  rw [fail, if_neg hopen]

/-- What an answer makes of a pending command. -/
theorem error?_conclude {findings : Findings} {verdict : Verdict} {error : CommandError}
    (pending : command.status = .pending)
    (failed : (command.conclude findings verdict).error? = some error) :
    verdict = .failed error := by
  cases verdict with
  | more =>
    have hstill : command.error? = some error := failed
    rw [error?, pending] at hstill
    cases hstill
  | done => cases failed
  | failed other =>
    cases failed
    rfl

/-- An answer that belongs to a command fails it only in a way in which an answer is understood. -/
theorem error?_respond_of_accepts (accepts : command.accepts frame) {error : CommandError}
    (failed : (command.respond frame).error? = some error) :
    command.error? = some error ∨ (Verdict.failed error).Understood := by
  by_cases hover : command.isTerminal
  · rw [respond_of_isTerminal hover] at failed
    exact .inl failed
  refine .inr ?_
  have hpending : command.status = .pending := Decidable.not_not.mp (mt isTerminal_iff.mpr hover)
  obtain ⟨opcode, hopcode, hexpects⟩ := exists_expects_of_accepts accepts
  rw [respond_eq, if_neg hover, hopcode, Option.filter_some, if_pos hexpects] at failed
  by_cases hnotified : opcode = .errorNtf
  · subst hnotified
    have hfailed : (command.fail (.rejected
        (.gateway (.ofCode (frame.payload.head?.getD 0))))).error? = some error := failed
    rw [fail, if_neg hover] at hfailed
    cases hfailed
    exact .rejected _
  · have hconclude : (command.conclude (command.answered opcode frame.payload).1
        (command.answered opcode frame.payload).2).error? = some error := by
      cases opcode <;> first | exact absurd rfl hnotified | exact failed
    rw [← error?_conclude hpending hconclude]
    exact Request.understands_of_expects hnotified hexpects

end Command

end ShutterGateway
