import ShutterGateway.Proofs.Command.Correlation

/-!
Commands under a session number. Such a command sends its number at the start of its request, and
of the frames that carry a session number it takes only those that carry its own. A command of any
other kind takes none of them.
-/

namespace ShutterGateway

theorem wordBytes_injective {a b : UInt16} (h : wordBytes a = wordBytes b) : a = b := by
  obtain ⟨hhi, hlo⟩ := List.cons.inj h
  rw [← joinWord_wordBytes a, hhi, (List.cons.inj hlo).1, joinWord_wordBytes]

/-- No kind of command without a session is answered under one. -/
theorem CommandKind.usesSession_of_expects {kind : CommandKind} {opcode : Opcode} {offset : Nat}
    (expects : kind.descriptor.expects opcode) (carried : opcode.sessionOffset? = some offset) :
    kind.descriptor.usesSession := by
  have htable : ∀ answer ∈ .errorNtf :: kind.descriptor.confirmations
      ++ kind.descriptor.notifications,
      answer.sessionOffset?.isSome → kind.descriptor.usesSession := by
    cases kind <;> decide
  have hmember : opcode ∈ .errorNtf :: kind.descriptor.confirmations
      ++ kind.descriptor.notifications := by
    simp only [Descriptor.expects, Bool.and_eq_true, Bool.or_eq_true, decide_eq_true_eq] at expects
    rcases expects.2 with (rfl | hconfirms) | hnotifies
    · exact List.mem_cons_self
    · exact List.mem_append_left _ (List.mem_cons_of_mem _ hconfirms)
    · exact List.mem_append_right _ hnotifies
  refine htable opcode hmember ?_
  rw [carried]
  rfl

/-- The request of a command under a session starts with the session number. -/
theorem Request.take_payload {request : Request} (uses : request.kind.descriptor.usesSession)
    (session : UInt16) : (request.payload session).take 2 = wordBytes session := by
  cases request with
  | executeScene scene velocity => rfl
  | stopScene scene => rfl
  | sendPosition batch =>
    simp only [payload, positionPayload, sessionHeader, List.append_assoc]
    exact List.take_left' (length_wordBytes session)
  | sendMode batch =>
    simp only [payload, modePayload, sessionHeader, List.append_assoc]
    exact List.take_left' (length_wordBytes session)
  | _ => cases uses

namespace Command

variable {command : Command} {frame : Frame} {session : UInt16}

/-- The request of a command starts with a session number. -/
def Announces (command : Command) (session : UInt16) : Prop :=
  ∃ frame, command.frame? = .ok frame ∧ frame.payload.take 2 = wordBytes session

theorem session?_assignSession (uses : command.descriptor.usesSession) (session : UInt16) :
    (command.assignSession session).session? = some session := by
  rw [assignSession, if_pos uses]

/-- A command that was given a session number has a request, and it starts with the number. -/
theorem announces_of_session (uses : command.descriptor.usesSession)
    (assigned : command.session? = some session) : command.Announces session := by
  have hkind : command.kind ≠ .terminate := by
    intro hkind
    rw [descriptor, hkind] at uses
    cases uses
  obtain ⟨opcode, -, hframe⟩ := frame?_eq_ok hkind
  refine ⟨_, hframe, ?_⟩
  show (command.request.payload (command.session?.getD 0)).take 2 = _
  rw [assigned]
  exact Request.take_payload uses session

/-- A request starts with one number only. -/
theorem Announces.unique {other : UInt16} (a : command.Announces session)
    (b : command.Announces other) : session = other := by
  obtain ⟨frame, hframe, hbytes⟩ := a
  obtain ⟨frame', hframe', hbytes'⟩ := b
  have hsame : frame = frame' := by
    rw [hframe] at hframe'
    exact Except.ok.inj hframe'
  subst hsame
  exact wordBytes_injective (hbytes.symm.trans hbytes')

/-- A frame that carries a session number belongs to commands under this number at most. -/
theorem session?_of_accepts (accepts : command.accepts frame)
    (carries : frame.CarriesSession session) :
    command.descriptor.usesSession ∧ command.session? = some session := by
  obtain ⟨opcode, offset, hopcode, hoffset, hbytes⟩ := id carries
  have hreaches : offset + 2 ≤ frame.payload.length := carries.le_length hopcode hoffset
  constructor
  · rw [accepts_eq, hopcode] at accepts
    simp only [Bool.and_eq_true] at accepts
    exact CommandKind.usesSession_of_expects accepts.1.1 hoffset
  · obtain ⟨own, hown, opcode', offset', hopcode', hoffset', hbytes'⟩ :=
      carriesSession_of_accepts accepts hopcode hoffset hreaches
    -- Both numbers stand at the same place of the frame.
    obtain rfl := Option.some.inj (hopcode.symm.trans hopcode')
    obtain rfl := Option.some.inj (hoffset.symm.trans hoffset')
    rw [hown, wordBytes_injective (hbytes'.symm.trans hbytes)]

end Command

end ShutterGateway
