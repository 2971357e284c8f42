import ShutterGateway.Link.Login
import ShutterGateway.Proofs.Command.Verdict

/-!
What decides a login. The gateway confirms the password, or answers it with another status or with a
notification of an error; all other frames leave the login as it is.
-/

namespace ShutterGateway

namespace Frame

/-- The gateway accepts the password. -/
def Grants (frame : Frame) : Prop :=
  frame.code = 0x3001 ∧ frame.payload.head? = some 0

/-- The gateway answers the password otherwise, or notifies of an error. -/
def Refuses (frame : Frame) : Prop :=
  frame.code = 0x3001 ∧ frame.payload.head? ≠ some 0 ∨ frame.code = 0x0000

end Frame

namespace Login

variable {command : Command} {frame : Frame}

theorem expects_login (kind : command.kind = .login) (opcode : Opcode) :
    command.descriptor.expects opcode ↔ opcode = .passwordEnterCfm ∨ opcode = .errorNtf := by
  rw [Command.descriptor, kind]
  cases opcode <;> decide

theorem request_of_login (kind : command.kind = .login) :
    ∃ password, command.request = .login password := by
  revert kind
  rw [Command.kind]
  cases command.request <;> first | exact fun _ => ⟨_, rfl⟩ | exact nofun

theorem accepts_iff (kind : command.kind = .login) :
    command.accepts frame
      ↔ frame.opcode? = some .passwordEnterCfm ∨ frame.opcode? = some .errorNtf := by
  rw [Command.accepts_eq]
  cases hopcode : frame.opcode? with
  | none => simp
  | some opcode =>
    have hexpects := expects_login kind opcode
    constructor
    · intro h
      simp only [Bool.and_eq_true] at h
      simpa using hexpects.mp h.1.1
    · intro h
      simp only [Option.some.injEq] at h
      rw [← hexpects] at h
      simp only [h]
      rcases hexpects.mp h with rfl | rfl <;> rfl

/-- The confirmation of the password says by its status whether the login is accepted. -/
theorem status_confirmed (kind : command.kind = .login) (pending : command.status = .pending)
    (opcode : frame.opcode? = some .passwordEnterCfm) :
    if frame.payload.head? = some 0 then (command.respond frame).status = .complete
    else ∃ error, (command.respond frame).status = .failed error := by
  obtain ⟨password, request⟩ := request_of_login kind
  have hopen : ¬ command.isTerminal := by simp [Command.isTerminal_iff, pending]
  have hexpects := (expects_login kind _).mpr (.inl rfl)
  have hanswered : command.answered .passwordEnterCfm frame.payload
      = Id.run (command.findings.requiring .passwordEnterCfm frame.payload 1 do
          let status ← byteAt frame.payload 0
          return (command.findings,
            if status = 0 then .done else .failed (.rejected .wrongPassword))) :=
    Command.answered_of_request request ..
  rw [Findings.run_requiring] at hanswered
  rw [Command.respond_eq, if_neg hopen, opcode, Option.filter_some, if_pos hexpects]
  simp only [hanswered]
  cases frame.payload with
  | nil => exact ⟨_, rfl⟩
  | cons status rest =>
    by_cases hstatus : status = 0
    · subst hstatus
      rfl
    · have hhead : ¬ (status :: rest).head? = some 0 := by simpa using hstatus
      rw [if_neg hhead]
      refine ⟨.rejected .wrongPassword, ?_⟩
      show (command.conclude command.findings (if status = 0 then _ else _)).status = _
      rw [if_neg hstatus]
      rfl

theorem status_notified (kind : command.kind = .login) (pending : command.status = .pending)
    (opcode : frame.opcode? = some .errorNtf) :
    ∃ error, (command.respond frame).status = .failed error := by
  have hopen : ¬ command.isTerminal := by simp [Command.isTerminal_iff, pending]
  have hexpects := (expects_login kind _).mpr (.inr rfl)
  rw [Command.respond_eq, if_neg hopen, opcode, Option.filter_some, if_pos hexpects]
  exact ⟨_, (Command.status_fail command (.rejected _)).trans (if_neg hopen)⟩

/-- A frame decides the login if it answers the password or notifies of an error, and otherwise
leaves it as it is. -/
theorem receive_cases (kind : command.kind = .login) (pending : command.status = .pending)
    (frame : Frame) :
    (frame.Grants ∧ receive command frame = accepted)
      ∨ (frame.Refuses ∧ ∃ error, receive command frame = failed (.authRejected error))
      ∨ ((¬ frame.Grants ∧ ¬ frame.Refuses) ∧ receive command frame = Login.pending command) := by
  have hconfirm : frame.opcode? = some .passwordEnterCfm ↔ frame.code = 0x3001 :=
    Frame.opcode?_eq_some_iff
  have hnotify : frame.opcode? = some .errorNtf ↔ frame.code = 0x0000 :=
    Frame.opcode?_eq_some_iff
  unfold receive
  by_cases hconfirmed : frame.opcode? = some .passwordEnterCfm
  · have hstatus := status_confirmed kind pending hconfirmed
    rw [if_pos ((accepts_iff kind).mpr (.inl hconfirmed)), ofCommand]
    split at hstatus
    · rename_i hhead
      rw [hstatus]
      exact .inl ⟨⟨hconfirm.mp hconfirmed, hhead⟩, rfl⟩
    · rename_i hhead
      obtain ⟨error, hfailed⟩ := hstatus
      rw [hfailed]
      exact .inr (.inl ⟨.inl ⟨hconfirm.mp hconfirmed, hhead⟩, error, rfl⟩)
  by_cases hnotified : frame.opcode? = some .errorNtf
  · obtain ⟨error, hfailed⟩ := status_notified kind pending hnotified
    rw [if_pos ((accepts_iff kind).mpr (.inr hnotified)), ofCommand, hfailed]
    exact .inr (.inl ⟨.inr (hnotify.mp hnotified), error, rfl⟩)
  · have hother : ¬ command.accepts frame := by
      rw [accepts_iff kind]
      exact fun h => h.elim hconfirmed hnotified
    rw [if_neg hother]
    rw [hconfirm] at hconfirmed
    rw [hnotify] at hnotified
    refine .inr (.inr ⟨⟨fun h => hconfirmed h.1, ?_⟩, rfl⟩)
    rintro (h | h)
    · exact hconfirmed h.1
    · exact hnotified h

/-- The frame that goes out first is that of the login. -/
theorem frame?_of_start {password : String} (h : start password = .ok (command, frame)) :
    command.frame? = .ok frame := by
  unfold start at h
  split at h
  · cases h
  · split at h
    · cases h
    · cases h
      assumption

/-- The login begins open. -/
theorem command_of_start {password : String} (h : start password = .ok (command, frame)) :
    command.kind = .login ∧ command.status = .pending := by
  unfold start Command.login? at h
  cases hpassword : Password.ofText? password with
  | error fault =>
    rw [hpassword] at h
    cases h
  | ok password =>
    rw [hpassword] at h
    simp only at h
    split at h
    · cases h
    · cases h
      exact ⟨rfl, rfl⟩

end Login

end ShutterGateway
