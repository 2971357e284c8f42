import Mathlib.Data.List.Forall2
import ShutterGateway.Command.Text
import ShutterGateway.Link.Login
import ShutterGateway.Proofs.Command.Operations

/-!
Where the password of a login shows. To redact a command is to put the empty password in the place
of its password. Every operation on commands goes on in the same way on the redacted command, and
all that can be seen of a command can be seen of the redacted one, apart from the payload of its
request. So two logins that are the same when redacted stay so, and nobody can tell them apart.
-/

namespace ShutterGateway

/-! ## Redaction -/

/-- The empty password, which stands for any. -/
def Password.blank : Password := ⟨"", by decide⟩

/-- A request without its password. -/
def Request.redact : Request → Request
  | .login _ => .login .blank
  | request => request

/-- A command without its password. -/
def Command.redact (command : Command) : Command :=
  { command with request := command.request.redact }

/-- A login that is still open, without its password. -/
def Login.redact : Login → Login
  | .pending command => .pending command.redact
  | login => login

/-- A frame of which nobody can read the password: the payload of a login is blotted out. -/
def Frame.redact (frame : Frame) : Frame :=
  if frame.opcode? = some .passwordEnterReq then
    { frame with payload := List.replicate frame.payload.length 0 }
  else frame

namespace Request

variable (request : Request)

@[simp] theorem kind_redact : request.redact.kind = request.kind := by
  cases request <;> rfl

@[simp] theorem target?_redact : request.redact.target? = request.target? := by
  cases request <;> rfl

@[simp] theorem inspect_redact (found : Findings) :
    request.redact.inspect found = request.inspect found := by
  cases request <;> rfl

/-- No answer is read with the help of the password. -/
theorem readAnswer_redact (opcode : Opcode) (payload : Bytes) (found : Findings) :
    request.redact.readAnswer (m := Id) opcode payload found
      = request.readAnswer (m := Id) opcode payload found := by
  cases request with
  | login password => cases opcode <;> rfl
  | _ => rfl

end Request

namespace Command

variable (command : Command)

@[simp] theorem redact_redact : command.redact.redact = command.redact := by
  have hrequest : command.request.redact.redact = command.request.redact := by
    cases command.request <;> rfl
  exact congrArg (fun request => { command with request := request }) hrequest

/-! ## Operations on redacted commands -/

@[simp] theorem descriptor_redact : command.redact.descriptor = command.descriptor := by
  rw [descriptor, kind, redact, Request.kind_redact, descriptor, kind]

@[simp] theorem answered_redact (opcode : Opcode) (payload : Bytes) :
    command.redact.answered opcode payload = command.answered opcode payload :=
  command.request.readAnswer_redact opcode payload command.findings

theorem fail_redact (error : CommandError) :
    command.redact.fail error = (command.fail error).redact := by
  show (if command.isTerminal then _ else _) = redact (if command.isTerminal then _ else _)
  split <;> rfl

theorem conclude_redact (findings : Findings) (verdict : Verdict) :
    command.redact.conclude findings verdict = (command.conclude findings verdict).redact := by
  cases verdict <;> rfl

theorem assignSession_redact (session : UInt16) :
    command.redact.assignSession session = (command.assignSession session).redact := by
  unfold assignSession
  rw [descriptor_redact]
  split <;> rfl

theorem respond_redact (frame : Frame) :
    command.redact.respond frame = (command.respond frame).redact := by
  rw [respond_eq, respond_eq, descriptor_redact]
  show (if command.isTerminal then _ else _) = redact (if command.isTerminal then _ else _)
  split
  · rfl
  · split
    · exact command.fail_redact _
    · exact command.fail_redact _
    · rw [answered_redact]
      exact command.conclude_redact _ _

theorem perform_redact (operation : Operation) :
    command.redact.perform operation = (command.perform operation).redact := by
  cases operation with
  | assignSession session => exact command.assignSession_redact session
  | respond frame => exact command.respond_redact frame
  | fail error => exact command.fail_redact error

/-! ## What can be seen of a command -/

@[simp] theorem accepts_redact (frame : Frame) :
    command.redact.accepts frame = command.accepts frame := by
  rw [accepts_eq, accepts_eq, descriptor_redact]
  have htarget : command.redact.request.target? = command.request.target? :=
    command.request.target?_redact
  rw [htarget]
  rfl

@[simp] theorem diagnostic_redact : command.redact.diagnostic = command.diagnostic := by
  have hinspect : command.redact.request.inspect command.redact.findings
      = command.request.inspect command.findings := command.request.inspect_redact command.findings
  rw [diagnostic, hinspect]
  rfl

/-- The frame of a login. -/
theorem frame?_of_login {command : Command} {password : Password}
    (h : command.request = .login password) :
    command.frame? = .ok ⟨0x3000, padded passwordSize (utf8 password.text)⟩ := by
  have hkind : command.kind = .login := by rw [kind, h]; rfl
  have hsent : command.kind ≠ .terminate := by simp [hkind]
  obtain ⟨opcode, hopcode, hframe⟩ := frame?_eq_ok hsent
  rw [descriptor, hkind] at hopcode
  cases hopcode
  rw [hframe, payload, h]
  rfl

/-- Two commands that nothing tells apart but the payload of their request. -/
structure Indistinguishable (a b : Command) : Prop where
  diagnostic : a.diagnostic = b.diagnostic
  status : a.status = b.status
  error : a.error? = b.error?
  detail : a.error?.map CommandError.message = b.error?.map CommandError.message
  findings : a.findings = b.findings
  session : a.session? = b.session?
  accepts : ∀ frame, a.accepts frame = b.accepts frame
  frame : ∃ code payload payload', a.frame? = .ok ⟨code, payload⟩ ∧ b.frame? = .ok ⟨code, payload'⟩
    ∧ payload.length = payload'.length

/-- Two commands that log in with one password and with another, and are the same otherwise. -/
structure Twins (first second : Password) (a b : Command) : Prop where
  first : a.request = .login first
  second : b.request = .login second
  same : a.redact = b.redact

namespace Twins

variable {first second : Password} {a b : Command}

theorem perform (twins : Twins first second a b) (operation : Operation) :
    Twins first second (a.perform operation) (b.perform operation) := by
  refine ⟨?_, ?_, ?_⟩
  · rw [request_perform, twins.first]
  · rw [request_perform, twins.second]
  · rw [← perform_redact, ← perform_redact, twins.same]

theorem indistinguishable (twins : Twins first second a b) : Indistinguishable a b := by
  obtain ⟨-, hfindings, hstatus, hsession⟩ := Command.mk.inj twins.same
  have herror : a.error? = b.error? := congrArg Status.error? hstatus
  refine ⟨?_, hstatus, herror, congrArg _ herror, hfindings, hsession, ?_, ?_⟩
  · rw [← a.diagnostic_redact, twins.same, b.diagnostic_redact]
  · intro frame
    rw [← a.accepts_redact, twins.same, b.accepts_redact]
  · refine ⟨_, _, _, frame?_of_login twins.first, frame?_of_login twins.second, ?_⟩
    rw [length_padded, length_padded]

/-- Whatever is done to both of them, nothing tells them apart at any stage. -/
theorem stages (twins : Twins first second a b) (operations : List Operation) :
    List.Forall₂ Indistinguishable (a.stages operations) (b.stages operations) := by
  induction operations generalizing a b with
  | nil => exact .cons twins.indistinguishable .nil
  | cons operation rest ih => exact .cons twins.indistinguishable (ih (twins.perform operation))

end Twins

theorem login?_text (password : Password) :
    login? password.text = .ok { request := .login password } := by
  rw [login?, Password.ofText?, dif_pos password.fits]

theorem twins_login (first second : Password) :
    Twins first second { request := .login first } { request := .login second } :=
  ⟨rfl, rfl, rfl⟩

end Command

/-! ## The login -/

namespace Login

theorem ofCommand_redact (command : Command) :
    ofCommand command.redact = (ofCommand command).redact := by
  have hstatus : command.redact.status = command.status := rfl
  unfold ofCommand
  rw [hstatus]
  cases command.status <;> rfl

theorem receive_redact (command : Command) (frame : Frame) :
    receive command.redact frame = (receive command frame).redact := by
  unfold receive
  rw [Command.accepts_redact, Command.respond_redact]
  split
  · exact ofCommand_redact _
  · rfl

theorem receiveAll_redact (command : Command) (frames : List Frame) :
    receiveAll command.redact frames = (receiveAll command frames).redact := by
  induction frames generalizing command with
  | nil => rfl
  | cons frame rest ih =>
    rw [receiveAll, receiveAll, receive_redact]
    cases hlogin : receive command frame with
    | pending command => exact ih command
    | accepted => rfl
    | failed error => rfl

theorem redact_eq_failed_iff {login : Login} {error : LinkError} :
    login.redact = .failed error ↔ login = .failed error := by
  cases login <;> simp [redact]

theorem redact_eq_accepted_iff {login : Login} : login.redact = .accepted ↔ login = .accepted := by
  cases login <;> simp [redact]

/-- The frame of a login goes out whatever the password is. -/
theorem start_text (password : Password) :
    start password.text = .ok ({ request := .login password },
      ⟨0x3000, padded passwordSize (utf8 password.text)⟩) := by
  have hframe : ({ request := .login password } : Command).frame? = _ :=
    Command.frame?_of_login rfl
  simp only [start, Command.login?_text, hframe]

end Login

end ShutterGateway
