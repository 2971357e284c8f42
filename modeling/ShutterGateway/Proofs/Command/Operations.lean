import ShutterGateway.Proofs.Command.Lifecycle

/-!
What a command goes through, from its constructor through any operations in any order: session
numbers assigned to it, answers of any opcode with any payload, and errors that end it. A step
lemma says what one operation keeps, and an induction over the operations carries it to the whole
run. The command is decided at most once, and its outcome stands from then on.
-/

namespace ShutterGateway

namespace Command

/-- The commands that the constructors build. Four kinds of requests have inputs that are checked;
the constructor of any other takes them as they are. -/
inductive Built : Command → Prop where
  | unchecked {request : Request}
      (h : request.kind ∉ [.sendPosition, .sendMode, .setNodeName, .login]) :
      Built { request := request }
  | sendPosition {instructions : List PositionInstruction} {command : Command}
      (h : sendPosition? instructions = .ok command) : Built command
  | sendMode {instructions : List ModeInstruction} {command : Command}
      (h : sendMode? instructions = .ok command) : Built command
  | setNodeName {node : UInt8} {text : String} {command : Command}
      (h : setNodeName? node text = .ok command) : Built command
  | login {text : String} {command : Command} (h : login? text = .ok command) : Built command

theorem Built.eq_pristine {command : Command} (built : command.Built) :
    command = command.pristine := by
  cases built with
  | unchecked _ => rfl
  | sendPosition h =>
    unfold sendPosition? at h
    split at h <;> cases h
    rfl
  | sendMode h =>
    unfold sendMode? at h
    split at h <;> cases h
    rfl
  | setNodeName h =>
    unfold setNodeName? at h
    split at h <;> cases h
    rfl
  | login h =>
    unfold login? at h
    split at h <;> cases h
    rfl

/-- What can be done to a command. -/
inductive Operation where
  | assignSession (session : UInt16)
  | respond (frame : Frame)
  | fail (error : CommandError)
  deriving DecidableEq

/-- The command after an operation. -/
def perform (command : Command) : Operation → Command
  | .assignSession session => command.assignSession session
  | .respond frame => command.respond frame
  | .fail error => command.fail error

/-- The command before the first of some operations and after each of them. -/
def stages (command : Command) : List Operation → List Command
  | [] => [command]
  | operation :: rest => command :: (command.perform operation).stages rest

/-! ## One operation -/

/-- A status is that of a failure with an error exactly if that error is recorded. -/
theorem status_eq_failed_iff {command : Command} {error : CommandError} :
    command.status = .failed error ↔ command.error? = some error := by
  unfold error?
  cases command.status <;> simp [Status.error?]

@[simp] theorem status_assignSession (session : UInt16) (command : Command) :
    (command.assignSession session).status = command.status := by
  unfold assignSession
  split <;> rfl

@[simp] theorem findings_assignSession (session : UInt16) (command : Command) :
    (command.assignSession session).findings = command.findings := by
  unfold assignSession
  split <;> rfl

@[simp] theorem request_perform (command : Command) (operation : Operation) :
    (command.perform operation).request = command.request := by
  cases operation <;> simp [perform]

/-- Only a command that is carried out under a session has a session number. -/
def SessionUsed (command : Command) : Prop :=
  command.session?.isSome → command.descriptor.usesSession

theorem SessionUsed.perform {command : Command} (h : command.SessionUsed)
    (operation : Operation) : (command.perform operation).SessionUsed := by
  have hdescriptor : (command.perform operation).descriptor = command.descriptor := by
    simp [descriptor, kind]
  intro hsome
  rw [hdescriptor]
  cases operation with
  | assignSession session =>
    -- The number is bound only where the table of exchanges has one.
    by_cases huses : command.descriptor.usesSession
    · exact huses
    · simp only [Command.perform, assignSession, if_neg huses] at hsome
      exact h hsome
  | respond frame => exact h (by simpa [Command.perform] using hsome)
  | fail error => exact h (by simpa [Command.perform] using hsome)

/-- What has come of a command once it is over stays, whatever is done to it. -/
theorem outcome_perform {command : Command} (h : command.isTerminal) (operation : Operation) :
    (command.perform operation).status = command.status
      ∧ (command.perform operation).findings = command.findings := by
  cases operation with
  | assignSession session => simp [perform]
  | respond frame => simp [perform, respond_of_isTerminal h]
  | fail error => simp [perform, fail_of_isTerminal h]

/-! ## Any operations -/

variable {command : Command}

/-- What every operation keeps holds at each stage if it holds of the command. -/
theorem forall_stages {P : Command → Prop}
    (step : ∀ command operation, P command → P (command.perform operation)) (h : P command)
    (operations : List Operation) : ∀ stage ∈ command.stages operations, P stage := by
  induction operations generalizing command with
  | nil => simpa [stages] using h
  | cons operation rest ih =>
    simp only [stages, List.forall_mem_cons]
    exact ⟨h, ih (step command operation h)⟩

theorem stages_of_isTerminal (h : command.isTerminal) (operations : List Operation) :
    ∀ stage ∈ command.stages operations,
      stage.status = command.status ∧ stage.findings = command.findings := by
  apply forall_stages (P := fun stage =>
    stage.status = command.status ∧ stage.findings = command.findings) _ ⟨rfl, rfl⟩
  intro stage operation ⟨hstatus, hfindings⟩
  have hover : stage.isTerminal := by simpa [isTerminal, hstatus] using h
  have hkept := outcome_perform hover operation
  exact ⟨hkept.1.trans hstatus, hkept.2.trans hfindings⟩

/-- The stages of a pending command are pending ones, and after them ones with a single outcome. -/
theorem stages_of_pending (h : command.status = .pending) (operations : List Operation) :
    ∃ waiting decided, command.stages operations = waiting ++ decided ∧ waiting ≠ []
      ∧ (∀ stage ∈ waiting, stage.status = .pending)
      ∧ ∀ stage ∈ decided, stage.status ≠ .pending
        ∧ ∀ later ∈ decided, later.status = stage.status ∧ later.findings = stage.findings := by
  induction operations generalizing command with
  | nil => exact ⟨[command], [], by simp [stages], by simp, by simpa using h, by simp⟩
  | cons operation rest ih =>
    by_cases hnext : (command.perform operation).status = .pending
    · obtain ⟨waiting, decided, hstages, -, hwaiting, hover⟩ := ih hnext
      refine ⟨command :: waiting, decided, by simp [stages, hstages], by simp, ?_, hover⟩
      simpa only [List.forall_mem_cons] using ⟨h, hwaiting⟩
    · -- This operation decides the command; the rest of the stages have its outcome.
      have hsame := stages_of_isTerminal (isTerminal_iff.mpr hnext) rest
      refine ⟨[command], _, rfl, by simp, by simpa using h, ?_⟩
      intro stage hstage
      obtain ⟨hstatus, hfindings⟩ := hsame stage hstage
      refine ⟨hstatus ▸ hnext, ?_⟩
      intro later hlater
      obtain ⟨hstatus', hfindings'⟩ := hsame later hlater
      exact ⟨hstatus'.trans hstatus.symm, hfindings'.trans hfindings.symm⟩

/-- A command that was built and then had any operations done to it was pending for a while and,
if it was decided, was decided once: its status, its error and all that it found are the same ever
after. At every stage it is failed exactly if an error is recorded, asks for what it was built to
ask for, and has a session number only if it is carried out under a session. -/
theorem decided_at_most_once (built : command.Built) (operations : List Operation) :
    ∃ waiting decided, command.stages operations = waiting ++ decided ∧ waiting ≠ []
      ∧ (∀ stage ∈ waiting, stage.status = .pending)
      ∧ (∀ stage ∈ decided, stage.status ≠ .pending
        ∧ ∀ later ∈ decided, later.status = stage.status ∧ later.error? = stage.error?
          ∧ later.findings = stage.findings)
      ∧ ∀ stage ∈ command.stages operations,
        (∀ error, stage.status = .failed error ↔ stage.error? = some error)
          ∧ stage.request = command.request
          ∧ (stage.session?.isSome → stage.descriptor.usesSession) := by
  have hpristine := built.eq_pristine
  have hpending : command.status = .pending := by rw [hpristine]; rfl
  have hsession : command.SessionUsed := by
    intro hsome
    rw [hpristine] at hsome
    simp [pristine] at hsome
  obtain ⟨waiting, decided, hstages, hne, hwaiting, hover⟩ := stages_of_pending hpending operations
  refine ⟨waiting, decided, hstages, hne, hwaiting, ?_, ?_⟩
  · intro stage hstage
    obtain ⟨hdecided, hsame⟩ := hover stage hstage
    refine ⟨hdecided, ?_⟩
    intro later hlater
    obtain ⟨hstatus, hfindings⟩ := hsame later hlater
    exact ⟨hstatus, by simp [error?, hstatus], hfindings⟩
  · intro stage hstage
    refine ⟨fun error => status_eq_failed_iff, ?_, ?_⟩
    · exact forall_stages (P := fun stage => stage.request = command.request)
        (fun _ operation h => (request_perform _ operation).trans h) rfl operations stage hstage
    · exact forall_stages (fun _ operation h => h.perform operation) hsession operations stage
        hstage

/-- A scene completes with the end of its session, and neither an error nor another session number
changes that. -/
theorem decided_at_most_once_of_scene :
    let scene : Command := { request := .executeScene 1 .silent }
    let operations : List Operation :=
      [.assignSession 7, .respond ⟨0x0413, [0, 0, 7]⟩, .respond ⟨0x0304, [0, 7]⟩,
        .fail .shutdown, .assignSession 8]
    scene.Built
      ∧ (scene.stages operations).map (·.status) =
        [.pending, .pending, .pending, .complete, .complete, .complete]
      ∧ ∃ waiting decided, scene.stages operations = waiting ++ decided ∧ waiting ≠ []
        ∧ (∀ stage ∈ waiting, stage.status = .pending)
        ∧ (∀ stage ∈ decided, stage.status ≠ .pending
          ∧ ∀ later ∈ decided, later.status = stage.status ∧ later.error? = stage.error?
            ∧ later.findings = stage.findings)
        ∧ ∀ stage ∈ scene.stages operations,
          (∀ error, stage.status = .failed error ↔ stage.error? = some error)
            ∧ stage.request = scene.request
            ∧ (stage.session?.isSome → stage.descriptor.usesSession) :=
  have built : Built { request := .executeScene 1 .silent } := .unchecked (by decide)
  ⟨built, by decide, decided_at_most_once built _⟩

end Command

end ShutterGateway
