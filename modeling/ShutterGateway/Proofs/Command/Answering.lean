import ShutterGateway.Proofs.Command.Verdict

/-!
Answers in a row. An account of the answers to a request says of each answer by itself what it adds
to what has been found, and whether it decides the command. If an account holds of every answer
that the table of exchanges has for the request, it holds of any number of them in any order: they
add up until one decides the command, and those behind it change nothing.
-/

namespace ShutterGateway

/-- The status that an answer gives a pending command. -/
def Verdict.status : Verdict → Status
  | more => .pending
  | done => .complete
  | failed error => .failed error

/-- The status of a command that the gateway refuses. -/
def Rejection.status (rejection : Rejection) : Status :=
  .failed (.rejected rejection)

/-- The status of a command that is answered by fewer bytes than the layout has. -/
def Opcode.cutStatus (opcode : Opcode) (payload : Bytes) (size : Nat) : Status :=
  .failed (.protocol (.shortPayload opcode payload.length size))

namespace Command

/-- The command after some answers, one after another. -/
def respondAll (command : Command) (frames : List Frame) : Command :=
  frames.foldl respond command

/-- The table of exchanges has the opcode of a frame for the command. -/
def Expects (command : Command) (frame : Frame) : Prop :=
  ∃ opcode, frame.opcode? = some opcode ∧ command.descriptor.expects opcode

@[simp] theorem respondAll_nil (command : Command) : command.respondAll [] = command := rfl

@[simp] theorem respondAll_cons (command : Command) (frame : Frame) (rest : List Frame) :
    command.respondAll (frame :: rest) = (command.respond frame).respondAll rest := rfl

theorem respondAll_append (command : Command) (before after : List Frame) :
    command.respondAll (before ++ after) = (command.respondAll before).respondAll after :=
  List.foldl_append

theorem respondAll_of_isTerminal {command : Command} (h : command.isTerminal)
    (frames : List Frame) : command.respondAll frames = command := by
  induction frames with
  | nil => rfl
  | cons frame rest ih => rw [respondAll_cons, respond_of_isTerminal h, ih]

theorem Expects.congr {a b : Command} {frame : Frame} (request : a.request = b.request)
    (h : a.Expects frame) : b.Expects frame := by
  simpa only [Expects, descriptor, kind, request] using h

variable {command : Command} {frame : Frame}

/-- A notification of an error refuses the command, whatever it is, and the fault is the one with
the number zero if none is given. -/
theorem respond_of_errorNtf (pending : command.status = .pending)
    (expects : command.Expects frame) (opcode : frame.opcode? = some .errorNtf) :
    command.respond frame = { command with
      status := .failed (.rejected (.gateway (.ofCode (frame.payload.head?.getD 0)))) } := by
  have hopen : ¬ command.isTerminal := by simp [isTerminal_iff, pending]
  obtain ⟨_, hopcode, hexpects⟩ := expects
  obtain rfl := Option.some.inj (opcode.symm.trans hopcode)
  rw [respond_eq, if_neg hopen, opcode, Option.filter_some, if_pos hexpects]
  show command.fail _ = _
  rw [fail, if_neg hopen]

/-- Any other answer that the table of exchanges has is read as an answer to the request. -/
theorem respond_of_expected (pending : command.status = .pending)
    (expects : command.Expects frame) {opcode : Opcode} (hopcode : frame.opcode? = some opcode)
    (other : opcode ≠ .errorNtf) :
    command.respond frame = command.conclude (command.answered opcode frame.payload).1
      (command.answered opcode frame.payload).2 := by
  have hopen : ¬ command.isTerminal := by simp [isTerminal_iff, pending]
  obtain ⟨_, hopcode', hexpects⟩ := expects
  obtain rfl := Option.some.inj (hopcode.symm.trans hopcode')
  rw [respond_eq, if_neg hopen, hopcode, Option.filter_some, if_pos hexpects]
  cases opcode <;> first | exact absurd rfl other | rfl

theorem conclude_of_pending (pending : command.status = .pending) (findings : Findings)
    (verdict : Verdict) : command.conclude findings verdict
      = { command with findings := findings, status := verdict.status } := by
  cases verdict with
  | more =>
    simp only [conclude, Verdict.status, ← pending]
  | _ => rfl

end Command

/-- An account of the answers to a request, each by itself. -/
structure Account where
  /-- What has been found after an answer. -/
  add : Frame → Findings → Findings
  /-- The status that an answer gives a command, unless it leaves it pending. -/
  decision? : Frame → Option Status
  decision_ne_pending : ∀ {frame status}, decision? frame = some status → status ≠ .pending

namespace Account

/-- What has been found after some answers. -/
def addAll (account : Account) (frames : List Frame) (findings : Findings) : Findings :=
  frames.foldl (fun found frame => account.add frame found) findings

/-- The account is right about every answer that the table of exchanges has for a request. -/
def Describes (account : Account) (request : Request) : Prop :=
  ∀ ⦃command : Command⦄ ⦃frame : Frame⦄, command.request = request → command.status = .pending →
    command.Expects frame →
    command.respond frame = { command with
      findings := account.add frame command.findings
      status := (account.decision? frame).getD .pending }

/-- The account is right about what is read in an answer. -/
structure Reads (account : Account) (frame : Frame) (findings : Findings)
    (read : Findings × Verdict) : Prop where
  found : read.1 = account.add frame findings
  status : read.2.status = (account.decision? frame).getD .pending

/-- An account describes a request if it is right about notifications of errors, and about what is
read in every other answer. -/
theorem Describes.of_readAnswer {account : Account} {request : Request}
    (notified : ∀ ⦃frame : Frame⦄, frame.opcode? = some .errorNtf →
      (∀ findings, account.add frame findings = findings)
        ∧ account.decision? frame
          = some (.failed (.rejected (.gateway (.ofCode (frame.payload.head?.getD 0))))))
    (read : ∀ ⦃frame : Frame⦄ ⦃opcode : Opcode⦄, frame.opcode? = some opcode →
      opcode ∈ request.kind.descriptor.confirmations
        ∨ opcode ∈ request.kind.descriptor.notifications →
      ∀ findings, account.Reads frame findings
        (Id.run (request.readAnswer opcode frame.payload findings))) :
    account.Describes request := by
  intro command frame asks pending expects
  obtain ⟨opcode, hopcode, hexpects⟩ := expects
  by_cases hnotified : opcode = .errorNtf
  · subst hnotified
    obtain ⟨hadd, hdecision⟩ := notified hopcode
    rw [Command.respond_of_errorNtf pending ⟨_, hopcode, hexpects⟩ hopcode, hadd, hdecision]
    rfl
  · have hmem : opcode ∈ request.kind.descriptor.confirmations
        ∨ opcode ∈ request.kind.descriptor.notifications := by
      simp only [Command.descriptor, Command.kind, asks, Descriptor.expects, Bool.and_eq_true,
        Bool.or_eq_true, decide_eq_true_eq, hnotified, false_or] at hexpects
      exact hexpects.2
    obtain ⟨hfound, hstatus⟩ := read hopcode hmem command.findings
    rw [Command.respond_of_expected pending ⟨_, hopcode, hexpects⟩ hopcode hnotified,
      Command.answered_of_request asks, Command.conclude_of_pending pending, hfound, hstatus]

/-- How a command goes by an account: either all answers leave it pending, or one of them is the
first that decides it. -/
inductive Follows (account : Account) (command : Command) (frames : List Frame) : Prop where
  | pending (passed : ∀ frame ∈ frames, account.decision? frame = none)
      (after : command.respondAll frames
        = { command with findings := account.addAll frames command.findings })
  | decided {before : List Frame} {deciding : Frame} {later : List Frame} {status : Status}
      (split : frames = before ++ deciding :: later)
      (passed : ∀ frame ∈ before, account.decision? frame = none)
      (decision : account.decision? deciding = some status)
      (after : command.respondAll frames = { command with
        findings := account.add deciding (account.addAll before command.findings)
        status := status })

variable {account : Account} {request : Request} {command : Command} {frames : List Frame}

/-- Answers that decide nothing add up. -/
theorem Describes.respondAll_of_none (describes : account.Describes request)
    (asks : command.request = request) (pending : command.status = .pending)
    (expected : ∀ frame ∈ frames, command.Expects frame)
    (passed : ∀ frame ∈ frames, account.decision? frame = none) :
    command.respondAll frames
      = { command with findings := account.addAll frames command.findings } := by
  induction frames generalizing command with
  | nil => rfl
  | cons frame rest ih =>
    simp only [List.forall_mem_cons] at expected passed
    have hrespond := describes asks pending expected.1
    rw [passed.1, Option.getD_none, ← pending] at hrespond
    rw [Command.respondAll_cons, hrespond]
    exact ih asks pending (fun later hlater => (expected.2 later hlater).congr rfl) passed.2

/-- The first answer that decides the command ends the exchange: those behind it find the command
over. -/
theorem Describes.respondAll_of_some (describes : account.Describes request)
    (asks : command.request = request) (pending : command.status = .pending)
    {before later : List Frame} {deciding : Frame} {status : Status}
    (expected : ∀ frame ∈ before ++ [deciding], command.Expects frame)
    (passed : ∀ frame ∈ before, account.decision? frame = none)
    (decision : account.decision? deciding = some status) :
    command.respondAll (before ++ deciding :: later) = { command with
      findings := account.add deciding (account.addAll before command.findings)
      status := status } := by
  simp only [List.forall_mem_append, List.forall_mem_singleton] at expected
  have hbefore := describes.respondAll_of_none asks pending expected.1 passed
  have hexpects : (command.respondAll before).Expects deciding :=
    expected.2.congr (by rw [hbefore])
  have hrespond := describes (by rw [hbefore, asks]) (by rw [hbefore, pending]) hexpects
  rw [decision, Option.getD_some] at hrespond
  have hover : ((command.respondAll before).respond deciding).isTerminal := by
    rw [Command.isTerminal_iff, hrespond]
    exact account.decision_ne_pending decision
  rw [Command.respondAll_append, Command.respondAll_cons, Command.respondAll_of_isTerminal hover,
    hrespond, hbefore]

/-- Every row of answers has a first one that decides the command, or none. -/
theorem Describes.follows (describes : account.Describes request)
    (asks : command.request = request) (pending : command.status = .pending)
    (expected : ∀ frame ∈ frames, command.Expects frame) : account.Follows command frames := by
  cases hfirst : frames.findSome? account.decision? with
  | none =>
    have hpassed := List.findSome?_eq_none_iff.mp hfirst
    exact .pending hpassed (describes.respondAll_of_none asks pending expected hpassed)
  | some status =>
    obtain ⟨before, deciding, later, rfl, hdecision, hpassed⟩ :=
      List.findSome?_eq_some_iff.mp hfirst
    refine .decided rfl hpassed hdecision ?_
    refine describes.respondAll_of_some asks pending (fun frame hframe => ?_) hpassed hdecision
    refine expected frame ?_
    simp only [List.mem_append, List.mem_singleton] at hframe
    rcases hframe with h | rfl
    · exact List.mem_append_left _ h
    · exact List.mem_append_right _ List.mem_cons_self

end Account

end ShutterGateway
