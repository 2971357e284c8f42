import ShutterGateway.CommandLine.Subcommand
import ShutterGateway.Proofs.Command.Results
import ShutterGateway.Proofs.Processor.Lineage

/-!
What the program writes about a node and about the versions. However commands are carried out, as
long as they come back from a processor: the program writes the description of the very node that
was asked for, and all lines about the versions, or it ends because a command has failed. It never
ends because there is no description, and never writes less.
-/

namespace ShutterGateway

namespace Processor

/-! ## Commands that come back from a processor -/

theorem Develops.request_eq {command later : Command} (h : Develops command later) :
    later.request = command.request := by
  induction h with
  | same => rfl
  | assigned h session ih => exact (Command.request_assignSession ..).trans ih
  | answered h accepts ih => exact (Command.request_respond ..).trans ih
  | failed h own ih => exact (Command.request_fail ..).trans ih

/-- A command that a processor completes is completed by an answer that belongs to it, and has from
this answer what it asked for. -/
theorem Develops.hasResult {command later : Command} (h : Develops command later)
    (pending : command.status = .pending) (complete : later.status = .complete) :
    ∃ before frame, Develops command before ∧ before.status = .pending ∧ before.accepts frame
      ∧ (before.respond frame).status = .complete ∧ later.HasResult frame := by
  induction h with
  | same => cases pending.symm.trans complete
  | assigned h session ih =>
    rw [Command.status_assignSession] at complete
    obtain ⟨before, frame, develops, hpending, accepts, completes, result⟩ := ih complete
    refine ⟨before, frame, develops, hpending, accepts, completes, ?_⟩
    unfold Command.HasResult
    rwa [Command.request_assignSession, Command.findings_assignSession]
  | @answered earlier frame h accepts ih =>
    by_cases hover : earlier.isTerminal
    · rw [Command.respond_of_isTerminal hover] at complete ⊢
      exact ih complete
    · have hpending : earlier.status = .pending :=
        Decidable.not_not.mp (mt Command.isTerminal_iff.mpr hover)
      exact ⟨earlier, frame, h, hpending, accepts, complete,
        Command.hasResult_of_complete hpending accepts complete⟩
  | @failed earlier error h own ih =>
    by_cases hover : earlier.isTerminal
    · rw [Command.fail_of_isTerminal hover] at complete ⊢
      exact ih complete
    · rw [Command.fail, if_neg hover] at complete
      cases complete

/-- What a caller gets who waits for a command: in some run of a processor, which may go away at its
end, it is the answer to a ticket under which the command and no other was submitted. -/
def ComesBackAs (command done : Command) : Prop :=
  ∃ (config : Config) (epoch : UnixTime) (steps : List Step),
    ∃ answer ∈ answers ((run config steps (State.start config epoch).1).2
        ++ (reached config epoch steps).abandonAll),
      (∀ submitted, .event (.submit answer.ticket submitted) ∈ steps → submitted = command)
        ∧ (answer.deliver { submitted := command }).wait = .returned done

/-- A command comes back as failed by the shutdown, or as a processor has answered it. -/
theorem ComesBackAs.abandoned_or_answered {command done : Command} (h : ComesBackAs command done) :
    done = command.fail .shutdown
      ∨ ∃ config epoch steps ticket,
        (⟨ticket, some done⟩ : Answer) ∈ answers (run config steps (State.start config epoch).1).2
          ∧ ∀ submitted, .event (.submit ticket submitted) ∈ steps → submitted = command := by
  obtain ⟨config, epoch, steps, ⟨ticket, command?⟩, member, alone, returned⟩ := h
  cases command? with
  | none => exact .inl (Awaited.returned.inj returned).symm
  | some answered =>
    obtain rfl := Awaited.returned.inj returned
    rw [answers_append, answers_abandonAll] at member
    rcases List.mem_append.mp member with member | member
    · exact .inr ⟨config, epoch, steps, ticket, member, alone⟩
    · -- A processor that goes away brings no command back.
      obtain ⟨call, -, hcall⟩ := List.mem_map.mp member
      cases hcall

/-- What comes back has become of the command. -/
theorem ComesBackAs.develops {command done : Command} (h : ComesBackAs command done) :
    Develops command done := by
  rcases h.abandoned_or_answered with rfl | ⟨config, epoch, steps, ticket, member, alone⟩
  · exact Develops.same.failed .shutdown
  · have hmember : ⟨ticket, some done⟩
        ∈ answers ((State.start config epoch).andThen (run config steps)).2 := by
      rw [Reaction.andThen, answers_append]
      exact List.mem_append_right _ member
    obtain ⟨submitted, hsubmitted, develops⟩ := traced_answers config epoch steps _ hmember
    obtain rfl := alone submitted hsubmitted
    exact develops done rfl

/-- A command comes back when it is over, unless it asks for the end. -/
theorem ComesBackAs.over {command done : Command} (h : ComesBackAs command done)
    (kind : command.kind ≠ .terminate) : done.status ≠ .pending := by
  have hkind : done.kind = command.kind := congrArg Request.kind h.develops.request_eq
  rcases h.abandoned_or_answered with rfl | ⟨config, epoch, steps, ticket, member, -⟩
  · exact Command.isTerminal_iff.mp (Command.isTerminal_fail ..)
  · obtain ⟨⟨settled, -, settles⟩, -⟩ := history_clears config epoch steps
    obtain ⟨call, -, -, same, hwait, -, -, hrequest, hover⟩ := exists_settled_of_mem settles member
    obtain rfl := Awaited.returned.inj hwait
    have hcall : call.command.kind ≠ .terminate := by
      rw [← hkind] at kind
      rwa [Command.kind, ← hrequest]
    rw [if_neg hcall] at hover
    rcases hover with complete | ⟨error, failed⟩
    · simp [complete]
    · simp [failed]

/-- A command that comes back and has not failed is complete. -/
theorem ComesBackAs.complete {command done : Command} (h : ComesBackAs command done)
    (kind : command.kind ≠ .terminate) (succeeded : done.error? = none) :
    done.status = .complete := by
  cases hstatus : done.status with
  | pending => exact absurd hstatus (h.over kind)
  | complete => rfl
  | failed error =>
    rw [Command.error?, hstatus] at succeeded
    cases succeeded

/-- A description that comes back as complete is of the node that was asked for, and is found. -/
theorem ComesBackAs.exists_node {id : UInt8} {done : Command}
    (h : ComesBackAs { request := .getNode id } done) (complete : done.status = .complete) :
    ∃ (frame : Frame) (node : Node), frame.opcode? = some .getNodeInformationNtf
      ∧ Node.parse? frame.payload = some node ∧ node.id = id
      ∧ done.findings.node? = some node := by
  obtain ⟨before, frame, -, -, -, -, result⟩ := h.develops.hasResult rfl complete
  unfold Command.HasResult at result
  rw [h.develops.request_eq] at result
  obtain ⟨⟨hopcode, node, hparse, hfound⟩, same⟩ := result
  exact ⟨frame, node, hopcode, hparse, same node hfound, hfound⟩

end Processor

namespace CommandLine

open Processor

/-! ## Actions -/

section

variable {m : Type → Type} [Monad m] {α β : Type}

/-- Whatever an action gives has a property. -/
def Yields (property : α → Prop) (action : m α) : Prop :=
  ∃ marked : m { value // property value }, Subtype.val <$> marked = action

variable [LawfulMonad m]

theorem Yields.pure {property : α → Prop} {value : α} (h : property value) :
    Yields property (Pure.pure value : m α) :=
  ⟨Pure.pure ⟨value, h⟩, map_pure ..⟩

theorem Yields.bind {property : α → Prop} {later : β → Prop} {action : m α} {next : α → m β}
    (first : Yields property action) (rest : ∀ value, property value → Yields later (next value)) :
    Yields later (action >>= next) := by
  obtain ⟨marked, rfl⟩ := first
  choose chosen hchosen using fun value : { value // property value } => rest value.1 value.2
  refine ⟨marked >>= chosen, ?_⟩
  simp only [map_bind, hchosen, bind_map_left]

/-- A command that comes back has failed, or goes on as complete. -/
theorem yields_carryOut {execute : Command → m Command} {command : Command}
    {property : Except Failure α → Prop} {next : Command → m (Except Failure α)}
    (kind : command.kind ≠ .terminate) (runs : Yields (ComesBackAs command) (execute command))
    (failed : ∀ error, property (.error (.failed command.kind error)))
    (goes : ∀ done, ComesBackAs command done → done.status = .complete →
      Yields property (next done)) :
    Yields property (carryOut execute (.ok command) next) := by
  apply Yields.bind runs
  intro done back
  cases herror : done.error? with
  | none => exact goes done back (back.complete kind herror)
  | some error =>
    have hkind : done.kind = command.kind := congrArg Request.kind back.develops.request_eq
    rw [hkind]
    exact .pure (failed error)

end

/-! ## Texts -/

/-- The program writes the description of the node that was asked for, as the gateway has given it,
or says that the command has failed. -/
def TellsNode (id : UInt8) : Except Failure String → Prop
  | .ok text => ∃ (frame : Frame) (node : Node), frame.opcode? = some .getNodeInformationNtf
      ∧ Node.parse? frame.payload = some node ∧ node.id = id ∧ text = lines [node.json.pretty]
  | .error failure => ∃ error, failure = .failed .getNode error

/-- The program writes all four lines about the versions that the gateway has given, or says which
of the two commands has failed. -/
def TellsVersions : Except Failure String → Prop
  | .ok text => ∃ (first second : Frame) (version : GatewayVersion) (protocol : ProtocolVersion),
      first.opcode? = some .getVersionCfm ∧ GatewayVersion.parse? first.payload = some version
      ∧ second.opcode? = some .getProtocolVersionCfm
      ∧ ProtocolVersion.parse? second.payload = some protocol
      ∧ text = lines [s!"software  {version.softwareText}", s!"hardware  {version.hardware.toNat}",
        s!"product   {version.productGroup.toNat}/{version.productType.toNat}",
        s!"protocol  {protocol.text}"]
  | .error failure => ∃ error, failure = .failed .getVersion error
      ∨ failure = .failed .getProtocol error

section

variable {m : Type → Type} [Monad m] [LawfulMonad m] {execute : Command → m Command}

theorem yields_node (id : UInt8)
    (runs : Yields (ComesBackAs { request := .getNode id }) (execute { request := .getNode id })) :
    Yields (TellsNode id) (perform execute (.node id)) := by
  apply yields_carryOut (by nofun) runs (fun error => ⟨error, rfl⟩)
  intro done back complete
  obtain ⟨frame, node, hopcode, hparse, same, hfound⟩ := back.exists_node complete
  rw [hfound]
  exact .pure ⟨frame, node, hopcode, hparse, same, rfl⟩

theorem yields_version
    (runs : Yields (ComesBackAs { request := .getVersion }) (execute { request := .getVersion }))
    (runsOther : Yields (ComesBackAs { request := .getProtocol })
      (execute { request := .getProtocol })) :
    Yields TellsVersions (perform execute .version) := by
  apply yields_carryOut (by nofun) runs (fun error => ⟨error, .inl rfl⟩)
  intro done back complete
  apply yields_carryOut (by nofun) runsOther (fun error => ⟨error, .inr rfl⟩)
  intro other otherBack otherComplete
  obtain ⟨-, first, -, -, -, -, result⟩ := back.develops.hasResult rfl complete
  obtain ⟨-, second, -, -, -, -, otherResult⟩ := otherBack.develops.hasResult rfl otherComplete
  unfold Command.HasResult at result otherResult
  rw [back.develops.request_eq] at result
  rw [otherBack.develops.request_eq] at otherResult
  obtain ⟨hopcode, version, hparse, hfound⟩ := result
  obtain ⟨hother, protocol, hotherParse, hotherFound⟩ := otherResult
  rw [hfound, hotherFound]
  exact .pure ⟨first, second, version, protocol, hopcode, hparse, hother, hotherParse, rfl⟩

end

/-- **A complete command has what it asked for.**

* Of any frames that complete a pending command, each of them taken only if it belongs to the
  command, one turns it from pending to complete. From this frame the command has what it asked for,
  and keeps it.
* The same holds of a command that comes back from a processor as complete.
* Whatever carries commands out, as long as they come back from processors: the program writes the
  description of the node that it was asked about, and all lines about the versions, unless a
  command has failed. -/
theorem complete_commands_have_results :
    (∀ (command : Command) (frames : List Frame), command.status = .pending →
      (command.receiveAll frames).status = .complete →
      ∃ before frame after, frames = before ++ frame :: after
        ∧ (command.receiveAll before).status = .pending
        ∧ (command.receiveAll before).accepts frame
        ∧ (command.receiveAll (before ++ [frame])).status = .complete
        ∧ (command.receiveAll frames).HasResult frame)
    ∧ (∀ command done : Command, command.status = .pending → ComesBackAs command done →
      done.status = .complete →
      ∃ before frame, Develops command before ∧ before.status = .pending ∧ before.accepts frame
        ∧ (before.respond frame).status = .complete ∧ done.HasResult frame)
    ∧ (∀ (m : Type → Type) [Monad m] [LawfulMonad m] (execute : Command → m Command),
      (∀ id, Yields (ComesBackAs { request := .getNode id }) (execute { request := .getNode id }) →
        Yields (TellsNode id) (perform execute (.node id)))
      ∧ (Yields (ComesBackAs { request := .getVersion }) (execute { request := .getVersion }) →
        Yields (ComesBackAs { request := .getProtocol }) (execute { request := .getProtocol }) →
        Yields TellsVersions (perform execute .version))) := by
  refine ⟨?_, ?_, ?_⟩
  · intro command frames pending complete
    exact Command.exists_hasResult pending complete
  · intro command done pending back complete
    exact back.develops.hasResult pending complete
  · intro m _ _ execute
    exact ⟨yields_node, yields_version⟩

/-- A processor takes a description of node 3 for the one that was asked for, and not one of node 4
that arrives before. -/
theorem complete_commands_have_results_of_node :
    let command : Command := { request := .getNode 3 }
    let description (id : UInt8) : Frame := ⟨0x0210, id :: List.replicate 123 0⟩
    let frames : List Frame := [description 4, ⟨0x0201, [0, 3]⟩, description 3]
    let done : Command :=
      { command with
        findings := { node? := Node.parse? (description 3).payload }, status := .complete }
    command.status = .pending ∧ (command.receiveAll frames).status = .complete
      ∧ ComesBackAs command done
      ∧ (∃ before frame after, frames = before ++ frame :: after
        ∧ (command.receiveAll before).status = .pending
        ∧ (command.receiveAll before).accepts frame
        ∧ (command.receiveAll (before ++ [frame])).status = .complete
        ∧ (command.receiveAll frames).HasResult frame)
      ∧ (∃ before frame, Develops command before ∧ before.status = .pending ∧ before.accepts frame
        ∧ (before.respond frame).status = .complete ∧ done.HasResult frame)
      ∧ Yields (TellsNode 3) (perform (fun _ => pure done : Command → Id Command) (.node 3)) := by
  intro command description frames done
  let config : Config := { hostname := "gateway", password := "secret", refreshOnConnect := false }
  let steps : List Step :=
    loginSteps ++ refreshSteps versionAnswer ++ [.event (.submit 1 command), .turn]
      ++ frames.flatMap arrival
  have back : ComesBackAs command done := by
    have given : answers (run config steps (State.start config 0).1).2 = [⟨1, some done⟩] := by
      decide +kernel
    refine ⟨config, 0, steps, ⟨1, some done⟩, ?_, ?_, rfl⟩
    · rw [answers_append, given]
      exact List.mem_append_left _ List.mem_cons_self
    · intro submitted member
      simpa [steps, loginSteps, refreshSteps, arrival, frames] using member
  have complete : (command.receiveAll frames).status = .complete := by decide +kernel
  obtain ⟨ofFrames, ofProcessor, ofProgram⟩ := complete_commands_have_results
  exact ⟨rfl, complete, back, ofFrames command frames rfl complete,
    ofProcessor command done rfl back rfl,
    (ofProgram Id fun _ => pure done).1 3 ⟨pure ⟨done, back⟩, rfl⟩⟩

end CommandLine

end ShutterGateway
