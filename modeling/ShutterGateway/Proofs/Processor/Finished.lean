import ShutterGateway.Proofs.Processor.Lineage
import ShutterGateway.Proofs.Processor.Retry

/-!
Commands that are over when they are submitted. The processor does not look at the status of a
command before it carries it out, and a command that is over does not change. So it is sent like any
other, and comes back as it was, whatever the gateway answers: only a command that is pending is
decided by being carried out.
-/

namespace ShutterGateway.Processor

variable {config : Config} {state : State} {job : Job} {retries : Nat} {attempt : Attempt}
  {command later : Command}

/-- Whatever a processor makes of a command that is over, it is the command, but for the session
number. -/
theorem Develops.of_isTerminal (h : Develops command later) (terminal : command.isTerminal) :
    later = { command with session? := later.session? } := by
  induction h with
  | same => rfl
  | @assigned before _ session ih =>
    unfold Command.assignSession
    split
    · rw [ih]
    · exact ih
  | @answered before frame _ _ ih =>
    have hover : before.isTerminal := by
      rw [ih]
      exact terminal
    rw [Command.respond_of_isTerminal hover]
    exact ih
  | @failed before error _ _ ih =>
    have hover : before.isTerminal := by
      rw [ih]
      exact terminal
    rw [Command.fail_of_isTerminal hover]
    exact ih

/-- What ends an attempt decides the command exactly if it was not over before. -/
theorem status_ended (fit : state.Fit)
    (out : state.mode.activity? = some (.running job retries attempt))
    (ended : (Moment.of config state .turn).ended config = [command]) :
    attempt.command.status = job.command.status
      ∧ (job.command.isTerminal → command = attempt.command)
      ∧ (command.status = job.command.status ↔ job.command.isTerminal) := by
  obtain ⟨link, refresh, mode⟩ := exists_online_of_activity out
  obtain ⟨-, -, -, -, hstatus⟩ := fit.online mode
  have hover : attempt.command.isTerminal = job.command.isTerminal :=
    congrArg Status.isTerminal hstatus
  obtain ⟨outcome, left, -, comes⟩ := exists_progress_of_ended mode rfl ended
  have same (terminal : job.command.isTerminal) : command = attempt.command := by
    rw [← hover] at terminal
    cases comes with
    | done => exact Command.respond_of_isTerminal terminal _
    | terminated | linkLost | timedOut => exact Command.fail_of_isTerminal terminal _
  have decided : command.isTerminal := by
    cases comes with
    | done running arrived accepts terminal => exact terminal
    | terminated | linkLost | timedOut => exact Command.isTerminal_fail ..
  refine ⟨hstatus, same, fun unchanged => ?_, fun terminal => ?_⟩
  · rw [Command.isTerminal, ← unchanged]
    exact decided
  · rw [same terminal, hstatus]

/-- The request of an attempt that is due is handed over exactly if the connection takes frames. -/
theorem requests_due (config : Config) (fit : state.Fit) (due : state.due? = some job) :
    (∃ frame, (state.assignSession job.command).1.frame? = .ok frame
        ∧ (Moment.of config state .turn).requests = [frame])
      ↔ ∀ link, state.mode.link? = some link → ¬ link.refusing := by
  obtain ⟨link, refresh, activity, queue, mode, sendable, turn⟩ :=
    @exists_launch_of_due config state job fit due
  have hlink : state.mode.link? = some link := by rw [mode]; rfl
  have hassigned : (State.assignSession job.command { state with queue := queue }).1
      = (state.assignSession job.command).1 := by
    unfold State.assignSession
    split <;> rfl
  have launches := launchesAs_launch config link refresh { state with queue := queue }
    (state.left config) (State.proceed config link refresh) sendable
  rw [moment_of_turn turn]
  show (∃ frame, _ ∧ requests state _ = [frame]) ↔ _
  rw [requests_of_online mode]
  generalize State.launch config link refresh job (state.left config) _
    { state with queue := queue } = reaction at launches
  cases launches with
  | sent taking frame? =>
    rw [hassigned] at frame?
    refine iff_of_true ⟨_, frame?, rfl⟩ fun other same => ?_
    obtain rfl := Option.some.inj (hlink.symm.trans same)
    exact taking
  | refused refusing =>
    refine iff_of_false ?_ fun taking => taking link hlink refusing
    rintro ⟨frame, -, hsent⟩
    rw [Reaction.andThen, sent_append, sent_finish, (withdraws_loseLink config _).sent] at hsent
    cases hsent

/-- **Every command is carried out, and only a pending one is decided by that.** Whatever happens to
a processor and in whatever order:

* A caller who submits a command that is over already gets it back with the same request, the same
  findings and the same status, whatever the gateway sends.
* Whenever an attempt at a job is due, its request is handed over if and only if the connection
  takes frames. The status of its command is not asked for.
* When an attempt ends, it leaves the status of the command as it was given if and only if the
  command was over already. It ends by an answer that it takes, or without one by the end of the
  processor, the loss of the connection or the time. The error of a command that is over still
  counts: if it is a refusal for now, any answer that the attempt takes leads to another attempt.
  Otherwise the command is handed back. -/
theorem status_decided_iff_pending (config : Config) (epoch : UnixTime) (steps : List Step) :
    let given := answers ((State.start config epoch).andThen (run config steps)).2
    let state := reached config epoch steps
    let next := Moment.of config state .turn
    (∀ answer ∈ given, ∃ submitted, .event (.submit answer.ticket submitted) ∈ steps
        ∧ ∀ command, (answer.deliver { submitted := submitted }).wait = .returned command →
          submitted.isTerminal → command = { submitted with session? := command.session? })
    ∧ (∀ job, state.due? = some job →
        ((∃ frame, (state.assignSession job.command).1.frame? = .ok frame
            ∧ next.requests = [frame])
          ↔ ∀ link, state.mode.link? = some link → ¬ link.refusing))
    ∧ ∀ job retries attempt command,
        state.mode.activity? = some (.running job retries attempt) →
        next.ended config = [command] →
        (command.status = job.command.status ↔ job.command.isTerminal)
        ∧ (job.command.isTerminal → command = attempt.command)
        ∧ ((∃ frame, next.taken = [frame] ∧ attempt.command.accepts frame
              ∧ command = attempt.command.respond frame)
            ∨ next.taken = [] ∧ ∃ error,
              error ∈ [.shutdown, .connectivity .connectionLost, CommandError.timeout]
                ∧ command = attempt.command.fail error)
        ∧ (next.taken ≠ [] ∧ command.RefusedForNow ∧ 0 < retries →
          next.after.mode.activity? = some (.pausing job (retries - 1)
            (state.now + config.confirmationTimeout.quarter.nanos)))
        ∧ (¬ (next.taken ≠ [] ∧ command.RefusedForNow ∧ 0 < retries) →
          HandsBack job command next) := by
  intro given state next
  have fit : state.Fit := fit_reached config epoch steps
  refine ⟨?_, ?_, ?_⟩
  · intro answer member
    obtain ⟨submitted, hsubmitted, develops⟩ :=
      (traced_answers config epoch steps answer member).of_wait
    exact ⟨submitted, hsubmitted, fun command returned terminal =>
      (develops command returned).of_isTerminal terminal⟩
  · exact fun job due => requests_due config fit due
  · intro job retries attempt command out ended
    obtain ⟨-, same, unchanged⟩ := status_ended fit out ended
    obtain ⟨hresult, hpauses, hreturns⟩ := turn_concluded fit out ended
    exact ⟨unchanged, same, hresult, fun again => (hpauses again).2,
      fun settled => (hreturns settled).1⟩

/-- A velocity that is set already is submitted. It is sent once more, and the confirmation that
rejects it ends its attempt without a change. -/
theorem status_decided_iff_pending_of_finished :
    let config : Config :=
      { hostname := "gateway", password := "secret", refreshOnConnect := false }
    let finished : Command := { request := .setVelocity 3 .silent, status := .complete }
    let job : Job := ⟨finished, .caller 1⟩
    let attempt : Attempt := { command := finished, deadline := config.confirmationTimeout.nanos }
    let online : List Step := loginSteps ++ refreshSteps versionAnswer
    let submitted := online ++ [.event (.submit 1 finished)]
    let rejected := submitted ++ [.turn, .event (.arrive ⟨0x020b, [1, 3]⟩)]
    let due := reached config 0 submitted
    let ends := Moment.of config (reached config 0 rejected) .turn
    (due.due? = some job
        ∧ (reached config 0 rejected).mode.activity?
            = some (.running job config.transientRetries attempt)
        ∧ ends.ended config = [finished])
      ∧ ((∃ frame, (due.assignSession job.command).1.frame? = .ok frame
            ∧ (Moment.of config due .turn).requests = [frame])
          ↔ ∀ link, due.mode.link? = some link → ¬ link.refusing)
      ∧ ∃ frame, ends.taken = [frame] ∧ attempt.command.accepts frame
          ∧ finished = attempt.command.respond frame := by
  intro config finished job attempt online submitted rejected due ends
  have hdue : due.due? = some job := by decide
  have hrunning : (reached config 0 rejected).mode.activity?
      = some (.running job config.transientRetries attempt) := by decide
  have hended : ends.ended config = [finished] := by decide
  refine ⟨⟨hdue, hrunning, hended⟩,
    (status_decided_iff_pending config 0 submitted).2.1 job hdue, ?_⟩
  obtain ⟨-, -, hresult, -, -⟩ :=
    (status_decided_iff_pending config 0 rejected).2.2 job _ attempt finished hrunning hended
  refine hresult.resolve_right ?_
  rintro ⟨untaken, -⟩
  exact absurd untaken (by decide)

/-- A velocity that is set already is sent once more, and the gateway rejects it. The command comes
back complete, where one that was pending fails. -/
theorem finished_command_is_sent_again :
    let config : Config :=
      { hostname := "gateway", password := "secret", refreshOnConnect := false }
    let pending : Command := { request := .setVelocity 3 .silent }
    let finished : Command := { pending with status := .complete }
    let online : List Step := loginSteps ++ refreshSteps versionAnswer
    let rejected (command : Command) : List Answer :=
      answers ((State.start config 0).andThen
        (run config (online ++ [.event (.submit 1 command), .turn]
          ++ arrival ⟨0x020b, [1, 3]⟩))).2
    let due := reached config 0 (online ++ [.event (.submit 1 finished)])
    finished.isTerminal
      ∧ (Moment.of config due .turn).requests = [⟨0x020a, [3, 1, 0]⟩]
      ∧ rejected finished = [⟨1, some finished⟩]
      ∧ rejected pending
        = [⟨1, some { pending with status := .failed (.rejected .rejected) }⟩] := by
  decide

end ShutterGateway.Processor
