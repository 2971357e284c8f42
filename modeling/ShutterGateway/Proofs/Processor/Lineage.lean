import ShutterGateway.Proofs.Command.Understanding
import ShutterGateway.Proofs.Processor.Answers
import ShutterGateway.Proofs.Processor.Fitness

/-!
Where the commands come from that callers get back. A processor does three things to a command: it
assigns a session number, passes on an answer that belongs to the command, and fails it for a reason
of its own. Over every run, what a caller gets back is what these make of the command that the
caller submitted. In particular no command comes back as one that was answered by an opcode which
it does not understand.
-/

namespace ShutterGateway.Processor

/-- The reasons for which a processor itself fails a command. -/
inductive OwnError : CommandError → Prop where
  | shutdown : OwnError .shutdown
  | timeout : OwnError .timeout
  | connectionLost : OwnError (.connectivity .connectionLost)
  | gatewayUnavailable : OwnError (.connectivity .gatewayUnavailable)
  | loginReserved : OwnError (.invalidParameter .loginReserved)

/-- What a processor can make of a command. -/
inductive Develops (command : Command) : Command → Prop where
  | same : Develops command command
  | assigned {later : Command} (h : Develops command later) (session : UInt16) :
    Develops command (later.assignSession session)
  | answered {later : Command} {frame : Frame} (h : Develops command later)
    (accepts : later.accepts frame) : Develops command (later.respond frame)
  | failed {later : Command} {error : CommandError} (h : Develops command later)
    (own : OwnError error) : Develops command (later.fail error)

/-- A caller's command is one that the caller has submitted, or what has become of it. -/
def Descends (steps : List Step) (origin : Origin) (command : Command) : Prop :=
  match origin with
  | .caller ticket =>
    ∃ submitted, .event (.submit ticket submitted) ∈ steps ∧ Develops submitted command
  | .internal => True

/-- The commands of some jobs come from callers. -/
def Traced (steps : List Step) (jobs : List Job) : Prop :=
  ∀ job ∈ jobs, Descends steps job.origin job.command

/-- What a caller gets has become of a command that the caller has submitted. -/
def Answer.Traced (steps : List Step) (answer : Answer) : Prop :=
  ∃ submitted, .event (.submit answer.ticket submitted) ∈ steps
    ∧ ∀ command, answer.command? = some command → Develops submitted command

/-- What the processor is doing, it does for commands that callers have submitted. -/
def Activity.Rooted (steps : List Step) : Activity → Prop
  | .running job _ attempt =>
    Descends steps job.origin job.command ∧ Descends steps job.origin attempt.command
  | .pausing job _ _ => Descends steps job.origin job.command
  | _ => True

/-- All that a processor has to do for callers, it does for commands that they have submitted. -/
structure State.Rooted (steps : List Step) (state : State) : Prop where
  queue : Traced steps state.queue
  activity : ∀ activity, state.mode.activity? = some activity → activity.Rooted steps

/-- Callers get back what has become of the commands that they have submitted. -/
structure Faithful (steps : List Step) (reaction : Reaction) : Prop where
  rooted : reaction.1.Rooted steps
  answers : ∀ answer ∈ answers reaction.2, answer.Traced steps

section

variable {config : Config} {steps : List Step} {link : Link} {refresh : List Request}
  {state : State} {reaction : Reaction} {origin : Origin} {command : Command}

/-! ## Commands -/

theorem Descends.assigned (h : Descends steps origin command) (state : State) :
    Descends steps origin (state.assignSession command).1 := by
  unfold State.assignSession
  split
  · cases origin with
    | caller ticket =>
      obtain ⟨submitted, member, develops⟩ := h
      exact ⟨submitted, member, develops.assigned _⟩
    | internal => trivial
  · exact h

theorem Descends.answered {frame : Frame} (h : Descends steps origin command)
    (accepts : command.accepts frame) : Descends steps origin (command.respond frame) := by
  cases origin with
  | caller ticket =>
    obtain ⟨submitted, member, develops⟩ := h
    exact ⟨submitted, member, develops.answered accepts⟩
  | internal => trivial

theorem Descends.failed {error : CommandError} (h : Descends steps origin command)
    (own : OwnError error) : Descends steps origin (command.fail error) := by
  cases origin with
  | caller ticket =>
    obtain ⟨submitted, member, develops⟩ := h
    exact ⟨submitted, member, develops.failed own⟩
  | internal => trivial

theorem Attempt.Comes.descends_of_ongoing {attempt later : Attempt} {left : Link}
    (comes : attempt.Comes config state link (.ongoing later, left))
    (h : Descends steps origin attempt.command) : Descends steps origin later.command := by
  cases comes with
  | ongoing running arrived accepts =>
    rw [command_extend]
    exact h.answered accepts

theorem Attempt.Comes.descends_of_ended {attempt : Attempt} {outcome : Outcome} {left : Link}
    (comes : attempt.Comes config state link (.ended command outcome, left))
    (h : Descends steps origin attempt.command) : Descends steps origin command := by
  cases comes with
  | terminated => exact h.failed .shutdown
  | done running arrived accepts => exact h.answered accepts
  | linkLost => exact h.failed .connectionLost
  | timedOut => exact h.failed .timeout

/-! ## States -/

theorem rooted_of_offline {outage : Outage} {stage : Stage}
    (queue : Traced steps state.queue)
    (mode : state.mode = .offline outage stage) : state.Rooted steps := by
  refine ⟨queue, ?_⟩
  intro activity hactivity
  rw [mode] at hactivity
  cases hactivity

theorem rooted_of_online {activity : Activity}
    (queue : Traced steps state.queue)
    (mode : state.mode = .online link refresh activity) (h : activity.Rooted steps) :
    state.Rooted steps := by
  refine ⟨queue, ?_⟩
  intro other hother
  rw [mode] at hother
  cases hother
  exact h

theorem State.Rooted.online {activity : Activity} (rooted : state.Rooted steps)
    (mode : state.mode = .online link refresh activity) : activity.Rooted steps :=
  rooted.activity activity (by rw [mode]; rfl)

/-! ## Reactions -/

theorem Faithful.of_silent (rooted : reaction.1.Rooted steps)
    (silent : Processor.answers reaction.2 = []) : Faithful steps reaction := by
  refine ⟨rooted, ?_⟩
  rw [silent]
  exact List.forall_mem_nil _

theorem Faithful.of_withdraws
    (queue : Traced steps state.queue)
    (h : Withdraws state reaction) : Faithful steps reaction := by
  obtain ⟨⟨outage, stage, mode⟩, hqueue, -, hanswers⟩ := h
  refine .of_silent (rooted_of_offline ?_ mode) hanswers
  rw [hqueue]
  exact queue

/-- The caller of a command gets what has become of it. -/
theorem traced_finish (h : Descends steps origin command) (state : State) :
    ∀ answer ∈ answers (state.finish command origin).2, answer.Traced steps := by
  rw [answers_finish]
  cases origin with
  | internal => exact List.forall_mem_nil _
  | caller ticket =>
    obtain ⟨submitted, member, develops⟩ := h
    intro answer hanswer
    obtain rfl := List.mem_singleton.mp hanswer
    refine ⟨submitted, member, ?_⟩
    intro other hother
    obtain rfl := Option.some.inj hother
    exact develops

theorem Faithful.finish {next : State → Reaction} (h : Descends steps origin command)
    (rest : Faithful steps (next (state.learn command))) :
    Faithful steps ((state.finish command origin).andThen next) := by
  refine ⟨rest.rooted, ?_⟩
  rw [Reaction.andThen, answers_append]
  intro answer member
  rcases List.mem_append.mp member with member | member
  · exact traced_finish h state answer member
  · exact rest.answers answer member

theorem traced_learn (queue : Traced steps state.queue) :
    Traced steps (state.learn command).queue := by
  rw [queue_learn]
  exact queue

theorem traced_drain (jobs : List Job)
    (h : Traced steps jobs) (state : State) :
    ∀ answer ∈ answers (State.drain jobs state).2, answer.Traced steps := by
  induction jobs generalizing state with
  | nil => exact List.forall_mem_nil _
  | cons job rest ih =>
    obtain ⟨first, others⟩ := List.forall_mem_cons.mp h
    rw [State.drain, Reaction.andThen, answers_append]
    intro answer member
    rcases List.mem_append.mp member with member | member
    · exact traced_finish (first.failed .shutdown) state answer member
    · exact ih others _ answer member

theorem faithful_stop (queue : Traced steps state.queue) :
    Faithful steps state.stop := by
  have hmode : state.stop.1.mode = .stopped := mode_drain state.queue _
  have hqueue : state.stop.1.queue = [] := queue_drain state.queue _
  refine ⟨⟨?_, ?_⟩, ?_⟩
  · rw [hqueue]
    exact List.forall_mem_nil _
  · intro activity hactivity
    rw [hmode] at hactivity
    cases hactivity
  · rw [answers_stop]
    exact traced_drain state.queue queue _

theorem faithful_loseLink (queue : Traced steps state.queue) :
    Faithful steps (state.loseLink config) :=
  .of_withdraws queue (withdraws_loseLink config state)

theorem faithful_launchesAs {job : Job} {retries : Nat}
    (queue : Traced steps state.queue)
    (h : Descends steps job.origin job.command)
    (launches : LaunchesAs config link refresh state job retries reaction) :
    Faithful steps reaction := by
  have hqueue : Traced steps (state.assignSession job.command).2.queue := by
    rw [queue_assigned]
    exact queue
  cases launches with
  | sent taking frame? =>
    exact .of_silent (rooted_of_online hqueue rfl ⟨h, h.assigned state⟩) rfl
  | refused refusing =>
    exact .finish ((h.assigned state).failed .connectionLost)
      (faithful_loseLink (traced_learn hqueue))

theorem faithful_proceed (queue : Traced steps state.queue)
    (sendable : ∀ request ∈ refresh, Sendable request.kind) :
    Faithful steps (State.proceed config link refresh state) := by
  have proceeds := proceedsAs_proceed config link refresh state sendable
  generalize State.proceed config link refresh state = reaction at proceeds
  cases proceeds with
  | idle => exact .of_silent (rooted_of_online queue rfl trivial) rfl
  | @launch request _ _ launches =>
    have own : Descends steps .internal { request := request } := trivial
    exact faithful_launchesAs queue own launches

theorem faithful_check (queue : Traced steps state.queue) :
    Faithful steps (state.check config link refresh) := by
  have hqueue : Traced steps (state.assignSession { request := .ping }).2.queue := by
    rw [queue_assigned]
    exact queue
  have checks := checksAs_check config link refresh state
  generalize state.check config link refresh = reaction at checks
  cases checks with
  | sent taking request status frame? => exact .of_silent (rooted_of_online hqueue rfl trivial) rfl
  | refused refusing => exact faithful_loseLink hqueue

theorem faithful_concludeCheck {outcome : Outcome}
    (queue : Traced steps state.queue)
    (sendable : ∀ request ∈ refresh, Sendable request.kind) :
    Faithful steps (state.concludeCheck config link refresh outcome) := by
  cases outcome with
  | done => exact faithful_proceed queue sendable
  | terminated => exact faithful_stop queue
  | linkLost => exact faithful_loseLink queue
  | timedOut => exact faithful_loseLink queue

theorem faithful_conclude {job : Job} {retries : Nat} {outcome : Outcome} {reaction : Reaction}
    (queue : Traced steps state.queue)
    (sendable : ∀ request ∈ refresh, Sendable request.kind)
    (before : Descends steps job.origin job.command) (own : Descends steps job.origin command)
    (h : Concludes config link refresh job retries command state outcome reaction) :
    Faithful steps reaction := by
  have hqueue : Traced steps (state.learn command).queue := traced_learn queue
  cases h with
  | again => exact .of_silent (rooted_of_online queue rfl before) rfl
  | settle => exact .finish own (faithful_concludeCheck hqueue sendable)
  | check => exact .finish own (faithful_check hqueue)

theorem faithful_goOnline (queue : Traced steps state.queue) :
    Faithful steps (state.goOnline config link) := by
  let online : State := { state with connectedOnce := true, published := .connected }
  have proceeds : Faithful steps
      (State.proceed config link (online.refreshRequests config) online) :=
    faithful_proceed queue (sendable_refreshRequests config _)
  exact ⟨proceeds.rooted, proceeds.answers⟩

theorem faithful_unsolicited {frame : Frame} (rooted : state.Rooted steps) :
    Faithful steps (state.unsolicited frame) := by
  refine .of_silent ?_ (answers_unsolicited ..)
  rw [state_unsolicited]
  exact rooted

/-! ## Turns -/

theorem faithful_turn (fit : state.Fit) (rooted : state.Rooted steps)
    (h : Turns config state reaction) : Faithful steps reaction := by
  have queue := rooted.queue
  cases h with
  | stop => exact faithful_stop queue
  | connect => exact .of_withdraws queue (withdraws_openConnection config _ state)
  | @reject outage job rest running suspended hopeless front =>
    obtain ⟨stage, mode⟩ := suspended.offline
    rw [front] at queue
    obtain ⟨first, others⟩ := List.forall_mem_cons.mp queue
    refine ⟨rooted_of_offline ?_ ((mode_learn _ _).trans mode),
      traced_finish (first.failed .gatewayUnavailable) _⟩
    rw [queue_finish]
    exact others
  | logIn => exact .of_silent (rooted_of_offline queue rfl) rfl
  | failAttempt => exact .of_withdraws queue (withdraws_failAttempt config _ _ state)
  | keepLoggingIn => exact .of_silent (rooted_of_offline queue rfl) rfl
  | goOnline => exact faithful_goOnline queue
  | unsolicited => exact faithful_unsolicited (rooted_of_online queue rfl trivial)
  | loseLink => exact faithful_loseLink queue
  | @launch link refresh job rest running mode silent alive front =>
    rw [front] at queue
    obtain ⟨first, others⟩ := List.forall_mem_cons.mp queue
    have launches := launchesAs_launch config link refresh { state with queue := rest }
      config.transientRetries (State.proceed config link refresh) (fit.front front).1.sendable
    have traced : Traced steps (State.queue { state with queue := rest }) := others
    exact faithful_launchesAs traced first launches
  | ongoing mode comes =>
    obtain ⟨before, h⟩ := rooted.online mode
    exact .of_silent (rooted_of_online queue rfl ⟨before, comes.descends_of_ongoing h⟩) rfl
  | unclaimed mode comes =>
    exact faithful_unsolicited (rooted_of_online queue rfl (rooted.online mode))
  | conclude mode comes =>
    obtain ⟨before, h⟩ := rooted.online mode
    exact faithful_conclude queue (fit.online mode).2.1 before (comes.descends_of_ended h)
      (concludes_conclude ..)
  | stopPause mode =>
    have before := rooted.online mode
    exact .finish (Descends.failed before .shutdown) (faithful_stop (traced_learn queue))
  | @resume link refresh job retries resume running mode due =>
    have fitting : job.Fit := (fit.online mode).2.2
    exact faithful_launchesAs queue (rooted.online mode)
      (launchesAs_launch config link refresh state retries _ fitting.sendable)
  | keepChecking => exact .of_silent (rooted_of_online queue rfl trivial) rfl
  | unclaimedByCheck => exact faithful_unsolicited (rooted_of_online queue rfl trivial)
  | concludeCheck mode => exact faithful_concludeCheck queue (fit.online mode).2.1

/-! ## Events -/

theorem descends_of_job? {event : Event} {job : Job} (member : .event event ∈ steps)
    (h : event.job? state = some job) : Descends steps job.origin job.command := by
  cases event with
  | submit ticket command =>
    rw [Event.job?] at h
    split at h
    · cases h
    · cases h
      exact ⟨command, member, .same⟩
  | recur periodic =>
    rw [Event.job?] at h
    split at h
    · cases h
      cases periodic <;> trivial
    · cases h
  | _ => cases h

/-- What is answered at once goes to the caller who submits. -/
theorem traced_submit {ticket : Nat} (member : .event (.submit ticket command) ∈ steps) :
    ∀ answer ∈ answers (state.submit ticket command).2, answer.Traced steps := by
  have hanswer {command? : Option Command}
      (h : ∀ other, command? = some other → Develops command other) :
      ∀ answer ∈ [(⟨ticket, command?⟩ : Answer)], answer.Traced steps := by
    intro answer hanswer
    obtain rfl := List.mem_singleton.mp hanswer
    exact ⟨command, member, h⟩
  unfold State.submit
  split
  · refine hanswer ?_
    intro other hother
    obtain rfl := Option.some.inj hother
    exact .same
  · refine hanswer ?_
    intro other hother
    obtain rfl := Option.some.inj hother
    exact Develops.same.failed .loginReserved
  · split
    · refine hanswer ?_
      intro other hother
      cases hother
    · exact List.forall_mem_nil _

theorem faithful_occur {event : Event} (rooted : state.Rooted steps)
    (member : .event event ∈ steps) : Faithful steps (state.occur event) := by
  obtain ⟨hactivity, hqueue, -⟩ := occur_keeps event state
  refine ⟨⟨?_, ?_⟩, ?_⟩
  · rw [hqueue]
    intro job hjob
    rcases List.mem_append.mp hjob with hjob | hjob
    · exact rooted.queue job hjob
    · exact descends_of_job? member (Option.mem_toList.mp hjob)
  · rw [hactivity]
    exact rooted.activity
  · cases event with
    | submit ticket command => exact traced_submit member
    | recur periodic => rw [State.occur]; split <;> exact List.forall_mem_nil _
    | connected success => rw [State.occur]; split <;> exact List.forall_mem_nil _
    | _ => exact List.forall_mem_nil _

/-! ## Runs -/

theorem faithful_step {step : Step} (fit : state.Fit) (rooted : state.Rooted steps)
    (member : step ∈ steps) : Faithful steps (step.take config state) := by
  cases step with
  | event event => exact faithful_occur rooted member
  | turn =>
    cases h : state.turn? config with
    | none =>
      simp only [Step.take, h, Option.getD_none]
      exact .of_silent rooted rfl
    | some reaction =>
      simp only [Step.take, h, Option.getD_some]
      exact faithful_turn fit rooted (turns_of_turn h)

theorem faithful_run (fit : state.Fit) (rooted : state.Rooted steps) (some : List Step)
    (members : some ⊆ steps) : Faithful steps (run config some state) := by
  induction some generalizing state with
  | nil => exact .of_silent rooted rfl
  | cons step rest ih =>
    obtain ⟨first, others⟩ := List.cons_subset.mp members
    have now : Faithful steps (step.take config state) := faithful_step fit rooted first
    have later := ih (fit_moment config state step fit) now.rooted others
    refine ⟨later.rooted, ?_⟩
    rw [run, Reaction.andThen, answers_append]
    intro answer member
    rcases List.mem_append.mp member with member | member
    · exact now.answers answer member
    · exact later.answers answer member

/-- Whatever happens to a processor, what a caller gets has become of a command that the caller has
submitted. -/
theorem traced_answers (config : Config) (epoch : UnixTime) (steps : List Step) :
    ∀ answer ∈ answers ((State.start config epoch).andThen (run config steps)).2,
      answer.Traced steps := by
  have withdraws := withdraws_start config epoch
  obtain ⟨outage, stage, mode⟩ := withdraws.offline
  have rooted : (State.start config epoch).1.Rooted steps := by
    refine rooted_of_offline ?_ mode
    rw [withdraws.queue]
    exact List.forall_mem_nil _
  have all : Faithful steps (run config steps (State.start config epoch).1) :=
    faithful_run (fit_start config epoch) rooted steps (List.Subset.refl steps)
  rw [Reaction.andThen, answers_append, withdraws.answers, List.nil_append]
  exact all.answers

/-- A caller who waits gets what has become of the command that the caller has submitted. -/
theorem Answer.Traced.of_wait {answer : Answer} (traced : answer.Traced steps) :
    ∃ submitted, .event (.submit answer.ticket submitted) ∈ steps
      ∧ ∀ command, (answer.deliver { submitted := submitted }).wait = .returned command →
        Develops submitted command := by
  obtain ⟨submitted, member, h⟩ := traced
  refine ⟨submitted, member, ?_⟩
  intro command returned
  obtain ⟨ticket, command?⟩ := answer
  cases command? with
  | some answered =>
    have hsame : Awaited.returned answered = .returned command := returned
    rw [← Awaited.returned.inj hsame]
    exact h answered rfl
  | none =>
    have hsame : Awaited.returned (submitted.fail .shutdown) = .returned command := returned
    rw [← Awaited.returned.inj hsame]
    exact Develops.same.failed .shutdown

/-- Whatever a processor makes of a command, the command fails with an error of its own, in a way in
which an answer is understood, or for a reason of the processor. -/
theorem Develops.error?_cases {later : Command} {error : CommandError}
    (h : Develops command later) (failed : later.error? = some error) :
    command.error? = some error ∨ (Verdict.failed error).Understood ∨ OwnError error := by
  induction h with
  | same => exact .inl failed
  | assigned h session ih =>
    refine ih ?_
    rwa [Command.error?, Command.status_assignSession] at failed
  | answered h accepts ih =>
    rcases Command.error?_respond_of_accepts accepts failed with before | understood
    · exact ih before
    · exact .inr (.inl understood)
  | @failed before own h isOwn ih =>
    by_cases hover : before.isTerminal
    · rw [Command.fail_of_isTerminal hover] at failed
      exact ih failed
    · rw [Command.fail, if_neg hover] at failed
      obtain rfl := Option.some.inj failed
      exact .inr (.inr isOwn)

/-- Nothing that a processor does to a command makes it fail as one that was not understood. -/
theorem Develops.error?_of_isUnexpected {later : Command} {error : CommandError}
    (h : Develops command later) (failed : later.error? = some error)
    (unexpected : error.IsUnexpected) : command.error? = some error := by
  rcases h.error?_cases failed with before | understood | own
  · exact before
  · exact absurd ⟨error, rfl, unexpected⟩ understood.not_isUnexpected
  · obtain ⟨fault, rfl, -⟩ := unexpected
    cases own

end

/-- **An answer is not understood exactly where the table of exchanges does not have it.**

* For every request, every opcode other than that of an error, every payload and whatever has been
  found: the answer is understood if and only if the table has its opcode for the request.
* A frame that belongs to a command, whatever the command has been through, never fails it as one
  that is not understood.
* Any other opcode, known or not, fails a pending command in exactly this way, and the command keeps
  all else that it has.
* Whatever happens to a processor, a caller who waits for a command gets it with such an error only
  if the command was submitted with this error. If all commands are submitted as they were built,
  then none comes back so. -/
theorem unexpected_exactly_where_not_expected (config : Config) (epoch : UnixTime)
    (steps : List Step) :
    let given := answers ((State.start config epoch).andThen (run config steps)).2
    (∀ (request : Request) (opcode : Opcode) (payload : Bytes) (findings : Findings),
      opcode ≠ .errorNtf →
        (¬ (Id.run (request.readAnswer opcode payload findings)).2.IsUnexpected
          ↔ request.kind.descriptor.expects opcode))
    ∧ (∀ (command : Command) (frame : Frame) (error : CommandError), command.accepts frame →
        (command.respond frame).error? = some error → error.IsUnexpected →
        command.error? = some error)
    ∧ (∀ (command : Command) (frame : Frame), command.status = .pending →
        (∀ opcode, frame.opcode? = some opcode → ¬ command.descriptor.expects opcode) →
        command.respond frame
          = { command with status := .failed (.protocol (.unexpectedOpcode frame.code)) })
    ∧ (∀ answer ∈ given, ∃ submitted, .event (.submit answer.ticket submitted) ∈ steps
        ∧ ∀ command error, (answer.deliver { submitted := submitted }).wait = .returned command →
          command.error? = some error → error.IsUnexpected → submitted.error? = some error)
    ∧ ((∀ ticket submitted, .event (.submit ticket submitted) ∈ steps → submitted.Built) →
        ∀ answer ∈ given, ∀ command error, answer.command? = some command →
          command.error? = some error → ¬ error.IsUnexpected) := by
  intro given
  have traced := traced_answers config epoch steps
  refine ⟨?_, ?_, ?_, ?_, ?_⟩
  · intro request opcode payload findings h
    exact Request.understands_iff_expects h
  · intro command frame error accepts failed unexpected
    rcases Command.error?_respond_of_accepts accepts failed with before | understood
    · exact before
    · exact absurd ⟨error, rfl, unexpected⟩ understood.not_isUnexpected
  · intro command frame pending h
    exact Command.respond_of_not_expects pending h
  · intro answer member
    obtain ⟨submitted, hsubmitted, develops⟩ := (traced answer member).of_wait
    refine ⟨submitted, hsubmitted, ?_⟩
    intro command error returned failed unexpected
    exact (develops command returned).error?_of_isUnexpected failed unexpected
  · intro built answer member command error hcommand failed unexpected
    obtain ⟨submitted, hsubmitted, develops⟩ := traced answer member
    have hfailed := (develops command hcommand).error?_of_isUnexpected failed unexpected
    -- A command that was just built has not failed.
    rw [(built _ submitted hsubmitted).eq_pristine] at hfailed
    cases hfailed

end ShutterGateway.Processor
