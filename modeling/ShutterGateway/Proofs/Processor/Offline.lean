import ShutterGateway.Proofs.Command.Understanding
import ShutterGateway.Proofs.Processor.Decisions
import ShutterGateway.Proofs.Processor.Notices

/-!
What becomes of a job while there is no connection. Until the first attempt to connect is decided,
jobs wait in the queue for the outcome. From then on a processor that waits for a connection hands
the jobs back at once, in the order of the queue and without sending anything, and it has none left
when it comes to rest. No job is handed back in this way at any other time: those that are in the
queue when a connection is made are carried out on it, after the refresh.
-/

namespace ShutterGateway

/-- A command that has failed since the gateway could not be reached. -/
def Command.Unavailable (command : Command) : Prop :=
  command.error? = some (.connectivity .gatewayUnavailable)

namespace Processor

/-! ## Jobs that are handed back -/

/-- What a caller gets whose command is not carried out since the gateway cannot be reached. -/
def Call.refused (call : Call) : Answer :=
  ⟨call.ticket, some (call.command.fail (.connectivity .gatewayUnavailable))⟩

/-- A processor that waits for a connection hands the first job of its queue back. If a caller
waits for it, the caller gets the command, which has failed unless it was over before. Nothing else
is done. -/
structure Moment.Rejects (moment : Moment) (job : Job) : Prop where
  turn : moment.step = .turn
  running : ¬ moment.before.terminating
  suspended : ∃ outage, Suspended moment.before outage
  front : moment.before.queue = job :: moment.after.queue
  still : moment.after.mode = moment.before.mode
  effects : moment.effects = job.call?.toList.map fun call =>
    .answer call.ticket (call.command.fail (.connectivity .gatewayUnavailable))

section

variable {config : Config} {state : State} {reaction : Reaction} {outage : Outage}

theorem Moment.Rejects.departed_eq {moment : Moment} {job : Job} (h : moment.Rejects job) :
    moment.departed = [job] := by
  refine Processor.departed_eq ?_
  rw [Moment.arrivals, h.turn, List.append_nil, h.front, List.singleton_append]

theorem Moment.Rejects.answered_eq {moment : Moment} {job : Job} (h : moment.Rejects job) :
    moment.answered = job.call?.toList.map Call.refused := by
  rw [Moment.answered, h.turn, h.effects]
  cases job.call? <;> rfl

theorem rejects_finish {job : Job} {rest : List Job} (fit : state.Fit)
    (running : ¬ state.terminating) (suspended : Suspended state outage)
    (queue : state.queue = job :: rest)
    (finished : reaction
      = State.finish (job.command.fail (.connectivity .gatewayUnavailable)) job.origin
        { state with queue := rest }) :
    Moment.Rejects ⟨state, .turn, reaction.2, reaction.1⟩ job := by
  subst finished
  refine ⟨rfl, running, ⟨outage, suspended⟩, ?_, mode_learn _ _, ?_⟩
  · rw [queue_finish]
    exact queue
  · exact effects_fail _ (fit.front queue).1.pending state

/-- Without a connection and with the end not asked for, jobs leave the queue and commands come back
in one way only. -/
theorem keeps_or_rejects_turn (fit : state.Fit) (offline : state.mode.outage?.isSome)
    (running : ¬ state.terminating) (h : Turns config state reaction) :
    (reaction.1.queue = state.queue ∧ answers reaction.2 = [])
      ∨ ∃ job, Moment.Rejects ⟨state, .turn, reaction.2, reaction.1⟩ job ∧ state.Knows := by
  have busy {link : Link} {refresh : List Request} {activity : Activity}
      (mode : state.mode = .online link refresh activity) : False := by
    rw [mode] at offline
    cases offline
  cases h with
  | stop free terminating => exact absurd terminating running
  | connect | logIn | keepLoggingIn => exact .inl ⟨rfl, rfl⟩
  | reject running suspended hopeless queue =>
    obtain ⟨stage, mode⟩ := suspended.offline
    exact .inr ⟨_, rejects_finish fit running suspended queue rfl,
      (knows_of_offline mode).mpr hopeless⟩
  | @failAttempt outage error =>
    have withdraws := withdraws_failAttempt config outage error state
    exact .inl ⟨withdraws.queue, withdraws.answers⟩
  | goOnline =>
    refine .inl ⟨queue_proceed _ _ _, ?_⟩
    exact answers_proceed config _ _ _ (sendable_refreshRequests config _)
  | unsolicited running mode | loseLink running mode | launch running mode | ongoing mode
  | unclaimed mode | conclude mode | stopPause mode | resume running mode | keepChecking mode
  | unclaimedByCheck mode | concludeCheck mode => exact (busy mode).elim

/-- A processor that waits for a connection looks at nothing but its queue. -/
theorem turn?_of_suspended (running : ¬ state.terminating) (suspended : Suspended state outage) :
    state.turn? config = state.rejectNext? outage := by
  cases suspended with
  | waiting mode early => simp [State.turn?, State.turnOffline?, mode, running, early]
  | connecting mode early => simp [State.turn?, State.turnOffline?, mode, running, early]
  | loggingIn mode silent alive early =>
    simp [State.turn?, State.turnOffline?, mode, running, silent, alive, early]

end

/-! ## Commands that come back as unavailable -/

/-- A caller whose command comes back as unavailable has submitted it so. -/
def Spares (calls : List Call) (effects : List Effect) : Prop :=
  ∀ answer ∈ answers effects, ∀ command, answer.command? = some command → command.Unavailable →
    ∃ call ∈ calls, call.ticket = answer.ticket ∧ call.command.Unavailable

section

variable {config : Config} {link left : Link} {refresh : List Request} {state : State}
  {reaction : Reaction} {command : Command}

theorem unavailable_congr {a b : Command} (h : a.status = b.status) :
    a.Unavailable ↔ b.Unavailable := by
  rw [Command.Unavailable, Command.Unavailable, Command.error?, Command.error?, h]

/-- Failing for another reason makes no command unavailable. -/
theorem unavailable_of_fail {error : CommandError} (h : (command.fail error).Unavailable)
    (other : error ≠ .connectivity .gatewayUnavailable) : command.Unavailable := by
  by_cases settled : command.isTerminal
  · rwa [Command.fail_of_isTerminal settled] at h
  · have pending : command.status = .pending :=
      Decidable.not_not.mp (mt Command.isTerminal_iff.mpr settled)
    rw [Command.Unavailable, error?_fail_of_pending pending] at h
    exact absurd (Option.some.inj h) other

/-- No attempt makes its command unavailable. -/
theorem Attempt.Comes.unavailable {attempt : Attempt} {outcome : Outcome}
    (comes : attempt.Comes config state link (.ended command outcome, left))
    (h : command.Unavailable) : attempt.command.Unavailable := by
  cases comes with
  | terminated | linkLost | timedOut => exact unavailable_of_fail h (by decide)
  | done running arrived accepts =>
    rcases Command.error?_respond_of_accepts accepts h with before | understood
    · exact before
    · cases understood

theorem Spares.of_silent {calls : List Call} {effects : List Effect}
    (silent : answers effects = []) : Spares calls effects := by
  rw [Spares, silent]
  exact List.forall_mem_nil _

theorem Spares.mono {calls more : List Call} {effects : List Effect} (h : Spares calls effects)
    (sub : calls ⊆ more) : Spares more effects := by
  intro answer member command hcommand unavailable
  obtain ⟨call, hcall, same⟩ := h answer member command hcommand unavailable
  exact ⟨call, sub hcall, same⟩

/-- A job is handed back before something else. -/
theorem Spares.finish {job : Job} {next : State → Reaction} {calls : List Call}
    (before : command.Unavailable → job.command.Unavailable)
    (h : Spares calls (next (state.learn command)).2) :
    Spares (job.call?.toList ++ calls) ((state.finish command job.origin).andThen next).2 := by
  obtain ⟨given, origin⟩ := job
  rw [Reaction.andThen, Spares, answers_append, answers_finish]
  cases origin with
  | internal => exact h
  | caller ticket =>
    rw [List.singleton_append, List.forall_mem_cons]
    constructor
    · rintro _ ⟨⟩ unavailable
      exact ⟨⟨ticket, given⟩, List.mem_cons_self, rfl, before unavailable⟩
    · exact h.mono (List.subset_append_right _ _)

theorem spares_drain (jobs : List Job) (state : State) :
    Spares (jobs.filterMap Job.call?) (State.drain jobs state).2 := by
  induction jobs generalizing state with
  | nil => exact .of_silent rfl
  | cons job rest ih =>
    have before (h : (job.command.fail .shutdown).Unavailable) : job.command.Unavailable :=
      unavailable_of_fail h (by decide)
    have spares := Spares.finish before (ih (state.learn (job.command.fail .shutdown)))
    rw [List.filterMap_cons]
    cases hcall : job.call? with
    | none => rwa [hcall] at spares
    | some call => rwa [hcall] at spares

theorem spares_stop (state : State) : Spares state.waiting state.stop.2 := by
  rw [Spares, answers_stop]
  exact spares_drain state.queue _

theorem spares_finish_stop {job : Job} (before : command.Unavailable → job.command.Unavailable) :
    Spares (job.call?.toList ++ state.waiting)
      ((state.finish command job.origin).andThen State.stop).2 := by
  rw [← waiting_learn command]
  exact .finish before (spares_stop _)

theorem spares_launchesAs {job : Job} {retries : Nat}
    (launches : LaunchesAs config link refresh state job retries reaction) :
    Spares job.call?.toList reaction.2 := by
  cases launches with
  | sent taking frame? => exact .of_silent rfl
  | refused refusing =>
    have before (h : ((state.assignSession job.command).1.fail
        (.connectivity .connectionLost)).Unavailable) : job.command.Unavailable :=
      (unavailable_congr (status_assigned state _)).mp (unavailable_of_fail h (by decide))
    rw [← List.append_nil job.call?.toList]
    exact .finish before (.of_silent (withdraws_loseLink config _).answers)

theorem spares_concludeCheck {outcome : Outcome}
    (sendable : ∀ request ∈ refresh, Sendable request.kind) :
    Spares state.waiting (state.concludeCheck config link refresh outcome).2 := by
  cases outcome with
  | done => exact .of_silent (answers_proceed config link refresh _ sendable)
  | terminated => exact spares_stop state
  | linkLost | timedOut => exact .of_silent (withdraws_loseLink config _).answers

theorem spares_conclude {job : Job} {retries : Nat} {outcome : Outcome}
    (sendable : ∀ request ∈ refresh, Sendable request.kind)
    (before : command.Unavailable → job.command.Unavailable)
    (h : Concludes config link refresh job retries command state outcome reaction) :
    Spares (job.call?.toList ++ state.waiting) reaction.2 := by
  cases h with
  | again => exact .of_silent rfl
  | settle =>
    rw [← waiting_learn command]
    exact .finish before (spares_concludeCheck sendable)
  | check => exact .finish before (.of_silent (answers_check config link refresh _))

/-- Unless the processor rejects a job, no command becomes unavailable. -/
theorem rejects_or_spares_turn (fit : state.Fit) (h : Turns config state reaction) :
    (∃ job, Moment.Rejects ⟨state, .turn, reaction.2, reaction.1⟩ job)
      ∨ Spares state.owed reaction.2 := by
  have waiting : state.waiting ⊆ state.owed := List.subset_append_right _ _
  cases h with
  | stop => exact .inr ((spares_stop state).mono waiting)
  | reject running suspended hopeless queue =>
    exact .inl ⟨_, rejects_finish fit running suspended queue rfl⟩
  | connect | logIn | keepLoggingIn | ongoing | keepChecking => exact .inr (.of_silent rfl)
  | failAttempt => exact .inr (.of_silent (withdraws_failAttempt config _ _ state).answers)
  | goOnline =>
    exact .inr (.of_silent (answers_proceed config _ _ _ (sendable_refreshRequests config _)))
  | unsolicited | unclaimed | unclaimedByCheck => exact .inr (.of_silent (answers_unsolicited ..))
  | loseLink => exact .inr (.of_silent (withdraws_loseLink config state).answers)
  | @launch link refresh job rest running mode silent alive queue =>
    have launches := launchesAs_launch config link refresh { state with queue := rest }
      config.transientRetries (State.proceed config link refresh) (fit.front queue).1.sendable
    refine .inr ((spares_launchesAs launches).mono ?_)
    refine List.Subset.trans ?_ waiting
    rw [waiting_of_cons queue]
    exact List.subset_append_left _ _
  | @conclude link left refresh job retries attempt command outcome mode comes =>
    obtain ⟨-, sendable, hjob, -, status⟩ := fit.online mode
    rw [owed_of_online mode]
    have before (h : command.Unavailable) : job.command.Unavailable :=
      (unavailable_congr status).mp (comes.unavailable h)
    exact .inr (spares_conclude sendable before (concludes_conclude ..))
  | stopPause mode =>
    rw [owed_of_online mode]
    exact .inr (spares_finish_stop fun h => unavailable_of_fail h (by decide))
  | @resume link refresh job retries resume running mode due =>
    have fitting : job.Fit := (fit.online mode).2.2
    have launches := launchesAs_launch config link refresh state retries
      (State.proceed config link refresh) fitting.sendable
    rw [owed_of_online mode]
    exact .inr ((spares_launchesAs launches).mono (List.subset_append_left _ _))
  | concludeCheck mode =>
    exact .inr ((spares_concludeCheck (fit.online mode).2.1).mono waiting)

end

/-! ## Moments -/

/-- The job comes from the queue when nothing of the refresh is left to do, and its request is
handed over. -/
structure Moment.Serves (config : Config) (moment : Moment) (job : Job) : Prop where
  refreshed : ∃ link, moment.before.mode = .online link [] .idle
  sent : ∃ attempt frame, moment.after.mode.activity?
      = some (.running job config.transientRetries attempt)
    ∧ attempt.command.request = job.command.request
    ∧ attempt.command.frame? = .ok frame ∧ moment.effects = [.send frame]

section

variable {config : Config} {state : State} {step : Step}

/-- Without a connection and with the end not asked for, what leaves the queue is rejected, and only
what is rejected comes back. -/
theorem keeps_or_rejects (fit : state.Fit) (offline : state.mode.outage?.isSome)
    (running : step = .turn → ¬ state.terminating) :
    ((Moment.of config state step).departed = [] ∧ (Moment.of config state step).answered = [])
      ∨ ∃ job, (Moment.of config state step).Rejects job ∧ state.Knows := by
  cases step with
  | event event => exact .inl ⟨departed_eq (occur_keeps event state).2.1.symm, rfl⟩
  | turn =>
    cases hturn : state.turn? config with
    | none =>
      rw [moment_of_no_turn hturn]
      exact .inl ⟨departed_eq (List.append_nil _), rfl⟩
    | some reaction =>
      rw [moment_of_turn hturn]
      rcases keeps_or_rejects_turn fit offline (running rfl) (turns_of_turn hturn) with
        ⟨queue, silent⟩ | rejects
      · exact .inl ⟨departed_eq ((List.append_nil _).trans queue.symm), silent⟩
      · exact .inr rejects

/-- With the end asked for, the next turn of a processor without a connection is its last. -/
theorem running_of_stays (offline : state.mode.outage?.isSome)
    (stays : (Moment.of config state step).after.mode ≠ .stopped) :
    step = .turn → ¬ state.terminating := by
  rintro rfl terminating
  obtain ⟨outage, stage, mode⟩ : ∃ outage stage, state.mode = .offline outage stage := by
    unfold Mode.outage? at offline
    split at offline
    · exact ⟨_, _, ‹_›⟩
    · cases offline
  have hturn : state.turn? config = some state.stop := by
    rw [State.turn?, mode]
    exact if_pos terminating
  rw [moment_of_turn hturn] at stays
  exact stays (mode_drain state.queue _)

theorem alive_of_offline (offline : state.mode.outage?.isSome) : state.mode ≠ .stopped := by
  intro stopped
  rw [stopped] at offline
  cases offline

/-- Within an outage, callers get what was rejected, in this order. -/
theorem answered_of_departed (fit : state.Fit) (offline : state.mode.outage?.isSome)
    (stays : (Moment.of config state step).after.mode.outage?.isSome) :
    (∀ job ∈ (Moment.of config state step).departed, (Moment.of config state step).Rejects job)
      ∧ (Moment.of config state step).answered
        = ((Moment.of config state step).departed.filterMap Job.call?).map Call.refused := by
  have running := running_of_stays offline (alive_of_offline stays)
  rcases keeps_or_rejects fit offline running with ⟨nobody, silent⟩ | ⟨job, rejects, -⟩
  · rw [nobody, silent]
    exact ⟨List.forall_mem_nil _, rfl⟩
  · rw [rejects.departed_eq, rejects.answered_eq]
    refine ⟨List.forall_mem_singleton.mpr rejects, ?_⟩
    rw [List.filterMap_cons]
    cases job.call? <;> rfl

/-- A job that is launched without losing the connection has its request handed over. -/
theorem sent_of_launchesAs {link : Link} {refresh : List Request} {job : Job} {retries : Nat}
    {reaction : Reaction} (launches : LaunchesAs config link refresh state job retries reaction)
    (stays : reaction.1.mode.activity?.isSome) :
    ∃ attempt frame, reaction.1.mode.activity? = some (.running job retries attempt)
      ∧ attempt.command.request = job.command.request ∧ attempt.command.frame? = .ok frame
      ∧ reaction.2 = [.send frame] := by
  cases launches with
  | @sent frame deadline taking frame? =>
    exact ⟨⟨_, deadline⟩, frame, rfl, request_assigned state _, frame?, rfl⟩
  | refused refusing =>
    have kept := Option.isSome_iff_ne_none.mp stays
    exact (kept (withdraws_loseLink config _).activity?_eq_none).elim

/-- On a connection that is kept, what leaves the queue is carried out, after the refresh. -/
theorem serves_of_departed (fit : state.Fit) {phase : Phase} (stands : Stands state.mode phase)
    (online : state.mode.activity?.isSome)
    (stays : (Moment.of config state step).after.mode.activity?.isSome) {job : Job}
    (departs : job ∈ (Moment.of config state step).departed) :
    (Moment.of config state step).Serves config job := by
  cases step with
  | event event =>
    have nobody : (Moment.of config state (.event event)).departed = [] :=
      departed_eq (occur_keeps event state).2.1.symm
    rw [nobody] at departs
    cases departs
  | turn =>
    obtain ⟨queue, how⟩ := queue_moment config state .turn
    have queue := (List.append_nil state.queue).symm.trans queue
    generalize (Moment.of config state .turn).departed = jobs at departs queue how
    cases how with
    | nobody => cases departs
    | @run link refresh first rest idle launched =>
      obtain rfl := List.mem_singleton.mp departs
      have launches := launchesAs_launch config link refresh { state with queue := rest }
        config.transientRetries (State.proceed config link refresh) (fit.front queue).1.sendable
      rw [← launched] at launches
      refine ⟨⟨link, ?_⟩, sent_of_launchesAs launches stays⟩
      show state.mode = _
      rw [idle] at stands ⊢
      cases stands <;> rfl
    | rejected offline =>
      have none : state.mode.activity? = none := congrArg Mode.activity? offline
      rw [none] at online
      cases online
    | drained same stopped =>
      have mode : (Moment.of config state .turn).after.mode = .stopped :=
        (congrArg (fun reaction : Reaction => reaction.1.mode) stopped).trans (mode_drain _ _)
      rw [mode] at stays
      cases stays

/-- A step that takes a connection into use leaves the queue as it is. -/
theorem queue_of_connected (fit : state.Fit) (offline : state.mode.outage?.isSome)
    (online : (Moment.of config state step).after.mode.activity?.isSome) :
    (Moment.of config state step).after.queue
      = state.queue ++ (Moment.of config state step).arrivals := by
  have stays : (Moment.of config state step).after.mode ≠ .stopped := by
    intro stopped
    rw [stopped] at online
    cases online
  rcases keeps_or_rejects fit offline (running_of_stays offline stays) with
    ⟨nobody, -⟩ | ⟨job, rejects, -⟩
  · rw [(queue_moment config state step).1, nobody, List.nil_append]
  · -- A processor that rejects a job is without a connection afterwards.
    obtain ⟨outage, suspended⟩ := rejects.suspended
    obtain ⟨stage, mode⟩ := suspended.offline
    rw [rejects.still, mode] at online
    cases online

/-- A command comes back as unavailable only if its job is rejected, or if it was submitted so. -/
theorem spares_moment (fit : state.Fit) :
    ∀ answer ∈ (Moment.of config state step).answered, ∀ command,
      answer.command? = some command → command.Unavailable →
      (∃ job, (Moment.of config state step).Rejects job)
        ∨ ∃ call ∈ state.owed, call.ticket = answer.ticket ∧ call.command.Unavailable := by
  intro answer member command hcommand unavailable
  cases step with
  | event event => cases member
  | turn =>
    cases hturn : state.turn? config with
    | none =>
      rw [moment_of_no_turn hturn] at member
      cases member
    | some reaction =>
      rw [moment_of_turn hturn] at member ⊢
      rcases rejects_or_spares_turn fit (turns_of_turn hturn) with rejects | spares
      · exact .inl rejects
      · exact .inr (spares answer member command hcommand unavailable)

/-! ## At rest -/

theorem offline_of_suspended {outage : Outage} (suspended : Suspended state outage) :
    state.mode.outage?.isSome := by
  obtain ⟨stage, mode⟩ := suspended.offline
  rw [mode]
  rfl

/-- A processor that waits for a connection, and knows that jobs are not to wait for it, rejects the
first job of its queue before it comes to rest. -/
theorem rejects_of_suspended {outage : Outage} {job : Job} {rest : List Job} (fit : state.Fit)
    (running : ¬ state.terminating) (suspended : Suspended state outage) (knows : state.Knows)
    (queue : state.queue = job :: rest) : (Moment.of config state .turn).Rejects job := by
  obtain ⟨stage, mode⟩ := suspended.offline
  have hopeless := (knows_of_offline mode).mp knows
  have hturn : state.turn? config
      = some (State.finish (job.command.fail (.connectivity .gatewayUnavailable)) job.origin
        { state with queue := rest }) := by
    rw [turn?_of_suspended running suspended, State.rejectNext?, if_pos hopeless, queue]
  rw [moment_of_turn hturn]
  exact rejects_finish fit running suspended queue rfl

theorem queue_eq_nil_of_suspended {outage : Outage} (suspended : Suspended state outage)
    (knows : state.Knows) (rests : state.turn? config = none) : state.queue = [] := by
  obtain ⟨stage, mode⟩ := suspended.offline
  have running : ¬ state.terminating := by
    intro terminating
    rw [State.turn?, mode] at rests
    simp [terminating] at rests
  rw [turn?_of_suspended running suspended, State.rejectNext?,
    if_pos ((knows_of_offline mode).mp knows)] at rests
  cases queue : state.queue with
  | nil => rfl
  | cons job rest =>
    rw [queue] at rests
    cases rests

/-- On a connection with nothing to do at all, no job is left. -/
theorem queue_eq_nil_of_idle (idle : state.mode.activity? = some .idle)
    (rests : state.turn? config = none) : state.queue = [] := by
  obtain ⟨link, refresh, mode⟩ := exists_online_of_activity idle
  cases queue : state.queue with
  | nil => rfl
  | cons job rest =>
    -- The end, a frame, the loss of the connection and the job would each be something to do.
    simp only [State.turn?, State.turnOnline?, State.turnIdle?, mode, queue] at rests
    split at rests
    · cases rests
    · split at rests
      · cases rests
      · split at rests <;> cases rests

/-- Jobs leave the queue in the order in which they are in it or come into it. -/
theorem queue_run (config : Config) (steps : List Step) (state : State) :
    state.queue ++ (moments config steps state).flatMap Moment.arrivals
      = (moments config steps state).flatMap Moment.departed
        ++ (run config steps state).1.queue := by
  have account := @run_discharges config _ _ (fun _ => True) Eq State.queue Moment.arrivals
    Moment.departed (fun _ _ _ => trivial)
    (fun state step _ => Discharges.eq_iff.mpr (queue_moment config state step).1) steps state
    trivial
  exact Discharges.eq_iff.mp account

/-- Over a time within an outage, everything that leaves the queue is rejected, and callers get
that and nothing else. -/
theorem answered_of_outage (fit : state.Fit) (offline : state.mode.outage?.isSome)
    {steps : List Step}
    (stays : ∀ moment ∈ moments config steps state, moment.after.mode.outage?.isSome) :
    (∀ moment ∈ moments config steps state, ∀ job ∈ moment.departed, moment.Rejects job)
      ∧ (moments config steps state).flatMap Moment.answered
        = (((moments config steps state).flatMap Moment.departed).filterMap Job.call?).map
          Call.refused := by
  have within := (@moments_within config (fun state => state.mode.outage?.isSome) steps state
    offline stays).1
  have each : ∀ moment ∈ moments config steps state,
      (∀ job ∈ moment.departed, moment.Rejects job)
        ∧ moment.answered = (moment.departed.filterMap Job.call?).map Call.refused := by
    intro moment member
    obtain ⟨fit', hof⟩ := (run_keeps (fit_moment config) steps fit).1 moment member
    rw [hof]
    exact answered_of_departed fit' (within moment member) (hof ▸ stays moment member)
  refine ⟨fun moment member => (each moment member).1, ?_⟩
  rw [List.filterMap_flatMap, List.map_flatMap]
  exact List.flatMap_congr fun moment member => (each moment member).2

/-- Over a time on a connection, everything that leaves the queue is carried out. -/
theorem serves_of_connection (fit : state.Fit) {phase : Phase} (stands : Stands state.mode phase)
    (online : state.mode.activity?.isSome) {steps : List Step}
    (stays : ∀ moment ∈ moments config steps state, moment.after.mode.activity?.isSome) :
    ∀ moment ∈ moments config steps state, ∀ job ∈ moment.departed,
      moment.Serves config job := by
  have within := (@moments_within config (fun state => state.mode.activity?.isSome) steps state
    online stays).1
  have keeps (state : State) (step : Step) (h : state.Fit ∧ ∃ phase, Stands state.mode phase) :
      (Moment.of config state step).after.Fit
        ∧ ∃ phase, Stands (Moment.of config state step).after.mode phase := by
    obtain ⟨fit, phase, stands⟩ := h
    obtain ⟨phase', -, stands'⟩ := stands_moment config step fit stands
    exact ⟨fit_moment config state step fit, phase', stands'⟩
  intro moment member job departs
  obtain ⟨⟨fit', phase', stands'⟩, hof⟩ :=
    (run_keeps keeps steps ⟨fit, phase, stands⟩).1 moment member
  rw [hof] at departs ⊢
  exact serves_of_departed fit' stands' (within moment member) (hof ▸ stays moment member) departs

end

/-- **While the gateway cannot be reached, commands fail at once, and only then.** Whatever happens
to a processor and in whatever order, after any steps:

* Once an attempt to connect has been decided, a processor that waits for a connection, whether the
  next attempt is put off, a connection is being made or the password has been sent, rejects the
  first job of its queue in its next turn, and it does not come to rest before its queue is empty.
* A job is rejected only once an attempt has been decided. Until then jobs stay in the queue, and
  they do so in the step that takes a connection into use. A command comes back as unavailable only
  if its job is rejected, or if it was submitted so.
* From here on, jobs leave the queue in the order in which they are in it or come into it. Within an
  outage all of them are rejected and nothing else is handed back, so that callers get their
  commands back in this order; at rest all have come back. On a connection that is kept, each of
  them is carried out after the refresh, and when nothing is left to do, all of them have been.
* A pending command comes back with a failure that says that the gateway is unavailable, and one
  that was over comes back as it is. -/
theorem unreachable_gateway_fails_jobs_at_once (config : Config) (epoch : UnixTime)
    (steps : List Step) :
    let past := history config epoch steps
    let state := reached config epoch steps
    (∀ outage, Suspended state outage → Decided past →
      (state.turn? config = none → state.queue = [])
        ∧ (¬ state.terminating → ∀ job rest, state.queue = job :: rest →
          (Moment.of config state .turn).Rejects job))
    ∧ (∀ step, let next := Moment.of config state step
      (∀ job, next.Rejects job → Decided past)
        ∧ (state.mode.outage?.isSome → (step = .turn → ¬ state.terminating) →
          ∀ job ∈ next.departed, next.Rejects job)
        ∧ (state.mode.outage?.isSome → next.after.mode.activity?.isSome →
          next.after.queue = state.queue ++ next.arrivals)
        ∧ ∀ answer ∈ next.answered, ∀ command, answer.command? = some command →
          command.Unavailable → (∃ job, next.Rejects job)
            ∨ ∃ call ∈ state.owed, call.ticket = answer.ticket ∧ call.command.Unavailable)
    ∧ (∀ meanwhile,
      let between := moments config meanwhile state
      let now := (run config meanwhile state).1
      state.queue ++ between.flatMap Moment.arrivals
          = between.flatMap Moment.departed ++ now.queue
        ∧ (state.mode.outage?.isSome →
          (∀ moment ∈ between, moment.after.mode.outage?.isSome) →
          (∀ moment ∈ between, ∀ job ∈ moment.departed, moment.Rejects job)
            ∧ between.flatMap Moment.answered
              = ((between.flatMap Moment.departed).filterMap Job.call?).map Call.refused
            ∧ ∀ outage, Suspended now outage → Decided (past ++ between) →
              now.turn? config = none →
              between.flatMap Moment.departed
                = state.queue ++ between.flatMap Moment.arrivals)
        ∧ (state.mode.activity?.isSome →
          (∀ moment ∈ between, moment.after.mode.activity?.isSome) →
          (∀ moment ∈ between, ∀ job ∈ moment.departed, moment.Serves config job)
            ∧ (now.mode.activity? = some .idle → now.turn? config = none →
              between.flatMap Moment.departed
                = state.queue ++ between.flatMap Moment.arrivals)))
    ∧ ConnectivityFault.gatewayUnavailable.message = "gateway unavailable"
    ∧ ∀ command : Command,
      let failed := command.fail (.connectivity .gatewayUnavailable)
      (command.status = .pending → failed.Unavailable)
        ∧ (command.status ≠ .pending → failed = command) := by
  intro past state
  have fit : state.Fit := fit_reached config epoch steps
  have knows : state.mode.outage?.isSome → (state.Knows ↔ Decided past) :=
    fun offline => knows_reached config epoch steps (alive_of_offline offline)
  refine ⟨?_, ?_, ?_, rfl, ?_⟩
  · intro outage suspended decided
    have known : state.Knows := (knows (offline_of_suspended suspended)).mpr decided
    refine ⟨queue_eq_nil_of_suspended suspended known, ?_⟩
    intro running job rest queue
    exact rejects_of_suspended fit running suspended known queue
  · intro step next
    refine ⟨?_, ?_, ?_, spares_moment fit⟩
    · intro job rejects
      obtain ⟨outage, suspended⟩ := rejects.suspended
      have offline : state.mode.outage?.isSome := offline_of_suspended suspended
      have running : step = .turn → ¬ state.terminating := fun _ => rejects.running
      rcases keeps_or_rejects fit offline running with ⟨nobody, -⟩ | ⟨-, -, known⟩
      · cases nobody.symm.trans rejects.departed_eq
      · exact (knows offline).mp known
    · intro offline running job departs
      rcases keeps_or_rejects fit offline running with ⟨nobody, -⟩ | ⟨other, rejects, -⟩
      · rw [nobody] at departs
        cases departs
      · rw [rejects.departed_eq] at departs
        exact List.mem_singleton.mp departs ▸ rejects
    · exact queue_of_connected fit
  · intro meanwhile between now
    have account : state.queue ++ between.flatMap Moment.arrivals
        = between.flatMap Moment.departed ++ now.queue := queue_run config meanwhile state
    -- When the queue is empty, all that was in it has left it.
    have all (empty : now.queue = []) : between.flatMap Moment.departed
        = state.queue ++ between.flatMap Moment.arrivals := by
      rw [account, empty, List.append_nil]
    refine ⟨account, ?_, ?_⟩
    · intro offline stays
      obtain ⟨rejected, answered⟩ := answered_of_outage fit offline stays
      refine ⟨rejected, answered, ?_⟩
      intro outage suspended decided rests
      refine all (queue_eq_nil_of_suspended suspended ?_ rests)
      have alive := alive_of_offline (offline_of_suspended suspended)
      have known := knows_reached config epoch (steps ++ meanwhile)
      rw [reached, history, state_run_append, moments_append] at known
      exact (known alive).mpr decided
    · intro online stays
      obtain ⟨phase, -, stands⟩ := stands_reached config epoch steps
      exact ⟨serves_of_connection fit stands online stays,
        fun idle rests => all (queue_eq_nil_of_idle idle rests)⟩
  · intro command failed
    refine ⟨fun pending => error?_fail_of_pending pending _, ?_⟩
    intro settled
    exact Command.fail_of_isTerminal (Command.isTerminal_iff.mpr settled) _

/-- A job that was submitted before the first attempt had failed is rejected when it has. -/
example :
    let config : Config := { hostname := "gateway", password := "secret" }
    let ping : Command := { request := .ping }
    let before : List Step := [.event (.submit 1 ping), .turn]
    let after : List Step := [.event (.connected false), .turn, .turn]
    (history config 0 before).flatMap Moment.answered = []
      ∧ (history config 0 (before ++ after)).flatMap Moment.answered
        = [Call.refused ⟨1, ping⟩] := by
  decide +kernel

end Processor

end ShutterGateway
