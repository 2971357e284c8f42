import ShutterGateway.Proofs.Processor.Settlement

/-!
The order in which a processor serves. Over every run, whatever happens in whatever order: a frame
is handed over only when every request before it has had its end, jobs leave the queue in the order
in which they came, and callers get their commands back in the order in which they submitted them.
-/

namespace ShutterGateway.Processor

/-! ## What a moment shows -/

/-- The job that something puts into the queue: a command that a caller submits before the end,
unless the processor answers it at once, or a job that recurs while there is a connection. -/
def Event.job? (state : State) : Event → Option Job
  | .submit ticket command =>
    if command.kind = .terminate ∨ command.kind = .login ∨ state.mode = .stopped then none
    else some ⟨command, .caller ticket⟩
  | .recur periodic => if state.mode.activity?.isSome then some periodic.job else none
  | _ => none

namespace Moment

/-- The requests that are handed over. -/
def requests (moment : Moment) : List Frame :=
  Processor.requests moment.before moment.effects

/-- The command of the attempt that ends, if one does. -/
def ended (config : Config) (moment : Moment) : List Command :=
  match moment.step with
  | .turn => (moment.before.ended? config).toList
  | .event _ => []

/-- The job that comes into the queue, if one does. -/
def arrivals (moment : Moment) : List Job :=
  match moment.step with
  | .turn => []
  | .event event => (event.job? moment.before).toList

/-- The jobs that leave the queue: those before the ones that are still in it. -/
def departed (moment : Moment) : List Job :=
  let jobs := moment.before.queue ++ moment.arrivals
  jobs.take (jobs.length - moment.after.queue.length)

/-- What callers get by a turn of the processor. -/
def answered (moment : Moment) : List Answer :=
  match moment.step with
  | .turn => answers moment.effects
  | .event _ => []

end Moment

/-- How jobs leave the queue. -/
inductive Departs (config : Config) (state : State) (reaction : Reaction) : List Job → Prop where
  | nobody : Departs config state reaction []
  /-- The first job is carried out, for no other is. -/
  | run {link : Link} {refresh : List Request} {job : Job} {rest : List Job}
    (idle : state.mode = .online link refresh .idle)
    (launched : reaction
      = State.launch config link refresh job config.transientRetries
        (State.proceed config link refresh) { state with queue := rest }) :
    Departs config state reaction [job]
  /-- The first job is rejected, for there is no connection. -/
  | rejected {outage : Outage} {stage : Stage} {job : Job} {rest : List Job}
    (offline : state.mode = .offline outage stage)
    (finished : reaction
      = State.finish (job.command.fail (.connectivity .gatewayUnavailable)) job.origin
        { state with queue := rest }) :
    Departs config state reaction [job]
  /-- The processor stops, and all jobs fail. -/
  | drained {first : Reaction} (same : first.1.queue = state.queue)
    (stopped : reaction = first.andThen State.stop) : Departs config state reaction state.queue

/-! ## Events -/

section

variable {config : Config}

theorem activity?_mapLink (change : Link → Link) (mode : Mode) :
    (mode.mapLink change).activity? = mode.activity? := by
  unfold Mode.mapLink
  split <;> rfl

theorem occur_submit (ticket : Nat) (command : Command) (state : State) :
    (state.submit ticket command).1.mode = state.mode
      ∧ (state.submit ticket command).1.queue
        = state.queue ++ (Event.job? state (.submit ticket command)).toList
      ∧ sent (state.submit ticket command).2 = [] := by
  rw [Event.job?]
  unfold State.submit
  split
  · rename_i hkind
    rw [if_pos (.inl hkind)]
    exact ⟨rfl, (List.append_nil _).symm, rfl⟩
  · rename_i hkind
    rw [if_pos (.inr (.inl hkind))]
    exact ⟨rfl, (List.append_nil _).symm, rfl⟩
  · rename_i hterminate hlogin
    split
    · rename_i hstopped
      rw [if_pos (.inr (.inr hstopped))]
      exact ⟨rfl, (List.append_nil _).symm, rfl⟩
    · rename_i hrunning
      rw [if_neg]
      · exact ⟨rfl, rfl, rfl⟩
      · rintro (hkind | hkind | hmode)
        · exact hterminate hkind
        · exact hlogin hkind
        · exact hrunning hmode

/-- What happens around a processor puts a job into the queue at most, and hands nothing over. -/
theorem occur_keeps (event : Event) (state : State) :
    (state.occur event).1.mode.activity? = state.mode.activity?
      ∧ (state.occur event).1.queue = state.queue ++ (event.job? state).toList
      ∧ sent (state.occur event).2 = [] := by
  cases event with
  | submit ticket command =>
    obtain ⟨hmode, hqueue, hsent⟩ := occur_submit ticket command state
    exact ⟨congrArg Mode.activity? hmode, hqueue, hsent⟩
  | recur periodic =>
    cases hmode : state.mode <;>
      simp [State.occur, Event.job?, State.silently, Mode.activity?, hmode]
  | connected success =>
    rw [State.occur]
    split
    · rename_i hmode
      rw [hmode]
      exact ⟨rfl, (List.append_nil _).symm, rfl⟩
    · exact ⟨rfl, (List.append_nil _).symm, rfl⟩
  | arrive frame => exact ⟨activity?_mapLink .., (List.append_nil _).symm, rfl⟩
  | dry error => exact ⟨activity?_mapLink .., (List.append_nil _).symm, rfl⟩
  | choke => exact ⟨activity?_mapLink .., (List.append_nil _).symm, rfl⟩
  | elapse instant => exact ⟨rfl, (List.append_nil _).symm, rfl⟩
  | terminate => exact ⟨rfl, (List.append_nil _).symm, rfl⟩

theorem mapLink_eq_stopped {change : Link → Link} {mode : Mode}
    (h : mode.mapLink change = .stopped) : mode = .stopped := by
  unfold Mode.mapLink at h
  split at h
  · cases h
  · cases h
  · exact h

/-- Nothing that happens stops a processor, and nothing comes into the queue of a stopped one. -/
theorem occur_stopped {event : Event} {state : State}
    (h : (state.occur event).1.mode = .stopped) :
    state.mode = .stopped ∧ event.job? state = none := by
  cases event with
  | submit ticket command =>
    have hmode : state.mode = .stopped := (occur_submit ticket command state).1.symm.trans h
    rw [Event.job?, if_pos (.inr (.inr hmode))]
    exact ⟨hmode, rfl⟩
  | recur periodic =>
    have hmode : state.mode = .stopped := by
      rw [State.occur] at h
      split at h
      · exact h
      · exact h
    rw [Event.job?, hmode]
    exact ⟨rfl, rfl⟩
  | connected success =>
    rw [State.occur] at h
    split at h
    · cases h
    · exact ⟨h, rfl⟩
  | arrive frame => exact ⟨mapLink_eq_stopped h, rfl⟩
  | dry error => exact ⟨mapLink_eq_stopped h, rfl⟩
  | choke => exact ⟨mapLink_eq_stopped h, rfl⟩
  | elapse instant => exact ⟨h, rfl⟩
  | terminate => exact ⟨h, rfl⟩

/-! ## The queue -/

theorem queue_finish (command : Command) (origin : Origin) (state : State) :
    (state.finish command origin).1.queue = state.queue :=
  queue_learn command state

theorem queue_launch (link : Link) (refresh : List Request) (job : Job) (retries : Nat)
    {next : State → Reaction} (hnext : ∀ later, (next later).1.queue = later.queue)
    (state : State) :
    (state.launch config link refresh job retries next).1.queue = state.queue := by
  obtain ⟨assigned, later, -, hlater, hbegin⟩ := begin_cases config link job.command state
  have hqueue : later.queue = state.queue := by rw [hlater]
  unfold State.launch
  rcases hbegin with ⟨error, hbegin⟩ | ⟨-, hbegin⟩ | ⟨frame, deadline, -, hbegin⟩
  · rw [hbegin]
    exact (hnext _).trans ((queue_learn _ later).trans hqueue)
  · rw [hbegin]
    exact (withdraws_loseLink config _).queue.trans ((queue_learn _ later).trans hqueue)
  · rw [hbegin]
    exact hqueue

theorem queue_proceed (link : Link) (refresh : List Request) (state : State) :
    (State.proceed config link refresh state).1.queue = state.queue := by
  induction refresh generalizing state with
  | nil => rfl
  | cons request rest ih => exact queue_launch link rest _ _ ih state

theorem queue_check (link : Link) (refresh : List Request) (state : State) :
    (state.check config link refresh).1.queue = state.queue := by
  obtain ⟨assigned, later, -, hlater, hbegin⟩ := begin_cases config link { request := .ping } state
  have hqueue : later.queue = state.queue := by rw [hlater]
  unfold State.check
  rcases hbegin with ⟨error, hbegin⟩ | ⟨-, hbegin⟩ | ⟨frame, deadline, -, hbegin⟩
  · rw [hbegin]
    exact (queue_proceed link refresh later).trans hqueue
  · rw [hbegin]
    exact (withdraws_loseLink config later).queue.trans hqueue
  · rw [hbegin]
    exact hqueue

/-- Jobs leave the queue from its front. -/
def LeavesFront (config : Config) (state : State) (reaction : Reaction) : Prop :=
  ∃ jobs, state.queue = jobs ++ reaction.1.queue ∧ Departs config state reaction jobs

theorem leavesFront_of_same {state : State} {reaction : Reaction}
    (h : reaction.1.queue = state.queue) : LeavesFront config state reaction :=
  ⟨[], h.symm, .nobody⟩

theorem leavesFront_of_stop {state : State} (first : Reaction) (h : first.1.queue = state.queue) :
    LeavesFront config state (first.andThen State.stop) := by
  have hempty : (first.andThen State.stop).1.queue = [] := queue_drain first.1.queue _
  exact ⟨state.queue, by rw [hempty, List.append_nil], .drained h rfl⟩

/-- What follows a check takes no job out of the queue, unless it is the end. -/
theorem leavesFront_concludeCheck {state : State} {link : Link} {refresh : List Request}
    {outcome : Outcome} (first : Reaction) (h : first.1.queue = state.queue) :
    LeavesFront config state
      (first.andThen (State.concludeCheck config link refresh outcome)) := by
  cases outcome with
  | done => exact leavesFront_of_same ((queue_proceed link refresh _).trans h)
  | terminated => exact leavesFront_of_stop first h
  | linkLost | timedOut => exact leavesFront_of_same ((withdraws_loseLink config _).queue.trans h)

theorem leavesFront_conclude {state : State} {link : Link} {refresh : List Request} {job : Job}
    {retries : Nat} {command : Command} {outcome : Outcome} {reaction : Reaction}
    (h : Concludes config link refresh job retries command state outcome reaction) :
    LeavesFront config state reaction := by
  have learnt : (state.finish command job.origin).1.queue = state.queue := queue_learn command state
  cases h with
  | again => exact leavesFront_of_same rfl
  | settle => exact leavesFront_concludeCheck _ learnt
  | check => exact leavesFront_of_same ((queue_check link refresh _).trans learnt)

/-- In every turn jobs leave the queue from its front, to be carried out, rejected or drained. -/
theorem leavesFront_turn {state : State} {reaction : Reaction} (h : Turns config state reaction) :
    LeavesFront config state reaction := by
  cases h with
  | stop => exact leavesFront_of_stop state.silently rfl
  | connect => exact leavesFront_of_same rfl
  | @reject outage job rest _ suspended _ queue =>
    obtain ⟨stage, mode⟩ := suspended.offline
    refine ⟨[job], ?_, .rejected mode rfl⟩
    rw [queue_finish, queue]
    rfl
  | logIn => exact leavesFront_of_same rfl
  | failAttempt => exact leavesFront_of_same (withdraws_failAttempt config _ _ state).queue
  | keepLoggingIn => exact leavesFront_of_same rfl
  | goOnline => exact leavesFront_of_same (queue_proceed _ _ _)
  | unsolicited => exact leavesFront_of_same (by rw [state_unsolicited])
  | loseLink => exact leavesFront_of_same (withdraws_loseLink config state).queue
  | @launch link refresh job rest _ mode _ _ queue =>
    refine ⟨[job], ?_, .run mode rfl⟩
    rw [queue_launch link refresh job _ (queue_proceed link refresh), queue]
    rfl
  | ongoing => exact leavesFront_of_same rfl
  | unclaimed => exact leavesFront_of_same (by rw [state_unsolicited])
  | conclude => exact leavesFront_conclude (concludes_conclude ..)
  | @stopPause link refresh job =>
    exact leavesFront_of_stop (state.finish _ job.origin) (queue_learn _ state)
  | @resume link refresh job retries =>
    exact leavesFront_of_same
      (queue_launch link refresh job retries (queue_proceed link refresh) state)
  | keepChecking => exact leavesFront_of_same rfl
  | unclaimedByCheck => exact leavesFront_of_same (by rw [state_unsolicited])
  | concludeCheck => exact leavesFront_concludeCheck state.silently rfl

/-! ## Moments -/

variable {state : State}

theorem moment_of_turn {reaction : Reaction} (h : state.turn? config = some reaction) :
    Moment.of config state .turn = ⟨state, .turn, reaction.2, reaction.1⟩ := by
  simp only [Moment.of, Step.take, h, Option.getD_some]

theorem moment_of_no_turn (h : state.turn? config = none) :
    Moment.of config state .turn = ⟨state, .turn, [], state⟩ := by
  simp only [Moment.of, Step.take, h, Option.getD_none]
  rfl

/-- An attempt that is over makes the processor take a turn. -/
theorem ended?_of_no_turn (h : state.turn? config = none) : state.ended? config = none := by
  unfold State.turn? at h
  cases mode : state.mode with
  | stopped => rw [State.ended?, mode]
  | offline outage stage => rw [State.ended?, mode]
  | online link refresh activity =>
    rw [mode] at h
    rw [State.ended?, mode]
    cases activity with
    | idle => rfl
    | pausing job retries resume => rfl
    | running _ _ attempt
    | checking attempt =>
      simp only [State.turnOnline?] at h
      show (attempt.progress config state link).1.ended? = none
      generalize attempt.progress config state link = result at h
      obtain ⟨progress, left⟩ := result
      cases progress with
      | waiting => rfl
      | ongoing later => rfl
      | unclaimed frame => rfl
      | ended command outcome => cases h

variable (config)

theorem sound_moment (state : State) (step : Step) (sound : state.Sound) :
    (Moment.of config state step).after.Sound := by
  cases step with
  | event event =>
    constructor
    · intro activity hactivity
      exact sound.activity activity ((occur_keeps event state).1 ▸ hactivity)
    · intro stopped
      obtain ⟨hmode, hjob⟩ := occur_stopped stopped
      show (state.occur event).1.queue = []
      rw [(occur_keeps event state).2.1, sound.stopped hmode, hjob]
      rfl
  | turn =>
    cases h : state.turn? config with
    | none =>
      rw [moment_of_no_turn h]
      exact sound
    | some reaction =>
      rw [moment_of_turn h]
      exact (settles_turn sound (turns_of_turn h)).sound

/-- The account of the request that is out, over one step. -/
theorem flight_moment (state : State) (step : Step) (sound : state.Sound) :
    Discharges EndsAs (state.flight ++ (Moment.of config state step).requests.map .ok)
      ((Moment.of config state step).ended config) (Moment.of config state step).after.flight := by
  cases step with
  | event event =>
    obtain ⟨hactivity, -, hsent⟩ := occur_keeps event state
    have hrequests : (Moment.of config state (.event event)).requests = [] :=
      (requests_of_sent hsent).trans hsent
    have hflight : (Moment.of config state (.event event)).after.flight = state.flight := by
      show (state.occur event).1.flight = state.flight
      rw [State.flight, hactivity]
      rfl
    rw [hrequests, hflight, List.map_nil, List.append_nil]
    exact .refl _
  | turn =>
    cases h : state.turn? config with
    | none =>
      rw [moment_of_no_turn h]
      show Discharges EndsAs (state.flight ++ (requests state []).map .ok)
        (state.ended? config).toList state.flight
      rw [requests_of_sent rfl, ended?_of_no_turn h]
      show Discharges EndsAs (state.flight ++ []) [] state.flight
      rw [List.append_nil]
      exact .refl _
    | some reaction =>
      rw [moment_of_turn h]
      exact (settles_turn sound (turns_of_turn h)).flight

/-- The account of the callers who wait, over one step. -/
theorem owed_moment (state : State) (step : Step) (sound : state.Sound) :
    Discharges Call.Returns
      (state.owed ++ (Moment.of config state step).arrivals.filterMap Job.call?)
      (Moment.of config state step).answered (Moment.of config state step).after.owed := by
  cases step with
  | event event =>
    obtain ⟨hactivity, hqueue, -⟩ := occur_keeps event state
    have howed : (Moment.of config state (.event event)).after.owed
        = state.owed ++ (event.job? state).toList.filterMap Job.call? := by
      show (state.occur event).1.owed = _
      rw [State.owed, hactivity, State.waiting, hqueue, List.filterMap_append, State.owed,
        List.append_assoc]
      rfl
    rw [howed]
    exact .refl _
  | turn =>
    show Discharges Call.Returns (state.owed ++ []) _ _
    rw [List.append_nil]
    cases h : state.turn? config with
    | none =>
      rw [moment_of_no_turn h]
      exact .refl _
    | some reaction =>
      rw [moment_of_turn h]
      exact (settles_turn sound (turns_of_turn h)).answers

theorem length_flight_le (state : State) : state.flight.length ≤ 1 := by
  unfold State.flight
  cases (state.mode.activity?.bind Activity.attempt?) with
  | none => exact Nat.zero_le 1
  | some attempt => exact Nat.le_refl 1

/-- Only an attempt whose request is out can end. -/
theorem length_ended_le (state : State) (step : Step) :
    ((Moment.of config state step).ended config).length ≤ state.flight.length := by
  cases step with
  | event event => exact Nat.zero_le _
  | turn =>
    show (state.ended? config).toList.length ≤ _
    cases mode : state.mode with
    | stopped =>
      rw [State.ended?, mode]
      exact Nat.zero_le _
    | offline outage stage =>
      rw [State.ended?, mode]
      exact Nat.zero_le _
    | online link refresh activity =>
      rw [State.ended?, mode, flight_of_online mode]
      show (activity.attempt?.bind _).toList.length ≤ _
      cases activity.attempt? with
      | none => exact Nat.le_refl 0
      | some attempt =>
        rw [Option.bind_some]
        cases (attempt.progress config state link).1.ended? with
        | none => exact Nat.zero_le 1
        | some command => exact Nat.le_refl 1

theorem length_flight_moment (state : State) (step : Step) (sound : state.Sound) :
    state.flight.length + (Moment.of config state step).requests.length
      = ((Moment.of config state step).ended config).length
        + (Moment.of config state step).after.flight.length := by
  have hlength := (flight_moment config state step sound).length_eq
  rwa [List.length_append, List.length_map] at hlength

theorem length_requests_le (state : State) (step : Step) (sound : state.Sound) :
    (Moment.of config state step).requests.length ≤ 1 := by
  have hlength := length_flight_moment config state step sound
  have hended := length_ended_le config state step
  have hflight := length_flight_le (Moment.of config state step).after
  omega

/-- A frame goes out only when the attempt whose request was out has its end. -/
theorem ends_before_sent {state : State} {step : Step} (sound : state.Sound)
    (h : sent (Moment.of config state step).effects ≠ []) :
    List.Forall₂ EndsAs state.flight ((Moment.of config state step).ended config) := by
  have hlength := length_flight_moment config state step sound
  have hended := length_ended_le config state step
  have hafter := length_flight_le (Moment.of config state step).after
  have hall : ((Moment.of config state step).ended config).length = state.flight.length := by
    by_cases hrequests : (Moment.of config state step).requests = []
    · -- Only the login goes out without being a request, and nothing is out before it.
      have hempty : state.flight = [] := by
        unfold Moment.requests requests at hrequests
        split at hrequests
        · rename_i mode
          exact (owed_of_offline config mode).1
        · exact absurd hrequests h
      rw [hempty] at hended ⊢
      exact Nat.le_antisymm hended (Nat.zero_le _)
    · have hpos := List.length_pos_iff.mpr hrequests
      omega
  -- As many attempts end as were out, so that those which end are those which were out.
  obtain ⟨settled, heq, hsettled⟩ := flight_moment config state step sound
  have hsame := List.append_inj heq (hall.symm.trans hsettled.length_eq.symm)
  rw [hsame.1]
  exact hsettled

theorem departed_eq {moment : Moment} {jobs : List Job}
    (h : moment.before.queue ++ moment.arrivals = jobs ++ moment.after.queue) :
    moment.departed = jobs := by
  unfold Moment.departed
  simp only [h, List.length_append, Nat.add_sub_cancel]
  exact List.take_left

/-- The account of the queue, over one step. -/
theorem queue_moment (state : State) (step : Step) :
    state.queue ++ (Moment.of config state step).arrivals
        = (Moment.of config state step).departed ++ (Moment.of config state step).after.queue
      ∧ Departs config state
        ((Moment.of config state step).after, (Moment.of config state step).effects)
        (Moment.of config state step).departed := by
  obtain ⟨jobs, hqueue, hdeparts⟩ : ∃ jobs,
      state.queue ++ (Moment.of config state step).arrivals
          = jobs ++ (Moment.of config state step).after.queue
        ∧ Departs config state
          ((Moment.of config state step).after, (Moment.of config state step).effects) jobs := by
    cases step with
    | event event => exact ⟨[], (occur_keeps event state).2.1.symm, .nobody⟩
    | turn =>
      cases h : state.turn? config with
      | none =>
        rw [moment_of_no_turn h]
        exact ⟨[], List.append_nil _, .nobody⟩
      | some reaction =>
        rw [moment_of_turn h]
        obtain ⟨jobs, hqueue, hdeparts⟩ := leavesFront_turn (turns_of_turn h)
        exact ⟨jobs, (List.append_nil _).trans hqueue, hdeparts⟩
  rw [departed_eq hqueue]
  exact ⟨hqueue, hdeparts⟩

/-! ## Runs -/

variable (epoch : UnixTime) (steps : List Step)

/-- A processor starts without a connection and with an empty queue. -/
theorem withdraws_start :
    Withdraws { mode := .stopped, epoch := epoch } (State.start config epoch) :=
  withdraws_establish config _

/-- An account that every step keeps is kept from the start on. -/
theorem history_discharges {α β : Type} {Settles : α → β → Prop} (held : State → List α)
    (gained : Moment → List α) (paid : Moment → List β)
    (account : ∀ state step, state.Sound →
      Discharges Settles (held state ++ gained (.of config state step))
        (paid (.of config state step)) (held (Moment.of config state step).after)) :
    Discharges Settles
      (held (State.start config epoch).1 ++ (history config epoch steps).flatMap gained)
      ((history config epoch steps).flatMap paid) (held (reached config epoch steps)) :=
  run_discharges held gained paid (sound_moment config) account steps
    (withdraws_start config epoch).resumes.sound

theorem sound_reached : (reached config epoch steps).Sound :=
  (run_keeps (sound_moment config) steps (withdraws_start config epoch).resumes.sound).2

/-- Over a run, the attempts whose requests went out end in the order in which they began. -/
theorem requests_discharged :
    Discharges EndsAs (((history config epoch steps).flatMap Moment.requests).map .ok)
      ((history config epoch steps).flatMap (Moment.ended config))
      (reached config epoch steps).flight := by
  have account := history_discharges config epoch steps State.flight
    (fun moment => moment.requests.map .ok) (Moment.ended config) (flight_moment config)
  obtain ⟨outage, stage, mode⟩ := (withdraws_start config epoch).offline
  rw [(owed_of_offline config mode).1, List.nil_append, ← List.map_flatMap] at account
  exact account

/-- Over a run, callers are answered in the order in which their commands came into the queue. -/
theorem calls_discharged :
    Discharges Call.Returns
      (((history config epoch steps).flatMap Moment.arrivals).filterMap Job.call?)
      ((history config epoch steps).flatMap Moment.answered)
      (reached config epoch steps).owed := by
  have account := history_discharges config epoch steps State.owed
    (fun moment => moment.arrivals.filterMap Job.call?) Moment.answered (owed_moment config)
  obtain ⟨outage, stage, mode⟩ := (withdraws_start config epoch).offline
  rw [(owed_of_offline config mode).2.2, State.waiting, (withdraws_start config epoch).queue,
    ← List.filterMap_flatMap] at account
  exact account

/-- Over a run, jobs leave the queue in the order in which they came into it. -/
theorem queue_discharged :
    (history config epoch steps).flatMap Moment.arrivals
      = (history config epoch steps).flatMap Moment.departed
        ++ (reached config epoch steps).queue := by
  have account := history_discharges config epoch steps State.queue Moment.arrivals
    Moment.departed fun state step _ => Discharges.eq_iff.mpr (queue_moment config state step).1
  rw [(withdraws_start config epoch).queue] at account
  exact Discharges.eq_iff.mp account

end

/-- **A processor serves in order.** Whatever happens to it and in whatever order, after any steps:

* The next step hands over one request at most, and if it hands over any frame then every request so
  far belongs to an attempt that is over by then.
* Jobs leave the queue in the order in which they came into it, each once, to be carried out,
  rejected or drained, and a stopped processor has none left.
* The calls that came into the queue are answered in this order, and the others are still owed. -/
theorem serves_in_order (config : Config) (epoch : UnixTime) (steps : List Step) (step : Step) :
    let past := history config epoch steps
    let state := reached config epoch steps
    let next := Moment.of config state step
    (next.requests.length ≤ 1
      ∧ (sent next.effects ≠ [] →
        List.Forall₂ (fun frame command => EndsAs (.ok frame) command)
          (past.flatMap Moment.requests)
          (past.flatMap (Moment.ended config) ++ next.ended config)))
    ∧ (past.flatMap Moment.arrivals = past.flatMap Moment.departed ++ state.queue
      ∧ (∀ moment ∈ past,
        Departs config moment.before (moment.after, moment.effects) moment.departed)
      ∧ (state.mode = .stopped → state.queue = []))
    ∧ Discharges Call.Returns ((past.flatMap Moment.arrivals).filterMap Job.call?)
      (past.flatMap Moment.answered) state.owed := by
  intro past state next
  have sound : state.Sound := sound_reached config epoch steps
  refine ⟨⟨length_requests_le config state step sound, ?_⟩,
    ⟨queue_discharged config epoch steps, ?_, sound.stopped⟩, calls_discharged config epoch steps⟩
  · -- What ended so far and what ends now account for every request there has been.
    intro hsent
    obtain ⟨settled, heq, hsettled⟩ := requests_discharged config epoch steps
    have hlast := ends_before_sent config sound hsent
    rw [← List.forall₂_map_left_iff, heq]
    exact List.rel_append hsettled hlast
  · intro moment member
    have hmoments :=
      run_keeps (sound_moment config) steps (withdraws_start config epoch).resumes.sound
    obtain ⟨-, hof⟩ := hmoments.1 moment member
    rw [hof]
    exact (queue_moment config moment.before moment.step).2

end ShutterGateway.Processor
