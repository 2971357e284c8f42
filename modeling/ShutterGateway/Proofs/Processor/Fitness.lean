import ShutterGateway.Proofs.Command.Operations
import ShutterGateway.Proofs.Processor.Order

/-!
What a processor can rely on. Each of its jobs has a request, and none of them logs in; a job of
its own is fresh, and an attempt stands as its job stood when it began. On a connection the
published state says so, and it tells the end of a processor that has stopped. With that, launching
a job either hands its request over or finds that the connection takes nothing more.
-/

namespace ShutterGateway

/-- The requests that follow every login at some time of the day, in their order. -/
def Config.greeting (config : Config) (time : UnixTime) : List Request :=
  [.getVersion, .getProtocol, .setTime time, .enableMonitor]
    ++ if config.refreshOnConnect then [.getAllNodes] else []

namespace Processor

/-! ## Jobs -/

/-- A request that the processor carries out on a connection: it has a frame, and is no login. -/
structure Sendable (kind : CommandKind) : Prop where
  ne_terminate : kind ≠ .terminate
  ne_login : kind ≠ .login

/-- A job that the processor can have. -/
structure Job.Fit (job : Job) : Prop where
  sendable : Sendable job.command.kind
  /-- Nobody but a caller comes with a command that is over. -/
  fresh : job.origin = .internal → job.command = job.command.pristine

/-- What the processor does, it does for a job that it can have, or to check the connection. -/
def Activity.Fit : Activity → Prop
  | .idle => True
  | .running job _ attempt =>
    job.Fit ∧ attempt.command.request = job.command.request
      ∧ attempt.command.status = job.command.status
  | .pausing job _ _ => job.Fit
  | .checking attempt => attempt.command.request = .ping ∧ attempt.command.status = .pending

/-- What holds where the processor is, under a published state. -/
def Mode.Fit (published : ConnectionState) : Mode → Prop
  | .offline _ _ => True
  | .online _ refresh activity =>
    published = .connected ∧ (∀ request ∈ refresh, Sendable request.kind) ∧ activity.Fit
  | .stopped => published = .disconnected

/-- A state that a processor can be in. -/
structure State.Fit (state : State) : Prop where
  queue : ∀ job ∈ state.queue, job.Fit
  mode : state.mode.Fit state.published

theorem Job.Fit.pending {job : Job} (fit : job.Fit) (internal : job.origin = .internal) :
    job.command.status = .pending := by
  rw [fit.fresh internal]
  rfl

theorem fit_internal {request : Request} (h : Sendable request.kind) :
    Job.Fit ⟨{ request := request }, .internal⟩ :=
  ⟨h, fun _ => rfl⟩

theorem sendable_ping : Sendable (Request.kind .ping) := ⟨nofun, nofun⟩

/-! ## Beginning an attempt -/

section

variable (config : Config) (link : Link) (refresh : List Request) (state : State)

@[simp] theorem request_assigned (command : Command) :
    (state.assignSession command).1.request = command.request := by
  unfold State.assignSession
  split
  · exact Command.request_assignSession ..
  · rfl

@[simp] theorem status_assigned (command : Command) :
    (state.assignSession command).1.status = command.status := by
  unfold State.assignSession
  split
  · exact Command.status_assignSession ..
  · rfl

/-- A session number is taken from the supply, and nothing else changes. -/
theorem state_assigned (command : Command) :
    (state.assignSession command).2
      = { state with sessions := (state.assignSession command).2.sessions } := by
  unfold State.assignSession
  split <;> rfl

@[simp] theorem queue_assigned (command : Command) :
    (state.assignSession command).2.queue = state.queue := by
  rw [state_assigned]

@[simp] theorem published_assigned (command : Command) :
    (state.assignSession command).2.published = state.published := by
  rw [state_assigned]

theorem frame?_assigned {command : Command} (h : Sendable command.kind) :
    ∃ frame, (state.assignSession command).1.frame? = .ok frame := by
  have hkind : (state.assignSession command).1.kind ≠ .terminate := by
    rw [Command.kind, request_assigned]
    exact h.ne_terminate
  obtain ⟨opcode, -, hframe⟩ := Command.frame?_eq_ok hkind
  exact ⟨_, hframe⟩

/-- How an attempt at a command begins that has a request. -/
inductive BeginsAs (command : Command) : Begun × Reaction → Prop where
  | sent {frame : Frame} (taking : ¬ link.refusing)
    (frame? : (state.assignSession command).1.frame? = .ok frame) :
    BeginsAs command
      (.sent ⟨(state.assignSession command).1,
          (state.assignSession command).2.now
            + (config.limit (state.assignSession command).1.descriptor.wait).nanos⟩,
        (state.assignSession command).2, [.send frame])
  | refused (refusing : link.refusing) :
    BeginsAs command
      (.refused ((state.assignSession command).1.fail (.connectivity .connectionLost)),
        (state.assignSession command).2, [])

theorem beginsAs_begin {command : Command} (h : Sendable command.kind) :
    BeginsAs config link state command (state.begin config link command) := by
  obtain ⟨frame, hframe⟩ := frame?_assigned state h
  simp only [State.begin, hframe]
  by_cases hrefusing : link.refusing
  · rw [if_pos hrefusing]
    exact .refused hrefusing
  · rw [if_neg hrefusing]
    exact .sent hrefusing hframe

/-- How a job that the processor can have is launched. -/
inductive LaunchesAs (job : Job) (retries : Nat) : Reaction → Prop where
  | sent {frame : Frame} {deadline : Instant} (taking : ¬ link.refusing)
    (frame? : (state.assignSession job.command).1.frame? = .ok frame) :
    LaunchesAs job retries
      ({ (state.assignSession job.command).2 with
          mode := .online link refresh
            (.running job retries ⟨(state.assignSession job.command).1, deadline⟩) },
        [.send frame])
  | refused (refusing : link.refusing) :
    LaunchesAs job retries
      ((State.finish
          ((state.assignSession job.command).1.fail (.connectivity .connectionLost)) job.origin
          (state.assignSession job.command).2).andThen (State.loseLink config))

theorem launchesAs_launch {job : Job} (retries : Nat) (next : State → Reaction)
    (h : Sendable job.command.kind) :
    LaunchesAs config link refresh state job retries
      (state.launch config link refresh job retries next) := by
  have begins := beginsAs_begin config link state h
  unfold State.launch
  generalize state.begin config link job.command = begun at begins
  cases begins with
  | sent taking frame? => exact .sent taking frame?
  | refused refusing => exact .refused refusing

/-- How a processor on a connection goes on: it has nothing more to do, or the next request of the
refresh is launched. -/
inductive ProceedsAs : List Request → Reaction → Prop where
  | idle : ProceedsAs [] (State.silently { state with mode := .online link [] .idle })
  | launch {request : Request} {rest : List Request} {reaction : Reaction}
    (launches : LaunchesAs config link rest state ⟨{ request := request }, .internal⟩
      config.transientRetries reaction) : ProceedsAs (request :: rest) reaction

theorem proceedsAs_proceed (h : ∀ request ∈ refresh, Sendable request.kind) :
    ProceedsAs config link state refresh (State.proceed config link refresh state) := by
  cases refresh with
  | nil => exact .idle
  | cons request rest =>
    exact .launch (launchesAs_launch config link rest state _ _ (h request List.mem_cons_self))

/-- How a connection is checked. -/
inductive ChecksAs : Reaction → Prop where
  | sent {attempt : Attempt} {frame : Frame} (taking : ¬ link.refusing)
    (request : attempt.command.request = .ping) (status : attempt.command.status = .pending)
    (frame? : attempt.command.frame? = .ok frame) :
    ChecksAs
      ({ (state.assignSession { request := .ping }).2 with
          mode := .online link refresh (.checking attempt) },
        [.send frame])
  | refused (refusing : link.refusing) :
    ChecksAs (State.loseLink config (state.assignSession { request := .ping }).2)

theorem checksAs_check : ChecksAs config link refresh state (state.check config link refresh) := by
  have begins : BeginsAs config link state { request := .ping }
      (state.begin config link { request := .ping }) :=
    beginsAs_begin config link state sendable_ping
  unfold State.check
  generalize state.begin config link { request := .ping } = begun at begins
  cases begins with
  | sent taking frame? =>
    exact .sent taking (request_assigned state _) (status_assigned state _) frame?
  | refused refusing => exact .refused refusing

/-- Going on with the refresh answers nobody, since no caller waits for it. -/
theorem answers_proceed (h : ∀ request ∈ refresh, Sendable request.kind) :
    answers (State.proceed config link refresh state).2 = [] := by
  have proceeds := proceedsAs_proceed config link refresh state h
  generalize State.proceed config link refresh state = reaction at proceeds
  cases proceeds with
  | idle => rfl
  | launch launches =>
    cases launches with
    | sent taking frame? => rfl
    | refused refusing =>
      rw [Reaction.andThen, answers_append, answers_finish]
      exact (withdraws_loseLink config _).answers

theorem answers_check : answers (state.check config link refresh).2 = [] := by
  have checks := checksAs_check config link refresh state
  generalize state.check config link refresh = reaction at checks
  cases checks with
  | sent => rfl
  | refused => exact (withdraws_loseLink config _).answers

end

/-! ## What goes neither to callers nor to listeners -/

/-- What is looked for in some effects goes neither to callers nor to listeners. -/
structure Overlooks {β : Type} (look : Effect → Option β) : Prop where
  answer : ∀ ticket command, look (.answer ticket command) = none
  abandon : ∀ ticket, look (.abandon ticket) = none
  notify : ∀ event, look (.notify event) = none

section

variable {β : Type} {look : Effect → Option β}

theorem filterMap_finish (overlooks : Overlooks look) (command : Command) (origin : Origin)
    (state : State) : (state.finish command origin).2.filterMap look = [] := by
  refine List.filterMap_eq_nil_iff.mpr ?_
  intro effect member
  rcases List.mem_append.mp member with told | answered
  · obtain ⟨event, -, rfl⟩ := List.mem_map.mp told
    exact overlooks.notify ..
  · cases origin with
    | caller ticket =>
      obtain rfl := List.mem_singleton.mp answered
      exact overlooks.answer ..
    | internal => cases answered

theorem filterMap_drain (overlooks : Overlooks look) (jobs : List Job) (state : State) :
    (State.drain jobs state).2.filterMap look = [] := by
  induction jobs generalizing state with
  | nil => rfl
  | cons job rest ih =>
    rw [State.drain, Reaction.andThen, List.filterMap_append, filterMap_finish overlooks, ih]
    rfl

/-- What happens around a processor is known to callers at most. -/
theorem filterMap_occur (answer : ∀ ticket command, look (.answer ticket command) = none)
    (abandon : ∀ ticket, look (.abandon ticket) = none) (event : Event) (state : State) :
    (state.occur event).2.filterMap look = [] := by
  cases event with
  | submit ticket command =>
    rw [State.occur, State.submit]
    split
    · exact List.filterMap_cons_none (answer ..)
    · exact List.filterMap_cons_none (answer ..)
    · split
      · exact List.filterMap_cons_none (abandon ticket)
      · rfl
  | recur periodic => rw [State.occur]; split <;> rfl
  | connected success => rw [State.occur]; split <;> rfl
  | _ => rfl

end

/-! ## What a job that is over leaves -/

@[simp] theorem published_learn (command : Command) (state : State) :
    (state.learn command).published = state.published := by
  unfold State.learn
  split <;> rfl

theorem status_fail_of_pending {command : Command} (h : command.status = .pending)
    (error : CommandError) : (command.fail error).status = .failed error := by
  have hpending : ¬ command.isTerminal := by simp [Command.isTerminal_iff, h]
  rw [Command.status_fail, if_neg hpending]

theorem error?_fail_of_pending {command : Command} (h : command.status = .pending)
    (error : CommandError) : (command.fail error).error? = some error := by
  rw [Command.error?, status_fail_of_pending h]
  rfl

/-- Failing two commands that stand alike leaves them standing alike. -/
theorem status_fail_congr {a b : Command} (h : a.status = b.status) (error : CommandError) :
    (a.fail error).status = (b.fail error).status := by
  simp only [Command.status_fail, Command.isTerminal_iff, h]

/-! ## Reactions that lead to such a state -/

section

variable {config : Config} {link : Link} {refresh : List Request} {state : State}
  {reaction : Reaction}

theorem fit_of_withdraws (queue : ∀ job ∈ state.queue, job.Fit) (h : Withdraws state reaction) :
    reaction.1.Fit := by
  obtain ⟨⟨outage, stage, hmode⟩, hqueue, -, -⟩ := h
  refine ⟨?_, ?_⟩
  · rw [hqueue]
    exact queue
  · rw [hmode]
    trivial

theorem fit_loseLink (queue : ∀ job ∈ state.queue, job.Fit) : (state.loseLink config).1.Fit :=
  fit_of_withdraws queue (withdraws_loseLink config state)

theorem fit_stop (state : State) : state.stop.1.Fit := by
  refine ⟨?_, ?_⟩
  · have hqueue : state.stop.1.queue = [] := queue_drain state.queue _
    rw [hqueue]
    exact List.forall_mem_nil _
  · have hmode : state.stop.1.mode = .stopped := mode_drain state.queue _
    rw [hmode]
    rfl

theorem fit_launchesAs {job : Job} {retries : Nat} (queue : ∀ job ∈ state.queue, job.Fit)
    (connected : state.published = .connected)
    (sendable : ∀ request ∈ refresh, Sendable request.kind) (fit : job.Fit)
    (h : LaunchesAs config link refresh state job retries reaction) :
    reaction.1.Fit := by
  cases h with
  | sent taking frame? =>
    exact ⟨by simpa using queue, by simpa using connected, sendable, fit, by simp, by simp⟩
  | refused refusing =>
    refine fit_loseLink ?_
    show ∀ job ∈ (State.learn _ _).queue, job.Fit
    rw [queue_learn, queue_assigned]
    exact queue

theorem fit_proceed (queue : ∀ job ∈ state.queue, job.Fit)
    (connected : state.published = .connected)
    (sendable : ∀ request ∈ refresh, Sendable request.kind) :
    (State.proceed config link refresh state).1.Fit := by
  have proceeds := proceedsAs_proceed config link refresh state sendable
  generalize State.proceed config link refresh state = reaction at proceeds
  cases proceeds with
  | idle => exact ⟨queue, connected, nofun, trivial⟩
  | launch launches =>
    rw [List.forall_mem_cons] at sendable
    exact fit_launchesAs queue connected sendable.2 (fit_internal sendable.1) launches

theorem fit_check (queue : ∀ job ∈ state.queue, job.Fit) (connected : state.published = .connected)
    (sendable : ∀ request ∈ refresh, Sendable request.kind) :
    (state.check config link refresh).1.Fit := by
  have checks := checksAs_check config link refresh state
  generalize state.check config link refresh = reaction at checks
  cases checks with
  | sent taking request status =>
    exact ⟨by simpa using queue, by simpa using connected, sendable, request, status⟩
  | refused refusing =>
    refine fit_loseLink ?_
    rw [queue_assigned]
    exact queue

theorem fit_concludeCheck {outcome : Outcome} (queue : ∀ job ∈ state.queue, job.Fit)
    (connected : state.published = .connected)
    (sendable : ∀ request ∈ refresh, Sendable request.kind) :
    (state.concludeCheck config link refresh outcome).1.Fit := by
  cases outcome with
  | done => exact fit_proceed queue connected sendable
  | terminated => exact fit_stop _
  | linkLost => exact fit_loseLink queue
  | timedOut => exact fit_loseLink queue

theorem fit_conclude {job : Job} {retries : Nat} {command : Command} {outcome : Outcome}
    {reaction : Reaction} (queue : ∀ job ∈ state.queue, job.Fit)
    (connected : state.published = .connected)
    (sendable : ∀ request ∈ refresh, Sendable request.kind) (fit : job.Fit)
    (h : Concludes config link refresh job retries command state outcome reaction) :
    reaction.1.Fit := by
  have hqueue : ∀ job ∈ (state.learn command).queue, job.Fit := by
    rw [queue_learn]
    exact queue
  have hconnected : (state.learn command).published = .connected := by simpa using connected
  cases h with
  | again => exact ⟨queue, connected, sendable, fit⟩
  | settle => exact fit_concludeCheck hqueue hconnected sendable
  | check => exact fit_check hqueue hconnected sendable

theorem sendable_greeting (config : Config) (time : UnixTime) :
    ∀ request ∈ config.greeting time, Sendable request.kind := by
  intro request member
  simp only [Config.greeting, List.mem_append, List.mem_cons, List.not_mem_nil, or_false]
    at member
  rcases member with (rfl | rfl | rfl | rfl) | member
  · exact ⟨nofun, nofun⟩
  · exact ⟨nofun, nofun⟩
  · exact ⟨nofun, nofun⟩
  · exact ⟨nofun, nofun⟩
  · split at member
    · rw [List.mem_singleton.mp member]
      exact ⟨nofun, nofun⟩
    · cases member

theorem sendable_refreshRequests (config : Config) (state : State) :
    ∀ request ∈ state.refreshRequests config, Sendable request.kind :=
  sendable_greeting config _

/-! ## Turns -/

theorem State.Fit.online {activity : Activity} (fit : state.Fit)
    (mode : state.mode = .online link refresh activity) :
    state.published = .connected ∧ (∀ request ∈ refresh, Sendable request.kind)
      ∧ activity.Fit := by
  have hmode := fit.mode
  rwa [mode] at hmode

theorem State.Fit.front {job : Job} {rest : List Job} (fit : state.Fit)
    (queue : state.queue = job :: rest) : job.Fit ∧ ∀ other ∈ rest, other.Fit :=
  List.forall_mem_cons.mp (queue ▸ fit.queue)

/-- The processor's own command is open as long as its attempt is out. -/
theorem State.Fit.pending {job : Job} {retries : Nat} {attempt : Attempt} (fit : state.Fit)
    (mode : state.mode = .online link refresh (.running job retries attempt))
    (internal : job.origin = .internal) : attempt.command.status = .pending := by
  obtain ⟨hjob, -, hstatus⟩ := (fit.online mode).2.2
  exact hstatus.trans (hjob.pending internal)

/-- A turn that takes note of something on a connection. -/
theorem fit_note {left : Link} {activity later : Activity} (fit : state.Fit)
    (mode : state.mode = .online link refresh activity) (h : later.Fit) :
    State.Fit { state with mode := .online left refresh later } := by
  obtain ⟨connected, sendable, -⟩ := fit.online mode
  exact ⟨fit.queue, connected, sendable, h⟩

/-- An answer that does not end a command finds it pending and leaves it so. -/
theorem Attempt.Comes.status_of_ongoing {attempt later : Attempt} {left : Link}
    (h : attempt.Comes config state link (.ongoing later, left)) :
    later.command.status = attempt.command.status := by
  cases h with
  | ongoing running arrived accepts pending =>
    rw [command_extend]
    have hbefore : ¬ attempt.command.isTerminal := by
      intro terminal
      rw [Command.respond_of_isTerminal terminal] at pending
      exact pending terminal
    rw [Command.isTerminal_iff, not_not] at pending hbefore
    rw [pending, hbefore]

/-- A turn leads from a state that a processor can be in to another such state. -/
theorem fit_turn (fit : state.Fit) (h : Turns config state reaction) : reaction.1.Fit := by
  cases h with
  | stop => exact fit_stop state
  | connect => exact ⟨fit.queue, trivial⟩
  | reject running suspended hopeless queue =>
    obtain ⟨stage, mode⟩ := suspended.offline
    refine ⟨?_, ?_⟩
    · rw [queue_finish]
      exact (fit.front queue).2
    · show Mode.Fit _ (State.learn _ _).mode
      rw [mode_learn, mode]
      trivial
  | logIn => exact ⟨fit.queue, trivial⟩
  | failAttempt => exact fit_of_withdraws fit.queue (withdraws_failAttempt config _ _ state)
  | keepLoggingIn => exact ⟨fit.queue, trivial⟩
  | goOnline => exact fit_proceed fit.queue rfl (sendable_refreshRequests config _)
  | unsolicited running mode =>
    rw [state_unsolicited]
    exact fit_note fit mode trivial
  | loseLink => exact fit_loseLink fit.queue
  | @launch link refresh job rest running mode silent alive queue =>
    obtain ⟨connected, sendable, -⟩ := fit.online mode
    obtain ⟨hjob, hrest⟩ := fit.front queue
    have launches := launchesAs_launch config link refresh { state with queue := rest }
      config.transientRetries (State.proceed config link refresh) hjob.sendable
    refine fit_launchesAs ?_ ?_ sendable hjob launches
    · exact hrest
    · exact connected
  | ongoing mode comes =>
    obtain ⟨hjob, hrequest, hstatus⟩ := (fit.online mode).2.2
    exact fit_note fit mode ⟨hjob, comes.of_ongoing.1.trans hrequest,
      comes.status_of_ongoing.trans hstatus⟩
  | unclaimed mode =>
    rw [state_unsolicited]
    exact fit_note fit mode (fit.online mode).2.2
  | conclude mode =>
    obtain ⟨connected, sendable, hjob, -⟩ := fit.online mode
    exact fit_conclude fit.queue connected sendable hjob (concludes_conclude ..)
  | stopPause => exact fit_stop _
  | @resume link refresh job retries resume running mode due =>
    obtain ⟨connected, sendable, hjob⟩ := fit.online mode
    exact fit_launchesAs fit.queue connected sendable hjob
      (launchesAs_launch config link refresh state retries _ hjob.sendable)
  | keepChecking mode comes =>
    obtain ⟨hrequest, hstatus⟩ := (fit.online mode).2.2
    exact fit_note fit mode ⟨comes.of_ongoing.1.trans hrequest,
      comes.status_of_ongoing.trans hstatus⟩
  | unclaimedByCheck mode =>
    rw [state_unsolicited]
    exact fit_note fit mode (fit.online mode).2.2
  | concludeCheck mode =>
    obtain ⟨connected, sendable, -⟩ := fit.online mode
    exact fit_concludeCheck fit.queue connected sendable

/-! ## Events -/

theorem fit_periodic (periodic : Periodic) : periodic.job.Fit := by
  cases periodic <;> exact ⟨⟨nofun, nofun⟩, fun _ => rfl⟩

theorem fit_of_job? {event : Event} {job : Job} (h : event.job? state = some job) : job.Fit := by
  cases event with
  | submit ticket command =>
    rw [Event.job?] at h
    split at h
    · cases h
    · rename_i hkind
      cases h
      refine ⟨⟨fun h => hkind (.inl h), fun h => hkind (.inr (.inl h))⟩, ?_⟩
      intro internal
      cases internal
  | recur periodic =>
    rw [Event.job?] at h
    split at h
    · cases h
      exact fit_periodic periodic
    · cases h
  | _ => cases h

theorem fit_mapLink {published : ConnectionState} {mode : Mode} (change : Link → Link)
    (h : mode.Fit published) : (mode.mapLink change).Fit published := by
  unfold Mode.mapLink
  split
  · trivial
  · exact h
  · exact h

/-- What happens around a processor changes nothing that the processor keeps for itself. -/
theorem state_occur (event : Event) (state : State) :
    ∃ mode now queue terminating, (state.occur event).1
      = { state with
          mode := mode, now := now, queue := queue, terminating := terminating } := by
  cases event with
  | submit ticket command =>
    rw [State.occur, State.submit]
    split
    · exact ⟨_, _, _, _, rfl⟩
    · exact ⟨_, _, _, _, rfl⟩
    · split <;> exact ⟨_, _, _, _, rfl⟩
  | recur periodic => rw [State.occur]; split <;> exact ⟨_, _, _, _, rfl⟩
  | connected success => rw [State.occur]; split <;> exact ⟨_, _, _, _, rfl⟩
  | _ => exact ⟨_, _, _, _, rfl⟩

theorem published_occur (event : Event) (state : State) :
    (state.occur event).1.published = state.published := by
  obtain ⟨_, _, _, _, h⟩ := state_occur event state
  rw [h]

theorem fit_occur (event : Event) (fit : state.Fit) : (state.occur event).1.Fit := by
  refine ⟨?_, ?_⟩
  · rw [(occur_keeps event state).2.1]
    intro job member
    rcases List.mem_append.mp member with member | member
    · exact fit.queue job member
    · exact fit_of_job? (Option.mem_toList.mp member)
  · rw [published_occur]
    have hmode := fit.mode
    cases event with
    | submit ticket command =>
      rw [State.occur, (occur_submit ticket command state).1]
      exact hmode
    | recur periodic =>
      rw [State.occur]
      split <;> exact hmode
    | connected success =>
      rw [State.occur]
      split
      · trivial
      · exact hmode
    | arrive frame => exact fit_mapLink _ hmode
    | dry error => exact fit_mapLink _ hmode
    | choke => exact fit_mapLink _ hmode
    | elapse instant => exact hmode
    | terminate => exact hmode

/-! ## Runs -/

theorem fit_moment (config : Config) (state : State) (step : Step) (fit : state.Fit) :
    (Moment.of config state step).after.Fit := by
  cases step with
  | event event => exact fit_occur event fit
  | turn =>
    cases h : state.turn? config with
    | none =>
      rw [moment_of_no_turn h]
      exact fit
    | some reaction =>
      rw [moment_of_turn h]
      exact fit_turn fit (turns_of_turn h)

theorem fit_start (config : Config) (epoch : UnixTime) : (State.start config epoch).1.Fit :=
  fit_of_withdraws (List.forall_mem_nil _) (withdraws_start config epoch)

theorem fit_reached (config : Config) (epoch : UnixTime) (steps : List Step) :
    (reached config epoch steps).Fit :=
  (run_keeps (fit_moment config) steps (fit_start config epoch)).2

end

end Processor

end ShutterGateway
