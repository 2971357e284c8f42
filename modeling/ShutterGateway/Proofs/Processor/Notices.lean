import ShutterGateway.Proofs.Listener
import ShutterGateway.Proofs.Processor.Buffer
import ShutterGateway.Proofs.Processor.Collection

/-!
What listeners get to know. A turn tells them about the frame that it takes on a connection in use,
unless the frame belongs to the command that is carried out, and about the nodes that a request of
the processor's own has found. Each event goes to those who are registered at that moment. Listeners
come and go between any two events, also between two of one turn, so that who is registered is
accounted for apart from the processor.
-/

namespace ShutterGateway.Processor

/-! ## What is told -/

/-- The event of which an effect tells. -/
def Effect.notice? : Effect → Option NodeEvent
  | .notify event => some event
  | _ => none

/-- The events of which some effects tell. -/
def posted (effects : List Effect) : List NodeEvent :=
  effects.filterMap Effect.notice?

@[simp] theorem posted_append (a b : List Effect) : posted (a ++ b) = posted a ++ posted b :=
  List.filterMap_append

namespace State

/-- The frame that the next turn takes after the login and that does not belong to the command which
is carried out, if one is. -/
def unclaimed? (state : State) : Option Frame :=
  if state.mode.activity?.isSome then
    state.next?.filter fun frame => ! state.attempt?.any (·.command.accepts frame)
  else none

/-- The nodes that have been found when, in the next turn, a request for all nodes is complete for
which no caller waits. -/
def found (config : Config) (state : State) : List Node :=
  match state.mode.activity?.bind Activity.job?, state.ended? config with
  | some job, some command =>
    if job.origin = .internal ∧ command.kind = .getAllNodes ∧ command.status = .complete then
      command.findings.nodes
    else []
  | _, _ => []

/-- The events of the next turn. -/
def reports (config : Config) (state : State) : List NodeEvent :=
  (state.unclaimed?.bind Frame.event?).toList
    ++ (state.found config).map fun node => ⟨node.id, node.position⟩

end State

/-- The events of a moment. -/
def Moment.reports (config : Config) (moment : Moment) : List NodeEvent :=
  match moment.step with
  | .turn => moment.before.reports config
  | .event _ => []

/-! ## Functions of the processor -/

/-- A reaction that tells the listeners about some events, and about no others. -/
def Posts (events : List NodeEvent) (reaction : Reaction) : Prop :=
  posted reaction.2 = events

section

variable {config : Config} {link : Link} {refresh : List Request} {state : State}
  {reaction : Reaction} {events : List NodeEvent}

theorem posted_notify (events : List NodeEvent) : posted (events.map .notify) = events := by
  rw [posted, List.filterMap_map]
  exact List.filterMap_some

theorem posts_finish (command : Command) (origin : Origin) (state : State) :
    Posts (State.discoveries command origin) (state.finish command origin) := by
  unfold Posts State.finish
  rw [posted_append, posted_notify]
  cases origin <;> exact List.append_nil _

theorem Posts.andThen {more : List NodeEvent} {next : State → Reaction}
    (first : Posts events reaction) (second : Posts more (next reaction.1)) :
    Posts (events ++ more) (reaction.andThen next) := by
  rw [Posts, Reaction.andThen, posted_append, first, second]

theorem Posts.quiet_andThen {next : State → Reaction} (first : Posts [] reaction)
    (second : Posts events (next reaction.1)) : Posts events (reaction.andThen next) :=
  first.andThen second

theorem Posts.andThen_quiet {next : State → Reaction} (first : Posts events reaction)
    (second : Posts [] (next reaction.1)) : Posts events (reaction.andThen next) := by
  have both := first.andThen second
  rwa [List.append_nil] at both

theorem Posts.after {effect : Effect} (quiet : effect.notice? = none)
    (h : Posts events reaction) : Posts events (.after effect reaction) :=
  (List.filterMap_cons_none quiet).trans h

/-! ### What nobody is told of -/

theorem discoveries_of_not_complete {command : Command} (origin : Origin)
    (h : command.status ≠ .complete) : State.discoveries command origin = [] := by
  unfold State.discoveries
  split
  · rfl
  · split
    · rename_i hcomplete _
      exact absurd hcomplete h
    · rfl

/-- A job of the processor's own that fails has found nothing. -/
theorem discoveries_fail {command : Command} {origin : Origin} (error : CommandError)
    (fresh : origin = .internal → command.status = .pending) :
    State.discoveries (command.fail error) origin = [] := by
  cases origin with
  | caller ticket => rfl
  | internal =>
    apply discoveries_of_not_complete
    rw [status_fail_of_pending (fresh rfl)]
    exact nofun

/-- A command that fails is told to its caller, and to nobody else. -/
theorem effects_fail {command : Command} {origin : Origin} (error : CommandError)
    (fresh : origin = .internal → command.status = .pending) (state : State) :
    (state.finish (command.fail error) origin).2
      = (Job.call? ⟨command, origin⟩).toList.map fun call =>
        .answer call.ticket (call.command.fail error) := by
  unfold State.finish
  rw [discoveries_fail error fresh]
  cases origin <;> rfl

theorem posts_fail {job : Job} {command : Command} (fit : job.Fit)
    (status : command.status = job.command.status) (error : CommandError) (state : State) :
    Posts [] (state.finish (command.fail error) job.origin) := by
  have posts := posts_finish (command.fail error) job.origin state
  rwa [discoveries_fail error fun internal => status.trans (fit.pending internal)] at posts

theorem posts_publish (published : ConnectionState) (state : State) :
    Posts [] (state.publish published) :=
  rfl

theorem posts_approach (outage : Outage) (state : State) :
    Posts [] (state.approach config outage) := by
  unfold State.approach
  split
  · rfl
  · rfl

theorem posts_establish (state : State) : Posts [] (state.establish config) := by
  unfold State.establish
  split
  · exact (posts_publish _ state).quiet_andThen (posts_approach _ _)
  · exact (posts_publish _ state).quiet_andThen (posts_approach _ _)

theorem posts_loseLink (state : State) : Posts [] (state.loseLink config) :=
  Posts.after rfl (posts_establish state)

theorem posts_failAttempt (outage : Outage) (error : LinkError) (state : State) :
    Posts [] (state.failAttempt config outage error) := by
  unfold State.failAttempt
  refine Posts.after rfl (Posts.after rfl ?_)
  exact (posts_publish _ state).quiet_andThen (posts_approach _ _)

theorem posts_drain {jobs : List Job} (fit : ∀ job ∈ jobs, job.Fit) (state : State) :
    Posts [] (State.drain jobs state) := by
  induction jobs generalizing state with
  | nil => rfl
  | cons job rest ih =>
    rw [List.forall_mem_cons] at fit
    exact (posts_fail fit.1 rfl .shutdown state).quiet_andThen (ih fit.2 _)

theorem posts_stop (fit : ∀ job ∈ state.queue, job.Fit) : Posts [] state.stop := by
  refine Posts.after rfl ?_
  exact (posts_drain fit _).quiet_andThen (posts_publish _ _)

/-! ### On a connection -/

theorem posts_launchesAs {job : Job} {retries : Nat} (fit : job.Fit)
    (h : LaunchesAs config link refresh state job retries reaction) : Posts [] reaction := by
  cases h with
  | sent taking frame? => exact rfl
  | refused refusing =>
    have fails := posts_fail fit (status_assigned state job.command)
      (.connectivity .connectionLost) (state.assignSession job.command).2
    exact fails.quiet_andThen (posts_loseLink _)

theorem posts_proceed (sendable : ∀ request ∈ refresh, Sendable request.kind) (state : State) :
    Posts [] (State.proceed config link refresh state) := by
  have proceeds := proceedsAs_proceed config link refresh state sendable
  generalize State.proceed config link refresh state = reaction at proceeds
  cases proceeds with
  | idle => rfl
  | launch launches =>
    rw [List.forall_mem_cons] at sendable
    exact posts_launchesAs (fit_internal sendable.1) launches

theorem posts_check (state : State) : Posts [] (state.check config link refresh) := by
  have checks := checksAs_check config link refresh state
  generalize state.check config link refresh = reaction at checks
  cases checks with
  | sent taking request status => rfl
  | refused refusing => exact posts_loseLink _

theorem posts_concludeCheck {outcome : Outcome} (queue : ∀ job ∈ state.queue, job.Fit)
    (sendable : ∀ request ∈ refresh, Sendable request.kind) :
    Posts [] (state.concludeCheck config link refresh outcome) := by
  cases outcome with
  | done => exact posts_proceed sendable _
  | terminated => exact posts_stop queue
  | linkLost => exact posts_loseLink _
  | timedOut => exact posts_loseLink _

theorem posts_conclude {job : Job} {retries : Nat} {command : Command} {outcome : Outcome}
    (queue : ∀ job ∈ state.queue, job.Fit)
    (sendable : ∀ request ∈ refresh, Sendable request.kind)
    (h : Concludes config link refresh job retries command state outcome reaction) :
    Posts (State.discoveries command job.origin) reaction := by
  have hfinish := posts_finish command job.origin state
  cases h with
  | again again =>
    -- Whatever is tried again has been refused, and has found nothing.
    have hstatus : command.status ≠ .complete := by
      intro complete
      simp [Again, Command.error?, Status.error?, complete] at again
    rw [discoveries_of_not_complete _ hstatus]
    rfl
  | settle =>
    refine hfinish.andThen_quiet (posts_concludeCheck ?_ sendable)
    rw [queue_finish]
    exact queue
  | check => exact hfinish.andThen_quiet (posts_check _)

theorem posts_unsolicited (frame : Frame) (mode : Mode) (state : State) :
    Posts frame.event?.toList (State.unsolicited frame { state with mode := mode }) := by
  unfold State.unsolicited
  cases frame.event? with
  | none => rfl
  | some event => rfl

/-! ## Turns -/

/-- The frame that does not belong to the command which is carried out. -/
def Progress.unclaimed? : Progress → Option Frame
  | .unclaimed frame => some frame
  | _ => none

variable {activity : Activity}

theorem unclaimed?_of_comes {attempt : Attempt} {progress : Progress} {left : Link}
    (comes : attempt.Comes config state link (progress, left))
    (mode : state.mode = .online link refresh activity)
    (attempted : activity.attempt? = some attempt) :
    state.unclaimed? = progress.unclaimed? := by
  have hattempt : state.attempt? = some attempt := (attempt?_of_online mode).trans attempted
  have listens : (Mode.online link refresh activity).listens := by
    cases activity <;> first | rfl | cases attempted
  have hactivity : state.mode.activity?.isSome := by rw [mode]; rfl
  rw [State.unclaimed?, if_pos hactivity, hattempt]
  cases comes with
  | terminated terminating =>
    rw [next?_of_terminating terminating]
    rfl
  | done running arrived accepts | ongoing running arrived accepts =>
    rw [next?_of_online running mode listens, arrived]
    simp [accepts, Progress.unclaimed?]
  | unclaimed running arrived accepts =>
    rw [next?_of_online running mode listens, arrived]
    simp [accepts, Progress.unclaimed?]
  | linkLost running silent | timedOut running silent | waiting running silent =>
    rw [next?_of_online running mode listens, silent]
    rfl

theorem found_of_not_ended (h : state.ended? config = none) : state.found config = [] := by
  rw [State.found, h]
  split
  · rename_i hended
    cases hended
  · rfl

/-- A turn that takes no frame and ends no attempt has nothing to tell. -/
theorem reports_of_silent (silent : state.next? = none) (goes : state.ended? config = none) :
    state.reports config = [] := by
  have hunclaimed : state.unclaimed? = none := by
    rw [State.unclaimed?, silent]
    split <;> rfl
  rw [State.reports, hunclaimed, found_of_not_ended goes]
  rfl

theorem reports_of_offline {outage : Outage} {stage : Stage}
    (mode : state.mode = .offline outage stage) : state.reports config = [] := by
  have hunclaimed : state.unclaimed? = none := by
    rw [State.unclaimed?, mode]
    rfl
  rw [State.reports, hunclaimed, found_of_not_ended (owed_of_offline config mode).2.1]
  rfl

theorem reports_of_idle (mode : state.mode = .online link refresh .idle)
    (silent : link.inbound = []) : state.reports config = [] :=
  reports_of_silent (next?_of_silent ((buffered_of_online mode).trans silent))
    (ended?_of_free mode rfl)

theorem reports_of_goes {attempt : Attempt} {progress : Progress} {left : Link}
    (comes : attempt.Comes config state link (progress, left))
    (mode : state.mode = .online link refresh activity)
    (attempted : activity.attempt? = some attempt) (goes : progress.ended? = none) :
    state.reports config = (progress.unclaimed?.bind Frame.event?).toList := by
  have hended := (ended?_of_comes mode attempted comes).trans goes
  rw [State.reports, unclaimed?_of_comes comes mode attempted, found_of_not_ended hended]
  exact List.append_nil _

/-- What a job has found is told when its attempt ends. -/
theorem reports_of_running {job : Job} {retries : Nat} {attempt : Attempt} {command : Command}
    {outcome : Outcome} {left : Link}
    (comes : attempt.Comes config state link (.ended command outcome, left))
    (mode : state.mode = .online link refresh (.running job retries attempt)) :
    state.reports config = State.discoveries command job.origin := by
  have hended := ended?_of_comes mode rfl comes
  have hjob : state.mode.activity?.bind Activity.job? = some job := by rw [mode]; rfl
  rw [State.reports, unclaimed?_of_comes comes mode rfl, State.found, hjob, hended]
  show List.map _ (if _ then _ else _) = _
  obtain ⟨submitted, origin⟩ := job
  cases origin with
  | caller ticket =>
    rw [if_neg (fun h => nomatch h.1)]
    rfl
  | internal =>
    by_cases complete : command.status = .complete ∧ command.kind = .getAllNodes
    · rw [if_pos ⟨rfl, complete.2, complete.1⟩]
      simp only [State.discoveries, complete]
    · rw [if_neg fun h => complete ⟨h.2.2, h.2.1⟩]
      unfold State.discoveries
      simp only
      split
      · rename_i hstatus hkind
        exact absurd ⟨hstatus, hkind⟩ complete
      · rfl

/-- While no command is carried out, a frame belongs to nobody. -/
theorem reports_of_unsolicited {frame : Frame} {rest : List Frame} (running : ¬ state.terminating)
    (mode : state.mode = .online link refresh .idle) (arrived : link.inbound = frame :: rest) :
    state.reports config = frame.event?.toList := by
  have hactivity : state.mode.activity?.isSome := by rw [mode]; rfl
  have hnext : state.next? = some frame := by
    rw [next?_of_online running mode rfl, arrived]
    rfl
  have hattempt : state.attempt? = none := attempt?_of_online mode
  have hunclaimed : state.unclaimed? = some frame := by
    rw [State.unclaimed?, if_pos hactivity, hnext, hattempt]
    rfl
  rw [State.reports, hunclaimed, found_of_not_ended (ended?_of_free mode rfl)]
  exact List.append_nil _

/-- The answer to a check of the connection is not told. -/
theorem reports_of_checking {attempt : Attempt} {command : Command} {outcome : Outcome}
    {left : Link} (comes : attempt.Comes config state link (.ended command outcome, left))
    (mode : state.mode = .online link refresh (.checking attempt)) :
    state.reports config = [] := by
  have hfound : state.found config = [] := by
    rw [State.found, mode]
    rfl
  rw [State.reports, unclaimed?_of_comes comes mode rfl, hfound]
  rfl

/-- Every turn tells its events, and nothing else. -/
theorem posts_turn (fit : state.Fit) (h : Turns config state reaction) :
    Posts (state.reports config) reaction := by
  cases h with
  | stop free terminating =>
    have silent : state.next? = none := next?_of_terminating terminating
    have goes : state.ended? config = none := by
      rcases free with ⟨outage, stage, mode⟩ | ⟨link, refresh, mode⟩
      · exact (owed_of_offline config mode).2.1
      · exact ended?_of_free mode rfl
    rw [reports_of_silent silent goes]
    exact posts_stop fit.queue
  | connect running mode =>
    rw [reports_of_offline mode]
    rfl
  | @reject outage job rest running suspended hopeless queue =>
    obtain ⟨stage, mode⟩ := suspended.offline
    rw [reports_of_offline mode]
    exact posts_fail (fit.front queue).1 rfl (.connectivity .gatewayUnavailable)
      { state with queue := rest }
  | logIn running mode =>
    rw [reports_of_offline mode]
    rfl
  | failAttempt running fails =>
    obtain ⟨stage, mode⟩ := fails.offline
    rw [reports_of_offline mode]
    exact posts_failAttempt _ _ state
  | keepLoggingIn running mode =>
    rw [reports_of_offline mode]
    rfl
  | goOnline running mode =>
    rw [reports_of_offline mode]
    have first : Posts []
        (State.publish .connected { state with connectedOnce := true }) := rfl
    exact first.quiet_andThen (posts_proceed (sendable_refreshRequests config _) _)
  | unsolicited running mode arrived =>
    rw [reports_of_unsolicited running mode arrived]
    exact posts_unsolicited _ _ state
  | loseLink running mode silent =>
    rw [reports_of_idle mode silent]
    exact posts_loseLink state
  | @launch link refresh job rest running mode silent alive queue =>
    have hjob := (fit.front queue).1
    rw [reports_of_idle mode silent]
    exact posts_launchesAs hjob (launchesAs_launch config link refresh
      { state with queue := rest } config.transientRetries (State.proceed config link refresh)
      hjob.sendable)
  | ongoing mode comes | keepChecking mode comes =>
    rw [reports_of_goes comes mode rfl rfl]
    rfl
  | unclaimed mode comes | unclaimedByCheck mode comes =>
    rw [reports_of_goes comes mode rfl rfl]
    exact posts_unsolicited _ _ state
  | conclude mode comes =>
    rw [reports_of_running comes mode]
    exact posts_conclude fit.queue (fit.online mode).2.1 (concludes_conclude ..)
  | stopPause mode terminating =>
    rw [reports_of_silent (next?_of_terminating terminating) (ended?_of_free mode rfl)]
    obtain ⟨-, -, hjob⟩ := fit.online mode
    refine (posts_fail hjob rfl .shutdown state).quiet_andThen (posts_stop ?_)
    rw [queue_finish]
    exact fit.queue
  | @resume link refresh job retries resume running mode due =>
    obtain ⟨-, -, hjob⟩ := fit.online mode
    have silent : state.next? = none := next?_of_not_listens (by rw [mode]; rfl)
    rw [reports_of_silent silent (ended?_of_free mode rfl)]
    exact posts_launchesAs hjob (launchesAs_launch config link refresh state retries _
      hjob.sendable)
  | concludeCheck mode comes =>
    rw [reports_of_checking comes mode]
    exact posts_concludeCheck fit.queue (fit.online mode).2.1

/-! ## Moments -/

theorem posts_occur (event : Event) (state : State) : Posts [] (state.occur event) :=
  filterMap_occur (fun _ _ => rfl) (fun _ => rfl) event state

variable (config)

theorem posts_no_turn (h : state.turn? config = none) :
    Posts (state.reports config) state.silently := by
  rw [reports_of_silent (next?_of_no_turn h) (ended?_of_no_turn h)]
  rfl

theorem posts_take_turn (fit : state.Fit) :
    Posts (state.reports config) (Step.turn.take config state) := by
  rw [Step.take]
  cases h : state.turn? config with
  | none => exact posts_no_turn config h
  | some reaction => exact posts_turn fit (turns_of_turn h)

/-- Every step tells its events, and nothing else. -/
theorem posted_moment (step : Step) (fit : state.Fit) :
    posted (Moment.of config state step).effects
      = (Moment.of config state step).reports config := by
  cases step with
  | event event => exact posts_occur event state
  | turn => exact posts_take_turn config fit

/-! ## Runs -/

variable (epoch : UnixTime) (steps : List Step)

theorem posts_start : Posts [] (State.start config epoch) :=
  posts_establish _

theorem posted_history :
    posted ((State.start config epoch).andThen (run config steps)).2
      = (history config epoch steps).flatMap (Moment.reports config) := by
  have hmoments := (run_keeps (fit_moment config) steps (fit_start config epoch)).1
  have hstart : posted (State.start config epoch).2 = [] := posts_start config epoch
  rw [Reaction.andThen, posted_append, hstart, effects_run]
  show List.filterMap Effect.notice? _ = _
  rw [List.filterMap_flatMap]
  refine List.flatMap_congr fun moment member => ?_
  obtain ⟨fit, hmoment⟩ := hmoments moment member
  have hposted := posted_moment config moment.step fit
  rw [← hmoment] at hposted
  exact hposted

/-! ## What has been found -/

theorem request_of_kind {request : Request} (h : request.kind = .getAllNodes) :
    request = .getAllNodes := by
  cases request <;> first | rfl | cases h

/-- The answer that completes a request for all nodes tells what its attempt has found. -/
theorem collected?_of_found (fit : state.Fit) :
    state.found config = [] ∨ state.collected? = some (state.found config) := by
  rw [State.found]
  split
  case h_2 => exact .inl rfl
  rename_i job command hjob hended
  split
  case isFalse => exact .inl rfl
  rename_i h
  obtain ⟨internal, hkind, complete⟩ := h
  right
  cases mode : state.mode with
  | offline | stopped =>
    rw [mode] at hjob
    cases hjob
  | online link refresh activity =>
    rw [mode] at hjob
    cases activity with
    | idle | checking => cases hjob
    | pausing => cases (ended?_of_free mode rfl).symm.trans hended
    | running _ retries attempt =>
      cases hjob
      have hpending := fit.pending mode internal
      have comes := attempt.comes_progress config state link
      generalize attempt.progress config state link = result at comes
      obtain ⟨progress, left⟩ := result
      have hprogress := (ended?_of_comes mode rfl comes).symm.trans hended
      rw [collected?_of_running mode]
      cases comes with
      | done running arrived accepts =>
        cases hprogress
        rw [Command.kind, Command.request_respond] at hkind
        have hrequest := request_of_kind hkind
        rw [if_pos ⟨internal, hrequest⟩, Command.nodes_respond hrequest hpending,
          Command.listed?_of_complete hrequest hpending complete]
        exact congrArg some (List.append_nil _).symm
      | terminated | linkLost | timedOut =>
        -- A command that has failed is not complete.
        cases hprogress
        cases (status_fail_of_pending hpending _).symm.trans complete
      | ongoing | unclaimed | waiting => cases hprogress

end

/-- **Every event reaches exactly those who are registered, once.** Whatever happens to a processor
and in whatever order:

* What the listeners have been told is, in its order, what each step had to tell, and the next step,
  whatever it is, tells its events: the event of the frame that is taken after the login and that no
  running command accepts, and the nodes of a request for all nodes that is complete and for which
  no caller waits.
* Every frame is taken once: as long as the connection lasts, what waits on it and what arrives in a
  step is what is taken in that step and what waits after it.
* The nodes of such a request are those of the notifications that have been taken since the request
  was handed over, in their order.
* However listeners come and go between the events, also between two of one step, each event is
  delivered to those who are registered when it is told, and nothing else is delivered.
* Nobody gets the number of another. Those who are registered stand in the order in which they came,
  and they are those who have not been unregistered since; unregistering succeeds for them only. -/
theorem events_delivered_exactly (config : Config) (epoch : UnixTime) (steps : List Step)
    (step : Step) :
    let past := history config epoch steps
    let state := reached config epoch steps
    let next := Moment.of config state step
    let told := posted ((State.start config epoch).andThen (run config steps)).2
    (told = past.flatMap (Moment.reports config) ∧ posted next.effects = next.reports config)
    ∧ (next.after.mode.link?.isSome →
      state.buffered ++ next.delivered = next.looked ++ next.after.buffered)
    ∧ (state.found config = []
      ∨ ∃ attempt handing since, state.attempt? = some attempt
        ∧ HandedOver past attempt handing since
        ∧ state.found config = (since.flatMap Moment.taken).filterMap Frame.listed?)
    ∧ (∀ acts : List Listeners.Act, acts.filterMap Listeners.Act.event? = told →
      (Listeners.tellings [] acts).map Prod.snd = told
        ∧ Listeners.delivered {} acts
          = (Listeners.tellings [] acts).flatMap fun telling =>
              (Listeners.after telling.1).ids.map fun id => (id, telling.2))
    ∧ ∀ before : List Listeners.Act,
      (Listeners.after before).register.1 = before.count .register
      ∧ (Listeners.after before).ids.Pairwise (· < ·)
      ∧ ∀ id, (id ∈ (Listeners.after before).ids ↔ Listeners.Registered before id)
        ∧ (((Listeners.after before).unregister id).1 = true
          ↔ Listeners.Registered before id) := by
  intro past state next told
  have fit : state.Fit := fit_reached config epoch steps
  refine ⟨⟨posted_history config epoch steps, posted_moment config step fit⟩,
    buffered_moment config state step, ?_, fun acts htold => ?_, fun before => ?_⟩
  · rcases collected?_of_found config fit with none | some
    · exact .inl none
    · exact .inr (collected_since config epoch steps some)
  · exact ⟨(Listeners.events_tellings [] acts).trans htold,
      Listeners.delivered_eq_tellings [] acts⟩
  · obtain ⟨hnext, hordered, -, hregistered⟩ := Listeners.enrolled_after before
    exact ⟨hnext, hordered, fun id => ⟨hregistered id, Listeners.unregister_after before id⟩⟩

/-- Two nodes are found in one refresh. The first of two listeners goes and a third one comes after
the event of the first node, so that the first does not get to know of the second node. -/
theorem events_delivered_exactly_while_listener_leaves :
    let config : Config := { hostname := "gateway", password := "secret" }
    let description (id : UInt8) : Frame := ⟨0x0204, id :: List.replicate 123 0⟩
    let steps : List Step :=
      loginSteps ++ refreshSteps versionAnswer ++ arrival ⟨0x0203, [0, 2]⟩
        ++ arrival (description 3) ++ arrival (description 7) ++ arrival ⟨0x0205, []⟩
    let told := posted ((State.start config 0).andThen (run config steps)).2
    let first : NodeEvent := ⟨3, ⟨0⟩⟩
    let second : NodeEvent := ⟨7, ⟨0⟩⟩
    let acts : List Listeners.Act :=
      [.register, .register, .tell first, .unregister 0, .register, .tell second]
    told = (history config 0 steps).flatMap (Moment.reports config)
      ∧ acts.filterMap Listeners.Act.event? = told
      ∧ (moments config steps (State.start config 0).1).map (posted ·.effects)
        = List.replicate 19 [] ++ [[first, second]]
      ∧ Listeners.delivered {} acts = [(0, first), (1, first), (1, second), (2, second)] := by
  intro config description steps told first second acts
  obtain ⟨⟨htold, -⟩, -, -, delivers, -⟩ := events_delivered_exactly config 0 steps .turn
  have hacts : acts.filterMap Listeners.Act.event? = told := by decide +kernel
  exact ⟨htold, hacts, by decide +kernel, (delivers acts hacts).2.trans (by decide)⟩

end ShutterGateway.Processor
