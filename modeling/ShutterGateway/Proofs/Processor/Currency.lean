import ShutterGateway.Proofs.Command.Results
import ShutterGateway.Proofs.Processor.Finished
import ShutterGateway.Proofs.Processor.Properties
import ShutterGateway.Proofs.Processor.Reconnection

/-!
How current the properties of the gateway are. They are what the commands of the whole run have told
so far, so that a new connection begins with what was read on those before it. A property is that of
the present connection once a command has read it there.
-/

namespace ShutterGateway.Processor

section

variable {config : Config} {epoch : UnixTime} {steps : List Step} {state : State}
  {command : Command}

/-! ## Where complete commands come from -/

theorem CameComplete.mono {more : List Step} (h : CameComplete steps command)
    (subset : steps ⊆ more) : CameComplete more command := by
  obtain ⟨ticket, submitted, session?, member, complete, same⟩ := h
  exact ⟨ticket, submitted, session?, subset member, complete, same⟩

/-- Whoever is owed a command has submitted it. -/
theorem submitted_of_owed {call : Call} (owed : call ∈ (reached config epoch steps).owed) :
    .event (.submit call.ticket call.command) ∈ steps := by
  obtain ⟨⟨settled, perm, -⟩, -⟩ := history_clears config epoch steps
  have member : call ∈ (history config epoch steps).flatMap Moment.submitted :=
    perm.mem_iff.mpr (List.mem_append_right settled owed)
  obtain ⟨moment, past, submits⟩ := List.mem_flatMap.mp member
  have taken : moment.step ∈ steps := by
    have mapped : moment.step ∈ (history config epoch steps).map Moment.step :=
      List.mem_map_of_mem past
    rwa [history, map_step_moments] at mapped
  rw [Moment.submitted] at submits
  split at submits
  · rename_i ticket submitted hstep
    obtain rfl := List.mem_singleton.mp submits
    rwa [hstep] at taken
  · cases submits

theorem recalled_of_submitted {job : Job} (fit : job.Fit)
    (submitted : ∀ call, job.call? = some call →
      .event (.submit call.ticket call.command) ∈ steps) : job.Recalled steps := by
  intro complete
  obtain ⟨command, origin⟩ := job
  cases origin with
  | internal => cases complete.symm.trans (fit.pending rfl)
  | caller ticket =>
    exact ⟨ticket, command, command.session?, submitted ⟨ticket, command⟩ rfl, complete, rfl⟩

theorem recalls_reached (config : Config) (epoch : UnixTime) (steps : List Step) :
    (reached config epoch steps).Recalls steps := by
  have fit := fit_reached config epoch steps
  refine ⟨?_, ?_⟩
  · intro job queued
    refine recalled_of_submitted (fit.queue job queued) fun call hcall => ?_
    have owed : call ∈ (reached config epoch steps).owed :=
      List.mem_append_right _ (List.mem_filterMap.mpr ⟨job, queued, hcall⟩)
    exact submitted_of_owed owed
  · intro job busy
    obtain ⟨activity, out, hjob⟩ := Option.bind_eq_some_iff.mp busy
    obtain ⟨link, refresh, mode⟩ := exists_online_of_activity out
    have fitting : job.Fit := by
      have doing := (fit.online mode).2.2
      cases activity with
      | running => cases hjob; exact doing.1
      | pausing => cases hjob; exact doing
      | idle => cases hjob
      | checking => cases hjob
    refine recalled_of_submitted fitting fun call hcall => ?_
    have owed : call ∈ (reached config epoch steps).owed := by
      refine List.mem_append_left _ ?_
      rw [busy]
      exact Option.mem_toList.mpr hcall
    exact submitted_of_owed owed

/-! ## Moments -/

/-- A command that is answered at once tells nothing. -/
theorem passes_of_answer {reaction : Reaction} {ticket : Nat}
    (properties : reaction.1.properties = state.properties)
    (answered : answers reaction.2 = [⟨ticket, some command⟩]) (silent : ¬ command.Tells)
    (came : command.status = .complete → CameComplete steps command) :
    Passes steps state reaction := by
  have hreturned : returned reaction.2 = [command] := by
    rw [returned, answered]
    rfl
  refine ⟨?_, ?_⟩
  · intro earlier told
    rw [hreturned, told_skip earlier [] silent, List.append_nil, properties]
    exact told
  · rw [hreturned, List.forall_mem_singleton]
    exact came

theorem passes_submit {ticket : Nat} (member : .event (.submit ticket command) ∈ steps) :
    Passes steps state (state.submit ticket command) := by
  have silent {kind : CommandKind} (hkind : command.kind = kind)
      (other : kind ≠ .getVersion ∧ kind ≠ .getProtocol) : ¬ command.Tells := by
    rintro ⟨-, tells⟩
    rw [hkind] at tells
    exact tells.elim other.1 other.2
  have came (complete : command.status = .complete) : CameComplete steps command :=
    ⟨ticket, command, command.session?, member, complete, rfl⟩
  unfold State.submit
  split
  · rename_i terminate
    exact passes_of_answer rfl rfl (silent terminate ⟨nofun, nofun⟩) came
  · rename_i login
    refine passes_of_answer rfl rfl ?_ fun complete => ?_
    · rintro ⟨complete, tells⟩
      rw [Command.kind_fail] at tells
      exact silent login ⟨nofun, nofun⟩ ⟨(fail_of_complete complete).1, tells⟩
    · obtain ⟨before, same⟩ := fail_of_complete complete
      rw [same]
      exact came before
  · split
    · refine ⟨fun earlier told => told.trans ?_, List.forall_mem_nil _⟩
      exact congrArg Properties.told (List.append_nil earlier).symm
    · exact passes_of_silent rfl rfl

theorem passes_occur {event : Event} (member : .event event ∈ steps) :
    Passes steps state (state.occur event) := by
  have unsubmitted (h : ∀ ticket command, event ≠ .submit ticket command) :
      Passes steps state (state.occur event) := by
    refine passes_of_silent ?_ (answers_occur state h).1
    obtain ⟨_, _, _, _, hstate⟩ := state_occur event state
    rw [hstate]
  cases event with
  | submit ticket command => exact passes_submit member
  | _ => exact unsubmitted fun ticket command => nofun

theorem notes_moment {step : Step} (fit : state.Fit) (recalls : state.Recalls steps)
    (member : step ∈ steps) :
    Notes steps state ((Moment.of config state step).ended config)
      ((Moment.of config state step).after, (Moment.of config state step).effects) := by
  cases step with
  | event event => exact (passes_occur member).notes (List.forall_mem_nil _)
  | turn =>
    cases h : state.turn? config with
    | none =>
      rw [moment_of_no_turn h]
      show Notes steps state (state.ended? config).toList (state, [])
      exact .of_open (ended?_of_no_turn h) (passes_of_silent rfl rfl)
    | some reaction =>
      rw [moment_of_turn h]
      exact notes_turn fit recalls (turns_of_turn h)

theorem State.Recalls.mono {more : List Step} (h : state.Recalls steps) (subset : steps ⊆ more) :
    state.Recalls more :=
  ⟨fun job queued complete => (h.queue job queued complete).mono subset,
    fun job busy complete => (h.activity job busy complete).mono subset⟩

theorem notes_reached (config : Config) (epoch : UnixTime) (steps : List Step) (step : Step) :
    let moment := Moment.of config (reached config epoch steps) step
    Notes (steps ++ [step]) moment.before (moment.ended config) (moment.after, moment.effects) :=
  notes_moment (fit_reached config epoch steps)
    ((recalls_reached config epoch steps).mono (List.subset_append_left ..))
    (List.mem_append_right _ List.mem_cons_self)

/-- What is known of the gateway is what has been told in the whole run. -/
theorem told_reached (config : Config) (epoch : UnixTime) (steps : List Step) :
    (reached config epoch steps).properties
      = .told ((history config epoch steps).flatMap (Moment.finished config)) := by
  induction steps using List.reverseRecOn with
  | nil => rfl
  | append_singleton steps step ih =>
    rw [reached_concat, history_concat, List.flatMap_append, List.flatMap_singleton]
    exact (notes_reached config epoch steps step).told _ ih

/-! ## What completes a command -/

/-- An attempt at a command that was not over ends complete only by the frame that it takes. -/
theorem hasResult_of_ended {link : Link} {refresh : List Request} {activity : Activity}
    {attempt : Attempt} (mode : state.mode = .online link refresh activity)
    (attempted : activity.attempt? = some attempt) (pending : attempt.command.status = .pending)
    (ended : (Moment.of config state .turn).ended config = [command])
    (complete : command.status = .complete) :
    ∃ frame, (Moment.of config state .turn).taken = [frame] ∧ command.HasResult frame := by
  have failed (error : CommandError) : (attempt.command.fail error).status ≠ .complete := by
    rw [status_fail_of_pending pending]
    exact nofun
  obtain ⟨outcome, left, -, comes⟩ := exists_progress_of_ended mode attempted ended
  cases outcome with
  | done =>
    obtain ⟨frame, taken, accepts, rfl⟩ := comes.taken_of_done mode attempted
    exact ⟨frame, taken, Command.hasResult_of_complete pending accepts complete⟩
  | timedOut | linkLost | terminated =>
    cases comes
    exact absurd complete (failed _)

theorem exists_attempt_of_ended (ended : (Moment.of config state .turn).ended config = [command]) :
    ∃ link refresh activity attempt, state.mode = .online link refresh activity
      ∧ activity.attempt? = some attempt := by
  have hended : state.ended? config = some command := Option.toList_eq_singleton_iff.mp ended
  rw [State.ended?] at hended
  split at hended
  · rename_i link refresh activity mode
    obtain ⟨attempt, attempted, -⟩ := Option.bind_eq_some_iff.mp hended
    exact ⟨link, refresh, activity, attempt, mode, attempted⟩
  · cases hended

/-- An attempt at a command that was over has not changed the command. -/
theorem command_of_isTerminal {job : Job} {retries : Nat} {attempt : Attempt}
    (out : (reached config epoch steps).mode.activity? = some (.running job retries attempt))
    (terminal : job.command.isTerminal) :
    ∃ before : State, attempt.command = (before.assignSession job.command).1 := by
  obtain ⟨earlier, last, running⟩ :=
    (fares_reached config epoch steps).running job retries attempt out
  have fresh : (last.fresh job).isTerminal := by
    rw [Command.isTerminal, Trial.fresh, status_assigned]
    exact terminal
  refine ⟨last.handing.before, ?_⟩
  rw [running.command_eq, Trial.result, Command.receiveAll_of_isTerminal fresh]
  rfl

/-- A command that is complete when its attempt ends has been completed by the frame that the
attempt takes, or it came complete. -/
theorem hasResult_or_came (config : Config) (epoch : UnixTime) (steps : List Step)
    (ended : (Moment.of config (reached config epoch steps) .turn).ended config = [command])
    (complete : command.status = .complete) :
    (∃ frame, (Moment.of config (reached config epoch steps) .turn).taken = [frame]
        ∧ command.HasResult frame)
      ∨ CameComplete steps command := by
  have fit := fit_reached config epoch steps
  obtain ⟨link, refresh, activity, attempt, mode, attempted⟩ := exists_attempt_of_ended ended
  have doing := (fit.online mode).2.2
  cases activity with
  | idle => cases attempted
  | pausing => cases attempted
  | checking check =>
    cases attempted
    exact .inl (hasResult_of_ended mode rfl doing.2 ended complete)
  | running job retries running =>
    cases attempted
    have out := activity?_of_online mode
    by_cases terminal : job.command.isTerminal
    · obtain ⟨status, same, -⟩ := status_ended fit out ended
      obtain ⟨before, assigned⟩ := command_of_isTerminal out terminal
      have recalled := (recalls_reached config epoch steps).activity job (by rw [mode]; rfl)
      rw [same terminal] at complete ⊢
      rw [assigned]
      exact .inr ((recalled (status.symm.trans complete)).assigned before)
    · have pending : attempt.command.status = .pending :=
        doing.2.2.trans (not_not.mp fun open' => terminal (Command.isTerminal_iff.mpr open'))
      exact .inl (hasResult_of_ended mode rfl pending ended complete)

/-- A command that is complete when it is over was completed in that moment, by the frame that its
attempt took, or it came complete. -/
theorem hasResult_of_finished (config : Config) (epoch : UnixTime) (steps : List Step) :
    ∀ moment ∈ history config epoch steps, ∀ command ∈ moment.finished config,
      command.status = .complete →
      (∃ frame, moment.taken = [frame] ∧ command.HasResult frame)
        ∨ CameComplete steps command := by
  induction steps using List.reverseRecOn with
  | nil => exact List.forall_mem_nil _
  | append_singleton steps step ih =>
    rw [history_concat, List.forall_mem_append, List.forall_mem_singleton]
    have subset : steps ⊆ steps ++ [step] := List.subset_append_left ..
    refine ⟨fun moment member command among complete =>
      (ih moment member command among complete).imp_right (·.mono subset), ?_⟩
    have ended {command : Command}
        (member : command ∈ (Moment.of config (reached config epoch steps) step).ended config)
        (complete : command.status = .complete) :
        (∃ frame, (Moment.of config (reached config epoch steps) step).taken = [frame]
            ∧ command.HasResult frame)
          ∨ CameComplete (steps ++ [step]) command := by
      cases step with
      | event event => cases member
      | turn =>
        have only : (Moment.of config (reached config epoch steps) .turn).ended config
            = [command] :=
          Option.toList_eq_singleton_iff.mpr (Option.mem_toList.mp member)
        exact (hasResult_or_came config epoch steps only complete).imp_right (·.mono subset)
    intro command member complete
    rcases List.mem_append.mp member with member | member
    · exact ended member complete
    · rcases (notes_reached config epoch steps step).came command member complete with here | came
      · exact ended here complete
      · exact .inr came

/-! ## Since the login -/

/-- A reaction that keeps the connection publishes nothing. -/
def Steady (reaction : Reaction) : Prop :=
  reaction.1.mode.activity?.isSome → publications reaction.2 = []

variable {link : Link} {refresh : List Request} {reaction : Reaction} {next : State → Reaction}

theorem steady_of_withdraws (h : Withdraws state reaction) : Steady reaction := by
  intro online
  rw [h.activity?_eq_none] at online
  cases online

theorem steady_loseLink (state : State) : Steady (state.loseLink config) :=
  steady_of_withdraws (withdraws_loseLink config state)

theorem steady_stop (state : State) : Steady state.stop := by
  have stopped : state.stop.1.mode = .stopped := mode_drain state.queue _
  intro online
  rw [stopped] at online
  cases online

theorem Steady.andThen (quiet : publications reaction.2 = []) (h : Steady (next reaction.1)) :
    Steady (reaction.andThen next) := by
  intro online
  rw [Reaction.andThen, publications_append, quiet]
  exact h online

theorem Steady.finish {origin : Origin} (h : Steady (next (state.learn command))) :
    Steady ((state.finish command origin).andThen next) :=
  .andThen (publications_finish command origin state) h

theorem steady_launchesAs {job : Job} {retries : Nat}
    (launches : LaunchesAs config link refresh state job retries reaction) : Steady reaction := by
  cases launches with
  | sent => exact fun _ => rfl
  | refused => exact .finish (steady_loseLink _)

theorem steady_proceed (sendable : ∀ request ∈ refresh, Sendable request.kind) (state : State) :
    Steady (State.proceed config link refresh state) := by
  have proceeds := proceedsAs_proceed config link refresh state sendable
  generalize State.proceed config link refresh state = reaction at proceeds
  cases proceeds with
  | idle => exact fun _ => rfl
  | launch launches => exact steady_launchesAs launches

theorem steady_check (state : State) : Steady (state.check config link refresh) := by
  have checks := checksAs_check config link refresh state
  generalize state.check config link refresh = reaction at checks
  cases checks with
  | sent => exact fun _ => rfl
  | refused => exact steady_loseLink _

theorem steady_concludeCheck {outcome : Outcome}
    (sendable : ∀ request ∈ refresh, Sendable request.kind) (state : State) :
    Steady (state.concludeCheck config link refresh outcome) := by
  cases outcome with
  | done => exact steady_proceed sendable state
  | terminated => exact steady_stop state
  | linkLost => exact steady_loseLink state
  | timedOut => exact steady_loseLink state

theorem steady_conclude {job : Job} {retries : Nat} {outcome : Outcome}
    (sendable : ∀ request ∈ refresh, Sendable request.kind)
    (h : Concludes config link refresh job retries command state outcome reaction) :
    Steady reaction := by
  cases h with
  | again => exact fun _ => rfl
  | settle => exact .finish (steady_concludeCheck sendable _)
  | check => exact .finish (steady_check _)

theorem publications_unsolicited (frame : Frame) (state : State) :
    publications (state.unsolicited frame).2 = [] := by
  unfold State.unsolicited
  split <;> rfl

/-- After a turn there is a connection only if it was there before, and nothing was published, or if
it has just been published. -/
theorem connected_turn (fit : state.Fit) (h : Turns config state reaction)
    (online : reaction.1.mode.activity?.isSome) :
    state.mode.activity?.isSome ∧ publications reaction.2 = []
      ∨ publications reaction.2 = [.connected] := by
  have kept {link : Link} {refresh : List Request} {activity : Activity}
      (mode : state.mode = .online link refresh activity) (steady : Steady reaction) :
      state.mode.activity?.isSome ∧ publications reaction.2 = []
        ∨ publications reaction.2 = [.connected] :=
    .inl ⟨by rw [mode]; rfl, steady online⟩
  cases h with
  | stop =>
    have stopped : state.stop.1.mode = .stopped := mode_drain state.queue _
    rw [stopped] at online
    cases online
  | connect => cases online
  | @reject outage job rest running suspended =>
    obtain ⟨stage, mode⟩ := suspended.offline
    have offline : (State.learn (job.command.fail (.connectivity .gatewayUnavailable))
        { state with queue := rest }).mode = .offline outage stage := (mode_learn ..).trans mode
    change (State.learn _ _).mode.activity?.isSome at online
    rw [offline] at online
    cases online
  | logIn => cases online
  | failAttempt =>
    rw [(withdraws_failAttempt config _ _ state).activity?_eq_none] at online
    cases online
  | keepLoggingIn => cases online
  | goOnline =>
    have steady := steady_proceed (sendable_refreshRequests config _) _ online
    exact .inr (congrArg (ConnectionState.connected :: ·) steady)
  | unsolicited running mode =>
    exact kept mode fun _ => publications_unsolicited _ _
  | loseLink running mode => exact kept mode (steady_loseLink state)
  | @launch link refresh job rest running mode silent alive queue =>
    have launches := launchesAs_launch config link refresh { state with queue := rest }
      config.transientRetries (State.proceed config link refresh) (fit.front queue).1.sendable
    exact kept mode (steady_launchesAs launches)
  | ongoing mode => exact kept mode fun _ => rfl
  | unclaimed mode => exact kept mode fun _ => publications_unsolicited _ _
  | conclude mode =>
    exact kept mode (steady_conclude (fit.online mode).2.1 (concludes_conclude ..))
  | stopPause mode => exact kept mode (.finish (steady_stop _))
  | @resume link refresh job retries resume running mode =>
    have fitting : job.Fit := (fit.online mode).2.2
    exact kept mode (steady_launchesAs
      (launchesAs_launch config link refresh state retries _ fitting.sendable))
  | keepChecking mode => exact kept mode fun _ => rfl
  | unclaimedByCheck mode => exact kept mode fun _ => publications_unsolicited _ _
  | concludeCheck mode => exact kept mode (steady_concludeCheck (fit.online mode).2.1 _)

/-- The moment of the last login in a history, with what went before it and what came since: it
publishes that there is a connection, and nothing has been published since. -/
structure LoggedIn (past before : List Moment) (login : Moment) (since : List Moment) : Prop where
  history : past = before ++ login :: since
  login : publications login.effects = [.connected]
  since : ∀ moment ∈ since, publications moment.effects = []

theorem loggedIn_moment {past : List Moment} (step : Step) (fit : state.Fit)
    (h : state.mode.activity?.isSome → ∃ before login since, LoggedIn past before login since)
    (online : (Moment.of config state step).after.mode.activity?.isSome) :
    ∃ before login since, LoggedIn (past ++ [.of config state step]) before login since := by
  have extend (before : state.mode.activity?.isSome)
      (quiet : publications (Moment.of config state step).effects = []) :
      ∃ before login since, LoggedIn (past ++ [.of config state step]) before login since := by
    obtain ⟨before, login, since, rfl, hlogin, hsince⟩ := h before
    refine ⟨before, login, since ++ [.of config state step], ?_, hlogin, ?_⟩
    · rw [List.append_assoc, List.cons_append]
    · rw [List.forall_mem_append, List.forall_mem_singleton]
      exact ⟨hsince, quiet⟩
  cases step with
  | event event =>
    have same : (state.occur event).1.mode.activity? = state.mode.activity? :=
      (occur_keeps event state).1
    exact extend (same ▸ online) (publications_occur event state)
  | turn =>
    cases hturn : state.turn? config with
    | none =>
      rw [moment_of_no_turn hturn] at online extend ⊢
      exact extend online rfl
    | some reaction =>
      rw [moment_of_turn hturn] at online extend ⊢
      rcases connected_turn fit (turns_of_turn hturn) online with ⟨before, quiet⟩ | connected
      · exact extend before quiet
      · exact ⟨past, _, [], rfl, connected, List.forall_mem_nil _⟩

theorem loggedIn_reached (config : Config) (epoch : UnixTime) (steps : List Step)
    (connected : (reached config epoch steps).published = .connected) :
    ∃ before login since, LoggedIn (history config epoch steps) before login since := by
  have online : (reached config epoch steps).mode.activity?.isSome := by
    obtain ⟨standing, -, placed⟩ := placed_reached config epoch steps
    obtain rfl := placed.of_connected connected
    cases placed with
    | linked mode =>
      rw [mode]
      rfl
  suffices h : (reached config epoch steps).Fit
      ∧ ((reached config epoch steps).mode.activity?.isSome → ∃ before login since,
        LoggedIn (history config epoch steps) before login since) from h.2 online
  refine @history_induction (fun past state => state.Fit ∧ (state.mode.activity?.isSome →
    ∃ before login since, LoggedIn past before login since)) config epoch steps ?_ ?_
  · obtain ⟨outage, stage, mode⟩ := (withdraws_start config epoch).offline
    refine ⟨fit_start config epoch, fun online => ?_⟩
    rw [mode] at online
    cases online
  · rintro past state step ⟨fit, loggedIn⟩
    exact ⟨fit_moment config state step fit, loggedIn_moment step fit loggedIn⟩

end

/-- **Properties are those of the last commands that read them, whichever connection that was on.**
Whatever happens to a processor and in whatever order:

* The properties are what the last complete commands of the whole run have told.
* A command that is complete when it is over has just been completed by the frame that its attempt
  took, and has its result from it, or the caller submitted it complete.
* While the processor is connected, a property is the one read since the last login, or none if it
  has not been read since, if and only if a command has read it since or there was none before. If
  no command succeeds in reading it on the new connection, what was read on an earlier one stays. -/
theorem properties_current_iff (config : Config) (epoch : UnixTime) (steps : List Step) :
    let past := history config epoch steps
    let state := reached config epoch steps
    state.properties = .told (past.flatMap (Moment.finished config))
    ∧ (∀ moment ∈ past, ∀ command ∈ moment.finished config, command.status = .complete →
        (∃ frame, moment.taken = [frame] ∧ command.HasResult frame)
          ∨ CameComplete steps command)
    ∧ (state.published = .connected → ∃ before login since, LoggedIn past before login since
        ∧ let earlier := before.flatMap (Moment.finished config)
          let here := (login :: since).flatMap (Moment.finished config)
          (state.properties.version? = (Properties.told here).version?
            ↔ (∃ command ∈ here, command.status = .complete ∧ command.kind = .getVersion)
              ∨ (Properties.told earlier).version? = none)
          ∧ (state.properties.protocol? = (Properties.told here).protocol?
            ↔ (∃ command ∈ here, command.status = .complete ∧ command.kind = .getProtocol)
              ∨ (Properties.told earlier).protocol? = none)) := by
  intro past state
  have told : state.properties = .told (past.flatMap (Moment.finished config)) :=
    told_reached config epoch steps
  refine ⟨told, hasResult_of_finished config epoch steps, fun connected => ?_⟩
  obtain ⟨before, login, since, loggedIn⟩ := loggedIn_reached config epoch steps connected
  refine ⟨before, login, since, loggedIn, ?_⟩
  rw [told, show past = before ++ login :: since from loggedIn.history, List.flatMap_append]
  exact ⟨told_by_later_iff Findings.version? _ _, told_by_later_iff Findings.protocol? _ _⟩

/-- The connection is lost and made again, and the gateway tells another version than before. This
is the one that is known then. -/
theorem properties_current_iff_of_reconnected :
    let config : Config :=
      { hostname := "gateway", password := "secret", refreshOnConnect := false }
    let steps : List Step :=
      loginSteps ++ arrival versionAnswer
        ++ [.event (.dry .closed), .turn, .event (.elapse 1000000000), .turn] ++ loginSteps
        ++ arrival ⟨0x0009, [0, 2, 0, 0, 72, 0, 6, 14, 3]⟩
    let state := reached config 0 steps
    state.published = .connected
      ∧ state.properties.version?.map GatewayVersion.software = some [0, 2, 0, 0, 72, 0]
      ∧ ∃ before login since, LoggedIn (history config 0 steps) before login since
        ∧ let here := (login :: since).flatMap (Moment.finished config)
          (state.properties.version? = (Properties.told here).version?
            ↔ (∃ command ∈ here, command.status = .complete ∧ command.kind = .getVersion)
              ∨ (Properties.told (before.flatMap (Moment.finished config))).version? = none) := by
  intro config steps state
  have connected : state.published = .connected := by decide +kernel
  obtain ⟨before, login, since, loggedIn, version, -⟩ :=
    (properties_current_iff config 0 steps).2.2 connected
  exact ⟨connected, by decide +kernel, before, login, since, loggedIn, version⟩

/-- The connection is lost and made again, and the gateway does not tell its version this time. The
processor is connected, nothing has told a version since, and the one from before is still there. -/
theorem version_outlives_connection :
    let config : Config :=
      { hostname := "gateway", password := "secret", refreshOnConnect := false }
    let first : List Step := loginSteps ++ refreshSteps versionAnswer
    let lost : List Step := [.event (.dry .closed), .turn, .event (.elapse 1000000000), .turn]
    let again : List Step := loginSteps ++ refreshSteps ⟨0x0000, [0]⟩
    let state := reached config 0 (first ++ lost ++ again)
    let since := moments config again (reached config 0 (first ++ lost))
    (reached config 0 (first ++ lost)).published = .reconnecting 1
      ∧ state.published = .connected
      ∧ (Properties.told (since.flatMap (Moment.finished config))).version? = none
      ∧ state.properties.version?.map GatewayVersion.software = some [0, 2, 0, 0, 71, 0] := by
  decide +kernel

end ShutterGateway.Processor
