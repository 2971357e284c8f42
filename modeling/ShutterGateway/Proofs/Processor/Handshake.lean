import ShutterGateway.Proofs.Processor.Buffer
import ShutterGateway.Proofs.Processor.Protocol

/-!
Every run of a processor keeps to the protocol, whatever happens and in whatever order. What is
noted in a turn is the frame that it takes during the login, the end of an attempt, the job that
comes from the queue, and what the turn does to the connection, in this order. Where the processor
is tells the phase.
-/

namespace ShutterGateway.Processor

/-! ## What is noted -/

/-- What an effect does to a connection. -/
def Effect.entry? : Effect → Option Entry
  | .connect => some .connect
  | .send frame => some (.wrote frame)
  | .hangUp => some .hungUp
  | .attemptFailed error => some (.failed error)
  | .publish state => some (.published state)
  | .answer _ _ | .abandon _ | .notify _ => none

/-- What some effects do to a connection, in their order. -/
def entries (effects : List Effect) : List Entry :=
  effects.filterMap Effect.entry?

@[simp] theorem entries_append (a b : List Effect) : entries (a ++ b) = entries a ++ entries b :=
  List.filterMap_append

namespace State

/-- The frame of the login that the next turn takes, if it takes one. -/
def heard (state : State) : List Entry :=
  match state.mode with
  | .offline _ _ =>
    state.next?.toList.map (.heard · (state.epoch + state.now / Duration.nanosPerSecond))
  | _ => []

/-- The job that has come from the queue, unless the processor has stopped. -/
def took (before after : State) : List Job :=
  if before.mode.activity? = some .idle ∧ after.mode ≠ .stopped then
    before.queue.take (before.queue.length - after.queue.length)
  else []

/-- What a turn to some state takes note of before it has any effect. -/
def noted (config : Config) (before after : State) : List Entry :=
  before.heard ++ (before.ended? config).toList.map .ended ++ (before.took after).map .took

end State

/-- What is noted in a moment. -/
def Moment.entries (config : Config) (moment : Moment) : List Entry :=
  (match moment.step with
    | .turn => moment.before.noted config moment.after
    | .event _ => [])
  ++ Processor.entries moment.effects

/-- How far things have come where the processor is. -/
inductive Stands : Mode → Phase → Prop where
  | stopped : Stands .stopped .closed
  | waiting {outage : Outage} {resume : Instant} :
    Stands (.offline outage (.waiting resume)) .closed
  | connecting {outage : Outage} {deadline : Instant} {result? : Option Bool} :
    Stands (.offline outage (.connecting deadline result?)) .opened
  | loggingIn {outage : Outage} {link : Link} {login : Attempt}
    (kind : login.command.kind = .login) (pending : login.command.status = .pending) :
    Stands (.offline outage (.loggingIn link login)) .asked
  | idle {link : Link} : Stands (.online link [] .idle) (.ready [])
  | running {link : Link} {refresh : List Request} {request : Request} {retries : Nat}
    {attempt : Attempt} :
    Stands (.online link refresh (.running ⟨{ request := request }, .internal⟩ retries attempt))
      (.awaiting request retries refresh)
  | pausing {link : Link} {refresh : List Request} {request : Request} {retries : Nat}
    {resume : Instant} :
    Stands (.online link refresh (.pausing ⟨{ request := request }, .internal⟩ retries resume))
      (.repeating request retries refresh)
  | checking {link : Link} {refresh : List Request} {attempt : Attempt} :
    Stands (.online link refresh (.checking attempt)) (.checking refresh)
  | serving {link : Link} {activity : Activity} : Stands (.online link [] activity) .serving

/-! ## Functions of the processor -/

/-- What has been noted already and what a reaction does are in keeping with the protocol. -/
def Carries (config : Config) (phase : Phase) (log : List Entry) (reaction : Reaction) : Prop :=
  ∃ last, phase.Follows config (log ++ entries reaction.2) last ∧ Stands reaction.1.mode last

section

variable {config : Config} {link : Link} {refresh : List Request} {state : State}
  {reaction : Reaction} {phase next : Phase} {entry : Entry} {log : List Entry}

theorem Carries.lead (leads : phase.Leads config entry next)
    (h : Carries config next log reaction) : Carries config phase (entry :: log) reaction := by
  obtain ⟨last, follows, stands⟩ := h
  exact ⟨last, .step leads follows, stands⟩

theorem Carries.after {effect : Effect} (noted : effect.entry? = some entry)
    (leads : phase.Leads config entry next) (h : Carries config next [] reaction) :
    Carries config phase [] (.after effect reaction) := by
  obtain ⟨last, follows, stands⟩ := h
  refine ⟨last, ?_, stands⟩
  show Phase.Follows config phase ((effect :: reaction.2).filterMap Effect.entry?) last
  rw [List.filterMap_cons_some noted]
  exact .step leads follows

/-- A reaction that nothing is noted of. -/
theorem carries_of_quiet (quiet : entries reaction.2 = []) (stands : Stands reaction.1.mode phase) :
    Carries config phase [] reaction := by
  refine ⟨phase, ?_, stands⟩
  rw [quiet]
  exact .refl

theorem Carries.andThen {handle : State → Reaction} (quiet : entries reaction.2 = [])
    (h : Carries config phase [] (handle reaction.1)) :
    Carries config phase [] (reaction.andThen handle) := by
  obtain ⟨last, follows, stands⟩ := h
  refine ⟨last, ?_, stands⟩
  rw [Reaction.andThen, entries_append, quiet]
  exact follows

/-! ### Without a connection -/

theorem carries_approach (outage : Outage) (state : State) :
    Carries config .closed [] (state.approach config outage) := by
  unfold State.approach
  split
  · exact ⟨.opened, .step .connect .refl, .connecting⟩
  · exact carries_of_quiet rfl .waiting

theorem carries_announce {published : ConnectionState} (unconnected : published ≠ .connected)
    (outage : Outage) (state : State) :
    Carries config .closed [] ((state.publish published).andThen (State.approach config outage)) :=
  (carries_approach outage _).after rfl (.announce unconnected)

theorem carries_establish (state : State) : Carries config .closed [] (state.establish config) := by
  unfold State.establish
  split
  · exact carries_announce (by nofun) _ state
  · exact carries_announce (by nofun) _ state

theorem carries_loseLink (undenied : ¬ phase.isDenied) (state : State) :
    Carries config phase [] (state.loseLink config) :=
  (carries_establish state).after rfl (.hangUp undenied)

theorem carries_countFailure (outage : Outage) (state : State) :
    Carries config .closed []
      ((state.publish (if config.backoff.unavailableAfter ≤ countUp outage.failures
          then .unavailable else .reconnecting (countUp outage.attempt))).andThen
        (State.approach config ⟨countUp outage.failures, countUp outage.attempt⟩)) := by
  refine carries_announce ?_ _ state
  split <;> exact nofun

theorem carries_failAttempt (undenied : ¬ phase.isDenied) (outage : Outage) (error : LinkError)
    (state : State) : Carries config phase [] (state.failAttempt config outage error) :=
  ((carries_countFailure outage state).after rfl .note).after rfl (.hangUp undenied)

/-- A login that is refused makes the attempt fail. -/
theorem carries_denied (outage : Outage) (error : CommandError) (state : State) :
    Carries config .denied [] (state.failAttempt config outage (.authRejected error)) :=
  ((carries_countFailure outage state).after rfl .fail).after rfl .reject

theorem overlooks_entry : Overlooks Effect.entry? :=
  ⟨fun _ _ => rfl, fun _ => rfl, fun _ => rfl⟩

theorem entries_finish (command : Command) (origin : Origin) (state : State) :
    entries (state.finish command origin).2 = [] :=
  filterMap_finish overlooks_entry command origin state

theorem Carries.finish {handle : State → Reaction} {command : Command} {origin : Origin}
    (h : ∀ later, Carries config phase [] (handle later)) :
    Carries config phase [] ((state.finish command origin).andThen handle) :=
  (h _).andThen (entries_finish command origin state)

theorem carries_stop (undenied : ¬ phase.isDenied) (state : State) :
    Carries config phase [] state.stop := by
  refine Carries.after rfl (.hangUp undenied) ?_
  refine Carries.andThen (filterMap_drain overlooks_entry _ _) ?_
  refine ⟨.closed, .step (.announce nofun) .refl, ?_⟩
  have hmode : (State.drain state.queue { state with mode := .stopped, queue := [] }).1.mode
      = .stopped := mode_drain state.queue _
  show Stands (State.drain _ _).1.mode _
  rw [hmode]
  exact .stopped

/-! ### On a connection -/

/-- The request goes out, or the connection is found to take nothing more. -/
theorem carries_launchesAs {job : Job} {retries : Nat} (undenied : ¬ phase.isDenied)
    (write : ∀ frame, job.command.request.Asks frame →
      ∃ next, phase.Leads config (.wrote frame) next
        ∧ ∀ attempt, Stands (.online link refresh (.running job retries attempt)) next)
    (h : LaunchesAs config link refresh state job retries reaction) :
    Carries config phase [] reaction := by
  cases h with
  | @sent frame deadline taking frame? =>
    obtain ⟨next, leads, stands⟩ := write frame ⟨_, request_assigned state _, frame?⟩
    exact ⟨next, .step leads .refl, stands _⟩
  | refused refusing =>
    exact Carries.finish fun later => carries_loseLink undenied later

theorem carries_proceed (sendable : ∀ request ∈ refresh, Sendable request.kind) (state : State) :
    Carries config (.ready refresh) [] (State.proceed config link refresh state) := by
  have proceeds := proceedsAs_proceed config link refresh state sendable
  generalize State.proceed config link refresh state = reaction at proceeds
  cases proceeds with
  | idle => exact carries_of_quiet rfl .idle
  | launch launches =>
    refine carries_launchesAs (by nofun) (fun frame asks => ?_) launches
    exact ⟨_, .request asks, fun _ => .running⟩

theorem carries_proceed_serving (state : State) :
    Carries config .serving [] (State.proceed config link [] state) :=
  carries_of_quiet rfl .serving

theorem carries_check (undenied : ¬ phase.isDenied)
    (write : ∀ frame, Request.ping.Asks frame →
      ∃ next, phase.Leads config (.wrote frame) next
        ∧ ∀ attempt, Stands (.online link refresh (.checking attempt)) next)
    (state : State) : Carries config phase [] (state.check config link refresh) := by
  have checks := checksAs_check config link refresh state
  generalize state.check config link refresh = reaction at checks
  cases checks with
  | @sent attempt frame taking request status frame? =>
    obtain ⟨next, leads, stands⟩ := write frame ⟨_, request, frame?⟩
    exact ⟨next, .step leads .refl, stands _⟩
  | refused refusing => exact carries_loseLink undenied _

theorem not_again_of_fail {command : Command} (pending : command.status = .pending)
    {error : CommandError} (lasting : ¬ error.isTransient) (retries : Nat) :
    ¬ ((command.fail error).error?.any (·.isTransient) ∧ 0 < retries) := by
  rw [error?_fail_of_pending pending]
  exact fun h => lasting h.1

/-- What follows a check, wherever it was made. -/
theorem carries_concludeCheck {outcome : Outcome} (undenied : ¬ phase.isDenied)
    (proceeds : Carries config phase [] (State.proceed config link refresh state)) :
    Carries config phase [] (state.concludeCheck config link refresh outcome) := by
  cases outcome with
  | done => exact proceeds
  | terminated => exact carries_stop undenied state
  | linkLost => exact carries_loseLink undenied state
  | timedOut => exact carries_loseLink undenied state

/-- Only an answer refuses a command for now. -/
theorem not_again_of_settled {left : Link} {retries : Nat} {attempt : Attempt} {command : Command}
    {outcome : Outcome} (pending : attempt.command.status = .pending)
    (comes : attempt.Comes config state link (.ended command outcome, left))
    (settled : ¬ Again command outcome retries) :
    ¬ (command.error?.any (·.isTransient) ∧ 0 < retries) := by
  cases comes with
  | done => exact fun again => settled ⟨rfl, again⟩
  | terminated | linkLost | timedOut => exact not_again_of_fail pending (by nofun) retries

/-- What follows an attempt at a request of the refresh. -/
theorem carries_conclude {left : Link} {request : Request} {retries : Nat} {attempt : Attempt}
    {command : Command} {outcome : Outcome} {reaction : Reaction}
    (pending : attempt.command.status = .pending)
    (sendable : ∀ request ∈ refresh, Sendable request.kind)
    (comes : attempt.Comes config state link (.ended command outcome, left))
    (h : Concludes config left refresh ⟨{ request := request }, .internal⟩ retries command state
      outcome reaction) :
    Carries config (.awaiting request retries refresh) [.ended command] reaction := by
  cases h with
  | again again =>
    exact Carries.lead (.again again.2.1 again.2.2) (carries_of_quiet rfl .pausing)
  | settle settled =>
    refine Carries.lead (.settle (not_again_of_settled pending comes settled)) ?_
    exact Carries.finish fun later =>
      carries_concludeCheck (by nofun) (carries_proceed sendable later)
  | check =>
    -- A request that got no answer in time is not repeated, but the connection is checked.
    cases comes with
    | timedOut =>
      have late := error?_fail_of_pending pending .timeout
      refine Carries.lead (.late late) (Carries.finish fun later => ?_)
      exact carries_check (by nofun) (fun frame asks => ⟨_, .check asks, fun _ => .checking⟩) later

theorem carries_conclude_serving {job : Job} {retries : Nat} {command : Command}
    {outcome : Outcome} {reaction : Reaction}
    (h : Concludes config link [] job retries command state outcome reaction) :
    Carries config .serving [.ended command] reaction := by
  refine Carries.lead .finish ?_
  cases h with
  | again => exact carries_of_quiet rfl .serving
  | settle =>
    exact Carries.finish fun later =>
      carries_concludeCheck (by nofun) (carries_proceed_serving later)
  | check =>
    refine Carries.finish fun later => ?_
    exact carries_check (by nofun)
      (fun frame asks => ⟨_, .write sendable_ping asks, fun _ => .serving⟩) later

/-! ## What a turn notes before its effects -/

theorem Stands.undenied {mode : Mode} (h : Stands mode phase) : ¬ phase.isDenied := by
  cases h <;> exact nofun

theorem took_of_queue {before after : State} (h : after.queue = before.queue) :
    before.took after = [] := by
  rw [State.took, h, Nat.sub_self]
  split <;> rfl

theorem took_of_launch {before after : State} {job : Job} {rest : List Job}
    (idle : before.mode.activity? = some .idle) (running : after.mode ≠ .stopped)
    (queue : before.queue = job :: rest) (left : after.queue = rest) :
    before.took after = [job] := by
  rw [State.took, if_pos ⟨idle, running⟩, queue, left, List.length_cons, Nat.add_sub_cancel_left]
  rfl

theorem LaunchesAs.running {job : Job} {retries : Nat}
    (h : LaunchesAs config link refresh state job retries reaction) :
    reaction.1.mode ≠ .stopped := by
  cases h with
  | sent => exact nofun
  | refused =>
    obtain ⟨outage, stage, mode⟩ := (withdraws_loseLink config _).offline
    exact fun stopped => nomatch mode.symm.trans stopped

theorem took_of_busy {before after : State} (h : before.mode.activity? ≠ some .idle) :
    before.took after = [] :=
  if_neg fun idle => h idle.1

theorem noted_of_offline {outage : Outage} {stage : Stage}
    (mode : state.mode = .offline outage stage) (after : State) :
    state.noted config after = state.heard := by
  have hended : state.ended? config = none := (owed_of_offline config mode).2.1
  have htook : state.took after = [] := by
    apply took_of_busy
    rw [mode]
    exact nofun
  rw [State.noted, hended, htook]
  simp

theorem noted_of_online {activity : Activity} (mode : state.mode = .online link refresh activity)
    (after : State) :
    state.noted config after
      = (state.ended? config).toList.map .ended ++ (state.took after).map .took := by
  rw [State.noted, State.heard, mode]
  rfl

theorem noted_of_idle (mode : state.mode = .online link refresh .idle) (after : State) :
    state.noted config after = (state.took after).map .took := by
  have hended : state.ended? config = none := by
    rw [State.ended?, mode]
    rfl
  rw [noted_of_online mode, hended]
  rfl

theorem noted_of_busy {activity : Activity} (mode : state.mode = .online link refresh activity)
    (busy : activity ≠ .idle) (after : State) :
    state.noted config after = (state.ended? config).toList.map .ended := by
  have htook : state.took after = [] := by
    apply took_of_busy
    rw [mode]
    exact fun h => busy (Option.some.inj h)
  rw [noted_of_online mode, htook]
  exact List.append_nil _

theorem heard_of_silent (h : state.next? = none) : state.heard = [] := by
  rw [State.heard, h]
  split <;> rfl

theorem heard_of_arrived {outage : Outage} {login : Attempt} {frame : Frame} {rest : List Frame}
    (running : ¬ state.terminating) (mode : state.mode = .offline outage (.loggingIn link login))
    (arrived : link.inbound = frame :: rest) :
    state.heard = [.heard frame (state.epoch + state.now / Duration.nanosPerSecond)] := by
  have hnext : state.next? = some frame := by
    rw [next?_of_loggingIn running mode, arrived]
    rfl
  rw [State.heard, hnext, mode]
  rfl

/-- When the processor stops nothing comes from the queue, although it is emptied. -/
theorem noted_of_stop
    (free : (∃ outage stage, state.mode = .offline outage stage)
      ∨ ∃ link refresh, state.mode = .online link refresh .idle)
    (terminating : state.terminating) : state.noted config state.stop.1 = [] := by
  rcases free with ⟨outage, stage, mode⟩ | ⟨link, refresh, mode⟩
  · rw [noted_of_offline mode, heard_of_silent (next?_of_terminating terminating)]
  · have hmode : state.stop.1.mode = .stopped := mode_drain state.queue _
    rw [noted_of_idle mode, State.took, if_neg fun h => h.2 hmode]
    rfl

theorem entries_unsolicited (frame : Frame) (state : State) :
    entries (state.unsolicited frame).2 = [] := by
  unfold State.unsolicited
  split <;> rfl

/-! ## Turns -/

theorem carries_unsolicited (frame : Frame) (stands : Stands state.mode phase) :
    Carries config phase [] (state.unsolicited frame) := by
  refine carries_of_quiet (entries_unsolicited ..) ?_
  rwa [state_unsolicited]

/-! ### The login -/

section

variable {outage : Outage} {login : Attempt} {frame : Frame} {time : UnixTime}

theorem leads_of_accepted (stands : Stands (.offline outage (.loggingIn link login)) phase)
    (accepted : Login.receive login.command frame = .accepted) :
    phase.Leads config (.heard frame time) (.granted (config.greeting time)) := by
  cases stands with
  | loggingIn kind pending =>
    rcases Login.receive_cases kind pending frame with
      ⟨grants, -⟩ | ⟨-, cause, rejected⟩ | ⟨-, undecided⟩
    · exact .grant grants
    · cases rejected.symm.trans accepted
    · cases undecided.symm.trans accepted

/-- Whenever the frame makes the attempt fail, the gateway has refused the password. -/
theorem leads_of_failed {error : LinkError}
    (stands : Stands (.offline outage (.loggingIn link login)) phase)
    (failed : Login.receive login.command frame = .failed error) :
    (∃ cause, error = .authRejected cause) ∧ phase.Leads config (.heard frame time) .denied := by
  cases stands with
  | loggingIn kind pending =>
    rcases Login.receive_cases kind pending frame with
      ⟨-, accepted⟩ | ⟨refuses, cause, rejected⟩ | ⟨-, undecided⟩
    · cases accepted.symm.trans failed
    · cases rejected.symm.trans failed
      exact ⟨⟨cause, rfl⟩, .refuse refuses⟩
    · cases undecided.symm.trans failed

theorem leads_of_pending {command : Command}
    (stands : Stands (.offline outage (.loggingIn link login)) phase)
    (kept : Login.receive login.command frame = .pending command) :
    command = login.command ∧ phase.Leads config (.heard frame time) phase := by
  cases stands with
  | loggingIn kind pending =>
    rcases Login.receive_cases kind pending frame with
      ⟨-, accepted⟩ | ⟨-, cause, rejected⟩ | ⟨undecided, same⟩
    · cases accepted.symm.trans kept
    · cases rejected.symm.trans kept
    · cases same.symm.trans kept
      exact ⟨rfl, .pass undecided⟩

/-- The rest of the login is like the login so far. -/
theorem Stands.loggingOn {later : Link} {deadline : Instant}
    (h : Stands (.offline outage (.loggingIn link login)) phase) :
    Stands (.offline outage (.loggingIn later ⟨login.command, deadline⟩)) phase := by
  cases h with
  | loggingIn kind pending => exact .loggingIn kind pending

end

theorem carries_fails {outage : Outage} {error : LinkError} (running : ¬ state.terminating)
    (stands : Stands state.mode phase) (h : Fails config state outage error) :
    Carries config phase (state.noted config (state.failAttempt config outage error).1)
      (state.failAttempt config outage error) := by
  -- Unless a frame is taken, there is nothing to note but the failure.
  have silently (silent : state.next? = none) :
      Carries config phase (state.noted config (state.failAttempt config outage error).1)
        (state.failAttempt config outage error) := by
    obtain ⟨stage, mode⟩ := h.offline
    rw [noted_of_offline mode, heard_of_silent silent]
    exact carries_failAttempt stands.undenied outage error state
  cases h with
  | refused mode | late mode | unsendable mode =>
    refine silently (next?_of_not_listens ?_)
    rw [mode]
    rfl
  | dropped mode silent | unanswered mode silent =>
    refine silently (next?_of_silent ?_)
    rw [State.buffered, mode]
    exact silent
  | denied mode arrived failed =>
    rw [noted_of_offline mode, heard_of_arrived running mode arrived]
    obtain ⟨⟨cause, rfl⟩, leads⟩ := leads_of_failed (mode ▸ stands) failed
    exact Carries.lead leads (carries_denied outage cause state)

/-! ### What is carried out -/

section

variable {left : Link} {job : Job} {retries : Nat}

/-- Whatever has arrived, an idle processor has come as far as before. -/
theorem Stands.idling (h : Stands (.online link refresh .idle) phase) :
    Stands (.online left refresh .idle) phase := by
  cases h with
  | idle => exact .idle
  | serving => exact .serving

/-- As long as an attempt goes on, things stay as they are. -/
theorem Stands.trying {attempt later : Attempt}
    (h : Stands (.online link refresh (.running job retries attempt)) phase) :
    Stands (.online left refresh (.running job retries later)) phase := by
  cases h with
  | running => exact .running
  | serving => exact .serving

theorem Stands.checkingOn {attempt later : Attempt}
    (h : Stands (.online link refresh (.checking attempt)) phase) :
    Stands (.online left refresh (.checking later)) phase := by
  cases h with
  | checking => exact .checking
  | serving => exact .serving

/-- A job comes from the queue when nothing is left of the refresh. -/
theorem carries_launch (sendable : Sendable job.command.kind)
    (stands : Stands (.online link refresh .idle) phase) :
    Carries config phase [.took job]
      (State.launch config link refresh job retries (State.proceed config link refresh) state) := by
  obtain ⟨rfl, took⟩ : refresh = [] ∧ phase.Leads config (.took job) .serving := by
    cases stands with
    | idle => exact ⟨rfl, .serve⟩
    | serving => exact ⟨rfl, .take⟩
  have launches := launchesAs_launch config link [] state retries (State.proceed config link [])
    sendable
  refine Carries.lead took (carries_launchesAs (by nofun) (fun frame asks => ?_) launches)
  exact ⟨_, .write sendable asks, fun _ => .serving⟩

/-- After the pause the same request goes out again. -/
theorem carries_resume {resume : Instant} (sendable : Sendable job.command.kind)
    (stands : Stands (.online link refresh (.pausing job retries resume)) phase) :
    Carries config phase []
      (State.launch config link refresh job retries (State.proceed config link refresh) state) := by
  have launches := launchesAs_launch config link refresh state retries
    (State.proceed config link refresh) sendable
  refine carries_launchesAs stands.undenied (fun frame asks => ?_) launches
  cases stands with
  | pausing => exact ⟨_, .resend asks, fun _ => .running⟩
  | serving => exact ⟨_, .write sendable asks, fun _ => .serving⟩

/-- The end of an attempt, whether its request belongs to the refresh or a job was waiting. -/
theorem carries_ended {attempt : Attempt} {command : Command} {outcome : Outcome}
    (fit : state.Fit) (mode : state.mode = .online link refresh (.running job retries attempt))
    (stands : Stands (.online link refresh (.running job retries attempt)) phase)
    (comes : attempt.Comes config state link (.ended command outcome, left)) :
    Carries config phase [.ended command]
      (state.conclude config left refresh job retries command outcome) := by
  cases stands with
  | running =>
    exact carries_conclude (fit.pending mode rfl) (fit.online mode).2.1 comes
      (concludes_conclude ..)
  | serving => exact carries_conclude_serving (concludes_conclude ..)

theorem carries_checked {attempt : Attempt} {command : Command} {outcome : Outcome}
    (sendable : ∀ request ∈ refresh, Sendable request.kind)
    (stands : Stands (.online link refresh (.checking attempt)) phase) :
    Carries config phase [.ended command] (state.concludeCheck config left refresh outcome) := by
  cases stands with
  | checking =>
    exact Carries.lead .checked (carries_concludeCheck (by nofun) (carries_proceed sendable _))
  | serving =>
    exact Carries.lead .finish (carries_concludeCheck (by nofun) (carries_proceed_serving _))

end

/-- Every turn is in keeping with the protocol. -/
theorem carries_turn (fit : state.Fit) (stands : Stands state.mode phase)
    (h : Turns config state reaction) :
    Carries config phase (state.noted config reaction.1) reaction := by
  cases h with
  | stop free terminating =>
    rw [noted_of_stop free terminating]
    exact carries_stop stands.undenied state
  | connect running mode due =>
    rw [noted_of_offline mode, heard_of_silent (next?_of_not_listens (by rw [mode]; rfl))]
    rw [mode] at stands
    cases stands
    exact ⟨.opened, .step .connect .refl, .connecting⟩
  | @reject outage job rest running suspended =>
    obtain ⟨stage, mode⟩ := suspended.offline
    rw [noted_of_offline mode, heard_of_silent (next?_of_silent suspended.buffered)]
    refine carries_of_quiet (entries_finish ..) ?_
    show Stands (State.learn _ _).mode phase
    rw [mode_learn]
    exact stands
  | logIn running mode start =>
    rw [noted_of_offline mode, heard_of_silent (next?_of_not_listens (by rw [mode]; rfl))]
    rw [mode] at stands
    cases stands
    obtain ⟨kind, pending⟩ := Login.command_of_start start
    exact ⟨.asked, .step (.ask start) .refl, .loggingIn kind pending⟩
  | failAttempt running fails => exact carries_fails running stands fails
  | keepLoggingIn running mode arrived kept =>
    rw [noted_of_offline mode, heard_of_arrived running mode arrived]
    rw [mode] at stands
    obtain ⟨rfl, leads⟩ := leads_of_pending stands kept
    exact Carries.lead leads (carries_of_quiet rfl stands.loggingOn)
  | goOnline running mode arrived accepted =>
    rw [noted_of_offline mode, heard_of_arrived running mode arrived]
    refine Carries.lead (leads_of_accepted (mode ▸ stands) accepted) (Carries.after rfl .publish ?_)
    exact carries_proceed (sendable_refreshRequests config state) _
  | unsolicited running mode =>
    rw [noted_of_idle mode, took_of_queue (by rw [state_unsolicited])]
    exact carries_unsolicited _ (mode ▸ stands).idling
  | loseLink running mode =>
    rw [noted_of_idle mode, took_of_queue (withdraws_loseLink config state).queue]
    exact carries_loseLink stands.undenied state
  | @launch link refresh job rest running mode silent alive queue =>
    have sendable := (fit.front queue).1.sendable
    have launches := launchesAs_launch config link refresh { state with queue := rest }
      config.transientRetries (State.proceed config link refresh) sendable
    have hrest : (State.launch config link refresh job config.transientRetries
        (State.proceed config link refresh) { state with queue := rest }).1.queue = rest :=
      queue_launch link refresh job _ (queue_proceed link refresh) _
    rw [noted_of_idle mode, took_of_launch (by rw [mode]; rfl) launches.running queue hrest]
    exact carries_launch sendable (mode ▸ stands)
  | ongoing mode comes =>
    rw [noted_of_busy mode nofun, ended?_of_comes mode rfl comes]
    exact carries_of_quiet rfl (mode ▸ stands).trying
  | unclaimed mode comes =>
    rw [noted_of_busy mode nofun, ended?_of_comes mode rfl comes]
    exact carries_unsolicited _ (mode ▸ stands).trying
  | conclude mode comes =>
    rw [noted_of_busy mode nofun, ended?_of_comes mode rfl comes]
    exact carries_ended fit mode (mode ▸ stands) comes
  | stopPause mode terminating =>
    rw [noted_of_busy mode nofun, ended?_of_free mode rfl]
    exact Carries.finish fun later => carries_stop stands.undenied later
  | resume running mode due =>
    rw [noted_of_busy mode nofun, ended?_of_free mode rfl]
    obtain ⟨-, -, hjob⟩ := fit.online mode
    exact carries_resume hjob.sendable (mode ▸ stands)
  | keepChecking mode comes =>
    rw [noted_of_busy mode nofun, ended?_of_comes mode rfl comes]
    exact carries_of_quiet rfl (mode ▸ stands).checkingOn
  | unclaimedByCheck mode comes =>
    rw [noted_of_busy mode nofun, ended?_of_comes mode rfl comes]
    exact carries_unsolicited _ (mode ▸ stands).checkingOn
  | concludeCheck mode comes =>
    rw [noted_of_busy mode nofun, ended?_of_comes mode rfl comes]
    exact carries_checked (fit.online mode).2.1 (mode ▸ stands)

/-! ## Moments -/

theorem entries_occur (event : Event) (state : State) : entries (state.occur event).2 = [] :=
  filterMap_occur overlooks_entry.answer overlooks_entry.abandon event state

theorem stands_mapLink {mode : Mode} (change : Link → Link) (h : Stands mode phase) :
    Stands (mode.mapLink change) phase := by
  cases h with
  | stopped => exact .stopped
  | waiting => exact .waiting
  | connecting => exact .connecting
  | loggingIn kind pending => exact .loggingIn kind pending
  | idle => exact .idle
  | running => exact .running
  | pausing => exact .pausing
  | checking => exact .checking
  | serving => exact .serving

/-- Nothing that happens around a processor changes how far things have come. -/
theorem stands_occur (event : Event) (h : Stands state.mode phase) :
    Stands (state.occur event).1.mode phase := by
  cases event with
  | submit ticket command =>
    rw [State.occur, (occur_submit ticket command state).1]
    exact h
  | recur periodic =>
    rw [State.occur]
    split <;> exact h
  | connected success =>
    rw [State.occur]
    split
    · rename_i mode
      rw [mode] at h
      cases h
      exact .connecting
    · exact h
  | arrive | dry | choke => exact stands_mapLink _ h
  | elapse | terminate => exact h

/-- Where there is nothing to react to nothing is noted. -/
theorem noted_of_no_turn (h : state.turn? config = none) : state.noted config state = [] := by
  rw [State.noted, heard_of_silent (next?_of_no_turn h), ended?_of_no_turn h, took_of_queue rfl]
  rfl

/-- Whatever happens next is in keeping with the protocol. -/
theorem stands_moment (config : Config) (step : Step) (fit : state.Fit)
    (h : Stands state.mode phase) :
    ∃ last, phase.Follows config ((Moment.of config state step).entries config) last
      ∧ Stands (Moment.of config state step).after.mode last := by
  cases step with
  | event event =>
    refine ⟨phase, ?_, stands_occur event h⟩
    show Phase.Follows config phase ([] ++ entries (state.occur event).2) phase
    rw [entries_occur]
    exact .refl
  | turn =>
    cases hturn : state.turn? config with
    | none =>
      rw [moment_of_no_turn hturn]
      refine ⟨phase, ?_, h⟩
      show Phase.Follows config phase (state.noted config state ++ []) phase
      rw [noted_of_no_turn hturn]
      exact .refl
    | some reaction =>
      rw [moment_of_turn hturn]
      exact carries_turn fit h (turns_of_turn hturn)

end

/-! ## Runs -/

/-- What has been noted in a run. -/
def journal (config : Config) (epoch : UnixTime) (steps : List Step) : List Entry :=
  entries (State.start config epoch).2
    ++ (history config epoch steps).flatMap (Moment.entries config)

theorem stands_reached (config : Config) (epoch : UnixTime) (steps : List Step) :
    ∃ phase, Phase.Follows config .closed (journal config epoch steps) phase
      ∧ Stands (reached config epoch steps).mode phase := by
  suffices h : (reached config epoch steps).Fit ∧ ∃ phase,
      Phase.Follows config .closed (journal config epoch steps) phase
        ∧ Stands (reached config epoch steps).mode phase from h.2
  refine @history_induction (fun past state => state.Fit ∧ ∃ phase,
      Phase.Follows config .closed
        (entries (State.start config epoch).2 ++ past.flatMap (Moment.entries config)) phase
        ∧ Stands state.mode phase) config epoch steps ?_ ?_
  · have carries : Carries config .closed [] (State.start config epoch) := carries_establish _
    obtain ⟨phase, follows, stands⟩ := carries
    refine ⟨fit_start config epoch, phase, ?_, stands⟩
    rw [List.flatMap_nil, List.append_nil]
    exact follows
  · rintro past state step ⟨fit, phase, follows, stands⟩
    obtain ⟨last, further, stands'⟩ := stands_moment config step fit stands
    refine ⟨fit_moment config state step fit, last, ?_, stands'⟩
    rw [List.flatMap_append, List.flatMap_singleton, ← List.append_assoc]
    exact follows.trans further

/-- **Every request is framed inside an authenticated link.** Whatever happens to a processor and in
whatever order, what is noted of its connections keeps to the protocol, and where the processor is
tells how far things have come:

* On every connection the password is written first, and once. Frames that do not decide the login
  are passed over. A confirmation with a status of zero is published as the connected state; one
  with another status or a notification of an error makes the attempt fail.
* After the login the requests of the refresh are written in their order. Each is repeated only
  after a refusal that clears up on its own, and not more often than the configuration allows. In
  between nothing is written but a check of the connection, after a request that got no answer in
  time, and no job comes from the queue before all of them are over.
* A connection can be given up at any time, and nothing is written after that until another has been
  asked for.

So every frame is written either as the password, before any other on its connection, or after the
gateway has accepted the password on this connection, while the published state is connected, and
for a request that is neither a login nor the request to terminate. -/
theorem every_link_keeps_protocol (config : Config) (epoch : UnixTime) (steps : List Step) :
    (∃ phase, Phase.Follows config .closed (journal config epoch steps) phase
      ∧ Stands (reached config epoch steps).mode phase)
    ∧ ∀ earlier frame rest, journal config epoch steps = earlier ++ .wrote frame :: rest →
      (written (current earlier) = []
          ∧ ∃ command, Login.start config.password = .ok (command, frame))
        ∨ Authenticated earlier ∧ frame.code ≠ 0x3000
          ∧ ∃ request : Request, Sendable request.kind ∧ request.Asks frame := by
  obtain ⟨phase, follows, stands⟩ := stands_reached config epoch steps
  refine ⟨⟨phase, follows, stands⟩, ?_⟩
  intro earlier frame rest hjournal
  rw [hjournal] at follows
  exact follows.wrote

/-- The requests of the refresh stand between the password and a velocity that was to be set before
there was a connection. -/
example :
    let config : Config :=
      { hostname := "gateway", password := "secret", refreshOnConnect := false }
    let steps : List Step :=
      [.event (.submit 1 { request := .setVelocity 3 .silent })] ++ loginSteps
        ++ refreshSteps versionAnswer ++ [.turn]
    (written (journal config 0 steps)).map Frame.code
      = [0x3000, 0x0008, 0x000a, 0x2000, 0x0240, 0x020a] := by
  decide

end ShutterGateway.Processor
