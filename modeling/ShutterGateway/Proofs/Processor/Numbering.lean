import ShutterGateway.Proofs.Command.Numbering
import ShutterGateway.Proofs.Processor.Deliveries
import ShutterGateway.Proofs.Processor.Fitness
import ShutterGateway.Proofs.Session

/-!
Session numbers over a run. Each attempt at a command under a session takes the next number of the
supply, whether it is the first attempt or another one after a pause, and whether or not the
connection takes its request. Nothing else takes a number: what the processor asks for on its own
has no session. So the attempts of a run carry the numbers of one supply in order, through every
loss of the connection, and a frame that is left over from one of the attempts before is not taken
for an answer to the attempt that is out.
-/

namespace ShutterGateway.Processor

/-! ## Attempts under a session -/

namespace State

/-- The job at which the next turn begins an attempt: the first of the queue if nothing else has to
be looked at before, or the job that is to be tried again if its pause is over. -/
def due? (state : State) : Option Job :=
  match state.mode with
  | .online link _ .idle =>
    if ¬ state.terminating ∧ link.inbound = [] ∧ link.ended? = none then state.queue.head?
    else none
  | .online _ _ (.pausing job _ resume) =>
    if ¬ state.terminating ∧ resume ≤ state.now then some job else none
  | _ => none

/-- The command for which the next turn begins an attempt under a session, with its number. -/
def numbered? (state : State) : Option Command :=
  state.due?.bind fun job =>
    if job.command.descriptor.usesSession then some (state.assignSession job.command).1 else none

/-- The requests of the refresh that are still to come. -/
def refreshing (state : State) : List Request :=
  match state.mode with
  | .online _ refresh _ => refresh
  | _ => []

/-- No request of the refresh that is still to come has a session. -/
def RefreshesPlainly (state : State) : Prop :=
  ∀ request ∈ state.refreshing, ¬ request.kind.descriptor.usesSession

end State

/-- The commands for which a moment begins an attempt under a session, one at most. -/
def Moment.tried (moment : Moment) : List Command :=
  match moment.step with
  | .turn => moment.before.numbered?.toList
  | .event _ => []

/-- What becomes of an attempt that begins. -/
inductive Tries (before : State) (command : Command) (reaction : Reaction) : Prop where
  /-- Its request is handed over, and the attempt is out. -/
  | handedOver {frame : Frame} {deadline : Instant} (frame? : command.frame? = .ok frame)
    (handed : sent reaction.2 = [frame])
    (out : reaction.1.attempt? = some ⟨command, deadline⟩)
  /-- The connection takes no more frames. It is given up, and the caller hears of it. -/
  | refused {job : Job} {link : Link} (due : before.due? = some job)
    (connected : before.mode.link? = some link) (refusing : link.refusing)
    (silent : sent reaction.2 = [])
    (offline : ∃ outage stage, reaction.1.mode = .offline outage stage)
    (answered : answers reaction.2 = (job.call?.map fun call =>
      (⟨call.ticket, some (command.fail (.connectivity .connectionLost))⟩ : Answer)).toList)

/-- A reaction that takes no number from a supply. -/
structure Unnumbered (sessions : SessionSupply) (reaction : Reaction) : Prop where
  sessions : reaction.1.sessions = sessions
  refresh : reaction.1.RefreshesPlainly
  plain : sent reaction.2 ≠ [] → ∀ attempt, reaction.1.attempt? = some attempt →
    ¬ attempt.command.descriptor.usesSession

/-- A reaction that begins an attempt at a command under a session. -/
structure Numbers (before : State) (command : Command) (reaction : Reaction) : Prop where
  tried : before.numbered? = some command
  session : command.session? = some before.sessions.allocate.1
  uses : command.descriptor.usesSession
  sessions : reaction.1.sessions = before.sessions.allocate.2
  refresh : reaction.1.RefreshesPlainly
  tries : Tries before command reaction

/-! ## What takes no number -/

section

variable {config : Config} {link : Link} {refresh : List Request} {state : State}
  {reaction : Reaction} {sessions : SessionSupply}

theorem assignSession_of_plain {command : Command} (plain : ¬ command.descriptor.usesSession) :
    state.assignSession command = (command, state) := by
  rw [State.assignSession, if_neg plain]

theorem assignSession_of_uses {command : Command} (uses : command.descriptor.usesSession) :
    state.assignSession command
      = (command.assignSession state.sessions.allocate.1,
        { state with sessions := state.sessions.allocate.2 }) := by
  rw [State.assignSession, if_pos uses]

@[simp] theorem sessions_learn (command : Command) (state : State) :
    (state.learn command).sessions = state.sessions := by
  unfold State.learn
  split <;> rfl

theorem sessions_approach (config : Config) (outage : Outage) (state : State) :
    (state.approach config outage).1.sessions = state.sessions := by
  unfold State.approach
  split <;> rfl

theorem sessions_establish (config : Config) (state : State) :
    (state.establish config).1.sessions = state.sessions := by
  unfold State.establish
  split
  · exact sessions_approach config ⟨0, 1⟩ _
  · exact sessions_approach config ⟨0, 0⟩ _

theorem sessions_loseLink (config : Config) (state : State) :
    (state.loseLink config).1.sessions = state.sessions :=
  sessions_establish config state

theorem sessions_drain (jobs : List Job) (state : State) :
    (State.drain jobs state).1.sessions = state.sessions := by
  induction jobs generalizing state with
  | nil => rfl
  | cons job rest ih => exact (ih _).trans (sessions_learn _ state)

theorem refreshesPlainly_of_offline {outage : Outage} {stage : Stage}
    (mode : state.mode = .offline outage stage) : state.RefreshesPlainly := by
  intro request member
  rw [State.refreshing, mode] at member
  cases member

theorem Unnumbered.of_withdraws (h : Withdraws state reaction)
    (same : reaction.1.sessions = sessions) : Unnumbered sessions reaction := by
  obtain ⟨outage, stage, mode⟩ := h.offline
  exact ⟨same, refreshesPlainly_of_offline mode, fun hands => absurd h.sent hands⟩

theorem unnumbered_loseLink : Unnumbered state.sessions (state.loseLink config) :=
  .of_withdraws (withdraws_loseLink config state) (sessions_loseLink config state)

theorem unnumbered_stop : Unnumbered state.sessions state.stop := by
  have hmode : state.stop.1.mode = .stopped := mode_drain state.queue _
  refine ⟨sessions_drain state.queue _, ?_, fun hands => absurd (sent_stop state) hands⟩
  intro request member
  rw [State.refreshing, hmode] at member
  cases member

/-- Handing a command back takes no number. -/
theorem Unnumbered.finish {command : Command} {origin : Origin} {next : State → Reaction}
    (h : Unnumbered (state.learn command).sessions (next (state.learn command))) :
    Unnumbered state.sessions ((state.finish command origin).andThen next) := by
  refine ⟨h.sessions.trans (sessions_learn command state), h.refresh, ?_⟩
  rw [Reaction.andThen, sent_append, sent_finish]
  exact h.plain

/-- A turn that hands nothing over. -/
theorem Unnumbered.of_silent (same : reaction.1.sessions = sessions)
    (plainly : reaction.1.RefreshesPlainly) (silent : sent reaction.2 = []) :
    Unnumbered sessions reaction :=
  ⟨same, plainly, fun hands => absurd silent hands⟩

theorem unnumbered_launchesAs {job : Job} {retries : Nat}
    (plainly : ∀ request ∈ refresh, ¬ request.kind.descriptor.usesSession)
    (plain : ¬ job.command.descriptor.usesSession)
    (h : LaunchesAs config link refresh state job retries reaction) :
    Unnumbered state.sessions reaction := by
  cases h with
  | sent taking frame? =>
    rw [assignSession_of_plain plain]
    refine ⟨rfl, plainly, ?_⟩
    intro _ attempt out
    obtain rfl := Option.some.inj out
    exact plain
  | refused refusing =>
    rw [assignSession_of_plain plain]
    exact .finish unnumbered_loseLink

theorem unnumbered_proceed (sendable : ∀ request ∈ refresh, Sendable request.kind)
    (plainly : ∀ request ∈ refresh, ¬ request.kind.descriptor.usesSession) :
    Unnumbered state.sessions (State.proceed config link refresh state) := by
  have proceeds := proceedsAs_proceed config link refresh state sendable
  generalize State.proceed config link refresh state = reaction at proceeds
  cases proceeds with
  | idle => exact .of_silent rfl nofun rfl
  | @launch request _ _ launches =>
    rw [List.forall_mem_cons] at plainly
    have plain : ¬ (Command.descriptor { request := request }).usesSession := plainly.1
    exact unnumbered_launchesAs plainly.2 plain launches

theorem unnumbered_check (plainly : ∀ request ∈ refresh, ¬ request.kind.descriptor.usesSession) :
    Unnumbered state.sessions (state.check config link refresh) := by
  have hping : ¬ (Command.descriptor { request := .ping }).usesSession := Bool.false_ne_true
  have checks := checksAs_check config link refresh state
  generalize state.check config link refresh = reaction at checks
  cases checks with
  | sent taking request status frame? =>
    rw [assignSession_of_plain hping]
    refine ⟨rfl, plainly, ?_⟩
    intro _ attempt out
    obtain rfl := Option.some.inj out
    rw [Command.descriptor, Command.kind, request]
    exact Bool.false_ne_true
  | refused refusing =>
    rw [assignSession_of_plain hping]
    exact unnumbered_loseLink

theorem unnumbered_concludeCheck {outcome : Outcome}
    (sendable : ∀ request ∈ refresh, Sendable request.kind)
    (plainly : ∀ request ∈ refresh, ¬ request.kind.descriptor.usesSession) :
    Unnumbered state.sessions (state.concludeCheck config link refresh outcome) := by
  cases outcome with
  | done => exact unnumbered_proceed sendable plainly
  | terminated => exact unnumbered_stop
  | linkLost => exact unnumbered_loseLink
  | timedOut => exact unnumbered_loseLink

theorem unnumbered_conclude {job : Job} {retries : Nat} {command : Command} {outcome : Outcome}
    {reaction : Reaction} (sendable : ∀ request ∈ refresh, Sendable request.kind)
    (plainly : ∀ request ∈ refresh, ¬ request.kind.descriptor.usesSession)
    (h : Concludes config link refresh job retries command state outcome reaction) :
    Unnumbered state.sessions reaction := by
  cases h with
  | again => exact .of_silent rfl plainly rfl
  | settle => exact .finish (unnumbered_concludeCheck sendable plainly)
  | check => exact .finish (unnumbered_check plainly)

/-- The requests after a login have no session. -/
theorem plain_refreshRequests (config : Config) (state : State) :
    ∀ request ∈ state.refreshRequests config, ¬ request.kind.descriptor.usesSession := by
  intro request member
  simp only [State.refreshRequests, List.mem_append, List.mem_cons, List.not_mem_nil, or_false]
    at member
  rcases member with (rfl | rfl | rfl | rfl) | member
  · exact nofun
  · exact nofun
  · exact nofun
  · exact nofun
  · split at member
    · rw [List.mem_singleton.mp member]
      exact nofun
    · cases member

theorem unnumbered_goOnline : Unnumbered state.sessions (state.goOnline config link) := by
  let online : State := { state with connectedOnce := true, published := .connected }
  have proceeds : Unnumbered online.sessions
      (State.proceed config link (online.refreshRequests config) online) :=
    unnumbered_proceed (sendable_refreshRequests config _) (plain_refreshRequests config _)
  exact ⟨proceeds.sessions, proceeds.refresh, proceeds.plain⟩

/-! ## What takes a number -/

variable {activity : Activity} {later : State} {job : Job} {retries : Nat}

theorem numbered?_of_due (due : state.due? = some job) :
    state.numbered? = if job.command.descriptor.usesSession then
      some (state.assignSession job.command).1 else none := by
  rw [State.numbered?, due, Option.bind_some]

/-- Launching a job that has a session takes the next number. -/
theorem numbers_launchesAs (mode : state.mode = .online link refresh activity)
    (plainly : ∀ request ∈ refresh, ¬ request.kind.descriptor.usesSession)
    (due : state.due? = some job) (same : later.sessions = state.sessions)
    (uses : job.command.descriptor.usesSession)
    (launches : LaunchesAs config link refresh later job retries reaction) :
    Numbers state (job.command.assignSession state.sessions.allocate.1) reaction := by
  have hassigned : later.assignSession job.command
      = (job.command.assignSession state.sessions.allocate.1,
        { later with sessions := state.sessions.allocate.2 }) := by
    rw [assignSession_of_uses uses, same]
  have htried : state.numbered?
      = some (job.command.assignSession state.sessions.allocate.1) := by
    rw [numbered?_of_due due, if_pos uses, assignSession_of_uses uses]
  have hsession := Command.session?_assignSession uses state.sessions.allocate.1
  have huses : (job.command.assignSession state.sessions.allocate.1).descriptor.usesSession := by
    rw [Command.descriptor, Command.kind, Command.request_assignSession]
    exact uses
  cases launches with
  | sent taking frame? =>
    rw [hassigned] at frame? ⊢
    exact ⟨htried, hsession, huses, rfl, plainly, .handedOver frame? rfl rfl⟩
  | refused refusing =>
    rw [hassigned]
    have withdraws := withdraws_loseLink config
      (State.learn
        ((job.command.assignSession state.sessions.allocate.1).fail (.connectivity .connectionLost))
        { later with sessions := state.sessions.allocate.2 })
    obtain ⟨outage, stage, offline⟩ := withdraws.offline
    refine ⟨htried, hsession, huses, ?_, refreshesPlainly_of_offline offline, ?_⟩
    · exact (sessions_loseLink config _).trans (sessions_learn _ _)
    · refine .refused due (by rw [mode]; rfl) refusing ?_ ⟨outage, stage, offline⟩ ?_
      · rw [Reaction.andThen, sent_append, sent_finish]
        exact withdraws.sent
      · rw [Reaction.andThen, answers_append, answers_finish, Job.call?]
        refine (congrArg _ withdraws.answers).trans ?_
        cases job.origin <;> rfl

/-- What a turn does with the numbers: nothing, or it begins an attempt under the next one. -/
inductive TurnNumbers (state : State) (reaction : Reaction) : Prop where
  | none (tried : state.numbered? = none) (h : Unnumbered state.sessions reaction)
  | one {command : Command} (h : Numbers state command reaction)

theorem turnNumbers_launch (mode : state.mode = .online link refresh activity)
    (plainly : ∀ request ∈ refresh, ¬ request.kind.descriptor.usesSession)
    (due : state.due? = some job) (same : later.sessions = state.sessions)
    (launches : LaunchesAs config link refresh later job retries reaction) :
    TurnNumbers state reaction := by
  by_cases uses : job.command.descriptor.usesSession
  · exact .one (numbers_launchesAs mode plainly due same uses launches)
  · refine .none ?_ ?_
    · rw [numbered?_of_due due, if_neg uses]
    · rw [← same]
      exact unnumbered_launchesAs plainly uses launches

theorem numbered?_of_not_due (h : state.due? = none) : state.numbered? = none := by
  rw [State.numbered?, h, Option.bind_none]

theorem due?_of_offline {outage : Outage} {stage : Stage}
    (mode : state.mode = .offline outage stage) : state.due? = none := by
  rw [State.due?, mode]

/-- While a request is out no attempt begins. -/
theorem due?_of_attempt {attempt : Attempt} (mode : state.mode = .online link refresh activity)
    (out : activity.attempt? = some attempt) : state.due? = none := by
  rw [State.due?, mode]
  cases activity with
  | idle => cases out
  | pausing => cases out
  | running => rfl
  | checking => rfl

theorem State.RefreshesPlainly.online (plainly : state.RefreshesPlainly)
    (mode : state.mode = .online link refresh activity) :
    ∀ request ∈ refresh, ¬ request.kind.descriptor.usesSession := by
  intro request member
  refine plainly request ?_
  rw [State.refreshing, mode]
  exact member

/-- A turn begins an attempt under the next number, or takes none. -/
theorem turnNumbers_turn (fit : state.Fit) (plainly : state.RefreshesPlainly)
    (h : Turns config state reaction) : TurnNumbers state reaction := by
  cases h with
  | stop free terminating =>
    refine .none (numbered?_of_not_due ?_) unnumbered_stop
    rcases free with ⟨outage, stage, mode⟩ | ⟨link, refresh, mode⟩
    · exact due?_of_offline mode
    · simp [State.due?, mode, terminating]
  | connect running mode =>
    exact .none (numbered?_of_not_due (due?_of_offline mode))
      (.of_withdraws (withdraws_openConnection config _ state) rfl)
  | reject running suspended =>
    obtain ⟨stage, mode⟩ := suspended.offline
    refine .none (numbered?_of_not_due (due?_of_offline mode)) (.of_silent ?_ ?_ (sent_finish ..))
    · exact sessions_learn _ _
    · exact refreshesPlainly_of_offline ((mode_learn _ _).trans mode)
  | logIn running mode =>
    refine .none (numbered?_of_not_due (due?_of_offline mode))
      ⟨rfl, refreshesPlainly_of_offline rfl, ?_⟩
    intro _ attempt out
    cases out
  | @failAttempt outage error running fails =>
    obtain ⟨stage, mode⟩ := fails.offline
    exact .none (numbered?_of_not_due (due?_of_offline mode))
      (.of_withdraws (withdraws_failAttempt config outage error state)
        (sessions_approach config _ _))
  | keepLoggingIn running mode =>
    exact .none (numbered?_of_not_due (due?_of_offline mode))
      (.of_silent rfl (refreshesPlainly_of_offline rfl) rfl)
  | goOnline running mode =>
    exact .none (numbered?_of_not_due (due?_of_offline mode)) unnumbered_goOnline
  | unsolicited running mode arrived =>
    refine .none (numbered?_of_not_due (by simp [State.due?, mode, arrived])) (.of_silent ?_ ?_ ?_)
    · rw [state_unsolicited]
    · rw [state_unsolicited]
      exact plainly.online mode
    · exact sent_unsolicited ..
  | loseLink running mode silent ended =>
    refine .none (numbered?_of_not_due ?_) unnumbered_loseLink
    simp [State.due?, mode, silent, Option.isSome_iff_ne_none.mp ended]
  | @launch link refresh job rest running mode silent alive queue =>
    have due : state.due? = some job := by
      have hended : link.ended? = none := by simpa using alive
      simp [State.due?, mode, silent, hended, running, queue]
    have launches := launchesAs_launch config link refresh { state with queue := rest }
      config.transientRetries (State.proceed config link refresh) (fit.front queue).1.sendable
    have same : State.sessions { state with queue := rest } = state.sessions := rfl
    exact turnNumbers_launch mode (plainly.online mode) due same launches
  | ongoing mode comes =>
    exact .none (numbered?_of_not_due (due?_of_attempt mode rfl))
      (.of_silent rfl (plainly.online mode) rfl)
  | unclaimed mode comes =>
    refine .none (numbered?_of_not_due (due?_of_attempt mode rfl)) (.of_silent ?_ ?_ ?_)
    · rw [state_unsolicited]
    · rw [state_unsolicited]
      exact plainly.online mode
    · exact sent_unsolicited ..
  | conclude mode comes =>
    exact .none (numbered?_of_not_due (due?_of_attempt mode rfl))
      (unnumbered_conclude (fit.online mode).2.1 (plainly.online mode) (concludes_conclude ..))
  | stopPause mode terminating =>
    refine .none (numbered?_of_not_due ?_) (.finish unnumbered_stop)
    simp [State.due?, mode, terminating]
  | @resume link refresh job retries resume running mode due =>
    have hdue : state.due? = some job := by simp [State.due?, mode, running, due]
    have fitting : job.Fit := (fit.online mode).2.2
    exact turnNumbers_launch mode (plainly.online mode) hdue rfl
      (launchesAs_launch config link refresh state retries _ fitting.sendable)
  | keepChecking mode comes =>
    exact .none (numbered?_of_not_due (due?_of_attempt mode rfl))
      (.of_silent rfl (plainly.online mode) rfl)
  | unclaimedByCheck mode comes =>
    refine .none (numbered?_of_not_due (due?_of_attempt mode rfl)) (.of_silent ?_ ?_ ?_)
    · rw [state_unsolicited]
    · rw [state_unsolicited]
      exact plainly.online mode
    · exact sent_unsolicited ..
  | concludeCheck mode comes =>
    exact .none (numbered?_of_not_due (due?_of_attempt mode rfl))
      (unnumbered_concludeCheck (fit.online mode).2.1 (plainly.online mode))

/-! ## Moments -/

/-- As long as an attempt can begin, the processor has something to do. -/
theorem numbered?_of_no_turn (h : state.turn? config = none) : state.numbered? = none := by
  refine numbered?_of_not_due ?_
  unfold State.turn? at h
  cases mode : state.mode with
  | stopped => rw [State.due?, mode]
  | offline outage stage => exact due?_of_offline mode
  | online link refresh activity =>
    rw [mode] at h
    cases activity with
    | running job retries attempt => exact due?_of_attempt mode rfl
    | checking attempt => exact due?_of_attempt mode rfl
    | pausing job retries resume =>
      simp only [State.turnOnline?] at h
      by_cases running : state.terminating
      · rw [if_pos running] at h
        cases h
      · by_cases due : resume ≤ state.now
        · rw [if_neg running, if_pos due] at h
          cases h
        · simp [State.due?, mode, due]
    | idle =>
      simp only [State.turnOnline?, State.turnIdle?] at h
      cases queue : state.queue with
      | nil => simp [State.due?, mode, queue]
      | cons job rest =>
        by_cases running : state.terminating
        · simp [State.due?, mode, running]
        · rw [if_neg running, queue] at h
          cases arrived : link.inbound with
          | cons frame others =>
            rw [arrived] at h
            cases h
          | nil =>
            rw [arrived] at h
            by_cases ended : link.ended?.isSome
            · simp [State.due?, mode, Option.isSome_iff_ne_none.mp ended]
            · simp [ended] at h

theorem sessions_occur (event : Event) (state : State) :
    (state.occur event).1.sessions = state.sessions := by
  obtain ⟨_, _, _, _, h⟩ := state_occur event state
  rw [h]

theorem refreshing_mapLink {changed : State} (change : Link → Link)
    (mode : changed.mode = state.mode.mapLink change) :
    changed.refreshing = state.refreshing := by
  rw [State.refreshing, State.refreshing, mode]
  cases state.mode with
  | offline outage stage => cases stage <;> rfl
  | online link refresh activity => rfl
  | stopped => rfl

/-- What happens around a processor does not change its refresh. -/
theorem refreshing_occur (event : Event) (state : State) :
    (state.occur event).1.refreshing = state.refreshing := by
  cases event with
  | submit ticket command =>
    have hmode := (occur_submit ticket command state).1
    rw [State.occur, State.refreshing, State.refreshing, hmode]
  | recur periodic =>
    rw [State.occur]
    split <;> rfl
  | connected success =>
    rw [State.occur]
    split
    · rename_i mode
      rw [State.refreshing, State.refreshing, mode]
      rfl
    · rfl
  | arrive frame => exact refreshing_mapLink _ rfl
  | dry error => exact refreshing_mapLink _ rfl
  | choke => exact refreshing_mapLink _ rfl
  | elapse instant => rfl
  | terminate => rfl

/-- What a moment does with the numbers. -/
inductive MomentNumbers (moment : Moment) : Prop where
  | none (tried : moment.tried = [])
    (h : Unnumbered moment.before.sessions (moment.after, moment.effects))
  | one {command : Command} (tried : moment.tried = [command])
    (h : Numbers moment.before command (moment.after, moment.effects))

variable (config)

theorem numbers_moment (step : Step) (fit : state.Fit) (plainly : state.RefreshesPlainly) :
    MomentNumbers (Moment.of config state step) := by
  cases step with
  | event event =>
    refine .none rfl (.of_silent (sessions_occur event state) ?_ (occur_keeps event state).2.2)
    intro request member
    exact plainly request ((refreshing_occur event state) ▸ member)
  | turn =>
    cases h : state.turn? config with
    | none =>
      rw [moment_of_no_turn h]
      refine .none ?_ (.of_silent rfl plainly rfl)
      show state.numbered?.toList = []
      rw [numbered?_of_no_turn h]
      rfl
    | some reaction =>
      rw [moment_of_turn h]
      cases turnNumbers_turn fit plainly (turns_of_turn h) with
      | none tried unnumbered =>
        refine .none ?_ unnumbered
        show state.numbered?.toList = []
        rw [tried]
        rfl
      | @one command numbers =>
        refine .one ?_ numbers
        show state.numbered?.toList = [command]
        rw [numbers.tried]
        rfl

variable {config}

theorem MomentNumbers.refreshesPlainly {moment : Moment} (h : MomentNumbers moment) :
    moment.after.RefreshesPlainly := by
  cases h with
  | none tried h => exact h.refresh
  | one tried h => exact h.refresh

theorem sent_of_requests {moment : Moment} (h : moment.requests ≠ []) :
    sent moment.effects ≠ [] := by
  intro silent
  exact h ((requests_of_sent silent).trans silent)

/-- A request with a session that is handed over is that of the attempt that has just begun. -/
theorem MomentNumbers.tried_eq {moment : Moment} (h : MomentNumbers moment)
    (hands : moment.requests ≠ []) {attempt : Attempt}
    (out : moment.after.attempt? = some attempt)
    (uses : attempt.command.descriptor.usesSession) : moment.tried = [attempt.command] := by
  cases h with
  | none tried h => exact absurd uses (h.plain (sent_of_requests hands) attempt out)
  | one tried h =>
    cases h.tries with
    | handedOver frame? handed out' =>
      obtain rfl := Option.some.inj (out'.symm.trans out)
      exact tried
    | refused due connected refusing silent => exact absurd silent (sent_of_requests hands)

theorem Becomes.session?_eq {taken : List Frame} {command later : Command}
    (h : Becomes taken command later) : later.session? = command.session? := by
  cases h with
  | same => rfl
  | answered => exact Command.session?_respond ..
  | failed => exact Command.session?_fail ..

theorem Becomes.request_eq {taken : List Frame} {command later : Command}
    (h : Becomes taken command later) : later.request = command.request := by
  cases h with
  | same => rfl
  | answered => exact Command.request_respond ..
  | failed => exact Command.request_fail ..

/-! ## Runs -/

/-- The attempt whose request is out is the last one of some attempts. -/
def IsLast (tried : List Command) (attempt : Attempt) : Prop :=
  ∃ last, tried.getLast? = some last ∧ attempt.command.request = last.request
    ∧ attempt.command.session? = last.session?

/-- The attempts of some moments carry the first numbers of a supply in order, and the supply goes
on from there. -/
structure Numbered (past : List Moment) (state : State) : Prop where
  tried : (past.flatMap Moment.tried).map (·.session?)
    = (List.range (past.flatMap Moment.tried).length).map fun k => some (SessionSupply.number k)
  uses : ∀ command ∈ past.flatMap Moment.tried, command.descriptor.usesSession
  sessions : state.sessions = ⟨SessionSupply.number (past.flatMap Moment.tried).length⟩
  refresh : state.RefreshesPlainly
  last : ∀ attempt, state.attempt? = some attempt → attempt.command.descriptor.usesSession →
    IsLast (past.flatMap Moment.tried) attempt

/-- A moment that takes no number leaves the attempts as they are. -/
theorem Numbered.of_none {past : List Moment} {step : Step} (numbered : Numbered past state)
    (sound : state.Sound) (tried : (Moment.of config state step).tried = [])
    (h : Unnumbered state.sessions
      ((Moment.of config state step).after, (Moment.of config state step).effects)) :
    Numbered (past ++ [.of config state step]) (Moment.of config state step).after := by
  have hsame : (past ++ [Moment.of config state step]).flatMap Moment.tried
      = past.flatMap Moment.tried := by
    rw [List.flatMap_append, List.flatMap_singleton, tried, List.append_nil]
  refine ⟨?_, ?_, ?_, h.refresh, ?_⟩
  · rw [hsame]
    exact numbered.tried
  · rw [hsame]
    exact numbered.uses
  · rw [hsame]
    exact h.sessions.trans numbered.sessions
  · rw [hsame]
    intro attempt out uses
    by_cases hands : (Moment.of config state step).requests = []
    · -- The attempt was out before, and goes by the same number.
      obtain ⟨earlier, hearlier, hbecomes, -⟩ := continues_moment config sound hands out
      have hrequest := hbecomes.request_eq
      have huses : earlier.command.descriptor.usesSession := by
        rw [Command.descriptor, Command.kind, ← hrequest]
        exact uses
      obtain ⟨last, hlast, hsame, hsession⟩ := numbered.last earlier hearlier huses
      exact ⟨last, hlast, hrequest.trans hsame, hbecomes.session?_eq.trans hsession⟩
    · exact absurd uses (h.plain (sent_of_requests hands) attempt out)

/-- A moment that begins an attempt under a session adds it at the end. -/
theorem Numbered.of_one {past : List Moment} {step : Step} {command : Command}
    (numbered : Numbered past state) (tried : (Moment.of config state step).tried = [command])
    (h : Numbers state command
      ((Moment.of config state step).after, (Moment.of config state step).effects)) :
    Numbered (past ++ [.of config state step]) (Moment.of config state step).after := by
  have hsame : (past ++ [Moment.of config state step]).flatMap Moment.tried
      = past.flatMap Moment.tried ++ [command] := by
    rw [List.flatMap_append, List.flatMap_singleton, tried]
  have hallocate : state.sessions.allocate
      = (SessionSupply.number (past.flatMap Moment.tried).length,
        ⟨SessionSupply.number ((past.flatMap Moment.tried).length + 1)⟩) := by
    rw [numbered.sessions, SessionSupply.allocate_number]
  have hsession := h.session
  have hsupply := h.sessions
  rw [hallocate] at hsession hsupply
  refine ⟨?_, ?_, ?_, h.refresh, ?_⟩
  · rw [hsame, List.map_append, numbered.tried, List.length_append, List.length_singleton,
      List.range_succ, List.map_append, List.map_singleton, List.map_singleton, hsession]
  · rw [hsame]
    intro other member
    rcases List.mem_append.mp member with member | member
    · exact numbered.uses other member
    · obtain rfl := List.mem_singleton.mp member
      exact h.uses
  · rw [hsame, List.length_append, List.length_singleton]
    exact hsupply
  · rw [hsame]
    intro attempt out uses
    cases h.tries with
    | handedOver frame? handed out' =>
      obtain rfl := Option.some.inj (out'.symm.trans out)
      exact ⟨command, List.getLast?_concat, rfl, rfl⟩
    | refused due connected refusing silent offline =>
      obtain ⟨outage, stage, mode⟩ := offline
      cases (attempt?_of_offline mode).symm.trans out

theorem numbered_moment {past : List Moment} (step : Step) (sound : state.Sound) (fit : state.Fit)
    (numbered : Numbered past state) :
    Numbered (past ++ [.of config state step]) (Moment.of config state step).after := by
  cases numbers_moment config step fit numbered.refresh with
  | none tried h => exact numbered.of_none sound tried h
  | one tried h => exact numbered.of_one tried h

theorem numbered_start (config : Config) (epoch : UnixTime) :
    Numbered [] (State.start config epoch).1 := by
  obtain ⟨outage, stage, mode⟩ := (withdraws_start config epoch).offline
  have hsessions : (State.start config epoch).1.sessions = ⟨SessionSupply.number 0⟩ :=
    (sessions_establish config _).trans SessionSupply.eq_number_zero
  refine ⟨rfl, List.forall_mem_nil _, hsessions, refreshesPlainly_of_offline mode, ?_⟩
  intro attempt out
  cases (attempt?_of_offline mode).symm.trans out

theorem numbered_reached (config : Config) (epoch : UnixTime) (steps : List Step) :
    Numbered (history config epoch steps) (reached config epoch steps) := by
  have all : (reached config epoch steps).Sound ∧ (reached config epoch steps).Fit
      ∧ Numbered (history config epoch steps) (reached config epoch steps) := by
    refine @history_induction (fun past state => state.Sound ∧ state.Fit ∧ Numbered past state)
      config epoch steps ?_ ?_
    · exact ⟨(withdraws_start config epoch).resumes.sound, fit_start config epoch,
        numbered_start config epoch⟩
    · intro past state step ⟨sound, fit, numbered⟩
      exact ⟨sound_moment config state step sound, fit_moment config state step fit,
        numbered_moment step sound fit numbered⟩
  exact all.2.2

/-- Every moment of a history is one that begins an attempt under a session or takes no number. -/
theorem numbers_history (config : Config) (epoch : UnixTime) (steps : List Step) :
    ∀ moment ∈ history config epoch steps, MomentNumbers moment := by
  have keeps : ∀ state step, (state.Fit ∧ state.RefreshesPlainly) →
      (Moment.of config state step).after.Fit
        ∧ (Moment.of config state step).after.RefreshesPlainly := by
    rintro state step ⟨fit, plainly⟩
    exact ⟨fit_moment config state step fit,
      (numbers_moment config step fit plainly).refreshesPlainly⟩
  intro moment member
  obtain ⟨⟨fit, plainly⟩, hof⟩ := (run_keeps keeps steps
    ⟨fit_start config epoch, (numbered_start config epoch).refresh⟩).1 moment member
  rw [hof]
  exact numbers_moment config moment.step fit plainly

theorem Numbered.announces {past : List Moment} (numbered : Numbered past state) {k : Nat}
    {command : Command} (h : (past.flatMap Moment.tried)[k]? = some command) :
    command.Announces (SessionSupply.number k) := by
  obtain ⟨hk, hcommand⟩ := List.getElem?_eq_some_iff.mp h
  have hat := congrArg (·[k]?) numbered.tried
  simp only [List.getElem?_map, h, List.getElem?_range hk, Option.map_some] at hat
  have huses := numbered.uses command (List.mem_of_getElem? h)
  exact Command.announces_of_session huses (Option.some.inj hat)

end

/-- **The attempts under a session are numbered in turn.** Whatever happens to a processor and in
whatever order, over every step so far, `tried` being the commands of its attempts under a session:

* A step begins one such attempt at most, whose request is handed over or which the connection
  refuses. No other request with a session is handed over.
* The request of the attempt after `k` others starts with the number `1 + k % 65535`, and the
  supply goes on after the last of them: nothing else has taken a number.
* So no request starts with zero, and no two attempts of 65535 in a row have the same number.
* If an attempt is out whose command has a session, it is the last one of `tried`. No attempt that
  is out takes a frame that carries the number of an earlier one less than 65535 attempts before. -/
theorem attempts_numbered_in_turn (config : Config) (epoch : UnixTime) (steps : List Step) :
    let past := history config epoch steps
    let tried := past.flatMap Moment.tried
    (∀ moment ∈ past,
      (moment.tried = [] ∨ ∃ command, moment.tried = [command] ∧ command.descriptor.usesSession
        ∧ Tries moment.before command (moment.after, moment.effects))
      ∧ ∀ attempt, moment.requests ≠ [] → moment.after.attempt? = some attempt →
        attempt.command.descriptor.usesSession → moment.tried = [attempt.command])
    ∧ (∀ k command, tried[k]? = some command → ∃ session,
        command.Announces session ∧ session.toNat = 1 + k % 65535)
    ∧ (reached config epoch steps).sessions.next.toNat = 1 + tried.length % 65535
    ∧ (∀ command ∈ tried, ¬ command.Announces 0)
    ∧ (∀ i j a b, tried[i]? = some a → tried[j]? = some b → i < j → j < i + 65535 →
        ∀ session, a.Announces session → ¬ b.Announces session)
    ∧ ∀ attempt, (reached config epoch steps).attempt? = some attempt →
      (attempt.command.descriptor.usesSession → IsLast tried attempt)
      ∧ ∀ j command session frame, tried[j]? = some command → j + 1 < tried.length →
        tried.length - 1 < j + 65535 → command.Announces session →
        frame.CarriesSession session → ¬ attempt.command.accepts frame := by
  intro past tried
  have numbered := numbered_reached config epoch steps
  refine ⟨?_, ?_, ?_, ?_, ?_, ?_⟩
  · intro moment member
    have numbers := numbers_history config epoch steps moment member
    refine ⟨?_, fun attempt hands out uses => numbers.tried_eq hands out uses⟩
    cases numbers with
    | none tried => exact .inl tried
    | one tried h => exact .inr ⟨_, tried, h.uses, h.tries⟩
  · intro k command h
    exact ⟨_, numbered.announces h, SessionSupply.toNat_number k⟩
  · rw [numbered.sessions]
    exact SessionSupply.toNat_number tried.length
  · intro command member zero
    obtain ⟨k, h⟩ := List.mem_iff_getElem?.mp member
    exact SessionSupply.number_ne_zero k ((numbered.announces h).unique zero)
  · intro i j a b ha hb before near session announces same
    have hi : SessionSupply.number i = session := (numbered.announces ha).unique announces
    have hj : SessionSupply.number j = session := (numbered.announces hb).unique same
    exact SessionSupply.number_ne_number before near (hi.trans hj.symm)
  · intro attempt out
    refine ⟨numbered.last attempt out, ?_⟩
    intro j command session frame h earlier near announces carries accepts
    obtain ⟨uses, hsession⟩ := Command.session?_of_accepts accepts carries
    obtain ⟨last, hlast, -, hsame⟩ := numbered.last attempt out uses
    have hat : tried[tried.length - 1]? = some last := by
      rw [← List.getLast?_eq_getElem?]
      exact hlast
    have huses := numbered.uses last (List.mem_of_getElem? hat)
    -- The frame carries the number of the last attempt, which is not that of one so near before it.
    have hlate : SessionSupply.number (tried.length - 1) = session :=
      (numbered.announces hat).unique
        (Command.announces_of_session huses (hsame.symm.trans hsession))
    have hearly : SessionSupply.number j = session := (numbered.announces h).unique announces
    have before : j < tried.length - 1 := by omega
    exact SessionSupply.number_ne_number before near (hearly.trans hlate.symm)

end ShutterGateway.Processor
