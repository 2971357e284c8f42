import ShutterGateway.Proofs.Processor.Numbering

/-!
What becomes of an attempt. Every step of a processor goes on with what it is doing, begins an
attempt, or ends one, and there are few ways in which it can: each is listed here once, with what it
leads to. From that, the attempt that is out is always what its beginning and the frames that were
taken since make of it, each frame at the instant at which it was taken.
-/

namespace ShutterGateway.Processor

/-! ## Hearing frames -/

namespace Attempt

/-- The attempt after a frame was taken that does not end it. -/
def hear (config : Config) (attempt : Attempt) (heard : Instant × Frame) : Attempt :=
  if attempt.command.accepts heard.2 then
    attempt.extend config heard.1 heard.2 (attempt.command.respond heard.2)
  else attempt

/-- The attempt after some frames were taken. -/
def hearAll (config : Config) (heard : List (Instant × Frame)) (attempt : Attempt) : Attempt :=
  heard.foldl (hear config) attempt

end Attempt

/-- The frames that an attempt takes, with the instant. -/
def Moment.heard (moment : Moment) : List (Instant × Frame) :=
  moment.taken.map (moment.before.now, ·)

/-- The attempt at a command that begins in a state. -/
def State.attempting (config : Config) (command : Command) (state : State) : Attempt :=
  ⟨(state.assignSession command).1, state.now + (config.limit command.descriptor.wait).nanos⟩

namespace Activity

/-- The command for which an attempt is out, as it was before. -/
def asked? : Activity → Option Command
  | .running job _ _ => some job.command
  | .checking _ => some { request := .ping }
  | _ => none

/-- What the processor does after its attempt has changed. -/
def after (change : Attempt → Attempt) : Activity → Activity
  | .running job retries attempt => .running job retries (change attempt)
  | .checking attempt => .checking (change attempt)
  | activity => activity

end Activity

/-- A reaction that begins an attempt at a command: its request is handed over. -/
structure Opens (config : Config) (state : State) (command : Command)
    (activity : Attempt → Activity) (reaction : Reaction) : Prop where
  out : reaction.1.mode.activity? = some (activity (state.attempting config command))
  request : ∃ frame, (state.attempting config command).command.frame? = .ok frame
    ∧ sent reaction.2 = [frame]
  now : reaction.1.now = state.now

/-- A reaction that begins no pause, and no attempt but at a request of the refresh or at a
check. -/
inductive Continues (config : Config) (state : State) (reaction : Reaction) : Prop where
  | free (free : ∀ activity, reaction.1.mode.activity? = some activity → activity = .idle)
  | refresh {job : Job}
    (opens : Opens config state job.command (.running job config.transientRetries) reaction)
  | check (opens : Opens config state { request := .ping } .checking reaction)

section

variable {config : Config} {link left : Link} {refresh : List Request} {state later : State}
  {reaction : Reaction} {attempt : Attempt}

theorem hearAll_append (first second : List (Instant × Frame)) (attempt : Attempt) :
    attempt.hearAll config (first ++ second)
      = (attempt.hearAll config first).hearAll config second :=
  List.foldl_append

theorem command_hear (attempt : Attempt) (heard : Instant × Frame) :
    (attempt.hear config heard).command = attempt.command.receive heard.2 := by
  unfold Attempt.hear Command.receive
  split
  · exact Attempt.command_extend ..
  · rfl

/-- The command of an attempt is what the frames make of it, whenever they were taken. -/
theorem command_hearAll (heard : List (Instant × Frame)) (attempt : Attempt) :
    (attempt.hearAll config heard).command = attempt.command.receiveAll (heard.map Prod.snd) := by
  induction heard generalizing attempt with
  | nil => rfl
  | cons first rest ih =>
    show ((attempt.hear config first).hearAll config rest).command = _
    rw [ih, command_hear]
    rfl

theorem map_heard (moments : List Moment) :
    (moments.flatMap Moment.heard).map Prod.snd = moments.flatMap Moment.taken := by
  rw [List.map_flatMap]
  refine List.flatMap_congr ?_
  intro moment _
  rw [Moment.heard, List.map_map]
  exact List.map_id _

/-! ## Beginning an attempt -/

/-- An attempt depends on the supply of session numbers and on the time. -/
theorem attempting_congr (sessions : later.sessions = state.sessions) (now : later.now = state.now)
    (command : Command) : later.attempting config command = state.attempting config command := by
  unfold State.attempting State.assignSession
  rw [sessions, now]
  split <;> rfl

theorem Opens.congr {command : Command} {activity : Attempt → Activity}
    (sessions : later.sessions = state.sessions) (now : later.now = state.now)
    (h : Opens config later command activity reaction) :
    Opens config state command activity reaction := by
  obtain ⟨out, request, hnow⟩ := h
  rw [attempting_congr sessions now] at out request
  exact ⟨out, request, hnow.trans now⟩

theorem Continues.congr (sessions : later.sessions = state.sessions)
    (now : later.now = state.now) (h : Continues config later reaction) :
    Continues config state reaction := by
  cases h with
  | free free => exact .free free
  | refresh opens => exact .refresh (opens.congr sessions now)
  | check opens => exact .check (opens.congr sessions now)

/-- What comes before an attempt without a request does not matter to it. -/
theorem Opens.andThen {command : Command} {activity : Attempt → Activity} {first : Reaction}
    {next : State → Reaction} (silent : sent first.2 = [])
    (h : Opens config state command activity (next first.1)) :
    Opens config state command activity (first.andThen next) := by
  obtain ⟨out, ⟨frame, hframe, hsent⟩, now⟩ := h
  refine ⟨out, ⟨frame, hframe, ?_⟩, now⟩
  rw [Reaction.andThen, sent_append, silent]
  exact hsent

theorem Continues.andThen {first : Reaction} {next : State → Reaction}
    (silent : sent first.2 = []) (h : Continues config state (next first.1)) :
    Continues config state (first.andThen next) := by
  cases h with
  | free free => exact .free free
  | refresh opens => exact .refresh (opens.andThen silent)
  | check opens => exact .check (opens.andThen silent)

/-- Handing a command back leaves the supply and the time as they are. -/
theorem Continues.finish {command : Command} {origin : Origin} {next : State → Reaction}
    (h : Continues config (state.learn command) (next (state.learn command))) :
    Continues config state ((state.finish command origin).andThen next) :=
  .andThen (sent_finish command origin state) (h.congr (sessions_learn _ _) (now_learn _ _))

theorem continues_of_withdraws (h : Withdraws state reaction) :
    Continues config later reaction := by
  obtain ⟨outage, stage, mode⟩ := h.offline
  refine .free fun activity busy => ?_
  rw [mode] at busy
  cases busy

theorem continues_loseLink (state : State) : Continues config later (state.loseLink config) :=
  continues_of_withdraws (withdraws_loseLink config state)

theorem free_stop (state : State) :
    ∀ activity, state.stop.1.mode.activity? = some activity → activity = .idle := by
  have hmode : state.stop.1.mode = .stopped := mode_drain state.queue _
  intro activity busy
  rw [hmode] at busy
  cases busy

theorem continues_stop (state : State) : Continues config later state.stop :=
  .free (free_stop state)

/-- The state after a request was handed over is the one before, but for the supply and the mode. -/
theorem opens_of_sent {command : Command} {activity : Attempt → Activity} {frame : Frame}
    (frame? : (state.assignSession command).1.frame? = .ok frame) :
    Opens config state command activity
      ({ (state.assignSession command).2 with
          mode := .online link refresh (activity (state.attempting config command)) },
        [.send frame]) := by
  refine ⟨rfl, ⟨frame, frame?, rfl⟩, ?_⟩
  show (state.assignSession command).2.now = state.now
  rw [state_assigned]

/-- The deadline counts from the instant of the request, as the kind of the command has it. -/
theorem attempting_eq (command : Command) :
    (⟨(state.assignSession command).1, (state.assignSession command).2.now
      + (config.limit (state.assignSession command).1.descriptor.wait).nanos⟩ : Attempt)
      = state.attempting config command := by
  rw [state_assigned, Command.descriptor, Command.kind, request_assigned]
  rfl

/-- A job that is launched gets an attempt, unless the connection takes no more frames. -/
theorem opens_or_refused_launch {job : Job} (retries : Nat) (next : State → Reaction)
    (sendable : Sendable job.command.kind) :
    Opens config state job.command (.running job retries)
        (state.launch config link refresh job retries next)
      ∨ link.refusing ∧ state.launch config link refresh job retries next
        = ((State.finish
            ((state.assignSession job.command).1.fail (.connectivity .connectionLost)) job.origin
            (state.assignSession job.command).2).andThen (State.loseLink config)) := by
  have begins := beginsAs_begin config link state sendable
  unfold State.launch
  generalize state.begin config link job.command = begun at begins
  cases begins with
  | sent taking frame? =>
    rw [attempting_eq]
    exact .inl (opens_of_sent frame?)
  | refused refusing => exact .inr ⟨refusing, rfl⟩

theorem continues_launch {job : Job} {next : State → Reaction}
    (sendable : Sendable job.command.kind) :
    Continues config state
      (state.launch config link refresh job config.transientRetries next) := by
  rcases opens_or_refused_launch config.transientRetries next sendable with opens | ⟨-, lost⟩
  · exact .refresh opens
  · rw [lost]
    exact .andThen (sent_finish ..) (continues_loseLink _)

theorem continues_proceed (sendable : ∀ request ∈ refresh, Sendable request.kind) :
    Continues config state (State.proceed config link refresh state) := by
  cases refresh with
  | nil =>
    refine .free ?_
    rintro activity ⟨⟩
    rfl
  | cons request rest => exact continues_launch (sendable request List.mem_cons_self)

theorem continues_check : Continues config state (state.check config link refresh) := by
  have begins : BeginsAs config link state { request := .ping }
      (state.begin config link { request := .ping }) :=
    beginsAs_begin config link state sendable_ping
  unfold State.check
  generalize state.begin config link { request := .ping } = begun at begins
  cases begins with
  | sent taking frame? =>
    rw [attempting_eq]
    exact .check (opens_of_sent frame?)
  | refused refusing => exact .andThen rfl (continues_loseLink _)

theorem continues_goOnline : Continues config state (state.goOnline config link) := by
  let online : State := { state with connectedOnce := true, published := .connected }
  have proceeds : Continues config online
      (State.proceed config link (online.refreshRequests config) online) :=
    continues_proceed (sendable_refreshRequests config _)
  have sessions : online.sessions = state.sessions := rfl
  have now : online.now = state.now := rfl
  unfold State.goOnline
  refine .andThen rfl ?_
  exact proceeds.congr sessions now

theorem continues_concludeCheck {outcome : Outcome}
    (sendable : ∀ request ∈ refresh, Sendable request.kind) :
    Continues config state (state.concludeCheck config link refresh outcome) := by
  cases outcome with
  | done => exact continues_proceed sendable
  | terminated => exact continues_stop state
  | linkLost => exact continues_loseLink state
  | timedOut => exact continues_loseLink state

theorem continues_conclude {job : Job} {retries : Nat} {command : Command} {outcome : Outcome}
    (sendable : ∀ request ∈ refresh, Sendable request.kind)
    (settled : ¬ Again command outcome retries)
    (h : Concludes config link refresh job retries command state outcome reaction) :
    ∃ next, reaction = (state.finish command job.origin).andThen next
      ∧ Continues config (state.learn command) (next (state.learn command)) := by
  cases h with
  | again again => exact absurd again settled
  | settle => exact ⟨_, rfl, continues_concludeCheck sendable⟩
  | check => exact ⟨_, rfl, continues_check⟩

/-! ## One step -/

end

/-- A moment at which the request of an attempt at a command is handed over. -/
structure Hands (config : Config) (moment : Moment) (command : Command)
    (activity : Attempt → Activity) : Prop where
  out : moment.after.mode.activity? = some (activity (moment.before.attempting config command))
  request : ∃ frame, (moment.before.attempting config command).command.frame? = .ok frame
    ∧ moment.requests = [frame]
  now : moment.after.now = moment.before.now

/-- What a moment can be for the attempts of a processor. -/
inductive Goes (config : Config) (moment : Moment) : Prop where
  /-- The processor goes on with what it does. An attempt that is out hears the frame that it
  takes. -/
  | on (activity : moment.after.mode.activity?
      = moment.before.mode.activity?.map (Activity.after (Attempt.hearAll config moment.heard)))
    (silent : moment.requests = [])
    (now : moment.step = .turn → moment.after.now = moment.before.now)
  /-- An attempt was refused for now, and its job is put off. -/
  | pauses {job : Job} {retries : Nat} {attempt : Attempt} {frame : Frame}
    (running : moment.before.mode.activity? = some (.running job (retries + 1) attempt))
    (taken : moment.taken = [frame]) (accepts : attempt.command.accepts frame)
    (ended : moment.ended config = [attempt.command.respond frame])
    (refused : (attempt.command.respond frame).error?.any (·.isTransient))
    (pausing : moment.after.mode.activity?
      = some (.pausing job retries
          (moment.before.now + config.confirmationTimeout.quarter.nanos)))
    (effects : moment.effects = [])
  /-- A job is tried again after its pause. -/
  | resumes {job : Job} {retries : Nat} {resume : Instant}
    (pausing : moment.before.mode.activity? = some (.pausing job retries resume))
    (due : resume ≤ moment.before.now) (running : ¬ moment.before.terminating)
    (hands : Hands config moment job.command (.running job retries))
  /-- A job is tried for the first time. -/
  | begins {job : Job}
    (fresh : ∀ job retries resume,
      moment.before.mode.activity? ≠ some (.pausing job retries resume))
    (hands : Hands config moment job.command (.running job config.transientRetries))
  | checks (hands : Hands config moment { request := .ping } .checking)
  /-- Nothing is out afterwards. -/
  | ends (free : ∀ activity, moment.after.mode.activity? = some activity → activity = .idle)

section

variable {config : Config} {link left : Link} {refresh : List Request} {state : State}
  {reaction : Reaction} {attempt : Attempt} {activity : Activity}

theorem Opens.hands {command : Command} {next : Attempt → Activity}
    (plain : requests state reaction.2 = sent reaction.2)
    (h : Opens config state command next reaction) :
    Hands config ⟨state, .turn, reaction.2, reaction.1⟩ command next := by
  obtain ⟨out, ⟨frame, hframe, hsent⟩, now⟩ := h
  exact ⟨out, ⟨frame, hframe, plain.trans hsent⟩, now⟩

theorem Continues.goes (plain : requests state reaction.2 = sent reaction.2)
    (fresh : ∀ job retries resume, state.mode.activity? ≠ some (.pausing job retries resume))
    (h : Continues config state reaction) :
    Goes config ⟨state, .turn, reaction.2, reaction.1⟩ := by
  cases h with
  | free free => exact .ends free
  | refresh opens => exact .begins fresh (opens.hands plain)
  | check opens => exact .checks (opens.hands plain)

/-- Without a connection nothing is out. -/
theorem goes_of_offline {moment : Moment} {outage : Outage} {stage : Stage}
    (mode : moment.after.mode = .offline outage stage) : Goes config moment := by
  refine .ends fun activity busy => ?_
  rw [mode] at busy
  cases busy

theorem activity?_of_online (mode : state.mode = .online link refresh activity) :
    state.mode.activity? = some activity := by
  rw [mode]
  rfl

theorem exists_online_of_activity (h : state.mode.activity? = some activity) :
    ∃ link refresh, state.mode = .online link refresh activity := by
  cases mode : state.mode with
  | online link refresh other =>
    rw [mode] at h
    obtain rfl := Option.some.inj h
    exact ⟨link, refresh, rfl⟩
  | offline outage stage =>
    rw [mode] at h
    cases h
  | stopped =>
    rw [mode] at h
    cases h

theorem not_pausing_of_online (mode : state.mode = .online link refresh activity)
    (fresh : ∀ job retries resume, activity ≠ .pausing job retries resume) :
    ∀ job retries resume, state.mode.activity? ≠ some (.pausing job retries resume) := by
  intro job retries resume pausing
  exact fresh job retries resume (Option.some.inj ((activity?_of_online mode).symm.trans pausing))

/-- An attempt that goes on has heard the frame that it took. -/
theorem Attempt.Comes.hears_of_ongoing {later : Attempt}
    (comes : attempt.Comes config state link (.ongoing later, left))
    (mode : state.mode = .online link refresh activity)
    (attempted : activity.attempt? = some attempt) :
    later = attempt.hearAll config (state.taken?.toList.map (state.now, ·)) := by
  cases comes with
  | ongoing running arrived accepts =>
    rw [taken?_of_arrived running mode attempted arrived]
    exact (if_pos accepts).symm

theorem Attempt.Comes.hears_of_unclaimed {frame : Frame}
    (comes : attempt.Comes config state link (.unclaimed frame, left))
    (mode : state.mode = .online link refresh activity)
    (attempted : activity.attempt? = some attempt) :
    attempt = attempt.hearAll config (state.taken?.toList.map (state.now, ·)) := by
  cases comes with
  | unclaimed running arrived accepts =>
    rw [taken?_of_arrived running mode attempted arrived]
    exact (if_neg accepts).symm

theorem Attempt.Comes.taken_of_done {command : Command}
    (comes : attempt.Comes config state link (.ended command .done, left))
    (mode : state.mode = .online link refresh activity)
    (attempted : activity.attempt? = some attempt) :
    ∃ frame, state.taken?.toList = [frame] ∧ attempt.command.accepts frame
      ∧ command = attempt.command.respond frame := by
  cases comes with
  | @done frame rest running arrived accepts =>
    rw [taken?_of_arrived running mode attempted arrived]
    exact ⟨frame, rfl, accepts, rfl⟩

/-- An attempt that a turn ends has come to its end when the processor looks at it. -/
theorem exists_progress_of_ended {command : Command}
    (mode : state.mode = .online link refresh activity)
    (attempted : activity.attempt? = some attempt)
    (ended : (Moment.of config state .turn).ended config = [command]) :
    ∃ outcome left, attempt.progress config state link = (.ended command outcome, left)
      ∧ attempt.Comes config state link (.ended command outcome, left) := by
  have hended : state.ended? config = some command := Option.toList_eq_singleton_iff.mp ended
  have comes := attempt.comes_progress config state link
  generalize attempt.progress config state link = result at comes
  obtain ⟨progress, left⟩ := result
  rw [ended?_of_comes mode attempted comes] at hended
  cases progress with
  | ended other outcome =>
    obtain rfl := Option.some.inj hended
    exact ⟨outcome, left, rfl, comes⟩
  | waiting => cases hended
  | ongoing later => cases hended
  | unclaimed frame => cases hended

/-- A turn in which the processor goes on with an attempt. -/
theorem goes_on {after : Activity} (mode : state.mode = .online link refresh activity)
    (out : reaction.1.mode.activity? = some after)
    (hears : after = activity.after
      (Attempt.hearAll config (state.taken?.toList.map (state.now, ·))))
    (silent : sent reaction.2 = []) (now : reaction.1.now = state.now) :
    Goes config ⟨state, .turn, reaction.2, reaction.1⟩ := by
  refine .on ?_ ((requests_of_online mode _).trans silent) fun _ => now
  show reaction.1.mode.activity? = state.mode.activity?.map _
  rw [out, activity?_of_online mode, hears]
  rfl

theorem goes_conclude {job : Job} {retries : Nat} {command : Command} {outcome : Outcome}
    (mode : state.mode = .online link refresh (.running job retries attempt))
    (sendable : ∀ request ∈ refresh, Sendable request.kind)
    (comes : attempt.Comes config state link (.ended command outcome, left)) :
    Goes config ⟨state, .turn, (state.conclude config left refresh job retries command outcome).2,
      (state.conclude config left refresh job retries command outcome).1⟩ := by
  by_cases again : Again command outcome retries
  · rw [conclude_again again]
    obtain ⟨rfl, refused, others⟩ := again
    obtain ⟨retries, rfl⟩ := Nat.exists_eq_succ_of_ne_zero (Nat.ne_of_gt others)
    obtain ⟨frame, taken, accepts, rfl⟩ := comes.taken_of_done mode rfl
    have ended : state.ended? config = some _ := ended?_of_comes mode rfl comes
    exact .pauses (activity?_of_online mode) taken accepts (congrArg Option.toList ended) refused
      rfl rfl
  · have concludes := concludes_conclude config left refresh job retries command outcome state
    obtain ⟨next, hconclude, continues⟩ := continues_conclude sendable again concludes
    rw [hconclude]
    refine continues.finish.goes (requests_of_online mode _) (not_pausing_of_online mode ?_)
    rintro _ _ _ ⟨⟩

theorem goes_turn (fit : state.Fit) (h : Turns config state reaction) :
    Goes config ⟨state, .turn, reaction.2, reaction.1⟩ := by
  cases h with
  | stop => exact .ends (free_stop state)
  | connect => exact goes_of_offline rfl
  | @reject outage job rest running suspended =>
    obtain ⟨stage, mode⟩ := suspended.offline
    exact goes_of_offline ((mode_learn _ _).trans mode)
  | logIn => exact goes_of_offline rfl
  | @failAttempt outage error =>
    obtain ⟨outage, stage, mode⟩ := (withdraws_failAttempt config outage error state).offline
    exact goes_of_offline mode
  | keepLoggingIn => exact goes_of_offline rfl
  | goOnline running mode =>
    refine continues_goOnline.goes ?_ ?_
    · rw [requests, mode]
    · intro job retries resume pausing
      rw [mode] at pausing
      cases pausing
  | @unsolicited link refresh frame rest running mode =>
    refine .ends ?_
    rw [state_unsolicited]
    rintro activity ⟨⟩
    rfl
  | loseLink =>
    obtain ⟨outage, stage, mode⟩ := (withdraws_loseLink config state).offline
    exact goes_of_offline mode
  | @launch link refresh job rest running mode silent alive queue =>
    let waiting : State := { state with queue := rest }
    have sessions : waiting.sessions = state.sessions := rfl
    have now : waiting.now = state.now := rfl
    have launches : Continues config waiting
        (waiting.launch config link refresh job config.transientRetries
          (State.proceed config link refresh)) :=
      continues_launch (fit.front queue).1.sendable
    refine (launches.congr sessions now).goes (requests_of_online mode _)
      (not_pausing_of_online mode ?_)
    rintro _ _ _ ⟨⟩
  | ongoing mode comes =>
    refine goes_on mode rfl ?_ rfl rfl
    rw [comes.hears_of_ongoing mode rfl]
    rfl
  | @unclaimed link left refresh job retries attempt frame mode comes =>
    have hears := comes.hears_of_unclaimed mode rfl
    refine goes_on mode ?_ (congrArg (Activity.running job retries) hears) (sent_unsolicited ..) ?_
    · rw [state_unsolicited]
      rfl
    · rw [state_unsolicited]
  | conclude mode comes => exact goes_conclude mode (fit.online mode).2.1 comes
  | stopPause => exact .ends (free_stop _)
  | @resume link refresh job retries resume running mode due =>
    have hjob : job.Fit := (fit.online mode).2.2
    rcases opens_or_refused_launch retries (State.proceed config link refresh) hjob.sendable with
      opens | ⟨-, lost⟩
    · exact .resumes (activity?_of_online mode) due running
        (opens.hands (requests_of_online mode _))
    · rw [lost]
      obtain ⟨outage, stage, mode⟩ := (withdraws_loseLink config (State.learn _ _)).offline
      exact goes_of_offline mode
  | keepChecking mode comes =>
    refine goes_on mode rfl ?_ rfl rfl
    rw [comes.hears_of_ongoing mode rfl]
    rfl
  | @unclaimedByCheck link left refresh attempt frame mode comes =>
    have hears := comes.hears_of_unclaimed mode rfl
    refine goes_on mode ?_ (congrArg Activity.checking hears) (sent_unsolicited ..) ?_
    · rw [state_unsolicited]
      rfl
    · rw [state_unsolicited]
  | concludeCheck mode comes =>
    refine (continues_concludeCheck (fit.online mode).2.1).goes (requests_of_online mode _)
      (not_pausing_of_online mode ?_)
    rintro _ _ _ ⟨⟩

/-- A step in which nothing is taken and nothing done goes on with what the processor does. -/
theorem goes_of_same {moment : Moment}
    (activity : moment.after.mode.activity? = moment.before.mode.activity?)
    (taken : moment.taken = []) (silent : moment.requests = [])
    (now : moment.step = .turn → moment.after.now = moment.before.now) : Goes config moment := by
  refine .on ?_ silent now
  have hsame : Activity.after (Attempt.hearAll config moment.heard) = id := by
    funext activity
    rw [Moment.heard, taken]
    cases activity <;> rfl
  rw [activity, hsame, Option.map_id, id]

theorem goes_moment (config : Config) (step : Step) (fit : state.Fit) :
    Goes config (.of config state step) := by
  cases step with
  | event event =>
    obtain ⟨activity, -, silent⟩ := occur_keeps event state
    exact goes_of_same activity rfl ((requests_of_sent silent).trans silent) nofun
  | turn =>
    cases h : state.turn? config with
    | none =>
      rw [moment_of_no_turn h]
      refine goes_of_same rfl ?_ (requests_of_sent rfl) fun _ => rfl
      show state.taken?.toList = []
      rw [taken?_of_no_turn h]
      rfl
    | some reaction =>
      rw [moment_of_turn h]
      exact goes_turn fit (turns_of_turn h)

end

end ShutterGateway.Processor
