import ShutterGateway.Proofs.Processor.Deadline
import ShutterGateway.Proofs.Processor.Protocol
import ShutterGateway.Proofs.Processor.Retry

/-!
How a connection is lost. While the end is not asked for, every turn on a connection writes the
request that is due, or keeps the connection without writing anything, or gives it up. There are
three reasons for that: the connection has come to its end, it takes no more frames and a request
is due, or a ping has got no answer.
-/

namespace ShutterGateway.Processor

/-! ## What a processor finds on its connection -/

namespace State

/-- The connection has come to its end, and every frame that arrived has been looked at. -/
def Closed (state : State) : Prop :=
  ∃ link, state.mode.link? = some link ∧ link.inbound = [] ∧ link.ended?.isSome

/-- The connection takes no more frames. -/
def Refusing (state : State) : Prop :=
  ∃ link, state.mode.link? = some link ∧ link.refusing

/-- The next frame ends the command of the attempt that is out. -/
structure IsAnswered (state : State) (attempt : Attempt) (frame : Frame) : Prop where
  out : state.attempt? = some attempt
  taken : state.taken? = some frame
  accepts : attempt.command.accepts frame
  terminal : (attempt.command.respond frame).isTerminal

/-- The time of the attempt that is out has passed, and there is nothing else to look at before. -/
structure TimesOut (state : State) (attempt : Attempt) : Prop where
  out : state.attempt? = some attempt
  running : ¬ state.terminating
  silent : state.buffered = []
  alive : ¬ state.Closed
  late : attempt.deadline ≤ state.now

/-- With this answer the job is refused for now, and attempts are left. -/
def PutsOff (state : State) (frame : Frame) : Prop :=
  ∃ job retries attempt, state.mode.activity? = some (.running job retries attempt)
    ∧ (attempt.command.respond frame).RefusedForNow ∧ 0 < retries

/-- The request that comes next is due to be written. -/
inductive Writes (state : State) : Request → Prop where
  | job {job : Job} (due : state.due? = some job) : Writes state job.command.request
  /-- What was out is settled, and the refresh goes on. -/
  | refresh {attempt : Attempt} {frame : Frame} {request : Request} {rest : List Request}
    (answered : state.IsAnswered attempt frame) (settled : ¬ state.PutsOff frame)
    (next : state.refreshing = request :: rest) : Writes state request
  /-- A command has got no answer. -/
  | check {attempt : Attempt} (timesOut : state.TimesOut attempt)
    (other : attempt.command.kind ≠ .ping) : Writes state .ping

/-- Why a connection is given up while the end is not asked for. Its end is not noticed during a
pause. -/
inductive GivesUp (state : State) : Prop where
  | closed (closed : state.Closed) (looks : ∀ job retries resume,
      state.mode.activity? ≠ some (.pausing job retries resume))
  | refused {request : Request} (writes : state.Writes request) (refusing : state.Refusing)
  | unanswered {attempt : Attempt} (timesOut : state.TimesOut attempt)
    (ping : attempt.command.kind = .ping)

end State

/-- How an attempt ends while the end of the processor is not asked for. -/
inductive Ending (state : State) (attempt : Attempt) : Command → Outcome → Prop where
  | answered {frame : Frame} (answered : state.IsAnswered attempt frame) :
    Ending state attempt (attempt.command.respond frame) .done
  | closed (closed : state.Closed) :
    Ending state attempt (attempt.command.fail (.connectivity .connectionLost)) .linkLost
  | timedOut (timesOut : state.TimesOut attempt) :
    Ending state attempt (attempt.command.fail .timeout) .timedOut

/-- A reaction that writes a request, unless the connection takes no more frames: then it gives the
connection up. -/
inductive Puts (link : Link) (request : Request) (reaction : Reaction) : Prop where
  | written {frame : Frame} (taking : ¬ link.refusing) (asks : request.Asks frame)
    (sent : sent reaction.2 = [frame]) (online : reaction.1.mode.activity?.isSome)
  | refused (refusing : link.refusing) (silent : sent reaction.2 = [])
    (lost : reaction.1.mode.activity? = none)

/-- What a turn on a connection can do while the end of the processor is not asked for. -/
inductive Acts (state : State) (link : Link) (reaction : Reaction) : Prop where
  | writes {request : Request} (writes : state.Writes request) (puts : Puts link request reaction)
  | keeps (silent : sent reaction.2 = []) (online : reaction.1.mode.activity?.isSome)
  | loses (silent : sent reaction.2 = []) (reason : state.GivesUp)

section

variable {config : Config} {state : State} {link left : Link} {refresh : List Request}
  {activity : Activity} {attempt : Attempt} {command : Command} {outcome : Outcome} {job : Job}
  {retries : Nat} {request : Request} {reaction : Reaction}

theorem link?_of_online (mode : state.mode = .online link refresh activity) :
    state.mode.link? = some link := by
  rw [mode]
  rfl

theorem refreshing_of_online (mode : state.mode = .online link refresh activity) :
    state.refreshing = refresh := by
  rw [State.refreshing, mode]

theorem closed_iff (mode : state.mode = .online link refresh activity) :
    state.Closed ↔ link.inbound = [] ∧ link.ended?.isSome := by
  simp [State.Closed, link?_of_online mode]

theorem refusing_iff (mode : state.mode = .online link refresh activity) :
    state.Refusing ↔ link.refusing := by
  simp [State.Refusing, link?_of_online mode]

/-! ## How attempts end -/

theorem Attempt.Comes.ending (mode : state.mode = .online link refresh activity)
    (attempted : activity.attempt? = some attempt) (running : ¬ state.terminating)
    (comes : attempt.Comes config state link (.ended command outcome, left)) :
    Ending state attempt command outcome ∧ left.refusing = link.refusing := by
  have out : state.attempt? = some attempt := (attempt?_of_online mode).trans attempted
  cases comes with
  | terminated terminating => exact absurd terminating running
  | done _ arrived accepts terminal =>
    exact ⟨.answered ⟨out, taken?_of_arrived running mode attempted arrived, accepts, terminal⟩,
      rfl⟩
  | linkLost _ silent ended => exact ⟨.closed ((closed_iff mode).mpr ⟨silent, ended⟩), rfl⟩
  | timedOut _ silent alive late =>
    have waits : ¬ state.Closed := fun closed => alive ((closed_iff mode).mp closed).2
    exact ⟨.timedOut ⟨out, running, (buffered_of_online mode).trans silent, waits, late⟩, rfl⟩

theorem State.TimesOut.comes (config : Config) (mode : state.mode = .online link refresh activity)
    (timesOut : state.TimesOut attempt) :
    attempt.Comes config state link (.ended (attempt.command.fail .timeout) .timedOut, link) := by
  have silent : link.inbound = [] := (buffered_of_online mode).symm.trans timesOut.silent
  refine .timedOut timesOut.running silent ?_ timesOut.late
  intro ended
  exact timesOut.alive ((closed_iff mode).mpr ⟨silent, ended⟩)

theorem State.IsAnswered.comes {frame : Frame} (mode : state.mode = .online link refresh activity)
    (answered : state.IsAnswered attempt frame) :
    ∃ rest, link.inbound = frame :: rest
      ∧ attempt.Comes config state link
        (.ended (attempt.command.respond frame) .done, { link with inbound := rest }) := by
  have taken := answered.taken
  rw [State.taken?, buffered_of_online mode] at taken
  split at taken
  · rename_i ready
    obtain ⟨rest, arrived⟩ := List.head?_eq_some_iff.mp taken
    exact ⟨rest, arrived, .done ready.2 arrived answered.accepts answered.terminal⟩
  · cases taken

/-- What ends an attempt while the end of the processor is not asked for. -/
theorem exists_ending (out : state.attempt? = some attempt) (running : ¬ state.terminating)
    (ended : (Moment.of config state .turn).ended config = [command]) :
    ∃ outcome, Ending state attempt command outcome := by
  obtain ⟨link, refresh, activity, mode, attempted⟩ := exists_online_of_attempt out
  obtain ⟨outcome, left, -, comes⟩ := exists_progress_of_ended mode attempted ended
  exact ⟨outcome, (comes.ending mode attempted running).1⟩

theorem State.TimesOut.not_answered {other : Attempt} {frame : Frame}
    (timesOut : state.TimesOut attempt) (answered : state.IsAnswered other frame) : False := by
  have taken := answered.taken
  rw [State.taken?, timesOut.silent] at taken
  split at taken <;> cases taken

/-! ## Writing a request -/

theorem sent_andThen {first : Reaction} (quiet : sent first.2 = []) (next : State → Reaction) :
    sent (first.andThen next).2 = sent (next first.1).2 := by
  rw [Reaction.andThen, sent_append, quiet]
  rfl

theorem puts_launch (retries : Nat) (next : State → Reaction)
    (sendable : Sendable job.command.kind) :
    Puts link job.command.request (state.launch config link refresh job retries next) := by
  have launches := launchesAs_launch config link refresh state retries next sendable
  generalize state.launch config link refresh job retries next = reaction at launches
  cases launches with
  | sent taking frame? => exact .written taking ⟨_, request_assigned state _, frame?⟩ rfl rfl
  | refused refusing =>
    have withdraws := withdraws_loseLink config
    exact .refused refusing ((sent_andThen (sent_finish ..) _).trans (withdraws _).sent)
      (withdraws _).activity?_eq_none

theorem puts_check : Puts link .ping (state.check config link refresh) := by
  have checks := checksAs_check config link refresh state
  generalize state.check config link refresh = reaction at checks
  cases checks with
  | sent taking request status frame? => exact .written taking ⟨_, request, frame?⟩ rfl rfl
  | refused refusing =>
    have withdraws := withdraws_loseLink config (state.assignSession { request := .ping }).2
    exact .refused refusing withdraws.sent withdraws.activity?_eq_none

theorem puts_proceed {rest : List Request}
    (sendable : ∀ other ∈ request :: rest, Sendable other.kind) :
    Puts link request (State.proceed config link (request :: rest) state) := by
  have first : Sendable (Command.kind { request := request }) :=
    sendable request List.mem_cons_self
  exact @puts_launch config state link rest ⟨{ request := request }, .internal⟩ _ _ first

/-- What comes before writes nothing. -/
theorem Puts.andThen {first : Reaction} {next : State → Reaction}
    (puts : Puts link request (next first.1)) (quiet : sent first.2 = []) :
    Puts link request (first.andThen next) := by
  have same := sent_andThen quiet next
  cases puts with
  | written taking asks sent online => exact .written taking asks (same.trans sent) online
  | refused refusing silent lost => exact .refused refusing (same.trans silent) lost

/-- What a connection takes depends on nothing that has arrived on it. -/
theorem Puts.congr (puts : Puts left request reaction) (same : left.refusing = link.refusing) :
    Puts link request reaction := by
  cases puts with
  | written taking asks sent online => exact .written (same ▸ taking) asks sent online
  | refused refusing silent lost => exact .refused (same ▸ refusing) silent lost

theorem puts_goOnline : Puts link .getVersion (state.goOnline config link) := by
  let online : State := { state with connectedOnce := true, published := .connected }
  have puts : Puts link .getVersion
      (State.proceed config link (online.refreshRequests config) online) :=
    puts_proceed (sendable_refreshRequests config _)
  cases puts with
  | written taking asks sent online => exact .written taking asks sent online
  | refused refusing silent lost => exact .refused refusing silent lost

theorem Puts.lost_iff (puts : Puts link request reaction) :
    reaction.1.mode.activity? = none ↔ link.refusing := by
  cases puts with
  | written taking _ _ online => simp [taking, Option.isSome_iff_ne_none.mp online]
  | refused refusing _ lost => simp [refusing, lost]

/-! ## The next turn -/

theorem turn?_of_checking (mode : state.mode = .online link refresh (.checking attempt))
    (comes : attempt.Comes config state link (.ended command outcome, left)) :
    state.turn? config = some (state.concludeCheck config left refresh outcome) := by
  rw [State.turn?, mode]
  show state.turnOnline? config link refresh (.checking attempt) = _
  rw [State.turnOnline?, comes.progress_eq]

/-- A request that is due is written by the next turn. -/
theorem puts_of_writes (fit : state.Fit) (writes : state.Writes request) :
    ∃ link refresh activity reaction, state.mode = .online link refresh activity
      ∧ state.turn? config = some reaction ∧ Puts link request reaction := by
  cases writes with
  | job due =>
    obtain ⟨link, refresh, activity, queue, mode, sendable, turn⟩ := exists_launch_of_due fit due
    exact ⟨link, refresh, activity, _, mode, turn, puts_launch _ _ sendable⟩
  | @refresh attempt frame _ rest answered settled next =>
    obtain ⟨link, refresh, activity, mode, attempted⟩ := exists_online_of_attempt answered.out
    obtain ⟨left, -, comes⟩ := answered.comes mode
    obtain ⟨-, sendable, -⟩ := fit.online mode
    rw [State.refreshing, mode] at next
    obtain rfl : refresh = request :: rest := next
    cases activity with
    | idle => cases attempted
    | pausing => cases attempted
    | running job retries out =>
      obtain rfl := Option.some.inj attempted
      have ended : ¬ Again (out.command.respond frame) .done retries := by
        rintro ⟨-, refused, others⟩
        exact settled ⟨job, retries, out, activity?_of_online mode,
          Command.refusedForNow_iff.mpr refused, others⟩
      refine ⟨link, _, _, _, mode, turn?_of_running mode comes, ?_⟩
      rw [conclude_settled ended]
      exact .andThen ((puts_proceed sendable).congr rfl) (sent_finish ..)
    | checking out =>
      obtain rfl := Option.some.inj attempted
      exact ⟨link, _, _, _, mode, turn?_of_checking mode comes, (puts_proceed sendable).congr rfl⟩
  | @check attempt timesOut other =>
    obtain ⟨link, refresh, activity, mode, attempted⟩ := exists_online_of_attempt timesOut.out
    have comes := timesOut.comes config mode
    cases activity with
    | idle => cases attempted
    | pausing => cases attempted
    | running job retries out =>
      obtain rfl := Option.some.inj attempted
      refine ⟨link, _, _, _, mode, turn?_of_running mode comes, ?_⟩
      rw [conclude_unanswered (mt (Command.kind_fail ..).symm.trans other)]
      exact puts_check.andThen (sent_finish ..)
    | checking out =>
      obtain rfl := Option.some.inj attempted
      have ping : out.command.request = .ping := (fit.online mode).2.2.1
      exact absurd (congrArg Request.kind ping) other

/-- What follows the end of an attempt that is neither tried again nor checked. -/
theorem acts_settle {first : Reaction} (quiet : sent first.2 = [])
    (mode : state.mode = .online link refresh activity)
    (attempted : activity.attempt? = some attempt) (running : ¬ state.terminating)
    (sendable : ∀ request ∈ refresh, Sendable request.kind)
    (comes : attempt.Comes config state link (.ended command outcome, left))
    (settled : outcome = .done → ∀ frame, command = attempt.command.respond frame →
      ¬ state.PutsOff frame)
    (ping : outcome = .timedOut → attempt.command.kind = .ping) :
    Acts state link (first.andThen (State.concludeCheck config left refresh outcome)) := by
  have silent : sent (first.andThen (State.loseLink config)).2 = [] :=
    (sent_andThen quiet _).trans (withdraws_loseLink config _).sent
  obtain ⟨ending, same⟩ := comes.ending mode attempted running
  cases ending with
  | @answered frame answered =>
    cases refresh with
    | nil => exact .keeps (sent_andThen quiet _) rfl
    | cons request rest =>
      exact .writes (.refresh answered (settled rfl frame rfl) (refreshing_of_online mode))
        (((puts_proceed sendable).congr same).andThen quiet)
  | closed closed =>
    have looks := not_pausing_of_online mode (by rintro _ _ _ rfl; cases attempted)
    exact .loses silent (.closed closed looks)
  | timedOut timesOut => exact .loses silent (.unanswered timesOut (ping rfl))

/-- The end of an attempt at a job. -/
theorem acts_conclude (fit : state.Fit)
    (mode : state.mode = .online link refresh (.running job retries attempt))
    (running : ¬ state.terminating)
    (comes : attempt.Comes config state link (.ended command outcome, left))
    (h : Concludes config left refresh job retries command state outcome reaction) :
    Acts state link reaction := by
  obtain ⟨-, sendable, -⟩ := fit.online mode
  obtain ⟨ending, same⟩ := comes.ending mode rfl running
  cases h with
  | again => exact .keeps rfl rfl
  | settle settled ping =>
    refine acts_settle (sent_finish ..) mode rfl running sendable comes ?_ ?_
    · rintro rfl frame rfl ⟨other, left, out, activity, refused, others⟩
      obtain ⟨⟩ := (activity?_of_online mode).symm.trans activity
      exact settled ⟨rfl, Command.refusedForNow_iff.mp refused, others⟩
    · rintro rfl
      cases ending with
      | timedOut => exact (Command.kind_fail ..).symm.trans (ping rfl)
  | check other =>
    cases ending with
    | timedOut timesOut =>
      have unlike : attempt.command.kind ≠ .ping := mt (Command.kind_fail ..).trans other
      exact .writes (.check timesOut unlike) ((puts_check.congr same).andThen (sent_finish ..))

/-- The end of a check. -/
theorem acts_concludeCheck (fit : state.Fit)
    (mode : state.mode = .online link refresh (.checking attempt)) (running : ¬ state.terminating)
    (comes : attempt.Comes config state link (.ended command outcome, left)) :
    Acts state link (state.concludeCheck config left refresh outcome) := by
  obtain ⟨-, sendable, ping, -⟩ := fit.online mode
  have quiet : sent state.silently.2 = [] := rfl
  refine acts_settle quiet mode rfl running sendable comes ?_ fun _ => congrArg Request.kind ping
  rintro - frame - ⟨other, left, out, activity, -⟩
  cases (activity?_of_online mode).symm.trans activity

/-- Every turn on a connection writes what is due, keeps it, or loses it for one of the reasons. -/
theorem acts_turn (fit : state.Fit) (mode : state.mode = .online link refresh activity)
    (running : ¬ state.terminating) (turns : Turns config state reaction) :
    Acts state link reaction := by
  have offline {outage : Outage} {stage : Stage} (h : state.mode = .offline outage stage) :
      False := by
    cases mode.symm.trans h
  cases turns with
  | stop _ terminating | stopPause _ terminating => exact absurd terminating running
  | connect _ mode | logIn _ mode | keepLoggingIn _ mode | goOnline _ mode =>
    exact (offline mode).elim
  | reject _ suspended =>
    obtain ⟨stage, mode⟩ := suspended.offline
    exact (offline mode).elim
  | failAttempt _ fails =>
    obtain ⟨stage, mode⟩ := fails.offline
    exact (offline mode).elim
  | unsolicited | unclaimed | unclaimedByCheck =>
    refine .keeps (sent_unsolicited ..) ?_
    rw [state_unsolicited]
    rfl
  | ongoing | keepChecking => exact .keeps rfl rfl
  | loseLink _ mode silent ended =>
    have looks := not_pausing_of_online mode (by rintro _ _ _ ⟨⟩)
    exact .loses (withdraws_loseLink config state).sent
      (.closed ((closed_iff mode).mpr ⟨silent, ended⟩) looks)
  | @launch other refresh job rest _ mode' silent alive queue =>
    cases mode.symm.trans mode'
    have ended : link.ended? = none := Option.not_isSome_iff_eq_none.mp alive
    have due : state.due? = some job := by
      simp [State.due?, mode, running, silent, ended, queue]
    exact .writes (.job due) (puts_launch _ _ (fit.front queue).1.sendable)
  | @resume other refresh job retries resume _ mode' ready =>
    cases mode.symm.trans mode'
    have due : state.due? = some job := by
      simp [State.due?, mode, running, ready]
    have fitting : job.Fit := (fit.online mode).2.2
    exact .writes (.job due) (puts_launch _ _ fitting.sendable)
  | conclude mode' comes =>
    cases mode.symm.trans mode'
    exact acts_conclude fit mode running comes (concludes_conclude ..)
  | concludeCheck mode' comes =>
    cases mode.symm.trans mode'
    exact acts_concludeCheck fit mode running comes

/-- An attempt that ends with the connection, or at a ping that gets no answer, loses it. -/
theorem lost_of_comes (mode : state.mode = .online link refresh activity)
    (attempted : activity.attempt? = some attempt)
    (comes : attempt.Comes config state link (.ended command outcome, left))
    (fatal : outcome = .linkLost ∨ outcome = .timedOut ∧ command.kind = .ping) :
    (Moment.of config state .turn).after.mode.activity? = none := by
  have lost (later : State) : (later.loseLink config).1.mode.activity? = none :=
    (withdraws_loseLink config later).activity?_eq_none
  cases activity with
  | idle => cases attempted
  | pausing => cases attempted
  | running job retries out =>
    obtain rfl := Option.some.inj attempted
    rw [moment_of_turn (turn?_of_running mode comes)]
    rcases fatal with rfl | ⟨rfl, ping⟩
    · exact lost _
    · rw [conclude_ping ping]
      exact lost _
  | checking out =>
    obtain rfl := Option.some.inj attempted
    rw [moment_of_turn (turn?_of_checking mode comes)]
    rcases fatal with rfl | ⟨rfl, -⟩
    · exact lost _
    · exact lost _

/-- With one of the reasons, the next turn gives the connection up. -/
theorem lost_of_givesUp (fit : state.Fit) (mode : state.mode = .online link refresh activity)
    (running : ¬ state.terminating) (reason : state.GivesUp) :
    (Moment.of config state .turn).after.mode.activity? = none := by
  cases reason with
  | closed closed looks =>
    obtain ⟨silent, ended⟩ := (closed_iff mode).mp closed
    cases activity with
    | idle =>
      have turn : state.turn? config = some (state.loseLink config) := by
        simp [State.turn?, State.turnOnline?, State.turnIdle?, mode, running, silent, ended]
      rw [moment_of_turn turn]
      exact (withdraws_loseLink config state).activity?_eq_none
    | pausing => exact absurd (activity?_of_online mode) (looks _ _ _)
    | running | checking =>
      exact lost_of_comes mode rfl (.linkLost running silent ended) (.inl rfl)
  | refused writes refusing =>
    obtain ⟨link, refresh, activity, reaction, mode, turn, puts⟩ := puts_of_writes fit writes
    rw [moment_of_turn turn]
    exact puts.lost_iff.mpr ((refusing_iff mode).mp refusing)
  | unanswered timesOut ping =>
    have attempted := (attempt?_of_online mode).symm.trans timesOut.out
    exact lost_of_comes mode attempted (timesOut.comes config mode)
      (.inr ⟨rfl, (Command.kind_fail ..).trans ping⟩)

/-- Every moment of a turn on a connection is one of these. -/
theorem acts_moment (config : Config) (fit : state.Fit)
    (mode : state.mode = .online link refresh activity) (running : ¬ state.terminating) :
    Acts state link
      ((Moment.of config state .turn).after, (Moment.of config state .turn).effects) := by
  cases turn : state.turn? config with
  | none =>
    rw [moment_of_no_turn turn]
    exact .keeps rfl (by rw [activity?_of_online mode]; rfl)
  | some reaction =>
    rw [moment_of_turn turn]
    exact acts_turn fit mode running (turns_of_turn turn)

/-- A connection is given up exactly for one of the reasons. -/
theorem lost_iff_givesUp (fit : state.Fit) (mode : state.mode = .online link refresh activity)
    (running : ¬ state.terminating) :
    (Moment.of config state .turn).after.mode.activity? = none ↔ state.GivesUp := by
  refine ⟨?_, lost_of_givesUp fit mode running⟩
  intro lost
  cases acts_moment config fit mode running with
  | writes writes puts =>
    exact .refused writes ((refusing_iff mode).mpr (puts.lost_iff.mp lost))
  | keeps _ online => simp [lost] at online
  | loses _ reason => exact reason

/-- What is due is written, unless the connection takes no more frames. -/
theorem request_of_writes (config : Config) (fit : state.Fit) (writes : state.Writes request)
    (taking : ¬ state.Refusing) :
    ∃ frame, (Moment.of config state .turn).requests = [frame] ∧ request.Asks frame := by
  obtain ⟨link, refresh, activity, reaction, mode, turn, puts⟩ := puts_of_writes fit writes
  rw [moment_of_turn turn]
  cases puts with
  | @written frame _ asks sent => exact ⟨frame, (requests_of_online mode _).trans sent, asks⟩
  | refused refusing => exact absurd ((refusing_iff mode).mpr refusing) taking

/-- Nothing but what is due is written. -/
theorem asks_of_request {frame : Frame} (fit : state.Fit)
    (mode : state.mode = .online link refresh activity) (running : ¬ state.terminating)
    (handed : frame ∈ (Moment.of config state .turn).requests) :
    ∃ request, state.Writes request ∧ request.Asks frame := by
  have all : (Moment.of config state .turn).requests
      = sent (Moment.of config state .turn).effects := requests_of_online mode _
  rw [all] at handed
  cases acts_moment config fit mode running with
  | @writes request writes puts =>
    cases puts with
    | written _ asks sent =>
      rw [sent] at handed
      exact ⟨request, writes, List.mem_singleton.mp handed ▸ asks⟩
    | refused _ silent =>
      rw [silent] at handed
      cases handed
  | keeps silent | loses silent =>
    rw [silent] at handed
    cases handed

end

end ShutterGateway.Processor
