import ShutterGateway.Proofs.Command.Answering
import ShutterGateway.Proofs.Command.Understanding
import ShutterGateway.Proofs.Processor.Losses
import ShutterGateway.Proofs.Processor.Notices

/-!
The check of a connection. A command that gets no answer makes its connection suspect. The command
is handed back, and the next request is a ping, which alone decides: any answer to it keeps the
connection, and what arrives late for the command before does not count.
-/

namespace ShutterGateway

/-! ## Answers to a ping -/

namespace Command

variable {command : Command} {frame : Frame} {opcode : Opcode}

theorem expects_ping (asks : command.request = .ping) :
    command.descriptor.expects opcode ↔ opcode = .getStateCfm ∨ opcode = .errorNtf := by
  rw [descriptor, kind, asks]
  cases opcode <;> decide

/-- A ping is answered by the state of the gateway or by a notification of an error. -/
theorem accepts_ping (asks : command.request = .ping) :
    command.accepts frame
      ↔ frame.opcode? = some .getStateCfm ∨ frame.opcode? = some .errorNtf := by
  rw [accepts_eq]
  cases hopcode : frame.opcode? with
  | none => simp
  | some opcode =>
    have hexpects : command.descriptor.expects opcode ↔ _ := expects_ping asks
    constructor
    · intro accepts
      simp only [Bool.and_eq_true] at accepts
      simpa using hexpects.mp accepts.1.1
    · intro answer
      simp only [Option.some.injEq] at answer
      simp only [hexpects.mpr answer]
      rcases answer with rfl | rfl <;> rfl

/-- The state of the gateway completes a ping, unless it cannot be read. -/
theorem readAnswer_ping (payload : Bytes) (findings : Findings) :
    Id.run (Request.ping.readAnswer .getStateCfm payload findings)
      = match GatewayState.parse? payload with
        | some state => ({ findings with state? := some state }, .done)
        | none => (findings, .failed (.protocol (.malformed .getStateCfm))) := rfl

/-- Every answer ends a ping, whatever it says. -/
theorem isTerminal_respond_of_ping (asks : command.request = .ping)
    (accepts : command.accepts frame) : (command.respond frame).isTerminal := by
  by_cases settled : command.isTerminal
  · rwa [respond_of_isTerminal settled]
  have pending : command.status = .pending := Decidable.not_not.mp (mt isTerminal_iff.mpr settled)
  have expects : command.Expects frame := exists_expects_of_accepts accepts
  rcases (accepts_ping asks).mp accepts with opcode | opcode
  · rw [respond_of_expected pending expects opcode (by decide), answered_of_request asks,
      readAnswer_ping, conclude_of_pending pending, isTerminal_iff]
    cases GatewayState.parse? frame.payload <;> exact nofun
  · rw [respond_of_errorNtf pending expects opcode, isTerminal_iff]
    exact nofun

/-- No other command is answered by the state of the gateway. -/
theorem kind_of_accepts (accepts : command.accepts frame)
    (opcode : frame.opcode? = some .getStateCfm) : command.kind = .ping := by
  obtain ⟨_, hopcode, expects⟩ := exists_expects_of_accepts accepts
  obtain rfl := Option.some.inj (opcode.symm.trans hopcode)
  rw [descriptor] at expects
  generalize command.kind = kind at expects ⊢
  revert expects
  cases kind <;> decide

end Command

namespace Processor

/-! ## The check -/

/-- The connection is suspect: the answer to a check is awaited. -/
def State.Suspects (state : State) (refresh : List Request) (check : Attempt) : Prop :=
  ∃ link, state.mode = .online link refresh (.checking check)

/-- What a caller gets whose command has got no answer. -/
def Attempt.told (job : Job) (attempt : Attempt) : List Effect :=
  job.call?.toList.map fun call => .answer call.ticket (attempt.command.fail .timeout)

section

variable {config : Config} {state : State} {link : Link} {refresh : List Request}
  {activity : Activity} {attempt : Attempt} {command : Command} {job : Job} {retries : Nat}
  {request : Request}

theorem asks_ping : Request.ping.Asks ⟨0x000c, []⟩ :=
  ⟨{ request := .ping }, rfl, rfl⟩

/-- A check writes a ping, whose answer is awaited for the time of a confirmation. -/
theorem check_eq :
    state.check config link refresh
      = if link.refusing then state.loseLink config
        else ({ state with
            mode := .online link refresh
              (.checking ⟨{ request := .ping }, state.now + config.confirmationTimeout.nanos⟩) },
          [.send ⟨0x000c, []⟩]) := by
  have begun : state.begin config link { request := .ping }
      = if link.refusing then
          (.refused (Command.fail (.connectivity .connectionLost) { request := .ping }),
            state.silently)
        else
          (.sent ⟨{ request := .ping }, state.now + config.confirmationTimeout.nanos⟩,
            (state, [.send ⟨0x000c, []⟩])) := rfl
  rw [State.check, begun]
  by_cases refusing : link.refusing
  · rw [if_pos refusing, if_pos refusing]
    rfl
  · rw [if_neg refusing, if_neg refusing]
    rfl

/-- A job without an answer is handed back first, and then the connection is checked. -/
theorem checks_of_timesOut (fit : state.Fit)
    (mode : state.mode = .online link refresh (.running job retries attempt))
    (timesOut : state.TimesOut attempt) (other : attempt.command.kind ≠ .ping) :
    ∃ others, (Moment.of config state .turn).effects = attempt.told job ++ others
      ∧ (link.refusing → answers others = [] ∧ sent others = []
        ∧ (Moment.of config state .turn).after.mode.activity? = none)
      ∧ (¬ link.refusing → ∃ frame, Request.ping.Asks frame ∧ others = [.send frame]
        ∧ (Moment.of config state .turn).after.mode
          = .online link refresh
            (.checking ⟨{ request := .ping }, state.now + config.confirmationTimeout.nanos⟩)) := by
  have told : (state.finish (attempt.command.fail .timeout) job.origin).2 = attempt.told job := by
    have pending : job.origin = .internal → attempt.command.status = .pending :=
      fit.pending mode
    rw [effects_fail .timeout pending]
    obtain ⟨command, origin⟩ := job
    cases origin <;> rfl
  rw [moment_of_turn (turn?_of_running mode (timesOut.comes config mode)),
    conclude_unanswered (mt (Command.kind_fail ..).symm.trans other)]
  refine ⟨_, congrArg (· ++ _) told, ?_, ?_⟩
  · intro refusing
    have withdraws := withdraws_loseLink config (state.learn (attempt.command.fail .timeout))
    simp only [Reaction.andThen, check_eq, if_pos refusing]
    exact ⟨withdraws.answers, withdraws.sent, withdraws.activity?_eq_none⟩
  · intro taking
    simp only [Reaction.andThen, check_eq, if_neg taking]
    refine ⟨_, asks_ping, rfl, ?_⟩
    show Mode.online link refresh (.checking ⟨_, (state.learn _).now + _⟩) = _
    rw [now_learn]

/-- As long as no answer has ended it, the same check is out, whatever else has arrived. -/
theorem State.Suspects.on {check : Attempt} {step : Step} (fit : state.Fit)
    (suspects : state.Suspects refresh check)
    (unended : (Moment.of config state step).ended config = []) :
    (Moment.of config state step).after.Suspects refresh check
      ∧ (Moment.of config state step).requests = [] := by
  obtain ⟨link, mode⟩ := suspects
  cases step with
  | event event =>
    obtain ⟨activity, -, silent⟩ := occur_keeps event state
    refine ⟨?_, (requests_of_sent silent).trans silent⟩
    obtain ⟨left, refresh', mode'⟩ :=
      exists_online_of_activity (activity.trans (activity?_of_online mode))
    have same := refreshing_occur event state
    rw [refreshing_of_online mode, refreshing_of_online mode'] at same
    subst same
    exact ⟨left, mode'⟩
  | turn =>
    have ended : state.ended? config = none := Option.toList_eq_nil_iff.mp unended
    have comes := check.comes_progress config state link
    have request : check.command.request = .ping := (fit.online mode).2.2.1
    generalize check.progress config state link = result at comes
    obtain ⟨progress, left⟩ := result
    have settled := (ended?_of_comes mode rfl comes).symm.trans ended
    cases progress with
    | ended => cases settled
    | ongoing later =>
      -- Every answer to a ping ends it.
      cases comes with
      | ongoing _ _ accepts pending =>
        exact absurd (Command.isTerminal_respond_of_ping request accepts) pending
    | waiting =>
      have turn : state.turn? config = none :=
        (turn?_eq_none_iff mode rfl).mpr (congrArg Prod.fst comes.progress_eq)
      rw [moment_of_no_turn turn]
      exact ⟨⟨link, mode⟩, requests_of_sent rfl⟩
    | unclaimed frame =>
      have turn : state.turn? config = some (State.unsolicited frame
          { state with mode := .online left refresh (.checking check) }) := by
        rw [State.turn?, mode]
        show state.turnOnline? config link refresh (.checking check) = _
        rw [State.turnOnline?, comes.progress_eq]
      rw [moment_of_turn turn]
      refine ⟨⟨left, ?_⟩, (requests_of_online mode _).trans (sent_unsolicited ..)⟩
      rw [state_unsolicited]

/-- While nothing ends it, a check is out over any stretch of a run, and nothing else is asked. -/
theorem State.Suspects.run {check : Attempt} (fit : state.Fit)
    (suspects : state.Suspects refresh check) (more : List Step)
    (unended : (moments config more state).flatMap (Moment.ended config) = []) :
    (Processor.run config more state).1.Suspects refresh check
      ∧ (moments config more state).flatMap Moment.requests = [] := by
  induction more generalizing state with
  | nil => exact ⟨suspects, rfl⟩
  | cons step rest ih =>
    obtain ⟨first, later⟩ := List.append_eq_nil_iff.mp unended
    obtain ⟨suspects', silent⟩ := suspects.on fit first
    obtain ⟨last, others⟩ := ih (fit_moment config state step fit) suspects' later
    exact ⟨last, List.append_eq_nil_iff.mpr ⟨silent, others⟩⟩

/-- When a check ends, the connection is kept exactly if the ping is answered. -/
theorem kept_iff_answered {check : Attempt} (fit : state.Fit)
    (suspects : state.Suspects refresh check) (running : ¬ state.terminating)
    (alive : ¬ state.Closed) (ended : (Moment.of config state .turn).ended config = [command]) :
    ((Moment.of config state .turn).after.mode.activity?.isSome
        ∨ (∃ request, state.Writes request) ∧ state.Refusing)
      ↔ ∃ frame, state.IsAnswered check frame := by
  obtain ⟨link, mode⟩ := suspects
  have out : state.attempt? = some check := attempt?_of_online mode
  have ping : check.command.kind = .ping := congrArg Request.kind (fit.online mode).2.2.1
  have lost : (Moment.of config state .turn).after.mode.activity? = none ↔ _ :=
    lost_iff_givesUp fit mode running
  obtain ⟨outcome, ending⟩ := exists_ending out running ended
  cases ending with
  | answered answered =>
    refine iff_of_true ?_ ⟨_, answered⟩
    by_cases kept : (Moment.of config state .turn).after.mode.activity?.isSome
    · exact .inl kept
    · cases lost.mp (Option.not_isSome_iff_eq_none.mp kept) with
      | closed closed => exact absurd closed alive
      | refused writes refusing => exact .inr ⟨⟨_, writes⟩, refusing⟩
      | unanswered timesOut => exact (timesOut.not_answered answered).elim
  | closed closed => exact absurd closed alive
  | timedOut timesOut =>
    refine iff_of_false ?_ fun ⟨_, answered⟩ => timesOut.not_answered answered
    rintro (kept | ⟨⟨request, writes⟩, -⟩)
    · simp [lost.mpr (.unanswered timesOut ping)] at kept
    · cases writes with
      | job due => simp [State.due?, mode] at due
      | refresh answered => exact timesOut.not_answered answered
      | check again other =>
        obtain rfl := Option.some.inj (again.out.symm.trans out)
        exact other ping

/-- While a check is out, no request but the next one of the refresh is due. -/
theorem State.Suspects.head?_of_writes {check : Attempt} (fit : state.Fit)
    (suspects : state.Suspects refresh check) (writes : state.Writes request) :
    refresh.head? = some request := by
  obtain ⟨link, mode⟩ := suspects
  cases writes with
  | job due => simp [State.due?, mode] at due
  | refresh answered settled next =>
    rw [refreshing_of_online mode] at next
    rw [next]
    rfl
  | check timesOut other =>
    obtain rfl := Option.some.inj ((attempt?_of_online mode).symm.trans timesOut.out)
    exact absurd (congrArg Request.kind (fit.online mode).2.2.1) other

end

/-- **A connection is given up only when it is dead, and what gets no answer is followed by one
ping.** Whatever happens to a processor and in whatever order, after any steps:

* While the end is not asked for, a step gives the connection up exactly if it is a turn and the
  connection has come to its end, or it takes no more frames and a request is due, or a ping has got
  no answer. A request is written exactly when it is due, and an attempt ends by an answer, by the
  end of the connection or by the time, and in no other way.
* The first request after the login is written in the turn that takes the connection into use, which
  is given up again at once if it takes no more frames.
* If the time of a command that is no ping has passed, then the next turn hands the command back to
  its caller, who gets it failed by the timeout, and checks the connection. If it takes no more
  frames, it is given up. Otherwise a ping is written on it, whose answer is awaited for the time of
  a confirmation.
* Whatever happens from then on, as long as the ping has not ended, it is out as it was, and no
  request is written. When it ends while the end is not asked for and the connection has not come to
  its end, the connection is kept exactly if the ping is answered, but for a request of the refresh
  that the connection does not take any more. No other request is written in that turn.
* What answers a ping is the state of the gateway or a notification of an error, whatever it says,
  and either of them ends it. A notification names no command, so that it counts for the one that is
  out. No other answer to another command is one to the ping, however late it comes. -/
theorem suspect_connection_is_pinged_once (config : Config) (epoch : UnixTime)
    (steps : List Step) :
    let state := reached config epoch steps
    let next := Moment.of config state .turn
    (state.mode.activity?.isSome → ¬ state.terminating →
      (∀ step, (Moment.of config state step).after.mode.activity? = none
          ↔ step = .turn ∧ state.GivesUp)
        ∧ (∀ request, state.Writes request → ¬ state.Refusing →
          ∃ frame, next.requests = [frame] ∧ request.Asks frame)
        ∧ (∀ frame ∈ next.requests, ∃ request, state.Writes request ∧ request.Asks frame)
        ∧ ∀ attempt command, state.attempt? = some attempt → next.ended config = [command] →
          ∃ outcome, Ending state attempt command outcome)
    ∧ (∀ outage link login frame rest, state.mode = .offline outage (.loggingIn link login) →
      ¬ state.terminating → link.inbound = frame :: rest →
      Login.receive login.command frame = .accepted →
      (next.after.mode.activity? = none ↔ link.refusing))
    ∧ (∀ link refresh job retries attempt,
      state.mode = .online link refresh (.running job retries attempt) →
      state.TimesOut attempt → attempt.command.kind ≠ .ping →
      let check : Attempt := ⟨{ request := .ping }, state.now + config.confirmationTimeout.nanos⟩
      ∃ others, next.effects = attempt.told job ++ others
        ∧ (link.refusing → answers others = [] ∧ sent others = []
          ∧ next.after.mode.activity? = none)
        ∧ (¬ link.refusing → (∃ frame, Request.ping.Asks frame ∧ others = [.send frame])
          ∧ next.after.mode = .online link refresh (.checking check)
          ∧ ∀ more,
            let between := moments config more next.after
            let now := (run config more next.after).1
            let last := Moment.of config now .turn
            between.flatMap (Moment.ended config) = [] →
            now.Suspects refresh check ∧ between.flatMap Moment.requests = []
              ∧ ∀ command, last.ended config = [command] → ¬ now.terminating → ¬ now.Closed →
                ((last.after.mode.activity?.isSome
                    ∨ (∃ request, now.Writes request) ∧ now.Refusing)
                  ↔ ∃ frame, now.IsAnswered check frame)
                ∧ ∀ frame ∈ last.requests, ∃ request, refresh.head? = some request
                  ∧ request.Asks frame))
    ∧ ∀ frame,
      let ping : Command := { request := .ping }
      (ping.accepts frame
          ↔ frame.opcode? = some .getStateCfm ∨ frame.opcode? = some .errorNtf)
        ∧ (ping.accepts frame → (ping.respond frame).isTerminal)
        ∧ ∀ command : Command, command.kind ≠ .ping → command.accepts frame →
          frame.opcode? ≠ some .errorNtf → ¬ ping.accepts frame := by
  intro state next
  have fit : state.Fit := fit_reached config epoch steps
  refine ⟨?_, ?_, ?_, ?_⟩
  · intro online running
    obtain ⟨activity, hactivity⟩ := Option.isSome_iff_exists.mp online
    obtain ⟨link, refresh, mode⟩ := exists_online_of_activity hactivity
    refine ⟨?_, fun request => request_of_writes config fit,
      fun frame => asks_of_request fit mode running,
      fun attempt command out => exists_ending out running⟩
    intro step
    cases step with
    | turn => simpa using lost_iff_givesUp fit mode running
    | event event =>
      have same : (Moment.of config state (.event event)).after.mode.activity? = _ :=
        (occur_keeps event state).1.trans hactivity
      simp [same]
  · intro outage link login frame rest mode running arrived accepted
    have turn : state.turn? config
        = some (state.goOnline config { link with inbound := rest }) := by
      simp [State.turn?, State.turnOffline?, mode, running, arrived, accepted]
    have hnext : next = _ := moment_of_turn turn
    rw [hnext]
    exact puts_goOnline.lost_iff
  · intro link refresh job retries attempt mode timesOut other check
    obtain ⟨others, effects, refused, taken⟩ : ∃ others, next.effects = _ ∧ _ ∧ _ :=
      checks_of_timesOut fit mode timesOut other
    refine ⟨others, effects, refused, ?_⟩
    intro taking
    obtain ⟨frame, asks, sent, mode'⟩ := taken taking
    refine ⟨⟨frame, asks, sent⟩, mode', ?_⟩
    intro more between now last unended
    have fit' : next.after.Fit := fit_moment config state .turn fit
    have now_fit : now.Fit := (run_keeps (fit_moment config) more fit').2
    have suspects : next.after.Suspects refresh check := ⟨link, mode'⟩
    obtain ⟨still, silent⟩ := suspects.run fit' more unended
    refine ⟨still, silent, ?_⟩
    intro command ended running alive
    refine ⟨kept_iff_answered now_fit still running alive ended, ?_⟩
    intro frame handed
    obtain ⟨left, mode''⟩ := still
    obtain ⟨request, writes, asks⟩ := asks_of_request now_fit mode'' running handed
    exact ⟨request, State.Suspects.head?_of_writes now_fit ⟨left, mode''⟩ writes, asks⟩
  · intro frame ping
    have asks : ping.request = .ping := rfl
    refine ⟨Command.accepts_ping asks, Command.isTerminal_respond_of_ping asks, ?_⟩
    intro command other accepts plain answers
    rcases (Command.accepts_ping asks).mp answers with opcode | opcode
    · exact other (Command.kind_of_accepts accepts opcode)
    · exact plain opcode

/-- A velocity that is not confirmed in time comes back, and a ping goes out. The late confirmation
does not save the connection, but a refusal of the ping does. -/
example :
    let config : Config :=
      { hostname := "gateway", password := "secret", refreshOnConnect := false }
    let velocity : Command := { request := .setVelocity 3 .silent }
    let limit : Instant := config.confirmationTimeout.nanos
    let steps : List Step :=
      loginSteps ++ refreshSteps versionAnswer
        ++ [.event (.submit 1 velocity), .turn, .event (.elapse limit)]
    let suspect : List Step := steps ++ [.turn] ++ arrival ⟨0x020b, [0]⟩
    (Moment.of config (reached config 0 steps) .turn).effects
        = [.answer 1 (velocity.fail .timeout), .send ⟨0x000c, []⟩]
      ∧ (reached config 0 suspect).mode.activity?
        = some (.checking ⟨{ request := .ping }, 2 * limit⟩)
      ∧ (reached config 0 (suspect ++ arrival ⟨0x0000, [7]⟩)).mode.activity? = some .idle
      ∧ (reached config 0 (suspect ++ [.event (.elapse (2 * limit)), .turn])).mode.activity?
        = none := by
  decide +kernel

end Processor

end ShutterGateway
