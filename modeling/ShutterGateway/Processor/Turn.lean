import ShutterGateway.Processor.Exchange

/-!
The step of a processor, and what can happen around it. `State.turn?` looks at what has happened
and reacts to the first thing that counts: the end before anything else, then what comes from the
connection, then the queue. It is `none` when there is nothing to react to. `State.occur` lets
something happen. A run is any sequence of both, so that everything that holds for all runs holds
for every order in which things can happen.
-/

namespace ShutterGateway

namespace Processor

namespace State

/-- Logs in on a connection that has just been made. -/
def logIn (config : Config) (outage : Outage) (state : State) : Reaction :=
  match Login.start config.password with
  | .error error => state.failAttempt config outage error
  | .ok (command, frame) =>
    ({ state with
        mode := .offline outage
          (.loggingIn {} ⟨command, state.now + config.confirmationTimeout.nanos⟩) },
      [.send frame])

/-- The step while there is no connection. -/
def turnOffline? (config : Config) (outage : Outage) (state : State) : Stage → Option Reaction
  | .waiting resume =>
    if resume ≤ state.now then some (state.openConnection config outage)
    else state.rejectNext? outage
  | .connecting _ (some true) => some (state.logIn config outage)
  | .connecting _ (some false) => some (state.failAttempt config outage .refused)
  | .connecting deadline none =>
    if deadline ≤ state.now then some (state.failAttempt config outage .timedOut)
    else state.rejectNext? outage
  | .loggingIn link login =>
    match link.inbound with
    | frame :: rest =>
      some <|
        match Login.receive login.command frame with
        | .pending command =>
          State.silently
            { state with
              mode := .offline outage
                (.loggingIn { link with inbound := rest } ⟨command, login.deadline⟩) }
        | .accepted => state.goOnline config { link with inbound := rest }
        | .failed error => state.failAttempt config outage error
    | [] =>
      match link.ended? with
      | some error => some (state.failAttempt config outage error)
      | none =>
        if login.deadline ≤ state.now then some (state.failAttempt config outage .timedOut)
        else state.rejectNext? outage

/-- The step while there is a connection and no job is carried out. -/
def turnIdle? (config : Config) (link : Link) (refresh : List Request) (state : State) :
    Option Reaction :=
  match link.inbound with
  | frame :: rest =>
    some <|
      State.unsolicited frame
        { state with mode := .online { link with inbound := rest } refresh .idle }
  | [] =>
    if link.ended?.isSome then some (state.loseLink config)
    else
      match state.queue with
      | [] => none
      | job :: rest =>
        some <|
          launch config link refresh job config.transientRetries (proceed config link refresh)
            { state with queue := rest }

/-- The step while there is a connection. -/
def turnOnline? (config : Config) (link : Link) (refresh : List Request) (state : State) :
    Activity → Option Reaction
  | .idle => if state.terminating then some state.stop else state.turnIdle? config link refresh
  | .running job retries attempt =>
    match attempt.progress config state link with
    | (.waiting, _) => none
    | (.ongoing attempt, link) =>
      some <|
        State.silently { state with mode := .online link refresh (.running job retries attempt) }
    | (.unclaimed frame, link) =>
      some <|
        State.unsolicited frame
          { state with mode := .online link refresh (.running job retries attempt) }
    | (.ended command outcome, link) =>
      some (state.conclude config link refresh job retries command outcome)
  | .pausing job retries resume =>
    if state.terminating then
      some ((state.finish (job.command.fail .shutdown) job.origin).andThen stop)
    else if resume ≤ state.now then
      some (state.launch config link refresh job retries (proceed config link refresh))
    else none
  | .checking attempt =>
    match attempt.progress config state link with
    | (.waiting, _) => none
    | (.ongoing attempt, link) =>
      some (State.silently { state with mode := .online link refresh (.checking attempt) })
    | (.unclaimed frame, link) =>
      some <|
        State.unsolicited frame { state with mode := .online link refresh (.checking attempt) }
    | (.ended _ outcome, link) => some (state.concludeCheck config link refresh outcome)

/-- The step of a processor. -/
def turn? (config : Config) (state : State) : Option Reaction :=
  match state.mode with
  | .stopped => none
  | .offline outage stage =>
    if state.terminating then some state.stop else state.turnOffline? config outage stage
  | .online link refresh activity => state.turnOnline? config link refresh activity

/-- When the passing of time alone lets the processor go on. -/
def alarm? (state : State) : Option Instant :=
  match state.mode with
  | .offline _ (.waiting resume) => some resume
  | .offline _ (.connecting deadline none) => some deadline
  | .offline _ (.loggingIn _ login) => some login.deadline
  | .online _ _ (.running _ _ attempt) => some attempt.deadline
  | .online _ _ (.pausing _ _ resume) => some resume
  | .online _ _ (.checking attempt) => some attempt.deadline
  | _ => none

end State

/-- What recurs in a fixed period while there is a connection. -/
inductive Periodic where
  /-- The gateway is asked for its state, so that it does not close the connection. -/
  | keepalive
  /-- All nodes are read. -/
  | refresh
  deriving DecidableEq, Repr

namespace Periodic

/-- The job that recurs. -/
def job : Periodic → Job
  | keepalive => ⟨{ request := .ping }, .internal⟩
  | refresh => ⟨{ request := .getAllNodes }, .internal⟩

end Periodic

end Processor

namespace Config

/-- What recurs while there is a connection, with its period. -/
def periods (config : Config) : List (Processor.Periodic × Duration) :=
  (.keepalive, config.keepalive)
    :: match config.refreshInterval? with
      | none => []
      | some period => [(.refresh, period)]

end Config

namespace Processor

/-- What can happen around a processor. -/
inductive Event where
  /-- A caller submits a command and gets a ticket for it. -/
  | submit (ticket : Nat) (command : Command)
  | recur (periodic : Periodic)
  /-- The connection that was asked for is made, or it is refused. -/
  | connected (success : Bool)
  | arrive (frame : Frame)
  /-- No more frames arrive on the connection. -/
  | dry (error : LinkError)
  /-- The connection takes no more frames. -/
  | choke
  /-- Time passes up to an instant. -/
  | elapse (instant : Instant)
  /-- The end is asked for. -/
  | terminate

namespace Mode

/-- Changes the connection, if there is one. -/
def mapLink (change : Link → Link) : Mode → Mode
  | .offline outage (.loggingIn link login) => .offline outage (.loggingIn (change link) login)
  | .online link refresh activity => .online (change link) refresh activity
  | mode => mode

end Mode

namespace State

/-- Takes a command from a caller. Asking for the end is not a job, and the processor alone logs
in. After the end nobody answers. -/
def submit (ticket : Nat) (command : Command) (state : State) : Reaction :=
  match command.kind with
  | .terminate => ({ state with terminating := true }, [.answer ticket command])
  | .login =>
    (state, [.answer ticket (command.fail (.invalidParameter .loginReserved))])
  | _ =>
    match state.mode with
    | .stopped => (state, [.abandon ticket])
    | _ => State.silently { state with queue := state.queue ++ [⟨command, .caller ticket⟩] }

/-- Lets something happen. -/
def occur (event : Event) (state : State) : Reaction :=
  match event with
  | .submit ticket command => state.submit ticket command
  | .recur periodic =>
    match state.mode with
    | .online _ _ _ => State.silently { state with queue := state.queue ++ [periodic.job] }
    | _ => state.silently
  | .connected success =>
    match state.mode with
    | .offline outage (.connecting deadline none) =>
      State.silently
        { state with mode := .offline outage (.connecting deadline (some success)) }
    | _ => state.silently
  | .arrive frame =>
    State.silently
      { state with
        mode := state.mode.mapLink fun link =>
          if link.ended?.isSome then link else { link with inbound := link.inbound ++ [frame] } }
  | .dry error =>
    State.silently
      { state with
        mode := state.mode.mapLink fun link =>
          if link.ended?.isSome then link else { link with ended? := some error } }
  | .choke =>
    State.silently
      { state with mode := state.mode.mapLink fun link => { link with refusing := true } }
  | .elapse instant => State.silently { state with now := max state.now instant }
  | .terminate => State.silently { state with terminating := true }

/-- A processor at the start of its first attempt to connect. -/
def start (config : Config) (epoch : UnixTime) : Reaction :=
  State.establish config { mode := .stopped, epoch := epoch }

end State

/-- One step of a run: something happens, or the processor reacts. -/
inductive Step where
  | event (event : Event)
  | turn

namespace Step

/-- Takes a step. A turn with nothing to react to changes nothing. -/
def take (config : Config) (state : State) : Step → Reaction
  | .event happening => state.occur happening
  | .turn => (state.turn? config).getD state.silently

end Step

/-- Takes some steps. -/
def run (config : Config) : List Step → State → Reaction
  | [], state => state.silently
  | step :: rest, state => (step.take config state).andThen (run config rest)

end Processor

end ShutterGateway
