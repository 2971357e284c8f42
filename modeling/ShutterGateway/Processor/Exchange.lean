import ShutterGateway.Processor.Outage

/-!
How a processor carries out jobs on a connection. For each attempt at a job its request is
written and frames are taken until the command is over, its time is up, the connection is lost
or the end is asked for. A refusal that clears up on its own leads to another attempt after a
pause, as long as attempts are left. A command that gets no answer makes the connection suspect:
the gateway is asked for its state, and the connection is lost if that gets no answer either.
-/

namespace ShutterGateway

namespace Config

/-- The time for the answers to a command. -/
def limit (config : Config) : WaitClass → Duration
  | .confirmation => config.confirmationTimeout
  | .sequence => config.sessionTimeout

end Config

namespace Processor

/-- How an attempt at a command has ended. -/
inductive Outcome where
  /-- The command is over. -/
  | done
  | timedOut
  | linkLost
  | terminated
  deriving DecidableEq, Repr

/-- What an attempt has come to. -/
inductive Progress where
  /-- Nothing has happened. -/
  | waiting
  /-- A frame was taken that belongs to the command, which is not over. -/
  | ongoing (attempt : Attempt)
  /-- A frame was taken that does not belong to the command. -/
  | unclaimed (frame : Frame)
  | ended (command : Command) (outcome : Outcome)
  deriving DecidableEq

namespace Attempt

/-- The attempt after an answer that did not end the command. A session that announces how long
it still takes is given that time. -/
def extend (config : Config) (now : Instant) (frame : Frame) (command : Command)
    (attempt : Attempt) : Attempt :=
  match frame.remaining? with
  | none => ⟨command, attempt.deadline⟩
  | some seconds =>
    ⟨command, max attempt.deadline
      (now + (Duration.ofSeconds seconds.toNat).nanos + config.confirmationTimeout.nanos)⟩

/-- The attempt after a frame was taken from the connection. -/
def take (config : Config) (now : Instant) (frame : Frame) (attempt : Attempt) : Progress :=
  if attempt.command.accepts frame then
    let command := attempt.command.respond frame
    if command.isTerminal then .ended command .done
    else .ongoing (attempt.extend config now frame command)
  else .unclaimed frame

/-- What an attempt comes to when the processor looks at it. The end comes first, then the frames
that have arrived, then the loss of the connection, then the time. -/
def progress (config : Config) (state : State) (link : Link) (attempt : Attempt) :
    Progress × Link :=
  if state.terminating then (.ended (attempt.command.fail .shutdown) .terminated, link)
  else
    match link.inbound with
    | frame :: rest => (attempt.take config state.now frame, { link with inbound := rest })
    | [] =>
      if link.ended?.isSome then
        (.ended (attempt.command.fail (.connectivity .connectionLost)) .linkLost, link)
      else if attempt.deadline ≤ state.now then
        (.ended (attempt.command.fail .timeout) .timedOut, link)
      else (.waiting, link)

end Attempt

/-- How an attempt at a command has begun. -/
inductive Begun where
  | sent (attempt : Attempt)
  /-- The connection takes no more frames. -/
  | refused (command : Command)
  /-- There is no frame for the command. -/
  | unsendable (command : Command)
  deriving DecidableEq

namespace State

/-- Gives a command a session number if it needs one. -/
def assignSession (command : Command) (state : State) : Command × State :=
  if command.descriptor.usesSession then
    (command.assignSession state.sessions.allocate.1,
      { state with sessions := state.sessions.allocate.2 })
  else (command, state)

/-- Begins an attempt at a command: its request goes out and the time starts to run. -/
def begin (config : Config) (link : Link) (command : Command) (state : State) :
    Begun × Reaction :=
  let (command, state) := state.assignSession command
  match command.frame? with
  | .error error => (.unsendable (command.fail error), state.silently)
  | .ok frame =>
    if link.refusing then
      (.refused (command.fail (.connectivity .connectionLost)), state.silently)
    else
      (.sent ⟨command, state.now + (config.limit command.descriptor.wait).nanos⟩,
        (state, [.send frame]))

/-- Begins an attempt at a job. `next` is what follows a job that is over at once. -/
def launch (config : Config) (link : Link) (refresh : List Request) (job : Job) (retries : Nat)
    (next : State → Reaction) (state : State) : Reaction :=
  match state.begin config link job.command with
  | (.sent attempt, reaction) =>
    reaction.andThen fun state =>
      State.silently { state with mode := .online link refresh (.running job retries attempt) }
  | (.refused command, reaction) =>
    (reaction.andThen (finish command job.origin)).andThen (loseLink config)
  | (.unsendable command, reaction) => (reaction.andThen (finish command job.origin)).andThen next

/-- Goes on after a job: with the next request of the refresh, if there is one. -/
def proceed (config : Config) (link : Link) : List Request → State → Reaction
  | [], state => State.silently { state with mode := .online link [] .idle }
  | request :: rest, state =>
    launch config link rest ⟨{ request := request }, .internal⟩ config.transientRetries
      (proceed config link rest) state

/-- Asks the gateway for its state, to see whether it still answers. -/
def check (config : Config) (link : Link) (refresh : List Request) (state : State) : Reaction :=
  match state.begin config link { request := .ping } with
  | (.sent attempt, reaction) =>
    reaction.andThen fun state =>
      State.silently { state with mode := .online link refresh (.checking attempt) }
  | (.refused _, reaction) => reaction.andThen (loseLink config)
  | (.unsendable _, reaction) => reaction.andThen (proceed config link refresh)

/-- Draws the consequence of the end of an attempt at a job. -/
def conclude (config : Config) (link : Link) (refresh : List Request) (job : Job) (retries : Nat)
    (command : Command) (outcome : Outcome) (state : State) : Reaction :=
  match outcome with
  | .done =>
    if (command.error?.any (·.isTransient)) ∧ 0 < retries then
      State.silently
        { state with
          mode := .online link refresh
            (.pausing job (retries - 1) (state.now + config.confirmationTimeout.quarter.nanos)) }
    else (state.finish command job.origin).andThen (proceed config link refresh)
  | .terminated => (state.finish command job.origin).andThen stop
  | .linkLost => (state.finish command job.origin).andThen (loseLink config)
  | .timedOut =>
    (state.finish command job.origin).andThen fun state =>
      if command.kind = .ping then state.loseLink config else state.check config link refresh

/-- Draws the consequence of the end of a check. -/
def concludeCheck (config : Config) (link : Link) (refresh : List Request) (outcome : Outcome)
    (state : State) : Reaction :=
  match outcome with
  | .done => proceed config link refresh state
  | .terminated => state.stop
  | .linkLost | .timedOut => state.loseLink config

/-- The requests that follow every login: they read the versions, set the clock and turn on the
notifications of positions, and read all nodes if the configuration asks for it. -/
def refreshRequests (config : Config) (state : State) : List Request :=
  [.getVersion, .getProtocol, .setTime (state.epoch + state.now / Duration.nanosPerSecond),
    .enableMonitor] ++ if config.refreshOnConnect then [.getAllNodes] else []

/-- Takes a connection into use. -/
def goOnline (config : Config) (link : Link) (state : State) : Reaction :=
  (State.publish .connected { state with connectedOnce := true }).andThen fun state =>
    proceed config link (state.refreshRequests config) state

end State

end Processor

end ShutterGateway
