import ShutterGateway.Processor.State

/-!
How a processor gets a connection and gives it up. Before each attempt but the very first it waits,
the longer the more attempts have been made. After enough failures in a row the gateway counts as
unavailable, but attempts go on.
-/

namespace ShutterGateway.Processor

/-- The number after a counter of 32 bits, which stays at its largest number. -/
def countUp (n : Nat) : Nat :=
  min (n + 1) 4294967295

namespace State

/-- Fails some jobs that will not be carried out any more. -/
def drain : List Job → State → Reaction
  | [], state => state.silently
  | job :: rest, state =>
    (state.finish (job.command.fail .shutdown) job.origin).andThen (drain rest)

/-- Ends the processor: the connection is given up and every job in the queue fails. -/
def stop (state : State) : Reaction :=
  Reaction.after .hangUp <|
    (drain state.queue { state with mode := .stopped, queue := [] }).andThen
      (publish .disconnected)

/-- Starts to make a connection. -/
def openConnection (config : Config) (outage : Outage) (state : State) : Reaction :=
  ({ state with
      mode := .offline outage (.connecting (state.now + config.connectTimeout.nanos) none) },
    [.connect])

/-- Goes on to the next attempt: at once if it is the first of all, after a wait otherwise. -/
def approach (config : Config) (outage : Outage) (state : State) : Reaction :=
  if outage.attempt = 0 then state.openConnection config outage
  else
    State.silently
      { state with
        mode := .offline outage
          (.waiting (state.now + (config.backoff.delay outage.attempt).nanos)) }

/-- Begins an outage. -/
def establish (config : Config) (state : State) : Reaction :=
  if state.connectedOnce then
    (state.publish (.reconnecting 1)).andThen (approach config ⟨0, 1⟩)
  else
    (state.publish .connecting).andThen (approach config ⟨0, 0⟩)

/-- Gives a connection up and begins an outage. -/
def loseLink (config : Config) (state : State) : Reaction :=
  Reaction.after .hangUp (state.establish config)

/-- Counts a failed attempt and goes on to the next. -/
def failAttempt (config : Config) (outage : Outage) (error : LinkError) (state : State) :
    Reaction :=
  let failures := countUp outage.failures
  let attempt := countUp outage.attempt
  let published : ConnectionState :=
    if config.backoff.unavailableAfter ≤ failures then .unavailable else .reconnecting attempt
  Reaction.after .hangUp <| Reaction.after (.attemptFailed error) <|
    (state.publish published).andThen (approach config ⟨failures, attempt⟩)

/-- Fails the first job of the queue, since no connection is to be expected soon. Only before the
first attempt has ended are jobs left to wait. -/
def rejectNext? (outage : Outage) (state : State) : Option Reaction :=
  if state.connectedOnce ∨ 0 < outage.failures then
    match state.queue with
    | [] => none
    | job :: rest =>
      some <| State.finish (job.command.fail (.connectivity .gatewayUnavailable)) job.origin
        { state with queue := rest }
  else none

end State

end ShutterGateway.Processor
