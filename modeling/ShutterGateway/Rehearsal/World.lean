import ShutterGateway.Completion
import ShutterGateway.Listener
import ShutterGateway.Processor.Turn
import ShutterGateway.Rehearsal.Script

/-!
A processor, scripted gateways and a clock. The clock counts whole milliseconds and moves only when
nothing is left to do at its time. What happens at one time is done in the order in which it was
asked for: whoever waits for a time acts first when it comes, then what recurs is asked for, then
the processor reacts, and last what has arrived is read. A record is kept of what the gateways and
the listeners see, and of the steps that the processor takes.
-/

namespace ShutterGateway.Rehearsal

open Processor

/-- The gateway's end of a connection. -/
structure Peer where
  number : Nat
  rules : List Rule
  /-- The opcodes of the requests so far. -/
  received : List UInt16 := []
  /-- Whether the gateway still has the connection open. -/
  isOpen : Bool := true
  /-- Bytes under way to the processor. -/
  buffer : Bytes := []

/-- Something that is going to happen on the current connection. -/
inductive Pending where
  | connected (rules : List Rule)
  | reply (bytes : Bytes)

/-- The record of a rehearsal since it was last looked at. Times are in milliseconds. -/
structure Record where
  connects : List (Nat × String) := []
  received : List (Nat × Nat × Frame) := []
  events : List (Nat × Nat × NodeEvent) := []
  states : List (Nat × ConnectionState) := []

/-- A processor among scripted gateways. -/
structure World where
  config : Config
  processor : State
  /-- The steps that the processor has taken since its start, the last first. -/
  trace : List Step := []
  /-- The time in milliseconds. -/
  now : Nat := 0
  scripts : List Script
  /-- The number of connections that were made. -/
  made : Nat := 0
  peer? : Option Peer := none
  /-- What is going to happen, with its time, in the order in which it was arranged. -/
  pending : List (Nat × Pending) := []
  /-- What recurs on the current connection, with the instant of the next time and the period. -/
  tickers : List (Periodic × Instant × Duration) := []
  completions : List (Nat × Completion) := []
  nextTicket : Nat := 0
  listeners : Listeners := {}
  record : Record := {}
  lastState : ConnectionState := .connecting

namespace World

/-- The first millisecond that is not before an instant. -/
def millisecond (instant : Instant) : Nat :=
  (instant + Duration.nanosPerMilli - 1) / Duration.nanosPerMilli

/-- Changes the completion with a ticket. -/
def mapCompletion (ticket : Nat) (change : Completion → Completion) (world : World) : World :=
  { world with
    completions := world.completions.map fun entry =>
      if entry.1 = ticket then (entry.1, change entry.2) else entry }

/-- The steps that the processor has taken since its start. -/
def steps (world : World) : List Step := world.trace.reverse

/-- The processor gets to know whether a connection was made. -/
def tellConnected (success : Bool) (world : World) : World :=
  { world with
    processor := (world.processor.occur (.connected success)).1
    trace := .event (.connected success) :: world.trace }

/-- A connection is made. -/
def accept (rules : List Rule) (world : World) : World :=
  { world with
    made := world.made + 1
    peer? := some { number := world.made + 1, rules := rules } }.tellConnected true

/-- The processor starts to make a connection. -/
def connect (world : World) : World :=
  let world :=
    { world with
      record := { world.record with
        connects := world.record.connects ++ [(world.now, world.config.address)] } }
  match world.scripts with
  | [] => world.tellConnected false
  | .refuse :: rest => { world with scripts := rest }.tellConnected false
  | .hang :: rest => { world with scripts := rest }
  | .serve rules delay :: rest =>
    let world := { world with scripts := rest }
    if delay = 0 then world.accept rules
    else { world with pending := world.pending ++ [(world.now + delay, .connected rules)] }

/-- The gateway gets a frame and answers it by its script. -/
def receive (frame : Frame) (world : World) : World :=
  match world.peer? with
  | none => world
  | some peer =>
    if peer.isOpen then
      let received := peer.received ++ [frame.code]
      let count := received.count frame.code
      let (replies, closes) :=
        match ruleFor? peer.rules frame.code count with
        | some rule => (rule.replies, rule.closes)
        | none => (standardReplies frame, false)
      let (prompt, delayed) := replies.partition (·.delay = 0)
      { world with
        peer? := some
          { peer with
            received := received
            buffer := peer.buffer ++ prompt.flatMap Reply.bytes
            isOpen := !closes }
        pending := world.pending ++ delayed.map fun r => (world.now + r.delay, .reply r.bytes)
        record := { world.record with
          received := world.record.received ++ [(world.now, peer.number, frame)] } }
    else world

/-- Lets an effect of the processor reach the world. -/
def absorb (effect : Effect) (world : World) : World :=
  match effect with
  | .connect => world.connect
  | .send frame => world.receive frame
  | .hangUp => { world with peer? := none, pending := [], tickers := [] }
  | .attemptFailed _ => world
  | .answer ticket command => world.mapCompletion ticket (·.answer command)
  | .abandon ticket => world.mapCompletion ticket Completion.abandon
  | .notify event =>
    { world with
      record := { world.record with
        events := world.record.events
          ++ (world.listeners.deliveries event).map (Prod.mk world.now) } }
  | .publish .connected =>
    { world with
      tickers := world.config.periods.map fun (periodic, period) =>
        (periodic, world.processor.now + period.nanos, period) }
  | .publish _ => world

/-- Lets the effects of the processor reach the world. -/
def absorbAll (effects : List Effect) (world : World) : World :=
  effects.foldl (fun world effect => world.absorb effect) world

/-- The processor takes a step. -/
def take (step : Step) (world : World) : World :=
  let reaction := step.take world.config world.processor
  { world with processor := reaction.1, trace := step :: world.trace }.absorbAll reaction.2

/-- Lets something happen to the processor. -/
def occur (event : Event) (world : World) : World :=
  world.take (.event event)

/-- Whether the processor reads the connection by itself, one frame at a time, since it still logs
in. -/
def isLoggingIn (world : World) : Bool :=
  match world.processor.mode with
  | .offline _ (.loggingIn _ _) => true
  | _ => false

/-- Whether the connection can still bring something. -/
def isReading (world : World) : Bool :=
  world.processor.mode.link?.any (·.ended?.isNone)

/-- Whether another frame can arrive at the processor. -/
def hasRoom (world : World) : Bool :=
  world.processor.mode.link?.any Link.hasRoom

/-- The gateway's end of the connection is closed. -/
def close (world : World) : World :=
  { world with peer? := world.peer?.map fun peer => { peer with isOpen := false } }

/-- The connection brings no more frames and takes none, and the gateway sees it closed. -/
def endReading (error : LinkError) (world : World) : World :=
  ((world.occur (.dry error)).occur .choke).close

/-- Reads the bytes that are under way: a frame, if there is room for it, or the end of the stream.
`none` when there is nothing to read, or a frame without room. -/
def read? (world : World) : Option World :=
  match world.peer? with
  | none => none
  | some peer =>
    if world.isReading then
      match world.config.resync.next peer.buffer with
      | .error error => some (world.endReading (.stream (.frame error)))
      | .ok (some frame, left) =>
        if world.hasRoom then
          some ({ world with peer? := some { peer with buffer := left } }.occur (.arrive frame))
        else none
      | .ok (none, left) =>
        if peer.isOpen then
          if left.length = peer.buffer.length then none
          else some { world with peer? := some { peer with buffer := left } }
        else if left = [] then some (world.endReading .closed)
        else some (world.endReading (.stream .bytesRemaining))
    else none

/-- The processor and the reading take turns. This is the number of things that either does at a
stretch before it gives way. -/
def stretch : Nat := 128

/-- Reads on, frame by frame and at most so many times. -/
def readOn : Nat → World → World
  | 0, world => world
  | count + 1, world =>
    match world.read? with
    | some world => world.readOn count
    | none => world

/-- The processor reacts to one thing after another, at most so many times, until it finds nothing
to react to. -/
def work : Nat → World → World
  | 0, world => world
  | count + 1, world =>
    let reacted := world.take .turn
    if (world.processor.turn? world.config).isSome then reacted.work count else reacted

/-- Does what is left to do at the current time, in at most so many rounds. In each of them the
processor works for a stretch, and then what has arrived is read for a stretch, which the fetching
of the bytes is part of. A processor that still logs in reads one frame and looks at it. -/
def settle : Nat → World → World
  | 0, world => world
  | fuel + 1, world =>
    let world := world.work stretch
    match world.read? with
    | some read => settle fuel (if world.isLoggingIn then read else read.readOn (stretch - 2))
    | none =>
      if (world.processor.turn? world.config).isSome then settle fuel world else world

/-- More steps than one time can bring. -/
def patience : Nat := 1000000

/-- Notes the connection state at the end of a time, if it has changed. -/
def noteState (world : World) : World :=
  let published := world.processor.published
  if published = world.lastState then world
  else
    { world with
      lastState := published
      record := { world.record with
        states := world.record.states ++ [(world.now, published)] } }

/-- The time at which something is going to happen next. -/
def nextTime? (world : World) : Option Nat :=
  (world.processor.alarm?.toList.map millisecond ++ world.pending.map (·.1)
    ++ world.tickers.map fun entry => millisecond entry.2.1).min?

/-- Something that was arranged happens. -/
def happen (pending : Pending) (world : World) : World :=
  match pending with
  | .connected rules => world.accept rules
  | .reply bytes =>
    match world.peer? with
    | some peer =>
      if peer.isOpen then
        { world with peer? := some { peer with buffer := peer.buffer ++ bytes } }
      else world
    | none => world

/-- Whether the time of something that recurs has come. -/
def isDue (world : World) (entry : Periodic × Instant × Duration) : Bool :=
  millisecond entry.2.1 ≤ world.now

/-- The next instant of something that recurs, after its time has come. -/
def advanceTicker (world : World) (entry : Periodic × Instant × Duration) :
    Periodic × Instant × Duration :=
  if world.isDue entry then (entry.1, entry.2.1 + entry.2.2.nanos, entry.2.2) else entry

/-- What recurs is asked for when its time has come. Of several that are due the one with the
longest period was arranged first. -/
def recur (world : World) : World :=
  let due := (world.tickers.filter world.isDue).mergeSort fun a b => b.2.2.nanos ≤ a.2.2.nanos
  due.foldl (fun (world : World) entry => world.occur (.recur entry.1))
    { world with tickers := world.tickers.map world.advanceTicker }

/-- What was arranged for the current time happens, and what follows from it. -/
def catchUp (world : World) : World :=
  let (due, rest) := world.pending.partition (·.1 ≤ world.now)
  let world := due.foldl (fun (world : World) entry => world.happen entry.2)
    { world with pending := rest }
  world.recur.settle patience

/-- The clock moves to a time before which nothing happens any more. What was arranged for that
time has still to happen. -/
def moveTo (time : Nat) (world : World) : World :=
  let world := world.noteState
  { world with now := time }.occur (.elapse (time * Duration.nanosPerMilli))

/-- The clock moves up to a time, through everything that happens before it. -/
def advance (time : Nat) : Nat → World → World
  | 0, world => world
  | fuel + 1, world =>
    let world := world.catchUp
    match world.nextTime? with
    | some next =>
      if next < time then advance time fuel (world.moveTo (max next (world.now + 1)))
      else world.moveTo time
    | none => world.moveTo time

/-- The clock moves until something is the case, or nothing is going to happen any more. -/
def advanceUntil (holds : World → Bool) : Nat → World → World
  | 0, world => world
  | fuel + 1, world =>
    if holds world then world
    else
      let world := world.catchUp
      if holds world then world
      else
        match world.nextTime? with
        | some next => advanceUntil holds fuel (world.moveTo (max next (world.now + 1)))
        | none => world

/-- The clock moves by some milliseconds. -/
def sleep (millis : Nat) (world : World) : World :=
  if millis = 0 then world else world.advance (world.now + millis) patience

/-- A processor at the start, before anything has happened. -/
def start (config : Config) (scripts : List Script) : World :=
  let reaction := State.start config 0
  let world : World := { config := config, processor := reaction.1, scripts := scripts }
  (world.absorbAll reaction.2).settle patience

/-- Submits a command and gives out the ticket for it. -/
def submit (command : Command) (world : World) : Nat × World :=
  let ticket := world.nextTicket
  let completion : Completion := { submitted := command }
  let world : World :=
    { world with
      nextTicket := ticket + 1
      completions := world.completions ++ [(ticket, completion)] }
  (ticket, (world.occur (.submit ticket command)).catchUp)

/-- What waiting for the command of a ticket leads to at the moment. -/
def await (ticket : Nat) (world : World) : Awaited :=
  match world.completions.lookup ticket with
  | some completion => completion.wait
  | none => .fault

/-- Whether waiting for the command of a ticket is over. -/
def hasReturned (ticket : Nat) (world : World) : Bool :=
  match world.await ticket with
  | .later => false
  | _ => true

/-- Waits for the command of a ticket. -/
def waitFor (ticket : Nat) (world : World) : Option Command × World :=
  let world := world.advanceUntil (hasReturned ticket) patience
  match world.await ticket with
  | .returned command =>
    (some command,
      { world with completions := world.completions.filter (·.1 ≠ ticket) })
  | _ => (none, world)

/-- Whether the latest connection is open on both sides. -/
def hasOpenPeer (world : World) : Bool :=
  world.peer?.any (·.isOpen)

/-- The gateway sends bytes on the latest connection. -/
def inject (bytes : Bytes) (world : World) : World :=
  (world.happen (.reply bytes)).catchUp

/-- The gateway closes the latest connection. -/
def disconnect (world : World) : World :=
  world.close.catchUp

/-- The end is asked for. -/
def terminate (world : World) : World :=
  (world.occur .terminate).catchUp

end World

end ShutterGateway.Rehearsal
