import ShutterGateway.Rehearsal.World

/-!
Plays, lists of steps by which callers and gateways act on a processor. After the start and
after each step a millisecond passes, and what has happened since the last time is put into an
entry.
-/

namespace ShutterGateway.Rehearsal

open Processor

/-- A step of a play. Callers keep the handles of their commands, and listeners, under names. -/
inductive Act where
  /-- Submits a command and waits for it. -/
  | execute (command : Command)
  | dispatch (name : String) (command : Command)
  | wait (name : String)
  | tryTake (name : String)
  /-- Throws a handle away. -/
  | forget (name : String)
  | sleep (millis : Nat)
  /-- The gateway sends bytes. -/
  | inject (bytes : Bytes)
  /-- The gateway closes the connection. -/
  | disconnect
  | listen (name : String)
  | unlisten (name : String)
  | properties
  | shutdown

/-- What a step yields. -/
inductive Value where
  | nothing
  | command (command : Command)
  | bool (value : Bool)
  | properties (properties : Properties)
  /-- The step waits for a command that was taken before. The program cannot go on. -/
  | fault

namespace Value

/-- What a caller has got: a command, or none. -/
def ofCommand? (command? : Option Command) : Value :=
  (command?.map command).getD nothing

end Value

/-- What has happened up to the end of a step. -/
structure Entry where
  /-- The time at which the step itself has ended. -/
  time : Nat
  value : Value
  record : Record
  state : ConnectionState

/-- A play under way. -/
structure Stage where
  world : World
  /-- The tickets behind the names of handles. -/
  handles : List (String × Nat) := []
  /-- The numbers behind the names of listeners. -/
  listeners : List (String × Nat) := []
  /-- The names of all listeners there ever were, by number. -/
  names : List (Nat × String) := []

namespace Stage

/-- Puts a name in front of the others, in place of an earlier one. -/
def bind (name : String) (number : Nat) (names : List (String × Nat)) : List (String × Nat) :=
  (name, number) :: names.filter (·.1 ≠ name)

/-- Takes a step. -/
def take (stage : Stage) (act : Act) : Value × Stage :=
  let world := stage.world
  match act with
  | .execute command =>
    let (ticket, world) := world.submit command
    let (result, world) := world.waitFor ticket
    (.ofCommand? result, { stage with world := world })
  | .dispatch name command =>
    let (ticket, world) := world.submit command
    (.nothing, { stage with world := world, handles := bind name ticket stage.handles })
  | .wait name =>
    match stage.handles.lookup name with
    | none => (.nothing, stage)
    | some ticket =>
      let (result, world) := world.waitFor ticket
      let value : Value :=
        match result, world.await ticket with
        | none, .fault => .fault
        | _, _ => .ofCommand? result
      (value, { stage with world := world, handles := stage.handles.filter (·.1 ≠ name) })
  | .tryTake name =>
    match stage.handles.lookup name with
    | none => (.nothing, stage)
    | some ticket =>
      match world.completions.lookup ticket with
      | none => (.nothing, stage)
      | some completion =>
        let (result, completion) := completion.tryTake
        (.ofCommand? result,
          { stage with world := world.mapCompletion ticket fun _ => completion })
  | .forget name =>
    (.bool (stage.handles.lookup name).isSome,
      { stage with handles := stage.handles.filter (·.1 ≠ name) })
  | .sleep millis => (.nothing, { stage with world := world.sleep millis })
  | .inject bytes => (.bool world.hasOpenPeer, { stage with world := world.inject bytes })
  | .disconnect => (.bool world.hasOpenPeer, { stage with world := world.disconnect })
  | .listen name =>
    let (number, registered) := world.listeners.register
    (.nothing,
      { stage with
        world := { world with listeners := registered }
        listeners := bind name number stage.listeners
        names := (number, name) :: stage.names })
  | .unlisten name =>
    match stage.listeners.lookup name with
    | none => (.bool false, stage)
    | some number =>
      let (known, left) := world.listeners.unregister number
      (.bool known, { stage with world := { world with listeners := left } })
  | .properties => (.properties world.processor.properties, stage)
  | .shutdown =>
    (.nothing, { stage with world := world.terminate })

/-- Lets a millisecond pass and puts what has happened into an entry. -/
def enter (time : Nat) (value : Value) (stage : Stage) : Entry × Stage :=
  let world := stage.world.sleep 1
  (⟨time, value, world.record, world.processor.published⟩,
    { stage with world := { world with record := {} } })

/-- Takes some steps. -/
def play (stage : Stage) : List Act → List (Entry × Stage)
  | [] => []
  | act :: rest =>
    let (value, stage) := stage.take act
    let (entry, stage) := stage.enter stage.world.now value
    (entry, stage) :: stage.play rest

end Stage

/-- Plays some steps from the start, which ends when the first attempt to connect has. A
configuration with a fault cannot be played. -/
def play (config : Config) (scripts : List Script) (acts : List Act) :
    Except ConfigFault (List (Entry × Stage)) :=
  match config.fault? with
  | some fault => .error fault
  | none =>
    let world := (World.start config scripts).advanceUntil
      (fun world => world.processor.published ≠ .connecting) World.patience
    let (entry, stage) := Stage.enter world.now .nothing { world := world }
    .ok ((entry, stage) :: stage.play acts)

end ShutterGateway.Rehearsal
