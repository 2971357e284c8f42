import ShutterGateway.CommandLine.Help
import ShutterGateway.CommandLine.Subcommand
import ShutterGateway.Rehearsal.World

/-!
The program in a rehearsal: it runs against a scripted gateway that takes one connection. What it
writes and what it notes in its log are kept apart, although both go to standard output. The notes
of the processor are left out.
-/

namespace ShutterGateway.Rehearsal

open CommandLine

/-- What a run of the program leaves behind. -/
structure Result where
  /-- The exit code, unless the program still waits when the rehearsal is broken off. -/
  exit? : Option Nat
  log : List LogEvent := []
  output : String := ""
  errors : String := ""
  /-- The world at the end, if a processor was started. -/
  world? : Option World := none

namespace Result

/-- What stands on standard output, by the line that is written for each event of the log: all that
is noted is noted before anything else is written. -/
def stdout (line : LogEvent → String) (result : Result) : String :=
  String.join (result.log.map line) ++ result.output

/-- The frames that the gateway has received. -/
def received (result : Result) : List Frame :=
  match result.world? with
  | none => []
  | some world => world.record.received.map fun entry => entry.2.2

end Result

/-- Carries a command out in the world. There is nothing to go on with as long as the command has
not come back. -/
def executeIn (command : Command) : OptionT (StateM World) Command :=
  OptionT.mk fun world =>
    let (ticket, world) := world.submit command
    world.waitFor ticket

/-- Runs a subcommand with a configuration that has no fault. It begins when the first attempt to
connect has ended, and whatever comes out of it, the processor is ended. -/
def runSubcommand (config : Config) (scripts : List Script) (subcommand : Subcommand) : Result :=
  let world := (World.start config scripts).advanceUntil
    (fun world => world.processor.published ≠ .connecting) World.patience
  let started : LogEvent := .connecting config.hostname config.port
  let published := world.processor.published
  if published = .connecting then { exit? := none, log := [started], world? := world }
  else
    let log :=
      if published = .connected then [started] else [started, .notReachable published]
    match (perform executeIn subcommand).run world with
    | (none, world) => { exit? := none, log := log, world? := world }
    | (some (.error failure), world) =>
      { exit? := some 1, log := log, errors := failure.text, world? := world.terminate }
    | (some (.ok text), world) =>
      { exit? := some 0, log := log, output := text, world? := world.terminate }

/-- Runs the program on a command line. `load` reads the configuration in a file, and the scripts
say what its attempts to connect meet. -/
def runProgram (load : String → Except ConfigError Config) (host? password? : Option String)
    (arguments : List String) (scripts : List Script) : Result :=
  match CommandLine.parse host? password? arguments with
  | .error .usage => { exit? := some 2 }
  | .error .version => { exit? := some 0, output := versionText }
  | .error (.help verb?) => { exit? := some 0, output := (pageFor host? verb?).text }
  | .ok invocation =>
    match invocation.options.config load with
    | .error failure => { exit? := some 1, errors := failure.text }
    | .ok config =>
      match config.fault? with
      | some fault =>
        { exit? := some 1
          log := [.connecting config.hostname config.port]
          errors := (Failure.faulty fault).text }
      | none => runSubcommand config scripts invocation.subcommand

end ShutterGateway.Rehearsal
