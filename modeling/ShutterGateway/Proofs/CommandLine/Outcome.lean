import ShutterGateway.Proofs.Rehearsal.World

/-!
How a run of the program ends. A subcommand stands for some commands, which are carried out in their
order up to the first that cannot be made or does not come back as complete. This first failure is
all that the program tells then, and it succeeds exactly if there is none. The commands and no
others are submitted to the processor, each after the one before has come back, and each comes back
as the processor has answered it. At the end of the program the processor has stopped.
-/

namespace ShutterGateway

open Processor

namespace CommandLine

/-- The commands that a subcommand stands for, in their order. To watch takes none. -/
def Subcommand.commands : Subcommand → List (Except CommandError Command)
  | .version => [.ok { request := .getVersion }, .ok { request := .getProtocol }]
  | .nodes => [.ok { request := .getAllNodes }]
  | .node id => [.ok { request := .getNode id }]
  | .scenes => [.ok { request := .getAllScenes }]
  | .scene id speed => [.ok { request := .executeScene id speed }]
  | .stopScene id => [.ok { request := .stopScene id }]
  | .move id percent => [Command.sendPosition? [⟨id, 0, .ofPercentOpen percent⟩]]
  | .velocity id speed => [.ok { request := .setVelocity id speed }]
  | .rename id name => [Command.setNodeName? id name]
  | .mode id number parameter => [Command.sendMode? [⟨id, number, parameter⟩]]
  | .watch => []

/-- How the commands of a subcommand have ended. -/
inductive Ending where
  | succeeded
  | failed (failure : Failure)
  /-- The command is waited for. -/
  | waiting (command : Command)

/-- The commands of a subcommand are carried out one after another, up to the first failure or the
first that does not come back. The log has those that have come back. -/
inductive Carries : List (Except CommandError Command) → List Execution → Ending → Prop where
  | all : Carries [] [] .succeeded
  | unmakeable {error : CommandError} {rest : List (Except CommandError Command)} :
    Carries (.error error :: rest) [] (.failed (.unmakeable error))
  | waiting {command : Command} {rest : List (Except CommandError Command)} :
    Carries (.ok command :: rest) [] (.waiting command)
  | failed {command done : Command} {error : CommandError}
    {rest : List (Except CommandError Command)} (status : done.status = .failed error) :
    Carries (.ok command :: rest) [⟨command, done⟩] (.failed (.failed command.kind error))
  | complete {command done : Command} {rest : List (Except CommandError Command)}
    {log : List Execution} {ending : Ending} (status : done.status = .complete)
    (others : Carries rest log ending) :
    Carries (.ok command :: rest) (⟨command, done⟩ :: log) ending

/-- What is told at the end: a value, the failure, or nothing as yet. -/
def Tells {α : Type} (outcome? : Option (Except Failure α)) : Ending → Prop
  | .succeeded => ∃ value, outcome? = some (.ok value)
  | .failed failure => outcome? = some (.error failure)
  | .waiting _ => outcome? = none

/-- Where some commands have led to: those that have come back are sound, or one of them sticks. -/
def Leads {σ : Type} (Sound : List Execution → σ → Prop)
    (Sticks : List Execution → Command → σ → Prop) (log : List Execution) (world : σ) :
    Ending → Prop
  | .waiting command => Sticks log command world
  | _ => Sound log world

/-- Some commands have been carried out as far as nothing fails, and what became of them is told. -/
def Faithful {σ α : Type} (Sound : List Execution → σ → Prop)
    (Sticks : List Execution → Command → σ → Prop) (commands : List (Except CommandError Command))
    (before : List Execution) (result : Option (Except Failure α) × σ) : Prop :=
  ∃ log ending, Carries commands log ending ∧ Tells result.1 ending
    ∧ Leads Sound Sticks (before ++ log) result.2 ending

section

variable {σ α : Type} {execute : Command → OptionT (StateM σ) Command}
  {Sound : List Execution → σ → Prop} {Sticks : List Execution → Command → σ → Prop}
  {log : List Execution} {world later : σ}

/-! ### Actions that may have nothing to go on with -/

section

variable {β : Type} {action : OptionT (StateM σ) β} {next : β → OptionT (StateM σ) α} {value : β}

end

/-! ### Commands one after another -/

/-- The commands of a subcommand are no logins, and do not ask for the end. -/
theorem Subcommand.sendable {subcommand : Subcommand} {command : Command}
    (member : .ok command ∈ subcommand.commands) : Sendable command.kind := by
  cases subcommand with
  | version =>
    rcases List.mem_cons.mp member with same | member
    · cases same
      exact ⟨nofun, nofun⟩
    · cases List.mem_singleton.mp member
      exact ⟨nofun, nofun⟩
  | watch => cases member
  | move id percent =>
    have made := List.mem_singleton.mp member
    unfold Command.sendPosition? at made
    split at made <;> cases made
    exact ⟨nofun, nofun⟩
  | rename id name =>
    have made := List.mem_singleton.mp member
    unfold Command.setNodeName? at made
    split at made <;> cases made
    exact ⟨nofun, nofun⟩
  | mode id number parameter =>
    have made := List.mem_singleton.mp member
    unfold Command.sendMode? at made
    split at made <;> cases made
    exact ⟨nofun, nofun⟩
  | _ =>
    cases List.mem_singleton.mp member
    exact ⟨nofun, nofun⟩

end

/-! ## Any gateway -/

end CommandLine

namespace Rehearsal

open CommandLine World

/-! ## Rehearsals -/

/-- The log of a run in which a processor was started and its first attempt to connect has ended. -/
def Notes (config : Config) (log : List LogEvent) : Prop :=
  log = [.connecting config.hostname config.port]
    ∨ ∃ state, state ≠ .connected
      ∧ log = [.connecting config.hostname config.port, .notReachable state]

/-- A world at the end of a run. The commands have come back in the steps that its processor has
taken. It has stopped, unless a command is waited for: the run is broken off only after as many
steps as there is patience for. -/
def Rests (config : Config) (log : List Execution) (world : World) : Ending → Prop
  | .waiting command => Awaits config 0 log command world.steps
    ∧ world.processor = reached config 0 world.steps ∧ world.Exhausted
  | _ => (∃ steps more, world.steps = steps ++ .event .terminate :: more
      ∧ Converses config 0 steps log ∧ ∀ step ∈ more, step.IsQuiet)
    ∧ world.processor = reached config 0 world.steps
    ∧ world.processor.mode = .stopped ∧ world.processor.published = .disconnected

/-- What a run tells. Unless it has succeeded there is nothing on standard output but its log. -/
def Result.Tells (result : Result) : Ending → Prop
  | .succeeded => result.exit? = some 0 ∧ result.errors = ""
  | .failed failure => result.exit? = some 1 ∧ result.errors = failure.text
    ∧ ∀ line, result.stdout line = String.join (result.log.map line)
  | .waiting _ => result.exit? = none ∧ result.errors = ""
    ∧ ∀ line, result.stdout line = String.join (result.log.map line)

/-- A run of a subcommand that tells what became of the commands of a log. -/
structure Concluded (config : Config) (log : List Execution) (ending : Ending) (result : Result) :
    Prop where
  noted : Notes config result.log
  ran : ∃ world, result.world? = some world ∧ Rests config log world ending
  told : result.Tells ending

/-- When a run is over its processor has stopped. -/
theorem Concluded.stopped {config : Config} {log : List Execution} {ending : Ending}
    {result : Result} (h : Concluded config log ending result) (ended : result.exit?.isSome) :
    ∃ world, result.world? = some world ∧ world.processor.mode = .stopped
      ∧ world.processor.published = .disconnected := by
  obtain ⟨-, ⟨world, hworld, rests⟩, told⟩ := h
  refine ⟨world, hworld, ?_⟩
  cases ending with
  | waiting command =>
    rw [told.1] at ended
    cases ended
  | succeeded | failed failure => exact rests.2.2

/-! ## Command lines -/

section

variable {load : String → Except ConfigError Config} {host? password? : Option String}
  {arguments : List String}

end

/-! ## The outcome -/

end Rehearsal

end ShutterGateway
