import ShutterGateway.Value.Velocity

/-!
The command line: options for the connection, a subcommand, and its arguments. An option is
given by its long name or by its letter, and its value follows it, behind an equals sign or as
the next argument. Each option is given at most once. A value that starts with a hyphen has to
stand behind an equals sign or, in the case of an argument, behind `--`.
-/

namespace ShutterGateway.CommandLine

/-- The name of a subcommand. -/
inductive Verb where
  | version
  | nodes
  | node
  | scenes
  | scene
  | stopScene
  | move
  | velocity
  | rename
  | mode
  | watch
  deriving DecidableEq, Repr

/-- What an argument of a subcommand has to be. -/
inductive Parameter where
  | byte
  | percent
  | velocity
  | text
  deriving DecidableEq, Repr

namespace Verb

/-- All subcommands, in the order in which they are listed. -/
def all : List Verb :=
  [version, nodes, node, scenes, scene, stopScene, move, velocity, rename, mode, watch]

/-- The word for a subcommand. -/
def word : Verb → String
  | version => "version"
  | nodes => "nodes"
  | node => "node"
  | scenes => "scenes"
  | scene => "scene"
  | stopScene => "stop-scene"
  | move => "move"
  | velocity => "velocity"
  | rename => "rename"
  | mode => "mode"
  | watch => "watch"

/-- The subcommand with a word. -/
def ofWord? (text : String) : Option Verb :=
  all.find? (·.word = text)

/-- The arguments of a subcommand, each with its name. -/
def parameters : Verb → List (String × Parameter)
  | version | nodes | scenes | watch => []
  | node | scene | stopScene => [("ID", .byte)]
  | move => [("NODE", .byte), ("PERCENT_OPEN", .percent)]
  | velocity => [("NODE", .byte), ("VELOCITY", .velocity)]
  | rename => [("NODE", .byte), ("NAME", .text)]
  | mode => [("NODE", .byte), ("MODE", .byte), ("PARAM", .byte)]

/-- Whether a velocity can be given as an option. -/
def takesVelocity (verb : Verb) : Bool :=
  verb = scene

end Verb

/-- What the program is asked to do. -/
inductive Subcommand where
  | version
  | nodes
  | node (id : UInt8)
  | scenes
  | scene (id : UInt8) (velocity : Velocity)
  | stopScene (id : UInt8)
  | move (node : UInt8) (percentOpen : UInt8)
  | velocity (node : UInt8) (velocity : Velocity)
  | rename (node : UInt8) (name : String)
  | mode (node : UInt8) (mode : UInt8) (parameter : UInt8)
  | watch
  deriving DecidableEq, Repr

/-- The options in front of the subcommand. -/
structure Options where
  config? : Option String := none
  host? : Option String := none
  port? : Option UInt16 := none
  password? : Option String := none
  verbose : Bool := false
  deriving DecidableEq, Repr

/-- A command line. -/
structure Invocation where
  options : Options
  subcommand : Subcommand
  deriving DecidableEq, Repr

/-- Why a command line asks for nothing to be done. -/
inductive Refusal where
  /-- It asks for the explanation of a subcommand, or of all. -/
  | help (verb? : Option Verb)
  /-- It asks for the version of the program. -/
  | version
  /-- The command line cannot be understood. -/
  | usage
  deriving DecidableEq, Repr

/-- The value of a whole number, with a sign or without, that has 64 bits. -/
def integer? (text : String) : Option Int :=
  let (negative, digits) :=
    match text.toList with
    | '-' :: digits => (true, digits)
    | '+' :: digits => (false, digits)
    | digits => (false, digits)
  if digits = [] ∨ ¬ digits.all Char.isDigit then none
  else
    let magnitude := digits.foldl (fun n c => n * 10 + (c.toNat - '0'.toNat)) 0
    let value : Int := if negative then -(magnitude : Nat) else magnitude
    if Int64.minValue.toInt ≤ value ∧ value ≤ Int64.maxValue.toInt then some value else none

/-- The value of a whole number from zero up to a limit. -/
def natUpTo (limit : Nat) (text : String) : Except Refusal Nat :=
  match integer? text with
  | some value => if 0 ≤ value ∧ value ≤ limit then .ok value.toNat else .error .usage
  | none => .error .usage

/-- The velocity with a name, in small letters. -/
def velocityNamed : String → Except Refusal Velocity
  | "default" => .ok .default
  | "silent" => .ok .silent
  | "fast" => .ok .fast
  | _ => .error .usage

/-- The names of the options with a value. -/
inductive OptionName where
  | config
  | host
  | port
  | password
  deriving DecidableEq, Repr

namespace Options

/-- Gives an option its value, unless it has one already. -/
def set (options : Options) (value : String) : OptionName → Except Refusal Options
  | .config =>
    if options.config?.isSome ∨ value = "" then .error .usage
    else .ok { options with config? := some value }
  | .host =>
    if options.host?.isSome then .error .usage else .ok { options with host? := some value }
  | .port =>
    if options.port?.isSome then .error .usage
    else (natUpTo 65535 value).map fun port => { options with port? := some (UInt16.ofNat port) }
  | .password =>
    if options.password?.isSome then .error .usage
    else .ok { options with password? := some value }

/-- Asks for more output, which is done at most once. -/
def setVerbose (options : Options) : Except Refusal Options :=
  if options.verbose then .error .usage else .ok { options with verbose := true }

end Options

/-- Whether an argument is an option, and so cannot be the value of one. -/
def isOption (argument : String) : Bool :=
  match argument.toList with
  | '-' :: _ :: _ => true
  | _ => false

/-- The name and the value of a long option, behind its two hyphens. -/
def splitLong (chars : List Char) : String × Option String :=
  let name := chars.takeWhile (· ≠ '=')
  match chars.dropWhile (· ≠ '=') with
  | [] => (String.ofList name, none)
  | _ :: value => (String.ofList name, some (String.ofList value))

/-- The option with a long name. -/
def longOption? : String → Option OptionName
  | "config" => some .config
  | "host" => some .host
  | "port" => some .port
  | "password" => some .password
  | _ => none

/-- What options ask for next. -/
inductive Reading where
  | done (options : Options)
  /-- The next argument is the value of an option. -/
  | value (options : Options) (name : OptionName)

/-- Reads a long option behind its two hyphens. -/
def readLong (options : Options) (chars : List Char) : Except Refusal Reading :=
  match splitLong chars with
  | ("help", none) => .error (.help none)
  | ("version", none) => .error .version
  | ("verbose", none) => options.setVerbose.map .done
  | (name, value?) =>
    match longOption? name, value? with
    | some name, some value => (options.set value name).map .done
    | some name, none => .ok (.value options name)
    | none, _ => .error .usage

/-- Reads letters behind one hyphen. The letter of an option with a value takes the rest. -/
def readLetters (options : Options) : List Char → Except Refusal Reading
  | [] => .ok (.done options)
  | 'h' :: _ => .error (.help none)
  | 'V' :: _ => .error .version
  | 'v' :: rest =>
    match options.setVerbose with
    | .ok options => readLetters options rest
    | .error refusal => .error refusal
  | ['c'] => .ok (.value options .config)
  | 'c' :: '=' :: value => (options.set (String.ofList value) .config).map .done
  | 'c' :: value => (options.set (String.ofList value) .config).map .done
  | _ => .error .usage

/-- An argument of a subcommand. -/
inductive Argument where
  | number (value : UInt8)
  | velocity (value : Velocity)
  | text (value : String)
  deriving DecidableEq, Repr

/-- Reads an argument. -/
def Parameter.read (text : String) : Parameter → Except Refusal Argument
  | .byte => (natUpTo 255 text).map fun n => .number (UInt8.ofNat n)
  | .percent => (natUpTo 100 text).map fun n => .number (UInt8.ofNat n)
  | .velocity => (velocityNamed text).map .velocity
  | .text => .ok (.text text)

/-- The arguments of a subcommand as far as they have been read. -/
structure Arguments where
  verb : Verb
  /-- The parameters that have no argument yet. -/
  missing : List Parameter
  given : List Argument := []
  velocity? : Option Velocity := none

namespace Arguments

/-- Sets the velocity, which is done at most once. -/
def setVelocity (arguments : Arguments) (text : String) : Except Refusal Arguments :=
  if arguments.velocity?.isSome then .error .usage
  else (velocityNamed text).map fun velocity => { arguments with velocity? := some velocity }

/-- Reads an argument for the next parameter. -/
def push (arguments : Arguments) (text : String) : Except Refusal Arguments :=
  match arguments.missing with
  | [] => .error .usage
  | parameter :: rest =>
    (parameter.read text).map fun argument =>
      { arguments with missing := rest, given := arguments.given ++ [argument] }

/-- Reads the arguments of a subcommand. -/
def read (arguments : Arguments) : List String → Except Refusal Arguments
  | [] => .ok arguments
  | "--" :: rest => rest.foldlM push arguments
  | "--velocity" :: rest =>
    match arguments.verb.takesVelocity, rest with
    | true, value :: rest =>
      if isOption value then .error .usage
      else
        match arguments.setVelocity value with
        | .ok arguments => read arguments rest
        | .error refusal => .error refusal
    | _, _ => .error .usage
  | argument :: rest =>
    match argument.toList with
    | '-' :: '-' :: chars =>
      match splitLong chars with
      | ("help", none) => .error (.help arguments.verb)
      | ("velocity", some value) =>
        if arguments.verb.takesVelocity then
          match arguments.setVelocity value with
          | .ok arguments => read arguments rest
          | .error refusal => .error refusal
        else .error .usage
      | _ => .error .usage
    | '-' :: 'h' :: _ => .error (.help arguments.verb)
    | '-' :: _ :: _ => .error .usage
    | _ =>
      match arguments.push argument with
      | .ok arguments => read arguments rest
      | .error refusal => .error refusal

/-- The subcommand with its arguments. -/
def subcommand (arguments : Arguments) : Except Refusal Subcommand :=
  match arguments.verb, arguments.given with
  | .version, [] => .ok .version
  | .nodes, [] => .ok .nodes
  | .node, [.number id] => .ok (.node id)
  | .scenes, [] => .ok .scenes
  | .scene, [.number id] => .ok (.scene id (arguments.velocity?.getD .default))
  | .stopScene, [.number id] => .ok (.stopScene id)
  | .move, [.number node, .number percent] => .ok (.move node percent)
  | .velocity, [.number node, .velocity velocity] => .ok (.velocity node velocity)
  | .rename, [.number node, .text name] => .ok (.rename node name)
  | .mode, [.number node, .number mode, .number parameter] => .ok (.mode node mode parameter)
  | .watch, [] => .ok .watch
  | _, _ => .error .usage

end Arguments

/-- Reads a subcommand and its arguments. -/
def readSubcommand (word : String) (rest : List String) : Except Refusal Subcommand :=
  match Verb.ofWord? word with
  | some verb => do
    let arguments : Arguments := { verb := verb, missing := verb.parameters.map (·.2) }
    (← arguments.read rest).subcommand
  | none =>
    if word = "help" then
      match rest with
      | [] => .error (.help none)
      | [word] =>
        match Verb.ofWord? word with
        | some verb => .error (.help verb)
        | none => .error .usage
      | _ => .error .usage
    else .error .usage

/-- Reads a command line on top of the options that have been read. -/
def parseWith (options : Options) : List String → Except Refusal Invocation
  | [] => .error .usage
  | argument :: rest =>
    let reading? : Option (Except Refusal Reading) :=
      match argument.toList with
      | '-' :: '-' :: [] => some (.error .usage)
      | '-' :: '-' :: chars => some (readLong options chars)
      | '-' :: c :: chars => some (readLetters options (c :: chars))
      | _ => none
    match reading? with
    | none => (readSubcommand argument rest).map fun subcommand => ⟨options, subcommand⟩
    | some (.error refusal) => .error refusal
    | some (.ok (.done options)) => parseWith options rest
    | some (.ok (.value options name)) =>
      match rest with
      | [] => .error .usage
      | value :: rest =>
        if isOption value then .error .usage
        else
          match options.set value name with
          | .ok options => parseWith options rest
          | .error refusal => .error refusal

/-- Reads a command line. The environment gives a host and a password where the command line does
not. -/
def parse (host? password? : Option String) (arguments : List String) :
    Except Refusal Invocation :=
  (parseWith {} arguments).map fun invocation =>
    let options := invocation.options
    { invocation with
      options := { options with
        host? := options.host?.or host?
        password? := options.password?.or password? } }

end ShutterGateway.CommandLine
